/-
Module: ProxyVPN.Lib.Json
Purpose: Values of JSON with the members of objects in their order, and the
  tokens they are written with, from which they can be read in one way only.
Trusted boundary: none
Main exports: Json, Json.Token, Json.tokens, Json.tokens_append_inj, Json.map,
  Json.tokens_map, Json.get, Json.object_of_begins
-/
import ProxyVPN.Lib.Kotlin

namespace ProxyVPN

open Kotlin

/-- Values with leaves of one type: texts, or what stands for a text.  A number
is kept as it is written. -/
inductive Json (Leaf : Type) where
  | null
  | bool (value : Bool)
  | number (literal : Leaf)
  | string (value : Leaf)
  | array (items : List (Json Leaf))
  | object (members : List (Leaf × Json Leaf))

namespace Json

variable {Leaf : Type}

inductive Token (Leaf : Type) where
  | beginObject
  | endObject
  | beginArray
  | endArray
  | nameSeparator
  | valueSeparator
  | null
  | bool (value : Bool)
  | number (literal : Leaf)
  | string (value : Leaf)
deriving DecidableEq

mutual

def tokens : Json Leaf → List (Token Leaf)
  | .null => [.null]
  | .bool value => [.bool value]
  | .number literal => [.number literal]
  | .string value => [.string value]
  | .array items => .beginArray :: itemsTokens [] items
  | .object members => .beginObject :: membersTokens [] members

/-- The items that are left, each behind the separator, and the end of the
array.  Nothing separates the first item. -/
def itemsTokens (separator : List (Token Leaf)) : List (Json Leaf) → List (Token Leaf)
  | [] => [.endArray]
  | item :: items =>
      separator ++ (item.tokens ++ itemsTokens [.valueSeparator] items)

def membersTokens (separator : List (Token Leaf)) :
    List (Leaf × Json Leaf) → List (Token Leaf)
  | [] => [.endObject]
  | (name, value) :: members =>
      separator ++ .string name :: .nameSeparator :: (value.tokens ++
        membersTokens [.valueSeparator] members)

end

/-! ## Unique reading -/

/-- No value begins with what ends an array. -/
theorem endArray_ne_tokens (value : Json Leaf) (after others : List (Token Leaf)) :
    (Token.endArray :: after : List (Token Leaf)) ≠ value.tokens ++ others := by
  cases value <;> simp [tokens]

mutual

/-- Of two values that begin the same tokens none goes beyond the other. -/
theorem tokens_append_inj :
    ∀ {left right : Json Leaf} {after others : List (Token Leaf)},
      left.tokens ++ after = right.tokens ++ others →
        left = right ∧ after = others
  | .null, right, _, _, same => by
      cases right <;> simp [tokens] at same
      exact ⟨rfl, same⟩
  | .bool _, right, _, _, same => by
      cases right <;> simp [tokens] at same
      exact ⟨congrArg _ same.1, same.2⟩
  | .number _, right, _, _, same => by
      cases right <;> simp [tokens] at same
      exact ⟨congrArg _ same.1, same.2⟩
  | .string _, right, _, _, same => by
      cases right <;> simp [tokens] at same
      exact ⟨congrArg _ same.1, same.2⟩
  | .array items, right, _, _, same => by
      cases right <;> simp [tokens] at same
      have parts := itemsTokens_append_inj (.inl rfl) same
      exact ⟨congrArg _ parts.1, parts.2⟩
  | .object members, right, _, _, same => by
      cases right <;> simp [tokens] at same
      have parts := membersTokens_append_inj (.inl rfl) same
      exact ⟨congrArg _ parts.1, parts.2⟩

theorem itemsTokens_append_inj :
    ∀ {separator : List (Token Leaf)} {left right : List (Json Leaf)}
      {after others : List (Token Leaf)},
      separator = [] ∨ separator = [.valueSeparator] →
      itemsTokens separator left ++ after =
          itemsTokens separator right ++ others →
        left = right ∧ after = others
  | _, [], [], _, _, _, same => by
      simp [itemsTokens] at same
      exact ⟨rfl, same⟩
  | _, [], item :: items, _, _, separates, same => by
      rcases separates with rfl | rfl
      · simp only [itemsTokens, List.nil_append, List.cons_append,
          List.append_assoc] at same
        exact absurd same (endArray_ne_tokens _ _ _)
      · simp [itemsTokens] at same
  | _, item :: items, [], _, _, separates, same => by
      rcases separates with rfl | rfl
      · simp only [itemsTokens, List.nil_append, List.cons_append,
          List.append_assoc] at same
        exact absurd same.symm (endArray_ne_tokens _ _ _)
      · simp [itemsTokens] at same
  | _, item :: items, other :: others, _, _, _, same => by
      simp only [itemsTokens, List.append_assoc,
        List.append_cancel_left_eq] at same
      have first := tokens_append_inj same
      have rest := itemsTokens_append_inj (.inr rfl) first.2
      exact ⟨by rw [first.1, rest.1], rest.2⟩

theorem membersTokens_append_inj :
    ∀ {separator : List (Token Leaf)} {left right : List (Leaf × Json Leaf)}
      {after others : List (Token Leaf)},
      separator = [] ∨ separator = [.valueSeparator] →
      membersTokens separator left ++ after =
          membersTokens separator right ++ others →
        left = right ∧ after = others
  | _, [], [], _, _, _, same => by
      simp [membersTokens] at same
      exact ⟨rfl, same⟩
  | _, [], (name, value) :: members, _, _, separates, same => by
      rcases separates with rfl | rfl <;> simp [membersTokens] at same
  | _, (name, value) :: members, [], _, _, separates, same => by
      rcases separates with rfl | rfl <;> simp [membersTokens] at same
  | _, (name, value) :: members, (_, _) :: _, _, _, _, same => by
      simp only [membersTokens, List.append_assoc, List.cons_append,
        List.append_cancel_left_eq, List.cons.injEq, Token.string.injEq,
        true_and] at same
      have first := tokens_append_inj same.2
      have rest := membersTokens_append_inj (.inr rfl) first.2
      exact ⟨by rw [same.1, first.1, rest.1], rest.2⟩

end

/-- What is written with the same tokens is the same. -/
theorem tokens_inj {left right : Json Leaf} (same : left.tokens = right.tokens) :
    left = right := by
  have appended : left.tokens ++ [] = right.tokens ++ [] := by rw [same]
  exact (tokens_append_inj appended).1

/-! ## Leaves -/

variable {Other : Type}

def Token.map (f : Leaf → Other) : Token Leaf → Token Other
  | .beginObject => .beginObject
  | .endObject => .endObject
  | .beginArray => .beginArray
  | .endArray => .endArray
  | .nameSeparator => .nameSeparator
  | .valueSeparator => .valueSeparator
  | .null => .null
  | .bool value => .bool value
  | .number literal => .number (f literal)
  | .string value => .string (f value)

mutual

/-- The same value with other leaves. -/
def map (f : Leaf → Other) : Json Leaf → Json Other
  | .null => .null
  | .bool value => .bool value
  | .number literal => .number (f literal)
  | .string value => .string (f value)
  | .array items => .array (mapItems f items)
  | .object members => .object (mapMembers f members)

def mapItems (f : Leaf → Other) : List (Json Leaf) → List (Json Other)
  | [] => []
  | item :: items => item.map f :: mapItems f items

def mapMembers (f : Leaf → Other) :
    List (Leaf × Json Leaf) → List (Other × Json Other)
  | [] => []
  | (name, value) :: members => (f name, value.map f) :: mapMembers f members

end

mutual

theorem tokens_map (f : Leaf → Other) : ∀ value : Json Leaf,
    (value.map f).tokens = value.tokens.map (Token.map f)
  | .null => by simp [map, tokens, Token.map]
  | .bool _ => by simp [map, tokens, Token.map]
  | .number _ => by simp [map, tokens, Token.map]
  | .string _ => by simp [map, tokens, Token.map]
  | .array items => by
      have inside := itemsTokens_map f [] items
      rw [List.map_nil] at inside
      simp [map, tokens, Token.map, inside]
  | .object members => by
      have inside := membersTokens_map f [] members
      rw [List.map_nil] at inside
      simp [map, tokens, Token.map, inside]

theorem itemsTokens_map (f : Leaf → Other) :
    ∀ (separator : List (Token Leaf)) (items : List (Json Leaf)),
      itemsTokens (separator.map (Token.map f)) (mapItems f items) =
        (itemsTokens separator items).map (Token.map f)
  | _, [] => by simp [mapItems, itemsTokens, Token.map]
  | _, item :: items => by
      have rest := itemsTokens_map f [.valueSeparator] items
      simp only [List.map_cons, List.map_nil, Token.map] at rest
      simp [mapItems, itemsTokens, tokens_map f item, rest]

theorem membersTokens_map (f : Leaf → Other) :
    ∀ (separator : List (Token Leaf)) (members : List (Leaf × Json Leaf)),
      membersTokens (separator.map (Token.map f)) (mapMembers f members) =
        (membersTokens separator members).map (Token.map f)
  | _, [] => by simp [mapMembers, membersTokens, Token.map]
  | _, (name, value) :: members => by
      have rest := membersTokens_map f [.valueSeparator] members
      simp only [List.map_cons, List.map_nil, Token.map] at rest
      simp [mapMembers, membersTokens, Token.map, tokens_map f value, rest]

end

/-! ## Members -/

/-- The value of the only member with the name. -/
def get [DecidableEq Leaf] (name : Leaf) : Json Leaf → Option (Json Leaf)
  | .object members =>
      match members.filter fun member => member.1 = name with
      | [member] => some member.2
      | _ => none
  | _ => none

/-- Members that are not the last ones, each behind the separator. -/
def openMembers (separator : List (Token Leaf)) :
    List (Leaf × Json Leaf) → List (Token Leaf)
  | [] => separator
  | (name, value) :: members =>
      separator ++ .string name :: .nameSeparator :: (value.tokens ++
        openMembers [.valueSeparator] members)

theorem membersTokens_append (separator : List (Token Leaf)) (name : Leaf)
    (value : Json Leaf) (known more : List (Leaf × Json Leaf)) :
    membersTokens separator (known ++ (name, value) :: more) =
      openMembers separator known ++ .string name :: .nameSeparator ::
        (value.tokens ++ membersTokens [.valueSeparator] more) := by
  induction known generalizing separator with
  | nil => rfl
  | cons member known inductionHypothesis =>
      simp [membersTokens, openMembers, inductionHypothesis]

theorem openMembers_map (f : Leaf → Other) :
    ∀ (separator : List (Token Leaf)) (members : List (Leaf × Json Leaf)),
      openMembers (separator.map (Token.map f)) (mapMembers f members) =
        (openMembers separator members).map (Token.map f)
  | _, [] => rfl
  | _, (name, value) :: members => by
      have rest := openMembers_map f [.valueSeparator] members
      simp only [List.map_cons, List.map_nil, Token.map] at rest
      simp [mapMembers, openMembers, Token.map, tokens_map f value, rest]

theorem members_of_begins {known members : List (Leaf × Json Leaf)} {name : Leaf}
    {rest : List (Token Leaf)} {separator : List (Token Leaf)}
    (begins : membersTokens separator members =
      openMembers separator known ++
        .string name :: .nameSeparator :: rest) :
    ∃ value more, members = known ++ (name, value) :: more ∧
      value.tokens ++ membersTokens [.valueSeparator] more = rest := by
  induction known generalizing members separator with
  | nil =>
      cases members with
      | nil => cases separator <;> simp [membersTokens, openMembers] at begins
      | cons member more =>
          simp [membersTokens, openMembers] at begins
          exact ⟨member.2, more, by simp [← begins.1], begins.2⟩
  | cons member known inductionHypothesis =>
      cases members with
      | nil => cases separator <;> simp [membersTokens, openMembers] at begins
      | cons other more =>
          simp only [membersTokens, openMembers, List.append_assoc,
            List.cons_append, List.append_cancel_left_eq, List.cons.injEq,
            Token.string.injEq, true_and] at begins
          obtain ⟨same, values⟩ := begins
          obtain ⟨sameValue, remaining⟩ := tokens_append_inj values
          obtain ⟨value, last, split, reads⟩ := inductionHypothesis remaining
          refine ⟨value, last, ?_, reads⟩
          rw [split, List.cons_append]
          exact congrArg (· :: _) (Prod.ext same sameValue)

/-- A document that begins with some members and the name of another one. -/
theorem object_of_begins {document : Json Leaf} {known : List (Leaf × Json Leaf)}
    {name : Leaf} {rest : List (Token Leaf)}
    (begins : document.tokens =
      .beginObject :: (openMembers [] known ++
        .string name :: .nameSeparator :: rest)) :
    ∃ value more, document = .object (known ++ (name, value) :: more) ∧
      value.tokens ++ membersTokens [.valueSeparator] more = rest := by
  cases document <;> simp only [tokens, List.cons.injEq, reduceCtorEq,
    false_and, true_and] at begins
  obtain ⟨value, more, split, reads⟩ := members_of_begins begins
  exact ⟨value, more, congrArg _ split, reads⟩

/-- The only member of a name is the one that is known. -/
theorem get_eq_some_of_mem [DecidableEq Leaf]
    {members : List (Leaf × Json Leaf)} {name : Leaf}
    {value found : Json Leaf} (member : (name, value) ∈ members)
    (only : (Json.object members).get name = some found) : found = value := by
  unfold get at only
  simp only at only
  split at only
  case h_1 single filtered =>
    have inside : (name, value) ∈
        members.filter fun member => member.1 = name :=
      List.mem_filter.mpr ⟨member, by simp⟩
    rw [filtered, List.mem_singleton] at inside
    rw [← Option.some.inj only, ← inside]
  case h_2 => cases only

end Json

end ProxyVPN
