/-
Module: ProxyVPN.Lib.HashSet
Purpose: Hash sets that keep the order in which elements came: an element is
  compared only with those of the same hash code.  Where codes and comparison
  go by a key, such a set tells elements apart as their keys do.
Trusted boundary: none
Main exports: Kotlin.hashCode, HashSet.contains, HashSet.addAll,
  HashSet.distinct, HashSet.ByKey, HashSet.ByKey.contains_iff,
  HashSet.ByKey.distinct_eq
-/
import ProxyVPN.Lib.Kotlin

namespace ProxyVPN

namespace Kotlin

/-- The units of a character in UTF-16. -/
def utf16 (char : Char) : List Nat :=
  let code := char.toNat
  if code < 0x10000 then [code]
  else [0xD800 + (code - 0x10000) / 0x400, 0xDC00 + (code - 0x10000) % 0x400]

/-- `String.hashCode`. -/
def hashCode (text : Text) : Int32 :=
  (text.flatMap utf16).foldl
    (fun hash unit => 31 * hash + Int32.ofNat unit) 0

example : hashCode "1.2.3.4:80:SOCKS5".toList = 268533326 := by decide

/-- Which keys were seen matters, and not in which order or how often. -/
theorem distinctFrom_congr {α κ : Type} [DecidableEq κ] {key : α → κ}
    {list : List α} : ∀ {seen other : List κ},
      (∀ k, k ∈ seen ↔ k ∈ other) →
        distinctFrom key seen list = distinctFrom key other list := by
  induction list with
  | nil =>
      intro seen other _
      rfl
  | cons first rest inductionHypothesis =>
      intro seen other same
      have later : distinctFrom key (key first :: seen) rest =
          distinctFrom key (key first :: other) rest := by
        apply inductionHypothesis
        intro k
        rw [List.mem_cons, List.mem_cons, same]
      simp only [distinctFrom, same, inductionHypothesis same, later]

end Kotlin

namespace HashSet

variable {α κ : Type} (hashCode : α → Int32) (equals : α → α → Bool)

/-- `contains`: `equals` is asked for the elements of the same hash code. -/
def contains (set : List α) (element : α) : Bool :=
  set.any fun other =>
    hashCode other == hashCode element && equals element other

/-- The set after the elements of a list were added one after another. -/
def addAll : List α → List α → List α
  | set, [] => set
  | set, first :: rest =>
      if contains hashCode equals set first then addAll set rest
      else addAll (set ++ [first]) rest

/-- `distinct`: the list of the set of all elements. -/
def distinct (list : List α) : List α :=
  addAll hashCode equals [] list

/-- Elements are equal where their keys are, and their hash codes are then the
same. -/
structure ByKey (key : α → κ) : Prop where
  equals_iff : ∀ left right, equals left right = true ↔ key left = key right
  hashCode_eq : ∀ left right, key left = key right →
    hashCode left = hashCode right

variable {hashCode equals} {key : α → κ}

/-- A hash set contains an element if and only if it has one of its key. -/
theorem ByKey.contains_iff (byKey : ByKey hashCode equals key)
    {set : List α} {element : α} :
    contains hashCode equals set element = true ↔ key element ∈ set.map key := by
  unfold contains
  rw [List.any_eq_true, List.mem_map]
  constructor
  · rintro ⟨other, inside, found⟩
    have equal := (Bool.and_eq_true_iff.mp found).2
    exact ⟨other, inside, ((byKey.equals_iff _ _).mp equal).symm⟩
  · rintro ⟨other, inside, same⟩
    refine ⟨other, inside, Bool.and_eq_true_iff.mpr ⟨?_, ?_⟩⟩
    · exact beq_iff_eq.mpr (byKey.hashCode_eq _ _ same)
    · exact (byKey.equals_iff _ _).mpr same.symm

theorem ByKey.addAll_eq [DecidableEq κ] (byKey : ByKey hashCode equals key)
    {list : List α} : ∀ set : List α,
      addAll hashCode equals set list =
        set ++ Kotlin.distinctFrom key (set.map key) list := by
  induction list with
  | nil =>
      intro set
      exact (List.append_nil set).symm
  | cons first rest inductionHypothesis =>
      intro set
      rw [addAll, Kotlin.distinctFrom]
      by_cases known : key first ∈ set.map key
      · rw [if_pos (byKey.contains_iff.mpr known), if_pos known]
        exact inductionHypothesis set
      · have seen : ∀ k, k ∈ (set ++ [first]).map key ↔
            k ∈ key first :: set.map key := by
          intro k
          rw [List.map_append, List.mem_append, List.mem_cons, or_comm,
            List.map_singleton, List.mem_singleton]
        rw [if_neg (fun inside => known (byKey.contains_iff.mp inside)),
          if_neg known, inductionHypothesis, Kotlin.distinctFrom_congr seen,
          List.append_assoc]
        rfl

/-- The distinct elements are those whose key comes for the first time. -/
theorem ByKey.distinct_eq [DecidableEq κ] (byKey : ByKey hashCode equals key)
    (list : List α) :
    distinct hashCode equals list = Kotlin.distinctBy key list :=
  byKey.addAll_eq []

end HashSet

end ProxyVPN
