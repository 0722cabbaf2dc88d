/-
Module: ProxyVPN.Lib.JsonHoles
Purpose: Texts in JSON with holes.  A value that is put between two quotation
  marks as it is stands for itself if and only if nothing in it is special in a
  string, and so a text with holes has the tokens it is meant to have if and
  only if this holds of each value.
Trusted boundary: none
Main exports: JsonText.Body, JsonText.lexFrom_string, JsonText.Plain,
  JsonText.plain_of_lexFrom, JsonText.lex_number, JsonText.TemplatePart,
  JsonText.fill, JsonText.readParts, JsonText.lexFrom_fill,
  JsonText.plain_of_lexFrom_fill
-/
import ProxyVPN.Lib.JsonText
import Mathlib.Data.List.TakeWhile

namespace ProxyVPN.JsonText

open Kotlin Json

/-! ## The grammar of strings -/

/-- The number that digits of an escape go on with. -/
def hexCode (code : Nat) (digits : Text) : Option Nat :=
  digits.foldlM (fun code char => (hexDigit char).map (code * 16 + ·)) code

/-- What one piece of a string is written with. -/
inductive Element : Text → Piece → Prop where
  | char {char : Char} (noQuote : char ≠ '"') (noBackslash : char ≠ '\\')
      (noControl : 0x20 ≤ char.toNat) : Element [char] (.char char)
  | escape {char stands : Char} (escapes : escaped char = some stands) :
      Element ['\\', char] (.char stands)
  | unicode {digits : Text} {code : Nat} (four : digits.length = 4)
      (value : hexCode 0 digits = some code) :
      Element ('\\' :: 'u' :: digits) (.unit code)

/-- What is between the quotation marks of a string. -/
inductive Body : Text → List Piece → Prop where
  | nil : Body [] []
  | cons {element body : Text} {piece : Piece} {pieces : List Piece}
      (first : Element element piece) (rest : Body body pieces) :
      Body (element ++ body) (piece :: pieces)

/-- The digits of an escape, and the string behind them. -/
theorem lexFrom_unicode {read : List Piece} :
    ∀ {left code : Nat} {text : Text} {tokens : List (Token Text)},
      lexFrom (.unicode read left code) text = some tokens →
        ∃ digits rest value, text = digits ++ rest ∧
          digits.length = left + 1 ∧ hexCode code digits = some value ∧
          lexFrom (.string (read ++ [.unit value])) rest = some tokens
  | _, _, [], _, reads => by cases reads
  | left, code, char :: text, tokens, reads => by
      obtain ⟨next, first, rest, taken, goesOn, rfl⟩ := lexFrom_cons reads
      obtain ⟨digit, isDigit, same⟩ := Option.map_eq_some_iff.mp taken
      cases same
      cases left with
      | zero =>
          exact ⟨[char], text, code * 16 + digit, rfl, rfl,
            by simp [hexCode, isDigit], goesOn⟩
      | succ left =>
          obtain ⟨digits, others, value, rfl, length, number, string⟩ :=
            lexFrom_unicode goesOn
          refine ⟨char :: digits, others, value, rfl, ?_, ?_, string⟩
          · rw [List.length_cons, length]
          · simpa [hexCode, isDigit] using number

/-- The rest of an escape, and the string behind it. -/
theorem lexFrom_escape {read : List Piece} {text : Text}
    {tokens : List (Token Text)}
    (reads : lexFrom (.escape read) text = some tokens) :
    ∃ element piece rest, '\\' :: text = element ++ rest ∧
      Element element piece ∧
      lexFrom (.string (read ++ [piece])) rest = some tokens := by
  cases text with
  | nil => cases reads
  | cons char text =>
    obtain ⟨next, first, rest, taken, goesOn, rfl⟩ := lexFrom_cons reads
    change stepEscape read char = some (next, first) at taken
    unfold stepEscape at taken
    split at taken
    case isTrue isU =>
      cases taken
      obtain ⟨digits, others, value, rfl, four, number, string⟩ :=
        lexFrom_unicode goesOn
      exact ⟨'\\' :: 'u' :: digits, _, others, by rw [isU]; rfl,
        .unicode four number, string⟩
    case isFalse =>
      obtain ⟨stands, escapes, same⟩ := Option.map_eq_some_iff.mp taken
      cases same
      exact ⟨['\\', char], _, text, rfl, .escape escapes, goesOn⟩

/-- A string ends, or goes on with one more piece. -/
theorem lexFrom_string_step {read : List Piece} {text : Text}
    {tokens : List (Token Text)}
    (reads : lexFrom (.string read) text = some tokens) :
    (∃ rest more, text = '"' :: rest ∧
      tokens = .string (decode read) :: more ∧
      lexFrom .between rest = some more) ∨
    ∃ element piece rest, text = element ++ rest ∧ Element element piece ∧
      lexFrom (.string (read ++ [piece])) rest = some tokens := by
  cases text with
  | nil => cases reads
  | cons char text =>
    obtain ⟨next, first, rest, taken, goesOn, rfl⟩ := lexFrom_cons reads
    change stepString read char = some (next, first) at taken
    unfold stepString at taken
    split at taken
    case isTrue quote =>
      cases taken
      exact .inl ⟨text, rest, by rw [quote], rfl, goesOn⟩
    right
    split at taken
    case isTrue backslash =>
      cases taken
      rw [backslash]
      exact lexFrom_escape goesOn
    case isFalse noQuote noBackslash =>
      obtain ⟨noControl, same⟩ := Option.ite_none_left_eq_some.mp taken
      cases same
      exact ⟨[char], _, text, rfl,
        .char noQuote noBackslash (Nat.le_of_not_lt noControl), goesOn⟩

theorem Element.length_pos {element : Text} {piece : Piece}
    (written : Element element piece) : 0 < element.length := by
  cases written <;> exact Nat.succ_pos _

/-- A string that is read to its end is one of the grammar, and what follows it
is read on its own. -/
theorem lexFrom_string {text : Text} {tokens : List (Token Text)} :
    ∀ {read : List Piece}, lexFrom (.string read) text = some tokens →
      ∃ body pieces rest more, text = body ++ '"' :: rest ∧
        Body body pieces ∧ tokens = .string (decode (read ++ pieces)) :: more ∧
        lexFrom .between rest = some more := by
  -- An element has more than one character where it is an escape.
  induction length : text.length using Nat.strong_induction_on
    generalizing text with
  | _ size inductionHypothesis =>
    intro read reads
    rcases lexFrom_string_step reads with
      ⟨rest, more, rfl, rfl, last⟩ | ⟨element, piece, rest, rfl, first, goesOn⟩
    · exact ⟨[], [], rest, more, rfl, .nil, by simp, last⟩
    · have shorter : rest.length < size := by
        rw [← length, List.length_append]
        exact Nat.lt_add_of_pos_left first.length_pos
      obtain ⟨body, pieces, behind, more, rfl, others, rfl, last⟩ :=
        inductionHypothesis rest.length shorter rfl goesOn
      exact ⟨element ++ body, piece :: pieces, behind, more, by simp,
        .cons first others, by simp, last⟩

/-! ## Values put into a string as they are -/

/-- Nothing in the text is special in a string. -/
def Plain (text : Text) : Prop :=
  ∀ char ∈ text, char ≠ '"' ∧ char ≠ '\\' ∧ 0x20 ≤ char.toNat

theorem scan_plain {value : Text} (plain : Plain value) :
    ∀ read : List Piece, scan (.string read) value =
      some (.string (read ++ value.map .char), []) := by
  induction value with
  | nil => simp [scan]
  | cons char value inductionHypothesis =>
      intro read
      obtain ⟨noQuote, noBackslash, noControl⟩ :=
        plain char List.mem_cons_self
      have rest := inductionHypothesis
        fun other member => plain other (List.mem_cons_of_mem _ member)
      simp [scan, step, stepString, noQuote, noBackslash,
        Nat.not_lt.mpr noControl, rest]

@[simp]
theorem decode_map_char (value : Text) : decode (value.map .char) = value := by
  induction value with
  | nil => rfl
  | cons char value inductionHypothesis =>
      rw [List.map_cons, decode, inductionHypothesis]

theorem length_decode_le (pieces : List Piece) :
    (decode pieces).length ≤ pieces.length := by
  fun_induction decode pieces with
  | case1 => exact Nat.le_refl _
  | case2 | case4 | case5 => simpa
  | case3 =>
      rw [List.length_cons, List.length_cons, List.length_cons]
      omega

/-- Units never take away a character that was written. -/
theorem count_decode_le (pieces : List Piece) (char : Char) :
    pieces.count (.char char) ≤ (decode pieces).count char := by
  fun_induction decode pieces with
  | case1 => exact Nat.le_refl _
  | case2 other pieces inductionHypothesis =>
      rw [List.count_cons, List.count_cons]
      simpa using inductionHypothesis
  | case3 | case4 | case5 =>
      simp only [List.count_cons, beq_iff_eq, reduceCtorEq, if_false,
        Nat.add_zero] at *
      exact Nat.le_add_right_of_le ‹_›

theorem Element.plain_of_length {element : Text} {piece : Piece}
    (written : Element element piece) (single : element.length ≤ 1) :
    Plain element := by
  cases written with
  | char noQuote noBackslash noControl =>
      intro other member
      rw [List.mem_singleton.mp member]
      exact ⟨noQuote, noBackslash, noControl⟩
  | escape | unicode => simp at single

theorem quote_notMem_of_hexCode {digits : Text} :
    ∀ {code value : Nat}, hexCode code digits = some value →
      '"' ∉ digits := by
  induction digits with
  | nil => exact fun _ => List.not_mem_nil
  | cons char digits inductionHypothesis =>
      intro code value number member
      obtain ⟨next, taken, rest⟩ := Option.bind_eq_some_iff.mp number
      rcases List.mem_cons.mp member with rfl | member
      · cases taken
      · exact inductionHypothesis rest member

/-- A quotation mark in an element is escaped. -/
theorem Element.count_le {element : Text} {piece : Piece}
    (written : Element element piece) :
    element.count '"' ≤ [piece].count (.char '"') := by
  cases written with
  | char noQuote => simp [noQuote]
  | @escape char stands escapes =>
      by_cases quote : char = '"'
      · subst quote
        cases escapes
        decide
      · simp [quote]
  | unicode four value =>
      have none := quote_notMem_of_hexCode value
      simp [List.count_eq_zero.mpr none]

theorem Body.length_le {body : Text} {pieces : List Piece}
    (grammar : Body body pieces) : pieces.length ≤ body.length := by
  induction grammar with
  | nil => exact Nat.le_refl _
  | cons first rest inductionHypothesis =>
      rw [List.length_append, List.length_cons, Nat.add_comm]
      exact Nat.add_le_add first.length_pos inductionHypothesis

theorem Body.plain_of_length_le {body : Text} {pieces : List Piece}
    (grammar : Body body pieces) (all : body.length ≤ pieces.length) :
    Plain body := by
  induction grammar with
  | nil => exact fun _ => nofun
  | @cons element body piece pieces first rest inductionHypothesis =>
      rw [List.length_append, List.length_cons] at all
      have some := first.length_pos
      have others := rest.length_le
      intro char member
      rcases List.mem_append.mp member with inside | inside
      · exact first.plain_of_length (by omega) char inside
      · exact inductionHypothesis (by omega) char inside

theorem Body.count_le {body : Text} {pieces : List Piece}
    (grammar : Body body pieces) :
    body.count '"' ≤ pieces.count (.char '"') := by
  induction grammar with
  | nil => exact Nat.le_refl _
  | @cons element body piece pieces first rest inductionHypothesis =>
      rw [List.count_append, ← List.singleton_append, List.count_append]
      exact Nat.add_le_add first.count_le inductionHypothesis

/-- A text between two quotation marks is read as itself only where it is
plain. -/
theorem plain_of_lexFrom {value rest : Text} {tokens : List (Token Text)}
    (reads : lexFrom (.string []) (value ++ '"' :: rest) =
      some (.string value :: tokens)) : Plain value := by
  obtain ⟨body, pieces, behind, more, split, grammar, same, _⟩ :=
    lexFrom_string reads
  have decoded : value = decode pieces :=
    Token.string.inj (List.cons.inj same).1
  have enough : value.length ≤ pieces.length := by
    rw [decoded]
    exact length_decode_le pieces
  rcases List.append_eq_append_iff.mp split with
    ⟨inside, longer, after⟩ | ⟨inside, longer, after⟩
  · cases inside with
    | nil =>
        rw [List.append_nil] at longer
        rw [longer] at grammar
        exact grammar.plain_of_length_le enough
    | cons char inside =>
        -- The quotation mark behind the value is escaped, and one too many.
        obtain ⟨rfl, _⟩ := List.cons.inj after
        have marks := Nat.le_trans grammar.count_le (count_decode_le pieces _)
        rw [← decoded, longer, List.count_append, List.count_cons_self] at marks
        omega
  · -- The string ends in the value, and is too short for it.
    have short := Nat.le_trans enough grammar.length_le
    rw [longer, List.length_append] at short
    have nothing : inside = [] := List.length_eq_zero_iff.mp (by omega)
    rw [nothing, List.append_nil] at longer
    rw [longer] at enough ⊢
    exact grammar.plain_of_length_le enough

/-- A plain value of a hole is read as itself, and the rest on its own. -/
theorem lexFrom_hole {value : Text} (plain : Plain value) (rest : Text) :
    lexFrom (.string []) (value ++ '"' :: rest) =
      (lexFrom .between rest).map (.string value :: ·) := by
  rw [lexFrom_append (scan_plain plain [])]
  simp [lexFrom, step, stepString, Function.comp_def]

/-! ## Numbers put into a text -/

/-- The digits of a number have no leading zero. -/
theorem head_toDigits_ne_zero (n : Nat) (positive : 0 < n) :
    ∃ first rest, Nat.toDigits 10 n = first :: rest ∧ first ≠ '0' := by
  induction n using Nat.strong_induction_on with
  | _ n inductionHypothesis =>
    rw [Nat.toDigits_eq_if (by decide)]
    split
    case isTrue small =>
      exact ⟨n.digitChar, [], rfl, mt Nat.digitChar_eq_zero.mp (by omega)⟩
    case isFalse large =>
      obtain ⟨first, rest, digits, notZero⟩ :=
        inductionHypothesis (n / 10) (by omega) (by omega)
      exact ⟨first, _, by rw [digits, List.cons_append], notZero⟩

theorem afterInteger_toDigits (n : Nat) :
    afterInteger (Nat.toDigits 10 n) = some [] := by
  rcases Nat.eq_zero_or_pos n with rfl | positive
  · decide
  · obtain ⟨first, rest, digits, notZero⟩ := head_toDigits_ne_zero n positive
    have all (char : Char) (member : char ∈ first :: rest) :
        char.isDigit = true :=
      Nat.isDigit_of_mem_toDigits (by decide) (by decide) (digits ▸ member)
    have nothing : (first :: rest).dropWhile Char.isDigit = [] :=
      List.dropWhile_eq_nil_iff.mpr all
    rw [digits]
    unfold afterInteger
    split
    case h_1 rest same => exact absurd (List.cons.inj same).1 notZero
    case h_2 =>
      unfold afterDigits
      rw [nothing]
      simp [all first List.mem_cons_self]

theorem digit_of_mem_toString {n : Int} {char : Char}
    (member : char ∈ (toString n).toList) :
    char = '-' ∨ char.isDigit = true := by
  rw [toList_toString, List.mem_append] at member
  rcases member with sign | digit
  · split at sign
    · exact .inl (List.mem_singleton.mp sign)
    · cases sign
  · exact .inr
      (Nat.isDigit_of_mem_toDigits (by decide) (by decide) digit)

theorem withoutMinus_toString (n : Int) :
    withoutMinus (toString n).toList = Nat.toDigits 10 n.natAbs := by
  rw [toList_toString]
  split
  · rfl
  · unfold withoutMinus
    split
    case h_1 rest digits =>
      have member : '-' ∈ Nat.toDigits 10 n.natAbs := by
        rw [List.nil_append] at digits
        exact digits ▸ List.mem_cons_self
      have digit := Nat.isDigit_of_mem_toDigits (by decide) (by decide) member
      exact absurd digit (by decide)
    case h_2 => rfl

theorem isNumber_toString (n : Int) :
    isNumber (toString n).toList = true := by
  unfold isNumber
  rw [withoutMinus_toString, afterInteger_toDigits]
  rfl

/-- No character of a number is one of a name. -/
theorem inWord_of_mem_toString {n : Int} {char : Char}
    (member : char ∈ (toString n).toList) :
    inWord char = true ∧ char ≠ 'l' ∧ char ≠ 'e' := by
  rcases digit_of_mem_toString member with rfl | digit
  · decide
  · have inside (other : Char) (noDigit : other.isDigit = false) :
        char ≠ other := by
      rintro rfl
      rw [digit] at noDigit
      cases noDigit
    refine ⟨?_, inside 'l' (by decide), inside 'e' (by decide)⟩
    unfold inWord isSpace structural
    simp [inside]

theorem wordToken_toString (n : Int) :
    wordToken (toString n).toList = some (.number (toString n).toList) := by
  have noName (name : Text) (inName : 'l' ∈ name ∨ 'e' ∈ name) :
      (toString n).toList ≠ name := by
    rintro rfl
    rcases inName with member | member
    · exact (inWord_of_mem_toString member).2.1 rfl
    · exact (inWord_of_mem_toString member).2.2 rfl
  unfold wordToken
  rw [if_neg (noName _ (by decide)), if_neg (noName _ (by decide)),
    if_neg (noName _ (by decide)), if_pos (isNumber_toString n)]

theorem scan_word {word : Text} (inside : ∀ char ∈ word, inWord char = true) :
    ∀ read : Text, scan (.word read) word = some (.word (read ++ word), []) := by
  induction word with
  | nil => simp [scan]
  | cons char word inductionHypothesis =>
      intro read
      have first := inside char List.mem_cons_self
      have rest := inductionHypothesis
        fun other member => inside other (List.mem_cons_of_mem _ member)
      simp [scan, step, first, rest]

/-- A word is over where a character comes that is in none. -/
theorem lexFrom_word {word : Text} {token : Token Text} {char : Char}
    (isToken : wordToken word = some token) (ends : inWord char = false)
    (rest : Text) :
    lexFrom (.word word) (char :: rest) =
      (lexFrom .between (char :: rest)).map (token :: ·) := by
  simp [lexFrom, step, isToken, ends, Option.map_map, Function.comp_def]

/-- A number is read as itself where no word goes on behind it. -/
theorem lex_number (n : Int) {char : Char} (ends : inWord char = false)
    (rest : Text) :
    lexFrom .between ((toString n).toList ++ char :: rest) =
      (lexFrom .between (char :: rest)).map
        (.number (toString n).toList :: ·) := by
  have scanned : scan .between (toString n).toList =
      some (.word (toString n).toList, []) := by
    cases digits : (toString n).toList with
    | nil =>
        have number := isNumber_toString n
        rw [digits] at number
        cases number
    | cons first others =>
        have inside (other : Char) (member : other ∈ first :: others) :
            inWord other = true :=
          (inWord_of_mem_toString (digits ▸ member)).1
        have scanned := scan_word
          (fun other member => inside other (List.mem_cons_of_mem _ member))
          [first]
        simp [scan, step, stepBetween, inside first List.mem_cons_self,
          scanned]
  rw [lexFrom_append scanned, lexFrom_word (wordToken_toString n) ends,
    Option.map_map]
  rfl

/-! ## Texts with holes -/

inductive TemplatePart (Hole : Type) where
  | fixed (text : Text)
  | hole (hole : Hole)

variable {Hole : Type}

def fill (values : Hole → Text) : List (TemplatePart Hole) → Text
  | [] => []
  | .fixed text :: parts => text ++ fill values parts
  | .hole hole :: parts => values hole ++ fill values parts

@[simp]
theorem fill_append (values : Hole → Text) (front parts : List (TemplatePart Hole)) :
    fill values (front ++ parts) = fill values front ++ fill values parts := by
  induction front with
  | nil => rfl
  | cons part front inductionHypothesis =>
      cases part <;> simp [fill, inductionHypothesis]

/-- A hole between two quotation marks is for a string, one where a value begins
is for a number.  The token it gives, and what of the text behind it is left. -/
def holeToken (hole : Hole) : Mode → Text → Option (Token (Text ⊕ Hole) × Text)
  | .string [], '"' :: text => some (.string (.inr hole), text)
  | .between, char :: text =>
      if inWord char then none else some (.number (.inr hole), char :: text)
  | _, _ => none

/-- The tokens of a text with holes, whatever the values are. -/
def readParts : Mode → List (TemplatePart Hole) →
    Option (Mode × List (Token (Text ⊕ Hole)))
  | mode, [] => some (mode, [])
  | mode, .fixed text :: parts =>
      (scan mode text).bind fun (next, tokens) =>
        (readParts next parts).map fun (last, rest) =>
          (last, tokens.map (Token.map .inl) ++ rest)
  | mode, .hole hole :: .fixed text :: parts =>
      (holeToken hole mode text).bind fun (token, text) =>
        (scan .between text).bind fun (next, tokens) =>
          (readParts next parts).map fun (last, rest) =>
            (last, token :: (tokens.map (Token.map .inl) ++ rest))
  | _, _ => none

/-- The text of a leaf. -/
def leafText (values : Hole → Text) : Text ⊕ Hole → Text :=
  Sum.elim id values

def fillTokens (values : Hole → Text) (tokens : List (Token (Text ⊕ Hole))) :
    List (Token Text) :=
  tokens.map (Token.map (leafText values))

def stringHoles (tokens : List (Token (Text ⊕ Hole))) : List Hole :=
  tokens.filterMap fun
    | .string (.inr hole) => some hole
    | _ => none

def numberHoles (tokens : List (Token (Text ⊕ Hole))) : List Hole :=
  tokens.filterMap fun
    | .number (.inr hole) => some hole
    | _ => none

/-- The holes for numbers have numbers. -/
def Numbers (values : Hole → Text) (tokens : List (Token (Text ⊕ Hole))) :
    Prop :=
  ∀ hole ∈ numberHoles tokens, ∃ n : Int, values hole = (toString n).toList

/-- The holes for strings have plain values. -/
def PlainHoles (values : Hole → Text) (tokens : List (Token (Text ⊕ Hole))) :
    Prop :=
  ∀ hole ∈ stringHoles tokens, Plain (values hole)

section Fill

variable {values : Hole → Text} {tokens : List (Token Text)}
  {slots others : List (Token (Text ⊕ Hole))}

@[simp]
theorem fillTokens_cons (token : Token (Text ⊕ Hole)) :
    fillTokens values (token :: slots) =
      token.map (leafText values) :: fillTokens values slots :=
  rfl

@[simp]
theorem fillTokens_append :
    fillTokens values (slots ++ others) =
      fillTokens values slots ++ fillTokens values others :=
  List.map_append

/-- What is fixed is the same for all values. -/
@[simp]
theorem fillTokens_fixed :
    fillTokens values (tokens.map (Token.map .inl)) = tokens := by
  rw [fillTokens, List.map_map]
  apply List.map_id''
  intro token
  cases token <;> rfl

@[simp]
theorem numbers_append :
    Numbers values (slots ++ others) ↔
      Numbers values slots ∧ Numbers values others := by
  simp [Numbers, numberHoles, or_imp, forall_and]

@[simp]
theorem plainHoles_append :
    PlainHoles values (slots ++ others) ↔
      PlainHoles values slots ∧ PlainHoles values others := by
  simp [PlainHoles, stringHoles, or_imp, forall_and]

theorem plainHoles_fixed :
    PlainHoles values (tokens.map (Token.map .inl)) := by
  intro hole member
  obtain ⟨token, inside, same⟩ := List.mem_filterMap.mp member
  obtain ⟨fixed, _, rfl⟩ := List.mem_map.mp inside
  cases fixed <;> cases same

/-- A hole with what is between it and the next part of the text. -/
theorem lexFrom_holeToken {hole : Hole} {mode : Mode} {text left : Text}
    {token : Token (Text ⊕ Hole)}
    (taken : holeToken hole mode text = some (token, left))
    (numbers : Numbers values [token]) (plain : PlainHoles values [token])
    (rest : Text) :
    lexFrom mode (values hole ++ (text ++ rest)) =
      (lexFrom .between (left ++ rest)).map
        (token.map (leafText values) :: ·) := by
  unfold holeToken at taken
  split at taken
  case h_1 =>
    cases taken
    exact lexFrom_hole (plain hole List.mem_cons_self) _
  case h_2 char text =>
    obtain ⟨ends, same⟩ := Option.ite_none_left_eq_some.mp taken
    cases same
    obtain ⟨n, number⟩ := numbers hole List.mem_cons_self
    change _ = (lexFrom .between _).map (.number (values hole) :: ·)
    rw [number]
    exact lex_number n (Bool.eq_false_of_not_eq_true ends) _
  case h_3 => cases taken

/-- Only a plain value is read as the token of its hole. -/
theorem plain_of_holeToken {hole : Hole} {mode : Mode} {text left : Text}
    {token : Token (Text ⊕ Hole)}
    (taken : holeToken hole mode text = some (token, left)) {rest : Text}
    (reads : lexFrom mode (values hole ++ (text ++ rest)) =
      some (token.map (leafText values) :: tokens)) :
    PlainHoles values [token] := by
  unfold holeToken at taken
  split at taken
  case h_1 =>
    cases taken
    intro other member
    rw [List.mem_singleton.mp member]
    exact plain_of_lexFrom reads
  case h_2 =>
    obtain ⟨_, same⟩ := Option.ite_none_left_eq_some.mp taken
    cases same
    exact fun _ => nofun
  case h_3 => cases taken

theorem readParts_fixed {text : Text} {parts : List (TemplatePart Hole)}
    {mode next : Mode}
    (reads : readParts mode (.fixed text :: parts) = some (next, slots)) :
    ∃ middle first more, scan mode text = some (middle, first) ∧
      readParts middle parts = some (next, more) ∧
      first.map (Token.map .inl) ++ more = slots := by
  obtain ⟨⟨middle, first⟩, scanned, others⟩ := Option.bind_eq_some_iff.mp reads
  obtain ⟨⟨last, more⟩, goesOn, same⟩ := Option.map_eq_some_iff.mp others
  cases same
  exact ⟨middle, first, more, scanned, goesOn, rfl⟩

theorem readParts_hole {hole : Hole} {text : Text}
    {parts : List (TemplatePart Hole)} {mode next : Mode}
    (reads : readParts mode (.hole hole :: .fixed text :: parts) =
      some (next, slots)) :
    ∃ token left middle first more,
      holeToken hole mode text = some (token, left) ∧
      scan .between left = some (middle, first) ∧
      readParts middle parts = some (next, more) ∧
      token :: (first.map (Token.map .inl) ++ more) = slots := by
  obtain ⟨⟨token, left⟩, taken, others⟩ := Option.bind_eq_some_iff.mp reads
  obtain ⟨⟨middle, first⟩, scanned, others⟩ :=
    Option.bind_eq_some_iff.mp others
  obtain ⟨⟨last, more⟩, goesOn, same⟩ := Option.map_eq_some_iff.mp others
  cases same
  exact ⟨token, left, middle, first, more, taken, scanned, goesOn, rfl⟩

/-- With plain values a text with holes has the tokens it is meant to have. -/
theorem lexFrom_fill :
    ∀ {parts : List (TemplatePart Hole)} {mode next : Mode}
      {slots : List (Token (Text ⊕ Hole))},
      readParts mode parts = some (next, slots) → Numbers values slots →
      PlainHoles values slots → ∀ rest : Text,
        lexFrom mode (fill values parts ++ rest) =
          (lexFrom next rest).map (fillTokens values slots ++ ·)
  | [], _, _, _, reads, _, _, rest => by
      cases reads
      simp [fill, fillTokens]
  | .fixed text :: parts, mode, _, _, reads, numbers, plain, rest => by
      obtain ⟨middle, first, more, scanned, goesOn, rfl⟩ :=
        readParts_fixed reads
      have follows := lexFrom_fill goesOn (numbers_append.mp numbers).2
        (plainHoles_append.mp plain).2 rest
      rw [fill, List.append_assoc, lexFrom_append scanned, follows]
      simp [Function.comp_def]
  | [.hole _], _, _, _, reads, _, _, _ => by cases reads
  | .hole _ :: .hole _ :: _, _, _, _, reads, _, _, _ => by cases reads
  | .hole hole :: .fixed text :: parts, mode, _, _, reads, numbers, plain,
      rest => by
      obtain ⟨token, left, middle, first, more, taken, scanned, goesOn, rfl⟩ :=
        readParts_hole reads
      rw [← List.singleton_append, numbers_append, numbers_append] at numbers
      rw [← List.singleton_append, plainHoles_append, plainHoles_append]
        at plain
      have follows := lexFrom_fill goesOn numbers.2.2 plain.2.2 rest
      have head := lexFrom_holeToken taken numbers.1 plain.1
        (fill values parts ++ rest)
      rw [fill, fill, List.append_assoc, List.append_assoc, head,
        lexFrom_append scanned, follows]
      simp [Function.comp_def]

/-- Where a text with holes has the tokens it is meant to have its values are
plain. -/
theorem plain_of_lexFrom_fill :
    ∀ {parts : List (TemplatePart Hole)} {mode next : Mode}
      {slots : List (Token (Text ⊕ Hole))},
      readParts mode parts = some (next, slots) → Numbers values slots →
      ∀ {rest : Text} {more : List (Token Text)},
        lexFrom mode (fill values parts ++ rest) =
            some (fillTokens values slots ++ more) →
          PlainHoles values slots
  | [], _, _, _, reads, _, _, _, _ => by
      cases reads
      exact fun _ => nofun
  | .fixed text :: parts, mode, _, _, reads, numbers, rest, more, whole => by
      obtain ⟨middle, first, slots, scanned, goesOn, rfl⟩ :=
        readParts_fixed reads
      rw [fill, List.append_assoc, fillTokens_append, fillTokens_fixed,
        List.append_assoc, lexFrom_append_iff scanned] at whole
      have follows :=
        plain_of_lexFrom_fill goesOn (numbers_append.mp numbers).2 whole
      exact plainHoles_append.mpr ⟨plainHoles_fixed, follows⟩
  | [.hole _], _, _, _, reads, _, _, _, _ => by cases reads
  | .hole _ :: .hole _ :: _, _, _, _, reads, _, _, _, _ => by cases reads
  | .hole hole :: .fixed text :: parts, mode, _, _, reads, numbers, rest, more,
      whole => by
      obtain ⟨token, left, middle, first, slots, taken, scanned, goesOn, rfl⟩ :=
        readParts_hole reads
      rw [fill, fill, List.append_assoc, List.append_assoc, fillTokens_cons,
        List.cons_append] at whole
      have plain := plain_of_holeToken taken whole
      rw [← List.singleton_append, numbers_append, numbers_append] at numbers
      rw [lexFrom_holeToken taken numbers.1 plain] at whole
      obtain ⟨tokens, behind, same⟩ := Option.map_eq_some_iff.mp whole
      rw [(List.cons.inj same).2, fillTokens_append, fillTokens_fixed,
        List.append_assoc, lexFrom_append_iff scanned] at behind
      have follows := plain_of_lexFrom_fill goesOn numbers.2.2 behind
      rw [← List.singleton_append, plainHoles_append, plainHoles_append]
      exact ⟨plain, plainHoles_fixed, follows⟩

end Fill

end ProxyVPN.JsonText
