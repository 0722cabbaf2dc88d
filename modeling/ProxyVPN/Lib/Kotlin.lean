/-
Module: ProxyVPN.Lib.Kotlin
Purpose: The functions of Kotlin's standard library on texts and collections
  that the models use. A text is the list of its characters.
Trusted boundary: none
Main exports: Kotlin.trim, Kotlin.lineSequence, Kotlin.readLines,
  Kotlin.splitLimit2, Kotlin.substringBefore, Kotlin.toIntOrNull,
  Kotlin.trim_append, Kotlin.trim_of_forall, Kotlin.filterMap_readLines,
  Kotlin.Numeral, Kotlin.toInt, Kotlin.colon_inj, Kotlin.distinctBy,
  Kotlin.nodup_distinctBy, Kotlin.sortedBy, Kotlin.pairwise_sortedBy,
  Kotlin.of_notMem_take
-/
import Mathlib.Algebra.Group.Int.Defs
import Mathlib.Algebra.Group.Nat.Defs
import Mathlib.Data.List.Sort
import Mathlib.Data.Rat.Defs

namespace ProxyVPN.Kotlin

abbrev Text := List Char

instance : LawfulBEq Text := inferInstance

/-! ## Characters -/

/-- `Char.isWhitespace`: the space, line and paragraph separators of Unicode and
the control characters that count as spaces. -/
def isWhitespace (char : Char) : Bool :=
  let code := char.toNat
  (9 ≤ code && code ≤ 13) || (28 ≤ code && code ≤ 32) || code == 0xA0 ||
    code == 0x1680 || (0x2000 ≤ code && code ≤ 0x200A) || code == 0x2028 ||
    code == 0x2029 || code == 0x202F || code == 0x205F || code == 0x3000

/-- The zeros of the scripts that have decimal digits, among the characters of
one UTF-16 unit. Each is followed by the other nine digits. -/
def decimalZeros : List Nat :=
  [0x30, 0x660, 0x6F0, 0x7C0, 0x966, 0x9E6, 0xA66, 0xAE6, 0xB66, 0xBE6, 0xC66,
    0xCE6, 0xD66, 0xDE6, 0xE50, 0xED0, 0xF20, 0x1040, 0x1090, 0x17E0, 0x1810,
    0x1946, 0x19D0, 0x1A80, 0x1A90, 0x1B50, 0x1BB0, 0x1C40, 0x1C50, 0xA620,
    0xA8D0, 0xA900, 0xA9D0, 0xA9F0, 0xAA50, 0xABF0, 0xFF10]

/-- `Character.digit(char, 10)`, with `none` for -1. -/
def digitOf (char : Char) : Option Nat :=
  let code := char.toNat
  (decimalZeros.find? fun base => base ≤ code && code ≤ base + 9).map
    fun base => code - base

/-! ## Texts -/

def trim (text : Text) : Text :=
  ((text.dropWhile isWhitespace).reverse.dropWhile isWhitespace).reverse

/-- `String.lineSequence`: the pieces between line ends, the last one also when
it is empty. -/
def lineSequence : Text → List Text
  | [] => [[]]
  | '\r' :: '\n' :: rest => [] :: lineSequence rest
  | '\r' :: rest => [] :: lineSequence rest
  | '\n' :: rest => [] :: lineSequence rest
  | char :: rest =>
      match lineSequence rest with
      | [] => [[char]]
      | line :: lines => (char :: line) :: lines

/-- The lines a `BufferedReader` gives: nothing follows a line end that ends the
text. -/
def readLines (text : Text) : List Text :=
  let lines := lineSequence text
  if lines.getLast? = some [] then lines.dropLast else lines

/-- `split(delimiter, limit = 2)`. -/
def splitLimit2 (delimiter : Char) (text : Text) : List Text :=
  if delimiter ∈ text then
    [text.takeWhile (· ≠ delimiter), (text.dropWhile (· ≠ delimiter)).tail]
  else [text]

def substringBefore (delimiter : Char) (text : Text) : Text :=
  text.takeWhile (· ≠ delimiter)

/-- The value of a text of decimal digits. -/
def decimal (digits : Text) : Option Nat :=
  digits.foldlM (fun value char => (digitOf char).map (value * 10 + ·)) 0

/-- `toIntOrNull`: an optional sign, at least one digit, in the range of 32
bits. -/
def toIntOrNull (text : Text) : Option Int :=
  match text with
  | [] => none
  | first :: rest =>
      if first < '0' then
        if rest = [] then none
        else if first = '-' then
          (decimal rest).bind fun value =>
            if value ≤ 2 ^ 31 then some (-value) else none
        else if first = '+' then
          (decimal rest).bind fun value =>
            if value < 2 ^ 31 then some value else none
        else none
      else
        (decimal text).bind fun value =>
          if value < 2 ^ 31 then some value else none

example : toIntOrNull "-2147483648".toList = some (-2147483648) := by decide

/-- A split in two is made at the first delimiter, -/
theorem splitLimit2_append {delimiter : Char} {front : Text} (back : Text)
    (absent : delimiter ∉ front) :
    splitLimit2 delimiter (front ++ delimiter :: back) = [front, back] := by
  have others : ∀ char ∈ front, decide (char ≠ delimiter) = true := by
    intro char member
    apply decide_eq_true
    rintro rfl
    exact absent member
  unfold splitLimit2
  rw [if_pos (List.mem_append_right _ List.mem_cons_self),
    List.takeWhile_append_of_pos others, List.dropWhile_append_of_pos others]
  simp

theorem splitLimit2_of_notMem {delimiter : Char} {text : Text}
    (absent : delimiter ∉ text) : splitLimit2 delimiter text = [text] :=
  if_neg absent

/-- and the front has no delimiter in it. -/
theorem splitLimit2_eq_pair {delimiter : Char} {text front back : Text}
    (split : splitLimit2 delimiter text = [front, back]) :
    text = front ++ delimiter :: back ∧ delimiter ∉ front := by
  by_cases present : delimiter ∈ text
  · obtain ⟨before, after, rfl, absent⟩ := List.eq_append_cons_of_mem present
    rw [splitLimit2_append _ absent] at split
    cases split
    exact ⟨rfl, absent⟩
  · rw [splitLimit2_of_notMem present] at split
    cases split

/-- `substringBefore` stops at the first delimiter. -/
theorem substringBefore_append {delimiter : Char} {front : Text} (back : Text)
    (absent : delimiter ∉ front) :
    substringBefore delimiter (front ++ delimiter :: back) = front := by
  have others : ∀ char ∈ front, decide (char ≠ delimiter) = true := by
    intro char member
    apply decide_eq_true
    rintro rfl
    exact absent member
  unfold substringBefore
  rw [List.takeWhile_append_of_pos others]
  simp

/-- Without a delimiter the whole text stays. -/
theorem substringBefore_of_notMem {delimiter : Char} {text : Text}
    (absent : delimiter ∉ text) : substringBefore delimiter text = text := by
  have others : ∀ char ∈ text, decide (char ≠ delimiter) = true := by
    intro char member
    apply decide_eq_true
    rintro rfl
    exact absent member
  have whole : (text ++ []).takeWhile (· ≠ delimiter) =
      text ++ [].takeWhile (· ≠ delimiter) :=
    List.takeWhile_append_of_pos others
  rwa [List.append_nil, List.takeWhile_nil, List.append_nil] at whole

/-- A text that begins with no whitespace keeps all of it up to any character
that is none. -/
theorem trim_append {first char : Char} (middle back : Text)
    (begins : isWhitespace first = false) (stops : isWhitespace char = false) :
    ∃ rest, trim (first :: (middle ++ char :: back)) =
      first :: (middle ++ char :: rest) := by
  have split : (first :: (middle ++ char :: back)).reverse =
      back.reverse ++ char :: (first :: middle).reverse := by
    simp
  refine ⟨(back.reverse.dropWhile isWhitespace).reverse, ?_⟩
  unfold trim
  rw [List.dropWhile_cons_of_neg (by rw [begins]; decide), split,
    List.dropWhile_append]
  split
  case isTrue empty =>
    rw [List.isEmpty_iff.mp empty,
      List.dropWhile_cons_of_neg (by rw [stops]; decide)]
    simp
  case isFalse => simp

/-- Between characters that are not dropped nothing is lost. -/
theorem dropWhile_reverse_of_forall {dropped : Char → Bool} {text : Text}
    (kept : ∀ char ∈ text, dropped char = false) :
    ((text.dropWhile dropped).reverse.dropWhile dropped).reverse = text := by
  have whole : ∀ text : Text, (∀ char ∈ text, dropped char = false) →
      text.dropWhile dropped = text := by
    intro text kept
    cases text with
    | nil => rfl
    | cons first rest =>
        rw [List.dropWhile_cons_of_neg]
        rw [kept _ List.mem_cons_self]
        decide
  rw [whole text kept, whole, List.reverse_reverse]
  intro char member
  exact kept char (List.mem_reverse.mp member)

/-- A text without white space stays as it is. -/
theorem trim_of_forall {text : Text}
    (solid : ∀ char ∈ text, isWhitespace char = false) : trim text = text :=
  dropWhile_reverse_of_forall solid

/-! ## Lines -/

theorem splitOn_cons_of_ne {delimiter char : Char} (text : Text)
    (differ : char ≠ delimiter) :
    (char :: text).splitOn delimiter =
      (text.splitOn delimiter).modifyHead (char :: ·) := by
  rw [List.splitOn_cons_eq_if_modifyHead, if_neg (by simpa using differ)]

theorem splitOn_cons_self (delimiter : Char) (text : Text) :
    (delimiter :: text).splitOn delimiter = [] :: text.splitOn delimiter := by
  rw [List.splitOn_cons_eq_if_modifyHead, if_pos (by simp)]

/-- The pieces between the characters that end lines. -/
def linePieces (text : Text) : List Text :=
  (text.splitOn '\n').flatMap (·.splitOn '\r')

theorem linePieces_newline (text : Text) :
    linePieces ('\n' :: text) = [] :: linePieces text := by
  unfold linePieces
  rw [splitOn_cons_self]
  rfl

/-- A return ends a line, too, whether a newline follows or not. -/
theorem linePieces_cons {char : Char} (text : Text) (notNewline : char ≠ '\n') :
    linePieces (char :: text) =
      if char = '\r' then [] :: linePieces text
      else (linePieces text).modifyHead (char :: ·) := by
  unfold linePieces
  rw [splitOn_cons_of_ne _ notNewline]
  cases split : text.splitOn '\n' with
  | nil => exact absurd split (List.splitOn_ne_nil _ _)
  | cons line lines =>
      rw [List.modifyHead_cons, List.flatMap_cons, List.flatMap_cons]
      split_ifs with isReturn
      · rw [isReturn, splitOn_cons_self, List.cons_append]
      · rw [splitOn_cons_of_ne _ isReturn]
        cases pieces : line.splitOn '\r' with
        | nil => exact absurd pieces (List.splitOn_ne_nil _ _)
        | cons piece pieces => rfl

section Lines

variable {β : Type} {parse : Text → Option β}

/-- A carriage return and a newline together make one line end, and the pieces
have an empty one between them. -/
theorem lineSequence_linePieces (empty : parse [] = none) (text : Text) :
    ∃ line lines pieces, lineSequence text = line :: lines ∧
      linePieces text = line :: pieces ∧
      lines.filterMap parse = pieces.filterMap parse := by
  induction text using lineSequence.induct with
  | case1 => exact ⟨[], [], [], rfl, rfl, rfl⟩
  | case2 rest inductionHypothesis =>
      obtain ⟨line, lines, pieces, read, split, same⟩ := inductionHypothesis
      refine ⟨[], line :: lines, [] :: line :: pieces, ?_, ?_, ?_⟩
      · rw [lineSequence, read]
      · rw [linePieces_cons _ (by decide), if_pos rfl, linePieces_newline, split]
      · rw [List.filterMap_cons_none empty, List.filterMap_cons,
          List.filterMap_cons, same]
  | case3 rest notPair inductionHypothesis =>
      obtain ⟨line, lines, pieces, read, split, same⟩ := inductionHypothesis
      refine ⟨[], line :: lines, line :: pieces, ?_, ?_, ?_⟩
      · rw [lineSequence, read]
        exact notPair
      · rw [linePieces_cons _ (by decide), if_pos rfl, split]
      · rw [List.filterMap_cons, List.filterMap_cons, same]
  | case4 rest inductionHypothesis =>
      obtain ⟨line, lines, pieces, read, split, same⟩ := inductionHypothesis
      refine ⟨[], line :: lines, line :: pieces, ?_, ?_, ?_⟩
      · rw [lineSequence, read]
      · rw [linePieces_newline, split]
      · rw [List.filterMap_cons, List.filterMap_cons, same]
  | case5 char rest notPair notReturn notNewline none inductionHypothesis =>
      obtain ⟨line, lines, pieces, read, _⟩ := inductionHypothesis
      rw [none] at read
      cases read
  | case6 char rest notPair notReturn notNewline line lines read
      inductionHypothesis =>
      obtain ⟨_, _, pieces, same, split, later⟩ := inductionHypothesis
      rw [read] at same
      cases same
      refine ⟨char :: line, lines, pieces, ?_, ?_, later⟩
      · rw [lineSequence, read] <;> assumption
      · rw [linePieces_cons _ notNewline, if_neg notReturn, split]
        rfl

/-- The lines of a reader and the pieces give the same, where an empty line
gives nothing. -/
theorem filterMap_readLines (empty : parse [] = none) (text : Text) :
    (readLines text).filterMap parse =
      (text.splitOn '\n').flatMap fun line =>
        (line.splitOn '\r').filterMap parse := by
  have pieces : (lineSequence text).filterMap parse =
      (linePieces text).filterMap parse := by
    obtain ⟨line, lines, pieces, read, split, same⟩ :=
      lineSequence_linePieces empty text
    rw [read, split, List.filterMap_cons, List.filterMap_cons, same]
  have all : (readLines text).filterMap parse =
      (lineSequence text).filterMap parse := by
    unfold readLines
    simp only
    split
    case isTrue last =>
      obtain ⟨front, shape⟩ := List.getLast?_eq_some_iff.mp last
      rw [shape, List.dropLast_concat, List.filterMap_append,
        List.filterMap_cons_none empty, List.filterMap_nil, List.append_nil]
    case isFalse => rfl
  rw [all, pieces]
  unfold linePieces
  rw [List.filterMap_flatMap]

end Lines

/-! ## Numbers -/

/-- `Double.toInt`: towards zero, in the range of 32 bits. -/
def toInt (value : ℚ) : Int :=
  max (-2 ^ 31) (min (2 ^ 31 - 1) (value.num.tdiv value.den))

/-- A text of ASCII digits, at least one, with this value. -/
structure Numeral (digits : Text) (value : Int) : Prop where
  nonempty : digits ≠ []
  isDigit : ∀ char ∈ digits, char.isDigit = true
  value : (Nat.ofDigitChars 10 digits 0 : Int) = value

theorem code_of_isDigit {char : Char} (isDigit : char.isDigit = true) :
    48 ≤ char.toNat ∧ char.toNat ≤ 57 := by
  simpa [Char.isDigit, UInt32.le_iff_toNat_le] using isDigit

theorem digitOf_isDigit {char : Char} (isDigit : char.isDigit = true) :
    digitOf char = some (char.toNat - '0'.toNat) := by
  have range := code_of_isDigit isDigit
  have found : decimalZeros.find? (fun base => base ≤ char.toNat &&
      char.toNat ≤ base + 9) = some 0x30 := by
    apply List.find?_cons_of_pos
    simp only [Bool.and_eq_true, decide_eq_true_eq]
    omega
  unfold digitOf
  simp only
  rw [found]
  rfl

theorem isWhitespace_of_isDigit {char : Char} (isDigit : char.isDigit = true) :
    isWhitespace char = false := by
  have code := code_of_isDigit isDigit
  unfold isWhitespace
  simp only [Bool.or_eq_false_iff, Bool.and_eq_false_iff,
    decide_eq_false_iff_not, beq_eq_false_iff_ne]
  omega

/-- Digits are read as the number that they spell. -/
theorem decimal_of_isDigit {digits : Text}
    (isDigit : ∀ char ∈ digits, char.isDigit = true) :
    decimal digits = some (Nat.ofDigitChars 10 digits 0) := by
  have fold : ∀ (digits : Text) (value : Nat),
      (∀ char ∈ digits, char.isDigit = true) →
      digits.foldlM (fun value char => (digitOf char).map (value * 10 + ·))
        value = some (Nat.ofDigitChars 10 digits value) := by
    intro digits
    induction digits with
    | nil =>
        intro value _
        rfl
    | cons char rest inductionHypothesis =>
        intro value isDigit
        have later := inductionHypothesis
          (10 * value + (char.toNat - '0'.toNat))
          fun other member => isDigit other (List.mem_cons_of_mem _ member)
        rw [List.foldlM_cons, digitOf_isDigit (isDigit _ List.mem_cons_self),
          Nat.ofDigitChars_cons, ← later, Nat.mul_comm 10 value]
        rfl
  exact fold digits 0 isDigit

theorem not_lt_zero_of_isDigit {char : Char} (isDigit : char.isDigit = true) :
    ¬char < '0' := by
  simp only [Char.isDigit, Bool.and_eq_true, decide_eq_true_eq] at isDigit
  exact Char.not_lt.mpr isDigit.1

/-- Digits are read as the number that they stand for. -/
theorem Numeral.toIntOrNull {digits : Text} {value : Int}
    (numeral : Numeral digits value) (small : value < 2 ^ 31) :
    toIntOrNull digits = some value := by
  obtain ⟨nonempty, isDigit, rfl⟩ := numeral
  cases digits with
  | nil => exact absurd rfl nonempty
  | cons first rest =>
      have notSign := not_lt_zero_of_isDigit (isDigit _ List.mem_cons_self)
      unfold Kotlin.toIntOrNull
      simp only
      rw [if_neg notSign, decimal_of_isDigit isDigit, Option.bind_some,
        if_pos (by omega)]

/-- A text of digits that is read as a number stands for it. -/
theorem numeral_of_toIntOrNull {digits : Text} {value : Int}
    (isDigit : ∀ char ∈ digits, char.isDigit = true)
    (read : toIntOrNull digits = some value) : Numeral digits value := by
  cases digits with
  | nil => cases read
  | cons first rest =>
      have notSign := not_lt_zero_of_isDigit (isDigit _ List.mem_cons_self)
      unfold Kotlin.toIntOrNull at read
      simp only at read
      rw [if_neg notSign, decimal_of_isDigit isDigit, Option.bind_some] at read
      obtain ⟨_, ⟨⟩⟩ := Option.ite_none_right_eq_some.mp read
      exact ⟨List.cons_ne_nil _ _, isDigit, rfl⟩

/-- The text of a number: its digits, after a minus where it is negative. -/
theorem toList_toString (value : Int) :
    (toString value).toList =
      (if value < 0 then ['-'] else []) ++ Nat.toDigits 10 value.natAbs := by
  cases value with
  | ofNat n =>
      have notNegative : ¬Int.ofNat n < 0 :=
        Int.not_lt.mpr (Int.natCast_nonneg n)
      rw [if_neg notNegative]
      exact Nat.toList_repr
  | negSucc n =>
      rw [if_pos (Int.negSucc_lt_zero n)]
      change (("-" : String) ++ Nat.repr (n + 1)).toList = _
      rw [String.toList_append, Nat.toList_repr]
      rfl

/-- A number that is not negative is written in decimal digits. -/
theorem numeral_toString {value : Int} (notNegative : 0 ≤ value) :
    Numeral (toString value).toList value := by
  rw [toList_toString, if_neg (Int.not_lt.mpr notNegative), List.nil_append]
  refine ⟨Nat.toDigits_ne_nil, ?_, ?_⟩
  · intro char member
    exact Nat.isDigit_of_mem_toDigits (by decide) (by decide) member
  · rw [Nat.ofDigitChars_ten_toDigits]
    omega

theorem colon_notMem_toString (value : Int) :
    ':' ∉ (toString value).toList := by
  rw [toList_toString, List.mem_append, not_or]
  constructor
  · split <;> decide
  · intro member
    have digit := Nat.isDigit_of_mem_toDigits (by decide) (by decide) member
    exact absurd digit (by decide)

/-- Different numbers are written differently. -/
theorem toString_inj {left right : Int}
    (same : (toString left).toList = (toString right).toList) :
    left = right := by
  have minus (n : Nat) : '-' ∉ Nat.toDigits 10 n := by
    intro member
    have digit := Nat.isDigit_of_mem_toDigits (by decide) (by decide) member
    exact absurd digit (by decide)
  have abs {m n : Nat} (digits : Nat.toDigits 10 m = Nat.toDigits 10 n) :
      m = n := by
    rw [← Nat.ofDigitChars_ten_toDigits (n := m), digits,
      Nat.ofDigitChars_ten_toDigits]
  rw [toList_toString, toList_toString] at same
  by_cases leftNeg : left < 0 <;> by_cases rightNeg : right < 0
  · rw [if_pos leftNeg, if_pos rightNeg] at same
    have digits := abs (List.cons.inj same).2
    omega
  · rw [if_pos leftNeg, if_neg rightNeg] at same
    change '-' :: _ = Nat.toDigits 10 right.natAbs at same
    exact absurd (same ▸ List.mem_cons_self) (minus right.natAbs)
  · rw [if_neg leftNeg, if_pos rightNeg] at same
    change Nat.toDigits 10 left.natAbs = '-' :: _ at same
    exact absurd (same ▸ List.mem_cons_self) (minus left.natAbs)
  · rw [if_neg leftNeg, if_neg rightNeg] at same
    have digits := abs same
    omega

/-- A colon that does not come again ends what is before it. -/
theorem colon_inj {left right first second : Text} (inFirst : ':' ∉ first)
    (inSecond : ':' ∉ second)
    (same : left ++ ':' :: first = right ++ ':' :: second) :
    left = right ∧ first = second := by
  have colonAfter (middle : Text) (rest : Text) :
      ':' ∈ middle ++ ':' :: rest :=
    List.mem_append_right _ List.mem_cons_self
  rcases List.append_eq_append_iff.mp same with
    ⟨middle, longer, rest⟩ | ⟨middle, longer, rest⟩
  · cases middle with
    | nil =>
        rw [List.append_nil] at longer
        exact ⟨longer.symm, (List.cons.inj rest).2⟩
    | cons char middle =>
        obtain ⟨rfl, after⟩ := List.cons.inj rest
        exact absurd (after ▸ colonAfter middle second) inFirst
  · cases middle with
    | nil =>
        rw [List.append_nil] at longer
        exact ⟨longer, (List.cons.inj rest).2.symm⟩
    | cons char middle =>
        obtain ⟨rfl, after⟩ := List.cons.inj rest
        exact absurd (after ▸ colonAfter middle first) inSecond

/-! ## Collections -/

variable {α : Type} {κ : Type} [DecidableEq κ]

/-- The elements whose key was not seen before. -/
def distinctFrom (key : α → κ) : List κ → List α → List α
  | _, [] => []
  | seen, first :: rest =>
      if key first ∈ seen then distinctFrom key seen rest
      else first :: distinctFrom key (key first :: seen) rest

/-- `distinctBy`: of the elements of one key the first. -/
def distinctBy (key : α → κ) (list : List α) : List α :=
  distinctFrom key [] list

theorem mem_of_mem_distinctFrom {key : α → κ} {element : α} {list : List α} :
    ∀ {seen : List κ}, element ∈ distinctFrom key seen list →
      element ∈ list := by
  induction list with
  | nil =>
      intro seen member
      exact member
  | cons first rest inductionHypothesis =>
      intro seen member
      rw [distinctFrom] at member
      by_cases known : key first ∈ seen
      · rw [if_pos known] at member
        exact List.mem_cons_of_mem _ (inductionHypothesis member)
      · rw [if_neg known] at member
        rcases List.mem_cons.mp member with rfl | later
        · exact List.mem_cons_self
        · exact List.mem_cons_of_mem _ (inductionHypothesis later)

/-- `distinctBy` adds nothing. -/
theorem mem_of_mem_distinctBy {key : α → κ} {element : α} {list : List α}
    (member : element ∈ distinctBy key list) : element ∈ list :=
  mem_of_mem_distinctFrom member

/-- What is kept has new keys, each once. -/
theorem nodup_distinctFrom {key : α → κ} {list : List α} :
    ∀ seen : List κ, ((distinctFrom key seen list).map key).Nodup ∧
      ∀ element ∈ distinctFrom key seen list, key element ∉ seen := by
  induction list with
  | nil =>
      intro seen
      exact ⟨List.nodup_nil, nofun⟩
  | cons first rest inductionHypothesis =>
      intro seen
      rw [distinctFrom]
      by_cases known : key first ∈ seen
      · rw [if_pos known]
        exact inductionHypothesis seen
      · obtain ⟨nodup, unseen⟩ := inductionHypothesis (key first :: seen)
        rw [if_neg known]
        constructor
        · refine List.nodup_cons.mpr ⟨?_, nodup⟩
          intro again
          obtain ⟨element, later, same⟩ := List.mem_map.mp again
          exact unseen element later (same ▸ List.mem_cons_self)
        · intro element member
          rcases List.mem_cons.mp member with rfl | later
          · exact known
          · intro before
            exact unseen element later (List.mem_cons_of_mem _ before)

/-- No key is left twice. -/
theorem nodup_distinctBy (key : α → κ) (list : List α) :
    ((distinctBy key list).map key).Nodup :=
  (nodup_distinctFrom []).1

/-- `sortedBy`, which is stable. -/
def sortedBy {ρ : Type} [LinearOrder ρ] (key : α → ρ) (list : List α) :
    List α :=
  list.insertionSort fun first second => key first ≤ key second

@[simp] theorem mem_sortedBy {ρ : Type} [LinearOrder ρ] {key : α → ρ}
    {element : α} {list : List α} :
    element ∈ sortedBy key list ↔ element ∈ list :=
  List.mem_insertionSort _

@[simp] theorem length_sortedBy {ρ : Type} [LinearOrder ρ] (key : α → ρ)
    (list : List α) : (sortedBy key list).length = list.length :=
  List.length_insertionSort _ _

/-- Sorting only changes the order. -/
theorem perm_sortedBy {ρ : Type} [LinearOrder ρ] (key : α → ρ)
    (list : List α) : (sortedBy key list).Perm list :=
  List.perm_insertionSort _ _

/-- The keys go up. -/
theorem pairwise_sortedBy {ρ : Type} [LinearOrder ρ] (key : α → ρ)
    (list : List α) :
    (sortedBy key list).Pairwise fun first second => key first ≤ key second := by
  let order : α → α → Prop := fun first second => key first ≤ key second
  have total : Std.Total order := ⟨fun first second => le_total _ _⟩
  have trans : IsTrans α order := ⟨fun _ _ _ => le_trans⟩
  exact List.pairwise_insertionSort order list

/-- What a limit cuts off a sorted list is behind as many others as the limit
admits, and none of them is larger. -/
theorem of_notMem_take {ρ : Type} [LinearOrder ρ] {key : α → ρ}
    {list : List α} {element : α} {limit : Nat}
    (sorted : list.Pairwise fun first second => key first ≤ key second)
    (member : element ∈ list) (cutOff : element ∉ list.take limit) :
    (list.take limit).length = limit ∧
      ∀ other ∈ list.take limit, key other ≤ key element := by
  rw [← List.take_append_drop limit list] at member sorted
  have later := (List.mem_append.mp member).resolve_left cutOff
  constructor
  · have position := List.length_pos_of_mem later
    rw [List.length_drop] at position
    rw [List.length_take]
    omega
  · intro other before
    exact (List.pairwise_append.mp sorted).2.2 other before element later

end ProxyVPN.Kotlin
