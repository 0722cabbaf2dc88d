/-
Module: ProxyVPN.Lib.JavaScript
Purpose: The functions of JavaScript on texts and numbers that the models use. A
  text is the list of its characters.
Trusted boundary: the two zeros are one number.
Main exports: JavaScript.trim, JavaScript.responseText, JavaScript.Number,
  JavaScript.parseInt, JavaScript.trim_byteOrderMark,
  JavaScript.trim_of_forall, JavaScript.parseInt_of_numeral
-/
import ProxyVPN.Lib.Kotlin

namespace ProxyVPN.JavaScript

open Kotlin (Text Numeral code_of_isDigit)

/-! ## Texts -/

/-- The white space and the line ends of the language. -/
def isWhiteSpace (char : Char) : Bool :=
  let code := char.toNat
  (9 ≤ code && code ≤ 13) || code == 32 || code == 0xA0 || code == 0x1680 ||
    (0x2000 ≤ code && code ≤ 0x200A) || code == 0x2028 || code == 0x2029 ||
    code == 0x202F || code == 0x205F || code == 0x3000 || code == 0xFEFF

def trim (text : Text) : Text :=
  ((text.dropWhile isWhiteSpace).reverse.dropWhile isWhiteSpace).reverse

def byteOrderMark : Char :=
  Char.ofNat 0xFEFF

/-- `Response.text` of a body that has been decoded: a byte order mark at its
beginning is left out. -/
def responseText (decoded : Text) : Text :=
  match decoded with
  | [] => []
  | first :: rest => if first = byteOrderMark then rest else first :: rest

/-- A byte order mark counts as white space. -/
theorem trim_byteOrderMark (text : Text) :
    trim (byteOrderMark :: text) = trim text := by
  unfold trim
  rw [List.dropWhile_cons_of_pos (by decide)]

/-- Without white space there is nothing to trim. -/
theorem trim_of_forall {text : Text}
    (solid : ∀ char ∈ text, isWhiteSpace char = false) : trim text = text :=
  Kotlin.dropWhile_reverse_of_forall solid

/-! ## Numbers -/

/-- The numbers that are read of a text. -/
inductive Number where
  | nan
  | finite (value : Int)
  | infinity (negative : Bool)
  deriving DecidableEq

/-- Whether the number counts as true. -/
def Number.truthy : Number → Bool
  | nan => false
  | finite value => value ≠ 0
  | infinity _ => true

/-- The nearest integer of 53 bits and zeros after them, the even one of two. -/
def nearest (value : Nat) : Nat :=
  let unit := 2 ^ (value.log2 - 52)
  let kept := value / unit
  let lost := value % unit
  if unit < 2 * lost ∨ (2 * lost = unit ∧ kept % 2 = 1) then (kept + 1) * unit
  else kept * unit

/-- The double of an integer. One of more than 1024 bits is too large. -/
def Number.ofNat (negative : Bool) (value : Nat) : Number :=
  if 1024 ≤ (nearest value).log2 then infinity negative
  else finite (if negative then -nearest value else nearest value)

def digitOf (radix : Nat) (char : Char) : Option Nat :=
  let code := char.toNat
  let value :=
    if 48 ≤ code ∧ code ≤ 57 then code - 48
    else if 97 ≤ code ∧ code ≤ 122 then code - 87
    else if 65 ≤ code ∧ code ≤ 90 then code - 55
    else radix
  if value < radix then some value else none

/-- The digits at the beginning. -/
def leadingDigits (radix : Nat) : Text → List Nat
  | [] => []
  | char :: rest =>
      match digitOf radix char with
      | some digit => digit :: leadingDigits radix rest
      | none => []

/-- The number of the digits at the beginning. -/
def parseDigits (negative : Bool) (radix : Nat) (text : Text) : Number :=
  let digits := leadingDigits radix text
  if digits = [] then .nan
  else .ofNat negative (digits.foldl (fun value digit => value * radix + digit) 0)

/-- `parseInt` without a radix. What follows the number is not looked at. -/
def parseInt (text : Text) : Number :=
  let trimmed := text.dropWhile isWhiteSpace
  let negative : Bool := trimmed.head? = some '-'
  let unsigned :=
    if trimmed.head? = some '-' ∨ trimmed.head? = some '+' then trimmed.tail
    else trimmed
  match unsigned with
  | '0' :: 'x' :: rest => parseDigits negative 16 rest
  | '0' :: 'X' :: rest => parseDigits negative 16 rest
  | _ => parseDigits negative 10 unsigned

example : parseInt " -0x1F;".toList = .finite (-31) := by decide

/-- Below 2 to the 53rd every integer is a number of the language. -/
theorem nearest_of_lt {value : Nat} (small : value < 2 ^ 53) :
    nearest value = value := by
  have bits : value.log2 - 52 = 0 := by
    by_cases zero : value = 0
    · rw [zero]
      rfl
    · have fewer := (Nat.log2_lt zero).mpr small
      omega
  unfold nearest
  simp only
  rw [bits, Nat.pow_zero, Nat.mod_one, Nat.div_one, if_neg (by omega),
    Nat.mul_one]

/-- Such an integer is read as itself. -/
theorem Number.ofNat_of_lt {value : Nat} (small : value < 2 ^ 53) :
    Number.ofNat false value = finite value := by
  have notLarge : ¬1024 ≤ value.log2 := by
    by_cases zero : value = 0
    · rw [zero]
      decide
    · have fewer := (Nat.log2_lt zero).mpr small
      omega
  unfold Number.ofNat
  rw [nearest_of_lt small, if_neg notLarge]
  rfl

/-! ## Numerals -/

theorem isWhiteSpace_of_isDigit {char : Char} (isDigit : char.isDigit = true) :
    isWhiteSpace char = false := by
  have code := code_of_isDigit isDigit
  unfold isWhiteSpace
  simp only [Bool.or_eq_false_iff, Bool.and_eq_false_iff,
    decide_eq_false_iff_not, beq_eq_false_iff_ne]
  omega

theorem digitOf_of_isDigit {char : Char} (isDigit : char.isDigit = true) :
    digitOf 10 char = some (char.toNat - '0'.toNat) := by
  have code := code_of_isDigit isDigit
  unfold digitOf
  simp only
  rw [if_pos code, if_pos (by omega)]
  rfl

/-- All of a text of decimal digits counts. -/
theorem leadingDigits_of_isDigit {digits : Text}
    (isDigit : ∀ char ∈ digits, char.isDigit = true) :
    leadingDigits 10 digits =
      digits.map fun char => char.toNat - '0'.toNat := by
  induction digits with
  | nil => rfl
  | cons first rest inductionHypothesis =>
      unfold leadingDigits
      rw [digitOf_of_isDigit (isDigit _ List.mem_cons_self), List.map_cons,
        inductionHypothesis fun char member =>
          isDigit char (List.mem_cons_of_mem _ member)]

/-- The value of digits, read from left to right as `parseDigits` does, is that
of the library. -/
theorem ofDigitChars_eq_foldl (digits : Text) (start : Nat) :
    (digits.map fun char => char.toNat - '0'.toNat).foldl
        (fun value digit => value * 10 + digit) start =
      Nat.ofDigitChars 10 digits start := by
  induction digits generalizing start with
  | nil => rfl
  | cons first rest inductionHypothesis =>
      rw [List.map_cons, List.foldl_cons, inductionHypothesis,
        Nat.ofDigitChars_cons, Nat.mul_comm start]

/-- Both languages read a plain numeral as the same number. -/
theorem parseDigits_of_numeral {digits : Text} {value : Int}
    (numeral : Numeral digits value) (small : value < 2 ^ 53) :
    parseDigits false 10 digits = .finite value := by
  obtain ⟨nonempty, isDigit, rfl⟩ := numeral
  unfold parseDigits
  simp only
  rw [leadingDigits_of_isDigit isDigit, ofDigitChars_eq_foldl,
    if_neg (by rwa [List.map_eq_nil_iff]), Number.ofNat_of_lt (by omega)]

/-- Digits are read as the number that they stand for. -/
theorem parseInt_of_numeral {digits : Text} {value : Int}
    (numeral : Numeral digits value) (small : value < 2 ^ 53) :
    parseInt digits = .finite value := by
  have parsed := parseDigits_of_numeral numeral small
  have isDigit := numeral.isDigit
  cases digits with
  | nil => exact absurd rfl numeral.nonempty
  | cons first rest =>
      have digit := isDigit _ List.mem_cons_self
      have solid := isWhiteSpace_of_isDigit digit
      have noMinus : first ≠ '-' := by
        rintro rfl
        exact absurd digit (by decide)
      have noPlus : first ≠ '+' := by
        rintro rfl
        exact absurd digit (by decide)
      unfold parseInt
      simp only
      rw [List.dropWhile_cons_of_neg (by rw [solid]; decide), List.head?_cons]
      simp only [Option.some.injEq, noMinus, noPlus, or_self, if_false,
        decide_false]
      split
      · next same =>
          cases same
          exact absurd (isDigit 'x' (by simp)) (by decide)
      · next same =>
          cases same
          exact absurd (isDigit 'X' (by simp)) (by decide)
      · exact parsed

end ProxyVPN.JavaScript
