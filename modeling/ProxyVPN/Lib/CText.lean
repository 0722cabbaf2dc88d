/-
Module: ProxyVPN.Lib.CText
Purpose: Texts as C has them, bytes up to a terminating zero, with the
  functions of the C library that compare them and read numbers, and the
  conversion of numbers to a signed word.
Trusted boundary: none
Main exports: CText.ofBuffer, CText.strcasecmp, CText.strtoul, CText.strtol,
  CText.toInt32, CText.toInt32_range, CText.toInt32_of_range
-/
import Mathlib.Algebra.Group.Int.Defs
import Mathlib.Algebra.Group.Nat.Defs
import Mathlib.Data.Int.Basic

namespace ProxyVPN.CText

/-- The bytes of a literal. -/
def ascii (text : String) : List UInt8 :=
  text.toList.map fun char => UInt8.ofNat char.toNat

/-- The text that begins in a buffer. -/
def ofBuffer (bytes : List UInt8) : List UInt8 :=
  bytes.takeWhile (· ≠ 0)

def tolower (byte : UInt8) : UInt8 :=
  if 65 ≤ byte ∧ byte ≤ 90 then byte + 32 else byte

/-- The difference at the first byte that differs. -/
def strcasecmp : List UInt8 → List UInt8 → Int
  | [], [] => 0
  | [], right :: _ => -(tolower right).toNat
  | left :: _, [] => (tolower left).toNat
  | left :: lefts, right :: rights =>
      if tolower left = tolower right then strcasecmp lefts rights
      else (tolower left).toNat - (tolower right).toNat

def isspace (byte : UInt8) : Bool :=
  byte == 32 || (9 ≤ byte && byte ≤ 13)

def isdigit (byte : UInt8) : Bool :=
  48 ≤ byte && byte ≤ 57

/-- The sign and the value of the decimal number at the beginning. -/
def decimal (text : List UInt8) : Bool × Nat :=
  let digitsOf (rest : List UInt8) : Nat :=
    (rest.takeWhile isdigit).foldl
      (fun value digit => value * 10 + (digit.toNat - 48)) 0
  match text.dropWhile isspace with
  | [] => (false, 0)
  | sign :: rest =>
      if sign = 45 then (true, digitsOf rest)
      else if sign = 43 then (false, digitsOf rest)
      else (false, digitsOf (sign :: rest))

/-- `strtoul` with base 10 and an `unsigned long` of some bits: a number that is
too large becomes the largest, and a minus negates modulo. -/
def strtoul (bits : Nat) (text : List UInt8) : Nat :=
  let (negative, value) := decimal text
  if 2 ^ bits ≤ value then 2 ^ bits - 1
  else if negative then (2 ^ bits - value) % 2 ^ bits
  else value

/-- `strtol` with base 10 and a `long` of some bits. -/
def strtol (bits : Nat) (text : List UInt8) : Int :=
  let (negative, value) := decimal text
  if negative then max (-2 ^ (bits - 1)) (-value)
  else min (2 ^ (bits - 1) - 1) value

/-- The conversion to an `int`, and what its operations leave of a result that
does not fit. -/
def toInt32 (value : Int) : Int :=
  value.bmod (2 ^ 32)

theorem toInt32_range (value : Int) :
    -2 ^ 31 ≤ toInt32 value ∧ toInt32 value < 2 ^ 31 := by
  have low : -((2 ^ 32 : Nat) / 2 : Int) ≤ value.bmod (2 ^ 32) :=
    Int.le_bmod (by decide)
  have high : value.bmod (2 ^ 32) < (((2 ^ 32 : Nat) : Int) + 1) / 2 :=
    Int.bmod_lt (by decide)
  unfold toInt32
  omega

/-- A value that fits is kept. -/
theorem toInt32_of_range {value : Int} (low : -2 ^ 31 ≤ value)
    (high : value < 2 ^ 31) : toInt32 value = value := by
  unfold toInt32
  rw [Int.bmod_def]
  omega

example : toInt32 (strtoul 64 (ascii "3000000000")) = -1294967296 := by decide

end ProxyVPN.CText
