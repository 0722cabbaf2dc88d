/-
Module: ProxyVPN.Lib.Base64
Purpose: The standard encoding of bytes as Base64 with padding, and a decoder
  that inverts it.
Trusted boundary: none
Main exports: Base64.encode, Base64.decode, Base64.decode_encode,
  Base64.notMem_encode
-/
import Mathlib.Data.List.Basic

namespace ProxyVPN.Base64

/-- The character for six bits. -/
def digit (value : Nat) : Char :=
  if value < 26 then Char.ofNat (value + 65)
  else if value < 52 then Char.ofNat (value + 71)
  else if value < 62 then Char.ofNat (value - 4)
  else if value = 62 then '+'
  else '/'

/-- The six bits of a character. -/
def valueOf (char : Char) : Option Nat :=
  let code := char.toNat
  if 65 ≤ code ∧ code ≤ 90 then some (code - 65)
  else if 97 ≤ code ∧ code ≤ 122 then some (code - 71)
  else if 48 ≤ code ∧ code ≤ 57 then some (code + 4)
  else if char = '+' then some 62
  else if char = '/' then some 63
  else none

/-- Three bytes are four characters, and what is left over is padded. -/
def encode : List UInt8 → List Char
  | [] => []
  | [first] =>
      [digit (first.toNat / 4), digit (first.toNat % 4 * 16), '=', '=']
  | [first, second] =>
      [digit (first.toNat / 4),
        digit (first.toNat % 4 * 16 + second.toNat / 16),
        digit (second.toNat % 16 * 4), '=']
  | first :: second :: third :: rest =>
      digit (first.toNat / 4) ::
        digit (first.toNat % 4 * 16 + second.toNat / 16) ::
        digit (second.toNat % 16 * 4 + third.toNat / 64) ::
        digit (third.toNat % 64) :: encode rest

/-- Four characters at a time, up to the padding. -/
def decode : List Char → Option (List UInt8)
  | [] => some []
  | first :: second :: third :: fourth :: rest =>
      (valueOf first).bind fun a => (valueOf second).bind fun b =>
        if third = '=' then some [UInt8.ofNat (a * 4 + b / 16)]
        else
          (valueOf third).bind fun c =>
            if fourth = '=' then
              some [UInt8.ofNat (a * 4 + b / 16),
                UInt8.ofNat (b % 16 * 16 + c / 4)]
            else
              (valueOf fourth).bind fun d =>
                (decode rest).map fun bytes =>
                  UInt8.ofNat (a * 4 + b / 16) ::
                    UInt8.ofNat (b % 16 * 16 + c / 4) ::
                    UInt8.ofNat (c % 4 * 64 + d) :: bytes
  | _ => none

theorem valueOf_digit {value : Nat} (bound : value < 64) :
    valueOf (digit value) = some value := by
  have all : ∀ value : Fin 64, valueOf (digit value) = some value.val := by
    decide
  exact all ⟨value, bound⟩

theorem digit_ne_pad {value : Nat} (bound : value < 64) :
    digit value ≠ '=' := by
  have all : ∀ value : Fin 64, digit value ≠ '=' := by
    decide
  exact all ⟨value, bound⟩

/-- A byte from the parts it was cut into. -/
theorem ofNat_eq (byte : UInt8) {value : Nat} (same : value = byte.toNat) :
    UInt8.ofNat value = byte := by
  rw [same]
  exact UInt8.ofNat_toNat

/-- Decoding inverts encoding. -/
theorem decode_encode (bytes : List UInt8) :
    decode (encode bytes) = some bytes := by
  induction bytes using encode.induct with
  | case1 => rfl
  | case2 first =>
      have bound := first.toNat_lt
      rw [encode, decode, valueOf_digit (by omega), Option.bind_some,
        valueOf_digit (by omega), Option.bind_some, if_pos rfl,
        ofNat_eq first (by omega)]
  | case3 first second =>
      have firstBound := first.toNat_lt
      have secondBound := second.toNat_lt
      rw [encode, decode, valueOf_digit (by omega), Option.bind_some,
        valueOf_digit (by omega), Option.bind_some,
        if_neg (digit_ne_pad (by omega)), valueOf_digit (by omega),
        Option.bind_some, if_pos rfl, ofNat_eq first (by omega),
        ofNat_eq second (by omega)]
  | case4 first second third rest inductionHypothesis =>
      have firstBound := first.toNat_lt
      have secondBound := second.toNat_lt
      have thirdBound := third.toNat_lt
      rw [encode, decode, valueOf_digit (by omega), Option.bind_some,
        valueOf_digit (by omega), Option.bind_some,
        if_neg (digit_ne_pad (by omega)), valueOf_digit (by omega),
        Option.bind_some, if_neg (digit_ne_pad (by omega)),
        valueOf_digit (by omega), Option.bind_some, inductionHypothesis,
        Option.map_some, ofNat_eq first (by omega),
        ofNat_eq second (by omega),
        ofNat_eq third (by omega)]

/-- Every character is a digit or padding. -/
theorem mem_encode {char : Char} {bytes : List UInt8}
    (member : char ∈ encode bytes) :
    char = '=' ∨ ∃ value : Fin 64, char = digit value := by
  have digits : ∀ {value : Nat}, value < 64 →
      digit value = '=' ∨ ∃ other : Fin 64, digit value = digit other :=
    fun bound => .inr ⟨⟨_, bound⟩, rfl⟩
  induction bytes using encode.induct with
  | case1 => cases member
  | case2 first =>
      have bound := first.toNat_lt
      simp only [encode, List.mem_cons, List.not_mem_nil, or_false] at member
      rcases member with rfl | rfl | rfl | rfl
      · exact digits (by omega)
      · exact digits (by omega)
      · exact .inl rfl
      · exact .inl rfl
  | case3 first second =>
      have firstBound := first.toNat_lt
      have secondBound := second.toNat_lt
      simp only [encode, List.mem_cons, List.not_mem_nil, or_false] at member
      rcases member with rfl | rfl | rfl | rfl
      · exact digits (by omega)
      · exact digits (by omega)
      · exact digits (by omega)
      · exact .inl rfl
  | case4 first second third rest inductionHypothesis =>
      have firstBound := first.toNat_lt
      have secondBound := second.toNat_lt
      have thirdBound := third.toNat_lt
      simp only [encode, List.mem_cons] at member
      rcases member with rfl | rfl | rfl | rfl | later
      · exact digits (by omega)
      · exact digits (by omega)
      · exact digits (by omega)
      · exact digits (by omega)
      · exact inductionHypothesis later

/-- So any other character does not come in an encoded text. -/
theorem notMem_encode {char : Char} (bytes : List UInt8) (notPad : char ≠ '=')
    (notDigit : ∀ value : Fin 64, char ≠ digit value) :
    char ∉ encode bytes := by
  intro member
  rcases mem_encode member with pad | ⟨value, isDigit⟩
  · exact notPad pad
  · exact notDigit value isDigit

end ProxyVPN.Base64
