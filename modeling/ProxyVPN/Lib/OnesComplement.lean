/-
Module: ProxyVPN.Lib.OnesComplement
Purpose: Ones-complement sums of 16-bit words.  A sum with end-around carries
  is the unique canonical representative of the plain sum modulo 65535, so it
  does not matter when the carries are folded in.
Trusted boundary: human-reviewed spec
Main exports: onesSum, Represents, Represents.unique, Represents.fold,
  onesSum_represents, onesSum_complement
-/
import Mathlib.Data.Nat.ModEq
import Mathlib.Algebra.BigOperators.Group.List.Basic

namespace ProxyVPN.OnesComplement

/-- Addition of 16-bit words with the carry brought around. -/
def carryAdd (left right : Nat) : Nat :=
  (left + right) % 2 ^ 16 + (left + right) / 2 ^ 16

/-- The ones-complement sum of 16-bit words. -/
def onesSum (words : List Nat) : Nat := words.foldl carryAdd 0

/-- `word` is what a plain sum becomes when its carries are brought around
until it fits: congruent, and zero for zero alone. -/
structure Represents (sum word : Nat) : Prop where
  fits : word < 2 ^ 16
  congruent : word % 65535 = sum % 65535
  zero : word = 0 ↔ sum = 0

theorem Represents.unique {sum first second : Nat}
    (left : Represents sum first) (right : Represents sum second) :
    first = second := by
  obtain ⟨leftFits, leftCongruent, leftZero⟩ := left
  obtain ⟨rightFits, rightCongruent, rightZero⟩ := right
  omega

theorem Represents.of_lt {sum : Nat} (fits : sum < 2 ^ 16) :
    Represents sum sum :=
  ⟨fits, rfl, Iff.rfl⟩

/-- Bringing the high part of a sum around once does not change what it
represents. -/
theorem Represents.fold {sum word : Nat}
    (folded : Represents (sum % 2 ^ 16 + sum / 2 ^ 16) word) :
    Represents sum word := by
  obtain ⟨fits, congruent, zero⟩ := folded
  refine ⟨fits, ?_, ?_⟩
  · omega
  · rw [zero]
    omega

theorem carryAdd_represents {sum left right : Nat}
    (represents : Represents sum left) (fits : right < 2 ^ 16) :
    Represents (sum + right) (carryAdd left right) := by
  obtain ⟨leftFits, congruent, zero⟩ := represents
  have bounded : carryAdd left right < 2 ^ 16 := by
    unfold carryAdd
    omega
  refine ⟨bounded, ?_, ?_⟩
  · unfold carryAdd
    omega
  · unfold carryAdd
    omega

private theorem foldl_represents {words : List Nat} :
    ∀ {sum word : Nat}, Represents sum word → (∀ next ∈ words, next < 2 ^ 16) →
      Represents (sum + words.sum) (words.foldl carryAdd word) := by
  induction words with
  | nil =>
      intro sum word represents _
      exact represents
  | cons next words inductionHypothesis =>
      intro sum word represents fits
      have nextFits : next < 2 ^ 16 := fits next List.mem_cons_self
      have rest := inductionHypothesis (carryAdd_represents represents nextFits)
        fun later member => fits later (List.mem_cons_of_mem next member)
      rwa [List.sum_cons, List.foldl_cons, ← Nat.add_assoc]

/-- The ones-complement sum represents the plain sum. -/
theorem onesSum_represents {words : List Nat}
    (fits : ∀ word ∈ words, word < 2 ^ 16) :
    Represents words.sum (onesSum words) := by
  have sums := foldl_represents (Represents.of_lt (by decide : 0 < 2 ^ 16)) fits
  rwa [Nat.zero_add] at sums

/-- Words that sum to `sum` and the complement of what `sum` represents have
the ones-complement sum of all ones. -/
theorem onesSum_complement {words : List Nat} {sum word : Nat}
    (fits : ∀ word ∈ words, word < 2 ^ 16) (represents : Represents sum word)
    (total : words.sum = sum + (65535 - word)) : onesSum words = 65535 := by
  apply (onesSum_represents fits).unique
  obtain ⟨wordFits, congruent, zero⟩ := represents
  refine ⟨by decide, ?_, ?_⟩
  · omega
  · omega

end ProxyVPN.OnesComplement
