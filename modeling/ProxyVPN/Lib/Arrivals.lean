/-
Module: ProxyVPN.Lib.Arrivals
Purpose: A stream that reaches its reader in pieces.  Readers are described by
  the flattened stream and by what is left of the pieces after a count of
  elements was waited for, so that facts about whole streams do not depend on
  how they were cut.
Trusted boundary: none
Main exports: Arrivals, settle, putBack, consume, flatten_consume
-/
import Mathlib.Data.List.Basic

namespace ProxyVPN

universe u

/-- The pieces of a stream in order of arrival.  An empty piece stands for a
moment at which the reader finds nothing and has to wait. -/
abbrev Arrivals (α : Type u) := List (List α)

namespace Arrivals

variable {α : Type u}

/-- The pieces from the first one that brings something. -/
def settle : Arrivals α → Arrivals α
  | [] => []
  | [] :: arrivals => settle arrivals
  | (first :: piece) :: arrivals => (first :: piece) :: arrivals

/-- What a read that stopped inside a piece leaves. -/
def putBack : List α → Arrivals α → Arrivals α
  | [], arrivals => arrivals
  | first :: piece, arrivals => (first :: piece) :: arrivals

/-- What is left once `count` elements have been waited for. -/
def consume : Nat → Arrivals α → Arrivals α
  | _, [] => []
  | count, [] :: arrivals => consume count arrivals
  | count, (first :: piece) :: arrivals =>
      if (first :: piece).length < count then
        consume (count - (first :: piece).length) arrivals
      else
        putBack ((first :: piece).drop count) arrivals

@[simp] theorem flatten_settle (arrivals : Arrivals α) :
    (settle arrivals).flatten = arrivals.flatten := by
  induction arrivals with
  | nil => rfl
  | cons piece arrivals inductionHypothesis =>
      cases piece with
      | nil => exact inductionHypothesis
      | cons first piece => rfl

@[simp] theorem flatten_putBack (piece : List α) (arrivals : Arrivals α) :
    (putBack piece arrivals).flatten = piece ++ arrivals.flatten := by
  cases piece <;> rfl

/-- Waiting for `count` elements takes exactly the first `count`. -/
@[simp] theorem flatten_consume (count : Nat) (arrivals : Arrivals α) :
    (consume count arrivals).flatten = arrivals.flatten.drop count := by
  induction arrivals generalizing count with
  | nil => simp [consume]
  | cons piece arrivals inductionHypothesis =>
      cases piece with
      | nil => exact inductionHypothesis count
      | cons first piece =>
          rw [consume, List.flatten_cons, List.drop_append]
          by_cases whole : (first :: piece).length < count
          · rw [if_pos whole, inductionHypothesis,
              List.drop_eq_nil_of_le (Nat.le_of_lt whole), List.nil_append]
          · have kept : count - (first :: piece).length = 0 := by omega
            rw [if_neg whole, flatten_putBack, kept, List.drop_zero]

@[simp] theorem consume_settle (count : Nat) (arrivals : Arrivals α) :
    consume count (settle arrivals) = consume count arrivals := by
  induction arrivals with
  | nil => rfl
  | cons piece arrivals inductionHypothesis =>
      cases piece with
      | nil => exact inductionHypothesis
      | cons first piece => rfl

theorem length_putBack_le (piece : List α) (arrivals : Arrivals α) :
    (putBack piece arrivals).length ≤ arrivals.length + 1 := by
  cases piece with
  | nil => exact Nat.le_succ _
  | cons first piece => exact Nat.le_refl _

/-- Waiting never adds a piece. -/
theorem length_consume_le (count : Nat) (arrivals : Arrivals α) :
    (consume count arrivals).length ≤ arrivals.length := by
  induction arrivals generalizing count with
  | nil => exact Nat.le_refl _
  | cons piece arrivals inductionHypothesis =>
      cases piece with
      | nil => exact Nat.le_succ_of_le (inductionHypothesis count)
      | cons first piece =>
          rw [consume]
          split
          · exact Nat.le_succ_of_le (inductionHypothesis _)
          · exact length_putBack_le _ _

/-- Settled arrivals begin with a piece that brings something. -/
theorem head_settle_ne_nil {arrivals rest : Arrivals α} {piece : List α}
    (settled : settle arrivals = piece :: rest) : piece ≠ [] := by
  induction arrivals with
  | nil => cases settled
  | cons head arrivals inductionHypothesis =>
      cases head with
      | nil => exact inductionHypothesis settled
      | cons first head =>
          cases settled
          exact List.cons_ne_nil first head

end Arrivals

end ProxyVPN
