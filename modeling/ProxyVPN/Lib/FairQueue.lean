/-
Module: ProxyVPN.Lib.FairQueue
Purpose: A queue of keys in which the least is served, and then leaves or comes
  back with a larger key: how many turns there are before a key is served.
Trusted boundary: human-reviewed spec
Main exports: turnsBefore, Turn, Turn.turnsBefore_lt, turnsBefore_le
-/
import Mathlib.Data.List.Count
import Mathlib.Data.List.Perm.Basic

namespace ProxyVPN.FairQueue

/-- A bound on the turns of others before the key `last` is the one to be served, if
there are never more than `most` keys: each smaller key has at most so many turns,
and so does the least one, as often as it is there. -/
def turnsBefore (most last : Nat) : List Nat → Nat
  | [] => 0
  | least :: rest => (last - least) * most + (least :: rest).count least

/-- The least key has been served: it leaves, or comes back with a larger one. -/
inductive Turn (least : Nat) (rest later : List Nat) : Prop where
  | leaves (perm : later.Perm rest)
  | returns (key : Nat) (larger : least < key) (perm : later.Perm (key :: rest))

section Turns

variable {most last least : Nat} {rest later : List Nat}

theorem Turn.mem (turn : Turn least rest later) : ∀ key ∈ rest, key ∈ later := by
  intro key member
  cases turn with
  | leaves perm => exact perm.mem_iff.mpr member
  | returns other _ perm => exact perm.mem_iff.mpr (List.mem_cons_of_mem _ member)

/-- No key becomes smaller than the least was. -/
theorem Turn.le (turn : Turn least rest later) (least_le : ∀ key ∈ rest, least ≤ key) :
    ∀ key ∈ later, least ≤ key := by
  intro key member
  cases turn with
  | leaves perm => exact least_le key (perm.mem_iff.mp member)
  | returns other larger perm =>
      rcases List.mem_cons.mp (perm.mem_iff.mp member) with rfl | inRest
      · exact Nat.le_of_lt larger
      · exact least_le key inRest

/-- The least key is there once less. -/
theorem Turn.count (turn : Turn least rest later) :
    later.count least = rest.count least := by
  cases turn with
  | leaves perm => exact perm.count_eq least
  | returns key larger perm =>
      rw [perm.count_eq least, List.count_cons_of_ne (Nat.ne_of_gt larger)]

/-- With each turn of another the bound gets smaller. -/
theorem Turn.turnsBefore_lt (turn : Turn least rest later)
    (least_le : ∀ key ∈ rest, least ≤ key) (sorted : later.Pairwise (· ≤ ·))
    (waits : last ∈ rest) (few : later.length ≤ most) :
    turnsBefore most last later < turnsBefore most last (least :: rest) := by
  have before : (least :: rest).count least = rest.count least + 1 := List.count_cons_self
  have member := turn.mem last waits
  cases later with
  | nil => cases member
  | cons first others =>
      have atLeast : least ≤ first := turn.le least_le first List.mem_cons_self
      have atMost : first ≤ last := by
        rcases List.mem_cons.mp member with rfl | inOthers
        · exact Nat.le_refl _
        · exact (List.pairwise_cons.mp sorted).1 last inOthers
      simp only [turnsBefore]
      rcases Nat.eq_or_lt_of_le atLeast with rfl | larger
      · have after := turn.count
        omega
      · have some : (first :: others).count first ≤ most :=
          Nat.le_trans List.count_le_length few
        have fewer : (last - first + 1) * most ≤ (last - least) * most :=
          Nat.mul_le_mul_right most (by omega)
        rw [Nat.add_mul] at fewer
        omega

/-- When no key is far from the least, no key waits long. -/
theorem turnsBefore_le {gap : Nat} {keys : List Nat} (few : keys.length ≤ most)
    (near : ∀ least rest, keys = least :: rest → last ≤ least + gap) :
    turnsBefore most last keys ≤ (gap + 1) * most := by
  cases keys with
  | nil => exact Nat.zero_le _
  | cons least rest =>
      have isNear := near least rest rfl
      have some : (least :: rest).count least ≤ most :=
        Nat.le_trans List.count_le_length few
      have close : (last - least) * most ≤ gap * most :=
        Nat.mul_le_mul_right most (by omega)
      simp only [turnsBefore]
      rw [Nat.add_mul]
      omega

end Turns

end ProxyVPN.FairQueue
