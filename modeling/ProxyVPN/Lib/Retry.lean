/-
Module: ProxyVPN.Lib.Retry
Purpose: Loops that go round again until a pass ends them, with passes that
  depend on how often the loop has gone round: when such a loop returns.
Trusted boundary: none
Main exports: Retry.Pass, Retry.loop, Retry.Returns, Retry.returns_again_iff,
  Retry.returns_ended, Retry.not_returns_stuck, Retry.returns_iff
-/
import Mathlib.Init

namespace ProxyVPN.Retry

universe u v

/-- What one pass does: the loop goes round again, ends, or waits for ever. -/
inductive Pass (σ : Type u) (ρ : Type v) where
  | again (state : σ)
  | ended (result : ρ)
  | stuck

variable {σ : Type u} {ρ : Type v}

/-- The loop from the pass `i` on, for as many passes as there is fuel. -/
def loop (pass : Nat → σ → Pass σ ρ) : Nat → Nat → σ → Option ρ
  | 0, _, _ => none
  | fuel + 1, i, state =>
      match pass i state with
      | .again next => loop pass fuel (i + 1) next
      | .ended result => some result
      | .stuck => none

/-- The loop returns. -/
def Returns (pass : Nat → σ → Pass σ ρ) (i : Nat) (state : σ) : Prop :=
  ∃ fuel result, loop pass fuel i state = some result

variable {pass : Nat → σ → Pass σ ρ} {i : Nat} {state next : σ} {result : ρ}

/-- A pass that goes back decides nothing. -/
theorem returns_again_iff (again : pass i state = .again next) :
    Returns pass i state ↔ Returns pass (i + 1) next := by
  constructor
  · rintro ⟨fuel, result, returned⟩
    cases fuel with
    | zero => cases returned
    | succ fuel =>
        rw [loop, again] at returned
        exact ⟨fuel, result, returned⟩
  · rintro ⟨fuel, result, returned⟩
    refine ⟨fuel + 1, result, ?_⟩
    rw [loop, again]
    exact returned

theorem returns_ended (ended : pass i state = .ended result) :
    Returns pass i state := by
  refine ⟨1, result, ?_⟩
  rw [loop, ended]

/-- A pass that waits for ever is the last one. -/
theorem not_returns_stuck (stuck : pass i state = .stuck) :
    ¬Returns pass i state := by
  rintro ⟨fuel, result, returned⟩
  cases fuel with
  | zero => cases returned
  | succ fuel =>
      rw [loop, stuck] at returned
      cases returned

/-- In a state that every retry leaves as it is, the loop returns if and only if
some pass lets it return, and all passes before are retries. -/
theorem returns_iff {retried ends : Nat → Prop}
    (again : ∀ i, retried i → pass i state = .again state)
    (returns : ∀ i, ends i → Returns pass i state)
    (stuck : ∀ i, ¬retried i → ¬ends i → ¬Returns pass i state) :
    Returns pass i state ↔
      ∃ k, (∀ j < k, retried (i + j)) ∧ ends (i + k) := by
  constructor
  · rintro ⟨fuel, result, returned⟩
    induction fuel generalizing i with
    | zero => cases returned
    | succ fuel inductionHypothesis =>
        by_cases retry : retried i
        · rw [loop, again i retry] at returned
          obtain ⟨k, before, last⟩ := inductionHypothesis returned
          refine ⟨k + 1, ?_, ?_⟩
          · intro j less
            cases j with
            | zero => exact retry
            | succ j =>
                have later := before j (Nat.lt_of_succ_lt_succ less)
                rwa [Nat.add_assoc, Nat.add_comm 1 j] at later
          · rwa [Nat.add_assoc, Nat.add_comm 1 k] at last
        · by_cases last : ends i
          · exact ⟨0, fun j less => absurd less (Nat.not_lt_zero j), last⟩
          · exact absurd ⟨fuel + 1, result, returned⟩ (stuck i retry last)
  · rintro ⟨k, before, last⟩
    induction k generalizing i with
    | zero => exact returns i last
    | succ k inductionHypothesis =>
        have retry := before 0 (Nat.succ_pos k)
        rw [returns_again_iff (again i retry)]
        apply inductionHypothesis
        · intro j less
          have later := before (j + 1) (Nat.succ_lt_succ less)
          rwa [Nat.add_comm j 1, ← Nat.add_assoc] at later
        · rwa [Nat.add_comm k 1, ← Nat.add_assoc] at last

end ProxyVPN.Retry
