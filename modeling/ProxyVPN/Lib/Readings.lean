/-
Module: ProxyVPN.Lib.Readings
Purpose: Two readers of one text that take values of its pieces: when the values
  are the same sequence.
Trusted boundary: none
Main exports: Readings.filterMap_eq_iff, Readings.eq_of_flatMap_eq
-/
import Mathlib.Data.List.Forall2

namespace ProxyVPN.Readings

universe u v w

variable {α : Type u} {β : Type v} {γ : Type w}

/-! ## Pieces that correspond -/

section Pieces

variable {first : α → Option γ} {second : β → Option γ} {same : α → β → Prop}

theorem filterMap_filter {kept : α → Prop} [DecidablePred kept]
    (gives : ∀ piece, (first piece).isSome = true ↔ kept piece)
    (pieces : List α) :
    (pieces.filter kept).filterMap first = pieces.filterMap first := by
  rw [List.filterMap_filter]
  apply List.filterMap_congr
  intro piece _
  split
  case isTrue => rfl
  case isFalse notKept =>
    have nothing : first piece = none := Option.not_isSome_iff_eq_none.mp
      fun given => notKept (decide_eq_true ((gives piece).mp given))
    exact nothing.symm

theorem of_mem_filter {kept : α → Prop} [DecidablePred kept] {pieces : List α}
    {piece : α} (member : piece ∈ pieces.filter kept) : kept piece :=
  of_decide_eq_true (List.mem_filter.mp member).2

/-- Where every piece gives a value, the pieces correspond one by one. -/
theorem filterMap_eq_iff_of_forall {pieces : List α} {others : List β}
    (firstGives : ∀ piece ∈ pieces, (first piece).isSome = true)
    (secondGives : ∀ other ∈ others, (second other).isSome = true)
    (same_iff : ∀ piece ∈ pieces, ∀ other ∈ others,
      first piece = second other ↔ same piece other) :
    pieces.filterMap first = others.filterMap second ↔
      List.Forall₂ same pieces others := by
  induction pieces generalizing others with
  | nil =>
      cases others with
      | nil => exact iff_of_true rfl .nil
      | cons other others =>
          obtain ⟨value, given⟩ :=
            Option.isSome_iff_exists.mp (secondGives _ List.mem_cons_self)
          rw [List.filterMap_cons_some given, List.forall₂_nil_left_iff]
          exact iff_of_false (by simp) (by simp)
  | cons piece pieces inductionHypothesis =>
      obtain ⟨value, given⟩ :=
        Option.isSome_iff_exists.mp (firstGives _ List.mem_cons_self)
      cases others with
      | nil =>
          rw [List.filterMap_cons_some given, List.forall₂_nil_right_iff]
          exact iff_of_false (by simp) (by simp)
      | cons other others =>
          obtain ⟨otherValue, otherGiven⟩ :=
            Option.isSome_iff_exists.mp (secondGives _ List.mem_cons_self)
          have head := same_iff _ List.mem_cons_self _ List.mem_cons_self
          rw [given, otherGiven, Option.some_inj] at head
          have tail := @inductionHypothesis others
            (fun piece member => firstGives piece (List.mem_cons_of_mem _ member))
            (fun other member => secondGives other (List.mem_cons_of_mem _ member))
            fun piece member other inside => same_iff piece
              (List.mem_cons_of_mem _ member) other
              (List.mem_cons_of_mem _ inside)
          rw [List.filterMap_cons_some given,
            List.filterMap_cons_some otherGiven, List.cons.injEq,
            List.forall₂_cons, head, tail]

/-- The values are the same sequence exactly when the pieces that give one
correspond. -/
theorem filterMap_eq_iff {taken : α → Prop} {listed : β → Prop}
    [DecidablePred taken] [DecidablePred listed]
    (firstGives : ∀ piece, (first piece).isSome = true ↔ taken piece)
    (secondGives : ∀ other, (second other).isSome = true ↔ listed other)
    (same_iff : ∀ piece other, taken piece → listed other →
      (first piece = second other ↔ same piece other))
    (pieces : List α) (others : List β) :
    pieces.filterMap first = others.filterMap second ↔
      List.Forall₂ same (pieces.filter taken) (others.filter listed) := by
  rw [← filterMap_filter firstGives, ← filterMap_filter secondGives]
  apply filterMap_eq_iff_of_forall
  · intro piece member
    exact (firstGives piece).mpr (of_mem_filter member)
  · intro other member
    exact (secondGives other).mpr (of_mem_filter member)
  · intro piece member other inside
    exact same_iff piece other (of_mem_filter member) (of_mem_filter inside)

end Pieces

/-! ## Pieces that are read alike -/

section Alike

variable {first second : α → List γ}

theorem length_flatMap_le {pieces : List α}
    (fewer : ∀ piece ∈ pieces, (first piece).length ≤ (second piece).length) :
    (pieces.flatMap first).length ≤ (pieces.flatMap second).length := by
  induction pieces with
  | nil => exact Nat.le_refl 0
  | cons piece pieces inductionHypothesis =>
      rw [List.flatMap_cons, List.flatMap_cons, List.length_append,
        List.length_append]
      exact Nat.add_le_add (fewer _ List.mem_cons_self)
        (inductionHypothesis fun piece member =>
          fewer piece (List.mem_cons_of_mem _ member))

/-- Where no piece gives the first reader more than the second, the same whole
is made of the same parts. -/
theorem eq_of_flatMap_eq {pieces : List α}
    (fewer : ∀ piece ∈ pieces, (first piece).length ≤ (second piece).length)
    (whole : pieces.flatMap first = pieces.flatMap second) :
    ∀ piece ∈ pieces, first piece = second piece := by
  induction pieces with
  | nil =>
      intro piece member
      cases member
  | cons piece pieces inductionHypothesis =>
      have later : ∀ piece ∈ pieces,
          (first piece).length ≤ (second piece).length :=
        fun piece member => fewer piece (List.mem_cons_of_mem _ member)
      rw [List.flatMap_cons, List.flatMap_cons] at whole
      have lengths := congrArg List.length whole
      rw [List.length_append, List.length_append] at lengths
      have head := fewer _ List.mem_cons_self
      have tail := length_flatMap_le later
      obtain ⟨here, after⟩ := List.append_inj whole (by omega)
      intro other member
      cases member with
      | head => exact here
      | tail _ inside => exact inductionHypothesis later after other inside

end Alike

end ProxyVPN.Readings
