/-
Module: ProxyVPN.Lib.Recency
Purpose: A bounded list of keys in order of their last access.  A key stays in
  the list while fewer than its capacity of other keys are accessed.
Trusted boundary: human-reviewed spec
Main exports: access, accessAll, Kept, Kept.access, mem_accessAll
-/
import Mathlib.Data.Finset.Card
import Mathlib.Data.List.Perm.Basic

namespace ProxyVPN.Recency

universe u

variable {κ : Type u} [DecidableEq κ]

/-- One access: the key becomes the most recent one, and a full list without it
gives up its least recent key. -/
def access (capacity : Nat) (recency : List κ) (key : κ) : List κ :=
  if key ∈ recency then
    recency.erase key ++ [key]
  else if recency.length < capacity then
    recency ++ [key]
  else
    recency.tail ++ [key]

/-- A sequence of accesses, the earliest first. -/
def accessAll (capacity : Nat) (recency keys : List κ) : List κ :=
  keys.foldl (access capacity) recency

/-- The key is in the list, and everything more recent than it is among
`others`. -/
def Kept (others : Finset κ) (recency : List κ) (key : κ) : Prop :=
  ∃ front back, recency = front ++ key :: back ∧
    ∀ later ∈ back, later ∈ others

theorem nodup_access {capacity : Nat} {recency : List κ} (key : κ)
    (distinct : recency.Nodup) : (access capacity recency key).Nodup := by
  unfold access
  split
  case isTrue =>
    rw [← List.concat_eq_append]
    exact (distinct.erase key).concat distinct.not_mem_erase
  case isFalse absent =>
    split
    case isTrue =>
      rw [← List.concat_eq_append]
      exact distinct.concat absent
    case isFalse =>
      rw [← List.concat_eq_append]
      exact distinct.tail.concat fun member =>
        absent (List.mem_of_mem_tail member)

/-- Right after its access a key is the most recent one. -/
theorem kept_access (capacity : Nat) (recency : List κ) (key : κ) :
    Kept ∅ (access capacity recency key) key := by
  unfold access
  split
  · exact ⟨recency.erase key, [], rfl, by simp⟩
  · split
    · exact ⟨recency, [], rfl, by simp⟩
    · exact ⟨recency.tail, [], rfl, by simp⟩

/-- A key is kept over the access of another key when fewer others than the
capacity were accessed since. -/
theorem Kept.access {capacity : Nat} {others : Finset κ} {recency : List κ}
    {key other : κ} (kept : Kept others recency key)
    (distinct : recency.Nodup) (different : other ≠ key)
    (few : (insert other others).card < capacity) :
    Kept (insert other others) (access capacity recency other) key := by
  obtain ⟨front, back, rfl, recent⟩ := kept
  have widened : ∀ later ∈ back, later ∈ insert other others :=
    fun later member => Finset.mem_insert_of_mem (recent later member)
  unfold Recency.access
  split
  case isTrue present =>
    by_cases inFront : other ∈ front
    · refine ⟨front.erase other, back ++ [other], ?_, ?_⟩
      · rw [List.erase_append_left _ inFront]
        simp
      · intro later member
        rcases List.mem_append.mp member with inBack | isOther
        · exact widened later inBack
        · rw [List.mem_singleton.mp isOther]
          exact Finset.mem_insert_self _ _
    · refine ⟨front, back.erase other ++ [other], ?_, ?_⟩
      · rw [List.erase_append_right _ inFront,
          List.erase_cons_tail (by simpa using different.symm)]
        simp
      · intro later member
        rcases List.mem_append.mp member with inBack | isOther
        · exact widened later (List.mem_of_mem_erase inBack)
        · rw [List.mem_singleton.mp isOther]
          exact Finset.mem_insert_self _ _
  case isFalse absent =>
    have appended : ∀ later ∈ back ++ [other], later ∈ insert other others := by
      intro later member
      rcases List.mem_append.mp member with inBack | isOther
      · exact widened later inBack
      · rw [List.mem_singleton.mp isOther]
        exact Finset.mem_insert_self _ _
    split
    case isTrue => exact ⟨front, back ++ [other], by simp, appended⟩
    case isFalse full =>
      cases front with
      | nil =>
          -- a full list with the key in front holds too many others behind it
          have backDistinct : back.Nodup := (List.nodup_cons.mp distinct).2
          have notOther : other ∉ back := fun member =>
            absent (List.mem_cons_of_mem _ member)
          have within : back.toFinset ⊆ (insert other others).erase other := by
            intro later member
            rw [List.mem_toFinset] at member
            rw [Finset.mem_erase]
            exact ⟨fun same => notOther (same ▸ member), widened later member⟩
          have positive : 0 < (insert other others).card :=
            Finset.card_pos.mpr ⟨other, Finset.mem_insert_self _ _⟩
          have counted := Finset.card_le_card within
          rw [List.toFinset_card_of_nodup backDistinct,
            Finset.card_erase_of_mem (Finset.mem_insert_self _ _)] at counted
          simp only [List.nil_append, List.length_cons] at full
          omega
      | cons first front =>
          exact ⟨front, back ++ [other], by simp, appended⟩

/-- A key stays in the list while fewer than `capacity` other keys are
accessed. -/
theorem mem_accessAll {capacity : Nat} {recency : List κ} {key : κ}
    (distinct : recency.Nodup) (keys : List κ)
    (few : ((keys.filter (· ≠ key)).toFinset).card < capacity) :
    key ∈ accessAll capacity (access capacity recency key) keys := by
  have kept : ∀ (rest : List κ) (others : Finset κ) (start : List κ),
      start.Nodup → Kept others start key →
      (others ∪ (rest.filter (· ≠ key)).toFinset).card < capacity →
      key ∈ accessAll capacity start rest := by
    intro rest
    induction rest with
    | nil =>
        rintro others start _ ⟨front, back, rfl, _⟩ _
        exact List.mem_append_right _ List.mem_cons_self
    | cons other rest inductionHypothesis =>
        intro others start startDistinct startKept startFew
        by_cases same : other = key
        · subst same
          have fewLeft : (∅ ∪ (rest.filter (· ≠ other)).toFinset).card <
              capacity := by
            refine lt_of_le_of_lt (Finset.card_le_card ?_) startFew
            intro later member
            simp only [Finset.empty_union] at member
            apply Finset.mem_union_right
            simpa using member
          exact inductionHypothesis ∅ _ (nodup_access other startDistinct)
            (kept_access capacity start other) fewLeft
        · have union : insert other others ∪ (rest.filter (· ≠ key)).toFinset =
              others ∪ ((other :: rest).filter (· ≠ key)).toFinset := by
            rw [List.filter_cons_of_pos (by simpa using same),
              List.toFinset_cons, Finset.insert_union, Finset.union_insert]
          rw [← union] at startFew
          have fewNow : (insert other others).card < capacity :=
            lt_of_le_of_lt (Finset.card_le_card Finset.subset_union_left)
              startFew
          exact inductionHypothesis (insert other others) _
            (nodup_access other startDistinct)
            (startKept.access startDistinct same fewNow) startFew
  apply kept keys ∅ _ (nodup_access key distinct)
    (kept_access capacity recency key)
  rwa [Finset.empty_union]

end ProxyVPN.Recency
