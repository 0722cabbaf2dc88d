/-
Module: ProxyVPN.Lib.Keyed
Purpose: Lists whose elements are told apart by a key: looking a key up, adding
  what is missing, and what replacing or removing the first element of a key
  does where no key occurs twice.
Trusted boundary: none
Main exports: Keyed.Distinct, Keyed.hasKey, Keyed.addMissing,
  Keyed.hasKey_take_addMissing, Keyed.eraseIdx_eq_filter, Keyed.modify_eq_map
-/
import Mathlib.Data.List.Nodup

namespace ProxyVPN.Keyed

variable {α : Type} {κ : Type} (key : α → κ)

/-- No key occurs twice. -/
def Distinct (list : List α) : Prop :=
  (list.map key).Nodup

variable {key}

theorem Distinct.sublist {list smaller : List α} (distinct : Distinct key list)
    (sublist : smaller.Sublist list) : Distinct key smaller :=
  List.Nodup.sublist (sublist.map key) distinct

theorem Distinct.map {list : List α} (distinct : Distinct key list)
    {change : α → α} (keeps : ∀ element, key (change element) = key element) :
    Distinct key (list.map change) := by
  unfold Distinct
  rw [List.map_map]
  have same : key ∘ change = key := funext keeps
  rwa [same]

/-! ## Adding what is missing -/

variable [DecidableEq κ] (key)

/-- Some element has the key. -/
def hasKey (list : List α) (k : κ) : Bool :=
  list.any fun element => key element = k

/-- Append the elements whose key the list does not have yet. -/
def addMissing (list : List α) : List α → List α
  | [] => list
  | element :: rest =>
      addMissing (if hasKey key list (key element) then list
        else list ++ [element]) rest

variable {key}

theorem hasKey_iff {list : List α} {k : κ} :
    hasKey key list k = true ↔ ∃ element ∈ list, key element = k := by
  simp [hasKey]

theorem hasKey_eq_false_iff {list : List α} {k : κ} :
    hasKey key list k = false ↔ ∀ element ∈ list, key element ≠ k := by
  simp [hasKey]

theorem Distinct.cons {list : List α} {element : α}
    (distinct : Distinct key list)
    (fresh : hasKey key list (key element) = false) :
    Distinct key (element :: list) := by
  apply List.nodup_cons.mpr
  refine ⟨?_, distinct⟩
  intro member
  obtain ⟨other, inside, same⟩ := List.mem_map.mp member
  exact hasKey_eq_false_iff.mp fresh other inside same

theorem Distinct.concat {list : List α} {element : α}
    (distinct : Distinct key list)
    (fresh : hasKey key list (key element) = false) :
    Distinct key (list ++ [element]) := by
  have consed := distinct.cons fresh
  unfold Distinct at consed ⊢
  rw [List.map_cons] at consed
  rw [List.map_append]
  exact List.nodup_append_comm.mp consed

theorem Distinct.addMissing {more : List α} :
    ∀ {list : List α}, Distinct key list →
      Distinct key (addMissing key list more) := by
  induction more with
  | nil => exact id
  | cons element rest inductionHypothesis =>
      intro list distinct
      rw [Keyed.addMissing]
      cases known : hasKey key list (key element) with
      | true => exact inductionHypothesis distinct
      | false => exact inductionHypothesis (distinct.concat known)

theorem mem_of_mem_addMissing {element : α} {more : List α} :
    ∀ {list : List α}, element ∈ addMissing key list more →
      element ∈ list ∨ element ∈ more := by
  induction more with
  | nil =>
      intro list member
      exact .inl member
  | cons first rest inductionHypothesis =>
      intro list member
      rw [addMissing] at member
      rcases inductionHypothesis member with before | later
      · cases known : hasKey key list (key first) with
        | true =>
            rw [if_pos known] at before
            exact .inl before
        | false =>
            rw [if_neg (by rw [known]; exact Bool.false_ne_true)] at before
            rcases List.mem_append.mp before with old | new
            · exact .inl old
            · rw [List.mem_singleton.mp new]
              exact .inr List.mem_cons_self
      · exact .inr (List.mem_cons_of_mem _ later)

/-- What is added has keys that were missing. -/
theorem addMissing_eq_append (key : α → κ) (more : List α) :
    ∀ list : List α, ∃ added, addMissing key list more = list ++ added ∧
      ∀ element ∈ added, hasKey key list (key element) = false := by
  induction more with
  | nil =>
      intro list
      exact ⟨[], (List.append_nil list).symm, nofun⟩
  | cons first rest inductionHypothesis =>
      intro list
      rw [addMissing]
      cases known : hasKey key list (key first) with
      | true => exact inductionHypothesis list
      | false =>
          obtain ⟨added, same, missing⟩ := inductionHypothesis (list ++ [first])
          refine ⟨first :: added, ?_, ?_⟩
          · rw [if_neg Bool.false_ne_true, same, List.append_assoc]
            rfl
          · intro element member
            rcases List.mem_cons.mp member with rfl | later
            · exact known
            · apply hasKey_eq_false_iff.mpr
              intro other inside
              exact hasKey_eq_false_iff.mp (missing element later) other
                (List.mem_append_left _ inside)

/-- A key of the list stays in front of a limit or falls behind it, whatever is
added. -/
theorem hasKey_take_addMissing {list more : List α} {k : κ} (limit : Nat)
    (known : hasKey key list k = true) :
    hasKey key ((addMissing key list more).take limit) k =
      hasKey key (list.take limit) k := by
  obtain ⟨added, same, missing⟩ := addMissing_eq_append key more list
  rw [same, Bool.eq_iff_iff, hasKey_iff, hasKey_iff, List.take_append]
  constructor
  · rintro ⟨element, member, rfl⟩
    rcases List.mem_append.mp member with old | new
    · exact ⟨element, old, rfl⟩
    · have absent := missing element (List.mem_of_mem_take new)
      rw [known] at absent
      cases absent
  · rintro ⟨element, member, rfl⟩
    exact ⟨element, List.mem_append_left _ member, rfl⟩

/-! ## The first element of a key -/

omit [DecidableEq κ] in
/-- No later element has the key of the first. -/
theorem Distinct.key_ne {k : κ} {element : α} {rest : List α}
    (distinct : Distinct key (element :: rest)) (here : key element = k) :
    ∀ other ∈ rest, key other ≠ k := by
  intro other member same
  exact (List.nodup_cons.mp distinct).1
    (List.mem_map.mpr ⟨other, member, same.trans here.symm⟩)

/-- Removing the first element of a key removes the key. -/
theorem eraseIdx_eq_filter {k : κ} {list : List α} :
    ∀ {i : Nat}, Distinct key list →
      list.findIdx? (fun element => key element = k) = some i →
      list.eraseIdx i = list.filter fun element => key element ≠ k := by
  induction list with
  | nil =>
      intro i _ found
      cases found
  | cons element rest inductionHypothesis =>
      intro i distinct found
      rw [List.findIdx?_cons] at found
      by_cases here : key element = k
      · rw [if_pos (decide_eq_true here)] at found
        cases found
        have others : ∀ other ∈ rest, decide (key other ≠ k) = true :=
          fun other member => decide_eq_true (distinct.key_ne here other member)
        rw [List.filter_cons_of_neg (by simp [here]),
          List.filter_eq_self.mpr others]
        rfl
      · rw [if_neg (by simp [here])] at found
        obtain ⟨j, later, rfl⟩ := Option.map_eq_some_iff.mp found
        rw [List.filter_cons_of_pos (by simp [here]), List.eraseIdx_cons_succ,
          inductionHypothesis (List.nodup_cons.mp distinct).2 later]

/-- Changing the first element of a key changes the elements of that key. -/
theorem modify_eq_map {k : κ} {change : α → α} {list : List α} :
    ∀ {i : Nat}, Distinct key list →
      list.findIdx? (fun element => key element = k) = some i →
      list.modify i change =
        list.map fun element => if key element = k then change element
          else element := by
  induction list with
  | nil =>
      intro i _ found
      cases found
  | cons element rest inductionHypothesis =>
      intro i distinct found
      rw [List.findIdx?_cons] at found
      by_cases here : key element = k
      · rw [if_pos (decide_eq_true here)] at found
        cases found
        have others : rest.map (fun other => if key other = k then change other
            else other) = rest.map id := by
          apply List.map_congr_left
          intro other member
          exact if_neg (distinct.key_ne here other member)
        rw [List.map_cons, if_pos here, others, List.map_id]
        rfl
      · rw [if_neg (by simp [here])] at found
        obtain ⟨j, later, rfl⟩ := Option.map_eq_some_iff.mp found
        rw [List.map_cons, if_neg here, List.modify_succ_cons,
          inductionHypothesis (List.nodup_cons.mp distinct).2 later]

end ProxyVPN.Keyed
