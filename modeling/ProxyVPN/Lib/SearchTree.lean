/-
Module: ProxyVPN.Lib.SearchTree
Purpose: Binary search trees over elements with comparable keys, with the
  larger keys on the left: search, linking a new element at the place where a
  search ends, and the in-order sequence that rebalancing keeps.
Trusted boundary: none
Main exports: Tree, toList, first, search, link, Tree.map, Descending, search_eq_some,
  search_eq_none, toList_link_perm, link_descending
-/
import Mathlib.Data.List.Perm.Basic
import Mathlib.Data.List.Pairwise
import Mathlib.Order.Compare

namespace ProxyVPN.SearchTree

universe u v

/-- The shape of a search tree. -/
inductive Tree (α : Type u) where
  | leaf
  | node (left : Tree α) (value : α) (right : Tree α)
deriving Repr, DecidableEq

variable {α : Type u} {κ : Type v}

/-- The elements in order. -/
def Tree.toList : Tree α → List α
  | .leaf => []
  | .node left value right => left.toList ++ value :: right.toList

/-- The element that is farthest to the left. -/
def Tree.first : Tree α → Option α
  | .leaf => none
  | .node .leaf value _ => some value
  | .node left _ _ => left.first

/-- The leftmost element is the first in order. -/
theorem Tree.first_eq (tree : Tree α) : tree.first = tree.toList.head? := by
  induction tree with
  | leaf => rfl
  | node left value right leftHypothesis _ =>
      cases left with
      | leaf => rfl
      | node inner other outer =>
          change (Tree.node inner other outer).first =
            ((Tree.node inner other outer).toList ++ _).head?
          rw [leftHypothesis, Tree.toList, List.append_assoc, List.head?_append,
            List.head?_append]
          cases inner.toList <;> rfl

/-- The element whose key is wanted. -/
def search [Ord κ] (key : α → κ) (wanted : κ) : Tree α → Option α
  | .leaf => none
  | .node left value right =>
      match compare (key value) wanted with
      | .lt => search key wanted left
      | .gt => search key wanted right
      | .eq => some value

/-- The tree with a new element where the search for its key ends. -/
def link [Ord κ] (key : α → κ) (wanted : κ) (new : α) : Tree α → Tree α
  | .leaf => .node .leaf new .leaf
  | .node left value right =>
      match compare (key value) wanted with
      | .lt => .node (link key wanted new left) value right
      | .gt => .node left value (link key wanted new right)
      | .eq => .node left value right

/-- The same shape with other elements. -/
def Tree.map {β : Type u} (view : β → α) : Tree β → Tree α
  | .leaf => .leaf
  | .node left value right => .node (left.map view) (view value) (right.map view)

theorem Tree.toList_map {β : Type u} (view : β → α) (tree : Tree β) :
    (tree.map view).toList = tree.toList.map view := by
  induction tree with
  | leaf => rfl
  | node left value right leftHypothesis rightHypothesis =>
      rw [Tree.map, toList, toList, leftHypothesis, rightHypothesis, List.map_append,
        List.map_cons]

theorem Tree.map_congr {β : Type u} {view other : β → α} {tree : Tree β}
    (same : ∀ element ∈ tree.toList, view element = other element) :
    tree.map view = tree.map other := by
  induction tree with
  | leaf => rfl
  | node left value right leftHypothesis rightHypothesis =>
      simp only [toList, List.mem_append, List.mem_cons] at same
      rw [Tree.map, Tree.map, same value (.inr (.inl rfl)),
        leftHypothesis fun element member => same element (.inl member),
        rightHypothesis fun element member => same element (.inr (.inr member))]

/-- Elements may be looked at through any view: a search goes by the keys of
what is seen. -/
theorem search_map {β : Type u} [Ord κ] (key : α → κ) (wanted : κ) (view : β → α)
    (tree : Tree β) :
    search key wanted (tree.map view) =
      (search (fun element => key (view element)) wanted tree).map view := by
  induction tree with
  | leaf => rfl
  | node left value right leftHypothesis rightHypothesis =>
      rw [Tree.map, search, search, leftHypothesis, rightHypothesis]
      split <;> rfl

/-- So does linking. -/
theorem link_map {β : Type u} [Ord κ] (key : α → κ) (wanted : κ) (view : β → α)
    (new : β) (tree : Tree β) :
    link key wanted (view new) (tree.map view) =
      (link (fun element => key (view element)) wanted new tree).map view := by
  induction tree with
  | leaf => rfl
  | node left value right leftHypothesis rightHypothesis =>
      rw [Tree.map, link, link, leftHypothesis, rightHypothesis]
      split <;> rfl

/-- The keys descend from left to right. -/
def Descending [Ord κ] (key : α → κ) (elements : List α) : Prop :=
  elements.Pairwise fun left right => compare (key left) (key right) = .gt

/-- Only the keys of the elements in the list count. -/
theorem Descending.congr [Ord κ] {key later : α → κ} {elements : List α}
    (descending : Descending key elements)
    (same : ∀ element ∈ elements, later element = key element) :
    Descending later elements := by
  apply descending.imp_of_mem
  intro left right leftMem rightMem greater
  rwa [same left leftMem, same right rightMem]

theorem Descending.sublist [Ord κ] {key : α → κ} {fewer elements : List α}
    (descending : Descending key elements) (sublist : fewer.Sublist elements) :
    Descending key fewer :=
  List.Pairwise.sublist sublist descending

/-- A search that succeeds has found an element of the tree with the key. -/
theorem search_eq_some [Ord κ] [Std.LawfulEqOrd κ] {key : α → κ} {wanted : κ}
    {tree : Tree α} {found : α} (success : search key wanted tree = some found) :
    found ∈ tree.toList ∧ key found = wanted := by
  induction tree with
  | leaf => cases success
  | node left value right leftHypothesis rightHypothesis =>
      unfold search at success
      rw [Tree.toList, List.mem_append, List.mem_cons]
      split at success
      case h_1 =>
        have inLeft := leftHypothesis success
        exact ⟨.inl inLeft.1, inLeft.2⟩
      case h_2 =>
        have inRight := rightHypothesis success
        exact ⟨.inr (.inr inRight.1), inRight.2⟩
      case h_3 equal =>
        cases success
        exact ⟨.inr (.inl rfl), Std.LawfulEqOrd.compare_eq_iff_eq.mp equal⟩

/-- A search that fails in a tree with descending keys missed nothing. -/
theorem search_eq_none [Ord κ] [Std.TransOrd κ] {key : α → κ} {wanted : κ}
    {tree : Tree α} (descending : Descending key tree.toList)
    (failure : search key wanted tree = none) :
    ∀ element ∈ tree.toList, key element ≠ wanted := by
  induction tree with
  | leaf =>
      intro element member
      cases member
  | node left value right leftHypothesis rightHypothesis =>
      rw [Tree.toList, Descending, List.pairwise_append, List.pairwise_cons]
        at descending
      obtain ⟨leftDescending, ⟨below, rightDescending⟩, above⟩ := descending
      unfold search at failure
      intro element member same
      rw [Tree.toList, List.mem_append, List.mem_cons] at member
      subst same
      split at failure
      case h_1 less =>
        rcases member with inLeft | rfl | inRight
        · exact leftHypothesis leftDescending failure element inLeft rfl
        · rw [Std.ReflOrd.compare_self] at less
          cases less
        · rw [below element inRight] at less
          cases less
      case h_2 greater =>
        rcases member with inLeft | rfl | inRight
        · have less := above element inLeft value List.mem_cons_self
          rw [Std.OrientedOrd.eq_swap, less] at greater
          cases greater
        · rw [Std.ReflOrd.compare_self] at greater
          cases greater
        · exact rightHypothesis rightDescending failure element inRight rfl
      case h_3 => cases failure

/-- Where a search ends depends on the keys in the tree only. -/
theorem link_congr [Ord κ] {key later : α → κ} {wanted : κ} {new : α}
    {tree : Tree α} (same : ∀ element ∈ tree.toList, later element = key element) :
    link later wanted new tree = link key wanted new tree := by
  induction tree with
  | leaf => rfl
  | node left value right leftHypothesis rightHypothesis =>
      simp only [Tree.toList, List.mem_append, List.mem_cons] at same
      have sameLeft := leftHypothesis fun element member =>
        same element (.inl member)
      have sameRight := rightHypothesis fun element member =>
        same element (.inr (.inr member))
      simp only [link, same value (.inr (.inl rfl)), sameLeft, sameRight]

/-- Linking adds the new element and nothing else. -/
theorem toList_link_perm [Ord κ] [Std.LawfulEqOrd κ] {key : α → κ} {wanted : κ}
    {new : α} {tree : Tree α}
    (absent : ∀ element ∈ tree.toList, key element ≠ wanted) :
    (link key wanted new tree).toList.Perm (new :: tree.toList) := by
  induction tree with
  | leaf => exact List.Perm.refl _
  | node left value right leftHypothesis rightHypothesis =>
      simp only [Tree.toList, List.mem_append, List.mem_cons] at absent
      unfold link
      split
      case h_1 =>
        have linked := leftHypothesis fun element member =>
          absent element (.inl member)
        exact linked.append_right _
      case h_2 =>
        have linked := rightHypothesis fun element member =>
          absent element (.inr (.inr member))
        have moved : (left.toList ++
            value :: (link key wanted new right).toList).Perm
            (left.toList ++ (new :: value :: right.toList)) :=
          ((linked.cons value).trans (List.Perm.swap _ _ _)).append_left _
        exact moved.trans List.perm_middle
      case h_3 equal =>
        exact absurd (Std.LawfulEqOrd.compare_eq_iff_eq.mp equal)
          (absent value (.inr (.inl rfl)))

/-- Linking keeps the keys descending. -/
theorem link_descending [Ord κ] [Std.TransOrd κ] [Std.LawfulEqOrd κ]
    {key : α → κ} {new : α} {tree : Tree α}
    (descending : Descending key tree.toList)
    (absent : ∀ element ∈ tree.toList, key element ≠ key new) :
    Descending key (link key (key new) new tree).toList := by
  induction tree with
  | leaf => exact List.pairwise_singleton _ _
  | node left value right leftHypothesis rightHypothesis =>
      rw [Tree.toList, Descending, List.pairwise_append, List.pairwise_cons]
        at descending
      obtain ⟨leftDescending, ⟨below, rightDescending⟩, above⟩ := descending
      simp only [Tree.toList, List.mem_append, List.mem_cons] at absent
      have absentLeft : ∀ element ∈ left.toList, key element ≠ key new :=
        fun element member => absent element (.inl member)
      have absentRight : ∀ element ∈ right.toList, key element ≠ key new :=
        fun element member => absent element (.inr (.inr member))
      unfold link
      split
      case h_1 less =>
        have newAbove : compare (key new) (key value) = .gt :=
          Std.OrientedCmp.gt_iff_lt.mpr less
        rw [Descending, Tree.toList, List.pairwise_append, List.pairwise_cons]
        refine ⟨leftHypothesis leftDescending absentLeft,
          ⟨below, rightDescending⟩, ?_⟩
        intro element member other otherMem
        rw [(toList_link_perm absentLeft).mem_iff, List.mem_cons] at member
        rcases member with rfl | inLeft
        · rcases List.mem_cons.mp otherMem with rfl | inRight
          · exact newAbove
          · exact Std.TransCmp.gt_trans newAbove (below other inRight)
        · exact above element inLeft other otherMem
      case h_2 greater =>
        rw [Descending, Tree.toList, List.pairwise_append, List.pairwise_cons]
        refine ⟨leftDescending,
          ⟨?_, rightHypothesis rightDescending absentRight⟩, ?_⟩
        · intro other otherMem
          rw [(toList_link_perm absentRight).mem_iff, List.mem_cons] at otherMem
          rcases otherMem with rfl | inRight
          · exact greater
          · exact below other inRight
        · intro element inLeft other otherMem
          have aboveValue := above element inLeft value List.mem_cons_self
          rcases List.mem_cons.mp otherMem with rfl | inRight
          · exact aboveValue
          · rw [(toList_link_perm absentRight).mem_iff, List.mem_cons] at inRight
            rcases inRight with rfl | inRight
            · exact Std.TransCmp.gt_trans aboveValue greater
            · exact above element inLeft other (List.mem_cons_of_mem _ inRight)
      case h_3 equal =>
        exact absurd (Std.LawfulEqOrd.compare_eq_iff_eq.mp equal)
          (absent value (.inr (.inl rfl)))

end ProxyVPN.SearchTree
