/-
Module: ProxyVPN.Hev.RBTreeWalk
Purpose: The walks over a red-black tree in memory: the outermost nodes, and the
  step from a node to the next one in either direction.
Trusted boundary: none
Main exports: towards, beyond, headPointer, descend_spec, climb_spec,
  extreme_spec, neighbour_spec, nodeNext_spec, nodePrev_spec
-/
import ProxyVPN.Hev.RBTreeLayout

namespace ProxyVPN

open RedBlack HevRBTreeNode

namespace HevRBTree

/-- Elements in the order in which a walk to one side comes to them. -/
def towards : Side → List Nat → List Nat
  | .right, elements => elements
  | .left, elements => elements.reverse

/-- The elements behind the place a path leads to, nearest first. -/
def beyond (side : Side) (path : List (PathFrame Nat)) : List Nat :=
  match side with
  | .right => after path
  | .left => (before path).reverse

theorem beyond_cons (side : Side) (frame : PathFrame Nat) (path : List (PathFrame Nat)) :
    beyond side (frame :: path) =
      if frame.side = side then beyond side path
      else frame.value :: (towards side frame.sibling.toList ++ beyond side path) := by
  obtain ⟨frameSide, color, value, sibling⟩ := frame
  cases side <;> cases frameSide <;> simp [beyond, before, after, towards]

theorem towards_join (side : Side) (color : Color) (near : ColorTree Nat) (value : Nat)
    (far : ColorTree Nat) :
    towards side (ColorTree.join side.other color near value far).toList =
      towards side near.toList ++ value :: towards side far.toList := by
  cases side <;> simp [ColorTree.join, Side.other, ColorTree.toList, towards]

theorem towards_ne_nil (side : Side) {tree : ColorTree Nat} (nonleaf : tree ≠ .leaf) :
    towards side tree.toList ≠ [] := by
  cases tree with
  | leaf => exact absurd rfl nonleaf
  | node color left value right => cases side <;> simp [towards, ColorTree.toList]

/-- The pointer to the first of some nodes. -/
def headPointer (elements : List Nat) : Nat := elements.head?.getD 0

theorem headPointer_append {front back : List Nat} (nonempty : front ≠ []) :
    headPointer (front ++ back) = headPointer front := by
  cases front with
  | nil => exact absurd rfl nonempty
  | cons => rfl

section Walks

variable {others : Nat → Option HevRBTreeNode} {self : HevRBTree}
  {path : List (PathFrame Nat)} {tree : ColorTree Nat} {rounds : Nat}

theorem rootOf_eq_zero (nonzero : ∀ address ∈ tree.toList, address ≠ 0) :
    rootOf tree = 0 ↔ tree = .leaf := by
  constructor
  · intro null
    by_contra nonleaf
    exact nonzero _ (rootOf_mem nonleaf) null
  · rintro rfl
    rfl

/-- The loop down one side ends at the first node of that side. -/
theorem descend_spec {above : Nat} (side : Side) (lays : Lays self.nodes above tree)
    (nonleaf : tree ≠ .leaf) (nonzero : ∀ address ∈ tree.toList, address ≠ 0)
    (enough : tree.height ≤ rounds) :
    self.descend side.other rounds (rootOf tree) =
      some (headPointer (towards side tree.toList)) := by
  induction tree using ColorTree.joinInduction side.other generalizing above rounds with
  | leaf => exact absurd rfl nonleaf
  | join color near value far nearHypothesis _ =>
      obtain ⟨atValue, nearLays, _⟩ := (lays_join ..).mp lays
      have nearNonzero : ∀ address ∈ near.toList, address ≠ 0 :=
        fun address member => nonzero address (ColorTree.mem_join.mpr (.inr (.inl member)))
      rw [ColorTree.height_join] at enough
      obtain ⟨fewer, rfl⟩ : ∃ fewer, rounds = fewer + 1 := ⟨rounds - 1, by omega⟩
      rw [rootOf_join, towards_join, descend, atValue]
      simp only [Option.bind_eq_bind, Option.bind_some, child_cell]
      by_cases ends : near = .leaf
      · subst ends
        cases side <;> rfl
      · rw [if_neg (mt (rootOf_eq_zero nearNonzero).mp ends),
          nearHypothesis nearLays ends nearNonzero (by omega),
          headPointer_append (towards_ne_nil side ends)]

/-- What is read at the root of a subtree. -/
theorem At.root_parent (located : At others self path tree) (nonleaf : tree ≠ .leaf) :
    ∃ node, self.nodes (rootOf tree) = some node ∧ node.parent = top path := by
  cases tree with
  | leaf => exact absurd rfl nonleaf
  | node color left value right =>
      exact ⟨_, located.lays.1, parent_cell .left located.top_aligned color⟩

/-- The loop up ends at the first ancestor on that side. -/
theorem climb_spec (side : Side) (located : At others self path tree)
    (nonleaf : tree ≠ .leaf) (enough : path.length < rounds) :
    self.climb side rounds (rootOf tree) = some (headPointer (beyond side path)) := by
  induction path generalizing tree rounds with
  | nil =>
      obtain ⟨fewer, rfl⟩ : ∃ fewer, rounds = fewer + 1 :=
        ⟨rounds - 1, (Nat.sub_add_cancel (Nat.one_le_of_lt enough)).symm⟩
      obtain ⟨node, found, parentEq⟩ := located.root_parent nonleaf
      have parentEq : node.parent = 0 := parentEq
      rw [climb, found, Option.bind_eq_bind, Option.bind_some, if_pos parentEq]
      cases side <;> rfl
  | cons frame path hypothesis =>
      obtain ⟨fewer, rfl⟩ : ∃ fewer, rounds = fewer + 1 :=
        ⟨rounds - 1, (Nat.sub_add_cancel (Nat.one_le_of_lt enough)).symm⟩
      obtain ⟨node, found, parentEq⟩ := located.root_parent nonleaf
      have parentEq : node.parent = frame.value := parentEq
      rw [climb, found, Option.bind_eq_bind, Option.bind_some, parentEq,
        if_neg located.frame_nonzero, located.frame, Option.bind_some, beyond_cons]
      by_cases came : frame.side = side
      · rw [came, child_cell, if_pos rfl, if_pos rfl]
        have higher := hypothesis (at_cons.mp located)
          (by cases frameSide : frame.side <;> simp [PathFrame.fill, ColorTree.join, frameSide])
          (Nat.lt_of_succ_lt_succ enough)
        rwa [PathFrame.fill, rootOf_join] at higher
      · have otherSide : side = frame.side.other := Side.eq_other_of_ne (Ne.symm came)
        have inTree := rootOf_mem nonleaf
        have elsewhere : rootOf frame.sibling ≠ rootOf tree :=
          rootOf_ne (located.nonzero _ inTree) fun inSibling =>
            located.parts.2.2 _ inTree (mem_around_cons.mpr (.inr (.inl inSibling)))
        rw [if_neg came, otherSide, child_other_cell, if_neg elsewhere.symm]
        rfl

/-- `hev_rbtree_first` and `hev_rbtree_last`. -/
theorem extreme_spec (side : Side) (located : At others self [] tree)
    (enough : tree.height ≤ rounds) :
    self.extreme side.other rounds =
      some (headPointer (towards side tree.toList)) := by
  have root : self.root = rootOf tree := located.laysPath
  rw [extreme, root]
  by_cases empty : tree = .leaf
  · subst empty
    cases side <;> rfl
  · rw [if_neg (mt (rootOf_eq_zero located.nonzero).mp empty)]
    exact descend_spec side located.lays empty located.nonzero enough

/-- A node of a tree is not marked as one that is in no tree. -/
theorem At.word_ne {color : Color} {left right : ColorTree Nat} {node : Nat}
    (located : At others self path (.node color left node right)) :
    word (top path) color ≠ node := by
  intro same
  have member : node ∈ (ColorTree.node color left node right).toList := by
    simp [ColorTree.toList]
  have aligned := located.aligned node (mem_plug.mpr (.inl member))
  apply located.ne_top member
  rw [← parentOf_word located.top_aligned color, same, HevRBTreeNode.parentOf]
  omega

/-- `hev_rbtree_node_next` and `hev_rbtree_node_prev`. -/
theorem neighbour_spec (side : Side) {color : Color} {near far : ColorTree Nat}
    {node : Nat}
    (located : At others self path (ColorTree.join side color near node far))
    (enough : (plug path (ColorTree.join side color near node far)).height ≤ rounds) :
    self.neighbour side rounds node =
      some (headPointer (towards side near.toList ++ beyond side path)) := by
  obtain ⟨atNode, nearLays, _⟩ := (lays_join ..).mp located.lays
  have nearNonzero : ∀ address ∈ near.toList, address ≠ 0 := fun address member =>
    located.nonzero address (ColorTree.mem_join.mpr (.inr (.inl member)))
  have low := length_add_height_le path (ColorTree.join side color near node far)
  rw [ColorTree.height_join] at low
  have marked : word (top path) color ≠ node := by
    cases side with
    | left => exact located.word_ne
    | right => exact located.word_ne
  rw [neighbour, atNode, Option.bind_eq_bind, Option.bind_some, parentColor_cell,
    if_neg marked, child_cell]
  by_cases ends : near = .leaf
  · subst ends
    rw [rootOf_leaf, if_neg (not_not_intro rfl)]
    have upward := climb_spec side located
      (by cases side <;> simp [ColorTree.join]) (show path.length < rounds by omega)
    rw [rootOf_join] at upward
    rw [upward]
    cases side <;> rfl
  · rw [if_pos (mt (rootOf_eq_zero nearNonzero).mp ends),
      descend_spec side nearLays ends nearNonzero (by omega),
      headPointer_append (towards_ne_nil side ends)]

/-- Where a node is in the order of the nodes. -/
theorem toList_plug_node {color : Color} {left right : ColorTree Nat} {node : Nat} :
    (plug path (ColorTree.node color left node right)).toList =
      (before path ++ left.toList) ++ node :: (right.toList ++ after path) := by
  simp [toList_plug, ColorTree.toList]

/-- The node at a place in the order is found at the end of a path. -/
theorem exists_plug_of_split {front back : List Nat} {node : Nat}
    (split : tree.toList = front ++ node :: back) (distinct : tree.toList.Nodup) :
    ∃ path color left right, tree = plug path (.node color left node right) ∧
      front = before path ++ left.toList ∧ back = right.toList ++ after path := by
  have member : node ∈ tree.toList := by
    rw [split]
    exact List.mem_append_right _ List.mem_cons_self
  obtain ⟨path, color, left, right, rfl⟩ := exists_plug member
  refine ⟨path, color, left, right, rfl, ?_⟩
  rw [toList_plug_node] at split distinct
  have notFront := (List.nodup_append.mp distinct).2.2
  have notBack := (List.nodup_cons.mp (List.nodup_append.mp distinct).2.1).1
  obtain ⟨sameFront, _, sameBack⟩ := (List.append_cons_inj_of_notMem
    (fun member => notFront node member node List.mem_cons_self rfl) notBack).mp split
  exact ⟨sameFront.symm, sameBack.symm⟩

/-- The next node is the one behind in the order. -/
theorem nodeNext_spec {front back : List Nat} {node : Nat} (holds : Holds self tree)
    (split : tree.toList = front ++ node :: back) (enough : tree.height ≤ rounds) :
    self.nodeNext rounds node = some (headPointer back) := by
  obtain ⟨path, color, left, right, rfl, _, rfl⟩ :=
    exists_plug_of_split split holds.distinct
  have located : At self.nodes self path (ColorTree.join .right color right node left) :=
    at_plug.mpr holds
  exact neighbour_spec .right located enough

/-- The previous node is the one in front. -/
theorem nodePrev_spec {front back : List Nat} {node : Nat} (holds : Holds self tree)
    (split : tree.toList = front ++ node :: back) (enough : tree.height ≤ rounds) :
    self.nodePrev rounds node = some (headPointer front.reverse) := by
  obtain ⟨path, color, left, right, rfl, rfl, _⟩ :=
    exists_plug_of_split split holds.distinct
  rw [List.reverse_append]
  have located : At self.nodes self path (ColorTree.join .left color left node right) :=
    at_plug.mpr holds
  exact neighbour_spec .left located enough

end Walks

end HevRBTree

end ProxyVPN
