/-
Module: ProxyVPN.Hev.RBTreeSearch
Purpose: The loops that look for a node or for the place of a new one, and what
  inserting and erasing do to a tree in memory as a whole.
Trusted boundary: human-reviewed model
Main exports: Place, HevRBTree.findPlace, findPlace_spec, Holds.search_eq,
  Holds.insert, Holds.erase, HevRBTree.allocate, HevRBTree.free, Owns,
  Owns.insert, Owns.erase
-/
import ProxyVPN.Hev.RBTreeErase
import ProxyVPN.Hev.RBTreeInsert
import ProxyVPN.Hev.RBTreeWalk
import ProxyVPN.Lib.RedBlackSearch

namespace ProxyVPN

open RedBlack HevRBTreeNode

/-- A pointer in a tree, by the node it is in; `none` is the root pointer.
`leftmost` tells whether no right turn led to it. -/
structure Place where
  node : Nat
  parent : Nat
  link : Option Side
  leftmost : Bool
deriving Repr, DecidableEq

namespace HevRBTree

def rootPlace (self : HevRBTree) : Place :=
  { node := self.root, parent := 0, link := none, leftmost := true }

/-- The loop `while (*new)` for a comparison that turns left, turns right or
stops, in so many rounds. -/
def findPlace (self : HevRBTree) (turn : Nat → Option Side) :
    Nat → Place → Option Place
  | 0, _ => none
  | rounds + 1, place =>
      if place.node = 0 then
        some place
      else
        match turn place.node with
        | none => some place
        | some side => do
            let node ← self.nodes place.node
            self.findPlace turn rounds
              { node := node.child side
                parent := place.node
                link := some side
                leftmost := place.leftmost && side == .left }

/-- The place a path leads to. -/
def placeOf (path : List (PathFrame Nat)) (tree : ColorTree Nat) : Place :=
  { node := rootOf tree
    parent := top path
    link := linkOf path
    leftmost := path.all (·.side == .left) }

theorem placeOf_cons (side : Side) (color : Color) (value : Nat)
    (sibling : ColorTree Nat) (path : List (PathFrame Nat)) (tree : ColorTree Nat) :
    placeOf (⟨side, color, value, sibling⟩ :: path) tree =
      { node := rootOf tree
        parent := value
        link := some side
        leftmost := path.all (·.side == .left) && side == .left } := by
  simp only [placeOf, top, linkOf, List.all_cons, Bool.and_comm]

/-- The loop finds the place that the comparison directs to. -/
theorem findPlace_spec {others : Nat → Option HevRBTreeNode} {self : HevRBTree}
    {path : List (PathFrame Nat)} {tree : ColorTree Nat} {rounds : Nat}
    (turn : Nat → Option Side) (located : At others self path tree)
    (enough : tree.height < rounds) :
    self.findPlace turn rounds (placeOf path tree) =
      some (placeOf (seek turn path tree).1 (seek turn path tree).2) := by
  induction tree generalizing path rounds with
  | leaf =>
      obtain ⟨fewer, rfl⟩ : ∃ fewer, rounds = fewer + 1 :=
        ⟨rounds - 1, (Nat.sub_add_cancel (Nat.one_le_of_lt enough)).symm⟩
      exact if_pos rfl
  | node color left value right leftHypothesis rightHypothesis =>
      simp only [ColorTree.height] at enough
      obtain ⟨fewer, rfl⟩ : ∃ fewer, rounds = fewer + 1 := ⟨rounds - 1, by omega⟩
      have notNull : value ≠ 0 := located.nonzero value (by simp [ColorTree.toList])
      rw [findPlace, seek]
      simp only [placeOf, rootOf_node, notNull, reduceIte]
      cases turns : turn value with
      | none => rfl
      | some side =>
          simp only [located.lays.1, Option.bind_eq_bind, Option.bind_some]
          cases side with
          | left =>
              have below : At others self (⟨.left, color, value, right⟩ :: path) left :=
                at_cons.mpr located
              have deeper := leftHypothesis below (Nat.lt_of_lt_of_le
                (Nat.lt_succ_of_le (Nat.le_max_left _ _)) (Nat.le_of_lt_succ enough))
              rw [placeOf_cons] at deeper
              exact deeper
          | right =>
              have below : At others self (⟨.right, color, value, left⟩ :: path) right :=
                at_cons.mpr located
              have deeper := rightHypothesis below (Nat.lt_of_lt_of_le
                (Nat.lt_succ_of_le (Nat.le_max_right _ _)) (Nat.le_of_lt_succ enough))
              rw [placeOf_cons] at deeper
              exact deeper

section Whole

variable {self : HevRBTree} {tree : ColorTree Nat} {rounds : Nat}

theorem At.holds {others : Nat → Option HevRBTreeNode}
    (located : At others self [] tree) : Holds self tree :=
  { located with others := fun _ _ => rfl }

theorem Holds.root_eq (holds : Holds self tree) : self.root = rootOf tree :=
  holds.laysPath

theorem Holds.rootPlace (holds : Holds self tree) :
    self.rootPlace = placeOf [] tree := by
  rw [HevRBTree.rootPlace, holds.root_eq]
  rfl

/-- Where the search in a whole tree ends. -/
theorem Holds.search (holds : Holds self tree) (turn : Nat → Option Side)
    (enough : tree.height < rounds) :
    self.findPlace turn rounds self.rootPlace =
      some (placeOf (seek turn [] tree).1 (seek turn [] tree).2) := by
  rw [holds.rootPlace]
  exact findPlace_spec turn holds enough

/-- The search for a key, as it is in a tree without memory. -/
theorem Holds.search_eq {κ : Type} [Ord κ] (holds : Holds self tree) (key : Nat → κ)
    (wanted : κ) (enough : tree.height < rounds) :
    ∃ place, self.findPlace (directions key wanted) rounds self.rootPlace = some place ∧
      SearchTree.search key wanted tree.plain =
        if place.node = 0 then none else some place.node := by
  refine ⟨_, holds.search _ enough, ?_⟩
  have whole := seek_plug (directions key wanted) [] tree
  rw [← seek_search key wanted []]
  cases ended : (seek (directions key wanted) [] tree).2 with
  | leaf => rfl
  | node color left value right =>
      have member : value ∈ tree.toList := by
        rw [plug, ended] at whole
        rw [← whole]
        exact mem_plug.mpr (.inl (by simp [ColorTree.toList]))
      rw [placeOf, rootOf_node, if_neg (holds.nonzero value member)]
      rfl

/-- What linking a new node where a search ended leads to. -/
structure Inserted (rbTree final : HevRBTree) (turn : Nat → Option Side) (node : Nat)
    (tree later : ColorTree Nat) : Prop where
  holds : Holds final later
  good : Good later
  order : later.toList =
    before (seek turn [] tree).1 ++ node :: after (seek turn [] tree).1
  elsewhere : ∀ address ∉ later.toList,
    final.nodes address = rbTree.nodes address

/-- The nodes around a place where the search stopped at none. -/
theorem toList_seek {turn : Nat → Option Side}
    (leaf : (seek turn [] tree).2 = .leaf) :
    tree.toList = before (seek turn [] tree).1 ++ after (seek turn [] tree).1 := by
  have whole := congrArg ColorTree.toList (seek_plug turn [] tree)
  rw [leaf, toList_plug, ColorTree.toList, List.append_nil] at whole
  exact whole.symm

theorem placeOf_leftmost {path : List (PathFrame Nat)} :
    (placeOf path tree).leftmost = true ↔ before path = [] := by
  rw [before_eq_nil, placeOf, List.all_eq_true]
  exact forall₂_congr fun frame _ => beq_iff_eq

/-- A new node is linked where a search ended at null. -/
theorem Holds.insert {node : Nat} (holds : Holds self tree) (good : Good tree)
    {turn : Nat → Option Side} (leaf : (seek turn [] tree).2 = .leaf)
    (present : (self.nodes node).isSome) (fresh : node ∉ tree.toList)
    (aligned : node % 4 = 0) (enough : tree.height < rounds) :
    ∃ final later,
      self.insert rounds node (top (seek turn [] tree).1)
        (linkOf (seek turn [] tree).1) = some final ∧
      Inserted self final turn node tree later := by
  have whole := seek_plug turn [] tree
  rw [leaf] at whole
  obtain ⟨path, hole⟩ : ∃ path, (seek turn [] tree).1 = path := ⟨_, rfl⟩
  rw [hole] at whole ⊢
  have shape : plug path .leaf = tree := whole
  have short := length_add_height_le path (ColorTree.leaf : ColorTree Nat)
  rw [shape, ColorTree.height] at short
  have located : At self.nodes self path .leaf := by
    rw [at_plug, shape]
    exact holds
  obtain ⟨final, wrote, finalAt, finalGood⟩ := insert_spec located
    (by rwa [shape]) present (by rwa [shape]) aligned
    (show path.length < rounds by omega)
  refine ⟨final, _, wrote, finalAt.holds, finalGood, ?_, finalAt.others⟩
  rw [hole, insertFix_toList, toList_plug]
  simp [ColorTree.toList]

/-- What taking a node out leads to. -/
structure Erased (rbTree final : HevRBTree) (node : Nat) (tree later : ColorTree Nat) :
    Prop where
  holds : Holds final later
  good : Good later
  order : later.toList = tree.toList.erase node
  elsewhere : ∀ address ∉ later.toList,
    final.nodes address = rbTree.nodes address

theorem Holds.erase {node : Nat} (holds : Holds self tree) (good : Good tree)
    (member : node ∈ tree.toList) (enough : tree.height ≤ rounds) :
    ∃ final later, self.erase rounds node = some final ∧
      Erased self final node tree later := by
  obtain ⟨path, color, left, right, rfl⟩ := exists_plug member
  obtain ⟨final, ran, finalAt⟩ :=
    erase_spec (at_plug.mpr holds) good rfl enough
  have distinct := holds.distinct
  rw [plug, toList_plug_node, List.nodup_append] at distinct
  refine ⟨final, _, ran, finalAt.holds, eraseAt_good good, ?_, finalAt.others⟩
  rw [eraseAt_toList, toList_plug_node, List.erase_append_right, List.erase_cons_head]
  · simp
  · intro inFront
    exact distinct.2.2 node inFront node List.mem_cons_self rfl

/-- Memory that is the same at the nodes holds the same tree. -/
theorem Holds.congr {later : HevRBTree} (holds : Holds self tree)
    (root : later.root = self.root) (null : later.nodes 0 = none)
    (same : ∀ address ∈ tree.toList, later.nodes address = self.nodes address) :
    Holds later tree where
  null := null
  laysPath := root.trans holds.laysPath
  lays := holds.lays.congr same
  distinct := holds.distinct
  aligned := holds.aligned
  others := fun _ _ => rfl

end Whole

/-- Zeroed memory at an address. -/
def allocate (self : HevRBTree) (address : Nat) : HevRBTree :=
  { self with
    nodes := fun other =>
      if other = address then some { parentColor := 0, right := 0, left := 0 }
      else self.nodes other }

/-- No memory at an address. -/
def free (self : HevRBTree) (address : Nat) : HevRBTree :=
  { self with
    nodes := fun other => if other = address then none else self.nodes other }

/-- Aligned memory that is not in use. -/
def Unused (self : HevRBTree) (address : Nat) : Prop :=
  self.nodes address = none ∧ address ≠ 0 ∧ address % 4 = 0

instance (self : HevRBTree) (address : Nat) : Decidable (self.Unused address) :=
  inferInstanceAs (Decidable (_ ∧ _ ∧ _))

/-- The tree is in memory, and nothing else is. -/
structure Owns (rbTree : HevRBTree) (tree : ColorTree Nat) : Prop where
  holds : Holds rbTree tree
  good : Good tree
  only : ∀ address ∉ tree.toList, rbTree.nodes address = none

section Memory

variable {self : HevRBTree} {tree : ColorTree Nat} {rounds : Nat}

theorem Owns.fresh (owns : Owns self tree) {node : Nat}
    (unused : self.nodes node = none) : node ∉ tree.toList := by
  intro member
  have present := owns.holds.lays.isSome member
  rw [unused] at present
  cases present

/-- A node that was just allocated is linked where a search ended. -/
theorem Owns.insert {node : Nat} (owns : Owns self tree) {turn : Nat → Option Side}
    (leaf : (seek turn [] tree).2 = .leaf) (unused : self.Unused node)
    (enough : tree.height < rounds) :
    ∃ final later,
      (self.allocate node).insert rounds node (top (seek turn [] tree).1)
        (linkOf (seek turn [] tree).1) = some final ∧
      Owns final later ∧
      later.toList =
        before (seek turn [] tree).1 ++ node :: after (seek turn [] tree).1 := by
  obtain ⟨unused, nonzero, aligned⟩ := unused
  have fresh := owns.fresh unused
  have allocated : Holds (self.allocate node) tree := by
    refine owns.holds.congr rfl ((if_neg nonzero.symm).trans owns.holds.null) ?_
    intro address member
    refine if_neg ?_
    rintro rfl
    exact fresh member
  obtain ⟨final, later, wrote, inserted⟩ :=
    allocated.insert owns.good leaf (by simp [allocate]) fresh aligned enough
  refine ⟨final, later, wrote, ⟨inserted.holds, inserted.good, ?_⟩, inserted.order⟩
  intro address outside
  rw [inserted.elsewhere address outside]
  have member := outside
  rw [inserted.order, List.mem_append, List.mem_cons, not_or, not_or] at member
  refine (if_neg member.2.1).trans (owns.only address ?_)
  rw [toList_seek leaf, List.mem_append, not_or]
  exact ⟨member.1, member.2.2⟩

/-- The memory of a node that was taken out may be freed. -/
theorem Erased.free {final : HevRBTree} {node : Nat} {later : ColorTree Nat}
    (erased : Erased self final node tree later) (distinct : tree.toList.Nodup) :
    Holds (final.free node) later := by
  refine erased.holds.congr ?_ (ite_eq_left_iff.mpr fun _ => erased.holds.null) ?_
  · rfl
  · intro address inLater
    refine if_neg ?_
    rintro rfl
    rw [erased.order] at inLater
    exact distinct.not_mem_erase inLater

/-- A node is taken out and freed. -/
theorem Owns.erase {node : Nat} (owns : Owns self tree) (member : node ∈ tree.toList)
    (enough : tree.height ≤ rounds) :
    ∃ final later, self.erase rounds node = some final ∧
      Owns (final.free node) later ∧ later.toList = tree.toList.erase node := by
  obtain ⟨final, later, ran, erased⟩ := owns.holds.erase owns.good member enough
  refine ⟨final, later, ran,
    ⟨erased.free owns.holds.distinct, erased.good, ?_⟩, erased.order⟩
  intro address outside
  by_cases same : address = node
  · exact if_pos same
  · refine (if_neg same).trans ?_
    rw [erased.elsewhere address outside]
    refine owns.only address fun inTree => outside ?_
    rw [erased.order]
    exact (List.mem_erase_of_ne same).mpr inTree

end Memory

end HevRBTree

end ProxyVPN
