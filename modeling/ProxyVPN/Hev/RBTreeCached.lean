/-
Module: ProxyVPN.Hev.RBTreeCached
Purpose: The red-black tree of hev-rbtree-cached.c, which keeps its leftmost
  node, as a queue: new nodes go where a comparison puts them, and the first
  node is at hand.
Trusted boundary: human-reviewed model
Main exports: HevRBTreeCached, HevRBTreeCached.first,
  HevRBTreeCached.insertColor, HevRBTreeCached.erase,
  HevRBTreeCached.insertWhere, Queue, Queue.insert, Queue.erase,
  Queue.settles_insert, Queue.settles_erase
-/
import ProxyVPN.Hev.RBTreeRounds

namespace ProxyVPN

open RedBlack

/-- `struct _HevRBTreeCached`. -/
structure HevRBTreeCached where
  base : HevRBTree
  leftmost : Nat

namespace HevRBTreeCached

open HevRBTree (headPointer placeOf placeOf_leftmost toList_seek)

/-- `hev_rbtree_cached_first`. -/
def first (self : HevRBTreeCached) : Nat := self.leftmost

/-- `hev_rbtree_cached_insert_color`. -/
def insertColor (self : HevRBTreeCached) (rounds node : Nat) (leftmost : Bool) :
    Option HevRBTreeCached := do
  let first := if leftmost then node else self.leftmost
  let base ← self.base.insertColor rounds node
  some { base := base, leftmost := first }

/-- `if (node == self->leftmost) self->leftmost = hev_rbtree_node_next (node);` -/
def leftmostWithout (self : HevRBTreeCached) (rounds node : Nat) : Option Nat :=
  if node = self.leftmost then self.base.nodeNext rounds node else some self.leftmost

/-- `hev_rbtree_cached_erase`. -/
def erase (self : HevRBTreeCached) (rounds node : Nat) :
    Option HevRBTreeCached := do
  let leftmost ← self.leftmostWithout rounds node
  let base ← self.base.erase rounds node
  some { base := base, leftmost := leftmost }

/-- The loop that looks for the place of a new node, which goes to the left of
the nodes it precedes, with the insertion there and `leftmost`. -/
def insertWhere (self : HevRBTreeCached) (rounds : Nat) (precedes : Nat → Bool)
    (node : Nat) : Option (HevRBTreeCached × Bool) := do
  let place ← self.base.findPlace
    (fun this => some (if precedes this then .left else .right)) rounds
    self.base.rootPlace
  let base ← self.base.nodeLink node place.parent place.link
  let self ← { self with base := base }.insertColor rounds node place.leftmost
  some (self, place.leftmost)

/-- Zeroed memory for a node. -/
def allocate (self : HevRBTreeCached) (address : Nat) : HevRBTreeCached :=
  { self with base := self.base.allocate address }

/-- No memory at an address. -/
def free (self : HevRBTreeCached) (address : Nat) : HevRBTreeCached :=
  { self with base := self.base.free address }

/-- The tree holds these nodes in this order, and its first node is at hand. -/
structure Queue (cached : HevRBTreeCached) (elements : List Nat) : Prop where
  tree : ∃ tree, cached.base.Holds tree ∧ Good tree ∧ tree.toList = elements
  leftmost : cached.leftmost = headPointer elements

def empty (nodes : Nat → Option HevRBTreeNode) : HevRBTreeCached :=
  { base := { root := 0, nodes := nodes }, leftmost := 0 }

theorem empty_queue {nodes : Nat → Option HevRBTreeNode} (null : nodes 0 = none) :
    (empty nodes).Queue [] := by
  refine ⟨⟨.leaf, ⟨null, rfl, trivial, List.nodup_nil, ?_, fun _ _ => rfl⟩,
    ⟨0, .leaf⟩, rfl⟩, rfl⟩
  rintro address ⟨⟩

section Operations

variable {self : HevRBTreeCached} {elements : List Nat} {rounds node : Nat}

theorem Queue.distinct (queue : self.Queue elements) : elements.Nodup := by
  obtain ⟨⟨tree, holds, _, rfl⟩, _⟩ := queue
  exact holds.distinct

theorem Queue.nonzero (queue : self.Queue elements) :
    ∀ address ∈ elements, address ≠ 0 := by
  obtain ⟨⟨tree, holds, _, rfl⟩, _⟩ := queue
  exact holds.nonzero

theorem Queue.isSome (queue : self.Queue elements) :
    ∀ address ∈ elements, (self.base.nodes address).isSome := by
  obtain ⟨⟨tree, holds, _, rfl⟩, _⟩ := queue
  exact fun address member => holds.lays.isSome member

theorem Queue.null (queue : self.Queue elements) : self.base.nodes 0 = none := by
  obtain ⟨⟨tree, holds, _, _⟩, _⟩ := queue
  exact holds.null

/-- The first node is null if and only if the queue is empty. -/
theorem Queue.first_eq_zero (queue : self.Queue elements) :
    self.first = 0 ↔ elements = [] := by
  rw [first, queue.leftmost]
  cases elements with
  | nil => exact iff_of_true rfl rfl
  | cons head rest =>
      exact iff_of_false (queue.nonzero head List.mem_cons_self) (by rintro ⟨⟩)

theorem Queue.first_cons {head : Nat} {rest : List Nat}
    (queue : self.Queue (head :: rest)) : self.first = head :=
  queue.leftmost

/-- A new node is behind the nodes it does not precede. -/
theorem Queue.insert (queue : self.Queue elements) {precedes : Nat → Bool}
    (directed : elements.Pairwise fun front back =>
      precedes front = true → precedes back = true)
    (present : (self.base.nodes node).isSome) (fresh : node ∉ elements)
    (aligned : node % 4 = 0) (enough : 2 * (elements.length + 1).log2 < rounds) :
    ∃ final leftmost front back,
      self.insertWhere rounds precedes node = some (final, leftmost) ∧
      (leftmost = true ↔ front = []) ∧
      elements = front ++ back ∧ (∀ other ∈ front, precedes other = false) ∧
      (∀ other ∈ back, precedes other = true) ∧
      final.Queue (front ++ node :: back) ∧
      ∀ address ∉ front ++ node :: back,
        final.base.nodes address = self.base.nodes address := by
  obtain ⟨⟨tree, holds, good, rfl⟩, leftmost⟩ := queue
  let turn (this : Nat) : Option Side := some (if precedes this then .left else .right)
  have turnLeft {this : Nat} : turn this = some .left ↔ precedes this = true := by
    cases does : precedes this <;> simp [turn, does]
  have turnRight {this : Nat} : turn this = some .right ↔ precedes this = false := by
    cases does : precedes this <;> simp [turn, does]
  have low := Nat.lt_of_le_of_lt good.height_le enough
  have apart : Apart turn (seek turn [] tree).1 := by
    apply seek_apart_whole
    apply directed.imp
    intro front back keeps
    rw [turnLeft, turnLeft, turnRight, turnRight]
    refine ⟨keeps, fun right => ?_⟩
    cases does : precedes front with
    | false => rfl
    | true => rw [keeps does] at right; cases right
  have leaf : (seek turn [] tree).2 = .leaf := by
    rcases seek_end turn [] tree with leaf | ⟨_, _, _, _, _, stops⟩
    · exact leaf
    · cases stops
  obtain ⟨base, later, wrote, inserted⟩ :=
    holds.insert good leaf present fresh aligned low
  have found := holds.search turn low
  rw [leaf] at found
  let place := placeOf (seek turn [] tree).1 .leaf
  refine ⟨{ base := base, leftmost := if place.leftmost then node else self.leftmost },
    place.leftmost, _, _, ?_, placeOf_leftmost, toList_seek leaf,
    fun other member => turnRight.mp (apart.before other member),
    fun other member => turnLeft.mp (apart.after other member),
    ⟨⟨later, inserted.holds, inserted.good, inserted.order⟩, ?_⟩, ?_⟩
  · obtain ⟨linked, linkedEq, colored⟩ := Option.bind_eq_some_iff.mp wrote
    rw [insertWhere, found]
    refine (congrArg (Option.bind · _) linkedEq).trans ?_
    show (HevRBTreeCached.insertColor _ rounds node place.leftmost).bind _ = _
    rw [insertColor]
    exact congrArg (Option.bind · _) (congrArg (Option.bind · _) colored)
  · show (if place.leftmost then node else self.leftmost) = _
    rw [leftmost, toList_seek leaf]
    cases front : before (seek turn [] tree).1 with
    | nil => rw [if_pos (placeOf_leftmost.mpr front)]; rfl
    | cons first rest =>
        rw [if_neg fun isLeftmost => by
          rw [placeOf_leftmost.mp isLeftmost] at front; cases front]
        rfl
  · rw [← inserted.order]
    exact inserted.elsewhere

/-- Erasing keeps the order of the others. -/
theorem Queue.erase (queue : self.Queue elements) (member : node ∈ elements)
    (enough : 2 * (elements.length + 1).log2 ≤ rounds) :
    ∃ final, self.erase rounds node = some final ∧
      final.Queue (elements.erase node) ∧
      ∀ address ∉ elements.erase node,
        final.base.nodes address = self.base.nodes address := by
  obtain ⟨⟨tree, holds, good, rfl⟩, leftmost⟩ := queue
  have low := Nat.le_trans good.height_le enough
  obtain ⟨base, later, ran, erased⟩ := holds.erase good member low
  have first : self.leftmostWithout rounds node =
      some (headPointer (tree.toList.erase node)) := by
    rw [leftmostWithout]
    cases elements : tree.toList with
    | nil =>
        rw [elements] at member
        cases member
    | cons head rest =>
        rw [elements] at leftmost
        change self.leftmost = head at leftmost
        rw [leftmost]
        by_cases isHead : node = head
        · rw [if_pos isHead, isHead, List.erase_cons_head]
          exact HevRBTree.nodeNext_spec holds
            (show tree.toList = [] ++ head :: rest from elements) low
        · rw [if_neg isHead, List.erase_cons_tail (by simpa using Ne.symm isHead)]
          rfl
  refine ⟨⟨base, headPointer (tree.toList.erase node)⟩, ?_,
    ⟨⟨later, erased.holds, erased.good, erased.order⟩, rfl⟩, ?_⟩
  · rw [HevRBTreeCached.erase, first]
    exact congrArg (Option.bind · _) ran
  · rw [← erased.order]
    exact erased.elsewhere

/-- New memory changes no queue. -/
theorem Queue.allocate (queue : self.Queue elements)
    (unused : self.base.Unused node) :
    (self.allocate node).Queue elements ∧ node ∉ elements := by
  have fresh : node ∉ elements := by
    intro member
    have present := queue.isSome node member
    rw [unused.1] at present
    cases present
  obtain ⟨⟨tree, holds, good, order⟩, leftmost⟩ := queue
  refine ⟨⟨⟨tree, holds.congr rfl ?_ ?_, good, order⟩, leftmost⟩, fresh⟩
  · exact (if_neg (Ne.symm unused.2.1)).trans holds.null
  · intro address member
    refine if_neg ?_
    rintro rfl
    rw [order] at member
    exact fresh member

/-- Memory that is not in the queue can be freed. -/
theorem Queue.free (queue : self.Queue elements) (outside : node ∉ elements) :
    (self.free node).Queue elements := by
  obtain ⟨⟨tree, holds, good, order⟩, leftmost⟩ := queue
  refine ⟨⟨tree, holds.congr rfl ?_ ?_, good, order⟩, leftmost⟩
  · exact ite_eq_left_iff.mpr fun _ => holds.null
  · intro address member
    refine if_neg ?_
    rintro rfl
    rw [order] at member
    exact outside member

end Operations

theorem steady_insertWhere (self : HevRBTreeCached) (precedes : Nat → Bool)
    (node : Nat) : Steady fun rounds => self.insertWhere rounds precedes node := by
  unfold insertWhere insertColor HevRBTree.insertColor
  refine .bind (self.base.steady_findPlace _ _) fun place => .bind (.const _) fun base => ?_
  refine .bind (.bind (.bind (.const _) fun _ => ?_) fun _ => .const _) fun _ => .const _
  exact HevRBTree.steady_insertLoop _ _ _

theorem steady_erase (self : HevRBTreeCached) (node : Nat) :
    Steady fun rounds => self.erase rounds node := by
  unfold erase leftmostWithout
  refine .bind (.ite (self.base.steady_neighbour _ _) (.const _)) fun _ => ?_
  exact .bind (self.base.steady_erase _) fun _ => .const _

section Settled

variable {self : HevRBTreeCached} {elements : List Nat} {node : Nat}

theorem Queue.settles_insert (queue : self.Queue elements) {precedes : Nat → Bool}
    (directed : elements.Pairwise fun front back =>
      precedes front = true → precedes back = true)
    (present : (self.base.nodes node).isSome) (fresh : node ∉ elements)
    (aligned : node % 4 = 0) :
    ∃ final leftmost front back,
      Settles (fun rounds => self.insertWhere rounds precedes node) (final, leftmost) ∧
      (leftmost = true ↔ front = []) ∧
      elements = front ++ back ∧ (∀ other ∈ front, precedes other = false) ∧
      (∀ other ∈ back, precedes other = true) ∧
      final.Queue (front ++ node :: back) ∧
      ∀ address ∉ front ++ node :: back,
        final.base.nodes address = self.base.nodes address := by
  obtain ⟨final, leftmost, front, back, ran, rest⟩ :=
    queue.insert directed present fresh aligned (Nat.lt_succ_self _)
  exact ⟨final, leftmost, front, back,
    (self.steady_insertWhere precedes node).settles ran, rest⟩

theorem Queue.settles_erase (queue : self.Queue elements) (member : node ∈ elements) :
    ∃ final, Settles (fun rounds => self.erase rounds node) final ∧
      final.Queue (elements.erase node) ∧
      ∀ address ∉ elements.erase node,
        final.base.nodes address = self.base.nodes address := by
  obtain ⟨final, ran, rest⟩ := queue.erase member (Nat.le_refl _)
  exact ⟨final, (self.steady_erase node).settles ran, rest⟩

end Settled

end HevRBTreeCached

end ProxyVPN
