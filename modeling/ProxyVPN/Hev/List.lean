/-
Module: ProxyVPN.Hev.List
Purpose: The intrusive doubly linked list of hev-list.c, whose nodes are
  addresses and whose links live in memory.
Trusted boundary: human-reviewed model
Main exports: HevList, HevList.addTail, HevList.del, HevList.walk,
  HevList.firstNodes, HevList.Holds, Holds.congr, Holds.addTail, Holds.del,
  Holds.walk, Holds.firstNodes
-/
import ProxyVPN.Lib.LinkedList

namespace ProxyVPN

open LinkedList

/-- `struct _HevList`. -/
structure HevList where
  head : Option Nat
  tail : Option Nat
deriving Repr, DecidableEq

/-- `struct _HevListNode` at every address. -/
abbrev HevListNodes := Nat → Link Nat

namespace HevList

/-- A list without nodes. -/
def empty : HevList := { head := none, tail := none }

def setNext (nodes : HevListNodes) (node : Nat) (next : Option Nat) :
    HevListNodes := fun address =>
  if address = node then { nodes node with next := next } else nodes address

def setPrev (nodes : HevListNodes) (node : Nat) (prev : Option Nat) :
    HevListNodes := fun address =>
  if address = node then { nodes node with prev := prev } else nodes address

/-- `hev_list_add_tail`. -/
def addTail (self : HevList) (nodes : HevListNodes) (new : Nat) :
    HevList × HevListNodes :=
  let nodes := setPrev nodes new self.tail
  let nodes := setNext nodes new none
  match self.tail with
  | some tail =>
      ({ self with tail := some new }, setNext nodes tail (some new))
  | none => ({ head := some new, tail := some new }, nodes)

/-- `hev_list_del`. -/
def del (self : HevList) (nodes : HevListNodes) (node : Nat) :
    HevList × HevListNodes :=
  let (self, nodes) :=
    match (nodes node).prev with
    | some prev => (self, setNext nodes prev (nodes node).next)
    | none => ({ self with head := (nodes node).next }, nodes)
  match (nodes node).next with
  | some next => (self, setPrev nodes next (nodes node).prev)
  | none => ({ self with tail := (nodes node).prev }, nodes)

/-- The nodes that a loop over `hev_list_node_next` comes to, with a bound on
the number of its rounds. -/
def walk (nodes : HevListNodes) : Nat → Option Nat → Option (List Nat)
  | _, none => some []
  | 0, some _ => none
  | rounds + 1, some node =>
      (walk nodes rounds (nodes node).next).map (node :: ·)

/-- The nodes that `count` rounds of such a loop come to; it follows a null
pointer where there are fewer. -/
def firstNodes (nodes : HevListNodes) : Nat → Option Nat → Option (List Nat)
  | 0, _ => some []
  | _ + 1, none => none
  | count + 1, some node =>
      (firstNodes nodes count (nodes node).next).map (node :: ·)

/-- The list and the links hold these nodes in this order. -/
structure Holds (list : HevList) (nodes : HevListNodes) (order : List Nat) :
    Prop where
  head : list.head = order.head?
  tail : list.tail = order.getLast?
  threads : Threads nodes order

theorem empty_holds (nodes : HevListNodes) : empty.Holds nodes [] :=
  ⟨rfl, rfl, .nil nodes⟩

/-- Links of nodes that are not in the list do not matter. -/
theorem Holds.congr {list : HevList} {nodes changed : HevListNodes}
    {order : List Nat} (holds : list.Holds nodes order)
    (same : ∀ node ∈ order, changed node = nodes node) :
    list.Holds changed order where
  head := holds.head
  tail := holds.tail
  threads :=
    { distinct := holds.threads.distinct
      linked := by
        intro before node after split
        have member : node ∈ order := by
          rw [split]
          exact List.mem_append_right _ List.mem_cons_self
        rw [same node member]
        exact holds.threads.linked before node after split }

/-- Adding a node that is not in the list puts it behind all others. -/
theorem Holds.addTail {list : HevList} {nodes : HevListNodes}
    {order : List Nat} {new : Nat} (holds : list.Holds nodes order)
    (fresh : new ∉ order) :
    (list.addTail nodes new).1.Holds (list.addTail nodes new).2
      (order ++ [new]) := by
  obtain ⟨head, tail, threads⟩ := holds
  have notLast : order.getLast? ≠ some new := fun isLast =>
    fresh (List.mem_of_getLast? isLast)
  unfold HevList.addTail
  cases lastEq : list.tail with
  | none =>
      rw [tail, List.getLast?_eq_none_iff] at lastEq
      subst lastEq
      refine ⟨rfl, rfl, threads.snoc fresh ?_ ?_ ?_⟩
      · simp [setNext, setPrev]
      · intro last isLast
        cases isLast
      · intro other different _
        simp [setNext, setPrev, different]
  | some last =>
      rw [tail] at lastEq
      have different : last ≠ new := fun same => notLast (same ▸ lastEq)
      refine ⟨?_, ?_, threads.snoc fresh ?_ ?_ ?_⟩
      · rw [head]
        cases order with
        | nil => cases lastEq
        | cons first rest => rfl
      · rw [List.getLast?_concat]
      · simp [setNext, setPrev, different.symm, lastEq]
      · intro found isLast
        rw [lastEq] at isLast
        cases isLast
        simp [setNext, setPrev, different]
      · intro other otherNew otherLast
        have otherDifferent : other ≠ last := fun same =>
          otherLast (same ▸ lastEq)
        simp [setNext, setPrev, otherNew, otherDifferent]

/-- Deleting a node leaves the others in their order. -/
theorem Holds.del {list : HevList} {nodes : HevListNodes}
    {front back : List Nat} {node : Nat}
    (holds : list.Holds nodes (front ++ node :: back)) :
    (list.del nodes node).1.Holds (list.del nodes node).2 (front ++ back) := by
  obtain ⟨head, tail, threads⟩ := holds
  obtain ⟨next, prev⟩ := threads.linked front node back rfl
  have distinct := threads.distinct
  rw [List.nodup_append, List.nodup_cons] at distinct
  obtain ⟨_, ⟨notBack, _⟩, apart⟩ := distinct
  have notFront : ∀ last, front.getLast? = some last → last ≠ node := by
    intro last isLast
    exact apart last (List.mem_of_getLast? isLast) node List.mem_cons_self
  have notFirst : ∀ first, back.head? = some first → first ≠ node := by
    intro first isFirst same
    exact notBack (same ▸ List.mem_of_head? isFirst)
  have neighbours : ∀ last first, front.getLast? = some last →
      back.head? = some first → last ≠ first := by
    intro last first isLast isFirst
    exact apart last (List.mem_of_getLast? isLast) first
      (List.mem_cons_of_mem _ (List.mem_of_head? isFirst))
  cases lastEq : front.getLast? with
  | none =>
      rw [List.getLast?_eq_none_iff] at lastEq
      subst lastEq
      cases firstEq : back.head? with
      | none =>
          -- the only node of the list
          have deleted : list.del nodes node = (empty, nodes) := by
            simp [HevList.del, next, prev, firstEq, empty]
          rw [List.head?_eq_none_iff] at firstEq
          rw [deleted, firstEq]
          exact empty_holds nodes
      | some first =>
          -- the first node of the list
          have deleted : list.del nodes node =
              ({ list with head := some first }, setPrev nodes first none) := by
            simp [HevList.del, next, prev, firstEq]
          rw [deleted]
          constructor
          · exact firstEq.symm
          · rw [tail]
            cases back with
            | nil => cases firstEq
            | cons _ rest => exact List.getLast?_cons_cons
          · apply threads.remove
            · intro last isLast
              cases isLast
            · intro found isFirst
              rw [firstEq] at isFirst
              cases isFirst
              simp [setPrev]
            · intro other _ otherFirst
              have apartFirst : other ≠ first := fun same =>
                otherFirst (same ▸ firstEq)
              simp [setPrev, apartFirst]
  | some last =>
      have different := notFront last lastEq
      have headStays : ∀ rest : List Nat,
          (front ++ rest).head? = front.head? := by
        intro rest
        cases front with
        | nil => cases lastEq
        | cons _ _ => rfl
      cases firstEq : back.head? with
      | none =>
          -- the last node of the list
          have deleted : list.del nodes node =
              ({ list with tail := some last }, setNext nodes last none) := by
            simp [HevList.del, next, prev, lastEq, firstEq, setNext, different.symm]
          rw [deleted]
          constructor
          · rw [head, headStays, headStays]
          · rw [List.getLast?_append, lastEq,
              List.head?_eq_none_iff.mp firstEq]
            rfl
          · apply threads.remove
            · intro found isLast
              rw [lastEq] at isLast
              cases isLast
              simp [setNext, firstEq]
            · intro found isFirst
              rw [firstEq] at isFirst
              cases isFirst
            · intro other otherLast _
              have apartLast : other ≠ last := fun same =>
                otherLast (same ▸ lastEq)
              simp [setNext, apartLast]
      | some first =>
          -- a node with neighbours on both sides
          have between := neighbours last first lastEq firstEq
          have deleted : list.del nodes node = (list,
              setPrev (setNext nodes last (some first)) first (some last)) := by
            simp [HevList.del, next, prev, lastEq, firstEq, setNext, different.symm]
          rw [deleted]
          constructor
          · rw [head, headStays, headStays]
          · rw [tail]
            cases back with
            | nil => cases firstEq
            | cons _ rest => simp [List.getLast?_append]
          · apply threads.remove
            · intro found isLast
              rw [lastEq] at isLast
              cases isLast
              simp [setPrev, setNext, between, firstEq]
            · intro found isFirst
              rw [firstEq] at isFirst
              cases isFirst
              simp [setPrev, setNext, between.symm, lastEq]
            · intro other otherLast otherFirst
              have apartLast : other ≠ last := fun same =>
                otherLast (same ▸ lastEq)
              have apartFirst : other ≠ first := fun same =>
                otherFirst (same ▸ firstEq)
              simp [setPrev, setNext, apartLast, apartFirst]

/-! ## Loops over the nodes -/

/-- From any place on, a loop comes to the nodes from there to the end. -/
theorem Holds.walk_rest {list : HevList} {nodes : HevListNodes}
    {order : List Nat} (holds : list.Holds nodes order) {rest : List Nat} :
    ∀ {front : List Nat} {rounds : Nat}, order = front ++ rest →
      rest.length ≤ rounds → HevList.walk nodes rounds rest.head? = some rest := by
  induction rest with
  | nil =>
      intro front rounds _ _
      cases rounds <;> rfl
  | cons node rest inductionHypothesis =>
      intro front rounds split enough
      cases rounds with
      | zero => cases enough
      | succ rounds =>
          have linked := (holds.threads.linked front node rest split).1
          have after : order = (front ++ [node]) ++ rest := by
            rw [split, List.append_assoc]
            rfl
          have later := inductionHypothesis after
            (Nat.le_of_succ_le_succ enough)
          rw [List.head?_cons, HevList.walk, linked, later]
          rfl

/-- A loop over the list comes to each of its nodes, in order. -/
theorem Holds.walk {list : HevList} {nodes : HevListNodes} {order : List Nat}
    (holds : list.Holds nodes order) {rounds : Nat}
    (enough : order.length ≤ rounds) :
    HevList.walk nodes rounds list.head = some order := by
  rw [holds.head]
  exact holds.walk_rest (List.nil_append order).symm enough

theorem Holds.firstNodes_rest {list : HevList} {nodes : HevListNodes}
    {order : List Nat} (holds : list.Holds nodes order) {rest : List Nat} :
    ∀ {front : List Nat} {count : Nat}, order = front ++ rest →
      count ≤ rest.length →
      HevList.firstNodes nodes count rest.head? = some (rest.take count) := by
  induction rest with
  | nil =>
      intro front count _ within
      rw [Nat.le_zero.mp within]
      rfl
  | cons node rest inductionHypothesis =>
      intro front count split within
      cases count with
      | zero => rfl
      | succ count =>
          have linked := (holds.threads.linked front node rest split).1
          have after : order = (front ++ [node]) ++ rest := by
            rw [split, List.append_assoc]
            rfl
          have later := inductionHypothesis after
            (Nat.le_of_succ_le_succ within)
          rw [List.head?_cons, HevList.firstNodes, linked, later]
          rfl

/-- As many rounds as there are nodes, or fewer, never follow a null pointer. -/
theorem Holds.firstNodes {list : HevList} {nodes : HevListNodes}
    {order : List Nat} (holds : list.Holds nodes order) {count : Nat}
    (within : count ≤ order.length) :
    HevList.firstNodes nodes count list.head = some (order.take count) := by
  rw [holds.head]
  exact holds.firstNodes_rest (List.nil_append order).symm within

end HevList

end ProxyVPN
