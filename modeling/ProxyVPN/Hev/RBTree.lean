/-
Module: ProxyVPN.Hev.RBTree
Purpose: The intrusive red-black tree of hev-rbtree.c.  Nodes are addresses, the
  color of a node is kept in the low bits of its parent pointer, and reading or
  writing what is not a node has no result.
Trusted boundary: human-reviewed model
Main exports: HevRBTreeNode, HevRBTree, HevRBTree.nodeLink, HevRBTree.first,
  HevRBTree.last, HevRBTree.nodeNext, HevRBTree.nodePrev, HevRBTree.insertColor,
  HevRBTree.replace, HevRBTree.erase
-/
import ProxyVPN.Lib.RedBlack

namespace ProxyVPN

open RedBlack

/-- `enum _HevRBTreeColor`. -/
def colorBit : Color → Nat
  | .red => 0
  | .black => 1

/-- `struct _HevRBTreeNode`; 0 is the null pointer. -/
structure HevRBTreeNode where
  parentColor : Nat
  right : Nat
  left : Nat
deriving Repr, DecidableEq

namespace HevRBTreeNode

def color (node : HevRBTreeNode) : Nat := node.parentColor &&& 1

def isRed (node : HevRBTreeNode) : Bool := node.color &&& 1 == 0

def isBlack (node : HevRBTreeNode) : Bool := node.color &&& 1 != 0

/-- `pc & ~3`. -/
def parentOf (parentColor : Nat) : Nat := parentColor / 4 * 4

def parent (node : HevRBTreeNode) : Nat := parentOf node.parentColor

/-- `hev_rbtree_node_red_parent`, which takes the whole word as the pointer. -/
def redParent (node : HevRBTreeNode) : Nat := node.parentColor

/-- `node->left` or `node->right`. -/
def child (node : HevRBTreeNode) : Side → Nat
  | .left => node.left
  | .right => node.right

def withChild (node : HevRBTreeNode) (value : Nat) : Side → HevRBTreeNode
  | .left => { node with left := value }
  | .right => { node with right := value }

end HevRBTreeNode

/-- `struct _HevRBTree` with the memory its nodes are in. -/
structure HevRBTree where
  root : Nat
  nodes : Nat → Option HevRBTreeNode

namespace HevRBTree

/-- Change what is at an address. -/
def modify (nodes : Nat → Option HevRBTreeNode) (address : Nat)
    (change : HevRBTreeNode → HevRBTreeNode) : Nat → Option HevRBTreeNode :=
  fun other => if other = address then (nodes other).map change else nodes other

/-- A write through a pointer. -/
def store (self : HevRBTree) (address : Nat)
    (change : HevRBTreeNode → HevRBTreeNode) : Option HevRBTree :=
  match self.nodes address with
  | some _ => some { self with nodes := modify self.nodes address change }
  | none => none

def setChild (self : HevRBTree) (side : Side) (address value : Nat) :
    Option HevRBTree :=
  self.store address fun node => node.withChild value side

def setWord (self : HevRBTree) (address word : Nat) : Option HevRBTree :=
  self.store address fun node => { node with parentColor := word }

/-- `hev_rbtree_node_set_black`. -/
def setBlack (self : HevRBTree) (address : Nat) : Option HevRBTree :=
  self.store address fun node =>
    { node with parentColor := node.parentColor ||| colorBit .black }

/-- `hev_rbtree_node_set_parent`. -/
def setParent (self : HevRBTree) (address parent : Nat) : Option HevRBTree :=
  self.store address fun node => { node with parentColor := node.color ||| parent }

/-- `hev_rbtree_node_set_parent_color`. -/
def setParentColor (self : HevRBTree) (address parent : Nat) (color : Color) :
    Option HevRBTree :=
  self.setWord address (parent ||| colorBit color)

/-- `tmp && hev_rbtree_node_is_red (tmp)`. -/
def isRedAt (self : HevRBTree) (address : Nat) : Option Bool :=
  if address = 0 then some false else (self.nodes address).map (·.isRed)

/-- `if (tmp) hev_rbtree_node_set_parent_color (tmp, parent, HEV_RBTREE_BLACK);` -/
def adopt (self : HevRBTree) (address parent : Nat) : Option HevRBTree :=
  if address = 0 then some self else self.setParentColor address parent .black

/-- `if (tmp) hev_rbtree_node_set_parent (tmp, parent);` -/
def reparent (self : HevRBTree) (address parent : Nat) : Option HevRBTree :=
  if address = 0 then some self else self.setParent address parent

/-- `hev_rbtree_change_child`. -/
def changeChild (self : HevRBTree) (old new parent : Nat) : Option HevRBTree :=
  if parent = 0 then
    some { self with root := new }
  else do
    let node ← self.nodes parent
    if node.left = old then
      self.setChild .left parent new
    else
      self.setChild .right parent new

/-- `hev_rbtree_rotate_set_parents`. -/
def rotateSetParents (self : HevRBTree) (old new : Nat) (color : Color) :
    Option HevRBTree := do
  let oldNode ← self.nodes old
  let self ← self.setWord new oldNode.parentColor
  let self ← self.setParentColor old new color
  self.changeChild old new oldNode.parent

/-- `hev_rbtree_node_link` for the pointer on one side of `parent`, or for the
root. -/
def nodeLink (self : HevRBTree) (node parent : Nat) (link : Option Side) :
    Option HevRBTree := do
  let self ← self.store node fun _ =>
    { parentColor := parent, right := 0, left := 0 }
  match link with
  | none => some { self with root := node }
  | some side => self.setChild side parent node

/-- `while (node->left) node = node->left;`, or to the right, in so many
rounds. -/
def descend (self : HevRBTree) (side : Side) : Nat → Nat → Option Nat
  | 0, _ => none
  | rounds + 1, address => do
      let node ← self.nodes address
      if node.child side = 0 then
        some address
      else
        self.descend side rounds (node.child side)

/-- The loop that looks for an ancestor which is not reached from one side. -/
def climb (self : HevRBTree) (side : Side) : Nat → Nat → Option Nat
  | 0, _ => none
  | rounds + 1, address => do
      let node ← self.nodes address
      if node.parent = 0 then
        some 0
      else
        let parent ← self.nodes node.parent
        if address = parent.child side then
          self.climb side rounds node.parent
        else
          some node.parent

/-- `hev_rbtree_first` and `hev_rbtree_last`. -/
def extreme (self : HevRBTree) (side : Side) (rounds : Nat) : Option Nat :=
  if self.root = 0 then some 0 else self.descend side rounds self.root

def first (self : HevRBTree) (rounds : Nat) : Option Nat :=
  self.extreme .left rounds

def last (self : HevRBTree) (rounds : Nat) : Option Nat :=
  self.extreme .right rounds

/-- `hev_rbtree_node_next` and `hev_rbtree_node_prev`. -/
def neighbour (self : HevRBTree) (side : Side) (rounds address : Nat) :
    Option Nat := do
  let node ← self.nodes address
  if node.parentColor = address then
    some 0
  else if node.child side ≠ 0 then
    self.descend side.other rounds (node.child side)
  else
    self.climb side rounds address

def nodeNext (self : HevRBTree) (rounds address : Nat) : Option Nat :=
  self.neighbour .right rounds address

def nodePrev (self : HevRBTree) (rounds address : Nat) : Option Nat :=
  self.neighbour .left rounds address

/-- Cases 2 and 3 of the insertion, for a parent on one side of `gparent`. -/
def insertRotate (self : HevRBTree) (side : Side) (node parent gparent : Nat) :
    Option HevRBTree := do
  let tmp := (← self.nodes parent).child side.other
  let (self, parent, tmp) ←
    if node = tmp then do
      let tmp := (← self.nodes node).child side
      let self ← self.setChild side.other parent tmp
      let self ← self.setChild side node parent
      let self ← self.adopt tmp parent
      let self ← self.setParentColor parent node .red
      let node' ← self.nodes node
      some (self, node, node'.child side.other)
    else
      some (self, parent, tmp)
  let self ← self.setChild side gparent tmp
  let self ← self.setChild side.other parent gparent
  let self ← self.adopt tmp gparent
  self.rotateSetParents gparent parent .red

/-- The loop of `hev_rbtree_insert_color`, in so many rounds. -/
def insertLoop : Nat → HevRBTree → Nat → Nat → Option HevRBTree
  | 0, _, _, _ => none
  | rounds + 1, self, node, parent =>
      if parent = 0 then
        self.setParentColor node 0 .black
      else do
        let parentNode ← self.nodes parent
        if parentNode.isBlack then
          some self
        else
          let gparent := parentNode.redParent
          let gparentNode ← self.nodes gparent
          let side := if parent ≠ gparentNode.right then .left else .right
          let tmp := gparentNode.child side.other
          if ← self.isRedAt tmp then
            -- case 1: the uncle is red
            let self ← self.setParentColor tmp gparent .black
            let self ← self.setParentColor parent gparent .black
            let next := (← self.nodes gparent).parent
            let self ← self.setParentColor gparent next .red
            insertLoop rounds self gparent next
          else
            self.insertRotate side node parent gparent

/-- `hev_rbtree_insert_color`. -/
def insertColor (self : HevRBTree) (rounds node : Nat) : Option HevRBTree := do
  let parent := (← self.nodes node).redParent
  insertLoop rounds self node parent

/-- `hev_rbtree_replace`. -/
def replace (self : HevRBTree) (victim new : Nat) : Option HevRBTree := do
  let node ← self.nodes victim
  let self ← self.store new fun _ => node
  let self ← self.reparent node.left new
  let self ← self.reparent node.right new
  self.changeChild victim new node.parent

/-- The `do` loop of case 3 in `_hev_rbtree_erase`: the leftmost node from `tmp`
on and its parent. -/
def findSuccessor (self : HevRBTree) : Nat → Nat → Nat → Option (Nat × Nat)
  | 0, _, _ => none
  | rounds + 1, successor, tmp => do
      let node ← self.nodes tmp
      if node.left = 0 then
        some (successor, tmp)
      else
        self.findSuccessor rounds tmp node.left

/-- Cases 2 and 3 of `_hev_rbtree_erase`: the successor below `child`, its
parent and its child, after the latter two are linked in case 3. -/
def detachSuccessor (self : HevRBTree) (rounds child : Nat) :
    Option (HevRBTree × Nat × Nat × Nat) := do
  let childNode ← self.nodes child
  if childNode.left = 0 then
    some (self, child, child, childNode.right)
  else do
    let (parent, successor) ← self.findSuccessor rounds child childNode.left
    let child2 := (← self.nodes successor).right
    let self ← self.setChild .left parent child2
    let self ← self.setChild .right successor child
    let self ← self.setParent child successor
    some (self, successor, parent, child2)

/-- What becomes of the child of the successor, and where the rebalancing has to
start. -/
def adoptChild (self : HevRBTree) (child2 parent successor : Nat) :
    Option (HevRBTree × Nat) := do
  if child2 ≠ 0 then
    let self ← self.setParentColor child2 parent .black
    some (self, 0)
  else
    let successorNode ← self.nodes successor
    some (self, if successorNode.isBlack then parent else 0)

/-- `_hev_rbtree_erase`. -/
def unlink (self : HevRBTree) (rounds node : Nat) :
    Option (HevRBTree × Nat) := do
  let erased ← self.nodes node
  let child := erased.right
  let tmp := erased.left
  if tmp = 0 then
    let pc := erased.parentColor
    let parent := HevRBTreeNode.parentOf pc
    let self ← self.changeChild node child parent
    if child ≠ 0 then
      let self ← self.setWord child pc
      some (self, 0)
    else
      some (self, if pc &&& colorBit .black ≠ 0 then parent else 0)
  else if child = 0 then
    let pc := erased.parentColor
    let self ← self.setWord tmp pc
    let parent := HevRBTreeNode.parentOf pc
    let self ← self.changeChild node tmp parent
    some (self, 0)
  else
    let (self, successor, parent, child2) ← self.detachSuccessor rounds child
    let tmp := (← self.nodes node).left
    let self ← self.setChild .left successor tmp
    let self ← self.setParent tmp successor
    let pc := (← self.nodes node).parentColor
    let self ← self.changeChild node successor (HevRBTreeNode.parentOf pc)
    let (self, rebalance) ← self.adoptChild child2 parent successor
    let self ← self.setWord successor pc
    some (self, rebalance)

/-- Case 1 of `_hev_rbtree_erase_color`, for a node on one side of `parent`: the
sibling afterwards. -/
def raiseSibling (self : HevRBTree) (side : Side) (parent sibling : Nat) :
    Option (HevRBTree × Nat) := do
  let siblingNode ← self.nodes sibling
  if siblingNode.isRed then
    let tmp1 := siblingNode.child side
    let self ← self.setChild side.other parent tmp1
    let self ← self.setChild side sibling parent
    let self ← self.setParentColor tmp1 parent .black
    let self ← self.rotateSetParents parent sibling .red
    some (self, tmp1)
  else
    some (self, sibling)

/-- Case 3. -/
def rotateSibling (self : HevRBTree) (side : Side) (parent sibling tmp2 : Nat) :
    Option HevRBTree := do
  let tmp1 := (← self.nodes tmp2).child side.other
  let self ← self.setChild side sibling tmp1
  let self ← self.setChild side.other tmp2 sibling
  let self ← self.setChild side.other parent tmp2
  self.adopt tmp1 sibling

/-- Case 4. -/
def rotateParent (self : HevRBTree) (side : Side) (parent sibling tmp1 : Nat) :
    Option HevRBTree := do
  let tmp2 := (← self.nodes sibling).child side
  let self ← self.setChild side.other parent tmp2
  let self ← self.setChild side sibling parent
  let self ← self.setParentColor tmp1 sibling .black
  let self ← self.reparent tmp2 parent
  self.rotateSetParents parent sibling .black

/-- Cases 2 to 4, and whether the loop goes on at `parent`. -/
def settleSibling (self : HevRBTree) (side : Side) (parent sibling : Nat) :
    Option (HevRBTree × Bool) := do
  let siblingNode ← self.nodes sibling
  let tmp1 := siblingNode.child side.other
  let tmp2 := siblingNode.child side
  if ← self.isRedAt tmp1 then
    let self ← self.rotateParent side parent sibling tmp1
    some (self, false)
  else if ← self.isRedAt tmp2 then
    let self ← self.rotateSibling side parent sibling tmp2
    let self ← self.rotateParent side parent tmp2 sibling
    some (self, false)
  else
    -- case 2: the sibling becomes red
    let self ← self.setParentColor sibling parent .red
    let parentNode ← self.nodes parent
    if parentNode.isRed then
      let self ← self.setBlack parent
      some (self, false)
    else
      some (self, true)

/-- The loop of `_hev_rbtree_erase_color`, in so many rounds. -/
def eraseLoop : Nat → HevRBTree → Nat → Nat → Option HevRBTree
  | 0, _, _, _ => none
  | rounds + 1, self, node, parent => do
      let parentNode ← self.nodes parent
      let side := if node ≠ parentNode.right then .left else .right
      let (self, sibling) ←
        self.raiseSibling side parent (parentNode.child side.other)
      let (self, again) ← self.settleSibling side parent sibling
      if again then
        let above := (← self.nodes parent).parent
        if above ≠ 0 then eraseLoop rounds self parent above else some self
      else
        some self

/-- `hev_rbtree_erase`. -/
def erase (self : HevRBTree) (rounds node : Nat) : Option HevRBTree := do
  let (self, rebalance) ← self.unlink rounds node
  if rebalance ≠ 0 then
    eraseLoop rounds self 0 rebalance
  else
    some self

end HevRBTree

end ProxyVPN
