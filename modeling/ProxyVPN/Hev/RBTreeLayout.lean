/-
Module: ProxyVPN.Hev.RBTreeLayout
Purpose: What it means that a red-black tree is in memory: every node points to
  its children and its parent, and its parent pointer carries its color.  A
  change to a subtree is put back into the whole tree by one child pointer.
Trusted boundary: human-reviewed model
Main exports: word, rootOf, Lays, LaysPath, At, Holds, at_cons, At.same,
  At.hang
-/
import Mathlib.Data.List.Nodup
import ProxyVPN.Hev.RBTree

namespace ProxyVPN

open RedBlack

/-- A parent pointer and a color in one word. -/
def word (parent : Nat) (color : Color) : Nat := parent ||| colorBit color

/-- Red is the zero bit, so the word of a red node is its parent. -/
theorem word_red (parent : Nat) : word parent .red = parent :=
  Nat.or_zero parent

/-- The color is the lowest bit of an aligned word. -/
theorem word_eq_add {parent : Nat} (aligned : parent % 4 = 0) (color : Color) :
    word parent color = parent + colorBit color := by
  have small : colorBit color < 2 ^ 2 := by cases color <;> decide
  have split := Nat.two_pow_add_eq_or_of_lt small (parent / 4)
  have whole : 2 ^ 2 * (parent / 4) = parent := by omega
  rw [whole] at split
  exact split.symm

/-- Masking gives the parent back. -/
theorem parentOf_word {parent : Nat} (aligned : parent % 4 = 0) (color : Color) :
    HevRBTreeNode.parentOf (word parent color) = parent := by
  rw [word_eq_add aligned, HevRBTreeNode.parentOf]
  cases color <;> simp only [colorBit] <;> omega

/-- The lowest bit gives the color back. -/
theorem word_and_one {parent : Nat} (aligned : parent % 4 = 0) (color : Color) :
    word parent color &&& 1 = colorBit color := by
  rw [word_eq_add aligned, Nat.and_one_is_mod]
  cases color <;> simp only [colorBit] <;> omega

/-- Setting the lowest bit makes a node black. -/
theorem word_or_black {parent : Nat} (color : Color) :
    word parent color ||| colorBit .black = word parent .black := by
  rw [word, word, Nat.or_assoc]
  cases color <;> rfl

namespace HevRBTreeNode

/-- A node that has `near` on one side and `far` on the other. -/
def cell (side : Side) (parentColor near far : Nat) : HevRBTreeNode :=
  match side with
  | .left => { parentColor := parentColor, right := far, left := near }
  | .right => { parentColor := parentColor, right := near, left := far }

variable (side : Side) (parentColor near far : Nat)

/-- A node laid out for either side has this word, -/
@[simp] theorem parentColor_cell :
    (cell side parentColor near far).parentColor = parentColor := by
  cases side <;> rfl

/-- this child on that side, -/
@[simp] theorem child_cell : (cell side parentColor near far).child side = near := by
  cases side <;> rfl

/-- and this one on the other. -/
@[simp] theorem child_other_cell :
    (cell side parentColor near far).child side.other = far := by
  cases side <;> rfl

/-- Writing the child of a side replaces the near one, -/
@[simp] theorem withChild_cell (value : Nat) :
    (cell side parentColor near far).withChild value side =
      cell side parentColor value far := by
  cases side <;> rfl

/-- and writing the other side replaces the far one. -/
@[simp] theorem withChild_other_cell (value : Nat) :
    (cell side parentColor near far).withChild value side.other =
      cell side parentColor near value := by
  cases side <;> rfl

@[simp] theorem withParentColor_cell (value : Nat) :
    { cell side parentColor near far with parentColor := value } =
      cell side value near far := by
  cases side <;> rfl

variable {parentColor near far}

/-- The parent that is read is the one that was laid out. -/
theorem parent_cell {parent : Nat} (aligned : parent % 4 = 0) (color : Color) :
    (cell side (word parent color) near far).parent = parent := by
  rw [HevRBTreeNode.parent, parentColor_cell, parentOf_word aligned]

/-- The color bit that is read is that of the color. -/
theorem color_cell {parent : Nat} (aligned : parent % 4 = 0) (color : Color) :
    (cell side (word parent color) near far).color = colorBit color := by
  rw [HevRBTreeNode.color, parentColor_cell, word_and_one aligned]

/-- A node is seen as red exactly when it is, -/
theorem isRed_cell {parent : Nat} (aligned : parent % 4 = 0) (color : Color) :
    (cell side (word parent color) near far).isRed = (color == .red) := by
  rw [isRed, color_cell side aligned]
  cases color <;> rfl

/-- and as black exactly when it is. -/
theorem isBlack_cell {parent : Nat} (aligned : parent % 4 = 0) (color : Color) :
    (cell side (word parent color) near far).isBlack = (color == .black) := by
  rw [isBlack, color_cell side aligned]
  cases color <;> rfl

/-- Which child a node is, as the loops ask for it. -/
theorem side_eq {side : Side} {parentColor near far : Nat} (different : far ≠ near) :
    (if near ≠ (cell side parentColor near far).right then Side.left
      else Side.right) = side := by
  cases side with
  | left => exact if_pos different.symm
  | right => exact if_neg fun ne => ne rfl

end HevRBTreeNode

/-- The pointer to a tree. -/
def rootOf : ColorTree Nat → Nat
  | .leaf => 0
  | .node _ _ value _ => value

/-- A null pointer stands for no tree. -/
@[simp] theorem rootOf_leaf : rootOf .leaf = 0 := rfl

/-- A tree is pointed to at its root. -/
@[simp] theorem rootOf_node (color : Color) (left : ColorTree Nat) (value : Nat)
    (right : ColorTree Nat) : rootOf (.node color left value right) = value :=
  rfl

/-- Which side a subtree is on does not matter for the pointer, -/
@[simp] theorem rootOf_join (side : Side) (color : Color) (near : ColorTree Nat)
    (value : Nat) (far : ColorTree Nat) :
    rootOf (ColorTree.join side color near value far) = value := by
  cases side <;> rfl

/-- and neither does the color of the root. -/
@[simp] theorem rootOf_paint (color : Color) (tree : ColorTree Nat) :
    rootOf (tree.paint color) = rootOf tree := by
  cases tree <;> rfl

/-- A tree is not pointed to at an address that it does not hold. -/
theorem rootOf_ne {tree : ColorTree Nat} {address : Nat} (nonzero : address ≠ 0)
    (absent : address ∉ tree.toList) : rootOf tree ≠ address := by
  cases tree with
  | leaf => exact nonzero.symm
  | node color left value right =>
      rintro rfl
      exact absent (by simp [ColorTree.toList, rootOf])

/-- A tree with a node is pointed to at one of its nodes. -/
theorem rootOf_mem {tree : ColorTree Nat} (nonleaf : tree ≠ .leaf) :
    rootOf tree ∈ tree.toList := by
  cases tree with
  | leaf => exact absurd rfl nonleaf
  | node color left value right => simp [rootOf, ColorTree.toList]

namespace HevRBTree

open HevRBTreeNode

/-- The nodes of a tree below `parent` are in memory. -/
def Lays (nodes : Nat → Option HevRBTreeNode) : Nat → ColorTree Nat → Prop
  | _, .leaf => True
  | parent, .node color left value right =>
      nodes value = some (cell .left (word parent color) (rootOf left) (rootOf right)) ∧
      Lays nodes value left ∧ Lays nodes value right

/-- A tree is laid out when its root is, and both subtrees are below it,
whichever side is named first. -/
theorem lays_join (nodes : Nat → Option HevRBTreeNode) (parent : Nat) (side : Side)
    (color : Color) (near : ColorTree Nat) (value : Nat) (far : ColorTree Nat) :
    Lays nodes parent (ColorTree.join side color near value far) ↔
      nodes value = some (cell side (word parent color) (rootOf near) (rootOf far)) ∧
      Lays nodes value near ∧ Lays nodes value far := by
  cases side with
  | left => exact Iff.rfl
  | right =>
      rw [ColorTree.join, Lays]
      exact and_congr_right fun _ => And.comm

/-- A store changes the node at its address, -/
@[simp] theorem modify_self (nodes : Nat → Option HevRBTreeNode) (address : Nat)
    (change : HevRBTreeNode → HevRBTreeNode) :
    modify nodes address change address = (nodes address).map change :=
  if_pos rfl

/-- and no other, -/
theorem modify_ne {nodes : Nat → Option HevRBTreeNode} {address other : Nat}
    {change : HevRBTreeNode → HevRBTreeNode} (different : other ≠ address) :
    modify nodes address change other = nodes other :=
  if_neg different

/-- and makes no node out of nothing. -/
@[simp] theorem isSome_modify (nodes : Nat → Option HevRBTreeNode) (address : Nat)
    (change : HevRBTreeNode → HevRBTreeNode) (other : Nat) :
    (modify nodes address change other).isSome = (nodes other).isSome := by
  unfold modify
  split
  · rw [Option.isSome_map]
  · rfl

section Stores

variable {self : HevRBTree} {address : Nat}

/-- A store to a node that is there succeeds. -/
theorem store_eq (present : (self.nodes address).isSome)
    (change : HevRBTreeNode → HevRBTreeNode) :
    self.store address change =
      some { self with nodes := modify self.nodes address change } := by
  obtain ⟨node, found⟩ := Option.isSome_iff_exists.mp present
  rw [store, found]

/-- Writing a child link is a store, -/
theorem setChild_eq (present : (self.nodes address).isSome) (side : Side)
    (value : Nat) :
    self.setChild side address value = some
      { self with nodes := modify self.nodes address (·.withChild value side) } :=
  store_eq present _

/-- writing the word with parent and color is, -/
theorem setWord_eq (present : (self.nodes address).isSome) (parentColor : Nat) :
    self.setWord address parentColor = some
      { self with nodes := modify self.nodes address fun node =>
          { node with parentColor := parentColor } } :=
  store_eq present _

/-- writing both anew is, -/
theorem setParentColor_eq (present : (self.nodes address).isSome) (parent : Nat)
    (color : Color) :
    self.setParentColor address parent color = some
      { self with nodes := modify self.nodes address fun node =>
          { node with parentColor := word parent color } } :=
  store_eq present _

/-- and writing the parent under the old color is. -/
theorem setParent_eq (present : (self.nodes address).isSome) (parent : Nat) :
    self.setParent address parent = some
      { self with nodes := modify self.nodes address fun node =>
          { node with parentColor := node.color ||| parent } } :=
  store_eq present _

/-- Nothing changes at the null pointer. -/
theorem modify_null {nodes : Nat → Option HevRBTreeNode}
    (null : (nodes 0).isSome = false) (change : HevRBTreeNode → HevRBTreeNode) :
    modify nodes 0 change = nodes := by
  funext other
  unfold modify
  split
  case isTrue isNull =>
    rw [isNull, Option.not_isSome_iff_eq_none.mp (Bool.eq_false_iff.mp null)]
    rfl
  · rfl

/-- Painting a child that may be null black under a parent is a store. -/
theorem adopt_eq (null : (self.nodes 0).isSome = false)
    (present : address = 0 ∨ (self.nodes address).isSome) (parent : Nat) :
    self.adopt address parent = some
      { self with nodes := modify self.nodes address fun node =>
          { node with parentColor := word parent .black } } := by
  unfold adopt
  split
  case isTrue isNull => rw [isNull, modify_null null]
  case isFalse notNull =>
    exact setParentColor_eq (present.resolve_left notNull) parent .black

/-- Moving a child that may be null to another parent is a store. -/
theorem reparent_eq (null : (self.nodes 0).isSome = false)
    (present : address = 0 ∨ (self.nodes address).isSome) (parent : Nat) :
    self.reparent address parent = some
      { self with nodes := modify self.nodes address fun node =>
          { node with parentColor := node.color ||| parent } } := by
  unfold reparent
  split
  case isTrue isNull => rw [isNull, modify_null null]
  case isFalse notNull => exact setParent_eq (present.resolve_left notNull) parent

/-- A rotation hands the word of the old node to the new one, and changes the link
to the old node. -/
theorem rotateSetParents_eq {new : Nat} (node : HevRBTreeNode)
    (found : self.nodes address = some node) (present : (self.nodes new).isSome)
    (color : Color) :
    self.rotateSetParents address new color =
      (HevRBTree.mk self.root
        (modify
          (modify self.nodes new fun other =>
            { other with parentColor := node.parentColor })
          address fun other => { other with parentColor := word new color })
        ).changeChild address new node.parent := by
  have addressPresent : (self.nodes address).isSome := by rw [found]; rfl
  rw [rotateSetParents, found]
  simp only [Option.bind_eq_bind, Option.bind_some]
  rw [setWord_eq present, Option.bind_some,
    setParentColor_eq (by rw [isSome_modify]; exact addressPresent),
    Option.bind_some]

end Stores

/-- Memory that is the same at the nodes of a tree holds the same tree. -/
theorem Lays.congr {nodes later : Nat → Option HevRBTreeNode} {parent : Nat}
    {tree : ColorTree Nat} (lays : Lays nodes parent tree)
    (same : ∀ address ∈ tree.toList, later address = nodes address) :
    Lays later parent tree := by
  induction tree generalizing parent with
  | leaf => trivial
  | node color left value right leftHypothesis rightHypothesis =>
      simp only [ColorTree.toList, List.mem_append, List.mem_cons] at same
      refine ⟨?_, ?_, ?_⟩
      · rw [same value (.inr (.inl rfl))]
        exact lays.1
      · exact leftHypothesis lays.2.1 fun address member =>
          same address (.inl member)
      · exact rightHypothesis lays.2.2 fun address member =>
          same address (.inr (.inr member))

/-- A tree that is laid out is a null pointer, or its root is in memory. -/
theorem Lays.present {nodes : Nat → Option HevRBTreeNode} {parent : Nat}
    {tree : ColorTree Nat} (lays : Lays nodes parent tree) :
    rootOf tree = 0 ∨ (nodes (rootOf tree)).isSome := by
  cases tree with
  | leaf => exact .inl rfl
  | node color left value right =>
      refine .inr ?_
      rw [rootOf, lays.1]
      rfl

/-- A tree with another parent pointer and color at its root. -/
theorem Lays.adopted {nodes later : Nat → Option HevRBTreeNode}
    {parent adopter : Nat} {color : Color} {tree : ColorTree Nat}
    (lays : Lays nodes parent tree) (distinct : tree.toList.Nodup)
    (root : tree ≠ .leaf →
      later (rootOf tree) = (nodes (rootOf tree)).map fun node =>
        { node with parentColor := word adopter color })
    (same : ∀ address ∈ tree.toList, address ≠ rootOf tree →
      later address = nodes address) :
    Lays later adopter (tree.paint color) := by
  cases tree with
  | leaf => trivial
  | node oldColor left value right =>
      simp only [ColorTree.toList, List.nodup_append, List.nodup_cons, List.mem_append,
        List.mem_cons, rootOf] at distinct same root
      replace root := root (by rintro ⟨⟩)
      obtain ⟨_, ⟨notRight, _⟩, apart⟩ := distinct
      refine ⟨?_, ?_, ?_⟩
      · rw [root, lays.1, Option.map_some, withParentColor_cell]
      · apply lays.2.1.congr
        intro address member
        exact same address (.inl member) (apart address member value (.inl rfl))
      · apply lays.2.2.congr
        intro address member
        apply same address (.inr (.inr member))
        rintro rfl
        exact notRight member

/-- A subtree whose root is not red may be adopted by another node. -/
theorem Lays.adoptedBlack {nodes later : Nat → Option HevRBTreeNode}
    {parent adopter : Nat} {tree : ColorTree Nat} (lays : Lays nodes parent tree)
    (notRed : tree.isRed = false) (distinct : tree.toList.Nodup)
    (root : tree ≠ .leaf →
      later (rootOf tree) = (nodes (rootOf tree)).map fun node =>
        { node with parentColor := word adopter .black })
    (same : ∀ address ∈ tree.toList, address ≠ rootOf tree →
      later address = nodes address) :
    Lays later adopter tree := by
  have adopted := lays.adopted distinct root same
  rwa [ColorTree.paint_of_not_isRed notRed] at adopted

/-- `hev_rbtree_node_set_parent` keeps the color. -/
theorem Lays.reparented {nodes later : Nat → Option HevRBTreeNode}
    {parent adopter : Nat} {tree : ColorTree Nat} (lays : Lays nodes parent tree)
    (aligned : parent % 4 = 0) (distinct : tree.toList.Nodup)
    (root : tree ≠ .leaf →
      later (rootOf tree) = (nodes (rootOf tree)).map fun node =>
        { node with parentColor := node.color ||| adopter })
    (same : ∀ address ∈ tree.toList, address ≠ rootOf tree →
      later address = nodes address) :
    Lays later adopter tree := by
  cases tree with
  | leaf => trivial
  | node color left value right =>
      have painted : Lays later adopter
          ((ColorTree.node color left value right).paint color) :=
        lays.adopted distinct ?_ same
      · exact painted
      · intro nonleaf
        rw [root nonleaf, rootOf, lays.1, Option.map_some, Option.map_some,
          color_cell .left aligned, Nat.or_comm]
        rfl

/-- The node right above the place a path leads to. -/
def top : List (PathFrame Nat) → Nat
  | [] => 0
  | frame :: _ => frame.value

/-- The nodes of a path and what lies beside it are in memory, with a pointer to
`hole` where the path leads to. -/
def LaysPath (nodes : Nat → Option HevRBTreeNode) (root : Nat) :
    List (PathFrame Nat) → Nat → Prop
  | [], hole => root = hole
  | frame :: path, hole =>
      nodes frame.value = some (cell frame.side (word (top path) frame.color) hole
        (rootOf frame.sibling)) ∧
      Lays nodes frame.value frame.sibling ∧
      LaysPath nodes root path frame.value

/-- The elements that are not in the subtree a path leads to. -/
def around (path : List (PathFrame Nat)) : List Nat := before path ++ after path

/-- What is around a path is each of its nodes with the subtree beside it. -/
theorem mem_around_cons {frame : PathFrame Nat} {path : List (PathFrame Nat)}
    {address : Nat} :
    address ∈ around (frame :: path) ↔
      address = frame.value ∨ address ∈ frame.sibling.toList ∨
        address ∈ around path := by
  obtain ⟨side, color, value, sibling⟩ := frame
  cases side <;> simp only [around, before, after, List.mem_append, List.mem_cons,
    List.not_mem_nil, or_false] <;> tauto

/-- Whether a path is laid out depends on what is around it only. -/
theorem LaysPath.congr {nodes later : Nat → Option HevRBTreeNode}
    {root hole : Nat} {path : List (PathFrame Nat)}
    (lays : LaysPath nodes root path hole)
    (same : ∀ address ∈ around path, later address = nodes address) :
    LaysPath later root path hole := by
  induction path generalizing hole with
  | nil => exact lays
  | cons frame path hypothesis =>
      refine ⟨?_, ?_, ?_⟩
      · rw [same frame.value (mem_around_cons.mpr (.inl rfl))]
        exact lays.1
      · exact lays.2.1.congr fun address member =>
          same address (mem_around_cons.mpr (.inr (.inl member)))
      · exact hypothesis lays.2.2 fun address member =>
          same address (mem_around_cons.mpr (.inr (.inr member)))

/-- A tree is in memory at the end of a path, and the rest of the memory is as
in `others`. -/
structure At (others : Nat → Option HevRBTreeNode) (rbTree : HevRBTree)
    (path : List (PathFrame Nat)) (tree : ColorTree Nat) : Prop where
  null : rbTree.nodes 0 = none
  laysPath : LaysPath rbTree.nodes rbTree.root path (rootOf tree)
  lays : Lays rbTree.nodes (top path) tree
  distinct : (plug path tree).toList.Nodup
  aligned : ∀ address ∈ (plug path tree).toList, address % 4 = 0
  others : ∀ address ∉ (plug path tree).toList, rbTree.nodes address = others address

/-- A red-black tree is in memory. -/
def Holds (self : HevRBTree) (tree : ColorTree Nat) : Prop :=
  At self.nodes self [] tree

/-- Going up one node moves it, and what is beside it, from the path into the
tree. -/
theorem at_cons {others : Nat → Option HevRBTreeNode} {self : HevRBTree}
    {frame : PathFrame Nat} {path : List (PathFrame Nat)} {tree : ColorTree Nat} :
    At others self (frame :: path) tree ↔ At others self path (frame.fill tree) := by
  constructor
  · intro located
    obtain ⟨atFrame, atSibling, atPath⟩ := located.laysPath
    exact ⟨located.null, by rwa [PathFrame.fill, rootOf_join],
      (lays_join ..).mpr ⟨atFrame, located.lays, atSibling⟩, located.distinct,
      located.aligned, located.others⟩
  · intro located
    obtain ⟨atFrame, atTree, atSibling⟩ := (lays_join ..).mp located.lays
    have atPath := located.laysPath
    rw [PathFrame.fill, rootOf_join] at atPath
    exact ⟨located.null, ⟨atFrame, atSibling, atPath⟩, atTree, located.distinct,
      located.aligned, located.others⟩

/-- The inner part of a path may be counted to the tree, -/
theorem at_append {others : Nat → Option HevRBTreeNode} {self : HevRBTree}
    {inner outer : List (PathFrame Nat)} {tree : ColorTree Nat} :
    At others self (inner ++ outer) tree ↔
      At others self outer (plug inner tree) := by
  induction inner generalizing tree with
  | nil => exact Iff.rfl
  | cons frame inner hypothesis => rw [List.cons_append, at_cons, hypothesis, plug]

/-- and so may all of it. -/
theorem at_plug {others : Nat → Option HevRBTreeNode} {self : HevRBTree}
    {path : List (PathFrame Nat)} {tree : ColorTree Nat} :
    At others self path tree ↔ At others self [] (plug path tree) := by
  rw [← at_append, List.append_nil]

/-- A plugged path holds the nodes of the tree, and those around the path. -/
theorem mem_plug {path : List (PathFrame Nat)} {tree : ColorTree Nat} {address : Nat} :
    address ∈ (plug path tree).toList ↔
      address ∈ tree.toList ∨ address ∈ around path := by
  simp only [toList_plug, around, List.mem_append]
  tauto

/-- No node occurs twice, neither within the parts nor across them. -/
theorem nodup_plug {path : List (PathFrame Nat)} {tree : ColorTree Nat}
    (distinct : (plug path tree).toList.Nodup) :
    tree.toList.Nodup ∧ (around path).Nodup ∧
      ∀ address ∈ tree.toList, address ∉ around path := by
  rw [toList_plug, List.nodup_append, List.nodup_append] at distinct
  obtain ⟨⟨beforeDistinct, treeDistinct, apartBefore⟩, afterDistinct, apartAfter⟩ :=
    distinct
  refine ⟨treeDistinct, ?_, ?_⟩
  · rw [around, List.nodup_append]
    exact ⟨beforeDistinct, afterDistinct, fun address member =>
      apartAfter address (List.mem_append_left _ member)⟩
  · intro address member inAround
    rcases List.mem_append.mp inAround with isBefore | isAfter
    · exact apartBefore address isBefore address member rfl
    · exact apartAfter address (List.mem_append_right _ member) address isAfter rfl

/-- No node occurs twice in the tree at the end of a path. -/
theorem nodup_end (path : List (PathFrame Nat)) {tree : ColorTree Nat}
    (distinct : (plug path tree).toList.Nodup) : tree.toList.Nodup :=
  (nodup_plug distinct).1

/-- Every node of a tree that is laid out is in memory. -/
theorem Lays.isSome {nodes : Nat → Option HevRBTreeNode} {parent : Nat}
    {tree : ColorTree Nat} (lays : Lays nodes parent tree) {address : Nat}
    (member : address ∈ tree.toList) : (nodes address).isSome := by
  induction tree generalizing parent with
  | leaf => cases member
  | node color left value right leftHypothesis rightHypothesis =>
      rw [ColorTree.toList, List.mem_append, List.mem_cons] at member
      rcases member with inLeft | rfl | inRight
      · exact leftHypothesis lays.2.1 inLeft
      · rw [lays.1]
        rfl
      · exact rightHypothesis lays.2.2 inRight

section Parts

variable {others : Nat → Option HevRBTreeNode} {self : HevRBTree}
  {path : List (PathFrame Nat)} {tree : ColorTree Nat}

/-- So is every node around the path to it. -/
theorem At.isSome (located : At others self path tree) {address : Nat}
    (member : address ∈ (plug path tree).toList) : (self.nodes address).isSome :=
  (at_plug.mp located).lays.isSome member

/-- None of them is at the null pointer, -/
theorem At.ne_zero (located : At others self path tree) {address : Nat}
    (member : address ∈ (plug path tree).toList) : address ≠ 0 := by
  rintro rfl
  have present := located.isSome member
  rw [located.null] at present
  cases present

/-- those of the tree itself among them, -/
theorem At.nonzero (located : At others self path tree) :
    ∀ address ∈ tree.toList, address ≠ 0 :=
  fun _ member => located.ne_zero (mem_plug.mpr (.inl member))

/-- where nothing is stored. -/
theorem At.null_isSome (located : At others self path tree) :
    (self.nodes 0).isSome = false := by
  rw [located.null]
  rfl

/-- A tree and the path to it share no node. -/
theorem At.parts (located : At others self path tree) :
    tree.toList.Nodup ∧ (around path).Nodup ∧
      ∀ address ∈ tree.toList, address ∉ around path :=
  nodup_plug located.distinct

/-- The node above a hole is aligned, -/
theorem At.top_aligned (located : At others self path tree) : top path % 4 = 0 := by
  cases path with
  | nil => rfl
  | cons frame path =>
      exact located.aligned _ (mem_plug.mpr (.inr (mem_around_cons.mpr (.inl rfl))))

/-- and is none of the tree in the hole. -/
theorem At.ne_top (located : At others self path tree) {address : Nat}
    (member : address ∈ tree.toList) : address ≠ top path := by
  cases path with
  | nil => exact located.ne_zero (mem_plug.mpr (.inl member))
  | cons frame path =>
      rintro rfl
      exact located.parts.2.2 _ member (mem_around_cons.mpr (.inl rfl))

/-- What is read at the node above a subtree. -/
theorem At.frame {frame : PathFrame Nat} (located : At others self (frame :: path) tree) :
    self.nodes frame.value = some (cell frame.side (word (top path) frame.color)
      (rootOf tree) (rootOf frame.sibling)) :=
  located.laysPath.1

/-- The node of a frame is not null. -/
theorem At.frame_nonzero {frame : PathFrame Nat}
    (located : At others self (frame :: path) tree) : frame.value ≠ 0 :=
  located.ne_zero (mem_plug.mpr (.inr (mem_around_cons.mpr (.inl rfl))))

/-- The node above a frame is aligned. -/
theorem At.path_aligned {frame : PathFrame Nat}
    (located : At others self (frame :: path) tree) : top path % 4 = 0 :=
  (at_cons.mp located).top_aligned

/-- A subtree is seen as red exactly when it is. -/
theorem Lays.isRedAt {parent : Nat} (lays : Lays self.nodes parent tree)
    (aligned : parent % 4 = 0) (nonzero : ∀ address ∈ tree.toList, address ≠ 0) :
    self.isRedAt (rootOf tree) = some tree.isRed := by
  cases tree with
  | leaf => rfl
  | node color left value right =>
      rw [HevRBTree.isRedAt, if_neg (nonzero _ (rootOf_mem (by rintro ⟨⟩))), rootOf,
        lays.1, Option.map_some, isRed_cell .left aligned, ColorTree.isRed]

end Parts

/-- The node of a frame is neither beside the path nor further up on it. -/
theorem nodup_around_cons {frame : PathFrame Nat} {path : List (PathFrame Nat)}
    (distinct : (around (frame :: path)).Nodup) :
    frame.value ∉ frame.sibling.toList ∧ frame.value ∉ around path := by
  obtain ⟨side, color, value, sibling⟩ := frame
  cases side with
  | left =>
      simp only [around, before, after] at distinct ⊢
      rw [List.nodup_append, List.nodup_cons, List.mem_append] at distinct
      obtain ⟨_, ⟨notIn, _⟩, apart⟩ := distinct
      refine ⟨fun member => notIn (.inl member), fun member => ?_⟩
      rcases List.mem_append.mp member with isBefore | isAfter
      · exact apart value isBefore value List.mem_cons_self rfl
      · exact notIn (.inr isAfter)
  | right =>
      simp only [around, before, after, List.append_assoc] at distinct ⊢
      rw [List.nodup_append, List.nodup_append, List.nodup_append] at distinct
      obtain ⟨_, ⟨_, ⟨_, _, notAfter⟩, notIn⟩, notBefore⟩ := distinct
      refine ⟨fun member => ?_, fun member => ?_⟩
      · exact notIn value member value List.mem_cons_self rfl
      · rcases List.mem_append.mp member with isBefore | isAfter
        · exact notBefore value isBefore value
            (List.mem_append_right _ List.mem_cons_self) rfl
        · exact notAfter value List.mem_cons_self value isAfter rfl

/-- `hev_rbtree_change_child` puts a new pointer where a path leads to. -/
theorem LaysPath.changeChild {self : HevRBTree} {path : List (PathFrame Nat)}
    {old : Nat} (lays : LaysPath self.nodes self.root path old) (new : Nat)
    (nonzero : old ≠ 0) (notAround : old ∉ around path)
    (aroundNonzero : ∀ address ∈ around path, address ≠ 0)
    (distinct : (around path).Nodup) :
    ∃ result, self.changeChild old new (top path) = some result ∧
      LaysPath result.nodes result.root path new ∧
      ∀ address ∉ around path, result.nodes address = self.nodes address := by
  cases path with
  | nil => exact ⟨{ self with root := new }, rfl, rfl, fun _ _ => rfl⟩
  | cons frame path =>
      obtain ⟨atFrame, atSibling, atPath⟩ := lays
      obtain ⟨notSibling, notPath⟩ := nodup_around_cons distinct
      have notNull : frame.value ≠ 0 :=
        aroundNonzero _ (mem_around_cons.mpr (.inl rfl))
      have siblingNe : rootOf frame.sibling ≠ old :=
        rootOf_ne nonzero fun member =>
          notAround (mem_around_cons.mpr (.inr (.inl member)))
      have written : self.changeChild old new frame.value = some
          { self with nodes := modify self.nodes frame.value fun node =>
              node.withChild new frame.side } := by
        rw [HevRBTree.changeChild, if_neg notNull, atFrame]
        cases frame.side <;>
          simp [cell, siblingNe, setChild, store, atFrame]
      refine ⟨_, written, ⟨?_, ?_, ?_⟩, fun address outside => modify_ne fun same =>
        outside (mem_around_cons.mpr (.inl same))⟩
      · simp only [modify_self, atFrame, Option.map_some, withChild_cell]
      · apply atSibling.congr
        intro address member
        exact modify_ne fun same => notSibling (same ▸ member)
      · apply atPath.congr
        intro address member
        exact modify_ne fun same => notPath (same ▸ member)

/-- A tree made of nodes of another one is in memory; a node that was left out is
as in `others`. -/
structure Rebuilt (others nodes : Nat → Option HevRBTreeNode) (parent : Nat)
    (tree rebuilt : ColorTree Nat) : Prop where
  lays : Lays nodes parent rebuilt
  distinct : rebuilt.toList.Nodup
  fewer : ∀ address ∈ rebuilt.toList, address ∈ tree.toList
  dropped : ∀ address ∈ tree.toList, address ∉ rebuilt.toList →
    nodes address = others address

/-- A rotated subtree is laid out anew over the same nodes. -/
theorem Rebuilt.ofPerm {others nodes : Nat → Option HevRBTreeNode} {parent : Nat}
    {tree rebuilt : ColorTree Nat} (lays : Lays nodes parent rebuilt)
    (distinct : tree.toList.Nodup) (perm : rebuilt.toList.Perm tree.toList) :
    Rebuilt others nodes parent tree rebuilt where
  lays := lays
  distinct := perm.nodup_iff.mpr distinct
  fewer := fun _ member => perm.subset member
  dropped := fun _ member notIn => absurd (perm.symm.subset member) notIn

/-- A subtree may be rebuilt without one of its nodes. -/
theorem Rebuilt.without {others nodes : Nat → Option HevRBTreeNode}
    {parent : Nat} (node : Nat) {tree rebuilt : ColorTree Nat} (lays : Lays nodes parent rebuilt)
    (distinct : tree.toList.Nodup)
    (perm : tree.toList.Perm (node :: rebuilt.toList))
    (stale : nodes node = others node) :
    Rebuilt others nodes parent tree rebuilt where
  lays := lays
  distinct := (List.nodup_cons.mp (perm.nodup_iff.mp distinct)).2
  fewer := fun _ member => perm.symm.subset (List.mem_cons_of_mem _ member)
  dropped := by
    intro address member notIn
    rcases List.mem_cons.mp (perm.subset member) with rfl | kept
    · exact stale
    · exact absurd kept notIn

section Assembly

variable {others : Nat → Option HevRBTreeNode} {self final : HevRBTree}
  {path : List (PathFrame Nat)} {tree rebuilt : ColorTree Nat}

/-- A rebuilt subtree and the path above it make up the whole tree again. -/
theorem At.assemble (located : At others self path tree)
    (laysPath : LaysPath final.nodes final.root path (rootOf rebuilt))
    (same : ∀ address ∉ (plug path tree).toList,
      final.nodes address = self.nodes address)
    (part : Rebuilt others final.nodes (top path) tree rebuilt) :
    At others final path rebuilt where
  null := by
    rw [same 0 fun member => located.ne_zero member rfl]
    exact located.null
  laysPath := laysPath
  lays := part.lays
  distinct := by
    obtain ⟨_, _, apart⟩ := located.parts
    have distinct := located.distinct
    rw [toList_plug, List.nodup_append, List.nodup_append] at distinct ⊢
    obtain ⟨⟨beforeDistinct, _, apartBefore⟩, afterDistinct, apartAfter⟩ := distinct
    refine ⟨⟨beforeDistinct, part.distinct, ?_⟩, afterDistinct, ?_⟩
    · intro address inBefore other inRebuilt
      exact apartBefore address inBefore other (part.fewer other inRebuilt)
    · intro address member other inAfter
      rcases List.mem_append.mp member with inBefore | inRebuilt
      · exact apartAfter address (List.mem_append_left _ inBefore) other inAfter
      · exact apartAfter address
          (List.mem_append_right _ (part.fewer address inRebuilt)) other inAfter
  aligned := by
    intro address member
    apply located.aligned address
    rw [mem_plug] at member ⊢
    exact member.imp_left (part.fewer address)
  others := by
    intro address notIn
    rw [mem_plug, not_or] at notIn
    by_cases inTree : address ∈ tree.toList
    · exact part.dropped address inTree notIn.1
    · have outside : address ∉ (plug path tree).toList := by
        rw [mem_plug, not_or]
        exact ⟨inTree, notIn.2⟩
      rw [same address outside, located.others address outside]

/-- What is stored elsewhere is as before, the null pointer included. -/
theorem At.same_of_null (located : At others self path tree)
    (null : (final.nodes 0).isSome = false)
    (same : ∀ address, address ≠ 0 → address ∉ tree.toList →
      final.nodes address = self.nodes address) :
    ∀ address ∉ tree.toList, final.nodes address = self.nodes address := by
  intro address outside
  by_cases isNull : address = 0
  · rw [isNull, located.null]
    exact Option.not_isSome_iff_eq_none.mp (Bool.eq_false_iff.mp null)
  · exact same address isNull outside

/-- A subtree that keeps its root is changed in its place. -/
theorem At.same (located : At others self path tree)
    (root : final.root = self.root) (null : (final.nodes 0).isSome = false)
    (same : ∀ address, address ≠ 0 → address ∉ tree.toList →
      final.nodes address = self.nodes address)
    (part : Rebuilt others final.nodes (top path) tree rebuilt)
    (sameRoot : rootOf rebuilt = rootOf tree) : At others final path rebuilt := by
  obtain ⟨_, _, apart⟩ := located.parts
  replace same := located.same_of_null null same
  apply located.assemble _ _ part
  · rw [sameRoot, root]
    apply located.laysPath.congr
    intro address inAround
    exact same address fun inTree => apart address inTree inAround
  · intro address outside
    rw [mem_plug, not_or] at outside
    exact same address outside.1

/-- A subtree with another root is put into its place by
`hev_rbtree_change_child`. -/
theorem At.hang (located : At others self path tree) (changed : HevRBTree)
    (nonzero : rootOf tree ≠ 0) (new : Nat) (root : changed.root = self.root)
    (null : (changed.nodes 0).isSome = false)
    (same : ∀ address, address ≠ 0 → address ∉ tree.toList →
      changed.nodes address = self.nodes address) :
    ∃ result, changed.changeChild (rootOf tree) new (top path) = some result ∧
      (∀ address ∈ tree.toList, result.nodes address = changed.nodes address) ∧
      (result.nodes 0).isSome = false ∧
      ∀ (final : HevRBTree) (rebuilt : ColorTree Nat), rootOf rebuilt = new →
        final.root = result.root →
        (∀ address ∉ tree.toList, final.nodes address = result.nodes address) →
        Rebuilt others final.nodes (top path) tree rebuilt →
        At others final path rebuilt := by
  obtain ⟨_, aroundDistinct, apart⟩ := located.parts
  replace same := located.same_of_null null same
  have inTree : rootOf tree ∈ tree.toList := by
    cases tree with
    | leaf => exact absurd rfl nonzero
    | node color left value right => simp [rootOf, ColorTree.toList]
  have laysPath : LaysPath changed.nodes changed.root path (rootOf tree) := by
    rw [root]
    apply located.laysPath.congr
    intro address inAround
    exact same address fun inTree => apart address inTree inAround
  obtain ⟨result, written, resultPath, elsewhere⟩ := laysPath.changeChild new
    nonzero (apart _ inTree)
    (fun address member => located.ne_zero (mem_plug.mpr (.inr member)))
    aroundDistinct
  refine ⟨result, written, fun address member =>
    elsewhere address (apart address member), ?_, ?_⟩
  · rw [elsewhere 0 fun member => located.ne_zero (mem_plug.mpr (.inr member)) rfl]
    exact null
  rintro final rebuilt rfl finalRoot finalSame part
  apply located.assemble _ _ part
  · rw [finalRoot]
    apply resultPath.congr
    intro address inAround
    exact finalSame address fun inTree => apart address inTree inAround
  · intro address outside
    rw [mem_plug, not_or] at outside
    rw [finalSame address outside.1, elsewhere address outside.2,
      same address outside.1]

/-- A rotation ends with `hev_rbtree_change_child`. -/
theorem At.rotate (located : At others self path tree) {changed : HevRBTree}
    {old new above : Nat} (oldRoot : old = rootOf tree)
    (newRoot : new = rootOf rebuilt) (parent : above = top path)
    (nonzero : old ≠ 0) (root : changed.root = self.root)
    (null : (changed.nodes 0).isSome = false)
    (same : ∀ address, address ≠ 0 → address ∉ tree.toList →
      changed.nodes address = self.nodes address)
    (lays : Lays changed.nodes (top path) rebuilt)
    (order : rebuilt.toList = tree.toList) :
    ∃ final, changed.changeChild old new above = some final ∧
      At others final path rebuilt := by
  subst oldRoot newRoot parent
  obtain ⟨result, written, kept, _, close⟩ :=
    located.hang changed nonzero (rootOf rebuilt) root null same
  refine ⟨result, written, close result rebuilt rfl rfl (fun _ _ => rfl) ?_⟩
  apply Rebuilt.ofPerm _ located.parts.1 (by rw [order])
  apply lays.congr
  rw [order]
  exact kept

end Assembly

end HevRBTree

end ProxyVPN
