/-
Module: ProxyVPN.Lib.RedBlack
Purpose: Red-black trees and the paths to their nodes.  A tree is good when its
  root is black, no red node has a red child, and all leaves lie below equally
  many black nodes; a good tree is not deep.
Trusted boundary: none
Main exports: Color, Side, ColorTree, ColorTree.join, ColorTree.toList, ColorTree.height, Balanced,
  Good, PathFrame, plug, exists_plug, Fits, Fits.plug, Good.split, Good.height_le
-/
import Mathlib.Algebra.Group.Nat.Defs
import Mathlib.Data.List.Nodup
import ProxyVPN.Lib.SearchTree

namespace ProxyVPN.RedBlack

universe u

inductive Color where
  | red
  | black
deriving Repr, DecidableEq

/-- How many black nodes a node of this color is. -/
def Color.blacks : Color → Nat
  | .red => 0
  | .black => 1

inductive Side where
  | left
  | right
deriving Repr, DecidableEq

def Side.other : Side → Side
  | .left => .right
  | .right => .left

@[simp] theorem Side.other_other (side : Side) : side.other.other = side := by
  cases side <;> rfl

theorem Side.eq_other_of_ne {side another : Side} (different : another ≠ side) :
    another = side.other := by
  cases side <;> cases another <;> first | rfl | exact absurd rfl different

inductive ColorTree (α : Type u) where
  | leaf
  | node (color : Color) (left : ColorTree α) (value : α) (right : ColorTree α)
deriving Repr, DecidableEq

variable {α : Type u}

namespace ColorTree

/-- The elements in order. -/
def toList : ColorTree α → List α
  | .leaf => []
  | .node _ left value right => left.toList ++ value :: right.toList

/-- The tree without its colors. -/
def plain : ColorTree α → SearchTree.Tree α
  | .leaf => .leaf
  | .node _ left value right => .node left.plain value right.plain

@[simp] theorem toList_plain (tree : ColorTree α) : tree.plain.toList = tree.toList := by
  induction tree with
  | leaf => rfl
  | node color left value right leftHypothesis rightHypothesis =>
      rw [plain, SearchTree.Tree.toList, leftHypothesis, rightHypothesis, toList]

/-- A node that has `near` on one side and `far` on the other. -/
def join (side : Side) (color : Color) (near : ColorTree α) (value : α)
    (far : ColorTree α) : ColorTree α :=
  match side with
  | .left => .node color near value far
  | .right => .node color far value near

def child : Side → ColorTree α → ColorTree α
  | _, .leaf => .leaf
  | .left, .node _ left _ _ => left
  | .right, .node _ _ _ right => right

/-- The tree with another color at its root. -/
def paint (color : Color) : ColorTree α → ColorTree α
  | .leaf => .leaf
  | .node _ left value right => .node color left value right

def isRed : ColorTree α → Bool
  | .leaf => false
  | .node color _ _ _ => color == .red

/-- The number of nodes on the longest way down. -/
def height : ColorTree α → Nat
  | .leaf => 0
  | .node _ left _ right => max left.height right.height + 1

@[simp] theorem toList_paint (color : Color) (tree : ColorTree α) :
    (tree.paint color).toList = tree.toList := by
  cases tree <;> rfl

@[simp] theorem join_other (side : Side) (color : Color) (near : ColorTree α)
    (value : α) (far : ColorTree α) :
    join side.other color near value far = join side color far value near := by
  cases side <;> rfl

/-- The elements of a node are its own and those of both sides. -/
theorem mem_join {side : Side} {color : Color} {near far : ColorTree α}
    {value element : α} :
    element ∈ (join side color near value far).toList ↔
      element = value ∨ element ∈ near.toList ∨ element ∈ far.toList := by
  cases side <;> simp only [join, toList, List.mem_append, List.mem_cons] <;> tauto

/-- They differ if those of each side do and none is in two of the three places.
-/
theorem nodup_join {side : Side} {color : Color} {near far : ColorTree α} {value : α} :
    (join side color near value far).toList.Nodup ↔
      (value ∉ near.toList ∧ value ∉ far.toList) ∧
        (near.toList.Nodup ∧ far.toList.Nodup) ∧
        ∀ element ∈ near.toList, element ∉ far.toList := by
  have perm : (join side color near value far).toList.Perm
      (value :: (near.toList ++ far.toList)) := by
    cases side with
    | left => exact List.perm_middle
    | right =>
        exact List.perm_middle.trans (List.Perm.cons _ List.perm_append_comm)
  rw [perm.nodup_iff, List.nodup_cons, List.nodup_append', List.mem_append, not_or]
  exact and_congr_right fun _ => (and_assoc).symm

/-- Painting what is not red black changes nothing. -/
theorem paint_of_not_isRed {tree : ColorTree α} (notRed : tree.isRed = false) :
    tree.paint .black = tree := by
  cases tree with
  | leaf => rfl
  | node color left value right =>
      cases color with
      | red => cases notRed
      | black => rfl

/-- Every node is a join from either side. -/
theorem node_eq_join (side : Side) (color : Color) (left : ColorTree α) (value : α)
    (right : ColorTree α) :
    node color left value right =
      join side color (child side (.node color left value right)) value
        (child side.other (.node color left value right)) := by
  cases side <;> rfl

/-- Induction over the shape, for what looks at a node from one side. -/
@[elab_as_elim]
theorem joinInduction (side : Side) {motive : ColorTree α → Prop} (leaf : motive .leaf)
    (join : ∀ color near value far, motive near → motive far →
      motive (join side color near value far)) (tree : ColorTree α) : motive tree := by
  induction tree with
  | leaf => exact leaf
  | node color left value right leftHypothesis rightHypothesis =>
      cases side with
      | left => exact join color left value right leftHypothesis rightHypothesis
      | right => exact join color right value left rightHypothesis leftHypothesis

theorem height_join (side : Side) (color : Color) (near : ColorTree α) (value : α)
    (far : ColorTree α) :
    (join side color near value far).height = max near.height far.height + 1 := by
  cases side with
  | left => rfl
  | right => exact congrArg (· + 1) (Nat.max_comm far.height near.height)

end ColorTree

open ColorTree

/-- No red node has a red child, and all leaves lie below the same number of
black nodes. -/
inductive Balanced : ColorTree α → Color → Nat → Prop where
  | leaf : Balanced .leaf .black 0
  | red {left right : ColorTree α} {value : α} {depth : Nat} :
      Balanced left .black depth → Balanced right .black depth →
      Balanced (.node .red left value right) .red depth
  | black {left right : ColorTree α} {value : α} {depth : Nat}
      {leftColor rightColor : Color} :
      Balanced left leftColor depth → Balanced right rightColor depth →
      Balanced (.node .black left value right) .black (depth + 1)

/-- A red-black tree: it is balanced and its root is black. -/
def Good (tree : ColorTree α) : Prop := ∃ depth, Balanced tree .black depth

/-- A red node needs black children, -/
theorem Balanced.joinRed {side : Side} {near far : ColorTree α} {value : α}
    {depth : Nat} (nearBalanced : Balanced near .black depth)
    (farBalanced : Balanced far .black depth) :
    Balanced (join side .red near value far) .red depth := by
  cases side with
  | left => exact .red nearBalanced farBalanced
  | right => exact .red farBalanced nearBalanced

/-- and a black node adds one to the depth. -/
theorem Balanced.joinBlack {side : Side} {near far : ColorTree α} {value : α}
    {depth : Nat} {nearColor farColor : Color}
    (nearBalanced : Balanced near nearColor depth)
    (farBalanced : Balanced far farColor depth) :
    Balanced (join side .black near value far) .black (depth + 1) := by
  cases side with
  | left => exact .black nearBalanced farBalanced
  | right => exact .black farBalanced nearBalanced

/-- A join whose children are black may have either color. -/
theorem Balanced.joinAny {side : Side} {color : Color} {near far : ColorTree α}
    {value : α} {depth : Nat} (nearBalanced : Balanced near .black depth)
    (farBalanced : Balanced far .black depth) :
    Balanced (join side color near value far) color (depth + color.blacks) := by
  cases color with
  | red => exact nearBalanced.joinRed farBalanced
  | black => exact nearBalanced.joinBlack farBalanced

/-- The children of a red node are black and as deep as it is. -/
theorem Balanced.join_red_inv {side : Side} {near far : ColorTree α} {value : α}
    {color : Color} {depth : Nat}
    (balanced : Balanced (join side .red near value far) color depth) :
    color = .red ∧ Balanced near .black depth ∧ Balanced far .black depth := by
  cases side with
  | left =>
      cases balanced with
      | red left right => exact ⟨rfl, left, right⟩
  | right =>
      cases balanced with
      | red left right => exact ⟨rfl, right, left⟩

/-- The children of a black node have one black node less below. -/
theorem Balanced.join_black_inv {side : Side} {near far : ColorTree α} {value : α}
    {color : Color} {depth : Nat}
    (balanced : Balanced (join side .black near value far) color depth) :
    color = .black ∧ ∃ below nearColor farColor, depth = below + 1 ∧
      Balanced near nearColor below ∧ Balanced far farColor below := by
  cases side with
  | left =>
      cases balanced with
      | black left right => exact ⟨rfl, _, _, _, rfl, left, right⟩
  | right =>
      cases balanced with
      | black left right => exact ⟨rfl, _, _, _, rfl, right, left⟩

/-- Below a black node both sides have the same depth. -/
theorem Balanced.exists_child {left right : ColorTree α} {value : α} {color : Color}
    {depth : Nat} (side : Side)
    (balanced : Balanced (.node .black left value right) color (depth + 1)) :
    ∃ childColor,
      Balanced ((ColorTree.node .black left value right).child side) childColor depth := by
  cases balanced with
  | black leftBalanced rightBalanced =>
      cases side with
      | left => exact ⟨_, leftBalanced⟩
      | right => exact ⟨_, rightBalanced⟩

/-- A red root that is painted black makes the tree one deeper. -/
theorem Balanced.paintBlack {tree : ColorTree α} {depth : Nat}
    (balanced : Balanced tree .red depth) :
    Balanced (tree.paint .black) .black (depth + 1) := by
  cases balanced with
  | red left right => exact .black left right

/-- The color in the balance is the one at the root. -/
theorem Balanced.isRed {tree : ColorTree α} {color : Color} {depth : Nat}
    (balanced : Balanced tree color depth) : tree.isRed = (color == .red) := by
  cases balanced <;> rfl

theorem Balanced.black_of_not_isRed {tree : ColorTree α} {color : Color} {depth : Nat}
    (balanced : Balanced tree color depth) (notRed : tree.isRed = false) :
    color = .black := by
  rw [balanced.isRed] at notRed
  cases color with
  | red => cases notRed
  | black => rfl

theorem Balanced.red_of_isRed {tree : ColorTree α} {color : Color} {depth : Nat}
    (balanced : Balanced tree color depth) (isRed : tree.isRed = true) :
    color = .red := by
  rw [balanced.isRed] at isRed
  cases color with
  | red => rfl
  | black => cases isRed

/-- A node of the way down to a subtree: the side the way goes, and what lies on
the other side. -/
structure PathFrame (α : Type u) where
  side : Side
  color : Color
  value : α
  sibling : ColorTree α
deriving Repr, DecidableEq

/-- The node of a frame with a subtree in its place. -/
def PathFrame.fill (frame : PathFrame α) (tree : ColorTree α) : ColorTree α :=
  join frame.side frame.color tree frame.value frame.sibling

/-- The whole tree around a subtree; the innermost frame comes first. -/
def plug : List (PathFrame α) → ColorTree α → ColorTree α
  | [], tree => tree
  | frame :: path, tree => plug path (frame.fill tree)

theorem plug_append (inner outer : List (PathFrame α)) (tree : ColorTree α) :
    plug (inner ++ outer) tree = plug outer (plug inner tree) := by
  induction inner generalizing tree with
  | nil => rfl
  | cons frame inner hypothesis => exact hypothesis (frame.fill tree)

/-- Every element is at the end of a path. -/
theorem exists_plug {tree : ColorTree α} {element : α} (member : element ∈ tree.toList) :
    ∃ path color left right,
      tree = plug path (.node color left element right) := by
  induction tree with
  | leaf => cases member
  | node color left value right leftHypothesis rightHypothesis =>
      rw [toList, List.mem_append, List.mem_cons] at member
      rcases member with inLeft | rfl | inRight
      · obtain ⟨path, below, near, far, rfl⟩ := leftHypothesis inLeft
        refine ⟨path ++ [⟨.left, color, value, right⟩], below, near, far, ?_⟩
        rw [plug_append]
        rfl
      · exact ⟨[], color, left, right, rfl⟩
      · obtain ⟨path, below, near, far, rfl⟩ := rightHypothesis inRight
        refine ⟨path ++ [⟨.right, color, value, left⟩], below, near, far, ?_⟩
        rw [plug_append]
        rfl

/-- The elements in front of the subtree that a path leads to. -/
def before : List (PathFrame α) → List α
  | [] => []
  | frame :: path =>
      match frame.side with
      | .left => before path
      | .right => before path ++ (frame.sibling.toList ++ [frame.value])

/-- The elements behind it. -/
def after : List (PathFrame α) → List α
  | [] => []
  | frame :: path =>
      match frame.side with
      | .left => frame.value :: (frame.sibling.toList ++ after path)
      | .right => after path

/-- What a path leads past stands before and behind the subtree. -/
theorem toList_plug (path : List (PathFrame α)) (tree : ColorTree α) :
    (plug path tree).toList = before path ++ tree.toList ++ after path := by
  induction path generalizing tree with
  | nil => rw [plug, before, after, List.nil_append, List.append_nil]
  | cons frame path hypothesis =>
      obtain ⟨side, color, value, sibling⟩ := frame
      rw [plug, hypothesis]
      cases side with
      | left =>
          simp only [PathFrame.fill, join, toList, before, after, List.append_assoc,
            List.cons_append]
      | right =>
          simp only [PathFrame.fill, join, toList, before, after, List.append_assoc,
            List.cons_append, List.nil_append]

/-- The color above a subtree; a root counts as having a red node above it, as
it has to be black. -/
def topColor : List (PathFrame α) → Color
  | [] => .red
  | frame :: _ => frame.color

/-- A balanced subtree of this depth in the place a path leads to makes a good
tree, unless a red node would have a red child. -/
inductive Fits : List (PathFrame α) → Nat → Prop where
  | nil {depth : Nat} : Fits [] depth
  | red {side : Side} {value : α} {sibling : ColorTree α} {path : List (PathFrame α)}
      {depth : Nat} :
      topColor path = .black → Balanced sibling .black depth →
      Fits path depth → Fits (⟨side, .red, value, sibling⟩ :: path) depth
  | black {side : Side} {value : α} {sibling : ColorTree α} {path : List (PathFrame α)}
      {depth : Nat} {color : Color} :
      Balanced sibling color depth → Fits path (depth + 1) →
      Fits (⟨side, .black, value, sibling⟩ :: path) depth

/-- The frame of a fitting path has a balanced sibling, and is black below a red
node. -/
theorem Fits.cons_inv {frame : PathFrame α} {path : List (PathFrame α)} {depth : Nat}
    (fits : Fits (frame :: path) depth) :
    ∃ siblingColor, Balanced frame.sibling siblingColor depth ∧
      (frame.color = .red → siblingColor = .black ∧ topColor path = .black) ∧
      Fits path (depth + frame.color.blacks) := by
  cases fits with
  | red above siblingBalanced rest =>
      exact ⟨.black, siblingBalanced, fun _ => ⟨rfl, above⟩, rest⟩
  | black siblingBalanced rest =>
      exact ⟨_, siblingBalanced, fun impossible => (by cases impossible), rest⟩

/-- A balanced subtree in a place that it fits makes a good tree. -/
theorem Fits.plug {path : List (PathFrame α)} {depth : Nat} {tree : ColorTree α}
    {color : Color} (fits : Fits path depth) (balanced : Balanced tree color depth)
    (allowed : topColor path = .red → color = .black) : Good (plug path tree) := by
  induction fits generalizing tree color with
  | nil => exact ⟨_, allowed rfl ▸ balanced⟩
  | red above siblingBalanced _ hypothesis =>
      have black : color = .black := allowed rfl
      subst black
      apply hypothesis (balanced.joinRed siblingBalanced)
      intro impossible
      rw [above] at impossible
      cases impossible
  | black siblingBalanced _ hypothesis =>
      exact hypothesis (balanced.joinBlack siblingBalanced) fun _ => rfl

/-- A good tree is good along every path. -/
theorem Good.split {path : List (PathFrame α)} {tree : ColorTree α}
    (good : Good (plug path tree)) :
    ∃ depth color, Fits path depth ∧ Balanced tree color depth ∧
      (topColor path = .red → color = .black) := by
  induction path generalizing tree with
  | nil =>
      obtain ⟨depth, balanced⟩ := good
      exact ⟨depth, .black, .nil, balanced, fun _ => rfl⟩
  | cons frame path hypothesis =>
      obtain ⟨depth, color, fits, filled, allowed⟩ := hypothesis good
      obtain ⟨side, frameColor, value, sibling⟩ := frame
      cases frameColor with
      | red =>
          obtain ⟨isRed, balanced, siblingBalanced⟩ := filled.join_red_inv
          refine ⟨depth, .black, .red ?_ siblingBalanced fits, balanced,
            fun _ => rfl⟩
          cases above : topColor path with
          | red => rw [isRed] at allowed; cases allowed above
          | black => rfl
      | black =>
          obtain ⟨_, below, treeColor, siblingColor, rfl, balanced,
            siblingBalanced⟩ := filled.join_black_inv
          refine ⟨below, treeColor, .black siblingBalanced fits, balanced, ?_⟩
          intro impossible
          cases impossible

/-- The elements on the path do not matter. -/
theorem Fits.revalue {inner outer : List (PathFrame α)} {side : Side} {color : Color}
    {value : α} {sibling : ColorTree α} {depth : Nat}
    (fits : Fits (inner ++ ⟨side, color, value, sibling⟩ :: outer) depth)
    (other : α) :
    Fits (inner ++ ⟨side, color, other, sibling⟩ :: outer) depth := by
  induction inner generalizing depth with
  | nil =>
      cases fits with
      | red above siblingBalanced rest => exact .red above siblingBalanced rest
      | black siblingBalanced rest => exact .black siblingBalanced rest
  | cons frame inner hypothesis =>
      cases fits with
      | red above siblingBalanced rest =>
          refine .red ?_ siblingBalanced (hypothesis rest)
          cases inner with
          | nil => exact above
          | cons => exact above
      | black siblingBalanced rest =>
          exact .black siblingBalanced (hypothesis rest)

/-- The number of black nodes above a leaf is at least half the height. -/
theorem Balanced.height_le {tree : ColorTree α} {color : Color} {depth : Nat}
    (balanced : Balanced tree color depth) :
    tree.height ≤ 2 * depth + (1 - color.blacks) := by
  induction balanced with
  | leaf => exact Nat.le_refl 0
  | red _ _ leftHypothesis rightHypothesis =>
      simp only [height, Color.blacks] at *
      omega
  | black _ _ leftHypothesis rightHypothesis =>
      simp only [height, Color.blacks] at *
      omega

/-- A tree with this many black nodes on each way down has at least two to that
power places. -/
theorem Balanced.lt_two_pow {tree : ColorTree α} {color : Color} {depth : Nat}
    (balanced : Balanced tree color depth) :
    2 ^ depth ≤ tree.toList.length + 1 := by
  induction balanced with
  | leaf => exact Nat.le_refl 1
  | red _ _ leftHypothesis rightHypothesis =>
      simp only [toList, List.length_append, List.length_cons]
      omega
  | black _ _ leftHypothesis rightHypothesis =>
      simp only [toList, List.length_append, List.length_cons, Nat.pow_succ]
      omega

/-- No way down a good tree is longer than twice the logarithm of its size. -/
theorem Good.height_le {tree : ColorTree α} (good : Good tree) :
    tree.height ≤ 2 * (tree.toList.length + 1).log2 := by
  obtain ⟨depth, balanced⟩ := good
  have shallow := balanced.height_le
  have large := balanced.lt_two_pow
  have logarithm : depth ≤ (tree.toList.length + 1).log2 :=
    (Nat.le_log2 (Nat.succ_ne_zero _)).mpr large
  simp only [Color.blacks] at shallow
  omega

/-- A good tree is at most twice as high as its number of elements makes
necessary. -/
theorem Good.height_le_of_length {tree : ColorTree α} (good : Good tree) {count : Nat}
    (few : tree.toList.length ≤ count) : tree.height ≤ 2 * (count + 1).log2 := by
  have low := good.height_le
  have monotone : (tree.toList.length + 1).log2 ≤ (count + 1).log2 := by
    rw [Nat.le_log2 (Nat.succ_ne_zero _)]
    exact Nat.le_trans (Nat.log2_self_le (Nat.succ_ne_zero _)) (by omega)
  omega

/-- No way down is longer than the tree is high. -/
theorem length_add_height_le (path : List (PathFrame α)) (tree : ColorTree α) :
    path.length + tree.height ≤ (plug path tree).height := by
  induction path generalizing tree with
  | nil => simp [plug]
  | cons frame path hypothesis =>
      have filled := hypothesis (frame.fill tree)
      have deeper : tree.height + 1 ≤ (frame.fill tree).height := by
        obtain ⟨side, color, value, sibling⟩ := frame
        cases side <;> simp only [PathFrame.fill, join, height] <;> omega
      rw [plug, List.length_cons]
      omega

end ProxyVPN.RedBlack
