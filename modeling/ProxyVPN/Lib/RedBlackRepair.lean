/-
Module: ProxyVPN.Lib.RedBlackRepair
Purpose: Repairs of a red-black tree from a place in it up to the root.  Adding
  a red node may leave two red nodes in a row, taking a black node out leaves
  one black node too few; both repairs climb the path to that place, keep the
  order of the elements and end in a good tree.
Trusted boundary: none
Main exports: rotated, insertFix, settle, eraseFix, unconsFirst, eraseAt,
  insertFix_toList, insertFix_good, eraseFix_toList, eraseFix_good,
  eraseAt_toList, eraseAt_good
-/
import ProxyVPN.Lib.RedBlack

namespace ProxyVPN.RedBlack

universe u

variable {α : Type u}

open ColorTree

/-- A red node below a red node below a black one, of which the middle one, or
the lowest where it lies between the two, becomes the root. -/
def rotated (inner outer : PathFrame α) (tree : ColorTree α) : ColorTree α :=
  if inner.side = outer.side then
    join outer.side .black tree inner.value
      (join outer.side .red inner.sibling outer.value outer.sibling)
  else
    match tree with
    | .leaf => outer.fill (inner.fill .leaf)
    | .node color left value right =>
        let tree := ColorTree.node color left value right
        join outer.side .black
          (join outer.side .red inner.sibling inner.value (tree.child outer.side))
          value
          (join outer.side .red (tree.child outer.side.other) outer.value
            outer.sibling)

/-- Climb from a red node whose parent may be red. -/
def insertFix : List (PathFrame α) → ColorTree α → ColorTree α
  | [], tree => tree.paint .black
  | [frame], tree => frame.fill tree
  | inner :: outer :: path, tree =>
      if inner.color = .black then
        plug (inner :: outer :: path) tree
      else if outer.sibling.isRed then
        insertFix path
          (join outer.side .red
            (join inner.side .black tree inner.value inner.sibling)
            outer.value (outer.sibling.paint .black))
      else
        plug path (rotated inner outer tree)

/-- A node `value` whose child on one side has one black node too few and whose
other child is black, with `near`, `other` and `far` in it: what takes its place,
and whether that still has one too few. -/
def settle (side : Side) (color : Color) (tree : ColorTree α) (value : α)
    (near : ColorTree α) (other : α) (far : ColorTree α) : ColorTree α × Bool :=
  if far.isRed then
    (join side color (join side .black tree value near) other (far.paint .black),
      false)
  else
    match near with
    | .node .red left inner right =>
        let near := ColorTree.node .red left inner right
        (join side color (join side .black tree value (near.child side)) inner
          (join side .black (near.child side.other) other far), false)
    | _ =>
        (join side .black tree value (join side .red near other far),
          color == .black)

/-- One step up from a subtree that has one black node too few.  A red sibling
comes up first, so that the sibling is black. -/
def lift (frame : PathFrame α) (tree : ColorTree α) : ColorTree α × Bool :=
  match frame.sibling with
  | .leaf => (frame.fill tree, false)
  | .node .red left value right =>
      match (ColorTree.node .red left value right).child frame.side with
      | .leaf => (frame.fill tree, false)
      | .node color inner other outer =>
          let near := ColorTree.node color inner other outer
          (join frame.side .black
            (settle frame.side .red tree frame.value (near.child frame.side) other
              (near.child frame.side.other)).1
            value
            ((ColorTree.node .red left value right).child frame.side.other), false)
  | .node .black left value right =>
      let sibling := ColorTree.node .black left value right
      settle frame.side frame.color tree frame.value (sibling.child frame.side)
        value (sibling.child frame.side.other)

/-- Climb from a subtree that has one black node too few. -/
def eraseFix : List (PathFrame α) → ColorTree α → ColorTree α
  | [], tree => tree
  | frame :: path, tree =>
      match lift frame tree with
      | (settled, true) => eraseFix path settled
      | (settled, false) => plug path settled

/-- The way to the first element, below a path, and what is at its end. -/
def unconsFirst (path : List (PathFrame α)) :
    ColorTree α → Option (List (PathFrame α) × Color × α × ColorTree α)
  | .leaf => none
  | .node color .leaf value right => some (path, color, value, right)
  | .node color left value right =>
      unconsFirst (⟨.left, color, value, right⟩ :: path) left

/-- Take a node with these children out of the place at the end of a path: where
the way now leads to, what is there, and whether that has one black node too
few. -/
def unlinkAt (path : List (PathFrame α)) (color : Color) (left right : ColorTree α) :
    List (PathFrame α) × ColorTree α × Bool :=
  match left, unconsFirst [] right with
  | .leaf, none => (path, .leaf, color == .black)
  | .leaf, some _ => (path, right.paint color, false)
  | .node .., none => (path, left.paint color, false)
  | .node .., some (way, firstColor, first, child) =>
      (way ++ ⟨.right, color, first, left⟩ :: path, child.paint .black,
        match child with
        | .leaf => firstColor == .black
        | .node .. => false)

/-- Take a node with these children out of a tree. -/
def eraseAt (path : List (PathFrame α)) (color : Color) (left right : ColorTree α) :
    ColorTree α :=
  match unlinkAt path color left right with
  | (way, tree, true) => eraseFix way tree
  | (way, tree, false) => plug way tree

/-- The order of a whole tree depends on the order of a subtree only. -/
theorem toList_plug_congr (path : List (PathFrame α)) {tree other : ColorTree α}
    (same : tree.toList = other.toList) :
    (plug path tree).toList = (plug path other).toList := by
  rw [toList_plug, toList_plug, same]

theorem rotated_toList (inner outer : PathFrame α) (tree : ColorTree α) :
    (rotated inner outer tree).toList = (outer.fill (inner.fill tree)).toList := by
  obtain ⟨innerSide, innerColor, innerValue, innerSibling⟩ := inner
  obtain ⟨outerSide, outerColor, outerValue, outerSibling⟩ := outer
  cases tree with
  | leaf => cases innerSide <;> cases outerSide <;> simp [rotated, PathFrame.fill, join, toList]
  | node color left value right =>
      cases innerSide <;> cases outerSide <;>
        simp [rotated, PathFrame.fill, join, child, Side.other, toList]

theorem rotated_balanced {inner outer : PathFrame α} {tree : ColorTree α} {depth : Nat}
    (balanced : Balanced tree .red depth)
    (innerBalanced : Balanced inner.sibling .black depth)
    (outerBalanced : Balanced outer.sibling .black depth) :
    Balanced (rotated inner outer tree) .black (depth + 1) := by
  unfold rotated
  split
  · exact balanced.joinBlack (innerBalanced.joinRed outerBalanced)
  · cases balanced with
    | red leftBalanced rightBalanced =>
        cases outer.side with
        | left =>
            exact (innerBalanced.joinRed leftBalanced).joinBlack
              (rightBalanced.joinRed outerBalanced)
        | right =>
            exact (innerBalanced.joinRed rightBalanced).joinBlack
              (leftBalanced.joinRed outerBalanced)

theorem insertFix_toList (path : List (PathFrame α)) (tree : ColorTree α) :
    (insertFix path tree).toList = (plug path tree).toList := by
  fun_induction insertFix path tree with
  | case1 tree => exact toList_paint .black tree
  | case2 frame tree => rfl
  | case3 inner outer path tree black => rfl
  | case4 inner outer path tree red uncleRed hypothesis =>
      rw [hypothesis]
      apply toList_plug_congr path
      cases outerSide : outer.side <;> cases innerSide : inner.side <;>
        simp [PathFrame.fill, join, toList, outerSide, innerSide]
  | case5 inner outer path tree red uncleBlack =>
      exact toList_plug_congr path (rotated_toList inner outer tree)

/-- A red node over black trees that fits below its path, but for the color of
its parent, ends up in a good tree. -/
theorem insertFix_good {path : List (PathFrame α)} {tree : ColorTree α} {depth : Nat}
    (balanced : Balanced tree .red depth) (fits : Fits path depth) :
    Good (insertFix path tree) := by
  fun_induction insertFix path tree generalizing depth with
  | case1 tree => exact ⟨_, balanced.paintBlack⟩
  | case2 frame tree =>
      cases fits with
      | red above => cases above
      | black siblingBalanced rest =>
          exact rest.plug (balanced.joinBlack siblingBalanced) fun _ => rfl
  | case3 inner outer path tree black =>
      refine fits.plug balanced fun isRed => ?_
      rw [topColor, black] at isRed
      cases isRed
  | case4 inner outer path tree red uncleRed hypothesis =>
      cases fits with
      | black => exact absurd rfl red
      | red above innerBalanced rest =>
          cases rest with
          | red => cases above
          | black uncleBalanced rest =>
              cases uncleBalanced.red_of_isRed uncleRed
              exact hypothesis
                ((balanced.joinBlack innerBalanced).joinRed
                  uncleBalanced.paintBlack) rest
  | case5 inner outer path tree red uncleBlack =>
      cases fits with
      | black => exact absurd rfl red
      | red above innerBalanced rest =>
          cases rest with
          | red => cases above
          | @black outerSide outerValue uncle _ _ _ uncleBalanced rest =>
              cases uncleBalanced.black_of_not_isRed (Bool.eq_false_iff.mpr uncleBlack)
              exact rest.plug (rotated_balanced balanced innerBalanced uncleBalanced)
                fun _ => rfl

theorem settle_toList (side : Side) (color : Color) (tree : ColorTree α) (value : α)
    (near : ColorTree α) (other : α) (far : ColorTree α) :
    (settle side color tree value near other far).1.toList =
      (join side color tree value (join side .black near other far)).toList := by
  unfold settle
  split
  · cases side <;> simp [join, toList]
  · split
    · cases side <;> simp [join, child, Side.other, toList]
    · cases side <;> simp [join, toList]

/-- Below a red node the repair always ends. -/
theorem settle_red (side : Side) (tree : ColorTree α) (value : α) (near : ColorTree α)
    (other : α) (far : ColorTree α) :
    (settle side .red tree value near other far).2 = false := by
  unfold settle
  split
  · rfl
  · split <;> rfl

/-- A repair that goes on has left the node in its place. -/
theorem settle_again {side : Side} {color : Color} {tree near far : ColorTree α}
    {value other : α}
    (again : (settle side color tree value near other far).2 = true) :
    (settle side color tree value near other far).1 =
      join side .black tree value (join side .red near other far) := by
  unfold settle at again ⊢
  split at again
  · cases again
  case isFalse notRed =>
    rw [if_neg notRed]
    split at again
    · cases again
    · rfl

theorem lift_again {frame : PathFrame α} {tree : ColorTree α}
    (again : (lift frame tree).2 = true) :
    ∃ far, (lift frame tree).1 =
      join frame.side .black tree frame.value far := by
  unfold lift at again ⊢
  split at again
  · cases again
  · split at again <;> cases again
  · exact ⟨_, settle_again again⟩

/-- What may take the place of a node of some color: a tree that is as deep as
the node was, or, where the node was black, one that is less deep by one. -/
inductive Settled (color : Color) (depth : Nat) : ColorTree α × Bool → Prop where
  | done {tree : ColorTree α} {treeColor : Color} :
      Balanced tree treeColor (depth + color.blacks) →
      (treeColor = .red → color = .red) → Settled color depth (tree, false)
  | again {tree : ColorTree α} :
      color = .black → Balanced tree .black depth →
      Settled color depth (tree, true)

theorem Settled.below_red {result : ColorTree α × Bool} {depth : Nat}
    (settled : Settled .red depth result) :
    ∃ color, Balanced result.1 color depth := by
  cases settled with
  | done balanced => exact ⟨_, balanced⟩
  | again black => cases black

theorem settle_settled {side : Side} {color : Color} {tree near far : ColorTree α}
    {value other : α} {treeColor nearColor farColor : Color} {depth : Nat}
    (balanced : Balanced tree treeColor depth)
    (nearBalanced : Balanced near nearColor depth)
    (farBalanced : Balanced far farColor depth) :
    Settled color (depth + 1) (settle side color tree value near other far) := by
  unfold settle
  split
  case isTrue farRed =>
    cases farBalanced.red_of_isRed farRed
    exact .done ((balanced.joinBlack nearBalanced).joinAny
      farBalanced.paintBlack) id
  case isFalse farBlack =>
    cases farBalanced.black_of_not_isRed (Bool.eq_false_iff.mpr farBlack)
    split
    case h_1 left inner right =>
      cases nearBalanced with
      | red leftBalanced rightBalanced =>
          cases side with
          | left =>
              exact .done ((balanced.joinBlack leftBalanced).joinAny
                (rightBalanced.joinBlack farBalanced)) id
          | right =>
              exact .done ((balanced.joinBlack rightBalanced).joinAny
                (leftBalanced.joinBlack farBalanced)) id
    case h_2 nearBlack =>
      have nearIsBlack : nearColor = .black := by
        cases nearBalanced with
        | red => exact absurd rfl (nearBlack _ _ _)
        | leaf => rfl
        | black => rfl
      subst nearIsBlack
      have flipped : Balanced
          (join side .black tree value (join side .red near other far)) .black
          (depth + 1) :=
        balanced.joinBlack (nearBalanced.joinRed farBalanced)
      cases color with
      | red => exact .done flipped (by rintro ⟨⟩)
      | black => exact .again rfl flipped

theorem lift_toList (frame : PathFrame α) (tree : ColorTree α) :
    (lift frame tree).1.toList = (frame.fill tree).toList := by
  obtain ⟨side, frameColor, frameValue, sibling⟩ := frame
  unfold lift
  split
  · rfl
  case h_2 left value right siblingEq =>
    cases siblingEq
    split
    · rfl
    case h_2 color inner other outer nearEq =>
      cases side with
      | left =>
          cases nearEq
          simp [PathFrame.fill, join, child, settle_toList, Side.other, toList]
      | right =>
          cases nearEq
          simp [PathFrame.fill, join, child, settle_toList, Side.other, toList]
  case h_3 left value right siblingEq =>
    cases siblingEq
    rw [settle_toList, ← node_eq_join side]
    cases side <;> rfl

/-- One step up from a tree that is less deep by one than its sibling. -/
theorem lift_settled {frame : PathFrame α} {tree : ColorTree α}
    {treeColor siblingColor : Color} {depth : Nat}
    (balanced : Balanced tree treeColor depth)
    (siblingBalanced : Balanced frame.sibling siblingColor (depth + 1))
    (allowed : frame.color = .red → siblingColor = .black) :
    Settled frame.color (depth + 1) (lift frame tree) := by
  obtain ⟨side, color, value, sibling⟩ := frame
  unfold lift
  split
  case h_1 siblingEq =>
    cases siblingEq
    cases siblingBalanced
  case h_2 left other right siblingEq =>
    cases siblingEq
    have siblingRed := siblingBalanced.red_of_isRed rfl
    have above : color = .black := by
      cases color with
      | red =>
          rw [siblingRed] at allowed
          cases allowed rfl
      | black => rfl
    subst siblingRed
    subst above
    have children := (node_eq_join side _ _ _ _ ▸ siblingBalanced).join_red_inv
    split
    case h_1 nearEq =>
      rw [nearEq] at children
      cases children.2.1
    case h_2 nearColor inner inside outer nearEq =>
      rw [nearEq] at children
      obtain ⟨_, nearBalanced, farBalanced⟩ := children
      cases nearBalanced with
      | black insideBalanced outsideBalanced =>
          obtain ⟨settledColor, settledBalanced⟩ : ∃ color, Balanced
              (settle side .red tree value
                ((ColorTree.node .black inner inside outer).child side) inside
                ((ColorTree.node .black inner inside outer).child side.other)).1 color
              (depth + 1) := by
            cases side with
            | left =>
                exact (settle_settled balanced insideBalanced
                  outsideBalanced).below_red
            | right =>
                exact (settle_settled balanced outsideBalanced
                  insideBalanced).below_red
          exact .done (settledBalanced.joinBlack farBalanced) (by rintro ⟨⟩)
  case h_3 left other right siblingEq =>
    cases siblingEq
    cases siblingBalanced with
    | black leftBalanced rightBalanced =>
        cases side with
        | left => exact settle_settled balanced leftBalanced rightBalanced
        | right => exact settle_settled balanced rightBalanced leftBalanced

theorem eraseFix_toList (path : List (PathFrame α)) (tree : ColorTree α) :
    (eraseFix path tree).toList = (plug path tree).toList := by
  fun_induction eraseFix path tree with
  | case1 tree => rfl
  | case2 frame path tree settled lifted hypothesis =>
      rw [hypothesis]
      apply toList_plug_congr path
      rw [← lift_toList, lifted]
  | case3 frame path tree settled lifted =>
      apply toList_plug_congr path
      rw [← lift_toList, lifted]

/-- A black tree that is less deep by one than its path allows ends up in a good
tree. -/
theorem eraseFix_good {path : List (PathFrame α)} {tree : ColorTree α} {depth : Nat}
    (balanced : Balanced tree .black depth) (fits : Fits path (depth + 1)) :
    Good (eraseFix path tree) := by
  fun_induction eraseFix path tree generalizing depth with
  | case1 tree => exact ⟨_, balanced⟩
  | case2 frame path tree settled lifted hypothesis =>
      obtain ⟨siblingColor, siblingBalanced, allowed, rest⟩ := fits.cons_inv
      have step := lift_settled balanced siblingBalanced fun red => (allowed red).1
      rw [lifted] at step
      cases step with
      | again black settledBalanced =>
          rw [black] at rest
          exact hypothesis settledBalanced rest
  | case3 frame path tree settled lifted =>
      obtain ⟨siblingColor, siblingBalanced, allowed, rest⟩ := fits.cons_inv
      have step := lift_settled balanced siblingBalanced fun red => (allowed red).1
      rw [lifted] at step
      cases step with
      | @done _ settledColor settledBalanced kept =>
          apply rest.plug settledBalanced
          intro rootRed
          cases settledColor with
          | black => rfl
          | red =>
              rw [(allowed (kept rfl)).2] at rootRed
              cases rootRed

theorem unconsFirst_eq_none {path : List (PathFrame α)} {tree : ColorTree α}
    (none : unconsFirst path tree = none) : tree = .leaf := by
  fun_induction unconsFirst path tree with
  | case1 => rfl
  | case2 => cases none
  | case3 path color left value right notLeaf hypothesis =>
      exact absurd (hypothesis none) notLeaf

theorem unconsFirst_eq_some {path way : List (PathFrame α)} {tree child : ColorTree α}
    {color : Color} {first : α}
    (some : unconsFirst path tree = some (way, color, first, child)) :
    plug way (.node color .leaf first child) = plug path tree := by
  fun_induction unconsFirst path tree with
  | case1 => cases some
  | case2 => cases some; rfl
  | case3 path color left value right notLeaf hypothesis => exact hypothesis some

/-- Nothing is in front of the first element. -/
theorem before_unconsFirst {path way : List (PathFrame α)} {tree child : ColorTree α}
    {color : Color} {first : α}
    (some : unconsFirst path tree = some (way, color, first, child)) :
    before way = before path := by
  fun_induction unconsFirst path tree with
  | case1 => cases some
  | case2 => cases some; rfl
  | case3 path color left value right notLeaf hypothesis => exact hypothesis some

theorem length_unconsFirst {path way : List (PathFrame α)} {tree child : ColorTree α}
    {color : Color} {first : α}
    (some : unconsFirst path tree = some (way, color, first, child)) :
    path.length ≤ way.length := by
  fun_induction unconsFirst path tree with
  | case1 => cases some
  | case2 => cases some; exact Nat.le_refl _
  | case3 path color left value right notLeaf hypothesis =>
      exact Nat.le_of_succ_le (hypothesis some)

/-- The way to the first element goes to the left. -/
theorem side_unconsFirst {path way : List (PathFrame α)} {tree child : ColorTree α}
    {color : Color} {first : α}
    (some : unconsFirst path tree = some (way, color, first, child))
    (left : ∀ frame ∈ path, frame.side = .left) :
    ∀ frame ∈ way, frame.side = .left := by
  fun_induction unconsFirst path tree with
  | case1 => cases some
  | case2 => cases some; exact left
  | case3 path color inner value right notLeaf hypothesis =>
      apply hypothesis some
      intro frame member
      rcases List.mem_cons.mp member with rfl | member
      · rfl
      · exact left frame member

theorem unlinkAt_toList (path : List (PathFrame α)) (color : Color)
    (left right : ColorTree α) :
    (plug (unlinkAt path color left right).1
        (unlinkAt path color left right).2.1).toList =
      before path ++ (left.toList ++ right.toList) ++ after path := by
  unfold unlinkAt
  split
  case h_1 noFirst =>
    cases unconsFirst_eq_none noFirst
    exact toList_plug path .leaf
  case h_2 => rw [toList_plug, toList_paint]; rfl
  case h_3 noFirst =>
    cases unconsFirst_eq_none noFirst
    rw [toList_plug, toList_paint]
    simp [toList]
  case h_4 leftColor inner value outer way firstColor first child someFirst =>
    have order := congrArg toList (unconsFirst_eq_some someFirst)
    rw [toList_plug, before_unconsFirst someFirst] at order
    rw [plug_append, plug, toList_plug, PathFrame.fill, join, toList, toList_plug,
      toList_paint, before_unconsFirst someFirst, ← show _ = right.toList from order]
    simp [before, toList]

/-- What may be left after a node was unlinked: a good tree, or one that would be
good if there were a black node at the end of the way. -/
inductive Unlinked : List (PathFrame α) × ColorTree α × Bool → Prop where
  | whole {way : List (PathFrame α)} {tree : ColorTree α} :
      Good (plug way tree) → Unlinked (way, tree, false)
  | lacking {way : List (PathFrame α)} : Fits way 1 → Unlinked (way, .leaf, true)

theorem unlinkAt_unlinked {path : List (PathFrame α)} {color : Color}
    {left right : ColorTree α} {value : α}
    (good : Good (plug path (.node color left value right))) :
    Unlinked (unlinkAt path color left right) := by
  unfold unlinkAt
  split
  case h_1 noFirst =>
    cases unconsFirst_eq_none noFirst
    obtain ⟨depth, nodeColor, fits, balanced, _⟩ := good.split
    cases balanced with
    | red leafBalanced =>
        cases leafBalanced
        exact .whole (fits.plug .leaf fun _ => rfl)
    | black leafBalanced =>
        cases leafBalanced
        exact .lacking fits
  case h_2 first someFirst =>
    -- the only child is red, as there is no black node on the other side
    obtain ⟨depth, nodeColor, fits, balanced, _⟩ := good.split
    cases balanced with
    | red leafBalanced childBalanced =>
        cases leafBalanced
        cases childBalanced
        cases someFirst
    | black leafBalanced childBalanced =>
        cases leafBalanced
        cases childBalanced with
        | leaf => cases someFirst
        | red insideBalanced outsideBalanced =>
            exact .whole
              (fits.plug (insideBalanced.black outsideBalanced) fun _ => rfl)
  case h_3 noFirst =>
    cases unconsFirst_eq_none noFirst
    obtain ⟨depth, nodeColor, fits, balanced, _⟩ := good.split
    cases balanced with
    | red childBalanced leafBalanced =>
        cases leafBalanced
        cases childBalanced
    | black childBalanced leafBalanced =>
        cases leafBalanced
        cases childBalanced with
        | red insideBalanced outsideBalanced =>
            exact .whole
              (fits.plug (insideBalanced.black outsideBalanced) fun _ => rfl)
  case h_4 leftColor inner left outer way firstColor first child someFirst =>
    have whole :
        plug (⟨.right, color, value, .node leftColor inner left outer⟩ :: path)
          (plug way (.node firstColor .leaf first child)) =
        plug path (.node color (.node leftColor inner left outer) value right) := by
      rw [unconsFirst_eq_some someFirst]
      rfl
    rw [← whole, ← plug_append] at good
    obtain ⟨depth, nodeColor, fits, balanced, _⟩ := good.split
    replace fits := fits.revalue first
    cases balanced with
    | red leafBalanced childBalanced =>
        cases leafBalanced
        cases childBalanced
        exact .whole (fits.plug .leaf fun _ => rfl)
    | black leafBalanced childBalanced =>
        cases leafBalanced
        cases childBalanced with
        | leaf => exact .lacking fits
        | red insideBalanced outsideBalanced =>
            exact .whole
              (fits.plug (insideBalanced.black outsideBalanced) fun _ => rfl)

/-- The way does not become longer than the tree was high. -/
theorem length_unlinkAt_lt (path : List (PathFrame α)) (color : Color)
    (left right : ColorTree α) (value : α) :
    (unlinkAt path color left right).1.length <
      (plug path (.node color left value right)).height := by
  have old := length_add_height_le path (.node color left value right)
  simp only [height] at old
  unfold unlinkAt
  have shorter : path.length < (plug path (.node color left value right)).height := by
    omega
  split
  · exact shorter
  · exact shorter
  · exact shorter
  case h_4 leftColor inner other outer way firstColor first child someFirst =>
    have whole : plug path (.node color (.node leftColor inner other outer) value right) =
        plug (way ++ ⟨.right, color, value, .node leftColor inner other outer⟩ :: path)
          (.node firstColor .leaf first child) := by
      rw [plug_append, unconsFirst_eq_some someFirst]
      rfl
    have long := length_add_height_le
      (way ++ ⟨.right, color, value, .node leftColor inner other outer⟩ :: path)
      (.node firstColor .leaf first child)
    rw [← whole] at long
    simp only [List.length_append, List.length_cons, height] at long ⊢
    omega

theorem eraseAt_toList (path : List (PathFrame α)) (color : Color)
    (left right : ColorTree α) :
    (eraseAt path color left right).toList =
      before path ++ (left.toList ++ right.toList) ++ after path := by
  rw [← unlinkAt_toList, eraseAt]
  split
  case h_1 way tree unlinked => rw [eraseFix_toList, unlinked]
  case h_2 way tree unlinked => rw [unlinked]

/-- A tree is still good without the node at the end of a path. -/
theorem eraseAt_good {path : List (PathFrame α)} {color : Color}
    {left right : ColorTree α} {value : α}
    (good : Good (plug path (.node color left value right))) :
    Good (eraseAt path color left right) := by
  have unlinked := unlinkAt_unlinked good
  rw [eraseAt]
  split
  case h_1 way tree result =>
    rw [result] at unlinked
    cases unlinked with
    | lacking fits => exact eraseFix_good .leaf fits
  case h_2 way tree result =>
    rw [result] at unlinked
    cases unlinked with
    | whole rest => exact rest

end ProxyVPN.RedBlack
