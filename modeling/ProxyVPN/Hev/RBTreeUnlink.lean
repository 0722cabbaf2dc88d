/-
Module: ProxyVPN.Hev.RBTreeUnlink
Purpose: The first half of erasing: a node is taken out of the pointers of a
  red-black tree in memory, and where it had two children its successor takes
  its place.
Trusted boundary: human-reviewed model
Main exports: findSuccessor_spec, unlink_spec
-/
import ProxyVPN.Hev.RBTreeLayout
import ProxyVPN.Lib.RedBlackRepair

namespace ProxyVPN

open RedBlack HevRBTreeNode

namespace HevRBTree

variable {others : Nat → Option HevRBTreeNode} {self : HevRBTree}
  {path : List (PathFrame Nat)} {left right : ColorTree Nat} {color : Color}
  {node : Nat}

/-- The node above the end of a way that starts below `above`. -/
def topOf (above : Nat) : List (PathFrame Nat) → Nat
  | [] => above
  | frame :: _ => frame.value

theorem Lays.end_of_plug {nodes : Nat → Option HevRBTreeNode} {above : Nat}
    (way : List (PathFrame Nat)) {tree : ColorTree Nat}
    (lays : Lays nodes above (plug way tree)) : Lays nodes (topOf above way) tree := by
  induction way generalizing tree with
  | nil => exact lays
  | cons frame way hypothesis => exact ((lays_join ..).mp (hypothesis lays)).2.1

/-- A part of a tree may be replaced by one with the same root. -/
theorem Lays.plug_congr {nodes later : Nat → Option HevRBTreeNode} {above : Nat}
    (way : List (PathFrame Nat)) {tree other : ColorTree Nat}
    (lays : Lays nodes above (plug way tree))
    (replaced : ∀ parent, Lays nodes parent tree → Lays later parent other)
    (sameRoot : rootOf other = rootOf tree)
    (same : ∀ address ∈ around way, later address = nodes address) :
    Lays later above (plug way other) := by
  induction way generalizing tree other with
  | nil => exact replaced above lays
  | cons frame way hypothesis =>
      apply hypothesis lays
      · intro parent filled
        obtain ⟨atFrame, laysTree, laysSibling⟩ := (lays_join ..).mp filled
        refine (lays_join ..).mpr ⟨?_, replaced _ laysTree, ?_⟩
        · rw [same _ (mem_around_cons.mpr (.inl rfl)), atFrame, sameRoot]
        · exact laysSibling.congr fun address member =>
            same address (mem_around_cons.mpr (.inr (.inl member)))
      · rw [PathFrame.fill, PathFrame.fill, rootOf_join, rootOf_join]
      · exact fun address member => same address (mem_around_cons.mpr (.inr (.inr member)))

/-- The root of a tree is on the way to its parts. -/
theorem rootOf_plug (frame : PathFrame Nat) (way : List (PathFrame Nat))
    (tree other : ColorTree Nat) :
    rootOf (plug (frame :: way) tree) = rootOf (plug (frame :: way) other) := by
  induction way generalizing frame tree other with
  | nil => rw [plug, plug, plug, plug, PathFrame.fill, PathFrame.fill, rootOf_join, rootOf_join]
  | cons outer way hypothesis => exact hypothesis outer _ _

theorem rootOf_plug_mem (frame : PathFrame Nat) (way : List (PathFrame Nat))
    (tree : ColorTree Nat) :
    rootOf (plug (frame :: way) tree) ∈ around (frame :: way) := by
  induction way generalizing frame tree with
  | nil => exact mem_around_cons.mpr (.inl (rootOf_join ..))
  | cons outer way hypothesis =>
      exact mem_around_cons.mpr (.inr (.inr (hypothesis outer _)))

/-- The loop of case 3 finds the leftmost node and its parent. -/
theorem findSuccessor_spec (rounds : Nat) {path way : List (PathFrame Nat)}
    {tree child : ColorTree Nat} {firstColor : Color} {first above : Nat}
    (lays : Lays self.nodes above tree)
    (nonzero : ∀ address ∈ tree.toList, address ≠ 0)
    (someFirst : unconsFirst path tree = some (way, firstColor, first, child))
    (enough : way.length < path.length + rounds) :
    self.findSuccessor rounds (top path) (rootOf tree) = some (top way, first) := by
  fun_induction unconsFirst path tree generalizing above rounds with
  | case1 => cases someFirst
  | case2 path color value right =>
      cases someFirst
      obtain ⟨rounds, rfl⟩ : ∃ fewer, rounds = fewer + 1 := ⟨rounds - 1, by omega⟩
      rw [findSuccessor, rootOf_node, lays.1]
      rfl
  | case3 path color left value right notLeaf hypothesis =>
      have longer := length_unconsFirst someFirst
      rw [List.length_cons] at longer
      obtain ⟨rounds, rfl⟩ : ∃ fewer, rounds = fewer + 1 := ⟨rounds - 1, by omega⟩
      have leftMem := rootOf_mem notLeaf
      have leftNonzero : rootOf left ≠ 0 :=
        nonzero _ (by rw [ColorTree.toList]; exact List.mem_append_left _ leftMem)
      rw [findSuccessor, rootOf_node, lays.1]
      simp only [Option.bind_eq_bind, Option.bind_some]
      exact (if_neg leftNonzero).trans (hypothesis _ lays.2.1
        (fun address member => nonzero address
          (by rw [ColorTree.toList]; exact List.mem_append_left _ member))
        someFirst (by simp only [List.length_cons]; omega))

/-- Case 1: a node without a left child gives its place and color to the right
one. -/
theorem unlink_right
    (located : At others self path (.node color .leaf node right))
    (stale : others node = self.nodes node) (rounds : Nat) :
    ∃ final, self.unlink rounds node =
        some (final, if right = .leaf ∧ color = .black then top path else 0) ∧
      At others final path (right.paint color) := by
  obtain ⟨atNode, _, laysRight⟩ := located.lays
  have nonzero := located.nonzero
  have distinct := located.parts.1
  simp only [ColorTree.toList, List.nil_append, List.nodup_cons, List.mem_cons]
    at distinct nonzero
  obtain ⟨result, written, kept, _, close⟩ := located.hang self
    (nonzero node (.inl rfl)) (rootOf right) rfl located.null_isSome
    (fun _ _ _ => rfl)
  rw [rootOf_node] at written
  simp only [ColorTree.toList, List.nil_append, List.mem_cons] at kept
  rw [unlink, atNode]
  simp only [Option.bind_eq_bind, Option.bind_some, parentColor_cell,
    parentOf_word located.top_aligned]
  rw [if_pos (by rfl), show (cell .left (word (top path) color) (rootOf .leaf)
    (rootOf right)).right = rootOf right from rfl, written, Option.bind_some]
  have staleResult : result.nodes node = others node := by
    rw [kept node (.inl rfl), stale]
  cases right with
  | leaf =>
      rw [if_neg (by decide)]
      refine ⟨result, ?_, close result .leaf rfl rfl (fun _ _ => rfl)
        (.without node trivial located.parts.1 (.refl _) staleResult)⟩
      have bit := word_and_one located.top_aligned color
      rw [show colorBit .black = 1 from rfl, bit]
      cases color <;> simp [colorBit]
  | node childColor inner child outer =>
      have childMem : rootOf (.node childColor inner child outer) ∈
          (ColorTree.node childColor inner child outer).toList :=
        rootOf_mem (by rintro ⟨⟩)
      rw [rootOf_node] at childMem ⊢
      rw [if_pos (nonzero child (.inr childMem)),
        if_neg (by rintro ⟨⟨⟩, _⟩),
        setWord_eq (by rw [kept child (.inr childMem)]; exact laysRight.isSome childMem),
        Option.bind_some]
      refine ⟨_, rfl, close _ _ (rootOf_paint ..) rfl ?_
        (.without node ?_ located.parts.1 ?_ ?_)⟩
      · intro address outside
        exact modify_ne fun same => outside (by simp [same, ColorTree.toList])
      · apply laysRight.adopted distinct.2
        · intro
          rw [rootOf_node, ← kept child (.inr childMem)]
          exact modify_self ..
        · intro address member different
          exact (modify_ne different).trans (kept address (.inr member))
      · rw [ColorTree.toList_paint]
        exact .refl _
      · have different : node ≠ child := fun same => distinct.1 (same ▸ childMem)
        exact (modify_ne different).trans staleResult

/-- Still case 1, with a left child only. -/
theorem unlink_left
    (located : At others self path (.node color left node .leaf))
    (stale : others node = self.nodes node) (nonleaf : left ≠ .leaf) (rounds : Nat) :
    ∃ final, self.unlink rounds node = some (final, 0) ∧
      At others final path (left.paint color) := by
  obtain ⟨atNode, laysLeft, _⟩ := located.lays
  have nonzero := located.nonzero
  have distinct := located.parts.1
  have childMem := rootOf_mem nonleaf
  have childSome := laysLeft.isSome childMem
  have shape : (ColorTree.node color left node .leaf).toList.Perm (node :: left.toList) := by
    rw [ColorTree.toList, ColorTree.toList]
    exact List.perm_append_singleton node left.toList
  have nodeDistinct := List.nodup_cons.mp (shape.nodup_iff.mp distinct)
  have different : node ≠ rootOf left := fun same => nodeDistinct.1 (same ▸ childMem)
  have childIn : rootOf left ∈ (ColorTree.node color left node .leaf).toList :=
    shape.symm.subset (List.mem_cons_of_mem _ childMem)
  obtain ⟨result, written, kept, _, close⟩ := located.hang
    (HevRBTree.mk self.root (modify self.nodes (rootOf left) fun other =>
      { other with parentColor := word (top path) color }))
    (nonzero node (shape.symm.subset List.mem_cons_self)) (rootOf left) rfl
    (by simpa using located.null_isSome)
    (fun address _ outside => modify_ne fun same => outside (same ▸ childIn))
  rw [rootOf_node] at written
  rw [unlink, atNode]
  simp only [Option.bind_eq_bind, Option.bind_some, parentColor_cell,
    parentOf_word located.top_aligned]
  rw [show (cell .left (word (top path) color) (rootOf left) (rootOf .leaf)).left =
      rootOf left from rfl, if_neg (nonzero _ childIn), if_pos (by rfl),
    setWord_eq childSome, Option.bind_some, written, Option.bind_some]
  refine ⟨result, rfl, close result _ (rootOf_paint ..) rfl (fun _ _ => rfl)
    (.without node ?_ distinct ?_ ?_)⟩
  · apply laysLeft.adopted nodeDistinct.2
    · intro
      exact (kept _ childIn).trans (modify_self ..)
    · intro address member notRoot
      exact (kept address (shape.symm.subset (List.mem_cons_of_mem _ member))).trans
        (modify_ne notRoot)
  · rw [ColorTree.toList_paint]
    exact shape
  · rw [stale]
    exact (kept node (shape.symm.subset List.mem_cons_self)).trans
      (modify_ne different)

/-- The successor stands alone, and what was below it is linked in its place; its
parent and color are still the old ones. -/
structure Detached (self detached : HevRBTree) (right : ColorTree Nat)
    (way : List (PathFrame Nat)) (firstColor : Color) (first : Nat) (child : ColorTree Nat) :
    Prop where
  root : detached.root = self.root
  present : ∀ address, (detached.nodes address).isSome = (self.nodes address).isSome
  outside : ∀ address ∉ right.toList, detached.nodes address = self.nodes address
  atFirst : ∃ above, above % 4 = 0 ∧ detached.nodes first = some
    (cell .left (word above firstColor) 0 (rootOf (plug way child)))
  rest : ∀ later : Nat → Option HevRBTreeNode,
    (child ≠ .leaf → later (rootOf child) =
      (detached.nodes (rootOf child)).map fun node =>
        { node with parentColor := word (topOf first way) .black }) →
    (∀ address ∈ right.toList, address ≠ first → address ≠ rootOf child →
      later address = detached.nodes address) →
    Lays later first (plug way (child.paint .black))

/-- Case 2: the right child has no left child. -/
theorem detachSuccessor_child {above : Nat} {child : ColorTree Nat} {first : Nat}
    (lays : Lays self.nodes above (.node color .leaf first child))
    (distinct : (ColorTree.node color .leaf first child).toList.Nodup)
    (aligned : above % 4 = 0) (rounds : Nat) :
    self.detachSuccessor rounds first = some (self, first, first, rootOf child) ∧
      Detached self self (.node color .leaf first child) [] color first child := by
  have ⟨atFirst, _, laysChild⟩ := lays
  simp only [ColorTree.toList, List.nil_append, List.nodup_cons] at distinct
  constructor
  · rw [detachSuccessor, atFirst]
    rfl
  · refine ⟨rfl, fun _ => rfl, fun _ _ => rfl, ⟨above, aligned, atFirst⟩, ?_⟩
    intro later adopted same
    apply laysChild.adopted distinct.2 adopted
    intro address member notRoot
    apply same address (by simp [ColorTree.toList, member]) _ notRoot
    rintro rfl
    exact distinct.1 member

/-- Case 3: the successor is farther down. -/
theorem detachSuccessor_below {above : Nat} {right child : ColorTree Nat}
    {frame : PathFrame Nat} {way : List (PathFrame Nat)} {first rounds : Nat}
    (lays : Lays self.nodes above right) (distinct : right.toList.Nodup)
    (nonzero : ∀ address ∈ right.toList, address ≠ 0)
    (aligned : ∀ address ∈ right.toList, address % 4 = 0)
    (aboveAligned : above % 4 = 0)
    (someFirst : unconsFirst [] right = some (frame :: way, color, first, child))
    (enough : way.length < rounds) :
    ∃ detached, self.detachSuccessor rounds (rootOf right) =
        some (detached, first, frame.value, rootOf child) ∧
      Detached self detached right (frame :: way) color first child := by
  have shape := unconsFirst_eq_some someFirst
  rw [plug] at shape
  have goesLeft : frame.side = .left :=
    side_unconsFirst someFirst (by rintro _ ⟨⟩) frame List.mem_cons_self
  have members : ∀ address, address ∈ right.toList ↔
      address ∈ (ColorTree.node color .leaf first child).toList ∨
        address ∈ around (frame :: way) := by
    intro address
    rw [← mem_plug, shape]
  have apart : (plug (frame :: way) (.node color .leaf first child)).toList.Nodup := by
    rwa [shape]
  obtain ⟨firstDistinct, aroundDistinct, notAround⟩ := nodup_plug apart
  obtain ⟨notSibling, notWay⟩ := nodup_around_cons aroundDistinct
  have rootEq : rootOf right = rootOf (plug (frame :: way) child) := by
    rw [← shape]
    exact rootOf_plug ..
  have rootMem : rootOf right ∈ around (frame :: way) := by
    rw [rootEq]
    exact rootOf_plug_mem ..
  have rightLays := lays
  rw [← shape] at lays
  obtain ⟨atFrame, ⟨atFirst, _, laysChild⟩, laysSibling⟩ :=
    (lays_join ..).mp (Lays.end_of_plug way lays)
  rw [goesLeft, rootOf_node] at atFrame
  simp only [ColorTree.toList, List.nil_append, List.mem_cons, List.nodup_cons]
    at members firstDistinct notAround
  have frameMem : frame.value ∈ around (frame :: way) :=
    mem_around_cons.mpr (.inl rfl)
  have nonzeroFirst : first ≠ 0 := nonzero first ((members first).mpr (.inl (.inl rfl)))
  have firstNeFrame : first ≠ frame.value := fun same =>
    notAround first (.inl rfl) (same ▸ frameMem)
  have firstNeRoot : first ≠ rootOf right := fun same =>
    notAround first (.inl rfl) (same ▸ rootMem)
  have frameSome : (self.nodes frame.value).isSome := by rw [atFrame]; rfl
  have firstSome : (self.nodes first).isSome := by rw [atFirst]; rfl
  have rootSome : (self.nodes (rootOf right)).isSome :=
    rightLays.isSome ((members _).mpr (.inr rootMem))
  refine ⟨HevRBTree.mk self.root
    (modify
      (modify
        (modify self.nodes frame.value (·.withChild (rootOf child) .left))
        first (·.withChild (rootOf right) .right))
      (rootOf right) fun node => { node with parentColor := node.color ||| first }),
    ?_, rfl, by simp, ?_, ⟨frame.value, ?_, ?_⟩, ?_⟩
  · cases right with
    | leaf => cases someFirst
    | node rightColor inner value outer =>
        have innerNode : inner ≠ .leaf := by
          rintro rfl
          cases someFirst
        have below : unconsFirst [⟨.left, rightColor, value, outer⟩] inner =
            some (frame :: way, color, first, child) := by
          cases inner with
          | leaf => exact absurd rfl innerNode
          | node => exact someFirst
        have innerNonzero : ∀ address ∈ inner.toList, address ≠ 0 :=
          fun address member => nonzero address
            (by rw [ColorTree.toList]; exact List.mem_append_left _ member)
        have found := findSuccessor_spec rounds rightLays.2.1
          innerNonzero below (by simp only [List.length_cons, List.length_nil]; omega)
        rw [detachSuccessor, rootOf_node, rightLays.1]
        simp only [Option.bind_eq_bind, Option.bind_some]
        rw [if_neg (show (cell .left (word above rightColor) (rootOf inner)
          (rootOf outer)).left ≠ 0 from innerNonzero _ (rootOf_mem innerNode))]
        rw [show (cell .left (word above rightColor) (rootOf inner)
          (rootOf outer)).left = rootOf inner from rfl,
          show value = top [⟨.left, rightColor, value, outer⟩] from rfl, found]
        simp only [Option.bind_some, atFirst, top]
        rw [setChild_eq frameSome, Option.bind_some,
          setChild_eq (by simpa using firstSome), Option.bind_some,
          setParent_eq (by simpa using rootSome), Option.bind_some]
        rfl
  · intro address outside
    simp only [members, not_or] at outside
    simp only [modify]
    grind
  · exact aligned _ ((members _).mpr (.inr frameMem))
  · rw [← rootEq]
    simp [modify, firstNeFrame, firstNeRoot, atFirst, cell, withChild]
  · intro later adopted same
    have nonzeroAround : ∀ address ∈ around (frame :: way), address ≠ 0 :=
      fun address member => nonzero address ((members address).mpr (.inr member))
    have childNe : ∀ address ∈ around (frame :: way), address ≠ rootOf child :=
      fun address member => (rootOf_ne (nonzeroAround address member) fun inChild =>
        notAround address (.inr inChild) member).symm
    have rebuilt : Lays
        (modify
          (modify self.nodes frame.value (·.withChild (rootOf child) .left))
          (rootOf child) fun node => { node with parentColor := word frame.value .black })
        above (plug (frame :: way) (child.paint .black)) := by
      apply Lays.plug_congr way lays
      · intro parent filled
        obtain ⟨atFrame, ⟨_, _, laysChild⟩, laysSibling⟩ := (lays_join ..).mp filled
        refine (lays_join ..).mpr ⟨?_, laysChild.adopted firstDistinct.2 ?_ ?_, ?_⟩
        · rw [modify_ne (childNe _ frameMem), modify_self, atFrame, goesLeft,
            Option.map_some, rootOf_paint]
          rfl
        · intro
          rw [modify_self, modify_ne (childNe _ frameMem).symm]
        · intro address member notRoot
          rw [modify_ne notRoot, modify_ne]
          rintro rfl
          exact notAround _ (.inr member) frameMem
        · apply laysSibling.congr
          intro address member
          have inAround : address ∈ around (frame :: way) :=
            mem_around_cons.mpr (.inr (.inl member))
          rw [modify_ne (childNe _ inAround), modify_ne]
          rintro rfl
          exact notSibling member
      · rw [PathFrame.fill, PathFrame.fill, rootOf_join, rootOf_join]
      · intro address member
        have notFrame : address ≠ frame.value := fun same => notWay (same ▸ member)
        have notChild := childNe address (mem_around_cons.mpr (.inr (.inr member)))
        rw [modify_ne notChild, modify_ne notFrame]
    have restRoot : rootOf (plug (frame :: way) (child.paint .black)) =
        rootOf right := by
      rw [rootEq]
      exact rootOf_plug ..
    have restMembers : ∀ address,
        address ∈ (plug (frame :: way) (child.paint .black)).toList ↔
          address ∈ child.toList ∨ address ∈ around (frame :: way) := by
      intro address
      rw [mem_plug, ColorTree.toList_paint]
    have firstNeChild : first ≠ rootOf child :=
      (rootOf_ne nonzeroFirst firstDistinct.1).symm
    apply rebuilt.reparented aboveAligned
    · refine List.Nodup.sublist ?_ apart
      rw [toList_plug, toList_plug, ColorTree.toList_paint]
      exact ((List.Sublist.refl _).append (List.sublist_cons_self ..)).append_right _
    · intro
      rw [restRoot, same _ ((members _).mpr (.inr rootMem)) firstNeRoot.symm
        (childNe _ rootMem), modify_ne (childNe _ rootMem)]
      simp only [modify_self]
      rw [modify_ne firstNeRoot.symm]
    · intro address member notRoot
      rw [restRoot] at notRoot
      rw [restMembers] at member
      by_cases isChild : address = rootOf child
      · have childNode : child ≠ .leaf := by
          rintro rfl
          exact nonzero address ((members address).mpr (member.imp_left .inr)) isChild
        have childMem := rootOf_mem childNode
        have notFrame : rootOf child ≠ frame.value := (childNe _ frameMem).symm
        subst isChild
        rw [adopted childNode, modify_self]
        simp only [modify_ne notRoot, modify_ne firstNeChild.symm, modify_ne notFrame,
          topOf]
      · have notFirst : address ≠ first := by
          rintro rfl
          exact member.elim firstDistinct.1 (notAround address (.inl rfl))
        rw [same address ((members address).mpr (member.imp_left .inr)) notFirst
          isChild, modify_ne isChild]
        simp only [modify_ne notRoot, modify_ne notFirst]

theorem detachSuccessor_spec {above : Nat} {right child : ColorTree Nat}
    {way : List (PathFrame Nat)} {first rounds : Nat}
    (lays : Lays self.nodes above right) (distinct : right.toList.Nodup)
    (nonzero : ∀ address ∈ right.toList, address ≠ 0)
    (aligned : ∀ address ∈ right.toList, address % 4 = 0)
    (aboveAligned : above % 4 = 0)
    (someFirst : unconsFirst [] right = some (way, color, first, child))
    (enough : way.length ≤ rounds) :
    ∃ detached, self.detachSuccessor rounds (rootOf right) =
        some (detached, first, topOf first way, rootOf child) ∧
      Detached self detached right way color first child := by
  cases way with
  | nil =>
      have shape := unconsFirst_eq_some someFirst
      simp only [plug] at shape
      subst shape
      have detached := detachSuccessor_child lays distinct aboveAligned rounds
      exact ⟨self, detached.1, detached.2⟩
  | cons frame way =>
      exact detachSuccessor_below lays distinct nonzero aligned aboveAligned someFirst
        enough

theorem rootOf_plug_paint (way : List (PathFrame Nat)) (tree : ColorTree Nat)
    (color : Color) : rootOf (plug way (tree.paint color)) = rootOf (plug way tree) := by
  cases way with
  | nil => exact rootOf_paint color tree
  | cons frame way => exact rootOf_plug ..

/-- The child of the successor becomes black, and where there is none the
rebalancing starts at the parent of a black successor. -/
theorem adoptChild_eq {child : ColorTree Nat} {parent first above near far : Nat}
    (null : (self.nodes 0).isSome = false)
    (present : child ≠ .leaf → rootOf child ≠ 0 ∧ (self.nodes (rootOf child)).isSome)
    (aligned : above % 4 = 0)
    (atFirst : self.nodes first = some (cell .left (word above color) near far)) :
    self.adoptChild (rootOf child) parent first = some
      (HevRBTree.mk self.root (modify self.nodes (rootOf child) fun node =>
          { node with parentColor := word parent .black }),
        if child = .leaf ∧ color = .black then parent else 0) := by
  rw [adoptChild]
  cases child with
  | leaf =>
      rw [if_neg (by decide), atFirst, rootOf_leaf, modify_null null]
      simp only [Option.bind_eq_bind, Option.bind_some, isBlack_cell _ aligned]
      cases color <;> rfl
  | node childColor left value right =>
      have childPresent := present (by rintro ⟨⟩)
      rw [if_pos childPresent.1, setParentColor_eq childPresent.2,
        if_neg (by rintro ⟨⟨⟩, _⟩)]
      rfl

/-- Cases 2 and 3: the successor takes the place and color of a node with two
children. -/
theorem unlink_both {way : List (PathFrame Nat)} {firstColor : Color} {first : Nat}
    {child : ColorTree Nat}
    (located : At others self path (.node color left node right))
    (stale : others node = self.nodes node) (nonleaf : left ≠ .leaf) (rounds : Nat)
    (someFirst : unconsFirst [] right = some (way, firstColor, first, child))
    (enough : way.length ≤ rounds) :
    ∃ final, self.unlink rounds node =
        some (final, if child = .leaf ∧ firstColor = .black then
          topOf first way else 0) ∧
      At others final path
        (.node color left first (plug way (child.paint .black))) := by
  obtain ⟨atNode, laysLeft, laysRight⟩ := located.lays
  have shape := unconsFirst_eq_some someFirst
  simp only [plug] at shape
  have order : right.toList.Perm
      (first :: (plug way (child.paint .black)).toList) := by
    rw [← shape, toList_plug, toList_plug, ColorTree.toList_paint, ColorTree.toList,
      ColorTree.toList]
    simp only [List.nil_append, List.append_assoc, List.cons_append]
    exact List.perm_middle
  have nonzero := located.nonzero
  have aligned : ∀ address ∈ (ColorTree.node color left node right).toList,
      address % 4 = 0 :=
    fun address member => located.aligned address (mem_plug.mpr (.inl member))
  have distinct := located.parts.1
  simp only [ColorTree.toList, List.mem_append, List.mem_cons] at nonzero aligned
  simp only [ColorTree.toList, List.nodup_append, List.nodup_cons, List.mem_cons]
    at distinct
  obtain ⟨leftDistinct, ⟨nodeNotRight, rightDistinct⟩, apart⟩ := distinct
  have firstMem : first ∈ right.toList := order.symm.subset List.mem_cons_self
  have leftMem := rootOf_mem nonleaf
  have rightNode : right ≠ .leaf := by
    rintro rfl
    cases someFirst
  have rightMem := rootOf_mem rightNode
  have childMem : child ≠ .leaf → rootOf child ∈ right.toList := by
    intro childNode
    rw [← shape, mem_plug]
    exact .inl (by simp [ColorTree.toList, rootOf_mem childNode])
  have firstNotChild : first ∉ child.toList := by
    have firstTree : (ColorTree.node firstColor .leaf first child).toList.Nodup :=
      nodup_end way (by rwa [shape])
    simp only [ColorTree.toList, List.nil_append, List.nodup_cons] at firstTree
    exact firstTree.1
  have nodeNeFirst : node ≠ first := fun same => nodeNotRight (same ▸ firstMem)
  have leftNeNode : rootOf left ≠ node := apart _ leftMem node (.inl rfl)
  have leftNeFirst : rootOf left ≠ first := apart _ leftMem first (.inr firstMem)
  obtain ⟨detached, detach, rootSame, present, outside, ⟨above, aboveAligned, atFirst⟩,
    rest⟩ := detachSuccessor_spec laysRight rightDistinct
      (fun address member => nonzero address (.inr (.inr member)))
      (fun address member => aligned address (.inr (.inr member)))
      (aligned node (.inr (.inl rfl))) someFirst enough
  have leftNotRight : ∀ address ∈ left.toList, address ∉ right.toList :=
    fun address member inRight => apart address member address (.inr inRight) rfl
  have nodeSame := outside node nodeNotRight
  have leftSame := outside _ (leftNotRight _ leftMem)
  -- the memory before the parent of the node is told
  obtain ⟨result, written, kept, null, close⟩ := located.hang
    (HevRBTree.mk detached.root
      (modify (modify detached.nodes first (·.withChild (rootOf left) .left))
        (rootOf left) fun other => { other with parentColor := other.color ||| first }))
    (nonzero node (.inr (.inl rfl))) first rootSame
    (by simpa [present] using located.null_isSome)
    (by
      intro address _ notIn
      simp only [ColorTree.toList, List.mem_append, List.mem_cons, not_or] at notIn
      simp only [modify]
      grind)
  rw [rootOf_node] at written
  simp only [ColorTree.toList, List.mem_append, List.mem_cons] at kept
  rw [unlink, atNode]
  simp only [Option.bind_eq_bind, Option.bind_some]
  rw [show (cell .left (word (top path) color) (rootOf left) (rootOf right)).left =
      rootOf left from rfl,
    show (cell .left (word (top path) color) (rootOf left) (rootOf right)).right =
      rootOf right from rfl,
    if_neg (nonzero _ (.inl leftMem)), if_neg (nonzero _ (.inr (.inr rightMem))),
    detach, Option.bind_some]
  simp only [nodeSame, atNode, Option.bind_some]
  rw [show (cell .left (word (top path) color) (rootOf left) (rootOf right)).left =
      rootOf left from rfl,
    setChild_eq (by rw [atFirst]; rfl), Option.bind_some,
    setParent_eq (by simpa [present] using laysLeft.isSome leftMem),
    Option.bind_some]
  simp only [modify_ne leftNeNode.symm, modify_ne nodeNeFirst, nodeSame, atNode,
    Option.bind_some, parentColor_cell, parentOf_word located.top_aligned]
  rw [written, Option.bind_some]
  have resultFirst : result.nodes first = some
      (cell .left (word above firstColor) (rootOf left) (rootOf (plug way child))) := by
    rw [kept first (.inr (.inr firstMem))]
    simp [modify, leftNeFirst.symm, atFirst, cell, withChild]
  rw [adoptChild_eq null ?_ aboveAligned resultFirst, Option.bind_some,
    setWord_eq (by simp [resultFirst]), Option.bind_some]
  · have firstNeChild : first ≠ rootOf child :=
      (rootOf_ne (nonzero first (.inr (.inr firstMem))) firstNotChild).symm
    have elsewhere : ∀ address, address ≠ first →
        (child ≠ .leaf → address ≠ rootOf child) →
        modify
          (modify result.nodes (rootOf child) fun other =>
            { other with parentColor := word (topOf first way) .black })
          first (fun other => { other with parentColor := word (top path) color })
          address = result.nodes address := by
      intro address notFirst notChild
      rw [modify_ne notFirst]
      cases child with
      | leaf => rw [rootOf_leaf, modify_null null]
      | node => exact modify_ne (notChild (by rintro ⟨⟩))
    refine ⟨_, rfl, close _ _ rfl rfl ?_ (.without node
      ⟨?_, ?_, ?_⟩ located.parts.1 ?_ ?_)⟩
    · intro address notIn
      simp only [ColorTree.toList, List.mem_append, List.mem_cons, not_or] at notIn
      apply elsewhere
      · rintro rfl
        exact notIn.2.2 firstMem
      · rintro childNode rfl
        exact notIn.2.2 (childMem childNode)
    · rw [rootOf_plug_paint]
      simp [modify_ne firstNeChild, resultFirst]
    · have leftNeChild : child ≠ .leaf → rootOf left ≠ rootOf child :=
        fun childNode same => leftNotRight _ leftMem (same ▸ childMem childNode)
      apply laysLeft.reparented (aligned node (.inr (.inl rfl))) leftDistinct
      · intro
        refine (elsewhere _ leftNeFirst leftNeChild).trans ?_
        rw [kept _ (.inl leftMem), modify_self, modify_ne leftNeFirst, leftSame]
      · intro address member notRoot
        have notRight := leftNotRight address member
        have notFirst : address ≠ first := fun same => notRight (same ▸ firstMem)
        refine (elsewhere address notFirst fun childNode same =>
          notRight (same ▸ childMem childNode)).trans ?_
        rw [kept _ (.inl member), modify_ne notRoot, modify_ne notFirst,
          outside address notRight]
    · apply rest
      · intro childNode
        have inRight := childMem childNode
        have notLeft : rootOf child ≠ rootOf left := fun same =>
          leftNotRight _ leftMem (same ▸ inRight)
        refine (modify_ne firstNeChild.symm).trans ((modify_self ..).trans ?_)
        rw [kept _ (.inr (.inr inRight)), modify_ne notLeft,
          modify_ne firstNeChild.symm]
      · intro address member notFirst notChild
        have notLeft : address ≠ rootOf left := fun same =>
          leftNotRight _ leftMem (same ▸ member)
        refine (elsewhere address notFirst fun _ => notChild).trans ?_
        rw [kept _ (.inr (.inr member)), modify_ne notLeft, modify_ne notFirst]
    · rw [ColorTree.toList, ColorTree.toList]
      exact List.perm_middle.trans
        (.cons _ (.append_left _ order))
    · refine (elsewhere node nodeNeFirst fun childNode same =>
        nodeNotRight (same ▸ childMem childNode)).trans ?_
      rw [kept node (.inr (.inl rfl)), modify_ne leftNeNode.symm,
        modify_ne nodeNeFirst, nodeSame, stale]
  · intro childNode
    have inRight := childMem childNode
    refine ⟨nonzero _ (.inr (.inr inRight)), ?_⟩
    rw [kept _ (.inr (.inr inRight)), isSome_modify, isSome_modify, present]
    exact laysRight.isSome inRight

/-- `_hev_rbtree_erase` leaves the tree without the node, and returns where the
rebalancing has to start. -/
theorem unlink_spec (rounds : Nat)
    (located : At others self path (.node color left node right))
    (stale : others node = self.nodes node) (enough : right.height ≤ rounds) :
    ∃ final, self.unlink rounds node =
        some (final, if (unlinkAt path color left right).2.2 then
          top (unlinkAt path color left right).1 else 0) ∧
      At others final (unlinkAt path color left right).1
        (unlinkAt path color left right).2.1 := by
  unfold unlinkAt
  split
  case h_1 noFirst =>
    cases unconsFirst_eq_none noFirst
    obtain ⟨final, ran, finalAt⟩ := unlink_right located stale rounds
    refine ⟨final, ?_, finalAt⟩
    rw [ran]
    cases color <;> rfl
  case h_2 someFirst =>
    obtain ⟨final, ran, finalAt⟩ := unlink_right located stale rounds
    refine ⟨final, ?_, finalAt⟩
    rw [ran, if_neg]
    · rfl
    · rintro ⟨rfl, _⟩
      cases someFirst
  case h_3 noFirst =>
    cases unconsFirst_eq_none noFirst
    exact unlink_left located stale (by rintro ⟨⟩) rounds
  case h_4 leftColor inner other outer way firstColor first child someFirst =>
    have below := length_add_height_le way (.node firstColor .leaf first child)
    rw [unconsFirst_eq_some someFirst, plug] at below
    obtain ⟨final, ran, finalAt⟩ := unlink_both located stale (by rintro ⟨⟩)
      rounds someFirst (by omega)
    refine ⟨final, ?_, at_append.mpr (at_cons.mpr finalAt)⟩
    rw [ran]
    congr 2
    cases child with
    | leaf => cases firstColor <;> cases way <;> rfl
    | node => rw [if_neg (by rintro ⟨⟨⟩, _⟩)]; rfl

end HevRBTree

end ProxyVPN
