/-
Module: ProxyVPN.Hev.RBTreeInsert
Purpose: Linking a node into a red-black tree in memory and recoloring from it
  on leaves a red-black tree in memory that has the node in its place.
Trusted boundary: human-reviewed model
Main exports: insertRotate_rotated, insertLoop_spec, insert_spec
-/
import ProxyVPN.Hev.RBTreeLayout
import ProxyVPN.Lib.RedBlackRepair

namespace ProxyVPN

open RedBlack HevRBTreeNode

namespace HevRBTree

section Rotation

variable {others : Nat → Option HevRBTreeNode} {self : HevRBTree}
  {path : List (PathFrame Nat)} {tree near far uncle : ColorTree Nat} {side : Side}
  {parent gparent : Nat}

/-- Case 3: the parent comes up over the grandparent. -/
theorem insertRotate_outer
    (located : At others self path (ColorTree.join side .black
      (ColorTree.join side .red tree parent near) gparent far))
    (nearBlack : near.isRed = false) (nonleaf : tree ≠ .leaf) :
    ∃ final, self.insertRotate side (rootOf tree) parent gparent = some final ∧
      At others final path (ColorTree.join side .black tree parent
        (ColorTree.join side .red near gparent far)) := by
  obtain ⟨atGparent, laysParent, laysFar⟩ := (lays_join ..).mp located.lays
  obtain ⟨atParent, laysTree, laysNear⟩ := (lays_join ..).mp laysParent
  have gSome : (self.nodes gparent).isSome := by rw [atGparent]; rfl
  have pSome : (self.nodes parent).isSome := by rw [atParent]; rfl
  have null := located.null_isSome
  have nonzero := located.nonzero
  have distinct := located.parts.1
  have rootMem := rootOf_mem nonleaf
  simp only [ColorTree.nodup_join, ColorTree.mem_join, not_or] at distinct nonzero
  have gNeP : gparent ≠ parent := distinct.1.1.1
  have gNeNear : gparent ≠ rootOf near := by grind [rootOf_ne]
  have pNeNear : parent ≠ rootOf near := by grind [rootOf_ne]
  -- the steps of the function, one write after the other
  rw [insertRotate, atParent]
  simp only [Option.bind_eq_bind, Option.bind_some, child_other_cell]
  rw [if_neg (by grind [rootOf_ne]), setChild_eq gSome,
    Option.bind_some, setChild_eq (by simpa using pSome), Option.bind_some,
    adopt_eq (by simpa using null) (by simpa using laysNear.present),
    Option.bind_some,
    rotateSetParents_eq (cell side (word (top path) .black) (rootOf near)
      (rootOf far)) (by simp [modify, gNeP, gNeNear, atGparent])
      (by simpa using pSome)]
  refine located.rotate (rootOf_join ..).symm (rootOf_join ..).symm
    (parent_cell side located.top_aligned .black) (nonzero _ (.inl rfl)) rfl
    (by simpa using null) ?_ ?_ ?_
  · intro address notNull outside
    simp only [ColorTree.mem_join, not_or] at outside
    simp only [modify]
    grind [rootOf_ne]
  · rw [lays_join, lays_join]
    refine ⟨?_, ?_, ?_, ?_, ?_⟩
    · simp [modify, gNeP.symm, pNeNear, atParent]
    · apply laysTree.congr
      simp only [modify]
      grind [rootOf_ne]
    · simp [modify, gNeP, gNeNear, atGparent]
    · apply laysNear.adoptedBlack nearBlack distinct.2.1.1.2.1.2
      · intro
        simp [modify, gNeNear.symm, pNeNear.symm]
      · simp only [modify]
        grind
    · apply laysFar.congr
      simp only [modify]
      grind [rootOf_ne]
  · cases side <;> simp [ColorTree.join, ColorTree.toList]

/-- Cases 2 and 3: a node between its parent and its grandparent comes up over
both. -/
theorem insertRotate_inner {node : Nat}
    (located : At others self path (ColorTree.join side .black
      (ColorTree.join side .red tree parent (ColorTree.join side .red near node far))
      gparent uncle))
    (nearBlack : near.isRed = false) (farBlack : far.isRed = false) :
    ∃ final, self.insertRotate side node parent gparent = some final ∧
      At others final path (ColorTree.join side .black
        (ColorTree.join side .red tree parent near) node
        (ColorTree.join side .red far gparent uncle)) := by
  obtain ⟨atGparent, laysParent, laysUncle⟩ := (lays_join ..).mp located.lays
  obtain ⟨atParent, laysTree, laysNode⟩ := (lays_join ..).mp laysParent
  obtain ⟨atNode, laysNear, laysFar⟩ := (lays_join ..).mp laysNode
  have gSome : (self.nodes gparent).isSome := by rw [atGparent]; rfl
  have pSome : (self.nodes parent).isSome := by rw [atParent]; rfl
  have nSome : (self.nodes node).isSome := by rw [atNode]; rfl
  have null := located.null_isSome
  have nonzero := located.nonzero
  have distinct := located.parts.1
  simp only [ColorTree.nodup_join, ColorTree.mem_join, not_or] at distinct nonzero
  have gNeP : gparent ≠ parent := by grind
  have gNeN : gparent ≠ node := by grind
  have pNeN : parent ≠ node := by grind
  have gNeNear : gparent ≠ rootOf near := by grind [rootOf_ne]
  have pNeNear : parent ≠ rootOf near := by grind [rootOf_ne]
  have nNeNear : node ≠ rootOf near := by grind [rootOf_ne]
  have gNeFar : gparent ≠ rootOf far := by grind [rootOf_ne]
  have pNeFar : parent ≠ rootOf far := by grind [rootOf_ne]
  have nNeFar : node ≠ rootOf far := by grind [rootOf_ne]
  rw [insertRotate, atParent]
  simp only [Option.bind_eq_bind, Option.bind_some, child_other_cell, rootOf_join,
    atNode, child_cell, ↓reduceIte]
  rw [setChild_eq pSome, Option.bind_some, setChild_eq (by simpa using nSome),
    Option.bind_some,
    adopt_eq (by simpa using null) (by simpa using laysNear.present),
    Option.bind_some, setParentColor_eq (by simpa using pSome), Option.bind_some]
  simp only [modify_ne pNeN.symm, modify_ne nNeNear, modify_self, atNode,
    Option.map_some, withChild_cell, Option.bind_some, child_other_cell]
  rw [setChild_eq (by simpa using gSome), Option.bind_some,
    setChild_eq (by simpa using nSome), Option.bind_some,
    adopt_eq (by simpa using null) (by simpa using laysFar.present),
    Option.bind_some,
    rotateSetParents_eq (cell side (word (top path) .black) (rootOf far)
      (rootOf uncle)) (by simp [modify, gNeP, gNeN, gNeNear, gNeFar, atGparent])
      (by simpa using nSome)]
  refine located.rotate (rootOf_join ..).symm (rootOf_join ..).symm
    (parent_cell side located.top_aligned .black) (nonzero _ (.inl rfl)) rfl
    (by simpa using null) ?_ ?_ ?_
  · intro address notNull outside
    simp only [ColorTree.mem_join, not_or] at outside
    simp only [modify]
    grind [rootOf_ne]
  · rw [lays_join, lays_join, lays_join]
    refine ⟨?_, ⟨?_, ?_, ?_⟩, ?_, ?_, ?_⟩
    · simp [modify, gNeN.symm, pNeN.symm, nNeNear, nNeFar, atNode]
    · simp [modify, gNeP.symm, pNeN, pNeNear, pNeFar, atParent]
    · apply laysTree.congr
      simp only [modify]
      grind [rootOf_ne]
    · apply laysNear.adoptedBlack nearBlack (by grind)
      · intro nonleaf
        have member := rootOf_mem nonleaf
        simp only [modify]
        grind [rootOf_ne]
      · simp only [modify]
        grind [rootOf_ne]
    · simp [modify, gNeP, gNeN, gNeNear, gNeFar, atGparent]
    · apply laysFar.adoptedBlack farBlack (by grind)
      · intro nonleaf
        have member := rootOf_mem nonleaf
        simp only [modify]
        grind [rootOf_ne]
      · simp only [modify]
        grind [rootOf_ne]
    · apply laysUncle.congr
      simp only [modify]
      grind [rootOf_ne]
  · cases side <;> simp [ColorTree.join, ColorTree.toList]

/-- Case 1: the parent and the uncle become black, the grandparent red. -/
theorem insertRecolor {parentSide : Side}
    (located : At others self path (ColorTree.join side .black
      (ColorTree.join parentSide .red tree parent near) gparent uncle))
    (uncleNode : uncle ≠ .leaf) :
    At others
      (HevRBTree.mk self.root
        (modify
          (modify
            (modify self.nodes (rootOf uncle) fun node =>
              { node with parentColor := word gparent .black })
            parent fun node => { node with parentColor := word gparent .black })
          gparent fun node => { node with parentColor := word (top path) .red }))
      path (ColorTree.join side .red (ColorTree.join parentSide .black tree parent near)
        gparent (uncle.paint .black)) := by
  obtain ⟨atGparent, laysParent, laysUncle⟩ := (lays_join ..).mp located.lays
  obtain ⟨atParent, laysTree, laysNear⟩ := (lays_join ..).mp laysParent
  have nonzero := located.nonzero
  have distinct := located.parts.1
  have uncleMem := rootOf_mem uncleNode
  simp only [ColorTree.nodup_join, ColorTree.mem_join, not_or] at distinct nonzero
  have gNeP : gparent ≠ parent := by grind
  have gNeUncle : gparent ≠ rootOf uncle := by grind
  have pNeUncle : parent ≠ rootOf uncle := by grind
  refine located.same rfl (by simpa using located.null_isSome) ?_
    (.ofPerm ?_ located.parts.1 ?_) (by simp)
  · intro address notNull outside
    simp only [ColorTree.mem_join, not_or] at outside
    simp only [modify]
    grind
  · rw [lays_join, lays_join]
    refine ⟨?_, ⟨?_, ?_, ?_⟩, ?_⟩
    · simp [modify, gNeP, gNeUncle, atGparent]
    · simp [modify, gNeP.symm, pNeUncle, atParent]
    · apply laysTree.congr
      simp only [modify]
      grind
    · apply laysNear.congr
      simp only [modify]
      grind
    · apply laysUncle.adopted (by grind)
      · intro
        simp [modify, gNeUncle.symm, pNeUncle.symm]
      · simp only [modify]
        grind
  · cases side <;> cases parentSide <;> simp [ColorTree.join, ColorTree.toList]

end Rotation

/-- Below a black node there is nothing to do. -/
theorem insertLoop_black {others : Nat → Option HevRBTreeNode} {self : HevRBTree}
    {frame : PathFrame Nat} {path : List (PathFrame Nat)} {tree : ColorTree Nat}
    (located : At others self (frame :: path) tree) (black : frame.color = .black)
    (rounds node : Nat) :
    insertLoop (rounds + 1) self node frame.value = some self := by
  rw [insertLoop, if_neg located.frame_nonzero, located.frame]
  simp only [Option.bind_eq_bind, Option.bind_some]
  rw [isBlack_cell frame.side located.path_aligned, black]
  rfl

/-- Below a red node the loop asks for the uncle. -/
theorem insertLoop_red {others : Nat → Option HevRBTreeNode} {self : HevRBTree}
    {inner outer : PathFrame Nat} {path : List (PathFrame Nat)} {tree : ColorTree Nat}
    (located : At others self (inner :: outer :: path) tree)
    (red : inner.color = .red) (rounds node : Nat) :
    insertLoop (rounds + 1) self node inner.value =
      if outer.sibling.isRed then do
        let self ← self.setParentColor (rootOf outer.sibling) outer.value .black
        let self ← self.setParentColor inner.value outer.value .black
        let next := (← self.nodes outer.value).parent
        let self ← self.setParentColor outer.value next .red
        insertLoop rounds self outer.value next
      else
        self.insertRotate outer.side node inner.value outer.value := by
  have above := at_cons.mp located
  have atOuter := above.frame
  have siblingLays := above.laysPath.2.1
  have innerMem : inner.value ∈ (inner.fill tree).toList :=
    ColorTree.mem_join.mpr (.inl rfl)
  have different : rootOf outer.sibling ≠ inner.value :=
    rootOf_ne located.frame_nonzero fun member =>
      above.parts.2.2 _ innerMem (mem_around_cons.mpr (.inr (.inl member)))
  have siblingNonzero : ∀ address ∈ outer.sibling.toList, address ≠ 0 :=
    fun address member => above.ne_zero
      (mem_plug.mpr (.inr (mem_around_cons.mpr (.inr (.inl member)))))
  have outerAligned : outer.value % 4 = 0 :=
    above.aligned _ (mem_plug.mpr (.inr (mem_around_cons.mpr (.inl rfl))))
  rw [PathFrame.fill, rootOf_join] at atOuter
  rw [insertLoop, if_neg located.frame_nonzero, located.frame]
  simp only [Option.bind_eq_bind, Option.bind_some]
  rw [isBlack_cell inner.side located.path_aligned, red, if_neg (by decide)]
  simp only [redParent, parentColor_cell, word_red, top, atOuter, Option.bind_some,
    side_eq different, child_other_cell,
    siblingLays.isRedAt outerAligned siblingNonzero]

/-- Cases 2 and 3 together, for a red node below a red parent. -/
theorem insertRotate_rotated {others : Nat → Option HevRBTreeNode}
    {self : HevRBTree} {inner outer : PathFrame Nat} {path : List (PathFrame Nat)}
    {tree : ColorTree Nat} {depth : Nat}
    (located : At others self (inner :: outer :: path) tree)
    (balanced : Balanced tree .red depth)
    (siblingBalanced : Balanced inner.sibling .black depth)
    (innerRed : inner.color = .red) (outerBlack : outer.color = .black) :
    ∃ final, self.insertRotate outer.side (rootOf tree) inner.value outer.value =
        some final ∧ At others final path (rotated inner outer tree) := by
  obtain ⟨innerSide, innerColor, parent, sibling⟩ := inner
  obtain ⟨side, outerColor, gparent, uncle⟩ := outer
  subst innerRed outerBlack
  replace located := at_cons.mp (at_cons.mp located)
  have siblingBlack := siblingBalanced.isRed
  cases balanced with
  | @red left right node _ leftBalanced rightBalanced =>
      unfold rotated
      split
      case isTrue same =>
        subst same
        exact insertRotate_outer located siblingBlack (by rintro ⟨⟩)
      case isFalse different =>
        cases Side.eq_other_of_ne different
        simp only [PathFrame.fill] at located
        rw [ColorTree.node_eq_join side] at located
        cases side with
        | left => exact insertRotate_inner located leftBalanced.isRed rightBalanced.isRed
        | right => exact insertRotate_inner located rightBalanced.isRed leftBalanced.isRed

/-- The loop climbs from a red node whose parent may be red. -/
theorem insertLoop_spec {others : Nat → Option HevRBTreeNode} {self : HevRBTree}
    {path : List (PathFrame Nat)} {tree : ColorTree Nat} {depth rounds : Nat}
    (located : At others self path tree) (balanced : Balanced tree .red depth)
    (fits : Fits path depth) (enough : path.length < rounds) :
    ∃ final, insertLoop rounds self (rootOf tree) (top path) = some final ∧
      At others final [] (insertFix path tree) := by
  obtain ⟨rounds, rfl⟩ : ∃ fewer, rounds = fewer + 1 := ⟨rounds - 1, by omega⟩
  fun_induction insertFix path tree generalizing self depth rounds with
  | case1 tree =>
      have nonleaf : tree ≠ .leaf := by
        rintro rfl
        cases balanced
      have present := located.lays.isSome (rootOf_mem nonleaf)
      rw [insertLoop, top, if_pos rfl, setParentColor_eq present]
      refine ⟨_, rfl, located.same rfl (by simpa using located.null_isSome) ?_
        (.ofPerm (located.lays.adopted located.parts.1 ?_ ?_) located.parts.1 ?_)
        (rootOf_paint ..)⟩
      · intro address _ outside
        exact modify_ne fun same => outside (same ▸ rootOf_mem nonleaf)
      · intro
        exact modify_self ..
      · intro address _ different
        exact modify_ne different
      · rw [ColorTree.toList_paint]
  | case2 frame tree =>
      cases fits with
      | red above => cases above
      | black => exact ⟨self, insertLoop_black located rfl rounds _, at_cons.mp located⟩
  | case3 inner outer path tree black =>
      exact ⟨self, insertLoop_black located black rounds _, at_plug.mp located⟩
  | case4 inner outer path tree notBlack uncleRed hypothesis =>
      cases fits with
      | black => exact absurd rfl notBlack
      | @red innerSide parent sibling _ _ above siblingBalanced rest =>
          cases rest with
          | red => cases above
          | @black side gparent uncle _ _ uncleColor uncleBalanced rest =>
              cases uncleBalanced.red_of_isRed uncleRed
              have uncleNode : uncle ≠ .leaf := by
                rintro rfl
                cases uncleRed
              have shape := at_cons.mp (at_cons.mp located)
              have distinct := shape.parts.1
              obtain ⟨atGparent, laysParent, laysUncle⟩ := (lays_join ..).mp shape.lays
              obtain ⟨atParent, _, _⟩ := (lays_join ..).mp laysParent
              have uncleMem := rootOf_mem uncleNode
              simp only [PathFrame.fill, ColorTree.nodup_join, ColorTree.mem_join, not_or]
                at distinct
              have gNeP : gparent ≠ parent := by grind
              have gNeUncle : gparent ≠ rootOf uncle := by grind
              rw [top, insertLoop_red located rfl, if_pos uncleRed]
              simp only [Option.bind_eq_bind]
              rw [setParentColor_eq (laysUncle.isSome uncleMem), Option.bind_some,
                setParentColor_eq (by simp [atParent]), Option.bind_some]
              simp only [modify_ne gNeP, modify_ne gNeUncle, atGparent,
                Option.bind_some, parent_cell side shape.top_aligned]
              rw [setParentColor_eq (by simp [atGparent]), Option.bind_some]
              obtain ⟨rounds, rfl⟩ : ∃ fewer, rounds = fewer + 1 :=
                ⟨rounds - 1, by simp only [List.length_cons] at enough; omega⟩
              have climbed := hypothesis
                (insertRecolor shape uncleNode)
                ((balanced.joinBlack siblingBalanced).joinRed
                  uncleBalanced.paintBlack) rest rounds
                (by simp only [List.length_cons] at enough; omega)
              rwa [rootOf_join] at climbed
  | case5 inner outer path tree notBlack uncleBlack =>
      cases fits with
      | black => exact absurd rfl notBlack
      | red above siblingBalanced rest =>
          cases rest with
          | red => cases above
          | black =>
              obtain ⟨final, ran, finalAt⟩ :=
                insertRotate_rotated located balanced siblingBalanced rfl rfl
              refine ⟨final, ?_, at_plug.mp finalAt⟩
              rw [top, insertLoop_red located rfl, if_neg uncleBlack]
              exact ran

/-- The pointer that a path leads to, as `hev_rbtree_node_link` gets it. -/
def linkOf : List (PathFrame Nat) → Option Side
  | [] => none
  | frame :: _ => some frame.side

/-- The node is put where a search ended. -/
theorem nodeLink_spec {others : Nat → Option HevRBTreeNode} {self : HevRBTree}
    {path : List (PathFrame Nat)} {node : Nat} (located : At others self path .leaf)
    (present : (self.nodes node).isSome) (fresh : node ∉ (plug path .leaf).toList)
    (aligned : node % 4 = 0) :
    ∃ linked, self.nodeLink node (top path) (linkOf path) = some linked ∧
      At others linked path (.node .red .leaf node .leaf) := by
  have notAround : node ∉ around path := fun member =>
    fresh (mem_plug.mpr (.inr member))
  obtain ⟨_, aroundDistinct, _⟩ := located.parts
  have order : (plug path (ColorTree.node .red .leaf node .leaf)).toList.Perm
      (node :: (plug path .leaf).toList) := by
    simp only [toList_plug, ColorTree.toList, List.nil_append, List.append_nil,
      List.append_assoc, List.cons_append]
    exact List.perm_middle
  have nullNe : node ≠ 0 := by
    rintro rfl
    rw [located.null_isSome] at present
    cases present
  -- what holds of any memory that has the node and the pointer to it
  have assemble : ∀ linked : HevRBTree,
      linked.nodes 0 = none → LaysPath linked.nodes linked.root path node →
      linked.nodes node = some (cell .left (top path) 0 0) →
      (∀ address, address ≠ node → address ∉ around path →
        linked.nodes address = self.nodes address) →
      At others linked path (.node .red .leaf node .leaf) := by
    intro linked null laysPath atNode elsewhere
    refine ⟨null, laysPath, ⟨?_, trivial, trivial⟩, ?_, ?_, ?_⟩
    · rw [atNode, word_red]
      rfl
    · exact order.nodup_iff.mpr (located.distinct.cons fresh)
    · intro address member
      rcases List.mem_cons.mp (order.subset member) with rfl | old
      · exact aligned
      · exact located.aligned address old
    · intro address outside
      have notNode : address ≠ node := fun same =>
        outside (order.symm.subset (same ▸ List.mem_cons_self))
      have notOld : address ∉ (plug path .leaf).toList := fun member =>
        outside (order.symm.subset (List.mem_cons_of_mem _ member))
      rw [elsewhere address notNode fun member =>
        notOld (mem_plug.mpr (.inr member)), located.others address notOld]
  obtain ⟨stale, found⟩ := Option.isSome_iff_exists.mp present
  rw [nodeLink, store_eq present]
  cases path with
  | nil =>
      refine ⟨_, rfl, assemble _ ?_ rfl ?_ ?_⟩
      · exact (modify_ne nullNe.symm).trans located.null
      · simp [found, cell, top]
      · exact fun address notNode _ => modify_ne notNode
  | cons frame path =>
      obtain ⟨atFrame, atSibling, atPath⟩ := located.laysPath
      obtain ⟨notSibling, notPath⟩ := nodup_around_cons aroundDistinct
      simp only [mem_around_cons, not_or] at notAround
      obtain ⟨notFrame, fromSibling, fromPath⟩ := notAround
      simp only [Option.bind_eq_bind, Option.bind_some, linkOf]
      rw [top, setChild_eq (by simp [atFrame])]
      refine ⟨_, rfl, assemble _ ?_ ⟨?_, ?_, ?_⟩ ?_ ?_⟩
      · exact ((modify_ne located.frame_nonzero.symm).trans
          (modify_ne nullNe.symm)).trans located.null
      · simp [modify_ne (Ne.symm notFrame), atFrame]
      · apply atSibling.congr
        simp only [modify]
        grind
      · apply atPath.congr
        simp only [modify]
        grind
      · simp [modify_ne notFrame, found, cell, top]
      · intro address notNode outside
        simp only [mem_around_cons, not_or] at outside
        simp only [modify]
        grind

/-- `hev_rbtree_node_link` and `hev_rbtree_insert_color` for a new node where a
search ended. -/
def insert (self : HevRBTree) (rounds node parent : Nat) (link : Option Side) :
    Option HevRBTree := do
  let self ← self.nodeLink node parent link
  self.insertColor rounds node

theorem insert_spec {others : Nat → Option HevRBTreeNode} {self : HevRBTree}
    {path : List (PathFrame Nat)} {node rounds : Nat}
    (located : At others self path .leaf) (good : Good (plug path .leaf))
    (present : (self.nodes node).isSome) (fresh : node ∉ (plug path .leaf).toList)
    (aligned : node % 4 = 0) (enough : path.length < rounds) :
    ∃ final, self.insert rounds node (top path) (linkOf path) = some final ∧
      At others final [] (insertFix path (.node .red .leaf node .leaf)) ∧
      Good (insertFix path (.node .red .leaf node .leaf)) := by
  obtain ⟨linked, wrote, linkedAt⟩ := nodeLink_spec located present fresh aligned
  obtain ⟨depth, color, fits, balanced, _⟩ := good.split
  cases balanced
  have single : Balanced (ColorTree.node .red .leaf node .leaf) .red 0 :=
    .red .leaf .leaf
  obtain ⟨final, ran, finalAt⟩ := insertLoop_spec linkedAt single fits enough
  refine ⟨final, ?_, finalAt, insertFix_good single fits⟩
  have atNode := linkedAt.lays.1
  simp only [insert, wrote, Option.bind_eq_bind, Option.bind_some, insertColor,
    atNode, redParent, parentColor_cell, word_red]
  exact ran

end HevRBTree

end ProxyVPN
