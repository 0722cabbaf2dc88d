/-
Module: ProxyVPN.Hev.RBTreeErase
Purpose: Taking a node out of a red-black tree in memory and recoloring from its
  place on leaves a red-black tree of the other nodes in memory.
Trusted boundary: human-reviewed model
Main exports: settleSibling_spec, lift_spec, eraseLoop_spec, erase_spec
-/
import ProxyVPN.Hev.RBTreeUnlink

namespace ProxyVPN

open RedBlack HevRBTreeNode

namespace HevRBTree

/-- A step whose result is returned with something else. -/
theorem exists_bind_pair {β : Type} {step : Option HevRBTree} (value : β)
    {Property : HevRBTree → Prop}
    (ran : ∃ final, step = some final ∧ Property final) :
    ∃ final, (step.bind fun self => some (self, value)) = some (final, value) ∧
      Property final := by
  obtain ⟨final, rfl, property⟩ := ran
  exact ⟨final, rfl, property⟩

section Rotations

variable {others : Nat → Option HevRBTreeNode} {self : HevRBTree}
  {path : List (PathFrame Nat)} {tree near far : ColorTree Nat} {side : Side}
  {color : Color} {parent sibling : Nat}

/-- Case 1: a red sibling comes up over the parent. -/
theorem raiseSibling_red
    (located : At others self path (ColorTree.join side .black tree parent
      (ColorTree.join side .red near sibling far)))
    (nearNode : near ≠ .leaf) (nearBlack : near.isRed = false) :
    ∃ final, self.raiseSibling side parent sibling =
        some (final, rootOf near) ∧
      At others final path (ColorTree.join side .black
        (ColorTree.join side .red tree parent near) sibling far) := by
  obtain ⟨atParent, laysTree, laysSibling⟩ := (lays_join ..).mp located.lays
  obtain ⟨atSibling, laysNear, laysFar⟩ := (lays_join ..).mp laysSibling
  have pSome : (self.nodes parent).isSome := by rw [atParent]; rfl
  have sSome : (self.nodes sibling).isSome := by rw [atSibling]; rfl
  have null := located.null_isSome
  have nonzero := located.nonzero
  have distinct := located.parts.1
  have nearMem := rootOf_mem nearNode
  have parentAligned : parent % 4 = 0 := located.aligned _
    (mem_plug.mpr (.inl (ColorTree.mem_join.mpr (.inl rfl))))
  simp only [ColorTree.nodup_join, ColorTree.mem_join, not_or] at distinct nonzero
  have pNeS : parent ≠ sibling := by grind
  have pNeNear : parent ≠ rootOf near := by grind
  have sNeNear : sibling ≠ rootOf near := by grind
  rw [raiseSibling, atSibling]
  simp only [Option.bind_eq_bind, Option.bind_some, isRed_cell side parentAligned,
    child_cell, beq_self_eq_true, ↓reduceIte]
  rw [setChild_eq pSome, Option.bind_some, setChild_eq (by simpa using sSome),
    Option.bind_some,
    setParentColor_eq (by simpa using laysNear.isSome nearMem), Option.bind_some,
    rotateSetParents_eq (cell side (word (top path) .black) (rootOf tree)
      (rootOf near)) (by simp [modify, pNeS, pNeNear, atParent])
      (by simpa using sSome)]
  apply exists_bind_pair
  refine located.rotate (rootOf_join ..).symm (rootOf_join ..).symm
    (parent_cell side located.top_aligned .black) (nonzero _ (.inl rfl)) rfl
    (by simpa using null) ?_ ?_ ?_
  · intro address notNull outside
    simp only [ColorTree.mem_join, not_or] at outside
    simp only [modify]
    grind
  · rw [lays_join, lays_join]
    refine ⟨?_, ⟨?_, ?_, ?_⟩, ?_⟩
    · simp [modify, pNeS.symm, sNeNear, atSibling]
    · simp [modify, pNeS, pNeNear, atParent]
    · apply laysTree.congr
      simp only [modify]
      grind
    · apply laysNear.adoptedBlack nearBlack (by grind)
      · intro
        simp [modify, pNeNear.symm, sNeNear.symm]
      · simp only [modify]
        grind
    · apply laysFar.congr
      simp only [modify]
      grind
  · cases side <;> simp [ColorTree.join, ColorTree.toList]

/-- Case 4: a black sibling comes up over the parent, and its far child becomes
black. -/
theorem rotateParent_far
    (located : At others self path (ColorTree.join side color tree parent
      (ColorTree.join side .black near sibling far)))
    (farNode : far ≠ .leaf) :
    ∃ final, self.rotateParent side parent sibling (rootOf far) = some final ∧
      At others final path (ColorTree.join side color
        (ColorTree.join side .black tree parent near) sibling (far.paint .black)) := by
  obtain ⟨atParent, laysTree, laysSibling⟩ := (lays_join ..).mp located.lays
  obtain ⟨atSibling, laysNear, laysFar⟩ := (lays_join ..).mp laysSibling
  have pSome : (self.nodes parent).isSome := by rw [atParent]; rfl
  have sSome : (self.nodes sibling).isSome := by rw [atSibling]; rfl
  have null := located.null_isSome
  have nonzero := located.nonzero
  have distinct := located.parts.1
  have farMem := rootOf_mem farNode
  have siblingAligned : sibling % 4 = 0 := located.aligned _
    (mem_plug.mpr (.inl (ColorTree.mem_join.mpr (.inr (.inr
      (ColorTree.mem_join.mpr (.inl rfl)))))))
  simp only [ColorTree.nodup_join, ColorTree.mem_join, not_or] at distinct nonzero
  have pNeS : parent ≠ sibling := by grind
  have pNeFar : parent ≠ rootOf far := by grind
  have sNeFar : sibling ≠ rootOf far := by grind
  have pNeNear : parent ≠ rootOf near := by grind [rootOf_ne]
  have sNeNear : sibling ≠ rootOf near := by grind [rootOf_ne]
  rw [rotateParent, atSibling]
  simp only [Option.bind_eq_bind, Option.bind_some, child_cell]
  rw [setChild_eq pSome, Option.bind_some, setChild_eq (by simpa using sSome),
    Option.bind_some,
    setParentColor_eq (by simpa using laysFar.isSome farMem), Option.bind_some,
    reparent_eq (by simpa using null) (by simpa using laysNear.present),
    Option.bind_some,
    rotateSetParents_eq (cell side (word (top path) color) (rootOf tree)
      (rootOf near)) (by simp [modify, pNeS, pNeNear, pNeFar, atParent])
      (by simpa using sSome)]
  refine located.rotate (rootOf_join ..).symm (rootOf_join ..).symm
    (parent_cell side located.top_aligned color) (nonzero _ (.inl rfl)) rfl
    (by simpa using null) ?_ ?_ ?_
  · intro address notNull outside
    simp only [ColorTree.mem_join, not_or] at outside
    simp only [modify]
    grind [rootOf_ne]
  · rw [lays_join, lays_join]
    refine ⟨?_, ⟨?_, ?_, ?_⟩, ?_⟩
    · simp [modify, pNeS.symm, sNeNear, sNeFar, atSibling]
    · simp [modify, pNeS, pNeNear, pNeFar, atParent]
    · apply laysTree.congr
      simp only [modify]
      grind [rootOf_ne]
    · apply laysNear.reparented siblingAligned (by grind)
      · intro nonleaf
        have member := rootOf_mem nonleaf
        simp only [modify]
        grind
      · simp only [modify]
        grind
    · apply laysFar.adopted (by grind)
      · intro
        simp only [modify]
        grind [rootOf_ne]
      · simp only [modify]
        grind [rootOf_ne]
  · cases side <;> simp [ColorTree.join, ColorTree.toList]

/-- Cases 3 and 4: the near child of the sibling comes up over both. -/
theorem rotateSibling_near {inner : Nat} {outside : ColorTree Nat}
    (located : At others self path (ColorTree.join side color tree parent
      (ColorTree.join side .black (ColorTree.join side .red near inner far) sibling outside)))
    (farBlack : far.isRed = false) :
    ∃ final, ((self.rotateSibling side parent sibling inner).bind fun self =>
        self.rotateParent side parent inner sibling) = some final ∧
      At others final path (ColorTree.join side color
        (ColorTree.join side .black tree parent near) inner
        (ColorTree.join side .black far sibling outside)) := by
  obtain ⟨atParent, laysTree, laysSibling⟩ := (lays_join ..).mp located.lays
  obtain ⟨atSibling, laysInner, laysOutside⟩ := (lays_join ..).mp laysSibling
  obtain ⟨atInner, laysNear, laysFar⟩ := (lays_join ..).mp laysInner
  have pSome : (self.nodes parent).isSome := by rw [atParent]; rfl
  have sSome : (self.nodes sibling).isSome := by rw [atSibling]; rfl
  have iSome : (self.nodes inner).isSome := by rw [atInner]; rfl
  have null := located.null_isSome
  have nonzero := located.nonzero
  have distinct := located.parts.1
  have innerAligned : inner % 4 = 0 := located.aligned _
    (mem_plug.mpr (.inl (by simp [ColorTree.mem_join])))
  simp only [ColorTree.nodup_join, ColorTree.mem_join, not_or] at distinct nonzero
  have pNeS : parent ≠ sibling := by grind
  have pNeI : parent ≠ inner := by grind
  have sNeI : sibling ≠ inner := by grind
  have pNeNear : parent ≠ rootOf near := by grind [rootOf_ne]
  have sNeNear : sibling ≠ rootOf near := by grind [rootOf_ne]
  have iNeNear : inner ≠ rootOf near := by grind [rootOf_ne]
  have pNeFar : parent ≠ rootOf far := by grind [rootOf_ne]
  have sNeFar : sibling ≠ rootOf far := by grind [rootOf_ne]
  have iNeFar : inner ≠ rootOf far := by grind [rootOf_ne]
  rw [rotateSibling, atInner]
  simp only [Option.bind_eq_bind, Option.bind_some, child_other_cell]
  rw [setChild_eq sSome, Option.bind_some, setChild_eq (by simpa using iSome),
    Option.bind_some, setChild_eq (by simpa using pSome), Option.bind_some,
    adopt_eq (by simpa using null) (by simpa using laysFar.present),
    Option.bind_some]
  simp only [rotateParent, modify_ne iNeFar, modify_ne pNeI.symm, modify_self,
    modify_ne sNeI.symm, atInner, Option.map_some, withChild_other_cell,
    Option.bind_eq_bind, Option.bind_some, child_cell]
  rw [setChild_eq (by simpa using pSome), Option.bind_some,
    setChild_eq (by simpa using iSome), Option.bind_some,
    setParentColor_eq (by simpa using sSome), Option.bind_some,
    reparent_eq (by simpa using null) (by simpa using laysNear.present),
    Option.bind_some,
    rotateSetParents_eq (cell side (word (top path) color) (rootOf tree)
      (rootOf near))
      (by simp [modify, pNeS, pNeI, pNeNear, pNeFar, atParent])
      (by simpa using iSome)]
  refine located.rotate (rootOf_join ..).symm (rootOf_join ..).symm
    (parent_cell side located.top_aligned color) (nonzero _ (.inl rfl)) rfl
    (by simpa using null) ?_ ?_ ?_
  · intro address notNull outside
    simp only [ColorTree.mem_join, not_or] at outside
    simp only [modify]
    grind [rootOf_ne]
  · rw [lays_join, lays_join, lays_join]
    refine ⟨?_, ⟨?_, ?_, ?_⟩, ?_, ?_, ?_⟩
    · simp [modify, pNeI.symm, sNeI.symm, iNeNear, iNeFar, atInner]
    · simp [modify, pNeS, pNeI, pNeNear, pNeFar, atParent]
    · apply laysTree.congr
      simp only [modify]
      grind [rootOf_ne]
    · apply laysNear.reparented innerAligned (by grind)
      · intro nonleaf
        have member := rootOf_mem nonleaf
        simp only [modify]
        grind [rootOf_ne]
      · simp only [modify]
        grind [rootOf_ne]
    · simp [modify, pNeS.symm, sNeI, sNeNear, sNeFar, atSibling]
    · apply laysFar.adoptedBlack farBlack (by grind)
      · intro nonleaf
        have member := rootOf_mem nonleaf
        simp only [modify]
        grind [rootOf_ne]
      · simp only [modify]
        grind [rootOf_ne]
    · apply laysOutside.congr
      simp only [modify]
      grind [rootOf_ne]
  · cases side <;> simp [ColorTree.join, ColorTree.toList]

/-- Case 2: the sibling becomes red and the parent black. -/
theorem settleSibling_flip
    (located : At others self path (ColorTree.join side color tree parent
      (ColorTree.join side .black near sibling far)))
    (nearBlack : near.isRed = false) (farBlack : far.isRed = false) :
    ∃ final, self.settleSibling side parent sibling =
        some (final, color == .black) ∧
      At others final path (ColorTree.join side .black tree parent
        (ColorTree.join side .red near sibling far)) := by
  obtain ⟨atParent, laysTree, laysSibling⟩ := (lays_join ..).mp located.lays
  obtain ⟨atSibling, laysNear, laysFar⟩ := (lays_join ..).mp laysSibling
  have pSome : (self.nodes parent).isSome := by rw [atParent]; rfl
  have sSome : (self.nodes sibling).isSome := by rw [atSibling]; rfl
  have null := located.null_isSome
  have nonzero := located.nonzero
  have distinct := located.parts.1
  have siblingAligned : sibling % 4 = 0 := located.aligned _
    (mem_plug.mpr (.inl (by simp [ColorTree.mem_join])))
  simp only [ColorTree.nodup_join, ColorTree.mem_join, not_or] at distinct nonzero
  have pNeS : parent ≠ sibling := by grind
  -- what holds of any memory with the two new words
  have assemble : ∀ final : HevRBTree, final.root = self.root →
      final.nodes parent = some (cell side (word (top path) .black) (rootOf tree)
        sibling) →
      final.nodes sibling = some (cell side (word parent .red) (rootOf near)
        (rootOf far)) →
      (∀ address, address ≠ parent → address ≠ sibling →
        final.nodes address = self.nodes address) →
      At others final path (ColorTree.join side .black tree parent
        (ColorTree.join side .red near sibling far)) := by
    intro final root atParent atSibling elsewhere
    refine located.same root ?_ ?_ (.ofPerm ?_ located.parts.1 ?_) (by simp)
    · rw [elsewhere 0 (by grind) (by grind)]
      exact null
    · intro address _ outside
      simp only [ColorTree.mem_join, not_or] at outside
      grind
    · rw [lays_join, lays_join, rootOf_join]
      refine ⟨atParent, ?_, atSibling, ?_, ?_⟩
      · exact laysTree.congr (by grind)
      · exact laysNear.congr (by grind)
      · exact laysFar.congr (by grind)
    · cases side <;> simp [ColorTree.join, ColorTree.toList]
  rw [settleSibling, atSibling]
  simp only [Option.bind_eq_bind, Option.bind_some, child_cell, child_other_cell]
  rw [laysFar.isRedAt siblingAligned (by grind), Option.bind_some, farBlack,
    if_neg (by decide), laysNear.isRedAt siblingAligned (by grind),
    Option.bind_some, nearBlack, if_neg (by decide), setParentColor_eq sSome,
    Option.bind_some]
  simp only [modify_ne pNeS, atParent, Option.bind_some,
    isRed_cell side located.top_aligned, rootOf_join]
  cases color with
  | red =>
      rw [if_pos (by decide), setBlack, store_eq (by simpa using pSome),
        Option.bind_some]
      refine ⟨_, rfl, assemble _ rfl ?_ ?_ ?_⟩
      · simp [modify_ne pNeS, atParent, word_or_black]
      · simp [modify_ne pNeS.symm, atSibling]
      · exact fun address notP notS => (modify_ne notP).trans (modify_ne notS)
  | black =>
      rw [if_neg (by decide)]
      refine ⟨_, rfl, assemble _ rfl ?_ ?_ ?_⟩
      · simp [modify_ne pNeS, atParent]
      · simp [atSibling]
      · exact fun address _ notS => modify_ne notS

theorem settleSibling_spec {nearColor : Color} {depth : Nat}
    (located : At others self path (ColorTree.join side color tree parent
      (ColorTree.join side .black near sibling far)))
    (nearBalanced : Balanced near nearColor depth) :
    ∃ final, self.settleSibling side parent sibling =
        some (final, (settle side color tree parent near sibling far).2) ∧
      At others final path (settle side color tree parent near sibling far).1 := by
  have laysSibling := ((lays_join ..).mp located.lays).2.2
  obtain ⟨atSibling, laysNear, laysFar⟩ := (lays_join ..).mp laysSibling
  have nonzero := located.nonzero
  have siblingAligned : sibling % 4 = 0 := located.aligned _
    (mem_plug.mpr (.inl (by simp [ColorTree.mem_join])))
  simp only [ColorTree.mem_join] at nonzero
  have farRead := laysFar.isRedAt siblingAligned (by grind)
  have nearRead := laysNear.isRedAt siblingAligned (by grind)
  unfold settle
  split
  case isTrue farRed =>
    have farNode : far ≠ .leaf := by
      rintro rfl
      cases farRed
    rw [settleSibling, atSibling]
    simp only [Option.bind_eq_bind, Option.bind_some, child_cell, child_other_cell,
      farRead, farRed, ↓reduceIte]
    exact exists_bind_pair _ (rotateParent_far located farNode)
  case isFalse farBlack =>
    replace farBlack := Bool.eq_false_iff.mpr farBlack
    split
    case h_1 left inner right =>
      have outerBlack : ((ColorTree.node .red left inner right).child side.other).isRed =
          false := by
        cases nearBalanced with
        | red leftBalanced rightBalanced =>
            cases side with
            | left => exact rightBalanced.isRed
            | right => exact leftBalanced.isRed
      rw [ColorTree.node_eq_join side] at located
      have ran := exists_bind_pair false
        (rotateSibling_near located outerBlack)
      rw [settleSibling, atSibling]
      simp only [Option.bind_eq_bind, Option.bind_some, child_cell,
        child_other_cell, farRead, farBlack, nearRead]
      simp only [ColorTree.isRed, Bool.false_eq_true, beq_self_eq_true, ↓reduceIte,
        rootOf_node]
      rwa [Option.bind_assoc] at ran
    case h_2 nearBlack =>
      have nearNotRed : near.isRed = false := by
        cases nearBalanced with
        | red => exact absurd rfl (nearBlack _ _ _)
        | leaf => rfl
        | black => rfl
      exact settleSibling_flip located nearNotRed farBlack

end Rotations

/-- One round of the loop. -/
theorem lift_spec {others : Nat → Option HevRBTreeNode} {self : HevRBTree}
    {frame : PathFrame Nat} {path : List (PathFrame Nat)} {tree : ColorTree Nat}
    {siblingColor : Color} {depth : Nat}
    (located : At others self (frame :: path) tree)
    (siblingBalanced : Balanced frame.sibling siblingColor (depth + 1))
    (allowed : frame.color = .red → siblingColor = .black) :
    ∃ final, ((self.raiseSibling frame.side frame.value
        (rootOf frame.sibling)).bind fun raised =>
          raised.1.settleSibling frame.side frame.value raised.2) =
        some (final, (lift frame tree).2) ∧
      At others final path (lift frame tree).1 := by
  obtain ⟨side, color, parent, sibling⟩ := frame
  have parentAligned : parent % 4 = 0 := located.top_aligned
  have siblingLays := located.laysPath.2.1
  replace located := at_cons.mp located
  rw [PathFrame.fill] at located
  unfold lift
  split
  case h_1 siblingEq =>
    cases siblingEq
    cases siblingBalanced
  case h_2 left other right siblingEq =>
    cases siblingEq
    have siblingRed := siblingBalanced.red_of_isRed rfl
    subst siblingRed
    have above : color = .black := by
      cases color with
      | red => cases allowed rfl
      | black => rfl
    subst above
    rw [ColorTree.node_eq_join side] at located siblingBalanced
    obtain ⟨_, nearBalanced, farBalanced⟩ := siblingBalanced.join_red_inv
    split
    case h_1 nearEq =>
      rw [nearEq] at nearBalanced
      cases nearBalanced
    case h_2 nearColor inner inside outer nearEq =>
      rw [nearEq] at located nearBalanced
      obtain ⟨raised, ran, raisedAt⟩ := raiseSibling_red located (by rintro ⟨⟩)
        nearBalanced.isRed
      rw [rootOf_node] at ran ⊢
      rw [ran, Option.bind_some]
      have below : At others raised
          (⟨side, .black, other, (ColorTree.node .red left other right).child side.other⟩
            :: path)
          (ColorTree.join side .red tree parent (.node nearColor inner inside outer)) :=
        at_cons.mpr raisedAt
      have nearBlack := nearBalanced.isRed
      cases nearColor with
      | red => cases nearBlack
      | black =>
          obtain ⟨_, innerBalanced⟩ := nearBalanced.exists_child side
          rw [ColorTree.node_eq_join side .black inner] at below
          obtain ⟨final, settled, settledAt⟩ := settleSibling_spec below innerBalanced
          rw [settle_red] at settled
          exact ⟨final, settled, at_cons.mp settledAt⟩
  case h_3 left other right siblingEq =>
    cases siblingEq
    have kept : self.raiseSibling side parent other = some (self, other) := by
      rw [raiseSibling, siblingLays.1]
      simp only [Option.bind_eq_bind, Option.bind_some]
      rw [isRed_cell .left parentAligned, if_neg (by decide)]
    rw [rootOf_node, kept, Option.bind_some]
    obtain ⟨_, nearBalanced⟩ := siblingBalanced.exists_child side
    rw [ColorTree.node_eq_join side] at located
    exact settleSibling_spec located nearBalanced

/-- The loop ends where the repair does, and goes on at the parent otherwise. -/
theorem eraseLoop_round {others : Nat → Option HevRBTreeNode} {self : HevRBTree}
    {frame : PathFrame Nat} {path : List (PathFrame Nat)} {tree : ColorTree Nat}
    {siblingColor : Color} {depth : Nat}
    (located : At others self (frame :: path) tree)
    (siblingBalanced : Balanced frame.sibling siblingColor (depth + 1))
    (allowed : frame.color = .red → siblingColor = .black) (rounds : Nat) :
    ∃ lifted, At others lifted path (lift frame tree).1 ∧
      eraseLoop (rounds + 1) self (rootOf tree) frame.value =
        if (lift frame tree).2 ∧ top path ≠ 0 then
          eraseLoop rounds lifted (rootOf (lift frame tree).1) (top path)
        else
          some lifted := by
  obtain ⟨lifted, ran, liftedAt⟩ := lift_spec located siblingBalanced allowed
  refine ⟨lifted, liftedAt, ?_⟩
  have turn : rootOf frame.sibling ≠ rootOf tree := by
    have siblingNode : frame.sibling ≠ .leaf := by
      intro isLeaf
      rw [isLeaf] at siblingBalanced
      cases siblingBalanced
    have member : rootOf frame.sibling ∈ around (frame :: path) :=
      mem_around_cons.mpr (.inr (.inl (rootOf_mem siblingNode)))
    intro same
    cases tree with
    | leaf => exact located.ne_zero (mem_plug.mpr (.inr member)) same
    | node color left value right =>
        exact located.parts.2.2 _ (rootOf_mem (by rintro ⟨⟩)) (same ▸ member)
  obtain ⟨⟨raised, sibling⟩, raisedEq, settledEq⟩ := Option.bind_eq_some_iff.mp ran
  rw [eraseLoop, located.frame]
  simp only [Option.bind_eq_bind, Option.bind_some, side_eq turn, child_other_cell,
    raisedEq, settledEq]
  rcases lifting : lift frame tree with ⟨settled, again⟩
  rw [lifting] at liftedAt
  cases again with
  | false => simp
  | true =>
      obtain ⟨far, shape⟩ := lift_again (by rw [lifting])
      rw [lifting] at shape
      subst shape
      rw [if_pos rfl, ((lays_join ..).mp liftedAt.lays).1]
      simp [parent_cell _ liftedAt.top_aligned]

/-- The loop climbs from a subtree that has one black node too few. -/
theorem eraseLoop_spec (rounds : Nat) {others : Nat → Option HevRBTreeNode}
    {self : HevRBTree} {frame : PathFrame Nat} {path : List (PathFrame Nat)}
    {tree : ColorTree Nat} {depth : Nat} (located : At others self (frame :: path) tree)
    (balanced : Balanced tree .black depth)
    (fits : Fits (frame :: path) (depth + 1)) (enough : path.length < rounds) :
    ∃ final, eraseLoop rounds self (rootOf tree) frame.value = some final ∧
      At others final [] (eraseFix (frame :: path) tree) := by
  induction path generalizing frame tree self depth rounds with
  | nil =>
      obtain ⟨rounds, rfl⟩ : ∃ fewer, rounds = fewer + 1 := ⟨rounds - 1, by omega⟩
      obtain ⟨siblingColor, siblingBalanced, allowed, _⟩ := fits.cons_inv
      obtain ⟨lifted, liftedAt, ran⟩ := eraseLoop_round located siblingBalanced
        (fun red => (allowed red).1) rounds
      refine ⟨lifted, ?_, ?_⟩
      · rw [ran, if_neg fun goesOn => goesOn.2 rfl]
      · rw [eraseFix]
        split
        case h_1 settled lifting => rwa [lifting] at liftedAt
        case h_2 settled lifting => rwa [lifting] at liftedAt
  | cons outer path hypothesis =>
      simp only [List.length_cons] at enough
      obtain ⟨rounds, rfl⟩ : ∃ fewer, rounds = fewer + 1 := ⟨rounds - 1, by omega⟩
      obtain ⟨siblingColor, siblingBalanced, allowed, rest⟩ := fits.cons_inv
      obtain ⟨lifted, liftedAt, ran⟩ := eraseLoop_round located siblingBalanced
        (fun red => (allowed red).1) rounds
      have step := lift_settled balanced siblingBalanced fun red => (allowed red).1
      rw [eraseFix]
      split
      case h_1 settled lifting =>
        rw [lifting] at step ran liftedAt
        cases step with
        | again black settledBalanced =>
            rw [black] at rest
            rw [ran, if_pos ⟨rfl, liftedAt.frame_nonzero⟩]
            exact hypothesis _ liftedAt settledBalanced rest (by omega)
      case h_2 settled lifting =>
        rw [lifting] at ran liftedAt
        rw [ran, if_neg fun goesOn => by cases goesOn.1]
        exact ⟨lifted, rfl, at_plug.mp liftedAt⟩

/-- `hev_rbtree_erase` leaves the tree without the node, and nothing is written
outside of that tree. -/
theorem erase_spec {others : Nat → Option HevRBTreeNode} {self : HevRBTree}
    {path : List (PathFrame Nat)} {color : Color} {left right : ColorTree Nat}
    {node rounds : Nat}
    (located : At others self path (.node color left node right))
    (good : Good (plug path (.node color left node right)))
    (stale : others node = self.nodes node)
    (enough : (plug path (.node color left node right)).height ≤ rounds) :
    ∃ final, self.erase rounds node = some final ∧
      At others final [] (eraseAt path color left right) := by
  have rightLow := length_add_height_le path (.node color left node right)
  simp only [ColorTree.height] at rightLow
  obtain ⟨unlinked, ran, unlinkedAt⟩ :=
    unlink_spec rounds located stale (by omega)
  have shape := unlinkAt_unlinked good
  have short := length_unlinkAt_lt path color left right node
  rw [erase, ran]
  simp only [Option.bind_eq_bind, Option.bind_some]
  rw [eraseAt]
  rcases unlinkEq : unlinkAt path color left right with ⟨way, tree, lacks⟩
  rw [unlinkEq] at shape short unlinkedAt
  cases shape with
  | whole => exact ⟨unlinked, rfl, at_plug.mp unlinkedAt⟩
  | lacking fits =>
      cases way with
      | nil => exact ⟨unlinked, rfl, unlinkedAt⟩
      | cons frame way =>
          obtain ⟨final, climbed, finalAt⟩ := eraseLoop_spec rounds unlinkedAt .leaf
            fits (by simp only [List.length_cons] at short; omega)
          refine ⟨final, ?_, finalAt⟩
          exact (if_pos unlinkedAt.frame_nonzero).trans climbed

end HevRBTree

end ProxyVPN
