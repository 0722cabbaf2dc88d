/-
Module: ProxyVPN.Hev.RBTreeRounds
Purpose: The loops of the red-black tree have the same result with any bound on
  their rounds that gives them one.
Trusted boundary: none
Main exports: steady_findPlace, steady_insert, steady_erase, steady_extreme,
  steady_neighbour
-/
import ProxyVPN.Hev.RBTreeSearch
import ProxyVPN.Lib.Rounds

namespace ProxyVPN.HevRBTree

open RedBlack

/-- More rounds never change how far down a side the tree is followed. -/
theorem steady_descend (self : HevRBTree) (side : Side) (address : Nat) :
    Steady fun rounds => self.descend side rounds address := by
  intro rounds
  induction rounds generalizing address with
  | zero => rintro _ ⟨⟩
  | succ rounds inductionHypothesis =>
      simp only [descend, Option.bind_eq_bind]
      refine .bind (.refl _) fun node => .ite (.refl _) ?_
      exact inductionHypothesis _

/-- More rounds never change how far up from a side the tree is followed. -/
theorem steady_climb (self : HevRBTree) (side : Side) (address : Nat) :
    Steady fun rounds => self.climb side rounds address := by
  intro rounds
  induction rounds generalizing address with
  | zero => rintro _ ⟨⟩
  | succ rounds inductionHypothesis =>
      simp only [climb, Option.bind_eq_bind]
      refine .bind (.refl _) fun node => .ite (.refl _) ?_
      exact .bind (.refl _) fun parent => .ite (inductionHypothesis _) (.refl _)

/-- The first and the last node need no more than enough rounds. -/
theorem steady_extreme (self : HevRBTree) (side : Side) :
    Steady (self.extreme side) :=
  .ite (.const _) (self.steady_descend side self.root)

/-- The next and the previous node are found with enough rounds or more. -/
theorem steady_neighbour (self : HevRBTree) (side : Side) (address : Nat) :
    Steady fun rounds => self.neighbour side rounds address := by
  unfold neighbour
  refine .bind (.const _) fun node => .ite (.const _) ?_
  exact .ite (self.steady_descend side.other _) (self.steady_climb side _)

/-- The way down that a comparison directs ends at the same place with more
rounds. -/
theorem steady_findPlace (self : HevRBTree) (turn : Nat → Option Side)
    (place : Place) : Steady fun rounds => self.findPlace turn rounds place := by
  intro rounds
  induction rounds generalizing place with
  | zero => rintro _ ⟨⟩
  | succ rounds inductionHypothesis =>
      simp only [findPlace, Option.bind_eq_bind]
      refine .ite (.refl _) ?_
      cases turn place.node with
      | none => exact .refl _
      | some side => exact .bind (.refl _) fun node => inductionHypothesis _

/-- The loop that repairs an insertion gives the same tree with more rounds. -/
theorem steady_insertLoop (self : HevRBTree) (node parent : Nat) :
    Steady fun rounds => insertLoop rounds self node parent := by
  intro rounds
  induction rounds generalizing self node parent with
  | zero => rintro _ ⟨⟩
  | succ rounds inductionHypothesis =>
      simp only [insertLoop, Option.bind_eq_bind]
      refine .ite (.refl _) (.bind (.refl _) fun parentNode => .ite (.refl _) ?_)
      refine .bind (.refl _) fun gparentNode => .bind (.refl _) fun uncleIsRed => ?_
      refine .ite ?_ (.refl _)
      refine .bind (.refl _) fun black => .bind (.refl _) fun _ => ?_
      refine .bind (.refl _) fun next => .bind (.refl _) fun red => ?_
      exact inductionHypothesis _ _ _

/-- An insertion is its repair, so more rounds change nothing. -/
theorem steady_insert (self : HevRBTree) (node parent : Nat) (link : Option Side) :
    Steady fun rounds => self.insert rounds node parent link := by
  unfold insert insertColor
  exact .bind (.const _) fun linked => .bind (.const _) fun _ =>
    steady_insertLoop linked node _

/-- The leftmost node of a subtree is found with enough rounds or more. -/
theorem steady_findSuccessor (self : HevRBTree) (successor tmp : Nat) :
    Steady fun rounds => self.findSuccessor rounds successor tmp := by
  intro rounds
  induction rounds generalizing successor tmp with
  | zero => rintro _ ⟨⟩
  | succ rounds inductionHypothesis =>
      simp only [findSuccessor, Option.bind_eq_bind]
      refine .bind (.refl _) fun node => .ite (.refl _) ?_
      exact inductionHypothesis _ _

/-- The loop that repairs a removal gives the same tree with more rounds. -/
theorem steady_eraseLoop (self : HevRBTree) (node parent : Nat) :
    Steady fun rounds => eraseLoop rounds self node parent := by
  intro rounds
  induction rounds generalizing self node parent with
  | zero => rintro _ ⟨⟩
  | succ rounds inductionHypothesis =>
      simp only [eraseLoop, Option.bind_eq_bind]
      refine .bind (.refl _) fun parentNode => .bind (.refl _) fun raised => ?_
      refine .bind (.refl _) fun settled => .ite ?_ (.refl _)
      refine .bind (.refl _) fun above => .ite ?_ (.refl _)
      exact inductionHypothesis _ _ _

/-- Taking a node out looks for its successor, and for nothing else, by rounds.
-/
theorem steady_unlink (self : HevRBTree) (node : Nat) :
    Steady fun rounds => self.unlink rounds node := by
  have steadyDetach (child : Nat) :
      Steady fun rounds => self.detachSuccessor rounds child := by
    unfold detachSuccessor
    refine .bind (.const _) fun childNode => .ite (.const _) ?_
    exact .bind (self.steady_findSuccessor _ _) fun found => .const _
  unfold unlink
  refine .bind (.const _) fun erased => .ite (.const _) (.ite (.const _) ?_)
  exact .bind (steadyDetach _) fun detached => .const _

/-- A removal takes a node out and repairs the colors, and is steady as both
are. -/
theorem steady_erase (self : HevRBTree) (node : Nat) :
    Steady fun rounds => self.erase rounds node := by
  unfold erase
  refine .bind (self.steady_unlink node) fun unlinked => .ite ?_ (.const _)
  exact steady_eraseLoop _ _ _

end ProxyVPN.HevRBTree
