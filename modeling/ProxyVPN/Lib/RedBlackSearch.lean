/-
Module: ProxyVPN.Lib.RedBlackSearch
Purpose: The way down a tree that a comparison directs.  It ends at an element
  the comparison stops at, or at the only place where a new element keeps the
  order.
Trusted boundary: none
Main exports: seek, seek_plug, Directed, Apart, seek_apart, directions,
  seek_search, seek_link
-/
import ProxyVPN.Lib.RedBlack

namespace ProxyVPN.RedBlack

open ColorTree

universe u v

variable {α : Type u} {κ : Type v}

/-- The way from the end of a path to where the comparison stops. -/
def seek (turn : α → Option Side) :
    List (PathFrame α) → ColorTree α → List (PathFrame α) × ColorTree α
  | path, .leaf => (path, .leaf)
  | path, .node color left value right =>
      match turn value with
      | none => (path, .node color left value right)
      | some .left => seek turn (⟨.left, color, value, right⟩ :: path) left
      | some .right => seek turn (⟨.right, color, value, left⟩ :: path) right

/-- The tree at the end of the way is part of the same whole. -/
theorem seek_plug (turn : α → Option Side) (path : List (PathFrame α)) (tree : ColorTree α) :
    plug (seek turn path tree).1 (seek turn path tree).2 = plug path tree := by
  induction tree generalizing path with
  | leaf => rfl
  | node color left value right leftHypothesis rightHypothesis =>
      unfold seek
      split
      · rfl
      · exact leftHypothesis _
      · exact rightHypothesis _

/-- At the end there is nothing, or the comparison stopped. -/
theorem seek_end (turn : α → Option Side) (path : List (PathFrame α)) (tree : ColorTree α) :
    (seek turn path tree).2 = .leaf ∨
      ∃ color left value right,
        (seek turn path tree).2 = .node color left value right ∧
        turn value = none := by
  induction tree generalizing path with
  | leaf => exact .inl rfl
  | node color left value right leftHypothesis rightHypothesis =>
      unfold seek
      split
      case h_1 stops => exact .inr ⟨color, left, value, right, rfl, stops⟩
      · exact leftHypothesis _
      · exact rightHypothesis _

/-- Where the comparison turns left it turns left for all that follows, and
where it turns right it turns right for all in front. -/
def Directed (turn : α → Option Side) (elements : List α) : Prop :=
  elements.Pairwise fun front back =>
    (turn front = some .left → turn back = some .left) ∧
      (turn back = some .right → turn front = some .right)

/-- Everything beside a path lies on the side the comparison turned away
from. -/
structure Apart (turn : α → Option Side) (path : List (PathFrame α)) : Prop where
  before : ∀ element ∈ before path, turn element = some .right
  after : ∀ element ∈ after path, turn element = some .left

/-- A search in an ordered tree leaves on both sides only what it turned away
from. -/
theorem seek_apart {turn : α → Option Side} {path : List (PathFrame α)} {tree : ColorTree α}
    (directed : Directed turn tree.toList) (apart : Apart turn path) :
    Apart turn (seek turn path tree).1 := by
  induction tree generalizing path with
  | leaf => exact apart
  | node color left value right leftHypothesis rightHypothesis =>
      rw [toList, Directed, List.pairwise_append, List.pairwise_cons] at directed
      obtain ⟨leftDirected, ⟨behind, rightDirected⟩, across⟩ := directed
      unfold seek
      split
      · exact apart
      case h_2 turns =>
        refine leftHypothesis leftDirected ⟨apart.before, ?_⟩
        intro element member
        rcases List.mem_cons.mp member with rfl | member
        · exact turns
        rcases List.mem_append.mp member with inRight | above
        · exact (behind element inRight).1 turns
        · exact apart.after element above
      case h_3 turns =>
        refine rightHypothesis rightDirected ⟨?_, apart.after⟩
        intro element member
        rcases List.mem_append.mp member with above | member
        · exact apart.before element above
        rcases List.mem_append.mp member with inLeft | isValue
        · exact (across element inLeft value List.mem_cons_self).2 turns
        · rwa [List.mem_singleton.mp isValue]

theorem seek_apart_whole {turn : α → Option Side} {tree : ColorTree α}
    (directed : Directed turn tree.toList) : Apart turn (seek turn [] tree).1 :=
  seek_apart directed ⟨by rintro _ ⟨⟩, by rintro _ ⟨⟩⟩

/-- Only the first place of all has nothing in front of it. -/
theorem before_eq_nil {path : List (PathFrame α)} :
    before path = [] ↔ ∀ frame ∈ path, frame.side = .left := by
  induction path with
  | nil => exact ⟨by rintro _ _ ⟨⟩, fun _ => rfl⟩
  | cons frame path hypothesis =>
      obtain ⟨side, color, value, sibling⟩ := frame
      cases side with
      | left =>
          simp only [before, hypothesis, List.mem_cons, forall_eq_or_imp, true_and]
      | right => simp [before]

/-- The turns of a search for a key in a tree with the larger keys on the
left. -/
def directions [Ord κ] (key : α → κ) (wanted : κ) (element : α) : Option Side :=
  match compare (key element) wanted with
  | .lt => some .left
  | .gt => some .right
  | .eq => none

/-- The element at the root. -/
def root : ColorTree α → Option α
  | .leaf => none
  | .node _ _ value _ => some value

/-- The search ends at the element that a search of a plain tree finds. -/
theorem seek_search [Ord κ] (key : α → κ) (wanted : κ) (path : List (PathFrame α))
    (tree : ColorTree α) :
    root (seek (directions key wanted) path tree).2 =
      SearchTree.search key wanted tree.plain := by
  induction tree generalizing path with
  | leaf => rfl
  | node color left value right leftHypothesis rightHypothesis =>
      rw [seek, plain, SearchTree.search, directions]
      cases compare (key value) wanted with
      | lt => exact leftHypothesis _
      | eq => rfl
      | gt => exact rightHypothesis _

/-- A new element comes into the order where a plain tree has it. -/
theorem seek_link [Ord κ] {key : α → κ} {wanted : κ} {path : List (PathFrame α)}
    {tree : ColorTree α} (new : α)
    (leaf : (seek (directions key wanted) path tree).2 = .leaf) :
    before (seek (directions key wanted) path tree).1 ++
        new :: after (seek (directions key wanted) path tree).1 =
      before path ++ (SearchTree.link key wanted new tree.plain).toList ++
        after path := by
  induction tree generalizing path with
  | leaf => simp [seek, plain, SearchTree.link, SearchTree.Tree.toList]
  | node color left value right leftHypothesis rightHypothesis =>
      rw [seek, directions] at leaf ⊢
      rw [plain, SearchTree.link]
      cases order : compare (key value) wanted with
      | lt =>
          simp only [order] at leaf ⊢
          rw [leftHypothesis leaf]
          simp [before, after, SearchTree.Tree.toList]
      | eq =>
          simp only [order] at leaf
          cases leaf
      | gt =>
          simp only [order] at leaf ⊢
          rw [rightHypothesis leaf]
          simp [before, after, SearchTree.Tree.toList]

end ProxyVPN.RedBlack
