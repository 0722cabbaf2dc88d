/-
Module: ProxyVPN.Lib.LinkedList
Purpose: Doubly linked lists threaded through nodes.  A list of nodes is
  threaded when every node points to its neighbours; appending a node and
  taking one out are stated by what may change in the links.
Trusted boundary: none
Main exports: Link, Threads, Threads.snoc, Threads.remove
-/
import Mathlib.Data.List.Basic
import Mathlib.Data.List.Nodup

namespace ProxyVPN.LinkedList

universe u

variable {α : Type u}

/-- The links of one node. -/
structure Link (α : Type u) where
  next : Option α
  prev : Option α
deriving Repr, DecidableEq

/-- Every node of `nodes` points to the one after it and the one before it. -/
structure Threads (links : α → Link α) (nodes : List α) : Prop where
  distinct : nodes.Nodup
  linked : ∀ before node after, nodes = before ++ node :: after →
    (links node).next = after.head? ∧ (links node).prev = before.getLast?

theorem Threads.nil (links : α → Link α) : Threads links [] where
  distinct := List.nodup_nil
  linked := by
    intro before node after split
    cases before <;> cases split

/-- Append a node: it gets its links, the last node points to it, and nothing
else changes. -/
theorem Threads.snoc {links linked : α → Link α} {nodes : List α} {node : α}
    (threads : Threads links nodes) (fresh : node ∉ nodes)
    (new : linked node = { next := none, prev := nodes.getLast? })
    (last : ∀ tail, nodes.getLast? = some tail →
      linked tail = { links tail with next := some node })
    (others : ∀ other, other ≠ node → nodes.getLast? ≠ some other →
      linked other = links other) :
    Threads linked (nodes ++ [node]) where
  distinct := by
    rw [← List.concat_eq_append]
    exact threads.distinct.concat fresh
  linked := by
    intro before found after split
    rcases List.eq_nil_or_concat after with rfl | ⟨rest, final, rfl⟩
    · -- the node that was appended
      have parts := List.append_inj' split rfl
      cases parts.1
      cases parts.2
      rw [new]
      exact ⟨rfl, rfl⟩
    · rw [List.concat_eq_append, ← List.cons_append, ← List.append_assoc] at split
      have parts := List.append_inj' split rfl
      cases parts.2
      have old := threads.linked before found rest parts.1
      have foundMem : found ∈ nodes := by
        rw [parts.1]
        exact List.mem_append_right _ List.mem_cons_self
      have different : found ≠ node := fun same => fresh (same ▸ foundMem)
      rw [List.concat_eq_append]
      cases rest with
      | nil =>
          have isLast : nodes.getLast? = some found := by
            rw [parts.1, List.getLast?_concat]
          rw [last found isLast]
          exact ⟨rfl, old.2⟩
      | cons following rest =>
          have distinct := threads.distinct
          rw [parts.1] at distinct
          have notAfter : found ∉ following :: rest :=
            (List.nodup_cons.mp (List.nodup_append.mp distinct).2.1).1
          have notLast : nodes.getLast? ≠ some found := by
            rw [parts.1, List.getLast?_append_cons, List.getLast?_cons_cons]
            intro isLast
            exact notAfter (List.mem_of_getLast? isLast)
          rw [others found different notLast]
          exact old

/-- Take a node out: its neighbours point to each other, and nothing else
changes. -/
theorem Threads.remove {links linked : α → Link α} {front back : List α}
    {node : α} (threads : Threads links (front ++ node :: back))
    (before : ∀ last, front.getLast? = some last →
      linked last = { links last with next := back.head? })
    (after : ∀ first, back.head? = some first →
      linked first = { links first with prev := front.getLast? })
    (others : ∀ other, front.getLast? ≠ some other → back.head? ≠ some other →
      linked other = links other) :
    Threads linked (front ++ back) where
  distinct := by
    have distinct := threads.distinct
    rw [List.nodup_append] at distinct ⊢
    obtain ⟨frontDistinct, restDistinct, apart⟩ := distinct
    refine ⟨frontDistinct, (List.nodup_cons.mp restDistinct).2, ?_⟩
    intro left leftMem right rightMem
    exact apart left leftMem right (List.mem_cons_of_mem _ rightMem)
  linked := by
    intro earlier found later split
    have distinct := threads.distinct
    rw [List.nodup_append, List.nodup_cons] at distinct
    obtain ⟨frontDistinct, ⟨_, backDistinct⟩, apart⟩ := distinct
    rcases List.append_eq_append_iff.mp split with
      ⟨middle, rfl, backEq⟩ | ⟨middle, frontEq, laterEq⟩
    · -- a node behind the one taken out
      have old := threads.linked (front ++ node :: middle) found later
        (by rw [backEq]; simp)
      have foundBack : found ∈ back := by
        rw [backEq]
        exact List.mem_append_right _ List.mem_cons_self
      have notBefore : front.getLast? ≠ some found := by
        intro isLast
        have foundFront : found ∈ front := List.mem_of_getLast? isLast
        exact apart found foundFront found
          (List.mem_cons_of_mem _ foundBack) rfl
      cases middle with
      | nil =>
          have isFirst : back.head? = some found := by rw [backEq]; rfl
          rw [after found isFirst, List.append_nil]
          exact ⟨old.1, rfl⟩
      | cons first middle =>
          rw [backEq, List.nodup_append] at backDistinct
          have notFirst : back.head? ≠ some found := by
            rw [backEq]
            intro isFirst
            cases isFirst
            exact backDistinct.2.2 _ List.mem_cons_self _ List.mem_cons_self rfl
          rw [others found notBefore notFirst, old.1, old.2]
          refine ⟨rfl, ?_⟩
          rw [List.getLast?_append_cons, List.getLast?_append_cons,
            List.getLast?_cons_cons]
    · cases middle with
      | nil =>
          -- the first node behind the one taken out
          rw [List.append_nil] at frontEq
          rw [List.nil_append] at laterEq
          have old := threads.linked (front ++ [node]) found later
            (by rw [← laterEq]; simp)
          have foundBack : found ∈ back := by
            rw [← laterEq]
            exact List.mem_cons_self
          have isFirst : back.head? = some found := by rw [← laterEq]; rfl
          rw [after found isFirst, frontEq]
          exact ⟨old.1, rfl⟩
      | cons first middle =>
          -- a node before the one taken out
          rw [List.cons_append, List.cons.injEq] at laterEq
          obtain ⟨rfl, rfl⟩ := laterEq
          have old := threads.linked earlier found (middle ++ node :: back)
            (by rw [frontEq]; simp)
          have foundFront : found ∈ front := by
            rw [frontEq]
            exact List.mem_append_right _ List.mem_cons_self
          have notFirst : back.head? ≠ some found := by
            intro isFirst
            have foundBack : found ∈ back := List.mem_of_head? isFirst
            exact apart found foundFront found
              (List.mem_cons_of_mem _ foundBack) rfl
          cases middle with
          | nil =>
              have isLast : front.getLast? = some found := by
                rw [frontEq, List.getLast?_concat]
              rw [before found isLast]
              exact ⟨rfl, old.2⟩
          | cons second middle =>
              rw [frontEq, List.nodup_append, List.nodup_cons] at frontDistinct
              have notLast : front.getLast? ≠ some found := by
                rw [frontEq, List.getLast?_append_cons, List.getLast?_cons_cons]
                intro isLast
                exact frontDistinct.2.1.1 (List.mem_of_getLast? isLast)
              rw [others found notLast notFirst, old.1, old.2]
              exact ⟨rfl, rfl⟩

end ProxyVPN.LinkedList
