/-
Module: ProxyVPN.Hev.TaskTimer
Purpose: The timer of the task system (hev-task-timer.c): its arithmetic on the
  clock, and the tree of the waiting tasks in the order of their deadlines.
Trusted boundary: human-reviewed model
Main exports: Timespec, HevTaskTimer, HevTaskTimer.getExpire,
  HevTaskTimer.getTime, HevTaskTimer.nodeCmp, HevTaskTimer.startWait,
  cmp_neg_iff, getExpire_nanoseconds, getTime_spec, Waits, Waits.startWait,
  Waits.endWait
-/
import ProxyVPN.Hev.RBTreeCached
import Mathlib.Algebra.Group.Int.Defs
import Mathlib.Logic.Function.Basic

namespace ProxyVPN

open RedBlack

/-- `struct timespec`. -/
structure Timespec where
  tvSec : Int
  tvNsec : Int
deriving DecidableEq

namespace Timespec

def nanoseconds (self : Timespec) : Int := self.tvSec * 1000000000 + self.tvNsec

/-- What the clock reads. -/
def Normal (self : Timespec) : Prop := 0 ≤ self.tvNsec ∧ self.tvNsec < 1000000000

/-- A deadline, whose nanoseconds may be a whole second. -/
def Carried (self : Timespec) : Prop := 0 ≤ self.tvNsec ∧ self.tvNsec ≤ 1000000000

theorem Normal.carried {self : Timespec} (normal : self.Normal) : self.Carried :=
  ⟨normal.1, Int.le_of_lt normal.2⟩

instance (self : Timespec) : Decidable self.Normal := inferInstanceAs (Decidable (_ ∧ _))

end Timespec

/-- `struct _HevTaskTimer` with the nodes on the stacks of the waiting tasks. -/
structure HevTaskTimer where
  sortTree : HevRBTreeCached
  expire : Nat → Timespec
  task : Nat → Nat

namespace HevTaskTimer

/-- `hev_task_timer_cmp`. -/
def cmp (a b : Timespec) : Int :=
  if a.tvSec < b.tvSec then -1
  else if a.tvSec > b.tvSec then 1
  else if a.tvNsec < b.tvNsec then -1
  else if a.tvNsec > b.tvNsec then 1
  else 0

/-- `hev_task_timer_node_cmp`. -/
def nodeCmp (self : HevTaskTimer) (a b : Nat) : Int :=
  let res := cmp (self.expire a) (self.expire b)
  if res ≠ 0 then res
  else if a < b then -1
  else if a > b then 1
  else 0

/-- `hev_task_timer_get_expire`. -/
def getExpire (expire : Timespec) (milliseconds : BitVec 32) : Timespec :=
  let tvSec := expire.tvSec + (milliseconds / 1000#32).toNat
  let tvNsec := expire.tvNsec + (milliseconds % 1000#32 * 1000000#32).toNat
  if tvNsec > 1000000000 then
    { tvSec := tvSec + 1, tvNsec := tvNsec - 1000000000 }
  else
    { tvSec := tvSec, tvNsec := tvNsec }

/-- `hev_task_timer_get_time`. -/
def getTime (curr expire : Timespec) : BitVec 32 :=
  let sec := expire.tvSec - curr.tvSec
  let nsec := expire.tvNsec - curr.tvNsec
  let time : Timespec :=
    if nsec < 0 then { tvSec := sec - 1, tvNsec := nsec + 1000000000 }
    else { tvSec := sec, tvNsec := nsec }
  if time.tvSec < 0 then
    0
  else
    BitVec.ofInt 32 (time.tvSec * 1000 + (time.tvNsec + 999999) / 1000000)

/-- `hev_task_timer_get_timeout` when the clock reads `curr`. -/
def getTimeout (self : HevTaskTimer) (curr : Timespec) : Int :=
  let node := self.sortTree.first
  if node = 0 then -1 else (getTime curr (self.expire node)).toInt

/-- `hev_task_timer_wait` before it yields, with its node at an address of the
stack, and its `leftmost`. -/
def startWait (self : HevTaskTimer) (rounds node : Nat) (milliseconds : BitVec 32)
    (task : Nat) (curr : Timespec) : Option (HevTaskTimer × Bool) := do
  let self : HevTaskTimer :=
    { sortTree := self.sortTree.allocate node
      expire := Function.update self.expire node (getExpire curr milliseconds)
      task := Function.update self.task node task }
  let (tree, leftmost) ← self.sortTree.insertWhere rounds
    (fun this => self.nodeCmp node this < 0) node
  some ({ self with sortTree := tree }, leftmost)

/-- `hev_task_timer_wait` after it yielded, up to the removal of its node. -/
def endWait (self : HevTaskTimer) (rounds node : Nat) (leftmost : Bool) :
    Option (HevTaskTimer × Bool) := do
  let leftmost := if node = self.sortTree.first then true else leftmost
  let tree ← self.sortTree.erase rounds node
  some ({ self with sortTree := tree.free node }, leftmost)

section Clock

variable {curr expire a b c : Timespec} {milliseconds : BitVec 32}

theorem cmp_neg : cmp a b < 0 ↔
    a.tvSec < b.tvSec ∨ a.tvSec = b.tvSec ∧ a.tvNsec < b.tvNsec := by
  unfold cmp
  split_ifs with less more lessNsec moreNsec
  · exact iff_of_true (by decide) (.inl less)
  · exact iff_of_false (by decide) (by omega)
  · exact iff_of_true (by decide) (by omega)
  · exact iff_of_false (by decide) (by omega)
  · exact iff_of_false (by decide) (by omega)

theorem cmp_eq_zero : cmp a b = 0 ↔ a.tvSec = b.tvSec ∧ a.tvNsec = b.tvNsec := by
  unfold cmp
  split_ifs with less more lessNsec moreNsec
  · exact iff_of_false (by decide) (by omega)
  · exact iff_of_false (by decide) (by omega)
  · exact iff_of_false (by decide) (by omega)
  · exact iff_of_false (by decide) (by omega)
  · exact iff_of_true rfl (by omega)

/-- A deadline is in the future if and only if the comparison says so, also when
its nanoseconds are a whole second. -/
theorem cmp_neg_iff (normal : curr.Normal) (carried : expire.Carried) :
    cmp curr expire < 0 ↔ curr.nanoseconds < expire.nanoseconds := by
  rw [cmp_neg]
  unfold Timespec.Normal at normal
  unfold Timespec.Carried at carried
  unfold Timespec.nanoseconds
  omega

/-- The nanoseconds of the milliseconds below a second fit in a word. -/
theorem nanoseconds_below_second :
    (milliseconds % 1000#32 * 1000000#32).toNat =
      milliseconds.toNat % 1000 * 1000000 := by
  have less : milliseconds.toNat % 1000 < 1000 := Nat.mod_lt _ (by decide)
  rw [BitVec.toNat_mul, BitVec.toNat_umod]
  show milliseconds.toNat % 1000 * 1000000 % 4294967296 = _
  omega

theorem getExpire_nanoseconds : (getExpire curr milliseconds).nanoseconds =
    curr.nanoseconds + milliseconds.toNat * 1000000 := by
  have quotient : (milliseconds / 1000#32).toNat = milliseconds.toNat / 1000 :=
    BitVec.toNat_udiv
  unfold getExpire Timespec.nanoseconds
  rw [nanoseconds_below_second, quotient]
  dsimp only
  split <;> dsimp only <;> omega

theorem getExpire_carried (normal : curr.Normal) :
    (getExpire curr milliseconds).Carried := by
  unfold Timespec.Normal at normal
  unfold getExpire Timespec.Carried
  rw [nanoseconds_below_second]
  dsimp only
  split <;> dsimp only <;> omega

/-- The milliseconds to a deadline, rounded up, or zero when it has passed. -/
theorem getTime_spec (normal : curr.Normal) (carried : expire.Carried)
    (near : expire.nanoseconds ≤ curr.nanoseconds + 4294967295 * 1000000) :
    ((getTime curr expire).toNat : Int) =
      max 0 ((expire.nanoseconds - curr.nanoseconds + 999999) / 1000000) := by
  have word (value : Int) (low : 0 ≤ value) (high : value < 4294967296) :
      ((BitVec.ofInt 32 value).toNat : Int) = value := by
    rw [BitVec.toNat_ofInt]
    omega
  unfold Timespec.Normal at normal
  unfold Timespec.Carried at carried
  unfold Timespec.nanoseconds at near ⊢
  unfold getTime
  dsimp only
  split
  case isTrue borrows =>
    dsimp only
    split
    case isTrue past =>
      show (0 : Int) = _
      omega
    case isFalse future =>
      rw [word _ (by omega) (by omega)]
      omega
  case isFalse =>
    dsimp only
    split
    case isTrue past =>
      show (0 : Int) = _
      omega
    case isFalse future =>
      rw [word _ (by omega) (by omega)]
      omega

end Clock

/-- The order of the sort tree: the deadlines, then the addresses. -/
def Before (self : HevTaskTimer) (a b : Nat) : Prop :=
  (self.expire a).tvSec < (self.expire b).tvSec ∨
    (self.expire a).tvSec = (self.expire b).tvSec ∧
      ((self.expire a).tvNsec < (self.expire b).tvNsec ∨
        (self.expire a).tvNsec = (self.expire b).tvNsec ∧ a < b)

/-- The sort tree holds these nodes in the order of their deadlines. -/
structure Waits (timer : HevTaskTimer) (nodes : List Nat) : Prop where
  queue : timer.sortTree.Queue nodes
  sorted : nodes.Pairwise timer.Before

theorem nodeCmp_neg {self : HevTaskTimer} {a b : Nat} :
    self.nodeCmp a b < 0 ↔ self.Before a b := by
  have less := @cmp_neg (self.expire a) (self.expire b)
  have equal := @cmp_eq_zero (self.expire a) (self.expire b)
  unfold nodeCmp Before
  dsimp only
  by_cases apart : cmp (self.expire a) (self.expire b) ≠ 0
  · rw [if_pos apart, less]
    omega
  · rw [if_neg apart]
    split_ifs with below
    · exact iff_of_true (by decide) (by omega)
    · exact iff_of_false (by decide) (by omega)
    · exact iff_of_false (by decide) (by omega)

section Order

variable {self : HevTaskTimer} {a b c : Nat}

theorem Before.trans (first : self.Before a b) (second : self.Before b c) :
    self.Before a c := by
  unfold Before at *
  omega

theorem before_of_not (apart : a ≠ b) (notBefore : ¬self.Before a b) :
    self.Before b a := by
  unfold Before at *
  omega

theorem Before.nanoseconds_le (isBefore : self.Before a b)
    (carried : (self.expire a).Carried) (carriedOther : (self.expire b).Carried) :
    (self.expire a).nanoseconds ≤ (self.expire b).nanoseconds := by
  unfold Before at isBefore
  unfold Timespec.Carried at carried carriedOther
  unfold Timespec.nanoseconds
  omega

theorem before_congr {other : HevTaskTimer} (left : other.expire a = self.expire a)
    (right : other.expire b = self.expire b) : other.Before a b ↔ self.Before a b := by
  unfold Before
  rw [left, right]

end Order

section Operations

variable {self : HevTaskTimer} {nodes : List Nat} {node task : Nat}
  {milliseconds : BitVec 32} {curr : Timespec}

/-- The first node has the least deadline. -/
theorem Waits.first_le {head : Nat} {rest : List Nat} (waits : self.Waits (head :: rest))
    (carried : ∀ other ∈ head :: rest, (self.expire other).Carried) :
    ∀ other ∈ head :: rest,
      (self.expire head).nanoseconds ≤ (self.expire other).nanoseconds := by
  intro other member
  rcases List.mem_cons.mp member with rfl | later
  · exact Int.le_refl _
  · exact ((List.pairwise_cons.mp waits.sorted).1 other later).nanoseconds_le
      (carried head List.mem_cons_self) (carried other member)

/-- A new node is behind those with an earlier deadline. -/
theorem Waits.startWait (waits : self.Waits nodes)
    (unused : self.sortTree.base.Unused node) (milliseconds : BitVec 32) (task : Nat)
    (curr : Timespec) :
    ∃ final leftmost front back,
      Settles (fun rounds => self.startWait rounds node milliseconds task curr)
        (final, leftmost) ∧
      (leftmost = true ↔ front = []) ∧ nodes = front ++ back ∧
      final.Waits (front ++ node :: back) ∧
      final.expire = Function.update self.expire node (getExpire curr milliseconds) ∧
      final.task = Function.update self.task node task := by
  obtain ⟨allocated, fresh⟩ := waits.queue.allocate unused
  let armed : HevTaskTimer :=
    { sortTree := self.sortTree.allocate node
      expire := Function.update self.expire node (getExpire curr milliseconds)
      task := Function.update self.task node task }
  have sorted : nodes.Pairwise armed.Before := by
    refine waits.sorted.imp_of_mem fun {front back} inFront inBack isBefore => ?_
    refine (before_congr ?_ ?_).mpr isBefore
    · exact Function.update_of_ne (ne_of_mem_of_not_mem inFront fresh) _ _
    · exact Function.update_of_ne (ne_of_mem_of_not_mem inBack fresh) _ _
  have directed : nodes.Pairwise fun front back =>
      decide (armed.nodeCmp node front < 0) = true →
        decide (armed.nodeCmp node back < 0) = true := by
    refine sorted.imp fun {front back} isBefore => ?_
    rw [decide_eq_true_iff, decide_eq_true_iff, nodeCmp_neg, nodeCmp_neg]
    exact fun precedes => precedes.trans isBefore
  obtain ⟨tree, leftmost, front, back, wrote, isLeftmost, rfl, early, late, queue, _⟩ :=
    allocated.settles_insert directed (by simp [HevRBTreeCached.allocate, HevRBTree.allocate])
      fresh unused.2.2
  refine ⟨{ armed with sortTree := tree }, leftmost, front, back,
    wrote.bind (.const _), isLeftmost, rfl, ⟨queue, ?_⟩, rfl, rfl⟩
  have notFront : ∀ other ∈ front, other ≠ node := fun other member =>
    ne_of_mem_of_not_mem (List.mem_append_left _ member) fresh
  have before : ∀ other ∈ front, armed.Before other node := by
    intro other member
    refine before_of_not (notFront other member).symm ?_
    rw [← nodeCmp_neg]
    exact of_decide_eq_false (early other member)
  have after : ∀ other ∈ back, armed.Before node other := fun other member =>
    nodeCmp_neg.mp (of_decide_eq_true (late other member))
  show (front ++ node :: back).Pairwise armed.Before
  rw [List.pairwise_append] at sorted ⊢
  refine ⟨sorted.1, List.pairwise_cons.mpr ⟨after, sorted.2.1⟩, ?_⟩
  intro other member later inside
  rcases List.mem_cons.mp inside with rfl | inBack
  · exact before other member
  · exact sorted.2.2 other member later inBack

/-- A node that is taken out leaves the others in their order. -/
theorem Waits.endWait (waits : self.Waits nodes) (member : node ∈ nodes)
    (leftmost : Bool) :
    ∃ final, Settles (fun rounds => self.endWait rounds node leftmost)
        (final, if node = self.sortTree.first then true else leftmost) ∧
      final.Waits (nodes.erase node) ∧ final.expire = self.expire ∧
      final.task = self.task := by
  obtain ⟨tree, ran, queue, _⟩ := waits.queue.settles_erase member
  have freed := queue.free (waits.queue.distinct.not_mem_erase (a := node))
  exact ⟨{ self with sortTree := tree.free node }, ran.bind (.const _),
    ⟨freed, waits.sorted.sublist List.erase_sublist⟩, rfl, rfl⟩

end Operations

end HevTaskTimer

end ProxyVPN
