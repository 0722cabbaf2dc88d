/-
Module: ProxyVPN.Hev.TaskFair
Purpose: The scheduler is fair: when no task has the priority that never advances
  its key, each task that runs has its turn after a bounded number of turns of
  the others.
Trusted boundary: human-reviewed spec
Main exports: HevTaskMachine.Orderly, HevTaskMachine.Overlooks,
  Ordered.step, turns_before_task
-/
import ProxyVPN.Hev.TaskMachineRounds
import ProxyVPN.Hev.TaskMachineRuns
import ProxyVPN.Lib.FairQueue

namespace ProxyVPN

open Transition FairQueue

namespace HevTaskSystemContext

/-- The keys of tasks as numbers. -/
def keys (self : HevTaskSystemContext) (tasks : List Nat) : List Nat :=
  tasks.map fun task => (self.tasks task).schedKey.toNat

/-- The least key of a running task is not near the largest key. -/
def Roomy (self : HevTaskSystemContext) : Prop :=
  (self.getMinSchedKey.getD 0).toNat + 16 ≤ 2 ^ 64

instance (self : HevTaskSystemContext) : Decidable self.Roomy :=
  inferInstanceAs (Decidable (_ ≤ _))

section Keys

variable {context final : HevTaskSystemContext} {ready queue rest : List Nat}

theorem keyCount_eq (key : UInt64) :
    context.keyCount key ready = (context.keys ready).count key.toNat := by
  unfold keyCount keys List.count
  rw [List.countP_map]
  refine List.countP_congr fun task _ => ?_
  simp only [Function.comp_apply, beq_iff_eq]
  exact UInt64.toNat_inj.symm

theorem keys_congr (same : ∀ task ∈ ready,
    (final.tasks task).schedKey = (context.tasks task).schedKey) :
    final.keys ready = context.keys ready :=
  List.map_congr_left fun task member => congrArg UInt64.toNat (same task member)

theorem Lined.keys_sorted (lined : context.Lined ready) :
    (context.keys ready).Pairwise (· ≤ ·) :=
  List.pairwise_map.mpr (lined.sorted.imp fun less => UInt64.le_iff_toNat_le.mp less)

theorem Ready.fits (queued : context.Ready ready) (roomy : context.Roomy) :
    context.Fits ready := by
  unfold Roomy at roomy
  rw [queued.getMinSchedKey] at roomy
  exact roomy

/-- Who is in the queue stays there with its key. -/
theorem Keeps.kept (keeps : context.Keeps ready final queue) (calm : context.Calm)
    (fits : context.Fits ready) : ∀ task ∈ ready, task ∈ queue ∧
      (final.tasks task).schedKey = (context.tasks task).schedKey := by
  intro task member
  cases ready with
  | nil => cases member
  | cons head rest =>
      obtain ⟨later, _, kept, _⟩ := keeps.front calm fits head rest rfl
      exact kept task member

/-- Who comes into the queue comes behind its first. -/
theorem Keeps.turnsBefore_eq (keeps : context.Keeps ready final queue)
    (calm : context.Calm) (fits : context.Fits ready) (some : ready ≠ [])
    (most last : Nat) :
    turnsBefore most last (final.keys queue) = turnsBefore most last (context.keys ready) := by
  cases ready with
  | nil => exact absurd rfl some
  | cons head rest =>
      obtain ⟨later, rfl, kept, counted⟩ := keeps.front calm fits head rest rfl
      have same := (kept head List.mem_cons_self).2
      rw [keyCount_eq, keyCount_eq] at counted
      simp only [keys, List.map_cons, turnsBefore, same, List.count_cons_self] at counted ⊢
      rw [counted]

/-- The first task has had its turn. -/
theorem Leaves.turn_keys (leaves : context.Leaves ready final queue) (calm : context.Calm)
    (fits : context.Fits ready) (isFirst : ready = context.currentTask :: rest) :
    Turn (context.tasks context.currentTask).schedKey.toNat (context.keys rest)
      (final.keys queue) := by
  obtain ⟨same, gone | ⟨back, moved⟩⟩ := leaves.turn rest isFirst
  · rw [← keys_congr same]
    exact .leaves (gone.map _)
  · rw [isFirst] at back
    rw [← keys_congr same]
    exact .returns _ (UInt64.lt_iff_toNat_lt.mp (moved calm fits).1) (back.map _)

theorem Leaves.spread (leaves : context.Leaves ready final queue) (queued : context.Ready ready)
    (calm : context.Calm) (fits : context.Fits ready) (spread : context.Spread ready)
    (isFirst : ready = context.currentTask :: rest) : final.Spread queue := by
  have sorted := queued.keys_sorted
  rw [isFirst] at sorted
  have least_le := (leaves.turn_keys calm fits isFirst).le (List.pairwise_cons.mp sorted).1
  have below : ∀ task ∈ queue, (final.tasks task).schedKey.toNat ≤
      (context.tasks context.currentTask).schedKey.toNat + 15 := by
    have inRest : ∀ task ∈ rest, (final.tasks task).schedKey.toNat ≤
        (context.tasks context.currentTask).schedKey.toNat + 15 := by
      intro task member
      have near := spread task (by rw [isFirst]; exact List.mem_cons_of_mem _ member)
      rw [isFirst] at near
      rw [(leaves.turn rest isFirst).1 task member]
      exact near
    intro task member
    obtain ⟨_, gone | ⟨back, moved⟩⟩ := leaves.turn rest isFirst
    · exact inRest task (gone.mem_iff.mp member)
    · rw [back.mem_iff, isFirst] at member
      rcases List.mem_cons.mp member with rfl | member
      · exact (moved calm fits).2
      · exact inRest task member
  intro task member
  cases queue with
  | nil => cases member
  | cons head later =>
      have first := least_le _ (List.mem_cons_self (l := final.keys later))
      exact Nat.le_trans (below task member) (Nat.add_le_add_right first 15)

end Keys

end HevTaskSystemContext

namespace HevTaskMachine

/-- The step gives no task the priority that never advances its key, and the keys
have not come near the largest. -/
def Orderly (self : HevTaskMachine) (label : HevTaskCall × Option Int) : Prop :=
  label.1.Gentle ∧ self.context.Roomy

instance (self : HevTaskMachine) (label : HevTaskCall × Option Int) :
    Decidable (self.Orderly label) :=
  inferInstanceAs (Decidable (_ ∧ _))

/-- The step is another's than the task's, of no more than so many tasks. -/
def Overlooks (task most : Nat) (self : HevTaskMachine)
    (label : HevTaskCall × Option Int) : Prop :=
  self.Orderly label ∧ ¬(self.control = .resumed ∧ self.current = task) ∧
    self.context.totalTaskCount ≤ most

instance (task most : Nat) (self : HevTaskMachine) (label : HevTaskCall × Option Int) :
    Decidable (Overlooks task most self label) :=
  inferInstanceAs (Decidable (_ ∧ _ ∧ _))

/-- The queue between two orderly steps. -/
structure Ordered (machine : HevTaskMachine) (ready live : List Nat) : Prop where
  calm : machine.context.Calm
  spread : machine.context.Spread ready
  heads : machine.control = .resumed → machine.current ≠ 0 →
    ∃ rest, ready = machine.current :: rest
  early : machine.control = .resumed → machine.current = 0 → machine.context.Early live

section Orders

variable {self next : HevTaskMachine} {ready live nodes queue newLive newNodes : List Nat}
  {call : HevTaskCall} {answer : Option Int}

/-- Control is not with the program while there are tasks in the queue. -/
theorem Heads.isTask (heads : self.Heads ready live) (populated : self.context.Populated ready live)
    (resumed : self.control = .resumed) (some : live ≠ []) :
    self.current ≠ 0 ∧ ∃ rest, ready = self.current :: rest := by
  rcases heads resumed with ⟨_, none⟩ | ⟨rest, isFirst⟩
  · exact absurd none some
  · refine ⟨populated.ready.queue.nonzero _ ?_, rest, isFirst⟩
    rw [isFirst]
    exact List.mem_cons_self

theorem Ordered.of_heads (calm : self.context.Calm) (spread : self.context.Spread ready)
    (populated : self.context.Populated ready live) (heads : self.Heads ready live) :
    self.Ordered ready live where
  calm := calm
  spread := spread
  heads resumed isTask := by
    rcases heads resumed with ⟨notTask, _⟩ | first
    · exact absurd notTask isTask
    · exact first
  early resumed notTask := by
    intro task member
    exact absurd notTask (heads.isTask populated resumed (List.ne_nil_of_mem member)).1

/-- Tasks that have had no turn have keys near each other. -/
theorem spread_of_early (populated : self.context.Populated ready live)
    (early : self.context.Early live) : self.context.Spread ready := fun task member =>
  Nat.le_trans (early task (populated.mem_live task member)).2 (Nat.le_add_left 15 _)

theorem Ordered.step (ordered : self.Ordered ready live)
    (consistent : self.Consistent ready live nodes) (fits : self.context.Fits ready)
    (final : next.Consistent queue newLive newNodes)
    (advances : self.Advances ready live call answer next queue newLive) :
    next.Ordered queue newLive := by
  cases advances with
  | stays keeps control current same _ =>
      have kept := keeps.kept ordered.calm fits
      refine ⟨keeps.calm ordered.calm, (keeps.spread ordered.calm fits).2 ordered.spread,
        fun resumed isTask => ?_, fun resumed notTask => ?_⟩
      · rw [control] at resumed
        rw [current] at isTask ⊢
        obtain ⟨rest, isFirst⟩ := ordered.heads resumed isTask
        obtain ⟨later, isQueue, _⟩ := keeps.front ordered.calm fits _ rest isFirst
        exact ⟨later, isQueue⟩
      · rw [control] at resumed
        rw [current] at notTask
        rw [same notTask]
        intro task member
        obtain ⟨runs, small⟩ := ordered.early resumed notTask task member
        have alive := ((consistent.populated.started task).mp member).1
        obtain ⟨inQueue, key⟩ := kept task (consistent.populated.ready.mem alive runs)
        exact ⟨((final.populated.ready.running task).mp inQueue).2, by rwa [key]⟩
  | launches notTask resumed current early _ _ =>
      obtain ⟨calm, earlyNext⟩ := early ordered.calm
      have early := earlyNext (ordered.early resumed notTask)
      refine ⟨calm, spread_of_early final.populated early, fun _ isTask => ?_,
        fun _ _ => early⟩
      rw [current] at isTask
      exact absurd notTask isTask
  | picks keeps heads _ =>
      exact .of_heads (keeps.calm ordered.calm)
        ((keeps.spread ordered.calm fits).2 ordered.spread) final.populated heads
  | turns middle between isTask resumed keeps queued current leaves heads _ =>
      obtain ⟨rest, isFirst⟩ := ordered.heads resumed isTask
      obtain ⟨later, isBetween, _⟩ := keeps.front ordered.calm fits _ rest isFirst
      obtain ⟨fitsMiddle, spread⟩ := keeps.spread ordered.calm fits
      have calm := keeps.calm ordered.calm
      rw [← current] at isBetween
      exact .of_heads (leaves.calm calm) (leaves.spread queued calm fitsMiddle
        (spread ordered.spread) isBetween) final.populated heads

end Orders

theorem initial_ordered {tasks : Nat → HevTask} {expire : Nat → Timespec}
    {task : Nat → Nat} {clock : Timespec} :
    (initial tasks expire task clock).Ordered [] [] where
  calm := by rintro task ⟨⟩
  spread := by rintro task ⟨⟩
  heads := fun _ isTask => absurd rfl isTask
  early := by rintro _ _ task ⟨⟩

theorem ordered_invariant :
    Invariant (system.restrict Orderly) fun self => ∃ ready live nodes,
      self.Consistent ready live nodes ∧ self.Ordered ready live where
  initial self started := by
    obtain ⟨tasks, expire, task, clock, normal, rfl⟩ := started
    exact ⟨[], [], [], initial_consistent normal, initial_ordered⟩
  preserved self label next invariant taken := by
    obtain ⟨ready, live, nodes, consistent, ordered⟩ := invariant
    obtain ⟨⟨gentle, roomy⟩, permits, ran⟩ := taken
    obtain ⟨queue, newLive, newNodes, final, advances⟩ :=
      (consistent.step permits (takes_of_settles ran)).of_step ran
    exact ⟨queue, newLive, newNodes, final,
      ordered.step consistent (consistent.populated.ready.fits roomy) final (advances gentle)⟩

/-- The task runs, and the others have at most so many turns before its own when
there are no more than `most` tasks. -/
def Ranked (task most : Nat) (self : HevTaskMachine) (rank : Nat) : Prop :=
  ∃ ready live nodes, self.Consistent ready live nodes ∧ self.Ordered ready live ∧
    task ∈ ready ∧
    (self.context.totalTaskCount ≤ most →
      turnsBefore most (self.context.tasks task).schedKey.toNat
        (self.context.keys ready) ≤ rank) ∧
    (self.control = .resumed → self.current = 0 → 16 * most ≤ rank)

section Ranks

variable {self next : HevTaskMachine} {ready live nodes : List Nat} {task most : Nat}

theorem Consistent.keys_length (consistent : self.Consistent ready live nodes) :
    (self.context.keys ready).length ≤ self.context.totalTaskCount := by
  rw [consistent.populated.total]
  refine Nat.le_trans (Nat.le_of_eq (List.length_map _)) ?_
  exact (List.subperm_of_subset consistent.populated.ready.queue.distinct
    consistent.populated.mem_live).length_le

/-- No task in the queue waits long. -/
theorem Ordered.turnsBefore_le (ordered : self.Ordered ready live)
    (consistent : self.Consistent ready live nodes) (member : task ∈ ready)
    (few : self.context.totalTaskCount ≤ most) :
    turnsBefore most (self.context.tasks task).schedKey.toNat (self.context.keys ready) ≤
      16 * most := by
  refine FairQueue.turnsBefore_le (Nat.le_trans consistent.keys_length few) ?_
  intro least rest isFirst
  cases ready with
  | nil => cases member
  | cons head later =>
      have near := ordered.spread task member
      rw [← (List.cons.inj isFirst).1]
      exact near

theorem Ranked.step {rank : Nat} {label : HevTaskCall × Option Int}
    (ranked : self.Ranked task most rank)
    (taken : (system.restrict (Overlooks task most)).step self label next) :
    ∃ left, next.Ranked task most left ∧
      left + (if label.1.endsTurn label.2 then 1 else 0) ≤ rank := by
  obtain ⟨ready, live, nodes, consistent, ordered, member, bound, outside⟩ := ranked
  obtain ⟨⟨⟨gentle, roomy⟩, notServed, few⟩, permits, ran⟩ := taken
  obtain ⟨queue, newLive, newNodes, final, advances⟩ :=
    (consistent.step permits (takes_of_settles ran)).of_step ran
  have fits := consistent.populated.ready.fits roomy
  have orderedNext := ordered.step consistent fits final (advances gentle)
  have notEmpty := List.ne_nil_of_mem member
  cases advances gentle with
  | stays keeps control current _ goesOn =>
      obtain ⟨inQueue, key⟩ := keeps.kept ordered.calm fits task member
      refine ⟨rank, ⟨queue, newLive, newNodes, final, orderedNext, inQueue, fun _ => ?_,
        fun resumed notTask => ?_⟩, by rw [goesOn]; exact Nat.le_refl _⟩
      · rw [key, keeps.turnsBefore_eq ordered.calm fits notEmpty]
        exact bound few
      · exact outside (control.symm.trans resumed) (current.symm.trans notTask)
  | launches notTask resumed current early kept goesOn =>
      have room := outside resumed notTask
      refine ⟨rank, ⟨queue, newLive, newNodes, final, orderedNext, kept task member,
        fun fewNext => ?_, fun _ _ => room⟩, by rw [goesOn]; exact Nat.le_refl _⟩
      exact Nat.le_trans (orderedNext.turnsBefore_le final (kept task member) fewNext) room
  | picks keeps heads goesOn =>
      obtain ⟨inQueue, key⟩ := keeps.kept ordered.calm fits task member
      have started := final.populated.mem_live task inQueue
      refine ⟨rank, ⟨queue, newLive, newNodes, final, orderedNext, inQueue, fun _ => ?_,
        fun resumed notTask => ?_⟩, by rw [goesOn]; exact Nat.le_refl _⟩
      · rw [key, keeps.turnsBefore_eq ordered.calm fits notEmpty]
        exact bound few
      · exact absurd notTask
          (heads.isTask final.populated resumed (List.ne_nil_of_mem started)).1
  | turns middle between isTask resumed keeps queued current leaves heads fewer =>
      obtain ⟨rest, isFirst⟩ := ordered.heads resumed isTask
      obtain ⟨later, isBetween, _⟩ := keeps.front ordered.calm fits _ rest isFirst
      have fitsMiddle := (keeps.spread ordered.calm fits).1
      have calm := keeps.calm ordered.calm
      rw [← current] at isBetween
      obtain ⟨inBetween, key⟩ := keeps.kept ordered.calm fits task member
      have waits : task ∈ later := by
        rw [isBetween] at inBetween
        refine (List.mem_cons.mp inBetween).resolve_left ?_
        rintro rfl
        exact notServed ⟨resumed, current.symm⟩
      obtain ⟨same, gone⟩ := leaves.turn later isBetween
      have inQueue : task ∈ queue := by
        rcases gone with gone | ⟨back, _⟩
        · exact gone.mem_iff.mpr waits
        · exact back.mem_iff.mpr inBetween
      have sorted := queued.keys_sorted
      rw [isBetween] at sorted
      have fewNext : (next.context.keys queue).length ≤ most := by
        refine Nat.le_trans final.keys_length ?_
        rw [final.populated.total]
        exact Nat.le_trans fewer (consistent.populated.total ▸ few)
      have inKeys : (middle.tasks task).schedKey.toNat ∈ middle.keys later :=
        List.mem_map_of_mem waits
      have less := (leaves.turn_keys calm fitsMiddle isBetween).turnsBefore_lt
        (List.pairwise_cons.mp sorted).1 final.populated.ready.keys_sorted inKeys fewNext
      have before := keeps.turnsBefore_eq ordered.calm fits notEmpty most
        (middle.tasks task).schedKey.toNat
      rw [isBetween] at before
      change turnsBefore _ _ _ < turnsBefore _ _
        (middle.keys (middle.currentTask :: later)) at less
      rw [before, ← same task waits] at less
      have started := final.populated.mem_live task inQueue
      refine ⟨_, ⟨queue, newLive, newNodes, final, orderedNext, inQueue,
        fun _ => Nat.le_refl _, fun resumed notTask => ?_⟩, ?_⟩
      · exact absurd notTask
          (heads.isTask final.populated resumed (List.ne_nil_of_mem started)).1
      · have now := bound few
        rw [← key, ← same task waits] at now
        split <;> omega

/-- In a run whose priorities are not 0 and whose keys are not near the largest, a
task that runs waits for at most 16 turns of each of the others. -/
theorem turns_before_task {labels : List (HevTaskCall × Option Int)}
    (reached : (system.restrict Orderly).Reachable self) (alive : self.context.Alive task)
    (running : (self.context.tasks task).state = .running)
    (taken : (system.restrict (Overlooks task most)).Run self labels next) :
    labels.countP (fun label => label.1.endsTurn label.2) ≤ 16 * most ∧
      (next.context.tasks task).state = .running := by
  obtain ⟨ready, live, nodes, consistent, ordered⟩ := ordered_invariant.reachable reached
  have member := consistent.populated.ready.mem alive running
  have begins : self.Ranked task most (16 * most) :=
    ⟨ready, live, nodes, consistent, ordered, member,
      ordered.turnsBefore_le consistent member, fun _ _ => Nat.le_refl _⟩
  obtain ⟨left, ranked, used⟩ := System.Run.countP_le
    (fun _ _ _ _ ranked step => ranked.step step) taken begins
  obtain ⟨queue, newLive, newNodes, final, _, inQueue, _⟩ := ranked
  exact ⟨Nat.le_trans (Nat.le_add_left _ _) used,
    ((final.populated.ready.running task).mp inQueue).2⟩

end Ranks

/-- The second of two tasks waits for a turn of the first. -/
theorem turns_before_task_of_two :
    ∃ self next : HevTaskMachine, self.current = 4 ∧ next.current = 8 ∧
      (system.restrict (Overlooks 8 2)).Run self [(.yield, none)] next ∧
      [(HevTaskCall.yield, none)].countP (fun label => label.1.endsTurn label.2) ≤
        16 * 2 ∧ (next.context.tasks 8).state = .running := by
  have replayed : (([(HevTaskCall.create 4, none), (.create 8, none), (.run 4, none),
      (.run 8, none), (.runScheduler, none)].foldlM (performIf Orderly 4) zeroed).bind
        fun self => ([(HevTaskCall.yield, none)].foldlM
          (performIf (Overlooks 8 2) 4) self).map fun next =>
            (decide (self.context.Alive 8), (self.context.tasks 8).state, self.current,
              next.current)) = some (true, .running, 4, 8) := by decide +kernel
  obtain ⟨self, next, ran, ranThen, looks⟩ := replay_then (fun self next =>
    (decide (self.context.Alive 8), (self.context.tasks 8).state, self.current,
      next.current)) 4 replayed
  simp only [Prod.mk.injEq, decide_eq_true_iff] at looks
  obtain ⟨alive, running, current, later⟩ := looks
  have reached : (system.restrict Orderly).Reachable self := ⟨zeroed, _, zeroed_start, ran⟩
  exact ⟨self, next, current, later, ranThen,
    turns_before_task reached alive running ranThen⟩

end HevTaskMachine

end ProxyVPN
