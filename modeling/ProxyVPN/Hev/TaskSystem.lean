/-
Module: ProxyVPN.Hev.TaskSystem
Purpose: What the tasks may rely on in every state that the task system reaches:
  their calls return, the scheduler knows exactly the tasks that run, the reactor
  waits until the earliest deadline, and nobody waits for what has happened.
Trusted boundary: human-reviewed spec
Main exports: HevTaskMachine.Sleeps, permitted_call_returns,
  running_tree_of_reachable, reactor_timeout_of_reachable, awake_answer,
  idle_waits_for_nothing
-/
import ProxyVPN.Hev.TaskMachineRounds
import ProxyVPN.Hev.TaskMachineRuns

namespace ProxyVPN.HevTaskMachine

open Transition

/-- The task is in `hev_task_timer_wait` until this deadline. -/
def Sleeps (self : HevTaskMachine) (task : Nat) (deadline : Int) : Prop :=
  ∃ node leftmost milliseconds started,
    self.frames task = some (.wait node leftmost milliseconds started) ∧
      deadline = started.nanoseconds + milliseconds.toNat * 1000000

section Reached

variable {self next : HevTaskMachine}

/-- Each call that is permitted returns: no loop goes on for ever, no memory is used
that is not there, and no `abort` is reached. -/
theorem permitted_call_returns {call : HevTaskCall} (reached : system.Reachable self)
    (permits : self.Permits call) (takes : self.Takes call) :
    ∃ next answer, Settles (fun rounds => exec rounds self call) (next, answer) ∧
      system.Reachable next := by
  obtain ⟨ready, live, nodes, consistent⟩ := consistent_of_reachable reached
  obtain ⟨next, answer, _, _, _, ran, _⟩ := consistent.step permits takes
  have step : system.step self (call, answer) next := ⟨permits, ran⟩
  exact ⟨next, answer, ran, reached.step step⟩

/-- One of two tasks joins the other. -/
theorem permitted_join_returns :
    ∃ self next answer, self.current = 4 ∧
      Settles (fun rounds => exec rounds self (.join 8)) (next, answer) ∧
      system.Reachable next := by
  have replayed : ([(HevTaskCall.create 4, none), (.create 8, none), (.run 4, none),
      (.run 8, none), (.ref 8, none), (.runScheduler, none)].foldlM (perform 4)
        zeroed).map (fun self => (self.current, decide (self.Permits (.join 8)),
          decide self.Outside)) = some (4, true, true) := by decide +kernel
  obtain ⟨self, reached, looks⟩ := replay _ 4 replayed
  simp only [Prod.mk.injEq, decide_eq_true_iff] at looks
  obtain ⟨current, permits, outside⟩ := looks
  obtain ⟨next, answer, ran, reachedNext⟩ :=
    permitted_call_returns reached permits outside
  exact ⟨self, next, answer, current, ran, reachedNext⟩

/-- The tree of running tasks holds exactly the tasks that run, in the order of
their keys, the numbers of tasks are right, the current task is one that runs, and
each task has the references that are needed. -/
theorem running_tree_of_reachable (reached : system.Reachable self) :
    ∃ ready live, self.context.Populated ready live ∧
      (self.control = .resumed → self.current = 0 ∨ self.current ∈ ready) ∧
      ∀ task, self.context.Alive task → 0 < (self.context.tasks task).refCount ∧
        self.needs task ≤ (self.context.tasks task).refCount := by
  obtain ⟨ready, live, nodes, consistent⟩ := consistent_of_reachable reached
  exact ⟨ready, live, consistent.populated, consistent.resumed,
    consistent.framed.references⟩

/-- A task runs, and another waits for an event. -/
theorem running_tree_of_two :
    ∃ self : HevTaskMachine, self.current = 8 ∧
      (self.context.tasks 4).state = .waiting ∧ ∃ ready live,
        self.context.Populated ready live ∧
        (self.control = .resumed → self.current = 0 ∨ self.current ∈ ready) ∧
        ∀ task, self.context.Alive task → 0 < (self.context.tasks task).refCount ∧
          self.needs task ≤ (self.context.tasks task).refCount := by
  have replayed : ([(HevTaskCall.create 4, none), (.create 8, none), (.run 4, none),
      (.run 8, none), (.runScheduler, none), (.waitio, none), (.poll [] ⟨1, 0⟩, none)].foldlM
        (perform 4) zeroed).map (fun self =>
          (self.current, (self.context.tasks 4).state)) = some (8, .waiting) := by
    decide +kernel
  obtain ⟨self, reached, looks⟩ := replay _ 4 replayed
  obtain ⟨current, waiting⟩ := Prod.mk.inj looks
  exact ⟨self, current, waiting, running_tree_of_reachable reached⟩

/-- The deadline of a node is that of the task that waits for it. -/
theorem Framed.sleeps {nodes : List Nat} (framed : self.Framed nodes) :
    ∀ node ∈ nodes, self.Sleeps (self.context.timer.task node)
      (self.context.timer.expire node).nanoseconds := by
  intro node member
  obtain ⟨leftmost, milliseconds, started, inside⟩ := framed.slept node member
  obtain ⟨_, _, expire, _⟩ := framed.sleeping _ _ _ _ _ inside
  refine ⟨node, leftmost, milliseconds, started, inside, ?_⟩
  rw [expire, HevTaskTimer.getExpire_nanoseconds]

theorem Framed.node_of_sleeps {nodes : List Nat} (framed : self.Framed nodes) {task : Nat}
    {deadline : Int} (sleeps : self.Sleeps task deadline) :
    ∃ node ∈ nodes, (self.context.timer.expire node).nanoseconds = deadline := by
  obtain ⟨node, leftmost, milliseconds, started, inside, rfl⟩ := sleeps
  obtain ⟨member, _, expire, _⟩ := framed.sleeping _ _ _ _ _ inside
  refine ⟨node, member, ?_⟩
  rw [expire, HevTaskTimer.getExpire_nanoseconds]

/-- The first deadline is the earliest. -/
theorem Framed.first_le {head : Nat} {rest : List Nat} (framed : self.Framed (head :: rest))
    {task : Nat} {deadline : Int} (sleeps : self.Sleeps task deadline) :
    (self.context.timer.expire head).nanoseconds ≤ deadline := by
  obtain ⟨node, member, rfl⟩ := framed.node_of_sleeps sleeps
  exact framed.waits.first_le framed.carried node member

/-- A poll that waits does so for ever if no task sleeps, and else for the least
number of whole milliseconds after which the earliest deadline has passed. -/
theorem reactor_timeout_of_reachable (reached : system.Reachable self) {now : Timespec}
    (reads : self.Reads now) :
    ((∀ task deadline, ¬self.Sleeps task deadline) →
        self.context.reactorTimeout (-1) now = -1) ∧
      ∀ sleeper soon, self.Sleeps sleeper soon →
        soon ≤ now.nanoseconds + (2 ^ 31 - 1) * 1000000 →
          ∃ timeout : Nat, self.context.reactorTimeout (-1) now = timeout ∧
            (∃ task deadline, self.Sleeps task deadline ∧
              deadline ≤ now.nanoseconds + timeout * 1000000) ∧
            (timeout = 0 ∨ ∀ task deadline, self.Sleeps task deadline →
              now.nanoseconds + (timeout - 1) * 1000000 < deadline) := by
  obtain ⟨ready, live, nodes, consistent⟩ := consistent_of_reachable reached
  have framed := consistent.framed
  have polls : self.context.reactorTimeout (-1) now = self.context.timer.getTimeout now :=
    if_pos (by decide)
  rw [polls]
  cases nodes with
  | nil =>
      have none : self.context.timer.sortTree.first = 0 :=
        framed.waits.queue.first_eq_zero.mpr rfl
      refine ⟨fun _ => if_pos none, fun sleeper soon sleeps => ?_⟩
      obtain ⟨node, member, _⟩ := framed.node_of_sleeps sleeps
      cases member
  | cons head rest =>
      have sleepsHead := framed.sleeps head List.mem_cons_self
      refine ⟨fun none => absurd sleepsHead (none _ _), fun sleeper soon sleeps near => ?_⟩
      have first := framed.waits.queue.first_cons
      have nonzero := framed.waits.queue.nonzero head List.mem_cons_self
      have earliest := framed.first_le sleeps
      have time := HevTaskTimer.getTime_spec reads.1
        (framed.carried head List.mem_cons_self) (by omega)
      have timeout : self.context.timer.getTimeout now =
          (HevTaskTimer.getTime now (self.context.timer.expire head)).toInt := by
        unfold HevTaskTimer.getTimeout
        dsimp only
        rw [first, if_neg nonzero]
      refine ⟨(HevTaskTimer.getTime now (self.context.timer.expire head)).toNat, ?_,
        ⟨_, _, sleepsHead, by omega⟩, ?_⟩
      · rw [timeout]
        exact BitVec.toInt_eq_toNat_of_lt (by omega)
      · by_cases passed : (self.context.timer.expire head).nanoseconds ≤ now.nanoseconds
        · exact .inl (by omega)
        · refine .inr fun task other sleepsOther => ?_
          have least := framed.first_le sleepsOther
          omega

/-- With a second and a half to sleep, the reactor waits for the half that is left. -/
theorem reactor_timeout_of_sleeper :
    ∃ self : HevTaskMachine, self.context.reactorTimeout (-1) ⟨1, 0⟩ = 500 ∧
      ∃ timeout : Nat, self.context.reactorTimeout (-1) ⟨1, 0⟩ = timeout ∧
        (∃ task deadline, self.Sleeps task deadline ∧
          deadline ≤ Timespec.nanoseconds ⟨1, 0⟩ + timeout * 1000000) ∧
        (timeout = 0 ∨ ∀ task deadline, self.Sleeps task deadline →
          Timespec.nanoseconds ⟨1, 0⟩ + (timeout - 1) * 1000000 < deadline) := by
  have replayed : ([(HevTaskCall.create 4, none), (.run 4, none), (.runScheduler, none),
      (.sleep 32 1500 ⟨0, 0⟩, none)].foldlM (perform 4) zeroed).map (fun self =>
        (self.context.reactorTimeout (-1) ⟨1, 0⟩, self.frames 4,
          decide (self.Reads ⟨1, 0⟩))) =
        some (500, some (.wait 32 true 1500 ⟨0, 0⟩), true) := by decide +kernel
  obtain ⟨self, reached, looks⟩ := replay _ 4 replayed
  simp only [Prod.mk.injEq, decide_eq_true_iff] at looks
  obtain ⟨timeout, inside, reads⟩ := looks
  exact ⟨self, timeout, (reactor_timeout_of_reachable reached reads).2 4 1500000000
    ⟨32, true, 1500, ⟨0, 0⟩, inside, by decide⟩ (by decide)⟩

/-- A task that sleeps is told how much of its time is left, in milliseconds rounded
up, which is zero if and only if its deadline has passed. -/
theorem awake_answer (reached : system.Reachable self) {now : Timespec}
    {answer : Option Int} (step : system.step self (.awake now, answer) next) :
    ∃ deadline, self.Sleeps self.current deadline ∧
      answer = some (max 0 ((deadline - now.nanoseconds + 999999) / 1000000)) := by
  obtain ⟨ready, live, nodes, consistent⟩ := consistent_of_reachable reached
  obtain ⟨reads, ran⟩ := step
  obtain ⟨resumed, node, leftmost, milliseconds, started, inside⟩ := takes_of_settles ran
  have framed := consistent.framed
  obtain ⟨member, _, expire, _, _, before⟩ := framed.sleeping _ _ _ _ _ inside
  have deadline : (self.context.timer.expire node).nanoseconds =
      started.nanoseconds + milliseconds.toNat * 1000000 := by
    rw [expire, HevTaskTimer.getExpire_nanoseconds]
  refine ⟨_, ⟨node, leftmost, milliseconds, started, inside, rfl⟩, ?_⟩
  obtain ⟨final, later, ended, _⟩ := consistent.toSound.awake inside reads
  obtain ⟨_, same⟩ := Prod.mk.inj (ran.unique (settles_awake resumed inside ended))
  have past := reads.2
  have small := milliseconds.isLt
  have time := HevTaskTimer.getTime_spec reads.1 (framed.carried node member) (by omega)
  rw [← deadline, ← time]
  exact same

/-- A task that is woken up after a second of its second and a half has the half left. -/
theorem awake_answer_of_half :
    ∃ self : HevTaskMachine, ∃ deadline, self.Sleeps self.current deadline ∧
      some 500 = some (max 0 ((deadline - Timespec.nanoseconds ⟨1, 0⟩ + 999999) /
        1000000)) := by
  have replayed : ([(HevTaskCall.create 4, none), (.run 4, none), (.runScheduler, none),
      (.sleep 32 1500 ⟨0, 0⟩, none), (.poll [4] ⟨1, 0⟩, none)].foldlM (perform 4)
        zeroed).map (fun self => (perform 4 self (.awake ⟨1, 0⟩, some 500)).isSome) =
        some true := by decide +kernel
  obtain ⟨self, reached, looks⟩ := replay _ 4 replayed
  obtain ⟨next, performed⟩ := Option.isSome_iff_exists.mp looks
  exact ⟨self, awake_answer reached (step_of_perform performed)⟩

/-- When the scheduler waits for events no task runs, so no deadline had passed when
the clock was last read for that, and nobody joins a task that has stopped. -/
theorem idle_waits_for_nothing (reached : system.Reachable self)
    (idle : self.control = .polling (-1)) :
    (∀ task, self.context.Alive task → (self.context.tasks task).state ≠ .running) ∧
      (∀ task deadline, self.Sleeps task deadline →
        self.checked.nanoseconds < deadline) ∧
      ∀ task target, self.frames task = some (.join target) →
        self.context.Alive target ∧ (self.context.tasks target).state = .waiting := by
  obtain ⟨ready, live, nodes, consistent⟩ := consistent_of_reachable reached
  have framed := consistent.framed
  have none : ready = [] := by
    rcases consistent.polling (-1) idle with ⟨zero, _⟩ | ⟨_, none, _⟩
    · cases zero
    · exact none
  have still : ∀ task, self.context.Alive task →
      (self.context.tasks task).state ≠ .running := by
    intro task alive running
    have member := consistent.populated.ready.mem alive running
    rw [none] at member
    cases member
  refine ⟨still, fun task deadline sleeps => ?_, fun task target joins => ?_⟩
  · by_contra passed
    cases nodes with
    | nil =>
        obtain ⟨_, member, _⟩ := framed.node_of_sleeps sleeps
        cases member
    | cons head rest =>
        have earliest := framed.first_le sleeps
        obtain ⟨_, _, _, slept⟩ := framed.slept head List.mem_cons_self
        exact still _ (framed.started _ _ slept).1
          (consistent.prompt.due head rest rfl (by omega))
  · have present := (framed.joining task target joins).1
    refine ⟨present, ?_⟩
    cases state : (self.context.tasks target).state with
    | stopped =>
        exact absurd (consistent.prompt.joins task target joins state)
          (still task (framed.started _ _ joins).1)
    | running => exact absurd state (still target present)
    | waiting => rfl

/-- The scheduler waits while a task sleeps. -/
theorem idle_waits_for_sleeper :
    ∃ self : HevTaskMachine, self.frames 4 = some (.wait 32 true 1500 ⟨0, 0⟩) ∧
      (∀ task, self.context.Alive task → (self.context.tasks task).state ≠ .running) ∧
      (∀ task deadline, self.Sleeps task deadline →
        self.checked.nanoseconds < deadline) ∧
      ∀ task target, self.frames task = some (.join target) →
        self.context.Alive target ∧ (self.context.tasks target).state = .waiting := by
  have replayed : ([(HevTaskCall.create 4, none), (.run 4, none), (.runScheduler, none),
      (.sleep 32 1500 ⟨0, 0⟩, none)].foldlM (perform 4) zeroed).map (fun self =>
        (self.frames 4, self.control)) =
        some (some (.wait 32 true 1500 ⟨0, 0⟩), .polling (-1)) := by decide +kernel
  obtain ⟨self, reached, looks⟩ := replay _ 4 replayed
  obtain ⟨inside, idle⟩ := Prod.mk.inj looks
  exact ⟨self, inside, idle_waits_for_nothing reached idle⟩

end Reached

end ProxyVPN.HevTaskMachine
