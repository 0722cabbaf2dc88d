/-
Module: ProxyVPN.Hev.TaskMachineRounds
Purpose: The result of a step of the task system does not depend on the bound on
  the rounds of its loops, so a run can be replayed with any bound that suffices.
Trusted boundary: none
Main exports: HevTaskMachine.steady_exec, HevTaskMachine.perform,
  HevTaskMachine.replay, HevTaskMachine.replay_then
-/
import ProxyVPN.Hev.TaskMachine

namespace ProxyVPN

open Transition

namespace HevTaskTimer

/-- A timer is armed by one insertion into the tree of waiting nodes. -/
theorem steady_startWait (self : HevTaskTimer) (node : Nat) (milliseconds : BitVec 32)
    (task : Nat) (curr : Timespec) :
    Steady fun rounds => self.startWait rounds node milliseconds task curr :=
  .bind (HevRBTreeCached.steady_insertWhere _ _ _) fun _ => .const _

/-- A timer is disarmed by one removal from that tree. -/
theorem steady_endWait (self : HevTaskTimer) (node : Nat) (leftmost : Bool) :
    Steady fun rounds => self.endWait rounds node leftmost :=
  .bind (HevRBTreeCached.steady_erase _ _) fun _ => .const _

end HevTaskTimer

namespace HevTaskSystemContext

section Steps

variable (self : HevTaskSystemContext) (task : Nat)

/-- A task is queued by one search and one insertion. -/
theorem steady_insertNode : Steady fun rounds => self.insertNode rounds task :=
  .bind (.const _) fun _ =>
    .bind (HevRBTreeCached.steady_insertWhere _ _ _) fun _ => .const _

/-- So is the insertion of a task that becomes ready. -/
theorem steady_insertTask : Steady fun rounds => self.insertTask rounds task :=
  .bind (.const _) fun _ => .bind (steady_insertNode _ _) fun _ => .const _

/-- The running task is queued again by a removal and an insertion. -/
theorem steady_reinsertCurrentTask :
    Steady fun rounds => self.reinsertCurrentTask rounds :=
  .bind (.const _) fun _ =>
    .bind (HevRBTreeCached.steady_erase _ _) fun _ => steady_insertNode _ _

/-- The running task leaves the queue by one removal. -/
theorem steady_removeCurrentTask (state : HevTaskState) :
    Steady fun rounds => self.removeCurrentTask rounds state :=
  .bind (.const _) fun _ => .bind (HevRBTreeCached.steady_erase _ _) fun _ => .const _

/-- A wake-up is at most one insertion into the queue. -/
theorem steady_wakeupTaskWithContext :
    Steady fun rounds => self.wakeupTaskWithContext rounds task :=
  .bind (.const _) fun _ => .ite (.const _) <| .ite (.const _) <|
    .bind (.const _) fun _ => steady_insertTask _ _

/-- A task that is run for the first time is inserted once. -/
theorem steady_run : Steady fun rounds => self.run rounds task := by
  have steadyNew (context : HevTaskSystemContext) :
      Steady fun rounds => context.runNewTask rounds task :=
    .bind (.const _) fun _ => .bind (.const _) fun _ =>
      .bind (steady_insertTask _ _) fun _ => .const _
  exact .bind (.const _) fun _ => .ite (.const _) (steadyNew _)

/-- The timer wakes at most the task of its first node. -/
theorem steady_timerWakeup (curr : Timespec) :
    Steady fun rounds => self.timerWakeup rounds curr :=
  .ite (.const _) (.ite (.const _) (steady_wakeupTaskWithContext _ _))

/-- Waking one task after the other is steady, by induction on the events. -/
theorem steady_wakeAll (events : List Nat) : Steady fun rounds =>
    events.foldlM (fun self task => self.wakeupTaskWithContext rounds task) self := by
  induction events generalizing self with
  | nil => exact .const _
  | cons event events inductionHypothesis =>
      simp only [List.foldlM_cons]
      exact .bind (steady_wakeupTaskWithContext _ _) fun _ => inductionHypothesis _

/-- The reactor wakes the tasks of its events and of its timer. -/
theorem steady_ioPoll (events : List Nat) (curr : Timespec) :
    Steady fun rounds => self.ioPoll rounds events curr :=
  .bind (steady_wakeAll _ _) fun _ => .ite (.const _) (steady_timerWakeup _ _)

/-- A poll wakes tasks, and picks the first of the queue. -/
theorem steady_poll (timeout : Int) (events : List Nat) (curr : Timespec) :
    Steady fun rounds => self.poll rounds timeout events curr :=
  .bind (steady_ioPoll _ _ _) fun _ => .const _

/-- However the running task leaves, it is by one of the operations above. -/
theorem steady_leaveCurrentTask (type : HevTaskSched) :
    Steady fun rounds => self.leaveCurrentTask rounds type := by
  cases type with
  | runScheduler => exact .const _
  | switch => exact .bind (.const _) fun _ => steady_reinsertCurrentTask _
  | waitio => exact .bind (.const _) fun _ => steady_removeCurrentTask _ _
  | remove => exact steady_removeCurrentTask _ _

/-- The scheduler lets the running task leave, and looks at the queue. -/
theorem steady_schedule (type : HevTaskSched) :
    Steady fun rounds => self.schedule rounds type :=
  .bind (steady_leaveCurrentTask _ _) fun _ => .const _

/-- A sleep arms the timer and waits. -/
theorem steady_startSleep (node : Nat) (milliseconds : BitVec 32) (curr : Timespec) :
    Steady fun rounds => self.startSleep rounds node milliseconds curr :=
  .bind (HevTaskTimer.steady_startWait _ _ _ _ _) fun _ => .const _

/-- The end of a sleep disarms the timer, and may wake the next sleeper. -/
theorem steady_endSleep (node : Nat) (leftmost : Bool) (curr : Timespec) :
    Steady fun rounds => self.endSleep rounds node leftmost curr :=
  .bind (HevTaskTimer.steady_endWait _ _ _) fun _ =>
    .bind (.ite (steady_timerWakeup _ _) (.const _)) fun _ => .const _

/-- One round of a join finds the task stopped, or wakes it. -/
theorem steady_joinRound : Steady fun rounds => self.joinRound rounds task :=
  .bind (.const _) fun _ => .ite (.const _) <|
    .bind (steady_wakeupTaskWithContext _ _) fun _ => .const _

/-- The end of a task wakes the one that joins it, if there is one. -/
theorem steady_executerEnd : Steady fun rounds => self.executerEnd rounds :=
  .bind (.const _) fun _ => .ite (steady_wakeupTaskWithContext _ _) (.const _)

end Steps

end HevTaskSystemContext

namespace HevTaskMachine

open HevTaskSystemContext

variable (self : HevTaskMachine)

/-- The round of a join as the calling task sees it: it ends, or yields. -/
theorem steady_joinRound (task : Nat) : Steady fun rounds => self.joinRound rounds task :=
  .bind (HevTaskSystemContext.steady_joinRound _ _) fun _ => .ite (.const _) <|
    .bind (steady_schedule _ _) fun _ => .const _

/-- Every call is steady: more rounds than it needs change nothing. -/
theorem steady_exec (call : HevTaskCall) : Steady fun rounds => exec rounds self call := by
  cases call with
  | create task => exact .const _
  | ref task => exact .const _
  | unref task => exact .const _
  | setPriority task priority => exact .const _
  | run task => exact .bind (.const _) fun _ => .bind (steady_run _ _) fun _ => .const _
  | wakeup task =>
      exact .bind (.const _) fun _ =>
        .bind (steady_wakeupTaskWithContext _ _) fun _ => .const _
  | runScheduler =>
      exact .bind (.const _) fun _ => .bind (steady_schedule _ _) fun _ => .const _
  | yield => exact .bind (.const _) fun _ => .bind (steady_schedule _ _) fun _ => .const _
  | waitio => exact .bind (.const _) fun _ => .bind (steady_schedule _ _) fun _ => .const _
  | sleep node milliseconds now =>
      exact .bind (.const _) fun _ => .ite (.const _) <|
        .bind (steady_startSleep _ _ _ _) fun _ =>
          .bind (steady_schedule _ _) fun _ => .const _
  | awake now =>
      refine .bind (.const _) fun _ => ?_
      cases inside : self.frames self.current with
      | none => exact .const _
      | some frame =>
          cases frame with
          | wait node leftmost milliseconds started =>
              exact .bind (steady_endSleep _ _ _ _) fun _ => .const _
          | join task => exact .const _
  | join task =>
      exact .bind (.const _) fun _ => .bind (.const _) fun _ => .ite (.const _) <|
        steady_joinRound _ _
  | rejoin =>
      refine .bind (.const _) fun _ => ?_
      cases inside : self.frames self.current with
      | none => exact .const _
      | some frame =>
          cases frame with
          | wait node leftmost milliseconds started => exact .const _
          | join task => exact steady_joinRound _ _
  | exit => exact .bind (.const _) fun _ => .bind (steady_schedule _ _) fun _ => .const _
  | entryReturns =>
      exact .bind (.const _) fun _ => .bind (steady_executerEnd _) fun _ =>
        .bind (steady_schedule _ _) fun _ => .const _
  | poll events now =>
      unfold exec
      cases polls : self.control with
      | resumed => exact .const _
      | polling timeout => exact .bind (steady_poll _ _ _ _) fun _ => .const _

instance (self : HevTaskMachine) (call : HevTaskCall) : Decidable (self.Permits call) :=
  match call with
  | .create _ => inferInstanceAs (Decidable (HevRBTree.Unused _ _))
  | .ref _ => inferInstanceAs (Decidable (Alive _ _))
  | .unref _ => inferInstanceAs (Decidable (_ ∧ _))
  | .setPriority _ _ => inferInstanceAs (Decidable (Alive _ _))
  | .run _ => inferInstanceAs (Decidable (_ ∧ (_ → _)))
  | .wakeup _ => inferInstanceAs (Decidable (Started _ _))
  | .runScheduler => inferInstanceAs (Decidable (_ = _))
  | .yield => inferInstanceAs (Decidable (_ ≠ _))
  | .waitio => inferInstanceAs (Decidable (_ ≠ _))
  | .sleep _ _ _ => inferInstanceAs (Decidable (_ ∧ _ ∧ _))
  | .awake _ => inferInstanceAs (Decidable (Reads _ _))
  | .join _ => inferInstanceAs (Decidable (_ ∧ _ ∧ _))
  | .rejoin => inferInstanceAs (Decidable True)
  | .exit => inferInstanceAs (Decidable (_ ∧ ¬_))
  | .entryReturns => inferInstanceAs (Decidable (_ ≠ _))
  | .poll _ _ => inferInstanceAs (Decidable ((∀ _ ∈ _, _) ∧ _))

/-- A permitted step that is taken in so many rounds, with its answer. -/
def perform (rounds : Nat) (self : HevTaskMachine) (label : HevTaskCall × Option Int) :
    Option HevTaskMachine :=
  if self.Permits label.1 then
    (exec rounds self label.1).bind fun result =>
      if result.2 = label.2 then some result.1 else none
  else none

variable {self} in
/-- What a call returned with some number of rounds is a step of the system. -/
theorem step_of_perform {rounds : Nat} {label : HevTaskCall × Option Int}
    {next : HevTaskMachine} (performed : perform rounds self label = some next) :
    system.step self label next := by
  unfold perform at performed
  split at performed
  case isFalse => cases performed
  case isTrue permits =>
    obtain ⟨result, ran, answers⟩ := Option.bind_eq_some_iff.mp performed
    split at answers
    case isFalse => cases answers
    case isTrue same =>
      obtain rfl := Option.some.inj answers
      refine ⟨permits, ?_⟩
      rw [← same]
      exact (self.steady_exec label.1).settles ran

/-- Runs of the task system can be replayed. -/
theorem replay {View : Type} (view : HevTaskMachine → View) (rounds : Nat)
    {labels : List (HevTaskCall × Option Int)} {seen : View}
    (replayed : (labels.foldlM (perform rounds) zeroed).map view = some seen) :
    ∃ self, system.Reachable self ∧ view self = seen := by
  obtain ⟨self, performed, looks⟩ := Option.map_eq_some_iff.mp replayed
  have run : (System.ofExec system.start (perform rounds)).Run zeroed labels self :=
    System.run_of_foldlM performed
  exact ⟨self, ⟨zeroed, labels, zeroed_start, run.mono fun _ _ _ => step_of_perform⟩, looks⟩

/-- A step that is taken if it is allowed. -/
def performIf (allowed : HevTaskMachine → HevTaskCall × Option Int → Prop)
    [∀ self label, Decidable (allowed self label)] (rounds : Nat) (self : HevTaskMachine)
    (label : HevTaskCall × Option Int) : Option HevTaskMachine :=
  if allowed self label then perform rounds self label else none

/-- Calls that were performed one after the other are a run of the system. -/
theorem run_of_performIf {rounds : Nat}
    {allowed : HevTaskMachine → HevTaskCall × Option Int → Prop}
    [∀ self label, Decidable (allowed self label)] {first last : HevTaskMachine}
    {labels : List (HevTaskCall × Option Int)}
    (replayed : labels.foldlM (performIf allowed rounds) first = some last) :
    (system.restrict allowed).Run first labels last := by
  have run : ((System.ofExec system.start (perform rounds)).restrict allowed).Run
      first labels last := System.run_restrict_of_foldlM replayed
  exact run.mono fun _ _ _ taken => ⟨taken.1, step_of_perform taken.2⟩

/-- A run whose last steps are of another kind can be replayed, too. -/
theorem replay_then {View : Type} (view : HevTaskMachine → HevTaskMachine → View)
    (rounds : Nat) {allowed allowedThen : HevTaskMachine → HevTaskCall × Option Int → Prop}
    [∀ self label, Decidable (allowed self label)]
    [∀ self label, Decidable (allowedThen self label)] {first : HevTaskMachine}
    {labels labelsThen : List (HevTaskCall × Option Int)} {seen : View}
    (replayed : ((labels.foldlM (performIf allowed rounds) first).bind fun self =>
      (labelsThen.foldlM (performIf allowedThen rounds) self).map (view self)) =
        some seen) :
    ∃ self next, (system.restrict allowed).Run first labels self ∧
      (system.restrict allowedThen).Run self labelsThen next ∧ view self next = seen := by
  obtain ⟨self, ran, rest⟩ := Option.bind_eq_some_iff.mp replayed
  obtain ⟨next, ranThen, looks⟩ := Option.map_eq_some_iff.mp rest
  exact ⟨self, next, run_of_performIf ran, run_of_performIf ranThen, looks⟩

end HevTaskMachine

end ProxyVPN
