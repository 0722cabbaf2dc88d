/-
Module: ProxyVPN.Hev.TaskMachine
Purpose: The task system as a machine whose steps are the calls of its tasks and
  the polls of its scheduler, in any order the scheduler allows.
Trusted boundary: human-reviewed model
Main exports: HevTaskFrame, HevTaskMachine, HevTaskCall, HevTaskMachine.exec,
  HevTaskMachine.Permits, HevTaskMachine.system
-/
import ProxyVPN.Hev.TaskSchedule
import ProxyVPN.Lib.Transition

namespace ProxyVPN

open Transition

/-- The function of the task system that a task has yielded in: the frame of
`hev_task_timer_wait` with the time at which it began, or that of `hev_task_join`. -/
inductive HevTaskFrame where
  | wait (node : Nat) (leftmost : Bool) (milliseconds : BitVec 32) (started : Timespec)
  | join (task : Nat)
deriving DecidableEq

/-- The task system; `clock` is the last time that was read, and `checked` the
last one that `hev_task_timer_wakeup` compared with a deadline. -/
structure HevTaskMachine where
  context : HevTaskSystemContext
  control : HevTaskControl
  frames : Nat → Option HevTaskFrame
  clock : Timespec
  checked : Timespec

/-- A step: a call of the task that runs, or of the program when there is no such
task, the rest of a call that has yielded, or a poll of the scheduler. -/
inductive HevTaskCall where
  | create (task : Nat)
  | ref (task : Nat)
  | unref (task : Nat)
  | setPriority (task : Nat) (priority : Int)
  | run (task : Nat)
  | wakeup (task : Nat)
  | runScheduler
  | yield
  | waitio
  | sleep (node : Nat) (milliseconds : BitVec 32) (now : Timespec)
  | awake (now : Timespec)
  | join (task : Nat)
  | rejoin
  | exit
  | entryReturns
  | poll (events : List Nat) (now : Timespec)

namespace HevTaskMachine

def current (self : HevTaskMachine) : Nat := self.context.currentTask

/-- Code outside the task system runs. -/
def Outside (self : HevTaskMachine) : Prop :=
  self.control = .resumed ∧ self.frames self.current = none

instance (self : HevTaskMachine) : Decidable self.Outside :=
  inferInstanceAs (Decidable (_ ∧ _))

/-- The current task is in this frame from now on. -/
def setFrame (self : HevTaskMachine) (frame : Option HevTaskFrame) : HevTaskMachine :=
  { self with frames := Function.update self.frames self.current frame }

/-- The scheduler has taken over. -/
def within (self : HevTaskMachine) (result : HevTaskSystemContext × HevTaskControl) :
    HevTaskMachine :=
  { self with context := result.1, control := result.2 }

/-- A round of the loop of `hev_task_join`, which ends the call, or yields. -/
def joinRound (self : HevTaskMachine) (rounds task : Nat) :
    Option (HevTaskMachine × Option Int) := do
  let (context, stopped) ← self.context.joinRound rounds task
  if stopped then
    some (self.setFrame none, some 0)
  else
    let result ← context.schedule rounds .waitio
    some ((self.setFrame (some (.join task))).within result, none)

/-- One step, in so many rounds of each loop, with the value that a call returns. -/
def exec (rounds : Nat) (self : HevTaskMachine) :
    HevTaskCall → Option (HevTaskMachine × Option Int)
  | .create task => do
      guard self.Outside
      some ({ self with context := self.context.create task }, none)
  | .ref task => do
      guard self.Outside
      let context ← self.context.ref task
      some ({ self with context := context }, none)
  | .unref task => do
      guard self.Outside
      let context ← self.context.unref task
      some ({ self with context := context }, none)
  | .setPriority task priority => do
      guard self.Outside
      let context ← self.context.setPriority task priority
      some ({ self with context := context }, none)
  | .run task => do
      guard self.Outside
      let context ← self.context.run rounds task
      some ({ self with context := context }, none)
  | .wakeup task => do
      guard self.Outside
      let context ← self.context.wakeupTaskWithContext rounds task
      some ({ self with context := context }, none)
  | .runScheduler => do
      guard self.Outside
      let result ← self.context.schedule rounds .runScheduler
      some (self.within result, none)
  | .yield => do
      guard self.Outside
      let result ← self.context.schedule rounds .switch
      some (self.within result, none)
  | .waitio => do
      guard self.Outside
      let result ← self.context.schedule rounds .waitio
      some (self.within result, none)
  | .sleep node milliseconds now => do
      guard self.Outside
      if milliseconds = 0 then
        some (self, some 0)
      else
        let (context, leftmost) ← self.context.startSleep rounds node milliseconds now
        let result ← context.schedule rounds .waitio
        let frame := HevTaskFrame.wait node leftmost milliseconds now
        some ({ (self.setFrame (some frame)).within result with clock := now }, none)
  | .awake now => do
      guard (self.control = .resumed)
      match self.frames self.current with
      | some (.wait node leftmost _ _) =>
          let (context, left) ← self.context.endSleep rounds node leftmost now
          let checks := leftmost || node = self.context.timer.sortTree.first
          some ({ self.setFrame none with
            context := context
            clock := now
            checked := if checks then now else self.checked }, some left.toNat)
      | _ => none
  | .join task => do
      guard self.Outside
      let this ← self.context.load task
      if this.joiner ≠ 0 then
        some (self, some (-1))
      else
        let context := self.context.store task { this with joiner := self.current }
        ({ self with context := context }).joinRound rounds task
  | .rejoin => do
      guard (self.control = .resumed)
      match self.frames self.current with
      | some (.join task) => self.joinRound rounds task
      | _ => none
  | .exit => do
      -- unlike `hev_task_executer`, this does not look at the joiner
      guard self.Outside
      let result ← self.context.schedule rounds .remove
      some (self.within result, none)
  | .entryReturns => do
      guard self.Outside
      let context ← self.context.executerEnd rounds
      let result ← context.schedule rounds .remove
      some (self.within result, none)
  | .poll events now =>
      match self.control with
      | .polling timeout => do
          let result ← self.context.poll rounds timeout events now
          some ({ self.within result with clock := now, checked := now }, none)
      | .resumed => none

/-- Someone is in `hev_task_join` on the task. -/
def Joined (self : HevTaskMachine) (task : Nat) : Prop :=
  (self.context.tasks task).joiner ≠ 0 ∧
    self.frames (self.context.tasks task).joiner = some (.join task)

instance (self : HevTaskMachine) (task : Nat) : Decidable (self.Joined task) :=
  inferInstanceAs (Decidable (_ ∧ _))

/-- The references to a task that its callers may not give back: the one that the
task system has until the task stops, and that of who joins it. -/
def needs (self : HevTaskMachine) (task : Nat) : Nat :=
  (if (self.context.tasks task).state = .stopped then 0 else 1) +
    (if self.Joined task then 1 else 0)

/-- A task that can be woken up. -/
def Started (self : HevTaskMachine) (task : Nat) : Prop :=
  self.context.Alive task ∧ (self.context.tasks task).state ≠ .stopped

instance (self : HevTaskMachine) (task : Nat) : Decidable (self.Started task) :=
  inferInstanceAs (Decidable (_ ∧ _))

/-- A time that the monotonic clock may read. -/
def Reads (self : HevTaskMachine) (now : Timespec) : Prop :=
  now.Normal ∧ self.clock.nanoseconds ≤ now.nanoseconds

instance (self : HevTaskMachine) (now : Timespec) : Decidable (self.Reads now) :=
  inferInstanceAs (Decidable (_ ∧ _))

/-- What callers, the reactor and the clock keep to: only tasks make the calls that
yield, a task is not used after its last reference is given back, no task is woken
up before it runs or after it has stopped, none is run again that was joined, and
none that is joined calls `hev_task_exit`. -/
def Permits (self : HevTaskMachine) : HevTaskCall → Prop
  | .create task => self.context.runningTasks.base.Unused task
  | .ref task => self.context.Alive task
  | .unref task => self.context.Alive task ∧
      self.needs task < (self.context.tasks task).refCount
  | .setPriority task _ => self.context.Alive task
  | .run task => self.context.Alive task ∧
      ((self.context.tasks task).state = .stopped → (self.context.tasks task).joiner = 0)
  | .wakeup task => self.Started task
  | .runScheduler => self.current = 0
  | .yield => self.current ≠ 0
  | .waitio => self.current ≠ 0
  | .sleep node _ now => self.current ≠ 0 ∧
      self.context.timer.sortTree.base.Unused node ∧ self.Reads now
  | .awake now => self.Reads now
  | .join task => self.current ≠ 0 ∧ self.context.Alive task ∧
      self.needs task < (self.context.tasks task).refCount
  | .rejoin => True
  | .exit => self.current ≠ 0 ∧ ¬self.Joined self.current
  | .entryReturns => self.current ≠ 0
  | .poll events now => (∀ task ∈ events, self.Started task) ∧ self.Reads now

/-- The task system when it has just been set up. -/
def initial (tasks : Nat → HevTask) (expire : Nat → Timespec) (task : Nat → Nat)
    (clock : Timespec) : HevTaskMachine :=
  { context :=
      { totalTaskCount := 0
        runningTaskCount := 0
        timer := { sortTree := .empty fun _ => none, expire := expire, task := task }
        currentTask := 0
        runningTasks := .empty fun _ => none
        tasks := tasks }
    control := .resumed
    frames := fun _ => none
    clock := clock
    checked := clock }

/-- The task system when it has just been set up in zeroed memory. -/
def zeroed : HevTaskMachine :=
  initial (fun _ => .new) (fun _ => ⟨0, 0⟩) (fun _ => 0) ⟨0, 0⟩

/-- The runs of the task system whose callers keep to what it permits. -/
def system : System HevTaskMachine (HevTaskCall × Option Int) where
  start self := ∃ tasks expire task clock, clock.Normal ∧
    self = initial tasks expire task clock
  step self label next := self.Permits label.1 ∧
    Settles (fun rounds => exec rounds self label.1) (next, label.2)

theorem zeroed_start : system.start zeroed := ⟨_, _, _, _, by decide, rfl⟩

end HevTaskMachine

end ProxyVPN
