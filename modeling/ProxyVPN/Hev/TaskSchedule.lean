/-
Module: ProxyVPN.Hev.TaskSchedule
Purpose: The scheduler of the task system (hev-task-system-schedule.c) with the
  tasks of hev-task.c and the waits of hev-task-timer.c.  Loops over the tree of
  running tasks run in so many rounds; a use of memory that is not there and an
  `abort` have no result.
Trusted boundary: human-reviewed model
Main exports: HevTask, HevTaskSystemContext,
  HevTaskSystemContext.wakeupTaskWithContext, HevTaskSystemContext.schedule,
  HevTaskSystemContext.poll, HevTaskSystemContext.startSleep,
  HevTaskSystemContext.endSleep, HevTaskSystemContext.run
-/
import ProxyVPN.Hev.TaskTimer

namespace ProxyVPN

inductive HevTaskState where
  | stopped
  | running
  | waiting
deriving DecidableEq

/-- `struct _HevTask`; `joiner` is null when there is none. -/
structure HevTask where
  schedKey : UInt64
  joiner : Nat
  refCount : Nat
  priority : Nat
  nextPriority : Nat
  state : HevTaskState

namespace HevTask

def priorityMin : Int := 0

def priorityMax : Int := 15

def priorityDefault : Nat := 8

/-- What `hev_task_new` makes of zeroed memory. -/
def new : HevTask :=
  { schedKey := 0
    joiner := 0
    refCount := 1
    priority := 0
    nextPriority := priorityDefault
    state := .stopped }

/-- `hev_task_set_priority`. -/
def setPriority (self : HevTask) (priority : Int) : HevTask :=
  let priority :=
    if priority < priorityMin then priorityMin
    else if priority > priorityMax then priorityMax
    else priority
  { self with nextPriority := priority.toNat }

end HevTask

/-- The arguments of `hev_task_system_schedule` and of the jumps to it. -/
inductive HevTaskSched where
  | runScheduler
  | switch
  | waitio
  | remove
deriving DecidableEq

/-- Where control is: in a task (or in the program that has called no task yet),
or in the scheduler before `hev_task_system_io_poll` with a timeout. -/
inductive HevTaskControl where
  | resumed
  | polling (timeout : Int)
deriving DecidableEq

/-- `struct _HevTaskSystemContext`; a task is at the address of its node. -/
structure HevTaskSystemContext where
  totalTaskCount : Nat
  runningTaskCount : Nat
  timer : HevTaskTimer
  currentTask : Nat
  runningTasks : HevRBTreeCached
  tasks : Nat → HevTask

namespace HevTaskSystemContext

/-- The memory of a task is in use. -/
def Alive (self : HevTaskSystemContext) (task : Nat) : Prop :=
  (self.runningTasks.base.nodes task).isSome = true

instance (self : HevTaskSystemContext) (task : Nat) : Decidable (self.Alive task) :=
  inferInstanceAs (Decidable (_ = _))

def load (self : HevTaskSystemContext) (task : Nat) : Option HevTask :=
  if self.Alive task then some (self.tasks task) else none

def store (self : HevTaskSystemContext) (task : Nat) (this : HevTask) :
    HevTaskSystemContext :=
  { self with tasks := Function.update self.tasks task this }

/-- `hev_task_new` at an address. -/
def create (self : HevTaskSystemContext) (task : Nat) : HevTaskSystemContext :=
  { self.store task .new with runningTasks := self.runningTasks.allocate task }

/-- `hev_task_ref`. -/
def ref (self : HevTaskSystemContext) (task : Nat) : Option HevTaskSystemContext := do
  let this ← self.load task
  some (self.store task { this with refCount := this.refCount + 1 })

/-- `hev_task_unref`. -/
def unref (self : HevTaskSystemContext) (task : Nat) : Option HevTaskSystemContext := do
  let this ← self.load task
  let refCount := this.refCount - 1
  let self := self.store task { this with refCount := refCount }
  if refCount ≠ 0 then some self
  else some { self with runningTasks := self.runningTasks.free task }

/-- `hev_task_set_priority` of a task. -/
def setPriority (self : HevTaskSystemContext) (task : Nat) (priority : Int) :
    Option HevTaskSystemContext := do
  let this ← self.load task
  some (self.store task (this.setPriority priority))

/-- `hev_task_system_update_sched_key`; no clock is configured. -/
def updateSchedKey (self : HevTaskSystemContext) : Option HevTaskSystemContext := do
  let currTask ← self.load self.currentTask
  let runtime : UInt64 := 1
  some (self.store self.currentTask
    { currTask with
      schedKey := currTask.schedKey + runtime * UInt64.ofNat currTask.priority })

/-- `hev_task_system_get_min_sched_key`. -/
def getMinSchedKey (self : HevTaskSystemContext) : Option UInt64 :=
  let schedNode := self.runningTasks.first
  if schedNode ≠ 0 then (self.load schedNode).map HevTask.schedKey else some 0

/-- `_hev_task_system_insert_task`. -/
def insertNode (self : HevTaskSystemContext) (rounds task : Nat) :
    Option HevTaskSystemContext := do
  let this ← self.load task
  let (tree, _) ← self.runningTasks.insertWhere rounds
    (fun other => this.schedKey < (self.tasks other).schedKey) task
  some { self with runningTasks := tree }

/-- `hev_task_system_insert_task`. -/
def insertTask (self : HevTaskSystemContext) (rounds task : Nat) :
    Option HevTaskSystemContext := do
  let this ← self.load task
  let self := self.store task { this with state := .running, priority := this.nextPriority }
  let self ← self.insertNode rounds task
  some { self with runningTaskCount := self.runningTaskCount + 1 }

/-- `hev_task_system_reinsert_current_task`. -/
def reinsertCurrentTask (self : HevTaskSystemContext) (rounds : Nat) :
    Option HevTaskSystemContext := do
  let task := self.currentTask
  let this ← self.load task
  let self := self.store task { this with priority := this.nextPriority }
  let tree ← self.runningTasks.erase rounds task
  ({ self with runningTasks := tree }).insertNode rounds task

/-- `hev_task_system_remove_current_task`. -/
def removeCurrentTask (self : HevTaskSystemContext) (rounds : Nat)
    (state : HevTaskState) : Option HevTaskSystemContext := do
  let task := self.currentTask
  let this ← self.load task
  let this := { this with state := state }
  let tree ← self.runningTasks.erase rounds task
  let self :=
    { self.store task this with
      runningTasks := tree, runningTaskCount := self.runningTaskCount - 1 }
  if state = .stopped then
    ({ self with totalTaskCount := self.totalTaskCount - 1 }).unref task
  else
    some (self.store task { this with schedKey := UInt64.ofNat this.nextPriority })

/-- `hev_task_system_wakeup_task_with_context`. -/
def wakeupTaskWithContext (self : HevTaskSystemContext) (rounds task : Nat) :
    Option HevTaskSystemContext := do
  let this ← self.load task
  if this.state = .running then
    some self
  else if this.state = .stopped then
    none
  else
    let min ← self.getMinSchedKey
    (self.store task { this with schedKey := this.schedKey + min }).insertTask rounds task

/-- What `hev_task_system_run_new_task` adds to the key of a task. -/
def startKey (self : HevTaskSystemContext) : Option UInt64 :=
  if self.currentTask ≠ 0 then self.getMinSchedKey else some 0

/-- `hev_task_system_run_new_task`. -/
def runNewTask (self : HevTaskSystemContext) (rounds task : Nat) :
    Option HevTaskSystemContext := do
  let this ← self.load task
  let min ← self.startKey
  let self ← (self.store task { this with schedKey := this.schedKey + min }).insertTask
    rounds task
  some { self with totalTaskCount := self.totalTaskCount + 1 }

/-- `hev_task_run`. -/
def run (self : HevTaskSystemContext) (rounds task : Nat) :
    Option HevTaskSystemContext := do
  let this ← self.load task
  if this.state ≠ .stopped then
    some self
  else
    (self.store task
      { this with
        priority := this.nextPriority
        schedKey := UInt64.ofNat this.nextPriority }).runNewTask rounds task

/-- `hev_task_timer_wakeup`. -/
def timerWakeup (self : HevTaskSystemContext) (rounds : Nat) (curr : Timespec) :
    Option HevTaskSystemContext :=
  let node := self.timer.sortTree.first
  if node = 0 then some self
  else if HevTaskTimer.cmp curr (self.timer.expire node) < 0 then some self
  else self.wakeupTaskWithContext rounds (self.timer.task node)

/-- `hev_task_timer_wake` when the clock reads `curr`. -/
def timerWake (self : HevTaskSystemContext) (rounds : Nat) (curr : Timespec) :
    Option HevTaskSystemContext :=
  if self.timer.sortTree.first = 0 then some self else self.timerWakeup rounds curr

/-- `hev_task_system_io_poll` from where the reactor has returned these tasks. -/
def ioPoll (self : HevTaskSystemContext) (rounds : Nat) (events : List Nat)
    (curr : Timespec) : Option HevTaskSystemContext := do
  let self ← events.foldlM (fun self task => self.wakeupTaskWithContext rounds task) self
  self.timerWake rounds curr

/-- The timeout that `hev_task_system_io_poll` gives to the reactor. -/
def reactorTimeout (self : HevTaskSystemContext) (timeout : Int) (curr : Timespec) :
    Int :=
  if timeout < 0 then self.timer.getTimeout curr else timeout

/-- The end of `hev_task_system_pick_current_task`. -/
def pickFirst (self : HevTaskSystemContext) :
    Option (HevTaskSystemContext × HevTaskControl) :=
  let schedNode := self.runningTasks.first
  if schedNode = 0 then none else some ({ self with currentTask := schedNode }, .resumed)

/-- `hev_task_system_pick_current_task` up to its first poll, if it has one. -/
def pickCurrentTask (self : HevTaskSystemContext) :
    Option (HevTaskSystemContext × HevTaskControl) :=
  if self.runningTaskCount < self.totalTaskCount then
    if self.runningTaskCount ≠ 0 then some (self, .polling 0)
    else some (self, .polling (-1))
  else
    self.pickFirst

/-- One poll of `hev_task_system_pick_current_task`, up to the next. -/
def poll (self : HevTaskSystemContext) (rounds : Nat) (timeout : Int)
    (events : List Nat) (curr : Timespec) :
    Option (HevTaskSystemContext × HevTaskControl) := do
  let self ← self.ioPoll rounds events curr
  if timeout < 0 ∧ self.runningTaskCount = 0 then some (self, .polling (-1))
  else self.pickFirst

/-- What `hev_task_system_schedule` does about the current task. -/
def leaveCurrentTask (self : HevTaskSystemContext) (rounds : Nat) :
    HevTaskSched → Option HevTaskSystemContext
  | .runScheduler => some self
  | .switch => do
      let self ← self.updateSchedKey
      self.reinsertCurrentTask rounds
  | .waitio => do
      let self ← self.updateSchedKey
      self.removeCurrentTask rounds .waiting
  | .remove => self.removeCurrentTask rounds .stopped

/-- `hev_task_system_schedule` up to its first poll, if it has one. -/
def schedule (self : HevTaskSystemContext) (rounds : Nat) (type : HevTaskSched) :
    Option (HevTaskSystemContext × HevTaskControl) := do
  let self ← self.leaveCurrentTask rounds type
  if self.totalTaskCount = 0 then some ({ self with currentTask := 0 }, .resumed)
  else self.pickCurrentTask

/-- `hev_task_timer_wait` of the current task up to its yield, with its
`leftmost`. -/
def startSleep (self : HevTaskSystemContext) (rounds node : Nat)
    (milliseconds : BitVec 32) (curr : Timespec) :
    Option (HevTaskSystemContext × Bool) := do
  let (timer, leftmost) ←
    self.timer.startWait rounds node milliseconds self.currentTask curr
  some ({ self with timer := timer }, leftmost)

/-- `if (leftmost) hev_task_timer_wakeup (self, &curr);` -/
def timerWakeupIf (self : HevTaskSystemContext) (rounds : Nat) (leftmost : Bool)
    (curr : Timespec) : Option HevTaskSystemContext :=
  if leftmost then self.timerWakeup rounds curr else some self

/-- `hev_task_timer_wait` after its yield. -/
def endSleep (self : HevTaskSystemContext) (rounds node : Nat) (leftmost : Bool)
    (curr : Timespec) : Option (HevTaskSystemContext × BitVec 32) := do
  let (timer, leftmost) ← self.timer.endWait rounds node leftmost
  let self ← ({ self with timer := timer }).timerWakeupIf rounds leftmost curr
  some (self, HevTaskTimer.getTime curr (self.timer.expire node))

/-- One round of the loop of `hev_task_join`: whether the task has stopped. -/
def joinRound (self : HevTaskSystemContext) (rounds task : Nat) :
    Option (HevTaskSystemContext × Bool) := do
  let this ← self.load task
  if this.state = .stopped then
    some (self, true)
  else
    let self ← self.wakeupTaskWithContext rounds task
    some (self, false)

/-- `hev_task_executer` after the entry of the current task has returned, up to
`hev_task_system_kill_current_task`. -/
def executerEnd (self : HevTaskSystemContext) (rounds : Nat) :
    Option HevTaskSystemContext := do
  let task ← self.load self.currentTask
  if task.joiner ≠ 0 then self.wakeupTaskWithContext rounds task.joiner else some self

end HevTaskSystemContext

end ProxyVPN
