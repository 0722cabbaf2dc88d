/-
Module: ProxyVPN.Hev.TaskMachineSound
Purpose: What holds in every state that the task system reaches: its queues and
  counts are those of its tasks, no task is used after it was freed, and none
  waits for what has already happened.
Trusted boundary: none
Main exports: HevTaskMachine.Consistent
-/
import ProxyVPN.Hev.TaskMachine
import ProxyVPN.Hev.TaskScheduleSteps

namespace ProxyVPN

open Transition

namespace HevTaskSystemContext

/-- The queue of the tasks that run, and all tasks that have started and not
stopped, with their numbers. -/
structure Populated (context : HevTaskSystemContext) (ready live : List Nat) : Prop where
  ready : context.Ready ready
  distinct : live.Nodup
  started : ∀ task,
    task ∈ live ↔ context.Alive task ∧ (context.tasks task).state ≠ .stopped
  total : context.totalTaskCount = live.length

/-- Where the scheduler goes: to the first task that runs, to a poll that does not
wait when there is one, to a poll that waits when there is none, and back to its
caller when all tasks have stopped. -/
inductive Picked (ready live : List Nat) : Nat → HevTaskControl → Prop where
  | done (none : live = []) : Picked ready live 0 .resumed
  | first (task : Nat) (rest : List Nat) (queue : ready = task :: rest) :
      Picked ready live task .resumed
  | polls (current : Nat) (some : ready ≠ []) : Picked ready live current (.polling 0)
  | blocks (current : Nat) (none : ready = []) (some : live ≠ []) :
      Picked ready live current (.polling (-1))

section Populations

variable {self : HevTaskSystemContext} {ready live : List Nat} {task : Nat}

theorem Populated.mem_live (populated : self.Populated ready live) :
    ∀ other ∈ ready, other ∈ live := by
  intro other member
  obtain ⟨alive, running⟩ := (populated.ready.running other).mp member
  refine (populated.started other).mpr ⟨alive, ?_⟩
  rw [running]
  rintro ⟨⟩

theorem Populated.pickFirst (populated : self.Populated ready live) {head : Nat}
    {rest : List Nat} (queue : ready = head :: rest) :
    self.pickFirst = some ({ self with currentTask := head }, .resumed) := by
  subst queue
  have first := populated.ready.queue.first_cons
  have nonzero := populated.ready.queue.nonzero head List.mem_cons_self
  unfold HevTaskSystemContext.pickFirst
  rw [first]
  exact if_neg nonzero

/-- The scheduler finds where to go. -/
theorem Populated.pick (populated : self.Populated ready live) :
    ∃ current control,
      (if self.totalTaskCount = 0 then some ({ self with currentTask := 0 }, .resumed)
        else self.pickCurrentTask) = some ({ self with currentTask := current }, control) ∧
      Picked ready live current control := by
  have total := populated.total
  have count := populated.ready.count
  by_cases none : self.totalTaskCount = 0
  · rw [if_pos none]
    exact ⟨0, .resumed, rfl, .done (List.length_eq_zero_iff.mp (total.symm.trans none))⟩
  rw [if_neg none]
  unfold HevTaskSystemContext.pickCurrentTask
  by_cases waiting : self.runningTaskCount < self.totalTaskCount
  · rw [if_pos waiting]
    by_cases runs : self.runningTaskCount ≠ 0
    · rw [if_pos runs]
      refine ⟨self.currentTask, _, rfl, .polls _ ?_⟩
      rintro rfl
      exact runs count
    · rw [if_neg runs]
      refine ⟨self.currentTask, _, rfl, .blocks _ ?_ ?_⟩
      · exact List.length_eq_zero_iff.mp (count.symm.trans (not_not.mp runs))
      · rintro rfl
        exact none total
  · rw [if_neg waiting]
    cases queue : ready with
    | nil =>
        rw [queue] at count
        rw [count] at waiting
        exact absurd (Nat.pos_of_ne_zero none) waiting
    | cons head rest =>
        exact ⟨head, .resumed, populated.pickFirst queue, .first head rest rfl⟩

theorem Populated.withCurrent (populated : self.Populated ready live) (current : Nat) :
    ({ self with currentTask := current }).Populated ready live where
  ready :=
    { queue := populated.ready.queue
      sorted := populated.ready.sorted
      aligned := populated.ready.aligned
      running := populated.ready.running
      count := populated.ready.count }
  distinct := populated.distinct
  started := populated.started
  total := populated.total

theorem Populated.withTimer (populated : self.Populated ready live)
    (timer : HevTaskTimer) : ({ self with timer := timer }).Populated ready live where
  ready :=
    { queue := populated.ready.queue
      sorted := populated.ready.sorted
      aligned := populated.ready.aligned
      running := populated.ready.running
      count := populated.ready.count }
  distinct := populated.distinct
  started := populated.started
  total := populated.total

theorem Populated.wakes {final : HevTaskSystemContext} {later : List Nat}
    (populated : self.Populated ready live) (queue : final.Ready later)
    (wakes : self.Wakes ready final later) : final.Populated later live where
  ready := queue
  distinct := populated.distinct
  started other := by
    rw [populated.started, wakes.alive, ne_eq, ne_eq, wakes.stopped_iff]
  total := wakes.total.trans populated.total

/-- The end of a wait for the clock. -/
theorem Populated.endSleep {nodes : List Nat} {node : Nat}
    (populated : self.Populated ready live) (waits : self.timer.Waits nodes)
    (member : node ∈ nodes)
    (started : ∀ other ∈ nodes, self.Alive (self.timer.task other) ∧
      (self.tasks (self.timer.task other)).state ≠ .stopped)
    (leftmost : Bool) (now : Timespec) :
    ∃ timer final later,
      Settles (fun rounds => self.endSleep rounds node leftmost now)
        (final, HevTaskTimer.getTime now (self.timer.expire node)) ∧
      timer.Waits (nodes.erase node) ∧ timer.expire = self.timer.expire ∧
      timer.task = self.timer.task ∧ final.Ready later ∧
      ({ self with timer := timer }).Wakes ready final later ∧
      ((leftmost || node = self.timer.sortTree.first) = true →
        ∀ head rest, nodes.erase node = head :: rest →
          ¬HevTaskTimer.cmp now (timer.expire head) < 0 →
            (final.tasks (timer.task head)).state = .running) ∧
      (¬(leftmost || node = self.timer.sortTree.first) = true →
        final = { self with timer := timer }) := by
  obtain ⟨timer, ran, left, expire, task⟩ := waits.endWait member leftmost
  have same : (if node = self.timer.sortTree.first then true else leftmost) =
      (leftmost || node = self.timer.sortTree.first) := by
    by_cases first : node = self.timer.sortTree.first <;> simp [first]
  rw [same] at ran
  obtain ⟨final, later, woke, queue, wakes, first⟩ :
      ∃ final later,
        Settles (fun rounds => ({ self with timer := timer }).timerWakeupIf rounds
          (leftmost || node = self.timer.sortTree.first) now) final ∧
        final.Ready later ∧ ({ self with timer := timer }).Wakes ready final later ∧
        ((leftmost || node = self.timer.sortTree.first) = true →
          ∀ head rest, nodes.erase node = head :: rest →
            ¬HevTaskTimer.cmp now (timer.expire head) < 0 →
              (final.tasks (timer.task head)).state = .running) ∧
        (¬(leftmost || node = self.timer.sortTree.first) = true →
          final = { self with timer := timer }) := by
    unfold HevTaskSystemContext.timerWakeupIf
    by_cases checks : (leftmost || node = self.timer.sortTree.first) = true
    · simp only [if_pos checks]
      obtain ⟨final, later, woke, queue, wakes, first⟩ :=
        (populated.withTimer timer).ready.timerWakeup left now fun other inQueue => by
          show self.Alive (timer.task other) ∧ (self.tasks (timer.task other)).state ≠ _
          rw [task]
          exact started other (List.mem_of_mem_erase inQueue)
      exact ⟨final, later, woke, queue, wakes, fun _ => first, fun no => absurd checks no⟩
    · simp only [if_neg checks]
      exact ⟨_, ready, .const _, (populated.withTimer timer).ready, .refl _ ready,
        fun yes => absurd yes checks, fun _ => rfl⟩
  refine ⟨timer, final, later, ?_, left, expire, task, queue, wakes, first⟩
  have time : HevTaskTimer.getTime now (final.timer.expire node) =
      HevTaskTimer.getTime now (self.timer.expire node) := by
    rw [wakes.timer, expire]
  rw [← time]
  exact ran.bind (woke.bind (.const _))

end Populations

end HevTaskSystemContext

namespace HevTaskMachine

/-- The frames of the waiting tasks are those that the timer and the joined tasks
know of, and every task has the references it needs. -/
structure Framed (machine : HevTaskMachine) (nodes : List Nat) : Prop where
  waits : machine.context.timer.Waits nodes
  started : ∀ task frame, machine.frames task = some frame → machine.Started task
  sleeping : ∀ task node leftmost milliseconds started,
    machine.frames task = some (.wait node leftmost milliseconds started) →
      node ∈ nodes ∧ machine.context.timer.task node = task ∧
        machine.context.timer.expire node = HevTaskTimer.getExpire started milliseconds ∧
        milliseconds ≠ 0 ∧ started.Normal ∧
        started.nanoseconds ≤ machine.clock.nanoseconds
  slept : ∀ node ∈ nodes, ∃ leftmost milliseconds started,
    machine.frames (machine.context.timer.task node) =
      some (.wait node leftmost milliseconds started)
  joining : ∀ task target, machine.frames task = some (.join target) →
    machine.context.Alive target ∧ (machine.context.tasks target).joiner = task
  joined : ∀ target, machine.Started target → (machine.context.tasks target).joiner ≠ 0 →
    machine.frames (machine.context.tasks target).joiner = some (.join target)
  references : ∀ task, machine.context.Alive task →
    0 < (machine.context.tasks task).refCount ∧
      machine.needs task ≤ (machine.context.tasks task).refCount
  clock : machine.clock.Normal
  checked : machine.checked.Normal ∧ machine.checked.nanoseconds ≤ machine.clock.nanoseconds

/-- Who joins a task that has stopped runs, and so does who waits for a deadline
that was found to have passed. -/
structure Prompt (machine : HevTaskMachine) (nodes : List Nat) : Prop where
  joins : ∀ task target, machine.frames task = some (.join target) →
    (machine.context.tasks target).state = .stopped →
      (machine.context.tasks task).state = .running
  due : ∀ head rest, nodes = head :: rest →
    (machine.context.timer.expire head).nanoseconds ≤ machine.checked.nanoseconds →
      (machine.context.tasks (machine.context.timer.task head)).state = .running

/-- What holds inside of the steps, too. -/
structure Sound (machine : HevTaskMachine) (ready live nodes : List Nat) : Prop where
  populated : machine.context.Populated ready live
  framed : machine.Framed nodes
  prompt : machine.Prompt nodes

/-- The state of the task system between two steps. -/
structure Consistent (machine : HevTaskMachine) (ready live nodes : List Nat) : Prop
    extends Sound machine ready live nodes where
  resumed : machine.control = .resumed → machine.current = 0 ∨ machine.current ∈ ready
  polling : ∀ timeout, machine.control = .polling timeout →
    timeout = 0 ∧ ready ≠ [] ∨ timeout = -1 ∧ ready = [] ∧ live ≠ []

/-- Only this task has changed, and who joins it is the same. -/
structure Changes (machine next : HevTaskMachine) (task : Nat) : Prop where
  frames : next.frames = machine.frames
  clock : next.clock = machine.clock
  checked : next.checked = machine.checked
  timer : next.context.timer = machine.context.timer
  alive : ∀ other, next.context.Alive other ↔ machine.context.Alive other
  others : ∀ other ≠ task, next.context.tasks other = machine.context.tasks other
  joiner : (next.context.tasks task).joiner = (machine.context.tasks task).joiner

section Frames

variable {self next : HevTaskMachine} {ready live nodes : List Nat} {task : Nat}

theorem needs_congr (states : (next.context.tasks task).state = .stopped ↔
      (self.context.tasks task).state = .stopped)
    (joined : next.Joined task ↔ self.Joined task) : next.needs task = self.needs task := by
  unfold needs
  rw [if_congr states rfl rfl, if_congr joined rfl rfl]

theorem Changes.joiners (changes : self.Changes next task) (other : Nat) :
    (next.context.tasks other).joiner = (self.context.tasks other).joiner := by
  by_cases isTask : other = task
  · rw [isTask, changes.joiner]
  · rw [changes.others other isTask]

theorem Changes.joined (changes : self.Changes next task) (other : Nat) :
    next.Joined other ↔ self.Joined other := by
  unfold Joined
  rw [changes.joiners, changes.frames]

theorem Changes.framed (changes : self.Changes next task) (framed : self.Framed nodes)
    (runs : self.frames task ≠ none → (next.context.tasks task).state ≠ .stopped)
    (fresh : (self.context.tasks task).state = .stopped →
      (next.context.tasks task).state ≠ .stopped →
        (self.context.tasks task).joiner = 0)
    (references : self.context.Alive task → 0 < (next.context.tasks task).refCount ∧
      next.needs task ≤ (next.context.tasks task).refCount) : next.Framed nodes := by
  constructor
  case waits => rw [changes.timer]; exact framed.waits
  case started =>
    intro other frame inside
    rw [changes.frames] at inside
    obtain ⟨alive, notStopped⟩ := framed.started other frame inside
    refine ⟨(changes.alive other).mpr alive, ?_⟩
    by_cases isTask : other = task
    · rw [isTask] at inside ⊢
      exact runs (by rw [inside]; rintro ⟨⟩)
    · rwa [changes.others other isTask]
  case sleeping => rw [changes.frames, changes.timer, changes.clock]; exact framed.sleeping
  case slept => rw [changes.frames, changes.timer]; exact framed.slept
  case joining =>
    intro other target inside
    rw [changes.frames] at inside
    rw [changes.alive, changes.joiners]
    exact framed.joining other target inside
  case joined =>
    intro target starts hasJoiner
    rw [changes.joiners] at hasJoiner ⊢
    rw [changes.frames]
    refine framed.joined target ⟨(changes.alive target).mp starts.1, ?_⟩ hasJoiner
    intro stopped
    by_cases isTask : target = task
    · subst isTask
      exact hasJoiner (fresh stopped starts.2)
    · exact starts.2 (by rwa [changes.others target isTask])
  case references =>
    intro other present
    by_cases isTask : other = task
    · subst isTask
      exact references ((changes.alive other).mp present)
    · have same := changes.others other isTask
      rw [needs_congr (by rw [same]) (changes.joined other), same]
      exact framed.references other ((changes.alive other).mp present)
  case clock => rw [changes.clock]; exact framed.clock
  case checked => rw [changes.checked, changes.clock]; exact framed.checked

/-- A task that goes on running, or has no reason to run. -/
theorem Changes.prompt (changes : self.Changes next task) (prompt : self.Prompt nodes)
    (stops : (next.context.tasks task).state = .stopped →
      (self.context.tasks task).state = .stopped ∨
        ∀ other, self.frames other = some (.join task) →
          other ≠ task ∧ (self.context.tasks other).state = .running)
    (parks : (self.context.tasks task).state = .running →
      (next.context.tasks task).state = .running ∨
        (∀ target, self.frames task = some (.join target) →
          (next.context.tasks target).state ≠ .stopped) ∧
        ∀ head rest, nodes = head :: rest → self.context.timer.task head = task →
          ¬(self.context.timer.expire head).nanoseconds ≤ self.checked.nanoseconds) :
    next.Prompt nodes := by
  constructor
  case joins =>
    intro other target inside stopped
    rw [changes.frames] at inside
    have before : (self.context.tasks target).state = .stopped ∨
        target = task ∧ other ≠ task ∧ (self.context.tasks other).state = .running := by
      by_cases isTask : target = task
      · subst isTask
        rcases stops stopped with already | running
        · exact .inl already
        · exact .inr ⟨rfl, running other inside⟩
      · exact .inl (by rwa [changes.others target isTask] at stopped)
    by_cases isTask : other = task
    · subst isTask
      rcases before with already | ⟨_, apart, _⟩
      · rcases parks (prompt.joins other target inside already) with running | waits
        · exact running
        · exact absurd stopped (waits.1 target inside)
      · exact absurd rfl apart
    · rw [changes.others other isTask]
      rcases before with already | ⟨_, _, running⟩
      · exact prompt.joins other target inside already
      · exact running
  case due =>
    intro head rest queue passed
    rw [changes.timer, changes.checked] at passed
    rw [changes.timer]
    have running := prompt.due head rest queue passed
    by_cases isTask : self.context.timer.task head = task
    · rw [isTask] at running ⊢
      rcases parks running with goesOn | waits
      · exact goesOn
      · exact absurd passed (waits.2 head rest queue isTask)
    · rwa [changes.others _ isTask]

/-- The frames do not look at which of the started tasks run. -/
theorem Framed.wakes {final : HevTaskSystemContext} {later : List Nat}
    (framed : self.Framed nodes) (wakes : self.context.Wakes ready final later) :
    ({ self with context := final }).Framed nodes := by
  have started : ∀ task, ({ self with context := final }).Started task ↔
      self.Started task := fun task =>
    and_congr (wakes.alive task) (not_congr (wakes.stopped_iff task))
  have joined : ∀ task, ({ self with context := final }).Joined task ↔
      self.Joined task := by
    intro task
    show (final.tasks task).joiner ≠ 0 ∧
      self.frames (final.tasks task).joiner = some (.join task) ↔ _
    rw [wakes.joiner]
    exact Iff.rfl
  constructor
  case waits => rw [wakes.timer]; exact framed.waits
  case started =>
    intro task frame inside
    exact (started task).mpr (framed.started task frame inside)
  case sleeping => rw [wakes.timer]; exact framed.sleeping
  case slept => rw [wakes.timer]; exact framed.slept
  case joining =>
    intro task target inside
    rw [wakes.alive, wakes.joiner]
    exact framed.joining task target inside
  case joined =>
    intro target starts
    rw [wakes.joiner]
    exact framed.joined target ((started target).mp starts)
  case references =>
    intro task present
    rw [wakes.refCount, needs_congr (wakes.stopped_iff task) (joined task)]
    exact framed.references task ((wakes.alive task).mp present)
  case clock => exact framed.clock
  case checked => exact framed.checked

theorem Prompt.wakes {final : HevTaskSystemContext} {later : List Nat}
    (prompt : self.Prompt nodes) (wakes : self.context.Wakes ready final later) :
    ({ self with context := final }).Prompt nodes := by
  have running : ∀ task, (self.context.tasks task).state = .running →
      (final.tasks task).state = .running := fun task runs => by
    rwa [wakes.running task runs]
  constructor
  case joins =>
    intro task target inside stopped
    exact running task (prompt.joins task target inside
      ((wakes.stopped_iff target).mp stopped))
  case due =>
    intro head rest queue passed
    rw [wakes.timer] at passed ⊢
    exact running _ (prompt.due head rest queue passed)

theorem Sound.wakes {final : HevTaskSystemContext} {later : List Nat}
    (sound : self.Sound ready live nodes) (queue : final.Ready later)
    (wakes : self.context.Wakes ready final later) :
    ({ self with context := final }).Sound later live nodes :=
  ⟨sound.populated.wakes queue wakes, sound.framed.wakes wakes, sound.prompt.wakes wakes⟩

/-- The queue after a task that was not in it, or has left it, is the only change. -/
theorem Changes.sound {later newLive : List Nat} (changes : self.Changes next task)
    (framed : self.Framed nodes) (prompt : self.Prompt nodes)
    (populated : next.context.Populated later newLive)
    (runs : self.frames task ≠ none → (next.context.tasks task).state ≠ .stopped)
    (fresh : (self.context.tasks task).state = .stopped →
      (next.context.tasks task).state ≠ .stopped →
        (self.context.tasks task).joiner = 0)
    (references : self.context.Alive task → 0 < (next.context.tasks task).refCount ∧
      next.needs task ≤ (next.context.tasks task).refCount)
    (stops : (next.context.tasks task).state = .stopped →
      (self.context.tasks task).state = .stopped ∨
        ∀ other, self.frames other = some (.join task) →
          other ≠ task ∧ (self.context.tasks other).state = .running)
    (parks : (self.context.tasks task).state = .running →
      (next.context.tasks task).state = .running ∨
        (∀ target, self.frames task = some (.join target) →
          (next.context.tasks target).state ≠ .stopped) ∧
        ∀ head rest, nodes = head :: rest → self.context.timer.task head = task →
          ¬(self.context.timer.expire head).nanoseconds ≤ self.checked.nanoseconds) :
    next.Sound later newLive nodes :=
  ⟨populated, changes.framed framed runs fresh references,
    changes.prompt prompt stops parks⟩

theorem changes_store (this : HevTask)
    (joiner : this.joiner = (self.context.tasks task).joiner) :
    self.Changes { self with context := self.context.store task this } task where
  frames := rfl
  clock := rfl
  checked := rfl
  timer := rfl
  alive _ := Iff.rfl
  others _ apart := Function.update_of_ne apart ..
  joiner := by
    show (Function.update self.context.tasks task this task).joiner = _
    rw [Function.update_self, joiner]

/-- The references and the next priority of a task change. -/
theorem Sound.store (sound : self.Sound ready live nodes) {this : HevTask}
    (state : this.state = (self.context.tasks task).state)
    (key : this.schedKey = (self.context.tasks task).schedKey)
    (joiner : this.joiner = (self.context.tasks task).joiner)
    (some : 0 < this.refCount) (enough : self.needs task ≤ this.refCount) :
    ({ self with context := self.context.store task this }).Sound ready live nodes := by
  have changes : self.Changes { self with context := self.context.store task this } task :=
    changes_store this joiner
  have itself : (self.context.store task this).tasks task = this :=
    Function.update_self ..
  have states : ∀ other, ((self.context.store task this).tasks other).state =
      (self.context.tasks other).state := by
    intro other
    by_cases isTask : other = task
    · rw [isTask, itself, state]
    · rw [changes.others other isTask]
  refine changes.sound sound.framed sound.prompt ⟨sound.populated.ready.store_same state key,
    sound.populated.distinct, ?_, sound.populated.total⟩ ?_ ?_ ?_ ?_ ?_
  · intro other
    rw [sound.populated.started, states]
    exact Iff.rfl
  · intro inside
    rw [states]
    cases framed : self.frames task with
    | none => exact absurd framed inside
    | some frame => exact (sound.framed.started task frame framed).2
  · intro stopped runs
    rw [states] at runs
    exact absurd stopped runs
  · intro _
    rw [itself, needs_congr (by rw [states]) (changes.joined task)]
    exact ⟨some, enough⟩
  · intro stopped
    rw [states] at stopped
    exact .inl stopped
  · intro running
    rw [states]
    exact .inl running

/-- What is said of a dead task does not matter to the others. -/
theorem Sound.apart (sound : self.Sound ready live nodes) {task : Nat}
    {next : HevTaskMachine}
    (others : ∀ other ≠ task, next.context.tasks other = self.context.tasks other)
    (frames : next.frames = self.frames) (clock : next.clock = self.clock)
    (checked : next.checked = self.checked)
    (timer : next.context.timer = self.context.timer)
    (alive : ∀ other ≠ task, next.context.Alive other ↔ self.context.Alive other)
    (noFrame : self.frames task = none)
    (noJoin : ∀ other, self.frames other ≠ some (.join task))
    (stopped : (next.context.tasks task).state = .stopped)
    (references : next.context.Alive task → 0 < (next.context.tasks task).refCount ∧
      (next.context.tasks task).joiner = 0) :
    next.Framed nodes ∧ next.Prompt nodes := by
  have framed := sound.framed
  have apart : ∀ other frame, self.frames other = some frame → other ≠ task := by
    rintro other frame inside rfl
    rw [noFrame] at inside
    cases inside
  have apartTarget : ∀ other target, self.frames other = some (.join target) →
      target ≠ task := by
    rintro other target inside rfl
    exact noJoin other inside
  have apartSleeper : ∀ node ∈ nodes, self.context.timer.task node ≠ task := by
    intro node member
    obtain ⟨leftmost, milliseconds, started, inside⟩ := framed.slept node member
    exact apart _ _ inside
  have joined : ∀ other ≠ task, next.Joined other ↔ self.Joined other := by
    intro other isOther
    unfold Joined
    rw [others other isOther, frames]
  constructor
  · constructor
    case waits => rw [timer]; exact framed.waits
    case started =>
      intro other frame inside
      rw [frames] at inside
      have isOther := apart other frame inside
      obtain ⟨present, runs⟩ := framed.started other frame inside
      exact ⟨(alive other isOther).mpr present, by rwa [others other isOther]⟩
    case sleeping => rw [frames, timer, clock]; exact framed.sleeping
    case slept => rw [frames, timer]; exact framed.slept
    case joining =>
      intro other target inside
      rw [frames] at inside
      have isOther := apartTarget other target inside
      rw [alive target isOther, others target isOther]
      exact framed.joining other target inside
    case joined =>
      intro target starts hasJoiner
      have isOther : target ≠ task := by
        rintro rfl
        exact starts.2 stopped
      rw [others target isOther] at hasJoiner ⊢
      rw [frames]
      refine framed.joined target ⟨(alive target isOther).mp starts.1, ?_⟩ hasJoiner
      rw [← others target isOther]
      exact starts.2
    case references =>
      intro other present
      by_cases isTask : other = task
      · rw [isTask] at present ⊢
        obtain ⟨some, noJoiner⟩ := references present
        refine ⟨some, ?_⟩
        rw [needs, if_pos stopped, if_neg fun both : next.Joined task => both.1 noJoiner]
        exact Nat.zero_le _
      · rw [needs_congr (by rw [others other isTask]) (joined other isTask),
          others other isTask]
        exact framed.references other ((alive other isTask).mp present)
    case clock => rw [clock]; exact framed.clock
    case checked => rw [checked, clock]; exact framed.checked
  · constructor
    case joins =>
      intro other target inside stops
      rw [frames] at inside
      rw [others target (apartTarget other target inside)] at stops
      rw [others other (apart other _ inside)]
      exact sound.prompt.joins other target inside stops
    case due =>
      intro head rest queue passed
      rw [timer, checked] at passed
      rw [timer, others _ (apartSleeper head (by rw [queue]; exact List.mem_cons_self))]
      exact sound.prompt.due head rest queue passed

/-- A task is made where there was none. -/
theorem Sound.create (sound : self.Sound ready live nodes)
    (unused : self.context.runningTasks.base.Unused task) :
    ({ self with context := self.context.create task }).Sound ready live nodes := by
  have dead : ¬self.context.Alive task := by
    unfold HevTaskSystemContext.Alive
    rw [unused.1]
    rintro ⟨⟩
  have itself : (self.context.create task).tasks task = .new := Function.update_self ..
  have others : ∀ other ≠ task,
      (self.context.create task).tasks other = self.context.tasks other :=
    fun other isOther => Function.update_of_ne isOther ..
  let next := { self with context := self.context.create task }
  have changed : ∀ other ≠ task, next.context.tasks other = self.context.tasks other := others
  obtain ⟨framed, prompt⟩ := sound.apart changed rfl rfl rfl rfl
    (fun other isOther => HevTaskSystemContext.alive_create.trans (or_iff_right isOther))
    (Option.eq_none_iff_forall_ne_some.mpr fun frame inside =>
      dead (sound.framed.started task frame inside).1)
    (fun other inside => dead (sound.framed.joining other task inside).1)
    (by rw [itself]; rfl) (fun _ => by rw [itself]; exact ⟨Nat.one_pos, rfl⟩)
  refine ⟨⟨sound.populated.ready.create unused, sound.populated.distinct, ?_,
    sound.populated.total⟩, framed, prompt⟩
  intro other
  rw [sound.populated.started, HevTaskSystemContext.alive_create]
  by_cases isTask : other = task
  · rw [isTask, itself]
    exact iff_of_false (fun both => dead both.1) fun both => both.2 rfl
  · rw [others other isTask, or_iff_right isTask]

/-- A task that nobody needs is freed. -/
theorem Sound.free (sound : self.Sound ready live nodes) (alive : self.context.Alive task)
    {this : HevTask} (unneeded : self.needs task = 0)
    (state : this.state = (self.context.tasks task).state) :
    ({ self with
      context := { self.context.store task this with
        runningTasks := self.context.runningTasks.free task } }).Sound ready live nodes := by
  have stopped : (self.context.tasks task).state = .stopped := by
    by_contra runs
    unfold needs at unneeded
    rw [if_neg runs] at unneeded
    omega
  have notJoined : ¬self.Joined task := by
    intro joined
    unfold needs at unneeded
    rw [if_pos joined] at unneeded
    omega
  have notRunning : (self.context.tasks task).state ≠ .running := by
    rw [stopped]
    rintro ⟨⟩
  have itself : (self.context.store task this).tasks task = this :=
    Function.update_self ..
  have others : ∀ other ≠ task,
      (self.context.store task this).tasks other = self.context.tasks other :=
    fun other isOther => Function.update_of_ne isOther ..
  have freed (other : Nat) :=
    @HevTaskSystemContext.alive_free (self.context.store task this) task other
  have noFrame : self.frames task = none :=
    Option.eq_none_iff_forall_ne_some.mpr fun frame inside =>
      (sound.framed.started task frame inside).2 stopped
  have noJoin : ∀ other, self.frames other ≠ some (.join task) := by
    intro other inside
    obtain ⟨_, isJoiner⟩ := sound.framed.joining other task inside
    refine notJoined ⟨?_, by rwa [isJoiner]⟩
    rw [isJoiner]
    exact sound.populated.ready.nonzero (sound.framed.started other _ inside).1
  let next := { self with
    context := { self.context.store task this with
      runningTasks := self.context.runningTasks.free task } }
  have changed : ∀ other ≠ task, next.context.tasks other = self.context.tasks other := others
  obtain ⟨framed, prompt⟩ := sound.apart changed rfl rfl rfl rfl
    (fun other isOther => (freed other).trans (and_iff_left isOther))
    noFrame noJoin (by rw [itself, state, stopped])
    (fun present => absurd rfl ((freed task).mp present).2)
  refine ⟨⟨?_, sound.populated.distinct, ?_, sound.populated.total⟩, framed, prompt⟩
  · refine (sound.populated.ready.store this notRunning
      (by rw [state]; exact notRunning)).free ?_
    rw [itself, state]
    exact notRunning
  · intro other
    refine (sound.populated.started other).trans
      (Iff.trans ?_ (and_congr_left' (freed other)).symm)
    by_cases isTask : other = task
    · subst isTask
      exact iff_of_false (fun both => both.2 stopped) fun both => both.1.2 rfl
    · rw [others other isTask, and_iff_left isTask]
      exact Iff.rfl

theorem changes_of_alters {final : HevTaskSystemContext} {this : HevTask}
    (alters : self.context.Alters final task this)
    (alive : ∀ other, final.Alive other ↔ self.context.Alive other)
    (joiner : this.joiner = (self.context.tasks task).joiner) :
    self.Changes { self with context := final } task where
  frames := rfl
  clock := rfl
  checked := rfl
  timer := alters.timer
  alive := alive
  others := alters.others
  joiner := by
    show (final.tasks task).joiner = _
    rw [alters.itself, joiner]

/-- A task that has not started, or has stopped, starts. -/
theorem Sound.launch (sound : self.Sound ready live nodes)
    (alive : self.context.Alive task) (stopped : (self.context.tasks task).state = .stopped)
    (noJoiner : (self.context.tasks task).joiner = 0) :
    ∃ final later, Settles (fun rounds => self.context.run rounds task) final ∧
      ({ self with context := final }).Sound later (task :: live) nodes ∧
      later.Perm (task :: ready) ∧ final.currentTask = self.current ∧
      (self.context.Calm → final.Calm ∧ (self.current = 0 →
        self.context.Early live → final.Early (task :: live))) ∧
      (self.current ≠ 0 → self.context.Keeps ready final later) := by
  obtain ⟨final, later, ran, queue, perm, alters, same, total, calm, early, keeps⟩ :=
    sound.populated.ready.launch alive stopped
  have runs : (final.tasks task).state = .running := by
    rw [alters.itself]
    rfl
  have changes : self.Changes { self with context := final } task :=
    changes_of_alters alters same rfl
  refine ⟨final, later, ran, ?_, perm, alters.current, fun before => ⟨calm before, ?_⟩,
    keeps⟩
  case refine_2 =>
    intro notTask earlyBefore other member
    rcases List.mem_cons.mp member with rfl | inLive
    · exact ⟨runs, early notTask before⟩
    · rw [alters.others other (by
        rintro rfl
        exact ((sound.populated.started other).mp inLive).2 stopped)]
      exact earlyBefore other inLive
  refine changes.sound sound.framed sound.prompt ⟨queue, ?_, ?_, ?_⟩ ?_ ?_ ?_ ?_ ?_
  · refine List.nodup_cons.mpr ⟨fun member => ?_, sound.populated.distinct⟩
    exact ((sound.populated.started task).mp member).2 stopped
  · intro other
    rw [List.mem_cons, same]
    by_cases isTask : other = task
    · subst isTask
      rw [runs]
      exact iff_of_true (.inl rfl) ⟨alive, by rintro ⟨⟩⟩
    · rw [or_iff_right isTask, sound.populated.started, alters.others other isTask]
  · rw [total, sound.populated.total]
    rfl
  · intro _
    show (final.tasks task).state ≠ _
    rw [runs]
    rintro ⟨⟩
  · exact fun _ _ => noJoiner
  · intro _
    obtain ⟨some, _⟩ := sound.framed.references task alive
    have references : (final.tasks task).refCount =
        (self.context.tasks task).refCount := by
      rw [alters.itself]
      rfl
    have notJoined : ¬({ self with context := final }).Joined task :=
      fun joined => joined.1 ((changes.joiner).trans noJoiner)
    refine ⟨references ▸ some, ?_⟩
    rw [needs, if_neg notJoined]
    show (if (final.tasks task).state = .stopped then 0 else 1) + 0 ≤ (final.tasks task).refCount
    rw [runs, references]
    exact some
  · intro stops
    exact .inl stopped
  · intro running
    rw [stopped] at running
    cases running

/-- The current task goes behind others. -/
theorem Sound.switch (sound : self.Sound ready live nodes) (member : self.current ∈ ready) :
    ∃ final later,
      Settles (fun rounds => self.context.leaveCurrentTask rounds .switch) final ∧
      ({ self with context := final }).Sound later live nodes ∧
      self.context.Leaves ready final later := by
  obtain ⟨final, later, ran, queue, perm, alters, same, total, leaves⟩ :=
    sound.populated.ready.switch member
  obtain ⟨alive, runs⟩ := (sound.populated.ready.running self.current).mp member
  have changes : self.Changes { self with context := final } self.current :=
    changes_of_alters alters same rfl
  have state : (final.tasks self.current).state =
      (self.context.tasks self.current).state := by
    rw [current, alters.itself]
    rfl
  refine ⟨final, later, ran, ?_, leaves⟩
  refine changes.sound sound.framed sound.prompt ⟨queue, sound.populated.distinct, ?_, ?_⟩
    ?_ ?_ ?_ ?_ ?_
  · intro other
    rw [sound.populated.started, same]
    by_cases isCurrent : other = self.current
    · rw [isCurrent, state]
    · rw [alters.others other isCurrent]
  · exact total.trans sound.populated.total
  · intro _
    show (final.tasks self.current).state ≠ _
    rw [state, runs]
    rintro ⟨⟩
  · intro stopped
    rw [runs] at stopped
    cases stopped
  · intro _
    have references : (final.tasks self.current).refCount =
        (self.context.tasks self.current).refCount := by
      rw [current, alters.itself]
      rfl
    show 0 < (final.tasks self.current).refCount ∧ _ ≤ (final.tasks self.current).refCount
    rw [needs_congr (iff_of_eq (congrArg (· = _) state)) (changes.joined _), references]
    exact sound.framed.references _ alive
  · intro stopped
    change (final.tasks self.current).state = _ at stopped
    rw [state, runs] at stopped
    cases stopped
  · exact fun _ => .inl (state.trans runs)

/-- The current task waits, for something that has not happened yet. -/
theorem Sound.park (sound : self.Sound ready live nodes) (member : self.current ∈ ready)
    (joins : ∀ target, self.frames self.current = some (.join target) →
      (self.context.tasks target).state ≠ .stopped)
    (due : ∀ head rest, nodes = head :: rest →
      self.context.timer.task head = self.current →
        ¬(self.context.timer.expire head).nanoseconds ≤ self.checked.nanoseconds) :
    ∃ final,
      Settles (fun rounds => self.context.leaveCurrentTask rounds .waitio) final ∧
      ({ self with context := final }).Sound (ready.erase self.current) live nodes ∧
      self.context.Leaves ready final (ready.erase self.current) := by
  obtain ⟨final, ran, queue, alters, same, total, leaves⟩ :=
    sound.populated.ready.park member
  obtain ⟨alive, runs⟩ := (sound.populated.ready.running self.current).mp member
  have changes : self.Changes { self with context := final } self.current :=
    changes_of_alters alters same rfl
  have state : (final.tasks self.current).state = .waiting := by
    rw [current, alters.itself]
    rfl
  have stopped : ∀ other, (final.tasks other).state = .stopped ↔
      (self.context.tasks other).state = .stopped := by
    intro other
    by_cases isCurrent : other = self.current
    · rw [isCurrent, state, runs]
      exact iff_of_false (by rintro ⟨⟩) (by rintro ⟨⟩)
    · rw [alters.others other isCurrent]
  refine ⟨final, ran, ?_, leaves⟩
  refine changes.sound sound.framed sound.prompt ⟨queue, sound.populated.distinct, ?_, ?_⟩
    ?_ ?_ ?_ ?_ ?_
  · intro other
    rw [sound.populated.started, same, ne_eq, ne_eq, stopped]
  · exact total.trans sound.populated.total
  · intro _
    show (final.tasks self.current).state ≠ _
    rw [state]
    rintro ⟨⟩
  · intro already
    rw [runs] at already
    cases already
  · intro _
    have references : (final.tasks self.current).refCount =
        (self.context.tasks self.current).refCount := by
      rw [current, alters.itself]
      rfl
    show 0 < (final.tasks self.current).refCount ∧ _ ≤ (final.tasks self.current).refCount
    rw [needs_congr (stopped _) (changes.joined _), references]
    exact sound.framed.references _ alive
  · intro already
    change (final.tasks self.current).state = _ at already
    rw [state] at already
    cases already
  · intro _
    right
    refine ⟨?_, due⟩
    exact fun target inside => mt (stopped target).mp (joins target inside)

/-- The current task ends when who joins it has been woken up. -/
theorem Sound.stop (sound : self.Sound ready live nodes) (member : self.current ∈ ready)
    (noFrame : self.frames self.current = none)
    (woken : ∀ other, self.frames other = some (.join self.current) →
      (self.context.tasks other).state = .running) :
    ∃ final,
      Settles (fun rounds => self.context.leaveCurrentTask rounds .remove) final ∧
      ({ self with context := final }).Sound (ready.erase self.current)
        (live.erase self.current) nodes ∧
      self.context.Leaves ready final (ready.erase self.current) := by
  obtain ⟨final, ran, queue, alters, same, total, leaves⟩ :=
    sound.populated.ready.stop member
  obtain ⟨alive, runs⟩ := (sound.populated.ready.running self.current).mp member
  obtain ⟨some, enough⟩ := sound.framed.references self.current alive
  have itself : final.tasks self.current = self.context.ended := alters.itself
  have state : (final.tasks self.current).state = .stopped := by
    rw [itself]
    rfl
  have refCount : (final.tasks self.current).refCount =
      (self.context.tasks self.current).refCount - 1 := by
    rw [itself]
    rfl
  have needed : self.needs self.current =
      1 + (if self.Joined self.current then 1 else 0) := by
    rw [needs, if_neg (by rw [runs]; rintro ⟨⟩)]
  have started : self.current ∈ live := sound.populated.mem_live _ member
  have populated : final.Populated (ready.erase self.current)
      (live.erase self.current) := by
    refine ⟨queue, sound.populated.distinct.erase _, fun other => ?_, ?_⟩
    · rw [sound.populated.distinct.mem_erase_iff, sound.populated.started]
      by_cases isCurrent : other = self.current
      · rw [isCurrent, state]
        exact iff_of_false (fun both => both.1 rfl) fun both => both.2 rfl
      · rw [alters.others other isCurrent]
        refine ⟨fun all => ⟨(same other).mpr ⟨all.2.1, fun is => absurd is isCurrent⟩,
          all.2.2⟩, fun both => ⟨isCurrent, ((same other).mp both.1).1, both.2⟩⟩
    · rw [total, sound.populated.total, List.length_erase_of_mem started]
  refine ⟨final, ran, ?_, leaves⟩
  by_cases last : (self.context.tasks self.current).refCount - 1 ≠ 0
  · have aliveSame : ∀ other, final.Alive other ↔ self.context.Alive other := by
      intro other
      refine (same other).trans (and_iff_left ?_)
      rintro rfl
      exact last
    have changes : self.Changes { self with context := final } self.current :=
      changes_of_alters alters aliveSame rfl
    refine changes.sound sound.framed sound.prompt populated ?_ ?_ ?_ ?_ ?_
    · exact fun inside => absurd noFrame inside
    · intro stopped
      rw [runs] at stopped
      cases stopped
    · intro _
      show 0 < (final.tasks self.current).refCount ∧
        _ ≤ (final.tasks self.current).refCount
      rw [refCount, needs, if_pos state, if_congr (changes.joined _) rfl rfl]
      omega
    · refine fun _ => .inr fun other inside => ⟨?_, woken other inside⟩
      rintro rfl
      rw [noFrame] at inside
      cases inside
    · refine fun _ => .inr ⟨fun target inside => ?_, fun head rest nodesEq isHead => ?_⟩
      · rw [noFrame] at inside
        cases inside
      · obtain ⟨leftmost, milliseconds, began, inside⟩ :=
          sound.framed.slept head (by rw [nodesEq]; exact List.mem_cons_self)
        rw [isHead, noFrame] at inside
        cases inside
  · have notJoined : ¬self.Joined self.current := by
      intro joined
      rw [needed, if_pos joined] at enough
      omega
    have noJoin : ∀ other, self.frames other ≠ Option.some (.join self.current) := by
      intro other inside
      obtain ⟨_, isJoiner⟩ := sound.framed.joining other _ inside
      refine notJoined ⟨?_, by rwa [isJoiner]⟩
      rw [isJoiner]
      exact sound.populated.ready.nonzero (sound.framed.started other _ inside).1
    have apart : ({ self with context := final }).Framed nodes ∧
        ({ self with context := final }).Prompt nodes :=
      sound.apart alters.others rfl rfl rfl alters.timer
        (fun other isOther => (same other).trans
          (and_iff_left fun is => absurd is isOther)) noFrame noJoin state
        fun present => absurd (((same self.current).mp present).2 rfl) last
    exact ⟨populated, apart.1, apart.2⟩

/-- Neither the scheduler's choice nor where control is matters here. -/
theorem Sound.withCurrent (sound : self.Sound ready live nodes) (current : Nat)
    (control : HevTaskControl) :
    ({ self with
      context := { self.context with currentTask := current }
      control := control }).Sound ready live nodes where
  populated := sound.populated.withCurrent current
  framed :=
    { waits := sound.framed.waits
      started := sound.framed.started
      sleeping := sound.framed.sleeping
      slept := sound.framed.slept
      joining := sound.framed.joining
      joined := sound.framed.joined
      references := sound.framed.references
      clock := sound.framed.clock
      checked := sound.framed.checked }
  prompt := ⟨sound.prompt.joins, sound.prompt.due⟩

theorem Framed.carried (framed : self.Framed nodes) :
    ∀ node ∈ nodes, (self.context.timer.expire node).Carried := by
  intro node member
  obtain ⟨leftmost, milliseconds, started, inside⟩ := framed.slept node member
  obtain ⟨_, _, expire, _, normal, _⟩ := framed.sleeping _ _ _ _ _ inside
  rw [expire]
  exact HevTaskTimer.getExpire_carried normal

/-- A task that yields has its frame; it had none. -/
theorem needs_setFrame {frames : Nat → Option HevTaskFrame} {frame : Option HevTaskFrame}
    (noFrame : self.frames self.current = none)
    (set : frames = Function.update self.frames self.current frame)
    (noJoin : frame ≠ some (.join task)) (tasks : next.context.tasks = self.context.tasks)
    (sets : next.frames = frames) : next.needs task = self.needs task := by
  refine needs_congr (by rw [tasks]) ?_
  unfold Joined
  rw [tasks, sets, set]
  refine and_congr_right' ?_
  by_cases isCurrent : (self.context.tasks task).joiner = self.current
  · rw [isCurrent, Function.update_self, noFrame]
    exact iff_of_false noJoin (by rintro ⟨⟩)
  · rw [Function.update_of_ne isCurrent]

/-- The current task is put among those that wait for the clock. -/
theorem Sound.arm {node : Nat} {milliseconds : BitVec 32} {now : Timespec}
    (sound : self.Sound ready live nodes) (member : self.current ∈ ready)
    (noFrame : self.frames self.current = none)
    (unused : self.context.timer.sortTree.base.Unused node) (reads : self.Reads now)
    (some : milliseconds ≠ 0) :
    ∃ timer leftmost queue,
      Settles (fun rounds => self.context.startSleep rounds node milliseconds now)
        ({ self.context with timer := timer }, leftmost) ∧
      ({ self with
        context := { self.context with timer := timer }
        frames := Function.update self.frames self.current
          (Option.some (.wait node leftmost milliseconds now))
        clock := now }).Sound ready live queue ∧
      ∀ head rest, queue = head :: rest → timer.task head = self.current →
        ¬(timer.expire head).nanoseconds ≤ self.checked.nanoseconds := by
  have framed := sound.framed
  obtain ⟨timer, leftmost, front, back, ran, _, rfl, waits, expire, task⟩ :=
    framed.waits.startWait unused milliseconds self.current now
  have fresh : node ∉ front ++ back := (framed.waits.queue.allocate unused).2
  have expireNode : timer.expire node = HevTaskTimer.getExpire now milliseconds := by
    rw [expire, Function.update_self]
  have taskNode : timer.task node = self.current := by rw [task, Function.update_self]
  have expireOther : ∀ other ∈ front ++ back,
      timer.expire other = self.context.timer.expire other := by
    intro other inside
    rw [expire, Function.update_of_ne (ne_of_mem_of_not_mem inside fresh)]
  have taskOther : ∀ other ∈ front ++ back,
      timer.task other = self.context.timer.task other := by
    intro other inside
    rw [task, Function.update_of_ne (ne_of_mem_of_not_mem inside fresh)]
  have apart : ∀ other frame, self.frames other = Option.some frame →
      other ≠ self.current := by
    rintro other frame inside rfl
    rw [noFrame] at inside
    cases inside
  have mem_iff : ∀ other, other ∈ front ++ node :: back ↔
      other = node ∨ other ∈ front ++ back := fun other => by
    rw [List.perm_middle.mem_iff, List.mem_cons]
  have future : self.checked.nanoseconds < (timer.expire node).nanoseconds := by
    have late := framed.checked.2
    have later := reads.2
    have positive : 0 < milliseconds.toNat :=
      Nat.pos_of_ne_zero fun zero => some (BitVec.eq_of_toNat_eq zero)
    rw [expireNode, HevTaskTimer.getExpire_nanoseconds]
    omega
  have notDue : ∀ head rest, front ++ node :: back = head :: rest →
      timer.task head = self.current →
        ¬(timer.expire head).nanoseconds ≤ self.checked.nanoseconds := by
    intro head rest queue isCurrent
    have inside : head ∈ front ++ node :: back := by
      rw [queue]
      exact List.mem_cons_self
    rcases (mem_iff head).mp inside with rfl | old
    · exact Int.not_le.mpr future
    · obtain ⟨_, _, _, began⟩ := framed.slept head old
      rw [← taskOther head old] at began
      exact absurd isCurrent (apart _ _ began)
  let next : HevTaskMachine :=
    { self with
      context := { self.context with timer := timer }
      frames := Function.update self.frames self.current
        (Option.some (.wait node leftmost milliseconds now))
      clock := now }
  have frameCurrent : next.frames self.current =
      Option.some (.wait node leftmost milliseconds now) := Function.update_self ..
  have frameOther : ∀ other ≠ self.current, next.frames other = self.frames other :=
    fun other isOther => Function.update_of_ne isOther ..
  obtain ⟨alive, runs⟩ := (sound.populated.ready.running self.current).mp member
  refine ⟨timer, leftmost, front ++ node :: back, ran.bind (.const _),
    ⟨sound.populated.withTimer timer, ?_, ?_⟩, notDue⟩
  · constructor
    case waits => exact waits
    case started =>
      intro other frame inside
      by_cases isCurrent : other = self.current
      · rw [isCurrent]
        exact ⟨alive, by rw [runs]; rintro ⟨⟩⟩
      · exact framed.started other frame ((frameOther other isCurrent).symm.trans inside)
    case sleeping =>
      intro other otherNode otherLeftmost otherMilliseconds began inside
      by_cases isCurrent : other = self.current
      · rw [isCurrent, frameCurrent] at inside
        cases inside
        exact ⟨(mem_iff _).mpr (.inl rfl), taskNode.trans isCurrent.symm, expireNode, some,
          reads.1, Int.le_refl _⟩
      · rw [frameOther other isCurrent] at inside
        obtain ⟨old, sleeper, deadline, positive, normal, past⟩ :=
          framed.sleeping _ _ _ _ _ inside
        exact ⟨(mem_iff _).mpr (.inr old), (taskOther _ old).trans sleeper,
          (expireOther _ old).trans deadline, positive, normal,
          Int.le_trans past reads.2⟩
    case slept =>
      intro other inside
      rcases (mem_iff other).mp inside with rfl | old
      · exact ⟨leftmost, milliseconds, now, by rw [taskNode, frameCurrent]⟩
      · obtain ⟨otherLeftmost, otherMilliseconds, began, framedOther⟩ :=
          framed.slept other old
        refine ⟨otherLeftmost, otherMilliseconds, began, ?_⟩
        rw [taskOther other old, frameOther _ (apart _ _ framedOther), framedOther]
    case joining =>
      intro other target inside
      by_cases isCurrent : other = self.current
      · rw [isCurrent, frameCurrent] at inside
        cases inside
      · exact framed.joining other target ((frameOther other isCurrent).symm.trans inside)
    case joined =>
      intro target starts hasJoiner
      have inside := framed.joined target starts hasJoiner
      exact (frameOther _ (apart _ _ inside)).trans inside
    case references =>
      intro other present
      have same : next.needs other = self.needs other :=
        needs_setFrame noFrame rfl (by rintro ⟨⟩) rfl rfl
      show 0 < (self.context.tasks other).refCount ∧
        next.needs other ≤ (self.context.tasks other).refCount
      rw [same]
      exact framed.references other present
    case clock => exact reads.1
    case checked => exact ⟨framed.checked.1, Int.le_trans framed.checked.2 reads.2⟩
  · constructor
    case joins =>
      intro other target inside stopped
      by_cases isCurrent : other = self.current
      · rw [isCurrent]
        exact runs
      · exact sound.prompt.joins other target
          ((frameOther other isCurrent).symm.trans inside) stopped
    case due =>
      intro head rest queue passed
      by_cases isCurrent : timer.task head = self.current
      · exact absurd passed (notDue head rest queue isCurrent)
      · cases front with
        | nil =>
            obtain ⟨rfl, _⟩ := List.cons.inj queue
            exact absurd taskNode isCurrent
        | cons first front =>
            obtain ⟨rfl, _⟩ := List.cons.inj queue
            change (timer.expire first).nanoseconds ≤ _ at passed
            show (self.context.tasks (timer.task first)).state = _
            rw [expireOther first List.mem_cons_self] at passed
            rw [taskOther first List.mem_cons_self]
            exact sound.prompt.due first (front ++ back) rfl passed

/-- The current task is no longer among those that wait for the clock. -/
theorem Sound.disarm {node : Nat} {leftmost : Bool} {milliseconds : BitVec 32}
    {began now : Timespec} (sound : self.Sound ready live nodes)
    (inside : self.frames self.current = some (.wait node leftmost milliseconds began))
    (reads : self.Reads now) {timer : HevTaskTimer}
    (waits : timer.Waits (nodes.erase node))
    (expire : timer.expire = self.context.timer.expire)
    (task : timer.task = self.context.timer.task)
    (frames : next.frames = Function.update self.frames self.current none)
    (context : next.context = { self.context with timer := timer })
    (clock : next.clock = now)
    (checked : next.checked.Normal ∧ next.checked.nanoseconds ≤ now.nanoseconds) :
    next.Framed (nodes.erase node) ∧
      ∀ other target, next.frames other = some (.join target) →
        (next.context.tasks target).state = .stopped →
          (next.context.tasks other).state = .running := by
  have framed := sound.framed
  obtain ⟨member, sleeper, _⟩ := framed.sleeping _ _ _ _ _ inside
  have frameCurrent : next.frames self.current = none := by
    rw [frames, Function.update_self]
  have frameOther : ∀ other ≠ self.current, next.frames other = self.frames other := by
    intro other isOther
    rw [frames, Function.update_of_ne isOther]
  have apart : ∀ other frame, next.frames other = some frame → other ≠ self.current := by
    rintro other frame framedOther rfl
    rw [frameCurrent] at framedOther
    cases framedOther
  have before : ∀ other frame, next.frames other = some frame →
      self.frames other = some frame := by
    intro other frame framedOther
    rwa [← frameOther other (apart other frame framedOther)]
  have joins : ∀ other target, self.frames other = some (.join target) ↔
      next.frames other = some (.join target) := by
    intro other target
    by_cases isCurrent : other = self.current
    · rw [isCurrent, inside, frameCurrent]
      exact iff_of_false (by rintro ⟨⟩) (by rintro ⟨⟩)
    · rw [frameOther other isCurrent]
  constructor
  · constructor
    case waits => rw [context]; exact waits
    case started =>
      intro other frame framedOther
      have starts := framed.started other frame (before other frame framedOther)
      unfold Started
      rw [context]
      exact starts
    case sleeping =>
      intro other otherNode otherLeftmost otherMilliseconds otherBegan framedOther
      have isOther := apart other _ framedOther
      obtain ⟨old, otherSleeper, deadline, positive, normal, past⟩ :=
        framed.sleeping _ _ _ _ _ (before other _ framedOther)
      rw [context, clock]
      show _ ∧ timer.task otherNode = other ∧ timer.expire otherNode = _ ∧ _
      rw [task, expire]
      refine ⟨?_, otherSleeper, deadline, positive, normal, Int.le_trans past reads.2⟩
      refine (List.mem_erase_of_ne ?_).mpr old
      rintro rfl
      exact isOther (otherSleeper.symm.trans sleeper)
    case slept =>
      intro other framedOther
      have old := List.mem_of_mem_erase framedOther
      obtain ⟨otherLeftmost, otherMilliseconds, otherBegan, was⟩ := framed.slept other old
      refine ⟨otherLeftmost, otherMilliseconds, otherBegan, ?_⟩
      rw [context]
      show next.frames (timer.task other) = _
      rw [task, frameOther _ ?_, was]
      intro isCurrent
      rw [isCurrent, inside] at was
      cases was
      exact framed.waits.queue.distinct.not_mem_erase framedOther
    case joining =>
      intro other target framedOther
      rw [context]
      exact framed.joining other target ((joins other target).mpr framedOther)
    case joined =>
      intro target starts hasJoiner
      unfold Started at starts
      rw [context] at starts hasJoiner ⊢
      exact (joins _ _).mp (framed.joined target starts hasJoiner)
    case references =>
      intro other present
      have same : next.needs other = self.needs other := by
        refine needs_congr (by rw [context]) ?_
        unfold Joined
        rw [context]
        exact and_congr_right' (joins _ _).symm
      rw [same, context]
      rw [context] at present
      exact framed.references other present
    case clock => rw [clock]; exact reads.1
    case checked => rw [clock]; exact checked
  · intro other target framedOther stopped
    rw [context] at stopped ⊢
    exact sound.prompt.joins other target ((joins other target).mpr framedOther) stopped

/-- A task whose wait for the clock is over wakes up the next whose deadline has
passed, if its own may have been the first. -/
theorem Sound.awake {node : Nat} {leftmost : Bool} {milliseconds : BitVec 32}
    {began now : Timespec} (sound : self.Sound ready live nodes)
    (inside : self.frames self.current = some (.wait node leftmost milliseconds began))
    (reads : self.Reads now) :
    ∃ final later,
      Settles (fun rounds => self.context.endSleep rounds node leftmost now)
        (final, HevTaskTimer.getTime now (self.context.timer.expire node)) ∧
      ({ self.setFrame none with
        context := final
        clock := now
        checked := if leftmost || node = self.context.timer.sortTree.first then now
          else self.checked }).Sound later live (nodes.erase node) ∧
      final.currentTask = self.current ∧ self.context.Keeps ready final later ∧
      ∀ task ∈ ready, task ∈ later := by
  have framed := sound.framed
  obtain ⟨member, _⟩ := framed.sleeping _ _ _ _ _ inside
  have started : ∀ other ∈ nodes, self.context.Alive (self.context.timer.task other) ∧
      (self.context.tasks (self.context.timer.task other)).state ≠ .stopped := by
    intro other inNodes
    obtain ⟨_, _, _, slept⟩ := framed.slept other inNodes
    exact framed.started _ _ slept
  obtain ⟨timer, final, later, ran, waits, expire, task, queue, wakes, first, idle⟩ :=
    sound.populated.endSleep framed.waits member started leftmost now
  let checks := leftmost || node = self.context.timer.sortTree.first
  have checked : (if checks then now else self.checked).Normal ∧
      (if checks then now else self.checked).nanoseconds ≤ now.nanoseconds := by
    split
    · exact ⟨reads.1, Int.le_refl _⟩
    · exact ⟨framed.checked.1, Int.le_trans framed.checked.2 reads.2⟩
  let next : HevTaskMachine :=
    { self.setFrame none with
      context := { self.context with timer := timer }
      clock := now
      checked := if checks then now else self.checked }
  have disarmed : next.Framed (nodes.erase node) ∧ _ :=
    sound.disarm inside reads waits expire task rfl rfl rfl checked
  obtain ⟨framedNext, joins⟩ := disarmed
  have prompt : ({ next with context := final }).Prompt (nodes.erase node) := by
    constructor
    case joins =>
      intro other target framedOther stopped
      have running := joins other target framedOther
        ((wakes.stopped_iff target).mp stopped)
      show (final.tasks other).state = _
      rwa [wakes.running other running]
    case due =>
      intro head rest isQueue passed
      have carried := framedNext.carried head (by rw [isQueue]; exact List.mem_cons_self)
      change (final.timer.expire head).nanoseconds ≤
        (if checks then now else self.checked).nanoseconds at passed
      show (final.tasks (final.timer.task head)).state = _
      rw [wakes.timer] at passed ⊢
      by_cases looks : checks = true
      · rw [if_pos looks] at passed
        refine first looks head rest isQueue ?_
        rw [HevTaskTimer.cmp_neg_iff reads.1 carried]
        exact Int.not_lt.mpr passed
      · rw [if_neg looks] at passed
        have notFirst : node ≠ self.context.timer.sortTree.first := fun isFirst =>
          looks (Bool.or_eq_true_iff.mpr (.inr (decide_eq_true isFirst)))
        have first : nodes.head? = some head := by
          have waits := framed.waits
          cases nodes with
          | nil => cases member
          | cons front others =>
              rw [waits.queue.first_cons] at notFirst
              rw [List.erase_cons_tail (by simpa using notFirst.symm)] at isQueue
              exact congrArg some (List.cons.inj isQueue).1
        obtain ⟨others, nodesEq⟩ := List.head?_eq_some_iff.mp first
        rw [expire] at passed
        have running := sound.prompt.due head others nodesEq passed
        rw [← task] at running
        show (final.tasks (timer.task head)).state = _
        rwa [wakes.running _ running]
  exact ⟨final, later, ran, ⟨(sound.populated.withTimer timer).wakes queue wakes,
    framedNext.wakes wakes, prompt⟩, wakes.current,
    ⟨wakes.keeps.calm, wakes.keeps.front, wakes.keeps.spread⟩,
    wakes.mem (sound.populated.withTimer timer).ready queue⟩

/-- The current task has become the joiner of another, and is in this frame. -/
def asJoiner (self : HevTaskMachine) (target : Nat) (frame : Option HevTaskFrame) :
    HevTaskMachine :=
  { self with
    context := self.context.store target
      { self.context.tasks target with joiner := self.current }
    frames := Function.update self.frames self.current frame }

/-- What the current task may be in when it has become the joiner of another: it waits
for that one unless it has stopped. -/
structure WaitsFor (machine : HevTaskMachine) (target : Nat) (frame : Option HevTaskFrame) :
    Prop where
  alive : machine.context.Alive target
  noFrame : machine.frames machine.current = none
  noJoiner : (machine.context.tasks target).joiner = 0
  waits : (machine.context.tasks target).state = .stopped ∧ frame = none ∨
    (machine.context.tasks target).state ≠ .stopped ∧ frame = some (.join target)

section Joiners

variable {target : Nat} {frame : Option HevTaskFrame}

theorem asJoiner_frame :
    (self.asJoiner target frame).frames self.current = frame :=
  Function.update_self ..

theorem asJoiner_frame_of_ne (isOther : task ≠ self.current) :
    (self.asJoiner target frame).frames task = self.frames task :=
  Function.update_of_ne isOther ..

theorem asJoiner_target :
    (self.asJoiner target frame).context.tasks target =
      { self.context.tasks target with joiner := self.current } :=
  Function.update_self ..

theorem asJoiner_of_ne (isOther : task ≠ target) :
    (self.asJoiner target frame).context.tasks task = self.context.tasks task :=
  Function.update_of_ne isOther ..

/-- No task begins or stops. -/
theorem asJoiner_state (task : Nat) :
    ((self.asJoiner target frame).context.tasks task).state =
      (self.context.tasks task).state := by
  by_cases isTarget : task = target
  · rw [isTarget, asJoiner_target]
  · rw [asJoiner_of_ne isTarget]

/-- The current task has had no frame before. -/
theorem WaitsFor.apart (joins : self.WaitsFor target frame) {was : HevTaskFrame}
    (inside : self.frames task = some was) : task ≠ self.current := by
  rintro rfl
  rw [joins.noFrame] at inside
  cases inside

/-- The one frame that the current task may have now is that of the join. -/
theorem WaitsFor.frame_eq (joins : self.WaitsFor target frame) {now : HevTaskFrame}
    (inside : (self.asJoiner target frame).frames self.current = some now) :
    now = .join target ∧ (self.context.tasks target).state ≠ .stopped := by
  rw [asJoiner_frame] at inside
  rcases joins.waits with ⟨_, none⟩ | ⟨notStopped, join⟩
  · rw [none] at inside
    cases inside
  · rw [join] at inside
    cases inside
    exact ⟨rfl, notStopped⟩

/-- The other tasks are in the frames in which they were. -/
theorem asJoiner_before {now : HevTaskFrame} (isOther : task ≠ self.current)
    (inside : (self.asJoiner target frame).frames task = some now) :
    self.frames task = some now :=
  (asJoiner_frame_of_ne isOther).symm.trans inside

/-- Nobody has joined the target before. -/
theorem WaitsFor.notJoined (joins : self.WaitsFor target frame) (framed : self.Framed nodes)
    (nonzero : ∀ other, self.context.Alive other → other ≠ 0) :
    self.frames task ≠ some (.join target) := by
  intro inside
  obtain ⟨_, isJoiner⟩ := framed.joining task target inside
  rw [joins.noJoiner] at isJoiner
  exact nonzero task (framed.started task _ inside).1 isJoiner.symm

/-- The target needs one more reference, and the other tasks as many as before. -/
theorem WaitsFor.references (joins : self.WaitsFor target frame) (framed : self.Framed nodes)
    (held : self.needs target < (self.context.tasks target).refCount)
    (present : self.context.Alive task) :
    0 < ((self.asJoiner target frame).context.tasks task).refCount ∧
      (self.asJoiner target frame).needs task ≤
        ((self.asJoiner target frame).context.tasks task).refCount := by
  by_cases isTarget : task = target
  · subst isTarget
    obtain ⟨some, _⟩ := framed.references task present
    have needed : (self.asJoiner task frame).needs task ≤ self.needs task + 1 := by
      unfold needs
      rw [if_congr (by rw [asJoiner_state]) rfl rfl]
      split <;> split <;> omega
    rw [asJoiner_target]
    exact ⟨some, Nat.le_trans needed held⟩
  · have joined : (self.asJoiner target frame).Joined task ↔ self.Joined task := by
      unfold Joined
      rw [asJoiner_of_ne isTarget]
      refine and_congr_right' ?_
      by_cases isCurrent : (self.context.tasks task).joiner = self.current
      · rw [isCurrent, joins.noFrame]
        refine iff_of_false (fun inside => ?_) (by rintro ⟨⟩)
        cases (joins.frame_eq inside).1
        exact isTarget rfl
      · rw [asJoiner_frame_of_ne isCurrent]
    rw [needs_congr (by rw [asJoiner_state]) joined, asJoiner_of_ne isTarget]
    exact framed.references task present

/-- Who is in a join is the joiner of its task. -/
theorem WaitsFor.joining (joins : self.WaitsFor target frame) (framed : self.Framed nodes)
    (nonzero : ∀ other, self.context.Alive other → other ≠ 0) {joined : Nat}
    (inside : (self.asJoiner target frame).frames task = some (.join joined)) :
    self.context.Alive joined ∧
      ((self.asJoiner target frame).context.tasks joined).joiner = task := by
  by_cases isCurrent : task = self.current
  · rw [isCurrent] at inside ⊢
    cases (joins.frame_eq inside).1
    rw [asJoiner_target]
    exact ⟨joins.alive, rfl⟩
  · have before := asJoiner_before isCurrent inside
    have isOther : joined ≠ target := by
      rintro rfl
      exact joins.notJoined framed nonzero before
    rw [asJoiner_of_ne isOther]
    exact framed.joining task joined before

/-- The joiner of a task that has not stopped is in a join. -/
theorem WaitsFor.joined (joins : self.WaitsFor target frame) (framed : self.Framed nodes)
    {joined : Nat} (starts : self.Started joined)
    (hasJoiner : ((self.asJoiner target frame).context.tasks joined).joiner ≠ 0) :
    (self.asJoiner target frame).frames
      ((self.asJoiner target frame).context.tasks joined).joiner = some (.join joined) := by
  by_cases isTarget : joined = target
  · subst isTarget
    rw [asJoiner_target]
    show (self.asJoiner joined frame).frames self.current = _
    rw [asJoiner_frame]
    rcases joins.waits with ⟨stopped, _⟩ | ⟨_, join⟩
    · exact absurd stopped starts.2
    · exact join
  · rw [asJoiner_of_ne isTarget] at hasJoiner ⊢
    have inside := framed.joined joined starts hasJoiner
    rw [asJoiner_frame_of_ne (joins.apart inside), inside]

theorem Framed.asJoiner (framed : self.Framed nodes) (joins : self.WaitsFor target frame)
    (current : self.Started self.current)
    (nonzero : ∀ other, self.context.Alive other → other ≠ 0)
    (held : self.needs target < (self.context.tasks target).refCount) :
    (self.asJoiner target frame).Framed nodes := by
  have started : ∀ other, (self.asJoiner target frame).Started other ↔
      self.Started other := by
    intro other
    unfold Started
    rw [asJoiner_state]
    exact Iff.rfl
  constructor
  case waits => exact framed.waits
  case started =>
    intro other otherFrame inside
    rw [started]
    by_cases isCurrent : other = self.current
    · rw [isCurrent]
      exact current
    · exact framed.started other otherFrame (asJoiner_before isCurrent inside)
  case sleeping =>
    intro other node leftmost milliseconds began inside
    by_cases isCurrent : other = self.current
    · rw [isCurrent] at inside
      cases (joins.frame_eq inside).1
    · exact framed.sleeping other node leftmost milliseconds began
        (asJoiner_before isCurrent inside)
  case slept =>
    intro node inNodes
    obtain ⟨leftmost, milliseconds, began, inside⟩ := framed.slept node inNodes
    exact ⟨leftmost, milliseconds, began,
      (asJoiner_frame_of_ne (joins.apart inside)).trans inside⟩
  case joining => exact fun _ _ => joins.joining framed nonzero
  case joined => exact fun other starts => joins.joined framed ((started other).mp starts)
  case references => exact fun _ => joins.references framed held
  case clock => exact framed.clock
  case checked => exact framed.checked

theorem Prompt.asJoiner (prompt : self.Prompt nodes)
    (runs : (self.context.tasks self.current).state = .running) :
    (self.asJoiner target frame).Prompt nodes := by
  constructor
  case joins =>
    intro other joined inside stopped
    rw [asJoiner_state] at stopped ⊢
    by_cases isCurrent : other = self.current
    · rw [isCurrent]
      exact runs
    · exact prompt.joins other joined (asJoiner_before isCurrent inside) stopped
  case due =>
    intro head rest queue passed
    rw [asJoiner_state]
    exact prompt.due head rest queue passed

end Joiners

/-- The current task is the joiner of another, and waits for it if it has not
stopped. -/
theorem Sound.joins {target : Nat} {frame : Option HevTaskFrame}
    (sound : self.Sound ready live nodes) (member : self.current ∈ ready)
    (noFrame : self.frames self.current = none) (alive : self.context.Alive target)
    (noJoiner : (self.context.tasks target).joiner = 0)
    (held : self.needs target < (self.context.tasks target).refCount)
    (waits : (self.context.tasks target).state = .stopped ∧ frame = none ∨
      (self.context.tasks target).state ≠ .stopped ∧ frame = some (.join target)) :
    (self.asJoiner target frame).Sound ready live nodes := by
  have populated := sound.populated
  obtain ⟨present, runs⟩ := (populated.ready.running self.current).mp member
  refine ⟨⟨populated.ready.store_same rfl rfl, populated.distinct, ?_, populated.total⟩, ?_,
    sound.prompt.asJoiner runs⟩
  · intro other
    rw [populated.started, asJoiner_state]
    exact Iff.rfl
  · exact sound.framed.asJoiner ⟨alive, noFrame, noJoiner, waits⟩
      ⟨present, by rw [runs]; rintro ⟨⟩⟩ (fun _ => populated.ready.nonzero) held

/-- The task that the current one has joined has stopped. -/
theorem Sound.unjoin {target : Nat} (sound : self.Sound ready live nodes)
    (inside : self.frames self.current = some (.join target))
    (stopped : (self.context.tasks target).state = .stopped) :
    (self.setFrame none).Sound ready live nodes := by
  have framed := sound.framed
  have frameCurrent : (self.setFrame none).frames self.current = none :=
    Function.update_self ..
  have frameOther : ∀ other ≠ self.current,
      (self.setFrame none).frames other = self.frames other :=
    fun other isOther => Function.update_of_ne isOther ..
  have before : ∀ other frame, (self.setFrame none).frames other = some frame →
      other ≠ self.current ∧ self.frames other = some frame := by
    intro other frame framedOther
    by_cases isCurrent : other = self.current
    · rw [isCurrent, frameCurrent] at framedOther
      cases framedOther
    · exact ⟨isCurrent, (frameOther other isCurrent).symm.trans framedOther⟩
  refine ⟨sound.populated, ?_, ?_⟩
  · constructor
    case waits => exact framed.waits
    case started => exact fun other frame now => framed.started other frame (before _ _ now).2
    case sleeping =>
      exact fun other node leftmost milliseconds began now =>
        framed.sleeping other node leftmost milliseconds began (before _ _ now).2
    case slept =>
      intro node inNodes
      obtain ⟨leftmost, milliseconds, began, was⟩ := framed.slept node inNodes
      refine ⟨leftmost, milliseconds, began, (frameOther _ fun isCurrent => ?_).trans was⟩
      change self.context.timer.task node = _ at isCurrent
      rw [isCurrent, inside] at was
      cases was
    case joining => exact fun other joined now => framed.joining other joined (before _ _ now).2
    case joined =>
      intro joined starts hasJoiner
      have was := framed.joined joined starts hasJoiner
      refine (frameOther _ fun isCurrent => ?_).trans was
      change (self.context.tasks joined).joiner = _ at isCurrent
      rw [isCurrent, inside] at was
      cases was
      exact starts.2 stopped
    case references =>
      intro other present
      obtain ⟨some, enough⟩ := framed.references other present
      refine ⟨some, Nat.le_trans ?_ enough⟩
      have fewer : (self.setFrame none).Joined other → self.Joined other :=
        fun joined => ⟨joined.1, (before _ _ joined.2).2⟩
      unfold needs
      refine Nat.add_le_add_left ?_ _
      split
      case isTrue joined => exact Nat.le_of_eq (if_pos (fewer joined)).symm
      case isFalse => exact Nat.zero_le _
    case clock => exact framed.clock
    case checked => exact framed.checked
  · exact ⟨fun other joined now => sound.prompt.joins other joined (before _ _ now).2,
      sound.prompt.due⟩

end Frames

end HevTaskMachine

end ProxyVPN
