/-
Module: ProxyVPN.Hev.TaskMachineRuns
Purpose: Each step of the task system is served and leaves it consistent, so it is
  consistent in every state that it reaches.
Trusted boundary: none
Main exports: HevTaskMachine.Takes, HevTaskMachine.Advances, Consistent.step,
  consistent_of_reachable
-/
import ProxyVPN.Hev.TaskMachineSound

namespace ProxyVPN

open Transition

/-- The call gives no task the priority that never advances its key. -/
def HevTaskCall.Gentle : HevTaskCall → Prop
  | .setPriority _ priority => 1 ≤ priority
  | _ => True

instance (call : HevTaskCall) : Decidable call.Gentle :=
  match call with
  | .setPriority _ priority => inferInstanceAs (Decidable (1 ≤ priority))
  | .create _ | .ref _ | .unref _ | .run _ | .wakeup _ | .runScheduler | .yield | .waitio
  | .sleep _ _ _ | .awake _ | .join _ | .rejoin | .exit | .entryReturns | .poll _ _ =>
      inferInstanceAs (Decidable True)

/-- The call ends the turn of the current task, which has no answer yet. -/
def HevTaskCall.endsTurn : HevTaskCall → Option Int → Bool
  | .yield, _ => true
  | .waitio, _ => true
  | .exit, _ => true
  | .entryReturns, _ => true
  | .sleep _ _ _, answer => answer.isNone
  | .join _, answer => answer.isNone
  | .rejoin, answer => answer.isNone
  | _, _ => false

namespace HevTaskMachine

/-- Control is where the step begins. -/
def Takes (self : HevTaskMachine) : HevTaskCall → Prop
  | .awake _ => self.control = .resumed ∧ ∃ node leftmost milliseconds started,
      self.frames self.current = some (.wait node leftmost milliseconds started)
  | .rejoin => self.control = .resumed ∧
      ∃ task, self.frames self.current = some (.join task)
  | .poll _ _ => ∃ timeout, self.control = .polling timeout
  | _ => self.Outside

/-- Control is with the first task in the queue, or no task is left. -/
def Heads (machine : HevTaskMachine) (queue live : List Nat) : Prop :=
  machine.control = .resumed →
    machine.current = 0 ∧ live = [] ∨ ∃ rest, queue = machine.current :: rest

/-- What a step is to those in the queue: the current task goes on, the program
starts another, the scheduler picks the first task, or it does so after the current
task has had its turn. -/
inductive Advances (machine : HevTaskMachine) (ready live : List Nat) (call : HevTaskCall)
    (answer : Option Int) (next : HevTaskMachine) (queue newLive : List Nat) : Prop where
  | stays (keeps : machine.context.Keeps ready next.context queue)
      (control : next.control = machine.control) (current : next.current = machine.current)
      (same : machine.current = 0 → newLive = live) (goesOn : call.endsTurn answer = false)
  | launches (notTask : machine.current = 0) (resumed : machine.control = .resumed)
      (current : next.current = machine.current)
      (early : machine.context.Calm → next.context.Calm ∧
        (machine.context.Early live → next.context.Early newLive))
      (kept : ∀ task ∈ ready, task ∈ queue) (goesOn : call.endsTurn answer = false)
  | picks (keeps : machine.context.Keeps ready next.context queue)
      (heads : next.Heads queue newLive) (goesOn : call.endsTurn answer = false)
  | turns (middle : HevTaskSystemContext) (between : List Nat)
      (isTask : machine.current ≠ 0) (resumed : machine.control = .resumed)
      (keeps : machine.context.Keeps ready middle between) (queued : middle.Ready between)
      (current : middle.currentTask = machine.current)
      (leaves : middle.Leaves between next.context queue)
      (heads : next.Heads queue newLive) (fewer : newLive.length ≤ live.length)

section Scheduling

variable {self : HevTaskMachine} {ready live nodes : List Nat}

/-- Where the scheduler has picked its way, the task system is consistent again.
-/
theorem Consistent.of_picked {control : HevTaskControl} {current : Nat}
    (sound : self.Sound ready live nodes)
    (picked : HevTaskSystemContext.Picked ready live current control) :
    ({ self with
      context := { self.context with currentTask := current }
      control := control }).Consistent ready live nodes where
  toSound := sound.withCurrent current control
  resumed resumed := by
    cases picked with
    | done => exact .inl rfl
    | first task rest queue =>
        refine .inr ?_
        rw [queue]
        exact List.mem_cons_self
    | polls => cases resumed
    | blocks => cases resumed
  polling timeout polling := by
    cases picked with
    | done => cases polling
    | first => cases polling
    | polls _ some =>
        cases polling
        exact .inl ⟨rfl, some⟩
    | blocks _ none some =>
        cases polling
        exact .inr ⟨rfl, none, some⟩

/-- Control goes to the first task in the queue, or to a poll. -/
theorem heads_of_picked (self : HevTaskMachine) {control : HevTaskControl} {current : Nat}
    (picked : HevTaskSystemContext.Picked ready live current control) :
    ({ self with
      context := { self.context with currentTask := current }
      control := control }).Heads ready live := by
  intro resumed
  cases picked with
  | done none => exact .inl ⟨rfl, none⟩
  | first task rest queue => exact .inr ⟨rest, queue⟩
  | polls => cases resumed
  | blocks => cases resumed

/-- The scheduler finds where to go when the current task has been dealt with. -/
theorem Sound.schedule {middle : HevTaskSystemContext} {type : HevTaskSched}
    (sound : ({ self with context := middle }).Sound ready live nodes)
    (left : Settles (fun rounds => self.context.leaveCurrentTask rounds type) middle) :
    ∃ current control,
      Settles (fun rounds => self.context.schedule rounds type)
        ({ middle with currentTask := current }, control) ∧
      (self.within ({ middle with currentTask := current }, control)).Consistent
        ready live nodes ∧
      (self.within ({ middle with currentTask := current }, control)).Heads
        ready live := by
  obtain ⟨current, control, found, picked⟩ := sound.populated.pick
  exact ⟨current, control, left.bind ⟨0, fun _ _ => found⟩, .of_picked sound picked,
    heads_of_picked { self with context := middle } picked⟩

/-- The step is served, and leaves the task system consistent. -/
def Serves (self : HevTaskMachine) (ready live : List Nat) (call : HevTaskCall) : Prop :=
  ∃ next answer queue newLive nodes,
    Settles (fun rounds => exec rounds self call) (next, answer) ∧
    next.Consistent queue newLive nodes ∧
    (call.Gentle → self.Advances ready live call answer next queue newLive)

/-- A condition that holds costs no round. -/
theorem settles_guard {condition : Prop} [Decidable condition] {β : Type}
    {rest : Nat → Option β} {result : β} (holds : condition)
    (settles : Settles rest result) :
    Settles (fun rounds => (guard condition : Option Unit).bind fun _ => rest rounds)
      result := by
  unfold guard
  simp only [if_pos holds]
  exact settles

/-- Where no key changes, nobody comes before the tasks in the queue. -/
theorem keeps_of_same {context final : HevTaskSystemContext}
    (calm : context.Calm → final.Calm)
    (same : ∀ task ∈ ready,
      (final.tasks task).schedKey = (context.tasks task).schedKey) :
    context.Keeps ready final ready where
  calm := calm
  front _ _ head rest whole := by
    refine ⟨rest, whole, fun task member => ?_, ?_⟩
    · rw [← whole] at member
      exact ⟨member, same task member⟩
    · refine HevTaskSystemContext.keyCount_congr fun task member => same task ?_
      rw [whole]
      exact List.mem_cons_of_mem head member
  spread _ fits := by
    have least := HevTaskSystemContext.least_congr same
    refine ⟨?_, fun spread task member => ?_⟩
    · unfold HevTaskSystemContext.Fits
      rw [least]
      exact fits
    · rw [least, same task member]
      exact spread task member

/-- A task that goes on leaves control where it is. -/
theorem Consistent.goesOn {next : HevTaskMachine} {queue newLive newNodes : List Nat}
    (consistent : self.Consistent ready live nodes)
    (sound : next.Sound queue newLive newNodes) (outside : self.control = .resumed)
    (control : next.control = self.control) (current : next.current = self.current)
    (queued : ∀ task ∈ ready, task ∈ queue) : next.Consistent queue newLive newNodes where
  toSound := sound
  resumed _ := by
    rw [current]
    exact (consistent.resumed outside).imp_right (queued _)
  polling timeout polling := by
    rw [control, outside] at polling
    cases polling

section Steps

variable {task : Nat}

/-- A task is made in unused memory, and runs only later. -/
theorem Consistent.create (consistent : self.Consistent ready live nodes)
    (outside : self.Outside) (unused : self.context.runningTasks.base.Unused task) :
    self.Serves ready live (.create task) := by
  have fresh : task ∉ ready :=
    (consistent.populated.ready.queue.allocate unused).2
  have dead : ¬self.context.Alive task := by
    unfold HevTaskSystemContext.Alive
    rw [unused.1]
    rintro ⟨⟩
  refine ⟨_, _, ready, live, nodes, settles_guard outside (.const _),
    consistent.goesOn (consistent.toSound.create unused) outside.1 rfl rfl
      fun _ member => member,
    fun _ => .stays (keeps_of_same ?_ ?_) rfl rfl (fun _ => rfl) rfl⟩
  · intro calm other present
    show (Function.update self.context.tasks task .new other).Calm
    by_cases isTask : other = task
    · rw [isTask, Function.update_self]
      exact ⟨by decide, by rintro ⟨⟩, by rintro ⟨⟩⟩
    · rw [Function.update_of_ne isTask]
      refine calm other ?_
      exact (HevTaskSystemContext.alive_create.mp present).resolve_left isTask
  · exact fun other member => congrArg HevTask.schedKey
      (Function.update_of_ne (ne_of_mem_of_not_mem member fresh) ..)

/-- A change of one task that leaves its key alone keeps the queue. -/
theorem keeps_store {context : HevTaskSystemContext} {this : HevTask}
    (alive : context.Alive task) (calm : (context.tasks task).Calm → this.Calm)
    (key : this.schedKey = (context.tasks task).schedKey) :
    context.Keeps ready (context.store task this) ready := by
  refine keeps_of_same (fun before other present => ?_) fun other _ => ?_
  · show (Function.update context.tasks task this other).Calm
    by_cases isTask : other = task
    · rw [isTask, Function.update_self]
      exact calm (before task alive)
    · rw [Function.update_of_ne isTask]
      exact before other present
  · show (Function.update context.tasks task this other).schedKey = _
    by_cases isTask : other = task
    · rw [isTask, Function.update_self, key]
    · rw [Function.update_of_ne isTask]

/-- One more reference frees nothing. -/
theorem Consistent.ref (consistent : self.Consistent ready live nodes)
    (outside : self.Outside) (alive : self.context.Alive task) :
    self.Serves ready live (.ref task) := by
  obtain ⟨some, enough⟩ := consistent.framed.references task alive
  let this := { self.context.tasks task with
    refCount := (self.context.tasks task).refCount + 1 }
  have sound : ({ self with context := self.context.store task this }).Sound
      ready live nodes :=
    consistent.toSound.store rfl rfl rfl (Nat.succ_pos _) (Nat.le_succ_of_le enough)
  refine ⟨_, none, ready, live, nodes, settles_guard outside ⟨0, fun _ _ => ?_⟩,
    consistent.goesOn sound outside.1 rfl rfl fun _ member => member,
    fun _ => .stays (keeps_store alive (fun calm => ?_) rfl) rfl rfl (fun _ => rfl) rfl⟩
  · rw [HevTaskSystemContext.ref, HevTaskSystemContext.load_eq alive]
    rfl
  · exact ⟨calm.next, calm.running, calm.waiting⟩

/-- A priority counts from the next turn on. -/
theorem Consistent.setPriority (consistent : self.Consistent ready live nodes)
    (outside : self.Outside) (alive : self.context.Alive task) (priority : Int) :
    self.Serves ready live (.setPriority task priority) := by
  obtain ⟨some, enough⟩ := consistent.framed.references task alive
  have sound : ({ self with
      context := self.context.store task
        ((self.context.tasks task).setPriority priority) }).Sound ready live nodes :=
    consistent.toSound.store rfl rfl rfl some enough
  refine ⟨_, none, ready, live, nodes, settles_guard outside ⟨0, fun _ _ => ?_⟩,
    consistent.goesOn sound outside.1 rfl rfl fun _ member => member,
    fun gentle =>
      .stays (keeps_store alive (fun calm => ?_) rfl) rfl rfl (fun _ => rfl) rfl⟩
  · rw [HevTaskSystemContext.setPriority, HevTaskSystemContext.load_eq alive]
    rfl
  · refine ⟨?_, calm.running, calm.waiting⟩
    have positive : 1 ≤ priority := gentle
    unfold HevTask.setPriority HevTask.priorityMin HevTask.priorityMax
    dsimp only
    split
    · omega
    · split <;> omega

/-- Only references that nobody needs are given back. -/
theorem Consistent.unref (consistent : self.Consistent ready live nodes)
    (outside : self.Outside) (alive : self.context.Alive task)
    (held : self.needs task < (self.context.tasks task).refCount) :
    self.Serves ready live (.unref task) := by
  let this := { self.context.tasks task with
    refCount := (self.context.tasks task).refCount - 1 }
  by_cases last : (self.context.tasks task).refCount - 1 ≠ 0
  · have sound : ({ self with context := self.context.store task this }).Sound
        ready live nodes := consistent.toSound.store rfl rfl rfl
      (Nat.pos_of_ne_zero last) (Nat.le_sub_one_of_lt held)
    refine ⟨_, none, ready, live, nodes, settles_guard outside ⟨0, fun _ _ => ?_⟩,
      consistent.goesOn sound outside.1 rfl rfl fun _ member => member,
      fun _ => .stays (keeps_store alive (fun calm => ?_) rfl) rfl rfl (fun _ => rfl) rfl⟩
    · rw [HevTaskSystemContext.unref_eq alive, if_pos last]
      rfl
    · exact ⟨calm.next, calm.running, calm.waiting⟩
  · have unneeded : self.needs task = 0 := by omega
    have sound : ({ self with
        context := { self.context.store task this with
          runningTasks := self.context.runningTasks.free task } }).Sound ready live nodes :=
      consistent.toSound.free alive unneeded rfl
    refine ⟨_, none, ready, live, nodes, settles_guard outside ⟨0, fun _ _ => ?_⟩,
      consistent.goesOn sound outside.1 rfl rfl fun _ member => member,
      fun _ => .stays ?_ rfl rfl (fun _ => rfl) rfl⟩
    · rw [HevTaskSystemContext.unref_eq alive, if_neg last]
      rfl
    · have keeps : self.context.Keeps ready (self.context.store task this) ready :=
        keeps_store alive (fun calm => ⟨calm.next, calm.running, calm.waiting⟩) rfl
      refine ⟨fun calm other present => keeps.calm calm other ?_, keeps.front,
        keeps.spread⟩
      exact (HevTaskSystemContext.alive_free.mp present).1

/-- A task that starts is put into the queue. -/
theorem Consistent.run (consistent : self.Consistent ready live nodes)
    (outside : self.Outside) (alive : self.context.Alive task)
    (fresh : (self.context.tasks task).state = .stopped →
      (self.context.tasks task).joiner = 0) :
    self.Serves ready live (.run task) := by
  by_cases stopped : (self.context.tasks task).state = .stopped
  · obtain ⟨final, later, ran, sound, perm, current, calm, keeps⟩ :=
      consistent.toSound.launch alive stopped (fresh stopped)
    have kept : ∀ other ∈ ready, other ∈ later := fun other member =>
      perm.mem_iff.mpr (List.mem_cons_of_mem _ member)
    refine ⟨_, none, later, task :: live, nodes, settles_guard outside (ran.bind (.const _)),
      consistent.goesOn sound outside.1 rfl current kept, fun _ => ?_⟩
    by_cases isTask : self.current = 0
    · exact .launches isTask outside.1 current
        (fun before => ⟨(calm before).1, (calm before).2 isTask⟩) kept rfl
    · exact .stays (keeps isTask) rfl current (fun notTask => absurd notTask isTask) rfl
  · have ran : Settles (fun rounds => self.context.run rounds task) self.context := by
      refine HevTaskSystemContext.settles_load alive ?_
      simp only [if_pos stopped]
      exact .const _
    exact ⟨self, none, ready, live, nodes, settles_guard outside (ran.bind (.const _)),
      consistent, fun _ => .stays (.refl _ _) rfl rfl (fun _ => rfl) rfl⟩

/-- A task that waits is put back into the queue, and one that runs is left
alone. -/
theorem Consistent.wakeup (consistent : self.Consistent ready live nodes)
    (outside : self.Outside) (started : self.Started task) :
    self.Serves ready live (.wakeup task) := by
  obtain ⟨final, later, ran, queue, wakes, _⟩ :=
    consistent.populated.ready.wakeupTaskWithContext started.1 started.2
  exact ⟨_, none, later, live, nodes, settles_guard outside (ran.bind (.const _)),
    consistent.goesOn (consistent.toSound.wakes queue wakes) outside.1 rfl wakes.current
      (wakes.mem consistent.populated.ready queue),
    fun _ => .stays wakes.keeps rfl wakes.current (fun _ => rfl) rfl⟩

/-- The current task is one of those that run. -/
theorem Consistent.member (consistent : self.Consistent ready live nodes)
    (resumed : self.control = .resumed) (isTask : self.current ≠ 0) :
    self.current ∈ ready :=
  (consistent.resumed resumed).resolve_left isTask

/-- The program gives control to the scheduler until all tasks have stopped. -/
theorem Consistent.runScheduler (consistent : self.Consistent ready live nodes)
    (outside : self.Outside) : self.Serves ready live .runScheduler := by
  have left : Settles (fun rounds => self.context.leaveCurrentTask rounds .runScheduler)
      self.context := .const _
  obtain ⟨current, control, ran, next, heads⟩ := consistent.toSound.schedule left
  have keeps := HevTaskSystemContext.Keeps.refl self.context ready
  exact ⟨_, none, ready, live, nodes, settles_guard outside (ran.bind (.const _)), next,
    fun _ => .picks ⟨keeps.calm, keeps.front, keeps.spread⟩ heads rfl⟩

/-- The current task goes back into the queue by its new key. -/
theorem Consistent.yield (consistent : self.Consistent ready live nodes)
    (outside : self.Outside) (isTask : self.current ≠ 0) :
    self.Serves ready live .yield := by
  obtain ⟨final, later, left, sound, leaves⟩ :=
    consistent.toSound.switch (consistent.member outside.1 isTask)
  obtain ⟨current, control, ran, next, heads⟩ := sound.schedule left
  exact ⟨_, none, later, live, nodes, settles_guard outside (ran.bind (.const _)), next,
    fun _ => .turns self.context ready isTask outside.1 (.refl _ _)
      consistent.populated.ready rfl ⟨leaves.calm, leaves.turn⟩ heads (Nat.le_refl _)⟩

/-- No deadline is that of a task that does not wait for one. -/
theorem Sound.notSleeping (sound : self.Sound ready live nodes)
    (notWait : ∀ node leftmost milliseconds started,
      self.frames self.current ≠ some (.wait node leftmost milliseconds started)) :
    ∀ head rest, nodes = head :: rest →
      self.context.timer.task head = self.current →
        ¬(self.context.timer.expire head).nanoseconds ≤ self.checked.nanoseconds := by
  intro head rest queue isCurrent
  obtain ⟨leftmost, milliseconds, started, slept⟩ :=
    sound.framed.slept head (by rw [queue]; exact List.mem_cons_self)
  rw [isCurrent] at slept
  exact absurd slept (notWait _ _ _ _)

/-- The current task leaves the queue until it is woken up. -/
theorem Consistent.waitio (consistent : self.Consistent ready live nodes)
    (outside : self.Outside) (isTask : self.current ≠ 0) :
    self.Serves ready live .waitio := by
  obtain ⟨final, left, sound, leaves⟩ := consistent.toSound.park
    (consistent.member outside.1 isTask)
    (fun target inside => by rw [outside.2] at inside; cases inside)
    (consistent.toSound.notSleeping fun _ _ _ _ => by rw [outside.2]; rintro ⟨⟩)
  obtain ⟨current, control, ran, next, heads⟩ := sound.schedule left
  exact ⟨_, none, _, live, nodes, settles_guard outside (ran.bind (.const _)), next,
    fun _ => .turns self.context ready isTask outside.1 (.refl _ _)
      consistent.populated.ready rfl ⟨leaves.calm, leaves.turn⟩ heads (Nat.le_refl _)⟩

/-- Its deadline goes into the timer before the current task leaves the queue.
-/
theorem Consistent.sleep (consistent : self.Consistent ready live nodes)
    (outside : self.Outside) (isTask : self.current ≠ 0) {node : Nat} {now : Timespec}
    (unused : self.context.timer.sortTree.base.Unused node) (reads : self.Reads now)
    (milliseconds : BitVec 32) : self.Serves ready live (.sleep node milliseconds now) := by
  by_cases zero : milliseconds = 0
  · refine ⟨self, some 0, ready, live, nodes, settles_guard outside ?_, consistent,
      fun _ => .stays (.refl _ _) rfl rfl (fun _ => rfl) rfl⟩
    simp only [if_pos zero]
    exact .const _
  have member := consistent.member outside.1 isTask
  obtain ⟨timer, leftmost, queue, armed, sound, notDue⟩ :=
    consistent.toSound.arm member outside.2 unused reads zero
  obtain ⟨final, left, parked, leaves⟩ := sound.park member (fun target inside => by
    change Function.update self.frames self.current _ self.current = _ at inside
    rw [Function.update_self] at inside
    cases inside) notDue
  obtain ⟨current, control, ran, next, heads⟩ := parked.schedule left
  have keeps := HevTaskSystemContext.Keeps.refl self.context ready
  refine ⟨_, none, _, live, queue, settles_guard outside ?_, next,
    fun _ => .turns { self.context with timer := timer } ready isTask outside.1
      ⟨keeps.calm, keeps.front, keeps.spread⟩ sound.populated.ready rfl
      ⟨leaves.calm, leaves.turn⟩ heads (Nat.le_refl _)⟩
  simp only [if_neg zero]
  exact armed.bind (ran.bind (.const _))

theorem settles_awake {node : Nat} {leftmost : Bool} {milliseconds left : BitVec 32}
    {began now : Timespec} {final : HevTaskSystemContext} (resumed : self.control = .resumed)
    (inside : self.frames self.current = some (.wait node leftmost milliseconds began))
    (ended : Settles (fun rounds => self.context.endSleep rounds node leftmost now)
      (final, left)) :
    Settles (fun rounds => exec rounds self (.awake now))
      ({ self.setFrame none with
        context := final
        clock := now
        checked := if leftmost || node = self.context.timer.sortTree.first then now
          else self.checked }, some (left.toNat : Int)) := by
  refine settles_guard resumed ?_
  simp only [inside]
  exact ended.bind (.const _)

theorem Consistent.awake (consistent : self.Consistent ready live nodes)
    {node : Nat} {leftmost : Bool} {milliseconds : BitVec 32} {began now : Timespec}
    (resumed : self.control = .resumed)
    (inside : self.frames self.current = some (.wait node leftmost milliseconds began))
    (reads : self.Reads now) : self.Serves ready live (.awake now) := by
  obtain ⟨final, later, ran, sound, current, keeps, kept⟩ :=
    consistent.toSound.awake inside reads
  exact ⟨_, _, later, live, nodes.erase node, settles_awake resumed inside ran,
    consistent.goesOn sound resumed rfl current kept,
    fun _ => .stays keeps rfl current (fun _ => rfl) rfl⟩

/-- A task that joins another wakes it up and waits. -/
theorem Sound.joinWait
    (sound : (self.setFrame (some (.join task))).Sound ready live nodes)
    (member : self.current ∈ ready) (started : self.Started task) :
    ∃ next middle between queue,
      Settles (fun rounds => self.joinRound rounds task) (next, none) ∧
      next.Consistent queue live nodes ∧ self.context.Keeps ready middle between ∧
      middle.Ready between ∧ middle.currentTask = self.current ∧
      middle.Leaves between next.context queue ∧ next.Heads queue live := by
  obtain ⟨middle, between, woke, queue, wakes, runs⟩ :=
    sound.populated.ready.wakeupTaskWithContext started.1 started.2
  have woken := sound.wakes queue wakes
  have same : ({ self.setFrame (some (.join task)) with context := middle }).current =
      self.current := wakes.current
  have inside : ({ self.setFrame (some (.join task)) with context := middle }).frames
      middle.currentTask = some (.join task) := by
    show Function.update self.frames self.current (some (.join task)) middle.currentTask = _
    rw [wakes.current]
    exact Function.update_self ..
  obtain ⟨final, left, parked, leaves⟩ := woken.park
    (by rw [same]; exact wakes.mem sound.populated.ready queue self.current member)
    (fun target joins => by
      obtain ⟨⟩ := Option.some.inj (inside.symm.trans joins)
      show (middle.tasks task).state ≠ _
      rw [runs]
      rintro ⟨⟩)
    (woken.notSleeping fun _ _ _ _ sleeps => by
      obtain ⟨⟩ := Option.some.inj (inside.symm.trans sleeps))
  obtain ⟨current, control, ran, next, heads⟩ := parked.schedule left
  refine ⟨_, middle, between, _, ?_, next, wakes.keeps, queue, wakes.current,
    ⟨leaves.calm, leaves.turn⟩, heads⟩
  have round : Settles (fun rounds => self.context.joinRound rounds task) (middle, false) := by
    refine HevTaskSystemContext.settles_load started.1 ?_
    simp only [if_neg started.2]
    exact woke.bind (.const _)
  exact round.bind (ran.bind (.const _))

theorem settles_joined (alive : self.context.Alive task)
    (stopped : (self.context.tasks task).state = .stopped) :
    Settles (fun rounds => self.joinRound rounds task) (self.setFrame none, some 0) := by
  have round : Settles (fun rounds => self.context.joinRound rounds task)
      (self.context, true) := by
    refine HevTaskSystemContext.settles_load alive ?_
    simp only [if_pos stopped]
    exact .const _
  exact round.bind (.const _)

theorem Consistent.join (consistent : self.Consistent ready live nodes)
    (outside : self.Outside) (isTask : self.current ≠ 0) (alive : self.context.Alive task)
    (held : self.needs task < (self.context.tasks task).refCount) :
    self.Serves ready live (.join task) := by
  by_cases joined : (self.context.tasks task).joiner ≠ 0
  · refine ⟨self, some (-1), ready, live, nodes, settles_guard outside ?_, consistent,
      fun _ => .stays (.refl _ _) rfl rfl (fun _ => rfl) rfl⟩
    refine HevTaskSystemContext.settles_load alive ?_
    simp only [if_pos joined]
    exact .const _
  have member := consistent.member outside.1 isTask
  let this := { self.context.tasks task with joiner := self.current }
  let stored := { self with context := self.context.store task this }
  have itself : stored.context.tasks task = this := Function.update_self ..
  have keeps : self.context.Keeps ready stored.context ready :=
    keeps_store alive (fun calm => ⟨calm.next, calm.running, calm.waiting⟩) rfl
  have enters {answer : Option Int} {next : HevTaskMachine}
      (ran : Settles (fun rounds => stored.joinRound rounds task) (next, answer)) :
      Settles (fun rounds => exec rounds self (.join task)) (next, answer) := by
    refine settles_guard outside (HevTaskSystemContext.settles_load alive ?_)
    simp only [if_neg joined]
    exact ran
  by_cases stopped : (self.context.tasks task).state = .stopped
  · have sound : (stored.setFrame none).Sound ready live nodes :=
      consistent.toSound.joins member outside.2 alive (not_not.mp joined) held
        (.inl ⟨stopped, rfl⟩)
    have ends : Settles (fun rounds => stored.joinRound rounds task)
        (stored.setFrame none, some 0) := settles_joined alive (by rw [itself]; exact stopped)
    exact ⟨_, _, ready, live, nodes, enters ends,
      consistent.goesOn sound outside.1 rfl rfl fun _ inQueue => inQueue,
      fun _ => .stays keeps rfl rfl (fun _ => rfl) rfl⟩
  · have waits : (stored.setFrame (some (.join task))).Sound ready live nodes :=
      consistent.toSound.joins member outside.2 alive (not_not.mp joined) held
        (.inr ⟨stopped, rfl⟩)
    obtain ⟨next, middle, between, queue, ran, final, kept, queued, current, leaves, heads⟩ :=
      waits.joinWait member ⟨alive, by rw [itself]; exact stopped⟩
    exact ⟨next, none, queue, live, nodes, enters ran, final,
      fun _ => .turns middle between isTask outside.1 (keeps.trans kept) queued current
        leaves heads (Nat.le_refl _)⟩

theorem Consistent.rejoin (consistent : self.Consistent ready live nodes)
    (resumed : self.control = .resumed)
    (inside : self.frames self.current = some (.join task)) :
    self.Serves ready live .rejoin := by
  obtain ⟨alive, _⟩ := consistent.framed.joining _ _ inside
  have nonzero : self.current ≠ 0 :=
    consistent.populated.ready.nonzero (consistent.framed.started _ _ inside).1
  have member := consistent.member resumed nonzero
  have enters {answer : Option Int} {next : HevTaskMachine}
      (ran : Settles (fun rounds => self.joinRound rounds task) (next, answer)) :
      Settles (fun rounds => exec rounds self .rejoin) (next, answer) := by
    refine settles_guard resumed ?_
    simp only [inside]
    exact ran
  by_cases stopped : (self.context.tasks task).state = .stopped
  · exact ⟨_, _, ready, live, nodes, enters (settles_joined alive stopped),
      consistent.goesOn (consistent.toSound.unjoin inside stopped) resumed rfl rfl
        fun _ inQueue => inQueue, fun _ => .stays (.refl _ _) rfl rfl (fun _ => rfl) rfl⟩
  · have same : self.setFrame (some (.join task)) = self := by
      unfold setFrame
      rw [← inside, Function.update_eq_self]
    obtain ⟨next, middle, between, queue, ran, final, kept, queued, current, leaves, heads⟩ :=
      Sound.joinWait (by rw [same]; exact consistent.toSound) member ⟨alive, stopped⟩
    exact ⟨next, none, queue, live, nodes, enters ran, final,
      fun _ => .turns middle between nonzero resumed kept queued current leaves heads
        (Nat.le_refl _)⟩

/-- The current task is removed when who joins it has been woken up. -/
theorem Consistent.removed (consistent : self.Consistent ready live nodes)
    (outside : self.Outside) (isTask : self.current ≠ 0)
    {middle : HevTaskSystemContext} {between : List Nat} (queue : middle.Ready between)
    (wakes : self.context.Wakes ready middle between)
    (woken : ∀ other, self.frames other = some (.join self.current) →
      (middle.tasks other).state = .running) :
    ∃ next left newLive,
      Settles (fun rounds => (middle.schedule rounds .remove).bind fun result =>
        some (self.within result, (none : Option Int))) (next, none) ∧
      next.Consistent left newLive nodes ∧
      ∀ call, self.Advances ready live call none next left newLive := by
  have member := consistent.member outside.1 isTask
  have sound := consistent.toSound.wakes queue wakes
  have same : ({ self with context := middle }).current = self.current := wakes.current
  obtain ⟨final, left, stopped, leaves⟩ := sound.stop
    (by rw [same]; exact wakes.mem consistent.populated.ready queue self.current member)
    (by rw [same]; exact outside.2)
    (by rw [same]; exact woken)
  obtain ⟨current, control, ran, next, heads⟩ := stopped.schedule left
  exact ⟨_, _, _, ran.bind (.const _), next,
    fun _ => .turns middle between isTask outside.1 wakes.keeps queue wakes.current
      ⟨leaves.calm, leaves.turn⟩ heads List.length_erase_le⟩

/-- A task that nobody joins may leave from anywhere. -/
theorem Consistent.exit (consistent : self.Consistent ready live nodes)
    (outside : self.Outside) (isTask : self.current ≠ 0)
    (unjoined : ¬self.Joined self.current) : self.Serves ready live .exit := by
  have nobody : ∀ other, self.frames other ≠ some (.join self.current) := by
    intro other joins
    obtain ⟨_, joiner⟩ := consistent.framed.joining other self.current joins
    apply unjoined
    unfold Joined
    rw [joiner]
    exact ⟨consistent.populated.ready.nonzero (consistent.framed.started _ _ joins).1,
      joins⟩
  obtain ⟨next, left, newLive, ran, final, advances⟩ :=
    consistent.removed outside isTask consistent.populated.ready (.refl _ _)
      fun other joins => absurd joins (nobody other)
  exact ⟨next, none, left, newLive, nodes, settles_guard outside ran, final,
    fun _ => advances _⟩

/-- A task whose entry has returned wakes up who joins it, and is removed. -/
theorem Consistent.entryReturns (consistent : self.Consistent ready live nodes)
    (outside : self.Outside) (isTask : self.current ≠ 0) :
    self.Serves ready live .entryReturns := by
  have member := consistent.member outside.1 isTask
  obtain ⟨alive, runs⟩ := (consistent.populated.ready.running self.current).mp member
  have started : self.Started self.current := ⟨alive, by rw [runs]; rintro ⟨⟩⟩
  obtain ⟨middle, between, ended, queue, wakes, woken⟩ :
      ∃ middle between,
        Settles (fun rounds => self.context.executerEnd rounds) middle ∧
        middle.Ready between ∧ self.context.Wakes ready middle between ∧
        ((self.context.tasks self.current).joiner ≠ 0 →
          (middle.tasks (self.context.tasks self.current).joiner).state = .running) := by
    unfold HevTaskSystemContext.executerEnd
    by_cases joined : (self.context.tasks self.context.currentTask).joiner ≠ 0
    · have joins := consistent.framed.joined self.current started joined
      obtain ⟨present, notStopped⟩ := consistent.framed.started _ _ joins
      obtain ⟨middle, between, woke, queue, wakes, runs⟩ :=
        consistent.populated.ready.wakeupTaskWithContext present notStopped
      refine ⟨middle, between, HevTaskSystemContext.settles_load alive ?_, queue, wakes,
        fun _ => runs⟩
      simp only [if_pos joined]
      exact woke
    · refine ⟨self.context, ready, HevTaskSystemContext.settles_load alive ?_,
        consistent.populated.ready, .refl _ _, fun joins => absurd joins joined⟩
      simp only [if_neg joined]
      exact .const _
  have wokenJoiner : ∀ other, self.frames other = some (.join self.current) →
      (middle.tasks other).state = .running := by
    intro other joins
    obtain ⟨_, joiner⟩ := consistent.framed.joining other self.current joins
    have nonzero : other ≠ 0 :=
      consistent.populated.ready.nonzero (consistent.framed.started _ _ joins).1
    rw [← joiner] at nonzero
    rw [← joiner]
    exact woken nonzero
  obtain ⟨next, left, newLive, ran, final, advances⟩ :=
    consistent.removed outside isTask queue wakes wokenJoiner
  exact ⟨next, none, left, newLive, nodes, settles_guard outside (ended.bind ran), final,
    fun _ => advances _⟩

/-- A time is read after the deadlines that have passed were looked for. -/
theorem Sound.tick {now : Timespec} (sound : self.Sound ready live nodes)
    (reads : self.Reads now)
    (due : ∀ head rest, nodes = head :: rest →
      (self.context.timer.expire head).nanoseconds ≤ now.nanoseconds →
        (self.context.tasks (self.context.timer.task head)).state = .running) :
    ({ self with clock := now, checked := now }).Sound ready live nodes where
  populated := sound.populated
  framed :=
    { waits := sound.framed.waits
      started := sound.framed.started
      sleeping := fun task node leftmost milliseconds started inside => by
        obtain ⟨member, sleeper, expire, some, normal, before⟩ :=
          sound.framed.sleeping task node leftmost milliseconds started inside
        exact ⟨member, sleeper, expire, some, normal, Int.le_trans before reads.2⟩
      slept := sound.framed.slept
      joining := sound.framed.joining
      joined := sound.framed.joined
      references := sound.framed.references
      clock := reads.1
      checked := ⟨reads.1, Int.le_refl _⟩ }
  prompt := ⟨sound.prompt.joins, due⟩

theorem timerWake_eq {context : HevTaskSystemContext} (rounds : Nat) (curr : Timespec) :
    context.timerWake rounds curr = context.timerWakeup rounds curr := by
  unfold HevTaskSystemContext.timerWake HevTaskSystemContext.timerWakeup
  dsimp only
  by_cases none : context.timer.sortTree.first = 0
  · rw [if_pos none, if_pos none]
  · rw [if_neg none]

/-- A poll wakes up the tasks of the events and the one whose deadline has passed. -/
theorem Sound.ioPoll {events : List Nat} {now : Timespec}
    (sound : self.Sound ready live nodes) (started : ∀ task ∈ events, self.Started task)
    (reads : self.Reads now) :
    ∃ final later,
      Settles (fun rounds => self.context.ioPoll rounds events now) final ∧
      ({ self with context := final, clock := now, checked := now }).Sound
        later live nodes ∧
      self.context.Wakes ready final later := by
  obtain ⟨middle, between, woke, queue, wakes⟩ :=
    sound.populated.ready.wakeAll started
  have woken := sound.wakes queue wakes
  obtain ⟨final, later, checked, queueFinal, wakesFirst, first⟩ :=
    queue.timerWakeup woken.framed.waits now fun node member => by
      obtain ⟨_, _, _, slept⟩ := woken.framed.slept node member
      exact woken.framed.started _ _ slept
  have final := woken.wakes queueFinal wakesFirst
  refine ⟨_, later, ?_, final.tick reads fun head rest isQueue passed => ?_,
    wakes.trans wakesFirst⟩
  · refine woke.bind ?_
    simp only [timerWake_eq]
    exact checked
  · have carried := final.framed.carried head (by rw [isQueue]; exact List.mem_cons_self)
    have timer := wakesFirst.timer
    simp only [timer] at passed carried ⊢
    refine first head rest isQueue ?_
    rw [HevTaskTimer.cmp_neg_iff reads.1 carried]
    exact Int.not_lt.mpr passed

theorem Consistent.poll {events : List Nat} {now : Timespec} {timeout : Int}
    (consistent : self.Consistent ready live nodes) (polls : self.control = .polling timeout)
    (started : ∀ task ∈ events, self.Started task) (reads : self.Reads now) :
    self.Serves ready live (.poll events now) := by
  obtain ⟨final, later, ran, sound, wakes⟩ := consistent.toSound.ioPoll started reads
  have kept := wakes.mem consistent.populated.ready sound.populated.ready
  have keeps : self.context.Keeps ready final later := wakes.keeps
  have enters {result : HevTaskSystemContext × HevTaskControl}
      (ends : (if timeout < 0 ∧ final.runningTaskCount = 0 then
        some (final, .polling (-1)) else final.pickFirst) = some result) :
      Settles (fun rounds => exec rounds self (.poll events now))
        ({ self.within result with clock := now, checked := now }, none) := by
    have polled : Settles (fun rounds => self.context.poll rounds timeout events now)
        result := ran.bind ⟨0, fun _ _ => ends⟩
    unfold exec
    simp only [polls]
    exact polled.bind (.const _)
  have count : final.runningTaskCount = later.length := sound.populated.ready.count
  by_cases blocks : timeout < 0 ∧ final.runningTaskCount = 0
  · have none : later = [] := List.length_eq_zero_iff.mp (count.symm.trans blocks.2)
    have some : live ≠ [] := by
      rcases consistent.polling timeout polls with ⟨zero, _⟩ | ⟨_, _, some⟩
      · rw [zero] at blocks
        exact absurd blocks.1 (by decide)
      · exact some
    have picked := HevTaskSystemContext.Picked.blocks final.currentTask none some
    exact ⟨_, _, later, live, nodes, enters (if_pos blocks), .of_picked sound picked,
      fun _ => .picks ⟨keeps.calm, keeps.front, keeps.spread⟩
        (heads_of_picked { self with context := final } picked) rfl⟩
  · cases isQueue : later with
    | nil =>
        subst isQueue
        refine absurd ?_ blocks
        rcases consistent.polling timeout polls with ⟨_, some⟩ | ⟨negative, _⟩
        · obtain ⟨task, member⟩ := List.exists_mem_of_ne_nil ready some
          exact absurd (kept task member) List.not_mem_nil
        · exact ⟨by rw [negative]; decide, count⟩
    | cons head rest =>
        have picked : HevTaskSystemContext.Picked later live head .resumed :=
          .first head rest isQueue
        have found : final.pickFirst = some ({ final with currentTask := head }, .resumed) :=
          sound.populated.pickFirst isQueue
        have next := Consistent.of_picked sound picked
        have heads := heads_of_picked { self with context := final } picked
        rw [isQueue] at next heads keeps
        exact ⟨_, _, head :: rest, live, nodes, enters ((if_neg blocks).trans found), next,
          fun _ => .picks ⟨keeps.calm, keeps.front, keeps.spread⟩ heads rfl⟩

/-- Each step that control takes and that is permitted is served. -/
theorem Consistent.step {call : HevTaskCall} (consistent : self.Consistent ready live nodes)
    (permits : self.Permits call) (takes : self.Takes call) : self.Serves ready live call := by
  cases call with
  | create task => exact consistent.create takes permits
  | ref task => exact consistent.ref takes permits
  | unref task => exact consistent.unref takes permits.1 permits.2
  | setPriority task priority => exact consistent.setPriority takes permits priority
  | run task => exact consistent.run takes permits.1 permits.2
  | wakeup task => exact consistent.wakeup takes permits
  | runScheduler => exact consistent.runScheduler takes
  | yield => exact consistent.yield takes permits
  | waitio => exact consistent.waitio takes permits
  | sleep node milliseconds now =>
      exact consistent.sleep takes permits.1 permits.2.1 permits.2.2 milliseconds
  | awake now =>
      obtain ⟨resumed, node, leftmost, milliseconds, started, inside⟩ := takes
      exact consistent.awake resumed inside permits
  | join task => exact consistent.join takes permits.1 permits.2.1 permits.2.2
  | rejoin =>
      obtain ⟨resumed, task, inside⟩ := takes
      exact consistent.rejoin resumed inside
  | exit => exact consistent.exit takes permits.1 permits.2
  | entryReturns => exact consistent.entryReturns takes permits
  | poll events now =>
      obtain ⟨timeout, polls⟩ := takes
      exact consistent.poll polls permits.1 permits.2

end Steps

theorem of_guard {condition : Prop} [Decidable condition] {β : Type}
    {rest : Unit → Option β} {result : β}
    (ran : (guard condition : Option Unit).bind rest = some result) :
    condition ∧ rest () = some result := by
  unfold guard at ran
  by_cases holds : condition
  · rw [if_pos holds] at ran
    exact ⟨holds, ran⟩
  · rw [if_neg holds] at ran
    cases ran

theorem outside_of_guard {β : Type} {rest : Unit → Option β} {result : β}
    (ran : (guard self.Outside : Option Unit).bind rest = some result) : self.Outside :=
  (of_guard ran).1

/-- Only steps that control takes have a result. -/
theorem takes_of_exec {rounds : Nat} {call : HevTaskCall}
    {result : HevTaskMachine × Option Int} (ran : exec rounds self call = some result) :
    self.Takes call := by
  cases call with
  | awake now =>
      obtain ⟨resumed, ran⟩ := of_guard ran
      refine ⟨resumed, ?_⟩
      cases inside : self.frames self.current with
      | none => simp [inside] at ran
      | some frame =>
          cases frame with
          | wait node leftmost milliseconds started => exact ⟨_, _, _, _, rfl⟩
          | join task => simp [inside] at ran
  | rejoin =>
      obtain ⟨resumed, ran⟩ := of_guard ran
      refine ⟨resumed, ?_⟩
      cases inside : self.frames self.current with
      | none => simp [inside] at ran
      | some frame =>
          cases frame with
          | wait node leftmost milliseconds started => simp [inside] at ran
          | join task => exact ⟨_, rfl⟩
  | poll events now =>
      cases polls : self.control with
      | resumed => simp [exec, polls] at ran
      | polling timeout => exact ⟨timeout, polls⟩
  | _ => exact outside_of_guard ran

theorem takes_of_settles {call : HevTaskCall} {result : HevTaskMachine × Option Int}
    (ran : Settles (fun rounds => exec rounds self call) result) : self.Takes call := by
  obtain ⟨enough, settles⟩ := ran
  exact takes_of_exec (settles enough (Nat.le_refl _))

theorem Serves.of_step {call : HevTaskCall} {answer : Option Int} {next : HevTaskMachine}
    (serves : self.Serves ready live call)
    (ran : Settles (fun rounds => exec rounds self call) (next, answer)) :
    ∃ queue newLive nodes, next.Consistent queue newLive nodes ∧
      (call.Gentle → self.Advances ready live call answer next queue newLive) := by
  obtain ⟨other, given, queue, newLive, nodes, settles, rest⟩ := serves
  obtain ⟨⟩ := settles.unique ran
  exact ⟨queue, newLive, nodes, rest⟩

end Scheduling

theorem initial_consistent {tasks : Nat → HevTask} {expire : Nat → Timespec}
    {task : Nat → Nat} {clock : Timespec} (normal : clock.Normal) :
    (initial tasks expire task clock).Consistent [] [] [] where
  populated :=
    { ready :=
        { queue := HevRBTreeCached.empty_queue rfl
          sorted := .nil
          aligned := by rintro task ⟨⟩
          running := fun task => iff_of_false List.not_mem_nil (by rintro ⟨⟨⟩, _⟩)
          count := rfl }
      distinct := .nil
      started := fun task => iff_of_false List.not_mem_nil (by rintro ⟨⟨⟩, _⟩)
      total := rfl }
  framed :=
    { waits := ⟨HevRBTreeCached.empty_queue rfl, .nil⟩
      started := by rintro task frame ⟨⟩
      sleeping := by rintro task node leftmost milliseconds started ⟨⟩
      slept := by rintro node ⟨⟩
      joining := by rintro task target ⟨⟩
      joined := by rintro target ⟨⟨⟩, _⟩
      references := by rintro task ⟨⟩
      clock := normal
      checked := ⟨normal, Int.le_refl _⟩ }
  prompt := ⟨by rintro task target ⟨⟩, by rintro head rest ⟨⟩⟩
  resumed _ := .inl rfl
  polling := by rintro timeout ⟨⟩

theorem consistent_invariant :
    Invariant system fun self => ∃ ready live nodes, self.Consistent ready live nodes where
  initial self started := by
    obtain ⟨tasks, expire, task, clock, normal, rfl⟩ := started
    exact ⟨[], [], [], initial_consistent normal⟩
  preserved self label next invariant taken := by
    obtain ⟨ready, live, nodes, consistent⟩ := invariant
    obtain ⟨permits, ran⟩ := taken
    obtain ⟨queue, later, pending, final, _⟩ :=
      (consistent.step permits (takes_of_settles ran)).of_step ran
    exact ⟨queue, later, pending, final⟩

theorem consistent_of_reachable {self : HevTaskMachine}
    (reached : system.Reachable self) :
    ∃ ready live nodes, self.Consistent ready live nodes :=
  consistent_invariant.reachable reached

end HevTaskMachine

end ProxyVPN
