/-
Module: ProxyVPN.Hev.TaskScheduleSteps
Purpose: What each function of the scheduler does to the queue of the running
  tasks.
Trusted boundary: none
Main exports: Ready, Wakes, Leaves, Ready.wakeupTaskWithContext, Ready.run,
  Ready.switch, Ready.park, Ready.stop, Ready.timerWakeup
-/
import ProxyVPN.Hev.TaskSchedule

namespace ProxyVPN

/-- What `hev_task_system_insert_task` makes of a task. -/
def HevTask.queued (self : HevTask) : HevTask :=
  { self with state := .running, priority := self.nextPriority }

/-- The task does not have the priority that never advances its key. -/
structure HevTask.Calm (task : HevTask) : Prop where
  next : 1 ≤ task.nextPriority ∧ task.nextPriority ≤ 15
  running : task.state = .running → 1 ≤ task.priority ∧ task.priority ≤ 15
  waiting : task.state = .waiting →
    1 ≤ task.schedKey.toNat ∧ task.schedKey.toNat ≤ 15

namespace HevTaskSystemContext

/-- The tree of running tasks holds these, in the order of their keys. -/
structure Lined (context : HevTaskSystemContext) (ready : List Nat) : Prop where
  queue : context.runningTasks.Queue ready
  sorted : ready.Pairwise fun front back =>
    (context.tasks front).schedKey ≤ (context.tasks back).schedKey
  aligned : ∀ task, context.Alive task → task % 4 = 0

/-- The tree of running tasks holds exactly the tasks that are running, and their
number is right. -/
structure Ready (context : HevTaskSystemContext) (ready : List Nat) : Prop
    extends Lined context ready where
  running : ∀ task,
    task ∈ ready ↔ context.Alive task ∧ (context.tasks task).state = .running
  count : context.runningTaskCount = ready.length

section Trees

variable {self : HevTaskSystemContext} {ready : List Nat} {task : Nat}

theorem load_eq (alive : self.Alive task) : self.load task = some (self.tasks task) :=
  if_pos alive

theorem settles_load {β : Type} {rest : Nat → HevTask → Option β} {result : β}
    (alive : self.Alive task)
    (settles : Settles (fun rounds => rest rounds (self.tasks task)) result) :
    Settles (fun rounds => (self.load task).bind (rest rounds)) result := by
  have loaded : Settles (fun _ => self.load task) (self.tasks task) :=
    ⟨0, fun _ _ => load_eq alive⟩
  exact loaded.bind settles

theorem Lined.alive (lined : self.Lined ready) : ∀ other ∈ ready, self.Alive other :=
  lined.queue.isSome

theorem Lined.null (lined : self.Lined ready) : ¬self.Alive 0 := by
  rw [Alive, lined.queue.null]
  rintro ⟨⟩

theorem Lined.nonzero (lined : self.Lined ready) (alive : self.Alive task) : task ≠ 0 := by
  rintro rfl
  exact lined.null alive

/-- What is said of a task that is not in the queue does not matter to it. -/
theorem Lined.store (lined : self.Lined ready) (outside : task ∉ ready)
    (this : HevTask) : (self.store task this).Lined ready where
  queue := lined.queue
  sorted := by
    refine lined.sorted.imp_of_mem fun {front back} inFront inBack less => ?_
    show (Function.update self.tasks task this front).schedKey ≤
      (Function.update self.tasks task this back).schedKey
    rwa [Function.update_of_ne (ne_of_mem_of_not_mem inFront outside),
      Function.update_of_ne (ne_of_mem_of_not_mem inBack outside)]
  aligned := lined.aligned

/-- A task is inserted behind those whose key is not larger. -/
theorem Lined.insertNode (lined : self.Lined ready) (alive : self.Alive task)
    (outside : task ∉ ready) :
    ∃ tree front back,
      Settles (fun rounds => self.insertNode rounds task)
        { self with runningTasks := tree } ∧
      ready = front ++ back ∧
      (∀ other ∈ back, (self.tasks task).schedKey < (self.tasks other).schedKey) ∧
      ({ self with runningTasks := tree }).Lined (front ++ task :: back) ∧
      ∀ other, ({ self with runningTasks := tree }).Alive other ↔ self.Alive other := by
  have directed : ready.Pairwise fun front back =>
      decide ((self.tasks task).schedKey < (self.tasks front).schedKey) = true →
        decide ((self.tasks task).schedKey < (self.tasks back).schedKey) = true := by
    refine lined.sorted.imp fun {front back} less => ?_
    rw [decide_eq_true_iff, decide_eq_true_iff]
    exact fun before => UInt64.lt_of_lt_of_le before less
  obtain ⟨tree, leftmost, front, back, wrote, _, rfl, early, late, queue, elsewhere⟩ :=
    lined.queue.settles_insert directed alive outside (lined.aligned task alive)
  have same : ∀ other, ({ self with runningTasks := tree }).Alive other ↔
      self.Alive other := by
    intro other
    by_cases inside : other ∈ front ++ task :: back
    · refine iff_of_true (queue.isSome other inside) ?_
      rcases List.mem_append.mp inside with inFront | inBack
      · exact lined.alive other (List.mem_append_left _ inFront)
      · rcases List.mem_cons.mp inBack with rfl | inBack
        · exact alive
        · exact lined.alive other (List.mem_append_right _ inBack)
    · show (tree.base.nodes other).isSome = true ↔ _
      rw [elsewhere other inside]
      exact Iff.rfl
  have after : ∀ other ∈ back,
      (self.tasks task).schedKey < (self.tasks other).schedKey :=
    fun other member => of_decide_eq_true (late other member)
  refine ⟨tree, front, back, ?_, rfl, after, ⟨queue, ?_, ?_⟩, same⟩
  · exact settles_load alive (wrote.bind (.const _))
  · have sorted := lined.sorted
    rw [List.pairwise_append] at sorted ⊢
    refine ⟨sorted.1, List.pairwise_cons.mpr
      ⟨fun other member => UInt64.le_of_lt (after other member), sorted.2.1⟩, ?_⟩
    intro other member later inside
    rcases List.mem_cons.mp inside with rfl | inBack
    · exact UInt64.not_lt.mp (of_decide_eq_false (early other member))
    · exact sorted.2.2 other member later inBack
  · exact fun other present => lined.aligned other ((same other).mp present)

/-- A task is erased, whatever else has become of it. -/
theorem Lined.erase (lined : self.Lined ready) (member : task ∈ ready) (this : HevTask) :
    ∃ tree, Settles (fun rounds => self.runningTasks.erase rounds task) tree ∧
      ({ self.store task this with runningTasks := tree }).Lined (ready.erase task) ∧
      ∀ other, ({ self.store task this with runningTasks := tree }).Alive other ↔
        self.Alive other := by
  obtain ⟨tree, ran, queue, elsewhere⟩ := lined.queue.settles_erase member
  have outside : task ∉ ready.erase task := lined.queue.distinct.not_mem_erase
  have same : ∀ other, ({ self.store task this with runningTasks := tree }).Alive other ↔
      self.Alive other := by
    intro other
    by_cases inside : other ∈ ready.erase task
    · exact iff_of_true (queue.isSome other inside)
        (lined.alive other (List.mem_of_mem_erase inside))
    · show (tree.base.nodes other).isSome = true ↔ _
      rw [elsewhere other inside]
      exact Iff.rfl
  refine ⟨tree, ran, ⟨queue, ?_, ?_⟩, same⟩
  · refine (lined.sorted.sublist List.erase_sublist).imp_of_mem
      fun {front back} inFront inBack less => ?_
    show (Function.update self.tasks task this front).schedKey ≤
      (Function.update self.tasks task this back).schedKey
    rwa [Function.update_of_ne (ne_of_mem_of_not_mem inFront outside),
      Function.update_of_ne (ne_of_mem_of_not_mem inBack outside)]
  · exact fun other present => lined.aligned other ((same other).mp present)

end Trees

/-- The context in which one task and the tree of running tasks have changed. -/
def placed (self : HevTaskSystemContext) (task : Nat) (this : HevTask)
    (tree : HevRBTreeCached) (count : Nat) : HevTaskSystemContext :=
  { self.store task this with runningTasks := tree, runningTaskCount := count }

/-- The key of the first task in the queue. -/
def least (self : HevTaskSystemContext) : List Nat → UInt64
  | [] => 0
  | head :: _ => (self.tasks head).schedKey

/-- What `hev_task_system_wakeup_task_with_context` makes of a waiting task. -/
def woken (self : HevTaskSystemContext) (ready : List Nat) (task : Nat) : HevTask :=
  { (self.tasks task).queued with
    schedKey := (self.tasks task).schedKey + self.least ready }

section Running

variable {self : HevTaskSystemContext} {ready : List Nat} {task : Nat}

/-- A task that runs is in the queue. -/
theorem Ready.mem (queue : self.Ready ready) (alive : self.Alive task)
    (running : (self.tasks task).state = .running) : task ∈ ready :=
  (queue.running task).mpr ⟨alive, running⟩

theorem Ready.notMem (queue : self.Ready ready)
    (notRunning : (self.tasks task).state ≠ .running) : task ∉ ready :=
  fun member => notRunning ((queue.running task).mp member).2

/-- A task that was not in the queue is inserted and runs. -/
theorem Ready.insertTask (queue : self.Ready ready) (alive : self.Alive task)
    (notRunning : (self.tasks task).state ≠ .running) :
    ∃ tree front back,
      Settles (fun rounds => self.insertTask rounds task)
        (self.placed task (self.tasks task).queued tree (self.runningTaskCount + 1)) ∧
      ready = front ++ back ∧
      (∀ other ∈ back, (self.tasks task).schedKey < (self.tasks other).schedKey) ∧
      (self.placed task (self.tasks task).queued tree (self.runningTaskCount + 1)).Ready
        (front ++ task :: back) ∧
      ∀ other, (tree.base.nodes other).isSome = true ↔ self.Alive other := by
  have outside := queue.notMem notRunning
  obtain ⟨tree, front, back, wrote, rfl, late, lined, same⟩ :=
    (queue.store outside (self.tasks task).queued).insertNode alive outside
  have stored : (self.store task (self.tasks task).queued).tasks task =
      (self.tasks task).queued := Function.update_self ..
  have others : ∀ other ≠ task,
      (self.store task (self.tasks task).queued).tasks other = self.tasks other :=
    fun other apart => Function.update_of_ne apart ..
  refine ⟨tree, front, back, settles_load alive (wrote.bind (.const _)), rfl, ?_,
    ⟨⟨lined.queue, lined.sorted, lined.aligned⟩, ?_, ?_⟩, same⟩
  · intro other member
    have early := late other member
    rwa [stored, others other (ne_of_mem_of_not_mem (List.mem_append_right _ member) outside)]
      at early
  · intro other
    show _ ↔ (tree.base.nodes other).isSome = true ∧
      ((self.store task (self.tasks task).queued).tasks other).state = .running
    rw [List.perm_middle.mem_iff, List.mem_cons]
    by_cases isTask : other = task
    · subst isTask
      rw [stored]
      exact iff_of_true (.inl rfl) ⟨(same other).mpr alive, rfl⟩
    · rw [others other isTask, or_iff_right isTask, queue.running]
      exact and_congr_left' (same other).symm
  · show self.runningTaskCount + 1 = _
    rw [queue.count, List.perm_middle.length_eq]
    rfl

/-- The least key, which the queue has at its front. -/
theorem Lined.getMinSchedKey (lined : self.Lined ready) :
    self.getMinSchedKey = some (self.least ready) := by
  unfold HevTaskSystemContext.getMinSchedKey
  dsimp only
  cases ready with
  | nil => rw [lined.queue.first_eq_zero.mpr rfl]; rfl
  | cons head rest =>
      have alive := lined.alive head List.mem_cons_self
      rw [lined.queue.first_cons, if_pos (lined.nonzero alive), load_eq alive]
      rfl

/-- A task that is not running and does not become so may change. -/
theorem Ready.store (queue : self.Ready ready) (this : HevTask)
    (notRunning : (self.tasks task).state ≠ .running) (remains : this.state ≠ .running) :
    (self.store task this).Ready ready where
  toLined := queue.toLined.store (queue.notMem notRunning) this
  running other := by
    rw [queue.running]
    refine and_congr_right' ?_
    show _ ↔ (Function.update self.tasks task this other).state = .running
    by_cases isTask : other = task
    · rw [isTask, Function.update_self]
      exact iff_of_false notRunning remains
    · rw [Function.update_of_ne isTask]
  count := queue.count

/-- The last of two writes counts. -/
theorem store_store (this later : HevTask) :
    (self.store task this).store task later = self.store task later := by
  unfold HevTaskSystemContext.store
  rw [Function.update_idem]

/-- The least key is one of those in the queue. -/
theorem least_store {this : HevTask} (outside : task ∉ ready) :
    (self.store task this).least ready = self.least ready := by
  cases ready with
  | nil => rfl
  | cons head rest =>
      refine congrArg HevTask.schedKey (Function.update_of_ne ?_ ..)
      rintro rfl
      exact outside List.mem_cons_self

theorem placed_store (this later : HevTask) (tree : HevRBTreeCached) (count : Nat) :
    (self.store task this).placed task later tree count =
      self.placed task later tree count := by
  unfold placed HevTaskSystemContext.store
  rw [Function.update_idem]

/-- A waiting task that is woken up is inserted with the least key added to its own. -/
theorem Ready.wakeup_waiting (queue : self.Ready ready) (alive : self.Alive task)
    (waiting : (self.tasks task).state = .waiting) :
    ∃ tree front back,
      Settles (fun rounds => self.wakeupTaskWithContext rounds task)
        (self.placed task (self.woken ready task) tree (self.runningTaskCount + 1)) ∧
      ready = front ++ back ∧
      (∀ other ∈ back, (self.woken ready task).schedKey < (self.tasks other).schedKey) ∧
      (self.placed task (self.woken ready task) tree (self.runningTaskCount + 1)).Ready
        (front ++ task :: back) ∧
      ∀ other, (tree.base.nodes other).isSome = true ↔ self.Alive other := by
  have notRunning : (self.tasks task).state ≠ .running := by
    rw [waiting]
    rintro ⟨⟩
  have notStopped : (self.tasks task).state ≠ .stopped := by
    rw [waiting]
    rintro ⟨⟩
  let keyed := { self.tasks task with
    schedKey := (self.tasks task).schedKey + self.least ready }
  have stored : (self.store task keyed).tasks task = keyed := Function.update_self ..
  obtain ⟨tree, front, back, wrote, rfl, late, final, same⟩ :=
    (queue.store keyed notRunning notRunning).insertTask alive
      (by rw [stored]; exact notRunning)
  rw [stored, placed_store] at wrote final
  refine ⟨tree, front, back, ?_, rfl, ?_, final, same⟩
  · refine settles_load alive ?_
    simp only [if_neg notRunning, if_neg notStopped, queue.getMinSchedKey]
    exact wrote
  · intro other member
    have outside := queue.notMem notRunning
    have early := late other member
    rwa [stored, show (self.store task keyed).tasks other = self.tasks other from
      Function.update_of_ne
        (ne_of_mem_of_not_mem (List.mem_append_right _ member) outside) ..] at early

end Running

/-- No task has the priority that never advances its key. -/
def Calm (self : HevTaskSystemContext) : Prop :=
  ∀ task, self.Alive task → (self.tasks task).Calm

/-- There is room for more keys after the least. -/
def Fits (self : HevTaskSystemContext) (ready : List Nat) : Prop :=
  (self.least ready).toNat + 16 ≤ 2 ^ 64

/-- No key is far from the least. -/
def Spread (self : HevTaskSystemContext) (ready : List Nat) : Prop :=
  ∀ task ∈ ready, (self.tasks task).schedKey.toNat ≤ (self.least ready).toNat + 15

/-- None of these tasks has had a turn. -/
def Early (self : HevTaskSystemContext) (live : List Nat) : Prop :=
  ∀ task ∈ live,
    (self.tasks task).state = .running ∧ (self.tasks task).schedKey.toNat ≤ 15

/-- The tasks with a key. -/
def keyCount (self : HevTaskSystemContext) (key : UInt64) (tasks : List Nat) : Nat :=
  tasks.countP fun task => (self.tasks task).schedKey == key

/-- Nobody has come before the tasks in the queue, or beside the first. -/
structure Keeps (context : HevTaskSystemContext) (ready : List Nat)
    (final : HevTaskSystemContext) (queue : List Nat) : Prop where
  calm : context.Calm → final.Calm
  front : context.Calm → context.Fits ready → ∀ head rest, ready = head :: rest →
    ∃ later, queue = head :: later ∧
      (∀ task ∈ head :: rest, task ∈ queue ∧
        (final.tasks task).schedKey = (context.tasks task).schedKey) ∧
      final.keyCount (context.tasks head).schedKey later =
        context.keyCount (context.tasks head).schedKey rest
  spread : context.Calm → context.Fits ready →
    final.Fits queue ∧ (context.Spread ready → final.Spread queue)

/-- Some waiting tasks have been woken up, and nothing else has changed. -/
structure Wakes (context : HevTaskSystemContext) (ready : List Nat)
    (final : HevTaskSystemContext) (queue : List Nat) : Prop where
  timer : final.timer = context.timer
  total : final.totalTaskCount = context.totalTaskCount
  current : final.currentTask = context.currentTask
  alive : ∀ task, final.Alive task ↔ context.Alive task
  running : ∀ task, (context.tasks task).state = .running →
    final.tasks task = context.tasks task
  waiting : ∀ task, (final.tasks task).state = .waiting →
    final.tasks task = context.tasks task
  stopped_iff : ∀ task, (final.tasks task).state = .stopped ↔
    (context.tasks task).state = .stopped
  joiner : ∀ task, (final.tasks task).joiner = (context.tasks task).joiner
  refCount : ∀ task, (final.tasks task).refCount = (context.tasks task).refCount
  keeps : context.Keeps ready final queue

section Waking

variable {self context : HevTaskSystemContext} {ready : List Nat} {task : Nat}

theorem Keeps.refl (context : HevTaskSystemContext) (ready : List Nat) :
    context.Keeps ready context ready where
  calm := id
  front _ _ head rest whole :=
    ⟨rest, whole, fun _ member => ⟨by rwa [whole], rfl⟩, rfl⟩
  spread _ fits := ⟨fits, id⟩

/-- What two steps keep, both keep together. -/
theorem Keeps.trans {middle final : HevTaskSystemContext} {between queue : List Nat}
    (first : context.Keeps ready middle between)
    (second : middle.Keeps between final queue) : context.Keeps ready final queue where
  calm calm := second.calm (first.calm calm)
  front calm fits head rest whole := by
    obtain ⟨between, rfl, kept, counted⟩ := first.front calm fits head rest whole
    have sameKey := (kept head List.mem_cons_self).2
    obtain ⟨later, rfl, keptLater, countedLater⟩ :=
      second.front (first.calm calm) (first.spread calm fits).1 head between rfl
    rw [sameKey] at countedLater
    refine ⟨later, rfl, fun task member => ?_, countedLater.trans counted⟩
    obtain ⟨inBetween, same⟩ := kept task member
    obtain ⟨inLater, sameLater⟩ := keptLater task inBetween
    exact ⟨inLater, sameLater.trans same⟩
  spread calm fits := by
    obtain ⟨fitsBetween, spread⟩ := first.spread calm fits
    obtain ⟨fitsFinal, spreadLater⟩ := second.spread (first.calm calm) fitsBetween
    exact ⟨fitsFinal, spreadLater ∘ spread⟩

theorem Wakes.refl (context : HevTaskSystemContext) (ready : List Nat) :
    context.Wakes ready context ready where
  timer := rfl
  total := rfl
  current := rfl
  alive _ := Iff.rfl
  running _ _ := rfl
  waiting _ _ := rfl
  stopped_iff _ := Iff.rfl
  joiner _ := rfl
  refCount _ := rfl
  keeps := .refl context ready

theorem Wakes.trans {middle final : HevTaskSystemContext} {between queue : List Nat}
    (first : context.Wakes ready middle between)
    (second : middle.Wakes between final queue) : context.Wakes ready final queue where
  timer := second.timer.trans first.timer
  total := second.total.trans first.total
  current := second.current.trans first.current
  alive task := (second.alive task).trans (first.alive task)
  running task runs := by
    have same := first.running task runs
    exact (second.running task (by rwa [same])).trans same
  waiting task waits := by
    have same := second.waiting task waits
    exact same.trans (first.waiting task (by rwa [← same]))
  stopped_iff task := (second.stopped_iff task).trans (first.stopped_iff task)
  joiner task := (second.joiner task).trans (first.joiner task)
  refCount task := (second.refCount task).trans (first.refCount task)
  keeps := first.keeps.trans second.keeps

/-- Who runs goes on. -/
theorem Wakes.mem {final : HevTaskSystemContext} {later : List Nat}
    (wakes : context.Wakes ready final later) (known : context.Ready ready)
    (queue : final.Ready later) : ∀ task ∈ ready, task ∈ later := by
  intro task member
  obtain ⟨present, runs⟩ := (known.running task).mp member
  exact queue.mem ((wakes.alive task).mpr present) (by rwa [wakes.running task runs])

theorem keyCount_perm {key : UInt64} {tasks others : List Nat}
    (perm : List.Perm tasks others) : self.keyCount key tasks = self.keyCount key others :=
  perm.countP_eq _

theorem keyCount_cons_of_ne {key : UInt64} {tasks : List Nat}
    (apart : (self.tasks task).schedKey ≠ key) :
    self.keyCount key (task :: tasks) = self.keyCount key tasks :=
  List.countP_cons_of_neg (by simpa using apart)

theorem keyCount_congr {final : HevTaskSystemContext} {key : UInt64} {tasks : List Nat}
    (same : ∀ other ∈ tasks,
      (final.tasks other).schedKey = (self.tasks other).schedKey) :
    final.keyCount key tasks = self.keyCount key tasks :=
  List.countP_congr fun other member => by rw [same other member]

theorem least_congr {final : HevTaskSystemContext} (same : ∀ other ∈ ready,
    (final.tasks other).schedKey = (self.tasks other).schedKey) :
    final.least ready = self.least ready := by
  cases ready with
  | nil => rfl
  | cons head rest => exact same head List.mem_cons_self

/-- A task with a larger key than the least is not put before the first. -/
theorem behind_of_insert {this : HevTask} {front back : List Nat}
    (late : ∀ other ∈ back, this.schedKey < (self.tasks other).schedKey)
    (larger : self.least (front ++ back) < this.schedKey) :
    front = [] ∧ back = [] ∨ ∃ head rest, front = head :: rest := by
  cases front with
  | cons head rest => exact .inr ⟨head, rest, rfl⟩
  | nil =>
      cases back with
      | nil => exact .inl ⟨rfl, rfl⟩
      | cons head rest =>
          exact absurd (late head List.mem_cons_self) (UInt64.lt_asymm larger)

/-- A task that comes with a larger key than the least keeps the queue. -/
theorem keeps_insert {tree : HevRBTreeCached} {count : Nat} {this : HevTask}
    {front back : List Nat} (outside : task ∉ front ++ back)
    (late : ∀ other ∈ back, this.schedKey < (self.tasks other).schedKey)
    (same : ∀ other, (tree.base.nodes other).isSome = true ↔ self.Alive other)
    (calm : self.Calm → this.Calm)
    (larger : self.Calm → self.Fits (front ++ back) →
      self.least (front ++ back) < this.schedKey ∧
        this.schedKey.toNat ≤ (self.least (front ++ back)).toNat + 15) :
    self.Keeps (front ++ back) (self.placed task this tree count)
      (front ++ task :: back) := by
  have itself : (self.placed task this tree count).tasks task = this :=
    Function.update_self ..
  have others : ∀ other ∈ front ++ back,
      (self.placed task this tree count).tasks other = self.tasks other :=
    fun other member => Function.update_of_ne (ne_of_mem_of_not_mem member outside) ..
  refine ⟨fun calmBefore other present => ?_, fun calmBefore fits head rest whole => ?_,
    fun calmBefore fits => ?_⟩
  · show (Function.update self.tasks task this other).Calm
    by_cases isTask : other = task
    · rw [isTask, Function.update_self]
      exact calm calmBefore
    · rw [Function.update_of_ne isTask]
      exact calmBefore other ((same other).mp present)
  · obtain ⟨rfl, rfl⟩ | ⟨first, before, rfl⟩ :=
      behind_of_insert late (larger calmBefore fits).1
    · cases whole
    obtain ⟨rfl, rfl⟩ := List.cons.inj whole
    have notLeast : ((self.placed task this tree count).tasks task).schedKey ≠
        (self.tasks first).schedKey := by
      rw [itself]
      exact (UInt64.ne_of_lt (larger calmBefore fits).1).symm
    refine ⟨before ++ task :: back, rfl, fun other member => ⟨?_, ?_⟩, ?_⟩
    · rw [List.perm_middle.mem_iff]
      exact List.mem_cons_of_mem _ member
    · rw [others other member]
    · rw [keyCount_perm List.perm_middle, keyCount_cons_of_ne notLeast]
      exact keyCount_congr fun other member => by
        rw [others other (List.mem_cons_of_mem _ member)]
  · obtain ⟨less, near⟩ := larger calmBefore fits
    obtain ⟨rfl, rfl⟩ | ⟨first, before, rfl⟩ := behind_of_insert late less
    · have least : (self.placed task this tree count).least ([] ++ [task]) =
          this.schedKey := congrArg HevTask.schedKey itself
      change this.schedKey.toNat ≤ 0 + 15 at near
      refine ⟨?_, fun _ other member => ?_⟩
      · unfold Fits
        rw [least]
        omega
      · rw [List.mem_singleton.mp member, least, itself]
        omega
    · have least : (self.placed task this tree count).least (first :: before ++ task :: back) =
          self.least (first :: before ++ back) :=
        congrArg HevTask.schedKey (others first List.mem_cons_self)
      refine ⟨?_, fun spread other member => ?_⟩
      · unfold Fits
        rw [least]
        exact fits
      · rw [least]
        rw [List.perm_middle.mem_iff] at member
        rcases List.mem_cons.mp member with rfl | member
        · rw [itself]
          exact near
        · rw [others other member]
          exact spread other member

/-- Waking up puts a task that waits back into the queue, its key counted from
the least. -/
theorem Ready.wakeupTaskWithContext (queue : self.Ready ready)
    (alive : self.Alive task) (started : (self.tasks task).state ≠ .stopped) :
    ∃ final later, Settles (fun rounds => self.wakeupTaskWithContext rounds task) final ∧
      final.Ready later ∧ self.Wakes ready final later ∧
      (final.tasks task).state = .running := by
  by_cases running : (self.tasks task).state = .running
  · refine ⟨self, ready, settles_load alive ?_, queue, .refl self ready, running⟩
    simp only [if_pos running]
    exact .const _
  have waiting : (self.tasks task).state = .waiting := by
    cases state : (self.tasks task).state with
    | stopped => exact absurd state started
    | running => exact absurd state running
    | waiting => rfl
  obtain ⟨tree, front, back, ran, rfl, late, final, same⟩ :=
    queue.wakeup_waiting alive waiting
  have outside := queue.notMem running
  have itself : (self.placed task (self.woken (front ++ back) task) tree
      (self.runningTaskCount + 1)).tasks task = self.woken (front ++ back) task :=
    Function.update_self ..
  have others : ∀ other ≠ task, (self.placed task (self.woken (front ++ back) task) tree
      (self.runningTaskCount + 1)).tasks other = self.tasks other :=
    fun other apart => Function.update_of_ne apart ..
  refine ⟨_, _, ran, final, ⟨rfl, rfl, rfl, same, ?_, ?_, ?_, ?_, ?_, ?_⟩, ?_⟩
  · exact fun other runs => others other (by rintro rfl; exact running runs)
  · intro other waits
    refine others other ?_
    rintro rfl
    rw [itself] at waits
    cases waits
  · intro other
    by_cases isTask : other = task
    · rw [isTask, itself]
      exact iff_of_false (by rintro ⟨⟩) started
    · rw [others other isTask]
  · intro other
    by_cases isTask : other = task
    · rw [isTask, itself]; rfl
    · rw [others other isTask]
  · intro other
    by_cases isTask : other = task
    · rw [isTask, itself]; rfl
    · rw [others other isTask]
  · refine keeps_insert outside late same ?_ ?_
    · intro calm
      have own := (calm task alive).next
      exact ⟨own, fun _ => own, by rintro ⟨⟩⟩
    · intro calm fits
      have own := (calm task alive).waiting waiting
      have sum : (self.woken (front ++ back) task).schedKey =
          (self.tasks task).schedKey + self.least (front ++ back) := rfl
      unfold Fits at fits
      rw [sum, UInt64.lt_iff_toNat_lt, UInt64.toNat_add]
      omega
  · rw [itself]; rfl

end Waking

/-- What `hev_task_run` makes of a task that has stopped. -/
def launched (self : HevTaskSystemContext) (ready : List Nat) (task : Nat) : HevTask :=
  { (self.tasks task).queued with
    schedKey := UInt64.ofNat (self.tasks task).nextPriority +
      if self.currentTask ≠ 0 then self.least ready else 0 }

/-- What `hev_task_system_update_sched_key` makes of the current task. -/
def counted (self : HevTaskSystemContext) : HevTask :=
  { self.tasks self.currentTask with
    schedKey := (self.tasks self.currentTask).schedKey +
      UInt64.ofNat (self.tasks self.currentTask).priority }

/-- What a switch makes of the current task. -/
def switched (self : HevTaskSystemContext) : HevTask :=
  { self.tasks self.currentTask with
    schedKey := (self.tasks self.currentTask).schedKey +
      UInt64.ofNat (self.tasks self.currentTask).priority
    priority := (self.tasks self.currentTask).nextPriority }

/-- What waiting makes of the current task. -/
def parked (self : HevTaskSystemContext) : HevTask :=
  { self.tasks self.currentTask with
    state := .waiting
    schedKey := UInt64.ofNat (self.tasks self.currentTask).nextPriority }

/-- What its end makes of the current task. -/
def ended (self : HevTaskSystemContext) : HevTask :=
  { self.tasks self.currentTask with
    state := .stopped
    refCount := (self.tasks self.currentTask).refCount - 1 }

section Calls

variable {self : HevTaskSystemContext} {ready : List Nat} {task : Nat}

/-- A task that has not run yet, or has stopped, is put into the queue. -/
theorem Ready.run (queue : self.Ready ready) (alive : self.Alive task)
    (stopped : (self.tasks task).state = .stopped) :
    ∃ tree front back,
      Settles (fun rounds => self.run rounds task)
        { self.placed task (self.launched ready task) tree (self.runningTaskCount + 1) with
          totalTaskCount := self.totalTaskCount + 1 } ∧
      ready = front ++ back ∧
      (∀ other ∈ back,
        (self.launched ready task).schedKey < (self.tasks other).schedKey) ∧
      (self.placed task (self.launched ready task) tree
        (self.runningTaskCount + 1)).Ready (front ++ task :: back) ∧
      ∀ other, (tree.base.nodes other).isSome = true ↔ self.Alive other := by
  have notRunning : (self.tasks task).state ≠ .running := by
    rw [stopped]
    rintro ⟨⟩
  let fresh := { self.tasks task with
    priority := (self.tasks task).nextPriority
    schedKey := UInt64.ofNat (self.tasks task).nextPriority }
  let min := if self.currentTask ≠ 0 then self.least ready else 0
  let keyed := { fresh with schedKey := fresh.schedKey + min }
  have stored : (self.store task keyed).tasks task = keyed := Function.update_self ..
  obtain ⟨tree, front, back, wrote, whole, late, final, same⟩ :=
    (queue.store keyed notRunning notRunning).insertTask alive
      (by rw [stored]; exact notRunning)
  rw [stored, placed_store] at wrote final
  refine ⟨tree, front, back, ?_, whole, ?_, final, same⟩
  · refine settles_load alive ?_
    simp only [if_neg (not_not_intro stopped)]
    have again : (self.store task fresh).tasks task = fresh := Function.update_self ..
    have present : (self.store task fresh).Alive task := alive
    refine settles_load present ?_
    rw [again]
    have starts : Settles (fun _ => (self.store task fresh).startKey) min := by
      refine ⟨0, fun _ _ => ?_⟩
      rw [startKey, (queue.store fresh notRunning notRunning).getMinSchedKey,
        least_store (queue.notMem notRunning)]
      exact (apply_ite some (self.currentTask ≠ 0) (self.least ready) 0).symm
    refine starts.bind ?_
    rw [store_store]
    exact wrote.bind (.const _)
  · intro other member
    have outside := queue.notMem notRunning
    have early := late other member
    rw [whole] at outside
    rwa [stored, show (self.store task keyed).tasks other = self.tasks other from
      Function.update_of_ne
        (ne_of_mem_of_not_mem (List.mem_append_right _ member) outside) ..] at early

theorem store_self (this : HevTask) : (self.store task this).tasks task = this :=
  Function.update_self ..

theorem alive_free {other : Nat} :
    ({ self with runningTasks := self.runningTasks.free task }).Alive other ↔
      self.Alive other ∧ other ≠ task := by
  show (if other = task then none else self.runningTasks.base.nodes other).isSome = true ↔
    _
  split
  case isTrue isTask => exact iff_of_false (by rintro ⟨⟩) fun both => both.2 isTask
  case isFalse apart => exact (and_iff_left apart).symm

/-- The memory of a task that is not running can be freed. -/
theorem Ready.free (queue : self.Ready ready)
    (notRunning : (self.tasks task).state ≠ .running) :
    ({ self with runningTasks := self.runningTasks.free task }).Ready ready where
  queue := queue.queue.free (queue.notMem notRunning)
  sorted := queue.sorted
  aligned other present := queue.aligned other (alive_free.mp present).1
  running other := by
    rw [queue.running, alive_free]
    refine ⟨fun both => ⟨⟨both.1, ?_⟩, both.2⟩, fun both => ⟨both.1.1, both.2⟩⟩
    rintro rfl
    exact notRunning both.2
  count := queue.count

theorem unref_eq (alive : self.Alive task) : self.unref task = some
    { self.store task
        { self.tasks task with refCount := (self.tasks task).refCount - 1 } with
      runningTasks := if (self.tasks task).refCount - 1 ≠ 0 then self.runningTasks
        else self.runningTasks.free task } := by
  rw [unref, load_eq alive, Option.bind_eq_bind, Option.bind_some]
  dsimp only
  split <;> rfl

theorem settles_count (alive : self.Alive self.currentTask) :
    Settles (fun _ => self.updateSchedKey)
      (self.store self.currentTask self.counted) := by
  refine ⟨0, fun _ _ => ?_⟩
  rw [updateSchedKey, load_eq alive]
  show some (self.store self.currentTask
    { self.tasks self.currentTask with
      schedKey := (self.tasks self.currentTask).schedKey +
        1 * UInt64.ofNat (self.tasks self.currentTask).priority }) = _
  rw [UInt64.one_mul]
  rfl

/-- A switch takes the current task out of the tree and puts it back with its
new key. -/
theorem settles_reinsert {tree : HevRBTreeCached} {marked final : HevTaskSystemContext}
    (alive : self.Alive self.currentTask)
    (marks : self.store self.currentTask
      { self.tasks self.currentTask with
        priority := (self.tasks self.currentTask).nextPriority } = marked)
    (erased : Settles
      (fun rounds => self.runningTasks.erase rounds self.currentTask) tree)
    (wrote : Settles (fun rounds =>
      ({ marked with runningTasks := tree }).insertNode rounds self.currentTask) final) :
    Settles (fun rounds => self.reinsertCurrentTask rounds) final := by
  subst marks
  exact settles_load alive (erased.bind wrote)

theorem settles_park {tree : HevRBTreeCached} (alive : self.Alive self.currentTask)
    (erased : Settles
      (fun rounds => self.runningTasks.erase rounds self.currentTask) tree) :
    Settles (fun rounds => self.removeCurrentTask rounds .waiting)
      (self.placed self.currentTask self.parked tree (self.runningTaskCount - 1)) := by
  refine settles_load alive (erased.bind ?_)
  refine ⟨0, fun _ _ => congrArg some ?_⟩
  unfold placed HevTaskSystemContext.store
  dsimp only
  rw [Function.update_idem]
  rfl

/-- A switch puts the current task behind those whose key is not larger. -/
theorem Ready.leave_switch (queue : self.Ready ready) (member : self.currentTask ∈ ready) :
    ∃ tree front back,
      Settles (fun rounds => self.leaveCurrentTask rounds .switch)
        (self.placed self.currentTask self.switched tree self.runningTaskCount) ∧
      ready.erase self.currentTask = front ++ back ∧
      (self.placed self.currentTask self.switched tree self.runningTaskCount).Ready
        (front ++ self.currentTask :: back) ∧
      ∀ other, (tree.base.nodes other).isSome = true ↔ self.Alive other := by
  have alive := queue.alive self.currentTask member
  have runs := ((queue.running self.currentTask).mp member).2
  obtain ⟨without, erased, lined, same⟩ := queue.erase member self.switched
  have outside : self.currentTask ∉ ready.erase self.currentTask :=
    queue.queue.distinct.not_mem_erase
  obtain ⟨tree, front, back, wrote, whole, _, linedAgain, sameAgain⟩ :=
    lined.insertNode ((same self.currentTask).mpr alive) outside
  have perm : (front ++ self.currentTask :: back).Perm ready := by
    refine List.perm_middle.trans ?_
    rw [← whole]
    exact (List.perm_cons_erase member).symm
  refine ⟨tree, front, back, ?_, whole,
    ⟨⟨linedAgain.queue, linedAgain.sorted, linedAgain.aligned⟩, ?_, ?_⟩,
    fun other => (sameAgain other).trans (same other)⟩
  · refine (settles_count alive).bind ?_
    have marks : (self.store self.currentTask self.counted).store self.currentTask
        { (self.store self.currentTask self.counted).tasks self.currentTask with
          priority := ((self.store self.currentTask self.counted).tasks
            self.currentTask).nextPriority } = self.store self.currentTask self.switched := by
      rw [store_self, store_store]
      rfl
    have present : (self.store self.currentTask self.counted).Alive self.currentTask := alive
    exact settles_reinsert present marks erased wrote
  · intro other
    rw [perm.mem_iff, queue.running]
    refine and_congr ((sameAgain other).trans (same other)).symm ?_
    show _ ↔ (Function.update self.tasks self.currentTask self.switched other).state = _
    by_cases isCurrent : other = self.currentTask
    · rw [isCurrent, Function.update_self]
      rfl
    · rw [Function.update_of_ne isCurrent]
  · exact queue.count.trans perm.length_eq.symm

/-- A task that leaves the queue is no longer running. -/
theorem Ready.erased (queue : self.Ready ready) (member : task ∈ ready)
    {this : HevTask} {tree : HevRBTreeCached}
    (lined : ({ self.store task this with runningTasks := tree }).Lined (ready.erase task))
    (same : ∀ other, ({ self.store task this with runningTasks := tree }).Alive other ↔
      self.Alive other) (leaves : this.state ≠ .running) :
    (self.placed task this tree (self.runningTaskCount - 1)).Ready (ready.erase task) where
  queue := lined.queue
  sorted := lined.sorted
  aligned := lined.aligned
  running other := by
    show _ ↔ (tree.base.nodes other).isSome = true ∧
      (Function.update self.tasks task this other).state = .running
    by_cases isTask : other = task
    · rw [isTask, Function.update_self]
      exact iff_of_false queue.queue.distinct.not_mem_erase fun both => leaves both.2
    · rw [Function.update_of_ne isTask, List.mem_erase_of_ne isTask, queue.running]
      exact and_congr_left' (same other).symm
  count := by
    rw [List.length_erase_of_mem member, ← queue.count]
    rfl

/-- A task that waits leaves the queue. -/
theorem Ready.leave_waitio (queue : self.Ready ready) (member : self.currentTask ∈ ready) :
    ∃ tree,
      Settles (fun rounds => self.leaveCurrentTask rounds .waitio)
        (self.placed self.currentTask self.parked tree (self.runningTaskCount - 1)) ∧
      (self.placed self.currentTask self.parked tree (self.runningTaskCount - 1)).Ready
        (ready.erase self.currentTask) ∧
      ∀ other, (tree.base.nodes other).isSome = true ↔ self.Alive other := by
  have alive := queue.alive self.currentTask member
  obtain ⟨tree, erased, lined, same⟩ := queue.erase member self.parked
  refine ⟨tree, ?_, queue.erased member lined same (by rintro ⟨⟩), same⟩
  refine (settles_count alive).bind ?_
  have present : (self.store self.currentTask self.counted).Alive self.currentTask := alive
  have parked := settles_park present erased
  have same : (self.store self.currentTask self.counted).parked = self.parked := by
    unfold HevTaskSystemContext.parked
    show _ = _
    rw [show (self.store self.currentTask self.counted).currentTask = self.currentTask
      from rfl, store_self]
    rfl
  rw [same] at parked
  show Settles _ _
  rw [← placed_store self.counted]
  exact parked

theorem settles_end {tree : HevRBTreeCached} (alive : self.Alive self.currentTask)
    (present : (tree.base.nodes self.currentTask).isSome = true)
    (erased : Settles
      (fun rounds => self.runningTasks.erase rounds self.currentTask) tree) :
    Settles (fun rounds => self.removeCurrentTask rounds .stopped)
      { self.placed self.currentTask self.ended
          (if (self.tasks self.currentTask).refCount - 1 ≠ 0 then tree
            else tree.free self.currentTask) (self.runningTaskCount - 1) with
        totalTaskCount := self.totalTaskCount - 1 } := by
  refine settles_load alive (erased.bind ⟨0, fun _ _ => ?_⟩)
  let left : HevTaskSystemContext :=
    { self.store self.currentTask
        { self.tasks self.currentTask with state := .stopped } with
      runningTasks := tree
      runningTaskCount := self.runningTaskCount - 1
      totalTaskCount := self.totalTaskCount - 1 }
  have stored : left.tasks self.currentTask =
      { self.tasks self.currentTask with state := .stopped } := Function.update_self ..
  have present : left.Alive self.currentTask := present
  show left.unref self.currentTask = _
  rw [unref_eq present, stored]
  refine congrArg some ?_
  unfold placed HevTaskSystemContext.store
  simp only [left, HevTaskSystemContext.store, Function.update_idem]
  rfl

/-- A task that ends leaves the queue, and is freed with its last reference. -/
theorem Ready.leave_remove (queue : self.Ready ready) (member : self.currentTask ∈ ready) :
    ∃ tree,
      Settles (fun rounds => self.leaveCurrentTask rounds .remove)
        { self.placed self.currentTask self.ended tree (self.runningTaskCount - 1) with
          totalTaskCount := self.totalTaskCount - 1 } ∧
      (self.placed self.currentTask self.ended tree (self.runningTaskCount - 1)).Ready
        (ready.erase self.currentTask) ∧
      ∀ other, (tree.base.nodes other).isSome = true ↔ self.Alive other ∧
        (other = self.currentTask → (self.tasks other).refCount - 1 ≠ 0) := by
  have alive := queue.alive self.currentTask member
  obtain ⟨tree, erased, lined, same⟩ := queue.erase member self.ended
  have left := queue.erased member lined same (by rintro ⟨⟩)
  have present : (tree.base.nodes self.currentTask).isSome = true :=
    (same self.currentTask).mpr alive
  refine ⟨_, settles_end alive present erased, ?_, ?_⟩
  · split
    · exact left
    · refine left.free ?_
      rw [show (self.placed self.currentTask self.ended tree
        (self.runningTaskCount - 1)).tasks self.currentTask = self.ended from
          Function.update_self ..]
      rintro ⟨⟩
  · intro other
    by_cases last : (self.tasks self.currentTask).refCount - 1 ≠ 0
    · rw [if_pos last]
      refine (same other).trans (iff_self_and.mpr fun _ isCurrent => ?_)
      rwa [isCurrent]
    · rw [if_neg last]
      have freed := @alive_free { self with runningTasks := tree } self.currentTask other
      refine freed.trans ?_
      refine and_congr (same other) ⟨fun apart isCurrent => absurd isCurrent apart, ?_⟩
      rintro kept rfl
      exact last (kept rfl)

/-- Only this task has changed, and the tree of the running tasks. -/
structure Alters (context final : HevTaskSystemContext) (task : Nat) (this : HevTask) :
    Prop where
  timer : final.timer = context.timer
  current : final.currentTask = context.currentTask
  tasks : final.tasks = Function.update context.tasks task this

/-- The first task has had its turn: it is gone, or back with a larger key. -/
structure Leaves (context : HevTaskSystemContext) (ready : List Nat)
    (final : HevTaskSystemContext) (queue : List Nat) : Prop where
  calm : context.Calm → final.Calm
  turn : ∀ rest, ready = context.currentTask :: rest →
    (∀ task ∈ rest, (final.tasks task).schedKey = (context.tasks task).schedKey) ∧
      (queue.Perm rest ∨ queue.Perm ready ∧
        (context.Calm → context.Fits ready →
          (context.tasks context.currentTask).schedKey <
              (final.tasks context.currentTask).schedKey ∧
            (final.tasks context.currentTask).schedKey.toNat ≤
              (context.tasks context.currentTask).schedKey.toNat + 15))

theorem Alters.itself {final : HevTaskSystemContext} {this : HevTask}
    (alters : self.Alters final task this) : final.tasks task = this := by
  rw [alters.tasks, Function.update_self]

theorem Alters.others {final : HevTaskSystemContext} {this : HevTask}
    (alters : self.Alters final task this) :
    ∀ other ≠ task, final.tasks other = self.tasks other := by
  intro other apart
  rw [alters.tasks, Function.update_of_ne apart]

theorem Alters.calm {final : HevTaskSystemContext} {this : HevTask}
    (alters : self.Alters final task this) (calm : self.Calm) (calmThis : this.Calm)
    (alive : ∀ other, final.Alive other → self.Alive other) : final.Calm := by
  intro other present
  by_cases isTask : other = task
  · rw [isTask, alters.itself]
    exact calmThis
  · rw [alters.others other isTask]
    exact calm other (alive other present)

theorem toNat_priority {priority : Nat} (small : priority ≤ 15) :
    (UInt64.ofNat priority).toNat = priority := by
  rw [UInt64.toNat_ofNat']
  omega

/-- A task that starts is put into the queue. -/
theorem Ready.launch (queue : self.Ready ready) (alive : self.Alive task)
    (stopped : (self.tasks task).state = .stopped) :
    ∃ final later, Settles (fun rounds => self.run rounds task) final ∧
      final.Ready later ∧ later.Perm (task :: ready) ∧
      self.Alters final task (self.launched ready task) ∧
      (∀ other, final.Alive other ↔ self.Alive other) ∧
      final.totalTaskCount = self.totalTaskCount + 1 ∧ (self.Calm → final.Calm) ∧
      (self.currentTask = 0 → self.Calm → (final.tasks task).schedKey.toNat ≤ 15) ∧
      (self.currentTask ≠ 0 → self.Keeps ready final later) := by
  obtain ⟨tree, front, back, ran, rfl, late, final, same⟩ := queue.run alive stopped
  have alters : self.Alters
      { self.placed task (self.launched (front ++ back) task) tree
        (self.runningTaskCount + 1) with totalTaskCount := self.totalTaskCount + 1 } task
      (self.launched (front ++ back) task) := ⟨rfl, rfl, rfl⟩
  refine ⟨_, front ++ task :: back, ran, ?_, List.perm_middle, alters, same, rfl,
    fun calm => ?_, fun notTask calm => ?_, fun isTask => ?_⟩
  · exact ⟨⟨final.queue, final.sorted, final.aligned⟩, final.running, final.count⟩
  · have own := (calm task alive).next
    exact alters.calm calm ⟨own, fun _ => own, by rintro ⟨⟩⟩
      fun other present => (same other).mp present
  · have own := (calm task alive).next
    have key : (self.launched (front ++ back) task).schedKey =
        UInt64.ofNat (self.tasks task).nextPriority + 0 := by
      show _ + (if self.currentTask ≠ 0 then _ else _) = _
      rw [if_neg (not_not_intro notTask)]
    rw [alters.itself, key, UInt64.add_zero, toNat_priority own.2]
    exact own.2
  have outside : task ∉ front ++ back := by
    refine queue.notMem ?_
    rw [stopped]
    rintro ⟨⟩
  have keeps : self.Keeps (front ++ back)
      (self.placed task (self.launched (front ++ back) task) tree
        (self.runningTaskCount + 1)) (front ++ task :: back) := by
    refine keeps_insert outside late same (fun calm => ?_) (fun calm fits => ?_)
    · have own := (calm task alive).next
      exact ⟨own, fun _ => own, by rintro ⟨⟩⟩
    · have own := (calm task alive).next
      have sum : (self.launched (front ++ back) task).schedKey =
          UInt64.ofNat (self.tasks task).nextPriority + self.least (front ++ back) := by
        show _ + (if self.currentTask ≠ 0 then _ else _) = _
        rw [if_pos isTask]
      unfold Fits at fits
      rw [sum, UInt64.lt_iff_toNat_lt, UInt64.toNat_add, toNat_priority own.2]
      omega
  exact ⟨keeps.calm, keeps.front, keeps.spread⟩

/-- After a switch the same tasks are in the queue. -/
theorem Ready.switch (queue : self.Ready ready) (member : self.currentTask ∈ ready) :
    ∃ final later, Settles (fun rounds => self.leaveCurrentTask rounds .switch) final ∧
      final.Ready later ∧ later.Perm ready ∧
      self.Alters final self.currentTask self.switched ∧
      (∀ other, final.Alive other ↔ self.Alive other) ∧
      final.totalTaskCount = self.totalTaskCount ∧ self.Leaves ready final later := by
  obtain ⟨tree, front, back, ran, whole, final, same⟩ := queue.leave_switch member
  have perm : (front ++ self.currentTask :: back).Perm ready := by
    refine List.perm_middle.trans ?_
    rw [← whole]
    exact (List.perm_cons_erase member).symm
  have alters : self.Alters
      (self.placed self.currentTask self.switched tree self.runningTaskCount)
      self.currentTask self.switched := ⟨rfl, rfl, rfl⟩
  have alive := queue.alive self.currentTask member
  have runs := ((queue.running self.currentTask).mp member).2
  refine ⟨_, front ++ self.currentTask :: back, ran, final, perm, alters, same, rfl,
    fun calm => ?_, fun rest isFirst => ⟨fun other inRest => ?_, .inr ⟨perm, ?_⟩⟩⟩
  · have own := calm self.currentTask alive
    refine alters.calm calm ⟨own.next, fun _ => own.next, ?_⟩
      fun other present => (same other).mp present
    intro waits
    rw [show self.switched.state = (self.tasks self.currentTask).state from rfl, runs]
      at waits
    cases waits
  · have distinct := queue.queue.distinct
    rw [isFirst, List.nodup_cons] at distinct
    rw [alters.others other (ne_of_mem_of_not_mem inRest distinct.1)]
  · intro calm fits
    have own := (calm self.currentTask alive).running runs
    have key : self.switched.schedKey = (self.tasks self.currentTask).schedKey +
      UInt64.ofNat (self.tasks self.currentTask).priority := rfl
    unfold Fits at fits
    rw [isFirst] at fits
    change (self.tasks self.currentTask).schedKey.toNat + 16 ≤ 2 ^ 64 at fits
    rw [alters.itself, key, UInt64.lt_iff_toNat_lt, UInt64.toNat_add,
      toNat_priority own.2]
    omega

theorem Leaves.erased {final : HevTaskSystemContext} {this : HevTask}
    (queue : self.Ready ready)
    (alters : self.Alters final self.currentTask this)
    (calm : self.Calm → this.Calm)
    (alive : ∀ other, final.Alive other → self.Alive other) :
    self.Leaves ready final (ready.erase self.currentTask) where
  calm calmBefore := alters.calm calmBefore (calm calmBefore) alive
  turn rest isFirst := by
    have distinct := queue.queue.distinct
    rw [isFirst, List.nodup_cons] at distinct
    refine ⟨fun other inRest => ?_, .inl ?_⟩
    · rw [alters.others other (ne_of_mem_of_not_mem inRest distinct.1)]
    · rw [isFirst, List.erase_cons_head]

/-- A task that waits is out of the queue. -/
theorem Ready.park (queue : self.Ready ready) (member : self.currentTask ∈ ready) :
    ∃ final, Settles (fun rounds => self.leaveCurrentTask rounds .waitio) final ∧
      final.Ready (ready.erase self.currentTask) ∧
      self.Alters final self.currentTask self.parked ∧
      (∀ other, final.Alive other ↔ self.Alive other) ∧
      final.totalTaskCount = self.totalTaskCount ∧
      self.Leaves ready final (ready.erase self.currentTask) := by
  obtain ⟨tree, ran, final, same⟩ := queue.leave_waitio member
  have alive := queue.alive self.currentTask member
  refine ⟨_, ran, final, ⟨rfl, rfl, rfl⟩, same, rfl,
    .erased queue ⟨rfl, rfl, rfl⟩ (fun calm => ?_) fun other => (same other).mp⟩
  have own := (calm self.currentTask alive).next
  refine ⟨own, by rintro ⟨⟩, fun _ => ?_⟩
  rw [show self.parked.schedKey.toNat = (self.tasks self.currentTask).nextPriority from
    toNat_priority own.2]
  exact own

/-- So is one that has stopped, and it is freed if the reference of the task
system was the last one. -/
theorem Ready.stop (queue : self.Ready ready) (member : self.currentTask ∈ ready) :
    ∃ final, Settles (fun rounds => self.leaveCurrentTask rounds .remove) final ∧
      final.Ready (ready.erase self.currentTask) ∧
      self.Alters final self.currentTask self.ended ∧
      (∀ other, final.Alive other ↔ self.Alive other ∧
        (other = self.currentTask → (self.tasks other).refCount - 1 ≠ 0)) ∧
      final.totalTaskCount = self.totalTaskCount - 1 ∧
      self.Leaves ready final (ready.erase self.currentTask) := by
  obtain ⟨tree, ran, final, same⟩ := queue.leave_remove member
  have alive := queue.alive self.currentTask member
  refine ⟨_, ran, ?_, ⟨rfl, rfl, rfl⟩, same, rfl,
    .erased queue ⟨rfl, rfl, rfl⟩ (fun calm => ?_) fun other present =>
      ((same other).mp present).1⟩
  · exact ⟨⟨final.queue, final.sorted, final.aligned⟩, final.running, final.count⟩
  · exact ⟨(calm self.currentTask alive).next, by rintro ⟨⟩, by rintro ⟨⟩⟩

/-- What the scheduler does not look at may change. -/
theorem Ready.store_same (queue : self.Ready ready) {this : HevTask}
    (state : this.state = (self.tasks task).state)
    (key : this.schedKey = (self.tasks task).schedKey) :
    (self.store task this).Ready ready := by
  have states : ∀ other, ((self.store task this).tasks other).state =
      (self.tasks other).state := by
    intro other
    by_cases isTask : other = task
    · rw [isTask, store_self, state]
    · exact congrArg HevTask.state (Function.update_of_ne isTask ..)
  have keys : ∀ other, ((self.store task this).tasks other).schedKey =
      (self.tasks other).schedKey := by
    intro other
    by_cases isTask : other = task
    · rw [isTask, store_self, key]
    · exact congrArg HevTask.schedKey (Function.update_of_ne isTask ..)
  refine ⟨⟨queue.queue, ?_, queue.aligned⟩, ?_, queue.count⟩
  · refine queue.sorted.imp fun {front back} less => ?_
    rwa [keys, keys]
  · intro other
    rw [queue.running, states]
    exact Iff.rfl

theorem alive_create {other : Nat} :
    (self.create task).Alive other ↔ other = task ∨ self.Alive other := by
  show (if other = task then some _ else self.runningTasks.base.nodes other).isSome =
    true ↔ _
  split
  case isTrue isTask => exact iff_of_true rfl (.inl isTask)
  case isFalse apart => exact (or_iff_right apart).symm

/-- A new task is not in the queue. -/
theorem Ready.create (queue : self.Ready ready)
    (unused : self.runningTasks.base.Unused task) : (self.create task).Ready ready := by
  obtain ⟨allocated, fresh⟩ := queue.queue.allocate unused
  have stored := queue.toLined.store fresh .new
  refine ⟨⟨allocated, stored.sorted, ?_⟩, ?_, queue.count⟩
  · intro other present
    rcases alive_create.mp present with rfl | old
    · exact unused.2.2
    · exact queue.aligned other old
  · intro other
    rw [queue.running, alive_create]
    show _ ↔ _ ∧ (Function.update self.tasks task .new other).state = .running
    by_cases isTask : other = task
    · rw [isTask, Function.update_self]
      refine iff_of_false (fun both => ?_) (by rintro ⟨_, ⟨⟩⟩)
      exact fresh (queue.mem both.1 both.2)
    · rw [Function.update_of_ne isTask, or_iff_right isTask]

/-- The reactor wakes up the tasks of its events. -/
theorem Ready.wakeAll {events : List Nat} (queue : self.Ready ready)
    (started : ∀ task ∈ events,
      self.Alive task ∧ (self.tasks task).state ≠ .stopped) :
    ∃ final later,
      Settles (fun rounds => events.foldlM
        (fun self task => self.wakeupTaskWithContext rounds task) self) final ∧
      final.Ready later ∧ self.Wakes ready final later := by
  induction events generalizing self ready with
  | nil => exact ⟨self, ready, .const self, queue, .refl self ready⟩
  | cons task events inductionHypothesis =>
      obtain ⟨alive, runs⟩ := started task List.mem_cons_self
      obtain ⟨middle, between, ran, queueMiddle, wakes, _⟩ :=
        queue.wakeupTaskWithContext alive runs
      obtain ⟨final, later, ranRest, queueFinal, wakesRest⟩ :=
        inductionHypothesis queueMiddle fun other member => by
          obtain ⟨present, notStopped⟩ := started other (List.mem_cons_of_mem _ member)
          exact ⟨(wakes.alive other).mpr present,
            mt (wakes.stopped_iff other).mp notStopped⟩
      refine ⟨final, later, ?_, queueFinal, wakes.trans wakesRest⟩
      simp only [List.foldlM_cons]
      exact ran.bind ranRest

/-- The timer wakes up the task with the first deadline when that has passed. -/
theorem Ready.timerWakeup {nodes : List Nat} (queue : self.Ready ready)
    (waits : self.timer.Waits nodes) (curr : Timespec)
    (started : ∀ node ∈ nodes, self.Alive (self.timer.task node) ∧
      (self.tasks (self.timer.task node)).state ≠ .stopped) :
    ∃ final later, Settles (fun rounds => self.timerWakeup rounds curr) final ∧
      final.Ready later ∧ self.Wakes ready final later ∧
      ∀ head rest, nodes = head :: rest →
        ¬HevTaskTimer.cmp curr (self.timer.expire head) < 0 →
        (final.tasks (self.timer.task head)).state = .running := by
  unfold HevTaskSystemContext.timerWakeup
  dsimp only
  cases nodes with
  | nil =>
      rw [waits.queue.first_eq_zero.mpr rfl]
      exact ⟨self, ready, .const self, queue, .refl self ready, by rintro _ _ ⟨⟩⟩
  | cons head rest =>
      rw [waits.queue.first_cons]
      simp only [if_neg (waits.queue.nonzero head List.mem_cons_self)]
      by_cases early : HevTaskTimer.cmp curr (self.timer.expire head) < 0
      · simp only [if_pos early]
        refine ⟨self, ready, .const self, queue, .refl self ready, ?_⟩
        rintro _ _ ⟨⟩ late
        exact absurd early late
      · simp only [if_neg early]
        obtain ⟨alive, runs⟩ := started head List.mem_cons_self
        obtain ⟨final, later, ran, queueFinal, wakes, runsNow⟩ :=
          queue.wakeupTaskWithContext alive runs
        refine ⟨final, later, ran, queueFinal, wakes, ?_⟩
        rintro _ _ ⟨⟩ _
        exact runsNow

end Calls

end HevTaskSystemContext

end ProxyVPN
