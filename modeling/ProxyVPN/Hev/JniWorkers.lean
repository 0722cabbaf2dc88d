/-
Module: ProxyVPN.Hev.JniWorkers
Purpose: Every worker thread that hev-jni.c ever creates, with its joins, and the
  native calls step by step with all their exits: at most one worker runs, and
  each is joined once before the next is created.
Trusted boundary: human-reviewed model; the tunnel inside a worker is left out,
  and `hev_socks5_tunnel_main` may return at any moment.
Main exports: JniWorkers, JniWorkers.exec, JniWorkers.system,
  JniWorkers.WorkersExact, JniWorkers.workers_exact
-/
import Mathlib.Logic.Function.Basic
import ProxyVPN.Lib.Transition

namespace ProxyVPN

open Transition

namespace JniWorkers

/-- Where a worker thread is in `thread_handler`: in `hev_socks5_tunnel_main`,
behind it, behind the store of 0 in `is_running`, and at its end. -/
inductive Pc where
  | main
  | returned
  | cleared
  | ended
deriving DecidableEq

/-- A worker thread, and how often `pthread_join` has returned for it. -/
structure Worker where
  pc : Pc
  joins : Nat
deriving DecidableEq

/-- The native call that holds the mutex, at its next access to memory that
others use, or at its next call that may fail. -/
inductive Call where
  | none
  | startRunning
  | startJoinable
  | startJoin
  | startClear
  | startMalloc
  | startChars
  | startDup
  | startStore
  | startCreate
  | startUndo
  | startSet
  | stopJoinable
  | stopRunning
  | stopQuit
  | stopJoin
  | stopClear
  | stopStore
deriving DecidableEq

/-- A call of `native_start_service` that has returned, with the number of
workers that were created before it took the mutex and until it gave it back. -/
structure Start where
  result : Bool
  before : Nat
  after : Nat
deriving DecidableEq

end JniWorkers

/-- The static variables of hev-jni.c, the native call and the threads. The
fields after `call` are not in the source: the threads by the order of their
creation, whether `pthread_join` was called for no thread or for one that was
joined, and the calls that have returned. -/
structure JniWorkers where
  isRunning : Bool
  threadJoinable : Bool
  workThread : Option Nat
  call : JniWorkers.Call
  created : Nat
  workers : Nat → Option JniWorkers.Worker
  fault : Bool
  before : Nat
  starts : List JniWorkers.Start

namespace JniWorkers

/-- The library after `JNI_OnLoad`. -/
def initial : JniWorkers :=
  { isRunning := false
    threadJoinable := false
    workThread := none
    call := .none
    created := 0
    workers := fun _ => none
    fault := false
    before := 0
    starts := [] }

/-- The steps of the call inside the mutex, of whichever thread, and those of
the workers. A Boolean tells whether the memory, the characters or the thread
are got. -/
inductive Label where
  | startLock
  | startRunning
  | startJoinable
  | startJoin
  | startClear
  | startMalloc (ok : Bool)
  | startChars (ok : Bool)
  | startDup (ok : Bool)
  | startStore
  | startCreate (ok : Bool)
  | startUndo
  | startSet
  | stopLock
  | stopJoinable
  | stopRunning
  | stopQuit
  | stopJoin
  | stopClear
  | stopStore
  | mainReturns (worker : Nat)
  | runningClear (worker : Nat)
  | threadEnds (worker : Nat)

/-- What the call that holds the mutex does at this place. -/
def within (self : JniWorkers) (call : Call) (next : Option JniWorkers) :
    Option JniWorkers :=
  if self.call = call then next else none

/-- `pthread_join` of `work_thread`, which waits for the end of the thread. -/
def pthreadJoin (self : JniWorkers) (next : Call) : Option JniWorkers :=
  match self.workThread with
  | none => some { self with fault := true, call := next }
  | some i =>
      match self.workers i with
      | none => some { self with fault := true, call := next }
      | some worker =>
          let joined :=
            Function.update self.workers i
              (some { worker with joins := worker.joins + 1 })
          if worker.joins ≠ 0 then
            some
              { self with workers := joined, fault := true, call := next }
          else if worker.pc = .ended then
            some { self with workers := joined, call := next }
          else
            none

/-! ## native_start_service -/

def startLock (self : JniWorkers) : Option JniWorkers :=
  self.within .none
    (some { self with call := .startRunning, before := self.created })

/-- The mutex is given back. -/
def startExit (self : JniWorkers) (result : Bool) : JniWorkers :=
  { self with
    call := .none
    starts := self.starts ++
      [{ result := result, before := self.before, after := self.created }] }

def startRunning (self : JniWorkers) : Option JniWorkers :=
  self.within .startRunning
    (some (if self.isRunning then self.startExit false
      else { self with call := .startJoinable }))

def startJoinable (self : JniWorkers) : Option JniWorkers :=
  self.within .startJoinable
    (some { self with
      call := if self.threadJoinable then .startJoin else .startMalloc })

def startJoin (self : JniWorkers) : Option JniWorkers :=
  self.within .startJoin (self.pthreadJoin .startClear)

def startClear (self : JniWorkers) : Option JniWorkers :=
  self.within .startClear
    (some { self with threadJoinable := false, call := .startMalloc })

/-- Memory or characters are got, or the call gives up. -/
def startGets (self : JniWorkers) (here next : Call) (ok : Bool) :
    Option JniWorkers :=
  self.within here
    (some (if ok then { self with call := next } else self.startExit false))

def startMalloc (self : JniWorkers) : Bool → Option JniWorkers :=
  self.startGets .startMalloc .startChars

def startChars (self : JniWorkers) : Bool → Option JniWorkers :=
  self.startGets .startChars .startDup

def startDup (self : JniWorkers) : Bool → Option JniWorkers :=
  self.startGets .startDup .startStore

def startStore (self : JniWorkers) : Option JniWorkers :=
  self.within .startStore
    (some { self with isRunning := true, call := .startCreate })

/-- `pthread_create` stores the new thread in `work_thread`. -/
def startCreate (self : JniWorkers) (ok : Bool) : Option JniWorkers :=
  self.within .startCreate
    (some (if ok then
        { self with
          workThread := some self.created
          workers := Function.update self.workers self.created
            (some { pc := .main, joins := 0 })
          created := self.created + 1
          call := .startSet }
      else { self with call := .startUndo }))

def startUndo (self : JniWorkers) : Option JniWorkers :=
  self.within .startUndo
    (some ({ self with isRunning := false }.startExit false))

def startSet (self : JniWorkers) : Option JniWorkers :=
  self.within .startSet
    (some ({ self with threadJoinable := true }.startExit true))

/-! ## native_stop_service -/

def stopLock (self : JniWorkers) : Option JniWorkers :=
  self.within .none (some { self with call := .stopJoinable })

def stopJoinable (self : JniWorkers) : Option JniWorkers :=
  self.within .stopJoinable
    (some { self with
      call := if self.threadJoinable then .stopRunning else .none })

def stopRunning (self : JniWorkers) : Option JniWorkers :=
  self.within .stopRunning
    (some { self with
      call := if self.isRunning then .stopQuit else .stopJoin })

/-- `hev_socks5_tunnel_quit` returns. -/
def stopQuit (self : JniWorkers) : Option JniWorkers :=
  self.within .stopQuit (some { self with call := .stopJoin })

def stopJoin (self : JniWorkers) : Option JniWorkers :=
  self.within .stopJoin (self.pthreadJoin .stopClear)

def stopClear (self : JniWorkers) : Option JniWorkers :=
  self.within .stopClear
    (some { self with threadJoinable := false, call := .stopStore })

def stopStore (self : JniWorkers) : Option JniWorkers :=
  self.within .stopStore (some { self with isRunning := false, call := .none })

/-! ## thread_handler -/

/-- A worker goes from one place to the next. -/
def advance (self : JniWorkers) (i : Nat) (here next : Pc) :
    Option JniWorkers :=
  (self.workers i).bind fun worker =>
    if worker.pc = here then
      some
        { self with
          workers :=
            Function.update self.workers i (some { worker with pc := next }) }
    else
      none

def mainReturns (self : JniWorkers) (i : Nat) : Option JniWorkers :=
  self.advance i .main .returned

/-- 0 is stored in `is_running`, without the mutex. -/
def runningClear (self : JniWorkers) (i : Nat) : Option JniWorkers :=
  { self with isRunning := false }.advance i .returned .cleared

def threadEnds (self : JniWorkers) (i : Nat) : Option JniWorkers :=
  self.advance i .cleared .ended

def exec (self : JniWorkers) : Label → Option JniWorkers
  | .startLock => self.startLock
  | .startRunning => self.startRunning
  | .startJoinable => self.startJoinable
  | .startJoin => self.startJoin
  | .startClear => self.startClear
  | .startMalloc ok => self.startMalloc ok
  | .startChars ok => self.startChars ok
  | .startDup ok => self.startDup ok
  | .startStore => self.startStore
  | .startCreate ok => self.startCreate ok
  | .startUndo => self.startUndo
  | .startSet => self.startSet
  | .stopLock => self.stopLock
  | .stopJoinable => self.stopJoinable
  | .stopRunning => self.stopRunning
  | .stopQuit => self.stopQuit
  | .stopJoin => self.stopJoin
  | .stopClear => self.stopClear
  | .stopStore => self.stopStore
  | .mainReturns i => self.mainReturns i
  | .runningClear i => self.runningClear i
  | .threadEnds i => self.threadEnds i

/-- All interleavings of the native calls and the workers. -/
def system : System JniWorkers Label :=
  .ofExec (· = initial) exec

/-! ## What is kept -/

/-- The worker runs `hev_socks5_tunnel_main`. -/
def InMain (self : JniWorkers) (i : Nat) : Prop :=
  ∃ worker, self.workers i = some worker ∧ worker.pc = .main

/-- One worker runs at most, each is joined at most once and before the next is
created, `pthread_join` is called for a thread that is not joined yet, and a
start returns true if it has created a worker. -/
structure WorkersExact (state : JniWorkers) : Prop where
  single : ∀ i j, state.InMain i → state.InMain j → i = j
  created : ∀ next, state.exec (.startCreate true) = some next →
    ∀ i worker, state.workers i = some worker → worker.joins = 1
  once : ∀ i worker, state.workers i = some worker → worker.joins ≤ 1
  joins : state.call = .startJoin ∨ state.call = .stopJoin →
    ∃ i worker, state.workThread = some i ∧
      state.workers i = some worker ∧ worker.joins = 0
  faultless : state.fault = false
  returns : ∀ start ∈ state.starts,
    start.after = start.before + if start.result then 1 else 0

/-! ## The worker that is not joined -/

/-- The value `thread_joinable` has at a place of a call, where it has only
one. -/
def Call.joinable : Call → Option Bool
  | startJoin | startClear | stopRunning | stopQuit | stopJoin | stopClear =>
      some true
  | startMalloc | startChars | startDup | startStore | startCreate | startUndo
  | startSet | stopStore => some false
  | none | startRunning | startJoinable | stopJoinable => Option.none

/-- A worker was created and is not joined. `thread_joinable` says so but
between a join or a creation and the store after it. -/
def unjoined (self : JniWorkers) : Bool :=
  match self.call with
  | .startClear | .stopClear => false
  | .startSet => true
  | _ => self.threadJoinable

/-- The place of `native_start_service`, and whether it has created a worker. -/
def Call.start : Call → Option Nat
  | startRunning | startJoinable | startJoin | startClear | startMalloc
  | startChars | startDup | startStore | startCreate | startUndo => some 0
  | startSet => some 1
  | _ => Option.none

/-- All workers but the last have ended and are joined once; the last one also,
unless it is the one that is not joined. -/
structure Sound (state : JniWorkers) : Prop where
  faultless : state.fault = false
  fresh : ∀ i, state.created ≤ i → state.workers i = none
  joined : ∀ i, i < state.created →
    i + 1 < state.created ∨ state.unjoined = false →
      state.workers i = some { pc := .ended, joins := 1 }
  current : state.unjoined = true → ∃ i pc, state.created = i + 1 ∧
    state.workThread = some i ∧ state.workers i = some { pc := pc, joins := 0 }
  joinable : ∀ value, state.call.joinable = some value →
    state.threadJoinable = value
  count : ∀ new, state.call.start = some new →
    state.created = state.before + new
  returns : ∀ start ∈ state.starts,
    start.after = start.before + if start.result then 1 else 0

variable {state next : JniWorkers}

theorem within_eq_some {call : Call} {goes : Option JniWorkers} :
    state.within call goes = some next ↔
      state.call = call ∧ goes = some next :=
  Option.ite_none_right_eq_some

/-- A step that leaves the workers alone, and what is known of the last one. -/
theorem Sound.move (sound : state.Sound) (call : Call) (isRunning joinable : Bool)
    (same : unjoined { state with call := call, threadJoinable := joinable } =
      state.unjoined)
    (value : ∀ value, call.joinable = some value → joinable = value)
    (count : ∀ new, call.start = some new → state.call.start = some new) :
    Sound { state with
      call := call, threadJoinable := joinable, isRunning := isRunning } where
  faultless := sound.faultless
  fresh := sound.fresh
  joined := fun i inside last => sound.joined i inside
    (last.imp_right fun joined => same.symm.trans joined)
  current := fun runs => sound.current (same.symm.trans runs)
  joinable := value
  count := fun new starts => sound.count new (count new starts)
  returns := sound.returns

/-- The call returns. -/
theorem Sound.exit (sound : state.Sound) (isRunning joinable result : Bool)
    (same : joinable = state.unjoined)
    (count : state.call.start = some (if result then 1 else 0)) :
    Sound (startExit { state with
      isRunning := isRunning, threadJoinable := joinable } result) where
  faultless := sound.faultless
  fresh := sound.fresh
  joined := fun i inside last => sound.joined i inside
    (last.imp_right fun joined => same.symm.trans joined)
  current := fun runs => sound.current (same.symm.trans runs)
  joinable := nofun
  count := nofun
  returns := by
    intro start member
    rcases List.mem_append.mp member with old | new
    · exact sound.returns start old
    · rw [List.mem_singleton.mp new]
      exact sound.count _ count

/-- `pthread_join` returns for the one worker that is not joined. -/
theorem Sound.pthreadJoin (sound : state.Sound) {call : Call}
    (runs : state.unjoined = true)
    (joined : unjoined { state with call := call } = false)
    (value : ∀ value, call.joinable = some value →
      state.threadJoinable = value)
    (count : ∀ new, call.start = some new → state.call.start = some new)
    (taken : state.pthreadJoin call = some next) : next.Sound := by
  obtain ⟨last, pc, created, workThread, worker⟩ := sound.current runs
  unfold JniWorkers.pthreadJoin at taken
  rw [workThread] at taken
  simp only [worker] at taken
  rw [if_neg (fun twice => twice rfl)] at taken
  obtain ⟨rfl, same⟩ := Option.ite_none_right_eq_some.mp taken
  cases same
  constructor
  case faultless => exact sound.faultless
  case fresh =>
    intro i outside
    have other : i ≠ last := by
      change state.created ≤ i at outside
      omega
    exact (Function.update_of_ne other ..).trans (sound.fresh i outside)
  case joined =>
    intro i inside _
    by_cases here : i = last
    · rw [here]
      exact Function.update_self ..
    · change i < state.created at inside
      exact (Function.update_of_ne here ..).trans
        (sound.joined i inside (.inl (by omega)))
  case current =>
    intro still
    cases joined.symm.trans still
  case joinable => exact value
  case count => exact fun new starts => sound.count new (count new starts)
  case returns => exact sound.returns

/-- The last worker is created when all others are joined. -/
theorem Sound.create (sound : state.Sound) (here : state.call = .startCreate) :
    Sound { state with
      workThread := some state.created
      workers := Function.update state.workers state.created
        (some { pc := .main, joins := 0 })
      created := state.created + 1
      call := .startSet } := by
  have notJoinable := sound.joinable false (by rw [here]; rfl)
  have none : state.unjoined = false := by
    unfold unjoined
    rw [here]
    exact notJoinable
  constructor
  case faultless => exact sound.faultless
  case fresh =>
    intro i outside
    change state.created + 1 ≤ i at outside
    exact (Function.update_of_ne (by omega) ..).trans
      (sound.fresh i (by omega))
  case joined =>
    rintro i inside (before | joined)
    · change i + 1 < state.created + 1 at before
      exact (Function.update_of_ne (by omega) ..).trans
        (sound.joined i (by omega) (.inr none))
    · cases joined
  case current =>
    intro _
    exact ⟨state.created, .main, rfl, rfl, Function.update_self ..⟩
  case joinable =>
    rintro value ⟨⟩
    exact notJoinable
  case count =>
    rintro new ⟨⟩
    exact congrArg (· + 1) (sound.count 0 (by rw [here]; rfl))
  case returns => exact sound.returns

/-- A worker that goes on is the one that is not joined. -/
theorem Sound.advance (sound : state.Sound) {i : Nat} {here after : Pc}
    (running : here ≠ .ended) (taken : state.advance i here after = some next) :
    next.Sound := by
  obtain ⟨worker, found, moves⟩ := Option.bind_eq_some_iff.mp taken
  obtain ⟨atHere, same⟩ := Option.ite_none_right_eq_some.mp moves
  have inside : i < state.created := by
    by_contra outside
    rw [sound.fresh i (Nat.le_of_not_lt outside)] at found
    cases found
  have last : ¬(i + 1 < state.created ∨ state.unjoined = false) := by
    intro joined
    rw [sound.joined i inside joined] at found
    cases found
    exact running atHere.symm
  obtain ⟨current, pc, created, workThread, runs⟩ := sound.current
    (Bool.not_eq_false _ ▸ fun none => last (.inr none))
  obtain rfl : i = current := by omega
  cases runs.symm.trans found
  cases same
  constructor
  case faultless => exact sound.faultless
  case fresh =>
    intro other outside
    change state.created ≤ other at outside
    exact (Function.update_of_ne (by omega) ..).trans
      (sound.fresh other outside)
  case joined =>
    intro other before joined
    have apart : other ≠ i := fun same => last (same ▸ joined)
    exact (Function.update_of_ne apart ..).trans
      (sound.joined other before joined)
  case current =>
    intro _
    exact ⟨i, after, created, workThread, Function.update_self ..⟩
  case joinable => exact sound.joinable
  case count => exact sound.count
  case returns => exact sound.returns

/-- Where the call has a value of `thread_joinable`, and no store is due. -/
theorem Sound.value (sound : state.Sound) {call : Call} {value : Bool}
    (here : state.call = call) (known : call.joinable = some value) :
    state.threadJoinable = value :=
  sound.joinable value (here ▸ known)

/-- The previous worker is joined, and a new one not created yet. -/
def Call.preparing : Call → Bool
  | startMalloc | startChars | startDup | startStore => true
  | _ => false

theorem Call.preparing_spec {call : Call} (prepares : call.preparing = true) :
    call.joinable = some false ∧ call.start = some 0 ∧
      ∀ state : JniWorkers, state.call = call →
        state.unjoined = state.threadJoinable := by
  have unjoined_eq : ∀ state : JniWorkers, state.call = call →
      state.unjoined = state.threadJoinable := by
    intro state inCall
    unfold unjoined
    rw [inCall]
    cases call <;> first | rfl | cases prepares
  cases call with
  | startMalloc | startChars | startDup | startStore =>
      exact ⟨rfl, rfl, unjoined_eq⟩
  | none | startRunning | startJoinable | startJoin | startClear | startCreate
  | startUndo | startSet | stopJoinable | stopRunning | stopQuit | stopJoin
  | stopClear | stopStore => cases prepares

/-- Where memory or characters are got, the call goes on or gives up. -/
theorem Sound.startGets (sound : state.Sound) {here after : Call} {ok : Bool}
    (place : here.preparing = true) (goes : after.preparing = true)
    (taken : state.startGets here after ok = some next) : next.Sound := by
  obtain ⟨inCall, same⟩ := within_eq_some.mp taken
  cases same
  obtain ⟨hereJoinable, hereStart, hereUnjoined⟩ := Call.preparing_spec place
  obtain ⟨afterJoinable, afterStart, afterUnjoined⟩ := Call.preparing_spec goes
  have notJoinable := sound.value inCall hereJoinable
  cases ok with
  | true =>
      apply sound.move after state.isRunning state.threadJoinable
      · rw [hereUnjoined state inCall]
        exact afterUnjoined _ rfl
      · intro value known
        rw [afterJoinable] at known
        cases known
        exact notJoinable
      · intro new starts
        rw [afterStart] at starts
        rw [inCall, hereStart]
        exact starts
  | false =>
      apply sound.exit state.isRunning state.threadJoinable false
      · exact (hereUnjoined state inCall).symm
      · rw [inCall]
        exact hereStart

/-- The one value that `thread_joinable` has at a place. -/
theorem Call.only {call : Call} {joinable expected : Bool}
    (same : joinable = expected) (known : call.joinable = some expected) :
    ∀ value, call.joinable = some value → joinable = value :=
  fun _ other => same.trans (Option.some.inj (known.symm.trans other))

/-- A step of the call that leaves the workers alone. -/
theorem Sound.goes (sound : state.Sound) {here : Call}
    (inCall : state.call = here) (call : Call) (isRunning joinable : Bool)
    (same : unjoined { state with call := call, threadJoinable := joinable } =
      unjoined { state with call := here })
    (value : ∀ value, call.joinable = some value → joinable = value)
    (count : ∀ new, call.start = some new → here.start = some new) :
    Sound { state with
      call := call, threadJoinable := joinable, isRunning := isRunning } := by
  subst inCall
  exact sound.move call isRunning joinable same value count

theorem Sound.exec {label : Label} (sound : state.Sound)
    (taken : state.exec label = some next) : next.Sound := by
  cases label with
  | startLock =>
      obtain ⟨here, same⟩ := within_eq_some.mp taken
      cases same
      have unlocked := sound.goes here .none state.isRunning
        state.threadJoinable rfl nofun nofun
      exact ⟨unlocked.faultless, unlocked.fresh, unlocked.joined,
        unlocked.current, nofun, fun new starts => by cases starts; rfl,
        unlocked.returns⟩
  | startRunning =>
      obtain ⟨here, same⟩ := within_eq_some.mp taken
      cases same
      split
      · apply sound.exit state.isRunning state.threadJoinable false
        · unfold unjoined
          rw [here]
        · rw [here]
          rfl
      · exact sound.goes here .startJoinable state.isRunning
          state.threadJoinable rfl nofun fun _ starts => starts
  | startJoinable =>
      obtain ⟨here, same⟩ := within_eq_some.mp taken
      cases same
      by_cases joinable : state.threadJoinable = true
      · rw [if_pos joinable]
        exact sound.goes here .startJoin state.isRunning state.threadJoinable
          rfl (Call.only joinable rfl) fun _ starts => starts
      · rw [if_neg joinable]
        exact sound.goes here .startMalloc state.isRunning
          state.threadJoinable rfl
          (Call.only (Bool.eq_false_iff.mpr joinable) rfl)
          fun _ starts => starts
  | startJoin =>
      obtain ⟨here, joins⟩ := within_eq_some.mp taken
      have joinable := sound.value here rfl
      apply sound.pthreadJoin _ rfl _ _ joins
      · unfold unjoined
        rw [here]
        exact joinable
      · exact Call.only joinable rfl
      · rw [here]
        exact fun _ starts => starts
  | startClear =>
      obtain ⟨here, same⟩ := within_eq_some.mp taken
      cases same
      exact sound.goes here .startMalloc state.isRunning false rfl
        (Call.only rfl rfl) fun _ starts => starts
  | startMalloc ok | startChars ok | startDup ok =>
      exact sound.startGets rfl rfl taken
  | startStore =>
      obtain ⟨here, same⟩ := within_eq_some.mp taken
      cases same
      exact sound.goes here .startCreate true state.threadJoinable rfl
        (Call.only (sound.value here rfl) rfl)
        fun _ starts => starts
  | startCreate ok =>
      obtain ⟨here, same⟩ := within_eq_some.mp taken
      cases ok with
      | true =>
          cases same
          exact sound.create here
      | false =>
          cases same
          exact sound.goes here .startUndo state.isRunning
            state.threadJoinable rfl
            (Call.only (sound.value here rfl) rfl)
            fun _ starts => starts
  | startUndo =>
      obtain ⟨here, same⟩ := within_eq_some.mp taken
      cases same
      apply sound.exit false state.threadJoinable false
      · unfold unjoined
        rw [here]
      · rw [here]
        rfl
  | startSet =>
      obtain ⟨here, same⟩ := within_eq_some.mp taken
      cases same
      apply sound.exit state.isRunning true true
      · unfold unjoined
        rw [here]
      · rw [here]
        rfl
  | stopLock =>
      obtain ⟨here, same⟩ := within_eq_some.mp taken
      cases same
      exact sound.goes here .stopJoinable state.isRunning
        state.threadJoinable rfl nofun nofun
  | stopJoinable =>
      obtain ⟨here, same⟩ := within_eq_some.mp taken
      cases same
      by_cases joinable : state.threadJoinable = true
      · rw [if_pos joinable]
        exact sound.goes here .stopRunning state.isRunning
          state.threadJoinable rfl (Call.only joinable rfl) nofun
      · rw [if_neg joinable]
        exact sound.goes here .none state.isRunning state.threadJoinable rfl
          nofun nofun
  | stopRunning =>
      obtain ⟨here, same⟩ := within_eq_some.mp taken
      cases same
      have joinable := sound.value here rfl
      by_cases running : state.isRunning = true
      · rw [if_pos running]
        exact sound.goes here .stopQuit state.isRunning state.threadJoinable
          rfl (Call.only joinable rfl) nofun
      · rw [if_neg running]
        exact sound.goes here .stopJoin state.isRunning state.threadJoinable
          rfl (Call.only joinable rfl) nofun
  | stopQuit =>
      obtain ⟨here, same⟩ := within_eq_some.mp taken
      cases same
      exact sound.goes here .stopJoin state.isRunning state.threadJoinable rfl
        (Call.only (sound.value here rfl) rfl) nofun
  | stopJoin =>
      obtain ⟨here, joins⟩ := within_eq_some.mp taken
      have joinable := sound.value here rfl
      apply sound.pthreadJoin _ rfl _ _ joins
      · unfold unjoined
        rw [here]
        exact joinable
      · exact Call.only joinable rfl
      · exact nofun
  | stopClear =>
      obtain ⟨here, same⟩ := within_eq_some.mp taken
      cases same
      exact sound.goes here .stopStore state.isRunning false rfl
        (Call.only rfl rfl) nofun
  | stopStore =>
      obtain ⟨here, same⟩ := within_eq_some.mp taken
      cases same
      exact sound.goes here .none false state.threadJoinable rfl nofun nofun
  | mainReturns i => exact sound.advance (by decide) taken
  | runningClear i =>
      have cleared := sound.move state.call false state.threadJoinable rfl
        sound.joinable fun _ starts => starts
      exact cleared.advance (by decide) taken
  | threadEnds i => exact sound.advance (by decide) taken

theorem sound_invariant : Invariant system Sound where
  initial := by
    rintro state rfl
    exact ⟨rfl, fun _ _ => rfl, nofun, nofun, nofun, nofun, nofun⟩
  preserved _ _ _ sound taken := sound.exec taken

/-! ## What holds of every worker -/

/-- A worker is the last one, or has ended and is joined. -/
theorem Sound.worker_cases (sound : state.Sound) {i : Nat} {worker : Worker}
    (found : state.workers i = some worker) :
    worker = { pc := .ended, joins := 1 } ∨
      state.created = i + 1 ∧ state.workThread = some i ∧ worker.joins = 0 ∧
        state.unjoined = true := by
  have inside : i < state.created := by
    by_contra outside
    rw [sound.fresh i (Nat.le_of_not_lt outside)] at found
    cases found
  by_cases joined : i + 1 < state.created ∨ state.unjoined = false
  · rw [sound.joined i inside joined] at found
    cases found
    exact .inl rfl
  · obtain ⟨before, runs⟩ := not_or.mp joined
    have unjoined := Bool.not_eq_false _ ▸ runs
    obtain ⟨last, pc, created, workThread, worker⟩ := sound.current unjoined
    obtain rfl : i = last := by omega
    cases worker.symm.trans found
    exact .inr ⟨created, workThread, rfl, unjoined⟩

theorem Sound.workersExact (sound : state.Sound) : state.WorkersExact where
  single := by
    have last : ∀ i, state.InMain i → state.created = i + 1 := by
      rintro i ⟨worker, found, inMain⟩
      rcases sound.worker_cases found with rfl | ⟨created, _⟩
      · cases inMain
      · exact created
    intro i j first second
    have one := last i first
    have two := last j second
    omega
  created := by
    intro next taken i worker found
    obtain ⟨here, _⟩ := within_eq_some.mp taken
    rcases sound.worker_cases found with rfl | ⟨_, _, _, runs⟩
    · rfl
    · unfold unjoined at runs
      rw [here] at runs
      rw [sound.value here rfl] at runs
      cases runs
  once := by
    intro i worker found
    rcases sound.worker_cases found with rfl | ⟨_, _, joins, _⟩
    · exact Nat.le_refl 1
    · omega
  joins := by
    intro calls
    have runs : state.unjoined = true := by
      unfold unjoined
      rcases calls with here | here
      · rw [here]
        exact sound.value here rfl
      · rw [here]
        exact sound.value here rfl
    obtain ⟨i, pc, _, workThread, worker⟩ := sound.current runs
    exact ⟨i, _, workThread, worker, rfl⟩
  faultless := sound.faultless
  returns := sound.returns

/-- Whatever calls are made and fail, and whenever the workers return: one runs
at most, each is joined at most once and before the next is created, and a start
returns true exactly if it has created one. -/
theorem workers_exact (state : JniWorkers) (reached : system.Reachable state) :
    state.WorkersExact :=
  (sound_invariant.reachable reached).workersExact

/-- A worker ends by itself and is joined by the next start, which gets no
thread; a third start creates a worker. -/
theorem workers_exact_three_starts :
    ∃ state, system.Reachable state ∧
      state.starts.map Start.result = [true, false, true] ∧
      state.workers 0 = some { pc := .ended, joins := 1 } ∧
      state.workers 1 = some { pc := .main, joins := 0 } ∧
      state.WorkersExact := by
  let gets : List Label :=
    [.startMalloc true, .startChars true, .startDup true, .startStore]
  let labels : List Label :=
    [.startLock, .startRunning, .startJoinable] ++ gets ++
      [.startCreate true, .startSet, .mainReturns 0, .runningClear 0,
        .startLock, .startRunning, .startJoinable, .threadEnds 0, .startJoin,
        .startClear] ++ gets ++
      [.startCreate false, .startUndo, .startLock, .startRunning,
        .startJoinable] ++ gets ++ [.startCreate true, .startSet]
  have replayed : (labels.foldlM exec initial).map (fun state =>
      (state.starts.map Start.result, state.workers 0, state.workers 1)) =
      some ([true, false, true], some { pc := .ended, joins := 1 },
        some { pc := .main, joins := 0 }) := by
    decide
  obtain ⟨state, run, seen⟩ := System.replay _ replayed
  simp only [Prod.mk.injEq] at seen
  obtain ⟨results, first, second⟩ := seen
  have reached : system.Reachable state := ⟨initial, labels, rfl, run⟩
  exact ⟨state, reached, results, first, second, workers_exact state reached⟩

end JniWorkers

end ProxyVPN
