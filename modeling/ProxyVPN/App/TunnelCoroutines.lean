/-
Module: ProxyVPN.App.TunnelCoroutines
Purpose: What the coroutines of one instance of the tunnel service do on their
  own: a START, a STOP, and those of an instance that was destroyed.
Trusted boundary: none
Main exports: TunnelVpnService.EndsOnNew, TunnelVpnService.OnItsOwn,
  TunnelVpnService.Cleared, TunnelVpnService.Clears.step,
  TunnelVpnService.Remains.Spent.step, TunnelVpnService.StaysLate
-/
import ProxyVPN.App.TunnelLifecycle

namespace ProxyVPN

open Transition TunnelVpnService

namespace TunnelVpnService

/-- The service forwards the interface of the latest START, whose helper process
is alive, and was not stopped. -/
structure EndsOnNew (state : TunnelVpnService) : Prop where
  native : state.native = some (.tun state.starts) ∨
    state.native = some (.pair state.starts) ∧
      state.interceptor = some (state.starts, state.starts)
  vpnInterface : state.vpnInterface = some state.starts
  opened : state.starts ∈ state.tuns
  helper : ∃ kind, { kind := kind, session := state.starts } ∈ state.helpers
  running : state.stopped = false

/-! ## A START on its own -/

/-- What a START that runs on its own has by now. -/
structure NewPhase (state : TunnelVpnService) (call : StartCall) : Prop where
  session : call.session = state.starts
  running : state.stopped = false
  established : call.pc = .readFd → state.vpnInterface = none ∨
    state.vpnInterface = some call.session ∧ call.session ∈ state.tuns
  tun : call.pc = .launch ∨ call.pc.pastLaunch = true →
    state.vpnInterface = some call.session ∧ call.session ∈ state.tuns ∧
      call.fd = call.session
  helper : call.launched = true →
    ∃ kind, { kind := kind, session := call.session } ∈ state.helpers
  pair : call.pc = .readTun ∨ call.pc = .readPair →
    state.socketPair = some call.session
  tunFd : call.pc = .readPair ∨ call.pc = .startInterceptor →
    call.tunFd = call.session
  proxyFd : call.pc = .startInterceptor → call.proxyFd = call.session
  intercepted : call.pc = .nativeStart → call.settings.encryptedDns = true →
    call.proxyFd = call.session ∧
      state.interceptor = some (call.session, call.session)
  silent : call.pc ≠ .notify → call.pc ≠ .failed → state.native = none
  native : call.pc = .notify → state.native = some (.tun call.session) ∨
    state.native = some (.pair call.session) ∧
      state.interceptor = some (call.session, call.session)

/-- A START on its own goes on, has ended on its tunnel, or has failed. -/
inductive OnItsOwn (state : TunnelVpnService) : Prop where
  | going (call : StartCall) (only : state.coroutines = [.start call])
      (unended : state.started = none) (phase : state.NewPhase call)
  | ended (call : StartCall) (quiet : state.coroutines = [])
      (success : state.started = some call) (running : state.stopped = false)
      (ends : call.launched = true → state.EndsOnNew)
  | failed (only : state.coroutines = [.stop .stopNative])
      (unended : state.started = none)

theorem goto_going {state : TunnelVpnService} {coroutine : Coroutine}
    {call : StartCall} (alone : state.coroutines = [coroutine])
    (unended : state.started = none) (phase : state.NewPhase call) :
    (state.goto 0 (.start call)).OnItsOwn := by
  apply OnItsOwn.going call
  · simp [goto, alone]
  · exact unended
  · exact { phase with }

theorem NewPhase.step {state : TunnelVpnService} {call : StartCall}
    {outcome : Outcome} (alone : state.coroutines = [.start call])
    (unended : state.started = none) (phase : state.NewPhase call) :
    (state.stepStart 0 call outcome).OnItsOwn := by
  obtain ⟨session, running, established, tun, helper, pair, tunFd, proxyFd,
    intercepted, silent, native⟩ := id phase
  have failing : (state.goto 0
      (.start { call with pc := StartPc.failed })).OnItsOwn := by
    apply goto_going alone unended
    constructor <;> grind -linarith [StartPc.pastLaunch]
  unfold stepStart
  cases pcEq : call.pc with
  | check | stopNative | nullTun | startInterceptor =>
      apply goto_going
      · exact alone
      · exact unended
      · constructor <;> grind -linarith [StartPc.pastLaunch]
  | closeTun =>
      simp only
      apply goto_going
      · rw [closeTun_coroutines]
        exact alone
      · grind -linarith [closeTun]
      · constructor <;> grind -linarith [closeTun, StartPc.pastLaunch]
  | establish | writeConfig =>
      cases outcome with
      | throws => exact failing
      | ok | refused =>
          apply goto_going
          · exact alone
          · exact unended
          · constructor <;> grind -linarith [StartPc.pastLaunch]
  | socketpair | dupPair =>
      cases outcome with
      | refused | throws => exact failing
      | ok =>
          apply goto_going
          · exact alone
          · exact unended
          · constructor <;> grind -linarith [StartPc.pastLaunch]
  | readFd =>
      cases held : state.vpnInterface with
      | none => exact failing
      | some interface =>
          simp only
          split
          · apply goto_going alone unended
            constructor <;> grind -linarith [StartPc.pastLaunch]
          · exact failing
  | launch =>
      cases outcome with
      | ok =>
          cases kindEq : call.settings.helperKind <;>
          · simp only [launch, kindEq]
            apply goto_going
            · exact alone
            · exact unended
            · constructor <;> grind -linarith [StartPc.pastLaunch]
      | refused | throws =>
          apply goto_going alone unended
          constructor <;> grind -linarith [StartPc.pastLaunch]
  | readTun =>
      cases held : state.vpnInterface with
      | none => exact failing
      | some interface =>
          apply goto_going alone unended
          constructor <;> grind -linarith [StartPc.pastLaunch]
  | readPair =>
      cases held : state.socketPair with
      | none => exact failing
      | some found =>
          apply goto_going alone unended
          constructor <;> grind -linarith [StartPc.pastLaunch]
  | nativeStart =>
      simp only
      split
      · exact failing
      · split
        · exact failing
        · split <;>
          · apply goto_going
            · exact alone
            · exact unended
            · constructor <;> grind -linarith [StartPc.pastLaunch]
  | notify =>
      have forwards := native pcEq
      have interface := tun (.inr (by rw [pcEq]; rfl))
      cases outcome with
      | throws => exact failing
      | ok | refused =>
          apply OnItsOwn.ended call
          · simp [finish, alone]
          · rfl
          · exact running
          · intro launched
            rw [session] at forwards interface helper
            exact ⟨forwards, interface.1, interface.2.1, helper launched, running⟩
  | failed =>
      apply OnItsOwn.failed
      · simp [goto, alone]
      · exact unended

/-- A START that is handled with nothing in flight, and nothing left of the tunnel
before, is on its own. -/
theorem onStartCommand_onItsOwn {state : TunnelVpnService}
    {settings : Settings} (quiet : state.coroutines = [])
    (running : state.stopped = false) (silent : state.native = none) :
    (state.onStartCommand (.start settings)).OnItsOwn := by
  apply OnItsOwn.going
  · simp [onStartCommand, quiet]
    rfl
  · rfl
  · constructor <;> grind -linarith [onStartCommand, StartPc.pastLaunch]

/-- The service is not stopped under a START on its own. -/
theorem OnItsOwn.running {state : TunnelVpnService} (own : state.OnItsOwn)
    (going : ¬(state.coroutines = [.stop .stopNative] ∧ state.started = none)) :
    state.stopped = false := by
  cases own with
  | going _ _ _ phase => exact phase.running
  | ended _ _ _ running _ => exact running
  | failed only unended => exact absurd ⟨only, unended⟩ going

/-- Old processes are of no concern to a START on its own. -/
theorem OnItsOwn.of_helpers {state : TunnelVpnService} {helpers : List Helper}
    (own : state.OnItsOwn)
    (kept : ∀ helper ∈ state.helpers, helper.session = state.starts →
      helper ∈ helpers) :
    ({ state with helpers := helpers } : TunnelVpnService).OnItsOwn := by
  cases own with
  | going call only unended phase =>
      refine .going call only unended { phase with helper := ?_ }
      intro launched
      obtain ⟨kind, member⟩ := phase.helper launched
      exact ⟨kind, kept _ member phase.session⟩
  | ended call quiet success running ends =>
      refine .ended call quiet success running ?_
      intro launched
      obtain ⟨kind, member⟩ := (ends launched).helper
      exact { ends launched with helper := ⟨kind, kept _ member rfl⟩ }
  | failed only unended => exact .failed only unended

/-! ## What a STOP leaves behind -/

/-- The fields hold nothing that a later START creates, and no native service
runs. -/
structure Cleared (state : TunnelVpnService) (n : Nat) : Prop where
  native : state.native = none
  vpnInterface : state.vpnInterface = none
  socketPair : state.socketPair = none
  byedpiProcess : state.byedpiProcess = none
  xrayProcess : ∀ session, state.xrayProcess = some session → session ≤ n

/-- What `stopVpn` has cleared by now. -/
structure Clears (state : TunnelVpnService) (n : Nat) (pc : StopPc) : Prop where
  native : pc ≠ .stopNative → state.native = none
  socketPair : pc ≠ .stopNative → pc ≠ .closePair → pc ≠ .nullPair →
    state.socketPair = none
  vpnInterface : pc = .destroyByedpi ∨ pc = .destroyXray ∨ pc = .nullByedpi ∨
    pc = .stopSelf → state.vpnInterface = none
  byedpiProcess : pc = .stopSelf → state.byedpiProcess = none
  xrayProcess : ∀ session, state.xrayProcess = some session → session ≤ n

/-- `stopVpn` on its own goes on, or has cleared the service and stopped it. -/
theorem Clears.step {state : TunnelVpnService} {n : Nat} {pc : StopPc}
    (clears : state.Clears n pc) (only : state.coroutines = [.stop pc]) :
    (∃ later, (state.stepStop 0 pc).coroutines = [.stop later] ∧
        (state.stepStop 0 pc).stopped = state.stopped ∧
        (state.stepStop 0 pc).Clears n later) ∨
      ((state.stepStop 0 pc).coroutines = [] ∧
        (state.stepStop 0 pc).stopped = true ∧
        (state.stepStop 0 pc).Cleared n) := by
  obtain ⟨native, socketPair, vpnInterface, byedpiProcess, xrayProcess⟩ := clears
  cases pc with
  | stopSelf =>
      right
      refine ⟨congrArg (List.eraseIdx · 0) only, rfl, ?_⟩
      constructor <;> grind -linarith [stepStop, finish]
  | stopNative | nullPair | nullTun | nullByedpi =>
      left
      refine ⟨_, congrArg (List.set · 0 _) only, rfl, ?_⟩
      constructor <;> grind -linarith [stepStop, goto]
  | closePair =>
      left
      have alone := (closePair_coroutines state).trans only
      refine ⟨_, congrArg (List.set · 0 _) alone,
        stepStop_stopped state 0 (by rintro ⟨⟩), ?_⟩
      constructor <;> grind -linarith [stepStop, goto, closePair]
  | closeTun =>
      left
      have alone := (closeTun_coroutines state).trans only
      refine ⟨_, congrArg (List.set · 0 _) alone,
        stepStop_stopped state 0 (by rintro ⟨⟩), ?_⟩
      constructor <;> grind -linarith [stepStop, goto, closeTun]
  | destroyByedpi =>
      left
      obtain ⟨helpers, destroyed, _⟩ :=
        destroy_eq state .ciadpi state.byedpiProcess
      simp only [stepStop, destroyed]
      refine ⟨_, congrArg (List.set · 0 _) only, rfl, ?_⟩
      constructor <;> grind -linarith [goto]
  | destroyXray =>
      left
      obtain ⟨helpers, destroyed, _⟩ := destroy_eq state .xray state.xrayProcess
      simp only [stepStop, destroyed]
      refine ⟨_, congrArg (List.set · 0 _) only, rfl, ?_⟩
      constructor <;> grind -linarith [goto]

/-- On cleared fields `stopVpn` stops the native service and old processes, and
changes nothing else around the instance. -/
theorem stepStop_cleared {state : TunnelVpnService} {n : Nat} {pc : StopPc}
    (vpnInterface : state.vpnInterface = none)
    (socketPair : state.socketPair = none)
    (byedpiProcess : state.byedpiProcess = none)
    (xrayProcess : ∀ session, state.xrayProcess = some session → session ≤ n)
    (only : state.coroutines = [.stop pc]) :
    ∃ native helpers stopped coroutines,
      state.stepStop 0 pc =
        { state with
          native := native
          helpers := helpers
          stopped := stopped
          coroutines := coroutines } ∧
      (native = state.native ∨ native = none ∧ pc = .stopNative) ∧
      (∀ helper ∈ state.helpers, n < helper.session → helper ∈ helpers) ∧
      (coroutines = [] ∨ ∃ later, coroutines = [.stop later]) ∧
      (stopped = state.stopped ∨ stopped = true) := by
  have goesOn (later : StopPc) :
      state.coroutines.set 0 (.stop later) = [.stop later] := by
    rw [only]
    rfl
  cases pc with
  | stopSelf =>
      refine ⟨state.native, state.helpers, true, [], ?_, .inl rfl,
        fun _ member _ => member, .inl rfl, .inr rfl⟩
      simp [stepStop, finish, only]
  | destroyByedpi =>
      refine ⟨state.native, state.helpers, state.stopped, _, ?_, .inl rfl,
        fun _ member _ => member, .inr ⟨_, goesOn .destroyXray⟩, .inl rfl⟩
      simp only [stepStop, destroy, byedpiProcess, goto]
  | destroyXray =>
      obtain ⟨helpers, destroyed, kept⟩ :=
        destroy_eq state .xray state.xrayProcess
      refine ⟨state.native, helpers, state.stopped, _, ?_, .inl rfl, ?_,
        .inr ⟨_, goesOn .nullByedpi⟩, .inl rfl⟩
      · simp only [stepStop, destroyed, goto]
      · intro helper member young
        refine (kept helper).mpr ⟨member, ?_⟩
        intro _ known
        exact Nat.not_lt.mpr (xrayProcess _ known) young
  | closePair =>
      refine ⟨state.native, state.helpers, state.stopped, _, ?_, .inl rfl,
        fun _ member _ => member, .inr ⟨_, goesOn .nullPair⟩, .inl rfl⟩
      simp only [stepStop, closePair, socketPair, goto]
  | closeTun =>
      refine ⟨state.native, state.helpers, state.stopped, _, ?_, .inl rfl,
        fun _ member _ => member, .inr ⟨_, goesOn .nullTun⟩, .inl rfl⟩
      simp only [stepStop, closeTun, vpnInterface, goto]
  | stopNative =>
      exact ⟨none, state.helpers, state.stopped, _, rfl, .inr ⟨rfl, rfl⟩,
        fun _ member _ => member, .inr ⟨_, goesOn .closePair⟩, .inl rfl⟩
  | nullPair =>
      refine ⟨state.native, state.helpers, state.stopped, _, ?_, .inl rfl,
        fun _ member _ => member, .inr ⟨_, goesOn .closeTun⟩, .inl rfl⟩
      simp only [stepStop, ← socketPair, goto]
  | nullTun =>
      refine ⟨state.native, state.helpers, state.stopped, _, ?_, .inl rfl,
        fun _ member _ => member, .inr ⟨_, goesOn .destroyByedpi⟩, .inl rfl⟩
      simp only [stepStop, ← vpnInterface, goto]
  | nullByedpi =>
      refine ⟨state.native, state.helpers, state.stopped, _, ?_, .inl rfl,
        fun _ member _ => member, .inr ⟨_, goesOn .stopSelf⟩, .inl rfl⟩
      simp only [stepStop, ← byedpiProcess, goto]

/-! ## A STOP among other coroutines -/

/-- A step of another coroutine leaves this one where it is. -/
theorem mem_set_of_other {coroutines : List Coroutine} {i : Nat}
    {coroutine other later : Coroutine}
    (steps : coroutines[i]? = some other) (member : coroutine ∈ coroutines)
    (different : other ≠ coroutine) : coroutine ∈ coroutines.set i later := by
  obtain ⟨j, found⟩ := List.mem_iff_getElem?.mp member
  have apart : i ≠ j := by
    rintro rfl
    rw [steps] at found
    exact different (Option.some.inj found)
  apply List.mem_iff_getElem?.mpr
  exact ⟨j, by rw [List.getElem?_set_ne apart, found]⟩

theorem mem_eraseIdx_of_other {coroutines : List Coroutine} {i : Nat}
    {coroutine other : Coroutine} (steps : coroutines[i]? = some other)
    (member : coroutine ∈ coroutines) (different : other ≠ coroutine) :
    coroutine ∈ coroutines.eraseIdx i := by
  obtain ⟨j, found⟩ := List.mem_iff_getElem?.mp member
  apply List.mem_eraseIdx_iff_getElem?.mpr
  refine ⟨j, ?_, found⟩
  rintro rfl
  rw [steps] at found
  exact different (Option.some.inj found)

/-- A START takes itself further, or out, or becomes a STOP. -/
theorem stepStart_coroutines (state : TunnelVpnService) (i : Nat)
    (call : StartCall) (outcome : Outcome) :
    (∃ later, (state.stepStart i call outcome).coroutines =
        state.coroutines.set i later) ∨
      (state.stepStart i call outcome).coroutines =
        state.coroutines.eraseIdx i := by
  unfold stepStart
  cases call.pc <;> grind -linarith [goto, finish, closeTun, launch]

/-- `stopVpn` goes on, or stops the service. -/
theorem stepStop_coroutines (state : TunnelVpnService) (i : Nat)
    (pc : StopPc) :
    (∃ later, (state.stepStop i pc).coroutines =
        state.coroutines.set i (.stop later)) ∨ pc = .stopSelf := by
  cases pc with
  | stopSelf => exact .inr rfl
  | stopNative | nullPair | nullTun | nullByedpi => exact .inl ⟨_, rfl⟩
  | closePair =>
      exact .inl ⟨_, congrArg (List.set · i _) (closePair_coroutines state)⟩
  | closeTun =>
      exact .inl ⟨_, congrArg (List.set · i _) (closeTun_coroutines state)⟩
  | destroyByedpi | destroyXray =>
      exact .inl ⟨_, congrArg (List.set · i _) (destroy_coroutines state _ _)⟩

/-- A coroutine of `stopVpn` stays in flight until it stops the service. -/
theorem step_stopComing {state next : TunnelVpnService} {pc : StopPc} {i : Nat}
    {outcome : Outcome} (member : .stop pc ∈ state.coroutines)
    (running : state.stopped = false)
    (taken : exec state (.step i outcome) = some next) :
    (∃ later, .stop later ∈ next.coroutines ∧ next.stopped = false) ∨
      next.stopped = true := by
  rcases exec_step_cases taken with ⟨call, inFlight, rfl⟩ | ⟨own, inFlight, rfl⟩
  · have same := (stepStart_stopped state i call outcome).trans running
    left
    refine ⟨pc, ?_, same⟩
    rcases stepStart_coroutines state i call outcome with ⟨later, goes⟩ | goes
    · rw [goes]
      exact mem_set_of_other inFlight member (by rintro ⟨⟩)
    · rw [goes]
      exact mem_eraseIdx_of_other inFlight member (by rintro ⟨⟩)
  · by_cases last : own = .stopSelf
    · rw [last]
      exact .inr rfl
    · have same := (stepStop_stopped state i last).trans running
      rcases stepStop_coroutines state i own with ⟨later, goes⟩ | stopped
      · left
        refine ⟨later, ?_, same⟩
        rw [goes]
        exact List.mem_set (List.getElem?_eq_some_iff.mp inFlight).1 _
      · exact absurd stopped last

/-! ## Destroyed instances -/

/-- An instance that has ended, or runs `stopVpn` with nothing to close. -/
def Remains.Spent (remains : Remains) (n : Nat) : Prop :=
  remains.coroutines = [] ∨
    (∃ pc, remains.coroutines = [.stop pc]) ∧ remains.vpnInterface = none ∧
      remains.socketPair = none ∧ remains.byedpiProcess = none ∧
      ∀ session, remains.xrayProcess = some session → session ≤ n

/-- Such an instance can stop the native service, and old processes, and nothing
else around it. -/
theorem Remains.Spent.step {state after : TunnelVpnService} {remains : Remains}
    {n i : Nat} {outcome : Outcome} (spent : remains.Spent n)
    (taken : (state.swap remains).stepCancelled i outcome = some after) :
    after.remains.Spent n ∧ ∃ native helpers,
      after.swap state.remains =
        { state with native := native, helpers := helpers } ∧
      (native = state.native ∨
        native = none ∧ remains.coroutines[i]? = some (.stop .stopNative)) ∧
      ∀ helper ∈ state.helpers, n < helper.session → helper ∈ helpers := by
  rcases spent with quiet | ⟨⟨pc, only⟩, vpnInterface, socketPair, byedpi, xray⟩
  · have nothing : (state.swap remains).coroutines = [] := quiet
    simp only [stepCancelled, nothing, List.getElem?_nil] at taken
    cases taken
  · have alone : (state.swap remains).coroutines = [.stop pc] := only
    rcases i with _ | i
    · simp only [stepCancelled, alone, List.getElem?_cons_zero] at taken
      by_cases last : pc = .stopSelf
      · subst last
        cases taken
        refine ⟨.inl ?_, state.native, state.helpers, rfl, .inl rfl,
          fun _ member _ => member⟩
        simp [TunnelVpnService.remains, finish, alone]
      · have stepped : (state.swap remains).stepStop 0 pc = after := by
          cases pc <;> first | exact absurd rfl last | exact Option.some.inj taken
        obtain ⟨native, helpers, stopped, coroutines, same, calls, kept, goes,
          _⟩ := stepStop_cleared vpnInterface socketPair byedpi xray alone
        have running := stepStop_stopped (state.swap remains) 0 last
        rw [same] at running
        rw [stepped] at same
        subst same
        have running : stopped = state.stopped := running
        subst running
        constructor
        · rcases goes with quiet | going
          · exact .inl quiet
          · exact .inr ⟨going, vpnInterface, socketPair, byedpi, xray⟩
        · refine ⟨native, helpers, rfl, ?_, kept⟩
          refine calls.imp_right ?_
          rintro ⟨silent, rfl⟩
          exact ⟨silent, by rw [only]; rfl⟩
    · simp only [stepCancelled, alone, List.getElem?_cons_succ,
        List.getElem?_nil] at taken
      cases taken

/-! ## Late coroutines -/

/-- A coroutine of `stopVpn`. -/
def IsStop (coroutine : Coroutine) : Prop :=
  ∃ pc, coroutine = .stop pc

/-- A coroutine that does not call `TProxyStartService` any more. -/
def IsLate (coroutine : Coroutine) : Prop :=
  IsStop coroutine ∨ ∃ call, coroutine = .start call ∧
    (call.pc = .notify ∨ call.pc = .failed)

theorem IsStop.late {coroutine : Coroutine} (stop : IsStop coroutine) :
    IsLate coroutine := .inl stop

/-- What becomes of coroutines that are late, or of `stopVpn`. -/
structure StaysLate (state next : TunnelVpnService) : Prop where
  native : state.native = none → next.native = none
  late : ∀ coroutine ∈ next.coroutines,
    coroutine ∈ state.coroutines ∨ IsLate coroutine
  stop : (∀ coroutine ∈ state.coroutines, IsStop coroutine) →
    next.started = state.started ∧
      ∀ coroutine ∈ next.coroutines, IsStop coroutine

theorem finish_staysLate (state : TunnelVpnService) (i : Nat) :
    state.StaysLate (state.finish i) := by
  constructor
  · exact id
  · exact fun coroutine member => .inl (List.mem_of_mem_eraseIdx member)
  · intro all
    exact ⟨rfl, fun coroutine member =>
      all coroutine (List.mem_of_mem_eraseIdx member)⟩

theorem stepStop_staysLate (state : TunnelVpnService) (i : Nat) (pc : StopPc) :
    state.StaysLate (state.stepStop i pc) := by
  have goes : ∀ coroutine ∈ (state.stepStop i pc).coroutines,
      coroutine ∈ state.coroutines ∨ IsStop coroutine := by
    intro coroutine member
    rcases stepStop_coroutines state i pc with ⟨later, same⟩ | rfl
    · rw [same] at member
      exact (List.mem_or_eq_of_mem_set member).imp_right fun own => ⟨later, own⟩
    · exact .inl (List.mem_of_mem_eraseIdx member)
  constructor
  · intro silent
    cases pc <;> simp [stepStop, goto, finish, silent]
  · exact fun coroutine member => (goes coroutine member).imp_right .inl
  · intro all
    refine ⟨(stepStop_frame state i pc).2.2.2, ?_⟩
    exact fun coroutine member => (goes coroutine member).elim (all coroutine) id

theorem stepStart_staysLate {state : TunnelVpnService} {i : Nat}
    {call : StartCall} {outcome : Outcome} (member : .start call ∈ state.coroutines)
    (late : call.pc = .notify ∨ call.pc = .failed) :
    state.StaysLate (state.stepStart i call outcome) := by
  constructor
  · intro silent
    unfold stepStart
    rcases late with late | late <;> rw [late]
    · cases outcome <;> exact silent
    · exact silent
  · intro coroutine other
    unfold stepStart at other
    rcases late with late | late <;> rw [late] at other
    · cases outcome with
      | ok | refused => exact .inl (List.mem_of_mem_eraseIdx other)
      | throws =>
          refine (List.mem_or_eq_of_mem_set other).imp_right ?_
          exact fun own => .inr ⟨_, own, .inr rfl⟩
    · refine (List.mem_or_eq_of_mem_set other).imp_right ?_
      exact fun own => .inl ⟨_, own⟩
  · intro all
    obtain ⟨_, own⟩ := all _ member
    cases own

/-- Late coroutines stay late, whatever instance they are of. -/
theorem step_staysLate {state next : TunnelVpnService} {i : Nat}
    {outcome : Outcome} (late : ∀ coroutine ∈ state.coroutines, IsLate coroutine)
    (taken : exec state (.step i outcome) = some next) : state.StaysLate next := by
  rcases exec_step_cases taken with ⟨call, inFlight, rfl⟩ | ⟨pc, _, rfl⟩
  · have member := List.mem_of_getElem? inFlight
    rcases late _ member with ⟨_, own⟩ | ⟨_, ⟨⟩, late⟩
    · cases own
    · exact stepStart_staysLate member late
  · exact stepStop_staysLate state i pc

theorem stepCancelled_staysLate {state next : TunnelVpnService} {i : Nat}
    {outcome : Outcome} (late : ∀ coroutine ∈ state.coroutines, IsLate coroutine)
    (taken : state.stepCancelled i outcome = some next) :
    state.StaysLate next := by
  unfold stepCancelled at taken
  split at taken
  case h_1 => cases taken
  case h_2 call inFlight =>
    have member := List.mem_of_getElem? inFlight
    rcases late _ member with ⟨_, own⟩ | ⟨_, ⟨⟩, late⟩
    · cases own
    · split at taken
      case h_1 entered =>
        rw [entered] at late
        rcases late with late | late <;> cases late
      case h_2 =>
        cases taken
        exact finish_staysLate state i
      case h_3 =>
        cases taken
        exact stepStart_staysLate member late
  case h_3 =>
    cases taken
    exact finish_staysLate state i
  case h_4 pc _ _ =>
    cases taken
    exact stepStop_staysLate state i pc

end TunnelVpnService

end ProxyVPN
