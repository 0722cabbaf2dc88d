/-
Module: ProxyVPN.Hev.JniStopRequests
Purpose: When a stop request stays in the session it was made in: `SYNC_STOP`
  is set only by the one stop call of a session, and the session clears it in
  run unless it fails or the call comes too late.
Trusted boundary: none
Main exports: JniService.Fits, JniService.fits_invariant,
  JniService.stop_never_reaches_a_later_session
-/
import ProxyVPN.Hev.JniService
import ProxyVPN.Hev.TunnelStops

namespace ProxyVPN

open Transition

namespace JniService

/-! ## The stop call of a session -/

/-- The stop call of the session has left its flag or its byte. -/
def StopAnswered (state : JniService) : Prop :=
  state.call = .join ∨
    state.call = .quit ∧
      (state.tunnel.stops state.stopCalls).pc.answered = true

/-- The task system waits for a byte that no stop call will write. -/
def Stuck (state : JniService) : Prop :=
  state.tunnel.pc = .eventWait ∧ state.tunnel.pending = 0 ∧ state.StopAnswered

/-- The worker thread and the native call fit together, and so do the bytes and
the flag that the stop call of a session leaves. -/
structure Fits (state : JniService) : Prop where
  coherent : state.tunnel.Coherent
  joinable : state.threadJoinable = true ↔ state.worker ≠ .absent
  create : state.call = .startCreate → state.worker = .absent
  outside : state.worker ≠ .tunnel → state.tunnel.pc = .idle
  requested : state.call = .quit → state.requested = true
  pending : 0 < state.tunnel.pending →
    state.tunnel.pc ≠ .idle ∧ state.StopAnswered
  read : state.tunnel.pc = .eventRead ∨ state.tunnel.pc = .eventDone →
    state.StopAnswered
  stop : state.tunnel.tsync.stop = true →
    state.requested = true ∧ (state.checkAhead = true ∨ state.Stuck)

theorem Fits.noStaleStop {state : JniService} (fits : state.Fits) :
    state.NoStaleStop := by
  constructor
  · intro create
    have absent := fits.create create
    cases stopEq : state.tunnel.tsync.stop with
    | false => rfl
    | true =>
        rcases (fits.stop stopEq).2 with ahead | stuck
        · simp [checkAhead, absent] at ahead
        · have idle := fits.outside (by simp [absent])
          rw [stuck.1] at idle
          cases idle
  · intro _ stop
    exact (fits.stop stop).1

theorem inTaskSystem_cases {pc : TunnelSync.Pc}
    (running : pc.inTaskSystem = true) :
    pc = .eventWait ∨ pc = .eventRead ∨ pc = .eventDone := by
  cases pc with
  | eventWait => exact .inl rfl
  | eventRead => exact .inr (.inl rfl)
  | eventDone => exact .inr (.inr rfl)
  | idle | init | run | fini | close => cases running

/-! ## Steps -/

/-- A step of init, run or fini. -/
theorem Fits.tunnelStep {state next : JniService} {label : TunnelSync.Label}
    (fits : state.Fits) (allowed : state.StopInTime (.tunnel label))
    (taken : state.tunnelStep label = some next) : next.Fits := by
  obtain ⟨⟨inTunnel, ofThread⟩, stepped⟩ :=
    Option.ite_none_right_eq_some.mp taken
  obtain ⟨tunnel, tunnelTaken, rfl⟩ := Option.map_eq_some_iff.mp stepped
  have coherent : tunnel.Coherent :=
    TunnelSync.coherent_invariant.preserved _ _ _ fits.coherent tunnelTaken
  obtain ⟨_, joinable, create, outside, requested, pending, read, stop⟩ := fits
  cases label with
  | initCall | stopCall | stopWait | stopSent | stopWrite | stopStop
  | stopLeave => cases ofThread
  | initFails =>
      obtain ⟨guard, ⟨⟩⟩ := Option.ite_none_right_eq_some.mp tunnelTaken
      have clear : state.tunnel.tsync.stop = false := allowed
      constructor <;> grind -linarith [StopAnswered, Stuck, checkAhead]
  | eventTaskInit | initSend | runCheck | eventTaskRead | eventTaskClear
  | runReturns | finiClear | finiClose =>
      obtain ⟨guard, ⟨⟩⟩ := Option.ite_none_right_eq_some.mp tunnelTaken
      constructor <;> grind -linarith [StopAnswered, Stuck, checkAhead]

/-- A step of the stop call of the session. -/
theorem Fits.quit {state next : JniService} {label : TunnelSync.Label}
    (fits : state.Fits) (allowed : state.StopInTime (.quit label))
    (taken : state.quit label = some next) : next.Fits := by
  obtain ⟨⟨inQuit, ofStop⟩, stepped⟩ := Option.ite_none_right_eq_some.mp taken
  obtain ⟨tunnel, tunnelTaken, rfl⟩ := Option.map_eq_some_iff.mp stepped
  have coherent : tunnel.Coherent :=
    TunnelSync.coherent_invariant.preserved _ _ _ fits.coherent tunnelTaken
  obtain ⟨⟨_, agrees, _⟩, joinable, create, outside, requested, pending, read,
    stop⟩ := fits
  cases label with
  | initCall | eventTaskInit | initFails | initSend | runCheck | eventTaskRead
  | eventTaskClear | runReturns | finiClear | finiClose | stopCall =>
      cases ofStop
  | stopWait i =>
      obtain rfl : state.stopCalls = i := beq_iff_eq.mp ofStop
      obtain ⟨guard, entered⟩ := Option.ite_none_right_eq_some.mp tunnelTaken
      split at entered
      · cases entered
        constructor <;> assumption
      · cases entered
        refine ⟨coherent, joinable, create, outside, requested, ?_, ?_, ?_⟩ <;>
          simp only [TunnelSync.setStop] <;>
          grind -linarith [StopAnswered, Stuck, checkAhead,
            TunnelSync.StopPc.answered]
  | stopWrite i =>
      obtain rfl : state.stopCalls = i := beq_iff_eq.mp ofStop
      obtain ⟨⟨write, _⟩, ⟨⟩⟩ := Option.ite_none_right_eq_some.mp tunnelTaken
      have isOpen : state.tunnel.pc.open = true :=
        (agrees.sending state.stopCalls (by rw [write]; rfl)).2
      refine ⟨coherent, joinable, create, outside, requested, ?_, ?_, ?_⟩ <;>
        simp only [TunnelSync.setStop] <;>
        grind -linarith [StopAnswered, Stuck, checkAhead,
          TunnelSync.StopPc.answered, TunnelSync.Pc.open]
  | stopStop i =>
      obtain rfl : state.stopCalls = i := beq_iff_eq.mp ofStop
      obtain ⟨entered, ⟨⟩⟩ := Option.ite_none_right_eq_some.mp tunnelTaken
      have unanswered : ¬state.StopAnswered := by
        rintro (join | ⟨_, answered⟩)
        · rw [inQuit] at join
          cases join
        · rw [entered] at answered
          cases answered
      have noByte : state.tunnel.pending = 0 := by
        by_contra byte
        exact unanswered (pending (Nat.pos_of_ne_zero byte)).2
      refine ⟨coherent, joinable, create, outside, requested, ?_, ?_, ?_⟩
      · intro byte
        exact absurd noByte (Nat.ne_of_gt byte)
      · intro past
        exact absurd (read past) unanswered
      · intro _
        refine ⟨requested inQuit, ?_⟩
        rcases (allowed : state.checkAhead = true ∨
          state.tunnel.pc.inTaskSystem = true) with ahead | running
        · exact .inl ahead
        · right
          refine ⟨?_, noByte, .inr ⟨inQuit, ?_⟩⟩
          · change state.tunnel.pc = .eventWait
            rcases inTaskSystem_cases running with waits | past
            · exact waits
            · exact absurd (read past) unanswered
          · simp [TunnelSync.setStop, TunnelSync.StopPc.answered]
  | stopSent i | stopLeave i =>
      obtain rfl : state.stopCalls = i := beq_iff_eq.mp ofStop
      obtain ⟨guard, ⟨⟩⟩ := Option.ite_none_right_eq_some.mp tunnelTaken
      refine ⟨coherent, joinable, create, outside, requested, ?_, ?_, ?_⟩ <;>
        simp only [TunnelSync.setStop] <;>
        grind -linarith [StopAnswered, Stuck, checkAhead,
          TunnelSync.StopPc.answered]

theorem Fits.step {state next : JniService} {label : Label}
    (fits : state.Fits) (allowed : state.StopInTime label)
    (taken : exec state label = some next) : next.Fits := by
  have whole := fits
  obtain ⟨coherent, joinable, create, outside, requested, pending, read, stop⟩ :=
    fits
  cases label with
  | tunnel label => exact whole.tunnelStep allowed taken
  | quit label => exact whole.quit allowed taken
  | tunnelInit =>
      obtain ⟨guard, called⟩ := Option.ite_none_right_eq_some.mp taken
      obtain ⟨tunnel, tunnelTaken, rfl⟩ := Option.map_eq_some_iff.mp called
      have coherent : tunnel.Coherent :=
        TunnelSync.coherent_invariant.preserved _ .initCall _ coherent
          tunnelTaken
      obtain ⟨idle, ⟨⟩⟩ := Option.ite_none_right_eq_some.mp tunnelTaken
      constructor <;> grind -linarith [StopAnswered, Stuck, checkAhead]
  | stopCheck =>
      obtain ⟨guard, checked⟩ := Option.ite_none_right_eq_some.mp taken
      split at checked
      · split at checked
        · obtain ⟨tunnel, tunnelTaken, rfl⟩ :=
            Option.map_eq_some_iff.mp checked
          have coherent : tunnel.Coherent :=
            TunnelSync.coherent_invariant.preserved _ (.stopCall _) _ coherent
              tunnelTaken
          obtain ⟨absent, ⟨⟩⟩ := Option.ite_none_right_eq_some.mp tunnelTaken
          constructor <;> grind -linarith [StopAnswered, Stuck, checkAhead]
        · cases checked
          constructor <;> grind -linarith [StopAnswered, Stuck, checkAhead]
      · cases checked
        constructor <;> grind -linarith [StopAnswered, Stuck, checkAhead]
  | startLock | startCheck | stopLock | quitReturns | stopJoin | tunnelReturns
  | runningClear =>
      obtain ⟨guard, ⟨⟩⟩ := Option.ite_none_right_eq_some.mp taken
      constructor <;>
        grind -linarith [StopAnswered, Stuck, checkAhead,
          TunnelSync.StopPc.answered]
  | startJoin =>
      obtain ⟨guard, joined⟩ := Option.ite_none_right_eq_some.mp taken
      split at joined
      · obtain ⟨ended, ⟨⟩⟩ := Option.ite_none_right_eq_some.mp joined
        constructor <;> grind -linarith [StopAnswered, Stuck, checkAhead]
      · cases joined
        constructor <;> grind -linarith [StopAnswered, Stuck, checkAhead]
  | startCreate created =>
      obtain ⟨guard, made⟩ := Option.ite_none_right_eq_some.mp taken
      split at made
      · cases made
        constructor <;> grind -linarith [StopAnswered, Stuck, checkAhead]
      · cases made
        constructor <;> grind -linarith [StopAnswered, Stuck, checkAhead]
  | configInit ok | loggerInit ok | socks5LoggerInit ok | taskSystemInit ok =>
      obtain ⟨guard, ⟨⟩⟩ := Option.ite_none_right_eq_some.mp taken
      cases ok with
      | true =>
          constructor <;> grind -linarith [StopAnswered, Stuck, checkAhead]
      | false =>
          have clear : state.tunnel.tsync.stop = false := allowed
          constructor <;> grind -linarith [StopAnswered, Stuck, checkAhead]

/-! ## Whole runs -/

theorem fits_invariant : Invariant (system.restrict StopInTime) Fits where
  initial := by
    rintro state rfl
    constructor
    · exact TunnelSync.coherent_invariant.initial _ rfl
    all_goals simp [initial, TunnelSync.initial]
  preserved := by
    rintro state label next fits ⟨allowed, taken⟩
    exact fits.step allowed taken

/-- In every run in which a stop call sets `SYNC_STOP` only in time and no stage
fails with `SYNC_STOP` set, no stop request is left for a later session. -/
theorem stop_never_reaches_a_later_session (state : JniService)
    (reached : (system.restrict StopInTime).Reachable state) :
    state.NoStaleStop :=
  (fits_invariant.reachable reached).noStaleStop

/-- A stop during init is taken by run, and the next thread finds the flag
clear. -/
theorem stop_during_init_stays_in_session :
    ∃ state, (system.restrict StopInTime).Reachable state ∧
      state.tunnel.session = 1 ∧ state.stopCalls = 1 ∧
      state.call = .startCreate ∧ state.tunnel.tsync.stop = false := by
  let labels : List Label :=
    [.startLock, .startCheck, .startJoin, .startCreate true, .configInit true,
      .loggerInit true, .socks5LoggerInit true, .taskSystemInit true,
      .tunnelInit, .stopLock, .stopCheck, .quit (.stopWait 1),
      .quit (.stopStop 1), .quit (.stopLeave 1), .quitReturns,
      .tunnel .eventTaskInit, .tunnel .initSend, .tunnel .runCheck,
      .tunnel .finiClear, .tunnel .finiClose, .tunnelReturns, .runningClear,
      .stopJoin, .startLock, .startCheck, .startJoin]
  have replayed : (labels.foldlM (fun (state : JniService) label =>
      if state.StopInTime label then exec state label else none) initial).map
        (fun (state : JniService) =>
          (state.tunnel.session, state.stopCalls, state.call)) =
            some (1, 1, .startCreate) := by
    decide +kernel
  obtain ⟨state, taken, seen⟩ := System.replay_restrict _ replayed
  simp only [Prod.mk.injEq] at seen
  obtain ⟨session, stopCalls, create⟩ := seen
  have reached : (system.restrict StopInTime).Reachable state :=
    ⟨initial, labels, rfl, taken⟩
  exact ⟨state, reached, session, stopCalls, create,
    (stop_never_reaches_a_later_session state reached).create create⟩

/-- The session has failed in its first stage when the stop call comes; the flag
that the call sets is there when the next thread is created. -/
theorem stop_of_failed_session_reaches_the_next :
    ¬∀ state, system.Reachable state → state.NoStaleStop := by
  intro never
  let labels : List Label :=
    [.startLock, .startCheck, .startJoin, .startCreate true, .configInit false,
      .stopLock, .stopCheck, .quit (.stopWait 1), .quit (.stopStop 1),
      .quit (.stopLeave 1), .quitReturns, .runningClear, .stopJoin, .startLock,
      .startCheck, .startJoin]
  have replayed : (labels.foldlM exec initial).map
      (fun state => (state.call, state.tunnel.tsync.stop)) =
        some (.startCreate, true) := by
    decide +kernel
  obtain ⟨state, taken, seen⟩ := System.replay _ replayed
  simp only [Prod.mk.injEq] at seen
  have clear := (never state ⟨initial, labels, rfl, taken⟩).create seen.1
  rw [seen.2] at clear
  cases clear

end JniService

end ProxyVPN
