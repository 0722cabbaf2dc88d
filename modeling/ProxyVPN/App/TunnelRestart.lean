/-
Module: ProxyVPN.App.TunnelRestart
Purpose: What the commands of the tunnel service leave behind when each is
  processed to completion before the next.
Trusted boundary: none
Main exports: TunnelVpnService.Clean, TunnelVpnService.Orderly,
  TunnelVpnService.no_resource_survives
-/
import ProxyVPN.App.TunnelSteps

namespace ProxyVPN

open Transition

namespace TunnelVpnService

/-! ## The property and its condition -/

/-- What is alive or open belongs to the latest START, and nothing is after a
STOP. -/
structure Clean (state : TunnelVpnService) : Prop where
  oneHelper : state.helpers.length ≤ 1
  helpers : ∀ helper ∈ state.helpers,
    helper.session = state.starts ∧ state.lastCommand ≠ some .stop
  tuns : ∀ tun ∈ state.tuns,
    tun = state.starts ∧ state.lastCommand ≠ some .stop
  pairs : ∀ pair ∈ state.pairs,
    pair = state.starts ∧ state.lastCommand ≠ some .stop

/-- A command is delivered when the one before it is done. -/
def Sequential (state : TunnelVpnService) : Label → Prop
  | .deliver _ => state.coroutines = []
  | .step _ _ => True

/-- A START that gets to its helper program finds no helper process alive and
no socket pair in its field. -/
def LaunchesAlone (state : TunnelVpnService) : Label → Prop
  | .deliver _ => True
  | .step i _ =>
      match state.coroutines[i]? with
      | some (.start call) =>
          call.pc = .launch → state.helpers = [] ∧ state.socketPair = none
      | _ => True

/-- No command follows a START that called `Os.socketpair`. -/
def BeforeRawPair (state : TunnelVpnService) : Label → Prop
  | .deliver _ => state.rawPairs = []
  | .step _ _ => True

/-- The descriptors of `Os.socketpair` itself belong to the latest START too. -/
def RawClean (state : TunnelVpnService) : Prop :=
  ∀ pair ∈ state.rawPairs,
    pair = state.starts ∧ state.lastCommand ≠ some .stop

/-- A process or a socket pair of an earlier START is there. -/
def HoldsEarlier (state : TunnelVpnService) : Prop :=
  (∃ helper ∈ state.helpers, helper.session ≠ state.starts) ∨
    ∃ pair ∈ state.pairs, pair ≠ state.starts

instance (state : TunnelVpnService) (label : Label) :
    Decidable (state.Sequential label) :=
  match label with
  | .deliver _ => inferInstanceAs (Decidable (state.coroutines = []))
  | .step _ _ => inferInstanceAs (Decidable True)

instance (state : TunnelVpnService) (label : Label) :
    Decidable (state.LaunchesAlone label) := by
  unfold LaunchesAlone
  cases label with
  | deliver _ => exact inferInstanceAs (Decidable True)
  | step i _ =>
      simp only
      split
      · infer_instance
      · exact inferInstanceAs (Decidable True)

/-! ## What the fields know -/

/-- Everything open or alive is held by the field for it. -/
structure Referenced (state : TunnelVpnService) : Prop where
  tuns : ∀ tun ∈ state.tuns, state.vpnInterface = some tun
  pairs : ∀ pair ∈ state.pairs, state.socketPair = some pair
  ciadpi : ∀ session, { kind := .ciadpi, session := session } ∈ state.helpers →
    state.byedpiProcess = some session
  xray : ∀ session, { kind := .xray, session := session } ∈ state.helpers →
    state.xrayProcess = some session

/-- Nothing is open or alive. -/
structure Released (state : TunnelVpnService) : Prop where
  tuns : state.tuns = []
  pairs : state.pairs = []
  helpers : state.helpers = []

/-- How far a START has got. -/
structure StartPhase (state : TunnelVpnService) (call : StartCall) : Prop where
  session : call.session = state.starts
  command : state.lastCommand ≠ some .stop
  created : state.stopped = false
  closed : call.pc = .nullTun ∨ call.pc = .establish → state.tuns = []
  tuns : call.pc = .readFd ∨ call.pc = .launch ∨ call.pc.pastLaunch = true →
    ∀ tun ∈ state.tuns, tun = call.session
  pairs : call.pc.pastLaunch = true → ∀ pair ∈ state.pairs, pair = call.session
  unpaired : call.pc = .writeConfig ∨ call.pc = .socketpair ∨
    call.pc = .dupPair → state.pairs = []
  oneHelper : call.pc.pastLaunch = true → state.helpers.length ≤ 1
  helpers : call.pc.pastLaunch = true →
    ∀ helper ∈ state.helpers, helper.session = call.session

/-- How far `stopVpn` has got. -/
structure StopPhase (state : TunnelVpnService) (pc : StopPc) : Prop where
  pairs : pc ≠ .stopNative → pc ≠ .closePair → state.pairs = []
  tuns : pc ≠ .stopNative → pc ≠ .closePair → pc ≠ .nullPair →
    pc ≠ .closeTun → state.tuns = []
  ciadpi : pc = .destroyXray → ∀ helper ∈ state.helpers, helper.kind = .xray
  helpers : pc = .nullByedpi ∨ pc = .stopSelf → state.helpers = []

/-- At most one coroutine is in flight, and it has got where it is. -/
def Orderly (state : TunnelVpnService) : Prop :=
  state.Referenced ∧
    match state.coroutines with
    | [] => state.Clean ∧ (state.stopped = true → state.Released)
    | [.start call] => state.StartPhase call
    | [.stop pc] => state.StopPhase pc
    | _ => False

/-! ## Closing what the fields hold -/

theorem Referenced.tuns_nil {state : TunnelVpnService}
    (referenced : state.Referenced) (gone : state.vpnInterface = none) :
    state.tuns = [] := by
  apply List.eq_nil_iff_forall_not_mem.mpr
  intro tun member
  have held := referenced.tuns tun member
  rw [gone] at held
  cases held

theorem Referenced.pairs_nil {state : TunnelVpnService}
    (referenced : state.Referenced) (gone : state.socketPair = none) :
    state.pairs = [] := by
  apply List.eq_nil_iff_forall_not_mem.mpr
  intro pair member
  have held := referenced.pairs pair member
  rw [gone] at held
  cases held

theorem closeTun_eq {state : TunnelVpnService} (referenced : state.Referenced) :
    state.closeTun = { state with tuns := [] } := by
  unfold closeTun
  cases held : state.vpnInterface with
  | none =>
      have closed := referenced.tuns_nil held
      cases state
      cases held
      cases closed
      rfl
  | some tun =>
      have closed : state.tuns.filter (· ≠ tun) = [] := by
        apply List.filter_eq_nil_iff.mpr
        intro other member
        have holds := referenced.tuns other member
        rw [held] at holds
        cases holds
        simp
      simp only [closed]

theorem closePair_eq {state : TunnelVpnService}
    (referenced : state.Referenced) :
    state.closePair = { state with pairs := [] } := by
  unfold closePair
  cases held : state.socketPair with
  | none =>
      have closed := referenced.pairs_nil held
      cases state
      cases held
      cases closed
      rfl
  | some pair =>
      have closed : state.pairs.filter (· ≠ pair) = [] := by
        apply List.filter_eq_nil_iff.mpr
        intro other member
        have holds := referenced.pairs other member
        rw [held] at holds
        cases holds
        simp
      simp only [closed]

/-! ## One step -/

/-- Behind the launch, a START that has no pair to make keeps what it has. -/
theorem StartPhase.proceed {state : TunnelVpnService} {call later : StartCall}
    (phase : state.StartPhase call) (past : call.pc.pastLaunch = true)
    (same : later.session = call.session)
    (target : later.pc = .readPair ∨ later.pc = .startInterceptor ∨
      later.pc = .nativeStart ∨ later.pc = .notify) :
    state.StartPhase later := by
  constructor
  case session => exact same.trans phase.session
  case command => exact phase.command
  case created => exact phase.created
  case closed => grind -linarith
  case tuns =>
    intro _
    rw [same]
    exact phase.tuns (.inr (.inr past))
  case pairs =>
    intro _
    rw [same]
    exact phase.pairs past
  case unpaired => grind -linarith
  case oneHelper => exact fun _ => phase.oneHelper past
  case helpers =>
    intro _
    rw [same]
    exact phase.helpers past

/-- A START that failed, or has closed nothing yet, owes nothing. -/
theorem StartPhase.owesNothing {state : TunnelVpnService}
    {call later : StartCall} (phase : state.StartPhase call)
    (same : later.session = call.session)
    (target : later.pc = .stopNative ∨ later.pc = .closeTun ∨
      later.pc = .failed) : state.StartPhase later := by
  have notPast : later.pc.pastLaunch = false := by
    rcases target with target | target | target <;> rw [target] <;> rfl
  constructor
  case session => exact same.trans phase.session
  case command => exact phase.command
  case created => exact phase.created
  all_goals grind -linarith

theorem goto_start_orderly {state : TunnelVpnService} {coroutine : Coroutine}
    {call : StartCall} (alone : state.coroutines = [coroutine])
    (referenced : state.Referenced) (phase : state.StartPhase call) :
    (state.goto 0 (.start call)).Orderly := by
  constructor
  · exact ⟨referenced.tuns, referenced.pairs, referenced.ciadpi, referenced.xray⟩
  · simp only [goto, alone, List.set_cons_zero]
    exact { phase with }

theorem goto_stop_orderly {state : TunnelVpnService} {coroutine : Coroutine}
    {pc : StopPc} (alone : state.coroutines = [coroutine])
    (referenced : state.Referenced) (phase : state.StopPhase pc) :
    (state.goto 0 (.stop pc)).Orderly := by
  constructor
  · exact ⟨referenced.tuns, referenced.pairs, referenced.ciadpi, referenced.xray⟩
  · simp only [goto, alone, List.set_cons_zero]
    exact { phase with }

theorem stepStop_orderly {state : TunnelVpnService} {pc : StopPc}
    (referenced : state.Referenced) (phase : state.StopPhase pc)
    (alone : state.coroutines = [.stop pc]) : (state.stepStop 0 pc).Orderly := by
  have tunClosed := closeTun_eq referenced
  have pairClosed := closePair_eq referenced
  obtain ⟨tuns, pairs, ciadpi, xray⟩ := id referenced
  obtain ⟨pairsClosed, tunsClosed, onlyXray, destroyed⟩ := phase
  cases pc with
  | stopNative | nullPair | nullTun | nullByedpi =>
      apply goto_stop_orderly
      · exact alone
      · constructor <;> grind -linarith
      · constructor <;> grind -linarith
  | closePair =>
      rw [stepStop, pairClosed]
      apply goto_stop_orderly
      · exact alone
      · constructor <;> grind -linarith
      · constructor <;> grind -linarith
  | closeTun =>
      rw [stepStop, tunClosed]
      apply goto_stop_orderly
      · exact alone
      · constructor <;> grind -linarith
      · constructor <;> grind -linarith
  | destroyByedpi =>
      obtain ⟨helpers, destroyedEq, left⟩ :=
        destroy_eq state .ciadpi state.byedpiProcess
      rw [stepStop, destroyedEq]
      apply goto_stop_orderly
      · exact alone
      · constructor <;> grind -linarith
      · constructor
        · grind -linarith
        · grind -linarith
        · intro _ helper member
          obtain ⟨survives, notHeld⟩ := (left helper).mp member
          cases helper with
          | mk kind session =>
              cases kind with
              | ciadpi => exact absurd (ciadpi session survives) (notHeld rfl)
              | xray => rfl
        · grind -linarith
  | destroyXray =>
      obtain ⟨helpers, destroyedEq, left⟩ :=
        destroy_eq state .xray state.xrayProcess
      rw [stepStop, destroyedEq]
      apply goto_stop_orderly
      · exact alone
      · constructor <;> grind -linarith
      · constructor
        · grind -linarith
        · grind -linarith
        · grind -linarith
        · intro _
          apply List.eq_nil_iff_forall_not_mem.mpr
          intro helper member
          obtain ⟨survives, notHeld⟩ := (left helper).mp member
          cases helper with
          | mk kind session =>
              cases onlyXray rfl _ survives
              exact notHeld rfl (xray session survives)
  | stopSelf =>
      have helpersGone := destroyed (.inr rfl)
      have pairsGone := pairsClosed (by rintro ⟨⟩) (by rintro ⟨⟩)
      have tunsGone := tunsClosed (by rintro ⟨⟩) (by rintro ⟨⟩) (by rintro ⟨⟩)
        (by rintro ⟨⟩)
      constructor
      · exact ⟨tuns, pairs, ciadpi, xray⟩
      · simp only [stepStop, finish, alone, List.eraseIdx_cons_zero]
        constructor
        · constructor <;> simp [helpersGone, pairsGone, tunsGone]
        · intro _
          exact ⟨tunsGone, pairsGone, helpersGone⟩

theorem stepStart_orderly {state : TunnelVpnService} {call : StartCall}
    {outcome : Outcome} (referenced : state.Referenced)
    (phase : state.StartPhase call)
    (alone : state.coroutines = [.start call])
    (launches : call.pc = .launch →
      state.helpers = [] ∧ state.socketPair = none) :
    (state.stepStart 0 call outcome).Orderly := by
  have tunClosed := closeTun_eq referenced
  have tunsNil := referenced.tuns_nil
  have pairsNil := referenced.pairs_nil
  obtain ⟨tuns, pairs, ciadpi, xray⟩ := id referenced
  obtain ⟨session, command, created, closed, tunsOwn, pairsOwn, unpaired,
    oneHelper, helpersOwn⟩ := id phase
  have failing : ∀ {pc}, pc = StartPc.failed →
      (state.goto 0 (.start { call with pc := pc })).Orderly := by
    rintro pc rfl
    exact goto_start_orderly alone referenced
      (phase.owesNothing rfl (.inr (.inr rfl)))
  unfold stepStart
  cases pcEq : call.pc with
  | check =>
      apply goto_start_orderly
      · exact alone
      · exact referenced
      cases held : state.vpnInterface with
      | none => constructor <;> grind -linarith [StartPc.pastLaunch]
      | some tun => exact phase.owesNothing rfl (.inl rfl)
  | stopNative =>
      have closing : state.StartPhase { call with pc := .closeTun } :=
        phase.owesNothing rfl (.inr (.inl rfl))
      apply goto_start_orderly
      · exact alone
      · exact ⟨tuns, pairs, ciadpi, xray⟩
      · exact { closing with }
  | startInterceptor =>
      have past : call.pc.pastLaunch = true := by rw [pcEq]; rfl
      have starting : state.StartPhase { call with pc := .nativeStart } :=
        phase.proceed past rfl (.inr (.inr (.inl rfl)))
      apply goto_start_orderly
      · exact alone
      · exact ⟨tuns, pairs, ciadpi, xray⟩
      · exact { starting with }
  | nullTun =>
      apply goto_start_orderly
      · exact alone
      · constructor <;> grind -linarith
      · constructor <;> grind -linarith [StartPc.pastLaunch]
  | closeTun =>
      simp only [tunClosed]
      apply goto_start_orderly
      · exact alone
      · constructor <;> grind -linarith
      · constructor <;> grind -linarith [StartPc.pastLaunch]
  | establish =>
      cases outcome with
      | throws => exact failing rfl
      | ok | refused =>
          apply goto_start_orderly
          · exact alone
          · constructor <;> grind -linarith
          · constructor <;> grind -linarith [StartPc.pastLaunch]
  | writeConfig =>
      cases outcome with
      | throws => exact failing rfl
      | ok | refused =>
          apply goto_start_orderly
          · exact alone
          · exact referenced
          constructor <;> grind -linarith [StartPc.pastLaunch]
  | socketpair =>
      cases outcome with
      | refused | throws => exact failing rfl
      | ok =>
          apply goto_start_orderly
          · exact alone
          · exact ⟨tuns, pairs, ciadpi, xray⟩
          · constructor <;> grind -linarith [StartPc.pastLaunch]
  | dupPair =>
      cases outcome with
      | refused | throws => exact failing rfl
      | ok =>
          apply goto_start_orderly
          · exact alone
          · constructor <;> grind -linarith
          · constructor <;> grind -linarith [StartPc.pastLaunch]
  | readFd =>
      cases held : state.vpnInterface with
      | none => exact failing rfl
      | some tun =>
          simp only
          split
          · apply goto_start_orderly
            · exact alone
            · exact referenced
            constructor <;> grind -linarith [StartPc.pastLaunch]
          · exact failing rfl
  | readTun =>
      have past : call.pc.pastLaunch = true := by rw [pcEq]; rfl
      cases held : state.vpnInterface with
      | none => exact failing rfl
      | some tun =>
          exact goto_start_orderly alone referenced
            (phase.proceed past rfl (.inl rfl))
  | readPair =>
      have past : call.pc.pastLaunch = true := by rw [pcEq]; rfl
      cases held : state.socketPair with
      | none => exact failing rfl
      | some pair =>
          exact goto_start_orderly alone referenced
            (phase.proceed past rfl (.inr (.inl rfl)))
  | launch =>
      obtain ⟨noHelper, noPair⟩ := launches pcEq
      have noPairs := pairsNil noPair
      cases outcome with
      | ok =>
          cases kindEq : call.settings.helperKind <;>
          · simp only [launch, kindEq]
            apply goto_start_orderly
            · exact alone
            · constructor <;> grind -linarith
            · constructor <;> grind -linarith [StartPc.pastLaunch]
      | refused | throws =>
          apply goto_start_orderly
          · exact alone
          · exact referenced
          constructor <;> grind -linarith [StartPc.pastLaunch]
  | nativeStart =>
      have past : call.pc.pastLaunch = true := by rw [pcEq]; rfl
      have notifying : state.StartPhase { call with pc := .notify } :=
        phase.proceed past rfl (.inr (.inr (.inr rfl)))
      simp only
      split
      · exact failing rfl
      · split
        · exact failing rfl
        · split <;>
          · apply goto_start_orderly
            · exact alone
            · exact ⟨tuns, pairs, ciadpi, xray⟩
            · exact { notifying with }
  | notify =>
      cases outcome with
      | throws => exact failing rfl
      | ok | refused =>
          constructor
          · exact ⟨tuns, pairs, ciadpi, xray⟩
          · simp only [finish, alone, List.eraseIdx_cons_zero]
            constructor
            · constructor <;> grind -linarith [StartPc.pastLaunch]
            · intro stopped
              rw [created] at stopped
              cases stopped
  | failed =>
      apply goto_stop_orderly
      · exact alone
      · exact referenced
      constructor <;> grind -linarith

/-! ## Whole runs -/

theorem deliver_orderly {state : TunnelVpnService} {command : Command}
    (orderly : state.Orderly) (quiet : state.coroutines = []) :
    (state.create.onStartCommand command).Orderly := by
  obtain ⟨referenced, rest⟩ := orderly
  rw [quiet] at rest
  obtain ⟨clean, released⟩ := rest
  have createdReferenced : state.create.Referenced := by
    unfold create
    split
    case isTrue stopped =>
      obtain ⟨tuns, pairs, helpers⟩ := released stopped
      constructor <;> simp [tuns, pairs, helpers]
    case isFalse => exact referenced
  have createdQuiet : state.create.coroutines = [] := by
    unfold create
    split
    · exact quiet
    · exact quiet
  have created : state.create.stopped = false := by
    unfold create
    split
    case isTrue => rfl
    case isFalse running => simpa using running
  obtain ⟨tuns, pairs, ciadpi, xray⟩ := createdReferenced
  cases command with
  | start settings =>
      constructor
      · exact ⟨tuns, pairs, ciadpi, xray⟩
      · simp only [onStartCommand, createdQuiet, List.nil_append]
        constructor <;> grind -linarith [StartPc.pastLaunch]
  | stop =>
      constructor
      · exact ⟨tuns, pairs, ciadpi, xray⟩
      · simp only [onStartCommand, createdQuiet, List.nil_append]
        constructor <;> grind -linarith

/-- A sequential step takes place in the only coroutine there is. -/
theorem only_coroutine {state next : TunnelVpnService} {i : Nat}
    {outcome : Outcome} (orderly : state.Orderly)
    (taken : exec state (.step i outcome) = some next) :
    i = 0 ∧ ((∃ call, state.coroutines = [.start call]) ∨
      ∃ pc, state.coroutines = [.stop pc]) := by
  obtain ⟨_, phase⟩ := orderly
  cases inFlight : state.coroutines with
  | nil => exact absurd taken (not_step_of_quiet inFlight)
  | cons first rest =>
      rw [inFlight] at phase
      cases rest with
      | cons second rest => cases first <;> cases phase
      | nil =>
          cases step_only inFlight taken
          cases first with
          | start call => exact ⟨rfl, .inl ⟨call, rfl⟩⟩
          | stop pc => exact ⟨rfl, .inr ⟨pc, rfl⟩⟩

theorem orderly_invariant :
    Invariant (system.restrict fun state label =>
      state.Sequential label ∧ state.LaunchesAlone label) Orderly where
  initial := by
    rintro state rfl
    constructor
    · constructor <;> simp [initial]
    · constructor
      · constructor <;> simp [initial]
      · intro _
        exact ⟨rfl, rfl, rfl⟩
  preserved := by
    rintro state label next orderly ⟨⟨sequential, launches⟩, taken⟩
    cases label with
    | deliver command =>
        cases taken
        exact deliver_orderly orderly sequential
    | step i outcome =>
        obtain ⟨rfl, inFlight⟩ := only_coroutine orderly taken
        obtain ⟨referenced, phase⟩ := orderly
        rcases inFlight with ⟨call, only⟩ | ⟨pc, only⟩
        · rw [exec_start only taken]
          rw [only] at phase
          unfold LaunchesAlone at launches
          rw [only] at launches
          exact stepStart_orderly referenced phase only launches
        · rw [exec_stop only taken]
          rw [only] at phase
          exact stepStop_orderly referenced phase only

theorem Orderly.clean {state : TunnelVpnService} (orderly : state.Orderly)
    (quiet : state.coroutines = []) : state.Clean := by
  obtain ⟨_, rest⟩ := orderly
  rw [quiet] at rest
  exact rest.1

/-- While no command follows a START that called `Os.socketpair`, the raw
descriptors are those of the latest START. -/
theorem rawClean_invariant :
    Invariant (system.restrict fun state label =>
      state.Sequential label ∧ state.LaunchesAlone label ∧
        state.BeforeRawPair label)
      (fun state => state.Orderly ∧ state.RawClean) where
  initial := by
    rintro state rfl
    refine ⟨orderly_invariant.initial _ rfl, ?_⟩
    intro pair member
    cases member
  preserved := by
    rintro state label next ⟨orderly, rawClean⟩
      ⟨⟨sequential, launches, before⟩, taken⟩
    refine ⟨orderly_invariant.preserved _ _ _ orderly
      ⟨⟨sequential, launches⟩, taken⟩, ?_⟩
    cases label with
    | deliver command =>
        cases taken
        have created : state.create.rawPairs = [] := by
          unfold create
          split
          · exact before
          · exact before
        intro pair member
        cases command <;>
        · simp only [onStartCommand, created] at member
          cases member
    | step i outcome =>
        obtain ⟨rfl, inFlight⟩ := only_coroutine orderly taken
        obtain ⟨_, phase⟩ := orderly
        rcases inFlight with ⟨call, only⟩ | ⟨pc, only⟩
        · rw [exec_start only taken]
          rw [only] at phase
          obtain ⟨starts, command, _, _, raw⟩ :=
            stepStart_frame state 0 call outcome
          intro pair member
          rw [starts, command]
          rcases raw pair member with rfl | old
          · exact ⟨phase.session, phase.command⟩
          · exact rawClean pair old
        · rw [exec_stop only taken]
          obtain ⟨starts, command, raw, _⟩ := stepStop_frame state 0 pc
          intro pair member
          rw [raw] at member
          rw [starts, command]
          exact rawClean pair member

/-! ## A START over an earlier one -/

/-- A START goes on over something of an earlier one, has ended so, or has
failed. -/
inductive GoesOn (state : TunnelVpnService) : Prop where
  | start (call : StartCall) (only : state.coroutines = [.start call])
      (holds : state.HoldsEarlier) (unended : state.started = none)
  | ended (quiet : state.coroutines = []) (holds : state.HoldsEarlier)
  | stop (pc : StopPc) (only : state.coroutines = [.stop pc])
      (failed : state.started = none)
  | stopped (quiet : state.coroutines = []) (failed : state.started = none)

theorem HoldsEarlier.step {state : TunnelVpnService} {i : Nat}
    {call : StartCall} {outcome : Outcome} (holds : state.HoldsEarlier) :
    (state.stepStart i call outcome).HoldsEarlier := by
  obtain ⟨starts, _, helpers, pairs, _⟩ := stepStart_frame state i call outcome
  unfold HoldsEarlier
  rw [starts]
  rcases holds with ⟨helper, member, earlier⟩ | ⟨pair, member, earlier⟩
  · exact .inl ⟨helper, helpers helper member, earlier⟩
  · exact .inr ⟨pair, pairs pair member, earlier⟩

theorem GoesOn.step {state next : TunnelVpnService} {i : Nat}
    {outcome : Outcome} (goesOn : state.GoesOn)
    (taken : exec state (.step i outcome) = some next) : next.GoesOn := by
  cases goesOn with
  | start call only holds unended =>
      cases step_only only taken
      rw [exec_start only taken]
      rcases stepStart_shape outcome only with
        ⟨later, goes, same⟩ | quiet | ⟨failed, same⟩
      · exact .start later goes holds.step (same.trans unended)
      · exact .ended quiet holds.step
      · exact .stop .stopNative failed (same.trans unended)
  | stop pc only failed =>
      cases step_only only taken
      rw [exec_stop only taken]
      have same := (stepStop_frame state 0 pc).2.2.2
      rcases stepStop_shape only with ⟨later, goes⟩ | quiet
      · exact .stop later goes (same.trans failed)
      · exact .stopped quiet (same.trans failed)
  | ended quiet _ | stopped quiet _ => exact absurd taken (not_step_of_quiet quiet)

/-- A START that gets to its notification over something of an earlier one has
left it behind. -/
theorem unclean_of_holdsEarlier {state last : TunnelVpnService}
    {call : StartCall} {labels : List Label}
    (only : state.coroutines = [.start call]) (unended : state.started = none)
    (holds : state.HoldsEarlier)
    (taken : (system.restrict Undelivered).Run state labels last)
    (succeeded : last.started ≠ none) (quiet : last.coroutines = []) :
    ¬last.Clean := by
  have goesOn : last.GoesOn := by
    refine taken.preserves ?_ (.start call only holds unended)
    rintro middle label next before ⟨undelivered, stepped⟩
    cases label with
    | deliver command => cases undelivered
    | step i outcome => exact before.step stepped
  cases goesOn with
  | start _ going _ _ | stop _ going _ =>
      rw [quiet] at going
      cases going
  | stopped _ failed => exact absurd failed succeeded
  | ended _ earlier =>
      intro clean
      rcases earlier with ⟨helper, member, other⟩ | ⟨pair, member, other⟩
      · exact other (clean.helpers helper member).1
      · exact other (clean.pairs pair member).1

/-- While every START that gets to its helper program finds no helper process
and no socket pair, each command leaves only what belongs to the latest START,
and a STOP leaves nothing; the raw descriptors are among that as long as no
command follows a START that made them.  A START over something of an earlier
one that gets to its notification leaves that behind. -/
theorem no_resource_survives (state : TunnelVpnService) :
    ((system.restrict fun state label =>
        state.Sequential label ∧ state.LaunchesAlone label).Reachable state →
      state.coroutines = [] → state.Clean) ∧
    ((system.restrict fun state label =>
        state.Sequential label ∧ state.LaunchesAlone label ∧
          state.BeforeRawPair label).Reachable state →
      state.coroutines = [] → state.Clean ∧ state.RawClean) ∧
    ∀ call labels last, state.coroutines = [.start call] →
      state.started = none → state.HoldsEarlier →
      (system.restrict Undelivered).Run state labels last →
      last.started ≠ none → last.coroutines = [] → ¬last.Clean := by
  refine ⟨?_, ?_, ?_⟩
  · intro reached quiet
    exact (orderly_invariant.reachable reached).clean quiet
  · intro reached quiet
    obtain ⟨orderly, rawClean⟩ := rawClean_invariant.reachable reached
    exact ⟨orderly.clean quiet, rawClean⟩
  · intro call labels last only unended holds taken succeeded quiet
    exact unclean_of_holdsEarlier only unended holds taken succeeded quiet

/-- A START over a running one, which first closes its interface. -/
def plainRestart : List Label :=
  .deliver (.start plainSettings) ::
    List.replicate 10 (.step 0 .ok)

/-- A START and the STOP after it. -/
theorem no_resource_survives_start_stop :
    ∃ state : TunnelVpnService, state.starts = 1 ∧ state.coroutines = [] ∧
      state.lastCommand = some .stop ∧ state.Clean := by
  have replayed : ((plainStart ++ plainStop).foldlM
      (fun (state : TunnelVpnService) label =>
      if state.Sequential label ∧ state.LaunchesAlone label then
        exec state label else none) initial).map
      (fun (state : TunnelVpnService) =>
        (state.starts, state.coroutines, state.lastCommand)) =
        some (1, [], some .stop) := by
    decide +kernel
  obtain ⟨state, taken, seen⟩ := System.replay_restrict _ replayed
  obtain ⟨starts, quiet, command⟩ := by simpa using seen
  exact ⟨state, starts, quiet, command,
    (no_resource_survives state).1 ⟨initial, _, rfl, taken⟩ quiet⟩

/-- Two START commands in a row leave two helper processes. -/
theorem restart_leaves_helper :
    ¬∀ state, (system.restrict Sequential).Reachable state →
      state.coroutines = [] → state.Clean := by
  intro always
  have replayed : ((plainStart ++ plainRestart).foldlM
      (fun (state : TunnelVpnService) label =>
      if state.Sequential label then exec state label else none) initial).map
      (fun (state : TunnelVpnService) => (state.coroutines, state.helpers)) =
        some ([], [⟨.xray, 2⟩, ⟨.xray, 1⟩]) := by
    decide +kernel
  obtain ⟨state, taken, seen⟩ := System.replay_restrict _ replayed
  obtain ⟨quiet, helpers⟩ := by simpa using seen
  have clean := always state ⟨initial, _, rfl, taken⟩ quiet
  have one := clean.oneHelper
  rw [helpers] at one
  exact absurd one (by decide)

end TunnelVpnService

end ProxyVPN
