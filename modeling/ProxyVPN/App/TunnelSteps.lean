/-
Module: ProxyVPN.App.TunnelSteps
Purpose: What one step of a coroutine of the tunnel service changes, and what
  it leaves alone.
Trusted boundary: none
Main exports: TunnelVpnService.stepStart_frame, TunnelVpnService.stepStop_frame,
  TunnelVpnService.stepStart_shape, TunnelVpnService.stepStop_shape
-/
import ProxyVPN.App.TunnelVpnService

namespace ProxyVPN

namespace TunnelVpnService

/-- The coroutines go on and no command comes. -/
def Undelivered (_ : TunnelVpnService) : Label → Prop
  | .deliver _ => False
  | .step _ _ => True

instance (state : TunnelVpnService) (label : Label) :
    Decidable (state.Undelivered label) :=
  match label with
  | .deliver _ => inferInstanceAs (Decidable False)
  | .step _ _ => inferInstanceAs (Decidable True)

/-- Past the launch of the helper program. -/
def StartPc.pastLaunch : StartPc → Bool
  | .writeConfig | .socketpair | .dupPair | .readTun | .readPair
  | .startInterceptor | .nativeStart | .notify => true
  | .check | .stopNative | .closeTun | .nullTun | .establish | .readFd
  | .launch | .failed => false

/-- What a step can be: one of a START, or one of `stopVpn`. -/
theorem exec_step_cases {state next : TunnelVpnService} {i : Nat}
    {outcome : Outcome} (taken : exec state (.step i outcome) = some next) :
    (∃ call, state.coroutines[i]? = some (.start call) ∧
        next = state.stepStart i call outcome) ∨
      ∃ pc, state.coroutines[i]? = some (.stop pc) ∧
        next = state.stepStop i pc := by
  cases inFlight : state.coroutines[i]? with
  | none =>
      simp only [exec, inFlight] at taken
      cases taken
  | some coroutine =>
      cases coroutine with
      | start call =>
          simp only [exec, inFlight, Option.some.injEq] at taken
          exact .inl ⟨call, rfl, taken.symm⟩
      | stop pc =>
          simp only [exec, inFlight, Option.some.injEq] at taken
          exact .inr ⟨pc, rfl, taken.symm⟩

/-- A coroutine that steps is in flight. -/
theorem lt_length_of_step {state next : TunnelVpnService} {i : Nat}
    {outcome : Outcome} (taken : exec state (.step i outcome) = some next) :
    i < state.coroutines.length := by
  rcases exec_step_cases taken with ⟨_, inFlight, _⟩ | ⟨_, inFlight, _⟩ <;>
  · exact (List.getElem?_eq_some_iff.mp inFlight).1

theorem not_step_of_quiet {state next : TunnelVpnService} {i : Nat}
    {outcome : Outcome} (quiet : state.coroutines = []) :
    exec state (.step i outcome) ≠ some next := by
  intro taken
  have inside := lt_length_of_step taken
  rw [quiet] at inside
  exact Nat.not_lt_zero i inside

/-- Only the coroutine there is can step. -/
theorem step_only {state next : TunnelVpnService} {coroutine : Coroutine}
    {i : Nat} {outcome : Outcome} (only : state.coroutines = [coroutine])
    (taken : exec state (.step i outcome) = some next) : i = 0 := by
  have inside := lt_length_of_step taken
  rw [only] at inside
  exact Nat.lt_one_iff.mp inside

theorem exec_start {state next : TunnelVpnService} {call : StartCall}
    {outcome : Outcome} (only : state.coroutines = [.start call])
    (taken : exec state (.step 0 outcome) = some next) :
    next = state.stepStart 0 call outcome := by
  simp only [exec, only, List.getElem?_cons_zero] at taken
  exact (Option.some.inj taken).symm

theorem exec_stop {state next : TunnelVpnService} {pc : StopPc}
    {outcome : Outcome} (only : state.coroutines = [.stop pc])
    (taken : exec state (.step 0 outcome) = some next) :
    next = state.stepStop 0 pc := by
  simp only [exec, only, List.getElem?_cons_zero] at taken
  exact (Option.some.inj taken).symm

@[simp] theorem closeTun_coroutines (state : TunnelVpnService) :
    state.closeTun.coroutines = state.coroutines := by
  unfold closeTun
  split <;> rfl

@[simp] theorem closePair_coroutines (state : TunnelVpnService) :
    state.closePair.coroutines = state.coroutines := by
  unfold closePair
  split <;> rfl

@[simp] theorem destroy_coroutines (state : TunnelVpnService)
    (kind : HelperKind) (process : Option Nat) :
    (state.destroy kind process).coroutines = state.coroutines := by
  unfold destroy
  split <;> rfl

@[simp] theorem closeTun_native (state : TunnelVpnService) :
    state.closeTun.native = state.native := by
  unfold closeTun
  split <;> rfl

@[simp] theorem closePair_native (state : TunnelVpnService) :
    state.closePair.native = state.native := by
  unfold closePair
  split <;> rfl

@[simp] theorem destroy_native (state : TunnelVpnService)
    (kind : HelperKind) (process : Option Nat) :
    (state.destroy kind process).native = state.native := by
  unfold destroy
  split <;> rfl

/-- Destroying the process of a field changes the helpers only, and leaves none
of its kind that the field knew. -/
theorem destroy_eq (state : TunnelVpnService) (kind : HelperKind)
    (process : Option Nat) :
    ∃ helpers, state.destroy kind process = { state with helpers := helpers } ∧
      ∀ helper, helper ∈ helpers ↔ helper ∈ state.helpers ∧
        (helper.kind = kind → process ≠ some helper.session) := by
  unfold destroy
  cases process with
  | none => exact ⟨state.helpers, rfl, by simp⟩
  | some session =>
      refine ⟨_, rfl, ?_⟩
      intro helper
      rw [List.mem_filter, decide_eq_true_iff]
      apply and_congr_right
      intro _
      cases helper
      simp only [ne_eq, Helper.mk.injEq, Option.some.injEq]
      tauto

theorem destroy_frame (state : TunnelVpnService) (kind : HelperKind)
    (process : Option Nat) :
    (state.destroy kind process).starts = state.starts ∧
      (state.destroy kind process).lastCommand = state.lastCommand ∧
      (state.destroy kind process).rawPairs = state.rawPairs ∧
      (state.destroy kind process).started = state.started := by
  obtain ⟨helpers, destroyed, _⟩ := destroy_eq state kind process
  rw [destroyed]
  exact ⟨rfl, rfl, rfl, rfl⟩

/-- What no step of a coroutine changes, and what a START only adds to. -/
theorem stepStart_frame (state : TunnelVpnService) (i : Nat) (call : StartCall)
    (outcome : Outcome) :
    (state.stepStart i call outcome).starts = state.starts ∧
      (state.stepStart i call outcome).lastCommand = state.lastCommand ∧
      (∀ helper ∈ state.helpers,
        helper ∈ (state.stepStart i call outcome).helpers) ∧
      (∀ pair ∈ state.pairs, pair ∈ (state.stepStart i call outcome).pairs) ∧
      ∀ pair ∈ (state.stepStart i call outcome).rawPairs,
        pair = call.session ∨ pair ∈ state.rawPairs := by
  unfold stepStart
  cases call.pc <;> grind -linarith [goto, finish, closeTun, launch]

theorem stepStop_frame (state : TunnelVpnService) (i : Nat) (pc : StopPc) :
    (state.stepStop i pc).starts = state.starts ∧
      (state.stepStop i pc).lastCommand = state.lastCommand ∧
      (state.stepStop i pc).rawPairs = state.rawPairs ∧
      (state.stepStop i pc).started = state.started := by
  cases pc with
  | destroyByedpi | destroyXray => exact destroy_frame _ _ _
  | closePair | closeTun =>
      unfold stepStop
      grind -linarith [goto, closeTun, closePair]
  | stopNative | nullPair | nullTun | nullByedpi | stopSelf =>
      exact ⟨rfl, rfl, rfl, rfl⟩

/-- Where a START gets to in one step. -/
theorem stepStart_shape {state : TunnelVpnService} {call : StartCall}
    (outcome : Outcome) (only : state.coroutines = [.start call]) :
    (∃ later, (state.stepStart 0 call outcome).coroutines = [.start later] ∧
        (state.stepStart 0 call outcome).started = state.started) ∨
      (state.stepStart 0 call outcome).coroutines = [] ∨
      (state.stepStart 0 call outcome).coroutines = [.stop .stopNative] ∧
        (state.stepStart 0 call outcome).started = state.started := by
  unfold stepStart
  cases call.pc <;> grind -linarith [goto, finish, closeTun, launch]

/-- Where `stopVpn` gets to in one step; its last one stops the service. -/
theorem stepStop_shape {state : TunnelVpnService} {pc : StopPc}
    (only : state.coroutines = [.stop pc]) :
    (∃ later, (state.stepStop 0 pc).coroutines = [.stop later]) ∨
      (state.stepStop 0 pc).coroutines = [] := by
  cases pc with
  | stopSelf =>
      right
      simp [stepStop, finish, only]
  | stopNative | closePair | nullPair | closeTun | nullTun | destroyByedpi
  | destroyXray | nullByedpi =>
      left
      simp [stepStop, goto, only]

/-! ## Commands that go well -/

/-- The START of a plain proxy. -/
def plainSettings : Settings :=
  { method := none, byedpi := false, encryptedDns := false }

/-- A START of a plain proxy whose calls to the outside succeed. -/
def plainStart : List Label :=
  .deliver (.start plainSettings) ::
    List.replicate 7 (.step 0 .ok)

def plainStop : List Label :=
  .deliver .stop :: List.replicate 9 (.step 0 .ok)

end TunnelVpnService

end ProxyVPN
