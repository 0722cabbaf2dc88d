/-
Module: ProxyVPN.App.TunnelLifecycle
Purpose: The commands of the tunnel service from startService on: they wait for
  the main thread, and the instance that they find may have been destroyed in
  between, with onDestroy of TunnelVpnService.kt.
Trusted boundary: human-reviewed model
Main exports: TunnelVpnService.Remains, TunnelVpnService.stepCancelled,
  TunnelLifecycle, TunnelLifecycle.exec, TunnelLifecycle.system,
  TunnelLifecycle.Quiet, TunnelLifecycle.Harmless, tidy_of_reachable
-/
import ProxyVPN.App.TunnelSteps

namespace ProxyVPN

open Transition TunnelVpnService

/-!
What the Android system does is outside of the repository.  It is taken from the
documentation of `Service`, and left open where that leaves it open:

* `startService` queues a command for the main thread, and the service counts as
  started from then on.  Commands and the end of an instance are handled in the
  order in which they were decided on.
* `stopSelf()` without a start id stops the service, however often it was started
  before.
* A service that was stopped may be destroyed at any later time, or be kept, as
  the system's binding to a VPN service does.  A command that is sent before that
  is decided on is for this instance, and starts it again; one that is sent after
  is for a new one.
-/

namespace TunnelVpnService

/-- What an instance that was destroyed leaves in the process: its fields, and
the coroutines of its cancelled scope. -/
structure Remains where
  vpnInterface : Option Nat
  socketPair : Option Nat
  byedpiProcess : Option Nat
  xrayProcess : Option Nat
  coroutines : List Coroutine
deriving Repr, DecidableEq

/-- A new instance. -/
def Remains.fresh : Remains :=
  { vpnInterface := none
    socketPair := none
    byedpiProcess := none
    xrayProcess := none
    coroutines := [] }

/-- The fields and the coroutines of the instance. -/
def remains (self : TunnelVpnService) : Remains :=
  { vpnInterface := self.vpnInterface
    socketPair := self.socketPair
    byedpiProcess := self.byedpiProcess
    xrayProcess := self.xrayProcess
    coroutines := self.coroutines }

/-- Another instance, with the same descriptors and processes around it. -/
def swap (self : TunnelVpnService) (remains : Remains) : TunnelVpnService :=
  { self with
    vpnInterface := remains.vpnInterface
    socketPair := remains.socketPair
    byedpiProcess := remains.byedpiProcess
    xrayProcess := remains.xrayProcess
    coroutines := remains.coroutines }

/-- A coroutine that ends here when its scope is cancelled: it has not begun, or
it is about to enter `withContext`. -/
def Coroutine.cancellable : Coroutine → Bool
  | .start call => call.pc = .check ∨ call.pc = .establish
  | .stop pc => pc = .stopNative

/-- The coroutine is about to call `TProxyStopService`. -/
def Coroutine.stopsNative : Coroutine → Bool
  | .start call => call.pc = .stopNative
  | .stop pc => pc = .stopNative

/-- One step of coroutine `i` of an instance that was destroyed.  Its scope
launches nothing any more, neither `stopVpn` nor the interceptor, and `stopSelf`
is about an instance that is gone. -/
def stepCancelled (self : TunnelVpnService) (i : Nat) (outcome : Outcome) :
    Option TunnelVpnService :=
  match self.coroutines[i]? with
  | none => none
  | some (.start call) =>
      match call.pc with
      | .startInterceptor =>
          some (self.goto i (.start { call with pc := .nativeStart }))
      | .failed => some (self.finish i)
      | _ => some (self.stepStart i call outcome)
  | some (.stop .stopSelf) => some (self.finish i)
  | some (.stop pc) => some (self.stepStop i pc)

end TunnelVpnService

/-- What the system has on record: no instance, one, or one that it has decided
to destroy. -/
inductive ServiceRecord where
  | absent
  | present
  | condemned
deriving Repr, DecidableEq

/-- What the main thread has to do: a command, the first half of `onDestroy`, or
its second half, `scope.cancel()`. -/
inductive MainMessage where
  | command (command : Command)
  | destroy
  | cancel
deriving Repr, DecidableEq

/-- The instance that commands are delivered to at present, what waits for the
main thread, and the instances that were destroyed. -/
structure TunnelLifecycle where
  service : TunnelVpnService
  record : ServiceRecord
  inbox : List MainMessage
  earlier : List Remains

namespace TunnelLifecycle

def initial : TunnelLifecycle :=
  { service := TunnelVpnService.initial
    record := .absent
    inbox := []
    earlier := [] }

/-- `startService`.  An instance that is about to be destroyed stays stopped.  A
START that was only sent has not got to its notification. -/
def send (self : TunnelLifecycle) (command : Command) : TunnelLifecycle :=
  { self with
    inbox := self.inbox ++ [.command command]
    service :=
      { self.service with
        stopped := self.service.stopped && self.record = .condemned
        started := if command = .stop then self.service.started else none } }

/-- The system decides to destroy a service that was stopped. -/
def condemn (self : TunnelLifecycle) : Option TunnelLifecycle :=
  if self.record = .present ∧ self.service.stopped then
    some { self with
      record := .condemned
      inbox := self.inbox ++ [.destroy] }
  else
    none

/-- The main thread handles what is first. -/
def main (self : TunnelLifecycle) : Option TunnelLifecycle :=
  match self.inbox with
  | [] => none
  | .command command :: rest =>
      some { self with
        service := self.service.onStartCommand command
        record := if self.record = .absent then .present else self.record
        inbox := rest }
  | .destroy :: rest =>
      -- `stopVpn()` launches its coroutine before the scope is cancelled
      some { self with
        service :=
          { self.service with
            coroutines := self.service.coroutines ++ [.stop .stopNative] }
        inbox := .cancel :: rest }
  | .cancel :: rest =>
      some
        { service :=
            { self.service.swap Remains.fresh with
              interceptor := none
              stopped := rest.isEmpty }
          record := .absent
          inbox := rest
          earlier := self.earlier ++ [self.service.remains] }

/-- Coroutine `i` of the `k`-th instance that was destroyed takes a step. -/
def stepEarlier (self : TunnelLifecycle) (k i : Nat) (outcome : Outcome) :
    Option TunnelLifecycle := do
  let remains ← self.earlier[k]?
  let next ← (self.service.swap remains).stepCancelled i outcome
  return { self with
    service := next.swap self.service.remains
    earlier := self.earlier.set k next.remains }

/-- A coroutine of an instance that was destroyed ends because its scope is
cancelled. -/
def drop (self : TunnelLifecycle) (k i : Nat) : Option TunnelLifecycle := do
  let remains ← self.earlier[k]?
  let coroutine ← remains.coroutines[i]?
  if coroutine.cancellable then
    return { self with
      earlier := self.earlier.set k
        { remains with coroutines := remains.coroutines.eraseIdx i } }
  else
    none

/-- A command is sent, the system or the main thread acts, or a coroutine takes a
step. -/
inductive Label where
  | send (command : Command)
  | condemn
  | main
  | step (i : Nat) (outcome : Outcome)
  | stepEarlier (k i : Nat) (outcome : Outcome)
  | drop (k i : Nat)
deriving Repr, DecidableEq

def exec (self : TunnelLifecycle) : Label → Option TunnelLifecycle
  | .send command => some (self.send command)
  | .condemn => self.condemn
  | .main => self.main
  | .step i outcome =>
      (self.service.exec (.step i outcome)).map fun service =>
        { self with service := service }
  | .stepEarlier k i outcome => self.stepEarlier k i outcome
  | .drop k i => self.drop k i

/-- All interleavings of senders, the system, the main thread and coroutines. -/
def system : System TunnelLifecycle Label :=
  .ofExec (· = initial) exec

/-! ## Conditions on states and steps -/

/-- No command and no coroutine is on its way. -/
structure Quiet (state : TunnelLifecycle) : Prop where
  inbox : state.inbox = []
  coroutines : state.service.coroutines = []
  earlier : ∀ remains ∈ state.earlier, remains.coroutines = []

/-- No command is sent. -/
def Unsent (_ : TunnelLifecycle) : Label → Prop
  | .send _ => False
  | _ => True

/-- An instance that was destroyed calls `TProxyStopService` only while no native
service runs. -/
def Harmless (self : TunnelLifecycle) : Label → Prop
  | .stepEarlier k i _ =>
      ∀ remains ∈ self.earlier[k]?, ∀ coroutine ∈ remains.coroutines[i]?,
        coroutine.stopsNative = true → self.service.native = none
  | _ => True

instance (self : TunnelLifecycle) : ∀ label, Decidable (self.Unsent label)
  | .send _ => isFalse id
  | .condemn | .main | .step _ _ | .stepEarlier _ _ _ | .drop _ _ => isTrue trivial

instance (self : TunnelLifecycle) : ∀ label, Decidable (self.Harmless label)
  | .stepEarlier _ _ _ => inferInstanceAs (Decidable (∀ remains ∈ _, _))
  | .send _ | .condemn | .main | .step _ _ | .drop _ _ => isTrue trivial

/-! ## What every run keeps -/

/-- A decision to destroy the instance is still to be carried out, and the service
knows of no START that is still to come. -/
structure Tidy (state : TunnelLifecycle) : Prop where
  condemned : state.record = .condemned →
    .destroy ∈ state.inbox ∨ .cancel ∈ state.inbox
  xray : ∀ session, state.service.xrayProcess = some session →
    session ≤ state.service.starts
  calls : ∀ call, .start call ∈ state.service.coroutines →
    call.session ≤ state.service.starts

theorem exec_step_iff {self next : TunnelLifecycle} {i : Nat}
    {outcome : Outcome} :
    self.exec (.step i outcome) = some next ↔
      ∃ service, self.service.exec (.step i outcome) = some service ∧
        { self with service := service } = next :=
  Option.map_eq_some_iff

/-- A step of a destroyed instance leaves the present one and its coroutines
alone. -/
theorem stepEarlier_cases {self next : TunnelLifecycle} {k i : Nat}
    {outcome : Outcome} (taken : self.stepEarlier k i outcome = some next) :
    ∃ remains after, self.earlier[k]? = some remains ∧
      (self.service.swap remains).stepCancelled i outcome = some after ∧
      next = { self with
        service := after.swap self.service.remains
        earlier := self.earlier.set k after.remains } := by
  obtain ⟨remains, found, rest⟩ := Option.bind_eq_some_iff.mp taken
  obtain ⟨after, stepped, same⟩ := Option.bind_eq_some_iff.mp rest
  exact ⟨remains, after, found, stepped, (Option.some.inj same).symm⟩

theorem drop_cases {self next : TunnelLifecycle} {k i : Nat}
    (taken : self.drop k i = some next) :
    ∃ remains, self.earlier[k]? = some remains ∧
      next = { self with
        earlier := self.earlier.set k
          { remains with coroutines := remains.coroutines.eraseIdx i } } := by
  obtain ⟨remains, found, rest⟩ := Option.bind_eq_some_iff.mp taken
  obtain ⟨coroutine, _, rest⟩ := Option.bind_eq_some_iff.mp rest
  obtain ⟨_, same⟩ := Option.ite_none_right_eq_some.mp rest
  exact ⟨remains, found, (Option.some.inj same).symm⟩

end TunnelLifecycle

namespace TunnelVpnService

/-- A START does not stop the service itself. -/
theorem stepStart_stopped (state : TunnelVpnService) (i : Nat)
    (call : StartCall) (outcome : Outcome) :
    (state.stepStart i call outcome).stopped = state.stopped := by
  unfold stepStart
  cases call.pc <;> grind -linarith [goto, finish, closeTun, launch]

/-- `stopVpn` stops the service in its last step only. -/
theorem stepStop_stopped (state : TunnelVpnService) (i : Nat) {pc : StopPc}
    (goesOn : pc ≠ .stopSelf) :
    (state.stepStop i pc).stopped = state.stopped := by
  cases pc with
  | stopSelf => exact absurd rfl goesOn
  | destroyByedpi =>
      obtain ⟨helpers, destroyed, _⟩ :=
        destroy_eq state .ciadpi state.byedpiProcess
      simp only [stepStop, destroyed, goto]
  | destroyXray =>
      obtain ⟨helpers, destroyed, _⟩ := destroy_eq state .xray state.xrayProcess
      simp only [stepStop, destroyed, goto]
  | stopNative | nullPair | nullTun | nullByedpi => rfl
  | closePair | closeTun =>
      unfold stepStop
      grind -linarith [goto, closeTun, closePair]

/-- A START knows its own process only, and goes on as itself. -/
theorem stepStart_knows (state : TunnelVpnService) (i : Nat) (call : StartCall)
    (outcome : Outcome) :
    ((state.stepStart i call outcome).xrayProcess = state.xrayProcess ∨
        (state.stepStart i call outcome).xrayProcess = some call.session) ∧
      ∀ other, .start other ∈ (state.stepStart i call outcome).coroutines →
        .start other ∈ state.coroutines ∨ other.session = call.session := by
  have setMem {later : Coroutine} {other : StartCall}
      (member : Coroutine.start other ∈ state.coroutines.set i later)
      (same : ∀ next, later = .start next → next.session = call.session) :
      .start other ∈ state.coroutines ∨ other.session = call.session := by
    rcases List.mem_or_eq_of_mem_set member with old | new
    · exact .inl old
    · exact .inr (same other new.symm)
  have eraseMem {other : StartCall}
      (member : Coroutine.start other ∈ state.coroutines.eraseIdx i) :
      Coroutine.start other ∈ state.coroutines :=
    List.mem_of_mem_eraseIdx member
  unfold stepStart
  cases call.pc <;> grind -linarith [goto, finish, closeTun, launch]

theorem stepStop_knows (state : TunnelVpnService) (i : Nat) (pc : StopPc) :
    (state.stepStop i pc).xrayProcess = state.xrayProcess ∧
      ∀ other, .start other ∈ (state.stepStop i pc).coroutines →
        .start other ∈ state.coroutines := by
  have setMem {later : StopPc} {other : StartCall}
      (member : Coroutine.start other ∈ state.coroutines.set i (.stop later)) :
      Coroutine.start other ∈ state.coroutines := by
    rcases List.mem_or_eq_of_mem_set member with old | new
    · exact old
    · cases new
  have eraseMem {other : StartCall}
      (member : Coroutine.start other ∈ state.coroutines.eraseIdx i) :
      Coroutine.start other ∈ state.coroutines :=
    List.mem_of_mem_eraseIdx member
  cases pc with
  | destroyByedpi =>
      obtain ⟨helpers, destroyed, _⟩ :=
        destroy_eq state .ciadpi state.byedpiProcess
      simp only [stepStop, destroyed, goto]
      exact ⟨trivial, fun _ => setMem⟩
  | destroyXray =>
      obtain ⟨helpers, destroyed, _⟩ := destroy_eq state .xray state.xrayProcess
      simp only [stepStop, destroyed, goto]
      exact ⟨trivial, fun _ => setMem⟩
  | stopNative | closePair | nullPair | closeTun | nullTun | nullByedpi
  | stopSelf =>
      grind -linarith [stepStop, goto, finish, closeTun, closePair]

/-- A command brings at most a START with the next number. -/
theorem onStartCommand_knows (state : TunnelVpnService) (command : Command) :
    state.starts ≤ (state.onStartCommand command).starts ∧
      (state.onStartCommand command).xrayProcess = state.xrayProcess ∧
      ∀ call, .start call ∈ (state.onStartCommand command).coroutines →
        .start call ∈ state.coroutines ∨
          call.session ≤ (state.onStartCommand command).starts := by
  cases command with
  | start settings =>
      refine ⟨Nat.le_succ _, rfl, ?_⟩
      intro call member
      refine (List.mem_append.mp member).imp_right fun new => ?_
      cases List.mem_singleton.mp new
      exact Nat.le_refl _
  | stop =>
      refine ⟨Nat.le_refl _, rfl, ?_⟩
      intro call member
      refine (List.mem_append.mp member).imp_right fun new => ?_
      cases List.mem_singleton.mp new

/-- A destroyed instance starts nothing new, and does not stop the service. -/
theorem stepCancelled_frame {state next : TunnelVpnService} {i : Nat}
    {outcome : Outcome} (taken : state.stepCancelled i outcome = some next) :
    next.starts = state.starts ∧ next.stopped = state.stopped := by
  unfold stepCancelled at taken
  split at taken
  case h_1 => cases taken
  case h_2 call _ =>
    split at taken
    · cases taken
      exact ⟨rfl, rfl⟩
    · cases taken
      exact ⟨rfl, rfl⟩
    · cases taken
      exact ⟨(stepStart_frame state i call outcome).1,
        stepStart_stopped state i call outcome⟩
  case h_3 =>
    cases taken
    exact ⟨rfl, rfl⟩
  case h_4 pc goesOn _ =>
    cases taken
    exact ⟨(stepStop_frame state i pc).1, stepStop_stopped state i goesOn⟩

end TunnelVpnService

namespace TunnelLifecycle

theorem Tidy.step {self next : TunnelLifecycle} {label : Label}
    (tidy : self.Tidy) (taken : self.exec label = some next) : next.Tidy := by
  obtain ⟨condemned, xray, calls⟩ := id tidy
  cases label with
  | send command =>
      cases taken
      refine ⟨?_, xray, calls⟩
      intro decided
      exact (condemned decided).imp (List.mem_append_left _)
        (List.mem_append_left _)
  | condemn =>
      obtain ⟨_, ⟨⟩⟩ := Option.ite_none_right_eq_some.mp taken
      exact ⟨fun _ => .inl (List.mem_append_right _ List.mem_cons_self), xray,
        calls⟩
  | main =>
      simp only [exec, main] at taken
      split at taken
      case h_1 => cases taken
      case h_2 command rest inbox =>
        cases taken
        rw [inbox] at condemned
        obtain ⟨more, same, brings⟩ := onStartCommand_knows self.service command
        constructor
        · intro decided
          have before : self.record = .condemned := by
            by_contra other
            simp only at decided
            split at decided
            · cases decided
            · exact other decided
          exact (condemned before).imp
            (fun member => (List.mem_cons.mp member).resolve_left (by rintro ⟨⟩))
            (fun member => (List.mem_cons.mp member).resolve_left (by rintro ⟨⟩))
        · intro session known
          exact Nat.le_trans (xray session (same.symm.trans known)) more
        · intro call member
          rcases brings call member with old | own
          · exact Nat.le_trans (calls call old) more
          · exact own
      case h_3 rest inbox =>
        cases taken
        refine ⟨fun _ => .inr List.mem_cons_self, xray, ?_⟩
        intro call member
        rcases List.mem_append.mp member with old | new
        · exact calls call old
        · cases List.mem_singleton.mp new
      case h_4 rest inbox =>
        cases taken
        constructor
        · rintro ⟨⟩
        · rintro session ⟨⟩
        · rintro call ⟨⟩
  | step i outcome =>
      obtain ⟨service, stepped, rfl⟩ := exec_step_iff.mp taken
      rcases exec_step_cases stepped with ⟨call, inFlight, rfl⟩ | ⟨pc, _, rfl⟩
      · obtain ⟨starts, _⟩ := stepStart_frame self.service i call outcome
        obtain ⟨knows, goes⟩ := stepStart_knows self.service i call outcome
        have own := calls call (List.mem_of_getElem? inFlight)
        refine ⟨condemned, ?_, ?_⟩
        · intro session known
          simp only [starts]
          rcases knows with same | new
          · exact xray session (same.symm.trans known)
          · cases new.symm.trans known
            exact own
        · intro other goesOn
          simp only [starts]
          rcases goes other goesOn with old | same
          · exact calls other old
          · rw [same]
            exact own
      · obtain ⟨starts, _⟩ := stepStop_frame self.service i pc
        obtain ⟨knows, goes⟩ := stepStop_knows self.service i pc
        refine ⟨condemned, ?_, ?_⟩
        · intro session known
          simp only [starts]
          exact xray session (knows.symm.trans known)
        · intro other goesOn
          simp only [starts]
          exact calls other (goes other goesOn)
  | stepEarlier k i outcome =>
      obtain ⟨remains, after, _, stepped, rfl⟩ := stepEarlier_cases taken
      have starts : after.starts = self.service.starts :=
        (stepCancelled_frame stepped).1
      exact ⟨condemned,
        fun session known => le_of_le_of_eq (xray session known) starts.symm,
        fun call member => le_of_le_of_eq (calls call member) starts.symm⟩
  | drop k i =>
      obtain ⟨remains, _, rfl⟩ := drop_cases taken
      exact ⟨condemned, xray, calls⟩

theorem tidy_of_reachable {state : TunnelLifecycle}
    (reached : system.Reachable state) : state.Tidy := by
  have invariant : Invariant system Tidy := by
    constructor
    · rintro state rfl
      exact ⟨by rintro ⟨⟩, by rintro session ⟨⟩, by rintro call ⟨⟩⟩
    · intro state label next tidy taken
      exact tidy.step taken
  exact invariant.reachable reached

end TunnelLifecycle

end ProxyVPN
