/-
Module: ProxyVPN.App.TunnelVpnService
Purpose: The commands of TunnelVpnService.kt as a transition system: every
  command launches a coroutine over the shared fields of the service, and every
  access to a field or to the system outside is one step.
Trusted boundary: human-reviewed model
Main exports: TunnelVpnService, TunnelVpnService.exec, TunnelVpnService.system
-/
import Mathlib.Data.List.Basic
import ProxyVPN.Lib.Transition

namespace ProxyVPN

open Transition

/-!
Descriptors and processes are named by the START that created them, the first
one being START 1.  The lists `tuns`, `pairs`, `rawPairs` and `helpers` hold
what is open or alive in the system; the fields of the service hold what the
service knows of it.  A helper process ends only when it is destroyed.

Here a command is delivered as soon as it is sent, and a service that was stopped
is created again, with empty fields, by the next command.  `TunnelLifecycle` has
the commands that wait for the main thread, the instances that the system
destroys, and `onDestroy`.

The fields `starts`, `lastCommand` and `started` are not in the source.  They
count the START commands, and record the last command and the last START that
got to its notification.
-/

/-- The two programs that `startVpn` can run. -/
inductive HelperKind where
  | ciadpi
  | xray
deriving Repr, DecidableEq

/-- A process of the given START. -/
structure Helper where
  kind : HelperKind
  session : Nat
deriving Repr, DecidableEq

/-- The descriptor that the native service forwards. -/
inductive NativeFd where
  | tun (session : Nat)
  | pair (session : Nat)
deriving Repr, DecidableEq

namespace TunnelVpnService

/-- What a START finds in its intent and in the preferences. -/
structure Settings where
  method : Option String
  byedpi : Bool
  encryptedDns : Bool
deriving Repr, DecidableEq

/-- The intents that `onStartCommand` acts on. -/
inductive Command where
  | start (settings : Settings)
  | stop
deriving Repr, DecidableEq

/-- How a call to the outside ends: it succeeds, it returns `null` or `false`,
or it throws. -/
inductive Outcome where
  | ok
  | refused
  | throws
deriving Repr, DecidableEq

/-- Where a coroutine of ACTION_START is. -/
inductive StartPc where
  | check
  | stopNative
  | closeTun
  | nullTun
  | establish
  | readFd
  | launch
  | writeConfig
  | socketpair
  | dupPair
  | readTun
  | readPair
  | startInterceptor
  | nativeStart
  | notify
  | failed
deriving Repr, DecidableEq

/-- Where a coroutine of `stopVpn` is. -/
inductive StopPc where
  | stopNative
  | closePair
  | nullPair
  | closeTun
  | nullTun
  | destroyByedpi
  | destroyXray
  | nullByedpi
  | stopSelf
deriving Repr, DecidableEq

/-- A coroutine of ACTION_START with its locals. -/
structure StartCall where
  session : Nat
  settings : Settings
  pc : StartPc
  fd : Nat
  launched : Bool
  tunFd : Nat
  proxyFd : Nat
deriving Repr, DecidableEq

/-- A coroutine in flight. -/
inductive Coroutine where
  | start (call : StartCall)
  | stop (pc : StopPc)
deriving Repr, DecidableEq

/-- The helper program of a START. -/
def Settings.helperKind (settings : Settings) : HelperKind :=
  if settings.byedpi && settings.method.isNone then .ciadpi else .xray

end TunnelVpnService

open TunnelVpnService

/-- The fields of the service, what is open around it, and its coroutines. -/
structure TunnelVpnService where
  vpnInterface : Option Nat
  socketPair : Option Nat
  byedpiProcess : Option Nat
  xrayProcess : Option Nat
  stopped : Bool
  native : Option NativeFd
  interceptor : Option (Nat × Nat)
  tuns : List Nat
  pairs : List Nat
  rawPairs : List Nat
  helpers : List Helper
  coroutines : List Coroutine
  starts : Nat
  lastCommand : Option Command
  started : Option StartCall
deriving Repr

namespace TunnelVpnService

/-- Before the first command. -/
def initial : TunnelVpnService :=
  { vpnInterface := none
    socketPair := none
    byedpiProcess := none
    xrayProcess := none
    stopped := true
    native := none
    interceptor := none
    tuns := []
    pairs := []
    rawPairs := []
    helpers := []
    coroutines := []
    starts := 0
    lastCommand := none
    started := none }

/-- The next command finds the service, or creates it. -/
def create (self : TunnelVpnService) : TunnelVpnService :=
  if self.stopped then
    { self with
      vpnInterface := none
      socketPair := none
      byedpiProcess := none
      xrayProcess := none
      stopped := false }
  else
    self

/-- `onStartCommand`, which only launches a coroutine. -/
def onStartCommand (self : TunnelVpnService) (command : Command) :
    TunnelVpnService :=
  let self := { self with lastCommand := some command }
  match command with
  | .start settings =>
      let call : StartCall :=
        { session := self.starts + 1
          settings := settings
          pc := .check
          fd := 0
          launched := false
          tunFd := 0
          proxyFd := 0 }
      { self with
        coroutines := self.coroutines ++ [.start call]
        starts := self.starts + 1
        started := none }
  | .stop =>
      { self with coroutines := self.coroutines ++ [.stop .stopNative] }

/-- Coroutine `i` goes on at another place. -/
def goto (self : TunnelVpnService) (i : Nat) (coroutine : Coroutine) :
    TunnelVpnService :=
  { self with coroutines := self.coroutines.set i coroutine }

/-- Coroutine `i` ends. -/
def finish (self : TunnelVpnService) (i : Nat) : TunnelVpnService :=
  { self with coroutines := self.coroutines.eraseIdx i }

/-- `vpnInterface?.close()`. -/
def closeTun (self : TunnelVpnService) : TunnelVpnService :=
  match self.vpnInterface with
  | some tun => { self with tuns := self.tuns.filter (· ≠ tun) }
  | none => self

/-- `socketPair?.forEach { it.close() }`. -/
def closePair (self : TunnelVpnService) : TunnelVpnService :=
  match self.socketPair with
  | some pair => { self with pairs := self.pairs.filter (· ≠ pair) }
  | none => self

/-- `destroy()` on the process that a field holds. -/
def destroy (self : TunnelVpnService) (kind : HelperKind)
    (process : Option Nat) : TunnelVpnService :=
  match process with
  | some session =>
      { self with
        helpers := self.helpers.filter
          (· ≠ { kind := kind, session := session }) }
  | none => self

/-- The process of a START runs and stands in its field. -/
def launch (self : TunnelVpnService) (call : StartCall) : TunnelVpnService :=
  let helper := { kind := call.settings.helperKind, session := call.session }
  match call.settings.helperKind with
  | .ciadpi =>
      { self with
        byedpiProcess := some call.session, helpers := helper :: self.helpers }
  | .xray =>
      { self with
        xrayProcess := some call.session, helpers := helper :: self.helpers }

/-- One step of a coroutine of ACTION_START, which is `onStartCommand` up to
`nullTun`, and `startVpn` after it.  A failed start launches `stopVpn`. -/
def stepStart (self : TunnelVpnService) (i : Nat) (call : StartCall)
    (outcome : Outcome) : TunnelVpnService :=
  let next (self : TunnelVpnService) (pc : StartPc) :=
    self.goto i (.start { call with pc := pc })
  match call.pc with
  | .check =>
      next self (if self.vpnInterface.isSome then .stopNative else .establish)
  | .stopNative => next { self with native := none } .closeTun
  | .closeTun => next self.closeTun .nullTun
  | .nullTun => next { self with vpnInterface := none } .establish
  | .establish =>
      match outcome with
      | .ok =>
          next
            { self with
              vpnInterface := some call.session
              tuns := call.session :: self.tuns } .readFd
      | .refused => next { self with vpnInterface := none } .readFd
      | .throws => next self .failed
  | .readFd =>
      -- `fd` throws when the interface is gone or closed
      match self.vpnInterface with
      | some tun =>
          if tun ∈ self.tuns then
            self.goto i (.start { call with pc := .launch, fd := tun })
          else
            next self .failed
      | none => next self .failed
  | .launch =>
      match outcome with
      | .ok =>
          (self.launch call).goto i
            (.start { call with pc := .writeConfig, launched := true })
      | .refused | .throws => next self .writeConfig
  | .writeConfig =>
      match outcome with
      | .throws => next self .failed
      | .ok | .refused =>
          next self
            (if call.settings.encryptedDns then .socketpair else .nativeStart)
  | .socketpair =>
      match outcome with
      | .ok =>
          next { self with rawPairs := call.session :: self.rawPairs } .dupPair
      | .refused | .throws => next self .failed
  | .dupPair =>
      match outcome with
      | .ok =>
          next
            { self with
              socketPair := some call.session
              pairs := call.session :: self.pairs } .readTun
      | .refused | .throws => next self .failed
  | .readTun =>
      match self.vpnInterface with
      | some tun =>
          self.goto i (.start { call with pc := .readPair, tunFd := tun })
      | none => next self .failed
  | .readPair =>
      match self.socketPair with
      | some pair =>
          self.goto i
            (.start { call with pc := .startInterceptor, proxyFd := pair })
      | none => next self .failed
  | .startInterceptor =>
      next { self with interceptor := some (call.tunFd, call.proxyFd) }
        .nativeStart
  | .nativeStart =>
      -- the service that runs already refuses, and so may a new one
      if call.settings.encryptedDns ∧ call.proxyFd ∉ self.pairs then
        next self .failed
      else if self.native.isSome ∨ outcome ≠ .ok then
        next self .failed
      else if call.settings.encryptedDns then
        next { self with native := some (.pair call.proxyFd) } .notify
      else
        next { self with native := some (.tun call.fd) } .notify
  | .notify =>
      match outcome with
      | .throws => next self .failed
      | .ok | .refused => { self.finish i with started := some call }
  | .failed => self.goto i (.stop .stopNative)

/-- One step of a coroutine of `stopVpn`. -/
def stepStop (self : TunnelVpnService) (i : Nat) : StopPc → TunnelVpnService
  | .stopNative => { self with native := none }.goto i (.stop .closePair)
  | .closePair => self.closePair.goto i (.stop .nullPair)
  | .nullPair => { self with socketPair := none }.goto i (.stop .closeTun)
  | .closeTun => self.closeTun.goto i (.stop .nullTun)
  | .nullTun => { self with vpnInterface := none }.goto i (.stop .destroyByedpi)
  | .destroyByedpi =>
      (self.destroy .ciadpi self.byedpiProcess).goto i (.stop .destroyXray)
  | .destroyXray =>
      (self.destroy .xray self.xrayProcess).goto i (.stop .nullByedpi)
  | .nullByedpi => { self with byedpiProcess := none }.goto i (.stop .stopSelf)
  | .stopSelf => { self with stopped := true }.finish i

/-- A command is delivered, or a coroutine takes a step. -/
inductive Label where
  | deliver (command : Command)
  | step (i : Nat) (outcome : Outcome)
deriving Repr, DecidableEq

def exec (self : TunnelVpnService) : Label → Option TunnelVpnService
  | .deliver command => some (self.create.onStartCommand command)
  | .step i outcome =>
      match self.coroutines[i]? with
      | some (.start call) => some (self.stepStart i call outcome)
      | some (.stop pc) => some (self.stepStop i pc)
      | none => none

/-- All interleavings of commands and coroutines. -/
def system : System TunnelVpnService Label :=
  .ofExec (· = initial) exec

end TunnelVpnService

end ProxyVPN
