/-
Module: ProxyVPN.Hev.TunnelSync
Purpose: The stop protocol of hev-socks5-tunnel.c as a transition system: one
  tunnel thread that goes through init, run and fini, and any number of stop
  calls, which meet in the atomic flags of `tsync`.
Trusted boundary: human-reviewed model
Main exports: Tsync, TunnelSync, TunnelSync.exec, TunnelSync.system
-/
import Mathlib.Data.Nat.Basic
import Mathlib.Logic.Function.Basic
import ProxyVPN.Lib.Transition

namespace ProxyVPN

open Transition

/-!
Every atomic operation on `tsync` is one step.  The fields `began`, `session`
and `written` are not in the source.  They record in which session a stop call
began, how many sessions there have been, and how many bytes went into the
event socket of the current one.
-/

/-- The bits of `tsync`. -/
structure Tsync where
  send : Bool
  sent : Bool
  wait : Bool
  stop : Bool
deriving Repr, DecidableEq

namespace TunnelSync

/-- Where the tunnel thread is. -/
inductive Pc where
  | idle
  | init
  | run
  | eventWait
  | eventRead
  | eventDone
  | fini
  | close
deriving Repr, DecidableEq

/-- Where one call of `hev_socks5_tunnel_stop` is.  `entered` remembers whether
`SYNC_SEND` was set when it set `SYNC_WAIT`. -/
inductive StopPc where
  | absent
  | retry
  | entered (send : Bool)
  | write
  | leave
  | returned
deriving Repr, DecidableEq

/-- One stop call and the session it began in, if there was one. -/
structure Stop where
  pc : StopPc
  began : Option Nat
deriving Repr, DecidableEq

end TunnelSync

/-- The shared state of the tunnel thread and the stop calls.  `pending` counts
the bytes in the event socket. -/
structure TunnelSync where
  tsync : Tsync
  eventFds : Bool
  pending : Nat
  pc : TunnelSync.Pc
  stops : Nat → TunnelSync.Stop
  session : Nat
  written : Nat

namespace TunnelSync

/-- The process before its first session. -/
def initial : TunnelSync :=
  { tsync := { send := false, sent := false, wait := false, stop := false }
    eventFds := false
    pending := 0
    pc := .idle
    stops := fun _ => { pc := .absent, began := none }
    session := 0
    written := 0 }

/-- The steps of the tunnel thread, and those of each stop call. -/
inductive Label where
  | initCall
  | eventTaskInit
  | initFails
  | initSend
  | runCheck
  | eventTaskRead
  | eventTaskClear
  | runReturns
  | finiClear
  | finiClose
  | stopCall (i : Nat)
  | stopWait (i : Nat)
  | stopSent (i : Nat)
  | stopWrite (i : Nat)
  | stopStop (i : Nat)
  | stopLeave (i : Nat)
deriving Repr, DecidableEq

/-- `hev_socks5_tunnel_init` begins; its session is the next one. -/
def initCall (self : TunnelSync) : Option TunnelSync :=
  if self.pc = .idle then
    some { self with pc := .init, session := self.session + 1, written := 0 }
  else
    none

/-- `event_task_init`. -/
def eventTaskInit (self : TunnelSync) : Option TunnelSync :=
  if self.pc = .init ∧ self.eventFds = false then
    some { self with eventFds := true, pending := 0 }
  else
    none

/-- A part of `hev_socks5_tunnel_init` fails, and it calls
`hev_socks5_tunnel_fini`. -/
def initFails (self : TunnelSync) : Option TunnelSync :=
  if self.pc = .init then some { self with pc := .fini } else none

/-- The end of `hev_socks5_tunnel_init`. -/
def initSend (self : TunnelSync) : Option TunnelSync :=
  if self.pc = .init ∧ self.eventFds then
    some { self with pc := .run, tsync := { self.tsync with send := true } }
  else
    none

/-- The check of `SYNC_STOP` in `hev_socks5_tunnel_run`. -/
def runCheck (self : TunnelSync) : Option TunnelSync :=
  if self.pc = .run then
    some
      { self with
        pc := if self.tsync.stop then .fini else .eventWait
        tsync := { self.tsync with stop := false } }
  else
    none

/-- `event_task_entry` reads at most the size of an `int`. -/
def eventTaskRead (self : TunnelSync) : Option TunnelSync :=
  if self.pc = .eventWait ∧ 0 < self.pending then
    some { self with pc := .eventRead, pending := self.pending - 4 }
  else
    none

def eventTaskClear (self : TunnelSync) : Option TunnelSync :=
  if self.pc = .eventRead then
    some { self with pc := .eventDone, tsync := { self.tsync with sent := false } }
  else
    none

/-- The tasks end and `hev_socks5_tunnel_run` returns. -/
def runReturns (self : TunnelSync) : Option TunnelSync :=
  if self.pc = .eventDone then some { self with pc := .fini } else none

/-- One round of the retry loop of `hev_socks5_tunnel_fini`. -/
def finiClear (self : TunnelSync) : Option TunnelSync :=
  if self.pc = .fini then
    some
      { self with
        pc := if self.tsync.wait then .fini else .close
        tsync := { self.tsync with send := false, sent := false } }
  else
    none

/-- `event_task_fini`, after the retry loop. -/
def finiClose (self : TunnelSync) : Option TunnelSync :=
  if self.pc = .close then
    some { self with pc := .idle, eventFds := false, pending := 0 }
  else
    none

def setStop (self : TunnelSync) (i : Nat) (pc : StopPc) : TunnelSync :=
  { self with
    stops := Function.update self.stops i { self.stops i with pc := pc } }

/-- `hev_socks5_tunnel_stop` is called. -/
def stopCall (self : TunnelSync) (i : Nat) : Option TunnelSync :=
  if (self.stops i).pc = .absent then
    let began := if self.pc = .idle then none else some self.session
    some
      { self with
        stops := Function.update self.stops i { pc := .retry, began := began } }
  else
    none

/-- One round of the retry loop of `hev_socks5_tunnel_stop`. -/
def stopWait (self : TunnelSync) (i : Nat) : Option TunnelSync :=
  if (self.stops i).pc = .retry then
    if self.tsync.wait then
      some self
    else
      some
        { self.setStop i (.entered self.tsync.send) with
          tsync := { self.tsync with wait := true } }
  else
    none

/-- With `SYNC_SEND` seen, only the first call writes. -/
def stopSent (self : TunnelSync) (i : Nat) : Option TunnelSync :=
  if (self.stops i).pc = .entered true then
    some
      { self.setStop i (if self.tsync.sent then .leave else .write) with
        tsync := { self.tsync with sent := true } }
  else
    none

/-- `write (event_fds[1], &res, 1)`.  There is no result without a socket, as
the assertion after it fails. -/
def stopWrite (self : TunnelSync) (i : Nat) : Option TunnelSync :=
  if (self.stops i).pc = .write ∧ self.eventFds then
    some
      { self.setStop i .leave with
        pending := self.pending + 1, written := self.written + 1 }
  else
    none

/-- Without `SYNC_SEND` the call leaves `SYNC_STOP` behind. -/
def stopStop (self : TunnelSync) (i : Nat) : Option TunnelSync :=
  if (self.stops i).pc = .entered false then
    some
      { self.setStop i .leave with
        tsync := { self.tsync with stop := true } }
  else
    none

def stopLeave (self : TunnelSync) (i : Nat) : Option TunnelSync :=
  if (self.stops i).pc = .leave then
    some
      { self.setStop i .returned with
        tsync := { self.tsync with wait := false } }
  else
    none

def exec (self : TunnelSync) : Label → Option TunnelSync
  | .initCall => self.initCall
  | .eventTaskInit => self.eventTaskInit
  | .initFails => self.initFails
  | .initSend => self.initSend
  | .runCheck => self.runCheck
  | .eventTaskRead => self.eventTaskRead
  | .eventTaskClear => self.eventTaskClear
  | .runReturns => self.runReturns
  | .finiClear => self.finiClear
  | .finiClose => self.finiClose
  | .stopCall i => self.stopCall i
  | .stopWait i => self.stopWait i
  | .stopSent i => self.stopSent i
  | .stopWrite i => self.stopWrite i
  | .stopStop i => self.stopStop i
  | .stopLeave i => self.stopLeave i

/-- All interleavings of the tunnel thread and the stop calls. -/
def system : System TunnelSync Label :=
  .ofExec (· = initial) exec

/-- The task system runs: the thread is past the check of `SYNC_STOP`. -/
def Pc.inTaskSystem : Pc → Bool
  | .eventWait | .eventRead | .eventDone => true
  | .idle | .init | .run | .fini | .close => false

/-- A stop call of this session has returned, the task system runs, and no byte
was written for the event task. -/
def StopLost (self : TunnelSync) : Prop :=
  self.pc.inTaskSystem ∧ self.written = 0 ∧
    ∃ i, (self.stops i).pc = .returned ∧ (self.stops i).began = some self.session

/-- The check of `SYNC_STOP` does not let the thread pass while a stop call of
this session saw no `SYNC_SEND` and has yet to set `SYNC_STOP`. -/
def StopSettled (self : TunnelSync) (label : Label) : Prop :=
  label = .runCheck → self.tsync.stop = false →
    ∀ i, (self.stops i).began = some self.session →
      (self.stops i).pc ≠ .entered false

end TunnelSync

end ProxyVPN
