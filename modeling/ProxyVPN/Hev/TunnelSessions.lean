/-
Module: ProxyVPN.Hev.TunnelSessions
Purpose: The sessions of hev-socks5-tunnel.c: the set that the handlers of lwIP
  put them into, the hooks by which running sessions move in it, the tasks that
  take themselves out of it, and the sweep of the event task.
Trusted boundary: human-reviewed model
Main exports: TunnelSession, TunnelSessions, TunnelSessions.exec,
  TunnelSessions.system
-/
import ProxyVPN.Hev.List
import ProxyVPN.Lib.Transition

namespace ProxyVPN

open Transition

/-!
The tasks are cooperative, so what lies between two yields is one step.  Neither
the handlers nor the sweep yield.  The fields `terminated`, `latest` and
`inserted` are not in the source.  They record which sessions were told to
terminate, which session was last put at the tail, and how many sessions there
have been.
-/

/-- The part of hev-config.c that the sessions read. -/
structure TunnelConfig where
  maxSessionCount : Int
  connectTimeout : Int
  tcpTimeout : Int
  udpTimeout : Int

namespace TunnelSession

inductive Kind where
  | tcp
  | udp
deriving Repr, DecidableEq

/-- Where the task of a session is in `hev_socks5_session_run`. -/
inductive Phase where
  | created
  | connect
  | handshake
  | failed
  | splice
deriving Repr, DecidableEq

end TunnelSession

/-- A session whose task has not ended. -/
structure TunnelSession where
  kind : TunnelSession.Kind
  phase : TunnelSession.Phase
  timeout : Int
  terminated : Bool
deriving Repr, DecidableEq

namespace TunnelSession

/-- `hev_socks5_construct`. -/
def construct (kind : Kind) : TunnelSession :=
  { kind := kind, phase := .created, timeout := -1, terminated := false }

/-- `hev_socks5_set_timeout`. -/
def setTimeout (self : TunnelSession) (timeout : Int) : TunnelSession :=
  if self.timeout ≠ 0 then { self with timeout := timeout } else self

/-- `hev_socks5_session_terminate`. -/
def terminate (self : TunnelSession) : TunnelSession :=
  { self.setTimeout 0 with terminated := true }

end TunnelSession

/-- The static variables of the tunnel, and the sessions by the addresses of
their nodes. -/
structure TunnelSessions where
  run : Bool
  sessionSet : HevList
  nodes : HevListNodes
  sessionCount : Int
  sessions : Nat → Option TunnelSession
  latest : Option Nat
  inserted : Nat

namespace TunnelSessions

/-- `hev_socks5_tunnel_run` has set `run`. -/
def initial : TunnelSessions :=
  { run := true
    sessionSet := .empty
    nodes := fun _ => { next := none, prev := none }
    sessionCount := 0
    sessions := fun _ => none
    latest := none
    inserted := 0 }

/-- Change the session of a node. -/
def modify (self : TunnelSessions) (node : Nat)
    (change : TunnelSession → TunnelSession) : TunnelSessions :=
  { self with
    sessions := Function.update self.sessions node
      ((self.sessions node).map change) }

/-! ## The set -/

/-- `hev_list_add_tail (&session_set, node)`. -/
def addTail (self : TunnelSessions) (node : Nat) : TunnelSessions :=
  let added := self.sessionSet.addTail self.nodes node
  { self with
    sessionSet := added.1, nodes := added.2, latest := some node }

/-- `hev_list_del (&session_set, node)`. -/
def del (self : TunnelSessions) (node : Nat) : TunnelSessions :=
  let deleted := self.sessionSet.del self.nodes node
  { self with sessionSet := deleted.1, nodes := deleted.2 }

/-- The session is added at the tail and counted. -/
def append (self : TunnelSessions) (node : Nat) : TunnelSessions :=
  { self.addTail node with
    sessionCount := self.sessionCount + 1, inserted := self.inserted + 1 }

/-- `hev_socks5_tunnel_insert_session`.  The set is not empty when its first
session is read. -/
def insertSession (config : TunnelConfig) (self : TunnelSessions) (node : Nat) :
    TunnelSessions :=
  let self := self.append node
  if config.maxSessionCount = 0 ∨ self.sessionCount < config.maxSessionCount then
    self
  else
    match self.sessionSet.head with
    | some first => self.modify first .terminate
    | none => self

/-- `hev_socks5_tunnel_delete_session`. -/
def deleteSession (self : TunnelSessions) (node : Nat) : TunnelSessions :=
  { self.del node with sessionCount := self.sessionCount - 1 }

/-- `hev_socks5_tunnel_update_session`. -/
def updateSession (config : TunnelConfig) (self : TunnelSessions) (node : Nat) :
    TunnelSessions :=
  if config.maxSessionCount = 0 then self else (self.del node).addTail node

/-! ## The handlers of lwIP -/

/-- What the allocators give: the node of the new session, where memory is left
for it, and whether there is memory for its task. -/
structure Allocation where
  node : Option Nat
  task : Bool
deriving Repr, DecidableEq

/-- A session is constructed in the memory of a node. -/
def withSession (self : TunnelSessions) (node : Nat)
    (session : TunnelSession) : TunnelSessions :=
  { self with sessions := Function.update self.sessions node (some session) }

/-- A session is created, put into the set, and its task is run.  The memory of
a session is not given away twice. -/
def create (config : TunnelConfig) (self : TunnelSessions)
    (kind : TunnelSession.Kind) (allocation : Allocation) :
    Option TunnelSessions :=
  match allocation.node with
  | none => some self
  | some node =>
      if (self.sessions node).isSome then
        none
      else if allocation.task then
        some ((self.withSession node (.construct kind)).insertSession config node)
      else
        some self

/-- `tcp_accept_handler`; `err` is its argument other than `ERR_OK`. -/
def tcpAcceptHandler (config : TunnelConfig) (self : TunnelSessions)
    (err : Bool) (allocation : Allocation) : Option TunnelSessions :=
  if err ∨ self.run = false then some self
  else self.create config .tcp allocation

/-- `udp_recv_handler`; `dns` says that the packet is for the mapped DNS. -/
def udpRecvHandler (config : TunnelConfig) (self : TunnelSessions) (dns : Bool)
    (allocation : Allocation) : Option TunnelSessions :=
  if self.run = false ∨ dns then some self
  else self.create config .udp allocation

/-! ## The tasks -/

/-- The task of a session goes on from one phase to the next. -/
def advance (self : TunnelSessions) (node : Nat) (here : TunnelSession.Phase)
    (change : TunnelSession → TunnelSession) : Option TunnelSessions :=
  match self.sessions node with
  | some session =>
      if session.phase = here then some (self.modify node change) else none
  | none => none

/-- `hev_socks5_client_connect` begins. -/
def connect (config : TunnelConfig) (self : TunnelSessions) (node : Nat) :
    Option TunnelSessions :=
  self.advance node .created fun session =>
    { session.setTimeout config.connectTimeout with phase := .connect }

/-- It succeeds, and `hev_socks5_client_handshake` begins. -/
def handshake (config : TunnelConfig) (self : TunnelSessions) (node : Nat) :
    Option TunnelSessions :=
  self.advance node .connect fun session =>
    { session.setTimeout config.tcpTimeout with phase := .handshake }

/-- The handshake ends, and the splicer runs where it succeeded. -/
def splice (config : TunnelConfig) (self : TunnelSessions) (node : Nat)
    (ok : Bool) : Option TunnelSessions :=
  self.advance node .handshake fun session =>
    let timed :=
      match session.kind with
      | .udp => session.setTimeout config.udpTimeout
      | .tcp => session
    { timed with phase := if ok then .splice else .failed }

/-- `task_io_yielder` of the splicers, after it waited. -/
def yielder (config : TunnelConfig) (self : TunnelSessions) (node : Nat) :
    Option TunnelSessions :=
  match self.sessions node with
  | some session =>
      if session.phase = .splice then some (self.updateSession config node)
      else none
  | none => none

/-- The yielder of a UDP session finds the stream to the server closed. -/
def recvFails (self : TunnelSessions) (node : Nat) : Option TunnelSessions :=
  match self.sessions node with
  | some session =>
      if session.phase = .splice ∧ session.kind = .udp then
        some (self.modify node (·.setTimeout 0))
      else
        none
  | none => none

/-- lwIP reports an error of the connection, or the end of the UDP peer, to the
handlers of the session. -/
def errHandler (self : TunnelSessions) (node : Nat) : Option TunnelSessions :=
  if (self.sessions node).isSome then some (self.modify node .terminate)
  else none

/-- `hev_socks5_session_run` returns, and `hev_socks5_session_task_entry`
deletes the session. -/
def taskExit (self : TunnelSessions) (node : Nat) : Option TunnelSessions :=
  match self.sessions node with
  | some session =>
      if session.phase ≠ .created then
        let deleted := self.deleteSession node
        some
          { deleted with
            sessions := Function.update deleted.sessions node none }
      else
        none
  | none => none

/-- `event_task_entry` after its read: `run` is cleared, and the loop over the
set terminates each session.  The bound on its rounds is not in the source. -/
def eventTask (self : TunnelSessions) : Option TunnelSessions :=
  if self.run then
    (HevList.walk self.nodes self.sessionCount.toNat self.sessionSet.head).map
      fun order =>
        order.foldl (fun state node => state.modify node .terminate)
          { self with run := false }
  else
    none

/-! ## All interleavings -/

inductive Label where
  | tcpAccept (err : Bool) (allocation : Allocation)
  | udpRecv (dns : Bool) (allocation : Allocation)
  | connect (node : Nat)
  | handshake (node : Nat)
  | splice (node : Nat) (ok : Bool)
  | yielder (node : Nat)
  | recvFails (node : Nat)
  | errHandler (node : Nat)
  | taskExit (node : Nat)
  | eventTask
deriving Repr, DecidableEq

def exec (config : TunnelConfig) (self : TunnelSessions) :
    Label → Option TunnelSessions
  | .tcpAccept err allocation => self.tcpAcceptHandler config err allocation
  | .udpRecv dns allocation => self.udpRecvHandler config dns allocation
  | .connect node => self.connect config node
  | .handshake node => self.handshake config node
  | .splice node ok => self.splice config node ok
  | .yielder node => self.yielder config node
  | .recvFails node => self.recvFails node
  | .errHandler node => self.errHandler node
  | .taskExit node => self.taskExit node
  | .eventTask => self.eventTask

/-- All interleavings of the handlers and the tasks. -/
def system (config : TunnelConfig) : System TunnelSessions Label :=
  .ofExec (· = initial) (exec config)

end TunnelSessions

end ProxyVPN
