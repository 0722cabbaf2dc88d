/-
Module: ProxyVPN.Hev.SessionTcp
Purpose: One TCP session of hev-socks5-session-tcp.c as a transition system:
  the splice loop of the session task and the lwIP callbacks that run between
  its steps.
Trusted boundary: human-reviewed model
Main exports: SessionTcp, SessionTcp.Event, SessionTcp.exec, SessionTcp.system
-/
import ProxyVPN.Lib.Transition
import ProxyVPN.Hev.Lwip
import ProxyVPN.Hev.RingBuffer
import Mathlib.Data.Int.Bitwise

namespace ProxyVPN

open Scatter Transition Lwip

/-!
Tasks are scheduled cooperatively.  The session task can be left only where it
locks the mutex or yields, so each half of `tcp_splice_f` and `tcp_splice_b`
(before and inside the mutex) is one step, and the callbacks, which lwIP makes
while another task holds the mutex, are steps of their own.

The fields after `pc` are not in the source.  They record what has passed over
the two connections: the bytes moved in each direction, the acknowledged and
the credited counts, and for every `tcp_shutdown` and `shutdown` how much had
been received and passed on at that point.
-/

/-- Outcome of `writev` on the SOCKS socket. -/
inductive WritevResult where
  | wrote (size : Nat)
  | again
  | failed
deriving Repr, DecidableEq

/-- Outcome of `readv` on the SOCKS socket. -/
inductive ReadvResult where
  | data (bytes : List UInt8)
  | again
  | eof
  | failed
deriving Repr, DecidableEq

/-- Outcome of `tcp_write`: lwIP enqueues the whole chunk or none of it. -/
inductive TcpWriteResult where
  | ok
  | mem
deriving Repr, DecidableEq

def TcpWriteResult.err : TcpWriteResult → ErrT
  | .ok => ERR_OK
  | .mem => ERR_MEM

namespace SessionTcp

/-- Where the session task is in `hev_socks5_session_tcp_splice`. -/
inductive Pc where
  | spliceF
  | lockF (written : Nat)
  | spliceB
  | lockB (res : Int)
  | yield
  | drain
  | done
deriving Repr, DecidableEq

end SessionTcp

/-- `HevSocks5SessionTCP` with the locals of its task. -/
structure SessionTcp where
  pcb : Bool
  queue : Pbuf
  pcbEof : Bool
  buffer : HevRingBuffer
  resF : Int
  resB : Int
  pc : SessionTcp.Pc
  pcbIn : List UInt8
  socketOut : List UInt8
  recved : Nat
  shutWr : List (Bool × List UInt8 × List UInt8)
  socketIn : List UInt8
  pcbOut : List UInt8
  acked : Nat
  shutTx : List (List UInt8 × List UInt8)

namespace SessionTcp

/-- Entry of `hev_socks5_session_tcp_splice` with a live pcb: the ring is
allocated, and `tcp_recv_handler` may already have queued data. -/
def splice (queue : Pbuf) (pcbEof : Bool) (tcpBufferSize : Nat)
    (data : Nat → UInt8) : SessionTcp :=
  { pcb := true
    queue := queue
    pcbEof := pcbEof
    buffer := .alloca tcpBufferSize data
    resF := 1
    resB := 1
    pc := .spliceF
    pcbIn := queue.flatten
    socketOut := []
    recved := 0
    shutWr := []
    socketIn := []
    pcbOut := []
    acked := 0
    shutTx := [] }

/-- `tcp_splice_f` up to the mutex.  At most 64 pbufs go to one `writev`. -/
def tcpSpliceF (self : SessionTcp) (result : WritevResult) :
    Option SessionTcp :=
  if self.queue ≠ [] then
    let iov := self.queue.take 64
    match result with
    | .wrote size =>
        if 0 < size ∧ size ≤ iov.flatten.length then
          some
            { self with
              socketOut := self.socketOut ++ iov.flatten.take size
              pc := .lockF size }
        else
          none
    | .again => some { self with resF := 0, pc := .spliceB }
    | .failed => some { self with resF := -1, pc := .spliceB }
  else if self.pcbEof then
    some
      { self with
        resF := -1
        shutWr := self.shutWr ++ [(self.pcbEof, self.pcbIn, self.socketOut)]
        pc := .spliceB }
  else
    some { self with resF := 0, pc := .spliceB }

/-- The locked part of `tcp_splice_f`.  Both sizes are `u16_t` parameters. -/
def tcpSpliceFLocked (self : SessionTcp) (size : Nat) : SessionTcp :=
  { self with
    queue := pbufFreeHeader self.queue size
    recved := if self.pcb then self.recved + u16 size else self.recved
    resF := 1
    pc := .spliceB }

/-- `tcp_splice_b` up to the mutex. -/
def tcpSpliceB (self : SessionTcp) (result : ReadvResult) :
    Option SessionTcp :=
  if self.buffer.writing ≠ [] then
    match result with
    | .data bytes =>
        if 0 < bytes.length ∧ bytes.length ≤ total self.buffer.writing then
          some
            { self with
              buffer := (self.buffer.fill bytes).writeFinish bytes.length
              socketIn := self.socketIn ++ bytes
              pc := .lockB 1 }
        else
          none
    | .again => some { self with pc := .lockB 0 }
    | .eof | .failed => some { self with pc := .lockB (-1) }
  else
    some { self with pc := .lockB 0 }

/-- The `tcp_write` loop over the chunks: the accumulated error and the bytes
lwIP enqueued.  The length is a `u16_t` parameter. -/
def tcpWriteChunks (data : Nat → UInt8) :
    List Iovec → List TcpWriteResult → ErrT × List UInt8
  | iov :: iovs, result :: results =>
      let rest := tcpWriteChunks data iovs results
      let enqueued :=
        match result with
        | .ok => gather data [{ iov with len := u16 iov.len }]
        | .mem => []
      (result.err ||| rest.1, enqueued ++ rest.2)
  | _, _ => (ERR_OK, [])

/-- The locked part of `tcp_splice_b`. -/
def tcpSpliceBLocked (self : SessionTcp) (res : Int)
    (writes : List TcpWriteResult) (output : ErrT) : Option SessionTcp :=
  if self.pcb then
    let iov := self.buffer.reading
    if writes.length ≠ iov.length then
      none
    else if iov ≠ [] then
      let written := tcpWriteChunks self.buffer.data iov writes
      let err := written.1 ||| output
      some
        { self with
          buffer := self.buffer.readFinish (total iov)
          pcbOut := self.pcbOut ++ written.2
          resB := if err ≠ ERR_OK then -1 else 1
          pc := .yield }
    else if res < 0 then
      some
        { self with
          shutTx := self.shutTx ++ [(self.socketIn, self.pcbOut)]
          resB := res
          pc := .yield }
    else
      some { self with resB := res, pc := .yield }
  else
    some { self with resB := -1, pc := .yield }

/-- The end of an iteration: choose how to yield, then act on the yielder's
result. -/
def endIteration (self : SessionTcp) (yielder : Int) : SessionTcp :=
  if self.resF > 0 ∨ self.resB > 0 ∨ Int.land self.resF self.resB = 0 then
    if yielder < 0 then
      { self with pc := .drain }
    else
      { self with pc := .spliceF }
  else
    { self with pc := .drain }

/-- One turn of the loop that waits for the last acknowledgements. -/
def drainStep (self : SessionTcp) (yielder : Int) : SessionTcp :=
  if ¬ self.pcb then
    { self with pc := .done }
  else if self.buffer.getUseSize = 0 then
    { self with pc := .done }
  else if yielder < 0 then
    { self with pc := .done }
  else
    self

/-- `tcp_recv_handler` with data. -/
def tcpRecvHandler (self : SessionTcp) (p : Pbuf) : SessionTcp :=
  { self with
    queue := if self.queue ≠ [] then pbufCat self.queue p else p
    pcbIn := self.pcbIn ++ p.flatten }

/-- `tcp_sent_handler`. -/
def tcpSentHandler (self : SessionTcp) (len : Nat) : SessionTcp :=
  { self with
    buffer := self.buffer.readRelease len
    acked := self.acked + len }

/-- The steps of a session: the task's own, with the outcomes of the calls it
makes, and lwIP's callbacks. -/
inductive Event where
  | spliceF (result : WritevResult)
  | lockedF
  | spliceB (result : ReadvResult)
  | lockedB (writes : List TcpWriteResult) (output : ErrT)
  | yielded (yielder : Int)
  | recv (p : Pbuf)
  | recvEof
  | sent (len : Nat)
  | err

/-- One step.  lwIP acknowledges only what it enqueued, and calls back only
while the pcb exists. -/
def exec (self : SessionTcp) : Event → Option SessionTcp
  | .spliceF result =>
      if self.pc = .spliceF then
        if self.resF ≥ 0 then
          self.tcpSpliceF result
        else
          some { self with pc := .spliceB }
      else
        none
  | .lockedF =>
      match self.pc with
      | .lockF size => some (self.tcpSpliceFLocked size)
      | _ => none
  | .spliceB result =>
      if self.pc = .spliceB then
        if self.resB ≥ 0 then
          self.tcpSpliceB result
        else
          some { self with pc := .yield }
      else
        none
  | .lockedB writes output =>
      match self.pc with
      | .lockB res => self.tcpSpliceBLocked res writes output
      | _ => none
  | .yielded yielder =>
      if self.pc = .yield then
        some (self.endIteration yielder)
      else if self.pc = .drain then
        some (self.drainStep yielder)
      else
        none
  | .recv p =>
      if self.pcb then some (self.tcpRecvHandler p) else none
  | .recvEof =>
      if self.pcb then some { self with pcbEof := true } else none
  | .sent len =>
      if self.pcb ∧ self.acked + len ≤ self.pcbOut.length then
        some (self.tcpSentHandler len)
      else
        none
  | .err =>
      if self.pcb then some { self with pcb := false } else none

/-- Sessions whose buffer size passed the clamp of `hev_config_parse_doc`. -/
def system : System SessionTcp Event :=
  .ofExec
    (fun self => ∃ queue pcbEof tcpBufferSize data,
      tcpBufferSize ≤ TCP_SND_BUF ∧
        self = splice queue pcbEof tcpBufferSize data)
    exec

end SessionTcp

end ProxyVPN
