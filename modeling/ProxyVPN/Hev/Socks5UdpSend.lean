/-
Module: ProxyVPN.Hev.Socks5UdpSend
Purpose: The UDP-in-TCP sender of hev-socks5-udp.c, and the forward direction of
  a session of hev-socks5-session-udp.c that feeds it from its queue.
Trusted boundary: human-reviewed model
Main exports: OutMsg, OutMsg.encoding, sendmmsgTcp, SessionUdpForward,
  SessionUdpForward.system
-/
import ProxyVPN.Hev.Socks5Addr
import ProxyVPN.Hev.TaskIOSend
import ProxyVPN.Lib.Transition

namespace ProxyVPN

open TaskIO Transition

/-- What the sender reads of a `HevSocks5UDPMsg`: the address and the data. -/
structure OutMsg where
  addr : HevSocks5Addr
  buf : List UInt8

namespace OutMsg

/-- `HevSocks5UDPHdr` up to its address: `datlen` has 16 bits and `hdrlen`
eight. -/
def udp (self : OutMsg) : List UInt8 :=
  [UInt8.ofNat (self.buf.length / 256), UInt8.ofNat self.buf.length,
    UInt8.ofNat (3 + self.addr.addrLen.toNat)]

/-- The three buffers of a message. -/
def iov (self : OutMsg) : List (List UInt8) :=
  [self.udp, self.addr.wire, self.buf]

/-- The complete encoding of a message. -/
def encoding (self : OutMsg) : List UInt8 :=
  self.udp ++ self.addr.wire ++ self.buf

end OutMsg

/-- `hev_socks5_udp_sendmmsg_tcp`; `num` is the length of the array. -/
def sendmmsgTcp (msgv : List OutMsg) (events : List SendEvent) : Option Sent :=
  if msgv.any fun msg => msg.addr.addrLen ≤ 0 then
    some ⟨-1, []⟩
  else
    (sendmsg events (msgv.flatMap OutMsg.iov)).map fun sent =>
      { sent with res := if sent.res ≤ 0 then -1 else msgv.length }

/-! ## The forward direction of a session -/

/-- `UDP_POOL_SIZE`. -/
def udpPoolSize : Nat := 512

/-- The queue of a session, the result of its last forward step, and the
stream.  The list `queued` is not in the source: all frames ever queued. -/
structure SessionUdpForward where
  frameList : List OutMsg
  resF : Int
  stream : List UInt8
  queued : List OutMsg

namespace SessionUdpForward

def initial : SessionUdpForward :=
  { frameList := [], resF := 1, stream := [], queued := [] }

/-- A packet comes from lwIP, or the session takes its next forward step in the
loop of `hev_socks5_session_udp_splice`. -/
inductive Label where
  | recv (frame : OutMsg) (allocated : Bool)
  | fwdF (num : Nat) (events : List SendEvent)

/-- `udp_recv_handler` with a packet: it is dropped where the pool is full or no
frame can be allocated. -/
def recv (self : SessionUdpForward) (frame : OutMsg) (allocated : Bool) :
    SessionUdpForward :=
  if udpPoolSize < self.frameList.length ∨ allocated = false then self
  else
    { self with
      frameList := self.frameList ++ [frame]
      queued := self.queued ++ [frame] }

/-- The messages the next forward step hands over. -/
def batch (self : SessionUdpForward) (num : Nat) : List OutMsg :=
  self.frameList.take num

/-- `hev_socks5_session_udp_fwd_f`. -/
def fwdF (self : SessionUdpForward) (num : Nat) (events : List SendEvent) :
    Option SessionUdpForward :=
  if self.frameList = [] then
    some { self with resF := 0 }
  else
    (sendmmsgTcp (self.batch num) events).map fun sent =>
      if sent.res ≤ 0 then
        { self with resF := -1, stream := self.stream ++ sent.bytes }
      else
        { self with
          resF := 1
          stream := self.stream ++ sent.bytes
          frameList := self.frameList.drop sent.res.toNat }

/-- Forwarding stops for good after a negative result. -/
def exec (self : SessionUdpForward) : Label → Option SessionUdpForward
  | .recv frame allocated => some (self.recv frame allocated)
  | .fwdF num events => if self.resF ≥ 0 then self.fwdF num events else none

def system : System SessionUdpForward Label :=
  .ofExec (· = initial) exec

/-- A forward step is not cut short: the yielder does not give up, and the
socket does not fail, between the first and the last byte of its batch. -/
def NotCut (self : SessionUdpForward) : Label → Prop
  | .recv _ _ => True
  | .fwdF num events =>
      cutShort events ((self.batch num).flatMap OutMsg.encoding).length false =
        false

instance (self : SessionUdpForward) (label : Label) :
    Decidable (self.NotCut label) := by
  cases label <;> unfold NotCut <;> infer_instance

end SessionUdpForward

end ProxyVPN
