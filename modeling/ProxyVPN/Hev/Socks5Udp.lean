/-
Module: ProxyVPN.Hev.Socks5Udp
Purpose: The UDP-in-TCP receiver of hev-socks5-udp.c and the backward step of
  hev-socks5-session-udp.c that consumes its batches.
Trusted boundary: human-reviewed model
Main exports: HevSocks5UDPMsg, recvHead, recvmmsgTcp, SessionUdp.fwdB
-/
import ProxyVPN.Hev.TaskIO

namespace ProxyVPN

open Scatter TaskIO

/-!
The memory is the byte array of the caller, and pointers into it are its
indices.  `nonblock` is the last argument of `hev_socks5_udp_recvmmsg`.
-/

/-- A pointer variable: one never assigned holds no pointer at all. -/
inductive Pointer where
  | indeterminate
  | null
  | cell (address : Nat)
deriving Repr, DecidableEq

/-- `struct _HevSocks5UDPMsg`. -/
structure HevSocks5UDPMsg where
  addr : Pointer
  buf : Nat
  len : Nat
deriving Repr, DecidableEq

/-- `UDP_BUF_SIZE`. -/
def udpBufSize : Nat := 1500

/-- Difference of two `size_t` values. -/
def sizeSub (left right : Nat) : Nat := (left + 2 ^ 64 - right) % 2 ^ 64

/-- `ntohs` of two bytes as they lie in memory. -/
def ntohs (high low : UInt8) : Nat := high.toNat * 256 + low.toNat

/-- What a call of the receiver leaves: the returned value, the message array,
the memory and the socket. -/
structure Recvmmsg where
  res : Int
  msgv : List HevSocks5UDPMsg
  memory : Nat → UInt8
  socket : Socket

/-- The reads of the five leading header bytes.  The second read completes a
header the first one got in part, and its result is added even when it is not
a count. -/
def recvHead (nonblock : Bool) (socket : Socket) : Received :=
  let first := recv { dontWait := nonblock, waitAll := false } 5 socket
  if 0 < first.res ∧ first.res < 5 then
    let second := recv msgWaitAll (5 - first.res.toNat) first.socket
    { res := first.res + second.res
      bytes := first.bytes ++ second.bytes
      socket := second.socket }
  else
    first

/-- The loop of `hev_socks5_udp_recvmmsg_tcp` over the messages not yet
reached, with `rlen` as the number received. -/
def recvmmsgTcpLoop (nonblock : Bool) :
    List HevSocks5UDPMsg → Nat → (Nat → UInt8) → Socket → Recvmmsg
  | [], rlen, memory, socket => ⟨rlen, [], memory, socket⟩
  | msg :: msgv, rlen, memory, socket =>
      let head := recvHead nonblock socket
      if head.res ≠ 5 then
        if 0 < rlen then
          ⟨rlen, msg :: msgv, memory, head.socket⟩
        else
          ⟨head.res, msg :: msgv, memory, head.socket⟩
      else
        let datlen := ntohs (head.bytes.getD 0 0) (head.bytes.getD 1 0)
        let hdrlen := (head.bytes.getD 2 0).toNat
        if hdrlen < 5 then
          ⟨-1, msg :: msgv, memory, head.socket⟩
        else
          let addrlen := hdrlen - 3
          if sizeSub msg.len addrlen < datlen then
            ⟨-1, msg :: msgv, memory, head.socket⟩
          else
            let iov : List Iovec :=
              [{ base := msg.buf + 2, len := addrlen - 2 },
                { base := msg.buf + addrlen, len := datlen }]
            let body := recvmsg msgWaitAll iov memory head.socket
            if body.res ≠ (addrlen - 2 + datlen : Nat) then
              ⟨body.res, msg :: msgv, body.memory, body.socket⟩
            else
              let received : HevSocks5UDPMsg :=
                { addr := .cell msg.buf
                  buf := msg.buf + addrlen
                  len := datlen }
              let memory := storeAt body.memory [msg.buf, msg.buf + 1]
                [head.bytes.getD 3 0, head.bytes.getD 4 0]
              let rest := recvmmsgTcpLoop nonblock msgv (rlen + 1) memory
                body.socket
              { rest with msgv := received :: rest.msgv }

/-- `hev_socks5_udp_recvmmsg_tcp`; `num` is the length of the array. -/
def recvmmsgTcp (nonblock : Bool) (msgv : List HevSocks5UDPMsg)
    (memory : Nat → UInt8) (socket : Socket) : Recvmmsg :=
  recvmmsgTcpLoop nonblock msgv 0 memory socket

/-- Message `i` as the callers prepare it over one buffer of
`UDP_BUF_SIZE * num` bytes: `addr` is left unassigned. -/
def slot (index : Nat) : HevSocks5UDPMsg :=
  { addr := .indeterminate
    buf := udpBufSize * index
    len := udpBufSize }

/-- The message array the callers pass. -/
def slots (num : Nat) : List HevSocks5UDPMsg := (List.range' 0 num).map slot

/-- `ip_addr_t` with the address bytes in memory order. -/
inductive IpAddr where
  | v4 (addr : List UInt8)
  | v6 (addr : List UInt8)
deriving Repr, DecidableEq

/-- `hev_socks5_addr_into_lwip`. -/
def addrIntoLwip (memory : Nat → UInt8) (addr : Nat) :
    Option (IpAddr × Nat) :=
  match (memory addr).toNat with
  | 1 =>
      some (.v4 ((List.range' (addr + 1) 4).map memory),
        ntohs (memory (addr + 5)) (memory (addr + 6)))
  | 4 =>
      some (.v6 ((List.range' (addr + 1) 16).map memory),
        ntohs (memory (addr + 17)) (memory (addr + 18)))
  | _ => none

/-- The fields of `HevSocks5SessionUDP` that replies look at. -/
structure SessionUdp where
  addr : List UInt8
  port : Nat
deriving Repr, DecidableEq

/-- What `pbuf_alloc_reference` and `udp_sendfrom` answer for one message. -/
inductive SendResult where
  | sent
  | noBuffer
  | refused
deriving Repr, DecidableEq

/-- A datagram handed to `udp_sendfrom`. -/
structure Datagram where
  source : IpAddr
  port : Nat
  payload : List UInt8
deriving Repr, DecidableEq

/-- A read the array or its entries do not allow. -/
inductive Fault where
  | outOfBounds (index : Nat)
  | uninitialised (index : Nat)
deriving Repr, DecidableEq

namespace SessionUdp

/-- The source address of a reply. -/
def source (self : SessionUdp) (memory : Nat → UInt8) (addr : Nat) :
    Option (IpAddr × Nat) :=
  if self.addr.any (· ≠ 0) ∧ self.port ≠ 0 then
    some (.v4 self.addr, self.port)
  else
    addrIntoLwip memory addr

/-- The loop of `hev_socks5_session_udp_fwd_b` from message `index` on. -/
def fwdBLoop (self : SessionUdp) (sends : Nat → SendResult)
    (msgv : List HevSocks5UDPMsg) (memory : Nat → UInt8) :
    Nat → Nat → List Datagram → Except Fault (Int × List Datagram)
  | 0, _, sent => .ok (1, sent)
  | left + 1, index, sent =>
      match msgv[index]? with
      | none => .error (.outOfBounds index)
      | some msg =>
          match msg.addr with
          | .indeterminate => .error (.uninitialised index)
          | .null => fwdBLoop self sends msgv memory left (index + 1) sent
          | .cell addr =>
              if msg.len = 0 then
                fwdBLoop self sends msgv memory left (index + 1) sent
              else
                match self.source memory addr with
                | none => .ok (-1, sent)
                | some (source, port) =>
                    match sends index with
                    | .noBuffer => .ok (-1, sent)
                    | .refused => .ok (-1, sent)
                    | .sent =>
                        let payload := (List.range' msg.buf msg.len).map memory
                        fwdBLoop self sends msgv memory left (index + 1)
                          (sent ++ [⟨source, port, payload⟩])

/-- `hev_socks5_session_udp_fwd_b` on a UDP-in-TCP session. -/
def fwdB (self : SessionUdp) (sends : Nat → SendResult) (num : Nat)
    (memory : Nat → UInt8) (socket : Socket) :
    Except Fault (Int × List Datagram) :=
  let batch := recvmmsgTcp true (slots num) memory socket
  if batch.res ≤ 0 then
    if batch.res = -1 ∧ batch.socket.errno = .again then .ok (0, [])
    else .ok (-1, [])
  else
    self.fwdBLoop sends batch.msgv batch.memory batch.res.toNat 0 []

end SessionUdp

end ProxyVPN
