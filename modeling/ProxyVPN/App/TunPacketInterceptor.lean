/-
Module: ProxyVPN.App.TunPacketInterceptor
Purpose: The packet paths of TunPacketInterceptor.kt: the TUN reader loop with
  its log line and its DNS classifier, and the DNS reply builder.
Trusted boundary: human-reviewed model
Main exports: TunPacket, isIpv4UdpPort53, handlePacket, readLoop,
  craftIpv4UdpResponse, handleDnsRequest
-/
import ProxyVPN.Lib.CheckedArray
import Mathlib.Data.Int.Bitwise

namespace ProxyVPN.TunPacketInterceptor

open CheckedArray

/-!
A `Byte` is taken by its bits.  Masking its sign-extended `Int` with at most
`0xFF` only looks at these, and `toByte` keeps the low eight bits of an `Int`.
Sums of lengths and header words stay far below `2 ^ 31`, except where a
response length is added, which wraps.
-/

/-- A `ByteArray`: its size is an `Int`. -/
structure ByteArr where
  bytes : List UInt8
  size : bytes.length < 2 ^ 31

/-- What one successful `read` of the TUN descriptor puts into the buffer of
32767 bytes. -/
structure TunPacket where
  bytes : List UInt8
  positive : 0 < bytes.length
  bounded : bytes.length ≤ 32767

/-- The value of an `Int` computed without overflow checks. -/
def wrapInt (value : Int) : Int := value.bmod (2 ^ 32)

/-- `((high and 0xFF) shl 8) or (low and 0xFF)`. -/
def word (high low : UInt8) : Nat := high.toNat <<< 8 ||| low.toNat

/-- `(packet[0].toInt() and 0x0F) * 4`. -/
def ipHeaderLen (first : UInt8) : Nat := (first &&& 0x0F).toNat * 4

/-- `value.toByte()`. -/
def toByte (value : Nat) : UInt8 := UInt8.ofNat value

/-- The log line of the reader loop; `none` when the packet is not logged. -/
def loggedDstPort (packet : List UInt8) : Except Error (Option Nat) := do
  if packet.length ≤ 20 then
    return none
  let first ← read packet 0
  if first &&& 0xF0 ≠ 0x40 then
    return none
  let protocol ← read packet 9
  if protocol ≠ 17 then
    return none
  let ipHL := ipHeaderLen first
  let high ← read packet (ipHL + 2)
  let low ← read packet (ipHL + 3)
  return some (word high low)

def isIpv4UdpPort53 (packet : List UInt8) : Except Error Bool := do
  if packet.length < 20 then
    return false
  let first ← read packet 0
  if first.toNat >>> 4 ≠ 4 then
    return false
  let protocol ← read packet 9
  if protocol ≠ 17 then
    return false
  let ipHL := ipHeaderLen first
  if packet.length < ipHL + 8 then
    return false
  let high ← read packet (ipHL + 2)
  let low ← read packet (ipHL + 3)
  return word high low = 53

/-- Where the reader loop sends a packet. -/
inductive Delivery where
  | launched (packet : List UInt8)
  | forwarded (packet : List UInt8)
deriving Repr, DecidableEq

/-- One round of the reader loop. -/
def handlePacket (packet : List UInt8) : Except Error Delivery := do
  let _ ← loggedDstPort packet
  if ← isIpv4UdpPort53 packet then
    return .launched packet
  else
    return .forwarded packet

/-- The reader loop over the packets to come.  An exception leaves the loop,
since it is caught outside of it. -/
def readLoop : List (List UInt8) → List Delivery × Option Error
  | [] => ([], none)
  | packet :: packets =>
      match handlePacket packet with
      | .error raised => ([], some raised)
      | .ok delivery =>
          let rest := readLoop packets
          (delivery :: rest.1, rest.2)

def createServfailResponse (request : List UInt8) :
    Except Error (List UInt8) := do
  if request.length < 12 then
    return request
  let flags ← read request 2
  let response ← write request 2 (flags ||| 0x80)
  let codes ← read response 3
  write response 3 ((codes &&& 0xF0) ||| 0x02)

/-- `while (i < headerLen - 1)` and the odd byte after it. -/
def sumWords (packet : List UInt8) (headerLen i sum : Nat) :
    Except Error Nat := do
  if i + 1 < headerLen then
    let high ← read packet i
    let low ← read packet (i + 1)
    sumWords packet headerLen (i + 2) (sum + word high low)
  else if i < headerLen then
    let high ← read packet i
    return sum + high.toNat <<< 8
  else
    return sum
termination_by headerLen - i

/-- `while ((sum shr 16) > 0)`. -/
def foldCarries (sum : Nat) : Nat :=
  if 0 < sum >>> 16 then
    foldCarries ((sum &&& 0xFFFF) + sum >>> 16)
  else
    sum
termination_by sum
decreasing_by
  have low : sum &&& 0xFFFF = sum % 2 ^ 16 := Nat.and_two_pow_sub_one_eq_mod sum 16
  rw [Nat.shiftRight_eq_div_pow] at *
  omega

def calculateIpChecksum (packet : List UInt8) (headerLen : Nat) :
    Except Error (List UInt8) := do
  let packet ← write packet 10 0
  let packet ← write packet 11 0
  let sum ← sumWords packet headerLen 0 0
  let checksum := 0xFFFF - foldCarries sum
  let packet ← write packet 10 (toByte (checksum >>> 8))
  write packet 11 (toByte (checksum &&& 0xFF))

/-- Bytes 2 and 3: the total length. -/
def putTotalLen (response : List UInt8) (newTotalLen : Nat) :
    Except Error (List UInt8) := do
  let response ← write response 2 (toByte (newTotalLen >>> 8))
  write response 3 (toByte (newTotalLen &&& 0xFF))

/-- Exchange two bytes. -/
def swapBytes (response : List UInt8) (first second : Nat) :
    Except Error (List UInt8) := do
  let tmp ← read response first
  let other ← read response second
  let response ← write response first other
  write response second tmp

/-- Bytes 12 to 15 and 16 to 19: source and destination address. -/
def swapAddresses (response : List UInt8) : Except Error (List UInt8) := do
  let response ← swapBytes response 12 16
  let response ← swapBytes response 13 17
  let response ← swapBytes response 14 18
  swapBytes response 15 19

/-- Bytes 4 and 5 of the UDP header: its length. -/
def putUdpLen (response : List UInt8) (ipHeaderLen udpLen : Nat) :
    Except Error (List UInt8) := do
  let response ← write response (ipHeaderLen + 4) (toByte (udpLen >>> 8))
  write response (ipHeaderLen + 5) (toByte (udpLen &&& 0xFF))

/-- Bytes 0 and 1, and 2 and 3 of the UDP header: the ports. -/
def swapPorts (response : List UInt8) (ipHeaderLen : Nat) :
    Except Error (List UInt8) := do
  let sp0 ← read response (ipHeaderLen + 0)
  let sp1 ← read response (ipHeaderLen + 1)
  let dp0 ← read response (ipHeaderLen + 2)
  let response ← write response (ipHeaderLen + 0) dp0
  let dp1 ← read response (ipHeaderLen + 3)
  let response ← write response (ipHeaderLen + 1) dp1
  let response ← write response (ipHeaderLen + 2) sp0
  write response (ipHeaderLen + 3) sp1

/-- Bytes 6 and 7 of the UDP header: no checksum. -/
def clearUdpChecksum (response : List UInt8) (ipHeaderLen : Nat) :
    Except Error (List UInt8) := do
  let response ← write response (ipHeaderLen + 6) 0
  write response (ipHeaderLen + 7) 0

def craftIpv4UdpResponse (originalPacket : List UInt8) (ipHeaderLen : Nat)
    (dnsResponse : List UInt8) : Except Error (List UInt8) := do
  let newTotalLen := wrapInt (ipHeaderLen + 8 + dnsResponse.length)
  let response ← allocate 0 newTotalLen
  let response ← copy originalPacket 0 response 0 (ipHeaderLen + 8)
  let response ← putTotalLen response newTotalLen.toNat
  let response ← swapAddresses response
  let response ← putUdpLen response ipHeaderLen (8 + dnsResponse.length)
  let response ← swapPorts response ipHeaderLen
  let response ← clearUdpChecksum response ipHeaderLen
  let response ← copy dnsResponse 0 response (ipHeaderLen + 8)
    dnsResponse.length
  calculateIpChecksum response ipHeaderLen

/-- The resolver's answer, or the failure reply when it has none. -/
def resolved (answer : Option ByteArr) (dnsRequest : List UInt8) :
    Except Error (List UInt8) :=
  match answer with
  | some response => .ok response.bytes
  | none => createServfailResponse dnsRequest

/-- `handleDnsRequest` with what the resolver answers; `none` when nothing is
written to the TUN. -/
def handleDnsRequest (packet : List UInt8) (answer : Option ByteArr) :
    Except Error (Option (List UInt8)) := do
  let first ← read packet 0
  let ipHL := ipHeaderLen first
  let udpPayloadOffset := ipHL + 8
  if packet.length ≤ udpPayloadOffset then
    return none
  let dnsRequest := packet.drop udpPayloadOffset
  let dnsResponse ← resolved answer dnsRequest
  let responsePacket ← craftIpv4UdpResponse packet ipHL dnsResponse
  return some responsePacket

end ProxyVPN.TunPacketInterceptor
