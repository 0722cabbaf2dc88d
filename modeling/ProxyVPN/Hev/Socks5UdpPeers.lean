/-
Module: ProxyVPN.Hev.Socks5UdpPeers
Purpose: Whole runs of a UDP session of hev-socks5-session-udp.c, with datagrams
  of the client coming in between the replies of a batch, and exactly the runs
  in which each reply of a plain peer goes out under that peer's address.
Trusted boundary: human-reviewed model
Main exports: Destination.mapped, Destination.named, named_foreign_iff,
  SessionUdpRelay, SessionUdpRelay.system, Attributed, Keeps,
  remembered_of_reachable, attributed_iff_run, not_remembers_of_unnamed,
  reply_from_mapped_address
-/
import ProxyVPN.Hev.AddrFromLwip
import ProxyVPN.Hev.MappedDnsForeign
import ProxyVPN.Hev.Socks5UdpReplies
import ProxyVPN.Hev.Socks5UdpSend

namespace ProxyVPN

open CheckedArray HevSocks5Addr TaskIO Transition

namespace HevSocks5Addr

/-! ## The structure keeps its size -/

/-- A name is written behind its type, and the structure keeps its size. -/
theorem addrFromName_type {addr out : List UInt8} {name : CString}
    {port : BitVec 16} {res : Int}
    (written : addrFromName addr name port = .ok (res, out)) :
    out[0]? = some 3 ∧ out.length = addr.length := by
  unfold addrFromName at written
  obtain ⟨typed, typedEq, written⟩ := bind_eq_ok.mp written
  obtain ⟨named, namedEq, written⟩ := bind_eq_ok.mp written
  obtain ⟨_, _, written⟩ := bind_eq_ok.mp written
  obtain ⟨sized, sizedEq, written⟩ := bind_eq_ok.mp written
  obtain ⟨_, _, written⟩ := bind_eq_ok.mp written
  obtain ⟨ported, portedEq, written⟩ := bind_eq_ok.mp written
  obtain ⟨_, _, written⟩ := bind_eq_ok.mp written
  cases written
  constructor
  · have inside := (length_of_write typedEq).1
    have sizeInside := (length_of_write sizedEq).1
    rw [write_eq_ok sizeInside] at sizedEq
    cases sizedEq
    rw [getElem?_of_copy portedEq (by omega),
      List.getElem?_set_ne (by decide), getElem?_of_copy namedEq (by decide)]
    rw [write_eq_ok inside] at typedEq
    cases typedEq
    exact List.getElem?_set_self inside
  · rw [length_of_copy portedEq, (length_of_write sizedEq).2,
      length_of_copy namedEq, (length_of_write typedEq).2]

theorem length_addrFromLwip {dns after : Option HevMappedDNS}
    {addr out : List UInt8} {ip : IpAddrT} {port : BitVec 16} {res : Int}
    (written : addrFromLwip dns addr ip port = .ok (res, out, after)) :
    out.length = addr.length := by
  unfold addrFromLwip at written
  split at written
  · split at written
    · obtain ⟨⟨_, filled⟩, filledEq, written⟩ := bind_eq_ok.mp written
      cases written
      exact (addrFromIpv4_type filledEq).2
    · obtain ⟨word, _, written⟩ := bind_eq_ok.mp written
      split at written
      · cases written
      · obtain ⟨⟨_, filled⟩, filledEq, written⟩ := bind_eq_ok.mp written
        cases written
        exact (addrFromName_type filledEq).2
      · obtain ⟨⟨_, filled⟩, filledEq, written⟩ := bind_eq_ok.mp written
        cases written
        exact (addrFromIpv4_type filledEq).2
  · split at written
    · obtain ⟨⟨_, filled⟩, filledEq, written⟩ := bind_eq_ok.mp written
      cases written
      exact (addrFromIpv6_type filledEq).2
    · cases written
      rfl

end HevSocks5Addr

/-! ## A session and its peers -/

/-- The destination of a datagram of the client, which lwIP keeps as
`pcb->local_ip` and `pcb->local_port`, and the mapped DNS at that moment. -/
structure Destination where
  dns : Option HevMappedDNS
  ip : IpAddrT
  port : BitVec 16
  typed : ip.type = IpAddrT.typeV4 ∨ ip.type = IpAddrT.typeV6

namespace Destination

/-- The address without the unused part of the union. -/
def ipAddr (self : Destination) : IpAddr :=
  if self.ip.type = IpAddrT.typeV4 then .v4 (self.ip.uAddr.take 4)
  else .v6 (self.ip.uAddr.take 16)

/-- The address is one of the mapped network.  All others are plain. -/
def mapped (self : Destination) : Bool :=
  match self.dns with
  | none => false
  | some cache =>
      match ntohl self.ip.uAddr with
      | .error _ => false
      | .ok word =>
          self.ip.type = IpAddrT.typeV4 ∧
            word &&& cache.mask = cache.net &&& cache.mask

/-- The lookup of the address finds a name, whatever network it is of. -/
def named (self : Destination) : Bool :=
  match self.dns with
  | none => false
  | some cache =>
      match ntohl self.ip.uAddr with
      | .error _ => false
      | .ok word =>
          self.ip.type = IpAddrT.typeV4 ∧
            ((cache.lookup word).bind Prod.fst).isSome

/-- An address that replies can get as their source: `udp_recv_handler` stores
it, and `fwd_b` takes it for none where it or the port is zero. -/
def usable (self : Destination) : Bool :=
  (self.ip.uAddr.take 4).any (· ≠ 0) ∧ self.port.toNat ≠ 0

theorem typeV4_of_named {self : Destination} (named : self.named = true) :
    self.ip.type = IpAddrT.typeV4 := by
  unfold Destination.named at named
  split at named
  case h_1 => cases named
  case h_2 =>
    split at named
    case h_1 => cases named
    case h_2 => exact (of_decide_eq_true named).1

/-- An address is written as a name exactly where the lookup finds one. -/
theorem type_of_written {self : Destination} {prior out : List UInt8}
    {after : Option HevMappedDNS} {res : Int}
    (written : addrFromLwip self.dns prior self.ip self.port =
      .ok (res, out, after)) :
    out[0]? = some 3 ↔ self.named = true := by
  unfold addrFromLwip at written
  unfold named
  have other {type : UInt8} (first : out[0]? = some type) (apart : type ≠ 3) :
      out[0]? = some 3 ↔ False := by
    rw [first, Option.some.injEq]
    exact iff_of_false apart id
  split at written
  case isTrue version =>
    cases dns : self.dns with
    | none =>
        rw [dns] at written
        obtain ⟨⟨_, filled⟩, filledEq, written⟩ := bind_eq_ok.mp written
        cases written
        exact (other (addrFromIpv4_type filledEq).1 (by decide)).trans
          (by simp)
    | some cache =>
        rw [dns] at written
        obtain ⟨word, wordEq, written⟩ := bind_eq_ok.mp written
        simp only [wordEq, version, true_and, decide_eq_true_eq]
        cases found : cache.lookup word with
        | none =>
            rw [found] at written
            cases written
        | some result =>
            obtain ⟨name, next⟩ := result
            rw [found] at written
            cases name with
            | some name =>
                obtain ⟨⟨_, filled⟩, filledEq, written⟩ := bind_eq_ok.mp written
                cases written
                exact iff_of_true (addrFromName_type filledEq).1 rfl
            | none =>
                obtain ⟨⟨_, filled⟩, filledEq, written⟩ := bind_eq_ok.mp written
                cases written
                exact (other (addrFromIpv4_type filledEq).1 (by decide)).trans
                  (by simp)
  case isFalse version =>
    rw [if_pos (self.typed.resolve_left version)] at written
    obtain ⟨⟨_, filled⟩, filledEq, written⟩ := bind_eq_ok.mp written
    cases written
    refine (other (addrFromIpv6_type filledEq).1 (by decide)).trans ?_
    refine iff_of_false id ?_
    intro found
    exact version (typeV4_of_named found)

/-- A plain IPv4 address is taken for a name where its host bits count to less
than the number of names that are cached. -/
theorem named_foreign_iff {net mask : BitVec 32} {max : Int}
    {cache : HevMappedDNS} {self : Destination} {word : BitVec 32}
    (reached : (HevMappedDNS.system net mask max).Reachable cache)
    (prefixMask : HevMappedDNS.IsPrefix mask) (hostBits : net &&& ~~~mask = 0)
    (dns : self.dns = some cache) (version : self.ip.type = IpAddrT.typeV4)
    (read : ntohl self.ip.uAddr = .ok word) (plain : self.mapped = false) :
    self.named = true ↔ (word &&& ~~~mask).toNat < cache.use := by
  obtain ⟨⟨netEq, maskEq, _⟩, _⟩ := HevMappedDNS.config_of_reachable reached
  have own : net &&& mask = net := by
    ext i inside
    have bit := congrArg (BitVec.getLsbD · i) hostBits
    simp [inside] at bit ⊢
    exact bit
  have foreign : word &&& mask ≠ net := by
    intro same
    unfold mapped at plain
    simp only [dns, read, version, netEq, maskEq, own, same] at plain
    simp at plain
  have looked := HevMappedDNS.lookup_foreign reached prefixMask hostBits foreign
  unfold named
  simp only [dns, read, version, true_and, decide_eq_true_eq]
  constructor
  · intro found
    by_contra free
    rw [looked.1 (Nat.not_lt.mp free)] at found
    cases found
  · intro used
    obtain ⟨name, after, found⟩ := looked.2 used
    rw [found]
    rfl

end Destination

/-- The messages that a call of the receiver left and counted: each was set. -/
structure ReplyBatch where
  msgv : List HevSocks5UDPMsg
  memory : Nat → UInt8
  set : ∀ msg ∈ msgv, msg.addr ≠ .indeterminate
  positive : 0 < msgv.length

/-- What `hev_socks5_udp_recvmmsg` brings. -/
inductive RecvmmsgResult where
  | again
  | failed
  | replies (batch : ReplyBatch)

/-- A session, with the messages of a batch that its backward step has not
come to yet.  The lists `sentTo`, `queued` and `replies` are not in the source:
the plain destinations so far; the destinations of the datagrams that were not
dropped, latest first; and each reply of a plain destination as it came and as
it went out. -/
structure SessionUdpRelay where
  forward : SessionUdpForward
  client : SessionUdp
  resB : Int
  pending : List HevSocks5UDPMsg
  memory : Nat → UInt8
  sentTo : List (IpAddr × Nat)
  queued : List Destination
  replies : List (Datagram × Option Datagram)

/-- The message as a datagram of the peer that it names. -/
def HevSocks5UDPMsg.asReply (memory : Nat → UInt8) (msg : HevSocks5UDPMsg) :
    Option Datagram :=
  match msg.addr with
  | .cell addr =>
      (addrIntoLwip memory addr).map fun source =>
        ⟨source.1, source.2, msg.data memory⟩
  | _ => none

namespace SessionUdpRelay

def initial : SessionUdpRelay :=
  { forward := .initial
    client := ⟨[0, 0, 0, 0], 0⟩
    resB := 1
    pending := []
    memory := fun _ => 0
    sentTo := []
    queued := []
    replies := [] }

/-- The client sends a datagram, the session sends frames, the receiver is
called, or the loop of the backward step comes to the next message.  The last
two are steps of their own because the loop waits for a mutex, and datagrams of
the client can come in while it does. -/
inductive Label where
  | recv (destination : Destination) (prior : HevSocks5Addr)
      (payload : List UInt8) (allocated : Bool)
  | fwdF (num : Nat) (events : List SendEvent)
  | recvmmsg (received : RecvmmsgResult)
  | reply (send : SendResult)

/-- The reply that a message is, if it is one of a peer. -/
def peerReply (self : SessionUdpRelay) (msg : HevSocks5UDPMsg) :
    Option Datagram :=
  (msg.asReply self.memory).filter fun reply =>
    (reply.source, reply.port) ∈ self.sentTo

/-- The replies among some messages, with what became of them. -/
def noted (self : SessionUdpRelay) (msgv : List HevSocks5UDPMsg)
    (out : Option Datagram) : List (Datagram × Option Datagram) :=
  (msgv.filterMap self.peerReply).map fun reply => (reply, out)

/-- A plain destination is a peer from now on. -/
def sendTo (self : SessionUdpRelay) (destination : Destination) :
    SessionUdpRelay :=
  if destination.mapped then self
  else
    { self with
      sentTo := (destination.ipAddr, destination.port.toNat) :: self.sentTo }

/-- `udp_recv_handler` with a packet.  There is no step where the address is
written out of bounds. -/
def recv (self : SessionUdpRelay) (destination : Destination)
    (prior : HevSocks5Addr) (payload : List UInt8) (allocated : Bool) :
    Option SessionUdpRelay :=
  if udpPoolSize < self.forward.frameList.length ∨ allocated = false then
    some self
  else
    match written : addrFromLwip destination.dns prior.bytes destination.ip
        destination.port with
    | .error _ => none
    | .ok (_, out, _) =>
        let addr : HevSocks5Addr :=
          ⟨out, (length_addrFromLwip written).trans prior.size⟩
        let client : SessionUdp :=
          if addr.atype = 3 then
            ⟨destination.ip.uAddr.take 4, destination.port.toNat⟩
          else self.client
        some { self with
          client := client
          queued := destination :: self.queued
          forward := self.forward.recv ⟨addr, payload⟩ allocated }

/-- `hev_socks5_session_udp_fwd_b` up to its loop. -/
def recvmmsg (self : SessionUdpRelay) : RecvmmsgResult → SessionUdpRelay
  | .again => { self with resB := 0 }
  | .failed => { self with resB := -1 }
  | .replies batch =>
      { self with pending := batch.msgv, memory := batch.memory }

/-- One round of the loop, which returns behind the last message. -/
def reply (self : SessionUdpRelay) (send : SendResult) :
    Option SessionUdpRelay :=
  match self.pending with
  | [] => none
  | msg :: later =>
      let resB := if later = [] then 1 else self.resB
      (self.client.handle self.memory send msg).map fun verdict =>
        match verdict with
        | .skipped =>
            { self with
              resB := resB
              pending := later
              replies := self.replies ++ self.noted [msg] none }
        | .refused =>
            { self with
              resB := -1
              pending := []
              replies := self.replies ++ self.noted (msg :: later) none }
        | .sent datagram =>
            { self with
              resB := resB
              pending := later
              replies := self.replies ++ self.noted [msg] (some datagram) }

/-- A step in one direction is complete before the next is taken, and none is
taken after a negative result. -/
def exec (self : SessionUdpRelay) : Label → Option SessionUdpRelay
  | .recv destination prior payload allocated =>
      (self.sendTo destination).recv destination prior payload allocated
  | .fwdF num events =>
      if self.pending = [] then
        (self.forward.exec (.fwdF num events)).map fun forward =>
          { self with forward := forward }
      else none
  | .recvmmsg received =>
      if self.pending = [] ∧ 0 ≤ self.resB then some (self.recvmmsg received)
      else none
  | .reply send => self.reply send

def system : System SessionUdpRelay Label :=
  .ofExec (· = initial) exec

/-- Every reply of a peer went out, with that peer's address and port as its
source. -/
def Attributed (self : SessionUdpRelay) : Prop :=
  ∀ entry ∈ self.replies, entry.2 = some entry.1

/-! ## The runs that attribute all replies -/

/-- Among the datagrams of the client that were not dropped, the last one to an
address that the lookup finds a name for, unless that address or its port is
zero. -/
def masking (self : SessionUdpRelay) : Option Destination :=
  (self.queued.find? Destination.named).filter Destination.usable

/-- The loop ends early at a message with data: lwIP refuses it, or there is no
source for it. -/
def GivesUp (self : SessionUdpRelay) (send : SendResult)
    (msg : HevSocks5UDPMsg) : Prop :=
  msg.addr ≠ .null ∧ msg.len ≠ 0 ∧
    (send ≠ .sent ∨ self.masking = none ∧ msg.asReply self.memory = none)

instance (self : SessionUdpRelay) (send : SendResult) (msg : HevSocks5UDPMsg) :
    Decidable (self.GivesUp send msg) :=
  inferInstanceAs (Decidable (_ ∧ _))

/-- A reply of a peer has data, and if a datagram masks it, that one went to the
peer itself. -/
def Unmasked (self : SessionUdpRelay) (msg : HevSocks5UDPMsg) : Prop :=
  ∀ reply ∈ self.peerReply msg,
    msg.len ≠ 0 ∧ ∀ destination ∈ self.masking,
      destination.ipAddr = reply.source ∧ destination.port.toNat = reply.port

instance (self : SessionUdpRelay) (msg : HevSocks5UDPMsg) :
    Decidable (self.Unmasked msg) :=
  inferInstanceAs (Decidable (∀ reply ∈ self.peerReply msg, _))

/-- What the session remembers is where the last datagram went that a name was
written for. -/
def Recalls (self : SessionUdpRelay) : Prop :=
  self.client =
    match self.queued.find? Destination.named with
    | none => initial.client
    | some destination =>
        ⟨destination.ip.uAddr.take 4, destination.port.toNat⟩

/-- Replies get their source from the datagram that masks them, if there is
one. -/
theorem Recalls.source_eq {self : SessionUdpRelay} (recalls : self.Recalls)
    (addr : Nat) :
    self.client.source self.memory addr =
      match self.masking with
      | none => addrIntoLwip self.memory addr
      | some destination =>
          some (destination.ipAddr, destination.port.toNat) := by
  unfold Recalls at recalls
  rw [SessionUdp.source_eq, recalls, masking]
  cases last : self.queued.find? Destination.named with
  | none => exact if_neg (by decide)
  | some destination =>
      have version := Destination.typeV4_of_named (List.find?_some last)
      have usableIff : destination.usable = true ↔
          SessionUdp.Remembers
            ⟨destination.ip.uAddr.take 4, destination.port.toNat⟩ :=
        decide_eq_true_iff
      by_cases usable : destination.usable = true
      · have address : destination.ipAddr =
            .v4 (destination.ip.uAddr.take 4) := if_pos version
        rw [if_pos (usableIff.mp usable), Option.filter_some_pos usable]
        simp only [address]
      · rw [if_neg (usable ∘ usableIff.mpr),
          Option.filter_some_neg (Bool.eq_false_iff.mpr usable)]

/-- When the loop comes to a reply of a peer it is not masked, and when the loop
ends early no such reply is left in the batch. -/
def KeepsReplies (self : SessionUdpRelay) (send : SendResult) :
    List HevSocks5UDPMsg → Prop
  | [] => True
  | msg :: later =>
      if self.GivesUp send msg then
        ∀ other ∈ msg :: later, self.peerReply other = none
      else
        self.Unmasked msg

instance (self : SessionUdpRelay) (send : SendResult) :
    ∀ msgv, Decidable (self.KeepsReplies send msgv)
  | [] => isTrue trivial
  | msg :: later => inferInstanceAs (Decidable
      (if self.GivesUp send msg then
        ∀ other ∈ msg :: later, self.peerReply other = none
      else
        self.Unmasked msg))

def Keeps (self : SessionUdpRelay) : Label → Prop
  | .reply send => self.KeepsReplies send self.pending
  | _ => True

instance (self : SessionUdpRelay) : ∀ label, Decidable (self.Keeps label)
  | .recv _ _ _ _ => isTrue trivial
  | .fwdF _ _ => isTrue trivial
  | .recvmmsg _ => isTrue trivial
  | .reply _ => inferInstanceAs (Decidable (KeepsReplies _ _ _))

theorem noted_nil_iff (self : SessionUdpRelay) (msgv : List HevSocks5UDPMsg)
    (out : Option Datagram) :
    self.noted msgv out = [] ↔ ∀ msg ∈ msgv, self.peerReply msg = none := by
  rw [noted, List.map_eq_nil_iff, List.filterMap_eq_nil_iff]

/-- Nothing of what is noted as lost went out. -/
theorem noted_none_iff (self : SessionUdpRelay) (msgv : List HevSocks5UDPMsg) :
    (∀ entry ∈ self.noted msgv none, entry.2 = some entry.1) ↔
      ∀ msg ∈ msgv, self.peerReply msg = none := by
  rw [← self.noted_nil_iff msgv none, List.eq_nil_iff_forall_not_mem]
  constructor
  · intro went entry member
    have out := went entry member
    obtain ⟨reply, _, rfl⟩ := List.mem_map.mp member
    cases out
  · intro none entry member
    exact absurd member (none entry)

/-- A single message is noted if it is a reply of a peer. -/
theorem noted_single (self : SessionUdpRelay) (msg : HevSocks5UDPMsg)
    (out : Option Datagram) :
    (∀ entry ∈ self.noted [msg] out, entry.2 = some entry.1) ↔
      ∀ reply, self.peerReply msg = some reply → out = some reply := by
  unfold noted
  cases answer : self.peerReply msg with
  | none => simp [answer]
  | some reply => simp [answer]

/-- A reply of a peer is at a place in the memory, and gets that peer as its
source where nothing else is remembered. -/
theorem peerReply_eq_some {self : SessionUdpRelay} {msg : HevSocks5UDPMsg}
    {reply : Datagram} (answer : self.peerReply msg = some reply) :
    ∃ addr, msg.addr = .cell addr ∧
      addrIntoLwip self.memory addr = some (reply.source, reply.port) ∧
      reply.payload = msg.data self.memory := by
  unfold peerReply at answer
  obtain ⟨known, _⟩ := Option.filter_eq_some_iff.mp answer
  unfold HevSocks5UDPMsg.asReply at known
  cases place : msg.addr with
  | indeterminate =>
      rw [place] at known
      cases known
  | null =>
      rw [place] at known
      cases known
  | cell addr =>
      rw [place] at known
      obtain ⟨source, found, rfl⟩ := Option.map_eq_some_iff.mp known
      exact ⟨addr, rfl, found, rfl⟩

/-- Where the loop passes a message over, only a reply without data can be
lost. -/
theorem keepsReplies_skipped {self : SessionUdpRelay} {send : SendResult}
    {msg : HevSocks5UDPMsg} {later : List HevSocks5UDPMsg}
    (handled : self.client.handle self.memory send msg = some .skipped) :
    self.KeepsReplies send (msg :: later) ↔
      ∀ reply, self.peerReply msg = some reply → none = some reply := by
  have passed := SessionUdp.handle_skipped self.client self.memory handled
  have goesOn : ¬self.GivesUp send msg := by
    rintro ⟨set, nonempty, _⟩
    exact passed.elim set nonempty
  rw [KeepsReplies, if_neg goesOn, Unmasked]
  cases answer : self.peerReply msg with
  | none => simp
  | some reply =>
      obtain ⟨addr, place, _⟩ := peerReply_eq_some answer
      have empty : msg.len = 0 := by
        rcases passed with unset | empty
        · rw [place] at unset
          cases unset
        · exact empty
      simp [empty]

/-- Where the loop ends early, all replies that are left are lost. -/
theorem keepsReplies_refused {self : SessionUdpRelay} {send : SendResult}
    {msg : HevSocks5UDPMsg} {later : List HevSocks5UDPMsg}
    (recalls : self.Recalls)
    (handled : self.client.handle self.memory send msg = some .refused) :
    self.KeepsReplies send (msg :: later) ↔
      ∀ other ∈ msg :: later, self.peerReply other = none := by
  obtain ⟨addr, place, nonempty, cause⟩ :=
    SessionUdp.handle_refused self.client self.memory handled
  have givesUp : self.GivesUp send msg := by
    refine ⟨?_, nonempty, cause.imp_right ?_⟩
    · rw [place]
      exact Pointer.noConfusion
    · intro missing
      rw [recalls.source_eq] at missing
      split at missing
      case h_2 => cases missing
      case h_1 unmasked =>
        refine ⟨unmasked, ?_⟩
        unfold HevSocks5UDPMsg.asReply
        rw [place]
        exact Option.map_eq_none_iff.mpr missing
  rw [KeepsReplies, if_pos givesUp]

/-- Where a datagram is sent, it is the reply itself exactly when no other source
masks it. -/
theorem keepsReplies_sent {self : SessionUdpRelay} {send : SendResult}
    {msg : HevSocks5UDPMsg} {later : List HevSocks5UDPMsg}
    {datagram : Datagram} (recalls : self.Recalls)
    (handled : self.client.handle self.memory send msg =
      some (.sent datagram)) :
    self.KeepsReplies send (msg :: later) ↔
      ∀ reply, self.peerReply msg = some reply →
        some datagram = some reply := by
  obtain ⟨addr, place, nonempty, taken, source, payload⟩ :=
    SessionUdp.handle_sent self.client self.memory handled
  rw [recalls.source_eq] at source
  have goesOn : ¬self.GivesUp send msg := by
    rintro ⟨_, _, refused | ⟨unmasked, missing⟩⟩
    · exact refused taken
    · rw [unmasked] at source
      unfold HevSocks5UDPMsg.asReply at missing
      rw [place] at missing
      simp [source] at missing
  rw [KeepsReplies, if_neg goesOn, Unmasked]
  cases answer : self.peerReply msg with
  | none => simp
  | some reply =>
      obtain ⟨other, otherPlace, found, data⟩ := peerReply_eq_some answer
      rw [place] at otherPlace
      cases otherPlace
      have same : datagram = reply ↔
          datagram.source = reply.source ∧ datagram.port = reply.port := by
        constructor
        · rintro rfl
          exact ⟨rfl, rfl⟩
        · rintro ⟨sources, ports⟩
          obtain ⟨_, _, _⟩ := datagram
          obtain ⟨_, _, _⟩ := reply
          simp only at sources ports payload data
          rw [sources, ports, payload, data]
      simp only [Option.mem_def, Option.some.injEq, forall_eq', same, ne_eq,
        nonempty, not_false_eq_true, true_and]
      cases masks : self.masking with
      | none =>
          rw [masks] at source
          simp only [found] at source
          obtain ⟨sourceEq, portEq⟩ := Prod.mk.inj (Option.some.inj source)
          rw [← sourceEq, ← portEq]
          exact iff_of_true (by rintro _ ⟨⟩) ⟨rfl, rfl⟩
      | some destination =>
          rw [masks] at source
          obtain ⟨sourceEq, portEq⟩ := Prod.mk.inj (Option.some.inj source)
          rw [← sourceEq, ← portEq]
          simp

/-- The replies that were noted, and those of this step. -/
theorem attributed_append {self next : SessionUdpRelay}
    {later : List (Datagram × Option Datagram)}
    (noted : next.replies = self.replies ++ later) :
    next.Attributed ↔
      self.Attributed ∧ ∀ entry ∈ later, entry.2 = some entry.1 := by
  unfold Attributed
  rw [noted, List.forall_mem_append]

/-- A round of the loop attributes its replies exactly when it keeps them. -/
theorem reply_attributed_iff {self next : SessionUdpRelay} {send : SendResult}
    (recalls : self.Recalls) (taken : self.reply send = some next) :
    next.Attributed ↔
      self.Attributed ∧ self.KeepsReplies send self.pending := by
  unfold reply at taken
  cases pending : self.pending with
  | nil =>
      rw [pending] at taken
      cases taken
  | cons msg later =>
      rw [pending] at taken
      obtain ⟨verdict, handled, rfl⟩ := Option.map_eq_some_iff.mp taken
      cases verdict with
      | skipped =>
          rw [keepsReplies_skipped handled, ← noted_single]
          exact attributed_append rfl
      | refused =>
          rw [keepsReplies_refused recalls handled, ← noted_none_iff]
          exact attributed_append rfl
      | sent datagram =>
          rw [keepsReplies_sent recalls handled, ← noted_single]
          exact attributed_append rfl

/-- A datagram of the client is refused, or it is queued under the address that
is written for its destination. -/
theorem recv_cases {self next : SessionUdpRelay} {destination : Destination}
    {prior : HevSocks5Addr} {payload : List UInt8} {allocated : Bool}
    (taken : self.recv destination prior payload allocated = some next) :
    next = self ∨ ∃ (res : Int) (addr : HevSocks5Addr) (after : Option HevMappedDNS),
      addrFromLwip destination.dns prior.bytes destination.ip
        destination.port = .ok (res, addr.bytes, after) ∧
      next = { self with
        client := if addr.atype = 3 then
            ⟨destination.ip.uAddr.take 4, destination.port.toNat⟩
          else self.client
        queued := destination :: self.queued
        forward := self.forward.recv ⟨addr, payload⟩ allocated } := by
  unfold recv at taken
  split at taken
  case isTrue =>
    cases taken
    exact .inl rfl
  case isFalse =>
    split at taken
    case h_1 => cases taken
    case h_2 res out after written =>
      cases taken
      exact .inr ⟨res, _, after, written, rfl⟩

/-- A datagram of the client leaves the replies as they are. -/
theorem recv_replies {self next : SessionUdpRelay} {destination : Destination}
    {prior : HevSocks5Addr} {payload : List UInt8} {allocated : Bool}
    (taken : self.recv destination prior payload allocated = some next) :
    next.replies = self.replies := by
  rcases recv_cases taken with rfl | ⟨_, _, _, _, rfl⟩
  · rfl
  · rfl

@[simp] theorem sendTo_replies (self : SessionUdpRelay)
    (destination : Destination) :
    (self.sendTo destination).replies = self.replies := by
  unfold sendTo
  split <;> rfl

@[simp] theorem sendTo_client (self : SessionUdpRelay)
    (destination : Destination) :
    (self.sendTo destination).client = self.client := by
  unfold sendTo
  split <;> rfl

@[simp] theorem sendTo_queued (self : SessionUdpRelay)
    (destination : Destination) :
    (self.sendTo destination).queued = self.queued := by
  unfold sendTo
  split <;> rfl

/-- A datagram of the client is remembered exactly where a name is written for
it. -/
theorem recv_recalls {self next : SessionUdpRelay} {destination : Destination}
    {prior : HevSocks5Addr} {payload : List UInt8} {allocated : Bool}
    (recalls : self.Recalls)
    (taken : self.recv destination prior payload allocated = some next) :
    next.Recalls := by
  rcases recv_cases taken with rfl | ⟨_, addr, _, written, rfl⟩
  · exact recalls
  · have first : addr.bytes[0]? = some addr.atype := by
      have inside : 0 < addr.bytes.length := by
        rw [addr.size]
        decide
      rw [atype, List.getD_eq_getElem?_getD, List.getElem?_eq_getElem inside]
      rfl
    have written := destination.type_of_written written
    rw [first, Option.some.injEq] at written
    unfold Recalls at recalls ⊢
    rw [List.find?_cons]
    cases named : destination.named with
    | true => exact if_pos (written.mpr named)
    | false =>
        have other : ¬addr.atype = 3 := by
          intro name
          rw [written.mp name] at named
          cases named
        exact (if_neg other).trans recalls

/-- Replies are handed out without a change to what is remembered. -/
theorem reply_keeps {self next : SessionUdpRelay} {send : SendResult}
    (taken : self.reply send = some next) :
    next.client = self.client ∧ next.queued = self.queued := by
  unfold reply at taken
  split at taken
  · cases taken
  · obtain ⟨verdict, _, rfl⟩ := Option.map_eq_some_iff.mp taken
    cases verdict <;> exact ⟨rfl, rfl⟩

theorem exec_recalls {self next : SessionUdpRelay} {label : Label}
    (recalls : self.Recalls) (taken : self.exec label = some next) :
    next.Recalls := by
  cases label with
  | recv destination prior payload allocated =>
      refine recv_recalls ?_ taken
      unfold Recalls
      rw [sendTo_client, sendTo_queued]
      exact recalls
  | fwdF num events =>
      obtain ⟨_, taken⟩ := Option.ite_none_right_eq_some.mp taken
      obtain ⟨forward, _, rfl⟩ := Option.map_eq_some_iff.mp taken
      exact recalls
  | recvmmsg received =>
      obtain ⟨_, taken⟩ := Option.ite_none_right_eq_some.mp taken
      cases taken
      cases received <;> exact recalls
  | reply send =>
      obtain ⟨client, queued⟩ := reply_keeps taken
      unfold Recalls
      rw [client, queued]
      exact recalls

/-- At any time a session remembers where the last datagram went that a name was
written for. -/
theorem remembered_of_reachable {state : SessionUdpRelay}
    (reached : system.Reachable state) : state.Recalls := by
  have invariant : Invariant system Recalls := by
    constructor
    · rintro state rfl
      rfl
    · intro state label next recalls taken
      exact exec_recalls recalls taken
  exact invariant.reachable reached

/-- Every step attributes its replies exactly when it keeps them. -/
theorem exec_attributed_iff {self next : SessionUdpRelay} {label : Label}
    (recalls : self.Recalls) (taken : self.exec label = some next) :
    next.Attributed ↔ self.Attributed ∧ self.Keeps label := by
  have quiet : next.replies = self.replies →
      (next.Attributed ↔ self.Attributed ∧ True) := by
    intro same
    unfold Attributed
    rw [same, and_true]
  cases label with
  | recv destination prior payload allocated =>
      exact quiet ((recv_replies taken).trans (self.sendTo_replies destination))
  | fwdF num events =>
      obtain ⟨_, taken⟩ := Option.ite_none_right_eq_some.mp taken
      obtain ⟨forward, _, rfl⟩ := Option.map_eq_some_iff.mp taken
      exact quiet rfl
  | recvmmsg received =>
      obtain ⟨_, taken⟩ := Option.ite_none_right_eq_some.mp taken
      cases taken
      cases received <;> exact quiet rfl
  | reply send => exact reply_attributed_iff recalls taken

/-- In a run, each reply of a plain peer went out under that peer's address and
port exactly when the run keeps the replies at every step. -/
theorem attributed_iff_run {labels : List Label} {last : SessionUdpRelay}
    (run : system.Run initial labels last) :
    last.Attributed ↔ (system.restrict Keeps).Run initial labels last := by
  constructor
  · intro attributed
    induction run with
    | nil => exact .nil initial
    | snoc before lastTaken inductionHypothesis =>
        have recalls := remembered_of_reachable ⟨initial, _, rfl, before⟩
        obtain ⟨earlier, keeps⟩ :=
          (exec_attributed_iff recalls lastTaken).mp attributed
        exact .snoc (inductionHypothesis earlier) ⟨keeps, lastTaken⟩
  · intro restricted
    have invariant : Invariant (system.restrict Keeps) fun state =>
        state.Recalls ∧ state.Attributed := by
      constructor
      · rintro state rfl
        refine ⟨rfl, ?_⟩
        intro entry member
        cases member
      · rintro state label next ⟨recalls, attributed⟩ ⟨keeps, taken⟩
        exact ⟨exec_recalls recalls taken,
          (exec_attributed_iff recalls taken).mpr ⟨attributed, keeps⟩⟩
    refine (invariant.run restricted ⟨rfl, ?_⟩).2
    intro entry member
    cases member

/-! ## Sessions without names -/

/-- The lookup finds no name for the destination of a datagram. -/
def Unnamed (_ : SessionUdpRelay) : Label → Prop
  | .recv destination _ _ _ => destination.named = false
  | _ => True

/-- As long as the client sends to addresses without names only, none is
remembered, so replies keep the addresses they come with. -/
theorem not_remembers_of_unnamed {state : SessionUdpRelay}
    (reached : (system.restrict Unnamed).Reachable state) :
    ¬state.client.Remembers := by
  have invariant : Invariant (system.restrict Unnamed) fun state =>
      state.Recalls ∧ ∀ destination ∈ state.queued, ¬destination.named = true := by
    constructor
    · rintro state rfl
      exact ⟨rfl, by rintro _ ⟨⟩⟩
    · rintro state label next ⟨recalls, unnamed⟩ ⟨plain, taken⟩
      refine ⟨exec_recalls recalls taken, ?_⟩
      cases label with
      | recv destination prior payload allocated =>
          rw [← state.sendTo_queued destination] at unnamed
          rcases recv_cases taken with rfl | ⟨_, _, _, _, rfl⟩
          · exact unnamed
          · refine List.forall_mem_cons.mpr ⟨?_, unnamed⟩
            exact Bool.eq_false_iff.mp plain
      | fwdF num events =>
          obtain ⟨_, taken⟩ := Option.ite_none_right_eq_some.mp taken
          obtain ⟨forward, _, rfl⟩ := Option.map_eq_some_iff.mp taken
          exact unnamed
      | recvmmsg received =>
          obtain ⟨_, taken⟩ := Option.ite_none_right_eq_some.mp taken
          cases taken
          cases received <;> exact unnamed
      | reply send =>
          rw [(reply_keeps taken).2]
          exact unnamed
  obtain ⟨recalls, unnamed⟩ := invariant.reachable reached
  unfold Recalls at recalls
  rw [List.find?_eq_none.mpr unnamed] at recalls
  rw [recalls]
  decide

/-! ### A reply of 8.8.8.8 -/

/-- The cache of 100.64.0.0/10 with one name. -/
def oneName : Option HevMappedDNS :=
  (HevMappedDNS.construct 0x64400000#32 0xFFC00000#32 10000).bind fun cache =>
    cache.exec (.find ⟨[97], CString.zero_notMem_a⟩
      { node := some 100, inserted := .node .leaf 100 .leaf, erased := .leaf } 0)

/-- A datagram to an IPv4 address. -/
def datagramTo (uAddr : List UInt8) (port : BitVec 16) : Label :=
  .recv ⟨oneName, ⟨uAddr, IpAddrT.typeV4⟩, port, .inl rfl⟩
    ⟨List.replicate 260 0, List.length_replicate⟩ [1] true

/-- One byte of data from 8.8.8.8:53. -/
def replyOfPeer : ReplyBatch where
  msgv := [⟨.cell 0, 7, 1⟩]
  memory := fun address => [1, 8, 8, 8, 8, 0, 53, 9].getD address 0
  set := by decide
  positive := by decide

/-- A datagram to 8.8.8.8:53 and its reply. -/
def plainRun : List Label :=
  [datagramTo [8, 8, 8, 8] 53, .recvmmsg (.replies replyOfPeer), .reply .sent]

theorem attributed_plainRun :
    ∃ last, system.Run initial plainRun last ∧
      last.replies =
        [(⟨.v4 [8, 8, 8, 8], 53, [9]⟩, some ⟨.v4 [8, 8, 8, 8], 53, [9]⟩)] ∧
      last.Attributed := by
  have replayed : (plainRun.foldlM (fun (state : SessionUdpRelay) label =>
      if state.Keeps label then exec state label else none) initial).map
        replies =
      some [(⟨.v4 [8, 8, 8, 8], 53, [9]⟩,
        some ⟨.v4 [8, 8, 8, 8], 53, [9]⟩)] := by decide +kernel
  obtain ⟨last, restricted, seen⟩ := System.replay_restrict replies replayed
  exact ⟨last, restricted.of_restrict, seen,
    (attributed_iff_run restricted.of_restrict).mpr restricted⟩

/-- After a datagram to a mapped address the reply goes out under that
address. -/
theorem reply_from_mapped_address :
    ¬∀ (labels : List Label) (last : SessionUdpRelay),
      system.Run initial labels last → last.Attributed := by
  intro always
  have replayed : ((datagramTo [100, 64, 0, 0] 80 :: plainRun).foldlM exec
      initial).map replies =
      some [(⟨.v4 [8, 8, 8, 8], 53, [9]⟩,
        some ⟨.v4 [100, 64, 0, 0], 80, [9]⟩)] := by decide +kernel
  obtain ⟨last, run, seen⟩ := System.replay replies replayed
  have attributed := always _ last run
  unfold Attributed at attributed
  rw [seen] at attributed
  revert attributed
  decide

end SessionUdpRelay

end ProxyVPN
