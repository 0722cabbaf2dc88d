/-
Module: ProxyVPN.App.DnsClassifier
Purpose: The packets that the interceptor takes for DNS queries against those
  that are UDP datagrams to port 53, and what becomes of all others.
Trusted boundary: none
Main exports: IsUdpPort53, Deceptive, forwarded, isUdpPort53_iff,
  forwarded_readLoop_eq, length_forwarded_lt, dns_classifier_exact_iff,
  swallows_fragment
-/
import ProxyVPN.App.TunPacketLoop

namespace ProxyVPN.TunPacketInterceptor

/-! ## UDP datagrams to port 53 -/

/-- The length of the header in words. -/
def ihl (packet : List UInt8) : Nat := (byteAt packet 0 &&& 0x0F).toNat

/-- The flag for more fragments, or an offset other than 0. -/
def IsFragment (packet : List UInt8) : Prop :=
  byteAt packet 6 &&& 0x20 ≠ 0 ∨
    word (byteAt packet 6 &&& 0x1F) (byteAt packet 7) ≠ 0

instance (packet : List UInt8) : Decidable (IsFragment packet) :=
  inferInstanceAs (Decidable (_ ∨ _))

/-- The packet begins with an IPv4 header of at least five words, is no
fragment, and has behind the header one for UDP with the destination port 53. -/
def IsUdpPort53 (packet : List UInt8) : Prop :=
  (byteAt packet 0).toNat >>> 4 = 4 ∧ 5 ≤ ihl packet ∧ byteAt packet 9 = 17 ∧
    ¬IsFragment packet ∧ ihl packet * 4 + 8 ≤ packet.length ∧
    word (byteAt packet (ihl packet * 4 + 2))
      (byteAt packet (ihl packet * 4 + 3)) = 53

instance (packet : List UInt8) : Decidable (IsUdpPort53 packet) :=
  inferInstanceAs (Decidable (_ ∧ _))

/-- The packet has the other fields of a UDP datagram to port 53, but its header
has less than five words, or it is a fragment. -/
def Deceptive (packet : List UInt8) : Prop :=
  20 ≤ packet.length ∧ (byteAt packet 0).toNat >>> 4 = 4 ∧
    byteAt packet 9 = 17 ∧ ihl packet * 4 + 8 ≤ packet.length ∧
    word (byteAt packet (ihl packet * 4 + 2))
      (byteAt packet (ihl packet * 4 + 3)) = 53 ∧
    (ihl packet < 5 ∨ IsFragment packet)

theorem isUdpPort53_iff (packet : List UInt8) :
    IsUdpPort53 packet ↔ IsDnsQuery packet ∧ ¬Deceptive packet := by
  unfold IsUdpPort53 IsDnsQuery Deceptive
  have header : ipHeaderLen (byteAt packet 0) = ihl packet * 4 := rfl
  rw [header]
  constructor
  · rintro ⟨version, words, protocol, whole, covered, port⟩
    refine ⟨⟨by omega, version, protocol, covered, port⟩, ?_⟩
    rintro ⟨_, _, _, _, _, few | fragment⟩
    · omega
    · exact whole fragment
  · rintro ⟨⟨long, version, protocol, covered, port⟩, honest⟩
    have regular : ¬(ihl packet < 5 ∨ IsFragment packet) := fun deceives =>
      honest ⟨long, version, protocol, covered, port, deceives⟩
    rw [not_or, not_lt] at regular
    exact ⟨version, regular.1, protocol, regular.2, covered, port⟩

/-- So the classifier is exact for a packet that is not deceptive. -/
theorem isIpv4UdpPort53_exact_iff (packet : List UInt8) :
    isIpv4UdpPort53 packet = .ok (decide (IsUdpPort53 packet)) ↔
      ¬Deceptive packet := by
  rw [isIpv4UdpPort53_eq, Except.ok.injEq, decide_eq_decide, isUdpPort53_iff]
  constructor
  · intro exact_ deceptive
    obtain ⟨long, version, protocol, covered, port, _⟩ := id deceptive
    exact (exact_.mp ⟨long, version, protocol, covered, port⟩).2 deceptive
  · intro honest
    exact ⟨fun query => ⟨query, honest⟩, And.left⟩

/-! ## What is forwarded -/

/-- What the reader loop writes to `proxyOutput`. -/
def forwarded (deliveries : List Delivery) : List (List UInt8) :=
  deliveries.filterMap fun delivery =>
    match delivery with
    | .launched _ => none
    | .forwarded packet => some packet

theorem forwarded_deliver (packets : List (List UInt8)) :
    forwarded (packets.map deliver) =
      packets.filter fun packet => ¬IsDnsQuery packet := by
  induction packets with
  | nil => rfl
  | cons packet packets inductionHypothesis =>
      unfold forwarded at inductionHypothesis ⊢
      rw [List.map_cons, List.filterMap_cons, inductionHypothesis, deliver]
      by_cases query : IsDnsQuery packet
      · simp [query]
      · simp [query]

/-- Where all packets can be logged, all but those taken for queries are
forwarded. -/
theorem forwarded_readLoop_eq {packets : List (List UInt8)}
    (inside : ∀ packet ∈ packets, LogInside packet) :
    forwarded (readLoop packets).1 =
      packets.filter fun packet => ¬IsDnsQuery packet := by
  rw [readLoop_eq inside]
  exact forwarded_deliver packets

/-- A packet that ends before its ports is not taken for a query. -/
theorem not_isDnsQuery_of_cut {packet : List UInt8}
    (outside : ¬LogInside packet) : ¬IsDnsQuery packet := by
  unfold LogInside at outside
  rw [Classical.not_imp] at outside
  rintro ⟨_, _, _, covered, _⟩
  omega

/-- Where a packet cannot be logged, it is not forwarded, and so are all packets
behind it. -/
theorem length_forwarded_lt {packets : List (List UInt8)}
    (outside : ¬∀ packet ∈ packets, LogInside packet) :
    (forwarded (readLoop packets).1).length <
      (packets.filter fun packet => ¬IsDnsQuery packet).length := by
  induction packets with
  | nil => exact absurd nofun outside
  | cons packet packets inductionHypothesis =>
      by_cases inside : LogInside packet
      · have later : ¬∀ other ∈ packets, LogInside other := by
          intro all
          apply outside
          intro other member
          rcases List.mem_cons.mp member with rfl | member
          · exact inside
          · exact all other member
        have shorter := inductionHypothesis later
        have loop : (readLoop (packet :: packets)).1 =
            deliver packet :: (readLoop packets).1 := by
          rw [readLoop, handlePacket_eq_ok inside]
        rw [loop]
        unfold forwarded at shorter ⊢
        rw [List.filterMap_cons, deliver]
        by_cases query : IsDnsQuery packet
        · simpa [query] using shorter
        · simpa [query] using shorter
      · have loop : (readLoop (packet :: packets)).1 = [] := by
          rw [readLoop, handlePacket_eq_error inside]
        rw [loop]
        have other := not_isDnsQuery_of_cut inside
        simp [forwarded, other]

/-! ## The classifier and the loop -/

/-- The classifier is exact on all packets that are read, and the others are
forwarded byte for byte. -/
structure ClassifiesExactly (packets : List (List UInt8)) : Prop where
  exact : ∀ packet ∈ packets,
    isIpv4UdpPort53 packet = .ok (decide (IsUdpPort53 packet))
  forwards : forwarded (readLoop packets).1 =
    packets.filter fun packet => ¬IsUdpPort53 packet

/-- Where no packet is deceptive, the packets that are not taken for queries are
those that are no UDP datagrams to port 53. -/
theorem filter_isDnsQuery_eq {packets : List (List UInt8)}
    (honest : ∀ packet ∈ packets, ¬Deceptive packet) :
    (packets.filter fun packet => ¬IsDnsQuery packet) =
      packets.filter fun packet => ¬IsUdpPort53 packet := by
  apply List.filter_congr
  intro packet member
  have same : IsUdpPort53 packet ↔ IsDnsQuery packet := by
    rw [isUdpPort53_iff]
    exact and_iff_left (honest packet member)
  simp only [same]

/-- This is so exactly where no packet is deceptive and none ends before the
ports behind its header. -/
theorem dns_classifier_exact_iff (packets : List TunPacket) :
    ClassifiesExactly (packets.map TunPacket.bytes) ↔
      ∀ packet ∈ packets,
        ¬Deceptive packet.bytes ∧ LogInside packet.bytes := by
  have overBytes : (∀ packet ∈ packets,
        ¬Deceptive packet.bytes ∧ LogInside packet.bytes) ↔
      ∀ packet ∈ packets.map TunPacket.bytes,
        ¬Deceptive packet ∧ LogInside packet := by
    rw [List.forall_mem_map]
  rw [overBytes]
  generalize packets.map TunPacket.bytes = packets
  constructor
  · rintro ⟨exact_, forwards⟩
    have honest : ∀ packet ∈ packets, ¬Deceptive packet := fun packet member =>
      (isIpv4UdpPort53_exact_iff packet).mp (exact_ packet member)
    by_contra broken
    have outside : ¬∀ packet ∈ packets, LogInside packet := fun inside =>
      broken fun packet member => ⟨honest packet member, inside packet member⟩
    have shorter := length_forwarded_lt outside
    rw [filter_isDnsQuery_eq honest, forwards] at shorter
    exact lt_irrefl _ shorter
  · intro regular
    have honest : ∀ packet ∈ packets, ¬Deceptive packet := fun packet member =>
      (regular packet member).1
    have inside : ∀ packet ∈ packets, LogInside packet := fun packet member =>
      (regular packet member).2
    constructor
    case exact =>
      intro packet member
      exact (isIpv4UdpPort53_exact_iff packet).mpr (honest packet member)
    case forwards =>
      rw [forwarded_readLoop_eq inside, filter_isDnsQuery_eq honest]

/-- The last fragment of a UDP datagram, with 53 where its first fragment would
have the destination port. -/
def fragmentAt53 : TunPacket where
  bytes := [0x45, 0, 0, 28, 0, 1, 0, 185, 64, 17, 0, 0, 10, 0, 0, 1, 8, 8, 8, 8,
    0, 0, 0, 53, 0, 0, 0, 0]
  positive := by decide
  bounded := by decide

/-- A fragment is taken for a query and is not forwarded. -/
theorem swallows_fragment :
    ¬∀ packets : List TunPacket,
      ClassifiesExactly (packets.map TunPacket.bytes) := by
  intro all
  have forwards := (all [fragmentAt53]).forwards
  revert forwards
  decide

end ProxyVPN.TunPacketInterceptor
