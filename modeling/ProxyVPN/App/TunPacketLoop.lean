/-
Module: ProxyVPN.App.TunPacketLoop
Purpose: Which packets and which resolver answers the interceptor survives.
Trusted boundary: none
Main exports: IsDnsQuery, LogInside, AnswerFits, isIpv4UdpPort53_eq,
  handlePacket_eq_ok, handleDnsRequest_ok_iff, interceptor_survives_iff
-/
import ProxyVPN.App.TunPacketInterceptor

namespace ProxyVPN.TunPacketInterceptor

open CheckedArray

/-- The byte at an offset inside the packet. -/
def byteAt (packet : List UInt8) (index : Nat) : UInt8 := packet.getD index 0

theorem read_eq_byteAt {packet : List UInt8} {index : Nat}
    (inside : index < packet.length) :
    read packet index = .ok (byteAt packet index) :=
  read_eq_ok inside 0

/-- The packet has a UDP header and goes to port 53, by the classifier's
reading of its bytes. -/
def IsDnsQuery (packet : List UInt8) : Prop :=
  20 ≤ packet.length ∧ (byteAt packet 0).toNat >>> 4 = 4 ∧
    byteAt packet 9 = 17 ∧
    ipHeaderLen (byteAt packet 0) + 8 ≤ packet.length ∧
    word (byteAt packet (ipHeaderLen (byteAt packet 0) + 2))
      (byteAt packet (ipHeaderLen (byteAt packet 0) + 3)) = 53

instance (packet : List UInt8) : Decidable (IsDnsQuery packet) :=
  inferInstanceAs (Decidable (_ ∧ _))

/-- The packet is logged by its destination port. -/
def IsLogged (packet : List UInt8) : Prop :=
  20 < packet.length ∧ byteAt packet 0 &&& 0xF0 = 0x40 ∧
    byteAt packet 9 = 17

/-- A packet that is logged reaches to the port the log line shows. -/
def LogInside (packet : List UInt8) : Prop :=
  IsLogged packet → ipHeaderLen (byteAt packet 0) + 4 ≤ packet.length

/-- The reply to a query is an IPv4 packet that an array can hold. -/
def AnswerFits (packet : List UInt8) (answer : Option ByteArr) : Prop :=
  IsDnsQuery packet → ipHeaderLen (byteAt packet 0) + 8 < packet.length →
    ∀ response, answer = some response →
      20 ≤ ipHeaderLen (byteAt packet 0) + 8 + response.bytes.length ∧
        ipHeaderLen (byteAt packet 0) + 8 + response.bytes.length < 2 ^ 31

theorem ipHeaderLen_le (first : UInt8) : ipHeaderLen first ≤ 60 := by
  have nibble : (first &&& 0x0F).toNat ≤ 15 := by
    rw [UInt8.toNat_and]
    exact Nat.and_le_right
  unfold ipHeaderLen
  omega

/-! ## The reader loop -/

/-- The bytes of the destination port. -/
theorem read_dstPort (packet : List UInt8)
    (inside : ipHeaderLen (byteAt packet 0) + 4 ≤ packet.length) :
    read packet (ipHeaderLen (byteAt packet 0) + 2) =
        .ok (byteAt packet (ipHeaderLen (byteAt packet 0) + 2)) ∧
      read packet (ipHeaderLen (byteAt packet 0) + 3) =
        .ok (byteAt packet (ipHeaderLen (byteAt packet 0) + 3)) :=
  ⟨read_eq_byteAt (by omega), read_eq_byteAt (by omega)⟩

theorem loggedDstPort_ok {packet : List UInt8} (inside : LogInside packet) :
    ∃ port, loggedDstPort packet = .ok port := by
  unfold loggedDstPort
  by_cases short : packet.length ≤ 20
  · exact ⟨none, if_pos short⟩
  have firstRead : read packet 0 = .ok (byteAt packet 0) :=
    read_eq_byteAt (by omega)
  have protocolRead : read packet 9 = .ok (byteAt packet 9) :=
    read_eq_byteAt (by omega)
  by_cases version : byteAt packet 0 &&& 0xF0 = 0x40
  · by_cases protocol : byteAt packet 9 = 17
    · have reaches := inside ⟨Nat.lt_of_not_le short, version, protocol⟩
      obtain ⟨highRead, lowRead⟩ := read_dstPort packet (by omega)
      simp [short, firstRead, version, protocolRead, protocol, highRead,
        lowRead]
    · simp [short, firstRead, protocolRead, protocol]
  · simp [short, firstRead, version]

/-- The log line reads past a packet that ends inside its header or ports. -/
theorem loggedDstPort_error {packet : List UInt8} (outside : ¬ LogInside packet) :
    loggedDstPort packet = .error .indexOutOfBounds := by
  unfold LogInside IsLogged at outside
  rw [Classical.not_imp] at outside
  obtain ⟨⟨long, version, protocol⟩, cut⟩ := outside
  unfold loggedDstPort
  have firstRead : read packet 0 = .ok (byteAt packet 0) :=
    read_eq_byteAt (by omega)
  have protocolRead : read packet 9 = .ok (byteAt packet 9) :=
    read_eq_byteAt (by omega)
  have lowRead : read packet (ipHeaderLen (byteAt packet 0) + 3) =
      .error .indexOutOfBounds :=
    read_eq_error (by omega)
  have notShort : ¬ packet.length ≤ 20 := Nat.not_le.mpr long
  by_cases highInside : ipHeaderLen (byteAt packet 0) + 2 < packet.length
  · have highRead := read_eq_byteAt highInside
    simp [notShort, firstRead, version, protocolRead, protocol, highRead,
      lowRead]
  · have highRead := read_eq_error (Nat.le_of_not_lt highInside)
    simp [notShort, firstRead, version, protocolRead, protocol, highRead]

/-- The classifier never fails and is the test of the header fields. -/
theorem isIpv4UdpPort53_eq (packet : List UInt8) :
    isIpv4UdpPort53 packet = .ok (decide (IsDnsQuery packet)) := by
  unfold isIpv4UdpPort53 IsDnsQuery
  by_cases long : 20 ≤ packet.length
  · have notShort : ¬ packet.length < 20 := Nat.not_lt.mpr long
    have firstRead : read packet 0 = .ok (byteAt packet 0) :=
      read_eq_byteAt (by omega)
    have protocolRead : read packet 9 = .ok (byteAt packet 9) :=
      read_eq_byteAt (by omega)
    by_cases covered : ipHeaderLen (byteAt packet 0) + 8 ≤ packet.length
    · have notCut : ¬ packet.length < ipHeaderLen (byteAt packet 0) + 8 :=
        Nat.not_lt.mpr covered
      obtain ⟨highRead, lowRead⟩ := read_dstPort packet (by omega)
      by_cases version : (byteAt packet 0).toNat >>> 4 = 4 <;>
        by_cases protocol : byteAt packet 9 = 17 <;>
        simp [long, notShort, firstRead, protocolRead, covered, notCut,
          highRead, lowRead, version, protocol]
    · have cut : packet.length < ipHeaderLen (byteAt packet 0) + 8 :=
        Nat.lt_of_not_le covered
      by_cases version : (byteAt packet 0).toNat >>> 4 = 4 <;>
        by_cases protocol : byteAt packet 9 = 17 <;>
        simp [long, notShort, firstRead, protocolRead, covered, cut, version,
          protocol]
  · have short : packet.length < 20 := Nat.lt_of_not_le long
    simp [short, long]

/-- Where the loop sends a packet it survives. -/
def deliver (packet : List UInt8) : Delivery :=
  if IsDnsQuery packet then .launched packet else .forwarded packet

def Delivery.packet : Delivery → List UInt8
  | .launched packet => packet
  | .forwarded packet => packet

@[simp] theorem deliver_packet (packet : List UInt8) :
    (deliver packet).packet = packet := by
  unfold deliver
  split <;> rfl

theorem handlePacket_eq_ok {packet : List UInt8} (inside : LogInside packet) :
    handlePacket packet = .ok (deliver packet) := by
  obtain ⟨port, logged⟩ := loggedDstPort_ok inside
  unfold handlePacket deliver
  rw [logged, isIpv4UdpPort53_eq]
  by_cases query : IsDnsQuery packet <;> simp [query]

theorem handlePacket_eq_error {packet : List UInt8}
    (outside : ¬ LogInside packet) :
    handlePacket packet = .error .indexOutOfBounds := by
  unfold handlePacket
  rw [loggedDstPort_error outside]
  rfl

/-- The loop goes through all packets when each of them can be logged. -/
theorem readLoop_eq {packets : List (List UInt8)}
    (inside : ∀ packet ∈ packets, LogInside packet) :
    readLoop packets = (packets.map deliver, none) := by
  induction packets with
  | nil => rfl
  | cons packet packets inductionHypothesis =>
      have handled := handlePacket_eq_ok (inside packet List.mem_cons_self)
      have rest := inductionHypothesis fun later member =>
        inside later (List.mem_cons_of_mem packet member)
      simp [readLoop, handled, rest]

/-- The loop ends at the first packet that cannot be logged. -/
theorem logInside_of_readLoop {packets : List (List UInt8)}
    (survives : (readLoop packets).2 = none) :
    ∀ packet ∈ packets, LogInside packet := by
  induction packets with
  | nil =>
      intro packet member
      cases member
  | cons packet packets inductionHypothesis =>
      by_cases inside : LogInside packet
      · have handled := handlePacket_eq_ok inside
        simp only [readLoop, handled] at survives
        intro later member
        rcases List.mem_cons.mp member with rfl | member
        · exact inside
        · exact inductionHypothesis survives later member
      · have failed := handlePacket_eq_error inside
        simp only [readLoop, failed] at survives
        cases survives

/-! ## The DNS reply -/

theorem keeps_putTotalLen {size : Nat} (long : 20 ≤ size) (total : Nat) :
    Keeps size fun response => putTotalLen response total :=
  (Keeps.write (by omega) _).seq (.write (by omega) _)

theorem keeps_swapBytes {size first second : Nat} (firstInside : first < size)
    (secondInside : second < size) :
    Keeps size fun response => swapBytes response first second :=
  .read firstInside fun _ => .read secondInside fun _ =>
    (Keeps.write firstInside _).seq (.write secondInside _)

theorem keeps_swapAddresses {size : Nat} (long : 20 ≤ size) :
    Keeps size swapAddresses :=
  (keeps_swapBytes (by omega) (by omega)).seq <|
    (keeps_swapBytes (by omega) (by omega)).seq <|
      (keeps_swapBytes (by omega) (by omega)).seq <|
        keeps_swapBytes (by omega) (by omega)

theorem keeps_putUdpLen {size header : Nat} (long : header + 8 ≤ size)
    (udpLen : Nat) :
    Keeps size fun response => putUdpLen response header udpLen :=
  (Keeps.write (by omega) _).seq (.write (by omega) _)

theorem keeps_swapPorts {size header : Nat} (long : header + 8 ≤ size) :
    Keeps size fun response => swapPorts response header :=
  .read (by omega) fun _ => .read (by omega) fun _ => .read (by omega) fun _ =>
    (Keeps.write (by omega) _).seq <| .read (by omega) fun _ =>
      (Keeps.write (by omega) _).seq <|
        (Keeps.write (by omega) _).seq (.write (by omega) _)

theorem keeps_clearUdpChecksum {size header : Nat} (long : header + 8 ≤ size) :
    Keeps size fun response => clearUdpChecksum response header :=
  (Keeps.write (by omega) _).seq (.write (by omega) _)

theorem sumWords_ok {packet : List UInt8} {headerLen : Nat}
    (inside : headerLen ≤ packet.length) (i sum : Nat) :
    ∃ total, sumWords packet headerLen i sum = .ok total := by
  fun_induction sumWords packet headerLen i sum with
  | case1 i sum more inductionHypothesis =>
      rw [read_eq_byteAt (by omega), ok_bind, read_eq_byteAt (by omega), ok_bind]
      exact inductionHypothesis _ _
  | case2 i sum done odd =>
      rw [read_eq_byteAt (by omega)]
      exact ⟨_, rfl⟩
  | case3 i sum done even => exact ⟨_, rfl⟩

theorem keeps_calculateIpChecksum {size headerLen : Nat} (long : 20 ≤ size)
    (inside : headerLen ≤ size) :
    Keeps size fun response => calculateIpChecksum response headerLen := by
  have sums : ∀ packet : List UInt8, packet.length = size →
      ∃ sum, sumWords packet headerLen 0 0 = .ok sum := by
    intro packet sizeEq
    exact sumWords_ok (by omega) 0 0
  exact (Keeps.write (by omega) _).seq <| (Keeps.write (by omega) _).seq <|
    .using sums fun _ => (Keeps.write (by omega) _).seq (.write (by omega) _)

theorem wrapInt_natCast {value : Nat} (fits : value < 2 ^ 31) :
    wrapInt value = value := by
  unfold wrapInt
  rw [Int.bmod_eq_of_le] <;> omega

/-- The reply builder on a response that an array can hold the reply for. -/
theorem craftIpv4UdpResponse_eq {packet response : List UInt8} {header : Nat}
    (fits : header + 8 + response.length < 2 ^ 31) :
    craftIpv4UdpResponse packet header response =
      (copy packet 0 (List.replicate (header + 8 + response.length) 0) 0
          (header + 8) >>= fun reply =>
        putTotalLen reply (header + 8 + response.length) >>= fun reply =>
        swapAddresses reply >>= fun reply =>
        putUdpLen reply header (8 + response.length) >>= fun reply =>
        swapPorts reply header >>= fun reply =>
        clearUdpChecksum reply header >>= fun reply =>
        copy response 0 reply (header + 8) response.length >>= fun reply =>
        calculateIpChecksum reply header) := by
  have total := wrapInt_natCast fits
  push_cast at total
  unfold craftIpv4UdpResponse
  rw [total]
  have size : ((header : Int) + 8 + (response.length : Int)) =
      ((header + 8 + response.length : Nat) : Int) := by push_cast; rfl
  simp only [size, allocate_natCast, ok_bind, Int.toNat_natCast]

/-- The reply builder succeeds when the reply is at least an IPv4 header long
and an array can hold it. -/
theorem craftIpv4UdpResponse_ok {packet response : List UInt8} {header : Nat}
    (covered : header + 8 ≤ packet.length)
    (long : 20 ≤ header + 8 + response.length)
    (fits : header + 8 + response.length < 2 ^ 31) :
    ∃ reply, craftIpv4UdpResponse packet header response = .ok reply := by
  rw [craftIpv4UdpResponse_eq fits]
  have build : Keeps (header + 8 + response.length) fun reply =>
      copy packet 0 reply 0 (header + 8) >>= fun reply =>
      putTotalLen reply (header + 8 + response.length) >>= fun reply =>
      swapAddresses reply >>= fun reply =>
      putUdpLen reply header (8 + response.length) >>= fun reply =>
      swapPorts reply header >>= fun reply =>
      clearUdpChecksum reply header >>= fun reply =>
      copy response 0 reply (header + 8) response.length >>= fun reply =>
      calculateIpChecksum reply header :=
    (Keeps.copy (by omega) (by omega)).seq <|
      (keeps_putTotalLen long _).seq <|
        (keeps_swapAddresses long).seq <|
          (keeps_putUdpLen (by omega) _).seq <|
            (keeps_swapPorts (by omega)).seq <|
              (keeps_clearUdpChecksum (by omega)).seq <|
                (Keeps.copy (by omega) (by omega)).seq
                  (keeps_calculateIpChecksum long (by omega))
  obtain ⟨reply, built, _⟩ := build _ List.length_replicate
  exact ⟨reply, built⟩

theorem length_of_putTotalLen {response next : List UInt8} {total : Nat}
    (success : putTotalLen response total = .ok next) :
    next.length = response.length := by
  unfold putTotalLen at success
  rw [bind_eq_ok] at success
  obtain ⟨_, firstEq, secondEq⟩ := success
  rw [(length_of_write secondEq).2, (length_of_write firstEq).2]

theorem length_of_swapBytes {response next : List UInt8} {first second : Nat}
    (success : swapBytes response first second = .ok next) :
    second < response.length ∧ next.length = response.length := by
  unfold swapBytes at success
  simp only [bind_eq_ok] at success
  obtain ⟨_, _, _, secondRead, _, firstEq, secondEq⟩ := success
  rw [(length_of_write secondEq).2, (length_of_write firstEq).2]
  exact ⟨lt_length_of_read secondRead, rfl⟩

theorem lt_length_of_swapAddresses {response next : List UInt8}
    (success : swapAddresses response = .ok next) : 19 < response.length := by
  unfold swapAddresses at success
  simp only [bind_eq_ok] at success
  obtain ⟨_, firstEq, _, secondEq, _, thirdEq, fourthEq⟩ := success
  rw [← (length_of_swapBytes firstEq).2, ← (length_of_swapBytes secondEq).2,
    ← (length_of_swapBytes thirdEq).2]
  exact (length_of_swapBytes fourthEq).1

/-- A reply that was built is at least an IPv4 header long, and its length did
not wrap. -/
theorem craftIpv4UdpResponse_bounds {packet response reply : List UInt8}
    {header : Nat} (headerBound : header ≤ 60)
    (size : response.length < 2 ^ 31)
    (built : craftIpv4UdpResponse packet header response = .ok reply) :
    20 ≤ header + 8 + response.length ∧
      header + 8 + response.length < 2 ^ 31 := by
  have fits : header + 8 + response.length < 2 ^ 31 := by
    unfold craftIpv4UdpResponse at built
    simp only [bind_eq_ok] at built
    obtain ⟨blank, allocated, _⟩ := built
    have nonnegative := (length_of_allocate allocated).1
    unfold wrapInt at nonnegative
    rw [Int.bmod_def] at nonnegative
    split at nonnegative <;> omega
  rw [craftIpv4UdpResponse_eq fits] at built
  simp only [bind_eq_ok] at built
  obtain ⟨copied, copyEq, counted, countEq, swapped, swapEq, _⟩ := built
  have copiedSize := length_of_copy copyEq
  rw [List.length_replicate] at copiedSize
  have countedSize := length_of_putTotalLen countEq
  have reaches := lt_length_of_swapAddresses swapEq
  exact ⟨by omega, fits⟩

theorem createServfailResponse_ok (request : List UInt8) :
    ∃ response, createServfailResponse request = .ok response ∧
      response.length = request.length := by
  unfold createServfailResponse
  by_cases short : request.length < 12
  · rw [if_pos short]
    exact ⟨request, rfl, rfl⟩
  · rw [if_neg short]
    have marks : Keeps request.length fun response : List UInt8 =>
        read response 2 >>= fun flags =>
        write response 2 (flags ||| 0x80) >>= fun response =>
        read response 3 >>= fun codes =>
        write response 3 ((codes &&& 0xF0) ||| 0x02) :=
      .read (by omega) fun _ => (Keeps.write (by omega) _).seq <|
        .read (by omega) fun _ => .write (by omega) _
    exact marks request rfl

/-- A packet with a DNS payload is answered by one reply. -/
theorem handleDnsRequest_eq {packet : List UInt8} (answer : Option ByteArr)
    (payload : ipHeaderLen (byteAt packet 0) + 8 < packet.length) :
    handleDnsRequest packet answer =
      (resolved answer (packet.drop (ipHeaderLen (byteAt packet 0) + 8)) >>=
        fun response =>
          craftIpv4UdpResponse packet (ipHeaderLen (byteAt packet 0)) response >>=
            fun reply => .ok (some reply)) := by
  have firstRead : read packet 0 = .ok (byteAt packet 0) :=
    read_eq_byteAt (by omega)
  have nonempty : ¬ packet.length ≤ ipHeaderLen (byteAt packet 0) + 8 :=
    Nat.not_le.mpr payload
  unfold handleDnsRequest
  rw [firstRead, ok_bind]
  simp only [if_neg nonempty]
  rfl

theorem handleDnsRequest_empty {packet : List UInt8} (answer : Option ByteArr)
    (long : 0 < packet.length)
    (empty : packet.length ≤ ipHeaderLen (byteAt packet 0) + 8) :
    handleDnsRequest packet answer = .ok none := by
  unfold handleDnsRequest
  rw [read_eq_byteAt long, ok_bind]
  exact if_pos empty

/-- A query that was handed over is answered without an exception exactly when
the resolver's answer fits. -/
theorem handleDnsRequest_ok_iff {packet : TunPacket} {answer : Option ByteArr}
    (query : IsDnsQuery packet.bytes) :
    (∃ written, handleDnsRequest packet.bytes answer = .ok written) ↔
      AnswerFits packet.bytes answer := by
  have long := query.1
  have covered := query.2.2.2.1
  have bounded := packet.bounded
  have headerBound := ipHeaderLen_le (byteAt packet.bytes 0)
  unfold AnswerFits
  by_cases payload :
      ipHeaderLen (byteAt packet.bytes 0) + 8 < packet.bytes.length
  · rw [handleDnsRequest_eq answer payload]
    cases answer with
    | none =>
        obtain ⟨response, responseEq, size⟩ := createServfailResponse_ok
          (packet.bytes.drop (ipHeaderLen (byteAt packet.bytes 0) + 8))
        rw [List.length_drop] at size
        obtain ⟨reply, replyEq⟩ : ∃ reply, craftIpv4UdpResponse packet.bytes
            (ipHeaderLen (byteAt packet.bytes 0)) response = .ok reply :=
          craftIpv4UdpResponse_ok covered (by omega) (by omega)
        constructor
        · intro _ _ _ response same
          cases same
        · intro _
          rw [resolved, responseEq, ok_bind, replyEq]
          exact ⟨some reply, rfl⟩
    | some response =>
        rw [resolved, ok_bind]
        constructor
        · rintro ⟨written, writtenEq⟩ _ _ _ same
          cases same
          rw [bind_eq_ok] at writtenEq
          obtain ⟨reply, replyEq, _⟩ := writtenEq
          exact craftIpv4UdpResponse_bounds headerBound response.size replyEq
        · intro fits
          obtain ⟨enough, small⟩ := fits query payload response rfl
          obtain ⟨reply, replyEq⟩ :=
            craftIpv4UdpResponse_ok covered enough small
          rw [replyEq]
          exact ⟨some reply, rfl⟩
  · rw [handleDnsRequest_empty answer packet.positive
      (Nat.le_of_not_lt payload)]
    constructor
    · intro _ _ nonempty
      exact absurd nonempty payload
    · intro _
      exact ⟨none, rfl⟩

/-! ## The interceptor over a sequence of packets -/

/-- The reader loop goes through all packets, sends each of them unchanged to
one place, and every packet it hands over is answered without an exception. -/
def Survives (packets : List (TunPacket × Option ByteArr)) : Prop :=
  let run := readLoop (packets.map fun entry => entry.1.bytes)
  run.2 = none ∧
    run.1.map Delivery.packet = packets.map (fun entry => entry.1.bytes) ∧
    ∀ entry ∈ packets, .launched entry.1.bytes ∈ run.1 →
      ∃ written, handleDnsRequest entry.1.bytes entry.2 = .ok written

/-- For every sequence of packets and resolver answers, the interceptor
survives it exactly when every logged packet reaches to its destination port
and every answered query gets a reply that is at least an IPv4 header long and
fits an array. -/
theorem interceptor_survives_iff
    (packets : List (TunPacket × Option ByteArr)) :
    Survives packets ↔
      ∀ entry ∈ packets,
        LogInside entry.1.bytes ∧ AnswerFits entry.1.bytes entry.2 := by
  constructor
  · rintro ⟨survives, _, answers⟩ entry member
    have inside := logInside_of_readLoop survives
    have entryInside := inside _ (List.mem_map_of_mem member)
    refine ⟨entryInside, ?_⟩
    intro query
    have launched : .launched entry.1.bytes ∈
        (readLoop (packets.map fun entry => entry.1.bytes)).1 := by
      rw [readLoop_eq inside, List.map_map]
      apply List.mem_map.mpr
      exact ⟨entry, member, if_pos query⟩
    exact (handleDnsRequest_ok_iff query).mp (answers entry member launched)
      query
  · intro safe
    have inside : ∀ packet ∈ packets.map fun entry => entry.1.bytes,
        LogInside packet := by
      intro packet member
      rcases List.mem_map.mp member with ⟨entry, entryMember, rfl⟩
      exact (safe entry entryMember).1
    unfold Survives
    rw [readLoop_eq inside]
    refine ⟨rfl, ?_, ?_⟩
    · simp
    · intro entry member launched
      rcases List.mem_map.mp launched with ⟨packet, _, delivered⟩
      have same := congrArg Delivery.packet delivered
      rw [deliver_packet] at same
      subst same
      have query : IsDnsQuery entry.1.bytes := by
        unfold deliver at delivered
        split at delivered
        case isTrue query => exact query
        case isFalse => cases delivered
      exact (handleDnsRequest_ok_iff query).mpr (safe entry member).2

/-- The last fragment of a UDP datagram with one byte of data. -/
def lastFragment : TunPacket where
  bytes :=
    [0x45, 0, 0, 21, 0, 1, 0x00, 0xB9, 64, 17, 0, 0, 10, 0, 0, 1, 10, 0, 0, 2, 7]
  positive := by decide
  bounded := by decide

/-- The log line of the reader loop indexes past such a fragment. -/
theorem last_fragment_stops_interceptor :
    ¬ ∀ packets : List (TunPacket × Option ByteArr), Survives packets := by
  intro always
  have survives := (always [(lastFragment, none)]).1
  have stopped : (readLoop [lastFragment.bytes]).2 =
      some .indexOutOfBounds := by decide
  have both := stopped.symm.trans survives
  cases both

end ProxyVPN.TunPacketInterceptor
