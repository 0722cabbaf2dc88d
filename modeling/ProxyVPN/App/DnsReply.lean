/-
Module: ProxyVPN.App.DnsReply
Purpose: The packet that answers an intercepted DNS query, field by field.
Trusted boundary: human-reviewed spec
Main exports: words, IsReply, IsServfail, foldCarries_represents,
  sumWords_eq, craftIpv4UdpResponse_eq_ok, dns_reply_correct
-/
import ProxyVPN.App.TunPacketLoop
import ProxyVPN.Lib.OnesComplement

namespace ProxyVPN.TunPacketInterceptor

open CheckedArray OnesComplement

/-- The big-endian 16-bit words of a header. -/
def words : List UInt8 → List Nat
  | [] => []
  | [high] => [word high 0]
  | high :: low :: rest => word high low :: words rest

/-- What the reply to `packet` with the DNS message `message` has to be. -/
structure IsReply (packet message reply : List UInt8) (header : Nat) :
    Prop where
  size : reply.length = header + 8 + message.length
  totalLen : word (byteAt reply 2) (byteAt reply 3) = reply.length
  udpLen : word (byteAt reply (header + 4)) (byteAt reply (header + 5)) =
    8 + message.length
  source : (reply.drop 12).take 4 = (packet.drop 16).take 4
  destination : (reply.drop 16).take 4 = (packet.drop 12).take 4
  sourcePort : (reply.drop header).take 2 = (packet.drop (header + 2)).take 2
  destinationPort : (reply.drop (header + 2)).take 2 = (packet.drop header).take 2
  udpChecksum : (reply.drop (header + 6)).take 2 = [0, 0]
  payload : reply.drop (header + 8) = message
  unchanged : ∀ index, index < header → index ∉ [2, 3, 10, 11] →
    (index < 12 ∨ 20 ≤ index) → byteAt reply index = byteAt packet index
  checksum : onesSum (words (reply.take header)) = 0xFFFF

/-- The failure answer to a DNS request: the same message with the response
bit set and the response code of a server failure. -/
structure IsServfail (request response : List UInt8) : Prop where
  size : response.length = request.length
  id : response.take 2 = request.take 2
  question : response.drop 4 = request.drop 4
  qr : byteAt response 2 &&& 0x80 = 0x80
  rcode : byteAt response 3 &&& 0x0F = 2

/-! ## Words and carries -/

theorem word_eq (high low : UInt8) :
    word high low = high.toNat * 256 + low.toNat := by
  unfold word
  rw [← Nat.shiftLeft_add_eq_or_of_lt (i := 8) low.toNat_lt,
    Nat.shiftLeft_eq]

theorem word_lt (high low : UInt8) : word high low < 2 ^ 16 := by
  have highBound := high.toNat_lt
  have lowBound := low.toNat_lt
  rw [word_eq]
  omega

/-- A 16-bit value is read back from its two bytes. -/
theorem word_toByte {value : Nat} (fits : value < 2 ^ 16) :
    word (toByte (value >>> 8)) (toByte (value &&& 0xFF)) = value := by
  have low : value &&& 0xFF = value % 2 ^ 8 :=
    Nat.and_two_pow_sub_one_eq_mod value 8
  rw [word_eq, toByte, toByte, UInt8.toNat_ofNat', UInt8.toNat_ofNat', low,
    Nat.shiftRight_eq_div_pow]
  omega

theorem words_lt (bytes : List UInt8) : ∀ entry ∈ words bytes, entry < 2 ^ 16 := by
  fun_induction words bytes with
  | case1 =>
      intro entry member
      cases member
  | case2 high =>
      intro entry member
      rw [List.mem_singleton] at member
      rw [member]
      exact word_lt high 0
  | case3 high low rest inductionHypothesis =>
      intro entry member
      rcases List.mem_cons.mp member with rfl | later
      · exact word_lt high low
      · exact inductionHypothesis entry later

/-- Folding the carries of a sum of words gives what it represents. -/
theorem foldCarries_represents (sum : Nat) : Represents sum (foldCarries sum) := by
  fun_induction foldCarries sum with
  | case1 sum more inductionHypothesis =>
      have low : sum &&& 0xFFFF = sum % 2 ^ 16 :=
        Nat.and_two_pow_sub_one_eq_mod sum 16
      rw [low, Nat.shiftRight_eq_div_pow] at inductionHypothesis
      rw [low, Nat.shiftRight_eq_div_pow]
      exact inductionHypothesis.fold
  | case2 sum done =>
      rw [Nat.shiftRight_eq_div_pow] at done
      apply Represents.of_lt
      omega

/-- The checksum loop adds up the words of the header from where it starts. -/
theorem sumWords_eq (front rest back : List UInt8) (sum : Nat) :
    sumWords (front ++ (rest ++ back)) (front.length + rest.length)
        front.length sum =
      .ok (sum + (words rest).sum) := by
  induction rest using words.induct generalizing front sum with
  | case1 =>
      unfold sumWords
      rw [if_neg (by simp), if_neg (by simp)]
      rfl
  | case2 high =>
      have headRead : read (front ++ ([high] ++ back)) front.length =
          .ok high := read_append front _ 0
      unfold sumWords
      rw [if_neg (by simp), if_pos (by simp), headRead]
      simp [words, word]
  | case3 high low rest inductionHypothesis =>
      have highRead : read (front ++ (high :: low :: rest ++ back))
          front.length = .ok high := read_append front _ 0
      have lowRead : read (front ++ (high :: low :: rest ++ back))
          (front.length + 1) = .ok low := read_append front _ 1
      have next := inductionHypothesis (front ++ [high, low])
        (sum + word high low)
      unfold sumWords
      rw [if_pos (by simp), highRead, ok_bind, lowRead, ok_bind]
      have bound : front.length + (high :: low :: rest).length =
          (front ++ [high, low]).length + rest.length := by
        simp only [List.length_cons, List.length_append, List.length_nil]
        omega
      have array : front ++ (high :: low :: rest ++ back) =
          front ++ [high, low] ++ (rest ++ back) := by simp
      have start : front.length + 2 = (front ++ [high, low]).length := by simp
      rw [bound, array, start, words, List.sum_cons, ← Nat.add_assoc]
      exact next

/-! ## The reply in parts -/

/-- The header of a reply of `total` bytes with the checksum bytes `c0` and
`c1`: the length put in and the addresses exchanged. -/
def replyHeader (total : Nat) (c0 c1 : UInt8) : List UInt8 → List UInt8
  | b0 :: b1 :: _ :: _ :: b4 :: b5 :: b6 :: b7 :: b8 :: b9 :: _ :: _ ::
      s0 :: s1 :: s2 :: s3 :: d0 :: d1 :: d2 :: d3 :: options =>
      b0 :: b1 :: toByte (total >>> 8) :: toByte (total &&& 0xFF) ::
        b4 :: b5 :: b6 :: b7 :: b8 :: b9 :: c0 :: c1 ::
        d0 :: d1 :: d2 :: d3 :: s0 :: s1 :: s2 :: s3 :: options
  | header => header

/-- The checksum of the reply header. -/
def replyChecksum (total : Nat) (header : List UInt8) : Nat :=
  0xFFFF - foldCarries (words (replyHeader total 0 0 header)).sum

/-- The header of a reply with its checksum. -/
def checkedHeader (total : Nat) (header : List UInt8) : List UInt8 :=
  replyHeader total (toByte (replyChecksum total header >>> 8))
    (toByte (replyChecksum total header &&& 0xFF)) header

/-- The UDP header of a reply: the ports exchanged and no checksum. -/
def replyUdp (udpLen : Nat) : List UInt8 → List UInt8
  | s0 :: s1 :: d0 :: d1 :: _ =>
      [d0, d1, s0, s1, toByte (udpLen >>> 8), toByte (udpLen &&& 0xFF), 0, 0]
  | header => header

/-- A row of four bytes and what follows it. -/
theorem exists_row {bytes : List UInt8} (size : Nat)
    (long : size + 4 ≤ bytes.length) :
    ∃ b0 b1 b2 b3 rest, bytes = b0 :: b1 :: b2 :: b3 :: rest ∧
      size ≤ rest.length := by
  match bytes, long with
  | b0 :: b1 :: b2 :: b3 :: rest, long =>
      simp only [List.length_cons] at long
      exact ⟨b0, b1, b2, b3, rest, rfl, by omega⟩

/-- The five rows of a header and its options. -/
theorem exists_header {bytes : List UInt8} (long : 20 ≤ bytes.length) :
    ∃ b0 b1 b2 b3 b4 b5 b6 b7 b8 b9 b10 b11 s0 s1 s2 s3 d0 d1 d2 d3 options,
      bytes = b0 :: b1 :: b2 :: b3 :: b4 :: b5 :: b6 :: b7 :: b8 :: b9 ::
        b10 :: b11 :: s0 :: s1 :: s2 :: s3 :: d0 :: d1 :: d2 :: d3 ::
        options := by
  obtain ⟨_, _, _, _, _, rfl, fourLeft⟩ := exists_row 16 long
  obtain ⟨_, _, _, _, _, rfl, threeLeft⟩ := exists_row 12 fourLeft
  obtain ⟨_, _, _, _, _, rfl, twoLeft⟩ := exists_row 8 threeLeft
  obtain ⟨_, _, _, _, _, rfl, oneLeft⟩ := exists_row 4 twoLeft
  obtain ⟨_, _, _, _, options, rfl, _⟩ := exists_row 0 oneLeft
  exact ⟨_, _, _, _, _, _, _, _, _, _, _, _, _, _, _, _, _, _, _, _, _, rfl⟩

theorem length_replyHeader {front : List UInt8} (total : Nat) (c0 c1 : UInt8)
    (long : 20 ≤ front.length) :
    (replyHeader total c0 c1 front).length = front.length := by
  obtain ⟨b0, b1, b2, b3, b4, b5, b6, b7, b8, b9, b10, b11, s0, s1, s2, s3,
    d0, d1, d2, d3, options, rfl⟩ := exists_header long
  rfl

theorem length_replyUdp {udp : List UInt8} (udpLen : Nat)
    (eight : udp.length = 8) : (replyUdp udpLen udp).length = 8 := by
  obtain ⟨s0, s1, d0, d1, _, rfl, _⟩ := exists_row 4 eight.ge
  rfl

/-- The first steps rewrite the IP header and leave its checksum bytes. -/
theorem header_steps {front : List UInt8} (back : List UInt8) (total : Nat)
    (long : 20 ≤ front.length) :
    ∃ lengthPut c0 c1, putTotalLen (front ++ back) total = .ok lengthPut ∧
      swapAddresses lengthPut = .ok (replyHeader total c0 c1 front ++ back) := by
  obtain ⟨b0, b1, b2, b3, b4, b5, b6, b7, b8, b9, b10, b11, s0, s1, s2, s3,
    d0, d1, d2, d3, options, rfl⟩ := exists_header long
  refine ⟨b0 :: b1 :: toByte (total >>> 8) :: toByte (total &&& 0xFF) :: b4 ::
    b5 :: b6 :: b7 :: b8 :: b9 :: b10 :: b11 :: s0 :: s1 :: s2 :: s3 :: d0 ::
    d1 :: d2 :: d3 :: (options ++ back), b10, b11, ?_, ?_⟩
  · rfl
  · rfl

/-- The next steps rewrite the UDP header. -/
theorem udp_steps {front udp : List UInt8} {header : Nat}
    (back : List UInt8) (udpLen : Nat)
    (sized : front.length = header) (eight : udp.length = 8) :
    ∃ lengthPut swapped,
      putUdpLen (front ++ (udp ++ back)) header udpLen = .ok lengthPut ∧
      swapPorts lengthPut header = .ok swapped ∧
      clearUdpChecksum swapped header =
        .ok (front ++ (replyUdp udpLen udp ++ back)) := by
  subst sized
  obtain ⟨s0, s1, d0, d1, _, rfl, oneLeft⟩ := exists_row 4 eight.ge
  obtain ⟨l0, l1, c0, c1, rest, rfl, _⟩ := exists_row 0 oneLeft
  have noRest : rest = [] := by simpa using eight
  subst noRest
  refine ⟨front ++ (s0 :: s1 :: d0 :: d1 :: toByte (udpLen >>> 8) ::
      toByte (udpLen &&& 0xFF) :: c0 :: c1 :: back),
    front ++ (d0 :: d1 :: s0 :: s1 :: toByte (udpLen >>> 8) ::
      toByte (udpLen &&& 0xFF) :: c0 :: c1 :: back), ?_, ?_, ?_⟩
  · simp [putUdpLen, write]
  · simp [swapPorts, CheckedArray.read, write]
  · simp [clearUdpChecksum, write, replyUdp]

/-- The last step puts the checksum in. -/
theorem calculateIpChecksum_eq {front back : List UInt8} {total : Nat}
    {c0 c1 : UInt8} (long : 20 ≤ front.length) :
    calculateIpChecksum (replyHeader total c0 c1 front ++ back) front.length =
      .ok (checkedHeader total front ++ back) := by
  have sums := sumWords_eq [] (replyHeader total 0 0 front) back 0
  rw [length_replyHeader total 0 0 long] at sums
  obtain ⟨b0, b1, b2, b3, b4, b5, b6, b7, b8, b9, b10, b11, s0, s1, s2, s3,
    d0, d1, d2, d3, options, rfl⟩ := exists_header long
  simp only [List.nil_append, List.length_nil, Nat.zero_add] at sums
  unfold calculateIpChecksum
  change (sumWords (replyHeader total 0 0 (b0 :: b1 :: b2 :: b3 :: b4 :: b5 ::
    b6 :: b7 :: b8 :: b9 :: b10 :: b11 :: s0 :: s1 :: s2 :: s3 :: d0 :: d1 ::
    d2 :: d3 :: options) ++ back) _ 0 0 >>= _) = _
  rw [sums]
  rfl

/-- The reply to a packet whose header, UDP header and payload are known. -/
theorem craftIpv4UdpResponse_eq_ok {front udp : List UInt8}
    (payload message : List UInt8) (long : 20 ≤ front.length) (eight : udp.length = 8)
    (fits : front.length + 8 + message.length < 2 ^ 31) :
    craftIpv4UdpResponse (front ++ (udp ++ payload)) front.length message =
      .ok (checkedHeader (front.length + 8 + message.length) front ++
        (replyUdp (8 + message.length) udp ++ message)) := by
  have copied : copy (front ++ (udp ++ payload)) 0
      (List.replicate (front.length + 8 + message.length) 0) 0
      (front.length + 8) =
      .ok (front ++ (udp ++ List.replicate message.length 0)) := by
    have available : front.length + 8 ≤ (front ++ (udp ++ payload)).length := by
      simp only [List.length_append, eight]
      omega
    have taken : (front ++ (udp ++ payload)).take (front.length + 8) =
        front ++ udp := by
      rw [← eight, ← List.append_assoc, ← List.length_append, List.take_left]
    have copied := copy_append (front ++ (udp ++ payload)) []
      (List.replicate (front.length + 8) 0) (List.replicate message.length 0)
      available List.length_replicate
    rw [taken, List.nil_append, List.nil_append, List.length_nil,
      List.replicate_append_replicate, List.append_assoc] at copied
    exact copied
  obtain ⟨lengthPut, c0, c1, lengthPutEq, swappedEq⟩ :=
    header_steps (udp ++ List.replicate message.length 0)
      (front.length + 8 + message.length) long
  have sized := length_replyHeader (front.length + 8 + message.length) c0 c1 long
  obtain ⟨udpLengthPut, portsSwapped, udpLengthPutEq, portsSwappedEq,
    clearedEq⟩ := udp_steps (List.replicate message.length 0)
      (8 + message.length) sized eight
  have filled : copy message 0
      (replyHeader (front.length + 8 + message.length) c0 c1 front ++
        (replyUdp (8 + message.length) udp ++ List.replicate message.length 0))
      (front.length + 8) message.length =
      .ok (replyHeader (front.length + 8 + message.length) c0 c1 front ++
        (replyUdp (8 + message.length) udp ++ message)) := by
    have ahead : (replyHeader (front.length + 8 + message.length) c0 c1 front ++
        replyUdp (8 + message.length) udp).length = front.length + 8 := by
      rw [List.length_append, sized, length_replyUdp _ eight]
    have filled := copy_append message
      (replyHeader (front.length + 8 + message.length) c0 c1 front ++
        replyUdp (8 + message.length) udp)
      (List.replicate message.length 0) [] (Nat.le_refl _)
      List.length_replicate
    rw [ahead, List.take_length, List.append_nil, List.append_nil,
      List.append_assoc, List.append_assoc] at filled
    exact filled
  rw [craftIpv4UdpResponse_eq fits, copied, ok_bind, lengthPutEq, ok_bind,
    swappedEq, ok_bind, udpLengthPutEq, ok_bind, portsSwappedEq, ok_bind,
    clearedEq, ok_bind, filled, ok_bind]
  exact calculateIpChecksum_eq long

/-! ## The reply as a whole -/

theorem byteAt_append (front back : List UInt8) (index : Nat) :
    byteAt (front ++ back) (front.length + index) = byteAt back index := by
  unfold byteAt
  rw [List.getD_append_right _ _ _ _ (Nat.le_add_right _ _),
    Nat.add_sub_cancel_left]

/-- The header of the reply sums up to all ones. -/
theorem onesSum_checkedHeader {front : List UInt8} (total : Nat)
    (long : 20 ≤ front.length) :
    onesSum (words (checkedHeader total front)) = 0xFFFF := by
  have represents :=
    foldCarries_represents (words (replyHeader total 0 0 front)).sum
  apply onesSum_complement (words_lt _) represents
  have fits : replyChecksum total front < 2 ^ 16 := by
    unfold replyChecksum
    omega
  have checksumWord := word_toByte fits
  unfold checkedHeader
  generalize replyChecksumEq : replyChecksum total front = checksum at *
  unfold replyChecksum at replyChecksumEq
  rw [replyChecksumEq]
  obtain ⟨b0, b1, b2, b3, b4, b5, b6, b7, b8, b9, b10, b11, s0, s1, s2, s3,
    d0, d1, d2, d3, options, rfl⟩ := exists_header long
  have blankWord : word 0 0 = 0 := rfl
  simp only [replyHeader, words, List.sum_cons, checksumWord, blankWord]
  omega

/-- Outside of the fields a reply changes, its header is the query's. -/
theorem byteAt_checkedHeader {front : List UInt8} {total index : Nat}
    (long : 20 ≤ front.length) (left back : List UInt8)
    (inside : index < front.length) (kept : index ∉ [2, 3, 10, 11])
    (outside : index < 12 ∨ 20 ≤ index) :
    byteAt (checkedHeader total front ++ left) index =
      byteAt (front ++ back) index := by
  unfold checkedHeader
  generalize replyChecksum total front = checksum
  obtain ⟨b0, b1, b2, b3, b4, b5, b6, b7, b8, b9, b10, b11, s0, s1, s2, s3,
    d0, d1, d2, d3, options, rfl⟩ := exists_header long
  rcases outside with low | high
  · simp only [List.mem_cons, List.not_mem_nil, or_false, not_or] at kept
    have indices : index = 0 ∨ index = 1 ∨ index = 4 ∨ index = 5 ∨ index = 6 ∨
        index = 7 ∨ index = 8 ∨ index = 9 := by omega
    rcases indices with rfl | rfl | rfl | rfl | rfl | rfl | rfl | rfl <;> rfl
  · obtain ⟨offset, rfl⟩ : ∃ offset, index = offset + 20 :=
      ⟨index - 20, by omega⟩
    have insideOptions : offset < options.length := by
      simp only [List.length_cons] at inside
      omega
    change (options ++ left).getD offset 0 = (options ++ back).getD offset 0
    rw [List.getD_append _ _ _ _ insideOptions,
      List.getD_append _ _ _ _ insideOptions]

/-- The length and the addresses in the header of a reply. -/
theorem checkedHeader_fields {front : List UInt8} (total : Nat)
    (long : 20 ≤ front.length) (left back : List UInt8) :
    byteAt (checkedHeader total front ++ left) 2 = toByte (total >>> 8) ∧
      byteAt (checkedHeader total front ++ left) 3 = toByte (total &&& 0xFF) ∧
      ((checkedHeader total front ++ left).drop 12).take 4 =
        ((front ++ back).drop 16).take 4 ∧
      ((checkedHeader total front ++ left).drop 16).take 4 =
        ((front ++ back).drop 12).take 4 := by
  unfold checkedHeader
  generalize replyChecksum total front = checksum
  obtain ⟨b0, b1, b2, b3, b4, b5, b6, b7, b8, b9, b10, b11, s0, s1, s2, s3,
    d0, d1, d2, d3, options, rfl⟩ := exists_header long
  exact ⟨rfl, rfl, rfl, rfl⟩

/-- The length, the ports and the checksum in the UDP header of a reply. -/
theorem replyUdp_fields {udp : List UInt8} (udpLen : Nat)
    (eight : udp.length = 8) (message payload : List UInt8) :
    byteAt (replyUdp udpLen udp ++ message) 4 = toByte (udpLen >>> 8) ∧
      byteAt (replyUdp udpLen udp ++ message) 5 = toByte (udpLen &&& 0xFF) ∧
      (replyUdp udpLen udp ++ message).take 2 =
        ((udp ++ payload).drop 2).take 2 ∧
      ((replyUdp udpLen udp ++ message).drop 2).take 2 =
        (udp ++ payload).take 2 ∧
      ((replyUdp udpLen udp ++ message).drop 6).take 2 = [0, 0] ∧
      (replyUdp udpLen udp ++ message).drop 8 = message := by
  obtain ⟨s0, s1, d0, d1, _, rfl, _⟩ := exists_row 4 eight.ge
  exact ⟨rfl, rfl, rfl, rfl, rfl, rfl⟩

theorem isReply_parts {front udp : List UInt8} (payload message : List UInt8)
    {total : Nat} (long : 20 ≤ front.length) (eight : udp.length = 8)
    (totalEq : front.length + 8 + message.length = total)
    (fits : total < 2 ^ 16) :
    IsReply (front ++ (udp ++ payload)) message
      (checkedHeader total front ++
        (replyUdp (8 + message.length) udp ++ message)) front.length := by
  have sized : (checkedHeader total front).length =
      front.length := length_replyHeader _ _ _ long
  have size : (checkedHeader total front ++
      (replyUdp (8 + message.length) udp ++ message)).length =
      total := by
    rw [List.length_append, List.length_append, sized, length_replyUdp _ eight,
      ← Nat.add_assoc, totalEq]
  have totalWord := word_toByte fits
  have udpWord : word (toByte ((8 + message.length) >>> 8))
      (toByte ((8 + message.length) &&& 0xFF)) = 8 + message.length :=
    word_toByte (by omega)
  obtain ⟨totalHigh, totalLow, source, destination⟩ := checkedHeader_fields
    total long
    (replyUdp (8 + message.length) udp ++ message) (udp ++ payload)
  obtain ⟨udpHigh, udpLow, sourcePort, destinationPort, udpChecksum, dropped⟩ :=
    replyUdp_fields (8 + message.length) eight message payload
  have header (offset : Nat) :
      (checkedHeader total front ++
        (replyUdp (8 + message.length) udp ++ message)).drop
          (front.length + offset) =
        (replyUdp (8 + message.length) udp ++ message).drop offset := by
    rw [← sized, List.drop_length_add_append]
  have query (offset : Nat) :
      (front ++ (udp ++ payload)).drop (front.length + offset) =
        (udp ++ payload).drop offset :=
    List.drop_length_add_append offset
  have udpByte (offset : Nat) :
      byteAt (checkedHeader total front ++
        (replyUdp (8 + message.length) udp ++ message))
          (front.length + offset) =
        byteAt (replyUdp (8 + message.length) udp ++ message) offset := by
    rw [← sized, byteAt_append]
  constructor
  case size => exact size.trans totalEq.symm
  case totalLen => rw [size, totalHigh, totalLow, totalWord]
  case udpLen => rw [udpByte, udpByte, udpHigh, udpLow, udpWord]
  case source => exact source
  case destination => exact destination
  case sourcePort =>
    have atHeader := header 0
    rw [Nat.add_zero, List.drop_zero] at atHeader
    rw [atHeader, query, sourcePort]
  case destinationPort =>
    have atQuery := query 0
    rw [Nat.add_zero, List.drop_zero] at atQuery
    rw [header, atQuery, destinationPort]
  case udpChecksum => rw [header, udpChecksum]
  case payload => rw [header, dropped]
  case unchanged =>
    intro index inside kept outside
    exact byteAt_checkedHeader long _ _ inside kept outside
  case checksum =>
    rw [List.take_left' sized]
    exact onesSum_checkedHeader _ long

theorem mark_response (flags : UInt8) : (flags ||| 0x80) &&& 0x80 = 0x80 := by
  obtain ⟨⟨bits⟩⟩ := flags
  revert bits
  decide +kernel

theorem mark_failure (codes : UInt8) :
    ((codes &&& 0xF0) ||| 0x02) &&& 0x0F = 0x02 := by
  obtain ⟨⟨bits⟩⟩ := codes
  revert bits
  decide +kernel

/-- The fallback answer is the request marked as failed. -/
theorem createServfailResponse_isServfail {request response : List UInt8}
    (long : 12 ≤ request.length)
    (created : createServfailResponse request = .ok response) :
    IsServfail request response := by
  obtain ⟨b0, b1, flags, codes, rest, rfl, _⟩ := exists_row 8 long
  have notShort : ¬ (b0 :: b1 :: flags :: codes :: rest).length < 12 :=
    Nat.not_lt.mpr long
  unfold createServfailResponse at created
  rw [if_neg notShort] at created
  cases created
  constructor
  case size => rfl
  case id => rfl
  case question => rfl
  case qr => exact mark_response flags
  case rcode => exact mark_failure codes

/-- Every packet with at least five header words and a UDP payload, accepted by
the classifier or not, is answered by a packet that is the reply to it, for
every DNS message that fits; the message of the fallback is the request marked
as failed. -/
theorem dns_reply_correct {packet message : List UInt8}
    {answer : Option ByteArr}
    (headerWords : 5 * 4 ≤ ipHeaderLen (byteAt packet 0))
    (payload : ipHeaderLen (byteAt packet 0) + 8 < packet.length)
    (answered : resolved answer
      (packet.drop (ipHeaderLen (byteAt packet 0) + 8)) = .ok message)
    (fits : ipHeaderLen (byteAt packet 0) + 8 + message.length ≤ 65535) :
    ∃ reply, handleDnsRequest packet answer = .ok (some reply) ∧
      IsReply packet message reply (ipHeaderLen (byteAt packet 0)) ∧
      (answer = none →
        12 ≤ (packet.drop (ipHeaderLen (byteAt packet 0) + 8)).length →
        IsServfail (packet.drop (ipHeaderLen (byteAt packet 0) + 8)) message) := by
  rw [handleDnsRequest_eq answer payload, answered, ok_bind]
  generalize headerEq : ipHeaderLen (byteAt packet 0) = header at *
  have parts : packet = packet.take header ++
      ((packet.drop header).take 8 ++ packet.drop (header + 8)) := by
    rw [← List.drop_drop, List.take_append_drop, List.take_append_drop]
  have sized : (packet.take header).length = header := by
    rw [List.length_take]
    omega
  have eight : ((packet.drop header).take 8).length = 8 := by
    rw [List.length_take, List.length_drop]
    omega
  have long : 20 ≤ (packet.take header).length := by omega
  have built := craftIpv4UdpResponse_eq_ok (packet.drop (header + 8)) message
    long eight (by omega)
  have isReply := isReply_parts (packet.drop (header + 8)) message long eight
    rfl (by omega)
  rw [← parts, sized] at built isReply
  refine ⟨_, by rw [built, ok_bind], isReply, ?_⟩
  intro none long
  subst none
  exact createServfailResponse_isServfail long answered

/-- A query from 10.0.0.1 to 10.0.0.2 with one header option and a bare DNS
header. -/
def bareQuery : List UInt8 :=
  [0x46, 0, 0, 44, 0, 1, 0, 0, 64, 17, 0, 0, 10, 0, 0, 1, 10, 0, 0, 2] ++
    [0x94, 4, 0, 0] ++ [0x30, 0x39, 0, 53, 0, 20, 0, 0] ++
    [0xAB, 0xCD, 1, 0, 0, 0, 0, 0, 0, 0, 0, 0]

theorem dns_reply_correct_bare_query :
    isIpv4UdpPort53 bareQuery = .ok true ∧
      ∃ reply, handleDnsRequest bareQuery none = .ok (some reply) ∧
        IsReply bareQuery [0xAB, 0xCD, 0x81, 2, 0, 0, 0, 0, 0, 0, 0, 0] reply
          (ipHeaderLen (byteAt bareQuery 0)) := by
  have answered : resolved none
      (bareQuery.drop (ipHeaderLen (byteAt bareQuery 0) + 8)) =
      .ok [0xAB, 0xCD, 0x81, 2, 0, 0, 0, 0, 0, 0, 0, 0] := by decide
  obtain ⟨reply, written, isReply, _⟩ :=
    dns_reply_correct (by decide) (by decide) answered (by decide)
  exact ⟨by decide, reply, written, isReply⟩

end ProxyVPN.TunPacketInterceptor
