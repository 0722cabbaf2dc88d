/-
Module: ProxyVPN.Hev.MappedDnsAnswers
Purpose: The response of the mapped DNS responder: it is written inside its
  buffer, and its bytes are the header, the questions of the request and one
  answer for each address that was kept.
Trusted boundary: none
Main exports: answerBytes, answers_cases, handle_eq, handle_safe
-/
import ProxyVPN.Hev.MappedDnsWalk

namespace ProxyVPN

open CheckedArray DnsMessage

namespace HevMappedDNS

/-! ## Writing one answer -/

/-- The bytes of a 16-bit field. -/
def u16Bytes (v : Nat) : List UInt8 :=
  [UInt8.ofNat (v / 256), UInt8.ofNat v]

def u32Bytes (v : BitVec 32) : List UInt8 :=
  [UInt8.ofNat (v.toNat / 2 ^ 24), UInt8.ofNat (v.toNat / 2 ^ 16),
    UInt8.ofNat (v.toNat / 2 ^ 8), UInt8.ofNat v.toNat]

/-- One answer: a pointer to the question, type, class and lifetime, and the
address with its length. -/
def answerBytes (ipo : Nat) (ip : BitVec 32) : List UInt8 :=
  u16Bytes (0xc000 ||| ipo) ++ (u16Bytes 1 ++ (u16Bytes 1 ++ (u32Bytes 1 ++
    (u16Bytes 4 ++ u32Bytes ip))))

/-- The writes of one answer are one copy. -/
theorem answer_eq_copy (sb : List UInt8) (off ipo : Nat) (ip : BitVec 32) :
    answer sb off ipo ip = copy (answerBytes ipo ip) 0 sb off 16 := by
  have last : ∀ p, (writeU16 p (off + 10) 4 >>= fun p =>
      writeU32 p (off + 12) ip) =
        copy (u16Bytes 4 ++ u32Bytes ip) 0 p (off + 10) 6 :=
    fun p => copy_bind_copy (u16Bytes 4) (u32Bytes ip) p (off + 10)
  have fromTtl : ∀ p, (writeU32 p (off + 6) 1 >>= fun p =>
      copy (u16Bytes 4 ++ u32Bytes ip) 0 p (off + 10) 6) =
        copy (u32Bytes 1 ++ (u16Bytes 4 ++ u32Bytes ip)) 0 p (off + 6) 10 :=
    fun p => copy_bind_copy (u32Bytes 1) _ p (off + 6)
  have fromClass : ∀ p, (writeU16 p (off + 4) 1 >>= fun p =>
      copy (u32Bytes 1 ++ (u16Bytes 4 ++ u32Bytes ip)) 0 p (off + 6) 10) =
        copy (u16Bytes 1 ++ (u32Bytes 1 ++ (u16Bytes 4 ++ u32Bytes ip))) 0 p
          (off + 4) 12 :=
    fun p => copy_bind_copy (u16Bytes 1) _ p (off + 4)
  have fromType : ∀ p, (writeU16 p (off + 2) 1 >>= fun p =>
      copy (u16Bytes 1 ++ (u32Bytes 1 ++ (u16Bytes 4 ++ u32Bytes ip))) 0 p
        (off + 4) 12) =
        copy (u16Bytes 1 ++ (u16Bytes 1 ++ (u32Bytes 1 ++ (u16Bytes 4 ++
          u32Bytes ip)))) 0 p (off + 2) 14 :=
    fun p => copy_bind_copy (u16Bytes 1) _ p (off + 2)
  unfold answer
  simp only [last, fromTtl, fromClass, fromType]
  exact copy_bind_copy (u16Bytes (0xc000 ||| ipo)) _ sb off

/-- An answer goes over the next sixteen bytes. -/
theorem answer_append (front back : List UInt8) (ipo : Nat) (ip : BitVec 32)
    (room : 16 ≤ back.length) :
    answer (front ++ back) front.length ipo ip =
      .ok ((front ++ answerBytes ipo ip) ++ back.drop 16) := by
  have sized : (back.take 16).length = 16 := List.length_take_of_le room
  have copied := copy_append (answerBytes ipo ip) front (back.take 16)
    (back.drop 16) (Nat.le_refl 16) sized
  rw [List.take_append_drop] at copied
  rw [answer_eq_copy, copied, List.append_assoc]
  rfl

/-- The entries of an array from `index` on begin with these. -/
theorem read_of_take {α : Type} {array : List α} {index : Nat} {first : α}
    {others : List α}
    (entries : (array.drop index).take (others.length + 1) = first :: others) :
    CheckedArray.read array index = .ok first ∧
      (array.drop (index + 1)).take others.length = others := by
  cases begins : array.drop index with
  | nil =>
      rw [begins] at entries
      cases entries
  | cons value rest =>
      rw [begins, List.take_succ_cons] at entries
      rcases List.cons.inj entries with ⟨rfl, same⟩
      have found : array[index]? = some value := by
        have head := congrArg (fun list => list[0]?) begins
        simpa using head
      constructor
      · unfold CheckedArray.read
        rw [found]
      · rw [← List.drop_drop, begins]
        exact same

/-- The loop over the answers runs out of room, or writes an answer for each
entry of the two arrays. -/
theorem answers_cases (ips : List (BitVec 32)) (ipo : List Nat)
    (kept : List (Nat × BitVec 32)) :
    ∀ (i : Nat) (front back : List UInt8),
      (ipo.drop i).take kept.length = kept.map Prod.fst →
      (ips.drop i).take kept.length = kept.map Prod.snd →
      (∃ sb off, answers ips ipo kept.length i (front ++ back) front.length =
        .ok (sb, off, false)) ∨
      16 * kept.length ≤ back.length ∧
        answers ips ipo kept.length i (front ++ back) front.length =
          .ok (front ++ (kept.flatMap (fun one => answerBytes one.1 one.2) ++
            back.drop (16 * kept.length)),
            front.length + 16 * kept.length, true) := by
  induction kept with
  | nil =>
      intro i front back _ _
      exact .inr ⟨Nat.zero_le _, rfl⟩
  | cons first kept inductionHypothesis =>
      intro i front back offsets addresses
      have fstLength : (kept.map Prod.fst).length = kept.length :=
        List.length_map _
      have sndLength : (kept.map Prod.snd).length = kept.length :=
        List.length_map _
      rw [List.length_cons, List.map_cons] at offsets addresses
      rw [← fstLength] at offsets
      rw [← sndLength] at addresses
      obtain ⟨readOffset, offsetsRest⟩ := read_of_take offsets
      obtain ⟨readAddress, addressesRest⟩ := read_of_take addresses
      rw [fstLength] at offsetsRest
      rw [sndLength] at addressesRest
      rw [List.length_cons]
      unfold answers
      by_cases full : (front ++ back).length ≤ front.length + 15
      · rw [if_pos full]
        exact .inl ⟨_, _, rfl⟩
      · rw [List.length_append] at full
        have room : 16 ≤ back.length := by omega
        have size : (front ++ answerBytes first.1 first.2).length =
            front.length + 16 := List.length_append
        rw [if_neg (by rw [List.length_append]; exact full), readOffset,
          ok_bind, readAddress, ok_bind, answer_append _ _ _ _ room, ok_bind,
          ← size]
        rcases inductionHypothesis (i + 1) (front ++ answerBytes first.1 first.2)
          (back.drop 16) offsetsRest addressesRest with stops | ⟨fits, written⟩
        · exact .inl stops
        · right
          rw [List.length_drop] at fits
          have blocks : 16 * (kept.length + 1) = 16 + 16 * kept.length := by
            omega
          refine ⟨by omega, written.trans ?_⟩
          rw [blocks, size, List.drop_drop, List.flatMap_cons, Nat.add_assoc,
            List.append_assoc front, List.append_assoc]

/-! ## The header -/

theorem writeU16_append (front : List UInt8) (high low : UInt8)
    (back : List UInt8) (v : Nat) :
    writeU16 (front ++ high :: low :: back) front.length v =
      .ok (front ++ (u16Bytes v ++ back)) :=
  copy_append (u16Bytes v) front [high, low] back (Nat.le_refl 2) rfl

/-- The request before the walk, and the response before the answers. -/
theorem handle_eq (outcomes : Nat → HevMappedDNS → CString → FindOutcome)
    (self : HevMappedDNS)
    (b0 b1 b2 b3 b4 b5 b6 b7 b8 b9 b10 b11 : UInt8) (body res : List UInt8)
    (room : 12 + body.length ≤ res.length) :
    let qd := b4.toNat * 256 + b5.toNat
    let rb := b0 :: b1 :: b2 :: b3 :: b5 :: b4 :: b6 :: b7 :: b8 :: b9 ::
      b10 :: b11 :: body
    let sb := b0 :: b1 :: b3 :: b2 :: b4 :: b5 :: 0 :: 0 :: 0 :: 0 :: 0 :: 0 ::
      (body ++ res.drop (12 + body.length))
    handle outcomes self (b0 :: b1 :: b2 :: b3 :: b4 :: b5 :: b6 :: b7 :: b8 ::
        b9 :: b10 :: b11 :: body) res =
      if 32 < qd then .ok (some ⟨-1, rb, sb, self⟩)
      else respond outcomes self qd (b2.toNat * 256 + b3.toNat) rb sb := by
  intro qd rb sb
  have qlen : (b0 :: b1 :: b2 :: b3 :: b4 :: b5 :: b6 :: b7 :: b8 :: b9 ::
      b10 :: b11 :: body).length = 12 + body.length := by
    simp only [List.length_cons]
    omega
  have copied : copy (b0 :: b1 :: b2 :: b3 :: b4 :: b5 :: b6 :: b7 :: b8 ::
      b9 :: b10 :: b11 :: body) 0 res 0 (12 + body.length) =
        .ok (b0 :: b1 :: b2 :: b3 :: b4 :: b5 :: b6 :: b7 :: b8 :: b9 :: b10 ::
          b11 :: (body ++ res.drop (12 + body.length))) := by
    rw [copy_eq_ok (by rw [qlen]; omega) (by omega), List.drop_zero,
      List.take_zero, List.nil_append, Nat.zero_add,
      List.take_of_length_le (Nat.le_of_eq qlen)]
    rfl
  have swapQd : ntohsField (b0 :: b1 :: b2 :: b3 :: b4 :: b5 :: b6 :: b7 ::
      b8 :: b9 :: b10 :: b11 :: body) 4 = .ok (qd, rb) := rfl
  have swapFl : ntohsField (b0 :: b1 :: b2 :: b3 :: b4 :: b5 :: b6 :: b7 ::
      b8 :: b9 :: b10 :: b11 :: (body ++ res.drop (12 + body.length))) 2 =
        .ok (b2.toNat * 256 + b3.toNat, b0 :: b1 :: b3 :: b2 :: b4 :: b5 ::
          b6 :: b7 :: b8 :: b9 :: b10 :: b11 ::
            (body ++ res.drop (12 + body.length))) := rfl
  have clearNs : writeU16 (b0 :: b1 :: b3 :: b2 :: b4 :: b5 :: b6 :: b7 :: b8 ::
      b9 :: b10 :: b11 :: (body ++ res.drop (12 + body.length))) 8 0 =
        .ok (b0 :: b1 :: b3 :: b2 :: b4 :: b5 :: b6 :: b7 :: 0 :: 0 :: b10 ::
          b11 :: (body ++ res.drop (12 + body.length))) :=
    writeU16_append [b0, b1, b3, b2, b4, b5, b6, b7] b8 b9 _ 0
  have clearAn : writeU16 (b0 :: b1 :: b3 :: b2 :: b4 :: b5 :: b6 :: b7 :: 0 ::
      0 :: b10 :: b11 :: (body ++ res.drop (12 + body.length))) 6 0 =
        .ok (b0 :: b1 :: b3 :: b2 :: b4 :: b5 :: 0 :: 0 :: 0 :: 0 :: b10 ::
          b11 :: (body ++ res.drop (12 + body.length))) :=
    writeU16_append [b0, b1, b3, b2, b4, b5] b6 b7 _ 0
  have clearAr : writeU16 (b0 :: b1 :: b3 :: b2 :: b4 :: b5 :: 0 :: 0 :: 0 ::
      0 :: b10 :: b11 :: (body ++ res.drop (12 + body.length))) 10 0 =
        .ok sb :=
    writeU16_append [b0, b1, b3, b2, b4, b5, 0, 0, 0, 0] b10 b11 _ 0
  unfold handle
  rw [if_neg (by rw [qlen]; omega), if_neg (by rw [qlen]; omega), qlen, copied,
    ok_bind, swapQd, ok_bind]
  dsimp only
  rw [swapFl, ok_bind]
  dsimp only
  rw [clearNs, ok_bind, clearAn, ok_bind, clearAr, ok_bind]
  rfl

/-! ## Memory safety -/

theorem exists_header {req : List UInt8} (long : 12 ≤ req.length) :
    ∃ b0 b1 b2 b3 b4 b5 b6 b7 b8 b9 b10 b11 body,
      req = b0 :: b1 :: b2 :: b3 :: b4 :: b5 :: b6 :: b7 :: b8 :: b9 :: b10 ::
        b11 :: body := by
  rcases req with _ | ⟨b0, _ | ⟨b1, _ | ⟨b2, _ | ⟨b3, _ | ⟨b4, _ | ⟨b5, _ |
    ⟨b6, _ | ⟨b7, _ | ⟨b8, _ | ⟨b9, _ | ⟨b10, _ |
    ⟨b11, body⟩⟩⟩⟩⟩⟩⟩⟩⟩⟩⟩⟩
  case cons.cons.cons.cons.cons.cons.cons.cons.cons.cons.cons.cons =>
    exact ⟨b0, b1, b2, b3, b4, b5, b6, b7, b8, b9, b10, b11, body, rfl⟩
  all_goals
    simp only [List.length_cons, List.length_nil] at long
    omega

/-- The variables the loop over the questions begins with. -/
def begun (self : HevMappedDNS) (rb : List UInt8) : Questions :=
  { rb := rb
    off := 12
    ips := List.replicate 32 0
    ipo := List.replicate 32 0
    ipn := 0
    cache := self }

theorem writeU16_safe {p : List UInt8} (index v : Nat)
    (inside : index + 2 ≤ p.length) :
    ∃ q, writeU16 p index v = .ok q ∧ q.length = p.length := by
  have copied : writeU16 p index v = _ := copy_eq_ok (Nat.le_refl 2) inside
  exact ⟨_, copied, length_of_copy copied⟩

/-- The loop over the answers stays inside the response and the arrays. -/
theorem answers_safe {ips : List (BitVec 32)} {ipo : List Nat}
    (ipsSize : ips.length = 32) (ipoSize : ipo.length = 32) (left : Nat) :
    ∀ (i : Nat) (sb : List UInt8) (off : Nat), i + left ≤ 32 →
      ∃ written stop room, answers ips ipo left i sb off =
        .ok (written, stop, room) ∧ written.length = sb.length := by
  induction left with
  | zero =>
      intro i sb off _
      exact ⟨sb, off, true, rfl, rfl⟩
  | succ left inductionHypothesis =>
      intro i sb off within
      unfold answers
      by_cases full : sb.length ≤ off + 15
      · rw [if_pos full]
        exact ⟨sb, off, false, rfl, rfl⟩
      · have copied : copy (answerBytes (ipo.getD i 0) (ips.getD i 0)) 0 sb off
            16 = _ := copy_eq_ok (Nat.le_refl 16) (by omega)
        rw [if_neg full, read_eq_ok (by omega) 0, ok_bind,
          read_eq_ok (by omega) 0, ok_bind, answer_eq_copy, copied, ok_bind]
        obtain ⟨written, stop, room, looped, size⟩ := inductionHypothesis
          (i + 1) _ (off + 16) (by omega)
        exact ⟨written, stop, room, looped, size.trans (length_of_copy copied)⟩

theorem respond_safe (outcomes : Nat → HevMappedDNS → CString → FindOutcome)
    (self : HevMappedDNS) {qd : Nat} (fl : Nat) {rb sb : List UInt8}
    (few : qd ≤ 32) (rbSize : 12 ≤ rb.length) (sbSize : 12 ≤ sb.length) :
    ∃ result, respond outcomes self qd fl rb sb = .ok result := by
  have shape : (begun self rb).Shape 0 :=
    ⟨rbSize, List.length_replicate, List.length_replicate, Nat.le_refl 0⟩
  obtain ⟨walk, walked, kept⟩ :=
    questions_safe outcomes qd 0 (begun self rb) 0 shape (by omega)
  unfold begun at walked
  unfold respond
  rw [walked, ok_bind]
  rcases walk with _ | ⟨walk, _ | _⟩
  · exact ⟨_, rfl⟩
  · exact ⟨_, rfl⟩
  · have final := kept walk rfl
    have ipn := final.ipn
    obtain ⟨written, stop, room, looped, size⟩ := answers_safe final.ips
      final.ipo walk.ipn 0 sb walk.off (by omega)
    dsimp only
    rw [looped, ok_bind]
    dsimp only
    cases room with
    | false => exact ⟨_, rfl⟩
    | true =>
        rw [if_pos rfl]
        have longEnough : 2 + 2 ≤ written.length := by omega
        obtain ⟨flags, flagsEq, flagsSize⟩ := writeU16_safe 2
          (fl ||| 0x8000 ||| (fl &&& 0x100) >>> 1) longEnough
        have stillLong : 6 + 2 ≤ flags.length := by omega
        obtain ⟨counted, countedEq, _⟩ := writeU16_safe 6 walk.ipn stillLong
        rw [flagsEq, ok_bind, countedEq, ok_bind]
        exact ⟨_, rfl⟩

/-- The function stays inside both buffers and its arrays. -/
theorem handle_safe (outcomes : Nat → HevMappedDNS → CString → FindOutcome)
    (self : HevMappedDNS) (req res : List UInt8) :
    ∃ result, handle outcomes self req res = .ok result := by
  by_cases small : res.length < req.length
  · exact ⟨_, if_pos small⟩
  · by_cases short : req.length < 12
    · unfold handle
      rw [if_neg small, if_pos short]
      exact ⟨_, rfl⟩
    · obtain ⟨b0, b1, b2, b3, b4, b5, b6, b7, b8, b9, b10, b11, body, rfl⟩ :=
        exists_header (Nat.not_lt.mp short)
      simp only [List.length_cons] at small
      rw [handle_eq outcomes self b0 b1 b2 b3 b4 b5 b6 b7 b8 b9 b10 b11 body res
        (by omega)]
      split
      · exact ⟨_, rfl⟩
      case isFalse few =>
        apply respond_safe outcomes self _ (Nat.not_lt.mp few)
        · simp only [List.length_cons]
          omega
        · simp only [List.length_cons]
          omega

end HevMappedDNS

end ProxyVPN
