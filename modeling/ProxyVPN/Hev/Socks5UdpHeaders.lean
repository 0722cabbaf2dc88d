/-
Module: ProxyVPN.Hev.Socks5UdpHeaders
Purpose: The length that a UDP-in-TCP header announces against the length of
  the address behind it, and exactly when all frames that the receiver takes
  have the same for both.
Trusted boundary: none
Main exports: addrLenAt, HeaderMatches, SeparatesHeaders, TakesMismatch,
  recvmmsgTcpLoop_headers, separates_headers_iff, address_out_of_payload
-/
import ProxyVPN.Hev.Socks5UdpFrames

namespace ProxyVPN

open Scatter TaskIO

/-! ## The two lengths of a header -/

/-- `hev_socks5_addr_len` of an address that begins with these bytes. -/
def addrLenOf (atype domainLen : UInt8) : Int :=
  match atype.toNat with
  | 1 => 7
  | 4 => 19
  | 3 => 4 + domainLen.toNat
  | _ => -1

/-- `hev_socks5_addr_len` of the address at a place in the memory. -/
def addrLenAt (memory : Nat → UInt8) (addr : Nat) : Int :=
  addrLenOf (memory addr) (memory (addr + 1))

/-- What the header of a frame announces as its length. -/
def Frame.hdrlen (frame : Frame) : Nat := frame.addr.length + 3

/-- The header at the beginning of a stream announces the length of its
address. -/
def HeaderMatches (stream : List UInt8) : Prop :=
  addrLenOf (stream.getD 3 0) (stream.getD 4 0) = (hdrlenOf stream : Int) - 3

instance (stream : List UInt8) : Decidable (HeaderMatches stream) :=
  inferInstanceAs (Decidable (_ = _))

/-- The entries that a call returns were set from frames at the beginning of
the stream, and so was no other.  The address of each has the length that its
header announces, so it is what lies between the header's first three bytes and
the data; a frame for which this is not so is not taken. -/
structure SeparatesHeaders (num : Nat) (stream : List UInt8) (batch : Recvmmsg)
    (frames : List Frame) : Prop where
  stream : frames.flatMap Frame.bytes <+: stream
  returned : batch.res ≤ frames.length
  set : ∀ index frame, frames[index]? = some frame →
    ∃ msg, batch.msgv[index]? = some msg ∧
      SetFrom batch.memory index msg frame ∧
      addrLenAt batch.memory (slot index).buf = (frame.hdrlen : Int) - 3
  unset : ∀ index, frames.length ≤ index → index < num →
    batch.msgv[index]? = some (slot index)

/-- The body of the frame at the beginning of a stream is received in full.  A
body without bytes at the very end is taken for one that is complete when the
connection was closed, and for an error otherwise. -/
def BodyCompletes (stop : Stop) (stream : List UInt8) : Prop :=
  5 + bodySize stream ≤ stream.length ∧ (stream.length = 5 → stop = .eof)

instance (stop : Stop) (stream : List UInt8) :
    Decidable (BodyCompletes stop stream) :=
  inferInstanceAs (Decidable (_ ∧ _))

/-- Among the next `num` frames is a complete one that passes the receiver's
checks and does not match its header. -/
def TakesMismatch (nonblock : Bool) (stop : Stop) :
    Nat → Arrivals UInt8 → Prop
  | 0, _ => False
  | num + 1, arrivals =>
      ¬Idle nonblock arrivals ∧ 5 ≤ arrivals.flatten.length ∧
        Accepted arrivals.flatten ∧ BodyCompletes stop arrivals.flatten ∧
        (HeaderMatches arrivals.flatten →
          TakesMismatch nonblock stop num
            (Arrivals.consume (bodySize arrivals.flatten)
              (Arrivals.consume 5 arrivals)))

/-! ## The entries of one call -/

/-- All entries that were set point to an address that reaches up to the
data. -/
def HeadersFit (batch : Recvmmsg) : Prop :=
  ∀ (index : Nat) (msg : HevSocks5UDPMsg) (addr : Nat),
    batch.msgv[index]? = some msg → msg.addr = .cell addr →
    addrLenAt batch.memory addr = (msg.buf : Int) - addr

/-- This holds where no entry was set. -/
theorem headersFit_slotsFrom (res : Int) (done num : Nat)
    (memory : Nat → UInt8) (socket : Socket) :
    HeadersFit ⟨res, slotsFrom done num, memory, socket⟩ := by
  intro index msg addr entry set
  have member : msg ∈ slotsFrom done num := List.mem_of_getElem? entry
  obtain ⟨number, _, rfl⟩ := List.mem_map.mp member
  cases set

/-- An entry in front adds its own condition. -/
theorem headersFit_cons (batch : Recvmmsg) {msg : HevSocks5UDPMsg} {addr : Nat}
    (set : msg.addr = .cell addr) :
    HeadersFit { batch with msgv := msg :: batch.msgv } ↔
      addrLenAt batch.memory addr = (msg.buf : Int) - addr ∧
        HeadersFit batch := by
  constructor
  · intro fit
    refine ⟨fit 0 msg addr rfl set, ?_⟩
    intro index other
    exact fit (index + 1) other
  · rintro ⟨first, rest⟩ index other place entry otherSet
    cases index with
    | zero =>
        cases entry
        rw [set] at otherSet
        cases otherSet
        exact first
    | succ index => exact rest index other place entry otherSet

/-- The bytes that `hev_socks5_addr_len` looks at are those of the header. -/
theorem addrLenAt_stored {memory later : Nat → UInt8} {base : Nat}
    {stream : List UInt8} (long : 5 ≤ stream.length)
    (agree : ∀ address, address < base + 2 → later address =
      storeAt memory [base, base + 1] ((stream.drop 3).take 2) address) :
    addrLenAt later base =
      addrLenOf (stream.getD 3 0) (stream.getD 4 0) := by
  have leading := header_addr (rfl : stream.take 5 = stream.take 5) long
  simp only [List.getD_eq_getElem?_getD, List.getElem?_take] at leading
  unfold addrLenAt
  rw [agree base (by omega), agree (base + 1) (by omega), ← leading]
  simp [storeAt, List.getD_eq_getElem?_getD]

/-- A body read returns what was asked for when the frame is complete. -/
theorem body_res_iff {stop : Stop} {stream : List UInt8} {res : Int}
    (long : 5 ≤ stream.length)
    (resEq : res = if stream.drop 5 = [] then stop.code
      else ((stream.drop 5).take (bodySize stream)).length) :
    res = bodySize stream ↔ BodyCompletes stop stream := by
  unfold BodyCompletes
  have left : (stream.drop 5).length = stream.length - 5 := List.length_drop
  by_cases ended : stream.drop 5 = []
  · rw [if_pos ended] at resEq
    rw [ended, List.length_nil] at left
    have five : stream.length = 5 := by omega
    rw [resEq, five]
    cases stop with
    | eof =>
        simp only [Stop.code, implies_true, and_true]
        omega
    | failed =>
        simp only [Stop.code, reduceCtorEq, imp_false, not_true_eq_false,
          and_false]
    | timeout =>
        simp only [Stop.code, reduceCtorEq, imp_false, not_true_eq_false,
          and_false]
  · rw [if_neg ended, List.length_take, left] at resEq
    have more : 0 < (stream.drop 5).length := List.length_pos_of_ne_nil ended
    omega

/-- The entries fit exactly where the call takes no frame that does not match
its header. -/
theorem recvmmsgTcpLoop_headers (nonblock : Bool) :
    ∀ (num done : Nat) (memory : Nat → UInt8) (socket : Socket),
      HeadersFit
        (recvmmsgTcpLoop nonblock (slotsFrom done num) done memory socket) ↔
      ¬TakesMismatch nonblock socket.stop num socket.arrivals := by
  intro num
  induction num with
  | zero =>
      intro done memory socket
      exact iff_of_true (headersFit_slotsFrom done done 0 memory socket) id
  | succ num inductionHypothesis =>
      intro done memory socket
      unfold TakesMismatch
      by_cases idle : Idle nonblock socket.arrivals
      · have returned := recvHead_idle idle
        rw [slotsFrom_succ, recvmmsgTcpLoop_head (by rw [returned]; decide),
          ← slotsFrom_succ]
        exact iff_of_true (headersFit_slotsFrom _ _ _ _ _) (fun walk => walk.1 idle)
      by_cases short : socket.arrivals.flatten.length < 5
      · have notFull := (recvHead_short idle short).1
        rw [slotsFrom_succ, recvmmsgTcpLoop_head (by omega), ← slotsFrom_succ]
        exact iff_of_true (headersFit_slotsFrom _ _ _ _ _)
          (fun walk => Nat.not_le.mpr short walk.2.1)
      have long : 5 ≤ socket.arrivals.flatten.length := Nat.le_of_not_lt short
      obtain ⟨complete, taken, arrivals, stop⟩ := recvHead_complete idle long
      by_cases accepted : Accepted socket.arrivals.flatten
      case neg =>
        rw [slotsFrom_succ, recvmmsgTcpLoop_reject complete taken accepted,
          ← slotsFrom_succ]
        exact iff_of_true (headersFit_slotsFrom _ _ _ _ _)
          (fun walk => accepted walk.2.2.1)
      obtain ⟨_, bodyArrivals, bodyStop, bodyRes⟩ :=
        recv_waitAll (bodySize socket.arrivals.flatten)
          (recvHead nonblock socket).socket
      rw [arrivals, Arrivals.flatten_consume, stop] at bodyRes
      rw [arrivals] at bodyArrivals
      rw [stop] at bodyStop
      have full := body_res_iff long bodyRes
      rw [slotsFrom_succ, recvmmsgTcpLoop_body complete taken long accepted]
      by_cases completed : BodyCompletes socket.stop socket.arrivals.flatten
      case neg =>
        rw [if_pos (full.not.mpr completed), ← slotsFrom_succ]
        exact iff_of_true (headersFit_slotsFrom _ _ _ _ _)
          (fun walk => completed walk.2.2.2.1)
      rw [if_neg (not_not.mpr (full.mpr completed)), headersFit_cons _ rfl,
        inductionHypothesis, bodyStop, bodyArrivals]
      obtain ⟨frames, outcome⟩ := recvmmsgTcpLoop_outcome nonblock num
        (done + 1) (storeAt (scatter memory
            [{ base := (slot done).buf + 2,
               len := hdrlenOf socket.arrivals.flatten - 3 - 2 },
              { base := (slot done).buf + (hdrlenOf socket.arrivals.flatten - 3),
                len := datlenOf socket.arrivals.flatten }]
            (recv msgWaitAll (bodySize socket.arrivals.flatten)
              (recvHead nonblock socket).socket).bytes)
          [(slot done).buf, (slot done).buf + 1]
          ((socket.arrivals.flatten.drop 3).take 2))
        (recv msgWaitAll (bodySize socket.arrivals.flatten)
          (recvHead nonblock socket).socket).socket
      have region : (slot done).buf + 2 ≤ udpBufSize * (done + 1) := by
        simp only [slot, Nat.mul_succ, udpBufSize]
        omega
      have first := addrLenAt_stored long
        fun address below => outcome.below address (by omega)
      have minimal := accepted.1
      have offset : (((slot done).buf +
            (hdrlenOf socket.arrivals.flatten - 3) : Nat) : Int) -
          (slot done).buf = (hdrlenOf socket.arrivals.flatten : Int) - 3 := by
        omega
      rw [first, offset]
      change (HeaderMatches socket.arrivals.flatten ∧ _) ↔ _
      constructor
      · rintro ⟨fits, rest⟩ ⟨_, _, _, _, walk⟩
        exact rest (walk fits)
      · intro noWalk
        by_contra broken
        apply noWalk
        refine ⟨idle, long, accepted, completed, ?_⟩
        intro fits
        by_contra rest
        exact broken ⟨fits, rest⟩

/-! ## The messages that are returned -/

/-- A call leaves as many entries as it got. -/
theorem length_recvmmsgTcpLoop (nonblock : Bool) (msgv : List HevSocks5UDPMsg) :
    ∀ (rlen : Nat) (memory : Nat → UInt8) (socket : Socket),
      (recvmmsgTcpLoop nonblock msgv rlen memory socket).msgv.length =
        msgv.length := by
  induction msgv with
  | nil =>
      intro rlen memory socket
      rfl
  | cons msg msgv inductionHypothesis =>
      intro rlen memory socket
      unfold recvmmsgTcpLoop
      simp only
      split
      · split <;> rfl
      · split
        · rfl
        · split
          · rfl
          · split
            · rfl
            · exact congrArg (· + 1) (inductionHypothesis _ _ _)

/-- So an entry of the batch has an index below the number that was asked
for. -/
theorem index_lt_of_entry {nonblock : Bool} {num : Nat} {memory : Nat → UInt8}
    {socket : Socket} {index : Nat} {msg : HevSocks5UDPMsg}
    (entry : (recvmmsgTcp nonblock (slots num) memory socket).msgv[index]? =
      some msg) : index < num := by
  have inside := (List.getElem?_eq_some_iff.mp entry).1
  rwa [recvmmsgTcp, length_recvmmsgTcpLoop, slots, List.length_map,
    List.length_range'] at inside

/-- The address of an entry reaches up to the data exactly when it is as long
as the header of its frame announces. -/
theorem SetFrom.addrLen_iff {memory : Nat → UInt8} {index : Nat}
    {msg : HevSocks5UDPMsg} {frame : Frame}
    (holds : SetFrom memory index msg frame) :
    addrLenAt memory (slot index).buf = (msg.buf : Int) - (slot index).buf ↔
      addrLenAt memory (slot index).buf = (frame.hdrlen : Int) - 3 := by
  have reach : (msg.buf : Int) - (slot index).buf = (frame.hdrlen : Int) - 3 := by
    rw [holds.buf]
    unfold Frame.hdrlen
    omega
  rw [reach]

section

variable {nonblock : Bool} {num : Nat} {memory : Nat → UInt8} {socket : Socket}
  {frames : List Frame}

/-- The address of every entry that was set fits its header. -/
theorem SeparatesHeaders.headersFit
    (separates : SeparatesHeaders num socket.arrivals.flatten
      (recvmmsgTcp nonblock (slots num) memory socket) frames) :
    HeadersFit (recvmmsgTcp nonblock (slots num) memory socket) := by
  intro index msg addr entry set
  by_cases past : frames.length ≤ index
  · rw [separates.unset index past (index_lt_of_entry entry)] at entry
    cases entry
    cases set
  · have member := List.getElem?_eq_getElem (Nat.lt_of_not_le past)
    obtain ⟨other, otherEntry, holds, length⟩ := separates.set index _ member
    rw [otherEntry] at entry
    cases entry
    rw [holds.addr] at set
    cases set
    exact holds.addrLen_iff.mpr length

/-- There are no more frames than entries. -/
theorem SeparatesHeaders.size
    (separates : SeparatesHeaders num socket.arrivals.flatten
      (recvmmsgTcp nonblock (slots num) memory socket) frames) :
    frames.length ≤ num := by
  by_contra more
  have last : num < frames.length := Nat.lt_of_not_le more
  obtain ⟨_, entry, _⟩ :=
    separates.set num _ (List.getElem?_eq_getElem last)
  exact lt_irrefl _ (index_lt_of_entry entry)

/-- The frames are whole. -/
theorem SeparatesHeaders.returnsWholeFrames
    (separates : SeparatesHeaders num socket.arrivals.flatten
      (recvmmsgTcp nonblock (slots num) memory socket) frames) :
    ReturnsWholeFrames nonblock num memory socket := by
  have within := separates.size
  have returned := separates.returned
  refine ⟨by omega, frames, separates.stream, ?_⟩
  intro index below
  have member := List.getElem?_eq_getElem
    (show index < frames.length by omega)
  obtain ⟨msg, entry, holds, _⟩ := separates.set index _ member
  exact ⟨_, msg, member, entry, holds⟩

/-- Headers and data are apart where the entries fit their headers and no more
of them are returned than were set. -/
theorem LoopOutcome.separatesHeaders
    (outcome : LoopOutcome nonblock num 0 memory socket
      (recvmmsgTcp nonblock (slots num) memory socket) frames)
    (fit : HeadersFit (recvmmsgTcp nonblock (slots num) memory socket))
    (counted : ¬EndsInFrame nonblock socket.stop num 0 socket.arrivals) :
    SeparatesHeaders num socket.arrivals.flatten
      (recvmmsgTcp nonblock (slots num) memory socket) frames := by
  constructor
  case stream => exact outcome.stream
  case returned =>
    have bound := outcome.result.mpr counted
    omega
  case set =>
    intro index frame member
    obtain ⟨msg, entry, holds⟩ := outcome.set index frame member
    rw [Nat.zero_add] at holds
    exact ⟨msg, entry, holds,
      holds.addrLen_iff.mp (fit index msg _ entry holds.addr)⟩
  case unset =>
    intro index past inside
    have entry := outcome.unset index past inside
    rwa [Nat.zero_add] at entry

end

/-- For every stream and every way it is cut and ends, the call keeps headers
and data apart exactly when it takes no frame that does not match its header
and the stream does not end inside one in a way that counts for more. -/
theorem separates_headers_iff (nonblock : Bool) (num : Nat)
    (memory : Nat → UInt8) (socket : Socket) :
    (∃ frames, SeparatesHeaders num socket.arrivals.flatten
        (recvmmsgTcp nonblock (slots num) memory socket) frames) ↔
      ¬TakesMismatch nonblock socket.stop num socket.arrivals ∧
        ¬EndsInFrame nonblock socket.stop num 0 socket.arrivals := by
  have headers := recvmmsgTcpLoop_headers nonblock num 0 memory socket
  change HeadersFit (recvmmsgTcp nonblock (slots num) memory socket) ↔ _
    at headers
  rw [← headers, ← returnsWholeFrames_iff nonblock num memory socket]
  constructor
  · rintro ⟨frames, separates⟩
    exact ⟨separates.headersFit, separates.returnsWholeFrames⟩
  · rintro ⟨fit, whole⟩
    obtain ⟨frames, outcome⟩ :=
      recvmmsgTcpLoop_outcome nonblock num 0 memory socket
    exact ⟨frames, outcome.separatesHeaders fit
      ((returnsWholeFrames_iff nonblock num memory socket).mp whole)⟩

/-- A header of five bytes with a name of two hundred passes the checks, so the
name is read out of the data and what is behind it. -/
theorem address_out_of_payload :
    ¬∀ (nonblock : Bool) (num : Nat) (memory : Nat → UInt8) (socket : Socket),
      ∃ frames, SeparatesHeaders num socket.arrivals.flatten
        (recvmmsgTcp nonblock (slots num) memory socket) frames := by
  intro always
  obtain ⟨frames, separates⟩ := always true 1 (fun _ => 0)
    ⟨[[0, 1, 5, 3, 200, 7]], .timeout, .other⟩
  have returned : (recvmmsgTcp true (slots 1) (fun _ => 0)
      ⟨[[0, 1, 5, 3, 200, 7]], .timeout, .other⟩).res = 1 := by decide +kernel
  have bound := separates.returned
  obtain ⟨msg, entry, holds, length⟩ :=
    separates.set 0 _ (List.getElem?_eq_getElem (by omega))
  -- the name of 200 bytes does not end where the data begins
  have buf : (recvmmsgTcp true (slots 1) (fun _ => 0)
      ⟨[[0, 1, 5, 3, 200, 7]], .timeout, .other⟩).msgv.map
        HevSocks5UDPMsg.buf = [2] := by decide +kernel
  have addrLen : addrLenAt (recvmmsgTcp true (slots 1) (fun _ => 0)
      ⟨[[0, 1, 5, 3, 200, 7]], .timeout, .other⟩).memory (slot 0).buf = 204 := by
    decide +kernel
  have bufOfEntry := congrArg (·[0]?) buf
  simp only [List.getElem?_map, entry] at bufOfEntry
  have start := Option.some.inj bufOfEntry
  rw [holds.buf] at start
  rw [addrLen] at length
  unfold Frame.hdrlen at length
  unfold slot at start
  omega

end ProxyVPN
