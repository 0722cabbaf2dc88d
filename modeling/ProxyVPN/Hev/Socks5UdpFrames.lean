/-
Module: ProxyVPN.Hev.Socks5UdpFrames
Purpose: What the UDP-in-TCP receiver hands to its caller, in terms of the
  frames of the byte stream, and exactly when the end of the stream makes it
  hand over more than it received.
Trusted boundary: none
Main exports: Frame, Frame.bytes, ReturnsWholeFrames, EndsInFrame,
  recvHead_complete, recvmmsgTcpLoop_outcome, recvmmsg_tcp_whole_frames_iff
-/
import ProxyVPN.Hev.Socks5Udp

namespace ProxyVPN

open Scatter TaskIO

/-- A datagram as the relay frames it: at least the address type and one more
byte of the address are present, and both lengths fit their fields. -/
structure Frame where
  addr : List UInt8
  data : List UInt8
  addrMin : 2 ≤ addr.length
  addrMax : addr.length + 3 < 2 ^ 8
  dataMax : data.length < 2 ^ 16

/-- The bytes of a frame on the stream. -/
def Frame.bytes (frame : Frame) : List UInt8 :=
  [UInt8.ofNat (frame.data.length / 256), UInt8.ofNat (frame.data.length % 256),
    UInt8.ofNat (frame.addr.length + 3)] ++ frame.addr ++ frame.data

/-- Entry `index` of the message array was set from `frame`, and the memory
holds what it points to. -/
structure SetFrom (memory : Nat → UInt8) (index : Nat) (msg : HevSocks5UDPMsg)
    (frame : Frame) : Prop where
  addr : msg.addr = .cell (slot index).buf
  buf : msg.buf = (slot index).buf + frame.addr.length
  len : msg.len = frame.data.length
  addrBytes :
    (List.range' (slot index).buf frame.addr.length).map memory = frame.addr
  dataBytes : (List.range' msg.buf msg.len).map memory = frame.data

/-- The returned value counts entries that were set in this call, in order,
from the frames at the beginning of the stream. -/
def ReturnsWholeFrames (nonblock : Bool) (num : Nat) (memory : Nat → UInt8)
    (socket : Socket) : Prop :=
  let batch := recvmmsgTcp nonblock (slots num) memory socket
  batch.res ≤ num ∧
    ∃ frames : List Frame,
      frames.flatMap Frame.bytes <+: socket.arrivals.flatten ∧
      ∀ index : Nat, (index : Int) < batch.res →
        ∃ frame msg, frames[index]? = some frame ∧
          batch.msgv[index]? = some msg ∧
          SetFrom batch.memory index msg frame

/-! ## The end of the stream -/

/-- `datlen` of the header at the beginning of a stream. -/
def datlenOf (stream : List UInt8) : Nat :=
  ntohs (stream.getD 0 0) (stream.getD 1 0)

/-- `hdrlen` of the header at the beginning of a stream. -/
def hdrlenOf (stream : List UInt8) : Nat := (stream.getD 2 0).toNat

/-- What is missing from a count when the end of the stream is added to it. -/
def missing : Stop → Nat
  | .eof => 0
  | .failed => 1
  | .timeout => 2

/-- The header at the beginning of a stream passes the receiver's checks. -/
def Accepted (stream : List UInt8) : Prop :=
  5 ≤ hdrlenOf stream ∧
    datlenOf stream ≤ udpBufSize - (hdrlenOf stream - 3)

instance (stream : List UInt8) : Decidable (Accepted stream) :=
  inferInstanceAs (Decidable (_ ∧ _))

/-- How much follows the five header bytes of the frame at the beginning of a
stream. -/
def bodySize (stream : List UInt8) : Nat :=
  hdrlenOf stream - 5 + datlenOf stream

/-- A read that does not block has to be given up for now. -/
def Idle (nonblock : Bool) (arrivals : Arrivals UInt8) : Prop :=
  nonblock = true ∧ arrivals.head? = some []

instance (nonblock : Bool) (arrivals : Arrivals UInt8) :
    Decidable (Idle nonblock arrivals) :=
  inferInstanceAs (Decidable (_ ∧ _))

/-- The stream ends inside the first header, and what arrived of it counts for
more than the reason of the end takes away. -/
def EndsInHeader (stop : Stop) (arrivals : Arrivals UInt8) : Prop :=
  arrivals.flatten ≠ [] ∧
    (((Arrivals.settle arrivals).headD []).length < arrivals.flatten.length ∨
      missing stop < arrivals.flatten.length)

/-- Over the next `num` frames, with `done` complete ones before: the stream
ends inside the header of the very first frame, or ends inside the body of a
frame after more body bytes than there are complete frames.  A moment without
data before a frame when the receiver does not block, and a frame it rejects,
end the walk. -/
def EndsInFrame (nonblock : Bool) (stop : Stop) :
    Nat → Nat → Arrivals UInt8 → Prop
  | 0, _, _ => False
  | num + 1, done, arrivals =>
      if Idle nonblock arrivals then
        False
      else if arrivals.flatten.length < 5 then
        done = 0 ∧ EndsInHeader stop arrivals
      else if ¬ Accepted arrivals.flatten then
        False
      else if arrivals.flatten.length < 5 + bodySize arrivals.flatten then
        done < arrivals.flatten.length - 5
      else
        EndsInFrame nonblock stop num (done + 1)
          (Arrivals.consume (bodySize arrivals.flatten)
            (Arrivals.consume 5 arrivals))

/-! ## Reading one header -/

theorem Stop.code_eq_neg_missing (stop : Stop) :
    stop.code = -(missing stop : Int) := by
  cases stop <;> rfl

/-- A first read that does not wait for the whole header takes one piece. -/
theorem recv_piece (nonblock : Bool) (stop : Stop) :
    ∀ (arrivals : Arrivals UInt8) (errno : Errno),
      ¬ Idle nonblock arrivals →
      ∃ errnoLeft, match Arrivals.settle arrivals with
        | [] =>
            (recvLoop ⟨nonblock, false⟩ stop 5 arrivals [] errno).res ≤ 0
        | piece :: rest =>
            recvLoop ⟨nonblock, false⟩ stop 5 arrivals [] errno =
              ⟨(piece.take 5).length, piece.take 5,
                ⟨Arrivals.putBack (piece.drop 5) rest, stop, errnoLeft⟩⟩ := by
  intro arrivals
  induction arrivals with
  | nil =>
      intro errno _
      refine ⟨errno, ?_⟩
      cases stop <;> cases nonblock <;>
        simp [Arrivals.settle, recvLoop, leave, sizeOr]
  | cons piece arrivals inductionHypothesis =>
      intro errno ready
      cases piece with
      | nil =>
          have blocking : nonblock = false := by simpa [Idle] using ready
          subst blocking
          exact inductionHypothesis .again (by simp [Idle])
      | cons byte piece => exact ⟨errno, rfl⟩

/-- The header read, where it finds nothing, uses up the piece without data. -/
theorem recvHead_idle_eq {nonblock : Bool} {socket : Socket}
    (idle : Idle nonblock socket.arrivals) :
    recvHead nonblock socket =
      ⟨-1, [], ⟨socket.arrivals.tail, socket.stop, .again⟩⟩ := by
  obtain ⟨nonblocking, noData⟩ := idle
  cases arrivalsEq : socket.arrivals with
  | nil =>
      rw [arrivalsEq] at noData
      cases noData
  | cons piece arrivals =>
      rw [arrivalsEq] at noData
      cases noData
      simp [recvHead, recv, arrivalsEq, recvLoop, leave, nonblocking]

theorem recvHead_idle {nonblock : Bool} {socket : Socket}
    (idle : Idle nonblock socket.arrivals) :
    (recvHead nonblock socket).res = -1 := by
  rw [recvHead_idle_eq idle]

/-- The header is read in full whenever the stream has five more bytes. -/
theorem recvHead_complete {nonblock : Bool} {socket : Socket}
    (ready : ¬ Idle nonblock socket.arrivals)
    (complete : 5 ≤ socket.arrivals.flatten.length) :
    (recvHead nonblock socket).res = 5 ∧
      (recvHead nonblock socket).bytes = socket.arrivals.flatten.take 5 ∧
      (recvHead nonblock socket).socket.arrivals =
        Arrivals.consume 5 socket.arrivals ∧
      (recvHead nonblock socket).socket.stop = socket.stop := by
  obtain ⟨errnoLeft, first⟩ :=
    recv_piece nonblock socket.stop socket.arrivals socket.errno ready
  rw [← Arrivals.consume_settle, ← Arrivals.flatten_settle]
  rw [← Arrivals.flatten_settle] at complete
  cases settled : Arrivals.settle socket.arrivals with
  | nil =>
      rw [settled] at complete
      cases complete
  | cons piece rest =>
      have nonempty : piece ≠ [] := Arrivals.head_settle_ne_nil settled
      rw [settled] at first complete
      simp only [List.flatten_cons, List.length_append] at complete
      unfold recvHead recv
      rw [first]
      cases piece with
      | nil => exact absurd rfl nonempty
      | cons byte piece =>
          by_cases whole : 5 ≤ (byte :: piece).length
          · have taken : ((byte :: piece).take 5).length = 5 := by
              rw [List.length_take]
              exact Nat.min_eq_left whole
            have notLess : ¬ (byte :: piece).length < 5 := Nat.not_lt.mpr whole
            simp only [taken, Arrivals.consume, if_neg notLess,
              List.flatten_cons, List.take_append_of_le_length whole]
            simp
          · have short : (byte :: piece).length < 5 := Nat.lt_of_not_le whole
            have taken : (byte :: piece).take 5 = byte :: piece :=
              List.take_of_length_le (Nat.le_of_lt short)
            have positive : 0 < (byte :: piece).length := Nat.succ_pos _
            have condition : (0 : Int) < ((byte :: piece).length : Nat) ∧
                (((byte :: piece).length : Nat) : Int) < 5 := by omega
            have untouched :
                Arrivals.putBack ((byte :: piece).drop 5) rest = rest := by
              rw [List.drop_eq_nil_of_le (Nat.le_of_lt short)]
              rfl
            have tail := recv_waitAll (5 - (byte :: piece).length)
              ⟨rest, socket.stop, errnoLeft⟩
            obtain ⟨bytes, arrivals, stop, res⟩ := tail
            have more : 5 - (byte :: piece).length ≤ rest.flatten.length := by
              omega
            have nonemptyRest : rest.flatten ≠ [] := by
              intro empty
              rw [empty] at more
              simp only [List.length_nil] at more
              omega
            simp only [if_neg nonemptyRest, List.length_take,
              Nat.min_eq_left more] at res
            simp only [taken, if_pos condition, untouched, Int.toNat_natCast]
            rw [recv] at bytes arrivals stop res
            simp only at bytes arrivals stop res
            refine ⟨?_, ?_, ?_, ?_⟩
            · rw [res]
              omega
            · rw [bytes, List.flatten_cons, List.take_append, taken]
            · rw [arrivals, Arrivals.consume, if_pos short]
            · rw [stop]

/-- A header the stream does not complete is not taken for one, and what the
two reads return is positive exactly when some of it counts. -/
theorem recvHead_short {nonblock : Bool} {socket : Socket}
    (ready : ¬ Idle nonblock socket.arrivals)
    (short : socket.arrivals.flatten.length < 5) :
    (recvHead nonblock socket).res < 5 ∧
      (0 < (recvHead nonblock socket).res ↔
        EndsInHeader socket.stop socket.arrivals) := by
  obtain ⟨errnoLeft, first⟩ :=
    recv_piece nonblock socket.stop socket.arrivals socket.errno ready
  unfold EndsInHeader
  rw [← Arrivals.flatten_settle]
  rw [← Arrivals.flatten_settle] at short
  cases settled : Arrivals.settle socket.arrivals with
  | nil =>
      rw [settled] at first
      have notPositive : ¬ 0 < (recv ⟨nonblock, false⟩ 5 socket).res := by
        exact Int.not_lt.mpr first
      have head : recvHead nonblock socket = recv ⟨nonblock, false⟩ 5 socket :=
        if_neg fun condition => notPositive condition.1
      rw [head]
      simp only [List.flatten_nil, ne_eq, not_true_eq_false, false_and,
        iff_false]
      exact ⟨by omega, notPositive⟩
  | cons piece rest =>
      have nonempty : piece ≠ [] := Arrivals.head_settle_ne_nil settled
      rw [settled] at first short
      simp only [List.flatten_cons, List.length_append] at short
      have positive : 0 < piece.length := List.length_pos_of_ne_nil nonempty
      have taken : piece.take 5 = piece := List.take_of_length_le (by omega)
      have untouched : Arrivals.putBack (piece.drop 5) rest = rest := by
        rw [List.drop_eq_nil_of_le (by omega)]
        rfl
      simp only [taken, untouched] at first
      have condition : (0 : Int) < (piece.length : Nat) ∧
          ((piece.length : Nat) : Int) < 5 := by omega
      unfold recvHead
      rw [recv, first]
      simp only [if_pos condition, Int.toNat_natCast]
      rw [(recv_waitAll (5 - piece.length)
        ⟨rest, socket.stop, errnoLeft⟩).2.2.2]
      have streamNonempty : piece ++ rest.flatten ≠ [] :=
        List.append_ne_nil_of_left_ne_nil nonempty _
      simp only [List.flatten_cons, List.headD_cons, List.length_append]
      by_cases ended : rest.flatten = []
      · have noMissing : ((missing socket.stop : Nat) : Int) ≥ 0 :=
          Int.natCast_nonneg _
        rw [if_pos ended, Stop.code_eq_neg_missing, ended]
        simp only [List.append_nil, List.length_nil, Nat.add_zero,
          Nat.lt_irrefl, false_or]
        constructor
        · omega
        · constructor
          · intro counts
            exact ⟨nonempty, by omega⟩
          · rintro ⟨_, counts⟩
            omega
      · have restPositive : 0 < rest.flatten.length :=
          List.length_pos_of_ne_nil ended
        have all : rest.flatten.take (5 - piece.length) = rest.flatten :=
          List.take_of_length_le (by omega)
        rw [if_neg ended, all]
        constructor
        · omega
        · constructor
          · intro _
            exact ⟨streamNonempty, .inl (by omega)⟩
          · intro _
            omega

/-! ## Storing one frame -/

/-- The two buffers of a frame's body are one region behind the two bytes that
are stored last. -/
theorem cells_body (base addrlen datlen : Nat) (enough : 2 ≤ addrlen) :
    cells [{ base := base + 2, len := addrlen - 2 },
      { base := base + addrlen, len := datlen }] =
      List.range' (base + 2) (addrlen - 2 + datlen) := by
  have meets : base + addrlen = base + 2 + (addrlen - 2) := by omega
  rw [meets, cells_cons, cells_cons, cells_nil, List.append_nil, Iovec.cells,
    Iovec.cells, List.range'_append_1]

theorem body_untouched {memory : Nat → UInt8} {base addrlen datlen : Nat}
    {bytes : List UInt8} {address : Nat} (enough : 2 ≤ addrlen)
    (below : address < base) :
    scatter memory [{ base := base + 2, len := addrlen - 2 },
      { base := base + addrlen, len := datlen }] bytes address =
      memory address := by
  rw [scatter, cells_body base addrlen datlen enough]
  apply storeAt_of_notMem
  rw [List.mem_range'_1]
  omega

/-- After the body and the two leading address bytes are stored, the region of
the frame holds them in stream order. -/
theorem map_frame_stored {memory : Nat → UInt8} {base size : Nat}
    {leading bytes : List UInt8} (two : leading.length = 2)
    (sizes : bytes.length = size) :
    (List.range' base (2 + size)).map
        (storeAt (storeAt memory (List.range' (base + 2) size) bytes)
          [base, base + 1] leading) =
      leading ++ bytes := by
  obtain ⟨atype, domainLen, rfl⟩ := List.length_eq_two.mp two
  have region : List.range' base (2 + size) =
      base :: (base + 1) :: List.range' (base + 2) size := by
    rw [Nat.add_comm 2 size, List.range'_succ, List.range'_succ]
  have behind : (List.range' (base + 2) size).map
      (storeAt (storeAt memory (List.range' (base + 2) size) bytes)
        [base, base + 1] [atype, domainLen]) = bytes := by
    have stored :
        ((List.range' (base + 2) size).take bytes.length).map
          (storeAt memory (List.range' (base + 2) size) bytes) = bytes :=
      map_storeAt List.nodup_range' (by simp [sizes])
    rw [List.take_of_length_le (by simp [sizes])] at stored
    conv_rhs => rw [← stored]
    apply List.map_congr_left
    intro address member
    rw [List.mem_range'_1] at member
    apply storeAt_of_notMem
    simp only [List.mem_cons, List.not_mem_nil, or_false]
    omega
  rw [region, List.map_cons, List.map_cons, behind]
  simp [storeAt]

/-- A stored frame and the pointers into it are what `SetFrom` asks for. -/
theorem setFrom_of_region {memory : Nat → UInt8} {index : Nat} {frame : Frame}
    (region : (List.range' (slot index).buf
        (frame.addr.length + frame.data.length)).map memory =
      frame.addr ++ frame.data) :
    SetFrom memory index
      { addr := .cell (slot index).buf
        buf := (slot index).buf + frame.addr.length
        len := frame.data.length } frame := by
  rw [← List.range'_append_1, List.map_append] at region
  have parts := List.append_inj region (by simp)
  exact ⟨rfl, rfl, rfl, parts.1, parts.2⟩

/-- The body and the leading address bytes of a frame, stored in a message's
buffer, are what the message then points to. -/
theorem setFrom_stored {memory : Nat → UInt8} {index hdrlen datlen : Nat}
    {leading body : List UInt8} {frame : Frame} (minimal : 5 ≤ hdrlen)
    (addrLength : frame.addr.length = hdrlen - 3)
    (dataLength : frame.data.length = datlen)
    (parts : frame.addr ++ frame.data = leading ++ body)
    (two : leading.length = 2) :
    SetFrom
      (storeAt
        (scatter memory
          [{ base := (slot index).buf + 2, len := hdrlen - 3 - 2 },
            { base := (slot index).buf + (hdrlen - 3), len := datlen }] body)
        [(slot index).buf, (slot index).buf + 1] leading)
      index
      { addr := .cell (slot index).buf
        buf := (slot index).buf + (hdrlen - 3)
        len := datlen } frame := by
  have lengths := congrArg List.length parts
  simp only [List.length_append] at lengths
  rw [← addrLength, ← dataLength]
  apply setFrom_of_region
  have bodyLength : body.length = frame.addr.length - 2 + frame.data.length := by
    omega
  have region : frame.addr.length + frame.data.length =
      2 + (frame.addr.length - 2 + frame.data.length) := by omega
  rw [parts, scatter, cells_body _ _ _ (by omega), region]
  exact map_frame_stored two bodyLength

/-- Later stores leave a frame alone that lies before them. -/
theorem SetFrom.of_agree {memory later : Nat → UInt8} {index : Nat}
    {msg : HevSocks5UDPMsg} {frame : Frame}
    (holds : SetFrom memory index msg frame)
    (fits : frame.addr.length + frame.data.length ≤ udpBufSize)
    (agree : ∀ address, address < udpBufSize * (index + 1) →
      later address = memory address) :
    SetFrom later index msg frame := by
  have slotEnd : udpBufSize * (index + 1) = (slot index).buf + udpBufSize := by
    simp only [slot, Nat.mul_succ]
  have addrBytes := holds.addrBytes
  have dataBytes := holds.dataBytes
  have buf := holds.buf
  have len := holds.len
  refine ⟨holds.addr, buf, len, ?_, ?_⟩
  · conv_rhs => rw [← addrBytes]
    apply List.map_congr_left
    intro address member
    rw [List.mem_range'_1] at member
    exact agree address (by omega)
  · conv_rhs => rw [← dataBytes]
    apply List.map_congr_left
    intro address member
    rw [List.mem_range'_1] at member
    exact agree address (by omega)

/-- A stream that covers what its header announces begins with a frame. -/
theorem exists_frame {stream : List UInt8} {hdrlen datlen : Nat}
    (hdrlenEq : hdrlenOf stream = hdrlen) (datlenEq : datlenOf stream = datlen)
    (minimal : 5 ≤ hdrlen) (covered : hdrlen + datlen ≤ stream.length) :
    ∃ frame : Frame, frame.addr.length = hdrlen - 3 ∧
      frame.data.length = datlen ∧
      frame.bytes = stream.take (hdrlen + datlen) ∧
      frame.addr ++ frame.data =
        (stream.drop 3).take 2 ++
          (stream.drop 5).take (hdrlen - 5 + datlen) := by
  rcases stream with _ | ⟨high, _ | ⟨low, _ | ⟨size, rest⟩⟩⟩
  case nil | cons.nil | cons.cons.nil =>
    simp only [List.length_nil, List.length_cons] at covered
    omega
  case cons.cons.cons =>
    have hdrlenIs : size.toNat = hdrlen := hdrlenEq
    have datlenIs : high.toNat * 256 + low.toNat = datlen := datlenEq
    have highBound : high.toNat < 256 := high.toNat_lt
    have lowBound : low.toNat < 256 := low.toNat_lt
    have sizeBound : size.toNat < 256 := size.toNat_lt
    simp only [List.length_cons] at covered
    obtain ⟨addr, addrEq⟩ : ∃ addr, rest.take (hdrlen - 3) = addr := ⟨_, rfl⟩
    obtain ⟨data, dataEq⟩ : ∃ data,
        (rest.drop (hdrlen - 3)).take datlen = data := ⟨_, rfl⟩
    have addrLength : addr.length = hdrlen - 3 := by
      rw [← addrEq, List.length_take]
      omega
    have dataLength : data.length = datlen := by
      rw [← dataEq, List.length_take, List.length_drop]
      omega
    refine ⟨⟨addr, data, by omega, by omega, by omega⟩, addrLength,
      dataLength, ?_, ?_⟩
    · have highByte : UInt8.ofNat (data.length / 256) = high := by
        apply UInt8.toNat_inj.mp
        rw [UInt8.toNat_ofNat']
        omega
      have lowByte : UInt8.ofNat (data.length % 256) = low := by
        apply UInt8.toNat_inj.mp
        rw [UInt8.toNat_ofNat']
        omega
      have sizeByte : UInt8.ofNat (addr.length + 3) = size := by
        apply UInt8.toNat_inj.mp
        rw [UInt8.toNat_ofNat']
        omega
      have total : hdrlen + datlen = hdrlen - 3 + datlen + 3 := by omega
      simp only [Frame.bytes, highByte, lowByte, sizeByte]
      rw [total, List.take_succ_cons, List.take_succ_cons, List.take_succ_cons,
        List.take_add, addrEq, dataEq]
      rfl
    · have total : hdrlen - 3 + datlen = 2 + (hdrlen - 5 + datlen) := by omega
      change addr ++ data = _
      rw [← addrEq, ← dataEq, ← List.take_add, total, List.take_add]
      rfl

/-! ## The receive loop -/

/-- The part of the caller's array from message `done` on. -/
def slotsFrom (done num : Nat) : List HevSocks5UDPMsg :=
  (List.range' done num).map slot

theorem slotsFrom_succ (done num : Nat) :
    slotsFrom done (num + 1) = slot done :: slotsFrom (done + 1) num := by
  rw [slotsFrom, List.range'_succ, List.map_cons]
  rfl

/-- What the loop leaves when it starts at message `done` with `num` to go:
the leading entries are set from `frames`, the others are as the caller
prepared them, and the returned value counts more than the entries set only
where the stream ends inside a frame. -/
structure LoopOutcome (nonblock : Bool) (num done : Nat)
    (memory : Nat → UInt8) (socket : Socket) (batch : Recvmmsg)
    (frames : List Frame) : Prop where
  stream : frames.flatMap Frame.bytes <+: socket.arrivals.flatten
  size : frames.length ≤ num
  set : ∀ index frame, frames[index]? = some frame →
    ∃ msg, batch.msgv[index]? = some msg ∧
      SetFrom batch.memory (done + index) msg frame
  unset : ∀ index, frames.length ≤ index → index < num →
    batch.msgv[index]? = some (slot (done + index))
  below : ∀ address, address < udpBufSize * done →
    batch.memory address = memory address
  result : batch.res ≤ done + frames.length ↔
    ¬ EndsInFrame nonblock socket.stop num done socket.arrivals

theorem LoopOutcome.exit {nonblock : Bool} {num done : Nat}
    {memory left : Nat → UInt8} {socket socketLeft : Socket} {res : Int}
    (below : ∀ address, address < udpBufSize * done →
      left address = memory address)
    (result : res ≤ done ↔
      ¬ EndsInFrame nonblock socket.stop num done socket.arrivals) :
    LoopOutcome nonblock num done memory socket
      ⟨res, slotsFrom done num, left, socketLeft⟩ [] where
  stream := List.nil_prefix
  size := Nat.zero_le num
  set := by
    intro index frame member
    cases member
  unset := by
    intro index _ inside
    rw [slotsFrom, List.getElem?_map, List.getElem?_range' inside,
      Option.map_some, Nat.one_mul]
  below := below
  result := result

/-- With nothing left after a complete frame the stream does not end inside
one. -/
theorem not_endsInFrame_of_empty {nonblock : Bool} {stop : Stop}
    {num done : Nat} {arrivals : Arrivals UInt8}
    (empty : arrivals.flatten = []) :
    ¬ EndsInFrame nonblock stop num (done + 1) arrivals := by
  cases num with
  | zero => exact id
  | succ num =>
      unfold EndsInFrame
      simp [empty]

theorem sizeSub_slot {index addrlen : Nat} (bound : addrlen < 256) :
    sizeSub (slot index).len addrlen = udpBufSize - addrlen := by
  simp only [sizeSub, slot, udpBufSize]
  omega

/-- The round ends with the header read. -/
theorem recvmmsgTcpLoop_head {nonblock : Bool} {msg : HevSocks5UDPMsg}
    {msgv : List HevSocks5UDPMsg} {rlen : Nat} {memory : Nat → UInt8}
    {socket : Socket} (incomplete : (recvHead nonblock socket).res ≠ 5) :
    recvmmsgTcpLoop nonblock (msg :: msgv) rlen memory socket =
      ⟨if 0 < rlen then rlen else (recvHead nonblock socket).res, msg :: msgv,
        memory, (recvHead nonblock socket).socket⟩ := by
  unfold recvmmsgTcpLoop
  rw [if_pos incomplete]
  split <;> rfl

theorem header_fields {bytes stream : List UInt8}
    (taken : bytes = stream.take 5) :
    ntohs (bytes.getD 0 0) (bytes.getD 1 0) = datlenOf stream ∧
      (bytes.getD 2 0).toNat = hdrlenOf stream := by
  simp [taken, datlenOf, hdrlenOf, List.getD_eq_getElem?_getD]

theorem header_addr {bytes stream : List UInt8}
    (taken : bytes = stream.take 5) (long : 5 ≤ stream.length) :
    [bytes.getD 3 0, bytes.getD 4 0] = (stream.drop 3).take 2 := by
  subst taken
  rcases stream with _ | ⟨_, _ | ⟨_, _ | ⟨_, _ | ⟨_, _ | ⟨_, rest⟩⟩⟩⟩⟩
  case cons.cons.cons.cons.cons => rfl
  all_goals
    simp only [List.length_cons, List.length_nil] at long
    omega

/-- The round ends with the header rejected, for a message over any buffer. -/
theorem recvmmsgTcpLoop_refuse {nonblock : Bool} {msg : HevSocks5UDPMsg}
    {rlen : Nat} {msgv : List HevSocks5UDPMsg} {memory : Nat → UInt8}
    {socket : Socket}
    (complete : (recvHead nonblock socket).res = 5)
    (taken : (recvHead nonblock socket).bytes = socket.arrivals.flatten.take 5)
    (refused : hdrlenOf socket.arrivals.flatten < 5 ∨
      sizeSub msg.len (hdrlenOf socket.arrivals.flatten - 3) <
        datlenOf socket.arrivals.flatten) :
    recvmmsgTcpLoop nonblock (msg :: msgv) rlen memory socket =
      ⟨-1, msg :: msgv, memory, (recvHead nonblock socket).socket⟩ := by
  obtain ⟨datlen, hdrlen⟩ := header_fields taken
  unfold recvmmsgTcpLoop
  rw [if_neg (not_not.mpr complete)]
  simp only [datlen, hdrlen]
  by_cases small : hdrlenOf socket.arrivals.flatten < 5
  · rw [if_pos small]
  · rw [if_neg small, if_pos (refused.resolve_left small)]

theorem recvmmsgTcpLoop_reject {nonblock : Bool} {done rlen : Nat}
    {msgv : List HevSocks5UDPMsg} {memory : Nat → UInt8} {socket : Socket}
    (complete : (recvHead nonblock socket).res = 5)
    (taken : (recvHead nonblock socket).bytes = socket.arrivals.flatten.take 5)
    (rejected : ¬ Accepted socket.arrivals.flatten) :
    recvmmsgTcpLoop nonblock (slot done :: msgv) rlen memory socket =
      ⟨-1, slot done :: msgv, memory, (recvHead nonblock socket).socket⟩ := by
  have hdrlenBound : hdrlenOf socket.arrivals.flatten < 256 := UInt8.toNat_lt _
  apply recvmmsgTcpLoop_refuse complete taken
  rw [sizeSub_slot (by omega)]
  unfold Accepted at rejected
  omega

/-- The round goes on to the body, for a message over any buffer. -/
theorem recvmmsgTcpLoop_accept {nonblock : Bool} {msg : HevSocks5UDPMsg}
    {rlen : Nat} {msgv : List HevSocks5UDPMsg} {memory : Nat → UInt8}
    {socket : Socket}
    (complete : (recvHead nonblock socket).res = 5)
    (taken : (recvHead nonblock socket).bytes = socket.arrivals.flatten.take 5)
    (long : 5 ≤ socket.arrivals.flatten.length)
    (minimal : 5 ≤ hdrlenOf socket.arrivals.flatten)
    (fits : datlenOf socket.arrivals.flatten ≤
      sizeSub msg.len (hdrlenOf socket.arrivals.flatten - 3)) :
    let hdrlen := hdrlenOf socket.arrivals.flatten
    let datlen := datlenOf socket.arrivals.flatten
    let body := recv msgWaitAll (bodySize socket.arrivals.flatten)
      (recvHead nonblock socket).socket
    let stored := scatter memory
      [{ base := msg.buf + 2, len := hdrlen - 3 - 2 },
        { base := msg.buf + (hdrlen - 3), len := datlen }] body.bytes
    let rest := recvmmsgTcpLoop nonblock msgv (rlen + 1)
      (storeAt stored [msg.buf, msg.buf + 1]
        ((socket.arrivals.flatten.drop 3).take 2)) body.socket
    recvmmsgTcpLoop nonblock (msg :: msgv) rlen memory socket =
      if body.res ≠ (bodySize socket.arrivals.flatten : Int) then
        ⟨body.res, msg :: msgv, stored, body.socket⟩
      else
        { rest with
          msgv :=
            { addr := .cell msg.buf
              buf := msg.buf + (hdrlen - 3)
              len := datlen } :: rest.msgv } := by
  obtain ⟨datlen, hdrlen⟩ := header_fields taken
  have size : hdrlenOf socket.arrivals.flatten - 3 - 2 +
      datlenOf socket.arrivals.flatten = bodySize socket.arrivals.flatten := by
    unfold bodySize
    omega
  intro hdrlenIs datlenIs body stored rest
  conv_lhs => unfold recvmmsgTcpLoop
  rw [if_neg (not_not.mpr complete)]
  simp only [datlen, hdrlen, header_addr taken long]
  rw [if_neg (Nat.not_lt.mpr minimal), if_neg (Nat.not_lt.mpr fits)]
  simp only [recvmsg_eq_recv, total_cons, total_nil, Nat.add_zero, size]
  rfl

theorem recvmmsgTcpLoop_body {nonblock : Bool} {done rlen : Nat}
    {msgv : List HevSocks5UDPMsg} {memory : Nat → UInt8} {socket : Socket}
    (complete : (recvHead nonblock socket).res = 5)
    (taken : (recvHead nonblock socket).bytes = socket.arrivals.flatten.take 5)
    (long : 5 ≤ socket.arrivals.flatten.length)
    (accepted : Accepted socket.arrivals.flatten) :
    let hdrlen := hdrlenOf socket.arrivals.flatten
    let datlen := datlenOf socket.arrivals.flatten
    let body := recv msgWaitAll (bodySize socket.arrivals.flatten)
      (recvHead nonblock socket).socket
    let stored := scatter memory
      [{ base := (slot done).buf + 2, len := hdrlen - 3 - 2 },
        { base := (slot done).buf + (hdrlen - 3), len := datlen }] body.bytes
    let rest := recvmmsgTcpLoop nonblock msgv (rlen + 1)
      (storeAt stored [(slot done).buf, (slot done).buf + 1]
        ((socket.arrivals.flatten.drop 3).take 2)) body.socket
    recvmmsgTcpLoop nonblock (slot done :: msgv) rlen memory socket =
      if body.res ≠ (bodySize socket.arrivals.flatten : Int) then
        ⟨body.res, slot done :: msgv, stored, body.socket⟩
      else
        { rest with
          msgv :=
            { addr := .cell (slot done).buf
              buf := (slot done).buf + (hdrlen - 3)
              len := datlen } :: rest.msgv } := by
  have hdrlenBound : hdrlenOf socket.arrivals.flatten < 256 := UInt8.toNat_lt _
  obtain ⟨minimal, fits⟩ := accepted
  apply recvmmsgTcpLoop_accept complete taken long minimal
  rw [sizeSub_slot (by omega)]
  exact fits

/-- One more frame at the front of the outcome of the rest. -/
theorem LoopOutcome.cons {nonblock : Bool} {num done : Nat}
    {memory stored : Nat → UInt8} {socket socketLeft : Socket}
    {batch : Recvmmsg} {frames : List Frame} {frame : Frame}
    {msg : HevSocks5UDPMsg}
    (rest : LoopOutcome nonblock num (done + 1) stored socketLeft batch frames)
    (stream : socket.arrivals.flatten =
      frame.bytes ++ socketLeft.arrivals.flatten)
    (fits : frame.addr.length + frame.data.length ≤ udpBufSize)
    (holds : SetFrom stored done msg frame)
    (below : ∀ address, address < udpBufSize * done →
      stored address = memory address)
    (ends : EndsInFrame nonblock socket.stop (num + 1) done socket.arrivals ↔
      EndsInFrame nonblock socketLeft.stop num (done + 1)
        socketLeft.arrivals) :
    LoopOutcome nonblock (num + 1) done memory socket
      { batch with msgv := msg :: batch.msgv } (frame :: frames) where
  stream := by
    rw [stream, List.flatMap_cons]
    exact (List.prefix_append_right_inj _).mpr rest.stream
  size := Nat.succ_le_succ rest.size
  set := by
    intro index found member
    cases index with
    | zero =>
        cases member
        exact ⟨msg, rfl, holds.of_agree fits rest.below⟩
    | succ index =>
        rcases rest.set index found member with ⟨entry, entryEq, entryHolds⟩
        refine ⟨entry, entryEq, ?_⟩
        rwa [Nat.add_assoc, Nat.add_comm 1] at entryHolds
  unset := by
    intro index past inside
    cases index with
    | zero => cases past
    | succ index =>
        have entry := rest.unset index (Nat.le_of_succ_le_succ past)
          (Nat.lt_of_succ_lt_succ inside)
        rwa [Nat.add_assoc, Nat.add_comm 1] at entry
  below := by
    intro address before
    have beforeNext : address < udpBufSize * (done + 1) := by
      rw [Nat.mul_succ]
      omega
    rw [rest.below address beforeNext]
    exact below address before
  result := by
    have result := rest.result
    rw [ends, ← result, List.length_cons]
    push_cast
    constructor <;>
      intro bound <;>
      omega

/-- A body read that returns what was asked for is complete. -/
theorem body_complete {tail : List UInt8} {size : Nat} {stop : Stop}
    {res : Int}
    (resEq : res = if tail = [] then stop.code else (tail.take size).length)
    (full : res = size) : size ≤ tail.length := by
  have nonpositive := stop.code_nonpos
  by_cases empty : tail = []
  · rw [if_pos empty] at resEq
    omega
  · rw [if_neg empty, List.length_take] at resEq
    omega

/-- A body read that returns anything else got all that was left, or nothing
was asked for and nothing was left. -/
theorem body_short {tail : List UInt8} {size : Nat} {stop : Stop}
    {res : Int}
    (resEq : res = if tail = [] then stop.code else (tail.take size).length)
    (partially : res ≠ size) (done : Nat) :
    tail.length < size ∧ (res ≤ done ↔ ¬ done < tail.length) ∨
      tail = [] ∧ size = 0 ∧ res ≤ done := by
  have nonpositive := stop.code_nonpos
  by_cases empty : tail = []
  · rw [if_pos empty] at resEq
    rw [empty, List.length_nil]
    by_cases none : size = 0
    · exact .inr ⟨rfl, none, by omega⟩
    · exact .inl ⟨Nat.pos_of_ne_zero none, by omega⟩
  · rw [if_neg empty, List.length_take] at resEq
    exact .inl (by omega)

/-- A non-blocking round that finds nothing leaves the batch as it is. -/
theorem LoopOutcome.idle {nonblock : Bool} {num done : Nat}
    {memory : Nat → UInt8} {socket : Socket}
    (idle : Idle nonblock socket.arrivals) :
    LoopOutcome nonblock (num + 1) done memory socket
      (recvmmsgTcpLoop nonblock (slotsFrom done (num + 1)) done memory socket)
      [] := by
  have returned := recvHead_idle idle
  rw [slotsFrom_succ, recvmmsgTcpLoop_head (by rw [returned]; decide),
    ← slotsFrom_succ, returned]
  refine .exit (fun _ _ => rfl) ?_
  have notEnds : ¬ EndsInFrame nonblock socket.stop (num + 1) done
      socket.arrivals := by
    unfold EndsInFrame
    rw [if_pos idle]
    exact id
  constructor
  · intro _
    exact notEnds
  · intro _
    split <;> omega

/-- A stream that ends inside the header leaves the batch as it is, and the
value returned is that of the header read if it was the first one. -/
theorem LoopOutcome.shortHeader {nonblock : Bool} {num done : Nat}
    {memory : Nat → UInt8} {socket : Socket}
    (busy : ¬ Idle nonblock socket.arrivals)
    (short : socket.arrivals.flatten.length < 5) :
    LoopOutcome nonblock (num + 1) done memory socket
      (recvmmsgTcpLoop nonblock (slotsFrom done (num + 1)) done memory socket)
      [] := by
  obtain ⟨notFull, counts⟩ := recvHead_short busy short
  rw [slotsFrom_succ, recvmmsgTcpLoop_head (by omega), ← slotsFrom_succ]
  refine .exit (fun _ _ => rfl) ?_
  unfold EndsInFrame
  rw [if_neg busy, if_pos short, ← counts]
  by_cases first : 0 < done
  · rw [if_pos first]
    omega
  · rw [if_neg first]
    omega

/-- A rejected header leaves the batch as it is and returns an error. -/
theorem LoopOutcome.rejected {nonblock : Bool} {num done : Nat}
    {memory : Nat → UInt8} {socket : Socket}
    (busy : ¬ Idle nonblock socket.arrivals)
    (long : 5 ≤ socket.arrivals.flatten.length)
    (rejected : ¬ Accepted socket.arrivals.flatten) :
    LoopOutcome nonblock (num + 1) done memory socket
      (recvmmsgTcpLoop nonblock (slotsFrom done (num + 1)) done memory socket)
      [] := by
  obtain ⟨complete, taken, _, _⟩ := recvHead_complete busy long
  rw [slotsFrom_succ, recvmmsgTcpLoop_reject complete taken rejected,
    ← slotsFrom_succ]
  refine .exit (fun _ _ => rfl) ?_
  unfold EndsInFrame
  rw [if_neg busy, if_neg (Nat.not_lt.mpr long), if_pos rejected]
  exact ⟨fun _ => id, fun _ => by omega⟩

/-- Behind an accepted header the stream ends inside this body, or inside a
later frame. -/
theorem endsInFrame_body {nonblock : Bool} (stop : Stop) (num done : Nat)
    {arrivals : Arrivals UInt8} (busy : ¬ Idle nonblock arrivals)
    (long : 5 ≤ arrivals.flatten.length) (accepted : Accepted arrivals.flatten) :
    EndsInFrame nonblock stop (num + 1) done arrivals ↔
      if arrivals.flatten.length < 5 + bodySize arrivals.flatten then
        done < arrivals.flatten.length - 5
      else
        EndsInFrame nonblock stop num (done + 1)
          (Arrivals.consume (bodySize arrivals.flatten)
            (Arrivals.consume 5 arrivals)) := by
  conv_lhs => unfold EndsInFrame
  rw [if_neg busy, if_neg (Nat.not_lt.mpr long), if_neg (not_not.mpr accepted)]

theorem recvmmsgTcpLoop_outcome (nonblock : Bool) :
    ∀ (num done : Nat) (memory : Nat → UInt8) (socket : Socket),
      ∃ frames, LoopOutcome nonblock num done memory socket
        (recvmmsgTcpLoop nonblock (slotsFrom done num) done memory socket)
        frames := by
  intro num
  induction num with
  | zero =>
      intro done memory socket
      refine ⟨[], .exit (fun _ _ => rfl) ?_⟩
      exact ⟨fun _ => id, fun _ => Int.le_refl _⟩
  | succ num inductionHypothesis =>
      intro done memory socket
      by_cases idle : Idle nonblock socket.arrivals
      · exact ⟨[], .idle idle⟩
      by_cases short : socket.arrivals.flatten.length < 5
      · exact ⟨[], .shortHeader idle short⟩
      have long : 5 ≤ socket.arrivals.flatten.length := Nat.le_of_not_lt short
      by_cases rejected : ¬ Accepted socket.arrivals.flatten
      · exact ⟨[], .rejected idle long rejected⟩
      have accepted := not_not.mp rejected
      have ends := endsInFrame_body socket.stop num done idle long accepted
      obtain ⟨minimal, fits⟩ := accepted
      obtain ⟨complete, taken, arrivals, stop⟩ := recvHead_complete idle long
      obtain ⟨bodyBytes, bodyArrivals, bodyStop, bodyRes⟩ :=
        recv_waitAll (bodySize socket.arrivals.flatten)
          (recvHead nonblock socket).socket
      rw [arrivals, Arrivals.flatten_consume] at bodyRes bodyBytes
      rw [arrivals] at bodyArrivals
      rw [stop] at bodyRes bodyStop
      have untouched : ∀ address, address < udpBufSize * done →
          scatter memory
            [{ base := (slot done).buf + 2,
               len := hdrlenOf socket.arrivals.flatten - 3 - 2 },
              { base := (slot done).buf + (hdrlenOf socket.arrivals.flatten - 3),
                len := datlenOf socket.arrivals.flatten }]
            (recv msgWaitAll (bodySize socket.arrivals.flatten)
              (recvHead nonblock socket).socket).bytes address =
            memory address := by
        intro address before
        exact body_untouched (by omega) before
      rw [slotsFrom_succ, recvmmsgTcpLoop_body complete taken long
        ⟨minimal, fits⟩]
      have tailLength : (socket.arrivals.flatten.drop 5).length =
          socket.arrivals.flatten.length - 5 := List.length_drop
      split
      case isTrue partially =>
        rw [← slotsFrom_succ]
        refine ⟨[], .exit untouched ?_⟩
        rw [ends]
        rcases body_short bodyRes partially done with
          ⟨cut, counted⟩ | ⟨nothing, none, returned⟩
        · rw [tailLength] at cut counted
          rw [if_pos (by omega)]
          exact counted
        · have covered : ¬ socket.arrivals.flatten.length <
              5 + bodySize socket.arrivals.flatten := by omega
          have ended : (Arrivals.consume (bodySize socket.arrivals.flatten)
              (Arrivals.consume 5 socket.arrivals)).flatten = [] := by
            rw [Arrivals.flatten_consume, Arrivals.flatten_consume, nothing,
              List.drop_nil]
          rw [if_neg covered]
          exact ⟨fun _ => not_endsInFrame_of_empty ended, fun _ => returned⟩
      case isFalse full =>
        rw [not_not] at full
        have covered := body_complete bodyRes full
        rw [tailLength] at covered
        obtain ⟨frame, addrLength, dataLength, bytes, parts⟩ :=
          exists_frame rfl rfl minimal
            (by unfold bodySize at covered; omega)
        have leading : ((socket.arrivals.flatten.drop 3).take 2).length = 2 := by
          rw [List.length_take, List.length_drop]
          omega
        have hdrlenBound : hdrlenOf socket.arrivals.flatten < udpBufSize :=
          Nat.lt_trans (UInt8.toNat_lt _) (by decide)
        have split : hdrlenOf socket.arrivals.flatten +
            datlenOf socket.arrivals.flatten =
            5 + bodySize socket.arrivals.flatten := by
          unfold bodySize
          omega
        obtain ⟨frames, rest⟩ := inductionHypothesis (done + 1)
          (storeAt
            (scatter memory
              [{ base := (slot done).buf + 2,
                 len := hdrlenOf socket.arrivals.flatten - 3 - 2 },
                { base := (slot done).buf +
                    (hdrlenOf socket.arrivals.flatten - 3),
                  len := datlenOf socket.arrivals.flatten }]
              (recv msgWaitAll (bodySize socket.arrivals.flatten)
                (recvHead nonblock socket).socket).bytes)
            [(slot done).buf, (slot done).buf + 1]
            ((socket.arrivals.flatten.drop 3).take 2))
          (recv msgWaitAll (bodySize socket.arrivals.flatten)
            (recvHead nonblock socket).socket).socket
        refine ⟨frame :: frames, rest.cons ?_ ?_ ?_ ?_ ?_⟩
        · rw [bodyArrivals, Arrivals.flatten_consume, Arrivals.flatten_consume,
            bytes, List.drop_drop, split, List.take_append_drop]
        · rw [addrLength, dataLength]
          omega
        · apply setFrom_stored minimal addrLength dataLength _ leading
          rw [parts, bodyBytes]
          rfl
        · intro address before
          rw [storeAt_of_notMem, untouched address before]
          simp only [List.mem_cons, List.not_mem_nil, or_false]
          have start : (slot done).buf = udpBufSize * done := rfl
          omega
        · rw [ends, if_neg (by omega), bodyStop, bodyArrivals]

/-! ## The batch and its consumer -/

/-- The returned value counts whole frames exactly when the stream does not
end inside one in a way that counts for more. -/
theorem returnsWholeFrames_iff (nonblock : Bool) (num : Nat)
    (memory : Nat → UInt8) (socket : Socket) :
    ReturnsWholeFrames nonblock num memory socket ↔
      ¬ EndsInFrame nonblock socket.stop num 0 socket.arrivals := by
  obtain ⟨frames, outcome⟩ :=
    recvmmsgTcpLoop_outcome nonblock num 0 memory socket
  rw [← outcome.result]
  have size := outcome.size
  constructor
  · rintro ⟨bounded, received, _, entries⟩
    by_contra more
    -- the first entry that was not set is among those counted
    have counted : ((frames.length : Nat) : Int) <
        (recvmmsgTcp nonblock (slots num) memory socket).res := by
      unfold recvmmsgTcp slots
      unfold slotsFrom at more
      omega
    rcases entries frames.length counted with ⟨frame, msg, _, entry, holds⟩
    have unset := outcome.unset frames.length (Nat.le_refl _) (by omega)
    have same : some msg = some (slot (0 + frames.length)) :=
      entry.symm.trans unset
    cases same
    cases holds.addr
  · intro counted
    refine ⟨?_, frames, outcome.stream, ?_⟩
    · unfold recvmmsgTcp slots
      unfold slotsFrom at counted
      omega
    · intro index below
      have inside : index < frames.length := by
        unfold recvmmsgTcp slots at below
        unfold slotsFrom at counted
        omega
      have frameEq := List.getElem?_eq_getElem inside
      rcases outcome.set index _ frameEq with ⟨msg, entry, holds⟩
      rw [Nat.zero_add] at holds
      exact ⟨_, msg, frameEq, entry, holds⟩

/-- The consumer's loop reads no entry that is missing or was never set, when
the entries it is sent over are there and set. -/
theorem SessionUdp.fwdBLoop_ok (self : SessionUdp) (sends : Nat → SendResult)
    (msgv : List HevSocks5UDPMsg) (memory : Nat → UInt8) :
    ∀ (left index : Nat) (sent : List Datagram),
      (∀ entry, index ≤ entry → entry < index + left →
        ∃ msg, msgv[entry]? = some msg ∧ msg.addr ≠ .indeterminate) →
      ∃ result, self.fwdBLoop sends msgv memory left index sent = .ok result := by
  intro left
  induction left with
  | zero =>
      intro index sent _
      exact ⟨_, rfl⟩
  | succ left inductionHypothesis =>
      intro index sent entries
      obtain ⟨msg, entry, set⟩ := entries index (Nat.le_refl _) (by omega)
      have later : ∀ sent, ∃ result,
          self.fwdBLoop sends msgv memory left (index + 1) sent =
            .ok result := by
        intro sent
        apply inductionHypothesis
        intro next past inside
        exact entries next (by omega) (by omega)
      unfold fwdBLoop
      rw [entry]
      simp only
      cases addr : msg.addr with
      | indeterminate => exact absurd addr set
      | null => exact later sent
      | cell address =>
          simp only
          split
          · exact later sent
          · cases self.source memory address with
            | none => exact ⟨_, rfl⟩
            | some source =>
                simp only
                cases sends index with
                | noBuffer => exact ⟨_, rfl⟩
                | refused => exact ⟨_, rfl⟩
                | sent => exact later _

/-- A batch of whole frames is consumed without a fault. -/
theorem SessionUdp.fwdB_ok {num : Nat} {memory : Nat → UInt8} {socket : Socket}
    (whole : ReturnsWholeFrames true num memory socket) (self : SessionUdp)
    (sends : Nat → SendResult) :
    ∃ result, self.fwdB sends num memory socket = .ok result := by
  obtain ⟨_, frames, _, entries⟩ := whole
  unfold fwdB
  simp only
  split
  · split <;> exact ⟨_, rfl⟩
  · apply fwdBLoop_ok
    intro index _ below
    obtain ⟨frame, msg, _, entry, holds⟩ := entries index (by omega)
    refine ⟨msg, entry, ?_⟩
    rw [holds.addr]
    exact Pointer.noConfusion

/-- For every stream and every way it is cut and ends: the receiver returns a
count of whole frames it put into the array, and its consumer then stays
inside the entries that were set, if and only if the stream does not end
inside a frame in one of the ways of `EndsInFrame`. -/
theorem recvmmsg_tcp_whole_frames_iff (nonblock : Bool) (num : Nat)
    (memory : Nat → UInt8) (socket : Socket) :
    (ReturnsWholeFrames nonblock num memory socket ∧
      (nonblock = true → ∀ (session : SessionUdp) (sends : Nat → SendResult),
        ∃ result, session.fwdB sends num memory socket = .ok result)) ↔
      ¬ EndsInFrame nonblock socket.stop num 0 socket.arrivals := by
  rw [← returnsWholeFrames_iff nonblock num memory socket]
  constructor
  · exact And.left
  · intro whole
    refine ⟨whole, ?_⟩
    intro nonblocking session sends
    subst nonblocking
    exact session.fwdB_ok whole sends

/-- A server that closes the connection twenty bytes into the body of the first
frame makes a batch of ten return twenty. -/
theorem recvmmsg_tcp_returns_byte_count :
    ¬ ∀ (nonblock : Bool) (num : Nat) (memory : Nat → UInt8)
      (socket : Socket), 1 ≤ num →
        ReturnsWholeFrames nonblock num memory socket ∧
          (nonblock = true → ∀ (session : SessionUdp)
            (sends : Nat → SendResult), ∃ result,
              session.fwdB sends num memory socket = .ok result) := by
  intro always
  have whole := (always true 10 (fun _ => 0)
    ⟨[[0, 100, 10, 1, 127] ++ List.replicate 20 0], .eof, .other⟩
    (by decide)).1.1
  have returned : (recvmmsgTcp true (slots 10) (fun _ => 0)
      ⟨[[0, 100, 10, 1, 127] ++ List.replicate 20 0], .eof, .other⟩).res =
      20 := by decide +kernel
  rw [returned] at whole
  revert whole
  decide

end ProxyVPN
