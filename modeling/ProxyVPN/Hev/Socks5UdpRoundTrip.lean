/-
Module: ProxyVPN.Hev.Socks5UdpRoundTrip
Purpose: Round trip of the UDP-in-TCP framing: what repeated calls of the
  receiver make of the stream the sender produced, however it is cut and
  whatever the batch sizes, and exactly which lists of messages come back.
Trusted boundary: none
Main exports: RecvCall, decode, Sendable, RoundTrips, decode_frames,
  round_trip_iff
-/
import ProxyVPN.Hev.Socks5UdpFrames
import ProxyVPN.Hev.Socks5UdpOutput

namespace ProxyVPN

open Scatter TaskIO

/-- One call of the receiver: its batch size, its last argument, and what the
buffer of its caller holds before. -/
structure RecvCall where
  num : Nat
  nonblock : Bool
  memory : Nat → UInt8

/-- Message `index` over one buffer of `size` bytes for each. -/
def buffer (size index : Nat) : HevSocks5UDPMsg :=
  { addr := .indeterminate
    buf := size * index
    len := size }

/-- The `num` messages from `done` on. -/
def buffers (size done num : Nat) : List HevSocks5UDPMsg :=
  (List.range' done num).map (buffer size)

/-- What a received message points to: the address, which reaches up to the
data, and the data. -/
def HevSocks5UDPMsg.contents (memory : Nat → UInt8) (msg : HevSocks5UDPMsg) :
    List UInt8 × List UInt8 :=
  match msg.addr with
  | .cell addr =>
      ((List.range' addr (msg.buf - addr)).map memory,
        (List.range' msg.buf msg.len).map memory)
  | _ => ([], [])

/-- Repeated calls of `hev_socks5_udp_recvmmsg_tcp`: the caller tries again
where there was nothing to read yet, and stops at any other value that is not
a count. -/
def decode (size : Nat) : List RecvCall → Socket →
    List (List UInt8 × List UInt8)
  | [], _ => []
  | call :: calls, socket =>
      let batch := recvmmsgTcp call.nonblock (buffers size 0 call.num)
        call.memory socket
      if batch.res ≤ 0 then
        if batch.res = -1 ∧ batch.socket.errno = .again then
          decode size calls batch.socket
        else
          []
      else
        (batch.msgv.take batch.res.toNat).map
            (HevSocks5UDPMsg.contents batch.memory) ++
          decode size calls batch.socket

namespace OutMsg

/-- The address and the data of a message. -/
def contents (self : OutMsg) : List UInt8 × List UInt8 :=
  (self.addr.wire, self.buf)

end OutMsg

/-- The address has a type, the data a 16-bit length, and both fit a buffer of
the receiver. -/
structure Sendable (size : Nat) (msg : OutMsg) : Prop where
  typed : 0 < msg.addr.addrLen
  datlen : msg.buf.length ≤ 65535
  fits : msg.addr.addrLen.toNat + msg.buf.length ≤ size

/-- What the sender puts on the stream comes back, whatever the socket took at
a time as long as no send was cut short, and whatever the receiver gets at a
time and asks for; the calls are enough when there is one for each message and
one for each piece. -/
def RoundTrips (size : Nat) (msgv : List OutMsg) : Prop :=
  ∀ events sent, sendmmsgTcp msgv events = some sent → 0 < sent.res →
    cutShort events (msgv.flatMap OutMsg.encoding).length false = false →
  ∀ socket : Socket, socket.arrivals.flatten = sent.bytes →
  ∀ calls : List RecvCall, (∀ call ∈ calls, 0 < call.num) →
    socket.arrivals.length + msgv.length ≤ calls.length →
    decode size calls socket = msgv.map OutMsg.contents

/-! ## Rounds that find nothing to read -/

/-- A round that finds nothing to read uses up the piece without data. -/
theorem recvmmsgTcpLoop_idle {nonblock : Bool} {socket : Socket}
    (idle : Idle nonblock socket.arrivals) (msg : HevSocks5UDPMsg)
    (msgv : List HevSocks5UDPMsg) (rlen : Nat) (memory : Nat → UInt8) :
    recvmmsgTcpLoop nonblock (msg :: msgv) rlen memory socket =
      ⟨if 0 < rlen then rlen else -1, msg :: msgv, memory,
        ⟨socket.arrivals.tail, socket.stop, .again⟩⟩ := by
  have head := recvHead_idle_eq idle
  have res : (recvHead nonblock socket).res = -1 := by rw [head]
  rw [recvmmsgTcpLoop_head (by rw [res]; decide), head]

theorem Idle.pieces {nonblock : Bool} {arrivals : Arrivals UInt8}
    (idle : Idle nonblock arrivals) : arrivals = [] :: arrivals.tail := by
  cases arrivals with
  | nil => cases idle.2
  | cons piece arrivals =>
      cases idle.2
      rfl

theorem leave_zero (flags : MsgFlags) (s : Int) : leave flags 0 s = s := by
  unfold leave sizeOr
  split <;> rfl

theorem recvLoop_empty (flags : MsgFlags) (stop : Stop) (len : Nat) :
    ∀ (arrivals : Arrivals UInt8) (errno : Errno), arrivals.flatten = [] →
      (recvLoop flags stop len arrivals [] errno).res ≤ 0 ∧
      (recvLoop flags stop len arrivals [] errno).socket.arrivals.flatten =
        [] ∧
      (recvLoop flags stop len arrivals [] errno).socket.arrivals.length ≤
        arrivals.length := by
  intro arrivals
  induction arrivals with
  | nil =>
      intro errno _
      rcases flags with ⟨dontWait, waitAll⟩
      cases stop <;> cases dontWait <;> cases waitAll <;>
        simp [recvLoop, leave, sizeOr]
  | cons piece arrivals inductionHypothesis =>
      intro errno empty
      cases piece with
      | cons byte piece => cases empty
      | nil =>
          unfold recvLoop
          by_cases now : flags.dontWait = true
          · rw [if_pos now]
            refine ⟨?_, empty, Nat.le_succ _⟩
            change leave flags 0 (-1) ≤ 0
            rw [leave_zero]
            decide
          · rw [if_neg now]
            have rest := inductionHypothesis .again empty
            exact ⟨rest.1, rest.2.1, Nat.le_succ_of_le rest.2.2⟩

/-- At the end of the stream no header is read, and nothing appears. -/
theorem recvHead_empty (nonblock : Bool) {socket : Socket}
    (empty : socket.arrivals.flatten = []) :
    (recvHead nonblock socket).res ≤ 0 ∧
      (recvHead nonblock socket).socket.arrivals.flatten = [] ∧
      (recvHead nonblock socket).socket.arrivals.length ≤
        socket.arrivals.length := by
  have first := recvLoop_empty ⟨nonblock, false⟩ socket.stop 5 socket.arrivals
    socket.errno empty
  have head : recvHead nonblock socket = recv ⟨nonblock, false⟩ 5 socket :=
    if_neg fun condition => Int.not_le.mpr condition.1 first.1
  rw [head]
  exact first

/-! ## One frame -/

/-- The socket after the frame at its beginning was read. -/
def afterFrame (nonblock : Bool) (socket : Socket) : Socket :=
  (recv msgWaitAll (bodySize socket.arrivals.flatten)
    (recvHead nonblock socket).socket).socket

theorem afterFrame_arrivals {nonblock : Bool} {socket : Socket}
    (ready : ¬Idle nonblock socket.arrivals)
    (minimal : 5 ≤ hdrlenOf socket.arrivals.flatten)
    (complete : 5 ≤ socket.arrivals.flatten.length) :
    (afterFrame nonblock socket).arrivals.flatten =
        socket.arrivals.flatten.drop (hdrlenOf socket.arrivals.flatten +
          datlenOf socket.arrivals.flatten) ∧
      (afterFrame nonblock socket).arrivals.length ≤
        socket.arrivals.length := by
  obtain ⟨_, _, head, _⟩ := recvHead_complete ready complete
  have body := (recv_waitAll (bodySize socket.arrivals.flatten)
    (recvHead nonblock socket).socket).2.1
  rw [head] at body
  rw [afterFrame, body]
  constructor
  · have sizes : 5 + bodySize socket.arrivals.flatten =
        hdrlenOf socket.arrivals.flatten +
          datlenOf socket.arrivals.flatten := by
      unfold bodySize
      omega
    rw [Arrivals.flatten_consume, Arrivals.flatten_consume, List.drop_drop,
      sizes]
  · exact Nat.le_trans (Arrivals.length_consume_le _ _)
      (Arrivals.length_consume_le _ _)

/-- The memory once the frame at the beginning of the stream was stored. -/
def frameStored (memory : Nat → UInt8) (base : Nat) (stream : List UInt8) :
    Nat → UInt8 :=
  storeAt
    (scatter memory
      [{ base := base + 2, len := hdrlenOf stream - 3 - 2 },
        { base := base + (hdrlenOf stream - 3), len := datlenOf stream }]
      ((stream.drop 5).take (bodySize stream)))
    [base, base + 1] ((stream.drop 3).take 2)

/-- The message set from that frame. -/
def frameMsg (base : Nat) (stream : List UInt8) : HevSocks5UDPMsg :=
  { addr := .cell base
    buf := base + (hdrlenOf stream - 3)
    len := datlenOf stream }

theorem frameStored_below {memory : Nat → UInt8} {base address : Nat}
    {stream : List UInt8} (minimal : 5 ≤ hdrlenOf stream)
    (below : address < base) :
    frameStored memory base stream address = memory address := by
  have enough : 2 ≤ hdrlenOf stream - 3 := by omega
  have outside : address ∉ [base, base + 1] := by
    simp only [List.mem_cons, List.not_mem_nil, or_false]
    omega
  rw [frameStored, storeAt_of_notMem outside]
  exact body_untouched enough below

theorem contents_frameMsg (memory : Nat → UInt8) (base : Nat)
    {stream : List UInt8} (minimal : 5 ≤ hdrlenOf stream)
    (covered : hdrlenOf stream + datlenOf stream ≤ stream.length) :
    (frameMsg base stream).contents (frameStored memory base stream) =
      ((stream.drop 3).take (hdrlenOf stream - 3),
        (stream.drop (hdrlenOf stream)).take (datlenOf stream)) := by
  have two : ((stream.drop 3).take 2).length = 2 := by
    rw [List.length_take, List.length_drop]
    omega
  have sizes : ((stream.drop 5).take (bodySize stream)).length =
      hdrlenOf stream - 3 - 2 + datlenOf stream := by
    rw [List.length_take, List.length_drop, bodySize]
    omega
  have region : (List.range' base
        (2 + (hdrlenOf stream - 3 - 2 + datlenOf stream))).map
      (storeAt (storeAt memory _ _) [base, base + 1] _) = _ :=
    map_frame_stored two sizes
  rw [← cells_body base _ _ (by omega)] at region
  have whole : (stream.drop 3).take 2 ++ (stream.drop 5).take (bodySize stream) =
      (stream.drop 3).take (hdrlenOf stream - 3) ++
        (stream.drop (hdrlenOf stream)).take (datlenOf stream) := by
    have split : 2 + bodySize stream =
        hdrlenOf stream - 3 + datlenOf stream := by
      unfold bodySize
      omega
    have behind : 3 + (hdrlenOf stream - 3) = hdrlenOf stream := by omega
    calc (stream.drop 3).take 2 ++ (stream.drop 5).take (bodySize stream)
        = (stream.drop 3).take (2 + bodySize stream) := by
          rw [List.take_add, List.drop_drop]
      _ = (stream.drop 3).take (hdrlenOf stream - 3 + datlenOf stream) := by
          rw [split]
      _ = _ := by rw [List.take_add, List.drop_drop, behind]
  have parts : 2 + (hdrlenOf stream - 3 - 2 + datlenOf stream) =
      hdrlenOf stream - 3 + datlenOf stream := by omega
  rw [whole, parts, ← List.range'_append_1, List.map_append] at region
  have addrSize : ((stream.drop 3).take (hdrlenOf stream - 3)).length =
      hdrlenOf stream - 3 := by
    rw [List.length_take, List.length_drop]
    omega
  obtain ⟨addrBytes, dataBytes⟩ := List.append_inj region
    (by rw [List.length_map, List.length_range', addrSize])
  have offset : base + (hdrlenOf stream - 3) - base = hdrlenOf stream - 3 :=
    Nat.add_sub_cancel_left base _
  unfold HevSocks5UDPMsg.contents frameMsg
  dsimp only
  rw [offset]
  exact Prod.ext addrBytes dataBytes

/-- A complete frame that passes the checks is stored in the message's buffer,
and the loop goes on behind it. -/
theorem recvmmsgTcpLoop_frame {nonblock : Bool} (msg : HevSocks5UDPMsg)
    (msgv : List HevSocks5UDPMsg) (rlen : Nat) (memory : Nat → UInt8)
    {socket : Socket} {stream : List UInt8}
    (arrived : socket.arrivals.flatten = stream)
    (ready : ¬Idle nonblock socket.arrivals) (more : 5 < stream.length)
    (minimal : 5 ≤ hdrlenOf stream)
    (fits : datlenOf stream ≤ sizeSub msg.len (hdrlenOf stream - 3))
    (covered : hdrlenOf stream + datlenOf stream ≤ stream.length) :
    let rest := recvmmsgTcpLoop nonblock msgv (rlen + 1)
      (frameStored memory msg.buf stream) (afterFrame nonblock socket)
    recvmmsgTcpLoop nonblock (msg :: msgv) rlen memory socket =
      { rest with msgv := frameMsg msg.buf stream :: rest.msgv } := by
  subst arrived
  obtain ⟨complete, taken, head, _⟩ :=
    recvHead_complete ready (Nat.le_of_lt more)
  obtain ⟨bytes, _, _, res⟩ := recv_waitAll (bodySize socket.arrivals.flatten)
    (recvHead nonblock socket).socket
  have behind : (recvHead nonblock socket).socket.arrivals.flatten =
      socket.arrivals.flatten.drop 5 := by
    rw [head, Arrivals.flatten_consume]
  have enough : bodySize socket.arrivals.flatten ≤
      (socket.arrivals.flatten.drop 5).length := by
    rw [List.length_drop, bodySize]
    omega
  have nonempty : socket.arrivals.flatten.drop 5 ≠ [] :=
    List.drop_eq_nil_iff.not.mpr (Nat.not_le.mpr more)
  rw [behind] at bytes res
  rw [if_neg nonempty, List.length_take_of_le enough] at res
  intro rest
  rw [recvmmsgTcpLoop_accept complete taken (Nat.le_of_lt more) minimal fits,
    if_neg (not_not.mpr res), bytes]
  rfl

/-! ## The frames of the sender -/

theorem sizeSub_of_le {size count : Nat} (bounded : size < 2 ^ 64)
    (within : count ≤ size) : sizeSub size count = size - count := by
  unfold sizeSub
  omega

theorem datlenOf_encoding {msg : OutMsg} {tail : List UInt8}
    (datlen : msg.buf.length ≤ 65535) :
    datlenOf (msg.encoding ++ tail) = msg.buf.length := by
  change (UInt8.ofNat (msg.buf.length / 256)).toNat * 256 +
    (UInt8.ofNat msg.buf.length).toNat = _
  rw [UInt8.toNat_ofNat', UInt8.toNat_ofNat']
  omega

/-- The header length goes through eight bits. -/
theorem hdrlenOf_encoding (msg : OutMsg) (tail : List UInt8) :
    hdrlenOf (msg.encoding ++ tail) = (3 + msg.addr.addrLen.toNat) % 256 :=
  UInt8.toNat_ofNat'

theorem drop_encoding (msg : OutMsg) (tail : List UInt8) :
    (msg.encoding ++ tail).drop 3 = msg.addr.wire ++ (msg.buf ++ tail) := by
  unfold OutMsg.encoding
  rw [List.append_assoc, List.append_assoc]
  rfl

theorem length_encoding (msg : OutMsg) :
    msg.encoding.length = 3 + msg.addr.addrLen.toNat + msg.buf.length := by
  unfold OutMsg.encoding
  rw [List.length_append, List.length_append, msg.addr.length_wire]
  rfl

/-- A frame whose header length is not too small passes the checks, also where
that length is not the true one. -/
theorem Sendable.accepted {size : Nat} {msg : OutMsg} {tail : List UInt8}
    (bounded : size < 2 ^ 64) (sendable : Sendable size msg)
    (minimal : 5 ≤ hdrlenOf (msg.encoding ++ tail)) :
    let stream := msg.encoding ++ tail
    5 < stream.length ∧
      datlenOf stream ≤ sizeSub size (hdrlenOf stream - 3) ∧
      hdrlenOf stream + datlenOf stream ≤ stream.length := by
  have fits := sendable.fits
  have typed := HevSocks5Addr.addrLen_pos sendable.typed
  dsimp only
  rw [datlenOf_encoding sendable.datlen, List.length_append, length_encoding]
  rw [hdrlenOf_encoding] at minimal ⊢
  have modLe := Nat.mod_le (3 + msg.addr.addrLen.toNat) 256
  rw [sizeSub_of_le bounded (by omega)]
  omega

/-- Where the header length is the true one, the frame gives back the address
and the data, and leaves what follows. -/
theorem contents_encoding (base : Nat) (memory : Nat → UInt8)
    (tail : List UInt8) {msg : OutMsg} {size : Nat} (bounded : size < 2 ^ 64)
    (sendable : Sendable size msg) (short : msg.addr.addrLen ≤ 252) :
    let stream := msg.encoding ++ tail
    5 ≤ hdrlenOf stream ∧
      (frameMsg base stream).contents (frameStored memory base stream) =
        msg.contents ∧
      stream.drop (hdrlenOf stream + datlenOf stream) = tail := by
  have typed := HevSocks5Addr.addrLen_pos sendable.typed
  have wire := msg.addr.length_wire
  have hdrlen : hdrlenOf (msg.encoding ++ tail) =
      3 + msg.addr.addrLen.toNat := by
    rw [hdrlenOf_encoding]
    exact Nat.mod_eq_of_lt (by omega)
  have minimal : 5 ≤ hdrlenOf (msg.encoding ++ tail) := by omega
  obtain ⟨_, _, covered⟩ := sendable.accepted bounded minimal
  have behind : (msg.encoding ++ tail).drop (hdrlenOf (msg.encoding ++ tail)) =
      msg.buf ++ tail := by
    rw [hdrlen, ← List.drop_drop, drop_encoding]
    exact List.drop_left' wire
  refine ⟨minimal, ?_, ?_⟩
  · rw [contents_frameMsg memory base minimal covered, behind, drop_encoding,
      datlenOf_encoding sendable.datlen, List.take_left' rfl, hdrlen,
      Nat.add_sub_cancel_left, List.take_left' wire]
    rfl
  · rw [← List.drop_drop, behind, datlenOf_encoding sendable.datlen]
    exact List.drop_left' rfl

/-! ## One call of the receiver -/

/-- What a call leaves that began with `done` messages received: `count` more
messages came, and the rest of the stream is still there. -/
structure BatchOf (size done : Nat) (msgv : List OutMsg)
    (memory : Nat → UInt8) (socket : Socket) (batch : Recvmmsg)
    (count : Nat) : Prop where
  within : count ≤ msgv.length
  res : batch.res = (done + count : Nat)
  contents : (batch.msgv.take count).map
      (HevSocks5UDPMsg.contents batch.memory) =
    (msgv.take count).map OutMsg.contents
  below : ∀ address, address < size * done →
    batch.memory address = memory address
  stream : batch.socket.arrivals.flatten =
    (msgv.drop count).flatMap OutMsg.encoding
  pieces : batch.socket.arrivals.length ≤ socket.arrivals.length

theorem contents_of_agree {memory later : Nat → UInt8} {base limit : Nat}
    {stream : List UInt8}
    (within : base + (hdrlenOf stream - 3) + datlenOf stream ≤ limit)
    (agree : ∀ address, address < limit → later address = memory address) :
    (frameMsg base stream).contents later =
      (frameMsg base stream).contents memory := by
  unfold HevSocks5UDPMsg.contents frameMsg
  dsimp only
  refine Prod.ext ?_ ?_
  · apply List.map_congr_left
    intro address member
    rw [List.mem_range'_1] at member
    exact agree address (by omega)
  · apply List.map_congr_left
    intro address member
    rw [List.mem_range'_1] at member
    exact agree address (by omega)

theorem buffers_succ (size done num : Nat) :
    buffers size done (num + 1) =
      buffer size done :: buffers size (done + 1) num := by
  rw [buffers, List.range'_succ, List.map_cons]
  rfl

/-- The call takes the frame at the beginning of the stream, and goes on. -/
theorem BatchOf.frame (done num : Nat) (memory : Nat → UInt8) {size : Nat}
    {nonblock : Bool} {msg : OutMsg} {msgv : List OutMsg} {socket : Socket}
    (bounded : size < 2 ^ 64) (sendable : Sendable size msg)
    (short : msg.addr.addrLen ≤ 252) (ready : ¬Idle nonblock socket.arrivals)
    (arrived : socket.arrivals.flatten =
      (msg :: msgv).flatMap OutMsg.encoding)
    (rest : ∀ stored left,
      left.arrivals.flatten = msgv.flatMap OutMsg.encoding →
      ∃ count, BatchOf size (done + 1) msgv stored left
        (recvmmsgTcpLoop nonblock (buffers size (done + 1) num) (done + 1)
          stored left) count) :
    ∃ count, BatchOf size done (msg :: msgv) memory socket
      (recvmmsgTcpLoop nonblock (buffers size done (num + 1)) done memory
        socket) (count + 1) := by
  rw [List.flatMap_cons] at arrived
  obtain ⟨minimal, contents, tail⟩ := contents_encoding (size * done) memory
    (msgv.flatMap OutMsg.encoding) bounded sendable short
  obtain ⟨more, fits, covered⟩ := sendable.accepted bounded minimal
  have loop := recvmmsgTcpLoop_frame (buffer size done)
    (buffers size (done + 1) num) done memory arrived ready more minimal fits
    covered
  obtain ⟨stream, pieces⟩ := afterFrame_arrivals ready
    (by rw [arrived]; exact minimal) (by rw [arrived]; exact Nat.le_of_lt more)
  rw [arrived, tail] at stream
  obtain ⟨count, holds⟩ := rest
    (frameStored memory (size * done)
      (msg.encoding ++ msgv.flatMap OutMsg.encoding))
    (afterFrame nonblock socket) stream
  have region : size * (done + 1) = size * done + size := Nat.mul_succ _ _
  have within : size * done +
      (hdrlenOf (msg.encoding ++ msgv.flatMap OutMsg.encoding) - 3) +
        datlenOf (msg.encoding ++ msgv.flatMap OutMsg.encoding) ≤
      size * (done + 1) := by
    have room := sendable.fits
    have modLe := Nat.mod_le (3 + msg.addr.addrLen.toNat) 256
    rw [hdrlenOf_encoding, datlenOf_encoding sendable.datlen]
    omega
  rw [buffers_succ, loop]
  refine ⟨count, ?_⟩
  constructor
  · exact Nat.succ_le_succ holds.within
  · refine holds.res.trans ?_
    rw [Nat.add_assoc, Nat.add_comm 1]
  · rw [List.take_succ_cons, List.take_succ_cons, List.map_cons, List.map_cons]
    refine congrArg₂ List.cons ?_ holds.contents
    exact (contents_of_agree within holds.below).trans contents
  · intro address below
    exact (holds.below address (by omega)).trans
      (frameStored_below minimal below)
  · exact holds.stream
  · exact Nat.le_trans holds.pieces pieces

/-- Once a message was received the call returns a count, whatever ends it. -/
theorem recvmmsgTcpLoop_batch {size : Nat} {nonblock : Bool}
    (bounded : size < 2 ^ 64) (num : Nat) :
    ∀ (done : Nat) (msgv : List OutMsg) (memory : Nat → UInt8)
      (socket : Socket), 0 < done →
      (∀ msg ∈ msgv, Sendable size msg ∧ msg.addr.addrLen ≤ 252) →
      socket.arrivals.flatten = msgv.flatMap OutMsg.encoding →
      ∃ count, BatchOf size done msgv memory socket
        (recvmmsgTcpLoop nonblock (buffers size done num) done memory socket)
        count := by
  induction num with
  | zero =>
      intro done msgv memory socket _ _ arrived
      exact ⟨0, Nat.zero_le _, rfl, rfl, fun _ _ => rfl, arrived, Nat.le_refl _⟩
  | succ num inductionHypothesis =>
      intro done msgv memory socket begun sendable arrived
      by_cases idle : Idle nonblock socket.arrivals
      · rw [buffers_succ, recvmmsgTcpLoop_idle idle, if_pos begun]
        refine ⟨0, Nat.zero_le _, rfl, rfl, fun _ _ => rfl, ?_, ?_⟩
        · rw [idle.pieces] at arrived
          exact arrived
        · rw [List.length_tail]
          exact Nat.sub_le _ _
      · cases msgv with
        | nil =>
            obtain ⟨res, stream, pieces⟩ := recvHead_empty nonblock arrived
            rw [buffers_succ, recvmmsgTcpLoop_head (by omega), if_pos begun]
            exact ⟨0, Nat.le_refl _, rfl, rfl, fun _ _ => rfl, stream, pieces⟩
        | cons msg msgv =>
            have first := sendable msg List.mem_cons_self
            obtain ⟨count, holds⟩ := BatchOf.frame done num memory bounded
              first.1 first.2 idle arrived fun stored left leftArrived =>
                inductionHypothesis (done + 1) msgv stored left
                  (Nat.succ_pos done)
                  (fun other member =>
                    sendable other (List.mem_cons_of_mem _ member))
                  leftArrived
            exact ⟨count + 1, holds⟩

/-! ## Repeated calls -/

/-- Nothing more is received at the end of the stream. -/
theorem decode_end (size : Nat) (calls : List RecvCall) :
    ∀ (socket : Socket), socket.arrivals.flatten = [] →
      decode size calls socket = [] := by
  induction calls with
  | nil =>
      intro socket _
      rfl
  | cons call calls inductionHypothesis =>
      intro socket empty
      obtain ⟨res, stream, _⟩ := recvHead_empty call.nonblock empty
      have returned : (recvmmsgTcp call.nonblock (buffers size 0 call.num)
            call.memory socket).res ≤ 0 ∧
          (recvmmsgTcp call.nonblock (buffers size 0 call.num)
            call.memory socket).socket.arrivals.flatten = [] := by
        cases numEq : call.num with
        | zero => exact ⟨Int.le_refl 0, empty⟩
        | succ num =>
            rw [buffers_succ, recvmmsgTcp, recvmmsgTcpLoop_head (by omega)]
            exact ⟨res, stream⟩
      unfold decode
      dsimp only
      rw [if_pos returned.1]
      split
      · exact inductionHypothesis _ returned.2
      · rfl

/-- Calls that are enough receive all the messages, in order. -/
theorem decode_frames {size : Nat} (bounded : size < 2 ^ 64)
    (calls : List RecvCall) :
    ∀ (msgv : List OutMsg) (socket : Socket),
      (∀ call ∈ calls, 0 < call.num) →
      (∀ msg ∈ msgv, Sendable size msg ∧ msg.addr.addrLen ≤ 252) →
      socket.arrivals.flatten = msgv.flatMap OutMsg.encoding →
      socket.arrivals.length + msgv.length ≤ calls.length →
      decode size calls socket = msgv.map OutMsg.contents := by
  induction calls with
  | nil =>
      intro msgv socket _ _ _ enough
      have none : msgv = [] := List.length_eq_zero_iff.mp (by
        rw [List.length_nil] at enough
        omega)
      rw [none]
      rfl
  | cons call calls inductionHypothesis =>
      intro msgv socket asks sendable arrived enough
      cases msgv with
      | nil => exact decode_end size _ socket arrived
      | cons msg msgv =>
          have asksRest : ∀ other ∈ calls, 0 < other.num :=
            fun other member => asks other (List.mem_cons_of_mem _ member)
          obtain ⟨num, numEq⟩ := Nat.exists_eq_add_one.mpr
            (asks call List.mem_cons_self)
          by_cases idle : Idle call.nonblock socket.arrivals
          · -- a piece without data is used up
            unfold decode
            rw [numEq, buffers_succ, recvmmsgTcp, recvmmsgTcpLoop_idle idle]
            rw [idle.pieces] at arrived enough
            simp only [List.length_cons] at enough
            apply inductionHypothesis (msg :: msgv) _ asksRest sendable arrived
            simp only [List.length_cons]
            omega
          · have first := sendable msg List.mem_cons_self
            obtain ⟨count, holds⟩ := BatchOf.frame 0 num call.memory bounded
              first.1 first.2 idle arrived
              fun stored left leftArrived =>
                recvmmsgTcpLoop_batch bounded num 1 msgv stored left
                  Nat.one_pos
                  (fun other member =>
                    sendable other (List.mem_cons_of_mem _ member))
                  leftArrived
            have res := holds.res
            rw [Nat.zero_add] at res
            unfold decode
            rw [numEq, recvmmsgTcp]
            dsimp only
            rw [if_neg (by omega), res, Int.toNat_natCast, holds.contents]
            have rest := inductionHypothesis _ _ asksRest
              (fun other member => sendable other (List.mem_of_mem_drop member))
              holds.stream (by
                have pieces := holds.pieces
                have within := holds.within
                simp only [List.length_drop, List.length_cons] at *
                omega)
            rw [rest, ← List.map_append, List.take_append_drop]

/-! ## Long addresses -/

/-- A socket all of whose stream is there. -/
def onePiece (stream : List UInt8) : Socket :=
  { arrivals := Arrivals.putBack stream []
    stop := .eof
    errno := .other }

theorem recv_onePiece (flags : MsgFlags) {len : Nat} {stream : List UInt8}
    (nonempty : stream ≠ []) (enough : len ≤ stream.length) :
    recv flags len (onePiece stream) =
      ⟨len, stream.take len, onePiece (stream.drop len)⟩ := by
  cases stream with
  | nil => exact absurd rfl nonempty
  | cons byte stream =>
      have taken : ((byte :: stream).take len).length = len :=
        List.length_take_of_le enough
      have loop : recvLoop flags .eof len [byte :: stream] [] .other =
          if flags.waitAll ∧ ((byte :: stream).take len).length < len then
            recvLoop flags .eof len [] ((byte :: stream).take len) .other
          else
            ⟨((byte :: stream).take len).length, (byte :: stream).take len,
              onePiece ((byte :: stream).drop len)⟩ := rfl
      rw [taken, if_neg fun waits => Nat.lt_irrefl len waits.2] at loop
      exact loop

theorem recvHead_onePiece {stream : List UInt8} (more : 5 < stream.length) :
    recvHead false (onePiece stream) =
      ⟨5, stream.take 5, onePiece (stream.drop 5)⟩ := by
  have nonempty : stream ≠ [] := List.length_pos_iff.mp (by omega)
  unfold recvHead
  rw [recv_onePiece _ nonempty (Nat.le_of_lt more)]
  rfl

theorem flatten_onePiece (stream : List UInt8) :
    (onePiece stream).arrivals.flatten = stream := by
  rw [onePiece, Arrivals.flatten_putBack, List.flatten_nil, List.append_nil]

theorem afterFrame_onePiece {stream : List UInt8} (more : 5 < stream.length)
    (minimal : 5 ≤ hdrlenOf stream)
    (covered : hdrlenOf stream + datlenOf stream ≤ stream.length) :
    afterFrame false (onePiece stream) =
      onePiece (stream.drop (hdrlenOf stream + datlenOf stream)) := by
  have nonempty : stream.drop 5 ≠ [] :=
    List.drop_eq_nil_iff.not.mpr (Nat.not_le.mpr more)
  have sizes : 5 + bodySize stream = hdrlenOf stream + datlenOf stream := by
    unfold bodySize
    omega
  have enough : bodySize stream ≤ (stream.drop 5).length := by
    rw [List.length_drop]
    omega
  rw [afterFrame, recvHead_onePiece more, flatten_onePiece,
    recv_onePiece _ nonempty enough, List.drop_drop, sizes]

/-- One blocking call for one message. -/
def callForOne : RecvCall :=
  { num := 1
    nonblock := false
    memory := fun _ => 0 }

theorem decode_callForOne_accepted (size : Nat) (calls : List RecvCall)
    {stream : List UInt8} (more : 5 < stream.length)
    (minimal : 5 ≤ hdrlenOf stream)
    (fits : datlenOf stream ≤ sizeSub size (hdrlenOf stream - 3))
    (covered : hdrlenOf stream + datlenOf stream ≤ stream.length) :
    decode size (callForOne :: calls) (onePiece stream) =
      ((stream.drop 3).take (hdrlenOf stream - 3),
        (stream.drop (hdrlenOf stream)).take (datlenOf stream)) ::
      decode size calls
        (onePiece (stream.drop (hdrlenOf stream + datlenOf stream))) := by
  have ready : ¬Idle false (onePiece stream).arrivals :=
    fun idle => absurd idle.1 (by decide)
  have loop := recvmmsgTcpLoop_frame (buffer size 0) [] 0 callForOne.memory
    (flatten_onePiece stream) ready more minimal fits covered
  rw [afterFrame_onePiece more minimal covered] at loop
  have batch : recvmmsgTcp callForOne.nonblock (buffers size 0 callForOne.num)
      callForOne.memory (onePiece stream) =
        ⟨1, [frameMsg (size * 0) stream],
          frameStored callForOne.memory (size * 0) stream,
          onePiece (stream.drop (hdrlenOf stream + datlenOf stream))⟩ := loop
  have contents := contents_frameMsg callForOne.memory (size * 0) minimal
    covered
  rw [decode, batch, if_neg (Int.not_le.mpr Int.one_pos)]
  exact congrArg₂ List.cons contents rfl

theorem decode_callForOne_refused (size : Nat) (calls : List RecvCall)
    {stream : List UInt8} (more : 5 < stream.length)
    (small : hdrlenOf stream < 5) :
    decode size (callForOne :: calls) (onePiece stream) = [] := by
  have head : recvHead callForOne.nonblock (onePiece stream) = _ :=
    recvHead_onePiece more
  have batch : recvmmsgTcp callForOne.nonblock (buffers size 0 callForOne.num)
      callForOne.memory (onePiece stream) =
        ⟨-1, [buffer size 0], callForOne.memory,
          (recvHead callForOne.nonblock (onePiece stream)).socket⟩ := by
    apply recvmmsgTcpLoop_refuse
    · rw [head]
    · rw [head, flatten_onePiece]
    · rw [flatten_onePiece]
      exact .inl small
  have stops : ¬((-1 : Int) = -1 ∧ Errno.other = .again) :=
    fun both => nomatch both.2
  rw [decode, batch, head, if_pos (show (-1 : Int) ≤ 0 by decide)]
  exact if_neg stops

/-- Read one message at a time, a list with an address that is too long for
the header length does not come back. -/
theorem decode_long {size : Nat} (bounded : size < 2 ^ 64) (calls : Nat) :
    ∀ msgv : List OutMsg, (∀ msg ∈ msgv, Sendable size msg) →
      (∃ msg ∈ msgv, ¬msg.addr.addrLen ≤ 252) →
      decode size (List.replicate calls callForOne)
        (onePiece (msgv.flatMap OutMsg.encoding)) ≠
          msgv.map OutMsg.contents := by
  induction calls with
  | zero =>
      intro msgv _ long same
      rw [List.map_eq_nil_iff.mp same.symm] at long
      obtain ⟨msg, member, _⟩ := long
      cases member
  | succ calls inductionHypothesis =>
      intro msgv sendable long same
      cases msgv with
      | nil =>
          obtain ⟨msg, member, _⟩ := long
          cases member
      | cons msg msgv =>
          have first := sendable msg List.mem_cons_self
          rw [List.flatMap_cons, List.replicate_succ, List.map_cons] at same
          by_cases minimal : 5 ≤
              hdrlenOf (msg.encoding ++ msgv.flatMap OutMsg.encoding)
          · obtain ⟨more, fits, covered⟩ := first.accepted bounded minimal
            rw [decode_callForOne_accepted size _ more minimal fits
              covered] at same
            obtain ⟨headSame, tailSame⟩ := List.cons.inj same
            -- the header length is the true one
            have wire := congrArg List.length (Prod.mk.inj headSame).1
            have short : msg.addr.addrLen ≤ 252 := by
              have byte : hdrlenOf (msg.encoding ++
                  msgv.flatMap OutMsg.encoding) < 256 := UInt8.toNat_lt _
              rw [msg.addr.length_wire, List.length_take,
                List.length_drop] at wire
              omega
            obtain ⟨_, _, tail⟩ := contents_encoding 0 (fun _ => 0)
              (msgv.flatMap OutMsg.encoding) bounded first short
            rw [tail] at tailSame
            refine inductionHypothesis msgv
              (fun other member =>
                sendable other (List.mem_cons_of_mem _ member)) ?_ tailSame
            obtain ⟨other, member, otherLong⟩ := long
            rcases List.mem_cons.mp member with rfl | later
            · exact absurd short otherLong
            · exact ⟨other, later, otherLong⟩
          · have typed := HevSocks5Addr.addrLen_pos first.typed
            rw [decode_callForOne_refused size _
              (by rw [List.length_append, length_encoding]; omega)
              (Nat.not_le.mp minimal)] at same
            cases same

theorem sendmmsgTcp_room {msgv : List OutMsg} (nonempty : msgv ≠ [])
    (typed : ∀ msg ∈ msgv, 0 < msg.addr.addrLen) :
    let stream := msgv.flatMap OutMsg.encoding
    sendmmsgTcp msgv [.room stream.length] = some ⟨msgv.length, stream⟩ ∧
      cutShort [.room stream.length] stream.length false = false := by
  have positive : 0 < (msgv.flatMap OutMsg.encoding).length := by
    cases msgv with
    | nil => exact absurd rfl nonempty
    | cons msg msgv =>
        rw [List.flatMap_cons, List.length_append, length_encoding]
        omega
  have valid : (msgv.any fun msg => msg.addr.addrLen ≤ 0) = false := by
    apply List.any_eq_false.mpr
    intro msg member
    simpa using typed msg member
  dsimp only
  generalize sizeEq : (msgv.flatMap OutMsg.encoding).length = size at *
  have whole : (msgv.flatMap OutMsg.encoding).take size =
      msgv.flatMap OutMsg.encoding :=
    List.take_of_length_le (Nat.le_of_eq sizeEq)
  have taken : msgv.flatMap OutMsg.encoding ≠ [] := by
    apply List.length_pos_iff.mp
    omega
  constructor
  · unfold sendmmsgTcp sendmsg sendmsgLoop
    dsimp only
    rw [valid, if_neg Bool.false_ne_true, flatten_iov, whole, if_neg taken,
      sizeEq, Nat.zero_add, if_neg (Nat.lt_irrefl size)]
    dsimp only [Option.map_some]
    rw [if_neg (Int.not_le.mpr (Int.natCast_pos.mpr positive))]
  · cases size with
    | zero => exact absurd positive (Nat.lt_irrefl 0)
    | succ size => exact if_neg (Nat.lt_irrefl _)

theorem not_roundTrips_of_long {size : Nat} {msgv : List OutMsg}
    (bounded : size < 2 ^ 64) (sendable : ∀ msg ∈ msgv, Sendable size msg)
    (long : ∃ msg ∈ msgv, ¬msg.addr.addrLen ≤ 252) :
    ¬RoundTrips size msgv := by
  intro returns
  rcases long with ⟨msg, member, tooLong⟩
  rcases sendmmsgTcp_room (List.ne_nil_of_mem member)
    (fun other inMsgv => (sendable other inMsgv).typed) with ⟨sent, notCut⟩
  have positive : (0 : Int) < (msgv.length : Nat) :=
    Int.natCast_pos.mpr (List.length_pos_of_mem member)
  apply decode_long bounded (1 + msgv.length) msgv sendable
    ⟨msg, member, tooLong⟩
  apply returns _ _ sent positive notCut _ (flatten_onePiece _)
  · intro call inCalls
    rw [List.eq_of_mem_replicate inCalls]
    exact Nat.one_pos
  · rw [List.length_replicate]
    exact Nat.add_le_add_right (Arrivals.length_putBack_le _ _) _

/-- The messages come back if and only if the length of each address fits the
eight bits it has together with the three header bytes. -/
theorem round_trip_iff (size : Nat) (msgv : List OutMsg)
    (bounded : size < 2 ^ 64) (sendable : ∀ msg ∈ msgv, Sendable size msg) :
    RoundTrips size msgv ↔ ∀ msg ∈ msgv, msg.addr.addrLen ≤ 252 := by
  constructor
  · intro returns msg member
    by_contra long
    exact not_roundTrips_of_long bounded sendable ⟨msg, member, long⟩ returns
  · intro short events sent returned positive notCut socket arrived calls asks
      enough
    have whole := ((sendmmsgTcp_outcome returned).2 positive).2.mpr notCut
    rw [whole] at arrived
    exact decode_frames bounded calls msgv socket asks
      (fun msg member => ⟨sendable msg member, short msg member⟩) arrived enough

/-- A domain of `len` letters. -/
def letters (len : UInt8) : HevSocks5Addr where
  bytes := 3 :: len :: List.replicate 258 97
  size := by rw [List.length_cons, List.length_cons, List.length_replicate]

/-- The longest domain that comes back. -/
theorem round_trip_longest_domain :
    RoundTrips 1500 [⟨letters 248, [7, 8]⟩, ⟨letters 0, []⟩] := by
  have longest : Sendable 1500 ⟨letters 248, [7, 8]⟩ :=
    ⟨by decide, by decide, by decide⟩
  have empty : Sendable 1500 ⟨letters 0, []⟩ :=
    ⟨by decide, by decide, by decide⟩
  apply (round_trip_iff 1500 _ (by decide) ?_).mpr
  · exact List.forall_mem_cons.mpr ⟨by decide,
      List.forall_mem_singleton.mpr (by decide)⟩
  · exact List.forall_mem_cons.mpr ⟨longest,
      List.forall_mem_singleton.mpr empty⟩

/-- One letter more, and the header length is zero. -/
theorem long_domain_lost :
    ¬∀ size msgv, size < 2 ^ 64 → (∀ msg ∈ msgv, Sendable size msg) →
      RoundTrips size msgv := by
  intro always
  have sendable : ∀ msg ∈ [OutMsg.mk (letters 249) [7, 8]],
      Sendable 1500 msg :=
    List.forall_mem_singleton.mpr ⟨by decide, by decide, by decide⟩
  apply not_roundTrips_of_long (by decide) sendable
    ⟨_, List.mem_singleton_self _, by decide⟩
  exact always 1500 _ (by decide) sendable

end ProxyVPN
