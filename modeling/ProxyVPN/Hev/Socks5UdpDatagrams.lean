/-
Module: ProxyVPN.Hev.Socks5UdpDatagrams
Purpose: The UDP-in-UDP receiver of hev-socks5-udp.c, what a session makes of a
  batch of datagrams from the relay, and exactly which batches it delivers
  datagram by datagram.
Trusted boundary: human-reviewed model
Main exports: RelaySocket, decodeUdp, recvmmsgUdp, SessionUdp.fwdBUdp,
  RelayBatch, fullPayload, deliveries_exact_iff, recvmmsgUdp_batch,
  fwdBUdp_of_taken, fwd_b_udp_exact_iff, malformed_datagram_loses_batch
-/
import ProxyVPN.Hev.Socks5UdpHeaders
import ProxyVPN.Hev.Socks5UdpReplies

namespace ProxyVPN

open Scatter TaskIO

/-! ## The receiver -/

/-- The socket towards the relay: whether it was connected after an earlier
batch, what `connect` will answer, and the thread's `errno`. -/
structure RelaySocket where
  udpAssociated : Bool
  connects : Bool
  errno : Errno
deriving Repr, DecidableEq

/-- The kernel copies one datagram into each buffer, and as much of it as there
is room for. -/
def receiveDatagrams : List HevSocks5UDPMsg → List (List UInt8) →
    (Nat → UInt8) → Nat → UInt8
  | msg :: msgv, datagram :: datagrams, memory =>
      receiveDatagrams msgv datagrams
        (scatter memory [{ base := msg.buf, len := msg.len }] datagram)
  | _, _, memory => memory

/-- `msg_len` of each datagram. -/
def msgLens : List HevSocks5UDPMsg → List (List UInt8) → List Nat
  | msg :: msgv, datagram :: datagrams =>
      min msg.len datagram.length :: msgLens msgv datagrams
  | _, _ => []

/-- The last loop of `hev_socks5_udp_recvmmsg_udp`: the entries that it leaves,
and whether it goes through to the end. -/
def decodeUdp (memory : Nat → UInt8) :
    List HevSocks5UDPMsg → List Nat → Bool × List HevSocks5UDPMsg
  | msg :: msgv, len :: lens =>
      let addrlen := addrLenAt memory (msg.buf + 3)
      if len < 4 then
        let rest := decodeUdp memory msgv lens
        (rest.1, { msg with addr := .null, len := 0 } :: rest.2)
      else if addrlen ≤ 0 then
        (false, { msg with len := len } :: msgv)
      else
        let doff := 3 + addrlen
        if doff > (len : Int) then
          (false, { msg with len := len } :: msgv)
        else
          let rest := decodeUdp memory msgv lens
          (rest.1,
            { addr := .cell (msg.buf + 3)
              buf := msg.buf + doff.toNat
              len := len - doff.toNat } :: rest.2)
  | msgv, _ => (true, msgv)

/-- What a call of the receiver leaves. -/
structure RecvmmsgUdp where
  res : Int
  msgv : List HevSocks5UDPMsg
  memory : Nat → UInt8
  socket : RelaySocket

/-- `hev_socks5_udp_recvmmsg_udp`, where `recvmmsg` fails with an error or
brings some datagrams. -/
def recvmmsgUdp (msgv : List HevSocks5UDPMsg) (memory : Nat → UInt8)
    (socket : RelaySocket) (received : Except Errno (List (List UInt8))) :
    RecvmmsgUdp :=
  match received with
  | .error errno => ⟨-1, msgv, memory, { socket with errno := errno }⟩
  | .ok datagrams =>
      let memory := receiveDatagrams msgv datagrams memory
      if datagrams = [] then
        ⟨0, msgv, memory, socket⟩
      else if socket.udpAssociated = false ∧ socket.connects = false then
        ⟨-1, msgv, memory, { socket with errno := .other }⟩
      else
        let socket := { socket with udpAssociated := true }
        let decoded := decodeUdp memory msgv (msgLens msgv datagrams)
        if decoded.1 then
          ⟨datagrams.length, decoded.2, memory, socket⟩
        else
          ⟨-1, decoded.2, memory, socket⟩

/-- `hev_socks5_session_udp_fwd_b` on a UDP-in-UDP session. -/
def SessionUdp.fwdBUdp (client : SessionUdp) (sends : Nat → SendResult)
    (num : Nat) (memory : Nat → UInt8) (socket : RelaySocket)
    (received : Except Errno (List (List UInt8))) :
    Except Fault (Int × List Datagram) :=
  let batch := recvmmsgUdp (slots num) memory socket received
  if batch.res ≤ 0 then
    if batch.res = -1 ∧ batch.socket.errno = .again then .ok (0, [])
    else .ok (-1, [])
  else
    client.fwdBLoop sends batch.msgv batch.memory batch.res.toNat 0 []

/-! ## Datagrams -/

/-- What one call of `recvmmsg` brings: at least one datagram and at most as
many as there are buffers, each as long as UDP allows. -/
structure RelayBatch (num : Nat) where
  datagrams : List (List UInt8)
  positive : 0 < datagrams.length
  within : datagrams.length ≤ num
  bounded : ∀ datagram ∈ datagrams, datagram.length ≤ 65507

/-- The length of the address behind the three header bytes. -/
def addrLenIn (datagram : List UInt8) : Int :=
  addrLenOf (datagram.getD 3 0) (datagram.getD 4 0)

/-- Three header bytes, a complete address, and at least one byte of data. -/
def WellFormedDatagram (datagram : List UInt8) : Prop :=
  0 < addrLenIn datagram ∧ 3 + addrLenIn datagram < datagram.length

instance (datagram : List UInt8) : Decidable (WellFormedDatagram datagram) :=
  inferInstanceAs (Decidable (_ ∧ _))

/-- The payload of a datagram that is well formed. -/
def fullPayload (datagram : List UInt8) : Option (List UInt8) :=
  if WellFormedDatagram datagram then
    some (datagram.drop (3 + addrLenIn datagram).toNat)
  else
    none

/-- The datagram has four bytes or more, but its address has no type or is not
complete. -/
def Aborts (datagram : List UInt8) : Prop :=
  4 ≤ datagram.length ∧
    (addrLenIn datagram ≤ 0 ∨ (datagram.length : Int) < 3 + addrLenIn datagram)

instance (datagram : List UInt8) : Decidable (Aborts datagram) :=
  inferInstanceAs (Decidable (_ ∧ _))

/-- The reply gets a source address: the one that is remembered, or its own when
that is no name. -/
def SessionUdp.Resolves (client : SessionUdp) (datagram : List UInt8) : Prop :=
  client.Remembers ∨ datagram.getD 3 0 = 1 ∨ datagram.getD 3 0 = 4

instance (client : SessionUdp) (datagram : List UInt8) :
    Decidable (client.Resolves datagram) :=
  inferInstanceAs (Decidable (_ ∨ _))

/-! ## What the buffers hold -/

/-- More values than cells are not stored. -/
theorem storeAt_take (memory : Nat → UInt8) (addresses : List Nat)
    (values : List UInt8) :
    storeAt memory addresses (values.take addresses.length) =
      storeAt memory addresses values := by
  induction addresses generalizing memory values with
  | nil => cases values <;> rfl
  | cons cell rest inductionHypothesis =>
      cases values with
      | nil => rfl
      | cons value values =>
          rw [List.length_cons, List.take_succ_cons, storeAt, storeAt]
          exact inductionHypothesis _ _

/-- Buffer `index` holds as much of a datagram as it has room for. -/
def BufferHolds (memory : Nat → UInt8) (index : Nat)
    (datagram : List UInt8) : Prop :=
  (List.range' (slot index).buf (datagram.take udpBufSize).length).map memory =
    datagram.take udpBufSize

theorem receiveDatagrams_before (datagrams : List (List UInt8)) :
    ∀ (num index : Nat) (memory : Nat → UInt8) (address : Nat),
      address < udpBufSize * index →
      receiveDatagrams (slotsFrom index num) datagrams memory address =
        memory address := by
  induction datagrams with
  | nil =>
      intro num index memory address _
      cases num <;> rfl
  | cons datagram datagrams inductionHypothesis =>
      intro num index memory address before
      cases num with
      | zero => rfl
      | succ num =>
          have next : udpBufSize * (index + 1) =
              udpBufSize * index + udpBufSize := Nat.mul_succ _ _
          rw [slotsFrom_succ, receiveDatagrams,
            inductionHypothesis num (index + 1) _ address (by omega)]
          apply storeAt_of_notMem
          rw [cells_cons, cells_nil, List.append_nil, Iovec.cells,
            List.mem_range'_1]
          rintro ⟨inside, _⟩
          have begins : udpBufSize * index ≤ address := inside
          omega

/-- The kernel leaves each datagram in its buffer. -/
theorem receiveDatagrams_holds (datagrams : List (List UInt8)) :
    ∀ (num index : Nat) (memory : Nat → UInt8), datagrams.length ≤ num →
      ∀ (offset : Nat) (datagram : List UInt8),
        datagrams[offset]? = some datagram →
        BufferHolds (receiveDatagrams (slotsFrom index num) datagrams memory)
          (index + offset) datagram := by
  induction datagrams with
  | nil =>
      intro num index memory _ offset datagram member
      cases member
  | cons first datagrams inductionHypothesis =>
      intro num index memory room offset datagram member
      cases num with
      | zero => cases room
      | succ num =>
          have roomLater : datagrams.length ≤ num := Nat.le_of_succ_le_succ room
          rw [slotsFrom_succ, receiveDatagrams]
          cases offset with
          | succ offset =>
              have later := inductionHypothesis num (index + 1)
                (scatter memory
                  [{ base := (slot index).buf, len := (slot index).len }] first)
                roomLater offset datagram member
              rwa [Nat.add_assoc, Nat.add_comm 1] at later
          | zero =>
              cases member
              have size : (first.take udpBufSize).length ≤ udpBufSize :=
                List.length_take_le _ _
              have stored : (List.range' (slot index).buf
                    (first.take udpBufSize).length).map
                  (scatter memory
                    [{ base := (slot index).buf, len := (slot index).len }]
                    first) =
                  first.take udpBufSize := by
                have cut := storeAt_take memory
                  (List.range' (slot index).buf udpBufSize) first
                rw [List.length_range'] at cut
                have fills : ((List.range' (slot index).buf udpBufSize).take
                      (first.take udpBufSize).length).map
                    (storeAt memory _ (first.take udpBufSize)) =
                    first.take udpBufSize :=
                  map_storeAt List.nodup_range' (by rwa [List.length_range'])
                have room : (slot index).len = udpBufSize := rfl
                rw [List.take_range'_of_length_ge size, cut] at fills
                rwa [scatter, cells_cons, cells_nil, List.append_nil,
                  Iovec.cells, room]
              unfold BufferHolds
              conv_rhs => rw [← stored]
              apply List.map_congr_left
              intro address member
              rw [List.mem_range'_1] at member
              apply receiveDatagrams_before
              have start : (slot index).buf = udpBufSize * index := rfl
              rw [Nat.add_zero, start] at member
              rw [Nat.mul_succ]
              omega

/-! ## One datagram in the receiver -/

theorem addrLenOf_le (atype domainLen : UInt8) :
    addrLenOf atype domainLen ≤ 259 := by
  have byte := domainLen.toNat_lt
  unfold addrLenOf
  split <;> omega

theorem addrLenOf_pos {atype domainLen : UInt8}
    (valid : 0 < addrLenOf atype domainLen) :
    4 ≤ addrLenOf atype domainLen := by
  revert valid
  unfold addrLenOf
  split <;> omega

/-- A byte of a datagram lies where its buffer has it. -/
theorem BufferHolds.byte {memory : Nat → UInt8} {index offset : Nat}
    {datagram : List UInt8} (holds : BufferHolds memory index datagram)
    (stored : offset < udpBufSize) (inside : offset < datagram.length) :
    memory ((slot index).buf + offset) = datagram.getD offset 0 := by
  have size : offset < (datagram.take udpBufSize).length := by
    rw [List.length_take]
    omega
  have bytes := congrArg (·[offset]?) holds
  simp only [List.getElem?_map, List.getElem?_range' size, Option.map_some,
    Nat.one_mul, List.getElem?_take, if_pos stored] at bytes
  rw [List.getD_eq_getElem?_getD, ← bytes, Option.getD_some]

theorem BufferHolds.addrLen {memory : Nat → UInt8} {index : Nat}
    {datagram : List UInt8} (holds : BufferHolds memory index datagram)
    (long : 5 ≤ datagram.length) :
    addrLenAt memory ((slot index).buf + 3) = addrLenIn datagram := by
  have atype : memory ((slot index).buf + 3) = datagram.getD 3 0 :=
    holds.byte (by decide) (by omega)
  have domainLen : memory ((slot index).buf + 4) = datagram.getD 4 0 :=
    holds.byte (by decide) (by omega)
  unfold addrLenAt addrLenIn
  rw [Nat.add_assoc, atype, domainLen]

/-- What the receiver makes of the entry for a datagram that it takes. -/
def entryOf (index : Nat) (datagram : List UInt8) : HevSocks5UDPMsg :=
  if datagram.length < 4 then
    { addr := .null, buf := (slot index).buf, len := 0 }
  else
    { addr := .cell ((slot index).buf + 3)
      buf := (slot index).buf + (3 + addrLenIn datagram).toNat
      len := min udpBufSize datagram.length -
        (3 + addrLenIn datagram).toNat }

/-- A datagram of four bytes has no room for an address of any type. -/
theorem aborts_of_four {datagram : List UInt8} (four : datagram.length = 4) :
    Aborts datagram := by
  refine ⟨Nat.le_of_eq four.symm, ?_⟩
  by_cases valid : 0 < addrLenIn datagram
  · have least : 4 ≤ addrLenIn datagram := addrLenOf_pos valid
    exact .inr (by omega)
  · exact .inl (Int.not_lt.mp valid)

/-- One malformed datagram ends the receiver's loop. -/
theorem decodeUdp_aborts {memory : Nat → UInt8} {index : Nat}
    {datagram : List UInt8} (holds : BufferHolds memory index datagram)
    (aborts : Aborts datagram) (msgv : List HevSocks5UDPMsg)
    (lens : List Nat) :
    (decodeUdp memory (slot index :: msgv)
      (min (slot index).len datagram.length :: lens)).1 = false := by
  have room : (slot index).len = 1500 := rfl
  obtain ⟨long, malformed⟩ := aborts
  unfold decodeUdp
  simp only
  rw [if_neg (by omega)]
  split
  case isTrue => rfl
  case isFalse valid =>
    rw [if_pos]
    have most : addrLenIn datagram ≤ 259 := addrLenOf_le _ _
    have least := addrLenOf_pos (Int.not_le.mp valid)
    change 4 ≤ addrLenAt memory ((slot index).buf + 3) at least
    rcases Nat.lt_or_eq_of_le long with longer | four
    · rw [holds.addrLen longer] at valid ⊢
      omega
    · omega

/-- Any other datagram gets its entry, and the loop goes on. -/
theorem decodeUdp_takes {memory : Nat → UInt8} {index : Nat}
    {datagram : List UInt8} (holds : BufferHolds memory index datagram)
    (taken : ¬Aborts datagram) (msgv : List HevSocks5UDPMsg)
    (lens : List Nat) :
    decodeUdp memory (slot index :: msgv)
        (min (slot index).len datagram.length :: lens) =
      ((decodeUdp memory msgv lens).1,
        entryOf index datagram :: (decodeUdp memory msgv lens).2) := by
  have room : (slot index).len = udpBufSize := rfl
  have size : udpBufSize = 1500 := rfl
  conv_lhs => unfold decodeUdp
  unfold entryOf
  simp only [room]
  by_cases short : datagram.length < 4
  · rw [if_pos (by omega), if_pos short]
  · have five : datagram.length ≠ 4 := fun four => taken (aborts_of_four four)
    have most : addrLenIn datagram ≤ 259 := addrLenOf_le _ _
    unfold Aborts at taken
    rw [holds.addrLen (by omega), if_neg (by omega), if_neg short,
      if_neg (by omega), if_neg (by omega)]

/-! ## A batch in the receiver -/

/-- The entries for some datagrams, the first of which is in this buffer. -/
def entriesFrom : Nat → List (List UInt8) → List HevSocks5UDPMsg
  | _, [] => []
  | index, datagram :: datagrams =>
      entryOf index datagram :: entriesFrom (index + 1) datagrams

@[simp] theorem length_entriesFrom (index : Nat)
    (datagrams : List (List UInt8)) :
    (entriesFrom index datagrams).length = datagrams.length := by
  induction datagrams generalizing index with
  | nil => rfl
  | cons datagram datagrams inductionHypothesis =>
      exact congrArg (· + 1) (inductionHypothesis (index + 1))

theorem entriesFrom_set (datagrams : List (List UInt8)) :
    ∀ (index : Nat), ∀ msg ∈ entriesFrom index datagrams,
      msg.addr ≠ .indeterminate := by
  induction datagrams with
  | nil =>
      intro index msg member
      cases member
  | cons datagram datagrams inductionHypothesis =>
      intro index msg member
      rcases List.mem_cons.mp member with rfl | later
      · unfold entryOf
        split <;> exact Pointer.noConfusion
      · exact inductionHypothesis (index + 1) msg later

/-- Buffers from `index` on hold some datagrams. -/
def BuffersHold (memory : Nat → UInt8) (index : Nat)
    (datagrams : List (List UInt8)) : Prop :=
  ∀ (offset : Nat) (datagram : List UInt8),
    datagrams[offset]? = some datagram →
      BufferHolds memory (index + offset) datagram

theorem BuffersHold.head {memory : Nat → UInt8} {index : Nat}
    {datagram : List UInt8} {datagrams : List (List UInt8)}
    (hold : BuffersHold memory index (datagram :: datagrams)) :
    BufferHolds memory index datagram :=
  hold 0 datagram rfl

theorem BuffersHold.tail {memory : Nat → UInt8} {index : Nat}
    {datagram : List UInt8} {datagrams : List (List UInt8)}
    (hold : BuffersHold memory index (datagram :: datagrams)) :
    BuffersHold memory (index + 1) datagrams := by
  intro offset other member
  have later := hold (offset + 1) other member
  rwa [Nat.add_comm offset, ← Nat.add_assoc] at later

/-- The receiver's loop ends early where one datagram is malformed, and
otherwise leaves the entries of all. -/
theorem decodeUdp_batch {memory : Nat → UInt8} (datagrams : List (List UInt8)) :
    ∀ (num index : Nat), datagrams.length ≤ num →
      BuffersHold memory index datagrams →
      let decoded := decodeUdp memory (slotsFrom index num)
        (msgLens (slotsFrom index num) datagrams)
      if ∃ datagram ∈ datagrams, Aborts datagram then
        decoded.1 = false
      else
        decoded.1 = true ∧
          decoded.2.take datagrams.length = entriesFrom index datagrams := by
  induction datagrams with
  | nil =>
      intro num index _ _
      have none : ¬∃ datagram ∈ ([] : List (List UInt8)), Aborts datagram := by
        rintro ⟨_, member, _⟩
        cases member
      simp only [if_neg none, List.length_nil, List.take_zero]
      cases num <;> exact ⟨rfl, rfl⟩
  | cons datagram datagrams inductionHypothesis =>
      intro num index room hold
      cases num with
      | zero => cases room
      | succ num =>
          have rest := inductionHypothesis num (index + 1)
            (Nat.le_of_succ_le_succ room) hold.tail
          rw [slotsFrom_succ]
          simp only [msgLens] at rest ⊢
          by_cases aborts : Aborts datagram
          · rw [if_pos ⟨datagram, List.mem_cons_self, aborts⟩]
            exact decodeUdp_aborts hold.head aborts _ _
          · have same : (∃ other ∈ datagram :: datagrams, Aborts other) ↔
                ∃ other ∈ datagrams, Aborts other := by
              rw [List.exists_mem_cons_iff, or_iff_right aborts]
            rw [decodeUdp_takes hold.head aborts, List.length_cons,
              List.take_succ_cons, entriesFrom, List.cons_inj_right]
            simpa only [same] using rest

/-! ## One datagram in the session -/

/-- The data of an entry is what was stored behind its address. -/
theorem data_entryOf {memory : Nat → UInt8} {index : Nat}
    {datagram : List UInt8} (holds : BufferHolds memory index datagram)
    (wellFormed : WellFormedDatagram datagram) :
    (entryOf index datagram).data memory =
      (datagram.take udpBufSize).drop (3 + addrLenIn datagram).toNat := by
  obtain ⟨valid, more⟩ := wellFormed
  have long : ¬datagram.length < 4 := by omega
  unfold entryOf HevSocks5UDPMsg.data
  rw [if_neg long, ← holds, ← List.map_drop, List.drop_range',
    List.length_take, Nat.mul_one]

/-- The payload is complete exactly when the datagram fits its buffer. -/
theorem drop_take_eq_iff {datagram : List UInt8}
    (wellFormed : WellFormedDatagram datagram) :
    (datagram.take udpBufSize).drop (3 + addrLenIn datagram).toNat =
        datagram.drop (3 + addrLenIn datagram).toNat ↔
      datagram.length ≤ udpBufSize := by
  obtain ⟨valid, more⟩ := wellFormed
  have most : addrLenIn datagram ≤ 259 := addrLenOf_le _ _
  have size : udpBufSize = 1500 := rfl
  constructor
  · intro same
    have lengths := congrArg List.length same
    simp only [List.length_drop, List.length_take] at lengths
    omega
  · intro fits
    rw [List.take_of_length_le fits]

section

variable (client : SessionUdp) (sends : Nat → SendResult)
  (memory : Nat → UInt8)

/-- A datagram without data is passed over. -/
theorem handle_entryOf_skipped {index : Nat} {datagram : List UInt8}
    (taken : ¬Aborts datagram) (malformed : ¬WellFormedDatagram datagram)
    (send : SendResult) :
    client.handle memory send (entryOf index datagram) = some .skipped := by
  unfold SessionUdp.handle entryOf
  by_cases short : datagram.length < 4
  · simp only [if_pos short]
  · have empty : min udpBufSize datagram.length -
        (3 + addrLenIn datagram).toNat = 0 := by
      unfold Aborts at taken
      unfold WellFormedDatagram at malformed
      omega
    simp only [if_neg short, empty, if_true]

/-- The source of a reply is found where it resolves. -/
theorem source_isSome_iff {index : Nat} {datagram : List UInt8}
    (holds : BufferHolds memory index datagram)
    (wellFormed : WellFormedDatagram datagram) :
    (client.source memory ((slot index).buf + 3)).isSome = true ↔
      client.Resolves datagram := by
  have atype : memory ((slot index).buf + 3) = datagram.getD 3 0 :=
    holds.byte (by decide) (by have := wellFormed.1; have := wellFormed.2; omega)
  rw [SessionUdp.source_eq]
  unfold SessionUdp.Resolves
  by_cases remembers : client.Remembers
  · simp [remembers]
  · rw [if_neg remembers]
    unfold addrIntoLwip
    rw [atype]
    generalize datagram.getD 3 0 = byte
    have one : byte = 1 ↔ byte.toNat = 1 := UInt8.toNat_inj.symm
    have four : byte = 4 ↔ byte.toNat = 4 := UInt8.toNat_inj.symm
    rw [one, four]
    split
    case h_1 isOne => simp [isOne]
    case h_2 isFour => simp [isFour]
    case h_3 notOne notFour =>
      have neither : ¬(byte.toNat = 1 ∨ byte.toNat = 4) := not_or.mpr
        ⟨notOne, notFour⟩
      simp [remembers, neither]

/-- A datagram that is well formed is sent when lwIP takes it and it has a
source, with what its buffer has of its payload. -/
theorem handle_entryOf_wellFormed {index : Nat} {datagram : List UInt8}
    (holds : BufferHolds memory index datagram)
    (wellFormed : WellFormedDatagram datagram) (send : SendResult) :
    if client.Resolves datagram ∧ send = .sent then
      ∃ source port, client.handle memory send (entryOf index datagram) =
        some (.sent ⟨source, port, (datagram.take udpBufSize).drop
          (3 + addrLenIn datagram).toNat⟩)
    else
      client.handle memory send (entryOf index datagram) = some .refused := by
  have data := data_entryOf holds wellFormed
  have found := source_isSome_iff client memory holds wellFormed
  obtain ⟨valid, more⟩ := wellFormed
  have most : addrLenIn datagram ≤ 259 := addrLenOf_le _ _
  have size : udpBufSize = 1500 := rfl
  have long : ¬datagram.length < 4 := by omega
  have addr : (entryOf index datagram).addr = .cell ((slot index).buf + 3) := by
    unfold entryOf
    rw [if_neg long]
  have nonempty : (entryOf index datagram).len ≠ 0 := by
    unfold entryOf
    rw [if_neg long]
    change min udpBufSize datagram.length - (3 + addrLenIn datagram).toNat ≠ 0
    omega
  unfold SessionUdp.handle
  rw [addr]
  simp only [if_neg nonempty, data]
  cases answer : client.source memory ((slot index).buf + 3) with
  | none =>
      rw [answer] at found
      have unresolved : ¬client.Resolves datagram := by
        rw [← found]
        exact Bool.false_ne_true
      rw [if_neg fun both => unresolved both.1]
  | some source =>
      rw [answer] at found
      have resolves : client.Resolves datagram := found.mp rfl
      cases send with
      | sent =>
          rw [if_pos ⟨resolves, rfl⟩]
          exact ⟨source.1, source.2, rfl⟩
      | noBuffer =>
          rw [if_neg fun both => SendResult.noConfusion both.2]
      | refused =>
          rw [if_neg fun both => SendResult.noConfusion both.2]

/-! ## A batch in the session -/

/-- What is sent for the entries of a batch are the payloads of its well-formed
datagrams exactly when each of these fits its buffer, has a source and is taken
by lwIP. -/
theorem deliveries_exact_iff (datagrams : List (List UInt8)) :
    ∀ (index : Nat), BuffersHold memory index datagrams →
      (∀ datagram ∈ datagrams, ¬Aborts datagram) →
      ((client.deliveries sends memory index
            (entriesFrom index datagrams)).map Datagram.payload =
          datagrams.filterMap fullPayload ↔
        ∀ (offset : Nat) (datagram : List UInt8),
          datagrams[offset]? = some datagram → WellFormedDatagram datagram →
          datagram.length ≤ udpBufSize ∧ client.Resolves datagram ∧
            sends (index + offset) = .sent) := by
  induction datagrams with
  | nil =>
      intro index _ _
      refine iff_of_true rfl ?_
      intro offset datagram member
      cases member
  | cons datagram datagrams inductionHypothesis =>
      intro index hold taken
      have rest := inductionHypothesis (index + 1) hold.tail
        fun other member => taken other (List.mem_cons_of_mem _ member)
      have byOffset : (∀ (offset : Nat) (other : List UInt8),
            (datagram :: datagrams)[offset]? = some other →
            WellFormedDatagram other → other.length ≤ udpBufSize ∧ client.Resolves other ∧
              sends (index + offset) = .sent) ↔
          (WellFormedDatagram datagram → datagram.length ≤ udpBufSize ∧
              client.Resolves datagram ∧ sends index = .sent) ∧
            ∀ (offset : Nat) (other : List UInt8),
              datagrams[offset]? = some other → WellFormedDatagram other →
              other.length ≤ udpBufSize ∧ client.Resolves other ∧
                sends (index + 1 + offset) = .sent := by
        constructor
        · intro all
          refine ⟨all 0 datagram rfl, ?_⟩
          intro offset other member
          rw [Nat.add_assoc, Nat.add_comm 1]
          exact all (offset + 1) other member
        · rintro ⟨first, later⟩ offset other member
          cases offset with
          | zero =>
              cases member
              exact first
          | succ offset =>
              rw [Nat.add_comm offset, ← Nat.add_assoc]
              exact later offset other member
      rw [byOffset, ← rest, entriesFrom, SessionUdp.deliveries,
        List.filterMap_cons, fullPayload]
      by_cases wellFormed : WellFormedDatagram datagram
      case neg =>
        rw [handle_entryOf_skipped client memory
          (taken datagram List.mem_cons_self) wellFormed, if_neg wellFormed]
        simp only [wellFormed, false_implies, true_and]
      case pos =>
        have fits := drop_take_eq_iff wellFormed
        have handled := handle_entryOf_wellFormed client memory hold.head
          wellFormed (sends index)
        rw [if_pos wellFormed]
        by_cases goes : client.Resolves datagram ∧ sends index = .sent
        · rw [if_pos goes] at handled
          obtain ⟨source, port, handled⟩ := handled
          rw [handled]
          simp only [List.map_cons, List.cons.injEq, fits]
          constructor
          · rintro ⟨short, same⟩
            exact ⟨fun _ => ⟨short, goes⟩, same⟩
          · rintro ⟨first, same⟩
            exact ⟨(first wellFormed).1, same⟩
        · rw [if_neg goes] at handled
          rw [handled]
          simp only [List.map_nil, reduceCtorEq, false_iff]
          rintro ⟨first, _⟩
          exact goes (first wellFormed).2

end

/-- The session sends, in order, exactly the full payload of each well-formed
datagram of a batch. -/
def SessionUdp.DeliversBatch (client : SessionUdp) (sends : Nat → SendResult)
    {num : Nat} (memory : Nat → UInt8) (socket : RelaySocket)
    (batch : RelayBatch num) : Prop :=
  ∃ res sent, client.fwdBUdp sends num memory socket (.ok batch.datagrams) =
      .ok (res, sent) ∧
    sent.map Datagram.payload = batch.datagrams.filterMap fullPayload

/-- No payload is due exactly where no datagram is well formed. -/
theorem filterMap_fullPayload_eq_nil_iff (datagrams : List (List UInt8)) :
    datagrams.filterMap fullPayload = [] ↔
      ∀ datagram ∈ datagrams, ¬WellFormedDatagram datagram := by
  rw [List.filterMap_eq_nil_iff]
  apply forall₂_congr
  intro datagram _
  unfold fullPayload
  split <;> simp [*]

/-- What the session sends for a batch that the receiver does not take. -/
theorem fwdBUdp_of_failed (client : SessionUdp) (sends : Nat → SendResult)
    {num : Nat} {memory : Nat → UInt8} {socket : RelaySocket}
    {received : Except Errno (List (List UInt8))}
    (failed : (recvmmsgUdp (slots num) memory socket received).res = -1) :
    ∃ res, client.fwdBUdp sends num memory socket received = .ok (res, []) := by
  unfold SessionUdp.fwdBUdp
  simp only [failed]
  rw [if_pos (by decide)]
  split <;> exact ⟨_, rfl⟩

theorem deliversBatch_iff_of_eq {client : SessionUdp}
    {sends : Nat → SendResult} {num : Nat} {memory : Nat → UInt8}
    {socket : RelaySocket} {batch : RelayBatch num} {res : Int}
    {sent : List Datagram}
    (call : client.fwdBUdp sends num memory socket (.ok batch.datagrams) =
      .ok (res, sent)) :
    client.DeliversBatch sends memory socket batch ↔
      sent.map Datagram.payload = batch.datagrams.filterMap fullPayload := by
  constructor
  · rintro ⟨other, otherSent, otherCall, delivered⟩
    rw [call] at otherCall
    cases otherCall
    exact delivered
  · intro delivered
    exact ⟨res, sent, call, delivered⟩

/-- A batch that the receiver does not take is delivered where nothing is
due. -/
theorem deliversBatch_iff_of_failed {client : SessionUdp}
    {sends : Nat → SendResult} {num : Nat} {memory : Nat → UInt8}
    {socket : RelaySocket} {batch : RelayBatch num}
    (failed : (recvmmsgUdp (slots num) memory socket
      (.ok batch.datagrams)).res = -1) :
    client.DeliversBatch sends memory socket batch ↔
      ∀ datagram ∈ batch.datagrams, ¬WellFormedDatagram datagram := by
  obtain ⟨res, call⟩ := fwdBUdp_of_failed client sends failed
  rw [deliversBatch_iff_of_eq call, ← filterMap_fullPayload_eq_nil_iff,
    List.map_nil, eq_comm]

section

variable {num : Nat} (memory : Nat → UInt8) (socket : RelaySocket)
  (batch : RelayBatch num)

/-- The buffers hold the batch after it was received. -/
theorem RelayBatch.holds :
    BuffersHold (receiveDatagrams (slots num) batch.datagrams memory) 0
      batch.datagrams :=
  receiveDatagrams_holds batch.datagrams num 0 memory batch.within

/-- What the receiver makes of a batch, which is never empty. -/
theorem recvmmsgUdp_batch :
    let stored := receiveDatagrams (slots num) batch.datagrams memory
    let decoded := decodeUdp stored (slots num)
      (msgLens (slots num) batch.datagrams)
    recvmmsgUdp (slots num) memory socket (.ok batch.datagrams) =
      if socket.udpAssociated = false ∧ socket.connects = false then
        ⟨-1, slots num, stored, { socket with errno := .other }⟩
      else
        ⟨if decoded.1 = true then batch.datagrams.length else -1, decoded.2,
          stored, { socket with udpAssociated := true }⟩ := by
  have nonempty : batch.datagrams ≠ [] :=
    List.ne_nil_of_length_pos batch.positive
  unfold recvmmsgUdp
  simp only [if_neg nonempty]
  split
  · rfl
  · split <;> rfl

/-- The receiver takes no batch before the socket is connected. -/
theorem recvmmsgUdp_unconnected
    (unconnected : socket.udpAssociated = false ∧ socket.connects = false) :
    (recvmmsgUdp (slots num) memory socket (.ok batch.datagrams)).res = -1 := by
  rw [recvmmsgUdp_batch memory socket batch, if_pos unconnected]

/-- It takes no batch with a malformed datagram of four bytes or more. -/
theorem recvmmsgUdp_aborts
    (aborts : ∃ datagram ∈ batch.datagrams, Aborts datagram) :
    (recvmmsgUdp (slots num) memory socket (.ok batch.datagrams)).res = -1 := by
  have outcome := decodeUdp_batch batch.datagrams num 0 batch.within
    (batch.holds memory)
  have same : slotsFrom 0 num = slots num := rfl
  simp only [if_pos aborts, same] at outcome
  rw [recvmmsgUdp_batch memory socket batch]
  split
  · rfl
  · simp only [outcome]
    rfl

/-- It takes any other batch, and the session goes through its entries. -/
theorem fwdBUdp_of_taken (client : SessionUdp) (sends : Nat → SendResult)
    (connected : ¬(socket.udpAssociated = false ∧ socket.connects = false))
    (taken : ¬∃ datagram ∈ batch.datagrams, Aborts datagram) :
    ∃ res, client.fwdBUdp sends num memory socket (.ok batch.datagrams) =
      .ok (res, client.deliveries sends
        (receiveDatagrams (slots num) batch.datagrams memory) 0
        (entriesFrom 0 batch.datagrams)) := by
  have positive := batch.positive
  have outcome := decodeUdp_batch batch.datagrams num 0 batch.within
    (batch.holds memory)
  have same : slotsFrom 0 num = slots num := rfl
  simp only [if_neg taken, same] at outcome
  obtain ⟨whole, entries⟩ := outcome
  obtain ⟨res, loop⟩ := client.fwdBLoop_eq_deliveries sends
    (receiveDatagrams (slots num) batch.datagrams memory)
    (entriesFrom 0 batch.datagrams) 0 [] (entriesFrom_set batch.datagrams 0)
    (by rw [List.drop_zero, length_entriesFrom]; exact entries)
  rw [length_entriesFrom, List.nil_append] at loop
  refine ⟨res, ?_⟩
  unfold SessionUdp.fwdBUdp
  simp only [recvmmsgUdp_batch memory socket batch, if_neg connected, whole,
    if_true]
  rw [if_neg (by omega), Int.toNat_natCast]
  exact loop

end

/-- A batch is delivered exactly when none of its datagrams is well formed, or
the socket is connected, no datagram is malformed with four bytes or more, and
each well-formed one fits a buffer, has a source and is taken by lwIP. -/
theorem fwd_b_udp_exact_iff (client : SessionUdp) (sends : Nat → SendResult)
    (num : Nat) (memory : Nat → UInt8) (socket : RelaySocket)
    (batch : RelayBatch num) :
    client.DeliversBatch sends memory socket batch ↔
      (∀ datagram ∈ batch.datagrams, ¬WellFormedDatagram datagram) ∨
        (socket.udpAssociated = true ∨ socket.connects = true) ∧
          (∀ datagram ∈ batch.datagrams, ¬Aborts datagram) ∧
          ∀ (index : Nat) (datagram : List UInt8),
            batch.datagrams[index]? = some datagram →
            WellFormedDatagram datagram →
            datagram.length ≤ udpBufSize ∧ client.Resolves datagram ∧
              sends index = .sent := by
  by_cases unconnected : socket.udpAssociated = false ∧ socket.connects = false
  · have not : ¬(socket.udpAssociated = true ∨ socket.connects = true) := by
      rw [unconnected.1, unconnected.2]
      decide
    rw [deliversBatch_iff_of_failed
      (recvmmsgUdp_unconnected memory socket batch unconnected)]
    exact ⟨.inl, fun holds => holds.resolve_right fun right => not right.1⟩
  by_cases aborts : ∃ datagram ∈ batch.datagrams, Aborts datagram
  · rw [deliversBatch_iff_of_failed
      (recvmmsgUdp_aborts memory socket batch aborts)]
    obtain ⟨datagram, member, malformed⟩ := aborts
    exact ⟨.inl, fun holds => holds.resolve_right fun right =>
      right.2.1 datagram member malformed⟩
  have taken : ∀ datagram ∈ batch.datagrams, ¬Aborts datagram :=
    fun datagram member malformed => aborts ⟨datagram, member, malformed⟩
  obtain ⟨res, sent⟩ :=
    fwdBUdp_of_taken memory socket batch client sends unconnected aborts
  rw [deliversBatch_iff_of_eq sent, deliveries_exact_iff client sends _
    batch.datagrams 0 (batch.holds memory) taken]
  simp only [Nat.zero_add]
  constructor
  · intro each
    refine .inr ⟨?_, taken, each⟩
    rw [not_and_or, Bool.not_eq_false, Bool.not_eq_false] at unconnected
    exact unconnected
  · rintro (none | ⟨_, _, each⟩)
    · intro index datagram entry wellFormed
      exact absurd wellFormed (none datagram (List.mem_of_getElem? entry))
    · exact each

/-- Two datagrams, the first with an address type that does not exist. -/
def malformedFirst : RelayBatch 2 where
  datagrams := [[0, 0, 0, 9, 0], [0, 0, 0, 1, 8, 8, 8, 8, 0, 53, 7]]
  positive := by decide
  within := by decide
  bounded := by decide

/-- The first costs the second its delivery. -/
theorem malformed_datagram_loses_batch :
    ¬∀ (client : SessionUdp) (sends : Nat → SendResult) (num : Nat)
      (memory : Nat → UInt8) (socket : RelaySocket) (batch : RelayBatch num),
      client.DeliversBatch sends memory socket batch := by
  intro always
  obtain ⟨res, sent, call, delivered⟩ := always ⟨[0, 0, 0, 0], 0⟩
    (fun _ => .sent) 2 (fun _ => 0) ⟨true, true, .other⟩ malformedFirst
  have nothing : SessionUdp.fwdBUdp ⟨[0, 0, 0, 0], 0⟩ (fun _ => .sent) 2
      (fun _ => 0) ⟨true, true, .other⟩ (.ok malformedFirst.datagrams) =
      .ok (-1, []) := by decide +kernel
  rw [nothing] at call
  cases call
  revert delivered
  decide

end ProxyVPN
