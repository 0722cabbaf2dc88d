/-
Module: ProxyVPN.Hev.SessionTcpDownstream
Purpose: Integrity of the downstream direction of a TCP session, from the
  SOCKS socket through the ring buffer to the lwIP pcb.  The bytes lwIP
  enqueues are a beginning of the bytes read as long as no chunk is enqueued
  after an earlier chunk of the same step was refused; the transmit side is
  shut down only when everything read has been enqueued.
Trusted boundary: none
Main exports: SessionTcp.Downstream, SessionTcp.NoGap,
  SessionTcp.downstream_integrity, SessionTcp.second_chunk_overtakes
-/
import ProxyVPN.Hev.RingBufferFifo
import ProxyVPN.Hev.SessionTcp

namespace ProxyVPN.SessionTcp

open Scatter Transition Lwip

/-- The chunks of one locked step are refused from some chunk on, if at all:
no `tcp_write` succeeds after one that failed. -/
def NoGap (_ : SessionTcp) : Event → Prop
  | .lockedB writes _ =>
      writes.Pairwise fun earlier later => later = .ok → earlier = .ok
  | _ => True

/-- How the ring buffer holds the part of the stream between the two
connections.  While the direction is open, everything taken from the ring has
been enqueued. -/
structure Carries (session : SessionTcp) (queue : Fifo (Nat × UInt8)) :
    Prop where
  wellFormed : RingUse.WellFormed { ring := session.buffer, queue := queue }
  history : queue.history.map Prod.snd = session.socketIn
  released : queue.released.length = session.acked
  enqueued : session.pcbOut.length ≤ queue.finished
  complete : 0 ≤ session.resB → session.pcbOut = session.socketIn.take queue.finished

/-- The invariant of the downstream direction. -/
structure Downstream (session : SessionTcp) : Prop where
  size : session.buffer.maxSize ≤ TCP_SND_BUF
  ring : ∃ queue, Carries session queue
  inOrder : session.pcbOut <+: session.socketIn
  acked : session.acked ≤ session.pcbOut.length
  shutdown : ∀ snapshot ∈ session.shutTx, snapshot.1 = snapshot.2
  writing : ∀ res, session.pc = .lockB res → 0 ≤ session.resB

/-- Two states that agree on everything downstream. -/
structure SameDownstream (before after : SessionTcp) : Prop where
  buffer : after.buffer = before.buffer
  resB : after.resB = before.resB
  socketIn : after.socketIn = before.socketIn
  pcbOut : after.pcbOut = before.pcbOut
  acked : after.acked = before.acked
  shutTx : after.shutTx = before.shutTx

theorem Downstream.of_same {before after : SessionTcp}
    (holds : Downstream before) (same : SameDownstream before after)
    (writing : ∀ res, after.pc = .lockB res → 0 ≤ before.resB) :
    Downstream after := by
  rcases holds.ring with ⟨queue, carries⟩
  constructor
  · rw [same.buffer]
    exact holds.size
  · exact
      ⟨queue,
        { wellFormed := by rw [same.buffer]; exact carries.wellFormed
          history := carries.history.trans same.socketIn.symm
          released := carries.released.trans same.acked.symm
          enqueued := by rw [same.pcbOut]; exact carries.enqueued
          complete := by
            rw [same.resB, same.pcbOut, same.socketIn]
            exact carries.complete }⟩
  · rw [same.pcbOut, same.socketIn]
    exact holds.inOrder
  · rw [same.acked, same.pcbOut]
    exact holds.acked
  · rw [same.shutTx]
    exact holds.shutdown
  · rw [same.resB]
    exact writing

theorem splice_downstream {queue : Pbuf} {pcbEof : Bool}
    {tcpBufferSize : Nat} {data : Nat → UInt8}
    (clamped : tcpBufferSize ≤ TCP_SND_BUF) :
    Downstream (splice queue pcbEof tcpBufferSize data) where
  size := clamped
  ring :=
    ⟨Fifo.empty,
      { wellFormed := RingUse.alloca_wellFormed tcpBufferSize data
        history := rfl
        released := rfl
        enqueued := Nat.le_refl 0
        complete := fun _ => rfl }⟩
  inOrder := List.nil_prefix
  acked := Nat.le_refl 0
  shutdown := by
    intro snapshot member
    cases member
  writing := by
    intro res atLock
    cases atLock

/-! ### The upstream half of the loop leaves the downstream half alone -/

theorem tcpSpliceF_same {self next : SessionTcp} {result : WritevResult}
    (executed : self.tcpSpliceF result = some next) :
    SameDownstream self next ∧ ∀ res, next.pc ≠ .lockB res := by
  unfold tcpSpliceF at executed
  split at executed
  · cases result with
    | wrote size =>
        simp only [Option.ite_none_right_eq_some, Option.some.injEq]
          at executed
        rcases executed with ⟨-, rfl⟩
        exact ⟨⟨rfl, rfl, rfl, rfl, rfl, rfl⟩, by simp⟩
    | again =>
        cases executed
        exact ⟨⟨rfl, rfl, rfl, rfl, rfl, rfl⟩, by simp⟩
    | failed =>
        cases executed
        exact ⟨⟨rfl, rfl, rfl, rfl, rfl, rfl⟩, by simp⟩
  · split at executed
    all_goals
      cases executed
      exact ⟨⟨rfl, rfl, rfl, rfl, rfl, rfl⟩, by simp⟩

theorem endIteration_same (self : SessionTcp) (yielder : Int) :
    SameDownstream self (self.endIteration yielder) ∧
      ∀ res, (self.endIteration yielder).pc ≠ .lockB res := by
  unfold endIteration
  split
  · split
    all_goals exact ⟨⟨rfl, rfl, rfl, rfl, rfl, rfl⟩, by simp⟩
  · exact ⟨⟨rfl, rfl, rfl, rfl, rfl, rfl⟩, by simp⟩

theorem drainStep_same {self : SessionTcp} (yielder : Int)
    (draining : self.pc = .drain) :
    SameDownstream self (self.drainStep yielder) ∧
      ∀ res, (self.drainStep yielder).pc ≠ .lockB res := by
  unfold drainStep
  split
  · exact ⟨⟨rfl, rfl, rfl, rfl, rfl, rfl⟩, by simp⟩
  · split
    · exact ⟨⟨rfl, rfl, rfl, rfl, rfl, rfl⟩, by simp⟩
    · split
      · exact ⟨⟨rfl, rfl, rfl, rfl, rfl, rfl⟩, by simp⟩
      · exact ⟨⟨rfl, rfl, rfl, rfl, rfl, rfl⟩, by simp [draining]⟩

/-! ### The read half of `tcp_splice_b` -/

theorem tcpSpliceB_downstream {self next : SessionTcp}
    {result : ReadvResult} (holds : Downstream self) (isOpen : 0 ≤ self.resB)
    (executed : self.tcpSpliceB result = some next) : Downstream next := by
  unfold tcpSpliceB at executed
  split at executed
  case isFalse =>
    cases executed
    exact holds.of_same ⟨rfl, rfl, rfl, rfl, rfl, rfl⟩ fun _ _ => isOpen
  case isTrue =>
    cases result with
    | again | eof | failed =>
        cases executed
        exact holds.of_same ⟨rfl, rfl, rfl, rfl, rfl, rfl⟩ fun _ _ => isOpen
    | data bytes =>
        simp only [Option.ite_none_right_eq_some, Option.some.injEq]
          at executed
        rcases executed with ⟨⟨-, fits⟩, rfl⟩
        rcases holds.ring with ⟨queue, carries⟩
        have wellFormed := RingUse.write_wellFormed carries.wellFormed fits
        have snds :
            ((cells self.buffer.writing).zip bytes).map Prod.snd = bytes := by
          apply List.map_snd_zip
          rwa [cells_length]
        have historyLength : queue.finished ≤ self.socketIn.length := by
          rw [← carries.history, List.length_map, Fifo.history, Fifo.finished]
          simp
        constructor
        · exact holds.size
        · exact
            ⟨_,
              { wellFormed := wellFormed
                history := by
                  rw [Fifo.history_write, List.map_append, carries.history,
                    snds]
                released := carries.released
                enqueued := carries.enqueued
                complete := fun isOpen => by
                  rw [carries.complete isOpen, Fifo.finished_write,
                    List.take_append_of_le_length historyLength] }⟩
        · exact holds.inOrder.trans (List.prefix_append _ _)
        · exact holds.acked
        · exact holds.shutdown
        · intro _ _
          exact isOpen

/-! ### The locked half of `tcp_splice_b` -/

/-- Without a gap the chunks enqueued are a beginning of those presented. -/
theorem tcpWriteChunks_noGap (data : Nat → UInt8) {iovs : List Iovec}
    (short : ∀ iov ∈ iovs, iov.len < 65536) {writes : List TcpWriteResult}
    (noGap : writes.Pairwise fun earlier later => later = .ok → earlier = .ok) :
    (tcpWriteChunks data iovs writes).2 <+: gather data iovs := by
  induction iovs generalizing writes with
  | nil => simp [tcpWriteChunks]
  | cons iov iovs inductionHypothesis =>
      cases writes with
      | nil => simp [tcpWriteChunks]
      | cons result results =>
          rcases List.pairwise_cons.mp noGap with ⟨headFirst, noGapRest⟩
          have shortRest : ∀ iov ∈ iovs, iov.len < 65536 := by
            intro other member
            exact short other (List.mem_cons_of_mem iov member)
          cases result with
          | ok =>
              have whole : u16 iov.len = iov.len := by
                apply Nat.mod_eq_of_lt
                exact short iov List.mem_cons_self
              have split :
                  gather data (iov :: iovs) =
                    gather data [iov] ++ gather data iovs := by
                simp [gather]
              simp only [tcpWriteChunks, whole]
              rw [split, List.prefix_append_right_inj]
              exact inductionHypothesis shortRest noGapRest
          | mem =>
              have none := tcpWriteChunks_none data iovs fun other member ok =>
                TcpWriteResult.noConfusion (headFirst other member ok)
              simp only [tcpWriteChunks, none]
              exact List.nil_prefix
where
  tcpWriteChunks_none (data : Nat → UInt8) (iovs : List Iovec)
      {writes : List TcpWriteResult} (refused : ∀ result ∈ writes, result ≠ .ok) :
      (tcpWriteChunks data iovs writes).2 = [] := by
    induction iovs generalizing writes with
    | nil => rfl
    | cons iov iovs inductionHypothesis =>
        cases writes with
        | nil => rfl
        | cons result results =>
            have rest := inductionHypothesis fun other member =>
              refused other (List.mem_cons_of_mem result member)
            cases result with
            | ok => exact absurd rfl (refused .ok List.mem_cons_self)
            | mem => simp [tcpWriteChunks, rest]

/-- When no chunk failed, everything presented was enqueued. -/
theorem tcpWriteChunks_ok (data : Nat → UInt8) {iovs : List Iovec}
    (short : ∀ iov ∈ iovs, iov.len < 65536) {writes : List TcpWriteResult}
    (paired : writes.length = iovs.length)
    (ok : (tcpWriteChunks data iovs writes).1 = ERR_OK) :
    (tcpWriteChunks data iovs writes).2 = gather data iovs := by
  induction iovs generalizing writes with
  | nil => rfl
  | cons iov iovs inductionHypothesis =>
      cases writes with
      | nil => cases paired
      | cons result results =>
          simp only [tcpWriteChunks, ERR_OK, BitVec.or_eq_zero_iff] at ok
          have shortRest : ∀ iov ∈ iovs, iov.len < 65536 := by
            intro other member
            exact short other (List.mem_cons_of_mem iov member)
          have rest := inductionHypothesis shortRest
            (Nat.succ.inj paired) ok.2
          cases result with
          | ok =>
              have whole : u16 iov.len = iov.len := by
                apply Nat.mod_eq_of_lt
                exact short iov List.mem_cons_self
              simp [tcpWriteChunks, whole, rest, gather]
          | mem => exact absurd ok.1 (by decide)

theorem reading_short {self : SessionTcp}
    (holds : Downstream self) {queue : Fifo (Nat × UInt8)}
    (carries : Carries self queue) :
    ∀ iov ∈ self.buffer.reading, iov.len < 65536 := by
  intro iov member
  have bounded := len_le_total member
  have readable : total self.buffer.reading = self.buffer.rdaSize :=
    carries.wellFormed.total_reading.trans carries.wellFormed.rdaSize.symm
  have rdaBound : self.buffer.rdaSize ≤ self.buffer.useSize :=
    carries.wellFormed.rdaBound
  have useBound : self.buffer.useSize ≤ self.buffer.maxSize :=
    carries.wellFormed.useBound
  have size := holds.size
  simp only [TCP_SND_BUF, TCP_MSS] at size
  omega

namespace Carries

variable {session : SessionTcp} {queue : Fifo (Nat × UInt8)}

/-- The ring presents the rest of the stream. -/
theorem presented (carries : Carries session queue) :
    gather session.buffer.data session.buffer.reading =
      session.socketIn.drop queue.finished := by
  have readable := carries.wellFormed.gather_reading
  simp only at readable
  rw [readable, Fifo.readable_eq_drop, List.map_drop, carries.history]

theorem total_presented (carries : Carries session queue) :
    total session.buffer.reading =
      (session.socketIn.drop queue.finished).length := by
  rw [← carries.presented, gather, List.length_map, cells_length]

/-- With nothing readable, everything read has been enqueued. -/
theorem drained (carries : Carries session queue) (isOpen : 0 ≤ session.resB)
    (empty : session.buffer.reading = []) :
    session.pcbOut = session.socketIn := by
  have rest := carries.presented
  rw [empty] at rest
  rw [carries.complete isOpen, List.take_of_length_le]
  exact List.drop_eq_nil_iff.mp rest.symm

end Carries

/-- What a step enqueues continues what was enqueued before. -/
theorem tcpWriteChunks_inOrder {self : SessionTcp}
    {queue : Fifo (Nat × UInt8)} (carries : Carries self queue)
    (isOpen : 0 ≤ self.resB) {enqueued : List UInt8}
    (chunks : enqueued <+: gather self.buffer.data self.buffer.reading) :
    self.pcbOut ++ enqueued <+: self.socketIn := by
  rw [carries.presented] at chunks
  have joined :=
    (List.prefix_append_right_inj (self.socketIn.take queue.finished)).mpr
      chunks
  rw [List.take_append_drop] at joined
  rw [carries.complete isOpen]
  exact joined

/-- A step that enqueues all it presented keeps up with the ring. -/
theorem tcpWriteChunks_complete {self : SessionTcp}
    {queue : Fifo (Nat × UInt8)} (carries : Carries self queue)
    (isOpen : 0 ≤ self.resB) :
    self.pcbOut ++ gather self.buffer.data self.buffer.reading =
      self.socketIn.take (queue.finished + total self.buffer.reading) := by
  rw [carries.complete isOpen, carries.presented, List.take_add,
    carries.total_presented, List.take_length]

/-- Enqueueing the presented chunks without a gap, and taking them from the
ring, keeps the invariant whatever error the step ends with. -/
theorem enqueue_downstream {self : SessionTcp} {writes : List TcpWriteResult}
    {output : ErrT} (holds : Downstream self) (isOpen : 0 ≤ self.resB)
    (noGap : writes.Pairwise fun earlier later => later = .ok → earlier = .ok)
    (paired : writes.length = self.buffer.reading.length) :
    let written :=
      tcpWriteChunks self.buffer.data self.buffer.reading writes
    Downstream
      { self with
        buffer := self.buffer.readFinish (total self.buffer.reading)
        pcbOut := self.pcbOut ++ written.2
        resB := if written.1 ||| output ≠ ERR_OK then -1 else 1
        pc := .yield } := by
  intro written
  rcases holds.ring with ⟨queue, carries⟩
  have short := reading_short holds carries
  have available : total self.buffer.reading ≤ queue.readable.length :=
    Nat.le_of_eq carries.wellFormed.total_reading
  have chunks : written.2 <+: gather self.buffer.data self.buffer.reading :=
    tcpWriteChunks_noGap self.buffer.data short noGap
  constructor
  · exact holds.size
  · refine
      ⟨queue.finish (total self.buffer.reading),
        { wellFormed :=
            RingUse.readFinish_wellFormed carries.wellFormed (Nat.le_refl _)
          history := by
            rw [Fifo.history_finish]
            exact carries.history
          released := carries.released
          enqueued := ?_
          complete := ?_ }⟩
    · have chunksLength := chunks.length_le
      rw [gather, List.length_map, cells_length] at chunksLength
      rw [Fifo.finished_finish available, List.length_append]
      exact Nat.add_le_add carries.enqueued chunksLength
    · intro stillOpen
      have noError : written.1 ||| output = ERR_OK := by
        by_contra failed
        simp only [ne_eq, failed, not_false_eq_true, if_true] at stillOpen
        exact absurd stillOpen (by decide)
      rw [ERR_OK, BitVec.or_eq_zero_iff] at noError
      have everything :
          written.2 = gather self.buffer.data self.buffer.reading :=
        tcpWriteChunks_ok self.buffer.data short paired noError.1
      rw [Fifo.finished_finish available, everything]
      exact tcpWriteChunks_complete carries isOpen
  · exact tcpWriteChunks_inOrder carries isOpen chunks
  · have acked := holds.acked
    simp only [List.length_append]
    omega
  · exact holds.shutdown
  · intro res atLock
    cases atLock

theorem tcpSpliceBLocked_downstream {self next : SessionTcp} {res : Int}
    {writes : List TcpWriteResult} {output : ErrT} (holds : Downstream self)
    (isOpen : 0 ≤ self.resB)
    (noGap : writes.Pairwise fun earlier later => later = .ok → earlier = .ok)
    (executed : self.tcpSpliceBLocked res writes output = some next) :
    Downstream next := by
  rcases holds.ring with ⟨queue, carries⟩
  -- The direction may be closed at any time, and stay open when complete.
  have closing (res : Int) (shutTx : List (List UInt8 × List UInt8)) :
      ∃ queue,
        Carries { self with resB := res, pc := .yield, shutTx := shutTx }
          queue :=
    ⟨queue,
      { carries with complete := fun _ => carries.complete isOpen }⟩
  unfold tcpSpliceBLocked at executed
  split at executed
  case isFalse =>
    cases executed
    exact { holds with ring := closing (-1) _, writing := by simp }
  case isTrue =>
    simp only at executed
    split at executed
    case isTrue => cases executed
    case isFalse paired =>
      split at executed
      case isTrue =>
        cases executed
        exact enqueue_downstream holds isOpen noGap (not_ne_iff.mp paired)
      case isFalse drained =>
        split at executed
        · cases executed
          refine
            { holds with
              ring := closing res _
              shutdown := ?_
              writing := by simp }
          intro snapshot member
          rcases List.mem_append.mp member with old | new
          · exact holds.shutdown snapshot old
          · rw [List.mem_singleton] at new
            subst new
            exact (carries.drained isOpen (not_ne_iff.mp drained)).symm
        · cases executed
          exact { holds with ring := closing res _, writing := by simp }

/-! ### Acknowledgements and whole runs -/

theorem tcpSentHandler_downstream {self : SessionTcp} {len : Nat}
    (holds : Downstream self) (within : self.acked + len ≤ self.pcbOut.length) :
    Downstream (self.tcpSentHandler len) := by
  rcases holds.ring with ⟨queue, carries⟩
  have enqueued := carries.enqueued
  have released := carries.released
  have held : len ≤ queue.inFlight.length := by
    rw [Fifo.finished] at enqueued
    omega
  have wellFormed := RingUse.readRelease_wellFormed carries.wellFormed held
  have size : (self.buffer.readRelease len).maxSize = self.buffer.maxSize := by
    unfold HevRingBuffer.readRelease
    simp only
    split <;> rfl
  constructor
  · exact Nat.le_trans (Nat.le_of_eq size) holds.size
  · exact
      ⟨queue.release len,
        { wellFormed := wellFormed
          history := by
            rw [Fifo.history_release]
            exact carries.history
          released := by
            simp only [Fifo.release, List.length_append, List.length_take,
              Nat.min_eq_left held, released, tcpSentHandler]
          enqueued := by
            rw [Fifo.finished_release held]
            exact enqueued
          complete := by
            rw [Fifo.finished_release held]
            exact carries.complete }⟩
  · exact holds.inOrder
  · exact within
  · exact holds.shutdown
  · exact holds.writing

/-- One step keeps the downstream invariant. -/
theorem exec_downstream {self next : SessionTcp} {event : Event}
    (holds : Downstream self) (noGap : NoGap self event)
    (executed : self.exec event = some next) : Downstream next := by
  cases event with
  | spliceF result =>
      simp only [exec, Option.ite_none_right_eq_some] at executed
      rcases executed with ⟨-, executed⟩
      split at executed
      · rcases tcpSpliceF_same executed with ⟨same, apart⟩
        exact holds.of_same same fun res atLock => absurd atLock (apart res)
      · cases executed
        exact holds.of_same ⟨rfl, rfl, rfl, rfl, rfl, rfl⟩ (by simp)
  | lockedF =>
      simp only [exec] at executed
      split at executed
      · cases executed
        exact holds.of_same ⟨rfl, rfl, rfl, rfl, rfl, rfl⟩
          (by simp [tcpSpliceFLocked])
      · cases executed
  | spliceB result =>
      simp only [exec, Option.ite_none_right_eq_some] at executed
      rcases executed with ⟨-, executed⟩
      split at executed
      case isTrue isOpen => exact tcpSpliceB_downstream holds isOpen executed
      case isFalse =>
        cases executed
        exact holds.of_same ⟨rfl, rfl, rfl, rfl, rfl, rfl⟩ (by simp)
  | lockedB writes output =>
      simp only [exec] at executed
      split at executed
      case h_1 res atLock =>
        exact tcpSpliceBLocked_downstream holds (holds.writing res atLock)
          noGap executed
      case h_2 => cases executed
  | yielded yielder =>
      simp only [exec] at executed
      split at executed
      · cases executed
        rcases endIteration_same self yielder with ⟨same, apart⟩
        exact holds.of_same same fun res atLock => absurd atLock (apart res)
      · simp only [Option.ite_none_right_eq_some, Option.some.injEq]
          at executed
        rcases executed with ⟨draining, rfl⟩
        rcases drainStep_same yielder draining with ⟨same, apart⟩
        exact holds.of_same same fun res atLock => absurd atLock (apart res)
  | recv p =>
      simp only [exec, Option.ite_none_right_eq_some, Option.some.injEq]
        at executed
      rcases executed with ⟨-, rfl⟩
      exact holds.of_same ⟨rfl, rfl, rfl, rfl, rfl, rfl⟩ holds.writing
  | recvEof =>
      simp only [exec, Option.ite_none_right_eq_some, Option.some.injEq]
        at executed
      rcases executed with ⟨-, rfl⟩
      exact holds.of_same ⟨rfl, rfl, rfl, rfl, rfl, rfl⟩ holds.writing
  | sent len =>
      simp only [exec, Option.ite_none_right_eq_some, Option.some.injEq]
        at executed
      rcases executed with ⟨⟨-, within⟩, rfl⟩
      exact tcpSentHandler_downstream holds within
  | err =>
      simp only [exec, Option.ite_none_right_eq_some, Option.some.injEq]
        at executed
      rcases executed with ⟨-, rfl⟩
      exact holds.of_same ⟨rfl, rfl, rfl, rfl, rfl, rfl⟩ holds.writing

theorem downstream_invariant : Invariant (system.restrict NoGap) Downstream where
  initial := by
    rintro _ ⟨queue, pcbEof, tcpBufferSize, data, clamped, rfl⟩
    exact splice_downstream clamped
  preserved := by
    rintro self event next holds ⟨noGap, executed⟩
    exact exec_downstream holds noGap executed

/-- Along every run without a gap, the bytes enqueued on the pcb are a
beginning of the bytes read from the socket, and every shutdown of the transmit
side came when all bytes read had been enqueued. -/
theorem downstream_integrity {session : SessionTcp}
    (reached : (system.restrict NoGap).Reachable session) :
    session.pcbOut <+: session.socketIn ∧
      ∀ snapshot ∈ session.shutTx, snapshot.1 = snapshot.2 := by
  have holds := downstream_invariant.reachable reached
  exact ⟨holds.inOrder, holds.shutdown⟩

/-- Two reads through a wrapped four byte ring; `first` and `second` are the
outcomes of the two `tcp_write` calls of the second step. -/
def wrappedRun (first second : TcpWriteResult) : List Event :=
  [.spliceF .again, .spliceB (.data [1, 2, 3]), .lockedB [.ok] ERR_OK,
    .yielded 0, .sent 2, .spliceF .again, .spliceB (.data [4, 5, 6]),
    .lockedB [first, second] ERR_OK]

theorem wrappedRun_runs {first second : TcpWriteResult}
    {seen : List UInt8 × List UInt8}
    (replayed :
      ((wrappedRun first second).foldlM exec (splice [] false 4 fun _ => 0)).map
        (fun session => (session.socketIn, session.pcbOut)) = some seen) :
    ∃ session, system.Run (splice [] false 4 fun _ => 0)
      (wrappedRun first second) session ∧
        (session.socketIn, session.pcbOut) = seen :=
  System.replay _ replayed

/-- When the first chunk is refused and the second is not, bytes are lost from
the middle of the stream. -/
theorem second_chunk_overtakes :
    ¬ ∀ session : SessionTcp, system.Reachable session →
      session.pcbOut <+: session.socketIn ∧
        ∀ snapshot ∈ session.shutTx, snapshot.1 = snapshot.2 := by
  intro always
  have replayed :
      ((wrappedRun .mem .ok).foldlM exec (splice [] false 4 fun _ => 0)).map
          (fun session => (session.socketIn, session.pcbOut)) =
        some ([1, 2, 3, 4, 5, 6], [1, 2, 3, 5, 6]) := by
    decide +kernel
  rcases wrappedRun_runs replayed with ⟨session, taken, seen⟩
  rcases Prod.mk.inj seen with ⟨socketIn, pcbOut⟩
  have claimed := always session
    ⟨_, _, ⟨[], false, 4, fun _ => 0, by decide, rfl⟩, taken⟩
  rw [socketIn, pcbOut] at claimed
  exact absurd claimed.1 (by decide)

/-- The same run with the refusal in the other chunk loses only a tail. -/
theorem downstream_integrity_second_refused :
    ∃ session : SessionTcp,
      (system.restrict NoGap).Reachable session ∧
        session.socketIn = [1, 2, 3, 4, 5, 6] ∧
        session.pcbOut = [1, 2, 3, 4] ∧
        session.pcbOut <+: session.socketIn := by
  have replayed :
      ((wrappedRun .ok .mem).foldlM exec (splice [] false 4 fun _ => 0)).map
          (fun session => (session.socketIn, session.pcbOut)) =
        some ([1, 2, 3, 4, 5, 6], [1, 2, 3, 4]) := by
    decide +kernel
  rcases wrappedRun_runs replayed with ⟨session, taken, seen⟩
  rcases Prod.mk.inj seen with ⟨socketIn, pcbOut⟩
  have reached : (system.restrict NoGap).Reachable session :=
    ⟨_, _, ⟨[], false, 4, fun _ => 0, by decide, rfl⟩,
      taken.restrict (by simp [wrappedRun, NoGap])⟩
  exact ⟨session, reached, socketIn, pcbOut, (downstream_integrity reached).1⟩

end ProxyVPN.SessionTcp
