/-
Module: ProxyVPN.Hev.SessionTcpUpstream
Purpose: Integrity of the upstream direction of a TCP session, from the lwIP
  pcb through the pbuf chain to the SOCKS socket: what is written is a
  beginning of what was received, it is credited once, no length is truncated,
  and the socket is shut down only when everything has been written.
Trusted boundary: none
Main exports: SessionTcp.Upstream, SessionTcp.WindowKept,
  SessionTcp.upstream_integrity
-/
import ProxyVPN.Hev.SessionTcp

namespace ProxyVPN.SessionTcp

open Transition Lwip

/-- lwIP delivers no more than the receive window has room for. -/
def WindowKept (self : SessionTcp) : Event → Prop
  | .recv p => self.pcbIn.length + p.flatten.length ≤ self.recved + TCP_WND
  | _ => True

instance (self : SessionTcp) (event : Event) :
    Decidable (WindowKept self event) := by
  cases event <;> unfold WindowKept <;> infer_instance

/-- The size of a `writev` whose bytes are still in the chain. -/
def inWritev (self : SessionTcp) : Nat :=
  match self.pc with
  | .lockF size => size
  | _ => 0

/-- The invariant of the upstream direction.  The bytes in `freed` have left
the chain; the others received are in it, and a `writev` whose size is not yet
taken off the chain has put a beginning of them on the socket. -/
structure Upstream (session : SessionTcp) (freed : List UInt8) : Prop where
  received : session.pcbIn = freed ++ session.queue.flatten
  written : session.socketOut =
    freed ++ session.queue.flatten.take session.inWritev
  inWritev : session.inWritev ≤ session.queue.flatten.length
  credited : session.pcb = true → session.recved = freed.length
  window : session.queue.flatten.length ≤ TCP_WND
  shutdown : ∀ snapshot ∈ session.shutWr,
    snapshot.1 = true ∧ snapshot.2.1 = snapshot.2.2

/-- Two states that agree on everything upstream. -/
structure SameUpstream (before after : SessionTcp) : Prop where
  pcb : after.pcb = true → before.pcb = true
  queue : after.queue = before.queue
  pcbIn : after.pcbIn = before.pcbIn
  socketOut : after.socketOut = before.socketOut
  recved : after.recved = before.recved
  shutWr : after.shutWr = before.shutWr
  inWritev : after.inWritev = before.inWritev

theorem Upstream.of_same {before after : SessionTcp} {freed : List UInt8}
    (holds : Upstream before freed) (same : SameUpstream before after) :
    Upstream after freed := by
  constructor
  · rw [same.pcbIn, same.queue]
    exact holds.received
  · rw [same.socketOut, same.queue, same.inWritev]
    exact holds.written
  · rw [same.inWritev, same.queue]
    exact holds.inWritev
  · intro alive
    rw [same.recved]
    exact holds.credited (same.pcb alive)
  · rw [same.queue]
    exact holds.window
  · rw [same.shutWr]
    exact holds.shutdown

theorem splice_upstream {queue : Pbuf} {pcbEof : Bool} {tcpBufferSize : Nat}
    {data : Nat → UInt8} (window : queue.flatten.length ≤ TCP_WND) :
    Upstream (splice queue pcbEof tcpBufferSize data) [] where
  received := rfl
  written := rfl
  inWritev := Nat.zero_le _
  credited := fun _ => rfl
  window := window
  shutdown := by
    intro snapshot member
    cases member

/-! ### The upstream half of the loop -/

theorem tcpSpliceF_upstream {self next : SessionTcp} {result : WritevResult}
    {freed : List UInt8} (holds : Upstream self freed)
    (here : self.pc = .spliceF)
    (executed : self.tcpSpliceF result = some next) : Upstream next freed := by
  have notLocked : self.inWritev = 0 := by simp [inWritev, here]
  have socketOut : self.socketOut = freed := by
    rw [holds.written, notLocked, List.take_zero, List.append_nil]
  unfold tcpSpliceF at executed
  split at executed
  case isTrue =>
    cases result with
    | wrote size =>
        obtain ⟨⟨_, within⟩, ⟨⟩⟩ :=
          Option.ite_none_right_eq_some.mp executed
        constructor
        · exact holds.received
        · change self.socketOut ++ (self.queue.take 64).flatten.take size = _
          obtain ⟨rest, whole⟩ := flatten_take_within self.queue 64
          rw [socketOut, ← List.take_append_of_le_length within, whole]
          rfl
        · calc size ≤ (self.queue.take 64).flatten.length := within
            _ ≤ self.queue.flatten.length :=
                (flatten_take_within self.queue 64).length_le
        · exact holds.credited
        · exact holds.window
        · exact holds.shutdown
    | again | failed =>
        cases executed
        exact holds.of_same ⟨id, rfl, rfl, rfl, rfl, rfl, notLocked.symm⟩
  case isFalse empty =>
    split at executed
    case isTrue eof =>
      cases executed
      constructor
      · exact holds.received
      · rw [holds.written, notLocked]
        rfl
      · exact Nat.zero_le _
      · exact holds.credited
      · exact holds.window
      · intro snapshot member
        rcases List.mem_append.mp member with earlier | this
        · exact holds.shutdown snapshot earlier
        · rw [List.mem_singleton.mp this]
          have drained : self.queue.flatten = [] := by
            rw [Classical.not_not.mp empty]
            rfl
          refine ⟨eof, ?_⟩
          change self.pcbIn = self.socketOut
          rw [holds.received, socketOut, drained, List.append_nil]
    case isFalse =>
      cases executed
      exact holds.of_same ⟨id, rfl, rfl, rfl, rfl, rfl, notLocked.symm⟩

/-- The sizes fit their `u16_t` parameters. -/
theorem Upstream.u16_eq {session : SessionTcp} {freed : List UInt8} {size : Nat}
    (holds : Upstream session freed) (here : session.pc = .lockF size) :
    u16 size = size := by
  have inWritev : session.inWritev = size := by simp [SessionTcp.inWritev, here]
  apply Nat.mod_eq_of_lt
  calc size = session.inWritev := inWritev.symm
    _ ≤ session.queue.flatten.length := holds.inWritev
    _ ≤ TCP_WND := holds.window
    _ < 65536 := by decide

theorem tcpSpliceFLocked_upstream {self : SessionTcp} {size : Nat}
    {freed : List UInt8} (holds : Upstream self freed)
    (here : self.pc = .lockF size) :
    Upstream (self.tcpSpliceFLocked size)
      (freed ++ self.queue.flatten.take size) := by
  have exact16 := holds.u16_eq here
  have inWritev : self.inWritev = size := by simp [SessionTcp.inWritev, here]
  have within := holds.inWritev
  rw [inWritev] at within
  have queue : (pbufFreeHeader self.queue size).flatten =
      self.queue.flatten.drop size := by
    rw [pbufFreeHeader, exact16, flatten_pbufFreeLeft]
  constructor
  · change self.pcbIn = _ ++ (pbufFreeHeader self.queue size).flatten
    rw [queue, List.append_assoc, List.take_append_drop]
    exact holds.received
  · change self.socketOut = _ ++ List.take 0 _
    rw [holds.written, inWritev, List.take_zero, List.append_nil]
  · exact Nat.zero_le _
  · intro alive
    change (if self.pcb then self.recved + u16 size else self.recved) = _
    rw [if_pos (show self.pcb = true from alive), exact16,
      holds.credited alive, List.length_append, List.length_take_of_le within]
  · change (pbufFreeHeader self.queue size).flatten.length ≤ TCP_WND
    rw [queue, List.length_drop]
    exact Nat.le_trans (Nat.sub_le _ _) holds.window
  · exact holds.shutdown

/-! ### The other steps -/

theorem tcpRecvHandler_upstream {self : SessionTcp} {p : Pbuf}
    {freed : List UInt8} (holds : Upstream self freed) (alive : self.pcb = true)
    (kept : self.pcbIn.length + p.flatten.length ≤ self.recved + TCP_WND) :
    Upstream (self.tcpRecvHandler p) freed := by
  have queue : (self.tcpRecvHandler p).queue.flatten =
      self.queue.flatten ++ p.flatten := by
    change (if self.queue ≠ [] then pbufCat self.queue p else p).flatten = _
    split
    · exact List.flatten_append
    case isFalse empty =>
      rw [Classical.not_not.mp empty]
      rfl
  have length : (self.tcpRecvHandler p).queue.flatten.length =
      self.queue.flatten.length + p.flatten.length := by
    rw [queue, List.length_append]
  constructor
  · rw [queue, ← List.append_assoc, ← holds.received]
    rfl
  · rw [queue]
    change self.socketOut = freed ++ List.take self.inWritev _
    rw [List.take_append_of_le_length holds.inWritev]
    exact holds.written
  · rw [length]
    exact Nat.le_add_right_of_le holds.inWritev
  · exact holds.credited
  · rw [length]
    rw [holds.received, holds.credited alive, List.length_append] at kept
    omega
  · exact holds.shutdown

/-- The downstream half of the loop leaves the upstream half alone. -/
theorem tcpSpliceB_same {self next : SessionTcp} {result : ReadvResult}
    (here : self.pc = .spliceB) (executed : self.tcpSpliceB result = some next) :
    SameUpstream self next := by
  have notLocked : self.inWritev = 0 := by simp [inWritev, here]
  unfold tcpSpliceB at executed
  split at executed
  · cases result with
    | data bytes =>
        obtain ⟨_, ⟨⟩⟩ := Option.ite_none_right_eq_some.mp executed
        exact ⟨id, rfl, rfl, rfl, rfl, rfl, notLocked.symm⟩
    | again | eof | failed =>
        cases executed
        exact ⟨id, rfl, rfl, rfl, rfl, rfl, notLocked.symm⟩
  · cases executed
    exact ⟨id, rfl, rfl, rfl, rfl, rfl, notLocked.symm⟩

theorem tcpSpliceBLocked_same {self next : SessionTcp} {res : Int}
    {writes : List TcpWriteResult} {output : ErrT} (here : self.pc = .lockB res)
    (executed : self.tcpSpliceBLocked res writes output = some next) :
    SameUpstream self next := by
  have notLocked : self.inWritev = 0 := by simp [inWritev, here]
  unfold tcpSpliceBLocked at executed
  dsimp only at executed
  split at executed
  · split at executed
    · cases executed
    · split at executed
      · cases executed
        exact ⟨id, rfl, rfl, rfl, rfl, rfl, notLocked.symm⟩
      · split at executed
        all_goals
          cases executed
          exact ⟨id, rfl, rfl, rfl, rfl, rfl, notLocked.symm⟩
  · cases executed
    exact ⟨id, rfl, rfl, rfl, rfl, rfl, notLocked.symm⟩

theorem endIteration_keeps {self : SessionTcp} (yielder : Int)
    (here : self.pc = .yield) : SameUpstream self (self.endIteration yielder) := by
  have notLocked : self.inWritev = 0 := by simp [inWritev, here]
  unfold endIteration
  split
  · split
    all_goals exact ⟨id, rfl, rfl, rfl, rfl, rfl, notLocked.symm⟩
  · exact ⟨id, rfl, rfl, rfl, rfl, rfl, notLocked.symm⟩

theorem drainStep_keeps {self : SessionTcp} (yielder : Int)
    (here : self.pc = .drain) : SameUpstream self (self.drainStep yielder) := by
  have notLocked : self.inWritev = 0 := by simp [inWritev, here]
  unfold drainStep
  split
  · exact ⟨id, rfl, rfl, rfl, rfl, rfl, notLocked.symm⟩
  · split
    · exact ⟨id, rfl, rfl, rfl, rfl, rfl, notLocked.symm⟩
    · split
      · exact ⟨id, rfl, rfl, rfl, rfl, rfl, notLocked.symm⟩
      · exact ⟨id, rfl, rfl, rfl, rfl, rfl, rfl⟩

/-! ### Whole runs -/

/-- One step keeps the upstream invariant. -/
theorem exec_upstream {self next : SessionTcp} {event : Event}
    (holds : ∃ freed, Upstream self freed) (kept : WindowKept self event)
    (executed : self.exec event = some next) : ∃ freed, Upstream next freed := by
  obtain ⟨freed, holds⟩ := holds
  cases event with
  | spliceF result =>
      obtain ⟨here, executed⟩ := Option.ite_none_right_eq_some.mp executed
      split at executed
      · exact ⟨freed, tcpSpliceF_upstream holds here executed⟩
      · cases executed
        have notLocked : self.inWritev = 0 := by simp [inWritev, here]
        exact ⟨freed,
          holds.of_same ⟨id, rfl, rfl, rfl, rfl, rfl, notLocked.symm⟩⟩
  | lockedF =>
      simp only [exec] at executed
      split at executed
      case h_1 size here =>
        cases executed
        exact ⟨_, tcpSpliceFLocked_upstream holds here⟩
      case h_2 => cases executed
  | spliceB result =>
      obtain ⟨here, executed⟩ := Option.ite_none_right_eq_some.mp executed
      split at executed
      · exact ⟨freed, holds.of_same (tcpSpliceB_same here executed)⟩
      · cases executed
        have notLocked : self.inWritev = 0 := by simp [inWritev, here]
        exact ⟨freed,
          holds.of_same ⟨id, rfl, rfl, rfl, rfl, rfl, notLocked.symm⟩⟩
  | lockedB writes output =>
      simp only [exec] at executed
      split at executed
      case h_1 res here =>
        exact ⟨freed, holds.of_same (tcpSpliceBLocked_same here executed)⟩
      case h_2 => cases executed
  | yielded yielder =>
      simp only [exec] at executed
      split at executed
      case isTrue here =>
        cases executed
        exact ⟨freed, holds.of_same (endIteration_keeps yielder here)⟩
      case isFalse =>
        obtain ⟨here, ⟨⟩⟩ := Option.ite_none_right_eq_some.mp executed
        exact ⟨freed, holds.of_same (drainStep_keeps yielder here)⟩
  | recv p =>
      obtain ⟨alive, ⟨⟩⟩ := Option.ite_none_right_eq_some.mp executed
      exact ⟨freed, tcpRecvHandler_upstream holds alive kept⟩
  | recvEof | sent len =>
      obtain ⟨_, ⟨⟩⟩ := Option.ite_none_right_eq_some.mp executed
      exact ⟨freed, holds.of_same ⟨id, rfl, rfl, rfl, rfl, rfl, rfl⟩⟩
  | err =>
      obtain ⟨_, ⟨⟩⟩ := Option.ite_none_right_eq_some.mp executed
      exact ⟨freed, holds.of_same ⟨nofun, rfl, rfl, rfl, rfl, rfl, rfl⟩⟩

theorem upstream_of_run {first session : SessionTcp} {events : List Event}
    (begins : system.start first) (window : first.pcbIn.length ≤ TCP_WND)
    (taken : (system.restrict WindowKept).Run first events session) :
    ∃ freed, Upstream session freed := by
  apply taken.preserves
  · intro state event next holds step
    exact exec_upstream holds step.1 step.2
  · obtain ⟨queue, pcbEof, tcpBufferSize, data, _, rfl⟩ := begins
    exact ⟨[], splice_upstream window⟩

/-- In every run in which lwIP keeps the uncredited bytes within its window,
the bytes written to the socket are a beginning of the bytes received; while
the pcb lives, those credited are those written, but for a `writev` that still
waits for the mutex; each shutdown came at the end of the stream, with
everything written; and no size is truncated. -/
theorem upstream_integrity (first session : SessionTcp) (events : List Event)
    (begins : system.start first) (window : first.pcbIn.length ≤ TCP_WND)
    (taken : (system.restrict WindowKept).Run first events session) :
    session.socketOut <+: session.pcbIn ∧
    (session.pcb = true →
      session.recved + session.inWritev = session.socketOut.length) ∧
    (∀ snapshot ∈ session.shutWr,
      snapshot.1 = true ∧ snapshot.2.1 = snapshot.2.2) ∧
    ∀ size, session.pc = .lockF size → u16 size = size := by
  obtain ⟨freed, holds⟩ := upstream_of_run begins window taken
  refine ⟨?_, ?_, holds.shutdown, fun size here => holds.u16_eq here⟩
  · rw [holds.written, holds.received]
    exact (List.prefix_append_right_inj freed).mpr (List.take_prefix _ _)
  · intro alive
    rw [holds.credited alive, holds.written, List.length_append,
      List.length_take_of_le holds.inWritev]

/-- A write that ends inside a buffer, data that comes before it is credited,
and the end of the stream. -/
theorem upstream_integrity_partial_write :
    ∃ session : SessionTcp, ∃ events,
      (system.restrict WindowKept).Run (splice [[1, 2, 3], [4, 5]] false 4
        fun _ => 0) events session ∧
      session.socketOut = [1, 2, 3, 4, 5, 6] ∧
      session.shutWr = [(true, [1, 2, 3, 4, 5, 6], [1, 2, 3, 4, 5, 6])] ∧
      session.socketOut <+: session.pcbIn := by
  let events : List Event :=
    [.spliceF (.wrote 4), .recv [[6]], .lockedF, .spliceB .again,
      .lockedB [] ERR_OK, .yielded 0, .recvEof, .spliceF (.wrote 2), .lockedF,
      .spliceB .again, .lockedB [] ERR_OK, .yielded 0, .spliceF .again]
  have replayed : (events.foldlM (fun (session : SessionTcp) event =>
      if WindowKept session event then exec session event else none)
        (splice [[1, 2, 3], [4, 5]] false 4 fun _ => 0)).map
      (fun (session : SessionTcp) => (session.socketOut, session.shutWr)) =
        some ([1, 2, 3, 4, 5, 6],
          [(true, [1, 2, 3, 4, 5, 6], [1, 2, 3, 4, 5, 6])]) := by
    decide +kernel
  obtain ⟨session, taken, seen⟩ := System.replay_restrict _ replayed
  obtain ⟨socketOut, shutWr⟩ := Prod.mk.inj seen
  have begins : system.start (splice [[1, 2, 3], [4, 5]] false 4 fun _ => 0) :=
    ⟨_, false, 4, fun _ => 0, by decide, rfl⟩
  have holds := upstream_integrity _ session events begins (by decide) taken
  exact ⟨session, events, taken, socketOut, shutWr, holds.1⟩

end ProxyVPN.SessionTcp
