/-
Module: ProxyVPN.Hev.Socks5UdpOutput
Purpose: Framing of what a UDP-in-TCP session puts on its stream: as long as no
  send is cut short, the stream holds whole frames in the order of the queue.
Trusted boundary: none
Main exports: SessionUdpForward.Framed, sendmmsgTcp_outcome,
  SessionUdpForward.stream_stays_framed
-/
import ProxyVPN.Hev.Socks5UdpSend

namespace ProxyVPN

open TaskIO Transition

theorem flatten_iov (msgv : List OutMsg) :
    (msgv.flatMap OutMsg.iov).flatten = msgv.flatMap OutMsg.encoding := by
  induction msgv with
  | nil => rfl
  | cons msg msgv inductionHypothesis =>
      rw [List.flatMap_cons, List.flatMap_cons, List.flatten_append,
        inductionHypothesis]
      simp [OutMsg.iov, OutMsg.encoding]

/-- A call that returns no count has put nothing on the stream; one that
returns a count returns that of its messages, and has put all of them on the
stream unless it was cut short. -/
theorem sendmmsgTcp_outcome {msgv : List OutMsg} {events : List SendEvent}
    {sent : Sent} (returned : sendmmsgTcp msgv events = some sent) :
    (sent.res ≤ 0 → sent.bytes = []) ∧
    (0 < sent.res →
      sent.res = msgv.length ∧
      (sent.bytes = msgv.flatMap OutMsg.encoding ↔
        cutShort events (msgv.flatMap OutMsg.encoding).length false =
          false)) := by
  unfold sendmmsgTcp at returned
  split at returned
  · cases returned
    exact ⟨fun _ => rfl, nofun⟩
  · rcases Option.map_eq_some_iff.mp returned with ⟨whole, looped, rfl⟩
    have outcome := sendmsg_outcome looped
    rw [flatten_iov] at outcome
    dsimp only
    cases outcome with
    | cut isCut positive part short =>
        rw [if_neg (Int.not_le.mpr positive)]
        constructor
        · intro nonpositive
          have none : msgv = [] := by
            apply List.eq_nil_of_length_eq_zero
            omega
          rw [none] at short
          exact absurd short (Nat.not_lt_zero _)
        · intro _
          refine ⟨rfl, iff_of_false ?_ (by rw [isCut]; decide)⟩
          intro all
          rw [all] at short
          exact absurd short (Nat.lt_irrefl _)
    | whole notCut positive all =>
        rw [if_neg (Int.not_le.mpr positive)]
        constructor
        · intro nonpositive
          have none : msgv = [] := by
            apply List.eq_nil_of_length_eq_zero
            omega
          rw [all, none]
          rfl
        · intro _
          exact ⟨rfl, iff_of_true all notCut⟩
    | nothing notCut _ negative none =>
        rw [if_pos negative]
        exact ⟨fun _ => none, nofun⟩

namespace SessionUdpForward

/-- The bytes on the stream are a beginning of the frames in queue order, and a
call that returns a count puts all of its messages there. -/
structure Framed (state : SessionUdpForward) : Prop where
  stream : state.stream <+: state.queued.flatMap OutMsg.encoding
  whole : ∀ num events sent,
    sendmmsgTcp (state.batch num) events = some sent → 0 < sent.res →
      sent.res = (state.batch num).length ∧
      sent.bytes = (state.batch num).flatMap OutMsg.encoding

/-- The frames ever queued are those on the stream and those still queued. -/
def Split (state : SessionUdpForward) : Prop :=
  ∃ dequeued, state.queued = dequeued ++ state.frameList ∧
    state.stream = dequeued.flatMap OutMsg.encoding

theorem Split.recv {self : SessionUdpForward} (holds : self.Split)
    (frame : OutMsg) (allocated : Bool) : (self.recv frame allocated).Split := by
  rcases holds with ⟨dequeued, queued, stream⟩
  unfold SessionUdpForward.recv
  split
  · exact ⟨dequeued, queued, stream⟩
  · refine ⟨dequeued, ?_, stream⟩
    change self.queued ++ [frame] = dequeued ++ (self.frameList ++ [frame])
    rw [queued, List.append_assoc]

theorem Split.fwdF {self next : SessionUdpForward} {num : Nat}
    {events : List SendEvent} (holds : self.Split)
    (notCut : self.NotCut (.fwdF num events))
    (taken : self.fwdF num events = some next) : next.Split := by
  rcases holds with ⟨dequeued, queued, stream⟩
  unfold SessionUdpForward.fwdF at taken
  split at taken
  · cases taken
    exact ⟨dequeued, queued, stream⟩
  · rcases Option.map_eq_some_iff.mp taken with ⟨sent, returned, rfl⟩
    have outcome := sendmmsgTcp_outcome returned
    split
    case isTrue nonpositive =>
      refine ⟨dequeued, queued, ?_⟩
      change self.stream ++ sent.bytes = _
      rw [outcome.1 nonpositive, List.append_nil, stream]
    case isFalse negative =>
      rcases outcome.2 (Int.not_le.mp negative) with ⟨count, whole⟩
      refine ⟨dequeued ++ self.batch num, ?_, ?_⟩
      · have rest : self.frameList.drop sent.res.toNat =
            self.frameList.drop num := by
          rw [count, Int.toNat_natCast, batch, List.length_take]
          exact List.drop_eq_drop_iff.mpr (by omega)
        change self.queued = _ ++ self.frameList.drop sent.res.toNat
        rw [rest, List.append_assoc, batch, List.take_append_drop, queued]
      · change self.stream ++ sent.bytes = _
        rw [whole.mpr notCut, stream, List.flatMap_append]

theorem split_invariant : Invariant (system.restrict NotCut) Split where
  initial := by
    rintro state rfl
    exact ⟨[], rfl, rfl⟩
  preserved := by
    rintro state label next holds ⟨notCut, taken⟩
    cases label with
    | recv frame allocated =>
        cases taken
        exact holds.recv frame allocated
    | fwdF num events =>
        rcases Option.ite_none_right_eq_some.mp taken with ⟨_, taken⟩
        exact holds.fwdF notCut taken

/-- In every run none of whose sends is cut short, the stream holds whole frames
in queue order; and after such a run a call that returns a count puts all of
its messages on the stream if and only if it is not cut short either. -/
theorem stream_stays_framed (state : SessionUdpForward)
    (reached : (system.restrict NotCut).Reachable state) :
    state.stream <+: state.queued.flatMap OutMsg.encoding ∧
    ∀ num events sent, sendmmsgTcp (state.batch num) events = some sent →
      0 < sent.res →
        ((sent.res = (state.batch num).length ∧
          sent.bytes = (state.batch num).flatMap OutMsg.encoding) ↔
        state.NotCut (.fwdF num events)) := by
  constructor
  · rcases split_invariant.reachable reached with ⟨dequeued, queued, stream⟩
    rw [stream, queued, List.flatMap_append]
    exact List.prefix_append _ _
  · intro num events sent returned positive
    rcases (sendmmsgTcp_outcome returned).2 positive with ⟨count, whole⟩
    exact (and_iff_right count).trans whole

/-- 127.0.0.1 port 80, in a structure whose other bytes are zero. -/
def localAddr : HevSocks5Addr where
  bytes := [1, 127, 0, 0, 1, 0, 80] ++ List.replicate 253 0
  size := by rw [List.length_append, List.length_replicate]; rfl

/-- Two frames in one batch that go out in three parts, with waits between. -/
theorem stream_stays_framed_partial_sends :
    ∃ state, (system.restrict NotCut).Reachable state ∧
      state.stream =
        [0, 1, 10, 1, 127, 0, 0, 1, 0, 80, 9,
          0, 2, 10, 1, 127, 0, 0, 1, 0, 80, 7, 8] ∧
      state.stream <+: state.queued.flatMap OutMsg.encoding := by
  let labels : List Label :=
    [.recv ⟨localAddr, [9]⟩ true, .recv ⟨localAddr, [7, 8]⟩ true,
      .fwdF 10 [.again, .room 2, .again, .again, .room 13, .room 20]]
  have replayed : (labels.foldlM (fun (state : SessionUdpForward) label =>
      if state.NotCut label then exec state label else none) initial).map
        (fun state => state.stream) =
        some [0, 1, 10, 1, 127, 0, 0, 1, 0, 80, 9,
          0, 2, 10, 1, 127, 0, 0, 1, 0, 80, 7, 8] := by
    decide +kernel
  rcases System.replay_restrict _ replayed with ⟨state, taken, seen⟩
  have reached : (system.restrict NotCut).Reachable state :=
    ⟨initial, labels, rfl, taken⟩
  exact ⟨state, reached, seen, (stream_stays_framed state reached).1⟩

/-- The peer takes one byte of a frame and stalls until the yielder gives up,
and the next frame follows that byte. -/
theorem stalled_send_breaks_framing :
    ¬∀ state, system.Reachable state → state.Framed := by
  intro always
  let labels : List Label :=
    [.recv ⟨localAddr, [9]⟩ true, .recv ⟨localAddr, [7, 8]⟩ true,
      .fwdF 1 [.room 1, .again, .givenUp], .fwdF 1 [.room 20]]
  have replayed : (labels.foldlM exec initial).map (fun state =>
      decide (state.stream <+: state.queued.flatMap OutMsg.encoding)) =
        some false := by
    decide +kernel
  rcases System.replay _ replayed with ⟨state, taken, seen⟩
  have framed := always state ⟨initial, labels, rfl, taken⟩
  exact of_decide_eq_false seen framed.stream

end SessionUdpForward

end ProxyVPN
