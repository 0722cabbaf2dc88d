/-
Module: ProxyVPN.Hev.TaskIOSend
Purpose: The send loop of hev-task-io-socket.c over a stream socket that takes
  what it is offered in parts, and what of it reaches the stream.
Trusted boundary: human-reviewed model
Main exports: TaskIO.SendEvent, TaskIO.sendmsg, TaskIO.cutShort,
  TaskIO.sendmsg_outcome
-/
import ProxyVPN.Hev.TaskIO

namespace ProxyVPN.TaskIO

/-!
The buffers of a `msghdr` are the lists of their bytes.  A send is described by
what its calls of `sendmsg` meet one after another: room for some bytes, or
`EAGAIN` and what the yielder answers, or a failure.
-/

/-- What one call of `sendmsg` meets. -/
inductive SendEvent where
  | room (size : Nat)
  | again
  | givenUp
  | failed
deriving Repr, DecidableEq

/-- The returned value and the bytes put on the stream. -/
structure Sent where
  res : Int
  bytes : List UInt8
deriving Repr, DecidableEq

/-- The buffers left after `s` bytes of them were taken. -/
def skip : List (List UInt8) → Nat → List (List UInt8)
  | [], _ => []
  | base :: rest, s =>
      if s < base.length then base.drop s :: rest
      else skip rest (s - base.length)

/-- The loop of `hev_task_io_socket_sendmsg` with `MSG_WAITALL`, where `size`
bytes of `len` were taken before.  Without a further event the loop has not
returned. -/
def sendmsgLoop (len : Nat) :
    List SendEvent → List (List UInt8) → Nat → Option Sent
  | [], _, _ => none
  | .room room :: events, iov, size =>
      let taken := iov.flatten.take room
      if taken = [] then
        some ⟨sizeOr size 0, []⟩
      else if size + taken.length < len then
        (sendmsgLoop len events (skip iov taken.length)
          (size + taken.length)).map fun rest =>
            { rest with bytes := taken ++ rest.bytes }
      else
        some ⟨(size + taken.length : Nat), taken⟩
  | .again :: events, iov, size => sendmsgLoop len events iov size
  | .givenUp :: _, _, size => some ⟨sizeOr size (-2), []⟩
  | .failed :: _, _, size => some ⟨sizeOr size (-1), []⟩

/-- `hev_task_io_socket_sendmsg` with `MSG_WAITALL`. -/
def sendmsg (events : List SendEvent) (iov : List (List UInt8)) :
    Option Sent :=
  sendmsgLoop iov.flatten.length events iov 0

/-- The yielder gives up, or the socket fails, while some of the bytes were
taken and `left` of them were not. -/
def cutShort : List SendEvent → Nat → Bool → Bool
  | [], _, _ => false
  | .room 0 :: _, _, begun => begun
  | .room (room + 1) :: events, left, _ =>
      if room + 1 < left then cutShort events (left - (room + 1)) true
      else false
  | .again :: events, left, begun => cutShort events left begun
  | .givenUp :: _, _, begun => begun
  | .failed :: _, _, begun => begun

theorem flatten_skip (iov : List (List UInt8)) (s : Nat) :
    (skip iov s).flatten = iov.flatten.drop s := by
  induction iov generalizing s with
  | nil => simp [skip]
  | cons base rest inductionHypothesis =>
      unfold skip
      by_cases inside : s < base.length
      · rw [if_pos inside, List.flatten_cons, List.flatten_cons,
          List.drop_append_of_le_length (Nat.le_of_lt inside)]
      · have whole : base.length ≤ s := Nat.le_of_not_lt inside
        rw [if_neg inside, inductionHypothesis, List.flatten_cons,
          List.drop_append, List.drop_eq_nil_of_le whole, List.nil_append]

/-- What a send of `left` further bytes can end in: it was cut short, and
returns a count; or it took everything; or nothing at all. -/
inductive SendOutcome (data : List UInt8) (size : Nat) (cut : Bool)
    (sent : Sent) : Prop where
  | cut (isCut : cut = true) (positive : 0 < sent.res)
      (part : sent.bytes <+: data) (short : sent.bytes.length < data.length)
  | whole (notCut : cut = false) (positive : 0 < sent.res)
      (all : sent.bytes = data)
  | nothing (notCut : cut = false) (unsent : size = 0) (negative : sent.res ≤ 0)
      (none : sent.bytes = [])

/-- The loop leaves early, with or without bytes before. -/
theorem SendOutcome.leave {data : List UInt8} {size : Nat} {s : Int}
    (nonpositive : s ≤ 0) (more : 0 < size → data ≠ []) :
    SendOutcome data size (decide (0 < size)) ⟨sizeOr size s, []⟩ := by
  by_cases begun : 0 < size
  · apply SendOutcome.cut (decide_eq_true begun)
    · rw [sizeOr, if_neg (Nat.ne_of_gt begun)]
      exact Int.natCast_pos.mpr begun
    · exact List.nil_prefix
    · exact List.length_pos_iff.mpr (more begun)
  · have none : size = 0 := Nat.eq_zero_of_not_pos begun
    apply SendOutcome.nothing (decide_eq_false begun) none
    · rw [sizeOr, if_pos none]
      exact nonpositive
    · rfl

/-- A part of the data was taken before the rest of the loop. -/
theorem SendOutcome.append {data : List UInt8} {size count : Nat} {cut : Bool}
    {sent : Sent} (positive : 0 < count) (within : count < data.length)
    (rest : SendOutcome (data.drop count) (size + count) cut sent) :
    SendOutcome data size cut
      { sent with bytes := data.take count ++ sent.bytes } := by
  cases rest with
  | cut isCut returned part short =>
      refine SendOutcome.cut isCut returned ?_ ?_
      · have joined := (List.prefix_append_right_inj (data.take count)).mpr part
        rwa [List.take_append_drop] at joined
      · rw [List.length_drop] at short
        rw [List.length_append, List.length_take_of_le (Nat.le_of_lt within)]
        omega
  | whole notCut returned all =>
      refine SendOutcome.whole notCut returned ?_
      change data.take count ++ sent.bytes = data
      rw [all, List.take_append_drop]
  | nothing _ unsent => omega

theorem sendmsgLoop_outcome {len : Nat} {events : List SendEvent} :
    ∀ {iov : List (List UInt8)} {size : Nat} {sent : Sent},
      size + iov.flatten.length = len → (0 < size → iov.flatten ≠ []) →
      sendmsgLoop len events iov size = some sent →
      SendOutcome iov.flatten size
        (cutShort events iov.flatten.length (decide (0 < size))) sent := by
  induction events with
  | nil =>
      intro iov size sent _ _ returned
      cases returned
  | cons event events inductionHypothesis =>
      intro iov size sent sizes more returned
      cases event with
      | again => exact inductionHypothesis sizes more returned
      | givenUp | failed =>
          cases returned
          exact SendOutcome.leave (by decide) more
      | room room =>
          unfold sendmsgLoop at returned
          dsimp only at returned
          cases room with
          | zero =>
              rw [List.take_zero, if_pos rfl] at returned
              cases returned
              exact SendOutcome.leave (Int.le_refl 0) more
          | succ room =>
              unfold cutShort
              by_cases empty : iov.flatten = []
              · have unsent : size = 0 := by
                  by_contra begun
                  exact more (Nat.pos_of_ne_zero begun) empty
                rw [empty, List.take_nil, if_pos rfl] at returned
                cases returned
                rw [empty]
                refine SendOutcome.nothing (if_neg (Nat.not_lt_zero _)) unsent
                  ?_ rfl
                rw [unsent]
                decide
              · have taken : iov.flatten.take (room + 1) ≠ [] := by
                  simp [List.take_eq_nil_iff, empty]
                rw [if_neg taken] at returned
                by_cases short : room + 1 < iov.flatten.length
                · have count := List.length_take_of_le (Nat.le_of_lt short)
                  rw [count, if_pos (by omega)] at returned
                  obtain ⟨rest, looped, rfl⟩ :=
                    Option.map_eq_some_iff.mp returned
                  have outcome := inductionHypothesis
                    (by rw [flatten_skip, List.length_drop]; omega)
                    (fun _ => by
                      rw [flatten_skip]
                      exact List.drop_eq_nil_iff.not.mpr (Nat.not_le.mpr short))
                    looped
                  rw [flatten_skip, List.length_drop] at outcome
                  rw [if_pos short]
                  have begun : decide (0 < size + (room + 1)) = true :=
                    decide_eq_true (by omega)
                  rw [begun] at outcome
                  exact outcome.append (Nat.succ_pos room) short
                · have whole : iov.flatten.take (room + 1) = iov.flatten :=
                    List.take_of_length_le (Nat.le_of_not_lt short)
                  have positive := List.length_pos_iff.mpr empty
                  rw [whole, if_neg (by omega)] at returned
                  cases returned
                  rw [if_neg short]
                  refine SendOutcome.whole rfl ?_ rfl
                  exact Int.natCast_pos.mpr (by omega)

/-- A send puts on the stream all of its data, or nothing, or, where it is cut
short, a proper part; and it returns a count except where it put nothing. -/
theorem sendmsg_outcome {events : List SendEvent} {iov : List (List UInt8)}
    {sent : Sent} (returned : sendmsg events iov = some sent) :
    SendOutcome iov.flatten 0 (cutShort events iov.flatten.length false)
      sent :=
  sendmsgLoop_outcome (Nat.zero_add _) (fun begun => absurd begun (by decide))
    returned

end ProxyVPN.TaskIO
