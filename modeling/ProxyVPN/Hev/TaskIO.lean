/-
Module: ProxyVPN.Hev.TaskIO
Purpose: The receive loops of hev-task-io-socket.c over a stream socket whose
  data arrives in pieces and then ends.
Trusted boundary: human-reviewed model
Main exports: TaskIO.Socket, TaskIO.recv, TaskIO.recvmsg, recv_waitAll,
  recvmsg_eq_recv
-/
import ProxyVPN.Lib.Arrivals
import ProxyVPN.Lib.Scatter

namespace ProxyVPN.TaskIO

open Scatter

/-!
A `recv` takes what it can use of the piece at the head of the arrivals, so
the pieces are the ways a stream can be cut into results.  An empty piece is
an `EAGAIN` after which the waiting task is woken again.  After the last piece
the stream has ended, the connection fails, or nothing comes and the yielder
reports a timeout.
-/

/-- The values of `errno` the callers tell apart. -/
inductive Errno where
  | again
  | other
deriving Repr, DecidableEq

/-- What a reader meets after the last piece. -/
inductive Stop where
  | eof
  | failed
  | timeout
deriving Repr, DecidableEq

/-- A stream socket as its reader meets it, with the thread's `errno`. -/
structure Socket where
  arrivals : Arrivals UInt8
  stop : Stop
  errno : Errno
deriving Repr, DecidableEq

/-- The flags the receive loops look at. -/
structure MsgFlags where
  dontWait : Bool
  waitAll : Bool
deriving Repr, DecidableEq

/-- `MSG_WAITALL` alone. -/
def msgWaitAll : MsgFlags := { dontWait := false, waitAll := true }

/-- The returned value, the bytes that were stored, and the socket left. -/
structure Received where
  res : Int
  bytes : List UInt8
  socket : Socket
deriving Repr, DecidableEq

/-- `size ? size : s`. -/
def sizeOr (size : Nat) (s : Int) : Int := if size = 0 then s else size

/-- The exits of the loops for `s <= 0`. -/
def leave (flags : MsgFlags) (size : Nat) (s : Int) : Int :=
  if flags.waitAll then sizeOr size s else s

/-- The loop of `hev_task_io_socket_recv`, with `got` as the bytes stored so
far.  Every round that does not return has used up the piece at the head. -/
def recvLoop (flags : MsgFlags) (stop : Stop) (len : Nat) :
    Arrivals UInt8 → List UInt8 → Errno → Received
  | [], got, errno =>
      match stop with
      | .eof => ⟨leave flags got.length 0, got, ⟨[], stop, errno⟩⟩
      | .failed => ⟨leave flags got.length (-1), got, ⟨[], stop, .other⟩⟩
      | .timeout =>
          if flags.dontWait then
            ⟨leave flags got.length (-1), got, ⟨[], stop, .again⟩⟩
          else
            ⟨sizeOr got.length (-2), got, ⟨[], stop, .again⟩⟩
  | [] :: arrivals, got, _ =>
      if flags.dontWait then
        ⟨leave flags got.length (-1), got, ⟨arrivals, stop, .again⟩⟩
      else
        recvLoop flags stop len arrivals got .again
  | (byte :: piece) :: arrivals, got, errno =>
      let taken := (byte :: piece).take (len - got.length)
      let left := (byte :: piece).drop (len - got.length)
      if flags.waitAll ∧ (got ++ taken).length < len then
        recvLoop flags stop len arrivals (got ++ taken) errno
      else
        ⟨(got ++ taken).length, got ++ taken,
          ⟨Arrivals.putBack left arrivals, stop, errno⟩⟩

/-- `hev_task_io_socket_recv`. -/
def recv (flags : MsgFlags) (len : Nat) (socket : Socket) : Received :=
  recvLoop flags socket.stop len socket.arrivals [] socket.errno

/-- The returned value, the memory with the bytes stored, and the socket
left. -/
structure ReceivedMsg where
  res : Int
  memory : Nat → UInt8
  socket : Socket

/-- The loop of `hev_task_io_socket_recvmsg`: a short transfer moves the
buffer list on by the bytes it brought. -/
def recvmsgLoop (flags : MsgFlags) (stop : Stop) (len : Nat) :
    Arrivals UInt8 → List Iovec → Nat → (Nat → UInt8) → Errno → ReceivedMsg
  | [], _, size, memory, errno =>
      match stop with
      | .eof => ⟨leave flags size 0, memory, ⟨[], stop, errno⟩⟩
      | .failed => ⟨leave flags size (-1), memory, ⟨[], stop, .other⟩⟩
      | .timeout =>
          if flags.dontWait then
            ⟨leave flags size (-1), memory, ⟨[], stop, .again⟩⟩
          else
            ⟨sizeOr size (-2), memory, ⟨[], stop, .again⟩⟩
  | [] :: arrivals, iov, size, memory, _ =>
      if flags.dontWait then
        ⟨leave flags size (-1), memory, ⟨arrivals, stop, .again⟩⟩
      else
        recvmsgLoop flags stop len arrivals iov size memory .again
  | (byte :: piece) :: arrivals, iov, size, memory, errno =>
      let taken := (byte :: piece).take (total iov)
      let left := (byte :: piece).drop (total iov)
      if flags.waitAll ∧ size + taken.length < len then
        recvmsgLoop flags stop len arrivals (advance iov taken.length)
          (size + taken.length) (scatter memory iov taken) errno
      else
        ⟨(size + taken.length : Nat), scatter memory iov taken,
          ⟨Arrivals.putBack left arrivals, stop, errno⟩⟩

/-- `hev_task_io_socket_recvmsg`. -/
def recvmsg (flags : MsgFlags) (iov : List Iovec) (memory : Nat → UInt8)
    (socket : Socket) : ReceivedMsg :=
  recvmsgLoop flags socket.stop (total iov) socket.arrivals iov 0 memory
    socket.errno

/-! What the loops return is a matter of the stream alone. -/

/-- What a blocking read returns when nothing is left. -/
def Stop.code : Stop → Int
  | .eof => 0
  | .failed => -1
  | .timeout => -2

theorem Stop.code_nonpos (stop : Stop) : stop.code ≤ 0 := by
  cases stop <;> decide

private theorem recvLoop_waitAll (stop : Stop) (len : Nat) :
    ∀ (arrivals : Arrivals UInt8) (got : List UInt8) (errno : Errno),
      got.length ≤ len →
      (recvLoop msgWaitAll stop len arrivals got errno).bytes =
          got ++ arrivals.flatten.take (len - got.length) ∧
        (recvLoop msgWaitAll stop len arrivals got errno).socket.arrivals =
          Arrivals.consume (len - got.length) arrivals ∧
        (recvLoop msgWaitAll stop len arrivals got errno).socket.stop = stop ∧
        (recvLoop msgWaitAll stop len arrivals got errno).res =
          if got = [] ∧ arrivals.flatten = [] then stop.code
          else (got ++ arrivals.flatten.take (len - got.length)).length := by
  intro arrivals
  induction arrivals with
  | nil =>
      intro got errno _
      cases stop <;>
        simp [recvLoop, leave, sizeOr, msgWaitAll, Arrivals.consume, Stop.code]
  | cons piece arrivals inductionHypothesis =>
      intro got errno within
      cases piece with
      | nil =>
          have waits : recvLoop msgWaitAll stop len ([] :: arrivals) got errno =
              recvLoop msgWaitAll stop len arrivals got .again := rfl
          rw [waits]
          exact inductionHypothesis got .again within
      | cons byte piece =>
          unfold recvLoop Arrivals.consume
          simp only [msgWaitAll, true_and, List.flatten_cons]
          by_cases short :
              (got ++ (byte :: piece).take (len - got.length)).length < len
          · have whole : (byte :: piece).length < len - got.length := by
              simp only [List.length_append, List.length_take] at short
              omega
            have taken : (byte :: piece).take (len - got.length) =
                byte :: piece := List.take_of_length_le (Nat.le_of_lt whole)
            rw [if_pos short, if_pos whole, taken, List.take_append, taken,
              Nat.sub_sub, ← List.length_append, ← List.append_assoc]
            have grown : got ++ byte :: piece ≠ [] := by simp
            have rest := inductionHypothesis (got ++ byte :: piece) errno
              (by simp only [List.length_append]; omega)
            simp only [msgWaitAll, grown, false_and, if_false] at rest
            simpa using rest
          · have enough : ¬ (byte :: piece).length < len - got.length := by
              simp only [List.length_append, List.length_take] at short
              omega
            rw [if_neg short, if_neg enough,
              List.take_append_of_le_length (by omega)]
            simp

/-- A `MSG_WAITALL` read takes the first `len` bytes of the stream, however it
is cut, and falls back on the reason of the end only when it got none. -/
theorem recv_waitAll (len : Nat) (socket : Socket) :
    (recv msgWaitAll len socket).bytes = socket.arrivals.flatten.take len ∧
      (recv msgWaitAll len socket).socket.arrivals =
        Arrivals.consume len socket.arrivals ∧
      (recv msgWaitAll len socket).socket.stop = socket.stop ∧
      (recv msgWaitAll len socket).res =
        if socket.arrivals.flatten = [] then socket.stop.code
        else (socket.arrivals.flatten.take len).length := by
  have loop := recvLoop_waitAll socket.stop len socket.arrivals [] socket.errno
    (Nat.zero_le len)
  simpa [recv] using loop

private theorem recvmsgLoop_eq_recvLoop (flags : MsgFlags) (stop : Stop)
    (len : Nat) :
    ∀ (arrivals : Arrivals UInt8) (iov : List Iovec) (got : List UInt8)
      (memory : Nat → UInt8) (errno : Errno), got.length + total iov = len →
      ∃ tail,
        (recvLoop flags stop len arrivals got errno).bytes = got ++ tail ∧
        recvmsgLoop flags stop len arrivals iov got.length memory errno =
          ⟨(recvLoop flags stop len arrivals got errno).res,
            scatter memory iov tail,
            (recvLoop flags stop len arrivals got errno).socket⟩ := by
  intro arrivals
  induction arrivals with
  | nil =>
      intro iov got memory errno _
      refine ⟨[], ?_⟩
      rw [scatter, storeAt_nil, List.append_nil]
      cases stop with
      | eof => exact ⟨rfl, rfl⟩
      | failed => exact ⟨rfl, rfl⟩
      | timeout =>
          unfold recvLoop recvmsgLoop
          by_cases now : flags.dontWait = true
          · simp only [if_pos now, and_self]
          · simp only [if_neg now, and_self]
  | cons piece arrivals inductionHypothesis =>
      intro iov got memory errno sizes
      cases piece with
      | nil =>
          unfold recvLoop recvmsgLoop
          by_cases now : flags.dontWait = true
          · refine ⟨[], ?_⟩
            simp only [if_pos now, List.append_nil, scatter, storeAt_nil,
              and_self]
          · simp only [if_neg now]
            exact inductionHypothesis iov got memory .again sizes
      | cons byte piece =>
          have room : len - got.length = total iov := by omega
          unfold recvLoop recvmsgLoop
          rw [room]
          simp only [List.length_append]
          by_cases again : flags.waitAll = true ∧
              got.length + ((byte :: piece).take (total iov)).length < len
          · rw [if_pos again, if_pos again]
            have moved : total (advance iov
                ((byte :: piece).take (total iov)).length) =
                total iov - ((byte :: piece).take (total iov)).length := by
              rw [← cells_length, cells_advance, List.length_drop, cells_length]
            have sizesLeft :
                (got ++ (byte :: piece).take (total iov)).length +
                  total (advance iov
                    ((byte :: piece).take (total iov)).length) = len := by
              rw [moved, List.length_append]
              omega
            obtain ⟨tail, bytes, rest⟩ := inductionHypothesis _ _
              (scatter memory iov ((byte :: piece).take (total iov))) errno
              sizesLeft
            refine ⟨(byte :: piece).take (total iov) ++ tail, ?_, ?_⟩
            · rw [bytes, List.append_assoc]
            · rw [List.length_append] at rest
              rw [rest, scatter, scatter, scatter, storeAt_append,
                cells_advance]
          · rw [if_neg again, if_neg again]
            exact ⟨_, rfl, rfl⟩

/-- `recvmsg` stores in the cells of its buffer list what `recv` would have
stored in one piece, and returns the same. -/
theorem recvmsg_eq_recv (flags : MsgFlags) (iov : List Iovec)
    (memory : Nat → UInt8) (socket : Socket) :
    recvmsg flags iov memory socket =
      ⟨(recv flags (total iov) socket).res,
        scatter memory iov (recv flags (total iov) socket).bytes,
        (recv flags (total iov) socket).socket⟩ := by
  obtain ⟨tail, bytes, loop⟩ := recvmsgLoop_eq_recvLoop flags socket.stop
    (total iov) socket.arrivals iov [] memory socket.errno (by simp)
  rw [List.nil_append] at bytes
  rw [recv, bytes]
  exact loop

end ProxyVPN.TaskIO
