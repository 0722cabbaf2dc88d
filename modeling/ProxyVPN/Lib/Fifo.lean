/-
Module: ProxyVPN.Lib.Fifo
Purpose: A FIFO queue whose consumer works in two phases.  An element is first
  taken (it leaves the readable part) and only later released (its storage may
  be reused), as with a zero-copy buffer whose readers hold references.
Trusted boundary: none
Main exports: Fifo, Fifo.write, Fifo.finish, Fifo.release, Fifo.unreleased,
  Fifo.history, Fifo.readable_eq_drop
-/
import Mathlib.Data.List.Basic

namespace ProxyVPN

universe u v

/-- The three ages of a queue's elements, oldest first. -/
structure Fifo (α : Type u) where
  released : List α
  inFlight : List α
  readable : List α
deriving Repr, DecidableEq

namespace Fifo

variable {α : Type u}

def empty : Fifo α := ⟨[], [], []⟩

/-- Append elements at the readable end. -/
def write (queue : Fifo α) (values : List α) : Fifo α :=
  { queue with readable := queue.readable ++ values }

/-- Take the oldest `count` readable elements; their storage stays in use. -/
def finish (queue : Fifo α) (count : Nat) : Fifo α :=
  { queue with
    inFlight := queue.inFlight ++ queue.readable.take count
    readable := queue.readable.drop count }

/-- Give the storage of the oldest `count` taken elements back. -/
def release (queue : Fifo α) (count : Nat) : Fifo α :=
  { queue with
    released := queue.released ++ queue.inFlight.take count
    inFlight := queue.inFlight.drop count }

/-- The elements whose storage is in use. -/
def unreleased (queue : Fifo α) : List α := queue.inFlight ++ queue.readable

/-- Everything ever written, in order. -/
def history (queue : Fifo α) : List α :=
  queue.released ++ queue.inFlight ++ queue.readable

/-- How many elements have ever been taken. -/
def finished (queue : Fifo α) : Nat :=
  queue.released.length + queue.inFlight.length

/-- New values go behind all that are still held. -/
@[simp] theorem unreleased_write (queue : Fifo α) (values : List α) :
    (queue.write values).unreleased = queue.unreleased ++ values := by
  simp [write, unreleased]

/-- Taking values in moves no value out. -/
@[simp] theorem unreleased_finish (queue : Fifo α) (count : Nat) :
    (queue.finish count).unreleased = queue.unreleased := by
  simp [finish, unreleased]

/-- Values are given up from the front. -/
theorem unreleased_release {queue : Fifo α} {count : Nat}
    (held : count ≤ queue.inFlight.length) :
    (queue.release count).unreleased = queue.unreleased.drop count := by
  simp [release, unreleased, List.drop_append_of_le_length held]

/-- The history is all that was ever written. -/
@[simp] theorem history_write (queue : Fifo α) (values : List α) :
    (queue.write values).history = queue.history ++ values := by
  simp [write, history]

@[simp] theorem history_finish (queue : Fifo α) (count : Nat) :
    (queue.finish count).history = queue.history := by
  simp [finish, history]

@[simp] theorem history_release (queue : Fifo α) (count : Nat) :
    (queue.release count).history = queue.history := by
  simp [release, history]

/-- What was finished counts, whether it was released or not. -/
theorem finished_finish {queue : Fifo α} {count : Nat}
    (available : count ≤ queue.readable.length) :
    (queue.finish count).finished = queue.finished + count := by
  simp [finish, finished, Nat.min_eq_left available, Nat.add_assoc]

@[simp] theorem finished_write (queue : Fifo α) (values : List α) :
    (queue.write values).finished = queue.finished := rfl

/-- A release takes nothing of what was finished back. -/
theorem finished_release {queue : Fifo α} {count : Nat}
    (held : count ≤ queue.inFlight.length) :
    (queue.release count).finished = queue.finished := by
  simp only [release, finished, List.length_append, List.length_take,
    List.length_drop]
  omega

/-- The readable part is what was written less what has been taken. -/
theorem readable_eq_drop (queue : Fifo α) :
    queue.readable = queue.history.drop queue.finished := by
  rw [history, List.drop_left' (by simp [finished])]

/-- The part in use is what was written less what has been released. -/
theorem unreleased_eq_drop (queue : Fifo α) :
    queue.unreleased = queue.history.drop queue.released.length := by
  rw [history, List.append_assoc, List.drop_left, unreleased]

end Fifo

end ProxyVPN
