/-
Module: ProxyVPN.Lib.Scatter
Purpose: Scatter/gather buffers over a flat memory.  A buffer list is read as
  the list of its cells, so that a partial transfer, an advanced buffer list
  and a wrapped region are all statements about lists of cells.
Trusted boundary: none
Main exports: Iovec, cells, total, gather, storeAt, scatter, advance,
  storeAt_append, cells_advance, cells_wrapped, circle, circle_add
-/
import Mathlib.Data.List.Basic
import Mathlib.Data.List.Range
import Mathlib.Data.List.Nodup
import Mathlib.Data.Nat.ModEq

namespace ProxyVPN.Scatter

universe u

variable {α : Type u}

/-- A contiguous piece of memory. -/
structure Iovec where
  base : Nat
  len : Nat
deriving Repr, DecidableEq

/-- The addresses of one piece, in order. -/
def Iovec.cells (iov : Iovec) : List Nat := List.range' iov.base iov.len

/-- The addresses of a buffer list, in transfer order. -/
def cells (iovs : List Iovec) : List Nat := iovs.flatMap Iovec.cells

/-- How many cells a buffer list offers. -/
def total (iovs : List Iovec) : Nat := (iovs.map Iovec.len).sum

@[simp] theorem cells_nil : cells [] = [] := rfl

@[simp] theorem cells_cons (iov : Iovec) (iovs : List Iovec) :
    cells (iov :: iovs) = iov.cells ++ cells iovs := rfl

@[simp] theorem total_nil : total [] = 0 := rfl

@[simp] theorem total_cons (iov : Iovec) (iovs : List Iovec) :
    total (iov :: iovs) = iov.len + total iovs := rfl

@[simp] theorem Iovec.cells_length (iov : Iovec) :
    iov.cells.length = iov.len := by
  simp [Iovec.cells]

/-- A list of buffers has as many cells as bytes of room. -/
theorem cells_length (iovs : List Iovec) : (cells iovs).length = total iovs := by
  induction iovs with
  | nil => rfl
  | cons iov iovs inductionHypothesis => simp [inductionHypothesis]

theorem len_le_total {iov : Iovec} {iovs : List Iovec} (member : iov ∈ iovs) :
    iov.len ≤ total iovs := by
  induction member with
  | head => exact Nat.le_add_right _ _
  | tail _ _ inductionHypothesis =>
      exact Nat.le_trans inductionHypothesis (Nat.le_add_left _ _)

/-- What a transfer out of the buffer list moves. -/
def gather (memory : Nat → α) (iovs : List Iovec) : List α :=
  (cells iovs).map memory

/-- Store a run of values, one in each listed cell; surplus cells keep their
contents. -/
def storeAt (memory : Nat → α) : List Nat → List α → Nat → α
  | cell :: rest, value :: values =>
      storeAt (fun address => if address = cell then value else memory address)
        rest values
  | _, _ => memory

/-- What a transfer into the buffer list leaves in memory. -/
def scatter (memory : Nat → α) (iovs : List Iovec) (values : List α) :
    Nat → α :=
  storeAt memory (cells iovs) values

@[simp] theorem storeAt_nil (memory : Nat → α) (addresses : List Nat) :
    storeAt memory addresses [] = memory := by
  cases addresses <;> rfl

/-- A store leaves all other cells alone. -/
theorem storeAt_of_notMem {memory : Nat → α} {addresses : List Nat}
    {values : List α} {address : Nat} (fresh : address ∉ addresses) :
    storeAt memory addresses values address = memory address := by
  induction addresses generalizing memory values with
  | nil => rfl
  | cons cell rest inductionHypothesis =>
      rw [List.mem_cons, not_or] at fresh
      cases values with
      | nil => rfl
      | cons value values =>
          rw [storeAt, inductionHypothesis fresh.2, if_neg fresh.1]

/-- Distinct cells hold exactly what was stored in them. -/
theorem map_storeAt {memory : Nat → α} {addresses : List Nat}
    {values : List α} (distinct : addresses.Nodup)
    (fits : values.length ≤ addresses.length) :
    (addresses.take values.length).map (storeAt memory addresses values) =
      values := by
  induction addresses generalizing memory values with
  | nil =>
      have empty : values = [] := List.length_eq_zero_iff.mp (by simpa using fits)
      subst empty
      rfl
  | cons cell rest inductionHypothesis =>
      rw [List.nodup_cons] at distinct
      cases values with
      | nil => rfl
      | cons value values =>
          have fitsRest : values.length ≤ rest.length := by simpa using fits
          have headStored :
              storeAt memory (cell :: rest) (value :: values) cell = value := by
            rw [storeAt, storeAt_of_notMem distinct.1, if_pos rfl]
          rw [List.length_cons, List.take_succ_cons, List.map_cons, headStored,
            storeAt, inductionHypothesis distinct.2 fitsRest]

/-- A transfer in two parts continues in the cells the first part left. -/
theorem storeAt_append (memory : Nat → α) (addresses : List Nat)
    (first second : List α) :
    storeAt memory addresses (first ++ second) =
      storeAt (storeAt memory addresses first)
        (addresses.drop first.length) second := by
  induction first generalizing memory addresses with
  | nil => simp
  | cons value first inductionHypothesis =>
      cases addresses with
      | nil => simp [storeAt]
      | cons cell rest =>
          simp only [List.cons_append, storeAt, List.length_cons,
            List.drop_succ_cons]
          exact inductionHypothesis _ rest

/-- Drop the first `size` cells of a buffer list: exhausted pieces go, the
piece the transfer stopped in keeps its tail. -/
def advance : List Iovec → Nat → List Iovec
  | [], _ => []
  | iov :: iovs, size =>
      if size < iov.len then
        { base := iov.base + size, len := iov.len - size } :: iovs
      else
        advance iovs (size - iov.len)

/-- An advanced buffer list begins that many cells further on. -/
theorem cells_advance (iovs : List Iovec) (size : Nat) :
    cells (advance iovs size) = (cells iovs).drop size := by
  induction iovs generalizing size with
  | nil => simp [advance]
  | cons iov iovs inductionHypothesis =>
      unfold advance
      split
      case isTrue inside =>
        rw [cells_cons, cells_cons, List.drop_append_of_le_length
          (by simpa using inside.le)]
        congr 1
        simp [Iovec.cells, List.drop_range']
      case isFalse outside =>
        rw [inductionHypothesis, cells_cons, List.drop_append]
        have exhausted : iov.cells.drop size = [] :=
          List.drop_eq_nil_of_le (by simpa using outside)
        rw [exhausted, List.nil_append, Iovec.cells_length]

/-- The `len` cells from `start` on around a circle of `size` cells. -/
def circle (size start len : Nat) : List Nat :=
  (List.range len).map fun offset => (start + offset) % size

@[simp] theorem circle_length (size start len : Nat) :
    (circle size start len).length = len := by
  simp [circle]

@[simp] theorem circle_zero (size start : Nat) : circle size start 0 = [] := rfl

/-- A region of the circle may begin in any lap. -/
theorem circle_mod (size start len : Nat) :
    circle size (start % size) len = circle size start len := by
  unfold circle
  refine List.map_congr_left fun offset _ => ?_
  rw [Nat.mod_add_mod]

/-- A walk around the circle is its first part followed by the rest. -/
theorem circle_add (size start first second : Nat) :
    circle size start (first + second) =
      circle size start first ++ circle size (start + first) second := by
  unfold circle
  rw [List.range_add, List.map_append, List.map_map]
  congr 1
  refine List.map_congr_left fun offset _ => ?_
  simp [Nat.add_assoc]

/-- A region without its beginning is a region, -/
theorem circle_drop (size start len : Nat) {count : Nat}
    (within : count ≤ len) :
    (circle size start len).drop count =
      circle size (start + count) (len - count) := by
  have split : len = count + (len - count) := by omega
  conv_lhs => rw [split, circle_add]
  rw [List.drop_left' (circle_length size start count)]

/-- and so is its beginning. -/
theorem circle_take (size start len : Nat) {count : Nat}
    (within : count ≤ len) :
    (circle size start len).take count = circle size start count := by
  have split : len = count + (len - count) := by omega
  conv_lhs => rw [split, circle_add]
  rw [List.take_left' (circle_length size start count)]

/-- A region lies inside of the circle. -/
theorem circle_lt {size start len cell : Nat} (positive : 0 < size)
    (member : cell ∈ circle size start len) : cell < size := by
  rw [circle, List.mem_map] at member
  obtain ⟨offset, -, rfl⟩ := member
  exact Nat.mod_lt _ positive

/-- No walk of at most one turn meets a cell twice. -/
theorem circle_nodup {size start len : Nat} (within : len ≤ size) :
    (circle size start len).Nodup := by
  refine List.Nodup.map_on ?_ List.nodup_range
  intro first firstMem second secondMem same
  rw [List.mem_range] at firstMem secondMem
  have congruent : first ≡ second [MOD size] :=
    Nat.ModEq.add_left_cancel' start same
  have firstBound : first < size := by omega
  have secondBound : second < size := by omega
  rwa [Nat.ModEq, Nat.mod_eq_of_lt firstBound,
    Nat.mod_eq_of_lt secondBound] at congruent

/-- A walk that does not reach the end of memory is one contiguous piece. -/
theorem circle_eq_range' {size start len : Nat} (within : start + len ≤ size) :
    circle size start len = List.range' start len := by
  unfold circle
  rw [List.range'_eq_map_range]
  refine List.map_congr_left fun offset offsetMem => ?_
  rw [List.mem_range] at offsetMem
  exact Nat.mod_eq_of_lt (by omega)

/-- A walk past the end of memory is the tail piece and a piece from zero. -/
theorem cells_wrapped {size start len : Nat} (startBound : start < size)
    (lenBound : len ≤ size) (wraps : size - start < len) :
    cells [{ base := start, len := size - start },
      { base := 0, len := len - (size - start) }] =
      circle size start len := by
  have parts : len = (size - start) + (len - (size - start)) := by omega
  conv_rhs => rw [parts, circle_add]
  have turned : start + (size - start) = size := by omega
  rw [turned, ← circle_mod size size, Nat.mod_self,
    circle_eq_range' (by omega), circle_eq_range' (by omega)]
  simp [Iovec.cells]

end ProxyVPN.Scatter
