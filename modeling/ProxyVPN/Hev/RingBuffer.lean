/-
Module: ProxyVPN.Hev.RingBuffer
Purpose: The zero-copy ring buffer of hev-ring-buffer.c and hev-ring-buffer.h,
  function by function.
Trusted boundary: human-reviewed model
Main exports: HevRingBuffer, alloca, reading, readFinish, readRelease, writing,
  writeFinish
-/
import ProxyVPN.Lib.Scatter

namespace ProxyVPN

open Scatter

/-!
The flexible array `data` is the memory behind the header, addressed from
`data` on.  Sizes are exact naturals: the header and `max_size` bytes of data
are one object, so `max_size` is below half of `size_t` and the sums and
differences below cannot wrap under the callers' contract.  An `iovec` array
filled up to the returned count is a list of that length.
-/

/-- `struct _HevRingBuffer`. -/
structure HevRingBuffer where
  rp : Nat
  wp : Nat
  rdaSize : Nat
  useSize : Nat
  maxSize : Nat
  data : Nat → UInt8

namespace HevRingBuffer

/-- `hev_ring_buffer_alloca`: the data bytes start with whatever the stack
held. -/
def alloca (size : Nat) (data : Nat → UInt8) : HevRingBuffer :=
  { rp := 0
    wp := 0
    rdaSize := 0
    useSize := 0
    maxSize := size
    data := data }

def getMaxSize (self : HevRingBuffer) : Nat := self.maxSize

def getUseSize (self : HevRingBuffer) : Nat := self.useSize

/-- `hev_ring_buffer_reading`. -/
def reading (self : HevRingBuffer) : List Iovec :=
  if self.rdaSize = 0 then
    []
  else
    let upperSize := self.maxSize - self.rp
    if self.rdaSize ≤ upperSize then
      [{ base := self.rp, len := self.rdaSize }]
    else
      [{ base := self.rp, len := upperSize },
        { base := 0, len := self.rdaSize - upperSize }]

/-- `hev_ring_buffer_read_finish`. -/
def readFinish (self : HevRingBuffer) (size : Nat) : HevRingBuffer :=
  { self with
    rp := (self.rp + size) % self.maxSize
    rdaSize := self.rdaSize - size }

/-- `hev_ring_buffer_read_release`: a drained buffer starts over at zero. -/
def readRelease (self : HevRingBuffer) (size : Nat) : HevRingBuffer :=
  let useSize := self.useSize - size
  if useSize = 0 then
    { self with useSize := useSize, rp := 0, wp := 0 }
  else
    { self with useSize := useSize }

/-- `hev_ring_buffer_writing`. -/
def writing (self : HevRingBuffer) : List Iovec :=
  if self.useSize = self.maxSize then
    []
  else
    let upperSize := self.maxSize - self.wp
    let spcSize := self.maxSize - self.useSize
    if spcSize ≤ upperSize then
      [{ base := self.wp, len := spcSize }]
    else
      [{ base := self.wp, len := upperSize },
        { base := 0, len := spcSize - upperSize }]

/-- `hev_ring_buffer_write_finish`. -/
def writeFinish (self : HevRingBuffer) (size : Nat) : HevRingBuffer :=
  { self with
    wp := (self.wp + size) % self.maxSize
    useSize := self.useSize + size
    rdaSize := self.rdaSize + size }

/-- A transfer into the regions that `writing` offers, such as `readv`. -/
def fill (self : HevRingBuffer) (bytes : List UInt8) : HevRingBuffer :=
  { self with data := scatter self.data self.writing bytes }

/-- The regions `reading` returns are one walk around the data. -/
theorem cells_reading {self : HevRingBuffer}
    (rpBound : 0 < self.maxSize → self.rp < self.maxSize)
    (rdaBound : self.rdaSize ≤ self.maxSize) :
    cells self.reading = circle self.maxSize self.rp self.rdaSize := by
  unfold reading
  split
  case isTrue empty => rw [empty, circle_zero, cells_nil]
  case isFalse nonempty =>
    have rpInside : self.rp < self.maxSize := by
      apply rpBound
      omega
    simp only
    split
    case isTrue fits =>
      rw [circle_eq_range' (by omega)]
      simp [Iovec.cells]
    case isFalse wraps =>
      exact cells_wrapped rpInside rdaBound (by omega)

/-- The regions `writing` offers are the rest of the turn from `wp` on. -/
theorem cells_writing {self : HevRingBuffer}
    (wpBound : 0 < self.maxSize → self.wp < self.maxSize)
    (useBound : self.useSize ≤ self.maxSize) :
    cells self.writing =
      circle self.maxSize self.wp (self.maxSize - self.useSize) := by
  unfold writing
  split
  case isTrue full => rw [full, Nat.sub_self, circle_zero, cells_nil]
  case isFalse notFull =>
    have wpInside : self.wp < self.maxSize := by
      apply wpBound
      omega
    simp only
    split
    case isTrue fits =>
      rw [circle_eq_range' (by omega)]
      simp [Iovec.cells]
    case isFalse wraps =>
      exact cells_wrapped wpInside (by omega) (by omega)

end HevRingBuffer

end ProxyVPN
