/-
Module: ProxyVPN.Hev.RingBufferFifo
Purpose: The ring buffer refines the two-phase FIFO queue under its callers'
  contract.  Ghost state pairs every byte with the cell it was stored in, so
  the statement covers where the bytes are as well as what they are.
Trusted boundary: none
Main exports: RingUse, RingOp, RingUse.exec, RingUse.WellFormed,
  wellFormed_invariant, ring_buffer_refines_fifo
-/
import ProxyVPN.Lib.Fifo
import ProxyVPN.Lib.Transition
import ProxyVPN.Hev.RingBuffer

namespace ProxyVPN

open Scatter Transition

/-- A ring buffer in use: `queue` remembers, oldest first, each byte written
and the cell of `data` it went to. -/
structure RingUse where
  ring : HevRingBuffer
  queue : Fifo (Nat × UInt8)

/-- What the callers do: fill the offered regions from their start and call
`write_finish`, call `read_finish`, call `read_release`. -/
inductive RingOp where
  | write (bytes : List UInt8)
  | readFinish (size : Nat)
  | readRelease (size : Nat)
deriving Repr, DecidableEq

namespace RingUse

def alloca (maxSize : Nat) (data : Nat → UInt8) : RingUse :=
  { ring := HevRingBuffer.alloca maxSize data, queue := Fifo.empty }

/-- One operation; `none` when the caller breaks its contract. -/
def exec (use : RingUse) : RingOp → Option RingUse
  | .write bytes =>
      if bytes.length ≤ total use.ring.writing then
        some
          { ring := (use.ring.fill bytes).writeFinish bytes.length
            queue := use.queue.write ((cells use.ring.writing).zip bytes) }
      else
        none
  | .readFinish size =>
      if size ≤ total use.ring.reading then
        some
          { ring := use.ring.readFinish size
            queue := use.queue.finish size }
      else
        none
  | .readRelease size =>
      if size ≤ use.queue.inFlight.length then
        some
          { ring := use.ring.readRelease size
            queue := use.queue.release size }
      else
        none

def system (maxSize : Nat) (data : Nat → UInt8) : System RingUse RingOp :=
  .ofExec (· = alloca maxSize data) exec

/-- The cells and bytes in use, as one walk of the ring from the oldest byte
on.  `rp` sits after the bytes taken but not released, `wp` after all. -/
structure WellFormed (use : RingUse) : Prop where
  rpBound : 0 < use.ring.maxSize → use.ring.rp < use.ring.maxSize
  wpBound : 0 < use.ring.maxSize → use.ring.wp < use.ring.maxSize
  rdaSize : use.ring.rdaSize = use.queue.readable.length
  useSize : use.ring.useSize = use.queue.unreleased.length
  useBound : use.ring.useSize ≤ use.ring.maxSize
  layout : ∃ origin,
    use.queue.unreleased.map Prod.fst =
        circle use.ring.maxSize origin use.ring.useSize ∧
      use.ring.rp =
        (origin + use.queue.inFlight.length) % use.ring.maxSize ∧
      use.ring.wp = (origin + use.ring.useSize) % use.ring.maxSize
  stored : (use.queue.unreleased.map Prod.fst).map use.ring.data =
    use.queue.unreleased.map Prod.snd

namespace WellFormed

variable {use : RingUse}

theorem inFlight_add_rda (wf : WellFormed use) :
    use.queue.inFlight.length + use.ring.rdaSize = use.ring.useSize := by
  rw [wf.rdaSize, wf.useSize, Fifo.unreleased, List.length_append]

theorem rdaBound (wf : WellFormed use) :
    use.ring.rdaSize ≤ use.ring.useSize := by
  have := wf.inFlight_add_rda
  omega

/-- The regions `reading` returns are the cells of the readable bytes. -/
theorem cells_reading (wf : WellFormed use) :
    cells use.ring.reading = use.queue.readable.map Prod.fst := by
  obtain ⟨origin, layout, rpEq, -⟩ := wf.layout
  have rdaBound := wf.rdaBound
  have sizes := wf.inFlight_add_rda
  rw [HevRingBuffer.cells_reading wf.rpBound (rdaBound.trans wf.useBound),
    rpEq, circle_mod]
  have tail :
      use.queue.readable.map Prod.fst =
        (use.queue.unreleased.map Prod.fst).drop use.queue.inFlight.length := by
    simp [Fifo.unreleased]
  rw [tail, layout, circle_drop _ _ _ (by omega)]
  congr 1
  omega

/-- The regions `writing` offers are the rest of the turn that the cells in
use began. -/
theorem cells_writing (wf : WellFormed use) {origin : Nat}
    (wpEq : use.ring.wp = (origin + use.ring.useSize) % use.ring.maxSize) :
    cells use.ring.writing =
      circle use.ring.maxSize (origin + use.ring.useSize)
        (use.ring.maxSize - use.ring.useSize) := by
  rw [HevRingBuffer.cells_writing wf.wpBound wf.useBound, wpEq, circle_mod]

/-- Cells in use and offered cells together are one full turn, so they are
distinct. -/
theorem full_turn (wf : WellFormed use) :
    (use.queue.unreleased.map Prod.fst ++ cells use.ring.writing).Nodup := by
  obtain ⟨origin, layout, -, wpEq⟩ := wf.layout
  have useBound := wf.useBound
  rw [layout, wf.cells_writing wpEq, ← circle_add]
  exact circle_nodup (by omega)

theorem total_reading (wf : WellFormed use) :
    total use.ring.reading = use.queue.readable.length := by
  rw [← cells_length, wf.cells_reading, List.length_map]

/-- What `reading` presents is the readable part of the queue. -/
theorem gather_reading (wf : WellFormed use) :
    gather use.ring.data use.ring.reading =
      use.queue.readable.map Prod.snd := by
  have stored := wf.stored
  rw [Fifo.unreleased, List.map_append, List.map_append, List.map_append]
    at stored
  rw [gather, wf.cells_reading]
  exact (List.append_inj stored (by simp)).2

theorem total_writing (wf : WellFormed use) :
    total use.ring.writing = use.ring.maxSize - use.ring.useSize := by
  obtain ⟨origin, -, -, wpEq⟩ := wf.layout
  rw [← cells_length, wf.cells_writing wpEq, circle_length]

end WellFormed

/-- A fresh buffer is well formed, also one of size zero. -/
theorem alloca_wellFormed (maxSize : Nat) (data : Nat → UInt8) :
    WellFormed (alloca maxSize data) where
  rpBound := id
  wpBound := id
  rdaSize := rfl
  useSize := rfl
  useBound := Nat.zero_le _
  layout := ⟨0, rfl, (Nat.zero_mod _).symm, (Nat.zero_mod _).symm⟩
  stored := rfl

/-- Zipping offered cells with the bytes that fit uses the first cells. -/
theorem map_fst_zip_fits {addresses : List Nat} {bytes : List UInt8}
    (fits : bytes.length ≤ addresses.length) :
    (addresses.zip bytes).map Prod.fst = addresses.take bytes.length := by
  rw [List.zip_eq_zip_take_min, Nat.min_eq_right fits, List.take_length]
  exact List.map_fst_zip (by simp [fits])

theorem write_wellFormed {use : RingUse} (wf : WellFormed use)
    {bytes : List UInt8} (fits : bytes.length ≤ total use.ring.writing) :
    WellFormed
      { ring := (use.ring.fill bytes).writeFinish bytes.length
        queue := use.queue.write ((cells use.ring.writing).zip bytes) } := by
  have fitsCells : bytes.length ≤ (cells use.ring.writing).length := by
    rwa [cells_length]
  have zipLength :
      ((cells use.ring.writing).zip bytes).length = bytes.length := by
    rw [List.length_zip, Nat.min_eq_right fitsCells]
  have room : bytes.length ≤ use.ring.maxSize - use.ring.useSize := by
    rwa [← wf.total_writing]
  have turn := wf.full_turn
  rw [List.nodup_append] at turn
  obtain ⟨-, offeredNodup, apart⟩ := turn
  obtain ⟨origin, layout, rpEq, wpEq⟩ := wf.layout
  have useBound := wf.useBound
  refine
    { rpBound := wf.rpBound
      wpBound := Nat.mod_lt _
      rdaSize := ?_
      useSize := ?_
      useBound := ?_
      layout := ⟨origin, ?_, rpEq, ?_⟩
      stored := ?_ }
  · simp only [HevRingBuffer.writeFinish, HevRingBuffer.fill, Fifo.write,
      List.length_append, zipLength, wf.rdaSize]
  · simp only [HevRingBuffer.writeFinish, HevRingBuffer.fill,
      Fifo.unreleased_write, List.length_append, zipLength, wf.useSize]
  · simp only [HevRingBuffer.writeFinish, HevRingBuffer.fill]
    omega
  · simp only [HevRingBuffer.writeFinish, HevRingBuffer.fill,
      Fifo.unreleased_write, List.map_append, map_fst_zip_fits fitsCells]
    rw [layout, wf.cells_writing wpEq, circle_take _ _ _ room, circle_add]
  · simp only [HevRingBuffer.writeFinish, HevRingBuffer.fill, wpEq,
      Nat.mod_add_mod, Nat.add_assoc]
  · -- Old bytes sit outside the offered cells; new ones sit where stored.
    simp only [HevRingBuffer.writeFinish, HevRingBuffer.fill,
      Fifo.unreleased_write, List.map_append, map_fst_zip_fits fitsCells]
    congr 1
    · rw [← wf.stored]
      refine List.map_congr_left fun cell cellMem => ?_
      exact storeAt_of_notMem fun offered => apart cell cellMem cell offered rfl
    · rw [scatter, map_storeAt offeredNodup fitsCells,
        List.map_snd_zip fitsCells]

theorem readFinish_wellFormed {use : RingUse} (wf : WellFormed use)
    {size : Nat} (available : size ≤ total use.ring.reading) :
    WellFormed
      { ring := use.ring.readFinish size
        queue := use.queue.finish size } := by
  rw [wf.total_reading] at available
  obtain ⟨origin, layout, rpEq, wpEq⟩ := wf.layout
  refine
    { rpBound := Nat.mod_lt _
      wpBound := wf.wpBound
      rdaSize := ?_
      useSize := ?_
      useBound := wf.useBound
      layout := ⟨origin, ?_, ?_, wpEq⟩
      stored := ?_ }
  · simp [HevRingBuffer.readFinish, Fifo.finish, wf.rdaSize]
  · simp [HevRingBuffer.readFinish, wf.useSize]
  · simp [HevRingBuffer.readFinish, layout]
  · simp only [HevRingBuffer.readFinish, Fifo.finish, rpEq, Nat.mod_add_mod,
      List.length_append, List.length_take, Nat.min_eq_left available,
      Nat.add_assoc]
  · simpa [HevRingBuffer.readFinish] using wf.stored

theorem readRelease_wellFormed {use : RingUse} (wf : WellFormed use)
    {size : Nat} (held : size ≤ use.queue.inFlight.length) :
    WellFormed
      { ring := use.ring.readRelease size
        queue := use.queue.release size } := by
  obtain ⟨origin, layout, rpEq, wpEq⟩ := wf.layout
  have sizes := wf.inFlight_add_rda
  have useBound := wf.useBound
  have useSize := wf.useSize
  have stored := wf.stored
  have unreleasedEq := Fifo.unreleased_release held
  have dropped :
      ((use.queue.unreleased.drop size).map Prod.fst).map use.ring.data =
        (use.queue.unreleased.drop size).map Prod.snd := by
    rw [List.map_drop, List.map_drop, List.map_drop, stored]
  by_cases drained : use.ring.useSize - size = 0
  · -- Nothing is left in use, so the walk may start over at cell zero.
    have nothing : (use.queue.unreleased.drop size) = [] :=
      List.drop_eq_nil_of_le (by omega)
    have ringEq : use.ring.readRelease size =
        { use.ring with useSize := 0, rp := 0, wp := 0 } := by
      simp [HevRingBuffer.readRelease, drained]
    have noneInFlight : (use.queue.release size).inFlight = [] :=
      List.drop_eq_nil_of_le (by omega)
    rw [ringEq]
    exact
      { rpBound := id
        wpBound := id
        rdaSize := wf.rdaSize
        useSize := by rw [unreleasedEq, nothing]; rfl
        useBound := Nat.zero_le _
        layout := ⟨0, by rw [unreleasedEq, nothing]; rfl,
          by simp [noneInFlight], by simp⟩
        stored := by rw [unreleasedEq]; exact dropped }
  · have ringEq : use.ring.readRelease size =
        { use.ring with useSize := use.ring.useSize - size } := by
      simp [HevRingBuffer.readRelease, drained]
    rw [ringEq]
    refine
      { rpBound := wf.rpBound
        wpBound := wf.wpBound
        rdaSize := wf.rdaSize
        useSize := by rw [unreleasedEq, List.length_drop, useSize]
        useBound := (Nat.sub_le _ _).trans useBound
        layout := ⟨origin + size, ?_, ?_, ?_⟩
        stored := by rw [unreleasedEq]; exact dropped }
    · rw [unreleasedEq, List.map_drop, layout,
        circle_drop _ _ _ (by omega)]
    · have length : (use.queue.release size).inFlight.length =
          use.queue.inFlight.length - size := by simp [Fifo.release]
      simp only [length, rpEq]
      congr 1
      omega
    · simp only [wpEq]
      congr 1
      omega

/-- One operation within the contract keeps the ring well formed. -/
theorem exec_wellFormed {use next : RingUse} {op : RingOp}
    (wf : WellFormed use) (executed : use.exec op = some next) :
    WellFormed next := by
  cases op with
  | write bytes =>
      simp only [exec, Option.ite_none_right_eq_some, Option.some.injEq] at executed
      obtain ⟨fits, rfl⟩ := executed
      exact write_wellFormed wf fits
  | readFinish size =>
      simp only [exec, Option.ite_none_right_eq_some, Option.some.injEq] at executed
      obtain ⟨available, rfl⟩ := executed
      exact readFinish_wellFormed wf available
  | readRelease size =>
      simp only [exec, Option.ite_none_right_eq_some, Option.some.injEq] at executed
      obtain ⟨held, rfl⟩ := executed
      exact readRelease_wellFormed wf held

theorem exec_maxSize {use next : RingUse} {op : RingOp}
    (executed : use.exec op = some next) :
    next.ring.maxSize = use.ring.maxSize := by
  cases op with
  | write bytes =>
      simp only [exec, Option.ite_none_right_eq_some, Option.some.injEq] at executed
      obtain ⟨-, rfl⟩ := executed
      rfl
  | readFinish size =>
      simp only [exec, Option.ite_none_right_eq_some, Option.some.injEq] at executed
      obtain ⟨-, rfl⟩ := executed
      rfl
  | readRelease size =>
      simp only [exec, Option.ite_none_right_eq_some, Option.some.injEq] at executed
      obtain ⟨-, rfl⟩ := executed
      simp only [HevRingBuffer.readRelease]
      split <;> rfl

/-- Every operation sequence within the contract keeps the ring well formed. -/
theorem wellFormed_invariant (maxSize : Nat) (data : Nat → UInt8) :
    Invariant (system maxSize data) fun use =>
      WellFormed use ∧ use.ring.maxSize = maxSize where
  initial := by
    rintro _ rfl
    exact ⟨alloca_wellFormed maxSize data, rfl⟩
  preserved := by
    rintro use op next ⟨wf, size⟩ executed
    exact ⟨exec_wellFormed wf executed, (exec_maxSize executed).trans size⟩

end RingUse

namespace RingOp

/-- The bytes an operation sequence writes, in order. -/
def written (ops : List RingOp) : List UInt8 :=
  ops.flatMap fun
    | .write bytes => bytes
    | _ => []

/-- How many bytes an operation sequence read-finishes. -/
def readFinished (ops : List RingOp) : Nat :=
  (ops.map fun
    | .readFinish size => size
    | _ => 0).sum

/-- How many bytes an operation sequence releases. -/
def readReleased (ops : List RingOp) : Nat :=
  (ops.map fun
    | .readRelease size => size
    | _ => 0).sum

end RingOp

/-- The ghost queue tells the same story as the operation sequence. -/
theorem RingUse.run_history {maxSize : Nat} {data : Nat → UInt8}
    {ops : List RingOp} {use : RingUse}
    (taken : (RingUse.system maxSize data).Run
      (RingUse.alloca maxSize data) ops use) :
    use.queue.history.map Prod.snd = RingOp.written ops ∧
      use.queue.finished = RingOp.readFinished ops ∧
      use.queue.released.length = RingOp.readReleased ops := by
  generalize beginEq : RingUse.alloca maxSize data = begin at taken
  induction taken with
  | nil =>
      subst beginEq
      exact ⟨rfl, rfl, rfl⟩
  | @snoc use _ ops op before executed inductionHypothesis =>
      obtain ⟨history, finished, released⟩ := inductionHypothesis
      have wf : use.WellFormed := by
        refine ((RingUse.wellFormed_invariant maxSize data).run before ?_).1
        exact (RingUse.wellFormed_invariant maxSize data).initial _ beginEq.symm
      cases op with
      | write bytes =>
          simp only [RingUse.system, System.ofExec, RingUse.exec,
            Option.ite_none_right_eq_some, Option.some.injEq] at executed
          obtain ⟨fits, rfl⟩ := executed
          have snds : ((cells use.ring.writing).zip bytes).map Prod.snd = bytes :=
            List.map_snd_zip (by rwa [cells_length])
          refine ⟨?_, ?_, ?_⟩
          · simp [history, snds, RingOp.written]
          · simp [finished, RingOp.readFinished]
          · simp [Fifo.write, released, RingOp.readReleased]
      | readFinish size =>
          simp only [RingUse.system, System.ofExec, RingUse.exec,
            Option.ite_none_right_eq_some, Option.some.injEq] at executed
          obtain ⟨available, rfl⟩ := executed
          rw [wf.total_reading] at available
          refine ⟨?_, ?_, ?_⟩
          · simp [history, RingOp.written]
          · simp [Fifo.finished_finish available, finished, RingOp.readFinished]
          · simp [Fifo.finish, released, RingOp.readReleased]
      | readRelease size =>
          simp only [RingUse.system, System.ofExec, RingUse.exec,
            Option.ite_none_right_eq_some, Option.some.injEq] at executed
          obtain ⟨held, rfl⟩ := executed
          refine ⟨?_, ?_, ?_⟩
          · simp [history, RingOp.written]
          · simp [Fifo.finished_release held, finished, RingOp.readFinished]
          · simp [Fifo.release, Nat.min_eq_left held, released,
              RingOp.readReleased]

/-- The ring buffer is a FIFO queue of bytes.  After any operation sequence
within the contract, `reading` presents exactly the bytes written and not yet
read-finished; the cells `writing` offers lie inside the data and apart from
every byte written and not yet released, all of which still sit unchanged where
they were stored; and the stored sizes and positions are in range. -/
theorem ring_buffer_refines_fifo {maxSize : Nat} (positive : 1 ≤ maxSize)
    {data : Nat → UInt8} {ops : List RingOp} {use : RingUse}
    (taken : (RingUse.system maxSize data).Run
      (RingUse.alloca maxSize data) ops use) :
    gather use.ring.data use.ring.reading =
        (RingOp.written ops).drop (RingOp.readFinished ops) ∧
      (∀ cell ∈ cells use.ring.writing,
        cell < maxSize ∧ cell ∉ use.queue.unreleased.map Prod.fst) ∧
      (use.queue.unreleased.map Prod.fst).map use.ring.data =
        (RingOp.written ops).drop (RingOp.readReleased ops) ∧
      use.ring.rp < maxSize ∧ use.ring.wp < maxSize ∧
      use.ring.rdaSize ≤ use.ring.useSize ∧ use.ring.useSize ≤ maxSize := by
  obtain ⟨wf, rfl⟩ := (RingUse.wellFormed_invariant _ data).reachable
    ⟨_, ops, rfl, taken⟩
  obtain ⟨history, finished, released⟩ := RingUse.run_history taken
  refine ⟨?_, ?_, ?_, wf.rpBound positive, wf.wpBound positive, wf.rdaBound, wf.useBound⟩
  · rw [wf.gather_reading, Fifo.readable_eq_drop, List.map_drop, history,
      finished]
  · intro cell offered
    have turn := wf.full_turn
    rw [List.nodup_append] at turn
    refine ⟨?_, fun inUse => turn.2.2 cell inUse cell offered rfl⟩
    obtain ⟨origin, -, -, wpEq⟩ := wf.layout
    rw [wf.cells_writing wpEq] at offered
    exact circle_lt positive offered
  · rw [wf.stored, Fifo.unreleased_eq_drop, List.map_drop, history, released]

/-- A ring of four bytes wraps around, presents its bytes in order and keeps
writing apart from what is still referenced. -/
theorem ring_buffer_refines_fifo_wrapped :
    ∃ use : RingUse,
      (RingUse.system 4 fun _ => 0).Run (RingUse.alloca 4 fun _ => 0)
          [.write [1, 2, 3], .readFinish 2, .readRelease 2, .write [4, 5],
            .readFinish 1] use ∧
        gather use.ring.data use.ring.reading = [4, 5] := by
  have taken :
      (RingUse.system 4 fun _ => 0).Run (RingUse.alloca 4 fun _ => 0)
        [.write [1, 2, 3], .readFinish 2, .readRelease 2, .write [4, 5],
          .readFinish 1] _ :=
    System.run_of_foldlM rfl
  exact ⟨_, taken, (ring_buffer_refines_fifo (by decide) taken).1⟩

end ProxyVPN
