/-
Module: ProxyVPN.Hev.SessionUdpFrames
Purpose: The frame queue of hev-socks5-session-udp.c in memory: the callback of
  lwIP that fills it, the forward step that empties it in batches, and the
  destructor.
Trusted boundary: human-reviewed model.  The destructor is one step: lwIP calls
  back only under the mutex of the tunnel, and the one wait with the mutex held
  (for the mutex itself, in the destructor of a session that got no task) never
  ends, so no callback comes while a destructor waits for it.
Main exports: FrameMemory, SessionUdpFrames, SessionUdpFrames.system,
  FrameMemory.Represents, SessionUdpFrames.frames_exactly_once
-/
import ProxyVPN.Hev.List
import ProxyVPN.Hev.Socks5UdpSend
import Mathlib.Logic.Function.Basic

namespace ProxyVPN

open Transition

/-- A `struct pbuf`.  The number `arrival` is not in the source: it says which
of the datagrams of the session this one is. -/
structure Pbuf where
  arrival : Nat
  payload : List UInt8

/-- `struct _HevSocks5UDPFrame`; its node is the address it is stored at. -/
structure HevSocks5UDPFrame where
  addr : HevSocks5Addr
  data : Pbuf

/-- The queue of a session, and the memory it uses: the links of the nodes, the
allocated frames by their addresses, and the packet buffers not yet freed. -/
structure FrameMemory where
  frameList : HevList
  frames : Int
  nodes : HevListNodes
  heap : Nat → Option HevSocks5UDPFrame
  pbufs : Nat → Bool

namespace FrameMemory

def empty : FrameMemory :=
  { frameList := .empty
    frames := 0
    nodes := fun _ => ⟨none, none⟩
    heap := fun _ => none
    pbufs := fun _ => false }

/-! The operations return nothing where they follow a null pointer or use
memory that has been freed. -/

/-- `pbuf_free`. -/
def pbufFree (self : FrameMemory) (p : Pbuf) : Option FrameMemory :=
  if self.pbufs p.arrival then
    some { self with pbufs := Function.update self.pbufs p.arrival false }
  else none

/-- `pbuf_free` on the data of a frame and `hev_free` on the frame; the forward
step does them in the other order. -/
def freeFrame (self : FrameMemory) (node : Nat) :
    Option (FrameMemory × HevSocks5UDPFrame) :=
  match self.heap node with
  | none => none
  | some frame =>
      (self.pbufFree frame.data).map fun self =>
        ({ self with heap := Function.update self.heap node none }, frame)

/-- `hev_list_add_tail` after `memset` has cleared the node of the frame. -/
def addFrame (self : FrameMemory) (node : Nat) (frame : HevSocks5UDPFrame) :
    FrameMemory :=
  let cleared := Function.update self.nodes node ⟨none, none⟩
  let (frameList, nodes) := self.frameList.addTail cleared node
  { self with
    frameList := frameList
    frames := self.frames + 1
    nodes := nodes
    heap := Function.update self.heap node (some frame) }

/-- `udp_recv_handler` with a packet, and the frame it queues; `new` is what
`hev_malloc` returns. -/
def recv (self : FrameMemory) (addr : HevSocks5Addr) (p : Pbuf)
    (new : Option Nat) : Option (FrameMemory × Option HevSocks5UDPFrame) :=
  if self.frames > udpPoolSize then
    (self.pbufFree p).map fun self => (self, none)
  else
    match new with
    | none => (self.pbufFree p).map fun self => (self, none)
    | some node => some (self.addFrame node ⟨addr, p⟩, some ⟨addr, p⟩)

/-- The loop of `hev_socks5_session_udp_fwd_f` that fills `msgv`.  An entry
points into a frame and its packet, and stands here for the frame's node. -/
def gather (self : FrameMemory) (res : Nat) : Option (List Nat) :=
  (HevList.firstNodes self.nodes res self.frameList.head).filter fun msgv =>
    msgv.all fun node => (self.heap node).isSome

/-- The loop of `hev_socks5_session_udp_fwd_f` over the frames that were
sent. -/
def release : Nat → FrameMemory → Option FrameMemory
  | 0, self => some self
  | rounds + 1, self =>
      match self.frameList.head with
      | none => none
      | some node =>
          let (frameList, nodes) := self.frameList.del self.nodes node
          let unlinked := { self with frameList := frameList, nodes := nodes }
          match unlinked.freeFrame node with
          | none => none
          | some (self, _) =>
              release rounds { self with frames := self.frames - 1 }

/-- The loop of `hev_socks5_session_udp_destruct` with a bound on the number of
its rounds, and the frames it has freed. -/
def freeAll : Nat → Option Nat → FrameMemory →
    Option (FrameMemory × List HevSocks5UDPFrame)
  | _, none, self => some (self, [])
  | 0, some _, _ => none
  | rounds + 1, some node, self =>
      match self.freeFrame node with
      | none => none
      | some (freed, frame) =>
          (freeAll rounds (self.nodes node).next freed).map
            fun (self, frames) => (self, frame :: frames)

end FrameMemory

/-- Where the task of a session stands: outside `hev_socks5_session_udp_fwd_f`,
in it while `hev_socks5_udp_sendmmsg` has the entries `msgv`, or past the
destructor.  In `fault` memory was used wrongly. -/
inductive SessionUdpFrames.Phase where
  | idle
  | sending (msgv : List Nat)
  | destructed
  | fault
deriving DecidableEq

/-- A session and its queue.  The last four fields are not in the source: the
number of packets lwIP has handed over, the frames queued by
`udp_recv_handler`, those whose entries `hev_socks5_udp_sendmmsg` has reported
as sent, and those freed by the destructor. -/
structure SessionUdpFrames where
  memory : FrameMemory
  phase : SessionUdpFrames.Phase
  arrivals : Nat
  accepted : List HevSocks5UDPFrame
  sent : List HevSocks5UDPFrame
  dropped : List HevSocks5UDPFrame

namespace SessionUdpFrames

def initial : SessionUdpFrames :=
  { memory := .empty
    phase := .idle
    arrivals := 0
    accepted := []
    sent := []
    dropped := [] }

/-- What can happen: lwIP calls `udp_recv_handler`, with a packet or without;
the session's task enters `hev_socks5_session_udp_fwd_f`, here at any time, in
the splice loop only while its results are not negative; the send there returns;
the session is destructed. -/
inductive Label where
  | recv (p : Option (HevSocks5Addr × List UInt8)) (new : Option Nat)
  | fwdF (num : Nat)
  | sendmmsg (res : Int)
  | destruct

/-- Memory that is used wrongly ends everything. -/
def orFault (self : SessionUdpFrames) (next : Option SessionUdpFrames) :
    SessionUdpFrames :=
  next.getD { self with phase := .fault }

/-- `udp_recv_handler` with a packet. -/
def recv (self : SessionUdpFrames) (addr : HevSocks5Addr)
    (payload : List UInt8) (new : Option Nat) : Option SessionUdpFrames :=
  let p : Pbuf := { arrival := self.arrivals, payload := payload }
  let handed : FrameMemory :=
    { self.memory with
      pbufs := Function.update self.memory.pbufs self.arrivals true }
  (handed.recv addr p new).map fun (memory, queued) =>
    { self with
      memory := memory
      arrivals := self.arrivals + 1
      accepted := self.accepted ++ queued.toList }

/-- `hev_socks5_session_udp_fwd_f` up to its send. -/
def fwdF (self : SessionUdpFrames) (num : Nat) : Option SessionUdpFrames :=
  if self.memory.frames ≤ 0 then some self
  else
    (self.memory.gather (min self.memory.frames.toNat num)).map fun msgv =>
      { self with phase := .sending msgv }

/-- `hev_socks5_session_udp_fwd_f` from the result of its send on. -/
def forwarded (self : SessionUdpFrames) (msgv : List Nat) (res : Int) :
    Option SessionUdpFrames :=
  if res ≤ 0 then some { self with phase := .idle }
  else
    match (msgv.take res.toNat).mapM self.memory.heap with
    | none => none
    | some reported =>
        (FrameMemory.release res.toNat self.memory).map fun memory =>
          { self with
            memory := memory
            phase := .idle
            sent := self.sent ++ reported }

/-- `hev_socks5_session_udp_destruct`.  No more frames than `accepted` has were
ever allocated, so a longer loop would use freed memory. -/
def destruct (self : SessionUdpFrames) : Option SessionUdpFrames :=
  (FrameMemory.freeAll self.accepted.length self.memory.frameList.head
    self.memory).map fun (memory, freed) =>
      { self with
        memory := memory
        phase := .destructed
        dropped := freed }

/-- The receive callback is set, and the memory is sound. -/
def Listening (self : SessionUdpFrames) : Prop :=
  self.phase ≠ .destructed ∧ self.phase ≠ .fault

instance (self : SessionUdpFrames) : Decidable self.Listening :=
  inferInstanceAs (Decidable (_ ∧ _))

/-- A step.  `hev_malloc` returns no address that is in use, and
`hev_socks5_udp_sendmmsg` reports no more entries than it was given. -/
def exec (self : SessionUdpFrames) : Label → Option SessionUdpFrames
  | .recv none _ => if self.Listening then some self else none
  | .recv (some (addr, payload)) new =>
      if self.Listening ∧ new.bind self.memory.heap = none then
        some (self.orFault (self.recv addr payload new))
      else none
  | .fwdF num =>
      if self.phase = .idle then some (self.orFault (self.fwdF num)) else none
  | .sendmmsg res =>
      match self.phase with
      | .sending msgv =>
          if res ≤ msgv.length then
            some (self.orFault (self.forwarded msgv res))
          else none
      | _ => none
  | .destruct =>
      if self.phase = .idle then some (self.orFault self.destruct) else none

def system : System SessionUdpFrames Label :=
  .ofExec (· = initial) exec

end SessionUdpFrames

/-! ## The memory and the queue it stands for -/

namespace FrameMemory

/-- The allocated frames are those of `queue`, at the addresses `order`, and
the packets not yet freed are theirs. -/
structure Stored (memory : FrameMemory) (order : List Nat)
    (queue : List HevSocks5UDPFrame) : Prop where
  distinct : order.Nodup
  apart : (queue.map (·.data.arrival)).Nodup
  contents : order.map memory.heap = queue.map some
  only : ∀ node, (memory.heap node).isSome → node ∈ order
  pbufs : ∀ arrival, memory.pbufs arrival = true ↔
    arrival ∈ queue.map (·.data.arrival)

/-- The list holds the frames of `queue` at the addresses `order`, `frames` is
their number, and nothing else is allocated. -/
structure Represents (memory : FrameMemory) (order : List Nat)
    (queue : List HevSocks5UDPFrame) : Prop where
  holds : memory.frameList.Holds memory.nodes order
  counted : memory.frames = order.length
  stored : memory.Stored order queue

theorem empty_represents : empty.Represents [] [] where
  holds := HevList.empty_holds _
  counted := rfl
  stored :=
    { distinct := List.nodup_nil
      apart := List.nodup_nil
      contents := rfl
      only := by
        intro node allocated
        cases allocated
      pbufs := by
        intro arrival
        exact ⟨nofun, nofun⟩ }

section Stored

variable {memory : FrameMemory} {order : List Nat}
  {queue : List HevSocks5UDPFrame}

theorem Stored.length (stored : memory.Stored order queue) :
    order.length = queue.length := by
  have lengths := congrArg List.length stored.contents
  rwa [List.length_map, List.length_map] at lengths

theorem Stored.allocated (stored : memory.Stored order queue) {node : Nat}
    (member : node ∈ order) : (memory.heap node).isSome := by
  have found : memory.heap node ∈ order.map memory.heap := List.mem_map_of_mem member
  rw [stored.contents] at found
  obtain ⟨frame, _, same⟩ := List.mem_map.mp found
  rw [← same]
  rfl

/-- Reading the frames at some addresses of the list, from its first on. -/
theorem Stored.mapM_take (stored : memory.Stored order queue) (count : Nat) :
    (order.take count).mapM memory.heap = some (queue.take count) := by
  have contents := congrArg (List.take count) stored.contents
  rw [← List.map_take, ← List.map_take] at contents
  revert contents
  generalize order.take count = front
  generalize queue.take count = frames
  intro contents
  induction front generalizing frames with
  | nil =>
      cases frames with
      | nil => rfl
      | cons _ _ => cases contents
  | cons node rest inductionHypothesis =>
      cases frames with
      | nil => cases contents
      | cons frame frames =>
          obtain ⟨first, others⟩ := List.cons.inj contents
          rw [List.mapM_cons, first, inductionHypothesis frames others]
          rfl

/-- Freeing the first frame leaves the others. -/
theorem Stored.freeFrame {node : Nat} {frame : HevSocks5UDPFrame}
    (stored : memory.Stored (node :: order) (frame :: queue)) :
    ∃ heap pbufs,
      memory.freeFrame node =
        some ({ memory with heap := heap, pbufs := pbufs }, frame) ∧
      Stored { memory with heap := heap, pbufs := pbufs } order queue := by
  obtain ⟨fresh, distinct⟩ := List.nodup_cons.mp stored.distinct
  obtain ⟨apartFirst, apart⟩ := List.nodup_cons.mp stored.apart
  obtain ⟨here, others⟩ := List.cons.inj stored.contents
  have alive : memory.pbufs frame.data.arrival = true :=
    (stored.pbufs _).mpr List.mem_cons_self
  refine ⟨Function.update memory.heap node none,
    Function.update memory.pbufs frame.data.arrival false, ?_, ?_⟩
  · simp only [FrameMemory.freeFrame, here, pbufFree, alive, if_true]
    rfl
  · constructor
    · exact distinct
    · exact apart
    · rw [← others]
      exact (distinct.map_update _ _ _).trans (if_neg fresh)
    · intro other allocated
      by_cases same : other = node
      · simp [same] at allocated
      · simp only [Function.update_of_ne same] at allocated
        exact (List.mem_cons.mp (stored.only other allocated)).resolve_left same
    · intro arrival
      by_cases same : arrival = frame.data.arrival
      · subst same
        simp [apartFirst]
      · have before := stored.pbufs arrival
        rw [List.map_cons, List.mem_cons] at before
        simp [before, same]

end Stored

section Represents

variable {memory : FrameMemory} {order : List Nat}
  {queue : List HevSocks5UDPFrame}

/-- A packet that is not queued is freed, and nothing else changes. -/
theorem Represents.refuse (represents : memory.Represents order queue)
    {p : Pbuf} (new : p.arrival ∉ queue.map (·.data.arrival)) :
    pbufFree
      { memory with pbufs := Function.update memory.pbufs p.arrival true } p =
        some memory := by
  have dead : memory.pbufs p.arrival = false := by
    rw [← Bool.not_eq_true, represents.stored.pbufs]
    exact new
  have restored : Function.update memory.pbufs p.arrival false =
      memory.pbufs := by
    rw [← dead]
    exact Function.update_eq_self _ _
  simp [pbufFree, restored]

/-- A frame at a new address goes behind all others. -/
theorem Represents.addFrame (represents : memory.Represents order queue)
    {node : Nat} {frame : HevSocks5UDPFrame} (free : memory.heap node = none)
    (new : frame.data.arrival ∉ queue.map (·.data.arrival)) :
    Represents
      (addFrame
        { memory with
          pbufs := Function.update memory.pbufs frame.data.arrival true }
        node frame)
      (order ++ [node]) (queue ++ [frame]) := by
  have fresh : node ∉ order := by
    intro member
    have allocated := represents.stored.allocated member
    rw [free] at allocated
    cases allocated
  have cleared : memory.frameList.Holds
      (Function.update memory.nodes node ⟨none, none⟩) order := by
    refine represents.holds.congr fun other member => ?_
    have different : other ≠ node := fun same => fresh (same ▸ member)
    exact Function.update_of_ne different _ _
  constructor
  · exact cleared.addTail fresh
  · change memory.frames + 1 = _
    rw [represents.counted, List.length_append]
    rfl
  · constructor
    · rw [← List.concat_eq_append]
      exact represents.stored.distinct.concat fresh
    · rw [List.map_append, List.map_singleton, ← List.concat_eq_append]
      exact represents.stored.apart.concat new
    · change (order ++ [node]).map
        (Function.update memory.heap node (some frame)) = _
      rw [List.map_append, List.map_append, ← represents.stored.contents]
      congr 1
      · exact (represents.stored.distinct.map_update _ _ _).trans (if_neg fresh)
      · simp
    · intro other allocated
      rw [List.mem_append, List.mem_singleton]
      by_cases same : other = node
      · exact .inr same
      · have before : (memory.heap other).isSome := by
          simpa [FrameMemory.addFrame, same] using allocated
        exact .inl (represents.stored.only other before)
    · intro arrival
      have before := represents.stored.pbufs arrival
      rw [List.map_append, List.mem_append, ← before]
      by_cases same : arrival = frame.data.arrival
      · simp [FrameMemory.addFrame, same]
      · simp [FrameMemory.addFrame, same]

/-- A packet is queued behind all others, or refused for one of two reasons. -/
theorem Represents.recv (represents : memory.Represents order queue)
    (addr : HevSocks5Addr) (p : Pbuf)
    (unseen : p.arrival ∉ queue.map (·.data.arrival)) {new : Option Nat}
    (free : new.bind memory.heap = none) :
    ∃ next taken,
      FrameMemory.recv
          { memory with pbufs := Function.update memory.pbufs p.arrival true }
          addr p new = some (next, taken) ∧
      ((∃ node, taken = some ⟨addr, p⟩ ∧
          next.Represents (order ++ [node]) (queue ++ [⟨addr, p⟩])) ∨
        (taken = none ∧ next.Represents order queue ∧
          (udpPoolSize < queue.length ∨ new = none))) := by
  have refuse := represents.refuse unseen
  have counted := represents.counted
  rw [represents.stored.length] at counted
  by_cases full : memory.frames > udpPoolSize
  · refine ⟨memory, none, ?_, .inr ⟨rfl, represents, .inl ?_⟩⟩
    · simp [FrameMemory.recv, full, refuse]
    · omega
  · cases new with
    | none =>
        refine ⟨memory, none, ?_, .inr ⟨rfl, represents, .inr rfl⟩⟩
        simp [FrameMemory.recv, full, refuse]
    | some node =>
        refine ⟨_, _, ?_, .inl ⟨node, rfl, represents.addFrame free unseen⟩⟩
        simp only [FrameMemory.recv, full, if_false]

/-- The entries handed to the send are those of the first frames. -/
theorem Represents.gather (represents : memory.Represents order queue)
    {count : Nat} (within : count ≤ order.length) :
    memory.gather count = some (order.take count) := by
  have walked := represents.holds.firstNodes within
  have allocated : ((order.take count).all fun node =>
      (memory.heap node).isSome) = true := by
    rw [List.all_eq_true]
    intro node member
    exact represents.stored.allocated (List.mem_of_mem_take member)
  simp only [FrameMemory.gather, walked, Option.filter, allocated, if_true]

/-- The frames that were sent are taken off the front and freed. -/
theorem Represents.release {count : Nat} :
    ∀ {memory : FrameMemory} {order : List Nat}
      {queue : List HevSocks5UDPFrame}, memory.Represents order queue →
      count ≤ order.length →
      ∃ released, release count memory = some released ∧
        released.Represents (order.drop count) (queue.drop count) := by
  induction count with
  | zero =>
      intro memory order queue represents _
      exact ⟨memory, rfl, represents⟩
  | succ count inductionHypothesis =>
      intro memory order queue represents within
      have lengths := represents.stored.length
      cases order with
      | nil => cases within
      | cons node order =>
          cases queue with
          | nil => cases lengths
          | cons frame queue =>
              -- unlinking the first frame leaves the heap as it is
              have unlinked : Stored
                  { memory with
                    frameList := (memory.frameList.del memory.nodes node).1
                    nodes := (memory.frameList.del memory.nodes node).2 }
                  (node :: order) (frame :: queue) :=
                ⟨represents.stored.distinct, represents.stored.apart,
                  represents.stored.contents, represents.stored.only,
                  represents.stored.pbufs⟩
              obtain ⟨heap, pbufs, freed, stored⟩ := unlinked.freeFrame
              have shorter : Represents
                  { memory with
                    frameList := (memory.frameList.del memory.nodes node).1
                    nodes := (memory.frameList.del memory.nodes node).2
                    frames := memory.frames - 1
                    heap := heap
                    pbufs := pbufs } order queue := by
                refine ⟨?_, ?_, ?_⟩
                · have holds : memory.frameList.Holds memory.nodes
                      ([] ++ node :: order) := represents.holds
                  exact holds.del
                · have counted := represents.counted
                  rw [List.length_cons] at counted
                  change memory.frames - 1 = _
                  omega
                · exact ⟨stored.distinct, stored.apart, stored.contents,
                    stored.only, stored.pbufs⟩
              obtain ⟨released, loop, rest⟩ := inductionHypothesis shorter
                (Nat.le_of_succ_le_succ within)
              refine ⟨released, ?_, rest⟩
              have head : memory.frameList.head = some node :=
                represents.holds.head
              simp only [FrameMemory.release, head, freed]
              exact loop

/-- From any frame on, the destructor frees the frames from there to the
end. -/
theorem Stored.freeAll {rest : List Nat} :
    ∀ {memory : FrameMemory} {front : List Nat}
      {queue : List HevSocks5UDPFrame} {rounds : Nat},
      LinkedList.Threads memory.nodes (front ++ rest) →
      memory.Stored rest queue → rest.length ≤ rounds →
      ∃ freed, freeAll rounds rest.head? memory = some (freed, queue) ∧
        freed.Stored [] [] := by
  induction rest with
  | nil =>
      intro memory front queue rounds _ stored _
      have lengths := stored.length
      cases queue with
      | nil =>
          refine ⟨memory, ?_, stored⟩
          cases rounds <;> rfl
      | cons _ _ => cases lengths
  | cons node rest inductionHypothesis =>
      intro memory front queue rounds threads stored enough
      have lengths := stored.length
      cases queue with
      | nil => cases lengths
      | cons frame queue =>
          cases rounds with
          | zero => cases enough
          | succ rounds =>
              obtain ⟨heap, pbufs, freed, later⟩ := stored.freeFrame
              -- the link to the next frame is read before the frame is freed
              have linked := (threads.linked front node rest rfl).1
              have onwards : LinkedList.Threads
                  { memory with heap := heap, pbufs := pbufs }.nodes
                  ((front ++ [node]) ++ rest) := by
                rw [List.append_assoc]
                exact threads
              obtain ⟨last, loop, nothing⟩ := inductionHypothesis
                onwards later (Nat.le_of_succ_le_succ enough)
              refine ⟨last, ?_, nothing⟩
              simp only [List.head?_cons, FrameMemory.freeAll, freed, linked,
                loop]
              rfl

end Represents

end FrameMemory

namespace SessionUdpFrames

/-- Packets are numbered in the order in which they come. -/
structure Numbered (state : SessionUdpFrames) : Prop where
  ordered : state.accepted.Pairwise fun earlier later =>
    earlier.data.arrival < later.data.arrival
  past : ∀ frame ∈ state.accepted, frame.data.arrival < state.arrivals

/-- What was accepted is what was sent and, behind it, what is queued. -/
structure Queued (state : SessionUdpFrames) (order : List Nat)
    (queue : List HevSocks5UDPFrame) : Prop where
  represents : state.memory.Represents order queue
  accounted : state.accepted = state.sent ++ queue
  dropped : state.dropped = []

/-- The books of a session in each of its phases.  While the send has the
entries of some first frames, these stay first. -/
def Sound (state : SessionUdpFrames) : Prop :=
  state.Numbered ∧
  match state.phase with
  | .idle => ∃ order queue, state.Queued order queue
  | .sending msgv => ∃ order queue, state.Queued order queue ∧ msgv <+: order
  | .destructed =>
      state.accepted = state.sent ++ state.dropped ∧ state.memory.Stored [] []
  | .fault => False

section Steps

variable {state : SessionUdpFrames} {order : List Nat}
  {queue : List HevSocks5UDPFrame}

/-- A packet that comes is queued behind all others or refused, and numbered
after all others. -/
theorem Queued.recv (queued : state.Queued order queue)
    (numbered : state.Numbered) (addr : HevSocks5Addr) (payload : List UInt8)
    {new : Option Nat} (free : new.bind state.memory.heap = none) :
    ∃ next, state.recv addr payload new = some next ∧ next.Numbered ∧
      next.phase = state.phase ∧
      ((∃ node,
          next.accepted = state.accepted ++ [⟨addr, ⟨state.arrivals, payload⟩⟩] ∧
          next.Queued (order ++ [node])
            (queue ++ [⟨addr, ⟨state.arrivals, payload⟩⟩])) ∨
        (next.accepted = state.accepted ∧ next.Queued order queue ∧
          (udpPoolSize < queue.length ∨ new = none))) := by
  obtain ⟨represents, accounted, dropped⟩ := queued
  have unseen : state.arrivals ∉ queue.map (·.data.arrival) := by
    intro member
    obtain ⟨frame, inQueue, same⟩ := List.mem_map.mp member
    have before := numbered.past frame (by
      rw [accounted]
      exact List.mem_append_right _ inQueue)
    omega
  obtain ⟨memory, taken, received, cases⟩ :=
    represents.recv addr ⟨state.arrivals, payload⟩ unseen free
  have results : state.recv addr payload new = some
      { state with
        memory := memory
        arrivals := state.arrivals + 1
        accepted := state.accepted ++ taken.toList } := by
    rw [SessionUdpFrames.recv]
    simp only [received]
    rfl
  refine ⟨_, results, ?_, rfl, ?_⟩
  · rcases cases with ⟨_, rfl, _⟩ | ⟨rfl, _⟩
    · constructor
      · refine List.pairwise_append.mpr
          ⟨numbered.ordered, List.pairwise_singleton _ _, ?_⟩
        intro earlier member later isLast
        rw [List.mem_singleton.mp isLast]
        exact numbered.past earlier member
      · intro frame member
        rcases List.mem_append.mp member with old | isLast
        · exact Nat.lt_succ_of_lt (numbered.past frame old)
        · rw [List.mem_singleton.mp isLast]
          exact Nat.lt_succ_self _
    · constructor
      · simpa using numbered.ordered
      · intro frame member
        simp only [Option.toList_none, List.append_nil] at member
        exact Nat.lt_succ_of_lt (numbered.past frame member)
  · rcases cases with ⟨node, rfl, added⟩ | ⟨rfl, unchanged, reason⟩
    · refine .inl ⟨node, rfl, added, ?_, dropped⟩
      simp [accounted]
    · refine .inr ⟨List.append_nil _, ⟨unchanged, ?_, dropped⟩, reason⟩
      simpa using accounted

/-- The send is given the entries of the first frames. -/
theorem Queued.fwdF (queued : state.Queued order queue) (num : Nat) :
    state.fwdF num = some state ∨
      ∃ count, state.fwdF num =
        some { state with phase := .sending (order.take count) } := by
  unfold SessionUdpFrames.fwdF
  split
  · exact .inl rfl
  · have counted := queued.represents.counted
    have within : min state.memory.frames.toNat num ≤ order.length := by omega
    rw [queued.represents.gather within]
    exact .inr ⟨_, rfl⟩

/-- The frames whose entries were reported are the first in the queue, and
leave it. -/
theorem Queued.forwarded (queued : state.Queued order queue)
    {msgv : List Nat} (first : msgv <+: order) {res : Int}
    (within : res ≤ msgv.length) :
    ∃ next order queue, state.forwarded msgv res = some next ∧
      next.phase = .idle ∧ next.arrivals = state.arrivals ∧
      next.accepted = state.accepted ∧ next.Queued order queue := by
  obtain ⟨represents, accounted, dropped⟩ := queued
  unfold SessionUdpFrames.forwarded
  by_cases failed : res ≤ 0
  · rw [if_pos failed]
    exact ⟨_, order, queue, rfl, rfl, rfl, rfl, represents, accounted, dropped⟩
  · rw [if_neg failed]
    have count : res.toNat ≤ msgv.length := by omega
    obtain ⟨later, rfl⟩ := first
    have taken : (msgv ++ later).take res.toNat = msgv.take res.toNat :=
      List.take_append_of_le_length count
    have reported := represents.stored.mapM_take res.toNat
    rw [taken] at reported
    have inside : res.toNat ≤ (msgv ++ later).length := by
      rw [List.length_append]
      omega
    obtain ⟨memory, released, rest⟩ := represents.release inside
    rw [reported, released]
    refine ⟨_, _, _, rfl, rfl, rfl, rfl, rest, ?_, dropped⟩
    rw [accounted, List.append_assoc, List.take_append_drop]

/-- The destructor frees what is queued. -/
theorem Queued.destruct (queued : state.Queued order queue) :
    ∃ memory, state.destruct =
        some
          { state with memory := memory, phase := .destructed, dropped := queue } ∧
      memory.Stored [] [] := by
  obtain ⟨represents, accounted, _⟩ := queued
  have enough : order.length ≤ state.accepted.length := by
    rw [accounted, List.length_append, represents.stored.length]
    omega
  have threads : LinkedList.Threads state.memory.nodes ([] ++ order) :=
    represents.holds.threads
  obtain ⟨memory, freed, nothing⟩ :=
    FrameMemory.Stored.freeAll threads represents.stored enough
  refine ⟨memory, ?_, nothing⟩
  rw [SessionUdpFrames.destruct, represents.holds.head, freed]
  rfl

end Steps

@[simp] theorem orFault_some (state next : SessionUdpFrames) :
    state.orFault (some next) = next := rfl

/-- In every phase in which packets are received there is a queue. -/
theorem Sound.queued {state : SessionUdpFrames} (sound : state.Sound)
    (listening : state.Listening) : ∃ order queue, state.Queued order queue := by
  obtain ⟨_, books⟩ := sound
  cases phase : state.phase with
  | idle =>
      rw [phase] at books
      exact books
  | sending msgv =>
      rw [phase] at books
      obtain ⟨order, queue, queued, _⟩ := books
      exact ⟨order, queue, queued⟩
  | destructed => exact absurd phase listening.1
  | fault => exact absurd phase listening.2

/-- A packet that comes keeps the books. -/
theorem Sound.recv {state : SessionUdpFrames} (sound : state.Sound)
    (listening : state.Listening) (addr : HevSocks5Addr) (payload : List UInt8)
    {new : Option Nat} (free : new.bind state.memory.heap = none) :
    (state.orFault (state.recv addr payload new)).Sound := by
  obtain ⟨numbered, books⟩ := sound
  cases phase : state.phase with
  | idle =>
      rw [phase] at books
      obtain ⟨order, queue, queued⟩ := books
      obtain ⟨next, received, numbered, same, cases⟩ :=
        queued.recv numbered addr payload free
      rw [received, orFault_some]
      refine ⟨numbered, ?_⟩
      rw [same, phase]
      rcases cases with ⟨_, _, queued⟩ | ⟨_, queued, _⟩
      · exact ⟨_, _, queued⟩
      · exact ⟨_, _, queued⟩
  | sending msgv =>
      rw [phase] at books
      obtain ⟨order, queue, queued, first⟩ := books
      obtain ⟨next, received, numbered, same, cases⟩ :=
        queued.recv numbered addr payload free
      rw [received, orFault_some]
      refine ⟨numbered, ?_⟩
      rw [same, phase]
      rcases cases with ⟨node, _, queued⟩ | ⟨_, queued, _⟩
      · exact ⟨_, _, queued, first.trans (List.prefix_append order [node])⟩
      · exact ⟨_, _, queued, first⟩
  | destructed => exact absurd phase listening.1
  | fault => exact absurd phase listening.2

/-- The result of a send keeps the books. -/
theorem Sound.forwarded {state : SessionUdpFrames} (sound : state.Sound)
    {msgv : List Nat} (phase : state.phase = .sending msgv) {res : Int}
    (within : res ≤ msgv.length) :
    (state.orFault (state.forwarded msgv res)).Sound := by
  obtain ⟨numbered, books⟩ := sound
  rw [phase] at books
  obtain ⟨order, queue, queued, first⟩ := books
  obtain ⟨next, order, queue, returned, idle, arrivals, accepted, queued⟩ :=
    queued.forwarded first within
  rw [returned, orFault_some]
  refine ⟨⟨?_, ?_⟩, ?_⟩
  · rw [accepted]
    exact numbered.ordered
  · rw [accepted, arrivals]
    exact numbered.past
  · rw [idle]
    exact ⟨order, queue, queued⟩

/-- Every step keeps the books. -/
theorem Sound.exec {state next : SessionUdpFrames} {label : Label}
    (sound : state.Sound) (taken : state.exec label = some next) :
    next.Sound := by
  cases label with
  | recv p new =>
      cases p with
      | none =>
          obtain ⟨_, same⟩ := Option.ite_none_right_eq_some.mp taken
          cases same
          exact sound
      | some p =>
          obtain ⟨⟨listening, free⟩, same⟩ :=
            Option.ite_none_right_eq_some.mp taken
          cases same
          exact sound.recv listening p.1 p.2 free
  | fwdF num =>
      obtain ⟨phase, same⟩ := Option.ite_none_right_eq_some.mp taken
      cases same
      obtain ⟨numbered, books⟩ := sound
      have idle := books
      rw [phase] at idle
      obtain ⟨order, queue, queued⟩ := idle
      rcases queued.fwdF num with stays | ⟨count, sends⟩
      · rw [stays]
        exact ⟨numbered, books⟩
      · rw [sends]
        exact ⟨⟨numbered.ordered, numbered.past⟩, order, queue,
          ⟨queued.represents, queued.accounted, queued.dropped⟩,
          List.take_prefix count order⟩
  | sendmmsg res =>
      cases phase : state.phase with
      | sending msgv =>
          simp only [SessionUdpFrames.exec, phase,
            Option.ite_none_right_eq_some] at taken
          obtain ⟨within, same⟩ := taken
          cases same
          exact sound.forwarded phase within
      | idle => simp [SessionUdpFrames.exec, phase] at taken
      | destructed => simp [SessionUdpFrames.exec, phase] at taken
      | fault => simp [SessionUdpFrames.exec, phase] at taken
  | destruct =>
      obtain ⟨phase, same⟩ := Option.ite_none_right_eq_some.mp taken
      cases same
      obtain ⟨numbered, books⟩ := sound
      rw [phase] at books
      obtain ⟨order, queue, queued⟩ := books
      obtain ⟨memory, destructed, nothing⟩ := queued.destruct
      rw [destructed]
      exact ⟨⟨numbered.ordered, numbered.past⟩, queued.accounted, nothing⟩

theorem sound_invariant : Invariant system Sound where
  initial := by
    rintro state rfl
    refine ⟨⟨List.Pairwise.nil, nofun⟩, [], [], ?_, rfl, rfl⟩
    exact FrameMemory.empty_represents
  preserved _ _ _ sound taken := sound.exec taken

/-! ## What becomes of the packets -/

/-- In every reachable state no memory was used wrongly, and the accepted
frames, in the order in which they came, are those reported as sent, then those
queued, then those the destructor has freed.  Before the destructor the list
holds the queued frames and `frames` is their number; after it nothing is
allocated.  A packet is refused only where more than `UDP_POOL_SIZE` frames are
queued or `hev_malloc` fails. -/
theorem frames_exactly_once {state : SessionUdpFrames}
    (reached : system.Reachable state) :
    state.phase ≠ .fault ∧
      (state.accepted.Pairwise fun earlier later =>
        earlier.data.arrival < later.data.arrival) ∧
      ∃ order queue,
        state.accepted = state.sent ++ queue ++ state.dropped ∧
          (state.phase ≠ .destructed →
            state.memory.Represents order queue ∧
              state.memory.frames = queue.length ∧ state.dropped = []) ∧
          (state.phase = .destructed →
            queue = [] ∧ state.memory.Stored [] []) ∧
          ∀ addr payload new next,
            system.step state (.recv (some (addr, payload)) new) next →
              next.accepted =
                  state.accepted ++ [⟨addr, ⟨state.arrivals, payload⟩⟩] ∨
                next.accepted = state.accepted ∧
                  (udpPoolSize < queue.length ∨ new = none) := by
  have sound := sound_invariant.reachable reached
  have unfaulted : state.phase ≠ .fault := by
    intro phase
    have books := sound.2
    rw [phase] at books
    exact books
  refine ⟨unfaulted, sound.1.ordered, ?_⟩
  by_cases phase : state.phase = .destructed
  · have books := sound.2
    rw [phase] at books
    refine ⟨[], [], ?_, fun listening => absurd phase listening,
      fun _ => ⟨rfl, books.2⟩, ?_⟩
    · rw [List.append_nil]
      exact books.1
    · intro addr payload new next taken
      obtain ⟨⟨listening, _⟩, _⟩ := Option.ite_none_right_eq_some.mp taken
      exact absurd phase listening.1
  · obtain ⟨order, queue, queued⟩ := sound.queued ⟨phase, unfaulted⟩
    refine ⟨order, queue, ?_, fun _ => ⟨queued.represents, ?_, queued.dropped⟩,
      fun destructed => absurd destructed phase, ?_⟩
    · rw [queued.dropped, List.append_nil]
      exact queued.accounted
    · rw [queued.represents.counted, queued.represents.stored.length]
    · intro addr payload new next taken
      obtain ⟨⟨_, free⟩, same⟩ := Option.ite_none_right_eq_some.mp taken
      cases same
      obtain ⟨next, received, _, _, cases⟩ :=
        queued.recv sound.1 addr payload free
      rw [received, orFault_some]
      rcases cases with ⟨_, accepted, _⟩ | ⟨accepted, _, reason⟩
      · exact .inl accepted
      · exact .inr ⟨accepted, reason⟩

theorem length_ones : (List.replicate 260 (1 : UInt8)).length = 260 :=
  List.length_replicate

/-- Two packets are queued and one is refused; while both are being sent
another comes, and one is reported; the next send fails. -/
def partialSends : List Label :=
  let addr : HevSocks5Addr := ⟨List.replicate 260 1, length_ones⟩
  [.recv (some (addr, [10])) (some 7), .recv (some (addr, [11])) none,
    .recv (some (addr, [12])) (some 3), .fwdF 8,
    .recv (some (addr, [13])) (some 5), .sendmmsg 1, .fwdF 1, .sendmmsg (-1),
    .destruct]

theorem frames_exactly_once_partial_sends :
    ∃ state, system.Reachable state ∧ state.phase = .destructed ∧
      state.sent.map (·.data.arrival) = [0] ∧
      state.dropped.map (·.data.arrival) = [2, 3] ∧ state.phase ≠ .fault := by
  have replayed : (partialSends.foldlM exec initial).map
      (fun state => (state.phase, state.sent.map (·.data.arrival),
        state.dropped.map (·.data.arrival))) =
      some (.destructed, [0], [2, 3]) := by
    decide
  obtain ⟨state, run, seen⟩ := System.replay _ replayed
  obtain ⟨phase, seen⟩ := Prod.ext_iff.mp seen
  obtain ⟨sent, dropped⟩ := Prod.ext_iff.mp seen
  have reached : system.Reachable state := ⟨initial, _, rfl, run⟩
  exact ⟨state, reached, phase, sent, dropped, (frames_exactly_once reached).1⟩

end SessionUdpFrames

end ProxyVPN
