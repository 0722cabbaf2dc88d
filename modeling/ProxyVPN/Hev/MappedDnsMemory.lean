/-
Module: ProxyVPN.Hev.MappedDnsMemory
Purpose: The mapped DNS cache with its red-black tree as it is in memory.  Its
  calls do what those of the cache on a plain tree do, and all its loops end.
Trusted boundary: human-reviewed model
Main exports: HevMappedDNSMemory, HevMappedDNSMemory.find,
  HevMappedDNSMemory.system, find_refines, find_returns,
  HevMappedDNSMemory.recalled_of_run, mapped_dns_memory_refines
-/
import ProxyVPN.Hev.MappedDnsCache
import ProxyVPN.Hev.RBTreeSearch

namespace ProxyVPN

open RedBlack Transition

/-- `struct _HevMappedDNS` with the nodes it reaches. -/
structure HevMappedDNSMemory where
  use : Nat
  max : Int
  net : BitVec 32
  mask : BitVec 32
  list : HevList
  tree : HevRBTree
  records : Nat → Option Nat
  links : HevListNodes
  name : Nat → CString
  idx : Nat → Nat

namespace HevMappedDNSMemory

/-- The cache on a tree that is not in memory. -/
def onTree (self : HevMappedDNSMemory) (tree : SearchTree.Tree Nat) :
    HevMappedDNS :=
  { use := self.use
    max := self.max
    net := self.net
    mask := self.mask
    list := self.list
    tree := tree
    records := self.records
    links := self.links
    name := self.name
    idx := self.idx }

theorem zero_notMem_nil : (0 : UInt8) ∉ ([] : List UInt8) := List.not_mem_nil

/-- `hev_mapped_dns_construct` on zeroed memory. -/
def construct (net mask : BitVec 32) (max : Int) : Option HevMappedDNSMemory :=
  if max > (~~~mask).toInt then
    none
  else
    some
      { use := 0
        max := max
        net := net
        mask := mask
        list := .empty
        tree := { root := 0, nodes := fun _ => none }
        records := fun _ => none
        links := fun _ => { next := none, prev := none }
        name := fun _ => { bytes := [], noZero := zero_notMem_nil }
        idx := fun _ => 0 }

def key (self : HevMappedDNSMemory) (node : Nat) : List UInt8 :=
  (self.name node).bytes

/-- `hev_list_del` and `hev_list_add_tail` of a node in the list. -/
def touch (self : HevMappedDNSMemory) (node : Nat) : HevMappedDNSMemory :=
  let (list, links) := self.list.del self.links node
  let (list, links) := list.addTail links node
  { self with list := list, links := links }

/-- The new node in the tree and at the end of the list. -/
def attach (self : HevMappedDNSMemory) (name : CString) (node : Nat)
    (inserted : HevRBTree) : HevMappedDNSMemory :=
  let (list, links) := self.list.addTail self.links node
  { self with
    tree := inserted
    list := list
    links := links
    name := fun address => if address = node then name else self.name address }

/-- A node taken out of the tree and the list, and freed. -/
def detach (self : HevMappedDNSMemory) (node : Nat) (erased : HevRBTree) :
    HevMappedDNSMemory :=
  let (list, links) := self.list.del self.links node
  { self with tree := erased.free node, list := list, links := links }

/-- `self->records[idx] = node; node->idx = idx;` -/
def record (self : HevMappedDNSMemory) (idx node : Nat) : HevMappedDNSMemory :=
  { self with
    records := fun i => if i = idx then some node else self.records i
    idx := fun address => if address = node then idx else self.idx address }

/-- `hev_mapped_dns_find` with what the allocator returns, in so many rounds of
each loop. -/
def find (self : HevMappedDNSMemory) (rounds : Nat) (name : CString)
    (allocated : Option Nat) : Option (Int × HevMappedDNSMemory) := do
  let turn := directions self.key name.bytes
  let place ← self.tree.findPlace turn rounds self.tree.rootPlace
  if place.node ≠ 0 then
    some (self.idx place.node, self.touch place.node)
  else
    match allocated with
    | none => some (-1, self)
    | some node =>
        if self.tree.Unused node then do
          let inserted ←
            (self.tree.allocate node).insert rounds node place.parent place.link
          let self := self.attach name node inserted
          if self.use < self.max then
            let idx := self.use
            some (idx, { self with use := self.use + 1 }.record idx node)
          else
            let first ← self.list.head
            let idx := self.idx first
            let erased ← self.tree.erase rounds first
            some (idx, (self.detach first erased).record idx node)
        else
          none

/-- `hev_mapped_dns_lookup`. -/
def lookup (self : HevMappedDNSMemory) (ip : BitVec 32) :
    Option (Option CString × HevMappedDNSMemory) :=
  let idx := (ip &&& ~~~self.mask).toInt
  if idx ≥ self.max then
    some (none, self)
  else if idx < 0 then
    none
  else
    match self.records idx.toNat with
    | none => some (none, self)
    | some node => some (some (self.name node), self.touch node)

/-- One call with what it returned. -/
inductive Call where
  | find (name : CString) (allocated : Option Nat) (result : Int)
  | lookup (ip : BitVec 32) (result : Option CString)

/-- The name a call found, or hit by its address. -/
def Call.accessed : Call → Option CString
  | .find name _ result => if result < 0 then none else some name
  | .lookup _ result => result

/-- The index a call went by. -/
def Call.index (mask : BitVec 32) : Call → Int
  | .find _ _ result => result
  | .lookup ip _ => (ip &&& ~~~mask).toInt

/-- The distinct names other than `name` that these calls accessed. -/
def others (name : CString) (calls : List Call) : Finset CString :=
  ((calls.filterMap Call.accessed).filter (· ≠ name)).toFinset

def exec (rounds : Nat) (self : HevMappedDNSMemory) :
    Call → Option HevMappedDNSMemory
  | .find name allocated result => do
      let (found, next) ← self.find rounds name allocated
      if found = result then some next else none
  | .lookup ip result => do
      let (found, next) ← self.lookup ip
      if found = result then some next else none

/-- All sequences of calls, with loops of so many rounds. -/
def system (net mask : BitVec 32) (max : Int) (rounds : Nat) :
    System HevMappedDNSMemory Call :=
  .ofExec (fun self => construct net mask max = some self) (exec rounds)

/-- What a caller sees of a call. -/
def seen : HevMappedDNS.Label → Call
  | .find name outcome result => .find name outcome.node result
  | .lookup ip result => .lookup ip result

theorem accessed_seen (label : HevMappedDNS.Label) :
    (seen label).accessed = label.accessed := by
  cases label <;> rfl

theorem index_seen (mask : BitVec 32) (label : HevMappedDNS.Label) :
    (seen label).index mask = label.index mask := by
  cases label <;> rfl

theorem others_seen (name : CString) (labels : List HevMappedDNS.Label) :
    others name (labels.map seen) = HevMappedDNS.others name labels := by
  unfold others HevMappedDNS.others
  rw [List.filterMap_map, show Call.accessed ∘ seen = HevMappedDNS.Label.accessed from
    funext accessed_seen]

/-- A cache in memory is the cache on the tree that is in its memory. -/
def Refines (self : HevMappedDNSMemory) (cache : HevMappedDNS) : Prop :=
  ∃ tree, self.tree.Owns tree ∧ cache = self.onTree tree.plain

/-- As many rounds as the loops of a cache of this capacity need. -/
def roundsFor (max : Int) : Nat := 2 * (max.toNat + 2).log2 + 1

section Calls

variable {self : HevMappedDNSMemory} {tree : ColorTree Nat} {order : List Nat}
  {rounds : Nat} {name : CString}

theorem height_lt (owns : self.tree.Owns tree)
    (holds : (self.onTree tree.plain).Holds order)
    (enough : roundsFor self.max ≤ rounds) : tree.height < rounds := by
  have few : tree.toList.length ≤ self.max.toNat + 1 := by
    have same := holds.threaded.tree.length_eq
    have bounded : (self.use : Int) ≤ self.max := holds.bounded
    have count : order.length = self.use := holds.count
    change tree.plain.toList.length = order.length at same
    rw [ColorTree.toList_plain] at same
    omega
  have low : tree.height ≤ 2 * (self.max.toNat + 2).log2 := owns.good.height_le_of_length few
  unfold roundsFor at enough
  omega

/-- A search that finds its name. -/
theorem find_hit (owns : self.tree.Owns tree) (enough : tree.height < rounds)
    {node : Nat} (hit : SearchTree.search self.key name.bytes tree.plain = some node)
    (allocated : Option Nat) :
    self.find rounds name allocated = some ((self.idx node : Int), self.touch node) := by
  obtain ⟨place, found, same⟩ := owns.holds.search_eq self.key name.bytes enough
  rw [hit] at same
  have notNull : place.node ≠ 0 := by
    intro isNull
    rw [if_pos isNull] at same
    cases same
  rw [if_neg notNull] at same
  cases same
  rw [find, found]
  exact if_pos notNull

/-- A name that is not there gets a new node, if there is one. -/
theorem find_miss (owns : self.tree.Owns tree)
    (holds : (self.onTree tree.plain).Holds order) (positive : 1 ≤ self.max)
    (enough : roundsFor self.max ≤ rounds)
    (missed : SearchTree.search self.key name.bytes tree.plain = none)
    {allocated : Option Nat}
    (usable : ∀ node, allocated = some node → self.tree.Unused node) :
    ∃ result next outcome after,
      self.find rounds name allocated = some (result, next) ∧
      outcome.node = allocated ∧
      (self.onTree tree.plain).find name outcome = some (result, after) ∧
      next.Refines after := by
  have low := height_lt owns holds enough
  have leaf : (seek (directions self.key name.bytes) [] tree).2 = .leaf := by
    have ended := seek_search self.key name.bytes [] tree
    rw [missed] at ended
    revert ended
    cases (seek (directions self.key name.bytes) [] tree).2 with
    | leaf => exact fun _ => rfl
    | node => rintro ⟨⟩
  have missedView : SearchTree.search (self.onTree tree.plain).key name.bytes
      (self.onTree tree.plain).tree = none := missed
  obtain ⟨place, ran, null, parent, link⟩ : ∃ place,
      self.tree.findPlace (directions self.key name.bytes) rounds self.tree.rootPlace =
        some place ∧ place.node = 0 ∧
      place.parent = HevRBTree.top (seek (directions self.key name.bytes) [] tree).1 ∧
      place.link = HevRBTree.linkOf (seek (directions self.key name.bytes) [] tree).1 := by
    refine ⟨_, owns.holds.search (directions self.key name.bytes) low, ?_, rfl, rfl⟩
    rw [leaf]
    rfl
  rw [find, ran]
  simp only [Option.bind_eq_bind, Option.bind_some]
  rw [if_neg (not_not_intro null), parent, link]
  cases allocated with
  | none =>
      refine ⟨_, _, ⟨none, .leaf, .leaf⟩, _, rfl, rfl, ?_, tree, owns, rfl⟩
      rw [HevMappedDNS.find, missedView]
  | some node =>
      have unused := usable node rfl
      have fresh := owns.fresh unused.1
      obtain ⟨inserted, later, wrote, laterOwns, laterOrder⟩ :=
        owns.insert leaf unused low
      have kept : later.plain.toList =
          (SearchTree.link self.key name.bytes node tree.plain).toList := by
        rw [ColorTree.toList_plain, laterOrder, seek_link node leaf]
        simp [before, after]
      have freshOrder : node ∉ order := fun member => fresh (by
        rw [← ColorTree.toList_plain]
        exact holds.threaded.tree.mem_iff.mpr member)
      have attached := holds.threaded.attach freshOrder
        (holds.threaded.absent missedView) kept
      have possible : node ∉ tree.plain.toList ∧ later.plain.toList =
          (SearchTree.link self.key name.bytes node tree.plain).toList :=
        ⟨by rwa [ColorTree.toList_plain], kept⟩
      simp only [if_pos unused, wrote, Option.bind_some]
      by_cases room : (self.use : Int) < self.max
      · refine ⟨_, _, ⟨some node, later.plain, .leaf⟩, _, if_pos room, rfl, ?_,
          later, laterOwns, rfl⟩
        rw [HevMappedDNS.find, missedView]
        exact (if_pos possible).trans (if_pos room)
      · obtain ⟨first, isFirst⟩ : ∃ first,
            (self.attach name node inserted).list.head = some first ∧
              first ∈ order ++ [node] := by
          have headEq := attached.list.head
          cases order with
          | nil => exact ⟨node, headEq, by simp⟩
          | cons first rest => exact ⟨first, headEq, by simp⟩
        obtain ⟨isHead, member⟩ := isFirst
        have inLater : first ∈ later.toList := by
          rw [← ColorTree.toList_plain]
          exact attached.tree.mem_iff.mpr member
        have laterLow : later.height ≤ rounds := by
          have few : later.toList.length ≤ self.max.toNat + 1 := by
            have same := attached.tree.length_eq
            have bounded : (self.use : Int) ≤ self.max := holds.bounded
            have count : order.length = self.use := holds.count
            change later.plain.toList.length = _ at same
            rw [ColorTree.toList_plain, List.length_append, List.length_singleton]
              at same
            omega
          have low : later.height ≤ 2 * (self.max.toNat + 2).log2 :=
            laterOwns.good.height_le_of_length few
          unfold roundsFor at enough
          omega
        obtain ⟨erased, last, ranErase, lastOwns, lastOrder⟩ :=
          laterOwns.erase inLater laterLow
        have keptErased : last.plain.toList = later.plain.toList.erase first := by
          rw [ColorTree.toList_plain, ColorTree.toList_plain, lastOrder]
        refine ⟨((self.attach name node inserted).idx first : Int),
          ((self.attach name node inserted).detach first erased).record
            ((self.attach name node inserted).idx first) node,
          ⟨some node, later.plain, last.plain⟩, _, ?_, rfl, ?_, last, lastOwns, rfl⟩
        · rw [if_neg (show ¬((self.attach name node inserted).use : Int) <
            (self.attach name node inserted).max from room), isHead,
            Option.bind_some, show (self.attach name node inserted).tree = inserted
            from rfl, ranErase, Option.bind_some]
        · rw [HevMappedDNS.find, missedView]
          refine (if_pos possible).trans ((if_neg room).trans ?_)
          have headView : ((self.onTree tree.plain).attach name node later.plain).list.head =
              some first := isHead
          simp only [headView]
          exact if_pos keptErased

/-- Every search does what the search on the plain tree can do. -/
theorem find_refines {cache : HevMappedDNS} (refines : self.Refines cache)
    (holds : cache.Holds order) (positive : 1 ≤ cache.max)
    (enough : roundsFor cache.max ≤ rounds) {allocated : Option Nat} {result : Int}
    {next : HevMappedDNSMemory}
    (taken : self.find rounds name allocated = some (result, next)) :
    ∃ outcome after, outcome.node = allocated ∧
      cache.find name outcome = some (result, after) ∧ next.Refines after := by
  obtain ⟨tree, owns, rfl⟩ := refines
  have low := height_lt owns holds enough
  cases searched : SearchTree.search self.key name.bytes tree.plain with
  | some node =>
      rw [find_hit owns low searched] at taken
      cases taken
      refine ⟨⟨allocated, .leaf, .leaf⟩, _, rfl, ?_, tree, owns, rfl⟩
      have searchedView : SearchTree.search (self.onTree tree.plain).key name.bytes
          (self.onTree tree.plain).tree = some node := searched
      rw [HevMappedDNS.find, searchedView]
      rfl
  | none =>
      have usable : ∀ node, allocated = some node → self.tree.Unused node := by
        rintro node rfl
        by_contra unusable
        obtain ⟨place, found, same⟩ := owns.holds.search_eq self.key name.bytes low
        have null : place.node = 0 := by
          by_contra notNull
          rw [searched, if_neg notNull] at same
          cases same
        rw [find, found] at taken
        simp only [Option.bind_eq_bind, Option.bind_some] at taken
        rw [if_neg (not_not_intro null), if_neg unusable] at taken
        cases taken
      obtain ⟨_, _, outcome, after, ran, nodeEq, view, refinesAfter⟩ :=
        find_miss owns holds positive enough searched usable
      rw [ran] at taken
      cases taken
      exact ⟨outcome, after, nodeEq, view, refinesAfter⟩

/-- All loops of a search end, and no pointer that is no node is followed. -/
theorem find_returns {cache : HevMappedDNS} (refines : self.Refines cache)
    (holds : cache.Holds order) (positive : 1 ≤ cache.max)
    (enough : roundsFor cache.max ≤ rounds) {allocated : Option Nat}
    (usable : ∀ node, allocated = some node → self.tree.Unused node) :
    ∃ result next, self.find rounds name allocated = some (result, next) := by
  obtain ⟨tree, owns, rfl⟩ := refines
  cases searched : SearchTree.search self.key name.bytes tree.plain with
  | some node =>
      exact ⟨_, _, find_hit owns (height_lt owns holds enough) searched allocated⟩
  | none =>
      obtain ⟨result, next, _, _, ran, _⟩ :=
        find_miss owns holds positive enough searched usable
      exact ⟨result, next, ran⟩

/-- A lookup does not go by the tree. -/
theorem lookup_onTree (self : HevMappedDNSMemory) (tree : SearchTree.Tree Nat)
    (ip : BitVec 32) :
    (self.onTree tree).lookup ip =
      (self.lookup ip).map fun answered => (answered.1, answered.2.onTree tree) := by
  unfold lookup HevMappedDNS.lookup
  change (if (ip &&& ~~~self.mask).toInt ≥ self.max then _
    else if (ip &&& ~~~self.mask).toInt < 0 then _ else
      match self.records (ip &&& ~~~self.mask).toInt.toNat with
      | none => _
      | some node => _) = _
  dsimp only
  split
  case isTrue => rfl
  case isFalse =>
    split
    case isTrue => rfl
    case isFalse => cases self.records (ip &&& ~~~self.mask).toInt.toNat <;> rfl

theorem lookup_refines {cache : HevMappedDNS} (refines : self.Refines cache)
    {ip : BitVec 32} {result : Option CString} {next : HevMappedDNSMemory}
    (taken : self.lookup ip = some (result, next)) :
    ∃ after, cache.lookup ip = some (result, after) ∧ next.Refines after := by
  obtain ⟨tree, owns, rfl⟩ := refines
  refine ⟨next.onTree tree.plain, ?_, tree, ?_, rfl⟩
  · rw [lookup_onTree, taken]
    rfl
  · unfold lookup at taken
    dsimp only at taken
    split at taken
    · cases taken
      exact owns
    split at taken
    · cases taken
    split at taken
    · cases taken
      exact owns
    · cases taken
      exact owns

/-- What the cache can look up, the one in memory looks up. -/
theorem lookup_returns {cache after : HevMappedDNS} (refines : self.Refines cache)
    {ip : BitVec 32} {result : Option CString}
    (ran : cache.lookup ip = some (result, after)) :
    ∃ next, self.lookup ip = some (result, next) := by
  obtain ⟨tree, owns, rfl⟩ := refines
  rw [lookup_onTree] at ran
  obtain ⟨⟨found, next⟩, taken, same⟩ := Option.map_eq_some_iff.mp ran
  cases same
  exact ⟨next, taken⟩

end Calls

/-! ## Whole runs -/

variable {net mask : BitVec 32} {max : Int} {rounds : Nat}

/-- A cache in memory refines a consistent cache of this capacity. -/
def Tracks (net mask : BitVec 32) (max : Int) (self : HevMappedDNSMemory)
    (cache : HevMappedDNS) : Prop :=
  self.Refines cache ∧ ∃ recency, HevMappedDNS.Tracks net mask max cache recency

theorem exec_simulation (positive : 1 ≤ max) (enough : roundsFor max ≤ rounds) :
    Simulation (system net mask max rounds)
      ((HevMappedDNS.system net mask max).observe seen) (Tracks net mask max) where
  forward := by
    rintro self cache call next ⟨refines, recency, tracks⟩ taken
    have continues : ∀ label after, HevMappedDNS.exec cache label = some after →
        ∃ later, HevMappedDNS.Tracks net mask max after later := by
      intro label after step
      obtain ⟨later, _, tracksLater⟩ :=
        (HevMappedDNS.exec_simulation positive).forward cache recency label after
          tracks step
      exact ⟨later, tracksLater⟩
    obtain ⟨⟨rfl, rfl, rfl⟩, order, holds, _⟩ := tracks
    cases call with
    | find name allocated result =>
        rcases Option.bind_eq_some_iff.mp taken with ⟨⟨found, later⟩, call, same⟩
        simp only [Option.ite_none_right_eq_some, Option.some.injEq] at same
        obtain ⟨rfl, rfl⟩ := same
        obtain ⟨outcome, after, rfl, ran, refinesAfter⟩ :=
          find_refines refines holds positive enough call
        have step : HevMappedDNS.exec cache (.find name outcome found) = some after := by
          rw [HevMappedDNS.exec, ran]
          exact if_pos rfl
        exact ⟨after, ⟨_, rfl, step⟩, refinesAfter, continues _ _ step⟩
    | lookup ip result =>
        rcases Option.bind_eq_some_iff.mp taken with ⟨⟨found, later⟩, call, same⟩
        simp only [Option.ite_none_right_eq_some, Option.some.injEq] at same
        obtain ⟨rfl, rfl⟩ := same
        obtain ⟨after, ran, refinesAfter⟩ := lookup_refines refines call
        have step : HevMappedDNS.exec cache (.lookup ip found) = some after := by
          rw [HevMappedDNS.exec, ran]
          exact if_pos rfl
        exact ⟨after, ⟨_, rfl, step⟩, refinesAfter, continues _ _ step⟩

/-- A cache that was just constructed is the empty cache. -/
theorem construct_tracks (positive : 1 ≤ max) {self : HevMappedDNSMemory}
    (constructed : construct net mask max = some self) :
    ∃ cache, HevMappedDNS.construct net mask max = some cache ∧
      Tracks net mask max self cache := by
  unfold construct at constructed
  split at constructed
  case isTrue => cases constructed
  case isFalse fits =>
    cases constructed
    have same : HevMappedDNS.construct net mask max = some _ := if_neg fits
    refine ⟨_, same, ⟨.leaf, ?_, rfl⟩, _, HevMappedDNS.construct_tracks positive same⟩
    refine ⟨⟨rfl, rfl, trivial, List.nodup_nil, ?_, fun _ _ => rfl⟩,
      ⟨0, .leaf⟩, fun _ _ => rfl⟩
    rintro address ⟨⟩

theorem tracks_of_run (positive : 1 ≤ max) (enough : roundsFor max ≤ rounds)
    {first self : HevMappedDNSMemory} {calls : List Call}
    (started : (system net mask max rounds).start first)
    (taken : (system net mask max rounds).Run first calls self) :
    ∃ start labels cache, HevMappedDNS.construct net mask max = some start ∧
      labels.map seen = calls ∧
      (HevMappedDNS.system net mask max).Run start labels cache ∧
      Tracks net mask max self cache := by
  obtain ⟨start, constructed, begins⟩ := construct_tracks positive started
  obtain ⟨cache, observed, tracks⟩ :=
    (exec_simulation positive enough).run taken begins
  obtain ⟨labels, same, run⟩ := observed.of_observe
  exact ⟨start, labels, cache, constructed, same, run, tracks⟩

/-- In memory too, a name that a call has accessed keeps its index and its address
while fewer than `max` other names are accessed. -/
theorem recalled_of_run (positive : 1 ≤ max) (enough : roundsFor max ≤ rounds)
    (prefixMask : HevMappedDNS.IsPrefix mask) (hostBits : net &&& ~~~mask = 0)
    {self accessed last : HevMappedDNSMemory} {call : Call} {name : CString}
    {calls : List Call} (reached : (system net mask max rounds).Reachable self)
    (step : (system net mask max rounds).step self call accessed)
    (hit : call.accessed = some name)
    (taken : (system net mask max rounds).Run accessed calls last)
    (few : ((others name calls).card : Int) < max) :
    (∃ cache, last.Refines cache ∧ cache.Consistent) ∧
    (∀ allocated, (∀ node, allocated = some node → last.tree.Unused node) →
      ∃ after, last.find rounds name allocated = some (call.index mask, after)) ∧
    ∃ after, last.lookup (net ||| BitVec.ofInt 32 (call.index mask)) =
      some (some name, after) := by
  obtain ⟨first, earlier, started, before⟩ := reached
  obtain ⟨start, labels, cache, constructed, _, run, tracks⟩ :=
    tracks_of_run positive enough started before
  have simulates := @exec_simulation net mask max rounds positive enough
  obtain ⟨cacheAccessed, ⟨label, rfl, labelStep⟩, tracksAccessed⟩ :=
    simulates.forward _ _ _ _ tracks step
  obtain ⟨cacheLast, observed, refines, recency, same, order, holds, _⟩ :=
    simulates.run taken tracksAccessed
  obtain ⟨later, rfl, rest⟩ := observed.of_observe
  rw [accessed_seen] at hit
  rw [others_seen] at few
  rw [index_seen]
  obtain ⟨found, lookedUp⟩ := HevMappedDNS.recalled_of_run positive prefixMask hostBits
    ⟨start, labels, constructed, run⟩ labelStep hit rest few
  refine ⟨⟨cacheLast, refines, order, holds⟩, ?_, ?_⟩
  · intro allocated usable
    rw [← same.2.2] at positive enough
    obtain ⟨result, after, ran⟩ := find_returns refines holds positive enough usable
    obtain ⟨outcome, viewAfter, _, view, _⟩ :=
      find_refines refines holds positive enough ran
    obtain ⟨expected, recalls⟩ := found outcome
    rw [view] at recalls
    cases recalls
    exact ⟨after, ran⟩
  · obtain ⟨viewAfter, view⟩ := lookedUp
    exact lookup_returns refines view

end HevMappedDNSMemory

open HevMappedDNSMemory

/-- The cache with its red-black tree in memory does, call by call, what the
cache on a plain tree can do, and no search of it follows a stale pointer or
goes on for longer than the logarithm of its capacity. -/
theorem mapped_dns_memory_refines {net mask : BitVec 32} {max : Int} {rounds : Nat}
    (positive : 1 ≤ max) (enough : roundsFor max ≤ rounds)
    {first self : HevMappedDNSMemory} {calls : List Call}
    (started : (HevMappedDNSMemory.system net mask max rounds).start first)
    (taken : (HevMappedDNSMemory.system net mask max rounds).Run first calls self) :
    (∃ start labels cache, HevMappedDNS.construct net mask max = some start ∧
      labels.map seen = calls ∧
      (HevMappedDNS.system net mask max).Run start labels cache ∧
      self.Refines cache) ∧
    ∀ name allocated, (∀ node, allocated = some node → self.tree.Unused node) →
      ∃ result next, self.find rounds name allocated = some (result, next) := by
  obtain ⟨start, labels, cache, constructed, same, run, refines, tracks⟩ :=
    tracks_of_run positive enough started taken
  refine ⟨⟨start, labels, cache, constructed, same, run, refines⟩, ?_⟩
  intro name allocated usable
  obtain ⟨_, ⟨_, _, capacity⟩, order, holds, _⟩ := tracks
  rw [← capacity] at positive enough
  exact find_returns refines holds positive enough usable

/-- With room for one name the node of the first name is freed for the second
one, and its memory is used again. -/
theorem mapped_dns_memory_refines_one_name :
    ∃ self : HevMappedDNSMemory, (∃ cache, self.Refines cache) ∧
      ∃ result next, self.find 3 ⟨[98], CString.zero_notMem_b⟩ (some 16) =
        some (result, next) := by
  have correct := @mapped_dns_memory_refines 0xC6120000#32 0xFFFE0000#32 1 3
    (by decide) (by decide)
  have executed : ((construct 0xC6120000#32 0xFFFE0000#32 1).bind fun first =>
      ([Call.find ⟨[97], CString.zero_notMem_a⟩ (some 8) 0,
        Call.find ⟨[98], CString.zero_notMem_b⟩ (some 16) 0,
        Call.find ⟨[97], CString.zero_notMem_a⟩ (some 8) 0].foldlM (exec 3) first).map
          fun self => decide (self.tree.Unused 16)) = some true := by
    decide +kernel
  obtain ⟨first, constructed, ran⟩ := Option.bind_eq_some_iff.mp executed
  obtain ⟨self, run, unused⟩ : ∃ self,
      (HevMappedDNSMemory.system 0xC6120000#32 0xFFFE0000#32 1 3).Run first _ self ∧
        decide (self.tree.Unused 16) = true :=
    System.replay _ ran
  obtain ⟨⟨_, _, cache, _, _, _, refines⟩, returns⟩ := correct constructed run
  refine ⟨self, ⟨cache, refines⟩, returns _ _ ?_⟩
  rintro node ⟨⟩
  exact of_decide_eq_true unused

end ProxyVPN
