/-
Module: ProxyVPN.Hev.MappedDnsCache
Purpose: The tree, the list and the records of the mapped DNS cache always hold
  the same nodes, and a name keeps its index while fewer than the capacity of
  other names are accessed.
Trusted boundary: none
Main exports: HevMappedDNS.Holds, HevMappedDNS.exec_simulation,
  HevMappedDNS.recalled_of_run, mapped_dns_consistent_lru
-/
import Mathlib.Data.BitVec
import ProxyVPN.Hev.MappedDns
import ProxyVPN.Lib.Recency

namespace ProxyVPN

open SearchTree Transition Recency

namespace HevMappedDNS

/-! ## The nodes of the cache -/

/-- The recency list and the tree hold these nodes, whose names differ. -/
structure Threaded (cache : HevMappedDNS) (order : List Nat) : Prop where
  list : cache.list.Holds cache.links order
  tree : cache.tree.toList.Perm order
  sorted : Descending cache.key cache.tree.toList
  distinct : (order.map cache.name).Nodup

/-- The tree, the list and the used records hold the same nodes, and the index
of a node is its place in the records. -/
structure Holds (cache : HevMappedDNS) (order : List Nat) : Prop where
  threaded : cache.Threaded order
  position : ∀ node ∈ order,
    cache.idx node < cache.use ∧ cache.records (cache.idx node) = some node
  filled : ∀ i < cache.use, ∃ node ∈ order,
    cache.records i = some node ∧ cache.idx node = i
  unused : ∀ i, cache.use ≤ i → cache.records i = none
  count : order.length = cache.use
  bounded : (cache.use : Int) ≤ cache.max

/-- The cache is consistent: some order of recency fits all its parts. -/
def Consistent (cache : HevMappedDNS) : Prop :=
  ∃ order, cache.Holds order

theorem key_ne_of_name_ne {cache : HevMappedDNS} {left right : Nat}
    (different : cache.name left ≠ cache.name right) :
    cache.key left ≠ cache.key right := by
  intro same
  apply different
  unfold key at same
  cases leftName : cache.name left
  cases rightName : cache.name right
  rw [leftName, rightName] at same
  cases same
  rfl

/-- Descending keys belong to different names. -/
theorem distinct_of_sorted {cache : HevMappedDNS} {order : List Nat}
    (tree : cache.tree.toList.Perm order)
    (sorted : Descending cache.key cache.tree.toList) :
    (order.map cache.name).Nodup := by
  apply (tree.map cache.name).nodup_iff.mp
  apply List.pairwise_map.mpr
  apply sorted.imp
  intro left right greater same
  have equal : cache.key left = cache.key right := by
    unfold key
    rw [same]
  rw [equal, Std.ReflOrd.compare_self] at greater
  cases greater

theorem Threaded.name_inj {cache : HevMappedDNS} {order : List Nat}
    (threaded : cache.Threaded order) {left right : Nat}
    (leftMem : left ∈ order) (rightMem : right ∈ order)
    (same : cache.name left = cache.name right) : left = right :=
  List.inj_on_of_nodup_map threaded.distinct leftMem rightMem same

/-- A search that fails missed no name of the cache. -/
theorem Threaded.absent {cache : HevMappedDNS} {order : List Nat}
    (threaded : cache.Threaded order) {name : CString}
    (failure : search cache.key name.bytes cache.tree = none) :
    ∀ node ∈ order, cache.name node ≠ name := by
  intro node member same
  have missed := search_eq_none threaded.sorted failure node
    (threaded.tree.mem_iff.mpr member)
  apply missed
  unfold key
  rw [same]

theorem Threaded.found {cache : HevMappedDNS} {order : List Nat}
    (threaded : cache.Threaded order) {name : CString} {node : Nat}
    (success : search cache.key name.bytes cache.tree = some node) :
    node ∈ order ∧ cache.name node = name := by
  have hit := search_eq_some success
  constructor
  · exact threaded.tree.mem_iff.mp hit.1
  · by_contra different
    cases nameEq : cache.name node
    cases name
    rw [nameEq] at different
    have same := hit.2
    unfold key at same
    rw [nameEq] at same
    cases same
    exact different rfl

/-- A name in the cache is found. -/
theorem Threaded.search_eq {cache : HevMappedDNS} {order : List Nat}
    (threaded : cache.Threaded order) {node : Nat} (member : node ∈ order) :
    search cache.key (cache.name node).bytes cache.tree = some node := by
  cases success : search cache.key (cache.name node).bytes cache.tree with
  | none => exact absurd rfl (threaded.absent success node member)
  | some found =>
      have hit := threaded.found success
      rw [threaded.name_inj hit.1 member hit.2]

/-! ## One call -/

/-- Moving a node to the end of the list changes nothing else. -/
theorem touch_holds {cache : HevMappedDNS} {front back : List Nat} {node : Nat}
    (holds : cache.Holds (front ++ node :: back)) :
    (cache.touch node).Holds (front ++ back ++ [node]) := by
  have moved : (front ++ node :: back).Perm (front ++ back ++ [node]) := by
    rw [List.append_assoc]
    exact (List.perm_append_singleton node back).symm.append_left front
  have fresh : node ∉ front ++ back := by
    have distinct := holds.threaded.list.threads.distinct
    rw [moved.nodup_iff, List.nodup_append] at distinct
    intro member
    exact distinct.2.2 node member node List.mem_cons_self rfl
  constructor
  · constructor
    · exact holds.threaded.list.del.addTail fresh
    · exact holds.threaded.tree.trans moved
    · exact holds.threaded.sorted
    · exact (moved.map cache.name).nodup_iff.mp holds.threaded.distinct
  · intro other member
    exact holds.position other (moved.mem_iff.mpr member)
  · intro i used
    obtain ⟨other, member, recorded⟩ := holds.filled i used
    exact ⟨other, moved.mem_iff.mp member, recorded⟩
  · exact holds.unused
  · exact moved.length_eq.symm.trans holds.count
  · exact holds.bounded

/-- A new node with a new name stands behind all others. -/
theorem Threaded.attach {cache : HevMappedDNS} {order : List Nat}
    {name : CString} {node : Nat} {inserted : SearchTree.Tree Nat}
    (threaded : cache.Threaded order) (fresh : node ∉ order)
    (absent : ∀ other ∈ order, cache.name other ≠ name)
    (kept : inserted.toList =
      (link cache.key name.bytes node cache.tree).toList) :
    (cache.attach name node inserted).Threaded (order ++ [node]) := by
  have nameNew : (cache.attach name node inserted).name node = name := by
    simp [HevMappedDNS.attach]
  have nameOld : ∀ other ∈ order,
      (cache.attach name node inserted).name other = cache.name other := by
    intro other member
    have different : other ≠ node := fun same => fresh (same ▸ member)
    simp [HevMappedDNS.attach, different]
  have keyOld : ∀ other ∈ cache.tree.toList,
      (cache.attach name node inserted).key other = cache.key other := by
    intro other member
    unfold key
    rw [nameOld other (threaded.tree.mem_iff.mp member)]
  have keyNew : (cache.attach name node inserted).key node = name.bytes := by
    unfold key
    rw [nameNew]
  have absentKeys : ∀ other ∈ cache.tree.toList,
      (cache.attach name node inserted).key other ≠
        (cache.attach name node inserted).key node := by
    intro other member
    have inOrder := threaded.tree.mem_iff.mp member
    apply key_ne_of_name_ne
    rw [nameOld other inOrder, nameNew]
    exact absent other inOrder
  have linked : inserted.toList =
      (link (cache.attach name node inserted).key
        ((cache.attach name node inserted).key node) node
        cache.tree).toList := by
    rw [keyNew, link_congr keyOld]
    exact kept
  have tree : inserted.toList.Perm (order ++ [node]) := by
    rw [linked]
    apply (toList_link_perm absentKeys).trans
    apply (List.perm_append_singleton node cache.tree.toList).symm.trans
    exact threaded.tree.append_right [node]
  have sorted : Descending (cache.attach name node inserted).key
      inserted.toList := by
    rw [linked]
    exact link_descending (threaded.sorted.congr keyOld) absentKeys
  constructor
  · exact threaded.list.addTail fresh
  · exact tree
  · exact sorted
  · exact distinct_of_sorted tree sorted

/-- Taking out the first node leaves the rest. -/
theorem Threaded.detach {cache : HevMappedDNS} {first : Nat} {rest : List Nat}
    {erased : SearchTree.Tree Nat} (threaded : cache.Threaded (first :: rest))
    (kept : erased.toList = cache.tree.toList.erase first) :
    (cache.detach first erased).Threaded rest := by
  have tree : erased.toList.Perm rest := by
    rw [kept]
    have smaller := threaded.tree.erase first
    rwa [List.erase_cons_head] at smaller
  have sorted : Descending cache.key erased.toList := by
    rw [kept]
    exact threaded.sorted.sublist List.erase_sublist
  constructor
  · have listed : cache.list.Holds cache.links ([] ++ first :: rest) :=
      threaded.list
    exact listed.del
  · exact tree
  · exact sorted
  · exact (List.nodup_cons.mp threaded.distinct).2

/-- The call that led from `cache` to `next` accessed `name` under `index`. -/
structure Accesses (cache next : HevMappedDNS) (order later : List Nat)
    (name : CString) (index : Int) : Prop where
  holds : next.Holds later
  recency : later.map next.name =
    access cache.max.toNat (order.map cache.name) name
  kept : ∀ node ∈ order, cache.name node ∈ later.map next.name →
    node ∈ later ∧ next.name node = cache.name node ∧
      next.idx node = cache.idx node
  mapped : ∃ node ∈ later, next.name node = name ∧ next.idx node = index
  config : next.net = cache.net ∧ next.mask = cache.mask ∧ next.max = cache.max

/-- A hit moves the node to the end of the list. -/
theorem touch_accesses {cache : HevMappedDNS} {order : List Nat} {node : Nat}
    (holds : cache.Holds order) (member : node ∈ order) :
    ∃ later, Accesses cache (cache.touch node) order later (cache.name node)
      (cache.idx node) := by
  obtain ⟨front, back, rfl⟩ := List.append_of_mem member
  have moved := touch_holds holds
  have distinct := holds.threaded.distinct
  rw [List.map_append, List.map_cons, List.nodup_append] at distinct
  have notFront : cache.name node ∉ front.map cache.name := fun inFront =>
    distinct.2.2 _ inFront _ List.mem_cons_self rfl
  refine ⟨front ++ back ++ [node], moved, ?_, ?_, ?_, rfl, rfl, rfl⟩
  · have present : cache.name node ∈
        (front ++ node :: back).map cache.name :=
      List.mem_map_of_mem member
    have erased : ((front ++ node :: back).map cache.name).erase
        (cache.name node) = (front ++ back).map cache.name := by
      rw [List.map_append, List.map_cons, List.erase_append_right _ notFront,
        List.erase_cons_head, List.map_append]
    rw [access, if_pos present, erased]
    exact List.map_append
  · intro other otherMem _
    refine ⟨?_, rfl, rfl⟩
    simp only [List.mem_append, List.mem_cons] at otherMem ⊢
    tauto
  · exact ⟨node, by simp, rfl, rfl⟩

/-- While there is room a new node gets the next free record. -/
theorem room_accesses {cache : HevMappedDNS} {order : List Nat}
    {name : CString} {node : Nat} {inserted : SearchTree.Tree Nat}
    (holds : cache.Holds order) (fresh : node ∉ order)
    (absent : ∀ other ∈ order, cache.name other ≠ name)
    (kept : inserted.toList =
      (link cache.key name.bytes node cache.tree).toList)
    (room : (cache.use : Int) < cache.max) :
    Accesses cache
      ({ cache.attach name node inserted with use := cache.use + 1 }.record
        cache.use node) order (order ++ [node]) name cache.use := by
  have attached := holds.threaded.attach fresh absent kept
  have different : ∀ other ∈ order, other ≠ node := fun other member same =>
    fresh (same ▸ member)
  constructor
  · constructor
    · exact ⟨attached.list, attached.tree, attached.sorted, attached.distinct⟩
    · intro other member
      rcases List.mem_append.mp member with old | new
      · have position := holds.position other old
        constructor
        · simpa [record, attach, different other old] using
            Nat.lt_succ_of_lt position.1
        · simp [record, attach, different other old, position.2,
            Nat.ne_of_lt position.1]
      · rw [List.mem_singleton.mp new]
        simp [record]
    · intro i used
      rcases Nat.lt_succ_iff_lt_or_eq.mp used with old | rfl
      · obtain ⟨other, member, recorded, index⟩ := holds.filled i old
        refine ⟨other, List.mem_append_left _ member, ?_⟩
        simp [record, attach, different other member, recorded, index,
          Nat.ne_of_lt old]
      · exact ⟨node, by simp, by simp [record]⟩
    · intro i unused
      have beyond : cache.use + 1 ≤ i := unused
      have free := holds.unused i (Nat.le_of_succ_le beyond)
      simp [record, attach, free, Nat.ne_of_gt beyond]
    · rw [List.length_append, holds.count]
      rfl
    · exact Int.add_one_le_of_lt room
  · have newName : name ∉ order.map cache.name := by
      intro member
      obtain ⟨other, inOrder, same⟩ := List.mem_map.mp member
      exact absent other inOrder same
    have few : (order.map cache.name).length < cache.max.toNat := by
      rw [List.length_map, holds.count]
      omega
    have oldNames : order.map (cache.attach name node inserted).name =
        order.map cache.name := by
      apply List.map_congr_left
      intro other member
      simp [attach, different other member]
    rw [access, if_neg newName, if_pos few, List.map_append]
    apply congrArg₂ _ oldNames
    simp [record, attach]
  · intro other member _
    refine ⟨List.mem_append_left _ member, ?_, ?_⟩
    · simp [record, attach, different other member]
    · simp [record, attach, different other member]
  · exact ⟨node, by simp, by simp [record, attach]⟩
  · exact ⟨rfl, rfl, rfl⟩

/-- In a full cache a new node gets the record of the least recent one. -/
theorem full_accesses {cache : HevMappedDNS} {first : Nat} {rest : List Nat}
    {name : CString} {node : Nat} {inserted erased : SearchTree.Tree Nat}
    (holds : cache.Holds (first :: rest)) (fresh : node ∉ first :: rest)
    (absent : ∀ other ∈ first :: rest, cache.name other ≠ name)
    (kept : inserted.toList =
      (link cache.key name.bytes node cache.tree).toList)
    (keptErased : erased.toList = inserted.toList.erase first)
    (full : ¬(cache.use : Int) < cache.max) :
    Accesses cache
      (((cache.attach name node inserted).detach first erased).record
        (cache.idx first) node) (first :: rest) (rest ++ [node]) name
      (cache.idx first) := by
  have attached := holds.threaded.attach fresh absent kept
  have detached := attached.detach keptErased
  have different : ∀ other ∈ first :: rest, other ≠ node :=
    fun other member same => fresh (same ▸ member)
  have inRest : ∀ other ∈ rest, other ∈ first :: rest := fun other member =>
    List.mem_cons_of_mem _ member
  have notFirst : first ∉ rest :=
    (List.nodup_cons.mp holds.threaded.list.threads.distinct).1
  have firstPosition := holds.position first List.mem_cons_self
  -- two nodes with one index would share a record
  have apart : ∀ other ∈ rest, cache.idx other ≠ cache.idx first := by
    intro other member same
    have recorded := (holds.position other (inRest other member)).2
    rw [same, firstPosition.2] at recorded
    cases recorded
    exact notFirst member
  have names : (rest ++ [node]).map
      (((cache.attach name node inserted).detach first erased).record
        (cache.idx first) node).name = rest.map cache.name ++ [name] := by
    rw [List.map_append]
    apply congrArg₂
    · apply List.map_congr_left
      intro other member
      simp [record, detach, attach, different other (inRest other member)]
    · simp [record, detach, attach]
  constructor
  · constructor
    · exact ⟨detached.list, detached.tree, detached.sorted, detached.distinct⟩
    · intro other member
      rcases List.mem_append.mp member with old | new
      · have position := holds.position other (inRest other old)
        simp [record, detach, attach, different other (inRest other old),
          position, apart other old]
      · rw [List.mem_singleton.mp new]
        simp [record, detach, attach, firstPosition]
    · intro i used
      obtain ⟨other, member, recorded, index⟩ := holds.filled i used
      rcases List.mem_cons.mp member with rfl | old
      · exact ⟨node, by simp, by simp [record, index]⟩
      · refine ⟨other, List.mem_append_left _ old, ?_⟩
        have otherIndex := apart other old
        rw [index] at otherIndex
        simp [record, detach, attach, different other member, recorded, index,
          otherIndex]
    · intro i unused
      have free := holds.unused i unused
      have beyond : i ≠ cache.idx first := fun same =>
        absurd firstPosition.1 (Nat.not_lt.mpr (same ▸ unused))
      simp [record, detach, attach, free, beyond]
    · rw [← List.concat_eq_append, List.length_concat]
      exact holds.count
    · exact holds.bounded
  · have newName : name ∉ (first :: rest).map cache.name := by
      intro member
      obtain ⟨other, inOrder, same⟩ := List.mem_map.mp member
      exact absent other inOrder same
    have many : ¬((first :: rest).map cache.name).length <
        cache.max.toNat := by
      rw [List.length_map, holds.count]
      omega
    rw [access, if_neg newName, if_neg many, names]
    rfl
  · intro other member stays
    rw [names, List.mem_append, List.mem_singleton, List.mem_map] at stays
    rcases stays with ⟨same, sameMem, sameName⟩ | isName
    · have inOrder := inRest same sameMem
      have equal := holds.threaded.name_inj inOrder member sameName
      subst equal
      refine ⟨List.mem_append_left _ sameMem, ?_, ?_⟩
      · simp [record, detach, attach, different same member]
      · simp [record, detach, attach, different same member]
    · exact absurd isName (absent other member)
  · exact ⟨node, by simp, by simp [record, detach, attach]⟩
  · exact ⟨rfl, rfl, rfl⟩

/-- A search either fails for want of memory and changes nothing, or accesses
the name under the index it returns. -/
theorem find_cases {cache next : HevMappedDNS} {order : List Nat}
    {name : CString} {outcome : FindOutcome} {result : Int}
    (holds : cache.Holds order) (positive : 1 ≤ cache.max)
    (taken : cache.find name outcome = some (result, next)) :
    (result = -1 ∧ next = cache) ∨
      0 ≤ result ∧ ∃ later, Accesses cache next order later name result := by
  unfold find at taken
  cases hit : search cache.key name.bytes cache.tree with
  | some node =>
      rw [hit] at taken
      cases taken
      have found := holds.threaded.found hit
      right
      constructor
      · exact Int.natCast_nonneg _
      · rw [← found.2]
        exact touch_accesses holds found.1
  | none =>
      have absent := holds.threaded.absent hit
      rw [hit] at taken
      cases allocated : outcome.node with
      | none =>
          rw [allocated] at taken
          cases taken
          exact .inl ⟨rfl, rfl⟩
      | some node =>
          rw [allocated] at taken
          simp only at taken
          split at taken
          case isFalse => cases taken
          case isTrue possible =>
            obtain ⟨freshTree, kept⟩ := possible
            have fresh : node ∉ order := fun member =>
              freshTree (holds.threaded.tree.mem_iff.mpr member)
            right
            split at taken
            case isTrue room =>
              cases taken
              exact ⟨Int.natCast_nonneg _, order ++ [node],
                room_accesses holds fresh absent kept room⟩
            case isFalse full =>
              have attached := holds.threaded.attach fresh absent kept
              cases order with
              | nil =>
                  -- a full cache is not empty, as it has room for one node
                  have empty := holds.count
                  have full : ¬(cache.use : Int) < cache.max := full
                  rw [List.length_nil] at empty
                  omega
              | cons first rest =>
                  rw [attached.list.head] at taken
                  simp only [List.cons_append, List.head?_cons] at taken
                  split at taken
                  case isFalse => cases taken
                  case isTrue keptErased =>
                    cases taken
                    exact ⟨Int.natCast_nonneg _, rest ++ [node],
                      full_accesses holds fresh absent kept keptErased full⟩

/-- Whatever the allocator and the rebalancing may do, a search returns: a full
cache has a first node to evict. -/
theorem find_returns {cache : HevMappedDNS} {order : List Nat}
    {name : CString} {outcome : FindOutcome} (holds : cache.Holds order)
    (allocated : ∀ node, outcome.node = some node →
      node ∉ cache.tree.toList ∧
      outcome.inserted.toList =
        (link cache.key name.bytes node cache.tree).toList)
    (erased : ∀ node first, outcome.node = some node →
      (order ++ [node]).head? = some first →
      outcome.erased.toList = outcome.inserted.toList.erase first) :
    ∃ result next, cache.find name outcome = some (result, next) := by
  unfold find
  cases hit : search cache.key name.bytes cache.tree with
  | some node => exact ⟨_, _, rfl⟩
  | none =>
      cases nodeEq : outcome.node with
      | none => exact ⟨_, _, rfl⟩
      | some node =>
          obtain ⟨freshTree, kept⟩ := allocated node nodeEq
          have fresh : node ∉ order := fun member =>
            freshTree (holds.threaded.tree.mem_iff.mpr member)
          have attached :=
            holds.threaded.attach fresh (holds.threaded.absent hit) kept
          obtain ⟨first, isFirst⟩ : ∃ first,
              (order ++ [node]).head? = some first := by
            cases order with
            | nil => exact ⟨node, rfl⟩
            | cons first rest => exact ⟨first, rfl⟩
          have keptErased := erased node first nodeEq isFirst
          simp only [attached.list.head, isFirst]
          rw [if_pos ⟨freshTree, kept⟩, if_pos keptErased]
          split
          · exact ⟨_, _, rfl⟩
          · exact ⟨_, _, rfl⟩

/-- A lookup either finds nothing and changes nothing, or accesses the name of
the record under its index. -/
theorem lookup_cases {cache next : HevMappedDNS} {order : List Nat}
    {ip : BitVec 32} {result : Option CString} (holds : cache.Holds order)
    (taken : cache.lookup ip = some (result, next)) :
    (result = none ∧ next = cache) ∨
      ∃ name later, result = some name ∧ Accesses cache next order later name
        (ip &&& ~~~cache.mask).toInt := by
  unfold lookup at taken
  simp only at taken
  split at taken
  case isTrue =>
    cases taken
    exact .inl ⟨rfl, rfl⟩
  case isFalse =>
    split at taken
    case isTrue => cases taken
    case isFalse small nonnegative =>
      cases recorded : cache.records (ip &&& ~~~cache.mask).toInt.toNat with
      | none =>
          rw [recorded] at taken
          cases taken
          exact .inl ⟨rfl, rfl⟩
      | some node =>
          rw [recorded] at taken
          cases taken
          right
          have used : (ip &&& ~~~cache.mask).toInt.toNat < cache.use := by
            by_contra beyond
            rw [holds.unused _ (Nat.not_lt.mp beyond)] at recorded
            cases recorded
          obtain ⟨found, member, same, index⟩ := holds.filled _ used
          rw [recorded] at same
          cases same
          have indexInt : (cache.idx node : Int) =
              (ip &&& ~~~cache.mask).toInt := by
            rw [index]
            exact Int.toNat_of_nonneg (Int.not_lt.mp nonnegative)
          obtain ⟨later, accesses⟩ := touch_accesses holds member
          rw [indexInt] at accesses
          exact ⟨cache.name node, later, rfl, accesses⟩

/-- Every call accesses a name under its index or changes nothing. -/
theorem exec_cases {cache next : HevMappedDNS} {order : List Nat}
    {label : Label} (holds : cache.Holds order) (positive : 1 ≤ cache.max)
    (taken : exec cache label = some next) :
    (label.accessed = none ∧ next = cache) ∨
      ∃ name later, label.accessed = some name ∧
        Accesses cache next order later name (label.index cache.mask) := by
  cases label with
  | find name outcome result =>
      rcases Option.bind_eq_some_iff.mp taken with ⟨⟨found, after⟩, call, same⟩
      simp only [Option.ite_none_right_eq_some, Option.some.injEq] at same
      obtain ⟨rfl, rfl⟩ := same
      rcases find_cases holds positive call with
        ⟨failed, unchanged⟩ | ⟨nonnegative, later, accesses⟩
      · left
        simp [Label.accessed, failed, unchanged]
      · right
        refine ⟨name, later, ?_, accesses⟩
        simp [Label.accessed, Int.not_lt.mpr nonnegative]
  | lookup ip result =>
      rcases Option.bind_eq_some_iff.mp taken with ⟨⟨found, after⟩, call, same⟩
      simp only [Option.ite_none_right_eq_some, Option.some.injEq] at same
      obtain ⟨rfl, rfl⟩ := same
      exact lookup_cases holds call

/-! ## Whole runs -/

/-- The cache is consistent and keeps its configuration. -/
def Tracks (net mask : BitVec 32) (max : Int) (cache : HevMappedDNS)
    (recency : List CString) : Prop :=
  (cache.net = net ∧ cache.mask = mask ∧ cache.max = max) ∧
    ∃ order, cache.Holds order ∧ order.map cache.name = recency

/-- The names in order of their last access, over all sequences of calls. -/
def recencySystem (max : Int) : System (List CString) Label where
  start recency := recency = []
  step recency label next :=
    next = accessAll max.toNat recency label.accessed.toList

/-- A cache that was just constructed is empty. -/
theorem construct_tracks {net mask : BitVec 32} {max : Int}
    {cache : HevMappedDNS} (positive : 1 ≤ max)
    (constructed : construct net mask max = some cache) :
    Tracks net mask max cache [] := by
  unfold construct at constructed
  split at constructed
  case isTrue => cases constructed
  case isFalse =>
    cases constructed
    refine ⟨⟨rfl, rfl, rfl⟩, [], ?_, rfl⟩
    constructor
    · exact ⟨HevList.empty_holds _, List.Perm.refl _, List.Pairwise.nil,
        List.nodup_nil⟩
    · intro node member
      cases member
    · intro i used
      cases used
    · intro i _
      rfl
    · rfl
    · exact Int.le_trans Int.one_nonneg positive

theorem admitted_of_construct {net mask : BitVec 32} {max : Int}
    {cache : HevMappedDNS} (constructed : construct net mask max = some cache) :
    max ≤ (~~~mask).toInt := by
  unfold construct at constructed
  split at constructed
  case isTrue => cases constructed
  case isFalse fits => exact Int.not_lt.mp fits

/-- The cache keeps the names that were accessed last. -/
theorem exec_simulation {net mask : BitVec 32} {max : Int}
    (positive : 1 ≤ max) :
    Simulation (system net mask max) (recencySystem max)
      (Tracks net mask max) where
  forward := by
    rintro cache recency label next ⟨⟨rfl, rfl, rfl⟩, order, holds, rfl⟩ taken
    refine ⟨_, rfl, ?_⟩
    rcases exec_cases holds positive taken with
      ⟨silent, unchanged⟩ | ⟨name, later, accessed, accesses⟩
    · rw [silent, unchanged]
      exact ⟨⟨rfl, rfl, rfl⟩, order, holds, rfl⟩
    · rw [accessed]
      exact ⟨accesses.config, later, accesses.holds, accesses.recency⟩

theorem admitted_of_reachable {net mask : BitVec 32} {max : Int}
    {cache : HevMappedDNS} (reached : (system net mask max).Reachable cache) :
    max ≤ (~~~mask).toInt := by
  obtain ⟨first, labels, constructed, taken⟩ := reached
  exact admitted_of_construct constructed

/-- A reachable cache keeps the names of its calls. -/
theorem tracks_of_reachable {net mask : BitVec 32} {max : Int}
    {cache : HevMappedDNS} (positive : 1 ≤ max)
    (reached : (system net mask max).Reachable cache) :
    ∃ recency, recency.Nodup ∧ Tracks net mask max cache recency := by
  obtain ⟨first, labels, constructed, taken⟩ := reached
  obtain ⟨recency, _, tracks⟩ := (exec_simulation positive).run taken
    (construct_tracks positive constructed)
  obtain ⟨_, _, holds, names⟩ := id tracks
  exact ⟨recency, names ▸ holds.threaded.distinct, tracks⟩

theorem recency_run {max : Int} {first last : List CString}
    {labels : List Label} (taken : (recencySystem max).Run first labels last) :
    last = accessAll max.toNat first (labels.filterMap Label.accessed) := by
  induction taken with
  | nil => rfl
  | @snoc state last labels label _ lastTaken inductionHypothesis =>
      have stepped : last =
          accessAll max.toNat state label.accessed.toList := lastTaken
      rw [stepped, inductionHypothesis, List.filterMap_append]
      unfold accessAll
      rw [List.foldl_append]
      cases accessed : label.accessed with
      | none => simp [accessed]
      | some name => simp [accessed]

/-- The cache holds the name under this index. -/
def Maps (cache : HevMappedDNS) (name : CString) (index : Int) : Prop :=
  ∃ node ∈ cache.tree.toList, cache.name node = name ∧ cache.idx node = index

/-- The distinct names other than `name` that these calls accessed. -/
def others (name : CString) (labels : List Label) : Finset CString :=
  ((labels.filterMap Label.accessed).filter (· ≠ name)).toFinset

theorem others_append_card (name : CString) (labels more : List Label) :
    (others name labels).card ≤ (others name (labels ++ more)).card := by
  apply Finset.card_le_card
  intro other member
  unfold others at member ⊢
  rw [List.filterMap_append, List.filter_append, List.toFinset_append]
  exact Finset.mem_union_left _ member

/-- A name that stays in the cache keeps its index. -/
theorem Maps.step {cache next : HevMappedDNS} {order later : List Nat}
    {name accessed : CString} {index callIndex : Int}
    (maps : cache.Maps name index) (holds : cache.Holds order)
    (accesses : Accesses cache next order later accessed callIndex)
    (stays : name ∈ later.map next.name) : next.Maps name index := by
  obtain ⟨node, member, named, indexed⟩ := maps
  have inOrder := holds.threaded.tree.mem_iff.mp member
  rw [← named] at stays
  obtain ⟨inLater, sameName, sameIndex⟩ := accesses.kept node inOrder stays
  refine ⟨node, accesses.holds.threaded.tree.mem_iff.mpr inLater, ?_, ?_⟩
  · exact sameName.trans named
  · rw [sameIndex]
    exact indexed

/-- A name keeps its index over a run that accesses few other names. -/
theorem Maps.run {net mask : BitVec 32} {max : Int} (positive : 1 ≤ max)
    {first last : HevMappedDNS} {labels : List Label} {recency : List CString}
    {name : CString} {index : Int} (distinct : recency.Nodup)
    (tracks : Tracks net mask max first (access max.toNat recency name))
    (maps : first.Maps name index)
    (taken : (system net mask max).Run first labels last)
    (few : (others name labels).card < max.toNat) : last.Maps name index := by
  induction taken with
  | nil => exact maps
  | @snoc state last labels label before lastTaken inductionHypothesis =>
      have fewBefore := lt_of_le_of_lt (others_append_card name labels [label]) few
      have mapsBefore := inductionHypothesis fewBefore
      obtain ⟨_, _, ⟨_, _, capacity⟩, order, holds, _⟩ :=
        (exec_simulation positive).run before tracks
      obtain ⟨_, abstractRun, _, orderAfter, holdsAfter, recencyAfter⟩ :=
        (exec_simulation positive).run (before.snoc lastTaken) tracks
      rw [recency_run abstractRun] at recencyAfter
      have present : name ∈ orderAfter.map last.name := by
        rw [recencyAfter]
        exact mem_accessAll distinct _ few
      rw [← capacity] at positive
      rcases exec_cases holds positive lastTaken with
        ⟨_, unchanged⟩ | ⟨accessed, later, _, accesses⟩
      · rw [unchanged]
        exact mapsBefore
      · apply mapsBefore.step holds accesses
        have sameNodes : (orderAfter.map last.name).Perm
            (later.map last.name) :=
          (holdsAfter.threaded.tree.symm.trans
            accesses.holds.threaded.tree).map last.name
        exact sameNodes.mem_iff.mp present

/-! ## Addresses of the network -/

/-- The mask of a network: the host bits are the low ones. -/
def IsPrefix (mask : BitVec 32) : Prop :=
  ∃ hostBits ≤ 32, ~~~mask = BitVec.ofNat 32 (2 ^ hostBits - 1)

/-- The address of an index carries the index in its host bits. -/
theorem host_of_address {net mask : BitVec 32} {max : Int} {index : Nat}
    (prefixMask : IsPrefix mask) (hostBits : net &&& ~~~mask = 0)
    (admitted : max ≤ (~~~mask).toInt) (small : (index : Int) < max) :
    ((net ||| BitVec.ofInt 32 index) &&& ~~~mask).toInt = index := by
  obtain ⟨k, short, maskEq⟩ := prefixMask
  have below : (~~~mask).toNat ≤ 2 ^ k - 1 := by
    rw [maskEq, BitVec.toNat_ofNat]
    exact Nat.mod_le _ _
  have signed := BitVec.toInt_eq_toNat_cond (~~~mask)
  -- a mask without a sign bit in its complement, as `max` is positive
  have low : index < (~~~mask).toNat ∧ 2 * (~~~mask).toNat < 2 ^ 32 := by
    split at signed
    · constructor
      · omega
      · assumption
    · have bounded := (~~~mask).isLt
      omega
  have indexLow : index < 2 ^ k := by omega
  have masked : (BitVec.ofNat 32 index &&& ~~~mask).toNat = index := by
    have wide : (~~~mask).toNat = 2 ^ k - 1 := by
      rw [maskEq, BitVec.toNat_ofNat]
      apply Nat.mod_eq_of_lt
      have fits : 2 ^ k ≤ 2 ^ 32 := Nat.pow_le_pow_right (by decide) short
      omega
    rw [BitVec.toNat_and, BitVec.toNat_ofNat, wide,
      Nat.and_two_pow_sub_one_eq_mod, Nat.mod_eq_of_lt (b := 2 ^ k)]
    · exact Nat.mod_eq_of_lt (by omega)
    · exact lt_of_le_of_lt (Nat.mod_le _ _) indexLow
  have onlyIndex : (net ||| BitVec.ofInt 32 index) &&& ~~~mask =
      BitVec.ofNat 32 index &&& ~~~mask := by
    rw [BitVec.ofInt_natCast, BitVec.and_or_distrib_right, hostBits]
    exact BitVec.zero_or
  rw [onlyIndex, BitVec.toInt_eq_toNat_of_lt (by omega), masked]

/-- A cached name is found under its index, by its name and by its address. -/
theorem Maps.found {cache : HevMappedDNS} {name : CString} {index : Int}
    {order : List Nat} (maps : cache.Maps name index)
    (holds : cache.Holds order) (outcome : FindOutcome) :
    ∃ after, cache.find name outcome = some (index, after) := by
  obtain ⟨node, member, rfl, rfl⟩ := maps
  have hit := holds.threaded.search_eq (holds.threaded.tree.mem_iff.mp member)
  refine ⟨cache.touch node, ?_⟩
  unfold find
  rw [hit]

/-- A cached name is what an address is looked up as if and only if the address
carries its index in the host bits. -/
theorem Maps.lookup_iff {cache : HevMappedDNS} {name : CString} {index : Int}
    {order : List Nat} (maps : cache.Maps name index)
    (holds : cache.Holds order) (ip : BitVec 32) :
    (∃ after, cache.lookup ip = some (some name, after)) ↔
      (ip &&& ~~~cache.mask).toInt = index := by
  constructor
  · rintro ⟨after, taken⟩
    rcases lookup_cases holds taken with ⟨missed, _⟩ | ⟨other, later, same, accesses⟩
    · cases missed
    · cases same
      obtain ⟨node, inLater, named, indexed⟩ := accesses.mapped
      have stays : name ∈ later.map after.name :=
        List.mem_map.mpr ⟨node, inLater, named⟩
      obtain ⟨mine, inTree, mineNamed, mineIndexed⟩ :=
        maps.step holds accesses stays
      have same := accesses.holds.threaded.name_inj inLater
        (accesses.holds.threaded.tree.mem_iff.mp inTree)
        (named.trans mineNamed.symm)
      rw [← indexed, same]
      exact mineIndexed
  · intro host
    obtain ⟨node, member, rfl, rfl⟩ := maps
    have position := holds.position node (holds.threaded.tree.mem_iff.mp member)
    have small : (cache.idx node : Int) < cache.max :=
      lt_of_lt_of_le (Int.ofNat_lt.mpr position.1) holds.bounded
    refine ⟨cache.touch node, ?_⟩
    unfold lookup
    simp only [host, Int.toNat_natCast, position.2]
    rw [if_neg (Int.not_le.mpr small),
      if_neg (Int.not_lt.mpr (Int.natCast_nonneg _))]

theorem Maps.lookedUp {cache : HevMappedDNS} {name : CString} {index : Int}
    {order : List Nat} (maps : cache.Maps name index)
    (holds : cache.Holds order) (prefixMask : IsPrefix cache.mask)
    (hostBits : cache.net &&& ~~~cache.mask = 0)
    (admitted : cache.max ≤ (~~~cache.mask).toInt) :
    ∃ after, cache.lookup (cache.net ||| BitVec.ofInt 32 index) =
      some (some name, after) := by
  apply (maps.lookup_iff holds _).mpr
  obtain ⟨node, member, rfl, rfl⟩ := maps
  have position := holds.position node (holds.threaded.tree.mem_iff.mp member)
  apply host_of_address prefixMask hostBits admitted
  exact lt_of_lt_of_le (Int.ofNat_lt.mpr position.1) holds.bounded

/-- A name that a call has accessed keeps its index and its address over a run
that accesses few other names. -/
theorem recalled_of_run {net mask : BitVec 32} {max : Int} (positive : 1 ≤ max)
    (prefixMask : IsPrefix mask) (hostBits : net &&& ~~~mask = 0)
    {cache accessed last : HevMappedDNS} {label : Label} {name : CString}
    {labels : List Label} (reached : (system net mask max).Reachable cache)
    (call : (system net mask max).step cache label accessed)
    (hit : label.accessed = some name)
    (taken : (system net mask max).Run accessed labels last)
    (few : ((others name labels).card : Int) < max) :
    (∀ outcome, ∃ after,
      last.find name outcome = some (label.index mask, after)) ∧
    ∃ after, last.lookup (net ||| BitVec.ofInt 32 (label.index mask)) =
      some (some name, after) := by
  have admitted := admitted_of_reachable reached
  obtain ⟨recency, distinct, ⟨rfl, rfl, rfl⟩, order, holds, rfl⟩ :=
    tracks_of_reachable positive reached
  have fewNat : (others name labels).card < cache.max.toNat := by omega
  rcases exec_cases holds positive call with
    ⟨silent, _⟩ | ⟨found, later, foundEq, accesses⟩
  · rw [silent] at hit
    cases hit
  · rw [hit] at foundEq
    cases foundEq
    obtain ⟨node, inLater, named, indexed⟩ := accesses.mapped
    have maps : accessed.Maps name (label.index cache.mask) :=
      ⟨node, accesses.holds.threaded.tree.mem_iff.mpr inLater, named, indexed⟩
    have tracks : Tracks cache.net cache.mask cache.max accessed
        (access cache.max.toNat (order.map cache.name) name) :=
      ⟨accesses.config, later, accesses.holds, accesses.recency⟩
    have mapsLast := maps.run positive distinct tracks taken fewNat
    obtain ⟨_, _, ⟨sameNet, sameMask, sameMax⟩, orderLast, holdsLast, _⟩ :=
      (exec_simulation positive).run taken tracks
    constructor
    · exact mapsLast.found holdsLast
    · rw [← sameNet]
      apply mapsLast.lookedUp holdsLast
      · rw [sameMask]
        exact prefixMask
      · rw [sameNet, sameMask]
        exact hostBits
      · rw [sameMask, sameMax]
        exact admitted

end HevMappedDNS

open HevMappedDNS

/-- For a network with a prefix mask and zero host bits, every sequence of
calls keeps the cache consistent; and a name that was accessed while fewer than
`max` other names have been accessed since is found under the same index and
looked up by its address. -/
theorem mapped_dns_consistent_lru {net mask : BitVec 32} {max : Int}
    (positive : 1 ≤ max) (prefixMask : IsPrefix mask)
    (hostBits : net &&& ~~~mask = 0) :
    (∀ cache, (system net mask max).Reachable cache → cache.Consistent) ∧
      ∀ cache label accessed name labels last,
        (system net mask max).Reachable cache →
        (system net mask max).step cache label accessed →
        label.accessed = some name →
        (system net mask max).Run accessed labels last →
        ((others name labels).card : Int) < max →
          (∀ outcome, ∃ after,
            last.find name outcome = some (label.index mask, after)) ∧
          ∃ after, last.lookup (net ||| BitVec.ofInt 32 (label.index mask)) =
            some (some name, after) := by
  constructor
  · intro cache reached
    obtain ⟨_, _, _, order, holds, _⟩ := tracks_of_reachable positive reached
    exact ⟨order, holds⟩
  · intro cache label accessed name labels last reached call hit taken few
    exact recalled_of_run positive prefixMask hostBits reached call hit taken few

/-- In 198.18.0.0/15 with room for two names: after a second name the first one
is still found under index 0 and looked up by 198.18.0.0. -/
theorem mapped_dns_consistent_lru_two_names :
    ∃ cache : HevMappedDNS, cache.Consistent ∧
      (∀ outcome, ∃ after, cache.find ⟨[97], by decide⟩ outcome =
        some (0, after)) ∧
      ∃ after, cache.lookup 0xC6120000#32 =
        some (some ⟨[97], by decide⟩, after) := by
  have prefixMask : IsPrefix 0xFFFE0000#32 := ⟨17, by decide, by decide⟩
  have correct := @mapped_dns_consistent_lru 0xC6120000#32 0xFFFE0000#32 2
    (by decide) prefixMask (by decide)
  let findFirst : Label := .find ⟨[97], by decide⟩
    { node := some 100, inserted := .node .leaf 100 .leaf, erased := .leaf } 0
  let findSecond : Label := .find ⟨[98], by decide⟩
    { node := some 200
      inserted := .node (.node .leaf 200 .leaf) 100 .leaf
      erased := .leaf } 1
  have replayed : ((construct 0xC6120000#32 0xFFFE0000#32 2).bind fun cache =>
      (exec cache findFirst).bind fun accessed =>
        exec accessed findSecond).isSome := by decide +kernel
  obtain ⟨last, executed⟩ := Option.isSome_iff_exists.mp replayed
  obtain ⟨cache, constructed, rest⟩ := Option.bind_eq_some_iff.mp executed
  obtain ⟨accessed, first, second⟩ := Option.bind_eq_some_iff.mp rest
  have started : (system 0xC6120000#32 0xFFFE0000#32 2).Reachable cache :=
    ⟨cache, [], constructed, .nil cache⟩
  have after : (system 0xC6120000#32 0xFFFE0000#32 2).Run accessed
      ([] ++ [findSecond]) last := .snoc (.nil accessed) second
  have reached : (system 0xC6120000#32 0xFFFE0000#32 2).Reachable last :=
    ⟨cache, [findFirst, findSecond], constructed, .cons first after⟩
  obtain ⟨found, lookedUp⟩ := correct.2 cache findFirst accessed _ _ last started
    first rfl after (by decide)
  have address : 0xC6120000#32 ||| BitVec.ofInt 32
      (findFirst.index 0xFFFE0000#32) = 0xC6120000#32 := by decide
  rw [address] at lookedUp
  exact ⟨last, correct.1 last reached, found, lookedUp⟩

end ProxyVPN
