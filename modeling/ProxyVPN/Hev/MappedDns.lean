/-
Module: ProxyVPN.Hev.MappedDns
Purpose: The mapped DNS cache of hev-mapped-dns.c: names in a search tree, in a
  recency list and in an array of records whose index is the host part of the
  address handed out.
Trusted boundary: human-reviewed model
Main exports: HevMappedDNS, HevMappedDNS.construct, HevMappedDNS.find,
  HevMappedDNS.lookup, HevMappedDNS.system
-/
import Mathlib.Data.List.Basic
import Mathlib.Order.Compare
import ProxyVPN.Hev.List
import ProxyVPN.Lib.SearchTree
import ProxyVPN.Lib.Transition

namespace ProxyVPN

open SearchTree Transition

/-- A C string: its bytes up to the terminating zero. -/
structure CString where
  bytes : List UInt8
  noZero : 0 ∉ bytes
deriving DecidableEq

theorem CString.zero_notMem_a : (0 : UInt8) ∉ [97] := by
  decide

theorem CString.zero_notMem_b : (0 : UInt8) ∉ [98] := by
  decide

/-- `struct _HevMappedDNS` with the nodes it reaches.  A node is its address;
its list links, name and index are read at that address. -/
structure HevMappedDNS where
  use : Nat
  max : Int
  net : BitVec 32
  mask : BitVec 32
  list : HevList
  tree : SearchTree.Tree Nat
  records : Nat → Option Nat
  links : HevListNodes
  name : Nat → CString
  idx : Nat → Nat

/-- What one call of `hev_mapped_dns_find` gets from outside: the node that
`hev_mapped_dns_node_alloc` returns, and the trees that the two rebalancing
calls leave. -/
structure FindOutcome where
  node : Option Nat
  inserted : SearchTree.Tree Nat
  erased : SearchTree.Tree Nat

namespace HevMappedDNS

/-- The bytes that `strcmp` compares. -/
def key (self : HevMappedDNS) (node : Nat) : List UInt8 :=
  (self.name node).bytes

/-- `hev_mapped_dns_construct` on zeroed memory. -/
def construct (net mask : BitVec 32) (max : Int) : Option HevMappedDNS :=
  if max > (~~~mask).toInt then
    none
  else
    some
      { use := 0
        max := max
        net := net
        mask := mask
        list := .empty
        tree := .leaf
        records := fun _ => none
        links := fun _ => { next := none, prev := none }
        name := fun _ => { bytes := [], noZero := List.not_mem_nil }
        idx := fun _ => 0 }

/-- `hev_list_del` and `hev_list_add_tail` of a node in the list. -/
def touch (self : HevMappedDNS) (node : Nat) : HevMappedDNS :=
  let (list, links) := self.list.del self.links node
  let (list, links) := list.addTail links node
  { self with list := list, links := links }

/-- The new node in the tree and at the end of the list. -/
def attach (self : HevMappedDNS) (name : CString) (node : Nat)
    (inserted : SearchTree.Tree Nat) : HevMappedDNS :=
  let (list, links) := self.list.addTail self.links node
  { self with
    tree := inserted
    list := list
    links := links
    name := fun address => if address = node then name else self.name address }

/-- A node taken out of the tree and the list. -/
def detach (self : HevMappedDNS) (node : Nat) (erased : SearchTree.Tree Nat) :
    HevMappedDNS :=
  let (list, links) := self.list.del self.links node
  { self with tree := erased, list := list, links := links }

/-- `self->records[idx] = node; node->idx = idx;` -/
def record (self : HevMappedDNS) (idx node : Nat) : HevMappedDNS :=
  { self with
    records := fun i => if i = idx then some node else self.records i
    idx := fun address => if address = node then idx else self.idx address }

/-- `hev_mapped_dns_find`.  There is no result where the outcome is none that
the calls can have: the allocator returns a node that is in use, or the
rebalancing does not keep the order of the nodes. -/
def find (self : HevMappedDNS) (name : CString) (outcome : FindOutcome) :
    Option (Int × HevMappedDNS) :=
  match search self.key name.bytes self.tree with
  | some node => some (self.idx node, self.touch node)
  | none =>
      match outcome.node with
      | none => some (-1, self)
      | some node =>
          let linked := link self.key name.bytes node self.tree
          if node ∉ self.tree.toList ∧
              outcome.inserted.toList = linked.toList then
            let self := self.attach name node outcome.inserted
            if self.use < self.max then
              let idx := self.use
              some (idx, { self with use := self.use + 1 }.record idx node)
            else
              match self.list.head with
              | none => none
              | some first =>
                  if outcome.erased.toList =
                      outcome.inserted.toList.erase first then
                    let idx := self.idx first
                    some (idx, (self.detach first outcome.erased).record idx node)
                  else
                    none
          else
            none

/-- `hev_mapped_dns_lookup`.  There is no result where the code would read in
front of the records. -/
def lookup (self : HevMappedDNS) (ip : BitVec 32) :
    Option (Option CString × HevMappedDNS) :=
  let idx := (ip &&& ~~~self.mask).toInt
  if idx ≥ self.max then
    some (none, self)
  else if idx < 0 then
    none
  else
    match self.records idx.toNat with
    | none => some (none, self)
    | some node => some (some (self.name node), self.touch node)

/-- One call with what it returned. -/
inductive Label where
  | find (name : CString) (outcome : FindOutcome) (result : Int)
  | lookup (ip : BitVec 32) (result : Option CString)

def exec (self : HevMappedDNS) : Label → Option HevMappedDNS
  | .find name outcome result => do
      let (found, next) ← self.find name outcome
      if found = result then some next else none
  | .lookup ip result => do
      let (found, next) ← self.lookup ip
      if found = result then some next else none

/-- All sequences of calls on a cache that was just constructed. -/
def system (net mask : BitVec 32) (max : Int) : System HevMappedDNS Label :=
  .ofExec (fun self => construct net mask max = some self) exec

/-- The name a call found, or hit by its address. -/
def Label.accessed : Label → Option CString
  | .find name _ result => if result < 0 then none else some name
  | .lookup _ result => result

/-- The index a call went by. -/
def Label.index (mask : BitVec 32) : Label → Int
  | .find _ _ result => result
  | .lookup ip _ => (ip &&& ~~~mask).toInt

end HevMappedDNS

end ProxyVPN
