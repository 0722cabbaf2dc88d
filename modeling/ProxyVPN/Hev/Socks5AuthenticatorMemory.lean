/-
Module: ProxyVPN.Hev.Socks5AuthenticatorMemory
Purpose: The users of a SOCKS5 server with their red-black tree as it is in
  memory.  Its calls are those of the authenticator on a plain tree.
Trusted boundary: human-reviewed model
Main exports: HevSocks5AuthenticatorMemory, HevSocks5AuthenticatorMemory.add,
  HevSocks5AuthenticatorMemory.del, HevSocks5AuthenticatorMemory.clear,
  HevSocks5AuthenticatorMemory.system,
  HevSocks5AuthenticatorMemory.finite_map_of_run, authenticator_memory_refines
-/
import ProxyVPN.Hev.RBTreeRounds
import ProxyVPN.Hev.RBTreeWalk
import ProxyVPN.Hev.Socks5AuthenticatorMap

namespace ProxyVPN

open RedBlack SearchTree Transition

/-- `struct _HevSocks5Authenticator` with the users in memory; the node of a
user is at its address. -/
structure HevSocks5AuthenticatorMemory where
  tree : HevRBTree
  user : Nat → HevSocks5User

namespace HevSocks5AuthenticatorMemory

def empty (user : Nat → HevSocks5User) : HevSocks5AuthenticatorMemory :=
  { tree := { root := 0, nodes := fun _ => none }, user := user }

/-- The turns of each descent through the tree. -/
def turn (self : HevSocks5AuthenticatorMemory) (name : List UInt8) (node : Nat) :
    Option Side :=
  match compareName (self.user node).name name with
  | .lt => some .left
  | .gt => some .right
  | .eq => none

/-- `hev_socks5_user_new` at an address. -/
def create (self : HevSocks5AuthenticatorMemory) (address : Nat)
    (user : HevSocks5User) : HevSocks5AuthenticatorMemory :=
  { tree := self.tree.allocate address
    user := fun other => if other = address then user else self.user other }

/-- `hev_socks5_authenticator_get`, which returns a pointer. -/
def get (self : HevSocks5AuthenticatorMemory) (rounds : Nat) (name : List UInt8) :
    Option Nat := do
  let place ← self.tree.findPlace (self.turn name) rounds self.tree.rootPlace
  some place.node

/-- `hev_socks5_authenticator_add`. -/
def add (self : HevSocks5AuthenticatorMemory) (rounds address : Nat) :
    Option (Int × HevSocks5AuthenticatorMemory) := do
  let place ← self.tree.findPlace (self.turn (self.user address).name) rounds
    self.tree.rootPlace
  if place.node ≠ 0 then
    some (-1, self)
  else
    let tree ← self.tree.insert rounds address place.parent place.link
    some (0, { self with tree := tree })

/-- `hev_socks5_authenticator_del`; the tree has the only reference to its
users. -/
def del (self : HevSocks5AuthenticatorMemory) (rounds : Nat) (name : List UInt8) :
    Option (Int × HevSocks5AuthenticatorMemory) := do
  let place ← self.tree.findPlace (self.turn name) rounds self.tree.rootPlace
  if place.node ≠ 0 then
    let tree ← self.tree.erase rounds place.node
    some (0, { self with tree := tree.free place.node })
  else
    some (-1, self)

/-- The loop of `hev_socks5_authenticator_clear`, in so many passes. -/
def clear (rounds : Nat) : Nat → HevSocks5AuthenticatorMemory →
    Option HevSocks5AuthenticatorMemory
  | 0, _ => none
  | passes + 1, self => do
      let n ← self.tree.first rounds
      if n ≠ 0 then
        let tree ← self.tree.erase rounds n
        clear rounds passes { self with tree := tree.free n }
      else
        some self

/-- A call that has returned, with its result; an added user was made at an
unused address. -/
inductive Call where
  | add (address : Nat) (user : HevSocks5User) (res : Int)
  | del (name : List UInt8) (res : Int)
  | clear

/-- The call without the address. -/
def Call.event : Call → HevSocks5Authenticator.Event
  | .add _ user res => .add user res
  | .del name res => .del name res
  | .clear => .clear

/-- What a call does and returns. -/
def Step (self : HevSocks5AuthenticatorMemory) :
    Call → HevSocks5AuthenticatorMemory → Prop
  | .add address user res, next =>
      self.tree.Unused address ∧
        Returns (fun rounds => (self.create address user).add rounds address) (res, next)
  | .del name res, next => Returns (fun rounds => self.del rounds name) (res, next)
  | .clear, next => Returns (fun rounds => clear rounds rounds self) next

def system : System HevSocks5AuthenticatorMemory Call where
  start self := ∃ user, self = empty user
  step self call next := self.Step call next

/-- The tree of users is the one in memory. -/
def Refines (self : HevSocks5AuthenticatorMemory)
    (authenticator : HevSocks5Authenticator) : Prop :=
  ∃ tree, self.tree.Holds tree ∧ Good tree ∧
    authenticator.tree = tree.plain.map self.user

theorem turn_eq (self : HevSocks5AuthenticatorMemory) (name : List UInt8) :
    self.turn name =
      directions (fun node => (self.user node).key) (nameKey name) := by
  funext node
  rewrite [turn, directions, HevSocks5User.key, compare_nameKey]
  cases compareName (self.user node).name name <;> rfl

section Calls

variable {self : HevSocks5AuthenticatorMemory} {authenticator : HevSocks5Authenticator}
  {tree : ColorTree Nat} {rounds : Nat}

/-- The search in memory finds the user that the search finds. -/
theorem search_spec (holds : self.tree.Holds tree)
    (same : authenticator.tree = tree.plain.map self.user) (name : List UInt8)
    (enough : tree.height < rounds) :
    ∃ place,
      self.tree.findPlace (self.turn name) rounds self.tree.rootPlace = some place ∧
      search HevSocks5User.key (nameKey name) authenticator.tree =
        (if place.node = 0 then none else some (self.user place.node)) ∧
      (place.node = 0 ∨ place.node ∈ tree.toList) := by
  obtain ⟨place, found, searched⟩ :=
    holds.search_eq (fun node => (self.user node).key) (nameKey name) enough
  rw [← turn_eq] at found
  refine ⟨place, found, ?_, ?_⟩
  · rw [same, search_map, searched]
    split <;> rfl
  · by_cases null : place.node = 0
    · exact .inl null
    · rw [if_neg null] at searched
      refine .inr ?_
      rw [← ColorTree.toList_plain]
      exact (search_eq_some searched).1

/-- An object at an unused address changes nothing about the users. -/
theorem create_refines {address : Nat} (holds : self.tree.Holds tree)
    (same : authenticator.tree = tree.plain.map self.user)
    (unused : self.tree.Unused address) (user : HevSocks5User) :
    (self.create address user).tree.Holds tree ∧
      authenticator.tree = tree.plain.map (self.create address user).user ∧
      address ∉ tree.toList := by
  have fresh : address ∉ tree.toList := by
    intro member
    have present := holds.lays.isSome member
    rw [unused.1] at present
    cases present
  have apart : ∀ other ∈ tree.toList, other ≠ address := by
    rintro other member rfl
    exact fresh member
  refine ⟨?_, ?_, fresh⟩
  · refine holds.congr rfl ((if_neg unused.2.1.symm).trans holds.null) ?_
    exact fun other member => if_neg (apart other member)
  · rw [same]
    apply Tree.map_congr
    intro other member
    rw [ColorTree.toList_plain] at member
    exact (if_neg (apart other member)).symm

/-- Where the search in memory ends at null. -/
theorem seek_leaf (same : authenticator.tree = tree.plain.map self.user)
    {name : List UInt8}
    (missed : search HevSocks5User.key (nameKey name) authenticator.tree = none) :
    (seek (self.turn name) [] tree).2 = .leaf := by
  have ended := seek_search (fun node => (self.user node).key) (nameKey name) [] tree
  have mapped := search_map HevSocks5User.key (nameKey name) self.user tree.plain
  rw [← same, missed] at mapped
  rw [← turn_eq, Option.map_eq_none_iff.mp mapped.symm] at ended
  revert ended
  cases (seek (self.turn name) [] tree).2 with
  | leaf => exact fun _ => rfl
  | node => rintro ⟨⟩

theorem exists_added {user : HevSocks5User} {balanced : SearchTree.Tree HevSocks5User}
    (absent : search HevSocks5User.key user.key authenticator.tree = none)
    (kept : balanced.toList =
      (link HevSocks5User.key user.key user authenticator.tree).toList) :
    ∃ after, authenticator.add user balanced = some (0, after) ∧
      after.tree = balanced := by
  rw [HevSocks5Authenticator.add, dif_pos absent, dif_pos kept]
  exact ⟨_, rfl, rfl⟩

theorem exists_deleted {name : List UInt8} {this : HevSocks5User}
    {balanced : SearchTree.Tree HevSocks5User}
    (present : search HevSocks5User.key (nameKey name) authenticator.tree = some this)
    (kept : balanced.toList = authenticator.tree.toList.erase this) :
    ∃ after, authenticator.del name balanced = some (0, after) ∧
      after.tree = balanced := by
  rw [HevSocks5Authenticator.del, present]
  exact ⟨_, dif_pos kept, rfl⟩

/-- A new user is added, or its name is there. -/
theorem add_spec {address : Nat} (refines : self.Refines authenticator)
    (unused : self.tree.Unused address) (user : HevSocks5User) :
    ∃ res next after, self.Step (.add address user res) next ∧
      authenticator.Step (.add user res) after ∧ next.Refines after := by
  obtain ⟨tree, holds, good, same⟩ := refines
  obtain ⟨created, sameCreated, fresh⟩ := create_refines holds same unused user
  have named : (self.create address user).user address = user := if_pos rfl
  obtain ⟨place, found, searched, _⟩ :=
    search_spec created sameCreated user.name (Nat.lt_succ_self tree.height)
  by_cases null : place.node = 0
  · rw [if_pos null] at searched
    have leaf := seek_leaf sameCreated searched
    obtain ⟨final, later, wrote, inserted⟩ := created.insert good leaf
      (by simp [create, HevRBTree.allocate]) fresh unused.2.2
      (Nat.lt_succ_self tree.height)
    have placed := created.search ((self.create address user).turn user.name)
      (Nat.lt_succ_self tree.height)
    rw [found, leaf] at placed
    cases placed
    have absent : search HevSocks5User.key user.key authenticator.tree = none := searched
    have kept : (later.plain.map (self.create address user).user).toList =
        (link HevSocks5User.key user.key user authenticator.tree).toList := by
      have linked := link_map HevSocks5User.key user.key
        (self.create address user).user address tree.plain
      rw [named, ← sameCreated] at linked
      rw [linked, Tree.toList_map, Tree.toList_map, ColorTree.toList_plain,
        inserted.order, turn_eq]
      rw [turn_eq] at leaf
      rw [seek_link address leaf]
      simp [before, after, HevSocks5User.key]
    obtain ⟨after, added, sameAfter⟩ := exists_added absent kept
    refine ⟨0, { self.create address user with tree := final }, after,
      ⟨unused, tree.height + 1, ?_⟩, ⟨_, added⟩, later, inserted.holds, inserted.good,
      sameAfter⟩
    show (self.create address user).add (tree.height + 1) address = _
    rw [add, named, found, Option.bind_eq_bind, Option.bind_some,
      if_neg (not_not_intro null)]
    exact congrArg (Option.bind · _) wrote
  · rw [if_neg null] at searched
    refine ⟨-1, self.create address user, authenticator,
      ⟨unused, tree.height + 1, ?_⟩, ⟨.leaf, ?_⟩, tree, created, good, sameCreated⟩
    · show (self.create address user).add (tree.height + 1) address = _
      rw [add, named, found]
      exact if_pos null
    · rw [HevSocks5Authenticator.add, dif_neg]
      rw [show user.key = nameKey user.name from rfl, searched]
      rintro ⟨⟩

/-- What is erased from a list without duplicates is erased from its image. -/
theorem map_erase {α β : Type} [DecidableEq α] [DecidableEq β] {view : α → β}
    {elements : List α} (distinct : (elements.map view).Nodup) {element : α}
    (member : element ∈ elements) :
    (elements.erase element).map view = (elements.map view).erase (view element) := by
  obtain ⟨front, back, rfl⟩ := List.append_of_mem member
  rw [List.map_append, List.map_cons, List.nodup_append] at distinct
  have notFront : view element ∉ front.map view := fun inFront =>
    distinct.2.2 _ inFront _ List.mem_cons_self rfl
  have absent : element ∉ front := fun inFront => notFront (List.mem_map_of_mem inFront)
  rw [List.erase_append_right _ absent, List.erase_cons_head, List.map_append,
    List.map_append, List.map_cons, List.erase_append_right _ notFront,
    List.erase_cons_head]

/-- A node that is erased and freed is a user that is erased. -/
theorem erase_spec {node : Nat} (holds : self.tree.Holds tree) (good : Good tree)
    (same : authenticator.tree = tree.plain.map self.user)
    (member : node ∈ tree.toList) (enough : tree.height ≤ rounds) :
    ∃ erased later, self.tree.erase rounds node = some erased ∧
      (erased.free node).Holds later ∧ Good later ∧
      later.toList = tree.toList.erase node ∧
      (later.plain.map self.user).toList =
        authenticator.tree.toList.erase (self.user node) := by
  obtain ⟨erased, later, ran, result⟩ := holds.erase good member enough
  have distinct := authenticator.nodup_users
  rw [HevSocks5Authenticator.users, same, Tree.toList_map, ColorTree.toList_plain]
    at distinct
  refine ⟨erased, later, ran, result.free holds.distinct, result.good, result.order, ?_⟩
  rw [same, Tree.toList_map, Tree.toList_map, ColorTree.toList_plain,
    ColorTree.toList_plain, result.order, map_erase distinct member]

theorem del_spec (refines : self.Refines authenticator) (name : List UInt8) :
    ∃ res next after, self.Step (.del name res) next ∧
      authenticator.Step (.del name res) after ∧ next.Refines after := by
  obtain ⟨tree, holds, good, same⟩ := refines
  obtain ⟨place, found, searched, inside⟩ :=
    search_spec holds same name (Nat.lt_succ_self tree.height)
  by_cases null : place.node = 0
  · rw [if_pos null] at searched
    refine ⟨-1, self, authenticator, ⟨tree.height + 1, ?_⟩, ⟨.leaf, ?_⟩, tree, holds,
      good, same⟩
    · show self.del (tree.height + 1) name = _
      rw [del, found]
      exact if_neg (not_not_intro null)
    · rw [HevSocks5Authenticator.del, searched]
  · rw [if_neg null] at searched
    obtain ⟨erased, later, ran, laterHolds, laterGood, _, kept⟩ :=
      erase_spec holds good same (inside.resolve_left null) (Nat.le_succ tree.height)
    obtain ⟨after, deleted, sameAfter⟩ := exists_deleted searched kept
    refine ⟨0, { self with tree := erased.free place.node }, after,
      ⟨tree.height + 1, ?_⟩, ⟨_, deleted⟩, later, laterHolds, laterGood, sameAfter⟩
    show self.del (tree.height + 1) name = _
    rw [del, found]
    refine (if_pos null).trans ?_
    rw [ran]
    rfl

/-- The loop of `clear` erases the first user until there is none. -/
theorem clear_spec {passes count : Nat} (holds : self.tree.Holds tree)
    (good : Good tree) (same : authenticator.tree = tree.plain.map self.user)
    (few : tree.toList.length ≤ count) (enough : 2 * (count + 1).log2 ≤ rounds)
    (enoughPasses : tree.toList.length < passes) :
    ∃ next shapes after, clear rounds passes self = some next ∧
      authenticator.clear shapes = some after ∧ next.Refines after := by
  induction passes generalizing self authenticator tree with
  | zero => cases enoughPasses
  | succ passes inductionHypothesis =>
      have low := Nat.le_trans (good.height_le_of_length few) enough
      have first : self.tree.first rounds =
          some (HevRBTree.headPointer tree.toList) :=
        HevRBTree.extreme_spec .right holds low
      have firstUser : authenticator.tree.first = (tree.toList.map self.user).head? := by
        rw [Tree.first_eq, same, Tree.toList_map, ColorTree.toList_plain]
      rw [clear, first]
      cases elements : tree.toList with
      | nil =>
          rw [elements] at firstUser
          exact ⟨self, [], authenticator, rfl, if_pos firstUser, tree, holds, good, same⟩
      | cons node rest =>
          have member : node ∈ tree.toList := by
            rw [elements]
            exact List.mem_cons_self
          rw [elements] at firstUser
          obtain ⟨erased, later, ran, laterHolds, laterGood, order, kept⟩ :=
            erase_spec holds good same member low
          rw [elements, List.erase_cons_head] at order
          rw [elements, List.length_cons] at few enoughPasses
          have sorted : Descending HevSocks5User.key
              (later.plain.map self.user).toList := by
            rw [kept]
            exact authenticator.sorted.sublist List.erase_sublist
          have laterTree : (HevSocks5AuthenticatorMemory.mk (erased.free node)
              self.user).tree.Holds later := laterHolds
          obtain ⟨next, shapes, last, cleared, clearedView, refines⟩ :=
            inductionHypothesis laterTree laterGood
              (show (HevSocks5Authenticator.mk _ sorted).tree = _ from rfl)
              (by rw [order]; omega) (by rw [order]; omega)
          refine ⟨next, later.plain.map self.user :: shapes, last, ?_, ?_, refines⟩
          · have nonzero : HevRBTree.headPointer (node :: rest) ≠ 0 :=
              holds.nonzero node member
            rw [Option.bind_eq_bind, Option.bind_some, if_pos nonzero]
            exact (congrArg (Option.bind · _) ran).trans cleared
          · rw [HevSocks5Authenticator.clear, firstUser]
            exact (dif_pos kept).trans clearedView

theorem clear_returns (refines : self.Refines authenticator) :
    ∃ next after, self.Step .clear next ∧ authenticator.Step .clear after ∧
      next.Refines after := by
  obtain ⟨tree, holds, good, same⟩ := refines
  let count := tree.toList.length
  obtain ⟨next, shapes, after, cleared, clearedView, refines⟩ :=
    clear_spec holds good same (Nat.le_refl count)
      (show 2 * (count + 1).log2 ≤ 2 * (count + 1).log2 + count + 1 by omega)
      (show count < 2 * (count + 1).log2 + count + 1 by omega)
  exact ⟨next, after, ⟨_, cleared⟩, ⟨shapes, clearedView⟩, refines⟩

/-- A search looks at no more users than twice the logarithm of their number. -/
theorem get_spec (refines : self.Refines authenticator) (name : List UInt8) :
    ∃ address, self.get (2 * (authenticator.users.length + 1).log2 + 1) name =
        some address ∧
      authenticator.get name =
        if address = 0 then none else some (self.user address) := by
  obtain ⟨tree, holds, good, same⟩ := refines
  have few : tree.toList.length ≤ authenticator.users.length := by
    rewrite [HevSocks5Authenticator.users, same, Tree.toList_map, ColorTree.toList_plain,
      List.length_map]
    exact Nat.le_refl _
  obtain ⟨place, found, searched, _⟩ := search_spec holds same name
    (Nat.lt_succ_of_le (good.height_le_of_length few))
  refine ⟨place.node, ?_, searched⟩
  rw [get, found]
  rfl

end Calls

/-! ## Whole runs -/

theorem steady_add (self : HevSocks5AuthenticatorMemory) (address : Nat) :
    Steady fun rounds => self.add rounds address := by
  unfold add
  refine .bind (self.tree.steady_findPlace _ _) fun place => .ite (.const _) ?_
  exact .bind (self.tree.steady_insert _ _ _) fun tree => .const _

theorem steady_del (self : HevSocks5AuthenticatorMemory) (name : List UInt8) :
    Steady fun rounds => self.del rounds name := by
  unfold del
  refine .bind (self.tree.steady_findPlace _ _) fun place => .ite ?_ (.const _)
  exact .bind (self.tree.steady_erase _) fun tree => .const _

theorem steady_clear (self : HevSocks5AuthenticatorMemory) :
    Steady fun rounds => clear rounds rounds self := by
  have longer (rounds passes : Nat) (self : HevSocks5AuthenticatorMemory) :
      Below (clear rounds passes self) (clear (rounds + 1) (passes + 1) self) := by
    induction passes generalizing self with
    | zero => rintro _ ⟨⟩
    | succ passes inductionHypothesis =>
        simp only [clear, HevRBTree.first, Option.bind_eq_bind]
        refine .bind (self.tree.steady_extreme .left rounds) fun n => ?_
        refine .ite (.bind (self.tree.steady_erase n rounds) fun tree => ?_) (.refl _)
        exact inductionHypothesis _
  exact fun rounds => longer rounds rounds self

/-- Calls on users in memory are calls on users. -/
theorem simulation :
    Simulation system (HevSocks5Authenticator.system.under Call.event) Refines where
  forward := by
    intro self authenticator call next refines taken
    cases call with
    | add address user res =>
        obtain ⟨unused, returns⟩ := taken
        obtain ⟨_, _, after, ⟨_, again⟩, step, refinesAfter⟩ :=
          add_spec refines unused user
        cases returns.unique (steady_add _ address) again
        exact ⟨after, step, refinesAfter⟩
    | del name res =>
        obtain ⟨_, _, after, again, step, refinesAfter⟩ := del_spec refines name
        cases Returns.unique (self.steady_del name) taken again
        exact ⟨after, step, refinesAfter⟩
    | clear =>
        obtain ⟨_, after, again, step, refinesAfter⟩ := clear_returns refines
        cases Returns.unique self.steady_clear taken again
        exact ⟨after, step, refinesAfter⟩

theorem empty_refines (user : Nat → HevSocks5User) :
    (empty user).Refines HevSocks5Authenticator.empty := by
  refine ⟨.leaf, ⟨rfl, rfl, trivial, List.nodup_nil, ?_, fun _ _ => rfl⟩,
    ⟨0, .leaf⟩, rfl⟩
  rintro address ⟨⟩

/-- The users in memory are a finite map: a search finds exactly the user that the
calls have left under the name, adding fails exactly for a name that is held, and
deleting for one that is not. -/
theorem finite_map_of_run {first self : HevSocks5AuthenticatorMemory}
    {calls : List Call} (started : system.start first)
    (taken : system.Run first calls self) :
    (∀ name, ∃ rounds address, self.get rounds name = some address ∧
      ∀ user, address ≠ 0 ∧ self.user address = user ↔
        Held (calls.map Call.event) name user) ∧
    (∀ address user res next, self.Step (.add address user res) next →
      (res = -1 ↔ ∃ other,
        Held (calls.map Call.event) user.name other)) ∧
    ∀ name res next, self.Step (.del name res) next →
      (res = -1 ↔ ¬∃ user,
        Held (calls.map Call.event) name user) := by
  obtain ⟨user, rfl⟩ := started
  obtain ⟨authenticator, observed, refines⟩ := simulation.run taken (empty_refines user)
  have run := observed.of_under
  refine ⟨fun name => ?_, fun address user res next step => ?_,
    fun name res next step => ?_⟩
  · obtain ⟨address, found, view⟩ := get_spec refines name
    refine ⟨_, address, found, fun user => ?_⟩
    rw [← HevSocks5Authenticator.get_eq_some_iff_held run, view]
    by_cases null : address = 0
    · simp [null]
    · simp [null]
  · obtain ⟨after, viewStep, _⟩ :=
      simulation.forward _ _ (.add address user res) _ refines step
    exact (HevSocks5Authenticator.add_fails_iff_held run viewStep).2
  · obtain ⟨after, viewStep, _⟩ := simulation.forward _ _ (.del name res) _ refines step
    exact (HevSocks5Authenticator.del_fails_iff_not_held run viewStep).2

end HevSocks5AuthenticatorMemory

open HevSocks5AuthenticatorMemory

/-- The users in memory are those of an authenticator with the same calls, every
further call returns, and a search is as short as a red-black tree makes it. -/
theorem authenticator_memory_refines {first self : HevSocks5AuthenticatorMemory}
    {calls : List HevSocks5AuthenticatorMemory.Call}
    (started : HevSocks5AuthenticatorMemory.system.start first)
    (taken : HevSocks5AuthenticatorMemory.system.Run first calls self) :
    ∃ authenticator,
      HevSocks5Authenticator.system.Run .empty
        (calls.map HevSocks5AuthenticatorMemory.Call.event) authenticator ∧
      (∀ name, ∃ address,
        self.get (2 * (authenticator.users.length + 1).log2 + 1) name = some address ∧
        authenticator.get name =
          if address = 0 then none else some (self.user address)) ∧
      (∀ address user, self.tree.Unused address →
        ∃ res next, self.Step (.add address user res) next) ∧
      (∀ name, ∃ res next, self.Step (.del name res) next) ∧
      ∃ next, self.Step .clear next := by
  obtain ⟨user, rfl⟩ := started
  obtain ⟨authenticator, run, refines⟩ := simulation.run taken (empty_refines user)
  refine ⟨authenticator, run.of_under, get_spec refines, fun address user unused => ?_,
    fun name => ?_, ?_⟩
  · obtain ⟨res, next, _, step, _⟩ := add_spec refines unused user
    exact ⟨res, next, step⟩
  · obtain ⟨res, next, _, step, _⟩ := del_spec refines name
    exact ⟨res, next, step⟩
  · obtain ⟨next, _, step, _⟩ := clear_returns refines
    exact ⟨next, step⟩

/-- After a user was added at address 8, the users can be cleared. -/
theorem authenticator_memory_refines_one_user :
    ∃ (self : HevSocks5AuthenticatorMemory) (authenticator : HevSocks5Authenticator),
      HevSocks5Authenticator.system.Run .empty [.add ⟨[97], [98]⟩ 0] authenticator ∧
      ∃ next, self.Step .clear next := by
  let first := HevSocks5AuthenticatorMemory.empty fun _ => ⟨[], []⟩
  have added : ((first.create 8 ⟨[97], [98]⟩).add 3 8).map Prod.fst = some 0 := by
    decide
  obtain ⟨⟨res, self⟩, ran, rfl⟩ := Option.map_eq_some_iff.mp added
  have step : first.Step (.add 8 ⟨[97], [98]⟩ 0) self := ⟨by decide, 3, ran⟩
  have run : HevSocks5AuthenticatorMemory.system.Run first
      ([] ++ [.add 8 ⟨[97], [98]⟩ 0]) self := .snoc (.nil first) step
  obtain ⟨authenticator, runs, _, _, _, clears⟩ :=
    authenticator_memory_refines ⟨_, rfl⟩ run
  exact ⟨self, authenticator, runs, clears⟩

end ProxyVPN
