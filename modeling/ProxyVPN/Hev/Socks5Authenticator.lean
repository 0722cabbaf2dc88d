/-
Module: ProxyVPN.Hev.Socks5Authenticator
Purpose: The users of a SOCKS5 server: a search tree by the length of the name
  and then its bytes, with the search for a name, adding and removing a user,
  and the check of a password.
Trusted boundary: human-reviewed model; the rebalancing of the tree keeps the
  order of its nodes.
Main exports: HevSocks5User, HevSocks5Authenticator, HevSocks5Authenticator.get,
  HevSocks5Authenticator.add, HevSocks5Authenticator.del,
  HevSocks5Authenticator.clear, compare_nameKey, get_eq_some_iff,
  exists_holding
-/
import Mathlib.Data.List.Nodup
import ProxyVPN.Lib.SearchTree

namespace ProxyVPN

open SearchTree

structure HevSocks5User where
  name : List UInt8
  pass : List UInt8
deriving DecidableEq

/-- Names are compared by their length, and then by `memcmp`. -/
def nameKey (name : List UInt8) : List Nat :=
  name.length :: name.map UInt8.toNat

theorem nameKey_inj {left right : List UInt8}
    (same : nameKey left = nameKey right) : left = right := by
  have bytes := (List.cons.inj same).2
  exact List.map_injective_iff.mpr (fun _ _ => UInt8.toNat_inj.mp) bytes

/-- `memcmp` of as many bytes. -/
def memcmp : Nat → List UInt8 → List UInt8 → Ordering
  | n + 1, left :: lefts, right :: rights =>
      if left.toNat < right.toNat then .lt
      else if right.toNat < left.toNat then .gt
      else memcmp n lefts rights
  | _, _, _ => .eq

/-- The comparison that each descent through the tree makes. -/
def compareName (this name : List UInt8) : Ordering :=
  if this.length < name.length then .lt
  else if this.length > name.length then .gt
  else memcmp this.length this name

theorem compare_bytes {left : List UInt8} : ∀ {right : List UInt8},
    left.length = right.length →
      compare (left.map UInt8.toNat) (right.map UInt8.toNat) =
        memcmp left.length left right := by
  induction left with
  | nil =>
      intro right same
      rw [List.length_eq_zero_iff.mp same.symm]
      rfl
  | cons first rest inductionHypothesis =>
      intro right same
      cases right with
      | nil => cases same
      | cons second others =>
          have later := inductionHypothesis (Nat.succ.inj same)
          have unfolded : compare ((first :: rest).map UInt8.toNat)
              ((second :: others).map UInt8.toNat) =
              (compare first.toNat second.toNat).then
                (compare (rest.map UInt8.toNat) (others.map UInt8.toNat)) :=
            List.compareLex_cons_cons
          rw [unfolded, later, Nat.compare_eq_ite_lt, List.length_cons, memcmp]
          split
          · rfl
          split <;> rfl

/-- The keys are in the order in which the names are compared. -/
theorem compare_nameKey (this name : List UInt8) :
    compare (nameKey this) (nameKey name) = compareName this name := by
  have unfolded : compare (nameKey this) (nameKey name) =
      (compare this.length name.length).then
        (compare (this.map UInt8.toNat) (name.map UInt8.toNat)) :=
    List.compareLex_cons_cons
  unfold compareName
  rw [unfolded, Nat.compare_eq_ite_lt]
  split
  · rfl
  split
  · rfl
  · exact compare_bytes (by omega)

namespace HevSocks5User

def key (self : HevSocks5User) : List Nat := nameKey self.name

/-- `hev_socks5_user_checker`. -/
def check (self : HevSocks5User) (pass : List UInt8) : Int :=
  if self.pass.length ≠ pass.length then -1
  else if self.pass ≠ pass then -1
  else 0

theorem check_eq (self : HevSocks5User) (pass : List UInt8) :
    self.check pass = if self.pass = pass then 0 else -1 := by
  unfold check
  by_cases same : self.pass = pass
  · rw [same, if_neg (not_not_intro rfl), if_neg (not_not_intro rfl), if_pos rfl]
  · rw [if_neg same, if_pos same, ite_self]

end HevSocks5User

/-- The tree of users, which is sorted by their names. -/
structure HevSocks5Authenticator where
  tree : SearchTree.Tree HevSocks5User
  sorted : Descending HevSocks5User.key tree.toList

namespace HevSocks5Authenticator

def users (self : HevSocks5Authenticator) : List HevSocks5User :=
  self.tree.toList

def empty : HevSocks5Authenticator := ⟨.leaf, List.Pairwise.nil⟩

/-- `hev_socks5_authenticator_get`. -/
def get (self : HevSocks5Authenticator) (name : List UInt8) :
    Option HevSocks5User :=
  search HevSocks5User.key (nameKey name) self.tree

/-- `hev_socks5_authenticator_add`.  There is no result where the tree that the
rebalancing leaves is none it can leave. -/
def add (self : HevSocks5Authenticator) (user : HevSocks5User)
    (balanced : SearchTree.Tree HevSocks5User) : Option (Int × HevSocks5Authenticator) :=
  if absent : search HevSocks5User.key user.key self.tree = none then
    if kept : balanced.toList =
        (link HevSocks5User.key user.key user self.tree).toList then
      some (0,
        { tree := balanced
          sorted := by
            rw [kept]
            exact link_descending self.sorted
              (search_eq_none self.sorted absent) })
    else
      none
  else
    some (-1, self)

/-- `hev_socks5_authenticator_del`. -/
def del (self : HevSocks5Authenticator) (name : List UInt8)
    (balanced : SearchTree.Tree HevSocks5User) :
    Option (Int × HevSocks5Authenticator) :=
  match search HevSocks5User.key (nameKey name) self.tree with
  | some this =>
      if kept : balanced.toList = self.tree.toList.erase this then
        some (0,
          { tree := balanced
            sorted := by
              rw [kept]
              exact self.sorted.sublist List.erase_sublist })
      else
        none
  | none => some (-1, self)

/-- `hev_socks5_authenticator_clear`, with the tree after each user is erased. -/
def clear (self : HevSocks5Authenticator) :
    List (SearchTree.Tree HevSocks5User) → Option HevSocks5Authenticator
  | [] => if self.tree.first = none then some self else none
  | balanced :: rest =>
      match self.tree.first with
      | some user =>
          if kept : balanced.toList = self.tree.toList.erase user then
            clear
              { tree := balanced
                sorted := by
                  rw [kept]
                  exact self.sorted.sublist List.erase_sublist } rest
          else
            none
      | none => none

/-- A search finds the user of that name. -/
theorem get_eq_some {self : HevSocks5Authenticator} {name : List UInt8}
    {user : HevSocks5User} (found : self.get name = some user) :
    user ∈ self.users ∧ user.name = name := by
  obtain ⟨member, same⟩ := search_eq_some found
  exact ⟨member, nameKey_inj same⟩

theorem distinct (self : HevSocks5Authenticator) :
    (self.users.map HevSocks5User.name).Nodup := by
  apply List.pairwise_map.mpr
  apply self.sorted.imp
  intro left right greater same
  have equal : left.key = right.key := congrArg nameKey same
  rw [equal, Std.ReflOrd.compare_self] at greater
  cases greater

/-- There is one user of each name, and the search finds it. -/
theorem get_of_mem {self : HevSocks5Authenticator} {user : HevSocks5User}
    (member : user ∈ self.users) : self.get user.name = some user := by
  cases found : self.get user.name with
  | none =>
      exact absurd rfl (search_eq_none self.sorted found user member)
  | some other =>
      obtain ⟨otherMember, same⟩ := get_eq_some found
      have equal : other = user :=
        List.inj_on_of_nodup_map self.distinct otherMember member same
      rw [equal]

theorem get_eq_some_iff {self : HevSocks5Authenticator} {name : List UInt8}
    {user : HevSocks5User} :
    self.get name = some user ↔ user ∈ self.users ∧ user.name = name := by
  constructor
  · exact get_eq_some
  · rintro ⟨member, rfl⟩
    exact get_of_mem member

/-- The user is there with this password. -/
def Maps (self : HevSocks5Authenticator) (name pass : List UInt8) : Prop :=
  ⟨name, pass⟩ ∈ self.users

/-- Name and password pass the checks of the server exactly for the users. -/
theorem get_check_iff (self : HevSocks5Authenticator) (name pass : List UInt8) :
    (∃ user, self.get name = some user ∧ user.check pass = 0) ↔
      self.Maps name pass := by
  constructor
  · rintro ⟨user, found, checked⟩
    obtain ⟨member, rfl⟩ := get_eq_some found
    rw [HevSocks5User.check_eq] at checked
    split at checked
    case isTrue same =>
      subst same
      exact member
    case isFalse => cases checked
  · intro maps
    refine ⟨_, get_of_mem maps, ?_⟩
    rw [HevSocks5User.check_eq, if_pos rfl]

/-- An added user joins the others. -/
theorem add_users {self next : HevSocks5Authenticator} {user : HevSocks5User}
    {balanced : SearchTree.Tree HevSocks5User}
    (added : self.add user balanced = some (0, next)) :
    next.users.Perm (user :: self.users) := by
  unfold add at added
  split at added
  case isTrue absent =>
    split at added
    case isTrue kept =>
      cases added
      change balanced.toList.Perm _
      rw [kept]
      exact toList_link_perm (search_eq_none self.sorted absent)
    case isFalse => cases added
  case isFalse => cases added

theorem nodup_users (self : HevSocks5Authenticator) : self.users.Nodup :=
  self.distinct.of_map _

/-- A deleted user was found, and the others stay. -/
theorem del_users {self next : HevSocks5Authenticator} {name : List UInt8}
    {balanced : SearchTree.Tree HevSocks5User}
    (deleted : self.del name balanced = some (0, next)) :
    ∃ this, self.get name = some this ∧
      ∀ user, user ∈ next.users ↔ user ≠ this ∧ user ∈ self.users := by
  unfold del at deleted
  split at deleted
  case h_1 this found =>
    split at deleted
    case isTrue kept =>
      cases deleted
      refine ⟨this, found, fun user => ?_⟩
      change user ∈ balanced.toList ↔ _
      rw [kept]
      exact self.nodup_users.mem_erase_iff
    case isFalse => cases deleted
  case h_2 => cases deleted

/-- No user is left when the loop has ended. -/
theorem clear_users {shapes : List (SearchTree.Tree HevSocks5User)} :
    ∀ {self next : HevSocks5Authenticator},
      self.clear shapes = some next → next.users = [] := by
  induction shapes with
  | nil =>
      intro self next cleared
      obtain ⟨ended, ⟨⟩⟩ := Option.ite_none_right_eq_some.mp cleared
      rw [Tree.first_eq] at ended
      exact List.head?_eq_none_iff.mp ended
  | cons balanced rest inductionHypothesis =>
      intro self next cleared
      unfold clear at cleared
      split at cleared
      case h_1 =>
        split at cleared
        case isTrue => exact inductionHypothesis cleared
        case isFalse => cases cleared
      case h_2 => cases cleared

/-- There is a tree of any sequence of users. -/
theorem exists_tree (users : List HevSocks5User) :
    ∃ tree : SearchTree.Tree HevSocks5User, tree.toList = users := by
  induction users with
  | nil => exact ⟨.leaf, rfl⟩
  | cons user users inductionHypothesis =>
      obtain ⟨tree, same⟩ := inductionHypothesis
      refine ⟨.node .leaf user tree, ?_⟩
      rw [Tree.toList, Tree.toList, List.nil_append, same]

/-- The loop ends: each pass erases a user. -/
theorem clear_returns (self : HevSocks5Authenticator) :
    ∃ shapes next, self.clear shapes = some next := by
  induction counted : self.users.length generalizing self with
  | zero =>
      have nobody : self.tree.first = none := by
        rw [Tree.first_eq]
        exact List.head?_eq_none_iff.mpr (List.length_eq_zero_iff.mp counted)
      exact ⟨[], self, if_pos nobody⟩
  | succ size inductionHypothesis =>
      cases leftmost : self.tree.first with
      | none =>
          rw [Tree.first_eq] at leftmost
          have nobody : self.users = [] := List.head?_eq_none_iff.mp leftmost
          rw [nobody] at counted
          cases counted
      | some user =>
          obtain ⟨balanced, kept⟩ := exists_tree (self.tree.toList.erase user)
          have inside : user ∈ self.tree.toList := by
            rw [Tree.first_eq] at leftmost
            exact List.mem_of_head? leftmost
          let erased : HevSocks5Authenticator :=
            { tree := balanced
              sorted := by
                rw [kept]
                exact self.sorted.sublist List.erase_sublist }
          have fewer : erased.users.length = size := by
            change balanced.toList.length = size
            rw [kept, List.length_erase_of_mem inside]
            change self.users.length - 1 = size
            omega
          obtain ⟨shapes, next, cleared⟩ := inductionHypothesis erased fewer
          refine ⟨balanced :: shapes, next, ?_⟩
          unfold clear
          rw [leftmost]
          exact (dif_pos kept).trans cleared

theorem add_of_absent {self : HevSocks5Authenticator} {user : HevSocks5User}
    (absent : search HevSocks5User.key user.key self.tree = none) :
    ∃ next, self.add user (link HevSocks5User.key user.key user self.tree) =
      some (0, next) := by
  unfold add
  rw [dif_pos absent, dif_pos rfl]
  exact ⟨_, rfl⟩

theorem del_of_present {self : HevSocks5Authenticator} {name : List UInt8}
    {this : HevSocks5User}
    (present : search HevSocks5User.key (nameKey name) self.tree = some this) :
    ∃ balanced next, self.del name balanced = some (0, next) := by
  obtain ⟨balanced, kept⟩ := exists_tree (self.tree.toList.erase this)
  unfold del
  rw [present]
  exact ⟨balanced, _, dif_pos kept⟩

/-- Any users of different names can be held. -/
theorem exists_holding (users : List HevSocks5User)
    (distinct : (users.map HevSocks5User.name).Nodup) :
    ∃ self : HevSocks5Authenticator, self.users.Perm users := by
  induction users with
  | nil => exact ⟨empty, List.Perm.refl _⟩
  | cons user users inductionHypothesis =>
      rw [List.map_cons, List.nodup_cons] at distinct
      obtain ⟨self, holds⟩ := inductionHypothesis distinct.2
      have absent : search HevSocks5User.key user.key self.tree = none := by
        cases found : search HevSocks5User.key user.key self.tree with
        | none => rfl
        | some other =>
            obtain ⟨member, same⟩ := search_eq_some found
            refine absurd ?_ distinct.1
            rw [← nameKey_inj same]
            exact List.mem_map_of_mem (holds.mem_iff.mp member)
      obtain ⟨next, added⟩ := add_of_absent absent
      exact ⟨next, (add_users added).trans (holds.cons user)⟩

end HevSocks5Authenticator

end ProxyVPN
