/-
Module: ProxyVPN.Hev.Socks5AuthenticatorMap
Purpose: The authenticator as a finite map from names to users: the map that
  its calls work on, the simulation by that map, and what the map has of a name
  after any sequence of calls.
Trusted boundary: none
Main exports: HevSocks5Authenticator.Event, HevSocks5Authenticator.system,
  UserMap, UserMap.system, Held, UserMap.held_iff,
  HevSocks5Authenticator.simulation, HevSocks5Authenticator.is_finite_map
-/
import Mathlib.Logic.Function.Basic
import ProxyVPN.Hev.Socks5Authenticator
import ProxyVPN.Lib.Transition

namespace ProxyVPN

open SearchTree Transition

namespace HevSocks5Authenticator

/-- A call that has returned, with its result. -/
inductive Event where
  | add (user : HevSocks5User) (res : Int)
  | del (name : List UInt8) (res : Int)
  | clear
deriving DecidableEq

/-- What a call does, whichever shapes the rebalancing chooses. -/
def Step (self : HevSocks5Authenticator) :
    Event → HevSocks5Authenticator → Prop
  | .add user res, next => ∃ balanced, self.add user balanced = some (res, next)
  | .del name res, next => ∃ balanced, self.del name balanced = some (res, next)
  | .clear, next => ∃ shapes, self.clear shapes = some next

def system : System HevSocks5Authenticator Event where
  start self := self = empty
  step self event next := self.Step event next

end HevSocks5Authenticator

open HevSocks5Authenticator (Event)

/-! ## The map -/

/-- The user of each name. -/
abbrev UserMap := List UInt8 → Option HevSocks5User

namespace UserMap

def empty : UserMap := fun _ => none

/-- Adding fails for a name that is there, deleting for one that is not. -/
def Step (map : UserMap) : Event → UserMap → Prop
  | .add user res, next =>
      map user.name = none ∧ res = 0 ∧
          next = Function.update map user.name (some user) ∨
        map user.name ≠ none ∧ res = -1 ∧ next = map
  | .del name res, next =>
      map name ≠ none ∧ res = 0 ∧ next = Function.update map name none ∨
        map name = none ∧ res = -1 ∧ next = map
  | .clear, next => next = empty

def system : System UserMap Event where
  start map := map = empty
  step map event next := map.Step event next

end UserMap

/-- The user was added with success under this name, and not deleted or cleared
since. -/
def Held (events : List Event) (name : List UInt8) (user : HevSocks5User) :
    Prop :=
  user.name = name ∧ ∃ before after,
    events = before ++ .add user 0 :: after ∧
      .del name 0 ∉ after ∧ .clear ∉ after

theorem not_held_nil {name : List UInt8} {user : HevSocks5User} :
    ¬Held [] name user := by
  rintro ⟨_, before, after, split, _⟩
  exact List.append_ne_nil_of_right_ne_nil before (List.cons_ne_nil _ after)
    split.symm

/-- One more call adds the user, or the user was held and stays. -/
theorem held_snoc {events : List Event} {event : Event} {name : List UInt8}
    {user : HevSocks5User} :
    Held (events ++ [event]) name user ↔
      event = .add user 0 ∧ user.name = name ∨
        Held events name user ∧ event ≠ .del name 0 ∧ event ≠ .clear := by
  constructor
  · rintro ⟨same, before, after, split, notDeleted, notCleared⟩
    rcases List.eq_nil_or_concat after with rfl | ⟨middle, last, rfl⟩
    · have added := List.append_inj_right' split rfl
      exact .inl ⟨List.singleton_inj.mp added, same⟩
    · rw [List.concat_eq_append] at split notDeleted notCleared
      rw [← List.cons_append, ← List.append_assoc] at split
      obtain ⟨earlier, latest⟩ := List.append_inj' split rfl
      cases List.singleton_inj.mp latest
      rw [List.mem_append, not_or, List.mem_singleton] at notDeleted notCleared
      exact .inr ⟨⟨same, before, middle, earlier, notDeleted.1, notCleared.1⟩,
        fun deleted => notDeleted.2 deleted.symm,
        fun cleared => notCleared.2 cleared.symm⟩
  · rintro (⟨rfl, same⟩ | ⟨held, notDeleted, notCleared⟩)
    · exact ⟨same, events, [], rfl, List.not_mem_nil, List.not_mem_nil⟩
    · obtain ⟨same, before, after, rfl, noDeletion, noClearing⟩ := held
      refine ⟨same, before, after ++ [event], ?_, ?_, ?_⟩
      · rw [List.append_assoc, List.cons_append]
      · rw [List.mem_append, not_or, List.mem_singleton]
        exact ⟨noDeletion, fun deleted => notDeleted deleted.symm⟩
      · rw [List.mem_append, not_or, List.mem_singleton]
        exact ⟨noClearing, fun cleared => notCleared cleared.symm⟩

namespace UserMap

/-- What one call changes of the user of a name. -/
theorem Step.eq_some_iff {map next : UserMap} {event : Event}
    (step : map.Step event next) {name : List UInt8} {user : HevSocks5User} :
    next name = some user ↔
      event = .add user 0 ∧ user.name = name ∨
        map name = some user ∧ event ≠ .del name 0 ∧ event ≠ .clear := by
  cases event with
  | add added res =>
      rcases step with ⟨absent, rfl, rfl⟩ | ⟨_, rfl, rfl⟩
      · by_cases same : name = added.name
        · subst same
          rw [Function.update_self]
          constructor
          · rintro ⟨⟩
            exact .inl ⟨rfl, rfl⟩
          · rintro (⟨⟨⟩, _⟩ | ⟨present, _⟩)
            · rfl
            · rw [absent] at present
              cases present
        · rw [Function.update_of_ne same]
          constructor
          · intro present
            exact .inr ⟨present, nofun, nofun⟩
          · rintro (⟨⟨⟩, other⟩ | ⟨present, _⟩)
            · exact absurd other.symm same
            · exact present
      · constructor
        · intro present
          exact .inr ⟨present, nofun, nofun⟩
        · rintro (⟨⟨⟩, _⟩ | ⟨present, _⟩)
          exact present
  | del deleted res =>
      rcases step with ⟨_, rfl, rfl⟩ | ⟨absent, rfl, rfl⟩
      · by_cases same : name = deleted
        · subst same
          rw [Function.update_self]
          constructor
          · nofun
          · rintro (⟨⟨⟩, _⟩ | ⟨_, kept, _⟩)
            exact absurd rfl kept
        · rw [Function.update_of_ne same]
          constructor
          · intro present
            refine .inr ⟨present, ?_, nofun⟩
            rintro ⟨⟩
            exact same rfl
          · rintro (⟨⟨⟩, _⟩ | ⟨present, _⟩)
            exact present
      · constructor
        · intro present
          exact .inr ⟨present, nofun, nofun⟩
        · rintro (⟨⟨⟩, _⟩ | ⟨present, _⟩)
          exact present
  | clear =>
      rw [show next = empty from step]
      constructor
      · nofun
      · rintro (⟨⟨⟩, _⟩ | ⟨_, _, kept⟩)
        exact absurd rfl kept

/-- The map has the users that are held after the calls. -/
theorem held_iff {first map : UserMap} {events : List Event}
    (run : system.Run first events map) (began : first = empty)
    {name : List UInt8} {user : HevSocks5User} :
    map name = some user ↔ Held events name user := by
  induction run generalizing name user with
  | nil =>
      rw [began]
      exact iff_of_false nofun not_held_nil
  | snoc _ taken inductionHypothesis =>
      rw [Step.eq_some_iff taken, held_snoc, inductionHypothesis]

end UserMap

/-! ## The authenticator works on the map -/

namespace HevSocks5Authenticator

/-- An added user is found under its name, and the others as before. -/
theorem get_add {self next : HevSocks5Authenticator} {user : HevSocks5User}
    {balanced : SearchTree.Tree HevSocks5User}
    (added : self.add user balanced = some (0, next)) :
    next.get = Function.update self.get user.name (some user) := by
  have members (other : HevSocks5User) :
      other ∈ next.users ↔ other = user ∨ other ∈ self.users := by
    rw [(add_users added).mem_iff, List.mem_cons]
  funext name
  by_cases same : name = user.name
  · subst same
    rw [Function.update_self]
    exact get_of_mem ((members user).mpr (.inl rfl))
  · rw [Function.update_of_ne same]
    apply Option.ext
    intro found
    rw [get_eq_some_iff, get_eq_some_iff, members]
    constructor
    · rintro ⟨rfl | inside, named⟩
      · exact absurd named.symm same
      · exact ⟨inside, named⟩
    · rintro ⟨inside, named⟩
      exact ⟨.inr inside, named⟩

theorem get_del {self next : HevSocks5Authenticator} {name : List UInt8}
    {balanced : SearchTree.Tree HevSocks5User}
    (deleted : self.del name balanced = some (0, next)) :
    next.get = Function.update self.get name none := by
  obtain ⟨this, present, members⟩ := del_users deleted
  obtain ⟨inside, rfl⟩ := get_eq_some present
  funext name
  apply Option.ext
  intro found
  by_cases same : name = this.name
  · subst same
    rw [Function.update_self, get_eq_some_iff, members]
    constructor
    · rintro ⟨⟨other, kept⟩, named⟩
      have again := get_of_mem kept
      rw [named, present] at again
      exact absurd (Option.some.inj again).symm other
    · nofun
  · rw [Function.update_of_ne same, get_eq_some_iff, get_eq_some_iff, members]
    constructor
    · rintro ⟨⟨_, kept⟩, named⟩
      exact ⟨kept, named⟩
    · rintro ⟨kept, rfl⟩
      refine ⟨⟨?_, kept⟩, rfl⟩
      rintro rfl
      exact same rfl

theorem get_clear {self next : HevSocks5Authenticator}
    {shapes : List (SearchTree.Tree HevSocks5User)}
    (cleared : self.clear shapes = some next) : next.get = UserMap.empty := by
  funext name
  apply Option.eq_none_iff_forall_ne_some.mpr
  intro user found
  have inside := (get_eq_some found).1
  rw [clear_users cleared] at inside
  cases inside

/-- Adding fails where the search finds a user, and then nothing changes. -/
theorem add_cases {self next : HevSocks5Authenticator} {user : HevSocks5User}
    {balanced : SearchTree.Tree HevSocks5User} {res : Int}
    (returned : self.add user balanced = some (res, next)) :
    self.get user.name = none ∧ res = 0 ∨
      self.get user.name ≠ none ∧ res = -1 ∧ next = self := by
  unfold add at returned
  split at returned
  case isTrue absent =>
    split at returned
    case isTrue =>
      cases returned
      exact .inl ⟨absent, rfl⟩
    case isFalse => cases returned
  case isFalse present =>
    cases returned
    exact .inr ⟨present, rfl, rfl⟩

theorem del_cases {self next : HevSocks5Authenticator} {name : List UInt8}
    {balanced : SearchTree.Tree HevSocks5User} {res : Int}
    (returned : self.del name balanced = some (res, next)) :
    self.get name ≠ none ∧ res = 0 ∨
      self.get name = none ∧ res = -1 ∧ next = self := by
  unfold del at returned
  split at returned
  case h_1 this found =>
    split at returned
    case isTrue =>
      cases returned
      refine .inl ⟨?_, rfl⟩
      intro absent
      cases found.symm.trans absent
    case isFalse => cases returned
  case h_2 absent =>
    cases returned
    exact .inr ⟨absent, rfl, rfl⟩

/-- Each call does to the searches what it does to the map. -/
theorem Step.get {self next : HevSocks5Authenticator} {event : Event}
    (step : self.Step event next) : UserMap.Step self.get event next.get := by
  cases event with
  | add user res =>
      obtain ⟨balanced, returned⟩ := step
      rcases add_cases returned with ⟨absent, rfl⟩ | ⟨present, rfl, rfl⟩
      · exact .inl ⟨absent, rfl, get_add returned⟩
      · exact .inr ⟨present, rfl, rfl⟩
  | del name res =>
      obtain ⟨balanced, returned⟩ := step
      rcases del_cases returned with ⟨present, rfl⟩ | ⟨absent, rfl, rfl⟩
      · exact .inl ⟨present, rfl, get_del returned⟩
      · exact .inr ⟨absent, rfl, rfl⟩
  | clear =>
      obtain ⟨shapes, cleared⟩ := step
      exact get_clear cleared

theorem simulation :
    Simulation system UserMap.system fun self map => self.get = map where
  forward := by
    rintro self map event next rfl step
    exact ⟨next.get, step.get, rfl⟩

/-- After any calls the searches find the users that are held. -/
theorem get_eq_some_iff_held {events : List Event}
    {self : HevSocks5Authenticator} (run : system.Run empty events self)
    {name : List UInt8} {user : HevSocks5User} :
    self.get name = some user ↔ Held events name user := by
  obtain ⟨map, mapRun, rfl⟩ := simulation.run run rfl
  exact UserMap.held_iff mapRun rfl

theorem get_ne_none_iff_held {events : List Event}
    {self : HevSocks5Authenticator} (run : system.Run empty events self)
    {name : List UInt8} :
    self.get name ≠ none ↔ ∃ user, Held events name user := by
  rw [Option.ne_none_iff_exists']
  exact exists_congr fun user => get_eq_some_iff_held run

/-- Every call returns. -/
theorem add_returns (self : HevSocks5Authenticator) (user : HevSocks5User) :
    ∃ res next, self.Step (.add user res) next := by
  by_cases absent : search HevSocks5User.key user.key self.tree = none
  · obtain ⟨next, added⟩ := add_of_absent absent
    exact ⟨0, next, _, added⟩
  · exact ⟨-1, self, .leaf, dif_neg absent⟩

theorem del_returns (self : HevSocks5Authenticator) (name : List UInt8) :
    ∃ res next, self.Step (.del name res) next := by
  cases found : search HevSocks5User.key (nameKey name) self.tree with
  | none =>
      refine ⟨-1, self, .leaf, ?_⟩
      unfold del
      rw [found]
  | some this =>
      obtain ⟨balanced, next, deleted⟩ := del_of_present found
      exact ⟨0, next, balanced, deleted⟩

/-- Adding fails exactly for a name that is held, -/
theorem add_fails_iff_held {events : List Event} {self next : HevSocks5Authenticator}
    (run : system.Run empty events self) {user : HevSocks5User} {res : Int}
    (returned : self.Step (.add user res) next) :
    (res = 0 ∨ res = -1) ∧ (res = -1 ↔ ∃ other, Held events user.name other) := by
  obtain ⟨balanced, added⟩ := returned
  rw [← get_ne_none_iff_held run]
  rcases add_cases added with ⟨absent, rfl⟩ | ⟨present, rfl, _⟩
  · exact ⟨.inl rfl, iff_of_false (by decide) (not_not_intro absent)⟩
  · exact ⟨.inr rfl, iff_of_true rfl present⟩

/-- and deleting exactly for one that is not. -/
theorem del_fails_iff_not_held {events : List Event}
    {self next : HevSocks5Authenticator} (run : system.Run empty events self)
    {name : List UInt8} {res : Int} (returned : self.Step (.del name res) next) :
    (res = 0 ∨ res = -1) ∧ (res = -1 ↔ ¬∃ user, Held events name user) := by
  obtain ⟨balanced, deleted⟩ := returned
  rw [← get_ne_none_iff_held run]
  rcases del_cases deleted with ⟨present, rfl⟩ | ⟨absent, rfl, _⟩
  · exact ⟨.inl rfl, iff_of_false (by decide) (not_not_intro present)⟩
  · exact ⟨.inr rfl, iff_of_true rfl (not_not_intro absent)⟩

/-- The authenticator is a finite map.  After any sequence of calls a search
finds a user if and only if it is held under that name; adding then fails exactly
for a name that is held, deleting exactly for one that is not; and each call
returns. -/
theorem is_finite_map {events : List Event} {self : HevSocks5Authenticator}
    (run : system.Run empty events self) :
    (∀ name user, self.get name = some user ↔ Held events name user) ∧
    (∀ user res next, self.Step (.add user res) next →
      (res = 0 ∨ res = -1) ∧
        (res = -1 ↔ ∃ other, Held events user.name other)) ∧
    (∀ name res next, self.Step (.del name res) next →
      (res = 0 ∨ res = -1) ∧ (res = -1 ↔ ¬∃ user, Held events name user)) ∧
    (∀ user, ∃ res next, self.Step (.add user res) next) ∧
    (∀ name, ∃ res next, self.Step (.del name res) next) ∧
    ∃ next, self.Step .clear next := by
  refine ⟨?_, ?_, ?_, self.add_returns, self.del_returns, ?_⟩
  · intro name user
    exact get_eq_some_iff_held run
  · exact fun _ _ _ => add_fails_iff_held run
  · exact fun _ _ _ => del_fails_iff_not_held run
  · obtain ⟨shapes, next, cleared⟩ := self.clear_returns
    exact ⟨next, shapes, cleared⟩

/-- A user that is added, deleted and added again with another password. -/
theorem is_finite_map_added_again :
    ∃ self, system.Run empty
        [.add ⟨[97], [1]⟩ 0, .del [97] 0, .add ⟨[97], [2]⟩ 0] self ∧
      self.get [97] = some ⟨[97], [2]⟩ := by
  let one : SearchTree.Tree HevSocks5User := .node .leaf ⟨[97], [1]⟩ .leaf
  let two : SearchTree.Tree HevSocks5User := .node .leaf ⟨[97], [2]⟩ .leaf
  have first : system.step empty (.add ⟨[97], [1]⟩ 0)
      ⟨one, List.pairwise_singleton _ _⟩ := Exists.intro one rfl
  have second : system.step ⟨one, List.pairwise_singleton _ _⟩ (.del [97] 0)
      empty := Exists.intro .leaf rfl
  have third : system.step empty (.add ⟨[97], [2]⟩ 0)
      ⟨two, List.pairwise_singleton _ _⟩ := Exists.intro two rfl
  have started : system.Run empty [] empty := .nil empty
  have run := ((started.snoc first).snoc second).snoc third
  refine ⟨_, run, ((is_finite_map run).1 _ _).mpr ⟨rfl, ?_⟩⟩
  exact ⟨[.add ⟨[97], [1]⟩ 0, .del [97] 0], [], rfl, List.not_mem_nil,
    List.not_mem_nil⟩

end HevSocks5Authenticator

end ProxyVPN
