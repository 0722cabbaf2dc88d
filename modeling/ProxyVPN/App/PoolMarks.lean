/-
Module: ProxyVPN.App.PoolMarks
Purpose: The marks of the saved pool: which calls leave a mark there that the
  favorites no longer bear out, and which put that right, so that what a restart
  needs of the pool is told by the calls before it.
Trusted boundary: none
Main exports: MainViewModel.Outdated, MainViewModel.Outdates,
  MainViewModel.Renews, MainViewModel.outdated_exec_iff,
  MainViewModel.outdated_iff_of_run, MainViewModel.restart_kept_iff_of_run
-/
import ProxyVPN.App.Favorites

namespace ProxyVPN.MainViewModel

open Kotlin Keyed Transition

variable {self next : MainViewModel}

/-- The saved pool has a marked item with the address. -/
def PoolMarked (self : MainViewModel) (address : Text × Int) : Prop :=
  ∃ item ∈ self.proxyPool, item.address = address ∧ item.isFavorite = true

/-- The saved pool marks an address that is no favorite. -/
def Outdated (self : MainViewModel) (address : Text × Int) : Prop :=
  self.PoolMarked address ∧ ¬self.Favored address

/-- Removing the favorite brings the VLESS worker back: no other favorite has its
ip. -/
def BringsVless (self : MainViewModel) (proxy : ProxyItem) : Prop :=
  self.Favored proxy.address ∧
    ∀ fav ∈ self.getFavorites, fav.ip = vlessIp → fav.address = proxy.address

/-- The call takes from the favorites an address that the saved pool marks. -/
def Outdates (address : Text × Int) (self : MainViewModel) : Call → Prop
  | .toggleFavorite proxy =>
      proxy.address = address ∧ self.Favored address ∧ self.PoolMarked address ∧
        ¬(address = vlessItem.address ∧ self.BringsVless proxy)
  | _ => False

/-- The call makes the address a favorite, or saves the pool. -/
def Renews (address : Text × Int) (self : MainViewModel) : Call → Prop
  | .restart => False
  | .toggleFavorite proxy =>
      proxy.address = address ∨ address = vlessItem.address ∧ self.BringsVless proxy
  | .addCustomProxy ip port => (ip, port) = address
  | .fetchProxies forceRefresh infos =>
      self.fetches forceRefresh = true ∧ infos.isSome = true
  | .quickCheckProxies _ => self.proxies ≠ []

/-- What a restart needs of the pool. -/
theorem restart_kept_iff :
    self.FlagsKept .restart ↔ ∀ address, ¬self.Outdated address := by
  constructor
  · rintro kept address ⟨⟨item, pooled, rfl, marked⟩, notFav⟩
    exact notFav (kept item pooled marked)
  · intro current item pooled marked
    by_contra notFav
    exact current item.address ⟨⟨item, pooled, rfl, marked⟩, notFav⟩

/-- A pool that was just saved has no mark that is out of date. -/
theorem FlagsAgree.not_outdated (agree : self.FlagsAgree)
    (saved : self.proxyPool = self.proxies) (address : Text × Int) :
    ¬self.Outdated address := by
  rintro ⟨⟨item, pooled, rfl, marked⟩, notFav⟩
  rw [saved] at pooled
  exact notFav ((agree item pooled).mp marked)

/-- A toggle turns its own address over; the VLESS worker may come back besides. -/
theorem favored_toggleFavorite_iff (stored : self.Stored) (proxy : ProxyItem)
    (address : Text × Int) :
    (self.toggleFavorite proxy).Favored address ↔
      (if proxy.address = address then ¬self.Favored address
        else self.Favored address) ∨
      address = vlessItem.address ∧ self.BringsVless proxy := by
  unfold BringsVless
  by_cases present : self.Favored proxy.address
  · rw [favored_toggle_removed stored present, and_iff_right present]
    refine or_congr_left ?_
    split
    case isTrue here =>
      exact iff_of_false (fun stays => stays.2 here.symm) (not_not_intro (here ▸ present))
    case isFalse other => exact and_iff_left (Ne.symm other)
  · rw [favored_toggle_added present, iff_false_intro present, false_and, and_false,
      or_false]
    split
    case isTrue here => exact iff_of_true (.inr here.symm) (here ▸ present)
    case isFalse other => exact or_iff_left (Ne.symm other)

/-- A toggle leaves a mark out of date where it removes a marked favorite, and
puts it right where it adds the favorite. -/
theorem outdated_toggleFavorite_iff (stored : self.Stored) (proxy : ProxyItem)
    (address : Text × Int) :
    (self.toggleFavorite proxy).Outdated address ↔
      self.Outdates address (.toggleFavorite proxy) ∨
        self.Outdated address ∧ ¬self.Renews address (.toggleFavorite proxy) := by
  change self.PoolMarked address ∧ ¬(self.toggleFavorite proxy).Favored address ↔
    (proxy.address = address ∧ self.Favored address ∧ self.PoolMarked address ∧
        ¬(address = vlessItem.address ∧ self.BringsVless proxy)) ∨
      (self.PoolMarked address ∧ ¬self.Favored address) ∧
        ¬(proxy.address = address ∨
          address = vlessItem.address ∧ self.BringsVless proxy)
  rw [favored_toggleFavorite_iff stored]
  by_cases here : proxy.address = address
  · rw [if_pos here]
    tauto
  · rw [if_neg here]
    tauto

/-- Which calls leave a mark in the saved pool that is out of date: those that
remove a favorite marked there.  It stays until its address is a favorite again
or the pool is saved. -/
theorem outdated_exec_iff (stored : self.Stored) (agree : self.FlagsAgree)
    {call : Call} (taken : self.exec call = some next) (address : Text × Int) :
    next.Outdated address ↔
      self.Outdates address call ∨ self.Outdated address ∧ ¬self.Renews address call := by
  cases call with
  | restart =>
      cases taken
      change self.Outdated address ↔ False ∨ self.Outdated address ∧ ¬False
      rw [false_or, not_false_eq_true, and_true]
  | toggleFavorite proxy =>
      cases taken
      exact outdated_toggleFavorite_iff stored proxy address
  | addCustomProxy ip port =>
      cases taken
      change self.PoolMarked address ∧ ¬(self.addCustomProxy ip port).Favored address ↔
        False ∨ (self.PoolMarked address ∧ ¬self.Favored address) ∧ ¬(ip, port) = address
      rw [favored_addCustomProxy, false_or, not_or, and_assoc, @eq_comm _ address]
  | fetchProxies forceRefresh infos =>
      cases taken
      change (self.fetchProxies forceRefresh infos).Outdated address ↔
        False ∨ self.Outdated address ∧
          ¬(self.fetches forceRefresh = true ∧ infos.isSome = true)
      rw [false_or]
      by_cases saves : self.fetches forceRefresh = true ∧ infos.isSome = true
      · obtain ⟨found, rfl⟩ := Option.isSome_iff_exists.mp saves.2
        have fetched : self.fetchProxies forceRefresh (some found) =
            self.fetchFinish (self.fetchResult found) := if_pos saves.1
        rw [fetched]
        exact iff_of_false ((agree.fetchFinish stored found).not_outdated rfl address)
          fun left => left.2 saves
      · rw [and_iff_left saves]
        cases infos with
        | none => rfl
        | some found =>
            have unchanged : self.fetchProxies forceRefresh (some found) = self :=
              if_neg fun fetches => saves ⟨fetches, rfl⟩
            rw [unchanged]
  | quickCheckProxies results =>
      change self.quickCheckProxies results = some next at taken
      change next.Outdated address ↔ False ∨ self.Outdated address ∧ ¬self.proxies ≠ []
      rw [false_or]
      unfold quickCheckProxies at taken
      split at taken
      case isTrue empty =>
        cases taken
        rw [and_iff_left (not_not_intro empty)]
      case isFalse listed =>
        obtain ⟨_, ⟨⟩⟩ := Option.ite_none_right_eq_some.mp taken
        exact iff_of_false ((agree.quickCheckFinish results).not_outdated rfl address)
          fun left => left.2 listed

/-- In a run whose calls keep the flags, a mark of the saved pool is out of date
exactly where a call has removed the favorite and no call since has added it
again or saved the pool. -/
theorem outdated_iff_of_run {state : MainViewModel} {calls : List Call}
    (taken : (system.restrict FlagsKept).Run initial calls state)
    (address : Text × Int) :
    state.Outdated address ↔
      (system.restrict FlagsKept).Since (Outdates address) (Renews address) initial calls
        state := by
  have fresh : ¬initial.Outdated address := by
    rintro ⟨⟨item, pooled, _⟩, _⟩
    exact List.not_mem_nil pooled
  have law (before : MainViewModel) (call : Call) (after : MainViewModel)
      (holds : before.Stored ∧ before.FlagsAgree)
      (step : (system.restrict FlagsKept).step before call after) :
      (fun state : MainViewModel => state.Outdated address) after ↔
        Outdates address before call ∨ before.Outdated address ∧
          ¬Renews address before call :=
    outdated_exec_iff holds.1 holds.2 step.2 address
  exact System.Run.flag_iff flagsAgree_invariant law
    (flagsAgree_invariant.initial _ rfl) fresh taken

/-- A restart after such a run keeps the flags exactly where no removal of a
favorite from a saved pool is left open. -/
theorem restart_kept_iff_of_run {state : MainViewModel} {calls : List Call}
    (taken : (system.restrict FlagsKept).Run initial calls state) :
    state.FlagsKept .restart ↔
      ∀ address, ¬(system.restrict FlagsKept).Since (Outdates address) (Renews address)
        initial calls state := by
  rw [restart_kept_iff]
  exact forall_congr' fun address => not_congr (outdated_iff_of_run taken address)

end ProxyVPN.MainViewModel
