/-
Module: ProxyVPN.App.ListedFavorites
Purpose: When every favorite is in the proxy list: which calls can take one out
  of it, and that no others do, over whole runs of calls and restarts.
Trusted boundary: that of MainViewModel.
Main exports: MainViewModel.FavoritesListed, MainViewModel.FavoritesStay,
  MainViewModel.started, MainViewModel.favorites_stay_listed,
  MainViewModel.favorite_cut_off
-/
import ProxyVPN.App.Favorites
import ProxyVPN.App.QuickCheck

namespace ProxyVPN.MainViewModel

open Kotlin Keyed Transition
open ViewModelScope (Passed mem_finalProxies)

/-- Every entry of `getFavorites` has one with its ip and port in the list. -/
def FavoritesListed (self : MainViewModel) : Prop :=
  ∀ fav ∈ self.getFavorites, self.Listed fav.address

/-- Only an item of the list is toggled. -/
def OnListed (self : MainViewModel) : Call → Prop
  | .toggleFavorite proxy => self.Listed proxy.address
  | _ => True

instance (self : MainViewModel) : ∀ call, Decidable (self.OnListed call)
  | .toggleFavorite proxy =>
      inferInstanceAs (Decidable (self.Listed proxy.address))
  | .restart | .addCustomProxy _ _ | .fetchProxies _ _ | .quickCheckProxies _ =>
      inferInstanceAs (Decidable True)

instance (current : List ProxyItem) (results : List Bool)
    (address : Text × Int) : Decidable (Passed current results address) :=
  inferInstanceAs (Decidable (∃ _ ∈ _, _ ∧ _))

/-- A call that takes no favorite out of the list.  A fetch that gets proxies
finds every favorite among the first fifty of the list; a quick check finds it
marked there, or it passes; and where the last favorite with the ip of the VLESS
worker is removed, the worker itself is listed. -/
def FavoritesStay (self : MainViewModel) : Call → Prop
  | .restart | .addCustomProxy _ _ => True
  | .toggleFavorite proxy => self.Favored proxy.address →
      (∀ fav ∈ self.getFavorites, fav.ip = vlessIp →
        fav.address = proxy.address) → self.Listed vlessItem.address
  | .fetchProxies forceRefresh infos =>
      infos.isSome = true → self.fetches forceRefresh = true →
        ∀ fav ∈ self.getFavorites,
          hasKey ProxyItem.address (self.proxies.take 50) fav.address = true
  | .quickCheckProxies results => ∀ fav ∈ self.getFavorites,
      ∃ item ∈ self.proxies, item.address = fav.address ∧
        (item.isFavorite = true ∨ Passed self.proxies results item.address)

instance (self : MainViewModel) : ∀ call, Decidable (self.FavoritesStay call)
  | .restart | .addCustomProxy _ _ => inferInstanceAs (Decidable True)
  | .toggleFavorite _ | .fetchProxies _ _ => inferInstanceAs (Decidable (_ → _))
  | .quickCheckProxies _ =>
      inferInstanceAs (Decidable (∀ fav ∈ self.getFavorites, _))

/-- The calls of an app that was started. -/
def started : System MainViewModel Call :=
  .ofExec (· = initial.restart) exec

/-! ## The calls -/

variable {self next : MainViewModel}

/-- Favorites are in the list whatever it is marked with. -/
theorem favoritesListed_iff :
    self.FavoritesListed ↔
      ∀ address, self.Favored address → self.Listed address := by
  constructor
  · intro listed address favored
    obtain ⟨fav, member, rfl⟩ := favored_iff.mp favored
    exact listed fav member
  · intro listed fav member
    exact listed fav.address (favored_iff.mpr ⟨fav, member, rfl⟩)

/-- What the merge of the favorites puts into the pool. -/
theorem hasKey_foldl_mergeFavorite {favs : List ProxyItem} :
    ∀ {merged : List ProxyItem} {address : Text × Int},
      Distinct ProxyItem.address merged →
      (hasKey ProxyItem.address merged address = true ∨
        ∃ fav ∈ favs, fav.address = address) →
      hasKey ProxyItem.address (favs.foldl mergeFavorite merged) address =
        true := by
  induction favs with
  | nil =>
      rintro merged address _ (known | ⟨_, member, _⟩)
      · exact known
      · cases member
  | cons fav rest inductionHypothesis =>
      intro merged address distinct known
      rw [List.foldl_cons]
      apply inductionHypothesis (distinct_mergeFavorite fav distinct)
      by_cases here : fav.address = address
      · left
        cases present : hasKey ProxyItem.address merged fav.address with
        | false =>
            rw [mergeFavorite_new present]
            exact hasKey_iff.mpr
              ⟨fav, List.mem_append_right _ List.mem_cons_self, here⟩
        | true =>
            rw [mergeFavorite_known distinct present]
            obtain ⟨item, member, same⟩ := hasKey_iff.mp present
            refine hasKey_iff.mpr ⟨_, List.mem_map_of_mem member, ?_⟩
            rw [if_pos same]
            exact same.trans here
      · rcases known with inMerged | ⟨other, member, same⟩
        · left
          obtain ⟨item, inside, rfl⟩ := hasKey_iff.mp inMerged
          exact hasKey_iff.mpr
            ⟨item, (mem_mergeFavorite_other distinct here).mpr inside, rfl⟩
        · right
          rcases List.mem_cons.mp member with rfl | later
          · exact absurd same here
          · exact ⟨other, later, same⟩

theorem Stored.restart_favoritesListed (stored : self.Stored) :
    self.restart.FavoritesListed := by
  intro fav member
  exact hasKey_foldl_mergeFavorite stored.pool (.inr ⟨fav, member, rfl⟩)

/-- A toggle changes no address of the list. -/
theorem listed_toggleFavorite (proxy : ProxyItem) {address : Text × Int} :
    (self.toggleFavorite proxy).Listed address ↔ self.Listed address := by
  have keeps (flag : Bool) (item : ProxyItem) : (if item.address = proxy.address
      then { item with isFavorite := flag } else item).address =
        item.address := by
    split <;> rfl
  rw [listed_iff, listed_iff]
  unfold toggleFavorite
  simp only [List.mem_map]
  constructor
  · rintro ⟨_, ⟨item, member, rfl⟩, rfl⟩
    exact ⟨item, member, (keeps _ item).symm⟩
  · rintro ⟨item, member, rfl⟩
    exact ⟨_, ⟨item, member, rfl⟩, keeps _ item⟩

theorem FavoritesListed.toggleFavorite_iff (listed : self.FavoritesListed)
    (stored : self.Stored) {proxy : ProxyItem}
    (onListed : self.Listed proxy.address) :
    (self.toggleFavorite proxy).FavoritesListed ↔
      self.FavoritesStay (.toggleFavorite proxy) := by
  rw [favoritesListed_iff] at listed
  rw [favoritesListed_iff]
  by_cases present : self.Favored proxy.address
  · constructor
    · intro after _ last
      apply (listed_toggleFavorite proxy).mp
      apply after
      exact (favored_toggle_removed stored present).mpr (.inr ⟨rfl, last⟩)
    · intro stays address favored
      apply (listed_toggleFavorite proxy).mpr
      rcases (favored_toggle_removed stored present).mp favored with
        ⟨old, _⟩ | ⟨rfl, last⟩
      · exact listed address old
      · exact stays present last
  · refine iff_of_true ?_ (fun favored => absurd favored present)
    intro address favored
    apply (listed_toggleFavorite proxy).mpr
    rcases (favored_toggle_added present).mp favored with old | rfl
    · exact listed address old
    · exact onListed

theorem FavoritesListed.addCustomProxy (listed : self.FavoritesListed)
    (ip : Text) (port : Int) : (self.addCustomProxy ip port).FavoritesListed := by
  rw [favoritesListed_iff] at listed ⊢
  intro address favored
  have grows : ∀ address, self.Listed address ∨ address = (ip, port) →
      (self.addCustomProxy ip port).Listed address := by
    intro address known
    by_cases here : self.Listed (ip, port)
    · have proxiesEq : (self.addCustomProxy ip port).proxies = self.proxies :=
        if_pos here
      unfold Listed
      rw [proxiesEq]
      rcases known with old | rfl
      · exact old
      · exact here
    · have proxiesEq : (self.addCustomProxy ip port).proxies =
          customProxy ip port :: self.proxies := if_neg here
      rw [listed_iff, proxiesEq]
      rcases known with old | rfl
      · obtain ⟨item, member, same⟩ := listed_iff.mp old
        exact ⟨item, List.mem_cons_of_mem _ member, same⟩
      · exact ⟨_, List.mem_cons_self, rfl⟩
  apply grows
  rcases favored_addCustomProxy.mp favored with old | same
  · exact .inl (listed address old)
  · exact .inr same

/-- A fetch keeps of the list its first fifty. -/
theorem listed_fetchFinish {address : Text × Int} (result : List ProxyItem)
    (listed : self.Listed address) :
    (self.fetchFinish result).Listed address ↔
      hasKey ProxyItem.address (self.proxies.take 50) address = true := by
  rw [← hasKey_take_addMissing 50 listed]
  exact Iff.rfl

theorem FavoritesListed.fetchProxies_iff (listed : self.FavoritesListed)
    (forceRefresh : Bool) (infos : Option (List ProxyInfo)) :
    (self.fetchProxies forceRefresh infos).FavoritesListed ↔
      self.FavoritesStay (.fetchProxies forceRefresh infos) := by
  cases infos with
  | none => exact iff_of_true listed nofun
  | some found =>
      by_cases fetches : self.fetches forceRefresh = true
      · have same : self.fetchProxies forceRefresh (some found) =
            self.fetchFinish (self.fetchResult found) := if_pos fetches
        rw [same]
        constructor
        · intro after _ _ fav member
          exact (listed_fetchFinish _ (listed fav member)).mp (after fav member)
        · intro stays fav member
          exact (listed_fetchFinish _ (listed fav member)).mpr
            (stays rfl fetches fav member)
      · have same : self.fetchProxies forceRefresh (some found) = self :=
          if_neg fetches
        rw [same]
        exact iff_of_true listed fun _ fetched => absurd fetched fetches

theorem FavoritesListed.quickCheckProxies_iff (listed : self.FavoritesListed)
    {results : List Bool}
    (taken : self.quickCheckProxies results = some next) :
    next.FavoritesListed ↔ self.FavoritesStay (.quickCheckProxies results) := by
  unfold quickCheckProxies at taken
  split at taken
  · next empty =>
      obtain ⟨fav, member, _⟩ := self.exists_vless
      have inside := listed fav member
      unfold Listed at inside
      rw [empty] at inside
      cases inside
  · obtain ⟨_, same⟩ := Option.ite_none_right_eq_some.mp taken
    cases same
    refine forall₂_congr fun fav _ => ?_
    rw [listed_iff]
    constructor
    · rintro ⟨item, member, same⟩
      obtain ⟨inside, stays⟩ := mem_finalProxies.mp member
      exact ⟨item, inside, same, stays⟩
    · rintro ⟨item, inside, same, stays⟩
      exact ⟨item, mem_finalProxies.mpr ⟨inside, stays⟩, same⟩

/-! ## Whole runs -/

/-- One call leaves every favorite in the list if and only if it is of the kinds
that do. -/
theorem FavoritesListed.exec_iff {call : Call} (listed : self.FavoritesListed)
    (stored : self.Stored) (onListed : self.OnListed call)
    (taken : self.exec call = some next) :
    next.FavoritesListed ↔ self.FavoritesStay call := by
  cases call with
  | restart =>
      cases taken
      exact iff_of_true stored.restart_favoritesListed trivial
  | toggleFavorite proxy =>
      cases taken
      exact listed.toggleFavorite_iff stored onListed
  | addCustomProxy ip port =>
      cases taken
      exact iff_of_true (listed.addCustomProxy ip port) trivial
  | fetchProxies forceRefresh infos =>
      cases taken
      exact listed.fetchProxies_iff forceRefresh infos
  | quickCheckProxies results => exact listed.quickCheckProxies_iff taken

theorem favoritesListed_invariant :
    Invariant (started.restrict fun self call =>
        self.OnListed call ∧ self.FavoritesStay call)
      (fun state => state.Stored ∧ state.FavoritesListed) where
  initial := by
    rintro state rfl
    have stored := stored_invariant.initial _ rfl
    exact ⟨stored.restart, stored.restart_favoritesListed⟩
  preserved := by
    rintro state call next ⟨stored, listed⟩ ⟨⟨onListed, stays⟩, taken⟩
    exact ⟨stored.exec taken,
      (listed.exec_iff stored onListed taken).mpr stays⟩

/-- In every run of a started app in which items of the list are toggled and no
call takes a favorite out of the list, every favorite is in it; and after such a
run any other call leaves one out. -/
theorem favorites_stay_listed (state : MainViewModel)
    (reached : (started.restrict fun self call =>
      self.OnListed call ∧ self.FavoritesStay call).Reachable state) :
    state.FavoritesListed ∧
      ∀ call next, state.OnListed call → state.exec call = some next →
        ¬state.FavoritesStay call → ¬next.FavoritesListed := by
  obtain ⟨stored, listed⟩ := favoritesListed_invariant.reachable reached
  refine ⟨listed, ?_⟩
  intro call next onListed taken leaves after
  exact leaves ((listed.exec_iff stored onListed taken).mp after)

/-! ## Runs -/

/-- A favorite is added, found again and fails its test. -/
theorem favorites_stay_listed_failing :
    ∃ state, (started.restrict fun self call =>
        self.OnListed call ∧ self.FavoritesStay call).Reachable state ∧
      state.proxies.map ProxyItem.address =
        [("10.0.0.1".toList, 1080), (vlessIp, 443)] ∧
      state.FavoritesListed := by
  let custom := customProxy "10.0.0.1".toList 1080
  let calls : List Call :=
    [.addCustomProxy custom.ip 1080,
      .fetchProxies true (some [{ host := "10.0.0.2".toList, port := 1080 }]),
      .quickCheckProxies [false, false, false]]
  have replayed : (calls.foldlM (fun (state : MainViewModel) call =>
      if state.OnListed call ∧ state.FavoritesStay call then exec state call
      else none) initial.restart).map (fun (state : MainViewModel) =>
        state.proxies.map ProxyItem.address) =
        some [("10.0.0.1".toList, 1080), (vlessIp, 443)] := by
    decide +kernel
  obtain ⟨state, taken, seen⟩ := System.replay_restrict _ replayed
  have reached : (started.restrict fun self call =>
      self.OnListed call ∧ self.FavoritesStay call).Reachable state :=
    ⟨initial.restart, calls, rfl, taken⟩
  exact ⟨state, reached, seen, (favorites_stay_listed state reached).1⟩

/-- Sixty proxies of one host. -/
def sixty : List ProxyInfo :=
  (List.range 60).map fun port => { host := ['h'], port := port + 1 }

/-- A proxy is added in front of fifty others, the last of them marked as a
favorite, and the next fetch cuts it off. -/
theorem favorite_cut_off :
    ¬∀ state, (started.restrict OnListed).Reachable state →
      state.FavoritesListed := by
  intro always
  let last : ProxyItem := { ip := ['h'], port := 49 }
  let calls : List Call :=
    [.fetchProxies true (some sixty), .addCustomProxy ['c'] 1,
      .toggleFavorite last, .fetchProxies true (some [])]
  have replayed : (calls.foldlM (fun (state : MainViewModel) call =>
      if state.OnListed call then exec state call else none)
        initial.restart).map (fun state =>
          (decide (state.Favored last.address),
            decide (state.Listed last.address))) = some (true, false) := by
    decide +kernel
  obtain ⟨state, taken, seen⟩ := System.replay_restrict _ replayed
  obtain ⟨favored, cutOff⟩ := Prod.mk.inj seen
  have listed := favoritesListed_iff.mp
    (always state ⟨initial.restart, calls, rfl, taken⟩) last.address
    (of_decide_eq_true favored)
  exact of_decide_eq_false cutOff listed

end ProxyVPN.MainViewModel
