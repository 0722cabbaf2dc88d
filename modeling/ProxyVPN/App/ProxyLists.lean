/-
Module: ProxyVPN.App.ProxyLists
Purpose: No address occurs twice in the proxy list, in the stored pool or among
  the favorites, in whatever order calls, restarts and suspended fetches and
  quick checks follow each other.
Trusted boundary: none
Main exports: ProxyLists.NoDuplicates, ProxyLists.no_duplicate_proxies
-/
import ProxyVPN.App.Favorites

namespace ProxyVPN

open Kotlin Keyed Transition MainViewModel

namespace ProxyLists

/-! ## Distinct addresses -/

/-- The lists are as every call keeps them, and no address occurs twice in a
snapshot. -/
structure NoDuplicates (state : ProxyLists) : Prop where
  stored : state.model.Stored
  snapshots : ∀ current ∈ state.quickChecks,
    Distinct ProxyItem.address current

theorem NoDuplicates.fetchProxies {state : ProxyLists}
    (holds : state.NoDuplicates) (forceRefresh : Bool) :
    (state.fetchProxies forceRefresh).NoDuplicates := by
  unfold ProxyLists.fetchProxies
  split
  · exact ⟨holds.stored, holds.snapshots⟩
  · exact holds

theorem NoDuplicates.quickCheckProxies {state : ProxyLists}
    (holds : state.NoDuplicates) :
    state.quickCheckProxies.NoDuplicates := by
  unfold ProxyLists.quickCheckProxies
  split
  · exact holds
  · refine ⟨holds.stored, ?_⟩
    intro current member
    rcases List.mem_append.mp member with old | new
    · exact holds.snapshots current old
    · rw [List.mem_singleton.mp new]
      exact holds.stored.proxies

theorem NoDuplicates.restart {state : ProxyLists}
    (holds : state.NoDuplicates) : state.restart.NoDuplicates := by
  have started : NoDuplicates
      { model := state.model.restart, fetches := [], quickChecks := [] } :=
    ⟨holds.stored.restart, nofun⟩
  unfold ProxyLists.restart
  simp only
  split
  · exact started.fetchProxies true
  · exact started.quickCheckProxies

/-- A snapshot that is used up leaves the others. -/
theorem NoDuplicates.eraseIdx {state : ProxyLists}
    (holds : state.NoDuplicates) (index : Nat) :
    ∀ current ∈ state.quickChecks.eraseIdx index,
      Distinct ProxyItem.address current :=
  fun current member => holds.snapshots current (List.mem_of_mem_eraseIdx member)

theorem NoDuplicates.quickCheckResume {state next : ProxyLists} {index : Nat}
    {results : List Bool} (holds : state.NoDuplicates)
    (taken : state.quickCheckResume index results = some next) :
    next.NoDuplicates := by
  unfold ProxyLists.quickCheckResume at taken
  split at taken
  case h_1 current snapshot =>
    obtain ⟨_, finishes⟩ := Option.ite_none_right_eq_some.mp taken
    have distinct := holds.snapshots current (List.mem_of_getElem? snapshot)
    have finished : NoDuplicates
        { state with
          model := state.model.quickCheckFinish current results
          quickChecks := state.quickChecks.eraseIdx index } :=
      ⟨holds.stored.quickCheckFinish distinct results, holds.eraseIdx index⟩
    rw [← Option.some.inj finishes]
    split
    · exact finished.fetchProxies true
    · exact finished
  case h_2 => cases taken

theorem NoDuplicates.step {state next : ProxyLists} {label : Label}
    (holds : state.NoDuplicates) (taken : exec state label = some next) :
    next.NoDuplicates := by
  cases label with
  | restart =>
      cases taken
      exact holds.restart
  | toggleFavorite proxy =>
      cases taken
      exact ⟨holds.stored.toggleFavorite proxy, holds.snapshots⟩
  | addCustomProxy ip port =>
      cases taken
      exact ⟨holds.stored.addCustomProxy ip port, holds.snapshots⟩
  | fetchProxies forceRefresh =>
      cases taken
      exact holds.fetchProxies forceRefresh
  | fetchRead index infos | fetchThrows index =>
      obtain ⟨_, ⟨⟩⟩ := Option.ite_none_right_eq_some.mp taken
      exact ⟨holds.stored, holds.snapshots⟩
  | fetchResume index =>
      change state.fetchResume index = some next at taken
      unfold fetchResume at taken
      split at taken
      · cases taken
        exact ⟨holds.stored.fetchFinish _, holds.snapshots⟩
      · cases taken
  | quickCheckProxies =>
      cases taken
      exact holds.quickCheckProxies
  | quickCheckResume index results => exact holds.quickCheckResume taken
  | quickCheckThrows index =>
      obtain ⟨_, ⟨⟩⟩ := Option.ite_none_right_eq_some.mp taken
      exact ⟨holds.stored, holds.eraseIdx index⟩

theorem noDuplicates_invariant : Invariant system NoDuplicates where
  initial := by
    rintro state rfl
    refine ⟨⟨List.nodup_nil, nofun, List.nodup_nil, List.nodup_nil⟩, nofun⟩
  preserved := fun _ _ _ holds taken => holds.step taken

/-- A fetch that goes through leaves a list of at most fifty. -/
theorem length_fetchResume {state next : ProxyLists} {index : Nat}
    (taken : exec state (.fetchResume index) = some next) :
    next.model.proxies.length ≤ 50 := by
  change state.fetchResume index = some next at taken
  unfold fetchResume at taken
  split at taken
  · cases taken
    exact List.length_take_le _ _
  · cases taken

/-- In every reachable state no two entries of the list, of the stored pool or
of the favorites have the same ip and port, and a fetch that goes through leaves
a list of at most fifty. -/
theorem no_duplicate_proxies (state : ProxyLists)
    (reached : system.Reachable state) :
    Distinct ProxyItem.address state.model.proxies ∧
      Distinct ProxyItem.address state.model.proxyPool ∧
      Distinct ProxyItem.address state.model.getFavorites ∧
      ∀ index next, exec state (.fetchResume index) = some next →
        next.model.proxies.length ≤ 50 := by
  obtain ⟨stored, _⟩ := noDuplicates_invariant.reachable reached
  exact ⟨stored.proxies, stored.pool, stored.getFavorites_distinct,
    fun _ _ => length_fetchResume⟩

/-- A proxy that is scraped twice, and added by hand while the fetch runs. -/
def scraped : ProxyInfo :=
  { host := "1.2.3.4".toList, port := 1080 }

/-- It is in the list once, behind the worker. -/
theorem distinct_scrapedTwice :
    ∃ state, system.Reachable state ∧ state.model.proxies.length = 2 ∧
      Distinct ProxyItem.address state.model.proxies ∧
      Distinct ProxyItem.address state.model.proxyPool ∧
      Distinct ProxyItem.address state.model.getFavorites ∧
      ∀ index next, exec state (.fetchResume index) = some next →
        next.model.proxies.length ≤ 50 := by
  have replayed : ([Label.restart, .fetchRead 0 [scraped, scraped],
      .addCustomProxy scraped.host scraped.port, .fetchResume 0].foldlM exec
        initial).map (fun state => state.model.proxies.length) = some 2 := by
    decide +kernel
  obtain ⟨state, run, seen⟩ := System.replay _ replayed
  have reached : system.Reachable state := ⟨initial, _, rfl, run⟩
  exact ⟨state, reached, seen, no_duplicate_proxies state reached⟩

end ProxyLists

end ProxyVPN
