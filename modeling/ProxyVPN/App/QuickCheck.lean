/-
Module: ProxyVPN.App.QuickCheck
Purpose: What the quick check does to the updates that come while its tests are
  suspended: it writes the list from its snapshot, so an update is kept only
  where the snapshot says the same.
Trusted boundary: none
Main exports: ViewModelScope.UpdatesKept, ViewModelScope.UpdatesInSnapshot,
  ViewModelScope.reachable_lists, ViewModelScope.quick_check_keeps_updates_iff
-/
import ProxyVPN.App.MainViewModel

namespace ProxyVPN.ViewModelScope

open Kotlin Keyed Transition MainViewModel

/-- Every item that was added since the snapshot was taken is in the list and
in the pool after the quick check, and every flag that was changed has its new
value there. -/
def UpdatesKept (before after : ViewModelScope) : Prop :=
  ∀ list ∈ [after.model.proxies, after.model.proxyPool],
    (∀ address ∈ before.added, ∃ item ∈ list, item.address = address) ∧
    ∀ change ∈ before.changed, ∃ item ∈ list,
      item.address = change.1 ∧ item.isFavorite = change.2

/-- A test of the address in the snapshot has passed. -/
def Passed (current : List ProxyItem) (results : List Bool)
    (address : Text × Int) : Prop :=
  ∃ tested ∈ current.zip results,
    tested.1.address = address ∧ tested.2 = true

/-- The updates say nothing that the snapshot does not say: what was added is
in it, and what was changed has in it the value it was changed to, in both
cases as a favorite or as a proxy that passed. -/
structure UpdatesInSnapshot (state : ViewModelScope) (current : List ProxyItem)
    (results : List Bool) : Prop where
  added : ∀ address ∈ state.added, ∃ old ∈ current, old.address = address ∧
    (old.isFavorite = true ∨ Passed current results address)
  changed : ∀ change ∈ state.changed, ∃ old ∈ current,
    old.address = change.1 ∧ old.isFavorite = change.2 ∧
      (old.isFavorite = true ∨ Passed current results change.1)

theorem mem_finalProxies {current : List ProxyItem} {results : List Bool}
    {item : ProxyItem} :
    item ∈ finalProxies current results ↔
      item ∈ current ∧
        (item.isFavorite = true ∨ Passed current results item.address) := by
  unfold finalProxies
  dsimp only
  rw [List.mem_filter, Bool.or_eq_true, hasKey_iff]
  have passed : (∃ element ∈ (current.zip results).filterMap
      (fun tested => if tested.2 = true then some tested.1 else none),
        element.address = item.address) ↔
          Passed current results item.address := by
    constructor
    · rintro ⟨element, member, same⟩
      obtain ⟨tested, inside, kept⟩ := List.mem_filterMap.mp member
      obtain ⟨ok, ⟨⟩⟩ := Option.ite_none_right_eq_some.mp kept
      exact ⟨tested, inside, same, ok⟩
    · rintro ⟨tested, inside, same, ok⟩
      exact ⟨tested.1, List.mem_filterMap.mpr ⟨tested, inside, if_pos ok⟩,
        same⟩
  rw [← passed]

/-! ## What a step does to the lists -/

/-- Where a fetch is called, only the fetches grow. -/
theorem fetchProxies_same (lists : ProxyLists) (forceRefresh : Bool) :
    (lists.fetchProxies forceRefresh).model = lists.model ∧
      (lists.fetchProxies forceRefresh).quickChecks = lists.quickChecks := by
  unfold ProxyLists.fetchProxies
  split
  · exact ⟨rfl, rfl⟩
  · exact ⟨rfl, rfl⟩

/-- A quick check that ends writes what is left of its snapshot. -/
theorem quickCheckResume_spec {lists next : ProxyLists} {index : Nat}
    {results : List Bool}
    (finishes : lists.quickCheckResume index results = some next) :
    ∃ current, lists.quickChecks[index]? = some current ∧
      next.model = lists.model.quickCheckFinish current results ∧
      next.quickChecks = lists.quickChecks.eraseIdx index := by
  unfold ProxyLists.quickCheckResume at finishes
  split at finishes
  case h_1 current running =>
    obtain ⟨_, ended⟩ := Option.ite_none_right_eq_some.mp finishes
    refine ⟨current, running, ?_⟩
    rw [← Option.some.inj ended]
    split
    · exact fetchProxies_same _ true
    · exact ⟨rfl, rfl⟩
  case h_2 => cases finishes

/-- The `init` block starts at most one quick check, of the list it leaves. -/
theorem restart_quickChecks (lists : ProxyLists) :
    lists.restart.quickChecks = [] ∨
      lists.restart.quickChecks = [lists.restart.model.proxies] := by
  unfold ProxyLists.restart
  dsimp only
  split
  · left
    exact (fetchProxies_same _ true).2
  · unfold ProxyLists.quickCheckProxies
    split
    · exact .inl rfl
    · exact .inr rfl

/-- The list and the pool after the tests have ended. -/
theorem quickCheckResume_lists {state next : ViewModelScope}
    {current : List ProxyItem} {results : List Bool}
    (running : state.quickCheck = some current)
    (finishes : exec state (.quickCheckResume results) = some next) :
    next.model.proxies = finalProxies current results ∧
      next.model.proxyPool = finalProxies current results := by
  obtain ⟨lists, ended, rfl⟩ := Option.map_eq_some_iff.mp finishes
  obtain ⟨snapshot, isRunning, model, _⟩ := quickCheckResume_spec ended
  cases isRunning.symm.trans running
  change lists.model.proxies = _ ∧ lists.model.proxyPool = _
  rw [model]
  exact ⟨rfl, rfl⟩

/-! ## What is noted of the calls -/

/-- There is at most one quick check, and whatever the list has beyond its
snapshot was noted. -/
structure Noted (state : ViewModelScope) : Prop where
  one : state.quickChecks.length ≤ 1
  items : ∀ current ∈ state.quickChecks, ∀ item ∈ state.model.proxies,
    hasKey ProxyItem.address current item.address = true ∨
      item.address ∈ state.added

theorem Noted.note {state : ViewModelScope} (noted : state.Noted)
    {lists : ProxyLists} (same : lists.quickChecks = state.quickChecks) :
    (state.note lists).Noted := by
  refine ⟨same ▸ noted.one, ?_⟩
  intro current running item member
  cases known : hasKey ProxyItem.address state.model.proxies item.address with
  | true =>
      obtain ⟨old, inside, address⟩ := hasKey_iff.mp known
      rcases noted.items current (same ▸ running) old inside with snapshot | added
      · exact .inl (address ▸ snapshot)
      · exact .inr (List.mem_append_left _ (address ▸ added))
  | false =>
      right
      apply List.mem_append_right
      apply List.mem_map.mpr
      refine ⟨item, List.mem_filter.mpr ⟨member, ?_⟩, rfl⟩
      rw [known]
      rfl

/-- A step that leaves the list, the snapshot and the notes alone. -/
theorem Noted.of_same {state : ViewModelScope} (noted : state.Noted)
    {lists : ProxyLists} (model : lists.model = state.model)
    (quickChecks : lists.quickChecks = state.quickChecks) :
    Noted { state with toProxyLists := lists } := by
  refine ⟨quickChecks ▸ noted.one, ?_⟩
  intro current running item member
  exact noted.items current (quickChecks ▸ running) item (model ▸ member)

/-- A step that ends the quick check. -/
theorem Noted.of_ended {state : ViewModelScope} (noted : state.Noted)
    {lists : ProxyLists} (ended : lists.quickChecks = state.quickChecks.eraseIdx 0) :
    Noted { state with toProxyLists := lists } := by
  have none : lists.quickChecks = [] := by
    apply List.eq_nil_of_length_eq_zero
    rw [ended, List.eraseIdx_zero, List.length_tail]
    exact Nat.sub_eq_zero_of_le noted.one
  constructor
  · change lists.quickChecks.length ≤ 1
    rw [none]
    exact Nat.zero_le 1
  · intro current running
    change current ∈ lists.quickChecks at running
    rw [none] at running
    cases running

theorem Noted.step {state next : ViewModelScope} {label : Label}
    (noted : state.Noted) (taken : exec state label = some next) :
    next.Noted := by
  obtain ⟨lists, step, rfl⟩ := Option.map_eq_some_iff.mp taken
  cases label with
  | restart =>
      cases step
      constructor
      · change state.restart.quickChecks.length ≤ 1
        rcases restart_quickChecks state.toProxyLists with none | one
        · exact none ▸ Nat.zero_le 1
        · exact one ▸ Nat.le_refl 1
      · intro current running item member
        rcases restart_quickChecks state.toProxyLists with none | one
        · change current ∈ state.restart.quickChecks at running
          rw [none] at running
          cases running
        · change current ∈ state.restart.quickChecks at running
          rw [one] at running
          cases List.mem_singleton.mp running
          exact .inl (hasKey_iff.mpr ⟨item, member, rfl⟩)
  | toggleFavorite proxy | addCustomProxy ip port =>
      cases step
      exact noted.note rfl
  | fetchCall forceRefresh =>
      cases step
      obtain ⟨model, quickChecks⟩ := fetchProxies_same state.toProxyLists forceRefresh
      exact noted.of_same model quickChecks
  | fetchRead index infos | fetchThrows index =>
      obtain ⟨_, ⟨⟩⟩ := Option.ite_none_right_eq_some.mp step
      exact noted.of_same rfl rfl
  | fetchResume index =>
      change state.fetchResume index = some lists at step
      unfold ProxyLists.fetchResume at step
      split at step
      · cases step
        exact noted.note rfl
      · cases step
  | quickCheckResume results =>
      obtain ⟨_, _, _, ended⟩ := quickCheckResume_spec step
      exact noted.of_ended ended
  | quickCheckThrows =>
      obtain ⟨_, ⟨⟩⟩ := Option.ite_none_right_eq_some.mp step
      exact noted.of_ended rfl

theorem noted_invariant : Invariant system Noted where
  initial := by
    rintro state rfl
    exact ⟨Nat.zero_le 1, fun current running => absurd running List.not_mem_nil⟩
  preserved := fun _ _ _ noted taken => noted.step taken

/-- What a process can reach is reached where quick checks may start at any time.
-/
theorem reachable_lists {state : ViewModelScope} (reached : system.Reachable state) :
    ProxyLists.system.Reachable state.toProxyLists := by
  have simulated : Invariant system
      fun state => ProxyLists.system.Reachable state.toProxyLists := by
    constructor
    · rintro state rfl
      exact ⟨.initial, [], rfl, .nil _⟩
    · intro before label last reachedBefore taken
      obtain ⟨lists, step, rfl⟩ := Option.map_eq_some_iff.mp taken
      have same : (before.after lists label).toProxyLists = lists := by
        cases label <;> rfl
      rw [same]
      exact reachedBefore.step step
  exact simulated.reachable reached

/-! ## Updates during the quick check -/

/-- However calls and fetches came between the snapshot and the end of the
quick check, their updates are kept if and only if the snapshot says the same;
in particular, any item that the list has and the snapshot has not is lost. -/
theorem quick_check_keeps_updates_iff (state next : ViewModelScope)
    (current : List ProxyItem) (results : List Bool)
    (reached : system.Reachable state)
    (running : state.quickCheck = some current)
    (finishes : exec state (.quickCheckResume results) = some next) :
    (UpdatesKept state next ↔ UpdatesInSnapshot state current results) ∧
    ∀ item ∈ state.model.proxies,
      hasKey ProxyItem.address current item.address = false →
        ¬UpdatesKept state next := by
  obtain ⟨proxies, pool⟩ := quickCheckResume_lists running finishes
  have kept : UpdatesKept state next ↔
      UpdatesInSnapshot state current results := by
    constructor
    · intro updates
      obtain ⟨added, changed⟩ := updates _ List.mem_cons_self
      rw [proxies] at added changed
      constructor
      · intro address member
        obtain ⟨item, inside, same⟩ := added address member
        obtain ⟨old, stays⟩ := mem_finalProxies.mp inside
        exact ⟨item, old, same, same ▸ stays⟩
      · intro change member
        obtain ⟨item, inside, same, flag⟩ := changed change member
        obtain ⟨old, stays⟩ := mem_finalProxies.mp inside
        exact ⟨item, old, same, flag, same ▸ stays⟩
    · intro updates list listed
      have final : list = finalProxies current results := by
        rcases List.mem_cons.mp listed with rfl | listed
        · exact proxies
        · rw [List.mem_singleton.mp listed]
          exact pool
      rw [final]
      constructor
      · intro address member
        obtain ⟨old, inside, same, stays⟩ := updates.added address member
        exact ⟨old, mem_finalProxies.mpr ⟨inside, same ▸ stays⟩, same⟩
      · intro change member
        obtain ⟨old, inside, same, flag, stays⟩ := updates.changed change member
        exact ⟨old, mem_finalProxies.mpr ⟨inside, same ▸ stays⟩, same, flag⟩
  refine ⟨kept, ?_⟩
  intro item member missing updates
  have noted := noted_invariant.reachable reached
  rcases noted.items current (List.mem_of_getElem? running) item member with
    snapshot | added
  · rw [missing] at snapshot
    cases snapshot
  · obtain ⟨old, inside, same, _⟩ := (kept.mp updates).added _ added
    exact hasKey_eq_false_iff.mp missing old inside same

/-- A proxy that is found, and is in the snapshot of the next start. -/
def found : ProxyItem :=
  customProxy "10.0.0.1".toList 1080

/-- A first start that finds one proxy, and a second one. -/
def started : List Label :=
  [.restart, .fetchRead 0 [{ host := found.ip, port := 1080 }], .fetchResume 0,
    .restart]

/-- The snapshot of the second start. -/
def snapshot : List ProxyItem :=
  [vlessItem, { ip := found.ip, port := 1080, ping := 99000 }]

theorem run_of_started (labels : List Label)
    (changed : List ((Text × Int) × Bool))
    (replayed : ((started ++ labels).foldlM exec initial).map (fun state =>
      (decide (state.quickCheck = some snapshot), decide (state.added = []),
        decide (state.changed = changed))) = some (true, true, true)) :
    ∃ state, system.Reachable state ∧ state.quickCheck = some snapshot ∧
      state.added = [] ∧ state.changed = changed := by
  obtain ⟨state, taken, seen⟩ := System.replay _ replayed
  simp only [Prod.mk.injEq, decide_eq_true_eq] at seen
  exact ⟨state, ⟨initial, _, rfl, taken⟩, seen⟩

theorem exists_quickCheckResume {state : ViewModelScope}
    (running : state.quickCheck = some snapshot) :
    ∃ next, exec state (.quickCheckResume [true, true]) = some next := by
  have finishes : ∃ lists,
      state.toProxyLists.quickCheckResume 0 [true, true] = some lists := by
    unfold ProxyLists.quickCheckResume
    rw [show state.quickChecks[0]? = some snapshot from running]
    exact ⟨_, if_pos rfl⟩
  obtain ⟨lists, ended⟩ := finishes
  exact ⟨_, congrArg (Option.map _) ended⟩

/-- A favorite that is removed again before the tests end. -/
theorem toggle_twice_is_kept :
    ∃ state next, system.Reachable state ∧
      exec state (.quickCheckResume [true, true]) = some next ∧
      state.changed = [(found.address, false)] ∧ UpdatesKept state next := by
  obtain ⟨state, reached, running, added, changed⟩ :=
    run_of_started [.toggleFavorite found, .toggleFavorite found]
      [(found.address, false)] (by decide +kernel)
  obtain ⟨next, finishes⟩ := exists_quickCheckResume running
  refine ⟨state, next, reached, finishes, changed, ?_⟩
  apply (quick_check_keeps_updates_iff state next snapshot [true, true] reached
    running finishes).1.mpr
  constructor
  · rw [added]
    exact nofun
  · rw [changed]
    intro change member
    rw [List.mem_singleton.mp member]
    refine ⟨_, List.mem_cons_of_mem _ List.mem_cons_self, rfl, rfl, .inr ?_⟩
    exact ⟨_, List.mem_cons_of_mem _ List.mem_cons_self, rfl, rfl⟩

/-- A favorite that is added while the tests run is lost. -/
theorem toggle_is_lost :
    ¬∀ state next current results, system.Reachable state →
      state.quickCheck = some current →
      exec state (.quickCheckResume results) = some next →
        UpdatesKept state next := by
  intro always
  obtain ⟨state, reached, running, _, changed⟩ :=
    run_of_started [.toggleFavorite found] [(found.address, true)]
      (by decide +kernel)
  obtain ⟨next, finishes⟩ := exists_quickCheckResume running
  obtain ⟨proxies, _⟩ := quickCheckResume_lists running finishes
  have kept := always state next snapshot [true, true] reached running finishes
  obtain ⟨item, member, address, flag⟩ :=
    (kept _ List.mem_cons_self).2 (found.address, true)
      (changed ▸ List.mem_cons_self)
  rw [proxies] at member
  have inside := (mem_finalProxies.mp member).1
  rcases List.mem_cons.mp inside with rfl | inside
  · exact absurd address (by decide)
  · rw [List.mem_singleton.mp inside] at flag
    cases flag

end ProxyVPN.ViewModelScope
