/-
Module: ProxyVPN.App.BackgroundRefresh
Purpose: What a refresh makes of the cache: what a cancellation in the middle of
  it removes, and what a refresh that goes through reports.
Trusted boundary: that of ProxyFinder.
Main exports: ProxyFinder.firstSeen, ProxyFinder.UntestedKept,
  ProxyFinder.untested_kept_iff, ProxyFinder.cancelled_refresh_removes,
  ProxyFinder.BestVerified, ProxyFinders.distinct_invariant,
  ProxyFinders.untestedKept_reachable_iff, ProxyFinders.refresh_keeps_best
-/
import ProxyVPN.Lib.Keyed
import ProxyVPN.App.ProxyCache

namespace ProxyVPN

open Kotlin Keyed Transition

namespace ProxyFinder

/-! ## Tests up to a cancellation -/

/-- The first check of `isCancelled` that sees a cancellation. -/
def firstSeen (finder : ProxyFinder) (outside : Outside) : Option Nat :=
  if finder.isCancelled then some 0 else outside.cancelAt

/-- The proxies that pass their test, the first of them at the place `i` of the
cache. -/
def passedFrom (outside : Outside) (i : Nat) (tested : List ProxyInfo) :
    List ProxyInfo :=
  (tested.zipIdx i).filterMap fun (proxy, place) =>
    if outside.alive place then some proxy else none

variable {finder : ProxyFinder} {outside : Outside} {cached : List ProxyInfo}
variable {proxy : ProxyInfo}

theorem mem_passedFrom {tested : List ProxyInfo} :
    proxy ∈ passedFrom outside 0 tested ↔
      ∃ place, tested[place]? = some proxy ∧ outside.alive place = true := by
  unfold passedFrom
  rw [List.mem_filterMap]
  constructor
  · rintro ⟨⟨other, place⟩, member, passed⟩
    obtain ⟨alive, same⟩ := Option.ite_none_right_eq_some.mp passed
    cases same
    exact ⟨place, List.mem_zipIdx_iff_getElem?.mp member, alive⟩
  · rintro ⟨place, here, alive⟩
    exact ⟨(proxy, place), List.mem_zipIdx_iff_getElem?.mpr here,
      if_pos alive⟩

theorem passedFrom_sublist (outside : Outside) (i : Nat)
    (tested : List ProxyInfo) :
    (passedFrom outside i tested).Sublist tested := by
  induction tested generalizing i with
  | nil => exact .slnil
  | cons first rest inductionHypothesis =>
      have later := inductionHypothesis (i + 1)
      unfold passedFrom at later ⊢
      rw [List.zipIdx_cons, List.filterMap_cons]
      dsimp only
      cases outside.alive i with
      | true => exact later.cons_cons first
      | false => exact later.cons first

theorem cancelledAt_iff {check : Nat} :
    finder.cancelledAt outside check = true ↔
      ∃ seen, finder.firstSeen outside = some seen ∧ seen ≤ check := by
  unfold cancelledAt firstSeen
  cases finder.isCancelled with
  | true => exact iff_of_true rfl ⟨0, rfl, Nat.zero_le _⟩
  | false => cases outside.cancelAt <;> simp

/-- The loop tests what stands before the place of the check that sees the
cancellation. -/
theorem stillAlive_eq_take {seen : Nat}
    (cancelled : finder.firstSeen outside = some seen) :
    ∀ i, finder.stillAlive outside i cached =
      passedFrom outside i (cached.take (seen - i)) := by
  induction cached with
  | nil =>
      intro i
      rw [List.take_nil]
      rfl
  | cons first rest inductionHypothesis =>
      intro i
      rw [stillAlive]
      by_cases passed : seen ≤ i
      · rw [if_pos (cancelledAt_iff.mpr ⟨seen, cancelled, passed⟩),
          Nat.sub_eq_zero_of_le passed]
        rfl
      · have going : ¬finder.cancelledAt outside i = true := by
          intro stops
          obtain ⟨other, same, before⟩ := cancelledAt_iff.mp stops
          cases cancelled.symm.trans same
          exact passed before
        obtain ⟨left, more⟩ : ∃ left, seen - i = left + 1 :=
          ⟨seen - i - 1, by omega⟩
        have next : seen - (i + 1) = left := by omega
        rw [if_neg going, more, List.take_succ_cons, inductionHypothesis, next]
        unfold passedFrom
        rw [List.zipIdx_cons, List.filterMap_cons]
        dsimp only
        cases outside.alive i <;> rfl

/-- Without a cancellation it tests them all. -/
theorem stillAlive_eq (uncancelled : finder.firstSeen outside = none) :
    ∀ i, finder.stillAlive outside i cached =
      passedFrom outside i cached := by
  induction cached with
  | nil => exact fun _ => rfl
  | cons first rest inductionHypothesis =>
      intro i
      have going : ¬finder.cancelledAt outside i = true := by
        intro stops
        obtain ⟨other, same, _⟩ := cancelledAt_iff.mp stops
        cases uncancelled.symm.trans same
      rw [stillAlive, if_neg going, inductionHypothesis]
      unfold passedFrom
      rw [List.zipIdx_cons, List.filterMap_cons]
      dsimp only
      cases outside.alive i <;> rfl

/-! ## What a cancelled refresh removes -/

/-- Every cached proxy from the place `seen` on is cached after the refresh. -/
def UntestedKept (platform : Platform) (finder : ProxyFinder) (prefs : Prefs)
    (outside : Outside) (seen : Nat) : Prop :=
  let cacheKey := cacheKeyOf finder.backgroundProxyType
  ∀ proxy ∈ (prefs.getCachedProxies cacheKey).drop seen,
    ∃ kept ∈ (backgroundRefresh platform finder prefs
        outside).2.2.getCachedProxies cacheKey,
      kept.identity = proxy.identity

/-- The ten fastest of the proxies before the place that pass their test. -/
def fastestPassed (outside : Outside) (seen : Nat) (cached : List ProxyInfo) :
    List ProxyInfo :=
  (sortedBy ProxyInfo.responseTime
    (passedFrom outside 0 (cached.take seen))).take maxProxies

/-- What is stored for a result is read back with the same identities. -/
theorem exists_cached_iff (prefs : Prefs) (proxy : ProxyInfo)
    (proxyType : ProxyType) {result : List ProxyInfo}
    (few : result.length ≤ maxProxies) :
    (∃ kept ∈ (prefs.cacheProxies result (cacheKeyOf proxyType)
        proxyType).getCachedProxies (cacheKeyOf proxyType),
      kept.identity = proxy.identity) ↔
      ∃ kept ∈ result, kept.identity = proxy.identity := by
  rw [Prefs.getCachedProxies_cacheProxies,
    List.take_of_length_le (few.trans (by decide))]
  constructor
  · rintro ⟨_, member, same⟩
    obtain ⟨kept, inside, rfl⟩ := List.mem_map.mp member
    exact ⟨kept, inside, same⟩
  · rintro ⟨kept, inside, same⟩
    exact ⟨_, List.mem_map_of_mem inside, same⟩

theorem fastestPassed_eq_nil_iff {seen : Nat} :
    fastestPassed outside seen cached = [] ↔
      ∀ place < seen, place < cached.length → outside.alive place = false := by
  have empty : fastestPassed outside seen cached = [] ↔
      passedFrom outside 0 (cached.take seen) = [] := by
    unfold fastestPassed
    rw [List.take_eq_nil_iff, or_iff_right (by decide),
      ← List.length_eq_zero_iff, length_sortedBy, List.length_eq_zero_iff]
  rw [empty, List.eq_nil_iff_forall_not_mem]
  constructor
  · intro none place before inside
    apply Bool.eq_false_iff.mpr
    intro alive
    apply none cached[place]
    refine mem_passedFrom.mpr ⟨place, ?_, alive⟩
    rw [List.getElem?_take_of_lt before, List.getElem?_eq_getElem inside]
  · intro dead proxy passed
    obtain ⟨place, here, alive⟩ := mem_passedFrom.mp passed
    have inside := (List.getElem?_eq_some_iff.mp here).1
    rw [List.length_take, Nat.lt_min] at inside
    rw [dead place inside.1 inside.2] at alive
    cases alive

/-- With proxies left to test no new ones are fetched. -/
theorem refreshed_eq_fastestPassed (platform : Platform) {seen : Nat}
    (cancelled : finder.firstSeen outside = some seen)
    (untested : seen ≤ cached.length) :
    refreshed platform finder outside cached =
      fastestPassed outside seen cached := by
  have stopped : finder.cancelledAt outside cached.length = true :=
    cancelledAt_iff.mpr ⟨seen, cancelled, untested⟩
  unfold refreshed newWorking fastestPassed
  dsimp only
  rw [stopped, if_neg (fun more => Bool.false_ne_true more.2.symm),
    stillAlive_eq_take cancelled]
  rfl

/-- A refresh that stores what it has so far keeps of the untested what is
among it. -/
theorem untestedKept_iff_fast (platform : Platform) (prefs : Prefs) {seen : Nat}
    (cancelled : finder.firstSeen outside = some seen) :
    let cached :=
      prefs.getCachedProxies (cacheKeyOf finder.backgroundProxyType)
    UntestedKept platform finder prefs outside seen ↔
      finder.backgroundCallback = false ∨ cached.length ≤ seen ∨
      fastestPassed outside seen cached = [] ∨
      ∀ proxy ∈ cached.drop seen,
        ∃ fast ∈ fastestPassed outside seen cached,
          fast.identity = proxy.identity := by
  intro cached
  have stored := backgroundRefresh_prefs platform finder prefs outside
  dsimp only at stored
  unfold UntestedKept
  dsimp only
  rw [stored]
  have unchanged : ∀ proxy ∈ cached.drop seen,
      ∃ kept ∈ cached, kept.identity = proxy.identity :=
    fun proxy member => ⟨proxy, List.mem_of_mem_drop member, rfl⟩
  cases callback : finder.backgroundCallback with
  | false =>
      rw [if_neg (fun refreshes => Bool.false_ne_true refreshes.1)]
      exact iff_of_true unchanged (.inl rfl)
  | true =>
      by_cases tested : cached.length ≤ seen
      · refine iff_of_true ?_ (.inr (.inl tested))
        rw [show (prefs.getCachedProxies _).drop seen = [] from
          List.drop_eq_nil_of_le tested]
        exact nofun
      · have result := refreshed_eq_fastestPassed platform cancelled
          (Nat.le_of_not_le tested)
        rw [result]
        by_cases nothing : fastestPassed outside seen cached = []
        · rw [if_neg (fun refreshes => refreshes.2 nothing)]
          exact iff_of_true unchanged (.inr (.inr (.inl nothing)))
        · rw [if_pos ⟨rfl, nothing⟩]
          have few : (fastestPassed outside seen cached).length ≤ maxProxies :=
            List.length_take_le _ _
          have kept := forall₂_congr fun (proxy : ProxyInfo)
              (_ : proxy ∈ cached.drop seen) =>
            exists_cached_iff prefs proxy finder.backgroundProxyType few
          rw [kept]
          constructor
          · exact fun fast => .inr (.inr (.inr fast))
          · rintro (none | all | empty | fast)
            · cases none
            · exact absurd all tested
            · exact absurd empty nothing
            · exact fast

/-- A cancelled refresh removes no proxy that it did not test exactly if it
does not store what it has so far: it has no callback, all proxies were tested,
or none of the tested passed. The last case is that of a cache with entries for
one proxy. -/
theorem untested_kept_iff (platform : Platform) (finder : ProxyFinder)
    (prefs : Prefs) (outside : Outside) {seen : Nat}
    (cancelled : finder.firstSeen outside = some seen) :
    let cached :=
      prefs.getCachedProxies (cacheKeyOf finder.backgroundProxyType)
    UntestedKept platform finder prefs outside seen ↔
      finder.backgroundCallback = false ∨ cached.length ≤ seen ∨
      (∀ place < seen, place < cached.length →
        outside.alive place = false) ∨
      ∀ proxy ∈ cached.drop seen,
        ∃ fast ∈ fastestPassed outside seen cached,
          fast.identity = proxy.identity := by
  have general := untestedKept_iff_fast platform prefs cancelled
  dsimp only at general
  rw [fastestPassed_eq_nil_iff] at general
  exact general

instance (platform : Platform) (finder : ProxyFinder) (prefs : Prefs)
    (outside : Outside) (seen : Nat) :
    Decidable (UntestedKept platform finder prefs outside seen) :=
  inferInstanceAs (Decidable (∀ _ ∈ _, ∃ _ ∈ _, _))

/-- Two proxies are cached. -/
def twoCached : Prefs :=
  Prefs.cacheProxies ⟨fun _ => none, fun _ => none⟩
    [{ host := "1.2.3.4".toList, port := 1080 },
      { host := "5.6.7.8".toList, port := 1080 }] "working_proxies" .socks5

/-- The cancellation is seen after the test of the first. -/
def cancelledAfterOne (alive : Bool) : Outside where
  cancelAt := some 1
  round := fun _ =>
    { body := fun _ => [], completions := [], once := List.nodup_nil }
  alive := fun _ => alive

/-- The first fails, and both are still cached. -/
theorem untested_kept_iff_first_fails :
    UntestedKept ProxyFinders.asciiPlatform { backgroundCallback := true }
      twoCached (cancelledAfterOne false) 1 :=
  (untested_kept_iff ProxyFinders.asciiPlatform { backgroundCallback := true }
    twoCached (cancelledAfterOne false) rfl).mpr
      (.inr (.inr (.inl fun _ _ _ => rfl)))

/-- The first passes, and the second, which was not tested, is removed. -/
theorem cancelled_refresh_removes :
    firstSeen { backgroundCallback := true } (cancelledAfterOne true) = some 1 ∧
      (backgroundRefresh ProxyFinders.asciiPlatform
          { backgroundCallback := true } twoCached
          (cancelledAfterOne true)).2.2.getCachedProxies "working_proxies" =
        [{ host := "1.2.3.4".toList, port := 1080 }] ∧
      ¬UntestedKept ProxyFinders.asciiPlatform { backgroundCallback := true }
        twoCached (cancelledAfterOne true) 1 := by
  refine ⟨rfl, ?_, ?_⟩
  · decide +kernel
  · decide +kernel

end ProxyFinder

/-! ## No proxy is cached twice -/

/-- No key occurs twice in a cached list. -/
def Prefs.NoDuplicates (prefs : Prefs) : Prop :=
  ∀ cacheKey, Distinct ProxyInfo.key (prefs.getCachedProxies cacheKey)

/-- Proxies with different keys are different. -/
theorem ProxyInfo.nodup_identity {list : List ProxyInfo}
    (distinct : Distinct ProxyInfo.key list) :
    (list.map ProxyInfo.identity).Nodup := by
  refine List.pairwise_map.mpr ((List.pairwise_map.mp distinct).imp ?_)
  intro left right different same
  exact different (key_eq_iff.mpr same)

/-- Proxies of different hosts or ports have different keys. -/
theorem ProxyInfo.distinct_of_hostPort {list : List ProxyInfo}
    (distinct : Distinct ProxyInfo.hostPort list) :
    Distinct ProxyInfo.key list := by
  refine List.pairwise_map.mpr ((List.pairwise_map.mp distinct).imp ?_)
  intro left right different same
  exact different (colon_inj (ProxyType.colon_notMem_name _)
    (ProxyType.colon_notMem_name _) same).1

theorem Prefs.NoDuplicates.cacheProxies {prefs : Prefs}
    (holds : prefs.NoDuplicates) {found : List ProxyInfo}
    (distinct : Distinct ProxyInfo.key found) (cacheKey : String)
    (proxyType : ProxyType) :
    (prefs.cacheProxies found cacheKey proxyType).NoDuplicates := by
  intro other
  by_cases stored : other = cacheKey
  · rw [stored, getCachedProxies_cacheProxies]
    exact (distinct.sublist (List.take_sublist _ _)).map fun _ => rfl
  · rw [getCachedProxies_cacheProxies_of_ne prefs found proxyType stored]
    exact holds other

theorem distinct_sortedBy {list : List ProxyInfo}
    (distinct : Distinct ProxyInfo.key list) :
    Distinct ProxyInfo.key (sortedBy ProxyInfo.responseTime list) :=
  ((perm_sortedBy _ list).map _).nodup_iff.mpr distinct

namespace ProxyFinder

variable {finder : ProxyFinder} {outside : Outside} {cached : List ProxyInfo}
variable {proxy : ProxyInfo}

/-- A proxy is taken in only if its key is new. -/
theorem distinct_concat {list : List ProxyInfo}
    (distinct : Distinct ProxyInfo.key list)
    (fresh : proxy.key ∉ list.map ProxyInfo.key) :
    Distinct ProxyInfo.key (list ++ [proxy]) := by
  apply Keyed.Distinct.concat distinct
  apply hasKey_eq_false_iff.mpr
  intro other inside same
  exact fresh (same ▸ List.mem_map_of_mem inside)

/-- The keys of what a search has collected are noted. -/
structure Search.Fresh (search : Search) : Prop where
  distinct : Distinct ProxyInfo.key search.allWorking
  used : ∀ proxy ∈ search.allWorking, proxy.key ∈ search.usedIps

theorem Search.Fresh.collect {working : List ProxyInfo} :
    ∀ {search : Search}, search.Fresh → (search.collect working).Fresh := by
  induction working with
  | nil => exact id
  | cons first rest inductionHypothesis =>
      intro search fresh
      unfold Search.collect
      rw [List.foldl_cons]
      apply inductionHypothesis
      by_cases known : first.key ∈ search.usedIps
      · rw [if_pos known]
        exact fresh
      · rw [if_neg known]
        constructor
        · apply distinct_concat fresh.distinct
          intro again
          obtain ⟨other, inside, same⟩ := List.mem_map.mp again
          exact known (same ▸ fresh.used other inside)
        · intro other member
          rcases List.mem_append.mp member with old | new
          · exact List.mem_cons_of_mem _ (fresh.used other old)
          · rw [List.mem_singleton.mp new]
            exact List.mem_cons_self

theorem Search.Fresh.searchProxies {platform : Platform}
    {proxyType : ProxyType} {attempts : List Nat} {search : Search}
    (fresh : search.Fresh) :
    (searchProxies platform finder outside proxyType attempts
      search).Fresh := by
  refine searchProxies_keeps Search.Fresh ?_ ?_ fresh
  · intro search sourceIndex fresh
    exact ⟨fresh.distinct, fresh.used⟩
  · intro search working fresh _
    exact fresh.collect

/-- A call stores a list in which no key occurs twice, or none. -/
theorem loadProxies_noDuplicates (platform : Platform) {prefs : Prefs}
    (holds : prefs.NoDuplicates) (forceRefresh : Bool) (proxyType : ProxyType)
    (outside : Outside) :
    (loadProxies platform finder prefs forceRefresh proxyType
      outside).2.2.NoDuplicates := by
  unfold loadProxies
  dsimp only
  split
  · exact holds
  split
  · dsimp only
    split
    · exact holds
    · exact holds.cacheProxies
        (ProxyInfo.distinct_of_hostPort (nodup_distinctBy _ _)) _ _
  · dsimp only
    have empty : Search.Fresh
        { sourceIndex := finder.sourceIndex, usedIps := [], allWorking := [] } := by
      refine ⟨List.nodup_nil, ?_⟩
      intro proxy member
      cases member
    split
    · exact holds
    · exact holds.cacheProxies empty.searchProxies.distinct _ _

theorem distinct_mergeProxies {new : List ProxyInfo} :
    ∀ {merged : List ProxyInfo}, Distinct ProxyInfo.key merged →
      Distinct ProxyInfo.key (mergeProxies merged new) := by
  induction new with
  | nil => exact id
  | cons first rest inductionHypothesis =>
      intro merged distinct
      unfold mergeProxies
      rw [List.foldl_cons]
      apply inductionHypothesis
      split
      · exact distinct
      · next fresh => exact distinct_concat distinct fresh

theorem stillAlive_sublist (finder : ProxyFinder) (outside : Outside)
    (cached : List ProxyInfo) :
    (finder.stillAlive outside 0 cached).Sublist cached := by
  cases seen : finder.firstSeen outside with
  | none =>
      rw [stillAlive_eq seen]
      exact passedFrom_sublist outside 0 cached
  | some check =>
      rw [stillAlive_eq_take seen]
      exact (passedFrom_sublist outside 0 _).trans (List.take_sublist _ _)

theorem distinct_refreshed (platform : Platform) (finder : ProxyFinder)
    (outside : Outside) (distinct : Distinct ProxyInfo.key cached) :
    Distinct ProxyInfo.key (refreshed platform finder outside cached) := by
  have alive := distinct.sublist (stillAlive_sublist finder outside cached)
  exact (distinct_sortedBy (distinct_mergeProxies alive)).sublist
    (List.take_sublist _ _)

end ProxyFinder

namespace ProxyFinders

variable {platform : Platform} {state next : ProxyFinders}

theorem exec_noDuplicates {call : FinderCall}
    (holds : state.prefs.NoDuplicates)
    (taken : exec platform state call = some next) :
    next.prefs.NoDuplicates := by
  cases call with
  | loadProxies i forceRefresh proxyType outside =>
      cases taken
      exact ProxyFinder.loadProxies_noDuplicates platform holds forceRefresh
        proxyType outside
  | backgroundRefresh i outside =>
      rw [exec_backgroundRefresh taken]
      split
      · exact holds.cacheProxies
          (ProxyFinder.distinct_refreshed platform _ outside (holds _)) _ _
      · exact holds
  | startBackgroundRefresh | stopBackgroundRefresh | cancel =>
      cases taken
      exact holds

/-- Whatever calls were made, no proxy is cached twice. -/
theorem distinct_invariant (platform : Platform) :
    Invariant (system platform) (·.prefs.NoDuplicates) where
  initial := by
    rintro _ rfl cacheKey
    exact List.nodup_nil
  preserved _ _ _ holds taken := exec_noDuplicates holds taken

end ProxyFinders

/-! ## A cancelled refresh of a cache without duplicates -/

namespace ProxyFinder

variable {finder : ProxyFinder} {outside : Outside} {cached : List ProxyInfo}

/-- The fastest that passed are cached before the place of the cancellation. -/
theorem mem_take_of_fastestPassed {seen : Nat} {fast : ProxyInfo}
    (member : fast ∈ fastestPassed outside seen cached) :
    fast ∈ cached.take seen := by
  have passed := mem_sortedBy.mp (List.mem_of_mem_take member)
  exact (passedFrom_sublist outside 0 _).mem passed

/-- Where no proxy is cached twice, none that was not tested is among them. -/
theorem not_fast_of_distinct (distinct : Distinct ProxyInfo.key cached)
    {seen : Nat} (untested : seen < cached.length) :
    ¬∀ proxy ∈ cached.drop seen,
      ∃ fast ∈ fastestPassed outside seen cached,
        fast.identity = proxy.identity := by
  intro fast
  have later : cached[seen] ∈ cached.drop seen := by
    rw [List.drop_eq_getElem_cons untested]
    exact List.mem_cons_self
  obtain ⟨kept, member, same⟩ := fast cached[seen] later
  have identities := ProxyInfo.nodup_identity distinct
  rw [← List.take_append_drop seen cached, List.map_append] at identities
  apply (List.nodup_append.mp identities).2.2 kept.identity
    (List.mem_map_of_mem (mem_take_of_fastestPassed member)) cached[seen].identity
    (List.mem_map_of_mem later) same

end ProxyFinder

namespace ProxyFinders

/-- Whatever calls were made before, a cancelled refresh removes no proxy that it
did not test exactly if it has no callback, all proxies were tested, or none of
the tested passed. -/
theorem untestedKept_reachable_iff (platform : Platform) {state : ProxyFinders}
    (reached : (system platform).Reachable state) (i : Nat) (outside : Outside)
    {seen : Nat} (cancelled : (state.finders i).firstSeen outside = some seen) :
    let cached := state.cached (state.finders i).backgroundProxyType
    (state.finders i).UntestedKept platform state.prefs outside seen ↔
      (state.finders i).backgroundCallback = false ∨ cached.length ≤ seen ∨
      ∀ place < seen, place < cached.length → outside.alive place = false := by
  have general :=
    ProxyFinder.untestedKept_iff_fast platform state.prefs cancelled
  dsimp only at general
  rw [ProxyFinder.fastestPassed_eq_nil_iff] at general
  have distinct := (distinct_invariant platform).reachable reached
  refine general.trans (or_congr_right ?_)
  constructor
  · rintro (tested | dead | fast)
    · exact .inl tested
    · exact .inr dead
    · left
      by_contra untested
      exact ProxyFinder.not_fast_of_distinct (distinct _) (Nat.lt_of_not_le untested) fast
  · rintro (tested | dead)
    · exact .inl tested
    · exact .inr (.inl dead)

end ProxyFinders

/-! ## What a refresh reports -/

namespace ProxyFinder

variable {finder : ProxyFinder} {outside : Outside} {cached : List ProxyInfo}
variable {proxy : ProxyInfo}

/-- The new proxies that a refresh tests. -/
def candidates (platform : Platform) (finder : ProxyFinder) (outside : Outside)
    (cached : List ProxyInfo) : List ProxyInfo :=
  ((fetchAllProxies platform (outside.round 1).body finder.sourceIndex
    finder.backgroundProxyType).1.filter fun proxy =>
      proxy.key ∉ cached.map ProxyInfo.key).take 50

/-- A cached proxy that passed its test in this round, or one of those that were
tested for the first time: the test took less than 5 seconds, and one for SOCKS5
has a location that is accepted. -/
def FoundAlive (outside : Outside) (cached tested : List ProxyInfo)
    (proxyType : ProxyType) (proxy : ProxyInfo) : Prop :=
  (∃ place, cached[place]? = some proxy ∧ outside.alive place = true) ∨
  ∃ done ∈ (outside.round 1).completions, ∃ candidate,
    tested[done.index]? = some candidate ∧
      proxy.identity = candidate.identity ∧
      (1 ≤ done.pingTime ∧ done.pingTime ≤ 4999) ∧
      proxy.responseTime = done.pingTime / 1000 ∧
      (proxyType = .socks5 →
        done.location ≠ none ∧ done.location ≠ some "RU".toList)

/-- The list has the fastest of the proxies that were found alive: a cached one
is missing only if the list is full of others that are not slower. -/
structure BestVerified (outside : Outside) (cached tested : List ProxyInfo)
    (proxyType : ProxyType) (result : List ProxyInfo) : Prop where
  few : result.length ≤ maxProxies
  sorted : result.Pairwise fun first second =>
    first.responseTime ≤ second.responseTime
  distinct : (result.map ProxyInfo.identity).Nodup
  alive : ∀ proxy ∈ result, FoundAlive outside cached tested proxyType proxy
  best : ∀ place proxy, cached[place]? = some proxy →
    outside.alive place = true → proxy ∉ result →
      result.length = maxProxies ∧ ∀ other ∈ result,
        other.identity ≠ proxy.identity ∧
          other.responseTime ≤ proxy.responseTime

theorem foundAlive_of_workingProxies {tested : List ProxyInfo}
    {found : ProxyInfo × Option Text}
    (member : found ∈ workingProxies tested (outside.round 1).completions) :
    ∃ done ∈ (outside.round 1).completions, ∃ candidate,
      tested[done.index]? = some candidate ∧
        found.1.identity = candidate.identity ∧
        (1 ≤ done.pingTime ∧ done.pingTime ≤ 4999) ∧
        found.1.responseTime = done.pingTime / 1000 ∧
        found.2 = done.location := by
  obtain ⟨done, inside, submitted⟩ := List.mem_filterMap.mp member
  obtain ⟨candidate, here, passes⟩ := Option.bind_eq_some_iff.mp submitted
  obtain ⟨inTime, same⟩ := Option.ite_none_right_eq_some.mp passes
  cases same
  exact ⟨done, inside, candidate, here, rfl, inTime, rfl, rfl⟩

theorem foundAlive_of_findWorkingProxies {tested : List ProxyInfo}
    {proxyType : ProxyType}
    (member : proxy ∈ findWorkingProxies tested (outside.round 1).completions
      proxyType) :
    FoundAlive outside cached tested proxyType proxy := by
  right
  unfold findWorkingProxies at member
  rw [mem_sortedBy] at member
  by_cases socks : proxyType = .socks5
  · rw [if_pos socks] at member
    obtain ⟨found, inside, located⟩ := List.mem_filterMap.mp member
    obtain ⟨accepted, same⟩ := Option.ite_none_right_eq_some.mp located
    obtain ⟨done, completed, candidate, here, identity, inTime, time,
      location⟩ := foundAlive_of_workingProxies inside
    cases same
    exact ⟨done, completed, candidate, here, identity, inTime, time,
      fun _ => location ▸ accepted⟩
  · rw [if_neg socks] at member
    obtain ⟨found, inside, rfl⟩ := List.mem_map.mp member
    obtain ⟨done, completed, candidate, here, identity, inTime, time, _⟩ :=
      foundAlive_of_workingProxies inside
    exact ⟨done, completed, candidate, here, identity, inTime, time,
      fun same => absurd same socks⟩

theorem foundAlive_of_newWorking {platform : Platform} {needMore : Nat}
    (member : proxy ∈
      (newWorking platform finder outside cached needMore).1) :
    FoundAlive outside cached (candidates platform finder outside cached)
      finder.backgroundProxyType proxy := by
  unfold newWorking at member
  split at member
  · dsimp only at member
    split at member
    · cases member
    · exact foundAlive_of_findWorkingProxies (List.mem_of_mem_take member)
  · cases member

/-- What a refresh reports that was not cancelled, of a cache without
duplicates. -/
theorem bestVerified_refreshed (platform : Platform)
    (uncancelled : finder.firstSeen outside = none)
    (distinct : Distinct ProxyInfo.key cached) :
    BestVerified outside cached (candidates platform finder outside cached)
      finder.backgroundProxyType (refreshed platform finder outside cached) := by
  have reported := distinct_refreshed platform finder outside distinct
  have alive : finder.stillAlive outside 0 cached =
      passedFrom outside 0 cached := stillAlive_eq uncancelled 0
  constructor
  case few => exact length_refreshed_le platform finder outside cached
  case sorted =>
    exact (pairwise_sortedBy _ _).sublist (List.take_sublist _ _)
  case distinct => exact ProxyInfo.nodup_identity reported
  case alive =>
    intro proxy member
    have merged := mem_sortedBy.mp (List.mem_of_mem_take member)
    rcases (mergeProxies_spec _).2.1 proxy merged with old | new
    · rw [alive] at old
      exact .inl (mem_passedFrom.mp old)
    · exact foundAlive_of_newWorking new
  case best =>
    intro place proxy here passes missing
    have survives : proxy ∈ finder.stillAlive outside 0 cached := by
      rw [alive]
      exact mem_passedFrom.mpr ⟨place, here, passes⟩
    let merged := mergeProxies (finder.stillAlive outside 0 cached)
      (newWorking platform finder outside cached
        (maxProxies - (finder.stillAlive outside 0 cached).length)).1
    have mergedDistinct : Distinct ProxyInfo.key merged :=
      distinct_mergeProxies
        (distinct.sublist (stillAlive_sublist finder outside cached))
    have member : proxy ∈ sortedBy ProxyInfo.responseTime merged :=
      mem_sortedBy.mpr ((mergeProxies_spec _).1 proxy survives)
    obtain ⟨full, faster⟩ :=
      of_notMem_take (pairwise_sortedBy _ merged) member missing
    refine ⟨full, ?_⟩
    intro other before
    refine ⟨?_, faster other before⟩
    -- an entry for the same proxy would be the proxy, as none is there twice
    intro same
    have equal := List.inj_on_of_nodup_map
      (ProxyInfo.nodup_identity (distinct_sortedBy mergedDistinct))
      (List.mem_of_mem_take before) member same
    exact missing (equal ▸ before)

end ProxyFinder

namespace ProxyFinders

/-- Whatever was searched and refreshed before, a refresh that is not cancelled
reports at most ten different proxies in the order of their times, all of them
found alive in this round, and leaves out a cached proxy that was found alive
only for ten others that are not slower. -/
theorem refresh_keeps_best (platform : Platform) {state : ProxyFinders}
    (reached : (system platform).Reachable state) (i : Nat) (outside : Outside)
    (callback : (state.finders i).backgroundCallback = true)
    (running : (state.finders i).isCancelled = false)
    (uncancelled : outside.cancelAt = none) :
    ∃ result, ((state.finders i).backgroundRefresh platform state.prefs
        outside).1 = some result ∧
      ProxyFinder.BestVerified outside
        (state.cached (state.finders i).backgroundProxyType)
        ((state.finders i).candidates platform outside
          (state.cached (state.finders i).backgroundProxyType))
        (state.finders i).backgroundProxyType result := by
  have unseen : (state.finders i).firstSeen outside = none := by
    unfold ProxyFinder.firstSeen
    rw [running, uncancelled]
    rfl
  have distinct := (distinct_invariant platform).reachable reached
  refine ⟨(state.finders i).refreshed platform outside _, ?_,
    ProxyFinder.bestVerified_refreshed platform unseen (distinct _)⟩
  unfold ProxyFinder.backgroundRefresh
  rw [if_pos callback]
  rfl

/-- A search finds three proxies. -/
def threeFound : Outside where
  cancelAt := none
  round := fun _ =>
    { body := fun _ => asciiPlatform.bytes
        "1.2.3.4:1080\n5.6.7.8:1080\n9.9.9.9:1080".toList
      completions :=
        [{ index := 1, pingTime := 40, location := some "US".toList },
          { index := 0, pingTime := 70, location := some "DE".toList },
          { index := 2, pingTime := 55, location := some "FR".toList }]
      once := by decide }
  alive := fun _ => true

/-- A refresh in which the second cached proxy fails, and the second of two new
ones passes. -/
def oneFailsOneNew : Outside where
  cancelAt := none
  round := fun _ =>
    { body := fun _ => asciiPlatform.bytes
        "1.2.3.4:1080\n3.3.3.3:1080\n2.2.2.2:1080".toList
      completions :=
        [{ index := 1, pingTime := 50, location := some "NL".toList }]
      once := List.nodup_singleton 1 }
  alive := fun place => place != 1

/-- A refresh of three cached proxies: one of them fails, and a new one that is
found comes between the others. -/
theorem refresh_keeps_best_of_three :
    ∃ state, (system asciiPlatform).Reachable state ∧
      (state.cached .socks5).map ProxyInfo.host =
        ["5.6.7.8".toList, "9.9.9.9".toList, "1.2.3.4".toList] ∧
      ∃ result, ((state.finders 0).backgroundRefresh asciiPlatform state.prefs
          oneFailsOneNew).1 = some result ∧
        result.map ProxyInfo.host =
          ["5.6.7.8".toList, "2.2.2.2".toList, "1.2.3.4".toList] ∧
        ProxyFinder.BestVerified oneFailsOneNew
          (state.cached (state.finders 0).backgroundProxyType)
          ((state.finders 0).candidates asciiPlatform oneFailsOneNew
            (state.cached (state.finders 0).backgroundProxyType))
          (state.finders 0).backgroundProxyType result := by
  have replayed : ([FinderCall.startBackgroundRefresh 0 .socks5,
      .loadProxies 0 true .socks5 threeFound].foldlM (exec asciiPlatform)
        initial).map (fun (state : ProxyFinders) =>
          ((state.cached .socks5).map ProxyInfo.host,
            ((state.finders 0).backgroundRefresh asciiPlatform state.prefs
              oneFailsOneNew).1.map (List.map ProxyInfo.host),
            (state.finders 0).backgroundCallback,
            (state.finders 0).isCancelled)) =
        some (["5.6.7.8".toList, "9.9.9.9".toList, "1.2.3.4".toList],
          some ["5.6.7.8".toList, "2.2.2.2".toList, "1.2.3.4".toList],
          true, false) := by
    decide +kernel
  obtain ⟨state, run, seen⟩ := System.replay _ replayed
  simp only [Prod.mk.injEq] at seen
  obtain ⟨listed, reported, callback, running⟩ := seen
  have reached : (system asciiPlatform).Reachable state :=
    ⟨initial, _, rfl, run⟩
  obtain ⟨result, same, best⟩ :=
    refresh_keeps_best asciiPlatform reached 0 oneFailsOneNew callback running rfl
  rw [same] at reported
  exact ⟨state, reached, listed, result, same, Option.some.inj reported, best⟩

end ProxyFinders

end ProxyVPN
