/-
Module: ProxyVPN.App.ProxyFinder
Purpose: `ProxyFinder`: the cache of proxies in the preferences, the search of
  `loadProxies` and the re-testing of `backgroundRefresh`.
Trusted boundary: `Outside` gives what a call meets: the bodies of the
  responses, the outcomes of the tests in the order of their completion, and
  the moment at which `cancel` is called. The text of JSON in the preferences
  is the list of its objects.
Main exports: Prefs, Prefs.cacheProxies, Prefs.getCachedProxies, Outside,
  Prefs.cache_lossless_iff, ProxyFinder, ProxyFinder.loadProxies, ProxyFinder.backgroundRefresh,
  ProxyFinder.loadProxies_prefs, ProxyFinder.backgroundRefresh_prefs
-/
import Mathlib.Algebra.Order.Field.Rat
import ProxyVPN.App.ProxySources

namespace ProxyVPN

open Kotlin

/-! ## The cache -/

/-- An object of the cached list, with the keys the finder writes or reads. -/
structure JsonObject where
  host : Option Text
  port : Option Int
  type : Option Text
  secret : Option Text
  responseTime : Option ℚ
  method : Option Text
  password : Option Text

def ProxyType.valueOf (name : Text) : Option ProxyType :=
  [socks5, mtproto, shadowsocks, vless].find? fun proxyType =>
    proxyType.name = name

/-- The object that is written for a proxy. -/
def ProxyInfo.toObject (proxy : ProxyInfo) : JsonObject where
  host := some proxy.host
  port := some proxy.port
  type := some proxy.type.name
  secret := some proxy.secret
  responseTime := some proxy.responseTime
  method := none
  password := none

/-- The proxies of the objects. An object without host or port ends the
reading. -/
def readObjects : List JsonObject → List ProxyInfo
  | [] => []
  | object :: rest =>
      match object.host, object.port with
      | some host, some port =>
          { host := host
            port := port
            type := (object.type.bind ProxyType.valueOf).getD .socks5
            secret := object.secret.getD []
            method := object.method
            password := object.password
            responseTime := object.responseTime.getD 99 } :: readObjects rest
      | _, _ => []

/-- The preferences that all finders share. -/
structure Prefs where
  stored : String → Option (List JsonObject)
  /-- Ghost: the type of proxies the last call that stored a list was for. -/
  writer : String → Option ProxyType

namespace Prefs

def cacheProxies (prefs : Prefs) (proxies : List ProxyInfo) (cacheKey : String)
    (proxyType : ProxyType) : Prefs where
  stored := Function.update prefs.stored cacheKey
    (some ((proxies.take 100).map ProxyInfo.toObject))
  writer := Function.update prefs.writer cacheKey (some proxyType)

def getCachedProxies (prefs : Prefs) (cacheKey : String) : List ProxyInfo :=
  readObjects ((prefs.stored cacheKey).getD [])

end Prefs

/-- The key of the cached list of a type. -/
def cacheKeyOf (proxyType : ProxyType) : String :=
  if proxyType = .mtproto then "mtproto_cache" else "working_proxies"

/-! ## What a call meets -/

/-- The test of a proxy that was completed: its place among the proxies that
are tested, the time it took and the location that was then found for it. -/
structure Completion where
  index : Nat
  pingTime : Int
  location : Option Text

/-- One fetch and the tests after it. A proxy is tested once; how many are still
tested when enough of them work depends on the threads and is left open. -/
structure Round where
  body : String → List UInt8
  completions : List Completion
  once : (completions.map Completion.index).Nodup

structure Outside where
  /-- The check of `isCancelled` from which on a call of `cancel` is seen. -/
  cancelAt : Option Nat
  /-- The fetch of each attempt. -/
  round : Nat → Round
  /-- Whether the cached proxy at a place passes its next test. -/
  alive : Nat → Bool

/-! ## The finder -/

structure ProxyFinder where
  sourceIndex : Nat := 0
  isCancelled : Bool := false
  backgroundProxyType : ProxyType := .socks5
  /-- Whether a callback is set. -/
  backgroundCallback : Bool := false

namespace ProxyFinder

def maxProxies : Nat := 10
def minProxies : Nat := 5
def maxAttempts : Nat := 3

def stopBackgroundRefresh (finder : ProxyFinder) : ProxyFinder :=
  { finder with backgroundCallback := false }

def startBackgroundRefresh (finder : ProxyFinder) (proxyType : ProxyType) :
    ProxyFinder :=
  { finder with backgroundCallback := true, backgroundProxyType := proxyType }

def cancel (finder : ProxyFinder) : ProxyFinder :=
  { finder with isCancelled := true }.stopBackgroundRefresh

/-- The finder after a call during which `cancel` may have been called. -/
def afterwards (finder : ProxyFinder) (outside : Outside) : ProxyFinder :=
  if outside.cancelAt.isSome then finder.cancel else finder

/-- What a check of `isCancelled` gives. -/
def cancelledAt (finder : ProxyFinder) (outside : Outside) (check : Nat) :
    Bool :=
  finder.isCancelled || outside.cancelAt.any (· ≤ check)

/-- The proxies whose test took less than 5 seconds, in the order in which the
tests were completed. -/
def workingProxies (proxies : List ProxyInfo) (completions : List Completion) :
    List (ProxyInfo × Option Text) :=
  completions.filterMap fun done =>
    (proxies[done.index]?).bind fun proxy =>
      if 1 ≤ done.pingTime ∧ done.pingTime ≤ 4999 then
        some ({ proxy with responseTime := done.pingTime / 1000 },
          done.location)
      else none

/-- `findWorkingProxies`: only proxies for SOCKS5 are asked for their
location. -/
def findWorkingProxies (proxies : List ProxyInfo)
    (completions : List Completion) (proxyType : ProxyType) : List ProxyInfo :=
  let working := workingProxies proxies completions
  let filtered :=
    if proxyType = .socks5 then
      working.filterMap fun (proxy, location) =>
        if location ≠ none ∧ location ≠ some "RU".toList then
          some { proxy with location := location }
        else none
    else working.map Prod.fst
  sortedBy ProxyInfo.responseTime filtered

/-- The variables of the search of `loadProxies`. -/
structure Search where
  sourceIndex : Nat
  usedIps : List Text
  allWorking : List ProxyInfo

/-- The proxies of an attempt whose key is new. -/
def Search.collect (search : Search) (working : List ProxyInfo) : Search :=
  working.foldl (fun (search : Search) proxy =>
    if proxy.key ∈ search.usedIps then search
    else { search with
      usedIps := proxy.key :: search.usedIps
      allWorking := search.allWorking ++ [proxy] }) search

/-- The attempts that are left. `finder` is the one whose `isCancelled` is
checked. -/
def searchProxies (platform : Platform) (finder : ProxyFinder)
    (outside : Outside) (proxyType : ProxyType) :
    List Nat → Search → Search
  | [], search => search
  | attempt :: rest, search =>
      if finder.cancelledAt outside attempt then search
      else
        let round := outside.round attempt
        let (freshProxies, sourceIndex) :=
          fetchAllProxies platform round.body search.sourceIndex proxyType
        let fetched := { search with sourceIndex := sourceIndex }
        if freshProxies = [] then
          searchProxies platform finder outside proxyType rest fetched
        else
          let unique := freshProxies.filter fun proxy =>
            proxy.key ∉ search.usedIps
          if unique = [] then fetched
          else
            let collected := fetched.collect
              (findWorkingProxies unique round.completions proxyType)
            if maxProxies ≤ collected.allWorking.length ∨
                minProxies ≤ collected.allWorking.length ∧ 2 ≤ attempt then
              collected
            else
              searchProxies platform finder outside proxyType rest collected

/-- `loadProxies`: its answer, and the finder and the preferences after it. -/
def loadProxies (platform : Platform) (finder : ProxyFinder) (prefs : Prefs)
    (forceRefresh : Bool) (proxyType : ProxyType) (outside : Outside) :
    List ProxyInfo × ProxyFinder × Prefs :=
  let finder := { finder with isCancelled := false }
  let cacheKey := cacheKeyOf proxyType
  let cached := prefs.getCachedProxies cacheKey
  if forceRefresh = false ∧ cached ≠ [] then
    (cached, finder.afterwards outside, prefs)
  else if proxyType = .mtproto then
    let (allProxies, sourceIndex) :=
      fetchAllProxies platform (outside.round 1).body finder.sourceIndex
        proxyType
    let unique := distinctBy ProxyInfo.hostPort allProxies
    (unique, { finder with sourceIndex := sourceIndex }.afterwards outside,
      if unique = [] then prefs
      else prefs.cacheProxies unique cacheKey proxyType)
  else
    let search := searchProxies platform finder outside proxyType
      (List.range' 1 maxAttempts)
      { sourceIndex := finder.sourceIndex, usedIps := [], allWorking := [] }
    (sortedBy ProxyInfo.responseTime search.allWorking,
      { finder with sourceIndex := search.sourceIndex }.afterwards outside,
      if search.allWorking = [] then prefs
      else prefs.cacheProxies search.allWorking cacheKey proxyType)

/-- The cached proxies that pass their next test, up to the check that sees the
cancellation. The first of the list is at the place `i` of the cache. -/
def stillAlive (finder : ProxyFinder) (outside : Outside) :
    Nat → List ProxyInfo → List ProxyInfo
  | _, [] => []
  | i, proxy :: rest =>
      if finder.cancelledAt outside i then []
      else if outside.alive i then
        proxy :: finder.stillAlive outside (i + 1) rest
      else finder.stillAlive outside (i + 1) rest

/-- The new proxies that a refresh takes in, and the index of the next
source. -/
def newWorking (platform : Platform) (finder : ProxyFinder)
    (outside : Outside) (cached : List ProxyInfo) (needMore : Nat) :
    List ProxyInfo × Nat :=
  if 0 < needMore ∧ finder.cancelledAt outside cached.length = false then
    let round := outside.round 1
    let (freshProxies, sourceIndex) :=
      fetchAllProxies platform round.body finder.sourceIndex
        finder.backgroundProxyType
    let unique := freshProxies.filter fun proxy =>
      proxy.key ∉ cached.map ProxyInfo.key
    (if unique = [] then []
      else (findWorkingProxies (unique.take 50) round.completions
        finder.backgroundProxyType).take needMore, sourceIndex)
  else ([], finder.sourceIndex)

/-- The proxies of both lists, without those of the second whose key is
there. -/
def mergeProxies (merged new : List ProxyInfo) : List ProxyInfo :=
  new.foldl (fun merged proxy =>
    if proxy.key ∈ merged.map ProxyInfo.key then merged
    else merged ++ [proxy]) merged

/-- The list a refresh reports. -/
def refreshed (platform : Platform) (finder : ProxyFinder) (outside : Outside)
    (cached : List ProxyInfo) : List ProxyInfo :=
  let alive := finder.stillAlive outside 0 cached
  let new := (newWorking platform finder outside cached
    (maxProxies - alive.length)).1
  (sortedBy ProxyInfo.responseTime (mergeProxies alive new)).take maxProxies

/-- `backgroundRefresh`: the list it reports, and the finder and the preferences
after it. -/
def backgroundRefresh (platform : Platform) (finder : ProxyFinder)
    (prefs : Prefs) (outside : Outside) :
    Option (List ProxyInfo) × ProxyFinder × Prefs :=
  if finder.backgroundCallback then
    let cacheKey := cacheKeyOf finder.backgroundProxyType
    let cached := prefs.getCachedProxies cacheKey
    let needMore := maxProxies - (finder.stillAlive outside 0 cached).length
    let result := refreshed platform finder outside cached
    let sourceIndex := (newWorking platform finder outside cached needMore).2
    (some result,
      { finder with sourceIndex := sourceIndex }.afterwards outside,
      if result = [] then prefs
      else prefs.cacheProxies result cacheKey finder.backgroundProxyType)
  else (none, finder.afterwards outside, prefs)

/-! ## The cached list is read back -/

end ProxyFinder

theorem ProxyType.valueOf_name (proxyType : ProxyType) :
    valueOf proxyType.name = some proxyType := by
  cases proxyType <;> decide

/-- What the cache keeps of a proxy. -/
def ProxyInfo.inCache (proxy : ProxyInfo) : ProxyInfo :=
  { proxy with method := none, password := none, location := none }

theorem readObjects_toObject (proxies : List ProxyInfo) :
    readObjects (proxies.map ProxyInfo.toObject) =
      proxies.map ProxyInfo.inCache := by
  induction proxies with
  | nil => rfl
  | cons proxy rest inductionHypothesis =>
      simp [readObjects, ProxyInfo.toObject, ProxyInfo.inCache,
        ProxyType.valueOf_name, ← inductionHypothesis]

namespace Prefs

theorem getCachedProxies_cacheProxies (prefs : Prefs)
    (proxies : List ProxyInfo) (cacheKey : String) (proxyType : ProxyType) :
    (prefs.cacheProxies proxies cacheKey proxyType).getCachedProxies cacheKey =
      (proxies.take 100).map ProxyInfo.inCache := by
  simp only [getCachedProxies, cacheProxies, Function.update_self,
    Option.getD_some, readObjects_toObject]

theorem getCachedProxies_cacheProxies_of_ne (prefs : Prefs)
    (proxies : List ProxyInfo) (proxyType : ProxyType) {cacheKey other : String}
    (different : other ≠ cacheKey) :
    (prefs.cacheProxies proxies cacheKey proxyType).getCachedProxies other =
      prefs.getCachedProxies other := by
  simp [getCachedProxies, cacheProxies, different]

end Prefs

/-! ## What the cache loses -/

/-- All that is compared of a cached proxy: everything but the location. -/
def ProxyInfo.unlocated (proxy : ProxyInfo) : ProxyInfo :=
  { proxy with location := none }

theorem ProxyInfo.unlocated_inCache_iff (proxy : ProxyInfo) :
    proxy.inCache.unlocated = proxy.unlocated ↔
      proxy.method = none ∧ proxy.password = none := by
  cases proxy
  simp [ProxyInfo.inCache, ProxyInfo.unlocated, eq_comm]

namespace Prefs

/-- A list that fits is read back without a loss exactly where none of its
proxies has a method or a password. -/
theorem cache_lossless_iff (prefs : Prefs) (proxies : List ProxyInfo)
    (fits : proxies.length ≤ 100) (cacheKey : String) (proxyType : ProxyType) :
    ((prefs.cacheProxies proxies cacheKey proxyType).getCachedProxies
      cacheKey).map ProxyInfo.unlocated = proxies.map ProxyInfo.unlocated ↔
    ∀ proxy ∈ proxies, proxy.method = none ∧ proxy.password = none := by
  rw [getCachedProxies_cacheProxies, List.take_of_length_le fits, List.map_map,
    List.map_inj_left]
  exact forall₂_congr fun proxy _ => proxy.unlocated_inCache_iff

/-- Two proxies without secrets are read back. -/
theorem cache_lossless_two_socks5 :
    ((cacheProxies ⟨fun _ => none, fun _ => none⟩
        [{ host := "a".toList, port := 1 }, { host := "b".toList, port := 2 }]
        "working_proxies" .socks5).getCachedProxies "working_proxies").map
      ProxyInfo.unlocated =
    [{ host := "a".toList, port := 1 }, { host := "b".toList, port := 2 }].map
      ProxyInfo.unlocated :=
  (cache_lossless_iff _ _ (by decide) _ _).mpr (by decide)

/-- The method and the password of a proxy for SHADOWSOCKS are not read back. -/
theorem cache_loses_password :
    ¬∀ (prefs : Prefs) (proxies : List ProxyInfo), proxies.length ≤ 100 →
      ∀ (cacheKey : String) (proxyType : ProxyType),
        ((prefs.cacheProxies proxies cacheKey proxyType).getCachedProxies
          cacheKey).map ProxyInfo.unlocated =
          proxies.map ProxyInfo.unlocated := by
  intro lossless
  have same := lossless ⟨fun _ => none, fun _ => none⟩
    [{ host := "a".toList, port := 1, type := .shadowsocks,
       method := some "aes-256-gcm".toList, password := some "p".toList }]
    (by decide) "working_proxies" .shadowsocks
  rw [getCachedProxies_cacheProxies] at same
  exact absurd same (by decide)

end Prefs

namespace ProxyFinder

/-! ## What a search finds -/

/-- Testing does not change what a proxy is. -/
theorem workingProxies_identity {proxies : List ProxyInfo}
    {completions : List Completion} {tested : ProxyInfo × Option Text}
    (member : tested ∈ workingProxies proxies completions) :
    ∃ proxy ∈ proxies, tested.1.identity = proxy.identity := by
  rcases List.mem_filterMap.mp member with ⟨done, _, found⟩
  rcases Option.bind_eq_some_iff.mp found with ⟨proxy, submitted, accepted⟩
  rcases Option.ite_none_right_eq_some.mp accepted with ⟨_, ⟨⟩⟩
  exact ⟨proxy, List.mem_of_getElem? submitted, rfl⟩

theorem findWorkingProxies_identity {proxies : List ProxyInfo}
    {completions : List Completion} {proxyType : ProxyType}
    {found : ProxyInfo}
    (member : found ∈ findWorkingProxies proxies completions proxyType) :
    ∃ proxy ∈ proxies, found.identity = proxy.identity := by
  unfold findWorkingProxies at member
  rw [mem_sortedBy] at member
  by_cases socks : proxyType = .socks5
  · rw [if_pos socks] at member
    rcases List.mem_filterMap.mp member with ⟨tested, inside, located⟩
    rcases Option.ite_none_right_eq_some.mp located with ⟨_, ⟨⟩⟩
    rcases workingProxies_identity inside with ⟨proxy, among, same⟩
    exact ⟨proxy, among, same⟩
  · rw [if_neg socks] at member
    rcases List.mem_map.mp member with ⟨tested, inside, rfl⟩
    exact workingProxies_identity inside

/-- The tests of proxies of a type find proxies of that type. -/
theorem findWorkingProxies_type {proxies : List ProxyInfo}
    {completions : List Completion} {proxyType tested : ProxyType}
    (typed : ∀ proxy ∈ proxies, proxy.type = proxyType) {found : ProxyInfo}
    (member : found ∈ findWorkingProxies proxies completions tested) :
    found.type = proxyType := by
  rcases findWorkingProxies_identity member with ⟨proxy, among, same⟩
  calc
    found.type = proxy.type := congrArg (·.2.2) same
    _ = proxyType := typed proxy among

theorem Search.mem_collect {working : List ProxyInfo} {found : ProxyInfo} :
    ∀ {search : Search}, found ∈ (search.collect working).allWorking →
      found ∈ search.allWorking ∨ found ∈ working := by
  induction working with
  | nil =>
      intro search member
      exact .inl member
  | cons first rest inductionHypothesis =>
      intro search member
      rcases inductionHypothesis member with before | later
      · by_cases known : first.key ∈ search.usedIps
        · simp only [known, if_true] at before
          exact .inl before
        · simp only [known, if_false] at before
          rcases List.mem_append.mp before with before | added
          · exact .inl before
          · rcases List.mem_singleton.mp added with rfl
            exact .inr List.mem_cons_self
      · exact .inr (List.mem_cons_of_mem _ later)

/-- What holds of a search from attempt to attempt, whichever proxies of the
type are collected. -/
theorem searchProxies_keeps {platform : Platform} {finder : ProxyFinder}
    {outside : Outside} {proxyType : ProxyType} {attempts : List Nat}
    (holds : Search → Prop)
    (moves : ∀ search sourceIndex, holds search →
      holds { search with sourceIndex := sourceIndex })
    (collects : ∀ search working, holds search →
      (∀ proxy ∈ working, proxy.type = proxyType) →
      holds (search.collect working)) :
    ∀ {search : Search}, holds search →
      holds (searchProxies platform finder outside proxyType attempts
        search) := by
  induction attempts with
  | nil =>
      intro search held
      exact held
  | cons attempt rest inductionHypothesis =>
      intro search held
      have uniqueTyped : ∀ proxy ∈ (fetchAllProxies platform
          (outside.round attempt).body search.sourceIndex proxyType).1.filter
            (fun proxy => proxy.key ∉ search.usedIps),
          proxy.type = proxyType := by
        intro proxy member
        exact fetchAllProxies_type (List.mem_of_mem_filter member)
      have workingTyped : ∀ proxy ∈ findWorkingProxies
          ((fetchAllProxies platform (outside.round attempt).body
            search.sourceIndex proxyType).1.filter
              (fun proxy => proxy.key ∉ search.usedIps))
          (outside.round attempt).completions proxyType,
          proxy.type = proxyType := by
        intro proxy member
        exact findWorkingProxies_type uniqueTyped member
      have collected := collects _ _ (moves search
        (fetchAllProxies platform (outside.round attempt).body
          search.sourceIndex proxyType).2 held) workingTyped
      rw [searchProxies]
      by_cases cancelled : finder.cancelledAt outside attempt = true
      · rw [if_pos cancelled]
        exact held
      rw [if_neg cancelled]
      dsimp only
      by_cases nothing : (fetchAllProxies platform
          (outside.round attempt).body search.sourceIndex proxyType).1 = []
      · rw [if_pos nothing]
        exact inductionHypothesis (moves _ _ held)
      rw [if_neg nothing]
      split
      · exact moves _ _ held
      split
      · exact collected
      · exact inductionHypothesis collected

/-- The search for a type collects proxies of that type. -/
theorem searchProxies_type {platform : Platform} {finder : ProxyFinder}
    {outside : Outside} {proxyType : ProxyType} {attempts : List Nat}
    {search : Search}
    (typed : ∀ proxy ∈ search.allWorking, proxy.type = proxyType) :
    ∀ proxy ∈ (searchProxies platform finder outside proxyType attempts
      search).allWorking, proxy.type = proxyType := by
  refine searchProxies_keeps (fun search =>
    ∀ proxy ∈ search.allWorking, proxy.type = proxyType) ?_ ?_ typed
  · intro search sourceIndex typed
    exact typed
  · intro search working typed workingTyped proxy member
    rcases Search.mem_collect member with before | found
    · exact typed proxy before
    · exact workingTyped proxy found

/-- A call that is answered from the cache leaves the cache as it is. -/
theorem loadProxies_fromCache {platform : Platform} {finder : ProxyFinder}
    {prefs : Prefs} {proxyType : ProxyType} {outside : Outside}
    (cached : prefs.getCachedProxies (cacheKeyOf proxyType) ≠ []) :
    (loadProxies platform finder prefs false proxyType outside).1 =
      prefs.getCachedProxies (cacheKeyOf proxyType) := by
  simp [loadProxies, cached]

/-- A call for a type leaves the cache, or stores proxies of that type. -/
theorem loadProxies_prefs (platform : Platform) (finder : ProxyFinder)
    (prefs : Prefs) (forceRefresh : Bool) (proxyType : ProxyType)
    (outside : Outside) :
    (loadProxies platform finder prefs forceRefresh proxyType
        outside).2.2 = prefs ∨
      ∃ found ≠ [], (∀ proxy ∈ found, proxy.type = proxyType) ∧
        (loadProxies platform finder prefs forceRefresh proxyType
          outside).2.2 =
            prefs.cacheProxies found (cacheKeyOf proxyType) proxyType := by
  unfold loadProxies
  dsimp only
  split
  · exact .inl rfl
  split
  · dsimp only
    split
    · exact .inl rfl
    · rename_i found
      refine .inr ⟨_, found, ?_, rfl⟩
      intro proxy member
      exact fetchAllProxies_type (mem_of_mem_distinctBy member)
  · dsimp only
    split
    · exact .inl rfl
    · rename_i found
      refine .inr ⟨_, found, ?_, rfl⟩
      exact searchProxies_type nofun

/-! ## What a refresh keeps -/

/-- The re-test of the proxy at a place is carried out and passed. -/
def Survives (finder : ProxyFinder) (outside : Outside) (i : Nat) : Prop :=
  outside.alive i = true ∧ finder.cancelledAt outside i = false

instance (finder : ProxyFinder) (outside : Outside) (i : Nat) :
    Decidable (finder.Survives outside i) :=
  inferInstanceAs (Decidable (_ ∧ _))

/-- A check after one that saw the cancellation sees it. -/
theorem cancelledAt_mono {finder : ProxyFinder} {outside : Outside}
    {early late : Nat} (order : early ≤ late)
    (cancelled : finder.cancelledAt outside early = true) :
    finder.cancelledAt outside late = true := by
  unfold cancelledAt at cancelled ⊢
  rcases Bool.or_eq_true_iff.mp cancelled with before | during
  · exact Bool.or_eq_true_iff.mpr (.inl before)
  · apply Bool.or_eq_true_iff.mpr
    right
    cases called : outside.cancelAt with
    | none =>
        rw [called] at during
        cases during
    | some moment =>
        rw [called] at during
        exact decide_eq_true ((of_decide_eq_true during).trans order)

theorem mem_stillAlive {finder : ProxyFinder} {outside : Outside}
    {cached : List ProxyInfo} {proxy : ProxyInfo} :
    ∀ {i : Nat}, proxy ∈ finder.stillAlive outside i cached →
      proxy ∈ cached := by
  induction cached with
  | nil =>
      intro i member
      exact member
  | cons first rest inductionHypothesis =>
      intro i member
      rw [stillAlive] at member
      split at member
      · cases member
      split at member
      · rcases List.mem_cons.mp member with rfl | later
        · exact List.mem_cons_self
        · exact List.mem_cons_of_mem _ (inductionHypothesis later)
      · exact List.mem_cons_of_mem _ (inductionHypothesis member)

/-- A cached proxy is kept if one survives. -/
theorem stillAlive_ne_nil_iff {finder : ProxyFinder} {outside : Outside}
    {cached : List ProxyInfo} :
    ∀ {i : Nat}, finder.stillAlive outside i cached ≠ [] ↔
      ∃ j < cached.length, finder.Survives outside (i + j) := by
  induction cached with
  | nil =>
      intro i
      constructor
      · intro kept
        exact (kept rfl).elim
      · rintro ⟨j, inside, _⟩
        cases inside
  | cons first rest inductionHypothesis =>
      intro i
      rw [stillAlive]
      by_cases cancelled : finder.cancelledAt outside i = true
      · rw [if_pos cancelled]
        constructor
        · intro kept
          exact (kept rfl).elim
        · rintro ⟨j, _, survives⟩
          have later := cancelledAt_mono (Nat.le_add_right i j) cancelled
          rw [survives.2] at later
          cases later
      rw [if_neg cancelled]
      by_cases passes : outside.alive i = true
      · rw [if_pos passes]
        constructor
        · intro _
          exact ⟨0, Nat.succ_pos _, passes, Bool.eq_false_iff.mpr cancelled⟩
        · intro _
          exact List.cons_ne_nil _ _
      · rw [if_neg passes, inductionHypothesis]
        constructor
        · rintro ⟨j, inside, survives⟩
          refine ⟨j + 1, Nat.succ_lt_succ inside, ?_⟩
          rw [← Nat.add_assoc, Nat.add_right_comm]
          exact survives
        · rintro ⟨j, inside, survives⟩
          cases j with
          | zero => exact (passes survives.1).elim
          | succ j =>
              refine ⟨j, Nat.lt_of_succ_lt_succ inside, ?_⟩
              rw [Nat.add_right_comm, Nat.add_assoc]
              exact survives

theorem newWorking_type {platform : Platform} {finder : ProxyFinder}
    {outside : Outside} {cached : List ProxyInfo} {needMore : Nat}
    {proxy : ProxyInfo}
    (member : proxy ∈
      (newWorking platform finder outside cached needMore).1) :
    proxy.type = finder.backgroundProxyType := by
  unfold newWorking at member
  split at member
  · dsimp only at member
    split at member
    · cases member
    · apply findWorkingProxies_type ?_ (List.mem_of_mem_take member)
      intro candidate among
      have fetched := List.mem_of_mem_filter (List.mem_of_mem_take among)
      exact fetchAllProxies_type fetched
  · cases member

theorem length_newWorking_le (platform : Platform) (finder : ProxyFinder)
    (outside : Outside) (cached : List ProxyInfo) (needMore : Nat) :
    (newWorking platform finder outside cached needMore).1.length ≤
      needMore := by
  unfold newWorking
  split
  · dsimp only
    split
    · exact Nat.zero_le _
    · exact List.length_take_le _ _
  · exact Nat.zero_le _

/-- Merging keeps the first list and takes in only proxies of the second. -/
theorem mergeProxies_spec {new : List ProxyInfo} :
    ∀ merged : List ProxyInfo,
      (∀ proxy ∈ merged, proxy ∈ mergeProxies merged new) ∧
      (∀ proxy ∈ mergeProxies merged new, proxy ∈ merged ∨ proxy ∈ new) ∧
      (mergeProxies merged new).length ≤ merged.length + new.length := by
  induction new with
  | nil =>
      intro merged
      exact ⟨fun _ member => member, fun _ member => .inl member, Nat.le_refl _⟩
  | cons first rest inductionHypothesis =>
      intro merged
      unfold mergeProxies
      rw [List.foldl_cons]
      by_cases known : first.key ∈ merged.map ProxyInfo.key
      · rw [if_pos known]
        rcases inductionHypothesis merged with
          ⟨keeps, takes, bound⟩
        refine ⟨keeps, ?_, ?_⟩
        · intro proxy member
          exact (takes proxy member).imp_right (List.mem_cons_of_mem _)
        · exact bound.trans (by simp)
      · rw [if_neg known]
        rcases inductionHypothesis (merged ++ [first]) with
          ⟨keeps, takes, bound⟩
        refine ⟨?_, ?_, ?_⟩
        · intro proxy member
          exact keeps proxy (List.mem_append_left _ member)
        · intro proxy member
          rcases takes proxy member with before | later
          · rcases List.mem_append.mp before with before | added
            · exact .inl before
            · rcases List.mem_singleton.mp added with rfl
              exact .inr List.mem_cons_self
          · exact .inr (List.mem_cons_of_mem _ later)
        · apply bound.trans
          simp
          omega

/-- A refresh reports surviving proxies and new ones of its type. -/
theorem mem_refreshed {platform : Platform} {finder : ProxyFinder}
    {outside : Outside} {cached : List ProxyInfo} {proxy : ProxyInfo}
    (member : proxy ∈ refreshed platform finder outside cached) :
    proxy ∈ finder.stillAlive outside 0 cached ∨
      proxy.type = finder.backgroundProxyType := by
  have merged := mem_sortedBy.mp (List.mem_of_mem_take member)
  rcases (mergeProxies_spec _).2.1 proxy merged with alive | new
  · exact .inl alive
  · exact .inr (newWorking_type new)

theorem length_refreshed_le (platform : Platform) (finder : ProxyFinder)
    (outside : Outside) (cached : List ProxyInfo) :
    (refreshed platform finder outside cached).length ≤ maxProxies :=
  List.length_take_le _ _

/-- If a proxy survives, a survivor is reported: new proxies only fill the
places the survivors leave. -/
theorem refreshed_keeps (platform : Platform) {finder : ProxyFinder}
    {outside : Outside} {cached : List ProxyInfo}
    (kept : finder.stillAlive outside 0 cached ≠ []) :
    ∃ proxy ∈ refreshed platform finder outside cached,
      proxy ∈ finder.stillAlive outside 0 cached := by
  unfold refreshed
  dsimp only
  generalize finder.stillAlive outside 0 cached = alive at kept ⊢
  obtain ⟨survivor, survives⟩ := List.exists_mem_of_ne_nil alive kept
  by_cases room : alive.length ≤ maxProxies
  · refine ⟨survivor, ?_, survives⟩
    rw [List.take_of_length_le]
    · exact mem_sortedBy.mpr ((mergeProxies_spec _).1 survivor survives)
    · rw [length_sortedBy]
      apply (mergeProxies_spec _).2.2.trans
      have few := length_newWorking_le platform finder outside cached
        (maxProxies - alive.length)
      omega
  · have noNew : (newWorking platform finder outside cached
        (maxProxies - alive.length)).1 = [] := by
      apply List.eq_nil_of_length_eq_zero
      apply Nat.eq_zero_of_le_zero
      apply (length_newWorking_le platform finder outside cached _).trans
      omega
    rw [noNew]
    have many : (sortedBy ProxyInfo.responseTime alive).take maxProxies ≠
        [] := by
      intro empty
      rcases List.take_eq_nil_iff.mp empty with none | nothing
      · cases none
      · apply kept
        apply List.eq_nil_of_length_eq_zero
        rw [← length_sortedBy ProxyInfo.responseTime, nothing,
          List.length_nil]
    obtain ⟨proxy, first⟩ := List.exists_mem_of_ne_nil _ many
    exact ⟨proxy, first, mem_sortedBy.mp (List.mem_of_mem_take first)⟩

/-- A refresh leaves the cache, or stores what it reports. -/
theorem backgroundRefresh_prefs (platform : Platform) (finder : ProxyFinder)
    (prefs : Prefs) (outside : Outside) :
    let cacheKey := cacheKeyOf finder.backgroundProxyType
    let result := refreshed platform finder outside
      (prefs.getCachedProxies cacheKey)
    (backgroundRefresh platform finder prefs outside).2.2 =
      if finder.backgroundCallback = true ∧ result ≠ [] then
        prefs.cacheProxies result cacheKey finder.backgroundProxyType
      else prefs := by
  unfold backgroundRefresh
  dsimp only
  by_cases callback : finder.backgroundCallback = true
  · rw [if_pos callback]
    by_cases empty : refreshed platform finder outside (prefs.getCachedProxies
        (cacheKeyOf finder.backgroundProxyType)) = []
    · simp [empty]
    · simp [callback, empty]
  · simp [callback]

end ProxyFinder

end ProxyVPN
