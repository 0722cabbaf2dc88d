/-
Module: ProxyVPN.App.ProxyCache
Purpose: All finders share one cache, in which the lists for SOCKS5, SHADOWSOCKS
  and VLESS have the same key. When the answers from the cache are of the type
  that was asked for.
Trusted boundary: the calls of the finders are taken one after the other.
Main exports: ProxyFinders, ProxyFinders.system, ProxyFinders.TypeKept,
  ProxyFinders.cache_answers_type_iff, ProxyFinders.mtproto_typeKept
-/
import ProxyVPN.Lib.Transition
import ProxyVPN.App.ProxyFinder

namespace ProxyVPN

open Kotlin Transition

/-! ## Calls on finders that share the preferences -/

structure ProxyFinders where
  prefs : Prefs
  finders : Nat → ProxyFinder

inductive FinderCall where
  | loadProxies (finder : Nat) (forceRefresh : Bool) (proxyType : ProxyType)
      (outside : Outside)
  | backgroundRefresh (finder : Nat) (outside : Outside)
  | startBackgroundRefresh (finder : Nat) (proxyType : ProxyType)
  | stopBackgroundRefresh (finder : Nat)
  | cancel (finder : Nat)

namespace ProxyFinders

/-- Nothing is cached and the finders are new. -/
def initial : ProxyFinders where
  prefs := { stored := fun _ => none, writer := fun _ => none }
  finders := fun _ => {}

def setFinder (state : ProxyFinders) (i : Nat) (finder : ProxyFinder) :
    ProxyFinders :=
  { state with finders := Function.update state.finders i finder }

def exec (platform : Platform) (state : ProxyFinders) :
    FinderCall → Option ProxyFinders
  | .loadProxies i forceRefresh proxyType outside =>
      let (_, finder, prefs) := (state.finders i).loadProxies platform
        state.prefs forceRefresh proxyType outside
      some ({ state with prefs := prefs }.setFinder i finder)
  | .backgroundRefresh i outside =>
      let (_, finder, prefs) := (state.finders i).backgroundRefresh platform
        state.prefs outside
      some ({ state with prefs := prefs }.setFinder i finder)
  | .startBackgroundRefresh i proxyType =>
      some (state.setFinder i
        ((state.finders i).startBackgroundRefresh proxyType))
  | .stopBackgroundRefresh i =>
      some (state.setFinder i (state.finders i).stopBackgroundRefresh)
  | .cancel i => some (state.setFinder i (state.finders i).cancel)

def system (platform : Platform) : System ProxyFinders FinderCall :=
  System.ofExec (· = initial) (exec platform)

/-- The list that is cached under the key of a type. -/
def cached (state : ProxyFinders) (proxyType : ProxyType) : List ProxyInfo :=
  state.prefs.getCachedProxies (cacheKeyOf proxyType)

/-- `loadProxies` without `forceRefresh` is answered from the cache. -/
def AnsweredFromCache (state : ProxyFinders) (proxyType : ProxyType) : Prop :=
  state.cached proxyType ≠ []

instance (state : ProxyFinders) (proxyType : ProxyType) :
    Decidable (state.AnsweredFromCache proxyType) :=
  inferInstanceAs (Decidable (_ ≠ _))

/-- What `loadProxies` without `forceRefresh` returns. -/
def answer (platform : Platform) (state : ProxyFinders) (finder : Nat)
    (proxyType : ProxyType) (outside : Outside) : List ProxyInfo :=
  ((state.finders finder).loadProxies platform state.prefs false proxyType
    outside).1

/-- A call that takes proxies from the cache is for the type that the last call
that stored a list under the key was for. A refresh takes the cached proxies
that survive its re-test. -/
def TypeKept (state : ProxyFinders) : FinderCall → Prop
  | .loadProxies _ forceRefresh proxyType _ =>
      forceRefresh = false ∧ state.AnsweredFromCache proxyType →
        state.prefs.writer (cacheKeyOf proxyType) = some proxyType
  | .backgroundRefresh i outside =>
      let finder := state.finders i
      finder.backgroundCallback = true ∧
          (∃ place < (state.cached finder.backgroundProxyType).length,
            finder.Survives outside place) →
        state.prefs.writer (cacheKeyOf finder.backgroundProxyType) =
          some finder.backgroundProxyType
  | _ => True

instance (state : ProxyFinders) (call : FinderCall) :
    Decidable (state.TypeKept call) := by
  cases call <;> unfold TypeKept <;> infer_instance

end ProxyFinders

/-! ## The cache has an owner -/

/-- What is stored under a key belongs to the type that it was stored for. -/
structure Prefs.Owned (prefs : Prefs) : Prop where
  unwritten : ∀ cacheKey, prefs.writer cacheKey = none →
    prefs.getCachedProxies cacheKey = []
  written : ∀ cacheKey proxyType, prefs.writer cacheKey = some proxyType →
    cacheKey = cacheKeyOf proxyType ∧ prefs.getCachedProxies cacheKey ≠ [] ∧
      ∀ proxy ∈ prefs.getCachedProxies cacheKey, proxy.type = proxyType

namespace Prefs

/-- Storing proxies of a type under its key makes the type their owner. -/
theorem Owned.cacheProxies {prefs : Prefs} {found : List ProxyInfo}
    {proxyType : ProxyType} (owned : prefs.Owned) (some : found ≠ [])
    (typed : ∀ proxy ∈ found, proxy.type = proxyType) :
    (prefs.cacheProxies found (cacheKeyOf proxyType) proxyType).Owned := by
  constructor
  · intro cacheKey unwritten
    by_cases stored : cacheKey = cacheKeyOf proxyType
    · simp [Prefs.cacheProxies, stored] at unwritten
    · rw [getCachedProxies_cacheProxies_of_ne prefs found proxyType stored]
      apply owned.unwritten
      simpa [Prefs.cacheProxies, stored] using unwritten
  · intro cacheKey writer written
    by_cases stored : cacheKey = cacheKeyOf proxyType
    · have same : proxyType = writer := by
        simpa [Prefs.cacheProxies, stored] using written
      subst same stored
      rw [getCachedProxies_cacheProxies]
      refine ⟨rfl, ?_, ?_⟩
      · simpa using some
      · intro proxy member
        rcases List.mem_map.mp member with ⟨original, taken, rfl⟩
        exact typed original (List.mem_of_mem_take taken)
    · rw [getCachedProxies_cacheProxies_of_ne prefs found proxyType stored]
      apply owned.written
      simpa [Prefs.cacheProxies, stored] using written

end Prefs

namespace ProxyFinders

variable {platform : Platform} {state next : ProxyFinders}

/-- In an owned cache every type that is asked for meets the owner's
proxies. -/
theorem exists_owner (owned : state.prefs.Owned) {proxyType : ProxyType}
    (answered : state.AnsweredFromCache proxyType) :
    ∃ owner, state.prefs.writer (cacheKeyOf proxyType) = some owner ∧
      ∀ proxy ∈ state.cached proxyType, proxy.type = owner := by
  cases written : state.prefs.writer (cacheKeyOf proxyType) with
  | none => exact (answered (owned.unwritten _ written)).elim
  | some owner => exact ⟨owner, rfl, (owned.written _ _ written).2.2⟩

/-- A refresh leaves the cache, or stores what it reports. -/
theorem exec_backgroundRefresh {i : Nat} {outside : Outside}
    (taken : exec platform state (.backgroundRefresh i outside) = some next) :
    let finder := state.finders i
    let result := finder.refreshed platform outside
      (state.cached finder.backgroundProxyType)
    next.prefs =
      if finder.backgroundCallback = true ∧ result ≠ [] then
        state.prefs.cacheProxies result
          (cacheKeyOf finder.backgroundProxyType) finder.backgroundProxyType
      else state.prefs := by
  cases taken
  exact ProxyFinder.backgroundRefresh_prefs platform (state.finders i)
    state.prefs outside

/-- What a refresh that keeps the type reports is of its type. -/
theorem refreshed_type (owned : state.prefs.Owned) {i : Nat}
    {outside : Outside} (kept : state.TypeKept (.backgroundRefresh i outside))
    (callback : (state.finders i).backgroundCallback = true)
    {proxy : ProxyInfo}
    (member : proxy ∈ (state.finders i).refreshed platform outside
      (state.cached (state.finders i).backgroundProxyType)) :
    proxy.type = (state.finders i).backgroundProxyType := by
  rcases ProxyFinder.mem_refreshed member with alive | new
  · have nonempty := List.ne_nil_of_mem alive
    rcases ProxyFinder.stillAlive_ne_nil_iff.mp nonempty with
      ⟨place, inside, survives⟩
    rw [Nat.zero_add] at survives
    have written := kept ⟨callback, place, inside, survives⟩
    exact (owned.written _ _ written).2.2 proxy
      (ProxyFinder.mem_stillAlive alive)
  · exact new

theorem exec_owned {call : FinderCall} (owned : state.prefs.Owned)
    (kept : state.TypeKept call) (taken : exec platform state call = some next) :
    next.prefs.Owned := by
  cases call with
  | loadProxies i forceRefresh proxyType outside =>
      cases taken
      rcases ProxyFinder.loadProxies_prefs platform (state.finders i)
          state.prefs forceRefresh proxyType outside with
        same | ⟨found, nonempty, typed, stored⟩
      · exact same.symm ▸ owned
      · exact stored.symm ▸ owned.cacheProxies nonempty typed
  | backgroundRefresh i outside =>
      rw [exec_backgroundRefresh taken]
      split
      · rename_i refreshes
        apply owned.cacheProxies refreshes.2
        intro proxy member
        exact refreshed_type owned kept refreshes.1 member
      · exact owned
  | startBackgroundRefresh | stopBackgroundRefresh | cancel =>
      cases taken
      exact owned

theorem owned_invariant (platform : Platform) :
    Invariant ((system platform).restrict TypeKept) (·.prefs.Owned) where
  initial := by
    rintro _ rfl
    exact ⟨fun _ _ => rfl, nofun⟩
  preserved _ _ _ owned taken := exec_owned owned taken.1 taken.2

/-- The key of the lists for MTPROTO is its own: calls for MTPROTO keep the
type in every state. -/
theorem mtproto_typeKept
    (reached : ((system platform).restrict TypeKept).Reachable state)
    (finder : Nat) (forceRefresh : Bool) (outside : Outside) :
    state.TypeKept (.loadProxies finder forceRefresh .mtproto outside) := by
  intro ⟨_, answered⟩
  have owned := (owned_invariant platform).reachable reached
  rcases exists_owner owned answered with ⟨owner, written, _⟩
  have key := (owned.written _ _ written).1
  cases owner with
  | mtproto => exact written
  | socks5 | shadowsocks | vless => exact absurd key (by decide)

/-- A refresh for another type than the owner's, after which a cached proxy
survives, leaves a proxy of the owner under the key. -/
theorem refresh_mixes (owned : state.prefs.Owned) {i : Nat}
    {outside : Outside}
    (taken : exec platform state (.backgroundRefresh i outside) = some next)
    (mixes : ¬ state.TypeKept (.backgroundRefresh i outside)) :
    ∃ proxy ∈ next.cached (state.finders i).backgroundProxyType,
      proxy.type ≠ (state.finders i).backgroundProxyType := by
  rcases Classical.not_imp.mp mixes with
    ⟨⟨callback, place, inside, survives⟩, other⟩
  have nonempty : state.AnsweredFromCache
      (state.finders i).backgroundProxyType := by
    apply List.ne_nil_of_length_pos
    exact Nat.zero_lt_of_lt inside
  rcases exists_owner owned nonempty with ⟨owner, written, typed⟩
  have kept := ProxyFinder.stillAlive_ne_nil_iff.mpr
    ⟨place, inside, (Nat.zero_add place).symm ▸ survives⟩
  rcases ProxyFinder.refreshed_keeps platform kept with
    ⟨proxy, reported, alive⟩
  have stored := exec_backgroundRefresh taken
  dsimp only at stored
  rw [if_pos ⟨callback, List.ne_nil_of_mem reported⟩] at stored
  refine ⟨proxy.inCache, ?_, ?_⟩
  · have few := ProxyFinder.length_refreshed_le platform (state.finders i)
      outside (state.cached (state.finders i).backgroundProxyType)
    have whole := few.trans (by decide : ProxyFinder.maxProxies ≤ 100)
    rw [cached, stored, Prefs.getCachedProxies_cacheProxies,
      List.take_of_length_le whole]
    exact List.mem_map_of_mem reported
  · intro same
    apply other
    rw [written, ← same]
    exact congrArg some (typed proxy (ProxyFinder.mem_stillAlive alive)).symm

/-! ## Answers from the cache -/

theorem answer_eq_cached {finder : Nat} {proxyType : ProxyType}
    {outside : Outside} (answered : state.AnsweredFromCache proxyType) :
    state.answer platform finder proxyType outside = state.cached proxyType :=
  ProxyFinder.loadProxies_fromCache answered

/-- In a run whose calls keep the type, an answer from the cache is of the type
that was asked for exactly if the call keeps the type; after a refresh that
does not, an answer for its type is not. -/
theorem cache_answers_type_iff (platform : Platform) {state : ProxyFinders}
    (reached : ((system platform).restrict TypeKept).Reachable state) :
    (∀ finder proxyType outside, state.AnsweredFromCache proxyType →
      ((∀ proxy ∈ state.answer platform finder proxyType outside,
          proxy.type = proxyType) ↔
        state.TypeKept (.loadProxies finder false proxyType outside))) ∧
    (∀ finder outside next,
      exec platform state (.backgroundRefresh finder outside) = some next →
      ¬ state.TypeKept (.backgroundRefresh finder outside) →
      next.AnsweredFromCache (state.finders finder).backgroundProxyType ∧
        ∀ other later, ∃ proxy ∈ next.answer platform other
            (state.finders finder).backgroundProxyType later,
          proxy.type ≠ (state.finders finder).backgroundProxyType) := by
  have owned := (owned_invariant platform).reachable reached
  constructor
  · intro finder proxyType outside answered
    rcases exists_owner owned answered with ⟨owner, written, typed⟩
    rw [answer_eq_cached answered]
    constructor
    · intro asked _
      obtain ⟨proxy, member⟩ := List.exists_mem_of_ne_nil _ answered
      rw [written, ← typed proxy member, asked proxy member]
    · intro kept proxy member
      have same := written.symm.trans (kept ⟨rfl, answered⟩)
      rw [typed proxy member]
      exact Option.some.inj same
  · intro finder outside next taken mixes
    rcases refresh_mixes owned taken mixes with ⟨proxy, member, different⟩
    have answered : next.AnsweredFromCache _ := List.ne_nil_of_mem member
    refine ⟨answered, ?_⟩
    intro other later
    rw [answer_eq_cached answered]
    exact ⟨proxy, member, different⟩

/-! ## Runs with one proxy -/

/-- A platform for bodies in ASCII that use no Base64, JSON or HTML. -/
def asciiPlatform : Platform where
  utf8 := fun bytes => bytes.map fun byte => Char.ofNat byte.toNat
  bytes := fun text => text.map fun char => UInt8.ofNat char.toNat
  base64 := fun _ => none
  regexDigit := Char.isDigit
  regexSpace := isWhitespace
  jsonServers := fun _ => []
  tableRows := fun _ => []

/-- Every source lists one proxy for SOCKS5, which passes its tests. -/
def oneProxy : Outside where
  cancelAt := none
  round := fun _ =>
    { body := fun _ => asciiPlatform.bytes "1.2.3.4:1080".toList
      completions :=
        [{ index := 0, pingTime := 5, location := some "US".toList }]
      once := List.nodup_singleton 0 }
  alive := fun _ => true

/-- The proxy as it is read from the cache. -/
def theProxy : ProxyInfo :=
  { host := "1.2.3.4".toList, port := 1080, responseTime := 5 / 1000 }

/-- A search and a refresh for SOCKS5 leave an answer for SOCKS5. -/
theorem cache_answers_type_iff_socks5 :
    ∃ state, ((system asciiPlatform).restrict TypeKept).Run initial
      [.startBackgroundRefresh 0 .socks5, .loadProxies 0 true .socks5 oneProxy,
        .backgroundRefresh 0 oneProxy] state ∧
      state.AnsweredFromCache .socks5 ∧
      ∀ proxy ∈ state.answer asciiPlatform 1 .socks5 oneProxy,
        proxy.type = .socks5 := by
  have replayed : ([.startBackgroundRefresh 0 .socks5,
      .loadProxies 0 true .socks5 oneProxy,
      .backgroundRefresh 0 oneProxy].foldlM
        (fun (state : ProxyFinders) call =>
        if state.TypeKept call then exec asciiPlatform state call else none)
        initial).map (fun (state : ProxyFinders) =>
          (state.cached .socks5, state.prefs.writer (cacheKeyOf .socks5))) =
        some ([theProxy], some .socks5) := by
    decide +kernel
  obtain ⟨state, run, seen⟩ := System.replay_restrict _ replayed
  obtain ⟨listed, written⟩ := Prod.mk.inj seen
  have answered : state.AnsweredFromCache .socks5 :=
    ne_of_eq_of_ne listed (List.cons_ne_nil _ _)
  refine ⟨state, run, answered, ?_⟩
  apply ((cache_answers_type_iff asciiPlatform ⟨initial, _, rfl, run⟩).1 1
    .socks5 oneProxy answered).mpr
  intro _
  exact written

/-- After a search for SOCKS5 a call for SHADOWSOCKS is answered from the cache,
with the proxy for SOCKS5. -/
theorem shadowsocks_answered_with_socks5 :
    ∃ state, (system asciiPlatform).Run initial
      [.loadProxies 0 true .socks5 oneProxy] state ∧
      state.AnsweredFromCache .shadowsocks ∧
      state.answer asciiPlatform 0 .shadowsocks oneProxy = [theProxy] ∧
      ¬ ∀ proxy ∈ state.answer asciiPlatform 0 .shadowsocks oneProxy,
        proxy.type = .shadowsocks := by
  have replayed : ([.loadProxies 0 true .socks5 oneProxy].foldlM
      (exec asciiPlatform) initial).map (fun (state : ProxyFinders) =>
        state.cached .shadowsocks) = some [theProxy] := by
    decide +kernel
  obtain ⟨state, run, listed⟩ := System.replay _ replayed
  have answered : state.AnsweredFromCache .shadowsocks :=
    ne_of_eq_of_ne listed (List.cons_ne_nil _ _)
  have answer : state.answer asciiPlatform 0 .shadowsocks oneProxy =
      [theProxy] :=
    (answer_eq_cached answered).trans listed
  refine ⟨state, run, answered, answer, ?_⟩
  intro typed
  rw [answer] at typed
  exact absurd (typed theProxy List.mem_cons_self) (by decide)

end ProxyFinders

end ProxyVPN
