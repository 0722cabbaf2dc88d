/-
Module: ProxyVPN.App.Liveness
Purpose: The tests that `findWorkingProxies` makes of a new proxy and those that
  the quick check and the refresh make of a listed one, on a network that
  behaves the same at all times, and exactly when they agree.
Trusted boundary: human-reviewed model. An `Endpoint` says what the sockets give:
  the connection, what a read finds after the bytes that were sent, and the end
  of a TLS handshake; the code itself takes no time.
Main exports: Endpoint, Liveness.testProxyFull, Liveness.testMTProto,
  Liveness.pingTime, Liveness.Accepted, Liveness.recheck_agrees_iff,
  Liveness.recheck_drops_shadowsocks
-/
import ProxyVPN.App.ProxyFinder
import ProxyVPN.App.MainViewModel

namespace ProxyVPN

open Kotlin

/-! ## The network -/

/-- The bytes that come, none at the end of the stream, and after how many
milliseconds. -/
structure Answer where
  bytes : List UInt8
  millis : Nat

/-- The end of a TLS handshake, and the milliseconds it takes. -/
structure TlsHandshake where
  completes : Bool
  millis : Nat

/-- What answers at a host and a port. -/
structure Endpoint where
  /-- The milliseconds until the connection is accepted; `none` if it is
  refused. -/
  accepts : Option Nat
  inTime : ∀ millis ∈ accepts, 1 ≤ millis ∧ millis ≤ 2999
  /-- What the next read finds after these bytes were sent; `none` if nothing
  comes. -/
  answer : List UInt8 → Option Answer
  handshake : TlsHandshake

abbrev Network := Text → Int → Endpoint

namespace Endpoint

/-- `Socket.connect`. -/
def connect (endpoint : Endpoint) (timeout : Nat) : Option Nat :=
  endpoint.accepts.filter fun millis => millis ≤ timeout

/-- `InputStream.read` into an array of this size. -/
def read (endpoint : Endpoint) (soTimeout : Nat) (sent : List UInt8)
    (size : Nat) : Option Answer :=
  (endpoint.answer sent).bind fun answer =>
    if answer.millis ≤ soTimeout then
      some { answer with bytes := answer.bytes.take size }
    else none

end Endpoint

namespace Liveness

/-! ## The tests -/

/-- Version 5 with the one method that needs no authentication. -/
def greeting : List UInt8 :=
  [0x05, 0x01, 0x00]

/-- CONNECT to 1.1.1.1:80. -/
def connectReq : List UInt8 :=
  [0x05, 0x01, 0x00, 0x01, 0x01, 0x01, 0x01, 0x01, 0x00, 0x50]

/-- The time of a test, or -1. -/
def orFailed (elapsed : Option Nat) : Int :=
  elapsed.elim (-1) fun millis => millis

def testProxyFull (endpoint : Endpoint) : Int :=
  orFailed <|
    (endpoint.connect 4000).bind fun connected =>
    (endpoint.read 3000 greeting 2).bind fun handshakeResp =>
      if handshakeResp.bytes = [0x05, 0x00] then
        (endpoint.read 3000 (greeting ++ connectReq) 10).bind
          fun connectResp =>
            if 4 ≤ connectResp.bytes.length ∧
                connectResp.bytes.take 2 = [0x05, 0x00] then
              some (connected + handshakeResp.millis + connectResp.millis)
            else none
      else none

def testProxyQuick (endpoint : Endpoint) : Bool :=
  0 < testProxyFull endpoint

/-- Where the TLS handshake fails, a second connection is made. -/
def testMTProto (endpoint : Endpoint) : Int :=
  orFailed <|
    endpoint.accepts.bind fun connected =>
      let handshake := endpoint.handshake
      if handshake.completes then
        let elapsed := connected + handshake.millis
        if 1 ≤ elapsed ∧ elapsed ≤ 5000 then some elapsed else none
      else
        (endpoint.connect 5000).bind fun again =>
          let elapsed := connected + handshake.millis + again
          if 1 ≤ elapsed ∧ elapsed ≤ 3000 then some elapsed else none

/-- The test of `findWorkingProxies` for a type. -/
def pingTime (endpoint : Endpoint) : ProxyType → Int
  | .socks5 => testProxyFull endpoint
  | .mtproto => testMTProto endpoint
  | .vless | .shadowsocks => orFailed (endpoint.connect 3000)

/-- The test of `backgroundRefresh` for a type. -/
def retest (endpoint : Endpoint) : ProxyType → Bool
  | .socks5 | .shadowsocks | .vless => testProxyQuick endpoint
  | .mtproto => 0 < testMTProto endpoint

/-- The proxy that `quickCheckProxies` makes of an item. -/
def quickCheckInfo (item : ProxyItem) : ProxyInfo where
  host := item.ip
  port := item.port
  type := if item.method ≠ none then .shadowsocks else .socks5
  secret := []
  method := item.method
  password := item.password

def endpointOf (network : Network) (proxy : ProxyInfo) : Endpoint :=
  network proxy.host proxy.port

/-- `findWorkingProxies` accepts the proxy for its type, with the location that
is found for it. -/
def Accepted (network : Network) (proxy : ProxyInfo)
    (location : Option Text) : Prop :=
  ProxyFinder.findWorkingProxies [proxy]
    [{ index := 0, pingTime := pingTime (endpointOf network proxy) proxy.type
       location := location }] proxy.type ≠ []

/-- The quick check keeps the item that a fetch makes of the proxy. -/
def QuickCheckPasses (network : Network) (proxy : ProxyInfo) : Prop :=
  ∀ favSet, testProxyQuick (endpointOf network
    (quickCheckInfo (ProxyItem.ofInfo favSet proxy))) = true

/-- A refresh for its type keeps the proxy as it is read from the cache. -/
def RefreshPasses (network : Network) (proxy : ProxyInfo) : Prop :=
  retest (endpointOf network proxy.inCache) proxy.type = true

/-! ## When the tests pass -/

/-- The endpoint selects the method and grants the CONNECT, as a server for
SOCKS5 does. -/
def SpeaksSocks5 (endpoint : Endpoint) : Prop :=
  (∃ answer, endpoint.read 3000 greeting 2 = some answer ∧
    answer.bytes = [0x05, 0x00]) ∧
  ∃ answer, endpoint.read 3000 (greeting ++ connectReq) 10 = some answer ∧
    4 ≤ answer.bytes.length ∧ answer.bytes.take 2 = [0x05, 0x00]

/-- The connection that the test for a type needs is accepted; for MTPROTO the
handshake ends in time, or it fails and two connections fit in 3 seconds. -/
def Reached (endpoint : Endpoint) : ProxyType → Prop
  | .mtproto => ∃ connected ∈ endpoint.accepts,
      if endpoint.handshake.completes then
        connected + endpoint.handshake.millis ≤ 4999
      else connected + endpoint.handshake.millis + connected ≤ 3000
  | .socks5 | .shadowsocks | .vless => endpoint.accepts.isSome = true

variable {endpoint : Endpoint}

theorem connect_eq (endpoint : Endpoint) {timeout : Nat}
    (long : 2999 ≤ timeout) : endpoint.connect timeout = endpoint.accepts := by
  unfold Endpoint.connect
  cases accepts : endpoint.accepts with
  | none => rfl
  | some millis =>
      have bound := (endpoint.inTime millis accepts).2
      rw [Option.filter_some, if_pos (decide_eq_true (bound.trans long))]

theorem orFailed_pos_iff {elapsed : Option Nat} :
    0 < orFailed elapsed ↔ ∃ millis, elapsed = some millis ∧ 1 ≤ millis := by
  cases elapsed with
  | none => exact iff_of_false (by decide) nofun
  | some millis =>
      constructor
      · intro positive
        exact ⟨millis, rfl, Int.natCast_pos.mp positive⟩
      · rintro ⟨_, same, positive⟩
        cases same
        exact Int.natCast_pos.mpr positive

theorem testProxyFull_pos_iff :
    0 < testProxyFull endpoint ↔
      endpoint.accepts.isSome = true ∧ SpeaksSocks5 endpoint := by
  unfold testProxyFull
  rw [orFailed_pos_iff, connect_eq endpoint (by decide)]
  constructor
  · rintro ⟨millis, tested, _⟩
    obtain ⟨connected, accepts, tested⟩ := Option.bind_eq_some_iff.mp tested
    obtain ⟨first, greeted, tested⟩ := Option.bind_eq_some_iff.mp tested
    obtain ⟨selects, tested⟩ := Option.ite_none_right_eq_some.mp tested
    obtain ⟨second, granted, tested⟩ := Option.bind_eq_some_iff.mp tested
    obtain ⟨grants, _⟩ := Option.ite_none_right_eq_some.mp tested
    exact ⟨Option.isSome_of_eq_some accepts, ⟨first, greeted, selects⟩,
      second, granted, grants⟩
  · rintro ⟨accepted, ⟨first, greeted, selects⟩, second, granted, grants⟩
    obtain ⟨connected, accepts⟩ := Option.isSome_iff_exists.mp accepted
    have positive := (endpoint.inTime connected accepts).1
    refine ⟨connected + first.millis + second.millis, ?_, by omega⟩
    rw [accepts, Option.bind_some, greeted, Option.bind_some, if_pos selects,
      granted, Option.bind_some, if_pos grants]

/-- What `findWorkingProxies` asks of the time of a test for MTPROTO. -/
theorem testMTProto_inTime_iff :
    (1 ≤ testMTProto endpoint ∧ testMTProto endpoint ≤ 4999) ↔
      Reached endpoint .mtproto := by
  unfold testMTProto Reached
  rw [connect_eq endpoint (by decide)]
  cases accepts : endpoint.accepts with
  | none =>
      rw [Option.bind_none]
      exact iff_of_false (by decide) fun reached => nomatch reached
  | some connected =>
      have bound := endpoint.inTime connected accepts
      simp only [Option.bind_some, Option.mem_some_iff, exists_eq_left']
      cases endpoint.handshake.completes with
      | true =>
          simp only [if_true]
          by_cases whole : 1 ≤ connected + endpoint.handshake.millis ∧
              connected + endpoint.handshake.millis ≤ 5000
          · rw [if_pos whole]
            simp only [orFailed, Option.elim_some]
            omega
          · rw [if_neg whole]
            simp only [orFailed, Option.elim_none]
            omega
      | false =>
          simp only [Bool.false_eq_true, if_false]
          by_cases whole : 1 ≤ connected + endpoint.handshake.millis +
              connected ∧
              connected + endpoint.handshake.millis + connected ≤ 3000
          · rw [if_pos whole]
            simp only [orFailed, Option.elim_some]
            omega
          · rw [if_neg whole]
            simp only [orFailed, Option.elim_none]
            omega

theorem connect_inTime_iff :
    (1 ≤ orFailed (endpoint.connect 3000) ∧
        orFailed (endpoint.connect 3000) ≤ 4999) ↔
      endpoint.accepts.isSome = true := by
  rw [connect_eq endpoint (by decide)]
  cases accepts : endpoint.accepts with
  | none => exact iff_of_false (by decide) (by decide)
  | some connected =>
      have bound := endpoint.inTime connected accepts
      refine iff_of_true ?_ rfl
      simp only [orFailed, Option.elim_some]
      omega

/-! ## Agreement -/

variable {network : Network} {proxy : ProxyInfo} {location : Option Text}

/-- A proxy is accepted if its test was in time, one for SOCKS5 only with a
location that is accepted. -/
theorem accepted_iff :
    Accepted network proxy location ↔
      (1 ≤ pingTime (endpointOf network proxy) proxy.type ∧
        pingTime (endpointOf network proxy) proxy.type ≤ 4999) ∧
      (proxy.type = .socks5 →
        location ≠ none ∧ location ≠ some "RU".toList) := by
  unfold Accepted
  rw [ProxyFinder.findWorkingProxies, ← List.length_pos_iff, length_sortedBy,
    List.length_pos_iff]
  unfold ProxyFinder.workingProxies
  simp only [List.filterMap_cons, List.filterMap_nil, List.getElem?_cons_zero,
    Option.bind_some]
  by_cases inTime : 1 ≤ pingTime (endpointOf network proxy) proxy.type ∧
      pingTime (endpointOf network proxy) proxy.type ≤ 4999
  · rw [if_pos inTime, and_iff_right inTime]
    by_cases socks5 : proxy.type = .socks5
    · rw [if_pos socks5, forall_prop_of_true socks5, List.filterMap_cons]
      dsimp only
      by_cases located : location ≠ none ∧ location ≠ some "RU".toList
      · rw [if_pos located]
        exact iff_of_true nofun located
      · rw [if_neg located]
        exact iff_of_false (fun some => some rfl) located
    · rw [if_neg socks5]
      exact iff_of_true (by simp) fun same => absurd same socks5
  · rw [if_neg inTime]
    refine iff_of_false ?_ fun accepted => inTime accepted.1
    split <;> simp

/-- Whatever else is tested with it, a proxy that is found is accepted. -/
theorem exists_accepted {proxies : List ProxyInfo} {found : ProxyInfo}
    {completions : List Completion} {proxyType : ProxyType}
    (typed : ∀ proxy ∈ proxies, proxy.type = proxyType)
    (measured : ∀ done ∈ completions, ∀ proxy,
      proxies[done.index]? = some proxy →
        done.pingTime = pingTime (endpointOf network proxy) proxyType)
    (member : found ∈
      ProxyFinder.findWorkingProxies proxies completions proxyType) :
    ∃ proxy ∈ proxies, found.identity = proxy.identity ∧
      ∃ location, Accepted network proxy location := by
  have tested : ∀ working ∈ ProxyFinder.workingProxies proxies completions,
      ∃ proxy ∈ proxies, working.1.identity = proxy.identity ∧
        1 ≤ pingTime (endpointOf network proxy) proxy.type ∧
        pingTime (endpointOf network proxy) proxy.type ≤ 4999 := by
    intro working inside
    obtain ⟨done, completed, submitted⟩ := List.mem_filterMap.mp inside
    obtain ⟨proxy, here, passes⟩ := Option.bind_eq_some_iff.mp submitted
    obtain ⟨inTime, same⟩ := Option.ite_none_right_eq_some.mp passes
    have among := List.mem_of_getElem? here
    rw [measured done completed proxy here, ← typed proxy among] at inTime
    cases same
    exact ⟨proxy, among, rfl, inTime⟩
  unfold ProxyFinder.findWorkingProxies at member
  rw [mem_sortedBy] at member
  by_cases socks5 : proxyType = .socks5
  · rw [if_pos socks5] at member
    obtain ⟨working, inside, located⟩ := List.mem_filterMap.mp member
    obtain ⟨accepted, same⟩ := Option.ite_none_right_eq_some.mp located
    obtain ⟨proxy, among, identity, inTime⟩ := tested working inside
    cases same
    exact ⟨proxy, among, identity, working.2,
      accepted_iff.mpr ⟨inTime, fun _ => accepted⟩⟩
  · rw [if_neg socks5] at member
    obtain ⟨working, inside, rfl⟩ := List.mem_map.mp member
    obtain ⟨proxy, among, identity, inTime⟩ := tested working inside
    have other : proxy.type ≠ .socks5 := typed proxy among ▸ socks5
    exact ⟨proxy, among, identity, none,
      accepted_iff.mpr ⟨inTime, fun same => absurd same other⟩⟩

theorem accepted_iff_reached (other : proxy.type ≠ .socks5) :
    Accepted network proxy location ↔
      Reached (endpointOf network proxy) proxy.type := by
  rw [accepted_iff, and_iff_left fun same => absurd same other]
  cases type : proxy.type with
  | socks5 => exact absurd type other
  | mtproto => exact testMTProto_inTime_iff
  | shadowsocks => exact connect_inTime_iff
  | vless => exact connect_inTime_iff

theorem quickCheckPasses_iff :
    QuickCheckPasses network proxy ↔
      (endpointOf network proxy).accepts.isSome = true ∧
        SpeaksSocks5 (endpointOf network proxy) := by
  rw [← testProxyFull_pos_iff]
  constructor
  · intro passes
    exact of_decide_eq_true (passes [])
  · intro positive favSet
    exact decide_eq_true positive

/-- What the later tests ask of a type, beyond what its first test asked. -/
theorem refreshPasses_iff (other : proxy.type ≠ .mtproto) :
    RefreshPasses network proxy ↔
      (endpointOf network proxy).accepts.isSome = true ∧
        SpeaksSocks5 (endpointOf network proxy) := by
  rw [← testProxyFull_pos_iff]
  unfold RefreshPasses
  cases type : proxy.type with
  | mtproto => exact absurd type other
  | socks5 | shadowsocks | vless => exact decide_eq_true_iff

theorem Accepted.refreshPasses (accepted : Accepted network proxy location)
    (mtproto : proxy.type = .mtproto) : RefreshPasses network proxy := by
  have inTime := (accepted_iff.mp accepted).1
  unfold RefreshPasses
  rw [mtproto] at inTime ⊢
  exact decide_eq_true inTime.1

theorem Accepted.speaksSocks5 (accepted : Accepted network proxy location)
    (socks5 : proxy.type = .socks5) :
    (endpointOf network proxy).accepts.isSome = true ∧
      SpeaksSocks5 (endpointOf network proxy) := by
  have inTime := (accepted_iff.mp accepted).1
  rw [socks5] at inTime
  exact testProxyFull_pos_iff.mp inTime.1

theorem Reached.accepts {proxyType : ProxyType}
    (reached : Reached endpoint proxyType) :
    endpoint.accepts.isSome = true := by
  cases proxyType with
  | mtproto =>
      obtain ⟨connected, accepts, _⟩ := reached
      exact Option.isSome_of_eq_some accepts
  | socks5 | shadowsocks | vless => exact reached

/-- The quick check and the refresh agree with the discovery of a proxy exactly
if it is one for SOCKS5, or its endpoint is not reached, or it speaks SOCKS5.
The refresh alone agrees for MTPROTO as well. -/
theorem recheck_agrees_iff (network : Network) (proxy : ProxyInfo)
    (location : Option Text) :
    ((Accepted network proxy location →
        QuickCheckPasses network proxy ∧ RefreshPasses network proxy) ↔
      proxy.type = .socks5 ∨
        ¬Reached (endpointOf network proxy) proxy.type ∨
        SpeaksSocks5 (endpointOf network proxy)) ∧
    ((Accepted network proxy location → RefreshPasses network proxy) ↔
      proxy.type = .socks5 ∨ proxy.type = .mtproto ∨
        ¬Reached (endpointOf network proxy) proxy.type ∨
        SpeaksSocks5 (endpointOf network proxy)) := by
  by_cases socks5 : proxy.type = .socks5
  · have other : proxy.type ≠ .mtproto := by
      rw [socks5]
      decide
    have speaks := fun accepted : Accepted network proxy location =>
      accepted.speaksSocks5 socks5
    constructor
    · refine iff_of_true ?_ (.inl socks5)
      intro accepted
      exact ⟨quickCheckPasses_iff.mpr (speaks accepted),
        (refreshPasses_iff other).mpr (speaks accepted)⟩
    · refine iff_of_true ?_ (.inl socks5)
      exact fun accepted => (refreshPasses_iff other).mpr (speaks accepted)
  · have reached : Accepted network proxy location ↔
        Reached (endpointOf network proxy) proxy.type :=
      accepted_iff_reached socks5
    rw [or_iff_right socks5, or_iff_right socks5, ← reached]
    have tested : SpeaksSocks5 (endpointOf network proxy) →
        Accepted network proxy location →
        (endpointOf network proxy).accepts.isSome = true ∧
          SpeaksSocks5 (endpointOf network proxy) :=
      fun speaks accepted => ⟨(reached.mp accepted).accepts, speaks⟩
    have refresh : SpeaksSocks5 (endpointOf network proxy) →
        Accepted network proxy location → RefreshPasses network proxy := by
      intro speaks accepted
      by_cases mtproto : proxy.type = .mtproto
      · exact accepted.refreshPasses mtproto
      · exact (refreshPasses_iff mtproto).mpr (tested speaks accepted)
    constructor
    · constructor
      · intro agrees
        by_cases accepted : Accepted network proxy location
        · exact .inr (quickCheckPasses_iff.mp (agrees accepted).1).2
        · exact .inl accepted
      · rintro (missed | speaks) accepted
        · exact absurd accepted missed
        · exact ⟨quickCheckPasses_iff.mpr (tested speaks accepted),
            refresh speaks accepted⟩
    · by_cases mtproto : proxy.type = .mtproto
      · refine iff_of_true ?_ (.inl mtproto)
        exact fun accepted => accepted.refreshPasses mtproto
      · rw [or_iff_right mtproto]
        constructor
        · intro agrees
          by_cases accepted : Accepted network proxy location
          · exact .inr ((refreshPasses_iff mtproto).mp (agrees accepted)).2
          · exact .inl accepted
        · rintro (missed | speaks) accepted
          · exact absurd accepted missed
          · exact refresh speaks accepted

/-- A server for Shadowsocks accepts connections and closes one that begins
with a greeting for SOCKS5. -/
def shadowsocksServer : Endpoint where
  accepts := some 20
  inTime := by decide
  answer _ := some { bytes := [], millis := 5 }
  handshake := { completes := false, millis := 5 }

/-- It is found, and dropped by both later tests. -/
theorem recheck_drops_shadowsocks :
    ∃ proxy : ProxyInfo, proxy.type = .shadowsocks ∧
      Accepted (fun _ _ => shadowsocksServer) proxy none ∧
      ¬QuickCheckPasses (fun _ _ => shadowsocksServer) proxy ∧
      ¬RefreshPasses (fun _ _ => shadowsocksServer) proxy := by
  let proxy : ProxyInfo :=
    { host := "192.0.2.1".toList, port := 8388, type := .shadowsocks,
      method := some "aes-256-gcm".toList, password := some "p".toList }
  have fails : testProxyQuick shadowsocksServer = false := by decide
  refine ⟨proxy, rfl, ?_, ?_, ?_⟩
  · exact accepted_iff.mpr ⟨by decide, nofun⟩
  · intro passes
    exact Bool.false_ne_true (fails.symm.trans (passes []))
  · intro passes
    exact Bool.false_ne_true (fails.symm.trans passes)

end Liveness

end ProxyVPN
