/-
Module: ProxyVPN.Hev.Socks5Handshake
Purpose: The handshakes of a client and a server over two byte streams: every
  run ends, and both sides agree on its outcome.
Trusted boundary: human-reviewed model
Main exports: Authenticates, Works, exists_success, exists_failure, handshakes,
  handshakes_agree
-/
import ProxyVPN.Hev.Socks5Client
import ProxyVPN.Hev.Socks5Server

namespace ProxyVPN

open Dialogue Socks5Proto Transition

/-! ## The dialogue of both sides -/

/-- The server authenticates the client: credentials are set exactly when an
authenticator is set, which maps the user to the password. -/
def Authenticates (server : HevSocks5Server) (client : HevSocks5Client) : Prop :=
  match client.user, client.pass with
  | some user, some pass => server.Accepts user.bytes pass.bytes
  | _, _ => server.auth = none

/-- The request of a client for an address. -/
def requestMessage (client : HevSocks5Client) (addr : HevSocks5Addr) :
    List UInt8 :=
  [version5, client.type.cmd, 0] ++ addr.wire

/-! ## Success -/

/-- Both sides succeed, and nothing is left on its way. -/
def success (client : HevSocks5Client) (addr : HevSocks5Addr)
    (user : Option HevSocks5User) : Ending UInt8 Int Handshake :=
  ⟨0, ⟨0, 0, user, client.type, requestMessage client addr⟩, [], []⟩

/-- The processes can take turns to the success of both. -/
abbrev Succeeds (client : HevSocks5Client) (addr : HevSocks5Addr)
    (user : Option HevSocks5User) :
    Process UInt8 Int → Process UInt8 Handshake → List UInt8 → List UInt8 → Prop :=
  Leads (fun _ => True) (fun _ => True) (success client addr user)

section Success

variable {client : HevSocks5Client} {server : HevSocks5Server}
  {addr : HevSocks5Addr} {user : Option HevSocks5User}

/-- What the agreement rests on: credentials that fit, the address that the
client supplies, its resolution, and sockets on both sides. -/
structure Works (client : HevSocks5Client) (server : HevSocks5Server)
    (addr : HevSocks5Addr) : Prop where
  fit : client.CredentialsFit
  supplied : client.getUpstreamAddr = some addr
  resolves : server.Resolves addr
  clientSockets : client.sockets.Succeed
  serverSockets : server.sockets.Succeed

/-- The address that the client supplies is a valid one. -/
theorem Works.valid (works : Works client server addr) : 0 < addr.addrLen := by
  obtain ⟨supplied, same, valid⟩ := client.exists_upstream.2
  rw [works.supplied] at same
  cases same
  exact valid

/-- The client reads the response to its end, whatever address it carries. -/
theorem awaitResponse_succeeds (works : Works client server addr)
    (saddr : Sockaddr6) :
    Succeeds client addr user client.awaitResponse
      (.done ⟨0, 0, user, client.type, requestMessage client addr⟩) []
      ([version5, resRepSucc, 0] ++ addrFromSockaddr6 saddr) := by
  rw [← List.append_nil ([version5, resRepSucc, 0] ++ addrFromSockaddr6 saddr)]
  rw [client.awaitResponse_eq]
  exact client.readResponse_leads works.clientSockets saddr (.done trivial)
    fun _ => .done

/-- A server that has authenticated reads the request, connects and responds;
the rest is up to the client. -/
theorem finish_succeeds (works : Works client server addr)
    {left : Process UInt8 Int} {toLeft : List UInt8}
    (behind : ∀ saddr, Succeeds client addr user left
      (.done ⟨0, 0, user, client.type, requestMessage client addr⟩) []
      (toLeft ++ ([version5, resRepSucc, 0] ++ addrFromSockaddr6 saddr))) :
    Succeeds client addr user left (server.finish user)
      (requestMessage client addr) toLeft := by
  rw [← List.append_nil (requestMessage client addr)]
  exact HevSocks5Server.finish_leads works.serverSockets
    client.exists_upstream.1 works.valid works.resolves
    (Hopeless.of_forall fun _ => trivial) behind

/-- The client sends its request and reads the response, and both are done. -/
theorem exchangeRequest_succeeds (works : Works client server addr) :
    Succeeds client addr user (client.exchangeRequest (-1) client.awaitResponse)
      (server.finish user) [] [] := by
  refine client.writeRequest_leads works.supplied works.valid (.done trivial) ?_
  exact finish_succeeds works (awaitResponse_succeeds works)

/-! ### Without credentials -/

/-- Without credentials on either side the standard handshake succeeds, -/
theorem standard_succeeds_unset (works : Works client server addr)
    (unset : client.CredsUnset) (noAuth : server.auth = none) :
    Succeeds client addr none (client.handshakeStandard (-1) client.awaitResponse)
      server.handshake [] [] := by
  unfold HevSocks5Client.handshakeStandard
  refine client.writeAuthMethods_leads (.done trivial) ?_
  rw [unset.method]
  refine HevSocks5Server.accepts_method_none noAuth trivial ?_
  refine HevSocks5Client.readAuthMethod_leads (.done trivial) ?_
  exact exchangeRequest_succeeds works

/-- and so does the pipelined one. -/
theorem pipeline_succeeds_unset (works : Works client server addr)
    (unset : client.CredsUnset) (noAuth : server.auth = none) :
    Succeeds client addr none (client.handshakePipeline (-1) client.awaitResponse)
      server.handshake [] [] := by
  refine client.handshakePipeline_leads works.fit works.supplied works.valid
    trivial ?_
  rw [unset.method, unset.authCreds]
  refine HevSocks5Server.accepts_method_none noAuth trivial ?_
  refine finish_succeeds works ?_
  intro saddr
  refine HevSocks5Client.readAuthMethod_leads (.done trivial) ?_
  exact awaitResponse_succeeds works saddr

/-! ### With credentials -/

/-- With credentials that the server accepts the standard handshake succeeds, -/
theorem standard_succeeds_set (works : Works client server addr)
    {name pass : CString} (set : client.CredsSet name pass)
    (accepts : server.Accepts name.bytes pass.bytes) :
    Succeeds client addr (some ⟨name.bytes, pass.bytes⟩)
      (client.handshakeStandard (-1) client.awaitResponse) server.handshake [] [] := by
  obtain ⟨nameFits, passFits⟩ := set.fits works.fit
  unfold HevSocks5Client.handshakeStandard
  refine client.writeAuthMethods_leads (.done trivial) ?_
  rw [set.method]
  refine HevSocks5Server.accepts_method_user accepts.isSome trivial ?_
  refine HevSocks5Client.readAuthMethod_leads (.done trivial) ?_
  refine client.writeAuthCreds_leads works.fit (.done trivial) ?_
  rw [set.authCreds, List.nil_append, ← List.append_nil (credsMessage _ _)]
  refine HevSocks5Server.accepts_user nameFits passFits accepts ?_ ?_
  · exact fun _ => trivial
  refine HevSocks5Client.readAuthCreds_leads (.done trivial) ?_
  exact exchangeRequest_succeeds works

/-- and so does the pipelined one, which sends them before it knows the method.
-/
theorem pipeline_succeeds_set (works : Works client server addr)
    {name pass : CString} (set : client.CredsSet name pass)
    (accepts : server.Accepts name.bytes pass.bytes) :
    Succeeds client addr (some ⟨name.bytes, pass.bytes⟩)
      (client.handshakePipeline (-1) client.awaitResponse) server.handshake [] [] := by
  obtain ⟨nameFits, passFits⟩ := set.fits works.fit
  refine client.handshakePipeline_leads works.fit works.supplied works.valid
    trivial ?_
  rw [set.method, set.authCreds]
  refine HevSocks5Server.accepts_method_user accepts.isSome trivial ?_
  refine HevSocks5Server.accepts_user nameFits passFits accepts ?_ ?_
  · exact fun _ => trivial
  refine finish_succeeds works ?_
  intro saddr
  refine HevSocks5Client.readAuthMethod_leads (.done trivial) ?_
  refine HevSocks5Client.readAuthCreds_leads (.done trivial) ?_
  exact awaitResponse_succeeds works saddr

/-- A client that the server authenticates comes to its success. -/
theorem exists_success (works : Works client server addr)
    (authentic : Authenticates server client) (pipeline : Bool) :
    ∃ user, Succeeds client addr user (client.handshake pipeline)
      server.handshake [] [] := by
  unfold Authenticates at authentic
  split at authentic
  case h_1 name pass nameSet passSet =>
    cases pipeline
    · exact ⟨_, standard_succeeds_set works ⟨nameSet, passSet⟩ authentic⟩
    · exact ⟨_, pipeline_succeeds_set works ⟨nameSet, passSet⟩ authentic⟩
  case h_2 missing =>
    have unset : client.CredsUnset := .of_missing missing
    cases pipeline
    · exact ⟨_, standard_succeeds_unset works unset authentic⟩
    · exact ⟨_, pipeline_succeeds_unset works unset authentic⟩

end Success

/-! ## Failure -/

/-- The authentication has failed on the server. -/
def Rejected (served : Handshake) : Prop := served.res < 0 ∧ served.authRes < 0

/-- The processes can take turns to the failure of both, after which
`toRight` is left on its way. -/
abbrev Fails (toRight : List UInt8) :
    Process UInt8 Int → Process UInt8 Handshake → List UInt8 → List UInt8 → Prop :=
  Leads (fun res => res < 0) Rejected
    ⟨-1, ⟨-1, -1, none, .none, []⟩, toRight, []⟩

section Failure

variable {client : HevSocks5Client} {server : HevSocks5Server}
  {addr : HevSocks5Addr}

theorem negative : (-1 : Int) < 0 := by decide

/-- A server that rejects a client ends with an error in both its results. -/
theorem rejected (user : Option HevSocks5User) :
    Rejected ⟨-1, -1, user, .none, []⟩ := ⟨negative, negative⟩

/-- Where the server wants another method, the standard handshake fails with
nothing on its way. -/
theorem standard_fails_method (different : server.method ≠ client.method) :
    Fails [] (client.handshakeStandard (-1) client.awaitResponse) server.handshake [] [] := by
  unfold HevSocks5Client.handshakeStandard
  refine client.writeAuthMethods_leads (.done negative) ?_
  refine HevSocks5Server.rejects_method different (rejected none) ?_
  refine HevSocks5Client.readAuthMethod_leads (.done negative) ?_
  exact .done

/-- The pipelined one fails with its credentials and its request unread. -/
theorem pipeline_fails_method (works : Works client server addr)
    (different : server.method ≠ client.method) :
    Fails (client.authCreds ++ requestMessage client addr)
      (client.handshakePipeline (-1) client.awaitResponse) server.handshake [] [] := by
  refine client.handshakePipeline_leads works.fit works.supplied works.valid
    negative ?_
  refine HevSocks5Server.rejects_method different (rejected none) ?_
  refine HevSocks5Client.readAuthMethod_leads (.done negative) ?_
  exact .done

/-- Where the server does not accept the credentials, the standard handshake
fails, -/
theorem standard_fails_user (works : Works client server addr)
    {name pass : CString} (set : client.CredsSet name pass)
    (guarded : server.auth.isSome)
    (rejects : ¬server.Accepts name.bytes pass.bytes) :
    Fails [] (client.handshakeStandard (-1) client.awaitResponse) server.handshake [] [] := by
  obtain ⟨nameFits, passFits⟩ := set.fits works.fit
  unfold HevSocks5Client.handshakeStandard
  refine client.writeAuthMethods_leads (.done negative) ?_
  rw [set.method]
  refine HevSocks5Server.accepts_method_user guarded (rejected none) ?_
  refine HevSocks5Client.readAuthMethod_leads (.done negative) ?_
  refine client.writeAuthCreds_leads works.fit (.done negative) ?_
  rw [set.authCreds, List.nil_append, ← List.append_nil (credsMessage _ _)]
  refine HevSocks5Server.rejects_user nameFits passFits rejects (rejected none) ?_
  refine HevSocks5Client.readAuthCreds_leads (.done negative) ?_
  exact .done

/-- and the pipelined one does, with its request unread. -/
theorem pipeline_fails_user (works : Works client server addr)
    {name pass : CString} (set : client.CredsSet name pass)
    (guarded : server.auth.isSome)
    (rejects : ¬server.Accepts name.bytes pass.bytes) :
    Fails (requestMessage client addr)
      (client.handshakePipeline (-1) client.awaitResponse) server.handshake [] [] := by
  obtain ⟨nameFits, passFits⟩ := set.fits works.fit
  refine client.handshakePipeline_leads works.fit works.supplied works.valid
    negative ?_
  rw [set.method, set.authCreds]
  refine HevSocks5Server.accepts_method_user guarded (rejected none) ?_
  refine HevSocks5Server.rejects_user nameFits passFits rejects (rejected none) ?_
  refine HevSocks5Client.readAuthMethod_leads (.done negative) ?_
  refine HevSocks5Client.readAuthCreds_leads (.done negative) ?_
  exact .done

/-- In either mode another method makes both sides fail. -/
theorem exists_fails_method (works : Works client server addr)
    (different : server.method ≠ client.method) (pipeline : Bool) :
    ∃ toRight, Fails toRight (client.handshake pipeline) server.handshake [] [] := by
  cases pipeline
  · exact ⟨_, standard_fails_method different⟩
  · exact ⟨_, pipeline_fails_method works different⟩

/-- Any other client comes to the failure of both. -/
theorem exists_failure (works : Works client server addr)
    (foreign : ¬Authenticates server client) (pipeline : Bool) :
    ∃ toRight, Fails toRight (client.handshake pipeline) server.handshake [] [] := by
  unfold Authenticates at foreign
  split at foreign
  case h_1 name pass nameSet passSet =>
    have set : client.CredsSet name pass := ⟨nameSet, passSet⟩
    by_cases guarded : server.auth.isSome
    · cases pipeline
      · exact ⟨_, standard_fails_user works set guarded foreign⟩
      · exact ⟨_, pipeline_fails_user works set guarded foreign⟩
    · have method : server.method = authMethodNone := if_neg guarded
      refine exists_fails_method works ?_ pipeline
      rw [method, set.method]
      decide
  case h_2 missing =>
    have unset : client.CredsUnset := .of_missing missing
    have guarded : server.auth.isSome := Option.isSome_iff_ne_none.mpr foreign
    have method : server.method = authMethodUser := if_pos guarded
    refine exists_fails_method works ?_ pipeline
    rw [method, unset.method]
    decide

end Failure

/-! ## Agreement -/

/-- All runs of both handshakes, where a side that failed may close its end. -/
def handshakes (client : HevSocks5Client) (server : HevSocks5Server)
    (pipeline closes : Bool) : System (Talk UInt8 Int Handshake) Turn :=
  dialogue (fun res => closes = true ∧ res < 0)
    (fun served => closes = true ∧ served.res < 0) (client.handshake pipeline)
    server.handshake

/-- Both sides are done and agree: they succeed with the request of the client
where the server authenticates it, and fail otherwise. -/
def Agree (client : HevSocks5Client) (server : HevSocks5Server)
    (addr : HevSocks5Addr) (talk : Talk UInt8 Int Handshake) : Prop :=
  ∃ res served, talk.left = .done res ∧ talk.right = .done served ∧
    (0 ≤ served.authRes ↔ Authenticates server client) ∧
    (Authenticates server client →
      res = 0 ∧ served.res = 0 ∧ served.read = requestMessage client addr ∧
        talk.toRight = [] ∧ talk.toLeft = []) ∧
    (¬Authenticates server client → res < 0 ∧ served.res < 0)

section Agreement

variable {client : HevSocks5Client} {server : HevSocks5Server}
  {addr : HevSocks5Addr} {pipeline closes : Bool} {talk : Talk UInt8 Int Handshake}

/-- Where the server authenticates the client, a run that has stopped is a
success. -/
theorem agree_of_success (works : Works client server addr)
    (authentic : Authenticates server client)
    (reached : (handshakes client server pipeline closes).Reachable talk)
    (stopped : ∀ turn next,
      ¬(handshakes client server pipeline closes).step talk turn next) :
    Agree client server addr talk := by
  obtain ⟨user, succeeds⟩ := exists_success works authentic pipeline
  have ended := succeeds.ends (fun closed => absurd closed.2 (lt_irrefl 0))
    (fun closed => absurd closed.2 (lt_irrefl 0)) reached stopped
  rw [ended]
  refine ⟨0, _, rfl, rfl, ⟨fun _ => authentic, fun _ => le_rfl⟩, ?_, ?_⟩
  · exact fun _ => ⟨rfl, rfl, rfl, rfl, rfl⟩
  · exact fun foreign => absurd authentic foreign

/-- Where it does not, a run that has stopped is a failure of both. -/
theorem agree_of_failure (works : Works client server addr)
    (foreign : ¬Authenticates server client)
    (reached : (handshakes client server pipeline closes).Reachable talk)
    (stopped : ∀ turn next,
      ¬(handshakes client server pipeline closes).step talk turn next) :
    Agree client server addr talk := by
  obtain ⟨toRight, fails⟩ := exists_failure works foreign pipeline
  obtain ⟨res, served, left, right, resBad, servedBad⟩ : ∃ res served,
      talk.left = .done res ∧ talk.right = .done served ∧ res < 0 ∧
        Rejected served := by
    cases closes with
    | true =>
        exact fails.ends_badly negative (rejected none) (fun _ bad => ⟨rfl, bad⟩)
          (fun _ bad => ⟨rfl, bad.1⟩) reached stopped
    | false =>
        have ended := fails.ends nofun nofun reached stopped
        rw [ended]
        exact ⟨_, _, rfl, rfl, negative, rejected none⟩
  refine ⟨res, served, left, right, ⟨?_, ?_⟩, ?_, ?_⟩
  · exact fun authRes => absurd authRes servedBad.2.not_ge
  · exact fun authentic => absurd authentic foreign
  · exact fun authentic => absurd authentic foreign
  · exact fun _ => ⟨resBad, servedBad.1⟩

end Agreement

/-- A client and a server agree in every run of their handshakes: all runs are
finite, and where they stop the server has authenticated the client exactly if
it should, both succeeded with the same request, or both failed. -/
theorem handshakes_agree (client : HevSocks5Client) (server : HevSocks5Server)
    (addr : HevSocks5Addr) (pipeline closes : Bool)
    (works : Works client server addr) :
    (∀ talk, Acc (fun later earlier =>
      ∃ turn, (handshakes client server pipeline closes).step earlier turn later)
      talk) ∧
    ∀ talk, (handshakes client server pipeline closes).Reachable talk →
      (∀ turn next,
        ¬(handshakes client server pipeline closes).step talk turn next) →
      Agree client server addr talk := by
  refine ⟨fun talk => dialogue_terminates _ _ talk, ?_⟩
  intro talk reached stopped
  by_cases authentic : Authenticates server client
  · exact agree_of_success works authentic reached stopped
  · exact agree_of_failure works authentic reached stopped

/-! ### A client with a password -/

/-- Calls that give one socket with the zero address. -/
def oneSocket : Sockets where
  socket _ _ := 3
  binder _ _ := 0
  connect _ _ := 0
  reuseAddr _ := 0
  connectionName := some Sockaddr6.zero
  bind _ _ := 0
  boundName _ := some Sockaddr6.zero

/-- Every name resolves to the loopback address. -/
def loopback : Resolver where
  inetPton4 _ := none
  inetPton6 _ := none
  getaddrinfo _ _ := some (.inet ⟨[127, 0, 0, 1], rfl⟩)

/-- The name `p` with port 80. -/
def portEighty : HevSocks5Addr :=
  ⟨[3, 1, 112, 0, 80] ++ List.replicate 255 0, by
    rw [List.length_append, List.length_replicate]
    rfl⟩

def clientA : HevSocks5Client where
  user := some ⟨[97], CString.zero_notMem_a⟩
  pass := some ⟨[98], CString.zero_notMem_b⟩
  type := .tcp
  addrFamily := .ipv4
  klass := .tcp portEighty
  supplies := ⟨rfl, by decide +kernel⟩
  resolver := loopback
  sockets := oneSocket
  stack := HevSocks5Addr.zero 0

def serverA : HevSocks5Server where
  auth := some ⟨.node .leaf ⟨[97], [98]⟩ .leaf, List.pairwise_singleton _ _⟩
  addrFamily := .unspec
  resolver := loopback
  sockets := oneSocket
  stack := HevSocks5Addr.zero 0

/-- The calls of this socket succeed. -/
theorem oneSocket_succeed : oneSocket.Succeed where
  socket _ _ := show (0 : Int) ≤ 3 by decide
  binder _ _ := le_refl (0 : Int)
  connect _ _ := le_refl (0 : Int)
  reuseAddr _ := le_refl (0 : Int)
  connectionName := Option.some_ne_none _
  bind _ _ := le_refl (0 : Int)
  boundName _ := Option.some_ne_none _

/-- This client and this server meet what the agreement rests on. -/
theorem worksA : Works clientA serverA portEighty where
  fit := by
    rintro name ⟨⟩ pass ⟨⟩
    decide
  supplied := rfl
  resolves := by
    unfold HevSocks5Server.Resolves
    decide +kernel
  clientSockets := oneSocket_succeed
  serverSockets := oneSocket_succeed

/-- This client is let in, and its request arrives, in every run. -/
theorem handshakes_agree_clientA :
    Authenticates serverA clientA ∧
      ∀ talk, (handshakes clientA serverA true true).Reachable talk →
        (∀ turn next, ¬(handshakes clientA serverA true true).step talk turn next) →
        ∃ served, talk.left = .done 0 ∧ talk.right = .done served ∧
          served.read = [5, 1, 0, 3, 1, 112, 0, 80] := by
  have authentic : Authenticates serverA clientA :=
    ⟨_, rfl, List.mem_singleton_self _⟩
  refine ⟨authentic, ?_⟩
  intro talk reached stopped
  obtain ⟨res, served, left, right, _, agrees, _⟩ :=
    (handshakes_agree clientA serverA portEighty true true worksA).2 talk reached
      stopped
  obtain ⟨rfl, _, read, _⟩ := agrees authentic
  refine ⟨served, left, right, ?_⟩
  rw [read]
  decide +kernel

end ProxyVPN
