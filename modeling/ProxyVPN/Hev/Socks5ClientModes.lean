/-
Module: ProxyVPN.Hev.Socks5ClientModes
Purpose: The standard and the pipelined handshake of hev-socks5-client.c against
  every server that is a function of what it has consumed: where one of them
  succeeds so does the other, with the same bytes sent and read and the same
  address for `set_upstream_addr`.
Trusted boundary: human-reviewed model
Main exports: AnswersInTurn, Replies, handshakeWithAddr_ensures,
  satisfies_of_success, handshakePipeline_proceeds,
  AnswersInTurn.handshakeStandard_proceeds, handshake_modes_agree
-/
import ProxyVPN.Hev.Socks5Handshake
import ProxyVPN.Lib.Inquiry

namespace ProxyVPN

open Dialogue Socks5Proto Transition

namespace HevSocks5Client

/-! ## What the client sends, and servers that answer it -/

/-- The list of methods of the client. -/
def methodsMessage (self : HevSocks5Client) : List UInt8 :=
  [version5, 1, self.method]

/-- What `hev_socks5_client_write_auth_creds` sends; the lengths are one byte
each. -/
def sentCreds (self : HevSocks5Client) : List UInt8 :=
  match self.user, self.pass with
  | some user, some pass =>
      let userLen := UInt8.ofNat user.bytes.length
      let passLen := UInt8.ofNat pass.bytes.length
      [authVersion1, userLen] ++ user.bytes.take userLen.toNat ++ [passLen] ++
        pass.bytes.take passLen.toNat
  | _, _ => []

/-- The request of the client. -/
def sentRequest (self : HevSocks5Client) : List UInt8 :=
  match self.getUpstreamAddr with
  | some addr => [version5, self.type.cmd, 0] ++ addr.wire
  | none => []

/-- All that the client can send. -/
def sentMessages (self : HevSocks5Client) : List UInt8 :=
  self.methodsMessage ++ (self.sentCreds ++ self.sentRequest)

/-- The server answers each message of the client when it is complete, the first
one with the method of the client or with none, and the credentials, where it
has asked for them, with two bytes or with the end of the connection.  What it
says after the request is up to it, and so is when it closes its end. -/
structure AnswersInTurn (client : HevSocks5Client) (server : Responder UInt8) :
    Prop where
  methods : server.SilentWithin [] client.methodsMessage
  creds : server.SilentWithin client.methodsMessage client.sentCreds
  request : server.SilentWithin (client.methodsMessage ++ client.sentCreds)
    client.sentRequest
  offer : ∃ version method, server.answer client.methodsMessage = [version, method] ∧
    (method = client.method ∨ method = 0xff)
  login : ∀ version, server.answer client.methodsMessage = [version, authMethodUser] →
    (server.answer (client.methodsMessage ++ client.sentCreds)).length = 2 ∨
    (server.answer (client.methodsMessage ++ client.sentCreds)).length < 2 ∧
      server.closes (client.methodsMessage ++ client.sentCreds) = true

/-- The replies with which a handshake succeeds: the method, the success of the
credentials where that asks for them, and a response with the address. -/
def Replies (self : HevSocks5Client) (method : UInt8) (read : List UInt8)
    (addr : HevSocks5Addr) : Prop :=
  ∃ (rsv atype : UInt8) (body : List UInt8),
    read = [version5, method] ++
      (if method = authMethodUser then [authVersion1, resRepSucc] else []) ++
      ([version5, resRepSucc, rsv, atype] ++ body) ∧
    (atype = 1 ∧ body.length = 6 ∨ atype = 4 ∧ body.length = 18) ∧
    addr = self.stack.overwrite (atype :: body) ∧
    0 ≤ self.setUpstreamAddr addr

/-- A client that asks for a user has credentials to send, and one that does not
has none. -/
theorem method_cases (self : HevSocks5Client) :
    self.method = authMethodUser ∧ self.sentCreds ≠ [] ∨
      self.method = authMethodNone ∧ self.sentCreds = [] := by
  unfold sentCreds
  split
  case h_1 name pass nameSet passSet =>
    exact .inl ⟨CredsSet.method ⟨nameSet, passSet⟩, List.cons_ne_nil _ _⟩
  case h_2 missing =>
    exact .inr ⟨CredsUnset.method (.of_missing missing), rfl⟩

/-- The request that is sent is the command and the address of the client. -/
theorem sentRequest_eq (self : HevSocks5Client) :
    ∃ addr : HevSocks5Addr, self.getUpstreamAddr = some addr ∧
      0 < addr.addrLen ∧
      self.sentRequest = [version5, self.type.cmd, 0] ++ addr.wire := by
  obtain ⟨_, addr, supplied, valid⟩ := self.exists_upstream
  refine ⟨addr, supplied, valid, ?_⟩
  unfold sentRequest
  rw [supplied]

/-- A request is never empty. -/
theorem sentRequest_ne_nil (self : HevSocks5Client) : self.sentRequest ≠ [] := by
  obtain ⟨addr, _, _, sent⟩ := self.sentRequest_eq
  rw [sent]
  exact List.cons_ne_nil _ _

/-! ## What a handshake ensures -/

section Ensures

variable {traffic : Traffic UInt8} {sent : List UInt8}

/-- What is sent first is the message with the methods. -/
theorem writeAuthMethods_ensures (self : HevSocks5Client)
    (holds : traffic.Holds sent) :
    self.writeAuthMethods.Ensures (fun later _ =>
      later.read = traffic.read ∧ later.Holds (sent ++ self.methodsMessage))
      traffic :=
  ensures_send (List.cons_ne_nil _ _) holds fun _ sameRead holds _ =>
    ⟨sameRead, holds⟩

/-- The credentials are sent next, if there are any. -/
theorem writeAuthCreds_ensures (self : HevSocks5Client)
    (holds : traffic.Holds sent) :
    self.writeAuthCreds.Ensures (fun later _ =>
      later.read = traffic.read ∧ later.Holds (sent ++ self.sentCreds))
      traffic := by
  have unset : traffic.read = traffic.read ∧ traffic.Holds (sent ++ []) := by
    rw [List.append_nil]
    exact ⟨rfl, holds⟩
  unfold writeAuthCreds sentCreds
  cases self.user with
  | none => exact unset
  | some user =>
      cases self.pass with
      | none => exact unset
      | some pass =>
          exact ensures_send (List.cons_ne_nil _ _) holds
            fun _ sameRead holds _ => ⟨sameRead, holds⟩

/-- The request is sent last. -/
theorem writeRequest_ensures (self : HevSocks5Client)
    (holds : traffic.Holds sent) :
    self.writeRequest.Ensures (fun later _ =>
      later.read = traffic.read ∧ later.Holds (sent ++ self.sentRequest))
      traffic := by
  obtain ⟨addr, supplied, valid, request⟩ := self.sentRequest_eq
  rw [request, self.writeRequest_eq supplied valid]
  exact ensures_send (List.cons_ne_nil _ _) holds fun _ sameRead holds _ =>
    ⟨sameRead, holds⟩

/-- A method that is returned was read, behind the version. -/
theorem readAuthMethod_ensures (holds : traffic.Holds sent) :
    readAuthMethod.Ensures (fun later (res : Int) => later.Holds sent ∧
      (res < 0 ∨ ∃ method : UInt8, res = method.toNat ∧
        later.read = traffic.read ++ [version5, method])) traffic := by
  refine ⟨?_, fun _ _ => ⟨holds, .inl (by decide)⟩⟩
  intro front sized
  obtain ⟨version, method, rfl⟩ := List.length_eq_two.mp sized
  change (if version ≠ version5 then Process.done (-1)
    else .done (method.toNat : Int)).Ensures _ _
  by_cases isFive : version = version5
  · rw [if_neg (not_not_intro isFive), isFive]
    exact ⟨holds, .inr ⟨method, rfl, rfl⟩⟩
  · rw [if_pos isFive]
    exact ⟨holds, .inl (by decide)⟩

/-- Credentials are accepted by the two bytes that say so. -/
theorem readAuthCreds_ensures (holds : traffic.Holds sent) :
    readAuthCreds.Ensures (fun later (res : Int) => later.Holds sent ∧
      (res < 0 ∨
        later.read = traffic.read ++ [authVersion1, resRepSucc])) traffic := by
  refine ⟨?_, fun _ _ => ⟨holds, .inl (by decide)⟩⟩
  intro front sized
  obtain ⟨version, rep, rfl⟩ := List.length_eq_two.mp sized
  change (if version ≠ authVersion1 then Process.done (-1)
    else if rep ≠ resRepSucc then .done (-1) else .done 0).Ensures _ _
  by_cases isOne : version = authVersion1
  case neg =>
    rw [if_pos isOne]
    exact ⟨holds, .inl (by decide)⟩
  rw [if_neg (not_not_intro isOne)]
  by_cases succeeded : rep = resRepSucc
  · rw [if_neg (not_not_intro succeeded), isOne, succeeded]
    exact ⟨holds, .inr rfl⟩
  · rw [if_pos succeeded]
    exact ⟨holds, .inl (by decide)⟩

/-- What the end of a handshake ensures behind the bytes read before it. -/
def AnsweredBehind (self : HevSocks5Client) (front sent : List UInt8)
    (later : Traffic UInt8) (ended : Int × Option HevSocks5Addr) : Prop :=
  0 ≤ ended.1 → ∃ (rsv atype : UInt8) (body : List UInt8),
    later.read = front ++ ([version5, resRepSucc, rsv, atype] ++ body) ∧
    (atype = 1 ∧ body.length = 6 ∨ atype = 4 ∧ body.length = 18) ∧
    ended = (0, some (self.stack.overwrite (atype :: body))) ∧
    0 ≤ self.setUpstreamAddr (self.stack.overwrite (atype :: body)) ∧
    later.Holds sent

/-- A failure promises nothing. -/
theorem failure_ensures (self : HevSocks5Client) (front sent : List UInt8)
    (addr : Option HevSocks5Addr) (later : Traffic UInt8) :
    (Process.done (-1, addr)).Ensures (self.AnsweredBehind front sent) later :=
  fun succeeded => absurd succeeded (show ¬(0 : Int) ≤ -1 by decide)

/-- An address that is read to its end is the one that is set. -/
theorem readAddr_ensures (self : HevSocks5Client) (holds : traffic.Holds sent)
    {rsv atype : UInt8} {addrlen : Nat}
    (typed : atype = 1 ∧ addrlen = 6 ∨ atype = 4 ∧ addrlen = 18) :
    (self.readAddr [atype] addrlen).Ensures
      (self.AnsweredBehind traffic.read sent)
      (traffic.receive [version5, resRepSucc, rsv, atype]) := by
  refine ⟨?_, fun _ _ => self.failure_ensures _ _ _ _⟩
  intro body counted
  change (Process.done (if self.setUpstreamAddr
    (self.stack.overwrite (atype :: body)) < 0 then -1 else 0,
    some (self.stack.overwrite (atype :: body)))).Ensures _ _
  by_cases refused :
      self.setUpstreamAddr (self.stack.overwrite (atype :: body)) < 0
  · rw [if_pos refused]
    exact self.failure_ensures _ _ _ _
  · rw [if_neg refused]
    refine fun _ => ⟨rsv, atype, body, ?_, ?_, rfl, not_lt.mp refused, holds⟩
    · rw [Traffic.receive_read, Traffic.receive_read, List.append_assoc]
    · rw [counted]
      exact typed

/-- A response that is read in full carries the address that is set. -/
theorem readResponse_ensures (self : HevSocks5Client)
    (holds : traffic.Holds sent) :
    self.readResponse.Ensures (self.AnsweredBehind traffic.read sent)
      traffic := by
  refine ⟨?_, fun _ _ => self.failure_ensures _ _ _ _⟩
  intro front sized
  obtain ⟨version, rep, rsv, atype, rfl⟩ := List.length_eq_four.mp sized
  change (if version ≠ version5 then Process.done (-1, none)
    else if rep ≠ resRepSucc then .done (-1, none)
    else _).Ensures _ _
  by_cases isFive : version = version5
  case neg =>
    rw [if_pos isFive]
    exact self.failure_ensures _ _ _ _
  rw [if_neg (not_not_intro isFive), isFive]
  by_cases succeeded : rep = resRepSucc
  case neg =>
    rw [if_pos succeeded]
    exact self.failure_ensures _ _ _ _
  rw [if_neg (not_not_intro succeeded), succeeded]
  split
  case h_1 isV4 =>
    exact self.readAddr_ensures holds (.inl ⟨UInt8.toNat_inj.mp isV4, rfl⟩)
  case h_2 isV6 =>
    exact self.readAddr_ensures holds (.inr ⟨UInt8.toNat_inj.mp isV6, rfl⟩)
  case h_3 => exact self.failure_ensures _ _ _ _

/-- The same where the client looks at its own sockets first. -/
theorem awaitResponseWithAddr_ensures (self : HevSocks5Client)
    (holds : traffic.Holds sent) :
    self.awaitResponseWithAddr.Ensures (self.AnsweredBehind traffic.read sent)
      traffic := by
  refine (self.readResponse_ensures holds).bind ?_
  rintro later ⟨res, addr⟩ answered
  change (if res < 0 then Process.done (-1, addr) else .done (0, addr)).Ensures _ _
  by_cases failed : res < 0
  · rw [if_pos failed]
    exact self.failure_ensures _ _ _ _
  · rw [if_neg failed]
    obtain ⟨rsv, atype, body, read, typed, ended, set, holds⟩ :=
      answered (not_lt.mp failed)
    cases ended
    exact fun _ => ⟨rsv, atype, body, read, typed, rfl, set, holds⟩

/-- A handshake that succeeds has read such replies, and has sent what it sends
for their method. -/
def SucceedsWith (self : HevSocks5Client) (sent : UInt8 → List UInt8)
    (later : Traffic UInt8) (ended : Int × Option HevSocks5Addr) : Prop :=
  0 ≤ ended.1 → ∃ method addr,
    (method = authMethodNone ∨ method = authMethodUser) ∧
    ended = (0, some addr) ∧ self.Replies method later.read addr ∧
    later.Holds (sent method)

/-- A handshake that fails promises nothing, -/
theorem fails_ensures (self : HevSocks5Client) (sent : UInt8 → List UInt8)
    (later : Traffic UInt8) :
    (Process.done (-1, none)).Ensures (self.SucceedsWith sent) later :=
  fun succeeded => absurd succeeded (show ¬(0 : Int) ≤ -1 by decide)

/-- so only what happens behind a step that succeeded counts. -/
theorem unless_failed_ensures (self : HevSocks5Client)
    {sent : UInt8 → List UInt8} {later : Traffic UInt8} {res : Int}
    {behind : Process UInt8 (Int × Option HevSocks5Addr)}
    (ensures : ¬res < 0 → behind.Ensures (self.SucceedsWith sent) later) :
    (if res < 0 then Process.done (-1, none) else behind).Ensures
      (self.SucceedsWith sent) later := by
  split
  case isTrue => exact self.fails_ensures _ _
  case isFalse passed => exact ensures passed

/-- A response behind the replies to method and credentials makes a success. -/
theorem AnsweredBehind.succeedsWith {self : HevSocks5Client} {method : UInt8}
    {front : List UInt8} {sent : UInt8 → List UInt8} {later : Traffic UInt8}
    {ended : Int × Option HevSocks5Addr}
    (answered : self.AnsweredBehind front (sent method) later ended)
    (known : method = authMethodNone ∨ method = authMethodUser)
    (frontEq : front = [version5, method] ++
      if method = authMethodUser then [authVersion1, resRepSucc] else []) :
    self.SucceedsWith sent later ended := by
  intro succeeded
  obtain ⟨rsv, atype, body, read, typed, isEnded, set, holds⟩ :=
    answered succeeded
  refine ⟨method, _, known, isEnded, ⟨rsv, atype, body, ?_, typed, rfl, set⟩, holds⟩
  rw [read, frontEq]

/-- A method is known by its number. -/
theorem method_eq_of_toNat {method known : UInt8}
    (same : ((method.toNat : Nat) : Int) = known.toNat) : method = known :=
  UInt8.toNat_inj.mp (Int.ofNat.inj same)

/-- The pipelined client reads all replies in turn, to what was sent before. -/
theorem awaitReplies_ensures (self : HevSocks5Client)
    (unread : traffic.read = []) (holds : traffic.Holds sent) :
    (awaitReplies (-1, none) self.awaitResponseWithAddr).Ensures
      (self.SucceedsWith fun _ => sent) traffic := by
  refine (readAuthMethod_ensures holds).bind ?_
  rintro answered res ⟨holds, outcome⟩
  refine self.unless_failed_ensures fun passed => ?_
  obtain ⟨method, rfl, read⟩ := outcome.resolve_left passed
  rw [unread] at read
  by_cases isUser : ((method.toNat : Nat) : Int) = authMethodUser.toNat
  · rw [if_pos isUser]
    have methodEq := method_eq_of_toNat isUser
    refine (readAuthCreds_ensures holds).bind ?_
    rintro loggedIn res ⟨holds, outcome⟩
    refine self.unless_failed_ensures fun passed => ?_
    have readMore := outcome.resolve_left passed
    refine (self.awaitResponseWithAddr_ensures holds).mono ?_
    intro later ended answered
    refine answered.succeedsWith (.inr methodEq) ?_
    rw [readMore, read, if_pos methodEq]
    rfl
  rw [if_neg isUser]
  by_cases isNone : ((method.toNat : Nat) : Int) = authMethodNone.toNat
  case neg =>
    rw [if_pos isNone]
    exact self.fails_ensures _ _
  rw [if_neg (not_not_intro isNone)]
  have methodEq := method_eq_of_toNat isNone
  refine (self.awaitResponseWithAddr_ensures holds).mono ?_
  intro later ended answered
  refine answered.succeedsWith (.inl methodEq) ?_
  rw [read, methodEq]
  rfl

/-- The pipelined handshake succeeds with all three messages sent. -/
theorem handshakePipeline_ensures (self : HevSocks5Client) :
    (self.handshakePipeline (-1, none) self.awaitResponseWithAddr).Ensures
      (self.SucceedsWith fun _ => self.sentMessages) .none := by
  refine (self.writeAuthMethods_ensures Traffic.holds_none).bind ?_
  rintro offered res ⟨unread, holds⟩
  refine self.unless_failed_ensures fun passed => ?_
  refine (self.writeAuthCreds_ensures holds).bind ?_
  rintro identified res ⟨unreadStill, holds⟩
  refine self.unless_failed_ensures fun passed => ?_
  refine (self.writeRequest_ensures holds).bind ?_
  rintro requested res ⟨unreadYet, holds⟩
  refine self.unless_failed_ensures fun passed => ?_
  rw [List.append_assoc] at holds
  exact self.awaitReplies_ensures
    (unreadYet.trans (unreadStill.trans unread)) holds

/-- What the standard handshake has sent where it got this method. -/
def sentFor (self : HevSocks5Client) (method : UInt8) : List UInt8 :=
  self.methodsMessage ++
    ((if method = authMethodUser then self.sentCreds else []) ++
      self.sentRequest)

/-- The standard one sends its request behind the replies it has read. -/
theorem exchangeRequest_ensures (self : HevSocks5Client)
    {method : UInt8} (known : method = authMethodNone ∨ method = authMethodUser)
    (read : traffic.read = [version5, method] ++
      if method = authMethodUser then [authVersion1, resRepSucc] else [])
    (holds : traffic.Holds (self.methodsMessage ++
      if method = authMethodUser then self.sentCreds else [])) :
    (self.exchangeRequest (-1, none) self.awaitResponseWithAddr).Ensures
      (self.SucceedsWith self.sentFor) traffic := by
  refine (self.writeRequest_ensures holds).bind ?_
  rintro requested res ⟨sameRead, holds⟩
  refine self.unless_failed_ensures fun passed => ?_
  rw [List.append_assoc] at holds
  refine (self.awaitResponseWithAddr_ensures holds).mono ?_
  intro later ended answered
  have answered : self.AnsweredBehind requested.read (self.sentFor method) later
      ended := answered
  exact answered.succeedsWith known (sameRead.trans read)

/-- The standard handshake succeeds with the messages that the method calls for.
-/
theorem handshakeStandard_ensures (self : HevSocks5Client) :
    (self.handshakeStandard (-1, none) self.awaitResponseWithAddr).Ensures
      (self.SucceedsWith self.sentFor) .none := by
  refine (self.writeAuthMethods_ensures Traffic.holds_none).bind ?_
  rintro offered res ⟨unread, holds⟩
  refine self.unless_failed_ensures fun passed => ?_
  refine (readAuthMethod_ensures holds).bind ?_
  rintro answered res ⟨holds, outcome⟩
  refine self.unless_failed_ensures fun passed => ?_
  obtain ⟨method, rfl, read⟩ := outcome.resolve_left passed
  rw [unread] at read
  by_cases isUser : ((method.toNat : Nat) : Int) = authMethodUser.toNat
  · rw [if_pos isUser]
    have methodEq := method_eq_of_toNat isUser
    refine (self.writeAuthCreds_ensures holds).bind ?_
    rintro identified res ⟨sameRead, holds⟩
    refine self.unless_failed_ensures fun passed => ?_
    refine (readAuthCreds_ensures holds).bind ?_
    rintro loggedIn res ⟨holds, outcome⟩
    refine self.unless_failed_ensures fun passed => ?_
    apply self.exchangeRequest_ensures (.inr methodEq)
    · rw [outcome.resolve_left passed, sameRead, read, if_pos methodEq]
      rfl
    · rw [if_pos methodEq]
      exact holds
  rw [if_neg isUser]
  by_cases isNone : ((method.toNat : Nat) : Int) = authMethodNone.toNat
  case neg =>
    rw [if_pos isNone]
    exact self.fails_ensures _ _
  rw [if_neg (not_not_intro isNone)]
  have methodEq := method_eq_of_toNat isNone
  have notUser : method ≠ authMethodUser := by
    rw [methodEq]
    decide
  apply self.exchangeRequest_ensures (.inl methodEq)
  · rw [read, if_neg notUser]
    rfl
  · rw [if_neg notUser, List.append_nil]
    exact holds

/-- What a handshake has sent where it got this method. -/
def sentBy (self : HevSocks5Client) (pipeline : Bool) (method : UInt8) :
    List UInt8 :=
  if pipeline then self.sentMessages else self.sentFor method

/-- In either mode a success was answered in full. -/
theorem handshakeWithAddr_ensures (self : HevSocks5Client) (pipeline : Bool) :
    (self.handshakeWithAddr pipeline).Ensures
      (self.SucceedsWith (self.sentBy pipeline)) .none := by
  cases pipeline
  · exact self.handshakeStandard_ensures
  · exact self.handshakePipeline_ensures

/-- For the method of the client, both handshakes send all messages. -/
theorem sentBy_eq (self : HevSocks5Client) (pipeline : Bool) (method : UInt8) :
    ∃ behind, self.sentBy pipeline method = self.methodsMessage ++ behind ∧
      (method = self.method → behind = self.sentCreds ++ self.sentRequest) := by
  cases pipeline
  · refine ⟨_, rfl, ?_⟩
    rintro rfl
    rcases self.method_cases with ⟨isUser, _⟩ | ⟨isNone, none⟩
    · rw [if_pos isUser]
    · rw [none, ite_self]
  · exact ⟨_, rfl, fun _ => rfl⟩

end Ensures

/-! ## What a success says about the server -/

section Server

variable {self : HevSocks5Client} {server : Responder UInt8}

/-- Replies are no shorter than their fixed parts. -/
theorem Replies.length_le {method : UInt8} {read : List UInt8}
    {addr : HevSocks5Addr} (replies : self.Replies method read addr) :
    12 + (if method = authMethodUser then 2 else 0) ≤ read.length := by
  obtain ⟨rsv, atype, body, rfl, typed, _⟩ := replies
  have bodyLength : 6 ≤ body.length := by omega
  simp only [List.length_append, List.length_cons, List.length_nil]
  split
  case isTrue =>
    simp only [List.length_cons, List.length_nil]
    omega
  case isFalse => omega

/-- They start with the version and the method. -/
theorem Replies.starts {method : UInt8} {read : List UInt8}
    {addr : HevSocks5Addr} (replies : self.Replies method read addr) :
    [version5, method] <+: read := by
  obtain ⟨rsv, atype, body, rfl, _⟩ := replies
  rw [List.append_assoc]
  exact List.prefix_append _ _

/-- What the server has sent behind the list of methods and a part of what
follows it. -/
theorem AnswersInTurn.emitted_eq (inTurn : self.AnswersInTurn server)
    (back : List UInt8) :
    server.emitted (self.methodsMessage ++ back) =
      server.answer self.methodsMessage ++
        server.emittedFrom self.methodsMessage back := by
  rw [Responder.emitted_append]
  exact congrArg (· ++ _) (inTurn.methods.emittedFrom_eq (List.cons_ne_nil _ _))

/-- Before the request is complete, the server has sent no more than the answers
to the other messages. -/
theorem AnswersInTurn.length_le (inTurn : self.AnswersInTurn server)
    {version : UInt8}
    (answer : server.answer self.methodsMessage = [version, self.method])
    {back : List UInt8} (within : back <+: self.sentCreds ++ self.sentRequest)
    (inside : back ≠ self.sentCreds ++ self.sentRequest) :
    (server.emitted (self.methodsMessage ++ back)).length ≤
      2 + if self.method = authMethodUser then 2 else 0 := by
  rw [inTurn.emitted_eq, answer, List.length_append]
  suffices behind : (server.emittedFrom self.methodsMessage back).length ≤
      if self.method = authMethodUser then 2 else 0 from
    Nat.add_le_add_left behind 2
  by_cases afterCreds : self.sentCreds <+: back
  · obtain ⟨front, rfl⟩ := afterCreds
    obtain ⟨rest, split⟩ := (List.prefix_append_right_inj _).mp within
    have unfinished : rest ≠ [] := by
      intro none
      rw [none, List.append_nil] at split
      exact inside (congrArg (self.sentCreds ++ ·) split)
    rw [Responder.emittedFrom_append,
      inTurn.request.emittedFrom_eq_nil split.symm unfinished, List.append_nil]
    rcases self.method_cases with ⟨isUser, some⟩ | ⟨isNone, none⟩
    · rw [inTurn.creds.emittedFrom_eq some, if_pos isUser]
      rw [isUser] at answer
      rcases inTurn.login version answer with two | ⟨fewer, _⟩
      · exact two.le
      · exact fewer.le
    · rw [none]
      exact Nat.zero_le _
  · obtain ⟨rest, split⟩ := (List.prefix_or_prefix_of_prefix within
      (List.prefix_append _ _)).resolve_right afterCreds
    have unfinished : rest ≠ [] := by
      intro none
      rw [none, List.append_nil] at split
      exact afterCreds (split ▸ List.prefix_rfl)
    rw [inTurn.creds.emittedFrom_eq_nil split.symm unfinished]
    exact Nat.zero_le _

/-- Where a success has read these replies, the server has consumed all messages
of the client, and has chosen its method. -/
theorem AnswersInTurn.answered (inTurn : self.AnswersInTurn server)
    {method : UInt8} (known : method = authMethodNone ∨ method = authMethodUser)
    {read consumed : List UInt8} {addr : HevSocks5Addr}
    (replies : self.Replies method read addr)
    (within : read <+: server.emitted consumed)
    {behind : List UInt8} (consumedWithin : consumed <+: self.methodsMessage ++ behind)
    (behindEq : method = self.method →
      behind = self.sentCreds ++ self.sentRequest) :
    method = self.method ∧ consumed = self.sentMessages := by
  have long := replies.length_le
  -- something has been sent, so the list of methods is consumed
  have afterMethods : self.methodsMessage <+: consumed := by
    by_contra partly
    obtain ⟨rest, split⟩ := (List.prefix_or_prefix_of_prefix consumedWithin
      (List.prefix_append _ _)).resolve_right partly
    have unfinished : rest ≠ [] := by
      intro none
      rw [none, List.append_nil] at split
      exact partly (split ▸ List.prefix_rfl)
    have nothing : server.emitted consumed = [] :=
      inTurn.methods.emittedFrom_eq_nil split.symm unfinished
    have shorter := within.length_le
    rw [nothing, List.length_nil] at shorter
    omega
  obtain ⟨front, rfl⟩ := afterMethods
  have frontWithin := (List.prefix_append_right_inj _).mp consumedWithin
  obtain ⟨version, chosen, answer, isOffered⟩ := inTurn.offer
  have starts := replies.starts.trans within
  rw [inTurn.emitted_eq, answer] at starts
  have same : [version5, method] = [version, chosen] :=
    (List.prefix_of_prefix_length_le starts (List.prefix_append _ _)
      le_rfl).eq_of_length rfl
  cases same
  have isMethod : method = self.method := by
    refine isOffered.resolve_right ?_
    rintro rfl
    exact absurd known (by decide)
  refine ⟨isMethod, congrArg (self.methodsMessage ++ ·) ?_⟩
  rw [behindEq isMethod] at frontWithin
  by_contra inside
  rw [isMethod] at answer long
  have short := inTurn.length_le answer frontWithin inside
  have shorter := within.length_le
  omega

/-- The server stays for all messages of the client, and what it then has sent
begins with replies of success. -/
structure Satisfies (server : Responder UInt8) (client : HevSocks5Client)
    (read : List UInt8) (addr : HevSocks5Addr) : Prop where
  stays : server.StaysFor client.sentMessages
  replies : client.Replies client.method read addr
  within : read <+: server.emitted client.sentMessages

/-- A run of either handshake that succeeded has met such a server. -/
theorem satisfies_of_success (inTurn : self.AnswersInTurn server)
    {pipeline : Bool} {state : Inquiry UInt8 (Int × Option HevSocks5Addr)}
    (reached : (inquiry server (self.handshakeWithAddr pipeline)).Reachable state)
    {ended : Int × Option HevSocks5Addr} (isDone : state.client = .done ended)
    (succeeded : 0 ≤ ended.1) :
    ∃ read addr, Satisfies server self read addr := by
  have ensured := ensures_of_reachable (self.handshakeWithAddr_ensures pipeline)
    reached
  rw [isDone] at ensured
  obtain ⟨method, addr, known, _, replies, holds⟩ := ensured succeeded
  have consistent := consistent_of_reachable reached
  obtain ⟨behind, sentEq, behindEq⟩ := self.sentBy_eq pipeline method
  have within : state.traffic.read <+: server.emitted state.consumed := by
    rw [← consistent.read]
    exact List.prefix_append _ _
  have consumedWithin : state.consumed <+: self.methodsMessage ++ behind := by
    rw [← sentEq]
    exact consistent.consumed.trans holds.sent_prefix
  obtain ⟨isMethod, all⟩ :=
    inTurn.answered known replies within consumedWithin behindEq
  refine ⟨state.traffic.read, addr, ?_, ?_, ?_⟩
  · rw [← all]
    exact consistent.stays
  · rw [← isMethod]
    exact replies
  · rw [← all]
    exact within

/-! ## A server that satisfies both handshakes -/

section Proceeds

variable {ending : Int × Option HevSocks5Addr} {whole replies sent read : List UInt8}
  {rest : Int → Process UInt8 (Int × Option HevSocks5Addr)}

/-- Sending the methods goes on, -/
theorem writeAuthMethods_proceeds
    (behind : Proceeds server ending whole replies (rest 0)
      (sent ++ self.methodsMessage) read) :
    Proceeds server ending whole replies (self.writeAuthMethods >>= rest) sent
      read :=
  .send (List.cons_ne_nil _ _) behind.sent_prefix behind

/-- sending the credentials goes on, -/
theorem writeAuthCreds_proceeds
    (behind : Proceeds server ending whole replies (rest 0)
      (sent ++ self.sentCreds) read) :
    Proceeds server ending whole replies (self.writeAuthCreds >>= rest) sent
      read := by
  unfold sentCreds at behind
  unfold writeAuthCreds
  generalize self.user = user at behind ⊢
  generalize self.pass = pass at behind ⊢
  have unset : ∀ process : Process UInt8 (Int × Option HevSocks5Addr),
      Proceeds server ending whole replies process (sent ++ []) read →
      Proceeds server ending whole replies process sent read := by
    intro process proceeds
    rw [List.append_nil] at proceeds
    exact proceeds
  cases user with
  | none => exact unset _ behind
  | some name =>
      cases pass with
      | none => exact unset _ behind
      | some word => exact .send (List.cons_ne_nil _ _) behind.sent_prefix behind

/-- and sending the request goes on. -/
theorem writeRequest_proceeds
    (behind : Proceeds server ending whole replies (rest 0)
      (sent ++ self.sentRequest) read) :
    Proceeds server ending whole replies (self.writeRequest >>= rest) sent
      read := by
  obtain ⟨addr, supplied, valid, request⟩ := self.sentRequest_eq
  rw [request] at behind
  rw [self.writeRequest_eq supplied valid]
  exact .send (List.cons_ne_nil _ _) behind.sent_prefix behind

/-- The method is read once the server has emitted it, -/
theorem readAuthMethod_proceeds {method : UInt8}
    (within : read ++ [version5, method] <+: server.emitted sent)
    (behind : Proceeds server ending whole replies (rest method.toNat) sent
      (read ++ [version5, method])) :
    Proceeds server ending whole replies (readAuthMethod >>= rest) sent read :=
  .recv rfl within behind

/-- the answer to the credentials once it has emitted that, -/
theorem readAuthCreds_proceeds
    (within : read ++ [authVersion1, resRepSucc] <+: server.emitted sent)
    (behind : Proceeds server ending whole replies (rest 0) sent
      (read ++ [authVersion1, resRepSucc])) :
    Proceeds server ending whole replies (readAuthCreds >>= rest) sent read :=
  .recv rfl within behind

/-- and the response once it has emitted all of it. -/
theorem awaitResponseWithAddr_proceeds {rsv atype : UInt8} {body : List UInt8}
    (typed : atype = 1 ∧ body.length = 6 ∨ atype = 4 ∧ body.length = 18)
    (set : 0 ≤ self.setUpstreamAddr (self.stack.overwrite (atype :: body)))
    (within : read ++ ([version5, resRepSucc, rsv, atype] ++ body) <+:
      server.emitted sent) :
    Proceeds server (0, some (self.stack.overwrite (atype :: body))) sent
      (read ++ ([version5, resRepSucc, rsv, atype] ++ body))
      self.awaitResponseWithAddr sent read := by
  rw [← List.append_assoc] at within ⊢
  have headWithin := (List.prefix_append _ body).trans within
  have ends : Proceeds server (0, some (self.stack.overwrite (atype :: body))) sent
      (read ++ [version5, resRepSucc, rsv, atype] ++ body)
      (Process.done (if self.setUpstreamAddr
          (self.stack.overwrite (atype :: body)) < 0 then (-1 : Int) else 0,
          some (self.stack.overwrite (atype :: body))) >>= fun ended =>
        if ended.1 < 0 then Process.done ((-1 : Int), ended.2)
        else .done (0, ended.2)) sent
      (read ++ [version5, resRepSucc, rsv, atype] ++ body) := by
    rw [if_neg (not_lt.mpr set)]
    exact .done
  rcases typed with ⟨rfl, sized⟩ | ⟨rfl, sized⟩
  · exact .recv rfl headWithin (.recv sized within ends)
  · exact .recv rfl headWithin (.recv sized within ends)

end Proceeds

/-- A server whose replies satisfy the client lets the pipelined handshake
succeed. -/
theorem handshakePipeline_proceeds {replies : List UInt8}
    {addr : HevSocks5Addr} (satisfies : Satisfies server self replies addr) :
    Proceeds server (0, some addr) self.sentMessages replies
      (self.handshakePipeline (-1, none) self.awaitResponseWithAddr) [] [] := by
  obtain ⟨_, ⟨rsv, atype, body, rfl, typed, rfl, set⟩, within⟩ := satisfies
  refine writeAuthMethods_proceeds (writeAuthCreds_proceeds
    (writeRequest_proceeds ?_))
  rw [List.nil_append, List.append_assoc]
  change Proceeds server _ self.sentMessages _
    (awaitReplies (-1, none) self.awaitResponseWithAddr) self.sentMessages []
  have response := self.awaitResponseWithAddr_proceeds typed set within
  rcases self.method_cases with ⟨isUser, _⟩ | ⟨isNone, _⟩
  · rw [isUser, if_pos rfl] at within response ⊢
    rw [List.append_assoc] at within
    refine readAuthMethod_proceeds ((List.prefix_append _ _).trans within) ?_
    rw [← List.append_assoc] at within
    exact readAuthCreds_proceeds ((List.prefix_append _ _).trans within) response
  · rw [isNone, if_neg (by decide)] at within response ⊢
    rw [List.append_nil] at within response
    exact readAuthMethod_proceeds ((List.prefix_append _ _).trans within) response

/-- The list of methods alone is answered with the method of the client. -/
theorem AnswersInTurn.answer_eq (inTurn : self.AnswersInTurn server)
    {replies : List UInt8} {addr : HevSocks5Addr}
    (satisfies : Satisfies server self replies addr) :
    server.answer self.methodsMessage = [version5, self.method] := by
  obtain ⟨version, method, answer, _⟩ := inTurn.offer
  have starts := satisfies.replies.starts.trans satisfies.within
  unfold sentMessages at starts
  rw [inTurn.emitted_eq, answer] at starts
  rw [answer]
  exact ((List.prefix_of_prefix_length_le starts (List.prefix_append _ _)
    le_rfl).eq_of_length rfl).symm

/-- The credentials are answered with success. -/
theorem AnswersInTurn.creds_within (inTurn : self.AnswersInTurn server)
    {replies : List UInt8} {addr : HevSocks5Addr}
    (satisfies : Satisfies server self replies addr)
    (isUser : self.method = authMethodUser) (some : self.sentCreds ≠ []) :
    [version5, self.method] ++ [authVersion1, resRepSucc] <+:
      server.emitted (self.methodsMessage ++ self.sentCreds) := by
  have answer := inTurn.answer_eq satisfies
  obtain ⟨stays, ⟨rsv, atype, body, rfl, _⟩, within⟩ := satisfies
  rw [if_pos isUser] at within
  have starts := (List.prefix_append _ _).trans within
  have split : self.sentMessages =
      (self.methodsMessage ++ self.sentCreds) ++ self.sentRequest :=
    (List.append_assoc _ _ _).symm
  have part : server.emitted (self.methodsMessage ++ self.sentCreds) <+:
      server.emitted self.sentMessages := by
    rw [split]
    exact server.emitted_prefix (List.prefix_append _ _)
  refine List.prefix_of_prefix_length_le starts part ?_
  rw [inTurn.emitted_eq, inTurn.creds.emittedFrom_eq some, answer]
  have open_ := stays _ _ split self.sentRequest_ne_nil
  rw [isUser] at answer
  rcases inTurn.login version5 answer with two | ⟨_, closed⟩
  · rw [List.length_append, List.length_append, two]
    exact le_rfl
  · rw [open_] at closed
    cases closed

/-- One that answers in turn lets the standard handshake succeed too. -/
theorem AnswersInTurn.handshakeStandard_proceeds
    (inTurn : self.AnswersInTurn server) {replies : List UInt8}
    {addr : HevSocks5Addr} (satisfies : Satisfies server self replies addr) :
    Proceeds server (0, some addr) self.sentMessages replies
      (self.handshakeStandard (-1, none) self.awaitResponseWithAddr) [] [] := by
  have offered : [] ++ [version5, self.method] <+:
      server.emitted self.methodsMessage := by
    have emitted := inTurn.emitted_eq []
    rw [List.append_nil, inTurn.answer_eq satisfies] at emitted
    rw [emitted]
    exact List.prefix_append _ _
  have loggedIn := inTurn.creds_within satisfies
  obtain ⟨_, ⟨rsv, atype, body, rfl, typed, rfl, set⟩, within⟩ := satisfies
  have response := self.awaitResponseWithAddr_proceeds typed set within
  refine writeAuthMethods_proceeds (readAuthMethod_proceeds offered ?_)
  rcases self.method_cases with ⟨isUser, some⟩ | ⟨isNone, none⟩
  · have loggedIn := loggedIn isUser some
    rw [isUser, if_pos rfl] at response ⊢
    rw [isUser] at loggedIn
    refine writeAuthCreds_proceeds (readAuthCreds_proceeds loggedIn
      (writeRequest_proceeds ?_))
    rw [List.nil_append, List.append_assoc]
    exact response
  · rw [isNone, if_neg (by decide), List.append_nil] at response ⊢
    refine writeRequest_proceeds ?_
    unfold sentMessages at response ⊢
    rw [none, List.nil_append] at response ⊢
    exact response

/-- So every run of either handshake with this server succeeds, with the same
traffic and the same address. -/
theorem ends_of_satisfies (inTurn : self.AnswersInTurn server)
    {replies : List UInt8} {addr : HevSocks5Addr}
    (satisfies : Satisfies server self replies addr) {pipeline : Bool}
    {state : Inquiry UInt8 (Int × Option HevSocks5Addr)}
    (reached : (inquiry server (self.handshakeWithAddr pipeline)).Reachable state)
    (stopped : ∀ turn next, ¬InquiryStep server state turn next) :
    state.client = .done (0, some addr) ∧
      state.traffic = ⟨self.sentMessages, replies, false⟩ := by
  refine Proceeds.ends ?_ satisfies.stays reached stopped
  cases pipeline
  · exact inTurn.handshakeStandard_proceeds satisfies
  · exact handshakePipeline_proceeds satisfies

/-- Against every server that is a function of what it has consumed and answers
in turn, both handshakes come to an end in every run, one succeeds exactly if the
other does, and then both have sent the same, read the same, and set the same
address. -/
theorem handshake_modes_agree (client : HevSocks5Client)
    (server : Responder UInt8) (inTurn : client.AnswersInTurn server)
    {standard pipelined : Inquiry UInt8 (Int × Option HevSocks5Addr)}
    (standardReached :
      (inquiry server (client.handshakeWithAddr false)).Reachable standard)
    (standardStopped : ∀ turn next, ¬InquiryStep server standard turn next)
    (pipelinedReached :
      (inquiry server (client.handshakeWithAddr true)).Reachable pipelined)
    (pipelinedStopped : ∀ turn next, ¬InquiryStep server pipelined turn next) :
    ∃ standardEnd pipelinedEnd, standard.client = .done standardEnd ∧
      pipelined.client = .done pipelinedEnd ∧
      (0 ≤ pipelinedEnd.1 ↔ 0 ≤ standardEnd.1) ∧
      (0 ≤ standardEnd.1 →
        pipelined.traffic.sent = standard.traffic.sent ∧
        pipelined.traffic.read = standard.traffic.read ∧
        pipelinedEnd.2 = standardEnd.2) := by
  obtain ⟨standardEnd, standardDone⟩ := done_of_stopped standardStopped
  obtain ⟨pipelinedEnd, pipelinedDone⟩ := done_of_stopped pipelinedStopped
  refine ⟨standardEnd, pipelinedEnd, standardDone, pipelinedDone, ?_⟩
  by_cases exists_ : ∃ read addr, Satisfies server client read addr
  · obtain ⟨read, addr, satisfies⟩ := exists_
    obtain ⟨first, firstTraffic⟩ :=
      ends_of_satisfies inTurn satisfies standardReached standardStopped
    obtain ⟨second, secondTraffic⟩ :=
      ends_of_satisfies inTurn satisfies pipelinedReached pipelinedStopped
    rw [standardDone] at first
    rw [pipelinedDone] at second
    cases first
    cases second
    rw [firstTraffic, secondTraffic]
    exact ⟨Iff.rfl, fun _ => ⟨rfl, rfl, rfl⟩⟩
  · have standardFails : ¬0 ≤ standardEnd.1 := fun succeeded =>
      exists_ (satisfies_of_success inTurn standardReached standardDone succeeded)
    have pipelinedFails : ¬0 ≤ pipelinedEnd.1 := fun succeeded =>
      exists_ (satisfies_of_success inTurn pipelinedReached pipelinedDone succeeded)
    exact ⟨iff_of_false pipelinedFails standardFails,
      fun succeeded => absurd succeeded standardFails⟩

end Server

/-! ### A server for the client with a password -/

/-- It lets the client in and gives it the zero address. -/
def responderA : Responder UInt8 where
  answer consumed :=
    if consumed = [5, 1, 2] then [5, 2]
    else if consumed = [5, 1, 2, 1, 1, 97, 1, 98] then [1, 0]
    else if consumed =
        [5, 1, 2, 1, 1, 97, 1, 98, 5, 1, 0, 3, 1, 112, 0, 80] then
      [5, 0, 0, 1, 0, 0, 0, 0, 0, 0]
    else []
  closes _ := false

/-- This responder answers in turn. -/
theorem answersInTurnA : clientA.AnswersInTurn responderA where
  methods := .of_take (by decide +kernel)
  creds := .of_take (by decide +kernel)
  request := .of_take (by decide +kernel)
  offer := ⟨5, 2, by decide +kernel, .inl rfl⟩
  login _ _ := .inl (by decide +kernel)

/-- Both handshakes of this client with this server end in success, and have
sent and read the same. -/
theorem handshake_modes_agree_clientA :
    ∃ standard pipelined standardEnd pipelinedEnd,
      (inquiry responderA (clientA.handshakeWithAddr false)).Reachable standard ∧
      (inquiry responderA (clientA.handshakeWithAddr true)).Reachable pipelined ∧
      standard.client = .done standardEnd ∧
      pipelined.client = .done pipelinedEnd ∧
      standardEnd.1 = 0 ∧ 0 ≤ pipelinedEnd.1 ∧
      pipelined.traffic.sent = standard.traffic.sent ∧
      pipelined.traffic.read = standard.traffic.read ∧
      pipelinedEnd.2 = standardEnd.2 := by
  obtain ⟨standard, standardReached, standardStopped⟩ :=
    exists_stopped responderA (clientA.handshakeWithAddr false)
  obtain ⟨pipelined, pipelinedReached, pipelinedStopped⟩ :=
    exists_stopped responderA (clientA.handshakeWithAddr true)
  obtain ⟨standardEnd, pipelinedEnd, standardDone, pipelinedDone, iff, same⟩ :=
    handshake_modes_agree clientA responderA answersInTurnA standardReached
      standardStopped pipelinedReached pipelinedStopped
  have satisfies : Satisfies responderA clientA
      [5, 2, 1, 0, 5, 0, 0, 1, 0, 0, 0, 0, 0, 0]
      (clientA.stack.overwrite [1, 0, 0, 0, 0, 0, 0]) :=
    ⟨fun _ _ _ _ => rfl,
      ⟨0, 1, [0, 0, 0, 0, 0, 0], rfl, .inl ⟨rfl, rfl⟩, rfl, le_refl (0 : Int)⟩,
      by decide +kernel⟩
  obtain ⟨isDone, _⟩ :=
    ends_of_satisfies answersInTurnA satisfies standardReached standardStopped
  rw [standardDone] at isDone
  cases isDone
  obtain ⟨sent, read, addr⟩ := same le_rfl
  exact ⟨standard, pipelined, _, pipelinedEnd, standardReached, pipelinedReached,
    standardDone, pipelinedDone, rfl, iff.mpr le_rfl, sent, read, addr⟩

end HevSocks5Client

end ProxyVPN
