/-
Module: ProxyVPN.Hev.Socks5ServerAuth
Purpose: A server with an authenticator against every stream that a client may
  send: nothing comes past the authentication but a list of methods with that
  for users, and behind it a name and a password that the authenticator maps.
Trusted boundary: human-reviewed model
Main exports: Stage, Service, service, service_handshake, Presents,
  readAuthMethod_ensures, readAuthUser_ensures, authenticate_ensures,
  no_auth_bypass
-/
import ProxyVPN.Hev.Socks5Handshake
import ProxyVPN.Lib.Traffic

namespace ProxyVPN

open Dialogue Socks5Proto Transition

namespace HevSocks5Server

/-! ## The stages of a handshake -/

/-- What follows the request in `hev_socks5_server_handshake`. -/
def respond (self : HevSocks5Server) (user : Option HevSocks5User)
    (request : Request) : Process UInt8 Handshake :=
  if request.res < 0 then return ⟨-1, 0, user, .none, request.read⟩
  else do
    let (rep, addr, type) := self.serve request
    let res ← writeResponse rep addr
    if res < 0 ∨ rep ≠ resRepSucc then
      return ⟨-1, 0, user, type, request.read⟩
    else return ⟨0, 0, user, type, request.read⟩

/-- A handshake is in its authentication, is refused by it, reads its request,
or replies to it. -/
inductive Stage where
  | auth (left : Process UInt8 (Int × Option HevSocks5User))
  | refused (user : Option HevSocks5User)
  | request (user : Option HevSocks5User) (left : Process UInt8 Request)
  | reply (left : Process UInt8 Handshake)

/-- `hev_socks5_server_auth` has returned, and not with an error. -/
def Stage.PastAuth : Stage → Prop
  | .auth _ | .refused _ => False
  | .request _ _ | .reply _ => True

/-- What is left of the handshake. -/
def Stage.left (self : HevSocks5Server) : Stage → Process UInt8 Handshake
  | .auth left => left >>= self.conclude
  | .refused user => .done ⟨-1, -1, user, .none, []⟩
  | .request user left => left >>= self.respond user
  | .reply left => left

/-- A server during a handshake: what the client sends and the server has not
read yet, the traffic of the authentication and that behind it, and the type of
the session for which sockets were opened. -/
structure Service where
  stage : Stage
  incoming : List UInt8
  auth : Traffic UInt8
  request : Traffic UInt8
  opened : HevSocks5Type

inductive ServiceEvent where
  | moves
  | loses
  | authEnds
  | serves

/-- The type of the session for which the request makes
`hev_socks5_server_handshake` open sockets. -/
def opensFor (self : HevSocks5Server) (request : Request) : HevSocks5Type :=
  if request.res < 0 then .none else (self.serve request).2.2

/-- One part of a send or receive; or its failure, for which there need not be a
reason; or the end of the authentication or of the request. -/
inductive ServiceStep (self : HevSocks5Server) :
    Service → ServiceEvent → Service → Prop where
  | authMoves {state : Service}
      {left later : Process UInt8 (Int × Option HevSocks5User)}
      {came rest out : List UInt8} (stage : state.stage = .auth left)
      (moves : left.Move state.incoming later rest out)
      (split : state.incoming = came ++ rest) :
      ServiceStep self state .moves
        { state with
          stage := .auth later
          incoming := rest
          auth := (state.auth.send out).receive came }
  | authLoses {state : Service}
      {left later : Process UInt8 (Int × Option HevSocks5User)}
      (stage : state.stage = .auth left) (loses : left.Loses later) :
      ServiceStep self state .loses
        { state with stage := .auth later, auth := state.auth.lose left }
  | authFails {state : Service} {res : Int} {user : Option HevSocks5User}
      (stage : state.stage = .auth (.done (res, user))) (failed : res < 0) :
      ServiceStep self state .authEnds { state with stage := .refused user }
  | authPasses {state : Service} {res : Int} {user : Option HevSocks5User}
      (stage : state.stage = .auth (.done (res, user))) (passed : ¬res < 0) :
      ServiceStep self state .authEnds
        { state with stage := .request user self.readRequest }
  | requestMoves {state : Service} {user : Option HevSocks5User}
      {left later : Process UInt8 Request} {came rest out : List UInt8}
      (stage : state.stage = .request user left)
      (moves : left.Move state.incoming later rest out)
      (split : state.incoming = came ++ rest) :
      ServiceStep self state .moves
        { state with
          stage := .request user later
          incoming := rest
          request := (state.request.send out).receive came }
  | requestLoses {state : Service} {user : Option HevSocks5User}
      {left later : Process UInt8 Request}
      (stage : state.stage = .request user left) (loses : left.Loses later) :
      ServiceStep self state .loses
        { state with
          stage := .request user later
          request := state.request.lose left }
  | serves {state : Service} {user : Option HevSocks5User} {request : Request}
      (stage : state.stage = .request user (.done request)) :
      ServiceStep self state .serves
        { state with
          stage := .reply (self.respond user request)
          opened := self.opensFor request }
  | replyMoves {state : Service} {left later : Process UInt8 Handshake}
      {came rest out : List UInt8} (stage : state.stage = .reply left)
      (moves : left.Move state.incoming later rest out)
      (split : state.incoming = came ++ rest) :
      ServiceStep self state .moves
        { state with
          stage := .reply later
          incoming := rest
          request := (state.request.send out).receive came }
  | replyLoses {state : Service} {left later : Process UInt8 Handshake}
      (stage : state.stage = .reply left) (loses : left.Loses later) :
      ServiceStep self state .loses
        { state with stage := .reply later, request := state.request.lose left }

/-- All handshakes of the server with a client that sends `stream`. -/
def service (self : HevSocks5Server) (stream : List UInt8) :
    System Service ServiceEvent where
  start state := state = ⟨.auth self.authenticate, stream, .none, .none, .none⟩
  step := ServiceStep self

/-- The stages make up `hev_socks5_server_handshake`: they begin with it, and a
step is one of its sends and receives or leaves what is left of it. -/
theorem service_handshake (self : HevSocks5Server) :
    (Stage.auth self.authenticate).left self = self.handshake ∧
      ∀ state event next, ServiceStep self state event next →
        (∃ out, (state.stage.left self).Move state.incoming
          (next.stage.left self) next.incoming out) ∨
        (state.stage.left self).Loses (next.stage.left self) ∨
        next.stage.left self = state.stage.left self := by
  refine ⟨rfl, ?_⟩
  intro state event next taken
  cases taken with
  | authMoves stage moves _ =>
      rw [stage]
      exact .inl ⟨_, moves.bind _⟩
  | authLoses stage loses =>
      rw [stage]
      exact .inr (.inl (loses.bind _))
  | authFails stage failed =>
      rw [stage]
      exact .inr (.inr (if_pos failed).symm)
  | authPasses stage passed =>
      rw [stage]
      exact .inr (.inr (if_neg passed).symm)
  | requestMoves stage moves _ =>
      rw [stage]
      exact .inl ⟨_, moves.bind _⟩
  | requestLoses stage loses =>
      rw [stage]
      exact .inr (.inl (loses.bind _))
  | serves stage =>
      rw [stage]
      exact .inr (.inr rfl)
  | replyMoves stage moves _ =>
      rw [stage]
      exact .inl ⟨_, moves⟩
  | replyLoses stage loses =>
      rw [stage]
      exact .inr (.inl loses)

/-! ## What the authentication ensures -/

/-- The bytes are a list of methods with that for users, and a message with a
name and a password that the authenticator maps. -/
def Presents (authenticator : HevSocks5Authenticator) (bytes : List UInt8) :
    Prop :=
  ∃ methods name pass : List UInt8,
    bytes = [version5, UInt8.ofNat methods.length] ++ methods ++
      credsMessage name pass ∧
    methods.length < 256 ∧ authMethodUser ∈ methods ∧
    (0 < name.length ∧ name.length < 256) ∧
    (0 < pass.length ∧ pass.length < 256) ∧ authenticator.Maps name pass

theorem readAuthMethod_ensures {self : HevSocks5Server}
    (set : self.auth.isSome) (traffic : Traffic UInt8) :
    self.readAuthMethod.Ensures (fun later (method : Int) =>
      method = -1 ∨ method = authMethodUser.toNat ∧ ∃ methods : List UInt8,
        methods.length < 256 ∧ authMethodUser ∈ methods ∧
        later.read = traffic.read ++
          ([version5, UInt8.ofNat methods.length] ++ methods)) traffic := by
  refine ⟨?_, fun _ _ => .inl rfl⟩
  intro head sized
  obtain ⟨version, count, rfl⟩ := List.length_eq_two.mp sized
  change (if version ≠ version5 then Process.done (-1)
    else Process.recv count.toNat _).Ensures _ _
  by_cases isFive : version = version5
  case neg =>
    rw [if_pos isFive]
    exact .inl rfl
  rw [if_neg (not_not_intro isFive)]
  refine ⟨?_, fun _ _ => .inl rfl⟩
  intro methods counted
  change (if self.method ∈ methods then
    Process.done (self.method.toNat : Int) else .done (-1)).Ensures _ _
  have method : self.method = authMethodUser := if_pos set
  rw [method]
  by_cases offered : authMethodUser ∈ methods
  case neg =>
    rw [if_neg offered]
    exact .inl rfl
  rw [if_pos offered]
  refine .inr ⟨rfl, methods, ?_, offered, ?_⟩
  · rw [counted]
    exact count.toNat_lt
  · rw [Traffic.receive_read, Traffic.receive_read, counted,
      UInt8.ofNat_toNat, isFive, List.append_assoc]

theorem readAuthPass_ensures (self : HevSocks5Server) {name : List UInt8}
    {last : UInt8} (nameFits : 0 < name.length ∧ name.length < 256)
    {traffic : Traffic UInt8} {front : List UInt8}
    (came : traffic.read =
      front ++ ([authVersion1, UInt8.ofNat name.length] ++ (name ++ [last]))) :
    (self.readAuthPass (name ++ [last]) name.length).Ensures
      (fun later result => result.1 = -1 ∨ ∃ name pass : List UInt8,
        (0 < name.length ∧ name.length < 256) ∧
        (0 < pass.length ∧ pass.length < 256) ∧ self.Accepts name pass ∧
        later.read = front ++ credsMessage name pass) traffic := by
  have lastEq : (name ++ [last]).getD name.length 0 = last := by
    rw [List.getD_eq_getElem?_getD, List.getElem?_append_right le_rfl,
      Nat.sub_self]
    rfl
  unfold readAuthPass
  simp only [lastEq, List.take_left]
  by_cases zero : last.toNat = 0
  · rw [if_pos zero]
    exact .inl rfl
  rw [if_neg zero]
  refine ⟨?_, fun _ _ => .inl rfl⟩
  intro pass counted
  change (self.checkUser name pass).1 = -1 ∨ _
  by_cases accepts : self.Accepts name pass
  case neg =>
    rw [checkUser_of_not_accepts accepts]
    exact .inl rfl
  have passFits : 0 < pass.length ∧ pass.length < 256 := by
    rw [counted]
    exact ⟨Nat.pos_of_ne_zero zero, last.toNat_lt⟩
  refine .inr ⟨name, pass, nameFits, passFits, accepts, ?_⟩
  rw [Traffic.receive_read, came]
  unfold credsMessage
  rw [counted, UInt8.ofNat_toNat]
  simp only [List.append_assoc]

theorem readAuthUser_ensures (self : HevSocks5Server)
    (traffic : Traffic UInt8) :
    self.readAuthUser.Ensures (fun later result =>
      result.1 = -1 ∨ ∃ name pass : List UInt8,
        (0 < name.length ∧ name.length < 256) ∧
        (0 < pass.length ∧ pass.length < 256) ∧ self.Accepts name pass ∧
        later.read = traffic.read ++ credsMessage name pass) traffic := by
  refine ⟨?_, fun _ _ => .inl rfl⟩
  intro head sized
  obtain ⟨version, count, rfl⟩ := List.length_eq_two.mp sized
  change (if version ≠ 1 then Process.done (-1, none)
    else if count.toNat = 0 then .done (-1, none)
    else .recv (count.toNat + 1) _).Ensures _ _
  by_cases isOne : version = 1
  case neg =>
    rw [if_pos isOne]
    exact .inl rfl
  rw [if_neg (not_not_intro isOne)]
  by_cases zero : count.toNat = 0
  · rw [if_pos zero]
    exact .inl rfl
  rw [if_neg zero]
  refine ⟨?_, fun _ _ => .inl rfl⟩
  intro read counted
  -- what is read is the name and the length of the password
  obtain ⟨name, last, rfl⟩ : ∃ name last, read = name ++ [last] := by
    refine ⟨read.dropLast, read.getLast ?_, (List.dropLast_append_getLast _).symm⟩
    intro empty
    rw [empty] at counted
    cases counted
  have nameLen : name.length = count.toNat := by
    rw [List.length_append] at counted
    exact Nat.add_right_cancel counted
  change (self.readAuthPass (name ++ [last]) count.toNat).Ensures _ _
  rw [← nameLen]
  apply self.readAuthPass_ensures
  · rw [nameLen]
    exact ⟨Nat.pos_of_ne_zero zero, count.toNat_lt⟩
  · rw [Traffic.receive_read, Traffic.receive_read, nameLen,
      UInt8.ofNat_toNat, isOne, List.append_assoc]
    rfl

theorem writes_ensures (items : List UInt8) (traffic : Traffic UInt8) :
    (Process.sendAll items >>= fun sent =>
      Process.done (if sent then (0 : Int) else -1)).Ensures
      (fun later _ => later.read = traffic.read) traffic := by
  refine ⟨Traffic.send_read _ _, ?_⟩
  intro front _ _ sent
  change (traffic.send front).fail.read = traffic.read
  rw [Traffic.fail_read, Traffic.send_read]

/-- Only who presents a user and the password comes past the authentication. -/
theorem authenticate_ensures {self : HevSocks5Server}
    {authenticator : HevSocks5Authenticator}
    (set : self.auth = some authenticator) :
    self.authenticate.Ensures (fun later result =>
      0 ≤ result.1 → Presents authenticator later.read) .none := by
  have isSet : self.auth.isSome := by
    rw [set]
    rfl
  unfold authenticate
  refine (readAuthMethod_ensures isSet _).bind ?_
  rintro afterMethod method outcome
  refine (writes_ensures _ _).bind ?_
  rintro afterAnswer written sameRead
  by_cases failed : written < 0
  · rw [if_pos failed]
    exact fun passed => absurd passed (by decide)
  rw [if_neg failed]
  rcases outcome with rfl | ⟨rfl, methods, within, offered, methodsRead⟩
  · exact fun passed => absurd passed (by decide)
  change self.login.Ensures _ _
  refine (self.readAuthUser_ensures _).bind ?_
  rintro afterUser ⟨res, user⟩ outcome
  refine (writes_ensures _ _).bind ?_
  rintro afterReply replied repliedRead
  rcases outcome with refused | ⟨name, pass, nameFits, passFits, accepts, read⟩
  · cases refused
    exact fun passed => absurd passed (show ¬(0 : Int) ≤ -1 by decide)
  obtain ⟨holder, held, maps⟩ := accepts
  rw [set] at held
  cases held
  have presents : Presents authenticator afterReply.read := by
    refine ⟨methods, name, pass, ?_, within, offered, nameFits, passFits, maps⟩
    rw [repliedRead, read, sameRead, methodsRead]
    rfl
  split
  case isTrue => exact fun _ => presents
  case isFalse => exact fun _ => presents

/-! ## No bypass -/

/-- What holds in all stages of a handshake with a client that sends `stream`. -/
structure Guarded (authenticator : HevSocks5Authenticator)
    (stream : List UInt8) (state : Service) : Prop where
  stream : stream = state.auth.read ++ state.request.read ++ state.incoming
  auth : ∀ left, state.stage = .auth left →
    left.Ensures (fun later result =>
      0 ≤ result.1 → Presents authenticator later.read) state.auth
  past : state.stage.PastAuth → Presents authenticator state.auth.read
  before : ¬state.stage.PastAuth →
    state.request = .none ∧ state.opened = .none

theorem Guarded.of_past {authenticator : HevSocks5Authenticator}
    {stream : List UInt8} {state : Service} (past : state.stage.PastAuth)
    (presents : Presents authenticator state.auth.read)
    (split : stream =
      state.auth.read ++ state.request.read ++ state.incoming) :
    Guarded authenticator stream state where
  stream := split
  auth left stage := by
    rw [stage] at past
    exact past.elim
  past _ := presents
  before ahead := absurd past ahead

theorem Guarded.step {self : HevSocks5Server}
    {authenticator : HevSocks5Authenticator} {stream : List UInt8}
    {state next : Service} {event : ServiceEvent}
    (guarded : Guarded authenticator stream state)
    (taken : ServiceStep self state event next) :
    Guarded authenticator stream next := by
  have whole := guarded.stream
  cases taken with
  | authMoves stage moves split =>
      have before := guarded.before (by rw [stage]; exact id)
      refine ⟨?_, ?_, False.elim, fun _ => before⟩
      · rw [whole, split, before.1]
        simp only [Traffic.none, Traffic.receive_read, Traffic.send_read,
          List.append_nil, List.append_assoc]
      · rintro _ ⟨⟩
        exact (guarded.auth _ stage).move moves split
  | authLoses stage loses =>
      have before := guarded.before (by rw [stage]; exact id)
      refine ⟨?_, ?_, False.elim, fun _ => before⟩
      · rw [Traffic.lose_read]
        exact whole
      · rintro _ ⟨⟩
        exact (guarded.auth _ stage).lose loses
  | authFails stage failed =>
      have before := guarded.before (by rw [stage]; exact id)
      exact ⟨whole, nofun, False.elim, fun _ => before⟩
  | authPasses stage passed =>
      have presents := guarded.auth _ stage (not_lt.mp passed)
      exact .of_past trivial presents whole
  | requestMoves stage moves split =>
      refine .of_past trivial (guarded.past (by rw [stage]; exact trivial)) ?_
      rw [whole, split]
      simp only [Traffic.receive_read, Traffic.send_read, List.append_assoc]
  | requestLoses stage loses =>
      refine .of_past trivial (guarded.past (by rw [stage]; exact trivial)) ?_
      rw [Traffic.lose_read]
      exact whole
  | serves stage =>
      exact .of_past trivial (guarded.past (by rw [stage]; exact trivial)) whole
  | replyMoves stage moves split =>
      refine .of_past trivial (guarded.past (by rw [stage]; exact trivial)) ?_
      rw [whole, split]
      simp only [Traffic.receive_read, Traffic.send_read, List.append_assoc]
  | replyLoses stage loses =>
      refine .of_past trivial (guarded.past (by rw [stage]; exact trivial)) ?_
      rw [Traffic.lose_read]
      exact whole

theorem guarded_of_reachable {self : HevSocks5Server}
    {authenticator : HevSocks5Authenticator}
    (set : self.auth = some authenticator) {stream : List UInt8}
    {state : Service} (reached : (self.service stream).Reachable state) :
    Guarded authenticator stream state := by
  have invariant : Invariant (self.service stream)
      (Guarded authenticator stream) := by
    constructor
    · rintro state rfl
      refine ⟨rfl, ?_, False.elim, fun _ => ⟨rfl, rfl⟩⟩
      rintro _ ⟨⟩
      exact authenticate_ensures set
    · intro state event next guarded taken
      exact guarded.step taken
  exact invariant.reachable reached

/-- Whatever a client sends to a server with an authenticator, however it is
cut and wherever it ends: the handshake is past `hev_socks5_server_auth` only
where the stream begins with a list of methods with that for users and with a
user and the password, and otherwise no request is read and no socket is
opened. -/
theorem no_auth_bypass {self : HevSocks5Server}
    {authenticator : HevSocks5Authenticator}
    (set : self.auth = some authenticator) (stream : List UInt8)
    {state : Service} (reached : (self.service stream).Reachable state) :
    (state.stage.PastAuth → ∃ bytes rest,
      stream = bytes ++ rest ∧ Presents authenticator bytes) ∧
    (¬state.stage.PastAuth →
      state.request = .none ∧ state.opened = .none) := by
  have guarded := guarded_of_reachable set reached
  refine ⟨?_, guarded.before⟩
  intro past
  refine ⟨state.auth.read, state.request.read ++ state.incoming, ?_,
    guarded.past past⟩
  rw [← List.append_assoc]
  exact guarded.stream

/-- Where nothing is lost, the authentication comes to its result. -/
theorem reachable_of_alone {self : HevSocks5Server} {stream : List UInt8}
    {result : Int × Option HevSocks5User} {rest : List UInt8}
    {left : Process UInt8 (Int × Option HevSocks5User)} :
    ∀ {state : Service}, (self.service stream).Reachable state →
      state.stage = .auth left →
      left.alone state.incoming = some (result, rest) →
      ∃ last, (self.service stream).Reachable last ∧
        last.stage = .auth (.done result) := by
  induction left with
  | done other =>
      intro state reached stage comes
      cases comes
      exact ⟨state, reached, stage⟩
  | send items next inductionHypothesis =>
      intro state reached stage comes
      refine inductionHypothesis true (reached.step (.authMoves stage
        (move_send items state.incoming next) (List.nil_append _).symm)) rfl comes
  | recv count next inductionHypothesis =>
      intro state reached stage comes
      rw [Process.alone, Option.ite_none_right_eq_some] at comes
      obtain ⟨enough, comes⟩ := comes
      have counted : (state.incoming.take count).length = count :=
        List.length_take_of_le enough
      have split : state.incoming =
          state.incoming.take count ++ state.incoming.drop count :=
        (List.take_append_drop count state.incoming).symm
      have moves : (Process.recv count next).Move state.incoming
          (next (some (state.incoming.take count)))
          (state.incoming.drop count) [] := by
        have whole := move_recv (state.incoming.take count)
          (state.incoming.drop count) next
        rw [counted, ← split] at whole
        unfold Process.prepend at whole
        rw [Option.map_some, List.append_nil] at whole
        exact whole
      exact inductionHypothesis _ (reached.step (.authMoves stage moves split))
        rfl comes

/-- A client that offers two methods and is the user `a` comes past the
authentication, and indeed it has sent the password of that user. -/
theorem no_auth_bypass_userA :
    ∃ state, (serverA.service [5, 2, 0, 2, 1, 1, 97, 1, 98, 5]).Reachable state ∧
      state.stage.PastAuth ∧ ∃ bytes rest,
        [5, 2, 0, 2, 1, 1, 97, 1, 98, 5] = bytes ++ rest ∧
        Presents ⟨.node .leaf ⟨[97], [98]⟩ .leaf, List.pairwise_singleton _ _⟩
          bytes := by
  have comes : serverA.authenticate.alone [5, 2, 0, 2, 1, 1, 97, 1, 98, 5] =
      some ((0, some ⟨[97], [98]⟩), [5]) := by
    decide +kernel
  have started : (serverA.service [5, 2, 0, 2, 1, 1, 97, 1, 98, 5]).Reachable
      ⟨.auth serverA.authenticate, [5, 2, 0, 2, 1, 1, 97, 1, 98, 5], .none, .none,
        .none⟩ :=
    ⟨_, [], rfl, .nil _⟩
  obtain ⟨state, reached, stage⟩ := reachable_of_alone started rfl comes
  have passed := reached.step (.authPasses stage (lt_irrefl 0))
  exact ⟨_, passed, trivial, (no_auth_bypass rfl _ passed).1 trivial⟩

end HevSocks5Server

end ProxyVPN
