/-
Module: ProxyVPN.Hev.Socks5Server
Purpose: The handshake of hev-socks5-server.c as a process that receives and
  sends, and what each of its steps does in a dialogue.
Trusted boundary: human-reviewed model
Main exports: HevSocks5Server, HevSocks5Server.handshake, Handshake, Accepts,
  Resolves, rejects_method, accepts_method_none, accepts_method_user,
  accepts_user, rejects_user, finish_leads
-/
import ProxyVPN.Hev.Socks5Authenticator
import ProxyVPN.Hev.Socks5Misc
import ProxyVPN.Lib.Dialogue

namespace ProxyVPN

open Dialogue Socks5Proto

/-- `struct _HevSocks5Server` with its surroundings; `stack` is what a structure
on the stack contains before it is filled in. -/
structure HevSocks5Server where
  auth : Option HevSocks5Authenticator
  addrFamily : AddrFamily
  resolver : Resolver
  sockets : Sockets
  stack : HevSocks5Addr

/-- What `hev_socks5_server_read_request` leaves in its result, in `cmd`, `rep`
and `addr`, and the bytes of the request that were read. -/
structure Request where
  res : Int
  cmd : UInt8
  rep : UInt8
  addr : Sockaddr6
  read : List UInt8

/-- What a handshake leaves: its result, that of the authentication, the user
and the type in the server, and the bytes of the request that were read. -/
structure Handshake where
  res : Int
  authRes : Int
  user : Option HevSocks5User
  type : HevSocks5Type
  read : List UInt8
deriving DecidableEq

namespace HevSocks5Server

/-! ## Authentication -/

/-- `hev_socks5_server_read_auth_method`. -/
def readAuthMethod (self : HevSocks5Server) : Process UInt8 Int := do
  match ← Process.receive 2 with
  | none => return -1
  | some auth =>
      if auth.getD 0 0 ≠ version5 then return -1
      else do
        match ← Process.receive (auth.getD 1 0).toNat with
        | none => return -1
        | some methods =>
            let method :=
              if self.auth.isSome then authMethodUser else authMethodNone
            if method ∈ methods then return method.toNat else return -1

/-- `hev_socks5_server_write_auth_method`. -/
def writeAuthMethod (authMethod : Int) : Process UInt8 Int := do
  let sent ← Process.sendAll [version5, UInt8.ofInt authMethod]
  return if sent then 0 else -1

/-- The search and the check in `hev_socks5_server_read_auth_user`, which is
called with an authenticator only. -/
def checkUser (self : HevSocks5Server) (name pass : List UInt8) :
    Int × Option HevSocks5User :=
  match self.auth.bind (·.get name) with
  | none => (-1, none)
  | some user => if user.check pass < 0 then (-1, none) else (0, some user)

/-- The last part of `hev_socks5_server_read_auth_user`, behind the name. -/
def readAuthPass (self : HevSocks5Server) (name : List UInt8) (nlen : Nat) :
    Process UInt8 (Int × Option HevSocks5User) :=
  let plen := (name.getD nlen 0).toNat
  if plen = 0 then return (-1, none)
  else do
    match ← Process.receive plen with
    | none => return (-1, none)
    | some pass => return self.checkUser (name.take nlen) pass

/-- `hev_socks5_server_read_auth_user`, with the user that it sets. -/
def readAuthUser (self : HevSocks5Server) :
    Process UInt8 (Int × Option HevSocks5User) := do
  match ← Process.receive 2 with
  | none => return (-1, none)
  | some head =>
      if head.getD 0 0 ≠ 1 then return (-1, none)
      else
        let nlen := (head.getD 1 0).toNat
        if nlen = 0 then return (-1, none)
        else do
          match ← Process.receive (nlen + 1) with
          | none => return (-1, none)
          | some name => self.readAuthPass name nlen

/-- `hev_socks5_server_write_auth_user`. -/
def writeAuthUser (authRes : Int) : Process UInt8 Int := do
  let sent ← Process.sendAll [1, UInt8.ofInt authRes]
  return if sent then 0 else -1

/-- The branch of `hev_socks5_server_auth` for users. -/
def login (self : HevSocks5Server) :
    Process UInt8 (Int × Option HevSocks5User) := do
  let (res, user) ← self.readAuthUser
  let written ← writeAuthUser res
  -- the two results are joined by a bitwise or
  if res < 0 ∨ written < 0 then return (-1, user) else return (0, user)

/-- `hev_socks5_server_auth` behind the method that was read. -/
def answerMethod (self : HevSocks5Server) (method : Int) :
    Process UInt8 (Int × Option HevSocks5User) := do
  let res ← writeAuthMethod method
  if res < 0 then return (-1, none)
  else if method = authMethodNone.toNat then return (0, none)
  else if method = authMethodUser.toNat then self.login
  else return (-1, none)

/-- `hev_socks5_server_auth`. -/
def authenticate (self : HevSocks5Server) :
    Process UInt8 (Int × Option HevSocks5User) := do
  let method ← self.readAuthMethod
  self.answerMethod method

/-! ## The request -/

/-- The last part of `hev_socks5_server_read_request`, with a whole request. -/
def convertRequest (self : HevSocks5Server) (read : List UInt8) : Request :=
  let addr := self.stack.overwrite (read.drop 3)
  let (res, saddr, _) :=
    addr.intoSockaddr6 self.resolver Sockaddr6.zero self.addrFamily
  if res < 0 then ⟨0, 0, resRepAddr, saddr, read⟩
  else ⟨0, read.getD 1 0, resRepSucc, saddr, read⟩

/-- `hev_socks5_server_read_request`. -/
def readRequest (self : HevSocks5Server) : Process UInt8 Request := do
  match ← Process.receive 5 with
  | none => return ⟨-1, 0, resRepSucc, Sockaddr6.zero, []⟩
  | some head =>
      if head.getD 0 0 ≠ version5 then
        return ⟨0, 0, resRepFail, Sockaddr6.zero, head⟩
      else
        let addrlen? : Option Nat :=
          match (head.getD 3 0).toNat with
          | 1 => some 5
          | 4 => some 17
          | 3 => some (2 + (head.getD 4 0).toNat)
          | _ => none
        match addrlen? with
        | none => return ⟨0, 0, resRepAddr, Sockaddr6.zero, head⟩
        | some addrlen => do
            match ← Process.receive addrlen with
            | none => return ⟨0, 0, resRepAddr, Sockaddr6.zero, head⟩
            | some rest => return self.convertRequest (head ++ rest)

/-- `hev_socks5_server_connect`. -/
def connect (self : HevSocks5Server) (addr : Sockaddr6) : Int :=
  let fd := self.sockets.socket .stream 0
  if fd < 0 then -1
  else if self.sockets.binder fd addr < 0 then -1
  else if self.sockets.connect fd addr < 0 then -1
  else 0

/-- `hev_socks5_server_udp_bind`, with the address that it writes. -/
def udpBind (self : HevSocks5Server) (sock : Int) (src : Sockaddr6) :
    Int × Sockaddr6 :=
  match self.sockets.connectionName with
  | none => (-1, src)
  | some name =>
      let src := { name with port := Sockaddr6.zero.port }
      if self.sockets.bind sock src < 0 then (-1, src)
      else
        match self.sockets.boundName sock with
        | none => (-1, src)
        | some name => (0, name)

/-- `hev_socks5_server_bind`, with the address that it writes. -/
def bind (self : HevSocks5Server) (addr : Option Sockaddr6) :
    Int × Option Sockaddr6 :=
  let fd := self.sockets.socket .dgram 0
  if fd < 0 then (-1, addr)
  else
    match addr with
    | none => (0, none)
    | some src =>
        let fd := self.sockets.socket .dgram 1
        if fd < 0 then (-1, some src)
        else if self.sockets.reuseAddr fd < 0 then (-1, some src)
        else
          let (res, src) := self.udpBind fd src
          if res < 0 then (-1, some src) else (0, some src)

/-- `hev_socks5_server_write_response`. -/
def writeResponse (rep : UInt8) (addr : Sockaddr6) : Process UInt8 Int := do
  let sent ← Process.sendAll ([version5, rep, 0] ++ addrFromSockaddr6 addr)
  return if sent then 0 else -1

/-- The branches of `hev_socks5_server_handshake` by the command: the reply, the
address, and the type. -/
def serve (self : HevSocks5Server) (request : Request) :
    UInt8 × Sockaddr6 × HevSocks5Type :=
  if request.rep = resRepSucc then
    if request.cmd = reqCmdConnect then
      let res := self.connect request.addr
      (if res < 0 then resRepHost else resRepSucc, request.addr, .tcp)
    else if request.cmd = reqCmdUdpAsc then
      let (res, addr) := self.bind (some request.addr)
      (if res < 0 then resRepFail else resRepSucc, addr.getD request.addr,
        .udpInUdp)
    else if request.cmd = reqCmdFwdUdp then
      let (res, _) := self.bind none
      (if res < 0 then resRepFail else resRepSucc, request.addr, .udpInTcp)
    else (resRepImpl, request.addr, .none)
  else (request.rep, request.addr, .none)

/-- What follows the authentication. -/
def finish (self : HevSocks5Server) (user : Option HevSocks5User) :
    Process UInt8 Handshake := do
  let request ← self.readRequest
  if request.res < 0 then return ⟨-1, 0, user, .none, request.read⟩
  else
    let (rep, addr, type) := self.serve request
    let res ← writeResponse rep addr
    if res < 0 ∨ rep ≠ resRepSucc then
      return ⟨-1, 0, user, type, request.read⟩
    else return ⟨0, 0, user, type, request.read⟩

/-- What the result of the authentication leads to. -/
def conclude (self : HevSocks5Server) (auth : Int × Option HevSocks5User) :
    Process UInt8 Handshake :=
  if auth.1 < 0 then return ⟨-1, -1, auth.2, .none, []⟩
  else self.finish auth.2

/-- `hev_socks5_server_handshake`. -/
def handshake (self : HevSocks5Server) : Process UInt8 Handshake := do
  let auth ← self.authenticate
  self.conclude auth

/-! ## What the server accepts -/

/-- The method that the server asks for. -/
def method (self : HevSocks5Server) : UInt8 :=
  if self.auth.isSome then authMethodUser else authMethodNone

/-- The server has an authenticator that maps the name to the password. -/
def Accepts (self : HevSocks5Server) (name pass : List UInt8) : Prop :=
  ∃ authenticator, self.auth = some authenticator ∧
    authenticator.Maps name pass

theorem Accepts.isSome {self : HevSocks5Server} {name pass : List UInt8}
    (accepts : self.Accepts name pass) : self.auth.isSome := by
  obtain ⟨authenticator, set, _⟩ := accepts
  rw [set]
  rfl

theorem checkUser_of_accepts {self : HevSocks5Server} {name pass : List UInt8}
    (accepts : self.Accepts name pass) :
    self.checkUser name pass = (0, some ⟨name, pass⟩) := by
  obtain ⟨authenticator, set, maps⟩ := accepts
  have found : authenticator.get name = some ⟨name, pass⟩ :=
    HevSocks5Authenticator.get_of_mem maps
  unfold checkUser
  rw [set, Option.bind_some, found]
  simp only
  rw [HevSocks5User.check_eq, if_pos rfl, if_neg (lt_irrefl 0)]

theorem checkUser_of_not_accepts {self : HevSocks5Server}
    {name pass : List UInt8} (rejects : ¬self.Accepts name pass) :
    self.checkUser name pass = (-1, none) := by
  unfold checkUser
  split
  case h_1 => rfl
  case h_2 user found =>
    obtain ⟨authenticator, set, got⟩ := Option.bind_eq_some_iff.mp found
    rw [HevSocks5User.check_eq]
    by_cases same : user.pass = pass
    · refine absurd ?_ rejects
      refine ⟨authenticator, set, (authenticator.get_check_iff name pass).mp ?_⟩
      exact ⟨user, got, by rw [HevSocks5User.check_eq, if_pos same]⟩
    · rw [if_neg same]
      rfl

/-- The address becomes a socket address, where it is a name by resolution. -/
def Resolves (self : HevSocks5Server) (addr : HevSocks5Addr) : Prop :=
  0 ≤ (addr.intoSockaddr6 self.resolver Sockaddr6.zero self.addrFamily).1

theorem convertRequest_eq (self : HevSocks5Server) (cmd : UInt8)
    {addr : HevSocks5Addr} (valid : 0 < addr.addrLen)
    (resolves : self.Resolves addr) :
    ∃ saddr, self.convertRequest ([version5, cmd, 0] ++ addr.wire) =
      ⟨0, cmd, resRepSucc, saddr, [version5, cmd, 0] ++ addr.wire⟩ := by
  have converted := HevSocks5Addr.intoSockaddr6_overwrite self.stack valid
    self.resolver Sockaddr6.zero self.addrFamily
  unfold Resolves at resolves
  unfold convertRequest
  have behind : ([version5, cmd, 0] ++ addr.wire).drop 3 = addr.wire := rfl
  simp only [behind, converted]
  rw [if_neg resolves.not_gt]
  exact ⟨_, rfl⟩

/-- Where all calls for sockets succeed, so do the commands. -/
theorem connect_eq {self : HevSocks5Server} (succeed : self.sockets.Succeed)
    (addr : Sockaddr6) : self.connect addr = 0 := by
  unfold connect
  simp only
  rw [if_neg (succeed.socket _ _).not_gt, if_neg (succeed.binder _ _).not_gt,
    if_neg (succeed.connect _ _).not_gt]

theorem udpBind_eq {self : HevSocks5Server} (succeed : self.sockets.Succeed)
    (sock : Int) (src : Sockaddr6) : (self.udpBind sock src).1 = 0 := by
  unfold udpBind
  split
  case h_1 failed => exact absurd failed succeed.connectionName
  case h_2 =>
    simp only
    rw [if_neg (succeed.bind _ _).not_gt]
    split
    case h_1 failed => exact absurd failed (succeed.boundName _)
    case h_2 => rfl

theorem bind_eq {self : HevSocks5Server} (succeed : self.sockets.Succeed)
    (addr : Option Sockaddr6) : (self.bind addr).1 = 0 := by
  unfold bind
  simp only
  rw [if_neg (succeed.socket _ _).not_gt]
  split
  case h_1 => rfl
  case h_2 src =>
    have bound := udpBind_eq succeed (self.sockets.socket .dgram 1) src
    rw [if_neg (succeed.socket _ _).not_gt, if_neg (succeed.reuseAddr _).not_gt]
    rw [bound, if_neg (lt_irrefl 0)]

theorem serve_eq {self : HevSocks5Server} (succeed : self.sockets.Succeed)
    {type : HevSocks5Type} (typed : type ≠ .none) (addr : Sockaddr6)
    (read : List UInt8) :
    ∃ bound, self.serve ⟨0, type.cmd, resRepSucc, addr, read⟩ =
      (resRepSucc, bound, type) := by
  cases type with
  | none => exact absurd rfl typed
  | tcp =>
      refine ⟨addr, ?_⟩
      change (if self.connect addr < 0 then resRepHost else resRepSucc, addr,
        HevSocks5Type.tcp) = _
      rw [connect_eq succeed]
      rfl
  | udpInUdp =>
      refine ⟨(self.bind (some addr)).2.getD addr, ?_⟩
      change (if (self.bind (some addr)).1 < 0 then resRepFail else resRepSucc,
        (self.bind (some addr)).2.getD addr, HevSocks5Type.udpInUdp) = _
      rw [bind_eq succeed]
      rfl
  | udpInTcp =>
      refine ⟨addr, ?_⟩
      change (if (self.bind none).1 < 0 then resRepFail else resRepSucc, addr,
        HevSocks5Type.udpInTcp) = _
      rw [bind_eq succeed]
      rfl

/-! ## Steps of a dialogue -/

section Steps

variable {ρ σ : Type} {badLeft : ρ → Prop} {badRight : σ → Prop}
  {ending : Ending UInt8 ρ σ} {left : Process UInt8 ρ}
  {toRight toLeft : List UInt8}

theorem readAuthMethod_leads (self : HevSocks5Server) {method : UInt8}
    {rest : Int → Process UInt8 σ} (lost : Hopeless badRight (rest (-1)))
    (behind : Leads badLeft badRight ending left
      (rest (if self.method = method then self.method.toNat else -1)) toRight
      toLeft) :
    Leads badLeft badRight ending left (self.readAuthMethod >>= rest)
      ([version5, 1, method] ++ toRight) toLeft := by
  have heads : [version5, 1, method] ++ toRight =
      [version5, 1] ++ ([method] ++ toRight) := rfl
  rw [heads]
  refine .rightReceives rfl rfl lost (.rightReceives rfl rfl lost ?_)
  change Leads badLeft badRight ending left
    ((if self.method ∈ [method] then Process.done (self.method.toNat : Int)
      else .done (-1)) >>= rest) toRight toLeft
  by_cases offered : self.method = method
  · rw [if_pos offered] at behind
    rw [if_pos (List.mem_singleton.mpr offered)]
    exact behind
  · rw [if_neg offered] at behind
    rw [if_neg (fun member => offered (List.mem_singleton.mp member))]
    exact behind

theorem readAuthPass_leads (self : HevSocks5Server) {name pass : List UInt8}
    {rest : Int × Option HevSocks5User → Process UInt8 σ}
    (fits : 0 < pass.length ∧ pass.length < 256)
    (lost : Hopeless badRight (rest (-1, none)))
    (behind : Leads badLeft badRight ending left (rest (self.checkUser name pass))
      toRight toLeft) :
    Leads badLeft badRight ending left
      (self.readAuthPass (name ++ [UInt8.ofNat pass.length]) name.length >>= rest)
      (pass ++ toRight) toLeft := by
  have passLen : (UInt8.ofNat pass.length).toNat = pass.length :=
    UInt8.toNat_ofNat_of_lt' fits.2
  have last : (name ++ [UInt8.ofNat pass.length]).getD name.length 0 =
      UInt8.ofNat pass.length := by
    rw [List.getD_eq_getElem?_getD, List.getElem?_append_right le_rfl,
      Nat.sub_self]
    rfl
  unfold readAuthPass
  simp only [last, passLen, List.take_left]
  rw [if_neg (by omega)]
  exact .rightReceives rfl rfl lost behind

/-- A name and a password of fitting lengths reach the check. -/
theorem readAuthUser_leads (self : HevSocks5Server) {name pass : List UInt8}
    {rest : Int × Option HevSocks5User → Process UInt8 σ}
    (nameFits : 0 < name.length ∧ name.length < 256)
    (passFits : 0 < pass.length ∧ pass.length < 256)
    (lost : Hopeless badRight (rest (-1, none)))
    (behind : Leads badLeft badRight ending left (rest (self.checkUser name pass))
      toRight toLeft) :
    Leads badLeft badRight ending left (self.readAuthUser >>= rest)
      (credsMessage name pass ++ toRight) toLeft := by
  have nameLen : (UInt8.ofNat name.length).toNat = name.length :=
    UInt8.toNat_ofNat_of_lt' nameFits.2
  have heads : credsMessage name pass ++ toRight =
      [authVersion1, UInt8.ofNat name.length] ++
        ((name ++ [UInt8.ofNat pass.length]) ++ (pass ++ toRight)) := by
    simp only [credsMessage, List.append_assoc]
  rw [heads]
  refine .rightReceives rfl rfl lost ?_
  change Leads badLeft badRight ending left
    ((if (UInt8.ofNat name.length).toNat = 0 then .done (-1, none)
      else .recv ((UInt8.ofNat name.length).toNat + 1) fun received =>
        match received with
        | none => .done (-1, none)
        | some read =>
            self.readAuthPass read (UInt8.ofNat name.length).toNat) >>= rest)
    ((name ++ [UInt8.ofNat pass.length]) ++ (pass ++ toRight)) toLeft
  rw [nameLen, if_neg (by omega)]
  refine .rightReceives rfl ?_ lost (self.readAuthPass_leads passFits lost behind)
  rw [List.length_append, List.length_singleton]

/-- A valid address that resolves is read to its end. -/
theorem readRequest_leads (self : HevSocks5Server) {cmd : UInt8}
    {addr : HevSocks5Addr} {rest : Request → Process UInt8 σ}
    (valid : 0 < addr.addrLen)
    (resolves : self.Resolves addr)
    (lost : ∀ request, Hopeless badRight (rest request))
    (behind : ∀ saddr, Leads badLeft badRight ending left
      (rest ⟨0, cmd, resRepSucc, saddr, [version5, cmd, 0] ++ addr.wire⟩) toRight
      toLeft) :
    Leads badLeft badRight ending left (self.readRequest >>= rest)
      ([version5, cmd, 0] ++ addr.wire ++ toRight) toLeft := by
  obtain ⟨second, tail, split, typed⟩ := HevSocks5Addr.wire_eq valid
  obtain ⟨saddr, converted⟩ := self.convertRequest_eq cmd valid resolves
  have taken := behind saddr
  rw [← converted, split] at taken
  have heads : [version5, cmd, 0] ++ addr.wire ++ toRight =
      [version5, cmd, 0, addr.atype, second] ++ (tail ++ toRight) := by
    rw [split]
    rfl
  rw [heads]
  rcases typed with ⟨isV4, sized⟩ | ⟨isV6, sized⟩ | ⟨isName, sized⟩
  · rw [isV4] at taken ⊢
    exact .rightReceives rfl rfl (lost _)
      (.rightReceives rfl sized (lost _) taken)
  · rw [isV6] at taken ⊢
    exact .rightReceives rfl rfl (lost _)
      (.rightReceives rfl sized (lost _) taken)
  · rw [isName] at taken ⊢
    exact .rightReceives rfl rfl (lost _)
      (.rightReceives rfl sized (lost _) taken)

/-! ## The outcomes of the authentication -/

section Outcomes

variable {badRight : Handshake → Prop} {ending : Ending UInt8 ρ Handshake}
  {self : HevSocks5Server}

/-- The answer to the method of the client comes next. -/
theorem handshake_leads {method : UInt8}
    (lost : badRight ⟨-1, -1, none, .none, []⟩)
    (behind : Leads badLeft badRight ending left
      (self.answerMethod (if self.method = method then self.method.toNat else -1)
        >>= self.conclude) toRight toLeft) :
    Leads badLeft badRight ending left self.handshake
      ([version5, 1, method] ++ toRight) toLeft := by
  unfold handshake authenticate
  rw [Process.bind_assoc]
  refine self.readAuthMethod_leads (.send ?_) behind
  intro sent
  cases sent
  · exact .done lost
  · exact .done lost

/-- A client with another method is rejected. -/
theorem rejects_method {method : UInt8} (different : self.method ≠ method)
    (lost : badRight ⟨-1, -1, none, .none, []⟩)
    (behind : Leads badLeft badRight ending left
      (.done ⟨-1, -1, none, .none, []⟩) toRight (toLeft ++ [version5, 255])) :
    Leads badLeft badRight ending left self.handshake
      ([version5, 1, method] ++ toRight) toLeft := by
  apply handshake_leads lost
  rw [if_neg different]
  exact .rightSends (.done lost) behind

/-- Without an authenticator, a client without credentials comes to its
request. -/
theorem accepts_method_none (unset : self.auth = none)
    (lost : badRight ⟨-1, -1, none, .none, []⟩)
    (behind : Leads badLeft badRight ending left (self.finish none) toRight
      (toLeft ++ [version5, authMethodNone])) :
    Leads badLeft badRight ending left self.handshake
      ([version5, 1, authMethodNone] ++ toRight) toLeft := by
  have method : self.method = authMethodNone := by
    unfold HevSocks5Server.method
    rw [unset]
    rfl
  apply handshake_leads lost
  rw [method, if_pos rfl]
  exact .rightSends (.done lost) behind

/-- With an authenticator, a client with credentials comes to these. -/
theorem accepts_method_user (set : self.auth.isSome)
    (lost : badRight ⟨-1, -1, none, .none, []⟩)
    (behind : Leads badLeft badRight ending left (self.login >>= self.conclude)
      toRight (toLeft ++ [version5, authMethodUser])) :
    Leads badLeft badRight ending left self.handshake
      ([version5, 1, authMethodUser] ++ toRight) toLeft := by
  have method : self.method = authMethodUser := if_pos set
  apply handshake_leads lost
  rw [method, if_pos rfl]
  exact .rightSends (.done lost) behind

/-- Credentials that the authenticator maps lead to the request. -/
theorem accepts_user {name pass : List UInt8}
    (nameFits : 0 < name.length ∧ name.length < 256)
    (passFits : 0 < pass.length ∧ pass.length < 256)
    (accepts : self.Accepts name pass)
    (lost : ∀ user, badRight ⟨-1, -1, user, .none, []⟩)
    (behind : Leads badLeft badRight ending left
      (self.finish (some ⟨name, pass⟩)) toRight
      (toLeft ++ [authVersion1, resRepSucc])) :
    Leads badLeft badRight ending left (self.login >>= self.conclude)
      (credsMessage name pass ++ toRight) toLeft := by
  unfold login
  rw [Process.bind_assoc]
  refine self.readAuthUser_leads nameFits passFits (.send ?_) ?_
  · intro sent
    cases sent
    · exact .done (lost none)
    · exact .done (lost none)
  · rw [checkUser_of_accepts accepts]
    exact .rightSends (.done (lost _)) behind

/-- Other credentials are rejected. -/
theorem rejects_user {name pass : List UInt8}
    (nameFits : 0 < name.length ∧ name.length < 256)
    (passFits : 0 < pass.length ∧ pass.length < 256)
    (rejects : ¬self.Accepts name pass)
    (lost : badRight ⟨-1, -1, none, .none, []⟩)
    (behind : Leads badLeft badRight ending left
      (.done ⟨-1, -1, none, .none, []⟩) toRight (toLeft ++ [authVersion1, 255])) :
    Leads badLeft badRight ending left (self.login >>= self.conclude)
      (credsMessage name pass ++ toRight) toLeft := by
  unfold login
  rw [Process.bind_assoc]
  refine self.readAuthUser_leads nameFits passFits (.send ?_) ?_
  · intro sent
    cases sent
    · exact .done lost
    · exact .done lost
  · rw [checkUser_of_not_accepts rejects]
    exact .rightSends (.done lost) behind

end Outcomes

/-- A request that can be served is answered with success. -/
theorem finish_leads {badRight : Handshake → Prop}
    {ending : Ending UInt8 ρ Handshake} {self : HevSocks5Server}
    (succeed : self.sockets.Succeed) {type : HevSocks5Type}
    (typed : type ≠ .none) {addr : HevSocks5Addr} (valid : 0 < addr.addrLen)
    (resolves : self.Resolves addr) {user : Option HevSocks5User}
    (lost : ∀ process : Process UInt8 Handshake, Hopeless badRight process)
    (behind : ∀ saddr, Leads badLeft badRight ending left
      (.done ⟨0, 0, user, type, [version5, type.cmd, 0] ++ addr.wire⟩) toRight
      (toLeft ++ ([version5, resRepSucc, 0] ++ addrFromSockaddr6 saddr))) :
    Leads badLeft badRight ending left (self.finish user)
      ([version5, type.cmd, 0] ++ addr.wire ++ toRight) toLeft := by
  refine self.readRequest_leads valid resolves (fun _ => lost _) ?_
  intro saddr
  obtain ⟨bound, served⟩ := serve_eq succeed typed saddr
    ([version5, type.cmd, 0] ++ addr.wire)
  have sends : Leads badLeft badRight ending left
      (writeResponse resRepSucc bound >>= fun res =>
        if res < 0 ∨ resRepSucc ≠ resRepSucc then
          .done ⟨-1, 0, user, type, [version5, type.cmd, 0] ++ addr.wire⟩
        else .done ⟨0, 0, user, type, [version5, type.cmd, 0] ++ addr.wire⟩)
      toRight toLeft :=
    .rightSends (lost _) (behind bound)
  rw [if_neg (lt_irrefl 0)]
  rw [served]
  exact sends

end Steps

end HevSocks5Server

end ProxyVPN
