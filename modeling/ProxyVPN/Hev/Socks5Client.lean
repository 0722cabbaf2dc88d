/-
Module: ProxyVPN.Hev.Socks5Client
Purpose: The handshake of hev-socks5-client.c as a process that sends and
  receives, with both orders of writing, and what each of its steps does in a
  dialogue.
Trusted boundary: human-reviewed model
Main exports: HevSocks5Client, HevSocks5Client.handshake,
  HevSocks5Client.handshakeWithAddr, handshakeWithAddr_result, CredentialsFit,
  exists_upstream, writeAuthMethods_leads, writeAuthCreds_leads,
  writeRequest_eq, writeRequest_leads, handshakePipeline_leads,
  readAuthMethod_leads, readAuthCreds_leads, readResponse_leads
-/
import ProxyVPN.Hev.MappedDns
import ProxyVPN.Hev.Socks5Misc
import ProxyVPN.Lib.Dialogue

namespace ProxyVPN

open Dialogue Socks5Proto

/-- The class of a client, with the address that a TCP client holds. -/
inductive HevSocks5ClientClass where
  | tcp (addr : HevSocks5Addr)
  | udp

/-- What the constructors and a connection leave: a TCP client holds a valid
address, and a UDP client has the family of its connection. -/
def HevSocks5ClientClass.Supplies (type : HevSocks5Type) (family : AddrFamily) :
    HevSocks5ClientClass → Prop
  | .tcp addr => type = .tcp ∧ 0 < addr.addrLen
  | .udp => (type = .udpInTcp ∨ type = .udpInUdp) ∧ family ≠ .unspec

/-- `struct _HevSocks5Client` with its surroundings; `stack` is what a structure
on the stack contains before it is filled in. -/
structure HevSocks5Client where
  user : Option CString
  pass : Option CString
  type : HevSocks5Type
  addrFamily : AddrFamily
  klass : HevSocks5ClientClass
  supplies : klass.Supplies type addrFamily
  resolver : Resolver
  sockets : Sockets
  stack : HevSocks5Addr

namespace HevSocks5Client

/-! ## The classes -/

/-- `get_upstream_addr` of both classes. -/
def getUpstreamAddr (self : HevSocks5Client) : Option HevSocks5Addr :=
  match self.klass with
  | .tcp addr => some addr
  | .udp =>
      match self.addrFamily with
      | .ipv4 => some (HevSocks5Addr.zero 1)
      | .ipv6 => some (HevSocks5Addr.zero 4)
      | .unspec => none

/-- `set_upstream_addr` of both classes. -/
def setUpstreamAddr (self : HevSocks5Client) (addr : HevSocks5Addr) : Int :=
  match self.klass with
  | .tcp _ => 0
  | .udp =>
      if self.type ≠ .udpInUdp then 0
      else
        let (res, saddr, _) :=
          addr.intoSockaddr6 self.resolver Sockaddr6.zero self.addrFamily
        if res < 0 then -1
        else
          let fd := self.sockets.socket .dgram 0
          if fd < 0 then -1
          else if self.sockets.binder fd saddr < 0 then -1
          else if self.sockets.connect fd saddr < 0 then -1
          else 0

/-! ## The messages of the client -/

/-- `hev_socks5_client_write_auth_methods`. -/
def writeAuthMethods (self : HevSocks5Client) : Process UInt8 Int := do
  let method :=
    if self.user = none ∨ self.pass = none then authMethodNone
    else authMethodUser
  let sent ← Process.sendAll [version5, 1, method]
  return if sent then 0 else -1

/-- `hev_socks5_client_write_auth_creds`; the lengths are one byte each. -/
def writeAuthCreds (self : HevSocks5Client) : Process UInt8 Int :=
  match self.user, self.pass with
  | some user, some pass => do
      let userLen := UInt8.ofNat user.bytes.length
      let passLen := UInt8.ofNat pass.bytes.length
      let sent ← Process.sendAll
        ([authVersion1, userLen] ++ user.bytes.take userLen.toNat ++
          [passLen] ++ pass.bytes.take passLen.toNat)
      return if sent then 0 else -1
  | _, _ => return 0

/-- `hev_socks5_client_write_request`. -/
def writeRequest (self : HevSocks5Client) : Process UInt8 Int :=
  let cmd? : Option UInt8 :=
    match self.type with
    | .tcp => some reqCmdConnect
    | .udpInTcp => some reqCmdFwdUdp
    | .udpInUdp => some reqCmdUdpAsc
    | .none => none
  match cmd?, self.getUpstreamAddr with
  | some cmd, some addr =>
      if addr.addrLen < 0 then return -1
      else do
        let sent ← Process.sendAll ([version5, cmd, 0] ++ addr.wire)
        return if sent then 0 else -1
  | _, _ => return -1

/-! ## The messages of the server -/

/-- `hev_socks5_client_read_auth_method`. -/
def readAuthMethod : Process UInt8 Int := do
  match ← Process.receive 2 with
  | none => return -1
  | some auth =>
      if auth.getD 0 0 ≠ version5 then return -1
      else return (auth.getD 1 0).toNat

/-- `hev_socks5_client_read_auth_creds`. -/
def readAuthCreds : Process UInt8 Int := do
  match ← Process.receive 2 with
  | none => return -1
  | some res =>
      if res.getD 0 0 ≠ authVersion1 then return -1
      else if res.getD 1 0 ≠ resRepSucc then return -1
      else return 0

/-- The end of `hev_socks5_client_read_response`: the rest of an address of which
some bytes are there, for `set_upstream_addr`. -/
def readAddr (self : HevSocks5Client) (begun : List UInt8) (addrlen : Nat) :
    Process UInt8 (Int × Option HevSocks5Addr) := do
  match ← Process.receive addrlen with
  | none => return (-1, none)
  | some rest =>
      let addr := self.stack.overwrite (begun ++ rest)
      return (if self.setUpstreamAddr addr < 0 then -1 else 0, some addr)

/-- `hev_socks5_client_read_response`, with the address that it passes to
`set_upstream_addr`. -/
def readResponse (self : HevSocks5Client) :
    Process UInt8 (Int × Option HevSocks5Addr) := do
  match ← Process.receive 4 with
  | none => return (-1, none)
  | some res =>
      if res.getD 0 0 ≠ version5 then return (-1, none)
      else if res.getD 1 0 ≠ resRepSucc then return (-1, none)
      else
        match (res.getD 3 0).toNat with
        | 1 => self.readAddr (res.drop 3) 6
        | 4 => self.readAddr (res.drop 3) 18
        | _ => return (-1, none)

/-! ## The handshake -/

/-- The end of both handshakes. -/
def awaitResponseWithAddr (self : HevSocks5Client) :
    Process UInt8 (Int × Option HevSocks5Addr) := do
  let (res, addr) ← self.readResponse
  if res < 0 then return (-1, addr) else return (0, addr)

/-- The result alone. -/
def result (process : Process UInt8 (Int × Option HevSocks5Addr)) :
    Process UInt8 Int :=
  process >>= fun ended => .done ended.1

def awaitResponse (self : HevSocks5Client) : Process UInt8 Int :=
  result self.awaitResponseWithAddr

section Handshake

/-! A handshake returns `failed` where a step before the response fails, and
otherwise what its end, `response`, returns. -/

variable {ρ : Type} (self : HevSocks5Client) (failed : ρ) (response : Process UInt8 ρ)

/-- The end of the standard handshake. -/
def exchangeRequest : Process UInt8 ρ := do
  let res ← self.writeRequest
  if res < 0 then return failed else response

/-- `hev_socks5_client_handshake_standard`. -/
def handshakeStandard : Process UInt8 ρ := do
  let res ← self.writeAuthMethods
  if res < 0 then return failed
  else
    let res ← readAuthMethod
    if res < 0 then return failed
    else if res = authMethodUser.toNat then
      let res ← self.writeAuthCreds
      if res < 0 then return failed
      else
        let res ← readAuthCreds
        if res < 0 then return failed else self.exchangeRequest failed response
    else if res ≠ authMethodNone.toNat then return failed
    else self.exchangeRequest failed response

/-- The replies that the pipelined handshake reads behind its messages. -/
def awaitReplies : Process UInt8 ρ := do
  let res ← readAuthMethod
  if res < 0 then return failed
  else if res = authMethodUser.toNat then
    let res ← readAuthCreds
    if res < 0 then return failed else response
  else if res ≠ authMethodNone.toNat then return failed
  else response

/-- `hev_socks5_client_handshake_pipeline`. -/
def handshakePipeline : Process UInt8 ρ := do
  let res ← self.writeAuthMethods
  if res < 0 then return failed
  else
    let res ← self.writeAuthCreds
    if res < 0 then return failed
    else
      let res ← self.writeRequest
      if res < 0 then return failed else awaitReplies failed response

end Handshake

/-- `hev_socks5_client_handshake`. -/
def handshake (self : HevSocks5Client) (pipeline : Bool) : Process UInt8 Int :=
  if pipeline then self.handshakePipeline (-1) self.awaitResponse
  else self.handshakeStandard (-1) self.awaitResponse

/-- `hev_socks5_client_handshake`, with the address that it sets. -/
def handshakeWithAddr (self : HevSocks5Client) (pipeline : Bool) :
    Process UInt8 (Int × Option HevSocks5Addr) :=
  if pipeline then self.handshakePipeline (-1, none) self.awaitResponseWithAddr
  else self.handshakeStandard (-1, none) self.awaitResponseWithAddr

/-- Leaving out the address commutes with what stands in front, -/
theorem result_bind {ρ : Type} (process : Process UInt8 ρ)
    (rest : ρ → Process UInt8 (Int × Option HevSocks5Addr)) :
    result (process >>= rest) = process >>= fun value => result (rest value) :=
  Process.bind_assoc _ _ _

/-- and with a choice. -/
theorem result_ite (condition : Prop) [Decidable condition]
    (first second : Process UInt8 (Int × Option HevSocks5Addr)) :
    result (if condition then first else second) =
      if condition then result first else result second := by
  split
  · rfl
  · rfl

/-- A handshake with the address that it sets is the handshake. -/
theorem handshakeWithAddr_result (self : HevSocks5Client) (pipeline : Bool) :
    result (self.handshakeWithAddr pipeline) = self.handshake pipeline := by
  cases pipeline
  · change result (self.handshakeStandard _ _) = self.handshakeStandard _ _
    unfold handshakeStandard exchangeRequest
    simp only [result_bind, result_ite]
    rfl
  · change result (self.handshakePipeline _ _) = self.handshakePipeline _ _
    unfold handshakePipeline awaitReplies
    simp only [result_bind, result_ite]
    rfl

/-- The end of a handshake tells only whether there was a response. -/
theorem awaitResponse_eq (self : HevSocks5Client) :
    self.awaitResponse =
      self.readResponse >>= fun ended => .done (if ended.1 < 0 then -1 else 0) := by
  unfold awaitResponse awaitResponseWithAddr
  rw [result_bind]
  refine congrArg (self.readResponse >>= ·) (funext ?_)
  rintro ⟨res, addr⟩
  exact (result_ite _ _ _).trans (apply_ite Process.done _ _ _).symm

/-! ## What the client sends -/

/-- The method that the client offers. -/
def method (self : HevSocks5Client) : UInt8 :=
  if self.user = none ∨ self.pass = none then authMethodNone
  else authMethodUser

/-- What the client sends for its credentials. -/
def authCreds (self : HevSocks5Client) : List UInt8 :=
  match self.user, self.pass with
  | some user, some pass => credsMessage user.bytes pass.bytes
  | _, _ => []

/-- The client has no credentials, or its name and password have between 1 and
255 bytes. -/
def CredentialsFit (self : HevSocks5Client) : Prop :=
  ∀ user ∈ self.user, ∀ pass ∈ self.pass,
    (0 < user.bytes.length ∧ user.bytes.length < 256) ∧
      0 < pass.bytes.length ∧ pass.bytes.length < 256

/-- The client has no credentials. -/
def CredsUnset (self : HevSocks5Client) : Prop := self.user = none ∨ self.pass = none

/-- The client has a name and a password. -/
def CredsSet (self : HevSocks5Client) (name pass : CString) : Prop :=
  self.user = some name ∧ self.pass = some pass

theorem CredsUnset.of_missing {self : HevSocks5Client}
    (missing : ∀ name pass, self.user = some name → self.pass = some pass →
      False) : self.CredsUnset := by
  unfold CredsUnset
  cases name : self.user with
  | none => exact .inl rfl
  | some name' =>
      cases pass : self.pass with
      | none => exact .inr rfl
      | some pass' => exact (missing _ _ name pass).elim

theorem CredsUnset.method {self : HevSocks5Client} (unset : self.CredsUnset) :
    self.method = authMethodNone := if_pos unset

theorem CredsUnset.authCreds {self : HevSocks5Client} (unset : self.CredsUnset) :
    self.authCreds = [] := by
  unfold HevSocks5Client.authCreds
  split
  case h_1 name pass nameSet passSet =>
    rcases unset with unset | unset
    · rw [unset] at nameSet
      cases nameSet
    · rw [unset] at passSet
      cases passSet
  case h_2 => rfl

theorem CredsSet.method {self : HevSocks5Client} {name pass : CString}
    (set : self.CredsSet name pass) : self.method = authMethodUser := by
  unfold HevSocks5Client.method
  rw [set.1, set.2]
  rfl

theorem CredsSet.authCreds {self : HevSocks5Client} {name pass : CString}
    (set : self.CredsSet name pass) :
    self.authCreds = credsMessage name.bytes pass.bytes := by
  unfold HevSocks5Client.authCreds
  rw [set.1, set.2]

theorem CredsSet.fits {self : HevSocks5Client} {name pass : CString}
    (set : self.CredsSet name pass) (fit : self.CredentialsFit) :
    (0 < name.bytes.length ∧ name.bytes.length < 256) ∧
      0 < pass.bytes.length ∧ pass.bytes.length < 256 :=
  fit name set.1 pass set.2

/-- The class supplies a valid address. -/
theorem exists_upstream (self : HevSocks5Client) :
    self.type ≠ .none ∧
      ∃ addr, self.getUpstreamAddr = some addr ∧ 0 < addr.addrLen := by
  have supplies := self.supplies
  unfold getUpstreamAddr
  cases held : self.klass with
  | tcp addr =>
      rw [held] at supplies
      obtain ⟨type, valid⟩ := supplies
      rw [type]
      exact ⟨nofun, addr, rfl, valid⟩
  | udp =>
      rw [held] at supplies
      obtain ⟨type, family⟩ := supplies
      constructor
      · rcases type with type | type <;> rw [type] <;> exact nofun
      · cases connected : self.addrFamily with
        | unspec => exact absurd connected family
        | ipv4 => exact ⟨_, rfl, by decide +kernel⟩
        | ipv6 => exact ⟨_, rfl, by decide +kernel⟩

/-! ## Steps of a dialogue -/

section Steps

variable {ρ σ : Type} {badLeft : ρ → Prop} {badRight : σ → Prop}
  {ending : Ending UInt8 ρ σ} {right : Process UInt8 σ}
  {toRight toLeft : List UInt8} {rest : Int → Process UInt8 ρ}

theorem writeAuthMethods_leads (self : HevSocks5Client)
    (lost : Hopeless badLeft (rest (-1)))
    (behind : Leads badLeft badRight ending (rest 0) right
      (toRight ++ [version5, 1, self.method]) toLeft) :
    Leads badLeft badRight ending (self.writeAuthMethods >>= rest) right toRight
      toLeft :=
  .leftSends lost behind

theorem writeAuthCreds_leads (self : HevSocks5Client)
    (fit : self.CredentialsFit) (lost : Hopeless badLeft (rest (-1)))
    (behind : Leads badLeft badRight ending (rest 0) right
      (toRight ++ self.authCreds) toLeft) :
    Leads badLeft badRight ending (self.writeAuthCreds >>= rest) right toRight
      toLeft := by
  unfold authCreds at behind
  unfold writeAuthCreds
  split
  case h_1 user pass userSet passSet =>
    obtain ⟨⟨_, userFits⟩, _, passFits⟩ := fit user userSet pass passSet
    have userLen : (UInt8.ofNat user.bytes.length).toNat = user.bytes.length :=
      UInt8.toNat_ofNat_of_lt' userFits
    have passLen : (UInt8.ofNat pass.bytes.length).toNat = pass.bytes.length :=
      UInt8.toNat_ofNat_of_lt' passFits
    refine .leftSends lost ?_
    rw [userLen, passLen, List.take_length, List.take_length]
    rw [userSet, passSet] at behind
    exact behind
  case h_2 unset =>
    split at behind
    case h_1 user pass userSet passSet => exact (unset _ _ userSet passSet).elim
    case h_2 =>
      rw [List.append_nil] at behind
      exact behind

/-- A client has a type and an address, so it sends its request. -/
theorem writeRequest_eq (self : HevSocks5Client) {addr : HevSocks5Addr}
    (supplied : self.getUpstreamAddr = some addr) (valid : 0 < addr.addrLen) :
    self.writeRequest =
      Process.sendAll ([version5, self.type.cmd, 0] ++ addr.wire) >>=
        fun sent => .done (if sent then 0 else -1) := by
  have typed := self.exists_upstream.1
  unfold writeRequest
  rw [supplied]
  cases type : self.type with
  | none => exact absurd type typed
  | tcp | udpInTcp | udpInUdp =>
      simp only
      rw [if_neg (by omega)]
      rfl

theorem writeRequest_leads (self : HevSocks5Client) {addr : HevSocks5Addr}
    (supplied : self.getUpstreamAddr = some addr) (valid : 0 < addr.addrLen)
    (lost : Hopeless badLeft (rest (-1)))
    (behind : Leads badLeft badRight ending (rest 0) right
      (toRight ++ ([version5, self.type.cmd, 0] ++ addr.wire)) toLeft) :
    Leads badLeft badRight ending (self.writeRequest >>= rest) right toRight
      toLeft := by
  rw [self.writeRequest_eq supplied valid]
  exact .leftSends lost behind

/-- The pipelined handshake first sends all it has. -/
theorem handshakePipeline_leads (self : HevSocks5Client)
    (fit : self.CredentialsFit) {addr : HevSocks5Addr}
    (supplied : self.getUpstreamAddr = some addr) (valid : 0 < addr.addrLen)
    {ending : Ending UInt8 Int σ} {badLeft : Int → Prop} (lost : badLeft (-1))
    {response : Process UInt8 Int}
    (behind : Leads badLeft badRight ending (awaitReplies (-1) response) right
      ([version5, 1, self.method] ++
        (self.authCreds ++ ([version5, self.type.cmd, 0] ++ addr.wire))) []) :
    Leads badLeft badRight ending (self.handshakePipeline (-1) response) right [] [] := by
  unfold handshakePipeline
  refine self.writeAuthMethods_leads (.done lost) ?_
  refine self.writeAuthCreds_leads fit (.done lost) ?_
  refine self.writeRequest_leads supplied valid (.done lost) ?_
  rw [List.append_assoc]
  exact behind

theorem readAuthMethod_leads {method : UInt8} (lost : Hopeless badLeft (rest (-1)))
    (behind : Leads badLeft badRight ending (rest method.toNat) right toRight
      toLeft) :
    Leads badLeft badRight ending (readAuthMethod >>= rest) right toRight
      ([version5, method] ++ toLeft) :=
  .leftReceives rfl rfl lost behind

theorem readAuthCreds_leads {rep : UInt8} (lost : Hopeless badLeft (rest (-1)))
    (behind : Leads badLeft badRight ending
      (rest (if rep = resRepSucc then 0 else -1)) right toRight toLeft) :
    Leads badLeft badRight ending (readAuthCreds >>= rest) right toRight
      ([authVersion1, rep] ++ toLeft) := by
  refine .leftReceives rfl rfl lost ?_
  change Leads badLeft badRight ending
    ((if rep ≠ resRepSucc then Process.done (-1) else .done 0) >>= rest) right
    toRight toLeft
  by_cases succeeded : rep = resRepSucc
  · rw [if_pos succeeded] at behind
    rw [if_neg (not_not_intro succeeded)]
    exact behind
  · rw [if_neg succeeded] at behind
    rw [if_pos succeeded]
    exact behind

theorem setUpstreamAddr_eq (self : HevSocks5Client)
    (succeed : self.sockets.Succeed) {addr : HevSocks5Addr}
    (numeric : addr.atype = 1 ∨ addr.atype = 4) :
    self.setUpstreamAddr addr = 0 := by
  have converts : (addr.intoSockaddr6 self.resolver Sockaddr6.zero
      self.addrFamily).1 = 0 := by
    unfold HevSocks5Addr.intoSockaddr6
    rcases numeric with isV4 | isV6
    · rw [isV4]
      rfl
    · rw [isV6]
      rfl
  unfold setUpstreamAddr
  split
  case h_1 => rfl
  case h_2 =>
    split
    case isTrue => rfl
    case isFalse =>
      simp only [converts]
      rw [if_neg (lt_irrefl 0), if_neg (succeed.socket _ _).not_gt,
        if_neg (succeed.binder _ _).not_gt, if_neg (succeed.connect _ _).not_gt]

/-- The client takes every response that reports success. -/
theorem readResponse_leads (self : HevSocks5Client)
    {rest : Int × Option HevSocks5Addr → Process UInt8 ρ}
    (succeed : self.sockets.Succeed) (saddr : Sockaddr6)
    (lost : Hopeless badLeft (rest (-1, none)))
    (behind : ∀ addr, Leads badLeft badRight ending (rest (0, some addr)) right
      toRight toLeft) :
    Leads badLeft badRight ending (self.readResponse >>= rest) right toRight
      ([version5, resRepSucc, 0] ++ addrFromSockaddr6 saddr ++ toLeft) := by
  obtain ⟨atype, body, written, typed⟩ := addrFromSockaddr6_eq saddr
  have heads : [version5, resRepSucc, 0] ++ addrFromSockaddr6 saddr ++ toLeft =
      [version5, resRepSucc, 0, atype] ++ (body ++ toLeft) := by
    rw [written]
    rfl
  have set : self.setUpstreamAddr (self.stack.overwrite (atype :: body)) = 0 :=
    self.setUpstreamAddr_eq succeed
      (typed.imp And.left And.left)
  have taken : Leads badLeft badRight ending
      (Process.done (if self.setUpstreamAddr
        (self.stack.overwrite (atype :: body)) < 0 then (-1 : Int) else 0,
          some (self.stack.overwrite (atype :: body))) >>= rest)
      right toRight toLeft := by
    rw [set]
    exact behind _
  rw [heads]
  rcases typed with ⟨rfl, sized⟩ | ⟨rfl, sized⟩
  · exact .leftReceives rfl rfl lost (.leftReceives rfl sized lost taken)
  · exact .leftReceives rfl rfl lost (.leftReceives rfl sized lost taken)

end Steps

end HevSocks5Client

end ProxyVPN
