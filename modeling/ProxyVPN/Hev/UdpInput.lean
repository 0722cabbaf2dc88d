/-
Module: ProxyVPN.Hev.UdpInput
Purpose: The way of a UDP datagram from the tunnel into a session: `udp_input`
  with the retry it makes for a new flow, the handler of the tunnel that it
  retries, and the outcomes of the handler's allocations under which the
  retries come to an end.
Trusted boundary: human-reviewed model; the allocators' answers are inputs.
Main exports: UdpInput.UdpPcb, UdpInput.Datagram, UdpInput.Attempt,
  UdpInput.udpRecvHandler, UdpInput.udpInput, UdpInput.OpensFlow,
  UdpInput.Disposed, UdpInput.disposed_iff
-/
import Mathlib.Data.List.Basic
import ProxyVPN.Lib.Retry

namespace ProxyVPN.UdpInput

open Retry

/-! ## Addresses and control blocks -/

/-- `ip_addr_t`, with the type that stands for both versions. -/
inductive IpAddr where
  | v4 (addr : BitVec 32)
  | v6 (addr : BitVec 128) (zone : Nat)
  | any
deriving DecidableEq

namespace IpAddr

def isAny : IpAddr → Bool
  | v4 addr => addr = 0
  | v6 addr _ => addr = 0
  | any => true

/-- The address of a new control block of the same type. -/
def zero : IpAddr → IpAddr
  | v4 _ => v4 0
  | v6 _ _ => v6 0 0
  | any => any

/-- `IP_GET_TYPE` gives the same. -/
def sameType : IpAddr → IpAddr → Bool
  | v4 _, v4 _ | v6 _ _, v6 _ _ | any, any => true
  | _, _ => false

end IpAddr

/-- A callback with its argument: the handler of the tunnel, the one for mapped
DNS, or that of a session. -/
inductive Recv where
  | tunnel
  | dns
  | session (udp : Nat)
deriving DecidableEq

/-- `struct udp_pcb`. -/
structure UdpPcb where
  localIp : IpAddr
  localPort : Nat
  remoteIp : IpAddr
  remotePort : Nat
  connected : Bool
  /-- There is no index 0. -/
  netifIdx : Nat
  pretendNetifIdx : Nat
  recv : Option Recv
deriving DecidableEq

structure Netif where
  index : Nat
  ip4 : BitVec 32
  netmask : BitVec 32
  ip6 : List IpAddr

structure Datagram where
  length : Nat
  srcIp : IpAddr
  src : Nat
  destIp : IpAddr
  dest : Nat
  broadcast : Bool

/-! ## The search for a control block -/

section Search

variable (inp : Netif) (p : Datagram)

/-- `udp_input_local_match`. -/
def localMatch (pcb : UdpPcb) : Bool :=
  if pcb.netifIdx ≠ 0 ∧ pcb.netifIdx ≠ inp.index then false
  else if pcb.localIp = .any then true
  else if pcb.localIp.sameType p.destIp then
    if p.broadcast then
      match pcb.localIp, p.destIp with
      | .v4 addr, .v4 dest =>
          addr = 0 || dest = BitVec.allOnes 32 ||
            addr &&& inp.netmask = dest &&& inp.netmask
      | _, _ => false
    else pcb.localIp.isAny || pcb.localIp = p.destIp
  else false

/-- The unconnected control block that is preferred so far. -/
def preferred (pcb : UdpPcb) : Option UdpPcb → UdpPcb
  | none => pcb
  | some uncon =>
      if p.broadcast ∧ p.destIp = .v4 (BitVec.allOnes 32) then
        if uncon.localIp ≠ .v4 inp.ip4 ∧ pcb.localIp = .v4 inp.ip4 then pcb
        else uncon
      else if pcb.localIp.isAny then uncon
      else pcb

/-- The loop over `udp_pcbs`: the first that matches fully, or else an
unconnected one. A block that pretends matches by its remote end only. -/
def findPcb : List UdpPcb → Option UdpPcb → Option UdpPcb
  | [], uncon => uncon
  | pcb :: rest, uncon =>
      if pcb.pretendNetifIdx ≠ 0 then
        if pcb.remotePort = p.src ∧ pcb.remoteIp = p.srcIp then some pcb
        else findPcb rest uncon
      else if pcb.localPort = p.dest ∧ localMatch inp p pcb = true then
        let uncon :=
          if pcb.connected then uncon else some (preferred inp p pcb uncon)
        if pcb.remotePort = p.src ∧
            (pcb.remoteIp.isAny = true ∨ pcb.remoteIp = p.srcIp) then some pcb
        else findPcb rest uncon
      else findPcb rest uncon

/-- Whether the destination is an address of the interface. -/
def forUs : Bool :=
  match p.destIp with
  | .v4 addr => inp.ip4 = addr
  | .v6 addr zone => .v6 addr zone ∈ inp.ip6
  | .any => false

/-- A block that listens to all that the interface brings. -/
def listens (pcb : UdpPcb) : Bool :=
  pcb.pretendNetifIdx ≠ 0 && pcb.pretendNetifIdx = inp.index &&
    !pcb.connected && pcb.recv.isSome &&
      (pcb.localIp = .any || pcb.localIp.sameType p.destIp)

/-- The block that is made for a new flow. -/
def newPcb (listener : UdpPcb) : UdpPcb where
  localIp := listener.localIp.zero
  localPort := 0
  remoteIp := p.srcIp
  remotePort := p.src
  connected := true
  netifIdx := 0
  pretendNetifIdx := listener.pretendNetifIdx
  recv := none

end Search

/-! ## The handlers -/

/-- `HevTaskMutex`. -/
structure HevTaskMutex where
  locker : Bool

/-- `hev_task_mutex_lock`. There is no result for the task that holds the lock,
for it waits until another one unlocks. -/
def HevTaskMutex.lock (mutex : HevTaskMutex) : Option HevTaskMutex :=
  if mutex.locker then none else some { locker := true }

/-- What one call of the handler meets: whether there is memory for the new
control block, whether the tunnel runs, and whether there is memory for the
session and for its task. -/
structure Attempt where
  npcb : Bool
  run : Bool
  session : Option Nat
  task : Bool
deriving DecidableEq

/-- The address and port of the mapped DNS, where there is one. -/
structure MappedDnsAt where
  address : BitVec 32
  port : Int

/-- The datagram is for the mapped DNS. -/
def forDns (dns : Option MappedDnsAt) (p : Datagram) : Bool :=
  match dns, p.destIp with
  | some dns, .v4 addr => dns.port = p.dest && dns.address = addr
  | _, _ => false

/-- `hev_socks5_session_udp_destruct` of a session without frames. It removes
the control block when it has got the lock. -/
def destruct (mutex : HevTaskMutex) : Option (Option UdpPcb) :=
  mutex.lock.map fun _ => none

/-- `udp_recv_handler` of the tunnel: the control block it leaves in the list,
if any, or no result where it does not return. -/
def udpRecvHandler (dns : Option MappedDnsAt) (p : Datagram)
    (mutex : HevTaskMutex) (attempt : Attempt) (pcb : UdpPcb) :
    Option (Option UdpPcb) :=
  if attempt.run = false then some none
  else if forDns dns p then some (some { pcb with recv := some .dns })
  else
    match attempt.session with
    | none => some none
    | some udp =>
        if attempt.task = false then destruct mutex
        else some (some { pcb with recv := some (.session udp) })

/-- The callback of the listening block. -/
def callback (dns : Option MappedDnsAt) (p : Datagram) (mutex : HevTaskMutex)
    (attempt : Attempt) (recv : Recv) (pcb : UdpPcb) :
    Option (Option UdpPcb) :=
  match recv with
  | .tunnel => udpRecvHandler dns p mutex attempt pcb
  | .dns => some none
  | .session _ => some (some pcb)

/-! ## The input -/

/-- What became of the datagram: it was freed, or a callback has taken it. -/
inductive Disposal where
  | freed
  | taken (recv : Recv)
deriving DecidableEq

/-- What the input of a datagram runs in. -/
structure Setting where
  inp : Netif
  dns : Option MappedDnsAt
  p : Datagram
  attempt : Nat → Attempt

/-- `udp_input` from `again` to the next jump there. -/
def pass (setting : Setting) (mutex : HevTaskMutex) (i : Nat)
    (pcbs : List UdpPcb) : Pass (List UdpPcb) Disposal :=
  match findPcb setting.inp setting.p pcbs none with
  | some pcb =>
      match pcb.recv with
      | some recv => .ended (.taken recv)
      | none => .ended .freed
  | none =>
      if forUs setting.inp setting.p then .ended .freed
      else
        match pcbs.find? (listens setting.inp setting.p) with
        | none => .ended .freed
        | some listener =>
            if (setting.attempt i).npcb = false then .ended .freed
            else
              match listener.recv with
              | none => .ended .freed
              | some recv =>
                  match callback setting.dns setting.p mutex
                      (setting.attempt i) recv (newPcb setting.p listener) with
                  | none => .stuck
                  | some none => .again pcbs
                  | some (some pcb) => .again (pcb :: pcbs)

/-- `udp_input` for as many passes as there is fuel. A datagram shorter than its
header is dropped. -/
def udpInput (setting : Setting) (mutex : HevTaskMutex) (fuel : Nat)
    (pcbs : List UdpPcb) : Option Disposal :=
  if setting.p.length < 8 then some .freed
  else loop (pass setting mutex) fuel 0 pcbs

/-- `lwip_io_task_entry` calls the input with the lock. -/
def input (setting : Setting) (fuel : Nat) (pcbs : List UdpPcb) :
    Option Disposal := do
  let mutex ← HevTaskMutex.lock { locker := false }
  udpInput setting mutex fuel pcbs

/-- The datagram opens a new flow: no control block is for it, it is not for
the interface itself, and the block of the tunnel listens to it. -/
structure OpensFlow (setting : Setting) (pcbs : List UdpPcb) : Prop where
  whole : 8 ≤ setting.p.length
  unknown : findPcb setting.inp setting.p pcbs none = none
  foreign : forUs setting.inp setting.p = false
  listener : ∃ listener, pcbs.find? (listens setting.inp setting.p) =
    some listener ∧ listener.recv = some .tunnel

/-- The input comes to an end, and the datagram is then freed or taken. -/
def Disposed (setting : Setting) (pcbs : List UdpPcb) : Prop :=
  ∃ fuel disposal, input setting fuel pcbs = some disposal

/-- The handler removes the new control block: the tunnel stops, or there is no
memory for the session. -/
def Retried (setting : Setting) (i : Nat) : Prop :=
  (setting.attempt i).npcb = true ∧
    ((setting.attempt i).run = false ∨
      forDns setting.dns setting.p = false ∧
        (setting.attempt i).session = none)

/-- There is no control block, or the handler leaves it to the mapped DNS or to
a session with its task. -/
def Ends (setting : Setting) (i : Nat) : Prop :=
  (setting.attempt i).npcb = false ∨
    (setting.attempt i).run = true ∧
      (forDns setting.dns setting.p = true ∨
        (setting.attempt i).session ≠ none ∧ (setting.attempt i).task = true)

/-! ## The handler's outcomes -/

section Handler

variable {dns : Option MappedDnsAt} {p : Datagram} {mutex : HevTaskMutex}
  {attempt : Attempt}

theorem udpRecvHandler_removed (pcb : UdpPcb)
    (removed : attempt.run = false ∨
      forDns dns p = false ∧ attempt.session = none) :
    udpRecvHandler dns p mutex attempt pcb = some none := by
  unfold udpRecvHandler
  rcases removed with stopped | ⟨noDns, noSession⟩
  · rw [if_pos stopped]
  · rw [noDns, noSession]
    split <;> rfl

theorem udpRecvHandler_kept (pcb : UdpPcb) (runs : attempt.run = true)
    (kept : forDns dns p = true ∨
      attempt.session ≠ none ∧ attempt.task = true) :
    ∃ recv, udpRecvHandler dns p mutex attempt pcb =
      some (some { pcb with recv := some recv }) := by
  unfold udpRecvHandler
  rw [if_neg (by rw [runs]; decide)]
  by_cases dnsEq : forDns dns p = true
  · rw [if_pos dnsEq]
    exact ⟨.dns, rfl⟩
  · rw [if_neg dnsEq]
    obtain ⟨session, task⟩ := kept.resolve_left dnsEq
    obtain ⟨udp, sessionEq⟩ := Option.ne_none_iff_exists'.mp session
    rw [sessionEq, task]
    exact ⟨.session udp, rfl⟩

/-- Without memory for the task the handler waits for the lock of its own
caller. -/
theorem udpRecvHandler_stuck (pcb : UdpPcb) (held : mutex.locker = true)
    (runs : attempt.run = true) (noDns : forDns dns p = false)
    (session : attempt.session ≠ none) (noTask : attempt.task = false) :
    udpRecvHandler dns p mutex attempt pcb = none := by
  obtain ⟨udp, sessionEq⟩ := Option.ne_none_iff_exists'.mp session
  unfold udpRecvHandler destruct HevTaskMutex.lock
  rw [if_neg (by rw [runs]; decide), noDns, sessionEq, noTask, held]
  rfl

end Handler

/-! ## One pass for a new flow -/

section Flow

variable {setting : Setting} {pcbs : List UdpPcb}

/-- A new flow gets a new control block, which the tunnel's handler is called
with. -/
theorem OpensFlow.pass_eq (opens : OpensFlow setting pcbs)
    (mutex : HevTaskMutex) :
    ∃ pcb : UdpPcb, pcb.pretendNetifIdx ≠ 0 ∧
      pcb.remotePort = setting.p.src ∧ pcb.remoteIp = setting.p.srcIp ∧
      ∀ i, pass setting mutex i pcbs =
        if (setting.attempt i).npcb = false then .ended .freed
        else
          match udpRecvHandler setting.dns setting.p mutex
              (setting.attempt i) pcb with
          | none => .stuck
          | some none => .again pcbs
          | some (some pcb) => .again (pcb :: pcbs) := by
  obtain ⟨listener, found, tunnel⟩ := opens.listener
  have listening := List.find?_some found
  simp only [listens, Bool.and_eq_true, decide_eq_true_eq] at listening
  refine ⟨newPcb setting.p listener, listening.1.1.1.1, rfl, rfl, ?_⟩
  intro i
  unfold pass
  rw [opens.unknown, opens.foreign, found]
  dsimp only
  rw [tunnel]
  rfl

/-- What the handler leaves in the list takes the datagram in the next pass. -/
theorem pass_kept (mutex : HevTaskMutex) {pcb : UdpPcb} (recv : Recv)
    (pretends : pcb.pretendNetifIdx ≠ 0)
    (port : pcb.remotePort = setting.p.src)
    (ip : pcb.remoteIp = setting.p.srcIp) (i : Nat) :
    pass setting mutex i ({ pcb with recv := some recv } :: pcbs) =
      .ended (.taken recv) := by
  unfold pass findPcb
  rw [if_pos pretends, if_pos ⟨port, ip⟩]

theorem OpensFlow.pass_retried (opens : OpensFlow setting pcbs)
    (mutex : HevTaskMutex) {i : Nat} (retried : Retried setting i) :
    pass setting mutex i pcbs = .again pcbs := by
  obtain ⟨pcb, _, _, _, passEq⟩ := opens.pass_eq mutex
  rw [passEq, udpRecvHandler_removed pcb retried.2,
    if_neg (by rw [retried.1]; decide)]

theorem OpensFlow.returns_of_ends (opens : OpensFlow setting pcbs)
    (mutex : HevTaskMutex) {i : Nat} (ends : Ends setting i) :
    Returns (pass setting mutex) i pcbs := by
  obtain ⟨pcb, pretends, port, ip, passEq⟩ := opens.pass_eq mutex
  have passEq := passEq i
  by_cases noMemory : (setting.attempt i).npcb = false
  · rw [if_pos noMemory] at passEq
    exact returns_ended passEq
  · obtain ⟨runs, kept⟩ := ends.resolve_left noMemory
    obtain ⟨recv, handled⟩ := udpRecvHandler_kept pcb runs kept
    rw [if_neg noMemory, handled] at passEq
    rw [returns_again_iff passEq]
    exact returns_ended (pass_kept mutex recv pretends port ip (i + 1))

theorem OpensFlow.not_returns_of_blocked (opens : OpensFlow setting pcbs)
    {mutex : HevTaskMutex} (held : mutex.locker = true) {i : Nat}
    (notRetried : ¬Retried setting i) (notEnds : ¬Ends setting i) :
    ¬Returns (pass setting mutex) i pcbs := by
  obtain ⟨pcb, _, _, _, passEq⟩ := opens.pass_eq mutex
  simp only [Retried, Ends, not_or, not_and, Bool.not_eq_false,
    Bool.not_eq_true] at notRetried notEnds
  have noRetry := notRetried notEnds.1
  have noKeep := notEnds.2 noRetry.1
  have noTask := noKeep.2 (noRetry.2 noKeep.1)
  have handled := udpRecvHandler_stuck pcb held noRetry.1 noKeep.1
    (noRetry.2 noKeep.1) noTask
  apply not_returns_stuck
  rw [passEq, handled, if_neg (by rw [notEnds.1]; decide)]

end Flow

/-! ## The input of a datagram -/

/-- The input returns when its loop does. -/
theorem OpensFlow.disposed_iff_returns {setting : Setting}
    {pcbs : List UdpPcb} (opens : OpensFlow setting pcbs) :
    Disposed setting pcbs ↔
      Returns (pass setting { locker := true }) 0 pcbs := by
  have header : ¬setting.p.length < 8 := Nat.not_lt.mpr opens.whole
  have entered (fuel : Nat) : input setting fuel pcbs =
      loop (pass setting { locker := true }) fuel 0 pcbs := by
    change udpInput setting { locker := true } fuel pcbs = _
    unfold udpInput
    rw [if_neg header]
  unfold Disposed Returns
  simp only [entered]

theorem OpensFlow.returns_iff_ends {setting : Setting} {pcbs : List UdpPcb}
    (opens : OpensFlow setting pcbs) :
    Returns (pass setting { locker := true }) 0 pcbs ↔
      ∃ k, (∀ j < k, Retried setting j) ∧ Ends setting k := by
  have returns : Returns (pass setting { locker := true }) 0 pcbs ↔
      ∃ k, (∀ j < k, Retried setting (0 + j)) ∧ Ends setting (0 + k) :=
    returns_iff (fun _ => opens.pass_retried { locker := true })
      (fun _ => opens.returns_of_ends { locker := true })
      (fun _ => opens.not_returns_of_blocked rfl)
  simpa only [Nat.zero_add] using returns

/-- A datagram that opens a new flow is disposed of if and only if, after some
retries, there is no control block for it or the handler leaves its control
block to the mapped DNS or to a session with a task. -/
theorem disposed_iff {setting : Setting} {pcbs : List UdpPcb}
    (opens : OpensFlow setting pcbs) :
    Disposed setting pcbs ↔
      ∃ k, (∀ j < k, Retried setting j) ∧ Ends setting k := by
  rw [opens.disposed_iff_returns, opens.returns_iff_ends]

/-- The block of `gateway_init`. -/
def gateway : UdpPcb where
  localIp := .any
  localPort := 0
  remoteIp := .any
  remotePort := 0
  connected := false
  netifIdx := 1
  pretendNetifIdx := 1
  recv := some .tunnel

def loopback : Netif where
  index := 1
  ip4 := 0x7F000001
  netmask := 0
  ip6 := []

/-- A datagram from 10.0.0.2 to 8.8.8.8. -/
def query : Datagram where
  length := 40
  srcIp := .v4 0x0A000002
  src := 5000
  destIp := .v4 0x08080808
  dest := 53
  broadcast := false

theorem query_opensFlow (attempt : Nat → Attempt) :
    OpensFlow ⟨loopback, none, query, attempt⟩ [gateway] where
  whole := (by decide : 8 ≤ query.length)
  unknown := (by decide : findPcb loopback query [gateway] none = none)
  foreign := (by decide : forUs loopback query = false)
  listener := ⟨gateway,
    (by decide : [gateway].find? (listens loopback query) = some gateway), rfl⟩

/-- There is memory for a session at the second attempt. -/
theorem disposed_iff_second_attempt :
    Disposed ⟨loopback, none, query, fun i =>
      { npcb := true, run := true
        session := if i = 0 then none else some 1, task := true }⟩
      [gateway] := by
  refine (disposed_iff (query_opensFlow _)).mpr ⟨1, ?_, ?_⟩
  · intro j less
    have first : j = 0 := by omega
    subst first
    exact ⟨rfl, .inr ⟨rfl, rfl⟩⟩
  · exact .inr ⟨rfl, .inr ⟨by decide, rfl⟩⟩

/-- While there is no memory for a session, the input goes round for ever. -/
theorem retries_for_ever :
    ¬∀ (setting : Setting) (pcbs : List UdpPcb), OpensFlow setting pcbs →
      Disposed setting pcbs := by
  intro disposed
  let noSession (_ : Nat) : Attempt :=
    { npcb := true, run := true, session := none, task := true }
  have opens := query_opensFlow noSession
  obtain ⟨k, _, noMemory | ⟨_, dns | ⟨session, _⟩⟩⟩ :=
    opens.returns_iff_ends.mp
      (opens.disposed_iff_returns.mp (disposed _ _ opens))
  · cases noMemory
  · cases dns
  · exact session rfl

end ProxyVPN.UdpInput
