/-
Module: ProxyVPN.Hev.Socks5Misc
Purpose: What both sides of a SOCKS5 connection use: the constants of
  hev-socks5-proto.h, the conversions of hev-socks5-misc.c between packed
  addresses, names and socket addresses, and the calls for new sockets.
Trusted boundary: human-reviewed model
Main exports: HevSocks5Type, AddrFamily, Sockaddr6, Resolver,
  Sockets, HevSocks5Addr.intoSockaddr6, addrFromSockaddr6,
  HevSocks5Addr.overwrite, intoSockaddr6_overwrite
-/
import ProxyVPN.Hev.Socks5Addr
import ProxyVPN.Lib.DnsMessage

namespace ProxyVPN

/-! ## The protocol -/

namespace Socks5Proto

def version5 : UInt8 := 5

def authVersion1 : UInt8 := 1

def authMethodNone : UInt8 := 0

def authMethodUser : UInt8 := 2

def reqCmdConnect : UInt8 := 1

def reqCmdUdpAsc : UInt8 := 3

def reqCmdFwdUdp : UInt8 := 5

def resRepSucc : UInt8 := 0

def resRepFail : UInt8 := 1

def resRepHost : UInt8 := 4

def resRepImpl : UInt8 := 7

def resRepAddr : UInt8 := 8

/-- The message with a name and a password. -/
def credsMessage (user pass : List UInt8) : List UInt8 :=
  [authVersion1, UInt8.ofNat user.length] ++ user ++
    [UInt8.ofNat pass.length] ++ pass

end Socks5Proto

abbrev BytesOf (size : Nat) : Type :=
  { bytes : List UInt8 // bytes.length = size }

inductive HevSocks5Type where
  | none
  | tcp
  | udpInTcp
  | udpInUdp
deriving DecidableEq

/-- The command that asks for a session of the type. -/
def HevSocks5Type.cmd : HevSocks5Type → UInt8
  | .tcp => Socks5Proto.reqCmdConnect
  | .udpInTcp => Socks5Proto.reqCmdFwdUdp
  | .udpInUdp => Socks5Proto.reqCmdUdpAsc
  | .none => 0

inductive AddrFamily where
  | unspec
  | ipv4
  | ipv6
deriving DecidableEq

/-- `struct sockaddr_in6` by the address and the port, as they are in memory. -/
structure Sockaddr6 where
  addr : BytesOf 16
  port : BytesOf 2
deriving DecidableEq

namespace Sockaddr6

def zero : Sockaddr6 :=
  ⟨⟨List.replicate 16 0, rfl⟩, ⟨List.replicate 2 0, rfl⟩⟩

/-- `memset` of the first ten bytes of the address. -/
def clear (self : Sockaddr6) : Sockaddr6 where
  addr := ⟨List.replicate 10 0 ++ self.addr.val.drop 10, by
    rw [List.length_append, List.length_drop, self.addr.property]
    rfl⟩
  port := self.port

/-- The IPv4 address as a mapped one. -/
def mapped (self : Sockaddr6) (ipv4 : BytesOf 4) : Sockaddr6 where
  addr := ⟨List.replicate 10 0 ++ [0xff, 0xff] ++ ipv4.val, by
    rw [List.length_append, ipv4.property]
    rfl⟩
  port := self.port

/-- `IN6_IS_ADDR_V4MAPPED`. -/
def isV4Mapped (self : Sockaddr6) : Bool :=
  self.addr.val.take 12 == List.replicate 10 0 ++ [0xff, 0xff]

end Sockaddr6

/-! ## Resolution -/

/-- The address in the first result of `hev_task_dns_getaddrinfo`. -/
inductive AddrInfo where
  | inet (addr : BytesOf 4)
  | inet6 (addr : BytesOf 16)
  | other

/-- `inet_pton` for both families and `hev_task_dns_getaddrinfo`. -/
structure Resolver where
  inetPton4 : List UInt8 → Option (BytesOf 4)
  inetPton6 : List UInt8 → Option (BytesOf 16)
  getaddrinfo : List UInt8 → AddrFamily → Option AddrInfo

namespace Resolver

/-- `hev_socks5_name_resolve_ipv4`. -/
def nameResolveIpv4 (self : Resolver) (name : List UInt8) (saddr : Sockaddr6) :
    Int × Sockaddr6 :=
  match self.inetPton4 name with
  | none => (-1, saddr.clear)
  | some addr => (0, saddr.mapped addr)

/-- `hev_socks5_name_resolve_ipv6`. -/
def nameResolveIpv6 (self : Resolver) (name : List UInt8) (saddr : Sockaddr6) :
    Int × Sockaddr6 :=
  match self.inetPton6 name with
  | none => (-1, saddr)
  | some addr => (0, { saddr with addr := addr })

/-- `hev_socks5_name_resolve_name`. -/
def nameResolveName (self : Resolver) (name : List UInt8) (saddr : Sockaddr6)
    (family : AddrFamily) : Int × Sockaddr6 × AddrFamily :=
  match self.getaddrinfo name family with
  | none => (-1, saddr, family)
  | some (.inet addr) => (0, saddr.mapped addr, .ipv4)
  | some (.inet6 addr) => (0, { saddr with addr := addr }, .ipv6)
  | some .other => (-1, saddr, family)

/-- `hev_socks5_name_into_sockaddr6`. -/
def nameIntoSockaddr6 (self : Resolver) (name : List UInt8) (port : Nat)
    (saddr : Sockaddr6) (family : AddrFamily) : Int × Sockaddr6 × AddrFamily :=
  let saddr := { saddr with
    port := ⟨DnsMessage.bigEndian 2 port, DnsMessage.length_bigEndian 2 port⟩ }
  let (res, saddr) := self.nameResolveIpv4 name saddr
  if res = 0 then (0, saddr, .ipv4)
  else
    let (res, saddr) := self.nameResolveIpv6 name saddr
    if res = 0 then (0, saddr, .ipv6)
    else self.nameResolveName name saddr family

end Resolver

/-! ## Packed addresses -/

namespace HevSocks5Addr

/-- The bytes of a field, which lies within the structure. -/
def field (self : HevSocks5Addr) (start size : Nat)
    (within : start + size ≤ 260) : BytesOf size :=
  ⟨(self.bytes.drop start).take size, by
    rw [List.length_take_of_le]
    rw [List.length_drop, self.size]
    omega⟩

/-- `hev_socks5_ipv4_into_sockaddr6`. -/
def ipv4IntoSockaddr6 (self : HevSocks5Addr) (saddr : Sockaddr6) : Sockaddr6 :=
  { saddr.mapped (self.field 1 4 (by decide)) with
    port := self.field 5 2 (by decide) }

/-- `hev_socks5_ipv6_into_sockaddr6`. -/
def ipv6IntoSockaddr6 (self : HevSocks5Addr) : Sockaddr6 where
  addr := self.field 1 16 (by decide)
  port := self.field 17 2 (by decide)

/-- The name as the C string that is built of it. -/
def domainName (self : HevSocks5Addr) : List UInt8 :=
  ((self.bytes.drop 2).take self.domainLen.toNat).takeWhile (· ≠ 0)

/-- `ntohs` of the port behind the name. -/
def domainPort (self : HevSocks5Addr) : Nat :=
  DnsMessage.number ((self.bytes.drop (2 + self.domainLen.toNat)).take 2)

/-- `hev_socks5_addr_into_sockaddr6`. -/
def intoSockaddr6 (self : HevSocks5Addr) (resolver : Resolver)
    (saddr : Sockaddr6) (family : AddrFamily) : Int × Sockaddr6 × AddrFamily :=
  match self.atype.toNat with
  | 1 => (0, self.ipv4IntoSockaddr6 saddr, .ipv4)
  | 4 => (0, self.ipv6IntoSockaddr6, .ipv6)
  | 3 => resolver.nameIntoSockaddr6 self.domainName self.domainPort saddr family
  | _ => (-1, saddr, family)

/-- The structure with other bytes at its beginning. -/
def overwrite (self : HevSocks5Addr) (bytes : List UInt8) : HevSocks5Addr where
  bytes := (bytes ++ self.bytes.drop bytes.length).take 260
  size := by
    rw [List.length_take_of_le]
    rw [List.length_append, List.length_drop, self.size]
    omega

/-- `hev_malloc0` with the type filled in. -/
def zero (atype : UInt8) : HevSocks5Addr :=
  ⟨atype :: List.replicate 259 0, by rw [List.length_cons, List.length_replicate]⟩

end HevSocks5Addr

/-- `hev_socks5_addr_from_sockaddr6`: the bytes written, as many as the result
says. -/
def addrFromSockaddr6 (saddr : Sockaddr6) : List UInt8 :=
  if saddr.isV4Mapped then 1 :: (saddr.addr.val.drop 12 ++ saddr.port.val)
  else 4 :: (saddr.addr.val ++ saddr.port.val)

/-! ## Sockets -/

inductive SockType where
  | stream
  | dgram

/-- What the calls for new sockets give: `hev_socks5_socket` by the type and the
number of earlier calls, the binder of the class, `hev_task_io_socket_connect`,
`setsockopt` with `SO_REUSEADDR`, `getsockname` for the connection, `bind`, and
`getsockname` for the socket that was bound. -/
structure Sockets where
  socket : SockType → Nat → Int
  binder : Int → Sockaddr6 → Int
  connect : Int → Sockaddr6 → Int
  reuseAddr : Int → Int
  connectionName : Option Sockaddr6
  bind : Int → Sockaddr6 → Int
  boundName : Int → Option Sockaddr6

/-- All of them succeed. -/
structure Sockets.Succeed (sockets : Sockets) : Prop where
  socket (type : SockType) (earlier : Nat) : 0 ≤ sockets.socket type earlier
  binder (fd : Int) (saddr : Sockaddr6) : 0 ≤ sockets.binder fd saddr
  connect (fd : Int) (saddr : Sockaddr6) : 0 ≤ sockets.connect fd saddr
  reuseAddr (fd : Int) : 0 ≤ sockets.reuseAddr fd
  connectionName : sockets.connectionName ≠ none
  bind (fd : Int) (saddr : Sockaddr6) : 0 ≤ sockets.bind fd saddr
  boundName (fd : Int) : sockets.boundName fd ≠ none

/-! ## What an address is read from -/

namespace HevSocks5Addr

/-- Reading within the first bytes does not depend on the others. -/
theorem read_congr {left right : List UInt8} {length : Nat}
    (same : left.take length = right.take length) {start size : Nat}
    (within : start + size ≤ length) :
    (left.drop start).take size = (right.drop start).take size := by
  have inside : ∀ bytes : List UInt8,
      ((bytes.take length).drop start).take size =
        (bytes.drop start).take size := by
    intro bytes
    rw [List.drop_take, List.take_take, Nat.min_eq_left (by omega)]
  rw [← inside left, ← inside right, same]

theorem getD_congr {left right : List UInt8} {length : Nat}
    (same : left.take length = right.take length) {index : Nat}
    (within : index < length) : left.getD index 0 = right.getD index 0 := by
  have inside : ∀ bytes : List UInt8,
      (bytes.take length).getD index 0 = bytes.getD index 0 := by
    intro bytes
    rw [List.getD_eq_getElem?_getD, List.getElem?_take_of_lt within,
      List.getD_eq_getElem?_getD]
  rw [← inside left, ← inside right, same]

section Congr

variable {left right : HevSocks5Addr}

theorem field_congr {length : Nat}
    (same : left.bytes.take length = right.bytes.take length)
    {start size : Nat} {within : start + size ≤ 260}
    (inside : start + size ≤ length) :
    left.field start size within = right.field start size within :=
  Subtype.ext (read_congr same inside)

/-- An address becomes the same socket address wherever its bytes are held. -/
theorem intoSockaddr6_congr (valid : 0 < left.addrLen)
    (same : left.bytes.take left.addrLen.toNat =
      right.bytes.take left.addrLen.toNat) (resolver : Resolver)
    (saddr : Sockaddr6) (family : AddrFamily) :
    right.intoSockaddr6 resolver saddr family =
      left.intoSockaddr6 resolver saddr family := by
  have four := addrLen_pos valid
  have atype : left.atype = right.atype := getD_congr same (by omega)
  have domainLen : left.domainLen = right.domainLen := getD_congr same (by omega)
  unfold addrLen at same
  unfold intoSockaddr6
  rw [← atype]
  split
  case h_1 isV4 =>
    rw [isV4] at same
    unfold ipv4IntoSockaddr6
    rw [field_congr same (show 1 + 4 ≤ 7 by decide),
      field_congr same (show 5 + 2 ≤ 7 by decide)]
  case h_2 isV6 =>
    rw [isV6] at same
    unfold ipv6IntoSockaddr6
    rw [field_congr same (show 1 + 16 ≤ 19 by decide),
      field_congr same (show 17 + 2 ≤ 19 by decide)]
  case h_3 isName =>
    rw [isName] at same
    have within : (4 + (left.domainLen.toNat : Int)).toNat =
        4 + left.domainLen.toNat := by omega
    unfold domainName domainPort
    simp only [within] at same
    rw [← domainLen, read_congr same (by omega), read_congr same (by omega)]
  case h_4 => rfl

end Congr

/-- The bytes of an address put at the beginning of another structure. -/
theorem take_overwrite (prior addr : HevSocks5Addr) :
    (prior.overwrite addr.wire).bytes.take addr.addrLen.toNat = addr.wire := by
  have bound := addr.addrLen_le
  unfold overwrite
  rw [List.take_take, Nat.min_eq_left (by omega)]
  exact List.take_left' addr.length_wire

theorem intoSockaddr6_overwrite (prior : HevSocks5Addr) {addr : HevSocks5Addr}
    (valid : 0 < addr.addrLen) (resolver : Resolver) (saddr : Sockaddr6)
    (family : AddrFamily) :
    (prior.overwrite addr.wire).intoSockaddr6 resolver saddr family =
      addr.intoSockaddr6 resolver saddr family :=
  intoSockaddr6_congr valid (prior.take_overwrite addr).symm resolver saddr family

end HevSocks5Addr

/-- The bytes of a valid address behind the first two, by the type. -/
theorem HevSocks5Addr.wire_eq {addr : HevSocks5Addr} (valid : 0 < addr.addrLen) :
    ∃ second tail, addr.wire = addr.atype :: second :: tail ∧
      (addr.atype = 1 ∧ tail.length = 5 ∨ addr.atype = 4 ∧ tail.length = 17 ∨
        addr.atype = 3 ∧ tail.length = 2 + second.toNat) := by
  have sized := addr.length_wire
  obtain ⟨bytes, size⟩ := addr
  match bytes, size with
  | first :: second :: more, size =>
      obtain ⟨count, counted⟩ : ∃ count, (addrLen ⟨_, size⟩).toNat = count + 2 := by
        have four := addrLen_pos valid
        exact ⟨(addrLen ⟨_, size⟩).toNat - 2, by omega⟩
      have split : wire ⟨_, size⟩ = first :: second :: more.take count := by
        unfold wire
        rw [counted]
        rfl
      refine ⟨second, more.take count, split, ?_⟩
      rw [split, counted, List.length_cons, List.length_cons] at sized
      have tailSize : (more.take count).length = count := by omega
      rw [tailSize]
      unfold addrLen at counted valid
      split at counted
      case h_1 isV4 =>
        exact .inl ⟨UInt8.toNat_inj.mp isV4, by omega⟩
      case h_2 isV6 =>
        exact .inr (.inl ⟨UInt8.toNat_inj.mp isV6, by omega⟩)
      case h_3 isName =>
        have len : (domainLen ⟨_, size⟩) = second := rfl
        rw [len] at counted
        exact .inr (.inr ⟨UInt8.toNat_inj.mp isName, by omega⟩)
      case h_4 => omega

/-- A socket address becomes an address of one of the numeric types. -/
theorem addrFromSockaddr6_eq (saddr : Sockaddr6) :
    ∃ atype body, addrFromSockaddr6 saddr = atype :: body ∧
      (atype = 1 ∧ body.length = 6 ∨ atype = 4 ∧ body.length = 18) := by
  unfold addrFromSockaddr6
  split
  case isTrue =>
    refine ⟨1, _, rfl, .inl ⟨rfl, ?_⟩⟩
    rw [List.length_append, List.length_drop, saddr.addr.property,
      saddr.port.property]
  case isFalse =>
    refine ⟨4, _, rfl, .inr ⟨rfl, ?_⟩⟩
    rw [List.length_append, saddr.addr.property, saddr.port.property]

end ProxyVPN
