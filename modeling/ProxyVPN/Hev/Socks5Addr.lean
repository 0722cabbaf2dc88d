/-
Module: ProxyVPN.Hev.Socks5Addr
Purpose: The packed address structure of hev-socks5-proto.h as the bytes it
  takes in memory, and its length by type.
Trusted boundary: human-reviewed model
Main exports: HevSocks5Addr, HevSocks5Addr.addrLen, HevSocks5Addr.wire
-/
import Mathlib.Data.List.Basic

namespace ProxyVPN

/-- `struct _HevSocks5Addr`: the type, and the union whose largest member is
the length of a domain with 258 bytes for it. -/
structure HevSocks5Addr where
  bytes : List UInt8
  size : bytes.length = 260

namespace HevSocks5Addr

def atype (self : HevSocks5Addr) : UInt8 := self.bytes.getD 0 0

def domainLen (self : HevSocks5Addr) : UInt8 := self.bytes.getD 1 0

/-- `hev_socks5_addr_len`. -/
def addrLen (self : HevSocks5Addr) : Int :=
  match self.atype.toNat with
  | 1 => 7
  | 4 => 19
  | 3 => 4 + self.domainLen.toNat
  | _ => -1

/-- The bytes of an address that go over a connection. -/
def wire (self : HevSocks5Addr) : List UInt8 :=
  self.bytes.take self.addrLen.toNat

theorem addrLen_le (self : HevSocks5Addr) : self.addrLen ≤ 259 := by
  have byte := self.domainLen.toNat_lt
  unfold addrLen
  split <;> omega

theorem length_wire (self : HevSocks5Addr) :
    self.wire.length = self.addrLen.toNat := by
  apply List.length_take_of_le
  have bound := self.addrLen_le
  rw [self.size]
  omega

/-- Positive lengths are those of the three types. -/
theorem addrLen_pos {self : HevSocks5Addr} (valid : 0 < self.addrLen) :
    4 ≤ self.addrLen := by
  revert valid
  unfold addrLen
  split <;> omega

end HevSocks5Addr

end ProxyVPN
