/-
Module: ProxyVPN.Hev.AddrFromLwip
Purpose: Addresses of the network stack as SOCKS5 addresses: an address of the
  mapped DNS becomes the name it stands for, written into the packed structure
  in place.
Trusted boundary: human-reviewed model
Main exports: HevSocks5Addr.addrFromName, HevSocks5Addr.addrFromLwip,
  HevSocks5Addr.Names, addrFromName_names, addrFromName_overrun
-/
import ProxyVPN.Hev.MappedDnsHandle
import ProxyVPN.Hev.Socks5Addr
import ProxyVPN.Lib.DnsMessage

namespace ProxyVPN

open CheckedArray

/-- `ip_addr_t`: the bytes of `u_addr` in memory order, and the type. -/
structure IpAddrT where
  uAddr : List UInt8
  type : Nat

namespace IpAddrT

def typeV4 : Nat := 0

def typeV6 : Nat := 6

end IpAddrT

namespace HevSocks5Addr

/-! ## The constructors of addresses -/

/-- `htons` on a little-endian host: the two bytes change places. -/
def htons (v : BitVec 16) : BitVec 16 :=
  BitVec.ofNat 16 (v.toNat % 256 * 256 + v.toNat / 256)

/-- A `uint16_t` in the memory of a little-endian host. -/
def memory16 (v : BitVec 16) : List UInt8 :=
  [UInt8.ofNat v.toNat, UInt8.ofNat (v.toNat / 256)]

/-- `ntohl` of the word at the beginning of some bytes. -/
def ntohl (p : List UInt8) : Except Error (BitVec 32) := do
  let b0 ← read p 0
  let b1 ← read p 1
  let b2 ← read p 2
  let b3 ← read p 3
  return BitVec.ofNat 32 (DnsMessage.number [b0, b1, b2, b3])

/-- `strncpy`: the rest of the room is filled with zeros, and a longer string
is cut without a zero behind it. -/
def strncpy (target : List UInt8) (index : Nat) (source : CString) (n : Nat) :
    Except Error (List UInt8) :=
  copy (source.bytes.take n ++ List.replicate (n - source.bytes.length) 0) 0
    target index n

def strlen (p : List UInt8) (index : Nat) : Except Error Nat := do
  let string ← HevMappedDNS.cString p index
  return string.bytes.length

/-- `hev_socks5_addr_from_name`: the result, and the structure. -/
def addrFromName (addr : List UInt8) (name : CString) (port : BitVec 16) :
    Except Error (Int × List UInt8) := do
  let addr ← write addr 0 3
  let addr ← strncpy addr 2 name 256
  let length ← strlen addr 2
  let addr ← write addr 1 (UInt8.ofNat length)
  let len ← read addr 1
  let addr ← copy (memory16 port) 0 addr (2 + len.toNat) 2
  let len ← read addr 1
  return (4 + len.toNat, addr)

/-- `hev_socks5_addr_from_ipv4`. -/
def addrFromIpv4 (addr ipv4 : List UInt8) (port : BitVec 16) :
    Except Error (Int × List UInt8) := do
  let addr ← write addr 0 1
  let addr ← copy ipv4 0 addr 1 4
  let addr ← copy (memory16 port) 0 addr 5 2
  return (7, addr)

/-- `hev_socks5_addr_from_ipv6`. -/
def addrFromIpv6 (addr ipv6 : List UInt8) (port : BitVec 16) :
    Except Error (Int × List UInt8) := do
  let addr ← write addr 0 4
  let addr ← copy ipv6 0 addr 1 16
  let addr ← copy (memory16 port) 0 addr 17 2
  return (19, addr)

/-- `hev_socks5_addr_from_lwip`: the result, the structure, and the mapped
DNS. -/
def addrFromLwip (dns : Option HevMappedDNS) (addr : List UInt8) (ip : IpAddrT)
    (port : BitVec 16) :
    Except Error (Int × List UInt8 × Option HevMappedDNS) :=
  if ip.type = IpAddrT.typeV4 then
    match dns with
    | none => do
        let (_, addr) ← addrFromIpv4 addr ip.uAddr (htons port)
        return (0, addr, none)
    | some cache => do
        let word ← ntohl ip.uAddr
        match cache.lookup word with
        -- the records are read in front of their beginning
        | none => .error .indexOutOfBounds
        | some (some name, cache) => do
            let (_, addr) ← addrFromName addr name (htons port)
            return (0, addr, some cache)
        | some (none, cache) => do
            let (_, addr) ← addrFromIpv4 addr ip.uAddr (htons port)
            return (0, addr, some cache)
  else if ip.type = IpAddrT.typeV6 then do
    let (_, addr) ← addrFromIpv6 addr ip.uAddr (htons port)
    return (0, addr, dns)
  else
    return (-1, addr, dns)

/-! ## Names -/

/-- The structure holds a name and behind it the port in network order. -/
structure Names (state : HevSocks5Addr) (name : List UInt8) (port : BitVec 16) :
    Prop where
  atype : state.atype = 3
  domain : (state.bytes.drop 2).take state.domainLen.toNat = name
  port : (state.bytes.drop (2 + state.domainLen.toNat)).take 2 =
    DnsMessage.bigEndian 2 port.toNat
  length : state.addrLen = 4 + (name.length : Int)

theorem Names.length_le {state : HevSocks5Addr} {name : List UInt8}
    {port : BitVec 16} (names : state.Names name port) :
    name.length ≤ 255 := by
  have byte := state.domainLen.toNat_lt
  have taken := List.length_take_le state.domainLen.toNat (state.bytes.drop 2)
  rw [names.domain] at taken
  omega

theorem memory16_htons (port : BitVec 16) :
    memory16 (htons port) = DnsMessage.bigEndian 2 port.toNat := by
  have bound := port.isLt
  have swapped : (htons port).toNat =
      port.toNat % 256 * 256 + port.toNat / 256 := by
    unfold htons
    rw [BitVec.toNat_ofNat]
    exact Nat.mod_eq_of_lt (by omega)
  have low : UInt8.ofNat (htons port).toNat = UInt8.ofNat (port.toNat / 256) := by
    apply UInt8.toNat_inj.mp
    rw [UInt8.toNat_ofNat', UInt8.toNat_ofNat', swapped]
    omega
  have quotient : (port.toNat % 256 * 256 + port.toNat / 256) / 256 =
      port.toNat % 256 := by
    have small : port.toNat / 256 < 256 := by omega
    rw [Nat.mul_comm, Nat.mul_add_div (by decide), Nat.div_eq_of_lt small,
      Nat.add_zero]
  have high : UInt8.ofNat ((htons port).toNat / 256) =
      UInt8.ofNat port.toNat := by
    apply UInt8.toNat_inj.mp
    rw [UInt8.toNat_ofNat', UInt8.toNat_ofNat', swapped, quotient]
    exact Nat.mod_mod _ _
  unfold memory16
  rw [low, high]
  rfl

/-- The string that a zero ends. -/
theorem cString_append (front rest : List UInt8) (name : CString) :
    HevMappedDNS.cString (front ++ (name.bytes ++ 0 :: rest)) front.length =
      .ok name := by
  have behind : (front ++ (name.bytes ++ 0 :: rest)).drop front.length =
      name.bytes ++ 0 :: rest := List.drop_left' rfl
  have visible : ∀ byte ∈ name.bytes, decide (byte ≠ 0) = true := by
    intro byte member
    apply decide_eq_true
    rintro rfl
    exact name.noZero member
  unfold HevMappedDNS.cString
  simp only [behind]
  rw [if_pos (List.mem_append_right _ List.mem_cons_self)]
  congr
  rw [List.takeWhile_append_of_pos visible]
  simp

/-- A name of up to 255 bytes is held, whatever the structure held before. -/
theorem addrFromName_names (prior : HevSocks5Addr) {name : CString}
    (port : BitVec 16) (short : name.bytes.length ≤ 255) :
    ∃ out : HevSocks5Addr,
      addrFromName prior.bytes name (htons port) =
        .ok (4 + (name.bytes.length : Int), out.bytes) ∧
      out.Names name.bytes port := by
  obtain ⟨bytes, size⟩ := prior
  rcases bytes with _ | ⟨type, _ | ⟨old, rest⟩⟩
  · cases size
  · cases size
  simp only [List.length_cons] at size
  let len := UInt8.ofNat name.bytes.length
  have lenNat : len.toNat = name.bytes.length := by
    change (UInt8.ofNat name.bytes.length).toNat = _
    rw [UInt8.toNat_ofNat']
    exact Nat.mod_eq_of_lt (by omega)
  obtain ⟨zero, behind, behindEq⟩ : ∃ zero behind,
      List.replicate (255 - name.bytes.length) 0 ++ rest.drop 256 =
        zero :: behind := by
    apply List.exists_cons_of_ne_nil
    apply List.ne_nil_of_length_pos
    rw [List.length_append, List.length_drop]
    omega
  have written : write (type :: old :: rest) 0 3 = .ok (3 :: old :: rest) :=
    write_append [] type 3 (old :: rest)
  have padded : strncpy (3 :: old :: rest) 2 name 256 =
      .ok ([3, old] ++ (name.bytes ++ 0 :: zero :: behind)) := by
    have zeros : List.replicate (256 - name.bytes.length) (0 : UInt8) =
        0 :: List.replicate (255 - name.bytes.length) 0 := by
      rw [← List.replicate_succ]
      congr 1
      omega
    have sized : (name.bytes ++
        List.replicate (256 - name.bytes.length) (0 : UInt8)).length = 256 := by
      rw [List.length_append, List.length_replicate]
      omega
    have copied := copy_append (name.bytes ++
      List.replicate (256 - name.bytes.length) 0) [3, old] (rest.take 256)
      (rest.drop 256) (Nat.le_of_eq sized.symm)
      (List.length_take_of_le (by omega))
    rw [List.take_append_drop, List.take_of_length_le (Nat.le_of_eq sized), zeros,
      List.append_assoc name.bytes,
      @List.cons_append _ 0 _ (rest.drop 256), behindEq] at copied
    unfold strncpy
    rw [List.take_of_length_le (by omega), zeros]
    exact copied
  have terminated : strlen ([3, old] ++ (name.bytes ++ 0 :: zero :: behind)) 2 =
      .ok name.bytes.length := by
    have string : HevMappedDNS.cString
        ([3, old] ++ (name.bytes ++ 0 :: zero :: behind)) 2 = .ok name :=
      cString_append [3, old] (zero :: behind) name
    unfold strlen
    rw [string]
    rfl
  have sized : write ([3, old] ++ (name.bytes ++ 0 :: zero :: behind)) 1 len =
      .ok ([3, len] ++ (name.bytes ++ 0 :: zero :: behind)) :=
    write_append [3] old len _
  have lenRead : ∀ tail, read ([3, len] ++ tail) 1 = .ok len := fun _ => rfl
  have ported : copy (memory16 (htons port)) 0
      ([3, len] ++ (name.bytes ++ 0 :: zero :: behind)) (2 + len.toNat) 2 =
        .ok ([3, len] ++ (name.bytes ++
          (DnsMessage.bigEndian 2 port.toNat ++ behind))) := by
    have copied := copy_append (memory16 (htons port)) ([3, len] ++ name.bytes)
      [0, zero] behind (Nat.le_refl 2) rfl
    rw [List.append_assoc, List.length_append, ← lenNat, memory16_htons,
      List.append_assoc] at copied
    rw [memory16_htons]
    exact copied
  let out := [3, len] ++ (name.bytes ++
    (DnsMessage.bigEndian 2 port.toNat ++ behind))
  have outSize : out.length = 260 := by
    have total := congrArg List.length behindEq
    have port2 : (DnsMessage.bigEndian 2 port.toNat).length = 2 := rfl
    simp only [List.length_append, List.length_replicate, List.length_drop,
      List.length_cons] at total
    simp only [out, List.length_append, port2, List.length_cons,
      List.length_nil]
    omega
  refine ⟨⟨out, outSize⟩, ?_, ?_⟩
  · unfold addrFromName
    rw [written, ok_bind, padded, ok_bind, terminated, ok_bind, sized, ok_bind,
      lenRead, ok_bind, ported, ok_bind, lenRead, ok_bind, lenNat]
    rfl
  · have domainLen : domainLen ⟨out, outSize⟩ = len := rfl
    constructor
    · rfl
    · rw [domainLen, lenNat]
      exact List.take_left' rfl
    · rw [domainLen, lenNat, ← List.drop_drop]
      change ((name.bytes ++ (_ ++ behind)).drop _).take 2 = _
      rw [List.drop_left' rfl]
      rfl
    · change (4 : Int) + (len.toNat : Int) = _
      rw [lenNat]

/-- A name of 256 bytes or more leaves no zero, and the search for one leaves
the structure. -/
theorem addrFromName_overrun (prior : HevSocks5Addr) (name : CString)
    (port : BitVec 16) (long : 256 ≤ name.bytes.length)
    (noZero : 0 ∉ prior.bytes.drop 258) :
    addrFromName prior.bytes name port = .error .indexOutOfBounds := by
  obtain ⟨bytes, size⟩ := prior
  rcases bytes with _ | ⟨type, _ | ⟨old, rest⟩⟩
  · cases size
  · cases size
  simp only [List.length_cons] at size
  have written : write (type :: old :: rest) 0 3 = .ok (3 :: old :: rest) :=
    write_append [] type 3 (old :: rest)
  have cut : strncpy (3 :: old :: rest) 2 name 256 =
      .ok ([3, old] ++ (name.bytes.take 256 ++ rest.drop 256)) := by
    have none : 256 - name.bytes.length = 0 := by omega
    have copied := copy_append (name.bytes.take 256) [3, old] (rest.take 256)
      (rest.drop 256) (by rw [List.length_take]; omega)
      (List.length_take_of_le (by omega))
    rw [List.take_append_drop, List.take_take, Nat.min_self] at copied
    unfold strncpy
    rw [none, List.replicate_zero, List.append_nil]
    exact copied
  have unterminated :
      0 ∉ ([3, old] ++ (name.bytes.take 256 ++ rest.drop 256)).drop 2 := by
    intro zero
    change 0 ∈ name.bytes.take 256 ++ rest.drop 256 at zero
    rcases List.mem_append.mp zero with inName | behind
    · exact name.noZero (List.mem_of_mem_take inName)
    · exact noZero behind
  unfold addrFromName
  rw [written, ok_bind, cut, ok_bind]
  unfold strlen HevMappedDNS.cString
  rw [if_neg unterminated]
  rfl

/-- The type is written first and nothing over it, and the structure keeps its
size. -/
theorem type_of_writes {addr source typed filled memory out : List UInt8}
    {type : UInt8} {count offset : Nat}
    (typedEq : write addr 0 type = .ok typed)
    (filledEq : copy source 0 typed 1 count = .ok filled)
    (lastEq : copy memory 0 filled offset 2 = .ok out) (behind : 0 < offset) :
    out[0]? = some type ∧ out.length = addr.length := by
  constructor
  · rw [getElem?_of_copy lastEq behind, getElem?_of_copy filledEq (by decide)]
    have inside := (length_of_write typedEq).1
    rw [write_eq_ok inside] at typedEq
    cases typedEq
    exact List.getElem?_set_self inside
  · rw [length_of_copy lastEq, length_of_copy filledEq,
      (length_of_write typedEq).2]

theorem addrFromIpv4_type {addr ipv4 out : List UInt8} {port : BitVec 16}
    {res : Int} (written : addrFromIpv4 addr ipv4 port = .ok (res, out)) :
    out[0]? = some 1 ∧ out.length = addr.length := by
  unfold addrFromIpv4 at written
  obtain ⟨typed, typedEq, written⟩ := bind_eq_ok.mp written
  obtain ⟨filled, filledEq, written⟩ := bind_eq_ok.mp written
  obtain ⟨last, lastEq, written⟩ := bind_eq_ok.mp written
  cases written
  exact type_of_writes typedEq filledEq lastEq (by decide)

theorem addrFromIpv6_type {addr ipv6 out : List UInt8} {port : BitVec 16}
    {res : Int} (written : addrFromIpv6 addr ipv6 port = .ok (res, out)) :
    out[0]? = some 4 ∧ out.length = addr.length := by
  unfold addrFromIpv6 at written
  obtain ⟨typed, typedEq, written⟩ := bind_eq_ok.mp written
  obtain ⟨filled, filledEq, written⟩ := bind_eq_ok.mp written
  obtain ⟨last, lastEq, written⟩ := bind_eq_ok.mp written
  cases written
  exact type_of_writes typedEq filledEq lastEq (by decide)

end HevSocks5Addr

end ProxyVPN
