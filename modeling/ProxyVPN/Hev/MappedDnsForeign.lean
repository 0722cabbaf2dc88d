/-
Module: ProxyVPN.Hev.MappedDnsForeign
Purpose: Addresses outside of the mapped network in a lookup: the network is
  not compared, so what becomes of them is up to their host bits and to the
  number of names that are cached.
Trusted boundary: human-reviewed model
Main exports: Untranslated, addrFromIpv4_eq, config_of_reachable,
  lookup_foreign, foreign_untranslated_iff
-/
import ProxyVPN.Hev.AddrFromLwip
import ProxyVPN.Hev.MappedDnsCache

namespace ProxyVPN

open CheckedArray HevMappedDNS HevSocks5Addr Transition

/-! ## IPv4 addresses -/

namespace HevSocks5Addr

/-- The structure holds the address and the port, and behind them what it held
before. -/
theorem addrFromIpv4_eq (prior : HevSocks5Addr) {ipv4 : List UInt8}
    (sized : ipv4.length = 4) (port : BitVec 16) :
    addrFromIpv4 prior.bytes ipv4 (htons port) =
      .ok (7, [1] ++ (ipv4 ++ (DnsMessage.bigEndian 2 port.toNat ++
        prior.bytes.drop 7))) := by
  obtain ⟨bytes, size⟩ := prior
  rcases bytes with _ | ⟨type, rest⟩
  · cases size
  simp only [List.length_cons] at size
  have typed : write (type :: rest) 0 1 = .ok (1 :: rest) :=
    write_append [] type 1 rest
  have addressed : copy ipv4 0 (1 :: rest) 1 4 =
      .ok ([1] ++ (ipv4 ++ rest.drop 4)) := by
    have copied := copy_append ipv4 [1] (rest.take 4) (rest.drop 4)
      (Nat.le_of_eq sized.symm) (List.length_take_of_le (by omega))
    rw [List.take_append_drop, List.take_of_length_le (Nat.le_of_eq sized)] at copied
    exact copied
  have ported : copy (memory16 (htons port)) 0 ([1] ++ (ipv4 ++ rest.drop 4)) 5 2 =
      .ok ([1] ++ (ipv4 ++ (DnsMessage.bigEndian 2 port.toNat ++
        rest.drop 6))) := by
    have copied := copy_append (memory16 (htons port)) ([1] ++ ipv4)
      ((rest.drop 4).take 2) ((rest.drop 4).drop 2) (Nat.le_refl 2)
      (List.length_take_of_le (by rw [List.length_drop]; omega))
    rw [List.take_append_drop, List.length_append, sized, List.append_assoc,
      memory16_htons, List.drop_drop, List.append_assoc] at copied
    rw [memory16_htons]
    exact copied
  unfold addrFromIpv4
  rw [typed, ok_bind, addressed, ok_bind, ported, ok_bind]
  rfl

end HevSocks5Addr

/-! ## Lookups of foreign addresses -/

namespace HevMappedDNS

/-- The cache does not translate the address: the lookup returns no name and
changes nothing, and `hev_socks5_addr_from_lwip` writes the address itself. -/
structure Untranslated (cache : HevMappedDNS) (ip : BitVec 32) : Prop where
  lookup : cache.lookup ip = some (none, cache)
  encoded : ∀ (prior : HevSocks5Addr) (port : BitVec 16), ∃ rest,
    addrFromLwip (some cache) prior.bytes
      ⟨DnsMessage.bigEndian 4 ip.toNat, IpAddrT.typeV4⟩ port =
      .ok (0, [1] ++ (DnsMessage.bigEndian 4 ip.toNat ++
        (DnsMessage.bigEndian 2 port.toNat ++ rest)), some cache)

/-- Where the lookup returns no name, the address itself is written. -/
theorem Untranslated.of_lookup {cache : HevMappedDNS} {ip : BitVec 32}
    (missed : cache.lookup ip = some (none, cache)) : cache.Untranslated ip := by
  refine ⟨missed, ?_⟩
  intro prior port
  have word : ntohl (DnsMessage.bigEndian 4 ip.toNat) = .ok ip := by
    have spelled : DnsMessage.number (DnsMessage.bigEndian 4 ip.toNat) =
        ip.toNat := by
      rw [DnsMessage.number_bigEndian]
      exact Nat.mod_eq_of_lt ip.isLt
    have same : ntohl (DnsMessage.bigEndian 4 ip.toNat) =
        .ok (BitVec.ofNat 32
          (DnsMessage.number (DnsMessage.bigEndian 4 ip.toNat))) := rfl
    rw [same, spelled, BitVec.ofNat_toNat, BitVec.setWidth_eq]
  refine ⟨prior.bytes.drop 7, ?_⟩
  unfold addrFromLwip
  rw [if_pos rfl]
  simp only [word, ok_bind, missed]
  rw [addrFromIpv4_eq prior (DnsMessage.length_bigEndian 4 _)]
  rfl

/-- The configuration stays, and names are counted only while there is room. -/
structure KeepsConfig (cache next : HevMappedDNS) : Prop where
  net : next.net = cache.net
  mask : next.mask = cache.mask
  max : next.max = cache.max
  use : cache.max < 1 → cache.use = 0 → next.use = 0

theorem find_keepsConfig {cache next : HevMappedDNS} {name : CString}
    {outcome : FindOutcome} {result : Int}
    (call : cache.find name outcome = some (result, next)) :
    cache.KeepsConfig next := by
  unfold find at call
  split at call
  case h_1 =>
    cases call
    exact ⟨rfl, rfl, rfl, fun _ => id⟩
  case h_2 =>
    split at call
    case h_1 =>
      cases call
      exact ⟨rfl, rfl, rfl, fun _ => id⟩
    case h_2 node _ =>
      obtain ⟨_, call⟩ := Option.ite_none_right_eq_some.mp call
      simp only at call
      split at call
      case isTrue room =>
        cases call
        refine ⟨rfl, rfl, rfl, fun none unused => ?_⟩
        have attached : (cache.attach name node outcome.inserted).use =
            cache.use := rfl
        have bound : (cache.attach name node outcome.inserted).max =
            cache.max := rfl
        rw [attached, bound] at room
        omega
      case isFalse =>
        split at call
        case h_1 => cases call
        case h_2 =>
          obtain ⟨_, call⟩ := Option.ite_none_right_eq_some.mp call
          cases call
          exact ⟨rfl, rfl, rfl, fun _ => id⟩

theorem lookup_keepsConfig {cache next : HevMappedDNS} {ip : BitVec 32}
    {result : Option CString} (call : cache.lookup ip = some (result, next)) :
    cache.KeepsConfig next := by
  unfold lookup at call
  simp only at call
  split at call
  case isTrue =>
    cases call
    exact ⟨rfl, rfl, rfl, fun _ => id⟩
  case isFalse =>
    obtain ⟨_, call⟩ := Option.ite_none_left_eq_some.mp call
    split at call
    case h_1 =>
      cases call
      exact ⟨rfl, rfl, rfl, fun _ => id⟩
    case h_2 =>
      cases call
      exact ⟨rfl, rfl, rfl, fun _ => id⟩

theorem exec_keepsConfig {cache next : HevMappedDNS} {label : Label}
    (taken : exec cache label = some next) : cache.KeepsConfig next := by
  cases label with
  | find name outcome result =>
      rcases Option.bind_eq_some_iff.mp taken with ⟨⟨_, after⟩, call, same⟩
      obtain ⟨rfl, ⟨⟩⟩ := Option.ite_none_right_eq_some.mp same
      exact find_keepsConfig call
  | lookup ip result =>
      rcases Option.bind_eq_some_iff.mp taken with ⟨⟨_, after⟩, call, same⟩
      obtain ⟨rfl, ⟨⟩⟩ := Option.ite_none_right_eq_some.mp same
      exact lookup_keepsConfig call

/-- A reachable cache has its configuration, and no names where it has no room
for any. -/
theorem config_of_reachable {net mask : BitVec 32} {max : Int}
    {cache : HevMappedDNS} (reached : (system net mask max).Reachable cache) :
    (cache.net = net ∧ cache.mask = mask ∧ cache.max = max) ∧
      (max < 1 → cache.use = 0) := by
  have invariant : Invariant (system net mask max) fun cache =>
      (cache.net = net ∧ cache.mask = mask ∧ cache.max = max) ∧
        (max < 1 → cache.use = 0) := by
    constructor
    · intro cache constructed
      obtain ⟨_, ⟨⟩⟩ := Option.ite_none_left_eq_some.mp constructed
      exact ⟨⟨rfl, rfl, rfl⟩, fun _ => rfl⟩
    · rintro cache label next ⟨⟨rfl, rfl, rfl⟩, unused⟩ taken
      have keeps := exec_keepsConfig taken
      exact ⟨⟨keeps.net, keeps.mask, keeps.max⟩,
        fun none => keeps.use none (unused none)⟩
  exact invariant.reachable reached

/-- Where an address is outside of the network, the mask leaves a sign bit. -/
theorem host_nonneg {net mask ip : BitVec 32} (prefixMask : IsPrefix mask)
    (hostBits : net &&& ~~~mask = 0) (foreign : ip &&& mask ≠ net) :
    (ip &&& ~~~mask).toInt = (ip &&& ~~~mask).toNat := by
  obtain ⟨k, short, maskEq⟩ := prefixMask
  have some : k ≠ 32 := by
    rintro rfl
    have all : ~~~mask = BitVec.allOnes 32 := maskEq
    have none : mask = 0 := by
      rw [← @BitVec.not_not _ mask, all]
      rfl
    rw [all, BitVec.and_allOnes] at hostBits
    rw [none, hostBits] at foreign
    exact foreign BitVec.and_zero
  apply BitVec.toInt_eq_toNat_of_lt
  have half : 2 ^ k ≤ 2 ^ 31 := Nat.pow_le_pow_right (by decide) (by omega)
  have within : (ip &&& ~~~mask).toNat ≤ (~~~mask).toNat := by
    rw [BitVec.toNat_and]
    exact Nat.and_le_right
  have below : (~~~mask).toNat ≤ 2 ^ k - 1 := by
    rw [maskEq, BitVec.toNat_ofNat]
    exact Nat.mod_le _ _
  omega

/-- A foreign address is not looked up as a name where fewer names are cached
than its host bits count to, and it is looked up as one otherwise. -/
theorem lookup_foreign {net mask : BitVec 32} {max : Int} {cache : HevMappedDNS}
    (reached : (system net mask max).Reachable cache)
    (prefixMask : IsPrefix mask) (hostBits : net &&& ~~~mask = 0)
    {ip : BitVec 32} (foreign : ip &&& mask ≠ net) :
    (cache.use ≤ (ip &&& ~~~mask).toNat → cache.lookup ip = some (none, cache)) ∧
      ((ip &&& ~~~mask).toNat < cache.use → ∃ name after,
        cache.lookup ip = some (some name, after)) := by
  have host := host_nonneg prefixMask hostBits foreign
  obtain ⟨⟨_, maskEq, maxEq⟩, unused⟩ := config_of_reachable reached
  have looked : ∀ (beyond : ¬max ≤ ((ip &&& ~~~mask).toNat : Int)),
      cache.lookup ip = (cache.records (ip &&& ~~~mask).toNat).elim
        (some (none, cache))
        fun node => some (some (cache.name node), cache.touch node) := by
    intro within
    unfold lookup
    simp only [maskEq, maxEq, host, Int.toNat_natCast]
    refine (if_neg within).trans ?_
    refine (if_neg (Int.natCast_nonneg _).not_gt).trans ?_
    cases cache.records (ip &&& ~~~mask).toNat with
    | none => rfl
    | some node => rfl
  by_cases beyond : max ≤ ((ip &&& ~~~mask).toNat : Int)
  · constructor
    · intro _
      unfold lookup
      simp only [maskEq, maxEq, host]
      rw [if_pos beyond]
    · -- no more names than there is room for are cached
      intro used
      by_cases positive : 1 ≤ max
      · obtain ⟨_, _, _, order, holds, _⟩ := tracks_of_reachable positive reached
        have bounded := holds.bounded
        omega
      · have none := unused (by omega)
        omega
  · obtain ⟨_, _, _, order, holds, _⟩ :=
      tracks_of_reachable (by omega) reached
    rw [looked beyond]
    constructor
    · intro free
      rw [holds.unused _ free, Option.elim_none]
    · intro used
      obtain ⟨node, _, recorded, _⟩ := holds.filled _ used
      rw [recorded, Option.elim_some]
      exact ⟨_, _, rfl⟩

/-- A foreign address is left alone exactly where its host bits count to at
least the number of names that are cached. -/
theorem foreign_untranslated_iff {net mask : BitVec 32} {max : Int}
    {cache : HevMappedDNS} (reached : (system net mask max).Reachable cache)
    (prefixMask : IsPrefix mask) (hostBits : net &&& ~~~mask = 0)
    {ip : BitVec 32} (foreign : ip &&& mask ≠ net) :
    cache.Untranslated ip ↔ cache.use ≤ (ip &&& ~~~mask).toNat := by
  have looked := lookup_foreign reached prefixMask hostBits foreign
  constructor
  · intro untranslated
    by_contra used
    obtain ⟨name, after, found⟩ := looked.2 (Nat.not_le.mp used)
    rw [untranslated.lookup] at found
    cases found
  · intro free
    exact .of_lookup (looked.1 free)

/-! ### One name in 100.64.0.0/10 -/

/-- The name `a` is found for the first time. -/
def findA : Label :=
  .find ⟨[97], by decide⟩
    { node := some 100, inserted := .node .leaf 100 .leaf, erased := .leaf } 0

theorem reachable_findA :
    ∃ cache, (system 0x64400000#32 0xFFC00000#32 10000).Reachable cache ∧
      cache.use = 1 ∧
      (cache.lookup 0x08000000#32).map Prod.fst =
        some (some ⟨[97], by decide⟩) := by
  have replayed : ((construct 0x64400000#32 0xFFC00000#32 10000).bind fun cache =>
      (exec cache findA).map fun next =>
        (next.use, (next.lookup 0x08000000#32).map Prod.fst)) =
      some (1, some (some ⟨[97], by decide⟩)) := by
    decide +kernel
  obtain ⟨cache, constructed, rest⟩ := Option.bind_eq_some_iff.mp replayed
  obtain ⟨next, taken, seen⟩ := Option.map_eq_some_iff.mp rest
  obtain ⟨used, found⟩ := Prod.mk.inj seen
  exact ⟨next, ⟨cache, [findA], constructed, .cons taken (.nil next)⟩, used, found⟩

/-- With one name cached, 8.0.0.1 is left alone. -/
theorem foreign_untranslated_next :
    ∃ cache, (system 0x64400000#32 0xFFC00000#32 10000).Reachable cache ∧
      cache.use = 1 ∧ cache.Untranslated 0x08000001#32 := by
  obtain ⟨cache, reached, used, _⟩ := reachable_findA
  refine ⟨cache, reached, used, ?_⟩
  apply (foreign_untranslated_iff reached ⟨22, by decide, by decide⟩ (by decide)
    (by decide)).mpr
  rw [used]
  decide

/-- But 8.0.0.0 is translated to that name. -/
theorem foreign_translated :
    ¬∀ (net mask : BitVec 32) (max : Int) (cache : HevMappedDNS),
      (system net mask max).Reachable cache → IsPrefix mask →
      net &&& ~~~mask = 0 → ∀ ip : BitVec 32, ip &&& mask ≠ net →
      cache.Untranslated ip := by
  intro untranslated
  obtain ⟨cache, reached, _, found⟩ := reachable_findA
  have missed := untranslated _ _ _ cache reached ⟨22, by decide, by decide⟩
    (by decide) 0x08000000#32 (by decide)
  rw [missed.lookup] at found
  cases found

end HevMappedDNS

end ProxyVPN
