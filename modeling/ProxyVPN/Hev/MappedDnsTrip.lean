/-
Module: ProxyVPN.Hev.MappedDnsTrip
Purpose: The way of a name from a DNS request over the mapped DNS to the
  address of a SOCKS5 request: it arrives as it was asked for exactly when it
  fits the address structure and its address gives its index back.
Trusted boundary: human-reviewed spec
Main exports: HevMappedDNS.StillCached, HevMappedDNS.Arrives,
  mapped_name_arrives, mapped_name_too_long
-/
import ProxyVPN.Hev.AddrFromLwip
import ProxyVPN.Hev.MappedDnsResponse

namespace ProxyVPN

open CheckedArray DnsMessage Transition Recency HevSocks5Addr

namespace HevMappedDNS

/-! ## Names that stay in the cache -/

def Cached (cache : HevMappedDNS) (name : CString) : Prop :=
  ∃ node ∈ cache.tree.toList, cache.name node = name

/-- The name had the index once, and all calls since have left it in the
cache. -/
def StillCached (net mask : BitVec 32) (max : Int) (name : CString)
    (index : Nat) (cache : HevMappedDNS) : Prop :=
  ∃ first labels, (system net mask max).Reachable first ∧
    first.Maps name index ∧
    ((system net mask max).restrict fun state _ => state.Cached name).Run
      first labels cache ∧
    cache.Cached name

/-- A name that is still cached is under its index. -/
theorem StillCached.maps {net mask : BitVec 32} {max : Int} {name : CString}
    {index : Nat} {cache : HevMappedDNS} (positive : 1 ≤ max)
    (still : StillCached net mask max name index cache) :
    (system net mask max).Reachable cache ∧ cache.Maps name index := by
  obtain ⟨first, labels, reached, maps, run, cached⟩ := still
  induction run with
  | nil => exact ⟨reached, maps⟩
  | @snoc state last labels label before taken inductionHypothesis =>
      obtain ⟨stateCached, step⟩ := taken
      obtain ⟨stateReached, stateMaps⟩ := inductionHypothesis stateCached
      refine ⟨stateReached.step step, ?_⟩
      obtain ⟨_, _, ⟨_, _, capacity⟩, order, holds, _⟩ :=
        tracks_of_reachable positive stateReached
      rw [← capacity] at positive
      rcases exec_cases holds positive step with
        ⟨_, unchanged⟩ | ⟨accessed, later, _, accesses⟩
      · rw [unchanged]
        exact stateMaps
      · apply stateMaps.step holds accesses
        obtain ⟨node, inTree, named⟩ := cached
        exact List.mem_map.mpr
          ⟨node, accesses.holds.threaded.tree.mem_iff.mp inTree, named⟩

theorem StillCached.index_lt {net mask : BitVec 32} {max : Int}
    {name : CString} {index : Nat} {cache : HevMappedDNS} (positive : 1 ≤ max)
    (still : StillCached net mask max name index cache) :
    (index : Int) < max := by
  obtain ⟨reached, node, inTree, _, indexed⟩ := still.maps positive
  obtain ⟨_, _, ⟨_, _, capacity⟩, order, holds, _⟩ :=
    tracks_of_reachable positive reached
  have position := holds.position node (holds.threaded.tree.mem_iff.mp inTree)
  have bounded := holds.bounded
  omega

/-! ## From an address to a name -/

/-- The address becomes a SOCKS5 address of the name, whatever the structure
held before. -/
def Arrives (cache : HevMappedDNS) (ip : BitVec 32) (port : BitVec 16)
    (name : List UInt8) : Prop :=
  ∀ (uAddr : List UInt8) (prior : HevSocks5Addr),
    uAddr.take 4 = bigEndian 4 ip.toNat →
    ∃ out : HevSocks5Addr, ∃ after,
      addrFromLwip (some cache) prior.bytes ⟨uAddr, IpAddrT.typeV4⟩ port =
        .ok (0, out.bytes, some after) ∧
      out.Names name port

theorem Arrives.length_le {cache : HevMappedDNS} {ip : BitVec 32}
    {port : BitVec 16} {name : List UInt8}
    (arrives : cache.Arrives ip port name) : name.length ≤ 255 := by
  let blank : HevSocks5Addr := ⟨List.replicate 260 0, List.length_replicate⟩
  obtain ⟨_, _, _, names⟩ := arrives (bigEndian 4 ip.toNat) blank rfl
  exact names.length_le

theorem ntohl_address {uAddr : List UInt8} {ip : BitVec 32}
    (address : uAddr.take 4 = bigEndian 4 ip.toNat) :
    ntohl uAddr = .ok ip := by
  have small : ip.toNat < 256 ^ 4 := ip.isLt
  have split := List.take_append_drop 4 uAddr
  rw [address] at split
  rw [← split]
  change Except.ok (BitVec.ofNat 32 (number (bigEndian 4 ip.toNat))) = _
  rw [number_bigEndian, Nat.mod_eq_of_lt small, BitVec.ofNat_toNat,
    BitVec.setWidth_eq]

theorem addrFromLwip_v4 {uAddr : List UInt8} {ip : BitVec 32}
    (address : uAddr.take 4 = bigEndian 4 ip.toNat) (cache : HevMappedDNS)
    (addr : List UInt8) (port : BitVec 16) :
    addrFromLwip (some cache) addr ⟨uAddr, IpAddrT.typeV4⟩ port =
      match cache.lookup ip with
      | none => .error .indexOutOfBounds
      | some (some name, cache) =>
          addrFromName addr name (htons port) >>= fun written =>
            .ok (0, written.2, some cache)
      | some (none, cache) =>
          addrFromIpv4 addr uAddr (htons port) >>= fun written =>
            .ok (0, written.2, some cache) := by
  unfold addrFromLwip
  rw [if_pos rfl]
  dsimp only
  rw [ntohl_address address, ok_bind]
  rfl

theorem CString.eq_of_bytes {left right : CString}
    (same : left.bytes = right.bytes) : left = right := by
  cases left
  cases right
  cases same
  rfl

/-- A structure without a zero in its last two bytes. -/
def filled : HevSocks5Addr := ⟨List.replicate 260 1, List.length_replicate⟩

theorem Names.eq {out : HevSocks5Addr} {left right : List UInt8}
    {port other : BitVec 16} (leftNames : out.Names left port)
    (rightNames : out.Names right other) : left = right :=
  leftNames.domain.symm.trans rightNames.domain

/-- A structure without zeros takes no other name for this one. -/
theorem addrFromName_filled {other : CString} {port : BitVec 16} {res : Int}
    {out : HevSocks5Addr} {name : List UInt8}
    (written : addrFromName filled.bytes other (htons port) =
      .ok (res, out.bytes)) (names : out.Names name port) :
    other.bytes = name := by
  by_cases short : other.bytes.length ≤ 255
  · obtain ⟨made, madeEq, madeNames⟩ := addrFromName_names filled port short
    rw [written] at madeEq
    injection madeEq with pair
    obtain ⟨bytes, size⟩ := out
    obtain ⟨madeBytes, madeSize⟩ := made
    cases congrArg Prod.snd pair
    exact Names.eq madeNames names
  · have overrun := addrFromName_overrun filled other (htons port) (by omega)
      (by decide)
    rw [written] at overrun
    cases overrun

/-- A cached name arrives if and only if its address gives its index back and
it has at most 255 bytes. -/
theorem Maps.arrives_iff {cache : HevMappedDNS} {name : CString} {index : Int}
    {order : List Nat} (maps : cache.Maps name index)
    (holds : cache.Holds order) (ip : BitVec 32) (port : BitVec 16) :
    cache.Arrives ip port name.bytes ↔
      (ip &&& ~~~cache.mask).toInt = index ∧ name.bytes.length ≤ 255 := by
  constructor
  · intro arrives
    have address : (bigEndian 4 ip.toNat).take 4 = bigEndian 4 ip.toNat := rfl
    obtain ⟨out, after, written, names⟩ := arrives _ filled address
    refine ⟨?_, arrives.length_le⟩
    apply (maps.lookup_iff holds ip).mp
    rw [addrFromLwip_v4 address] at written
    cases looked : cache.lookup ip with
    | none =>
        rw [looked] at written
        cases written
    | some pair =>
        obtain ⟨result, next⟩ := pair
        rw [looked] at written
        cases result with
        | none =>
            obtain ⟨⟨res, bytes⟩, fromIpv4, same⟩ := bind_eq_ok.mp written
            have type := (addrFromIpv4_type fromIpv4).1
            injection same with same
            have sameBytes : bytes = out.bytes :=
              congrArg (fun all => all.2.1) same
            rw [sameBytes] at type
            have isName := names.atype
            unfold atype at isName
            rw [List.getD_eq_getElem?_getD, type] at isName
            exact absurd isName (by decide)
        | some other =>
            obtain ⟨⟨res, bytes⟩, fromName, same⟩ := bind_eq_ok.mp written
            injection same with same
            have sameBytes : bytes = out.bytes :=
              congrArg (fun all => all.2.1) same
            rw [sameBytes] at fromName
            have sameOther := CString.eq_of_bytes
              (addrFromName_filled fromName names)
            rw [sameOther]
            exact ⟨next, rfl⟩
  · rintro ⟨host, short⟩ uAddr prior address
    obtain ⟨after, looked⟩ := (maps.lookup_iff holds ip).mpr host
    obtain ⟨out, written, names⟩ := addrFromName_names prior port short
    refine ⟨out, after, ?_, names⟩
    rw [addrFromLwip_v4 address, looked]
    dsimp only
    rw [written, ok_bind]

end HevMappedDNS

open HevMappedDNS

/-- A request that is answered: each answer goes with a question for an
address, and while its name is still cached it arrives at every port if and
only if it has at most 255 bytes and its address gives its index back. -/
theorem mapped_name_arrives {net mask : BitVec 32} {max : Int}
    {cache : HevMappedDNS}
    {outcomes : Nat → HevMappedDNS → CString → FindOutcome}
    {req res : List UInt8} {handled : Handled} (positive : 1 ≤ max)
    (reached : (system net mask max).Reachable cache)
    (size : req.length ≤ HevMappedDNS.udpBufSize)
    (returned : handle outcomes cache req res = .ok (some handled))
    (answers : handled.res ≠ -1) :
    ∃ (off : Nat) (asked : List Question) (rest : List UInt8)
        (message : Message),
      handled.res = off ∧ handled.sb.take off = message.encode ∧
      parseMany (parseQuestion 255) (questionCount req) (req.drop 12) =
        some (asked, rest) ∧
      message.questions = asked ∧
      ((∀ question ∈ asked, ∀ label ∈ question.name.labels, 0 ∉ label) →
        ∀ record ∈ message.answers,
          ∃ place ∈ askedAt 12 asked, ∃ (name : CString) (index : Nat),
            IsAIn place.2 ∧ name.bytes = dotted place.2.name.labels ∧
            record =
              { name := ⟨[], some (BitVec.ofNat 14 place.1)⟩
                rtype := 1
                rclass := 1
                ttl := 1
                rdata := bigEndian 4 (net ||| BitVec.ofInt 32 index).toNat } ∧
            (∃ found labels, StillCached net mask max name index found ∧
              (system net mask max).Run found labels handled.cache) ∧
            ∀ later, StillCached net mask max name index later →
              ∀ port, later.Arrives (net ||| BitVec.ofInt 32 index) port
                  name.bytes ↔
                name.bytes.length ≤ 255 ∧
                ((net ||| BitVec.ofInt 32 index) &&& ~~~mask).toInt = index) := by
  have small : req.length ≤ res.length → req.length < 2 ^ 14 := fun _ =>
    Nat.lt_of_le_of_lt size (by decide)
  rcases handle_answered (fun never : False => never.elim) (fun _ => positive)
    reached small with ⟨stuck, _⟩ | ⟨same, sameEq, outcome⟩
  · rw [returned] at stuck
    cases stuck
  rw [returned] at sameEq
  cases sameEq
  rcases outcome with failed | ⟨id, fl, asked, entries, off, answered⟩
  · exact absurd failed answers
  obtain ⟨rest, content⟩ := answered.content
  have parsed : parseMany (parseQuestion 255) (questionCount req)
      (req.drop 12) = some (asked, rest) := by
    rw [content, ← answered.count]
    exact parseQuestions_encode answered.fits rest
  refine ⟨off, asked, rest, _, answered.res, answered.message, parsed, rfl, ?_⟩
  intro noZero record isAnswer
  obtain ⟨entry, isEntry, rfl⟩ := List.mem_map.mp isAnswer
  have placed := answered.placed.subset
    (List.mem_map_of_mem (f := fun entry => (entry.offset, entry.asked)) isEntry)
  have member := List.mem_of_mem_filter placed
  have isAsked : entry.asked ∈ asked := by
    rw [← askedAt_snd 12 asked]
    exact List.mem_map_of_mem (f := Prod.snd) member
  obtain ⟨found, recency, labels, given⟩ := answered.given entry isEntry
  refine ⟨_, member, entry.name, entry.index,
    of_decide_eq_true (List.mem_filter.mp placed).2,
    answered.named entry isEntry (noZero entry.asked isAsked), rfl, ?_, ?_⟩
  · obtain ⟨node, inTree, named, _⟩ := given.maps
    exact ⟨found, labels, ⟨found, [], given.reached, given.maps, .nil found, node,
      inTree, named⟩, given.run⟩
  · intro later still port
    obtain ⟨laterReached, maps⟩ := still.maps positive
    obtain ⟨_, _, ⟨rfl, rfl, rfl⟩, order, holds, _⟩ :=
      tracks_of_reachable positive laterReached
    exact (maps.arrives_iff holds _ port).trans and_comm

/-- In 198.18.0.0/15 the name www.a of an answered request arrives at every
port. -/
theorem mapped_name_arrives_www :
    ∃ (found : HevMappedDNS) (name : CString) (index : Nat),
      name.bytes = [119, 119, 119, 46, 97] ∧
      StillCached 0xC6120000#32 0xFFFE0000#32 2 name index found ∧
      ∀ port, found.Arrives (0xC6120000#32 ||| BitVec.ofInt 32 index) port
        name.bytes := by
  have prefixMask : IsPrefix 0xFFFE0000#32 := ⟨17, by decide, by decide⟩
  let req : List UInt8 := [0x12, 0x34, 1, 0, 0, 1, 0, 0, 0, 0, 0, 0, 3, 119, 119,
    119, 1, 97, 0, 0, 1, 0, 1]
  let question : Question := ⟨⟨[[119, 119, 119], [97]], none⟩, 1, 1⟩
  have evaluated : ((construct 0xC6120000#32 0xFFFE0000#32 2).bind fun cache =>
      (handle (fun _ => unbalanced) cache req
        (List.replicate 64 0)).toOption.join.map fun handled =>
          (handled.res, (handled.sb.drop 6).take 2)) = some (39, [0, 1]) := by
    decide +kernel
  obtain ⟨cache, constructed, mapped⟩ := Option.bind_eq_some_iff.mp evaluated
  obtain ⟨handled, joined, seen⟩ := Option.map_eq_some_iff.mp mapped
  have returned : handle (fun _ => unbalanced) cache req (List.replicate 64 0) =
      .ok (some handled) := by
    obtain ⟨result, resultEq⟩ := handle_safe (fun _ => unbalanced) cache req
      (List.replicate 64 0)
    rw [resultEq] at joined ⊢
    exact congrArg _ joined
  obtain ⟨res, count⟩ := Prod.mk.inj seen
  have reached : (system 0xC6120000#32 0xFFFE0000#32 2).Reachable cache :=
    ⟨cache, [], constructed, .nil cache⟩
  obtain ⟨off, asked, rest, message, offEq, encoded, parsed, _, answers⟩ :=
    mapped_name_arrives (by decide) reached (by decide) returned
      (by rw [res]; decide)
  have request : parseMany (parseQuestion 255) (questionCount req)
      (req.drop 12) = some ([question], []) := by decide +kernel
  rw [request] at parsed
  cases parsed
  have off39 : off = 39 := by omega
  subst off39
  have counted : bigEndian 2 message.answers.length = [0, 1] := by
    have field : (message.encode.drop 6).take 2 =
        bigEndian 2 message.answers.length := rfl
    rw [← field, ← encoded, List.drop_take, List.take_take]
    exact count
  obtain ⟨record, others, isAnswer⟩ : ∃ record others,
      message.answers = record :: others := by
    apply List.exists_cons_of_ne_nil
    intro none
    rw [none] at counted
    exact absurd counted (by decide)
  have noZero : ∀ asked ∈ [question], ∀ label ∈ asked.name.labels,
      0 ∉ label := by decide
  obtain ⟨place, isPlace, name, index, _, named, _, ⟨found, _, still, _⟩,
    arrives⟩ := answers noZero record
      (by rw [isAnswer]; exact List.mem_cons_self)
  have isQuestion : place = (12, question) := List.mem_singleton.mp isPlace
  rw [isQuestion] at named
  have host := @host_of_address 0xC6120000#32 0xFFFE0000#32 2 index prefixMask
    (by decide) (by decide) (still.index_lt (by decide))
  have short : name.bytes.length ≤ 255 := by
    rw [named]
    decide
  exact ⟨found, name, index, named, still, fun port =>
    (arrives found still port).mpr ⟨short, host⟩⟩

/-! ## A name that is too long -/

/-- Five labels of 63 bytes each. -/
def longQuestion : Question :=
  ⟨⟨List.replicate 5 (List.replicate 63 97), none⟩, 1, 1⟩

def longRequest : List UInt8 :=
  [0x12, 0x34, 1, 0, 0, 1, 0, 0, 0, 0, 0, 0] ++ longQuestion.encode

/-- A request for a name of 319 bytes is answered, the name is still cached
right after it, and it arrives at no port. -/
theorem mapped_name_too_long :
    ∃ (cache : HevMappedDNS) (handled : Handled) (name : CString) (index : Nat),
      construct 0xC6120000#32 0xFFFE0000#32 2 = some cache ∧
      handle (fun _ => unbalanced) cache longRequest (List.replicate 400 0) =
        .ok (some handled) ∧
      handled.res = 353 ∧
      name.bytes = dotted longQuestion.name.labels ∧
      StillCached 0xC6120000#32 0xFFFE0000#32 2 name index handled.cache ∧
      ∀ port, ¬handled.cache.Arrives (0xC6120000#32 ||| BitVec.ofInt 32 index)
        port name.bytes := by
  have evaluated : ((construct 0xC6120000#32 0xFFFE0000#32 2).bind fun cache =>
      (handle (fun _ => unbalanced) cache longRequest
        (List.replicate 400 0)).toOption.join.map Handled.res) = some 353 := by
    decide +kernel
  obtain ⟨cache, constructed, mapped⟩ := Option.bind_eq_some_iff.mp evaluated
  have reached : (system 0xC6120000#32 0xFFFE0000#32 2).Reachable cache :=
    ⟨cache, [], constructed, .nil cache⟩
  rcases @handle_answered True _ _ _ (fun _ => unbalanced) cache longRequest
    (List.replicate 400 0) (fun _ _ => unbalanced_allocates)
    (fun _ => by decide) reached (fun _ => by decide +kernel) with
    ⟨_, unserved⟩ | ⟨handled, returned, outcome⟩
  · exact absurd trivial unserved
  have res : handled.res = 353 := by
    rw [returned] at mapped
    exact Option.some.inj mapped
  rcases outcome with failed | ⟨_, _, asked, entries, off, answered⟩
  · rw [res] at failed
    cases failed
  obtain ⟨rest, content⟩ := answered.content
  have parsed := parseQuestions_encode answered.fits rest
  have request : parseMany (parseQuestion 255) (questionCount longRequest)
      (longRequest.drop 12) = some ([longQuestion], []) := by decide +kernel
  rw [answered.count, ← content, request] at parsed
  cases parsed
  have one : entries.length = 1 := answered.complete trivial
  obtain ⟨entry, rfl⟩ := List.length_eq_one_iff.mp one
  have isEntry : entry ∈ [entry] := List.mem_cons_self
  have asked : entry.asked = longQuestion := by
    have placed := answered.placed_eq trivial
    exact congrArg Prod.snd (List.cons.inj placed).1
  have named := answered.named entry isEntry
  rw [asked] at named
  have nameBytes := named (by decide)
  have given := answered.given entry isEntry
  have maps := given.maps (by decide) (by decide)
  obtain ⟨node, inTree, nodeNamed, _⟩ := id maps
  refine ⟨cache, handled, entry.name, entry.index, constructed, returned, res,
    nameBytes, ⟨handled.cache, [], answered.reached, maps, .nil _, node, inTree,
      nodeNamed⟩, ?_⟩
  intro port arrives
  have short := arrives.length_le
  rw [nameBytes] at short
  exact absurd short (by decide +kernel)

end ProxyVPN
