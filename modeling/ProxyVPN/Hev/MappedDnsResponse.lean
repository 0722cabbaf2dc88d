/-
Module: ProxyVPN.Hev.MappedDnsResponse
Purpose: Responses of the mapped DNS responder are DNS messages that answer
  each question for an address with an address that is looked up as the name of
  the question.
Trusted boundary: human-reviewed spec
Main exports: HevMappedDNS.Allocates, HevMappedDNS.Entry,
  HevMappedDNS.Progress, HevMappedDNS.Responds, mapped_dns_response
-/
import ProxyVPN.Hev.MappedDnsAnswers
import ProxyVPN.Hev.MappedDnsCache

namespace ProxyVPN

open CheckedArray DnsMessage SearchTree Transition Recency

namespace HevMappedDNS

/-! ## Searches that succeed -/

/-- The searches of a run get memory for new names, and the trees that the
rebalancing leaves hold the nodes in order. -/
def Allocates (outcome : HevMappedDNS → CString → FindOutcome) : Prop :=
  ∀ cache order name, cache.Holds order →
    search cache.key name.bytes cache.tree = none →
    ∃ node, (outcome cache name).node = some node ∧
      node ∉ cache.tree.toList ∧
      (outcome cache name).inserted.toList =
        (link cache.key name.bytes node cache.tree).toList ∧
      (¬(cache.use : Int) < cache.max → ∀ first, order.head? = some first →
        (outcome cache name).erased.toList =
          (outcome cache name).inserted.toList.erase first)

/-- Such a search returns an index. -/
theorem Allocates.find {outcome : HevMappedDNS → CString → FindOutcome}
    (allocates : Allocates outcome) {cache : HevMappedDNS} {order : List Nat}
    (holds : cache.Holds order) (positive : 1 ≤ cache.max) (name : CString) :
    ∃ index next,
      cache.find name (outcome cache name) = some (((index : Nat) : Int), next) := by
  unfold HevMappedDNS.find
  cases hit : search cache.key name.bytes cache.tree with
  | some node => exact ⟨_, _, rfl⟩
  | none =>
      obtain ⟨node, nodeEq, freshTree, kept, erased⟩ :=
        allocates cache order name holds hit
      have fresh : node ∉ order := fun member =>
        freshTree (holds.threaded.tree.mem_iff.mpr member)
      have attached :=
        holds.threaded.attach fresh (holds.threaded.absent hit) kept
      rw [nodeEq]
      dsimp only
      rw [if_pos ⟨freshTree, kept⟩]
      by_cases room : (cache.use : Int) < cache.max
      · exact ⟨cache.use, _, if_pos room⟩
      · cases order with
        | nil =>
            have empty := holds.count
            rw [List.length_nil] at empty
            omega
        | cons first rest =>
            have head := attached.list.head
            rw [List.cons_append, List.head?_cons] at head
            have full : ¬((cache.attach name node
                (outcome cache name).inserted).use : Int) <
              (cache.attach name node (outcome cache name).inserted).max := room
            rw [if_neg full, head]
            dsimp only
            rw [if_pos (erased room first rfl)]
            exact ⟨_, _, rfl⟩

/-- The name got the index, and fewer than `count` searches came since. -/
structure GivenAt (net mask : BitVec 32) (max : Int) (cache : HevMappedDNS)
    (name : CString) (index count : Nat) (found : HevMappedDNS)
    (recency : List CString) (labels : List Label) : Prop where
  reached : (system net mask max).Reachable found
  distinct : recency.Nodup
  tracks : Tracks net mask max found (access max.toNat recency name)
  maps : found.Maps name index
  run : (system net mask max).Run found labels cache
  few : labels.length < count

def Given (net mask : BitVec 32) (max : Int) (cache : HevMappedDNS)
    (name : CString) (index count : Nat) : Prop :=
  ∃ found recency labels,
    GivenAt net mask max cache name index count found recency labels

theorem Given.succ {net mask : BitVec 32} {max : Int} {cache : HevMappedDNS}
    {name : CString} {index count : Nat}
    (given : Given net mask max cache name index count) :
    Given net mask max cache name index (count + 1) := by
  obtain ⟨found, recency, labels, given⟩ := given
  exact ⟨found, recency, labels,
    { given with few := Nat.lt_succ_of_lt given.few }⟩

theorem Given.step {net mask : BitVec 32} {max : Int}
    {cache next : HevMappedDNS} {name : CString} {index count : Nat}
    {label : Label} (given : Given net mask max cache name index count)
    (taken : (system net mask max).step cache label next) :
    Given net mask max next name index (count + 1) := by
  obtain ⟨found, recency, labels, given⟩ := given
  refine ⟨found, recency, labels ++ [label],
    { given with run := given.run.snoc taken, few := ?_ }⟩
  rw [List.length_append, List.length_singleton]
  exact Nat.succ_lt_succ given.few

theorem Given.mono {net mask : BitVec 32} {max : Int} {cache : HevMappedDNS}
    {name : CString} {index count more : Nat}
    (given : Given net mask max cache name index count) (le : count ≤ more) :
    Given net mask max cache name index more := by
  obtain ⟨found, recency, labels, given⟩ := given
  exact ⟨found, recency, labels,
    { given with few := Nat.lt_of_lt_of_le given.few le }⟩

/-- A name that was given an index less than `max` searches ago is still
under it. -/
theorem Given.maps {net mask : BitVec 32} {max : Int} {cache : HevMappedDNS}
    {name : CString} {index count : Nat} (positive : 1 ≤ max)
    (given : Given net mask max cache name index count)
    (room : (count : Int) ≤ max) : cache.Maps name index := by
  obtain ⟨found, recency, labels, given⟩ := given
  have few := given.few
  have names : (others name labels).card ≤ labels.length := by
    calc (others name labels).card
        ≤ ((labels.filterMap Label.accessed).filter (· ≠ name)).length :=
          List.toFinset_card_le _
      _ ≤ (labels.filterMap Label.accessed).length := List.length_filter_le _ _
      _ ≤ labels.length := List.length_filterMap_le _ _
  exact given.maps.run positive given.distinct given.tracks given.run (by omega)

/-- A search that returned an index gave it to the name. -/
theorem find_given {net mask : BitVec 32} {max : Int}
    {cache next : HevMappedDNS} {name : CString} {outcome : FindOutcome}
    {index : Nat} (positive : 1 ≤ max)
    (reached : (system net mask max).Reachable cache)
    (found : cache.find name outcome = some ((index : Int), next)) :
    (system net mask max).step cache (.find name outcome index) next ∧
      Given net mask max next name index 1 := by
  obtain ⟨recency, distinct, ⟨rfl, rfl, rfl⟩, order, holds, rfl⟩ :=
    tracks_of_reachable positive reached
  have taken : exec cache (.find name outcome index) = some next := by
    unfold exec
    dsimp only
    rw [found]
    exact if_pos rfl
  rcases find_cases holds positive found with
    ⟨failed, _⟩ | ⟨_, later, accesses⟩
  · omega
  · obtain ⟨node, inLater, named, indexed⟩ := accesses.mapped
    refine ⟨taken, next, order.map cache.name, [], ?_⟩
    constructor
    · exact reached.step taken
    · exact distinct
    · exact ⟨accesses.config, later, accesses.holds, accesses.recency⟩
    · exact ⟨node, accesses.holds.threaded.tree.mem_iff.mpr inLater, named,
        indexed⟩
    · exact .nil next
    · exact Nat.one_pos

/-! ## The walk over the questions -/

/-- The questions with the offsets of their names. -/
def askedAt : Nat → List Question → List (Nat × Question)
  | _, [] => []
  | off, asked :: others =>
      (off, asked) :: askedAt (off + asked.encode.length) others

theorem askedAt_concat (off : Nat) (before : List Question) (last : Question) :
    askedAt off (before ++ [last]) =
      askedAt off before ++
        [(off + (before.flatMap Question.encode).length, last)] := by
  induction before generalizing off with
  | nil => rfl
  | cons first before inductionHypothesis =>
      rw [List.cons_append, askedAt, inductionHypothesis, askedAt,
        List.flatMap_cons, List.length_append, Nat.add_assoc, List.cons_append]

/-- A question for an address, the name that was looked for, and the index it
got. -/
structure Entry where
  offset : Nat
  asked : Question
  name : CString
  index : Nat

/-- The address of an entry. -/
def Entry.address (entry : Entry) (net : BitVec 32) : BitVec 32 :=
  net ||| BitVec.ofInt 32 entry.index

/-- The walk is behind the questions `asked`. -/
structure Walked (body : List UInt8) (state : Questions)
    (asked : List Question) : Prop where
  shape : state.Shape asked.length
  off : state.off = 12 + (asked.flatMap Question.encode).length
  content : body = asked.flatMap Question.encode ++ state.rb.drop state.off
  fits : ∀ question ∈ asked, question.name.Fits 255

/-- What the walk has kept of the questions `asked`: all that ask for an
address, where all searches are `served`. -/
structure Kept (served : Prop) (net : BitVec 32) (body : List UInt8)
    (state : Questions) (asked : List Question) (entries : List Entry) :
    Prop where
  walked : Walked body state asked
  placed : (entries.map fun entry => (entry.offset, entry.asked)).Sublist
    ((askedAt 12 asked).filter fun place => IsAIn place.2)
  complete : served → entries.length =
    ((askedAt 12 asked).filter fun place => IsAIn place.2).length
  named : ∀ entry ∈ entries,
    (∀ label ∈ entry.asked.name.labels, 0 ∉ label) →
      entry.name.bytes = dotted entry.asked.name.labels
  ipn : state.ipn = entries.length
  ipo : state.ipo.take state.ipn = entries.map Entry.offset
  ips : state.ips.take state.ipn =
    entries.map fun entry => entry.address net

/-- What the walk has done when it is behind the questions `asked`. -/
structure Progress (served : Prop) (net mask : BitVec 32) (max : Int)
    (body : List UInt8) (state : Questions) (asked : List Question)
    (entries : List Entry) : Prop where
  kept : Kept served net body state asked entries
  reached : (system net mask max).Reachable state.cache
  given : ∀ entry ∈ entries,
    Given net mask max state.cache entry.name entry.index asked.length

theorem take_set_succ {α : Type} {array : List α} {index : Nat} (value : α)
    (inside : index < array.length) :
    (array.set index value).take (index + 1) = array.take index ++ [value] := by
  have size : index < (array.set index value).length := by
    rwa [List.length_set]
  rw [List.take_succ_eq_append_getElem size, List.getElem_set_self,
    List.take_set_of_le (Nat.le_refl index)]

theorem Walked.behind {body : List UInt8} {state : Questions}
    {asked : List Question} {question : Question} {read tail : List UInt8}
    (walked : Walked body state asked)
    (behind : Asked (state.rb.take state.off) (state.rb.drop state.off) question
      read tail) :
    Walked body (state.behind read tail) (asked ++ [question]) := by
  have sections : (asked ++ [question]).flatMap Question.encode =
      asked.flatMap Question.encode ++ question.encode := by
    rw [List.flatMap_append, List.flatMap_cons, List.flatMap_nil,
      List.append_nil]
  constructor
  · rw [List.length_append, List.length_singleton]
    exact walked.shape.behind read tail
  · change read.length = _
    rw [behind.read, List.length_take_of_le walked.shape.off, walked.off,
      sections, List.length_append, Nat.add_assoc]
  · change body = _ ++ (read ++ tail).drop read.length
    rw [walked.content, behind.back, sections, List.drop_left' rfl,
      List.append_assoc]
  · intro one member
    rcases List.mem_append.mp member with old | new
    · exact walked.fits one old
    · rw [List.mem_singleton.mp new]
      exact behind.fits

/-- One more question that is not looked for, or whose search fails. -/
theorem Kept.passes {served : Prop} {net : BitVec 32} {body : List UInt8}
    {state : Questions} {asked : List Question} {entries : List Entry}
    {question : Question} {read tail : List UInt8}
    (kept : Kept served net body state asked entries)
    (behind : Asked (state.rb.take state.off) (state.rb.drop state.off) question
      read tail) (passed : IsAIn question → ¬served) :
    Kept served net body (state.behind read tail) (asked ++ [question])
      entries := by
  constructor
  · exact kept.walked.behind behind
  · rw [askedAt_concat, List.filter_append]
    exact List.sublist_append_of_sublist_left kept.placed
  · intro all
    have other : ¬IsAIn question := fun isAIn => passed isAIn all
    rw [askedAt_concat, List.filter_append,
      List.filter_cons_of_neg (by simpa using other), List.filter_nil,
      List.append_nil]
    exact kept.complete all
  · exact kept.named
  · exact kept.ipn
  · change (state.ipo.set state.ipn state.off).take state.ipn = _
    rw [List.take_set_of_le (Nat.le_refl _)]
    exact kept.ipo
  · exact kept.ips

theorem Progress.passes {served : Prop} {net mask : BitVec 32} {max : Int}
    {body : List UInt8} {state : Questions} {asked : List Question}
    {entries : List Entry} {question : Question} {read tail : List UInt8}
    (progress : Progress served net mask max body state asked entries)
    (behind : Asked (state.rb.take state.off) (state.rb.drop state.off) question
      read tail) (passed : IsAIn question → ¬served) :
    Progress served net mask max body (state.behind read tail)
      (asked ++ [question]) entries := by
  refine ⟨progress.kept.passes behind passed, progress.reached, ?_⟩
  intro entry member
  rw [List.length_append, List.length_singleton]
  exact (progress.given entry member).succ

/-- The variables behind a question whose name got an index. -/
def Questions.gave (state : Questions) (read tail : List UInt8) (index : Nat)
    (next : HevMappedDNS) : Questions :=
  { state.behind read tail with
    ips := state.ips.set state.ipn (state.cache.net ||| BitVec.ofInt 32 index)
    ipn := state.ipn + 1
    cache := next }

theorem Questions.found_gave (state : Questions) (read tail : List UInt8)
    (index : Nat) (next : HevMappedDNS) :
    (state.behind read tail).found (some ((index : Int), next)) =
      some (state.gave read tail index next, true) := by
  unfold Questions.found
  exact if_pos (Int.natCast_nonneg index)

/-- One more question whose name got an index. -/
theorem Kept.gave {served : Prop} {net : BitVec 32} {body : List UInt8}
    {state : Questions} {asked : List Question} {entries : List Entry}
    {question : Question} {read tail : List UInt8} {name : CString}
    (index : Nat) (next : HevMappedDNS)
    (kept : Kept served net body state asked entries)
    (network : state.cache.net = net) (few : asked.length < 32)
    (behind : Asked (state.rb.take state.off) (state.rb.drop state.off) question
      read tail) (isAIn : IsAIn question)
    (named : (∀ label ∈ question.name.labels, 0 ∉ label) →
      name.bytes = dotted question.name.labels) :
    Kept served net body (state.gave read tail index next)
      (asked ++ [question])
      (entries ++ [⟨state.off, question, name, index⟩]) := by
  have shape := kept.walked.shape
  have ipn := shape.ipn
  have walked := kept.walked.behind behind
  have places : ((askedAt 12 (asked ++ [question])).filter
      fun place => IsAIn place.2) =
        ((askedAt 12 asked).filter fun place => IsAIn place.2) ++
          [(state.off, question)] := by
    rw [askedAt_concat, List.filter_append,
      List.filter_cons_of_pos (by simpa using isAIn), List.filter_nil,
      ← kept.walked.off]
  constructor
  · refine ⟨⟨walked.shape.off, ?_, walked.shape.ipo, ?_⟩, walked.off,
      walked.content, walked.fits⟩
    · exact List.length_set.trans shape.ips
    · rw [List.length_append, List.length_singleton]
      exact Nat.succ_le_succ ipn
  · rw [places, List.map_append]
    exact kept.placed.append (List.Sublist.refl _)
  · intro all
    rw [places, List.length_append, List.length_append, kept.complete all]
    rfl
  · intro entry member
    rcases List.mem_append.mp member with old | new
    · exact kept.named entry old
    · rw [List.mem_singleton.mp new]
      exact named
  · rw [List.length_append, ← kept.ipn]
    rfl
  · change (state.ipo.set state.ipn state.off).take (state.ipn + 1) = _
    rw [take_set_succ _ (by rw [shape.ipo]; omega), kept.ipo, List.map_append]
    rfl
  · change (state.ips.set state.ipn _).take (state.ipn + 1) = _
    rw [take_set_succ _ (by rw [shape.ips]; omega), kept.ips, List.map_append,
      network]
    rfl

theorem Progress.gave {served : Prop} {net mask : BitVec 32} {max : Int}
    {body : List UInt8} {state : Questions} {asked : List Question}
    {entries : List Entry} {question : Question} {read tail : List UInt8} {name : CString}
    {outcome : FindOutcome} {index : Nat} {next : HevMappedDNS}
    (positive : 1 ≤ max)
    (progress : Progress served net mask max body state asked entries)
    (few : asked.length < 32)
    (behind : Asked (state.rb.take state.off) (state.rb.drop state.off) question
      read tail) (isAIn : IsAIn question)
    (named : (∀ label ∈ question.name.labels, 0 ∉ label) →
      name.bytes = dotted question.name.labels)
    (found : state.cache.find name outcome = some ((index : Int), next)) :
    Progress served net mask max body (state.gave read tail index next)
      (asked ++ [question])
      (entries ++ [⟨state.off, question, name, index⟩]) := by
  obtain ⟨_, _, ⟨network, _, _⟩, _⟩ :=
    tracks_of_reachable positive progress.reached
  obtain ⟨taken, given⟩ := find_given positive progress.reached found
  constructor
  · exact progress.kept.gave index next network few behind isAIn named
  · exact progress.reached.step taken
  · intro entry member
    rw [List.length_append, List.length_singleton]
    rcases List.mem_append.mp member with old | new
    · exact (progress.given entry old).step taken
    · rw [List.mem_singleton.mp new]
      exact given.mono (Nat.le_add_left 1 asked.length)

/-- One round gives up, or makes progress by one question; it has a result
where its search is served. -/
theorem Progress.question {served : Prop} {net mask : BitVec 32} {max : Int}
    {body : List UInt8} {state : Questions} {asked : List Question}
    {entries : List Entry} {outcome : HevMappedDNS → CString → FindOutcome}
    (positive : 1 ≤ max) (allocates : served → Allocates outcome)
    (progress : Progress served net mask max body state asked entries)
    (few : asked.length < 32) :
    (∃ stopped, HevMappedDNS.question outcome state =
      .ok (some (stopped, false))) ∨
    (HevMappedDNS.question outcome state = .ok none ∧ ¬served) ∨
    ∃ next one entriesNext,
      HevMappedDNS.question outcome state = .ok (some (next, true)) ∧
      Progress served net mask max body next (asked ++ [one]) entriesNext := by
  have cases := progress.kept.walked.shape.outcome few outcome
  generalize HevMappedDNS.question outcome state = result at cases ⊢
  cases cases with
  | stops stopped => exact .inl ⟨stopped, rfl⟩
  | passes behind other =>
      exact .inr (.inr ⟨_, _, entries, rfl,
        progress.passes behind fun isAIn => absurd isAIn other⟩)
  | @looks _ _ _ name behind isAIn named =>
      right
      obtain ⟨_, _, ⟨_, _, capacity⟩, order, holds, _⟩ :=
        tracks_of_reachable positive progress.reached
      rw [← capacity] at positive
      have serves : served → ∃ index next,
          state.cache.find name (outcome state.cache name) =
            some (((index : Nat) : Int), next) :=
        fun all => (allocates all).find holds positive name
      cases found : state.cache.find name (outcome state.cache name) with
      | none =>
          left
          refine ⟨rfl, ?_⟩
          intro all
          obtain ⟨_, _, hit⟩ := serves all
          rw [found] at hit
          cases hit
      | some pair =>
          obtain ⟨index, next⟩ := pair
          right
          rcases find_cases holds positive found with
            ⟨rfl, rfl⟩ | ⟨nonnegative, _⟩
          · refine ⟨_, _, entries, rfl, progress.passes behind ?_⟩
            intro _ all
            obtain ⟨_, _, hit⟩ := serves all
            rw [found] at hit
            cases hit
          · obtain ⟨index, rfl⟩ := Int.eq_ofNat_of_zero_le nonnegative
            rw [Questions.found_gave]
            rw [capacity] at positive
            exact ⟨_, _, _, rfl,
              progress.gave positive few behind isAIn named found⟩

/-- The loop gives up, or gets behind all questions. -/
theorem questions_progress {served : Prop} {net mask : BitVec 32} {max : Int}
    {body : List UInt8}
    {outcomes : Nat → HevMappedDNS → CString → FindOutcome}
    (positive : 1 ≤ max) (allocates : served → ∀ i, Allocates (outcomes i))
    (left : Nat) :
    ∀ (i : Nat) (state : Questions) (asked : List Question)
      (entries : List Entry),
      Progress served net mask max body state asked entries →
      asked.length + left ≤ 32 →
      (∃ stopped, questions outcomes left i state =
        .ok (some (stopped, false))) ∨
      (questions outcomes left i state = .ok none ∧ ¬served) ∨
      ∃ final others entriesFinal, others.length = left ∧
        questions outcomes left i state = .ok (some (final, true)) ∧
        Progress served net mask max body final (asked ++ others)
          entriesFinal := by
  induction left with
  | zero =>
      intro i state asked entries progress _
      refine .inr (.inr ⟨state, [], entries, rfl, rfl, ?_⟩)
      rwa [List.append_nil]
  | succ left inductionHypothesis =>
      intro i state asked entries progress room
      unfold questions
      rcases progress.question positive (fun all => allocates all i)
        (by omega) with
        ⟨stopped, stops⟩ | ⟨stuck, unserved⟩ | ⟨next, one, entriesNext, step,
          further⟩
      · rw [stops, ok_bind]
        exact .inl ⟨stopped, rfl⟩
      · rw [stuck, ok_bind]
        exact .inr (.inl ⟨rfl, unserved⟩)
      · rw [step, ok_bind]
        dsimp only
        rcases inductionHypothesis (i + 1) next (asked ++ [one]) entriesNext
          further (by rw [List.length_append, List.length_singleton]; omega) with
          stops | stuck | ⟨final, others, entriesFinal, count, rest, whole⟩
        · exact .inl stops
        · exact .inr (.inl stuck)
        · rw [List.append_assoc] at whole
          exact .inr (.inr ⟨final, one :: others, entriesFinal,
            congrArg Nat.succ count, rest, whole⟩)

/-! ## The response -/

/-- The record that answers an entry. -/
def Entry.record (entry : Entry) (net : BitVec 32) : Record :=
  { name := ⟨[], some (BitVec.ofNat 14 entry.offset)⟩
    rtype := 1
    rclass := 1
    ttl := 1
    rdata := bigEndian 4 (entry.address net).toNat }

theorem u16Bytes_eq (v : Nat) : u16Bytes v = bigEndian 2 v := rfl

theorem u32Bytes_eq (v : BitVec 32) : u32Bytes v = bigEndian 4 v.toNat := by
  have bytes : bigEndian 4 v.toNat =
      [UInt8.ofNat (v.toNat / 256 / 256 / 256),
        UInt8.ofNat (v.toNat / 256 / 256), UInt8.ofNat (v.toNat / 256),
        UInt8.ofNat v.toNat] := rfl
  have high : v.toNat / 256 / 256 / 256 = v.toNat / 2 ^ 24 := by omega
  have middle : v.toNat / 256 / 256 = v.toNat / 2 ^ 16 := by omega
  rw [bytes, high, middle]
  rfl

theorem answerBytes_eq (entry : Entry) (net : BitVec 32)
    (small : entry.offset < 2 ^ 14) :
    answerBytes entry.offset (entry.address net) =
      (entry.record net).encode := by
  have pointer : 0xc000 ||| entry.offset =
      0xC000 + (BitVec.ofNat 14 entry.offset).toNat := by
    rw [BitVec.toNat_ofNat, Nat.mod_eq_of_lt small]
    exact (Nat.two_pow_add_eq_or_of_lt small 3).symm
  unfold answerBytes Record.encode
  rw [pointer, u32Bytes_eq, u32Bytes_eq]
  rfl

/-- The flags with the bit of a response, and recursion available where it was
desired. -/
def responseFlags (fl : BitVec 16) : BitVec 16 :=
  fl ||| 0x8000#16 ||| (fl &&& 0x100#16) >>> 1

theorem msb_responseFlags (fl : BitVec 16) : (responseFlags fl).msb = true := by
  unfold responseFlags
  have bit : (0x8000#16).msb = true := by decide
  rw [BitVec.msb_or, BitVec.msb_or, bit, Bool.or_true, Bool.true_or]

/-- The message that the response holds. -/
def reply (id fl : BitVec 16) (net : BitVec 32) (asked : List Question)
    (entries : List Entry) : Message :=
  { id := id
    flags := responseFlags fl
    questions := asked
    answers := entries.map fun entry => entry.record net
    authorities := []
    additionals := [] }

/-- A question stands at its offset. -/
theorem mem_askedAt {off : Nat} {asked : List Question} {place : Nat × Question}
    (member : place ∈ askedAt off asked) :
    ∃ before after, asked = before ++ place.2 :: after ∧
      place.1 = off + (before.flatMap Question.encode).length := by
  induction asked generalizing off with
  | nil => cases member
  | cons first others inductionHypothesis =>
      rcases List.mem_cons.mp member with rfl | later
      · exact ⟨[], others, rfl, rfl⟩
      · obtain ⟨before, after, split, place⟩ := inductionHypothesis later
        refine ⟨first :: before, after, congrArg (first :: ·) split, ?_⟩
        rw [place, List.flatMap_cons, List.length_append, Nat.add_assoc]

theorem Kept.offset_le {served : Prop} {net : BitVec 32} {body : List UInt8}
    {walk : Questions} {asked : List Question} {entries : List Entry}
    (kept : Kept served net body walk asked entries)
    {entry : Entry} (member : entry ∈ entries) :
    entry.offset ≤ 12 + body.length := by
  have placed := kept.placed.subset
    (List.mem_map_of_mem (f := fun entry => (entry.offset, entry.asked)) member)
  obtain ⟨before, after, split, offset⟩ :=
    mem_askedAt (List.mem_of_mem_filter placed)
  have size := congrArg List.length kept.walked.content
  rw [split, List.flatMap_append, List.length_append, List.length_append] at size
  dsimp only at offset
  omega

/-- The answers of the entries. -/
theorem answers_encode {net : BitVec 32} {entries : List Entry}
    (small : ∀ entry ∈ entries, entry.offset < 2 ^ 14) :
    (entries.map fun entry => (entry.offset, entry.address net)).flatMap
        (fun one => answerBytes one.1 one.2) =
      (entries.map fun entry => entry.record net).flatMap Record.encode := by
  rw [List.flatMap_map, List.flatMap_map]
  apply List.flatMap_congr
  intro entry member
  exact answerBytes_eq entry net (small entry member)

theorem length_answers (places : List (Nat × BitVec 32)) :
    (places.flatMap fun one => answerBytes one.1 one.2).length =
      16 * places.length := by
  induction places with
  | nil => rfl
  | cons first places inductionHypothesis =>
      have one : (answerBytes first.1 first.2).length = 16 := rfl
      rw [List.flatMap_cons, List.length_append, inductionHypothesis, one,
        List.length_cons, Nat.mul_succ, Nat.add_comm]

/-- Where the walk gives up, so does the function. -/
theorem respond_stops {outcomes : Nat → HevMappedDNS → CString → FindOutcome}
    {cache : HevMappedDNS} {rb : List UInt8} {qd : Nat} {stopped : Questions}
    (stops : questions outcomes qd 0 (begun cache rb) =
      .ok (some (stopped, false))) (fl : Nat) (sb : List UInt8) :
    respond outcomes cache qd fl rb sb =
      .ok (some ⟨-1, stopped.rb, sb, stopped.cache⟩) := by
  unfold begun at stops
  unfold respond
  rw [stops, ok_bind]
  rfl

theorem respond_stuck {outcomes : Nat → HevMappedDNS → CString → FindOutcome}
    {cache : HevMappedDNS} {rb : List UInt8} {qd : Nat}
    (stuck : questions outcomes qd 0 (begun cache rb) = .ok none) (fl : Nat)
    (sb : List UInt8) : respond outcomes cache qd fl rb sb = .ok none := by
  unfold begun at stuck
  unfold respond
  rw [stuck, ok_bind]
  rfl

/-- Behind all questions the function returns -1, or leaves the message. -/
theorem respond_kept {served : Prop} {net : BitVec 32} {body : List UInt8} {walk : Questions}
    {asked : List Question} {entries : List Entry}
    {outcomes : Nat → HevMappedDNS → CString → FindOutcome}
    {cache : HevMappedDNS} {rb : List UInt8} {id : BitVec 16}
    {b0 b1 b2 b3 b4 b5 : UInt8} (fl : BitVec 16) (spare : List UInt8)
    (walked : questions outcomes asked.length 0 (begun cache rb) =
      .ok (some (walk, true)))
    (kept : Kept served net body walk asked entries)
    (small : 12 + body.length < 2 ^ 14)
    (idBytes : bigEndian 2 id.toNat = [b0, b1])
    (countBytes : bigEndian 2 asked.length = [b4, b5]) :
    ∃ handled, respond outcomes cache asked.length fl.toNat rb
        (b0 :: b1 :: b3 :: b2 :: b4 :: b5 :: 0 :: 0 :: 0 :: 0 :: 0 :: 0 ::
          (body ++ spare)) = .ok (some handled) ∧
      handled.cache = walk.cache ∧
      (handled.res = -1 ∨ ∃ off : Nat, handled.res = off ∧
        off ≤ 12 + (body.length + spare.length) ∧
        handled.sb.take off = (reply id fl net asked entries).encode) := by
  let places := entries.map fun entry => (entry.offset, entry.address net)
  let front := b0 :: b1 :: b3 :: b2 :: b4 :: b5 :: 0 :: 0 :: 0 :: 0 :: 0 :: 0 ::
    asked.flatMap Question.encode
  let back := walk.rb.drop walk.off ++ spare
  have placesLength : places.length = walk.ipn :=
    (List.length_map _).trans kept.ipn.symm
  have bytes : b0 :: b1 :: b3 :: b2 :: b4 :: b5 :: 0 :: 0 :: 0 :: 0 :: 0 :: 0 ::
      (body ++ spare) = front ++ back := by
    have content := kept.walked.content
    simp only [front, back, List.cons_append]
    rw [← List.append_assoc, ← content]
  have offEq : walk.off = front.length := by
    simp only [front, List.length_cons]
    rw [kept.walked.off]
    omega
  have size : front.length + back.length =
      12 + (body.length + spare.length) := by
    have total := congrArg List.length bytes
    simp only [List.length_append, List.length_cons] at total
    omega
  unfold begun at walked
  unfold respond
  rw [walked, ok_bind, bytes]
  dsimp only
  rw [offEq, ← placesLength]
  rcases answers_cases walk.ips walk.ipo places 0 front back
    (by rw [List.drop_zero, placesLength, kept.ipo, List.map_map]; rfl)
    (by rw [List.drop_zero, placesLength, kept.ips, List.map_map]; rfl) with
    ⟨sb, off, full⟩ | ⟨room, written⟩
  · rw [full, ok_bind]
    exact ⟨_, rfl, rfl, .inl rfl⟩
  · let rest := asked.flatMap Question.encode ++
      (places.flatMap (fun one => answerBytes one.1 one.2) ++
        back.drop (16 * places.length))
    have flags : writeU16 (front ++
        (places.flatMap (fun one => answerBytes one.1 one.2) ++
          back.drop (16 * places.length))) 2
        (fl.toNat ||| 0x8000 ||| (fl.toNat &&& 0x100) >>> 1) =
          .ok ([b0, b1] ++ (u16Bytes (responseFlags fl).toNat ++
            b4 :: b5 :: 0 :: 0 :: 0 :: 0 :: 0 :: 0 :: rest)) :=
      writeU16_append [b0, b1] b3 b2 _ _
    have count : writeU16 ([b0, b1] ++ (u16Bytes (responseFlags fl).toNat ++
        b4 :: b5 :: 0 :: 0 :: 0 :: 0 :: 0 :: 0 :: rest)) 6 places.length =
          .ok ([b0, b1] ++ (u16Bytes (responseFlags fl).toNat ++ ([b4, b5] ++
            (u16Bytes places.length ++ (0 :: 0 :: 0 :: 0 :: rest))))) :=
      writeU16_append ([b0, b1] ++ (u16Bytes (responseFlags fl).toNat ++
        [b4, b5])) 0 0 _ _
    have offsets : ∀ entry ∈ entries, entry.offset < 2 ^ 14 :=
      fun entry member => Nat.lt_of_le_of_lt (kept.offset_le member) small
    have encoded : [b0, b1] ++ (u16Bytes (responseFlags fl).toNat ++ ([b4, b5] ++
        (u16Bytes places.length ++ (0 :: 0 :: 0 :: 0 :: rest)))) =
          (reply id fl net asked entries).encode ++
            back.drop (16 * places.length) := by
      unfold Message.encode reply
      simp only [rest, places, answers_encode offsets, idBytes, countBytes,
        u16Bytes_eq, List.length_map, List.append_assoc, List.flatMap_nil,
        List.nil_append]
      rfl
    have sized : (reply id fl net asked entries).encode.length =
        front.length + 16 * places.length := by
      have total := congrArg List.length encoded
      have answers := length_answers places
      have fieldLength : ∀ v, (u16Bytes v).length = 2 := fun _ => rfl
      simp only [rest, front, List.length_append, List.length_cons,
        List.length_nil, fieldLength] at total ⊢
      omega
    rw [written, ok_bind]
    dsimp only
    rw [if_pos rfl, flags, ok_bind, count, ok_bind, encoded]
    refine ⟨_, rfl, rfl, .inr ⟨_, rfl, ?_, List.take_left' sized⟩⟩
    omega

/-! ## The whole call -/

/-- The number of questions in the header of a request. -/
def questionCount (req : List UInt8) : Nat :=
  (req.getD 4 0).toNat * 256 + (req.getD 5 0).toNat

/-- The response of `off` bytes answers the questions `asked`. -/
structure Answered (served : Prop) (net mask : BitVec 32) (max : Int)
    (req : List UInt8) (slen : Nat) (handled : Handled) (id fl : BitVec 16)
    (asked : List Question) (entries : List Entry) (off : Nat) : Prop where
  count : asked.length = questionCount req
  content : ∃ rest, req.drop 12 = asked.flatMap Question.encode ++ rest
  fits : ∀ question ∈ asked, question.name.Fits 255
  sameId : bigEndian 2 id.toNat = req.take 2
  placed : (entries.map fun entry => (entry.offset, entry.asked)).Sublist
    ((askedAt 12 asked).filter fun place => IsAIn place.2)
  complete : served → entries.length =
    ((askedAt 12 asked).filter fun place => IsAIn place.2).length
  small : ∀ entry ∈ entries, entry.offset < 2 ^ 14
  named : ∀ entry ∈ entries,
    (∀ label ∈ entry.asked.name.labels, 0 ∉ label) →
      entry.name.bytes = dotted entry.asked.name.labels
  reached : (system net mask max).Reachable handled.cache
  given : ∀ entry ∈ entries,
    Given net mask max handled.cache entry.name entry.index asked.length
  res : handled.res = off
  room : off ≤ slen
  message : handled.sb.take off = (reply id fl net asked entries).encode

/-- The walk from the beginning of the questions. -/
theorem begun_progress {served : Prop} {net mask : BitVec 32} {max : Int}
    {outcomes : Nat → HevMappedDNS → CString → FindOutcome}
    {cache : HevMappedDNS} {rb body : List UInt8} {qd : Nat}
    (allocates : served → ∀ i, Allocates (outcomes i))
    (ready : qd ≠ 0 → 1 ≤ max) (reached : (system net mask max).Reachable cache)
    (long : 12 ≤ rb.length) (split : rb.drop 12 = body) (few : qd ≤ 32) :
    (∃ stopped, questions outcomes qd 0 (begun cache rb) =
      .ok (some (stopped, false))) ∨
    (questions outcomes qd 0 (begun cache rb) = .ok none ∧ ¬served) ∨
    ∃ final asked entries, asked.length = qd ∧
      questions outcomes qd 0 (begun cache rb) = .ok (some (final, true)) ∧
      Kept served net body final asked entries ∧
      (system net mask max).Reachable final.cache ∧
      ∀ entry ∈ entries,
        Given net mask max final.cache entry.name entry.index asked.length := by
  have kept : Kept served net body (begun cache rb) [] [] := by
    constructor
    · exact ⟨⟨long, List.length_replicate, List.length_replicate,
        Nat.le_refl 0⟩, rfl, split.symm, nofun⟩
    · exact List.Sublist.refl []
    · intro _
      rfl
    · exact nofun
    · rfl
    · rfl
    · rfl
  by_cases none : qd = 0
  · subst none
    exact .inr (.inr ⟨_, [], [], rfl, rfl, kept, reached, nofun⟩)
  · rcases questions_progress (ready none) allocates qd 0 _ [] []
      ⟨kept, reached, nofun⟩ (by rwa [List.length_nil, Nat.zero_add]) with
      stops | stuck | ⟨final, asked, entries, count, walked, progress⟩
    · exact .inl stops
    · exact .inr (.inl stuck)
    · rw [List.nil_append] at progress
      exact .inr (.inr ⟨final, asked, entries, count, walked, progress.kept,
        progress.reached, progress.given⟩)

/-- A call returns -1, or answers the questions of the request; it has a result
where all searches are served. -/
theorem handle_answered {served : Prop} {net mask : BitVec 32} {max : Int}
    {outcomes : Nat → HevMappedDNS → CString → FindOutcome}
    {cache : HevMappedDNS} {req res : List UInt8}
    (allocates : served → ∀ i, Allocates (outcomes i))
    (ready : questionCount req ≠ 0 → 1 ≤ max)
    (reached : (system net mask max).Reachable cache)
    (small : req.length ≤ res.length → req.length < 2 ^ 14) :
    (handle outcomes cache req res = .ok none ∧ ¬served) ∨
    ∃ handled, handle outcomes cache req res = .ok (some handled) ∧
      (handled.res = -1 ∨ ∃ id fl asked entries off,
        Answered served net mask max req res.length handled id fl asked entries
          off) := by
  by_cases short : res.length < req.length
  · exact .inr ⟨_, if_pos short, .inl rfl⟩
  · by_cases headerless : req.length < 12
    · unfold handle
      rw [if_neg short, if_pos headerless]
      exact .inr ⟨_, rfl, .inl rfl⟩
    · obtain ⟨b0, b1, b2, b3, b4, b5, b6, b7, b8, b9, b10, b11, body, rfl⟩ :=
        exists_header (Nat.not_lt.mp headerless)
      have bound := small (Nat.not_lt.mp short)
      simp only [List.length_cons] at short bound
      have room : 12 + body.length ≤ res.length := by omega
      rw [handle_eq outcomes cache b0 b1 b2 b3 b4 b5 b6 b7 b8 b9 b10 b11 body
        res room]
      split
      · exact .inr ⟨_, rfl, .inl rfl⟩
      case isFalse few =>
        obtain ⟨id, idBytes, _⟩ := exists_field b0 b1
        obtain ⟨fl, _, flNat⟩ := exists_field b2 b3
        obtain ⟨qd, qdBytes, qdNat⟩ := exists_field b4 b5
        rw [← flNat, ← qdNat]
        rw [← qdNat] at few
        have counted : questionCount (b0 :: b1 :: b2 :: b3 :: b4 :: b5 :: b6 ::
            b7 :: b8 :: b9 :: b10 :: b11 :: body) = qd.toNat := qdNat.symm
        rw [counted] at ready
        have long : 12 ≤ (b0 :: b1 :: b2 :: b3 :: b5 :: b4 :: b6 :: b7 :: b8 ::
            b9 :: b10 :: b11 :: body).length := Nat.le_add_left 12 body.length
        have behind : (b0 :: b1 :: b2 :: b3 :: b5 :: b4 :: b6 :: b7 :: b8 ::
            b9 :: b10 :: b11 :: body).drop 12 = body := rfl
        rcases begun_progress allocates ready reached long behind
          (Nat.not_lt.mp few) with
          ⟨stopped, stops⟩ | ⟨stuck, unserved⟩ | ⟨walk, asked, entries, count,
            walked, kept, reached, given⟩
        · exact .inr ⟨_, respond_stops stops _ _, .inl rfl⟩
        · exact .inl ⟨respond_stuck stuck _ _, unserved⟩
        · rw [← count] at walked qdBytes ⊢
          obtain ⟨handled, responded, cacheEq, outcome⟩ := respond_kept fl
            (res.drop (12 + body.length)) walked kept (by omega) idBytes qdBytes
          refine .inr ⟨handled, responded, ?_⟩
          rcases outcome with failed | ⟨off, offEq, inside, message⟩
          · exact .inl failed
          · right
            refine ⟨id, fl, asked, entries, off, ?_⟩
            rw [List.length_drop] at inside
            constructor
            case message => exact message
            case res => exact offEq
            case room => omega
            case count => exact count.trans counted.symm
            case content => exact ⟨_, kept.walked.content⟩
            case fits => exact kept.walked.fits
            case sameId => exact idBytes
            case placed => exact kept.placed
            case complete => exact kept.complete
            case small =>
              intro entry member
              have offset := kept.offset_le member
              omega
            case named => exact kept.named
            case reached =>
              rw [cacheEq]
              exact reached
            case given =>
              rw [cacheEq]
              exact given

/-! ## Well-formed responses -/

/-- The labels of the questions have at most 63 bytes and no zeros. -/
def PlainLabels (asked : List Question) : Prop :=
  ∀ question ∈ asked, ∀ label ∈ question.name.labels,
    label.length ≤ maxLabel ∧ 0 ∉ label

/-- The response is a message that answers the questions of the request; each
address is looked up as the name that was asked for. -/
structure Responds (req response : List UInt8) (cache : HevMappedDNS)
    (asked : List Question) (message : Message) : Prop where
  parsed : Message.parse response = some message
  sameId : bigEndian 2 message.id.toNat = req.take 2
  questions : message.questions = asked
  unchanged : ∃ size, (req.drop 12).take size = asked.flatMap Question.encode ∧
    (response.drop 12).take size = (req.drop 12).take size
  isResponse : message.flags.msb = true
  authorities : message.authorities = []
  additionals : message.additionals = []
  answerCount : message.answers.length =
    (asked.filter fun question => IsAIn question).length
  answer : ∀ (i : Nat) place,
    ((askedAt 12 asked).filter fun place => IsAIn place.2)[i]? = some place →
    ∃ ip : BitVec 32,
      message.answers[i]? = some
        { name := ⟨[], some (BitVec.ofNat 14 place.1)⟩
          rtype := 1
          rclass := 1
          ttl := 1
          rdata := bigEndian 4 ip.toNat } ∧
      place.1 < 2 ^ 14 ∧
      (∃ rest, parseQuestion maxLabel (response.drop place.1) =
        some (place.2, rest)) ∧
      ∃ name after, cache.lookup ip = some (some name, after) ∧
        name.bytes = dotted place.2.name.labels

theorem questionCount_lt (req : List UInt8) : questionCount req < 2 ^ 16 := by
  have high := (req.getD 4 0).toNat_lt
  have low := (req.getD 5 0).toNat_lt
  unfold questionCount
  omega

theorem askedAt_snd (off : Nat) (asked : List Question) :
    (askedAt off asked).map Prod.snd = asked := by
  induction asked generalizing off with
  | nil => rfl
  | cons first others inductionHypothesis =>
      rw [askedAt, List.map_cons, inductionHypothesis]

section Answered

variable {served : Prop} {net mask : BitVec 32} {max : Int}
  {req : List UInt8} {slen : Nat} {handled : Handled} {id fl : BitVec 16}
  {asked : List Question} {entries : List Entry} {off : Nat}

/-- Where all searches are served, there is an entry for each question for an
address. -/
theorem Answered.placed_eq
    (answered : Answered served net mask max req slen handled id fl asked entries
      off) (all : served) :
    entries.map (fun entry => (entry.offset, entry.asked)) =
      (askedAt 12 asked).filter fun place => IsAIn place.2 :=
  answered.placed.eq_of_length
    ((List.length_map _).trans (answered.complete all))

theorem length_filter_askedAt (asked : List Question) :
    ((askedAt 12 asked).filter fun place => IsAIn place.2).length =
      (asked.filter fun question => IsAIn question).length := by
  have filtered : (asked.filter fun question => IsAIn question) =
      ((askedAt 12 asked).filter fun place => IsAIn place.2).map Prod.snd := by
    conv_lhs => rw [← askedAt_snd 12 asked, List.filter_map]
    rfl
  rw [filtered, List.length_map]

/-- The address of an entry is looked up as its name. -/
theorem Answered.lookup
    (answered : Answered served net mask max req slen handled id fl asked entries
      off)
    (prefixMask : IsPrefix mask) (hostBits : net &&& ~~~mask = 0)
    (admitted : max ≤ (~~~mask).toInt)
    (capacity : (questionCount req : Int) ≤ max) {entry : Entry}
    (member : entry ∈ entries) :
    ∃ after, handled.cache.lookup (entry.address net) =
      some (some entry.name, after) := by
  have given := answered.given entry member
  rw [answered.count] at given
  have positive : 0 < questionCount req := by
    obtain ⟨_, _, _, given⟩ := given
    exact Nat.zero_lt_of_lt given.few
  have room : 1 ≤ max := by omega
  have maps := given.maps room capacity
  obtain ⟨recency, _, ⟨rfl, rfl, rfl⟩, order, holds, rfl⟩ :=
    tracks_of_reachable room answered.reached
  exact maps.lookedUp holds prefixMask hostBits admitted

theorem Answered.fitsMessage
    (answered : Answered served net mask max req slen handled id fl asked entries
      off)
    (plain : PlainLabels asked) : (reply id fl net asked entries).Fits := by
  have few := questionCount_lt req
  have count := answered.count
  constructor
  · change asked.length < _
    omega
  · intro question member
    have fits := answered.fits question member
    constructor
    · intro label inName
      exact ⟨(fits.label label inName).1, (plain question member label inName).1⟩
    · decide
    · intro _
      decide
  · constructor
    · have entriesLength := answered.placed.length_le
      have shorter := List.length_filter_le
        (fun question : Question => IsAIn question) asked
      rw [List.length_map, length_filter_askedAt] at entriesLength
      change (entries.map _).length < _
      rw [List.length_map]
      omega
    · intro record inAnswers
      obtain ⟨entry, _, rfl⟩ := List.mem_map.mp inAnswers
      exact ⟨nofun, by decide, fun _ => by decide⟩
    · intro record inAnswers
      obtain ⟨entry, _, rfl⟩ := List.mem_map.mp inAnswers
      change (bigEndian 4 _).length < _
      rw [length_bigEndian]
      decide
  · exact ⟨Nat.two_pow_pos 16, nofun, nofun⟩
  · exact ⟨Nat.two_pow_pos 16, nofun, nofun⟩

/-- The question of an entry stands in the message at its offset. -/
theorem parse_at_offset {place : Nat × Question} (plain : PlainLabels asked)
    (fits : ∀ question ∈ asked, question.name.Fits 255)
    (member : place ∈ askedAt 12 asked) :
    ∃ rest, parseQuestion maxLabel
      ((reply id fl net asked entries).encode.drop place.1) =
        some (place.2, rest) := by
  obtain ⟨before, after, split, offset⟩ := mem_askedAt member
  have isAsked : place.2 ∈ asked := by
    rw [split]
    exact List.mem_append_right _ List.mem_cons_self
  have fitsMax : place.2.name.Fits maxLabel :=
    ⟨fun label inName => ⟨((fits _ isAsked).label label inName).1,
      (plain _ isAsked label inName).1⟩, by decide, fun _ => by decide⟩
  obtain ⟨rest, encoded⟩ : ∃ rest,
      (reply id fl net asked entries).encode.drop 12 =
        asked.flatMap Question.encode ++ rest := ⟨_, rfl⟩
  refine ⟨after.flatMap Question.encode ++ rest, ?_⟩
  rw [offset, ← List.drop_drop, encoded, split, List.flatMap_append,
    List.flatMap_cons, List.append_assoc, List.drop_left' rfl,
    List.append_assoc]
  exact parseQuestion_encode fitsMax _

/-- An answered request has a response that is a message. -/
theorem Answered.responds
    (answered : Answered served net mask max req slen handled id fl asked entries
      off)
    (prefixMask : IsPrefix mask) (hostBits : net &&& ~~~mask = 0)
    (admitted : max ≤ (~~~mask).toInt)
    (capacity : (questionCount req : Int) ≤ max) (all : served)
    (plain : PlainLabels asked) :
    Responds req (handled.sb.take off) handled.cache asked
      (reply id fl net asked entries) := by
  rw [answered.message]
  constructor
  case parsed => exact Message.parse_encode (answered.fitsMessage plain)
  case sameId => exact answered.sameId
  case questions => rfl
  case unchanged =>
    obtain ⟨rest, content⟩ := answered.content
    have same : (req.drop 12).take (asked.flatMap Question.encode).length =
        asked.flatMap Question.encode := by
      rw [content, List.take_left' rfl]
    refine ⟨_, same, ?_⟩
    rw [same]
    exact List.take_left' rfl
  case isResponse => exact msb_responseFlags fl
  case authorities => rfl
  case additionals => rfl
  case answerCount =>
    rw [← length_filter_askedAt, ← answered.complete all]
    exact List.length_map _
  case answer =>
    intro i place found
    have member := List.mem_of_mem_filter (List.mem_of_getElem? found)
    rw [← answered.placed_eq all, List.getElem?_map] at found
    obtain ⟨entry, entryFound, rfl⟩ := Option.map_eq_some_iff.mp found
    have isEntry := List.mem_of_getElem? entryFound
    refine ⟨entry.address net, ?_, answered.small entry isEntry,
      parse_at_offset plain answered.fits member, entry.name, ?_⟩
    · change (entries.map _)[i]? = _
      rw [List.getElem?_map, entryFound]
      rfl
    · obtain ⟨after, found⟩ :=
        answered.lookup prefixMask hostBits admitted capacity isEntry
      refine ⟨after, found, answered.named entry isEntry ?_⟩
      intro label inName
      have isAsked : entry.asked ∈ asked := by
        rw [← askedAt_snd 12 asked]
        exact List.mem_map_of_mem (f := Prod.snd) member
      exact (plain _ isAsked label inName).2

end Answered

/-! ## An allocator -/

/-- A tree with these elements in order. -/
def spine : List Nat → SearchTree.Tree Nat
  | [] => .leaf
  | node :: nodes => .node .leaf node (spine nodes)

theorem toList_spine (nodes : List Nat) : (spine nodes).toList = nodes := by
  induction nodes with
  | nil => rfl
  | cons node nodes inductionHypothesis =>
      unfold spine SearchTree.Tree.toList
      rw [inductionHypothesis]
      rfl

/-- A new node behind all others, and trees that are not balanced. -/
def unbalanced (cache : HevMappedDNS) (name : CString) : FindOutcome :=
  let node := cache.tree.toList.max?.getD 0 + 1
  let linked := link cache.key name.bytes node cache.tree
  { node := some node
    inserted := linked
    erased := spine (linked.toList.erase (cache.list.head.getD 0)) }

theorem unbalanced_allocates : Allocates unbalanced := by
  intro cache order name holds _
  refine ⟨_, rfl, ?_, rfl, ?_⟩
  · intro member
    exact absurd (List.le_max?_getD_of_mem member) (Nat.not_succ_le_self _)
  · intro _ first isFirst
    have head := holds.threaded.list.head
    rw [isFirst] at head
    unfold unbalanced
    dsimp only
    rw [toList_spine, head]
    rfl

end HevMappedDNS

open HevMappedDNS

/-- With room in the cache for all questions of a request, the responder stays
inside both buffers; and where the labels are plain it returns -1, or leaves a
message that answers the questions, with addresses that are looked up as the
names that were asked for. -/
theorem mapped_dns_response {net mask : BitVec 32} {max : Int}
    {cache : HevMappedDNS}
    {outcomes : Nat → HevMappedDNS → CString → FindOutcome}
    {req res : List UInt8} (prefixMask : IsPrefix mask)
    (hostBits : net &&& ~~~mask = 0)
    (reached : (system net mask max).Reachable cache)
    (allocates : ∀ i, Allocates (outcomes i))
    (capacity : (questionCount req : Int) ≤ max)
    (size : res.length ≤ HevMappedDNS.udpBufSize) :
    ∃ handled, handle outcomes cache req res = .ok (some handled) ∧
      ((∀ asked rest, parseMany (parseQuestion 255) (questionCount req)
          (req.drop 12) = some (asked, rest) → PlainLabels asked) →
        handled.res = -1 ∨ ∃ (off : Nat) (asked : List Question)
            (rest : List UInt8) (message : Message),
          handled.res = off ∧ off ≤ res.length ∧
          parseMany (parseQuestion 255) (questionCount req) (req.drop 12) =
            some (asked, rest) ∧
          Responds req (handled.sb.take off) handled.cache asked message) := by
  have ready : questionCount req ≠ 0 → 1 ≤ max := by
    intro some
    omega
  have small : req.length ≤ res.length → req.length < 2 ^ 14 := fun fits =>
    Nat.lt_of_le_of_lt (Nat.le_trans fits size) (by decide)
  rcases handle_answered (fun _ : True => allocates) ready reached small with
    ⟨_, unserved⟩ | ⟨handled, returned, outcome⟩
  · exact absurd trivial unserved
  refine ⟨handled, returned, ?_⟩
  intro plain
  rcases outcome with failed | ⟨id, fl, asked, entries, off, answered⟩
  · exact .inl failed
  · right
    obtain ⟨rest, content⟩ := answered.content
    have parsed : parseMany (parseQuestion 255) (questionCount req)
        (req.drop 12) = some (asked, rest) := by
      rw [content, ← answered.count]
      exact parseQuestions_encode answered.fits rest
    exact ⟨off, asked, rest, _, answered.res, answered.room, parsed,
      answered.responds prefixMask hostBits (admitted_of_reachable reached)
        capacity trivial (plain asked rest parsed)⟩

/-- A request for www.a with two bytes behind the question: the response has 39
bytes, and its answer is looked up as www.a. -/
theorem mapped_dns_response_one_question :
    ∃ handled message, (construct 0xC6120000#32 0xFFFE0000#32 2).bind (fun cache =>
        (handle (fun _ => unbalanced) cache
          [0x12, 0x34, 1, 0, 0, 1, 0, 0, 0, 0, 0, 0, 3, 119, 119, 119, 1, 97, 0,
            0, 1, 0, 1, 7, 7] (List.replicate 64 0)).toOption.join) =
          some handled ∧
      handled.res = 39 ∧ Message.parse (handled.sb.take 39) = some message ∧
      message.answers.length = 1 ∧
      ∃ ip name after, handled.cache.lookup ip = some (some name, after) ∧
        name.bytes = [119, 119, 119, 46, 97] := by
  have prefixMask : IsPrefix 0xFFFE0000#32 := ⟨17, by decide, by decide⟩
  let req : List UInt8 := [0x12, 0x34, 1, 0, 0, 1, 0, 0, 0, 0, 0, 0, 3, 119, 119,
    119, 1, 97, 0, 0, 1, 0, 1, 7, 7]
  let asked : Question := ⟨⟨[[119, 119, 119], [97]], none⟩, 1, 1⟩
  have request : parseMany (parseQuestion 255) (questionCount req)
      (req.drop 12) = some ([asked], [7, 7]) := by decide +kernel
  have evaluated : ((construct 0xC6120000#32 0xFFFE0000#32 2).bind fun cache =>
      (handle (fun _ => unbalanced) cache req
        (List.replicate 64 0)).toOption.join.map Handled.res) = some 39 := by
    decide +kernel
  obtain ⟨cache, constructed, mapped⟩ := Option.bind_eq_some_iff.mp evaluated
  have reached : (system 0xC6120000#32 0xFFFE0000#32 2).Reachable cache :=
    ⟨cache, [], constructed, .nil cache⟩
  obtain ⟨handled, returned, outcome⟩ := @mapped_dns_response _ _ _ cache
    (fun _ => unbalanced) req (List.replicate 64 0) prefixMask (by decide)
    reached (fun _ => unbalanced_allocates) (by decide) (by decide)
  have res : handled.res = 39 := by
    rw [returned] at mapped
    exact Option.some.inj mapped
  have plain : PlainLabels [asked] := by
    unfold PlainLabels
    decide
  rcases outcome (fun others rest parsed => by
      rw [request] at parsed
      cases parsed
      exact plain) with failed | ⟨off, others, rest, message, offEq, _, parsed,
    responds⟩
  · rw [res] at failed
    cases failed
  · rw [request] at parsed
    cases parsed
    have off39 : off = 39 := by omega
    subst off39
    obtain ⟨ip, _, _, _, name, after, found, named⟩ :=
      responds.answer 0 (12, asked) (by decide)
    refine ⟨handled, message, ?_, res, responds.parsed, ?_, ip, name, after,
      found, named⟩
    · rw [constructed, Option.bind_some, returned]
      rfl
    · rw [responds.answerCount]
      decide

end ProxyVPN
