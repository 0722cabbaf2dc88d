/-
Module: ProxyVPN.Hev.MappedDnsWalk
Purpose: What the walk of the mapped DNS responder over a request does: the
  questions it reads, the names it looks for, and what it keeps of them.
Trusted boundary: none
Main exports: dotted, IsAIn, skipLabels_cases, QuestionOutcome,
  question_outcome, questions_safe
-/
import ProxyVPN.Hev.MappedDnsHandle
import ProxyVPN.Lib.DnsMessage

namespace ProxyVPN

open CheckedArray DnsMessage

namespace HevMappedDNS

/-- The labels with dots between them. -/
def dotted (labels : List (List UInt8)) : List UInt8 :=
  List.intercalate [46] labels

/-- A question for an address of the Internet. -/
def IsAIn (asked : Question) : Prop :=
  asked.qtype = 1 ∧ asked.qclass = 1

instance (asked : Question) : Decidable (IsAIn asked) :=
  inferInstanceAs (Decidable (_ ∧ _))

/-! ## The labels of one question -/

/-- The labels of a name in the rewritten request. -/
def dots (labels : List (List UInt8)) : List UInt8 :=
  labels.flatMap fun label => 46 :: label

theorem length_dots (labels : List (List UInt8)) :
    (dots labels).length + 1 = (Name.encode ⟨labels, none⟩).length := by
  induction labels with
  | nil => rfl
  | cons label labels inductionHypothesis =>
      rw [Name.encode_cons]
      simp only [dots, List.flatMap_cons, List.length_append,
        List.length_cons] at *
      omega

/-- Behind the first dot is the name with dots between its labels. -/
theorem dots_eq_dotted (label : List UInt8) (labels : List (List UInt8)) :
    dots (label :: labels) = 46 :: dotted (label :: labels) := by
  induction labels generalizing label with
  | nil => simp [dots, dotted]
  | cons next labels inductionHypothesis =>
      have rest := inductionHypothesis next
      have split : dots (label :: next :: labels) =
          46 :: (label ++ dots (next :: labels)) := rfl
      rw [split, rest]
      simp [dotted, List.intercalate]

theorem skipLabels_read {rb : List UInt8} {off : Nat} {len : UInt8}
    (rounds : Nat) (first : read rb off = .ok len) :
    skipLabels (rounds + 1) rb off =
      if len = 0 then .ok (some (rb, off, true))
      else if rb.length ≤ off + 1 + len.toNat then
        .ok (some (rb, off + 1 + len.toNat, false))
      else write rb off 46 >>= fun rb =>
        skipLabels rounds rb (off + 1 + len.toNat) := by
  conv_lhs => unfold skipLabels
  rw [first]
  rfl

/-- The walk over a name leaves the request, or replaces each length by a dot
and stops at the root. -/
theorem skipLabels_cases (rounds : Nat) :
    ∀ front back : List UInt8, back ≠ [] → back.length ≤ rounds →
      (∃ rb off,
        skipLabels rounds (front ++ back) front.length =
          .ok (some (rb, off, false))) ∨
      ∃ labels tail, (Name.mk labels none).Fits 255 ∧
        back = Name.encode ⟨labels, none⟩ ++ tail ∧
        skipLabels rounds (front ++ back) front.length =
          .ok (some (front ++ (dots labels ++ 0 :: tail),
            front.length + (dots labels).length, true)) := by
  induction rounds with
  | zero =>
      intro front back nonempty short
      exact absurd (List.eq_nil_of_length_eq_zero (Nat.le_zero.mp short))
        nonempty
  | succ rounds inductionHypothesis =>
      intro front back nonempty short
      cases back with
      | nil => exact absurd rfl nonempty
      | cons len rest =>
          have first : read (front ++ len :: rest) front.length = .ok len :=
            read_append front (len :: rest) 0
          have step := skipLabels_read rounds first
          by_cases root : len = 0
          · right
            refine ⟨[], rest, ⟨nofun, by decide, by simp⟩, ?_, ?_⟩
            · rw [root]
              rfl
            · rw [step, if_pos root, root]
              rfl
          · rw [if_neg root] at step
            by_cases outside : (front ++ len :: rest).length ≤
                front.length + 1 + len.toNat
            · left
              rw [if_pos outside] at step
              exact ⟨_, _, step⟩
            · rw [if_neg outside, write_append, ok_bind] at step
              simp only [List.length_append, List.length_cons] at outside short
              have sized : (rest.take len.toNat).length = len.toNat :=
                List.length_take_of_le (by omega)
              have moved : front ++ 46 :: rest =
                  (front ++ 46 :: rest.take len.toNat) ++
                    rest.drop len.toNat := by
                rw [List.append_assoc, List.cons_append, List.take_append_drop]
              have next : front.length + 1 + len.toNat =
                  (front ++ 46 :: rest.take len.toNat).length := by
                rw [List.length_append, List.length_cons, sized]
                omega
              rw [moved, next] at step
              rcases inductionHypothesis (front ++ 46 :: rest.take len.toNat)
                (rest.drop len.toNat)
                (List.drop_eq_nil_iff.not.mpr (by omega))
                (by rw [List.length_drop]; omega) with
                ⟨rb, off, stopped⟩ | ⟨labels, tail, fits, split, walked⟩
              · exact .inl ⟨rb, off, step.trans stopped⟩
              · right
                refine ⟨rest.take len.toNat :: labels, tail, ?_, ?_, ?_⟩
                · refine ⟨List.forall_mem_cons.mpr ⟨?_, fits.label⟩, fits.byte,
                    fits.pointer⟩
                  have byte := len.toNat_lt
                  have positive : len.toNat ≠ 0 := fun zero =>
                    root (UInt8.toNat_inj.mp zero)
                  rw [← List.length_pos_iff, sized]
                  omega
                · have length : UInt8.ofNat (rest.take len.toNat).length =
                      len := by
                    rw [sized, UInt8.ofNat_toNat]
                  rw [Name.encode_cons, length, List.cons_append,
                    List.append_assoc, ← split, List.take_append_drop]
                · rw [step, walked]
                  have joined : dots (rest.take len.toNat :: labels) =
                      46 :: rest.take len.toNat ++ dots labels := rfl
                  rw [joined, List.length_append, List.length_append,
                    Nat.add_assoc, List.append_assoc, List.append_assoc]

/-! ## One question -/

theorem readU16_append (front back : List UInt8) (index : Nat) :
    readU16 (front ++ back) (front.length + index) = readU16 back index := by
  unfold readU16
  rw [Nat.add_assoc, read_append, read_append]

/-- The string behind the first dot ends at the root, or, where there are no
labels, at the high byte of the type. -/
theorem cString_name (front : List UInt8) (labels : List (List UInt8))
    {tail : List UInt8} (typeA : ∃ rest, tail = 0 :: rest) :
    ∃ name, cString (front ++ (dots labels ++ 0 :: tail)) (front.length + 1) =
        .ok name ∧
      ((∀ label ∈ labels, 0 ∉ label) → name.bytes = dotted labels) := by
  obtain ⟨rest, behind⟩ : ∃ rest,
      (front ++ (dots labels ++ 0 :: tail)).drop (front.length + 1) =
        dotted labels ++ 0 :: rest := by
    rw [List.drop_length_add_append]
    cases labels with
    | nil => exact typeA
    | cons label labels =>
        rw [dots_eq_dotted]
        exact ⟨tail, rfl⟩
  have ends : 0 ∈ (front ++ (dots labels ++ 0 :: tail)).drop
      (front.length + 1) := by
    rw [behind]
    exact List.mem_append_right _ List.mem_cons_self
  unfold cString
  rw [if_pos ends]
  refine ⟨_, rfl, ?_⟩
  intro noZero
  have visible : ∀ byte ∈ dotted labels, decide (byte ≠ 0) = true := by
    intro byte member
    apply decide_eq_true
    rintro rfl
    cases labels with
    | nil => cases member
    | cons label labels =>
        have inDots : 0 ∈ dots (label :: labels) := by
          rw [dots_eq_dotted]
          exact List.mem_cons_of_mem _ member
        obtain ⟨other, isLabel, inLabel⟩ := List.mem_flatMap.mp inDots
        rcases List.mem_cons.mp inLabel with dot | inside
        · exact absurd dot (by decide)
        · exact noZero other isLabel inside
  simp only [behind]
  rw [List.takeWhile_append_of_pos visible]
  simp

/-- The walk read a question, and is behind it. -/
structure Asked (front back : List UInt8) (asked : Question)
    (read tail : List UInt8) : Prop where
  fits : asked.name.Fits 255
  back : back = asked.encode ++ tail
  read : read.length = front.length + asked.encode.length

/-- The variables behind a question that is not looked for. -/
def Questions.behind (self : Questions) (read tail : List UInt8) : Questions :=
  { self with
    rb := read ++ tail
    off := read.length
    ipo := self.ipo.set self.ipn self.off }

/-- The variables once the search for a question has returned. -/
def Questions.found (self : Questions) :
    Option (Int × HevMappedDNS) → Option (Questions × Bool)
  | none => none
  | some (idx, cache) =>
      if idx ≥ 0 then
        some ({ self with
          ips := self.ips.set self.ipn (self.cache.net ||| BitVec.ofInt 32 idx)
          ipn := self.ipn + 1
          cache := cache }, true)
      else
        some ({ self with cache := cache }, true)

/-- What one round of the loop can do: it gives up, or passes over a question,
or looks for its name. -/
inductive QuestionOutcome (outcome : HevMappedDNS → CString → FindOutcome)
    (self : Questions) (front back : List UInt8) :
    Except Error (Option (Questions × Bool)) → Prop where
  | stops (stopped : Questions) :
      QuestionOutcome outcome self front back (.ok (some (stopped, false)))
  | passes {asked : Question} {read tail : List UInt8}
      (behind : Asked front back asked read tail) (other : ¬IsAIn asked) :
      QuestionOutcome outcome self front back
        (.ok (some (self.behind read tail, true)))
  | looks {asked : Question} {read tail : List UInt8} {name : CString}
      (behind : Asked front back asked read tail) (isAIn : IsAIn asked)
      (named : (∀ label ∈ asked.name.labels, 0 ∉ label) →
        name.bytes = dotted asked.name.labels) :
      QuestionOutcome outcome self front back
        (.ok ((self.behind read tail).found
          (self.cache.find name (outcome self.cache name))))

theorem exists_field (high low : UInt8) :
    ∃ field : BitVec 16, bigEndian 2 field.toNat = [high, low] ∧
      field.toNat = high.toNat * 256 + low.toNat := by
  have highBound := high.toNat_lt
  have lowBound := low.toNat_lt
  have exact16 : (BitVec.ofNat 16 (high.toNat * 256 + low.toNat)).toNat =
      high.toNat * 256 + low.toNat := by
    rw [BitVec.toNat_ofNat]
    exact Nat.mod_eq_of_lt (by omega)
  refine ⟨_, ?_, exact16⟩
  rw [exact16]
  have highByte : UInt8.ofNat ((high.toNat * 256 + low.toNat) / 256) = high := by
    apply UInt8.toNat_inj.mp
    rw [UInt8.toNat_ofNat']
    omega
  have lowByte : UInt8.ofNat (high.toNat * 256 + low.toNat) = low := by
    apply UInt8.toNat_inj.mp
    rw [UInt8.toNat_ofNat']
    omega
  have spelled : bigEndian 2 (high.toNat * 256 + low.toNat) =
      [UInt8.ofNat ((high.toNat * 256 + low.toNat) / 256),
        UInt8.ofNat (high.toNat * 256 + low.toNat)] := rfl
  rw [spelled, highByte, lowByte]

/-- The name of the question is looked for. -/
theorem findQuestion_eq (outcome : HevMappedDNS → CString → FindOutcome)
    (self : Questions) {front tail : List UInt8} {labels : List (List UInt8)}
    (rb : self.rb = front ++ (dots labels ++ 0 :: tail))
    (start : read self.ipo self.ipn = .ok front.length)
    (room : self.ipn < self.ips.length) (typeA : ∃ rest, tail = 0 :: rest) :
    ∃ name : CString,
      ((∀ label ∈ labels, 0 ∉ label) → name.bytes = dotted labels) ∧
      findQuestion outcome self =
        .ok (self.found (self.cache.find name (outcome self.cache name))) := by
  obtain ⟨name, string, named⟩ := cString_name front labels typeA
  rw [← rb] at string
  refine ⟨name, named, ?_⟩
  unfold findQuestion
  rw [start, ok_bind, string, ok_bind]
  cases self.cache.find name (outcome self.cache name) with
  | none => rfl
  | some found =>
      obtain ⟨idx, cache⟩ := found
      unfold Questions.found
      dsimp only
      by_cases nonnegative : idx ≥ 0
      · rw [if_pos nonnegative, if_pos nonnegative, write_eq_ok room]
        rfl
      · rw [if_neg nonnegative, if_neg nonnegative]
        rfl

theorem question_outcome (outcome : HevMappedDNS → CString → FindOutcome)
    {self : Questions} {front back : List UInt8}
    (rb : self.rb = front ++ back) (off : self.off = front.length)
    (ipoRoom : self.ipn < self.ipo.length)
    (ipsRoom : self.ipn < self.ips.length) :
    QuestionOutcome outcome self front back (question outcome self) := by
  unfold question
  rw [write_eq_ok ipoRoom, ok_bind]
  by_cases ended : back = []
  · rw [if_pos (by rw [rb, off, ended, List.append_nil])]
    exact .stops _
  · have positive := List.length_pos_iff.mpr ended
    have goes : ¬self.rb.length ≤ self.off := by
      rw [rb, off, List.length_append]
      omega
    rw [if_neg goes]
    rcases skipLabels_cases self.rb.length front back ended
      (by rw [rb, List.length_append]; omega) with
      ⟨stoppedRb, stoppedOff, stopped⟩ | ⟨labels, tail, fits, split, walked⟩
    · rw [← rb, ← off] at stopped
      rw [stopped, ok_bind]
      exact .stops _
    · rw [← rb, ← off] at walked
      rw [walked, ok_bind]
      dsimp only
      have size : (front ++ (dots labels ++ 0 :: tail)).length =
          self.off + (dots labels).length + 1 + tail.length := by
        simp only [List.length_append, List.length_cons, off]
        omega
      rcases tail with _ | ⟨typeHigh, _ | ⟨typeLow, _ | ⟨classHigh, _ |
        ⟨classLow, tail⟩⟩⟩⟩
      case nil | cons.nil | cons.cons.nil | cons.cons.cons.nil =>
        rw [if_pos (by rw [size]; simp)]
        exact .stops _
      case cons.cons.cons.cons =>
        rw [if_neg (by rw [size]; simp)]
        obtain ⟨qtype, typeBytes, typeNat⟩ := exists_field typeHigh typeLow
        obtain ⟨qclass, classBytes, classNat⟩ := exists_field classHigh classLow
        have front0 : front ++ (dots labels ++ 0 :: typeHigh :: typeLow ::
            classHigh :: classLow :: tail) = (front ++ (dots labels ++ [0])) ++
              typeHigh :: typeLow :: classHigh :: classLow :: tail := by
          simp
        have offset : self.off + (dots labels).length + 1 =
            (front ++ (dots labels ++ [0])).length := by
          simp only [off, List.length_append, List.length_singleton]
          omega
        have readType : readU16 (front ++ (dots labels ++ 0 :: typeHigh ::
            typeLow :: classHigh :: classLow :: tail))
            (self.off + (dots labels).length + 1) = .ok qtype.toNat := by
          rw [typeNat, front0, offset]
          exact readU16_append _ _ 0
        have readClass : readU16 (front ++ (dots labels ++ 0 :: typeHigh ::
            typeLow :: classHigh :: classLow :: tail))
            (self.off + (dots labels).length + 1 + 2) = .ok qclass.toNat := by
          rw [classNat, front0, offset]
          exact readU16_append _ _ 2
        let asked : Question := ⟨⟨labels, none⟩, qtype, qclass⟩
        let read := front ++ (dots labels ++
          [0, typeHigh, typeLow, classHigh, classLow])
        have behind : Asked front back asked read tail := by
          refine ⟨fits, ?_, ?_⟩
          · rw [split]
            simp only [asked, Question.encode, typeBytes, classBytes]
            simp
          · have dotsLength := length_dots labels
            simp only [read, asked, Question.encode, typeBytes, classBytes,
              List.length_append, List.length_cons, List.length_nil]
            omega
        have isAIn : IsAIn asked ↔ qtype.toNat = 1 ∧ qclass.toNat = 1 :=
          and_congr BitVec.toNat_eq BitVec.toNat_eq
        have readOff : read.length = self.off + (dots labels).length + 1 + 4 := by
          rw [offset]
          simp only [read, List.length_append, List.length_cons,
            List.length_nil]
          omega
        have next : self.behind read tail =
            { self with
              ipo := self.ipo.set self.ipn self.off
              rb := front ++ (dots labels ++ 0 :: typeHigh :: typeLow ::
                classHigh :: classLow :: tail)
              off := self.off + (dots labels).length + 1 + 4 } := by
          unfold Questions.behind
          rw [readOff]
          simp [read]
        rw [readType, ok_bind, readClass, ok_bind]
        by_cases isA : IsAIn asked
        · rw [if_pos (isAIn.mp isA)]
          -- the high byte of the type ends the string where there is no label
          have high : typeHigh = 0 := by
            apply UInt8.toNat_inj.mp
            have one := (isAIn.mp isA).1
            rw [typeNat] at one
            change typeHigh.toNat = 0
            omega
          obtain ⟨name, named, found⟩ := findQuestion_eq outcome
            { self with
              ipo := self.ipo.set self.ipn self.off
              rb := front ++ (dots labels ++ 0 :: typeHigh :: typeLow ::
                classHigh :: classLow :: tail)
              off := self.off + (dots labels).length + 1 }
            rfl (by rw [← off]; exact read_set ipoRoom _) ipsRoom
            ⟨_, by rw [high]⟩
          have looked : QuestionOutcome outcome self front back _ :=
            .looks behind isA named
          rw [next] at looked
          rw [found, ok_bind]
          cases found : self.cache.find name (outcome self.cache name) with
          | none =>
              rw [found] at looked
              exact looked
          | some result =>
              rw [found] at looked
              unfold Questions.found at looked ⊢
              dsimp only at looked ⊢
              split at looked
              · rw [if_pos ‹_›]
                exact looked
              · rw [if_neg ‹_›]
                exact looked
        · rw [if_neg fun both => isA (isAIn.mpr both)]
          have passed : QuestionOutcome outcome self front back _ :=
            .passes behind isA
          rw [next] at passed
          exact passed

/-! ## All questions, and all answers -/

/-- The loop is inside the request and its arrays, with `count` questions
behind it. -/
structure Questions.Shape (state : Questions) (count : Nat) : Prop where
  off : state.off ≤ state.rb.length
  ips : state.ips.length = 32
  ipo : state.ipo.length = 32
  ipn : state.ipn ≤ count

theorem Questions.Shape.behind {self : Questions} {count : Nat}
    (shape : self.Shape count) (read tail : List UInt8) :
    (self.behind read tail).Shape (count + 1) where
  off := by
    change read.length ≤ (read ++ tail).length
    rw [List.length_append]
    exact Nat.le_add_right _ _
  ips := shape.ips
  ipo := List.length_set.trans shape.ipo
  ipn := Nat.le_succ_of_le shape.ipn

theorem Questions.Shape.outcome {self : Questions} {count : Nat}
    (shape : self.Shape count) (room : count < 32)
    (outcome : HevMappedDNS → CString → FindOutcome) :
    QuestionOutcome outcome self (self.rb.take self.off)
      (self.rb.drop self.off) (question outcome self) := by
  have ipn := shape.ipn
  apply question_outcome
  · exact (List.take_append_drop _ _).symm
  · exact (List.length_take_of_le shape.off).symm
  · rw [shape.ipo]
    omega
  · rw [shape.ips]
    omega

theorem Questions.Shape.question {self : Questions} {count : Nat}
    (shape : self.Shape count) (room : count < 32)
    (outcome : HevMappedDNS → CString → FindOutcome) :
    ∃ result, question outcome self = .ok result ∧
      ∀ next, result = some (next, true) → next.Shape (count + 1) := by
  generalize resultEq : HevMappedDNS.question outcome self = result
  have cases := shape.outcome room outcome
  rw [resultEq] at cases
  cases cases with
  | stops stopped =>
      refine ⟨_, rfl, ?_⟩
      intro next same
      cases same
  | passes behind _ =>
      refine ⟨_, rfl, ?_⟩
      intro next same
      cases same
      exact shape.behind _ _
  | @looks _ read tail _ _ _ _ =>
      have after := shape.behind read tail
      refine ⟨_, rfl, ?_⟩
      intro next same
      unfold found at same
      split at same
      · cases same
      · split at same
        · cases same
          exact ⟨after.off, List.length_set.trans after.ips, after.ipo,
            Nat.succ_le_succ shape.ipn⟩
        · cases same
          exact ⟨after.off, after.ips, after.ipo, after.ipn⟩

/-- The loop over the questions stays inside the request and its arrays. -/
theorem questions_safe (outcomes : Nat → HevMappedDNS → CString → FindOutcome)
    (left : Nat) :
    ∀ (i : Nat) (self : Questions) (count : Nat), self.Shape count →
      count + left ≤ 32 →
      ∃ result, questions outcomes left i self = .ok result ∧
        ∀ next, result = some (next, true) → next.Shape (count + left) := by
  induction left with
  | zero =>
      intro i self count shape _
      refine ⟨_, rfl, ?_⟩
      intro next same
      cases same
      exact shape
  | succ left inductionHypothesis =>
      intro i self count shape room
      obtain ⟨first, step, kept⟩ := shape.question (by omega) (outcomes i)
      unfold questions
      rw [step, ok_bind]
      rcases first with _ | ⟨next, _ | _⟩
      · exact ⟨none, rfl, nofun⟩
      · exact ⟨some (next, false), rfl, nofun⟩
      · have rest := inductionHypothesis (i + 1) next (count + 1)
          (kept next rfl) (by omega)
        rwa [Nat.add_right_comm, Nat.add_assoc] at rest

end HevMappedDNS

end ProxyVPN
