/-
Module: ProxyVPN.Lib.DnsMessage
Purpose: The wire format of DNS messages: names with compression pointers,
  questions, resource records and the header with its counts, each with an
  encoder and a parser that reads back what was encoded.
Trusted boundary: human-reviewed spec
Main exports: bigEndian, Name, Question, Record, Message, parseName,
  parseQuestion, parseMany, Message.parse, parseName_encode,
  parseQuestions_encode, Message.parse_encode
-/
import Mathlib.Algebra.Group.Nat.Defs
import Mathlib.Data.List.Basic

namespace ProxyVPN.DnsMessage

universe u

/-! ## Numbers -/

/-- The low `size` bytes of a number, the highest first. -/
def bigEndian : Nat → Nat → List UInt8
  | 0, _ => []
  | size + 1, number => bigEndian size (number / 256) ++ [UInt8.ofNat number]

/-- The number that bytes spell. -/
def number (bytes : List UInt8) : Nat :=
  bytes.foldl (fun sum byte => sum * 256 + byte.toNat) 0

/-- The first `count` bytes and the others. -/
def splitBytes (count : Nat) (bytes : List UInt8) :
    Option (List UInt8 × List UInt8) :=
  if count ≤ bytes.length then some (bytes.take count, bytes.drop count)
  else none

/-- A field of `size` bytes. -/
def parseField (size width : Nat) (bytes : List UInt8) :
    Option (BitVec width × List UInt8) := do
  let (field, rest) ← splitBytes size bytes
  return (BitVec.ofNat width (number field), rest)

@[simp] theorem length_bigEndian (size number : Nat) :
    (bigEndian size number).length = size := by
  induction size generalizing number with
  | zero => rfl
  | succ size inductionHypothesis =>
      rw [bigEndian, List.length_append, inductionHypothesis]
      rfl

/-- Reading back what was written gives what fits of it. -/
theorem number_bigEndian (size value : Nat) :
    number (bigEndian size value) = value % 256 ^ size := by
  induction size generalizing value with
  | zero => exact (Nat.mod_one value).symm
  | succ size inductionHypothesis =>
      have folded : number (bigEndian (size + 1) value) =
          number (bigEndian size (value / 256)) * 256 +
            (UInt8.ofNat value).toNat := by
        unfold number
        rw [bigEndian, List.foldl_append]
        rfl
      have byte : (UInt8.ofNat value).toNat = value % 256 := UInt8.toNat_ofNat'
      calc number (bigEndian (size + 1) value)
          = value / 256 % 256 ^ size * 256 + value % 256 := by
            rw [folded, inductionHypothesis, byte]
        _ = value % 256 + 256 * (value / 256 % 256 ^ size) := by
            rw [Nat.add_comm, Nat.mul_comm]
        _ = value % 256 ^ (size + 1) := by
            rw [Nat.pow_succ', Nat.mod_mul]

/-- A front of the right length is split off. -/
theorem splitBytes_append {front : List UInt8} (rest : List UInt8) {count : Nat}
    (sized : front.length = count) :
    splitBytes count (front ++ rest) = some (front, rest) := by
  unfold splitBytes
  rw [if_pos (by rw [List.length_append, sized]; exact Nat.le_add_right _ _),
    List.take_left' sized, List.drop_left' sized]

/-- A field that fits is read as it was written. -/
theorem parseField_bigEndian {size width : Nat} (field : BitVec width)
    (rest : List UInt8) (fits : 2 ^ width ≤ 256 ^ size) :
    parseField size width (bigEndian size field.toNat ++ rest) =
      some (field, rest) := by
  have small : field.toNat < 256 ^ size := Nat.lt_of_lt_of_le field.isLt fits
  unfold parseField
  rw [splitBytes_append rest (length_bigEndian size _)]
  change some (BitVec.ofNat width (number _), rest) = _
  rw [number_bigEndian, Nat.mod_eq_of_lt small, BitVec.ofNat_toNat,
    BitVec.setWidth_eq]

@[simp] theorem parseField_two (field : BitVec 16) (rest : List UInt8) :
    parseField 2 16 (bigEndian 2 field.toNat ++ rest) = some (field, rest) :=
  parseField_bigEndian field rest (by decide)

@[simp] theorem parseField_four (field : BitVec 32) (rest : List UInt8) :
    parseField 4 32 (bigEndian 4 field.toNat ++ rest) = some (field, rest) :=
  parseField_bigEndian field rest (by decide)

theorem toNat_count {count : Nat} (fits : count < 2 ^ 16) :
    (BitVec.ofNat 16 count).toNat = count := by
  rw [BitVec.toNat_ofNat]
  exact Nat.mod_eq_of_lt fits

/-- A count of less than `2 ^ 16` is read back. -/
theorem parseField_count {count : Nat} (fits : count < 2 ^ 16)
    (rest : List UInt8) :
    parseField 2 16 (bigEndian 2 count ++ rest) =
      some (BitVec.ofNat 16 count, rest) := by
  have parsed := parseField_two (BitVec.ofNat 16 count) rest
  rwa [toNat_count fits] at parsed

/-! ## Names -/

/-- A name: labels, and after them the root or a pointer to the rest. -/
structure Name where
  labels : List (List UInt8)
  pointer : Option (BitVec 14)
deriving DecidableEq

namespace Name

def encode (name : Name) : List UInt8 :=
  (name.labels.flatMap fun label => UInt8.ofNat label.length :: label) ++
    match name.pointer with
    | none => [0]
    | some offset => bigEndian 2 (0xC000 + offset.toNat)

/-- A label is its length and its bytes, before the rest of the name. -/
theorem encode_cons (first : List UInt8) (labels : List (List UInt8))
    (pointer : Option (BitVec 14)) :
    encode ⟨first :: labels, pointer⟩ =
      UInt8.ofNat first.length :: (first ++ encode ⟨labels, pointer⟩) := by
  simp [encode]

/-- Labels have up to `limit` bytes and are not empty; and the first byte of a
pointer is no length. -/
structure Fits (limit : Nat) (name : Name) : Prop where
  label : ∀ label ∈ name.labels, label ≠ [] ∧ label.length ≤ limit
  byte : limit < 256
  pointer : name.pointer ≠ none → limit < 0xC0

end Name

/-- The name at the beginning of some bytes, with at most `limit` bytes in a
label; a name has fewer labels than `fuel`. -/
def parseName (limit : Nat) : Nat → List UInt8 → Option (Name × List UInt8)
  | 0, _ => none
  | _ + 1, [] => none
  | fuel + 1, length :: rest =>
      if length = 0 then
        some (⟨[], none⟩, rest)
      else if length.toNat ≤ limit then do
        let (label, rest) ← splitBytes length.toNat rest
        let (name, rest) ← parseName limit fuel rest
        return ({ name with labels := label :: name.labels }, rest)
      else if 0xC0 ≤ length.toNat then
        match rest with
        | [] => none
        | low :: rest =>
            some (⟨[], some (BitVec.ofNat 14 (number [length, low]))⟩, rest)
      else
        none

/-- A name ends with a zero byte or a pointer, which no length byte below 192
looks like. -/
theorem parseName_end {limit fuel : Nat} (pointer : Option (BitVec 14))
    (rest : List UInt8) (fits : pointer ≠ none → limit < 0xC0) :
    parseName limit (fuel + 1) (Name.encode ⟨[], pointer⟩ ++ rest) =
      some (⟨[], pointer⟩, rest) := by
  cases pointer with
  | none => rfl
  | some offset =>
      have low := offset.isLt
      have bound := fits (Option.some_ne_none offset)
      have encoded : Name.encode ⟨[], some offset⟩ ++ rest =
          UInt8.ofNat ((0xC000 + offset.toNat) / 256) ::
            UInt8.ofNat (0xC000 + offset.toNat) :: rest := rfl
      have high : (UInt8.ofNat ((0xC000 + offset.toNat) / 256)).toNat =
          (0xC000 + offset.toNat) / 256 := by
        rw [UInt8.toNat_ofNat']
        omega
      have notZero : UInt8.ofNat ((0xC000 + offset.toNat) / 256) ≠ 0 := by
        intro zero
        rw [zero] at high
        have zeroNat : (0 : UInt8).toNat = 0 := rfl
        omega
      have joined : BitVec.ofNat 14 (number
          [UInt8.ofNat ((0xC000 + offset.toNat) / 256),
            UInt8.ofNat (0xC000 + offset.toNat)]) = offset := by
        apply BitVec.eq_of_toNat_eq
        have spelled : number [UInt8.ofNat ((0xC000 + offset.toNat) / 256),
            UInt8.ofNat (0xC000 + offset.toNat)] =
              (0xC000 + offset.toNat) % 256 ^ 2 :=
          number_bigEndian 2 _
        rw [BitVec.toNat_ofNat, spelled]
        omega
      rw [encoded, parseName, if_neg notZero, high, if_neg (by omega),
        if_pos (by omega), joined]

/-- A name is read back, whatever follows it. -/
theorem parseName_encode {limit : Nat} {name : Name} (fits : name.Fits limit)
    (rest : List UInt8) {fuel : Nat} (enough : name.labels.length < fuel) :
    parseName limit fuel (name.encode ++ rest) = some (name, rest) := by
  obtain ⟨labels, pointer⟩ := name
  obtain ⟨label, limitBound, pointerBound⟩ := fits
  induction labels generalizing fuel with
  | nil =>
      cases fuel with
      | zero => cases enough
      | succ fuel => exact parseName_end pointer rest pointerBound
  | cons first labels inductionHypothesis =>
      cases fuel with
      | zero => cases enough
      | succ fuel =>
          obtain ⟨nonempty, bounded⟩ := label first List.mem_cons_self
          have positive := List.length_pos_iff.mpr nonempty
          have length : (UInt8.ofNat first.length).toNat = first.length := by
            rw [UInt8.toNat_ofNat']
            exact Nat.mod_eq_of_lt (by omega)
          have notZero : UInt8.ofNat first.length ≠ 0 := by
            intro zero
            rw [zero] at length
            exact absurd length (Nat.ne_of_lt positive)
          have parsed := inductionHypothesis (Nat.lt_of_succ_lt_succ enough)
            (fun other member => label other (List.mem_cons_of_mem _ member))
            pointerBound
          rw [Name.encode_cons, List.cons_append, List.append_assoc]
          unfold parseName
          rw [if_neg notZero, length, if_pos bounded, splitBytes_append _ rfl]
          change (parseName limit fuel _).bind _ = _
          rw [parsed]
          rfl

/-- Every label has at least its length byte. -/
theorem length_labels_lt (name : Name) :
    name.labels.length < name.encode.length := by
  obtain ⟨labels, pointer⟩ := name
  induction labels with
  | nil => cases pointer <;> exact Nat.succ_pos _
  | cons first labels inductionHypothesis =>
      rw [Name.encode_cons]
      simp only [List.length_cons, List.length_append] at *
      omega

/-! ## Questions and records -/

structure Question where
  name : Name
  qtype : BitVec 16
  qclass : BitVec 16
deriving DecidableEq

structure Record where
  name : Name
  rtype : BitVec 16
  rclass : BitVec 16
  ttl : BitVec 32
  rdata : List UInt8
deriving DecidableEq

def Question.encode (question : Question) : List UInt8 :=
  question.name.encode ++ (bigEndian 2 question.qtype.toNat ++
    bigEndian 2 question.qclass.toNat)

def Record.encode (record : Record) : List UInt8 :=
  record.name.encode ++ (bigEndian 2 record.rtype.toNat ++
    (bigEndian 2 record.rclass.toNat ++ (bigEndian 4 record.ttl.toNat ++
      (bigEndian 2 record.rdata.length ++ record.rdata))))

def parseQuestion (limit : Nat) (bytes : List UInt8) :
    Option (Question × List UInt8) := do
  let (name, rest) ← parseName limit bytes.length bytes
  let (qtype, rest) ← parseField 2 16 rest
  let (qclass, rest) ← parseField 2 16 rest
  return (⟨name, qtype, qclass⟩, rest)

def parseRecord (limit : Nat) (bytes : List UInt8) :
    Option (Record × List UInt8) := do
  let (name, rest) ← parseName limit bytes.length bytes
  let (rtype, rest) ← parseField 2 16 rest
  let (rclass, rest) ← parseField 2 16 rest
  let (ttl, rest) ← parseField 4 32 rest
  let (length, rest) ← parseField 2 16 rest
  let (rdata, rest) ← splitBytes length.toNat rest
  return (⟨name, rtype, rclass, ttl, rdata⟩, rest)

/-- `count` items one after another. -/
def parseMany {Item : Type u}
    (parse : List UInt8 → Option (Item × List UInt8)) :
    Nat → List UInt8 → Option (List Item × List UInt8)
  | 0, bytes => some ([], bytes)
  | count + 1, bytes => do
      let (first, rest) ← parse bytes
      let (others, rest) ← parseMany parse count rest
      return (first :: others, rest)

/-- A name that fits is read back. -/
theorem parseName_whole {limit : Nat} {name : Name} (fits : name.Fits limit)
    (rest : List UInt8) :
    parseName limit (name.encode ++ rest).length (name.encode ++ rest) =
      some (name, rest) := by
  apply parseName_encode fits
  have more := length_labels_lt name
  rw [List.length_append]
  omega

/-- So is a question, -/
theorem parseQuestion_encode {limit : Nat} {question : Question}
    (fits : question.name.Fits limit) (rest : List UInt8) :
    parseQuestion limit (question.encode ++ rest) = some (question, rest) := by
  unfold parseQuestion Question.encode
  simp only [List.append_assoc, parseName_whole fits, parseField_two,
    Option.bind_eq_bind, Option.bind_some]
  rfl

/-- and a record, whose data comes with its length. -/
theorem parseRecord_encode {limit : Nat} {record : Record}
    (fits : record.name.Fits limit) (sized : record.rdata.length < 2 ^ 16)
    (rest : List UInt8) :
    parseRecord limit (record.encode ++ rest) = some (record, rest) := by
  unfold parseRecord Record.encode
  simp only [List.append_assoc, parseName_whole fits, parseField_two,
    parseField_four, parseField_count sized, toNat_count sized,
    splitBytes_append _ rfl, Option.bind_eq_bind, Option.bind_some]
  rfl

/-- Items each of which is read back are read back in a row. -/
theorem parseMany_encode {Item : Type u} {encode : Item → List UInt8}
    {parse : List UInt8 → Option (Item × List UInt8)} (items : List Item)
    (rest : List UInt8)
    (reads : ∀ item ∈ items, ∀ tail,
      parse (encode item ++ tail) = some (item, tail)) :
    parseMany parse items.length (items.flatMap encode ++ rest) =
      some (items, rest) := by
  induction items with
  | nil => rfl
  | cons first items inductionHypothesis =>
      have others := inductionHypothesis fun item member =>
        reads item (List.mem_cons_of_mem _ member)
      unfold List.length parseMany
      rw [List.flatMap_cons, List.append_assoc, reads first List.mem_cons_self]
      simp only [Option.bind_eq_bind, Option.bind_some, others]
      rfl

/-! ## Messages -/

/-- The largest label of a message. -/
def maxLabel : Nat := 63

structure Message where
  id : BitVec 16
  flags : BitVec 16
  questions : List Question
  answers : List Record
  authorities : List Record
  additionals : List Record
deriving DecidableEq

namespace Message

/-- The number of records in each section goes in front of them all. -/
def encode (message : Message) : List UInt8 :=
  bigEndian 2 message.id.toNat ++ (bigEndian 2 message.flags.toNat ++
    (bigEndian 2 message.questions.length ++
    (bigEndian 2 message.answers.length ++
    (bigEndian 2 message.authorities.length ++
    (bigEndian 2 message.additionals.length ++
    (message.questions.flatMap Question.encode ++
    (message.answers.flatMap Record.encode ++
    (message.authorities.flatMap Record.encode ++
      message.additionals.flatMap Record.encode))))))))

/-- A message that takes all of the bytes. -/
def parse (bytes : List UInt8) : Option Message := do
  let (id, rest) ← parseField 2 16 bytes
  let (flags, rest) ← parseField 2 16 rest
  let (qdcount, rest) ← parseField 2 16 rest
  let (ancount, rest) ← parseField 2 16 rest
  let (nscount, rest) ← parseField 2 16 rest
  let (arcount, rest) ← parseField 2 16 rest
  let (questions, rest) ← parseMany (parseQuestion maxLabel) qdcount.toNat rest
  let (answers, rest) ← parseMany (parseRecord maxLabel) ancount.toNat rest
  let (authorities, rest) ← parseMany (parseRecord maxLabel) nscount.toNat rest
  let (additionals, rest) ← parseMany (parseRecord maxLabel) arcount.toNat rest
  if rest = [] then
    return ⟨id, flags, questions, answers, authorities, additionals⟩
  else
    none

/-- Records whose number fits its field and which can be encoded. -/
structure FitRecords (records : List Record) : Prop where
  count : records.length < 2 ^ 16
  name : ∀ record ∈ records, record.name.Fits maxLabel
  rdata : ∀ record ∈ records, record.rdata.length < 2 ^ 16

structure Fits (message : Message) : Prop where
  questionCount : message.questions.length < 2 ^ 16
  question : ∀ question ∈ message.questions, question.name.Fits maxLabel
  answers : FitRecords message.answers
  authorities : FitRecords message.authorities
  additionals : FitRecords message.additionals

end Message

theorem parseRecords_encode {records : List Record}
    (fits : Message.FitRecords records) (rest : List UInt8) :
    parseMany (parseRecord maxLabel) records.length
      (records.flatMap Record.encode ++ rest) = some (records, rest) :=
  parseMany_encode records rest fun record member =>
    parseRecord_encode (fits.name record member) (fits.rdata record member)

theorem parseQuestions_encode {limit : Nat} {questions : List Question}
    (fits : ∀ question ∈ questions, question.name.Fits limit)
    (rest : List UInt8) :
    parseMany (parseQuestion limit) questions.length
      (questions.flatMap Question.encode ++ rest) = some (questions, rest) :=
  parseMany_encode questions rest fun question member =>
    parseQuestion_encode (fits question member)

/-- A message is read back. -/
theorem Message.parse_encode {message : Message} (fits : message.Fits) :
    parse message.encode = some message := by
  obtain ⟨id, flags, questions, answers, authorities, additionals⟩ := message
  obtain ⟨questionCount, question, answersFit, authoritiesFit, additionalsFit⟩ :=
    fits
  have questionsParse := fun rest => parseQuestions_encode question rest
  have answersParse := fun rest => parseRecords_encode answersFit rest
  have authoritiesParse := fun rest => parseRecords_encode authoritiesFit rest
  have additionalsParse := parseRecords_encode additionalsFit []
  rw [List.append_nil] at additionalsParse
  unfold parse encode
  simp only [parseField_two, parseField_count questionCount,
    parseField_count answersFit.count, parseField_count authoritiesFit.count,
    parseField_count additionalsFit.count, toNat_count questionCount,
    toNat_count answersFit.count, toNat_count authoritiesFit.count,
    toNat_count additionalsFit.count, questionsParse, answersParse,
    authoritiesParse, additionalsParse, Option.bind_eq_bind, Option.bind_some]
  rfl

end ProxyVPN.DnsMessage
