/-
Module: ProxyVPN.Hev.ConfigStack
Purpose: Whether the stack of a session has room for its buffers: what an
  accepted document sets of the sizes, the documents whose sizes are computed
  without a wrap, and those whose stacks have room for all that fwd_b and the
  splice of a TCP session put on them.
Trusted boundary: none
Main exports: HevConfig.miscSettings, HevConfig.lastSetting,
  HevConfig.fwdArrays, HevConfig.ringBuffer, HevConfig.BuffersFit,
  HevConfig.SizesInRange, HevConfig.BuffersInRange, HevConfig.stacksFit_iff,
  HevConfig.buffersInRange_iff
-/
import Mathlib.Algebra.Order.Ring.Int
import Mathlib.Data.List.Induction
import ProxyVPN.Hev.Config

namespace ProxyVPN.HevConfig

open Yaml CText

variable (platform : Platform) (doc : Document)

/-! ## The settings of a document -/

/-- The settings of a section misc, up to the first pair that is not read. -/
def settingsOf : Option Node → List (List UInt8 × List UInt8)
  | some (.mapping pairs) => doc.pairsRead Node.text? pairs
  | _ => []

/-- The settings of all sections misc, up to the first key that is not read. -/
def miscSettingsOf : List (Int × Int) → List (List UInt8 × List UInt8)
  | [] => []
  | (keyIndex, valueIndex) :: rest =>
      if keyIndex = 0 ∨ valueIndex = 0 then miscSettingsOf rest
      else
        match doc.textAt keyIndex with
        | none => []
        | some key =>
            (if key = ascii "misc" then settingsOf doc (doc.getNode valueIndex)
              else []) ++ miscSettingsOf rest

def miscSettings : List (List UInt8 × List UInt8) :=
  match doc.getRootNode with
  | some (.mapping pairs) => miscSettingsOf doc pairs
  | _ => []

/-- The last value of a key. -/
def lastSetting (key : String) (settings : List (List UInt8 × List UInt8)) :
    Option (List UInt8) :=
  ((settings.filter fun setting => setting.1 = ascii key).getLast?).map Prod.snd

/-- The size that a key is last given, or its default. -/
def sizeOf (key : String) (default : Int) : Int :=
  ((lastSetting key (miscSettings doc)).map platform.toInt).getD default

/-- The TCP buffer and the number of UDP buffers are positive as they are
stored, and the stack that the UDP buffers ask for is an `int`. -/
def SizesInRange : Prop :=
  0 < sizeOf platform doc "tcp-buffer-size" 65536 ∧
    1 ≤ sizeOf platform doc "udp-copy-buffer-nums" 10 ∧
    TASK_STACK_SIZE + UDP_BUF_SIZE *
      sizeOf platform doc "udp-copy-buffer-nums" 10 < 2 ^ 31

instance : Decidable (SizesInRange platform doc) :=
  inferInstanceAs (Decidable (_ ∧ _ ∧ _))

/-! ## The buffers on the stack -/

/-- The bytes of a pointer and of a `size_t`, which are as wide as a `long`. -/
def Platform.wordBytes : Int := platform.longBits / 8

/-- The bytes of `buf` in `hev_socks5_session_udp_fwd_b`, whose length is
computed without a sign. -/
def fwdBuffer (nums : Int) : Int := UDP_BUF_SIZE * (nums % 2 ^ 32) % 2 ^ 32

/-- The bytes of `msgv` there: a `HevSocks5UDPMsg` is two pointers and a length. -/
def fwdMessages (nums : Int) : Int :=
  3 * platform.wordBytes * (nums % 2 ^ 32) % 2 ^ platform.longBits

/-- The bytes of both arrays of `hev_socks5_session_udp_fwd_b`. -/
def fwdArrays (nums : Int) : Int := fwdBuffer nums + fwdMessages platform nums

/-- The bytes that `hev_ring_buffer_alloca` takes in `hev_socks5_session_tcp_splice`,
which are those of the five members before the data, too. -/
def ringBuffer (tcpBufferSize : Int) : Int :=
  (5 * platform.wordBytes + tcpBufferSize) % 2 ^ platform.longBits

/-- The sizes are in range and the stack has room for them beside the part that
is kept for everything else. -/
structure StacksFit (misc : HevMiscConfig) : Prop where
  tcpPositive : 0 < misc.tcpBufferSize
  tcpBounded : misc.tcpBufferSize ≤ Lwip.TCP_SND_BUF
  udpPositive : 1 ≤ misc.udpCopyBufferNums
  stack : TASK_STACK_SIZE +
    max misc.tcpBufferSize (UDP_BUF_SIZE * misc.udpCopyBufferNums) ≤
      misc.taskStackSize

/-- The sizes fit, and the arrays of `hev_socks5_session_udp_fwd_b` and the ring
buffer of `hev_socks5_session_tcp_splice` are no larger than what the stack has
beside that part. -/
structure BuffersFit (misc : HevMiscConfig) : Prop extends StacksFit misc where
  arrays : fwdArrays platform misc.udpCopyBufferNums ≤
    misc.taskStackSize - TASK_STACK_SIZE
  ring : ringBuffer platform misc.tcpBufferSize ≤ misc.taskStackSize - TASK_STACK_SIZE

/-- So many bytes are asked for by `task-stack-size`, by the TCP buffer, or by the UDP
buffers. -/
def Reserved (stack tcp nums bytes : Int) : Prop :=
  TASK_STACK_SIZE + bytes ≤ stack ∨ bytes ≤ tcp ∨ bytes ≤ UDP_BUF_SIZE * nums

instance (stack tcp nums bytes : Int) : Decidable (Reserved stack tcp nums bytes) :=
  inferInstanceAs (Decidable (_ ∨ _ ∨ _))

/-- The TCP buffer that the last setting leaves, which is cut. -/
def tcpSizeOf : Int := min (sizeOf platform doc "tcp-buffer-size" 65536) Lwip.TCP_SND_BUF

/-- So many bytes are asked for by the last settings. -/
def ReservedBy (bytes : Int) : Prop :=
  Reserved (sizeOf platform doc "task-stack-size" 86016) (tcpSizeOf platform doc)
    (sizeOf platform doc "udp-copy-buffer-nums" 10) bytes

instance (bytes : Int) : Decidable (ReservedBy platform doc bytes) :=
  inferInstanceAs (Decidable (Reserved _ _ _ _))

/-- The sizes are in range, and one of the settings asks for as much as each of the
buffers takes. -/
def BuffersInRange : Prop :=
  SizesInRange platform doc ∧
    ReservedBy platform doc
      (fwdArrays platform (sizeOf platform doc "udp-copy-buffer-nums" 10)) ∧
    ReservedBy platform doc (ringBuffer platform (tcpSizeOf platform doc))

instance : Decidable (BuffersInRange platform doc) :=
  inferInstanceAs (Decidable (_ ∧ _ ∧ _))

/-! ## What the sections set of a size -/

/-- The key is the one by which a section misc sets the field. -/
structure SetBy (key : String) (field : HevMiscConfig → Int) : Prop where
  pair : ∀ values other value,
    field (miscPair platform values other value).misc =
      if other = ascii key then platform.toInt value else field values.misc
  timeouts : ∀ values, field (setTimeouts values) = field values.misc

theorem setBy_tcpBufferSize :
    SetBy platform "tcp-buffer-size" HevMiscConfig.tcpBufferSize where
  pair values key value := by
    by_cases tcp : key = ascii "tcp-buffer-size"
    · have notStack : ascii "tcp-buffer-size" ≠ ascii "task-stack-size" := by
        simp [ascii]
      simp only [miscPair, tcp, notStack, if_false, if_true]
    · simp only [miscPair, tcp, apply_ite MiscValues.misc,
        apply_ite HevMiscConfig.tcpBufferSize, ite_self, if_false]
  timeouts values := by
    simp only [setTimeouts, apply_ite HevMiscConfig.tcpBufferSize, ite_self]

theorem setBy_udpCopyBufferNums :
    SetBy platform "udp-copy-buffer-nums" HevMiscConfig.udpCopyBufferNums where
  pair values key value := by
    by_cases udp : key = ascii "udp-copy-buffer-nums"
    · have notStack : ascii "udp-copy-buffer-nums" ≠ ascii "task-stack-size" := by
        simp [ascii]
      have notTcp : ascii "udp-copy-buffer-nums" ≠ ascii "tcp-buffer-size" := by
        simp [ascii]
      have notRecv : ascii "udp-copy-buffer-nums" ≠
          ascii "udp-recv-buffer-size" := by
        simp [ascii]
      simp only [miscPair, udp, notStack, notTcp, notRecv, if_false, if_true]
    · simp only [miscPair, udp, apply_ite MiscValues.misc,
        apply_ite HevMiscConfig.udpCopyBufferNums, ite_self, if_false]
  timeouts values := by
    simp only [setTimeouts, apply_ite HevMiscConfig.udpCopyBufferNums, ite_self]

theorem setBy_taskStackSize :
    SetBy platform "task-stack-size" HevMiscConfig.taskStackSize where
  pair values key value := by
    by_cases stack : key = ascii "task-stack-size"
    · simp only [miscPair, stack, if_true]
    · simp only [miscPair, stack, apply_ite MiscValues.misc,
        apply_ite HevMiscConfig.taskStackSize, ite_self, if_false]
  timeouts values := by
    simp only [setTimeouts, apply_ite HevMiscConfig.taskStackSize, ite_self]

/-- The value after some settings. -/
def setSize (key : String) (before : Int)
    (settings : List (List UInt8 × List UInt8)) : Int :=
  settings.foldl (fun size setting =>
    if setting.1 = ascii key then platform.toInt setting.2 else size) before

theorem setSize_snoc (key : String) (before : Int)
    (earlier : List (List UInt8 × List UInt8))
    (setting : List UInt8 × List UInt8) :
    setSize platform key before (earlier ++ [setting]) =
      if setting.1 = ascii key then platform.toInt setting.2
      else setSize platform key before earlier := by
  unfold setSize
  rw [List.foldl_append, List.foldl_cons, List.foldl_nil]

theorem lastSetting_snoc (key : String)
    (earlier : List (List UInt8 × List UInt8))
    (setting : List UInt8 × List UInt8) :
    lastSetting key (earlier ++ [setting]) =
      if setting.1 = ascii key then some setting.2
      else lastSetting key earlier := by
  unfold lastSetting
  rw [List.filter_append]
  split <;> simp [*]

/-- The last setting of the key counts. -/
theorem setSize_eq (key : String) (before : Int)
    (settings : List (List UInt8 × List UInt8)) :
    setSize platform key before settings =
      ((lastSetting key settings).map platform.toInt).getD before := by
  induction settings using List.reverseRecOn with
  | nil => simp [setSize, lastSetting]
  | append_singleton earlier setting inductionHypothesis =>
      rw [setSize_snoc, lastSetting_snoc, inductionHypothesis]
      split
      · rw [Option.map_some, Option.getD_some]
      · rfl

section Sections

variable {platform} {key : String} {field : HevMiscConfig → Int}
  (setBy : SetBy platform key field)
include setBy

theorem SetBy.parseMisc (pairs : List (Int × Int)) (misc : HevMiscConfig) :
    field (parseMisc platform doc (some (.mapping pairs)) misc).2 =
      setSize platform key (field misc)
        (doc.pairsRead Node.text? pairs) := by
  have loop : ∀ (settings : List (List UInt8 × List UInt8))
      (values : MiscValues),
      field (settings.foldl (fun values setting =>
        miscPair platform values setting.1 setting.2) values).misc =
      setSize platform key (field values.misc) settings := by
    intro settings
    induction settings with
    | nil =>
        intro values
        rfl
    | cons setting rest inductionHypothesis =>
        intro values
        rw [List.foldl_cons, inductionHypothesis, setBy.pair]
        rfl
  unfold HevConfig.parseMisc
  rw [setBy.timeouts, Document.eachPair_eq, loop]

/-- A section that is accepted sets the field by its settings, if it is a
section misc. -/
theorem SetBy.parseSection (name : List UInt8) (node : Option Node)
    (config : HevConfig)
    (accepted : ¬(parseSection platform doc name node config).1 < 0) :
    field (parseSection platform doc name node config).2.misc =
      setSize platform key (field config.misc)
        (if name = ascii "misc" then settingsOf doc node else []) := by
  unfold HevConfig.parseSection at accepted ⊢
  by_cases misc : name = ascii "misc"
  · have notTunnel : name ≠ ascii "tunnel" := by
      rw [misc]
      simp [ascii]
    have notSocks5 : name ≠ ascii "socks5" := by
      rw [misc]
      simp [ascii]
    have notMapdns : name ≠ ascii "mapdns" := by
      rw [misc]
      simp [ascii]
    rw [if_neg notTunnel, if_neg notSocks5, if_neg notMapdns, if_pos misc]
      at accepted ⊢
    rw [if_pos misc]
    match node with
    | some (.mapping pairs) => exact setBy.parseMisc doc pairs config.misc
    | some (.scalar _) => exact absurd neg_one_lt_zero accepted
    | some .sequence => exact absurd neg_one_lt_zero accepted
    | none => exact absurd neg_one_lt_zero accepted
  · rw [if_neg misc, if_neg misc]
    split_ifs <;> rfl

theorem SetBy.parseSections {pairs : List (Int × Int)} :
    ∀ config : HevConfig,
      ¬(parseSections platform doc pairs config).1 < 0 →
      field (parseSections platform doc pairs config).2.misc =
        setSize platform key (field config.misc) (miscSettingsOf doc pairs) := by
  induction pairs with
  | nil =>
      intro config _
      rfl
  | cons pair rest inductionHypothesis =>
      obtain ⟨keyIndex, valueIndex⟩ := pair
      intro config accepted
      unfold HevConfig.parseSections at accepted ⊢
      unfold miscSettingsOf
      by_cases skipped : keyIndex = 0 ∨ valueIndex = 0
      · rw [if_pos skipped] at accepted ⊢
        rw [if_pos skipped]
        exact inductionHypothesis config accepted
      rw [if_neg skipped] at accepted ⊢
      rw [if_neg skipped]
      cases keyText : doc.textAt keyIndex with
      | none => rfl
      | some name =>
          rw [keyText] at accepted
          dsimp only at accepted ⊢
          by_cases failed : (HevConfig.parseSection platform doc name
              (doc.getNode valueIndex) config).1 < 0
          · rw [if_pos failed] at accepted
            exact absurd neg_one_lt_zero accepted
          · rw [if_neg failed] at accepted ⊢
            rw [inductionHypothesis _ accepted,
              setBy.parseSection doc name _ config failed]
            exact List.foldl_append.symm

end Sections

/-! ## The sizes of an accepted document -/

/-- The settings before the stack is fitted. -/
theorem exists_fitStack (accepted : (parseDoc platform doc reset).1 = 0) :
    ∃ misc, (parseDoc platform doc reset).2.misc = fitStack misc ∧
      misc.tcpBufferSize = sizeOf platform doc "tcp-buffer-size" 65536 ∧
      misc.udpCopyBufferNums =
        sizeOf platform doc "udp-copy-buffer-nums" 10 ∧
      misc.taskStackSize = sizeOf platform doc "task-stack-size" 86016 := by
  have refused : (-1 : Int) ≠ 0 := by decide
  unfold parseDoc at accepted ⊢
  unfold sizeOf miscSettings
  cases root : doc.getRootNode with
  | none =>
      rw [root] at accepted
      exact absurd accepted refused
  | some node =>
      rw [root] at accepted
      match node with
      | .scalar _ => exact absurd accepted refused
      | .sequence => exact absurd accepted refused
      | .mapping pairs =>
          dsimp only at accepted ⊢
          by_cases failed : (parseSections platform doc pairs reset).1 < 0
          · rw [if_pos failed] at accepted
            exact absurd accepted refused
          · rw [if_neg failed]
            refine ⟨_, rfl, ?_, ?_, ?_⟩
            · rw [(setBy_tcpBufferSize platform).parseSections doc reset failed,
                setSize_eq]
              rfl
            · rw [(setBy_udpCopyBufferNums platform).parseSections doc reset
                failed, setSize_eq]
              rfl
            · rw [(setBy_taskStackSize platform).parseSections doc reset failed,
                setSize_eq]
              rfl

/-- A size is an `int`. -/
theorem sizeOf_lt (key : String) {default : Int} (small : default < 2 ^ 31) :
    sizeOf platform doc key default < 2 ^ 31 := by
  unfold sizeOf
  cases lastSetting key (miscSettings doc) with
  | none => exact small
  | some value =>
      rw [Option.map_some, Option.getD_some]
      exact (toInt32_range _).2

/-- The stack that the buffers ask for, as it is computed. -/
def minTaskStackSize (misc : HevMiscConfig) : Int :=
  if min misc.tcpBufferSize 65528 > toInt32 (1500 * misc.udpCopyBufferNums) then
    toInt32 (20480 + min misc.tcpBufferSize 65528)
  else toInt32 (20480 + toInt32 (1500 * misc.udpCopyBufferNums))

theorem tcpBufferSize_fitStack (misc : HevMiscConfig) :
    (fitStack misc).tcpBufferSize = min misc.tcpBufferSize 65528 := by
  have sndBuf : (Lwip.TCP_SND_BUF : Int) = 65528 := rfl
  unfold fitStack
  rw [sndBuf]
  dsimp only
  split <;> omega

theorem taskStackSize_fitStack (misc : HevMiscConfig) :
    (fitStack misc).taskStackSize =
      max misc.taskStackSize (minTaskStackSize misc) := by
  have cut := tcpBufferSize_fitStack misc
  unfold fitStack at cut ⊢
  unfold minTaskStackSize TASK_STACK_SIZE UDP_BUF_SIZE
  dsimp only at cut ⊢
  rw [cut]
  split <;> omega

/-- Whatever is left of a sum that wraps, the stack is an `int`. -/
theorem minTaskStackSize_lt (misc : HevMiscConfig) :
    minTaskStackSize misc < 2 ^ 31 := by
  unfold minTaskStackSize
  split <;> exact (toInt32_range _).2

theorem minTaskStackSize_of_small {misc : HevMiscConfig}
    (tcpPositive : 0 < misc.tcpBufferSize)
    (udpPositive : 1 ≤ misc.udpCopyBufferNums)
    (small : 20480 + 1500 * misc.udpCopyBufferNums < 2 ^ 31) :
    minTaskStackSize misc = 20480 +
      max (min misc.tcpBufferSize 65528) (1500 * misc.udpCopyBufferNums) := by
  have product : toInt32 (1500 * misc.udpCopyBufferNums) =
      1500 * misc.udpCopyBufferNums :=
    toInt32_of_range (by omega) (by omega)
  have udpSum : toInt32 (20480 + 1500 * misc.udpCopyBufferNums) =
      20480 + 1500 * misc.udpCopyBufferNums :=
    toInt32_of_range (by omega) (by omega)
  have tcpSum : toInt32 (20480 + min misc.tcpBufferSize 65528) =
      20480 + min misc.tcpBufferSize 65528 :=
    toInt32_of_range (by omega) (by omega)
  unfold minTaskStackSize
  rw [product, udpSum, tcpSum]
  split <;> omega

/-- The sizes fit after the fitting exactly where nothing wraps in it. -/
theorem stacksFit_fitStack_iff {misc : HevMiscConfig}
    (small : misc.taskStackSize < 2 ^ 31) :
    StacksFit (fitStack misc) ↔ 0 < misc.tcpBufferSize ∧
      1 ≤ misc.udpCopyBufferNums ∧
      TASK_STACK_SIZE + UDP_BUF_SIZE * misc.udpCopyBufferNums < 2 ^ 31 := by
  have sndBuf : (Lwip.TCP_SND_BUF : Int) = 65528 := rfl
  have tcp := tcpBufferSize_fitStack misc
  have udp : (fitStack misc).udpCopyBufferNums = misc.udpCopyBufferNums := rfl
  have stack := taskStackSize_fitStack misc
  unfold TASK_STACK_SIZE UDP_BUF_SIZE
  constructor
  · rintro ⟨tcpPositive, _, udpPositive, room⟩
    unfold TASK_STACK_SIZE UDP_BUF_SIZE at room
    rw [stack, udp] at room
    rw [tcp] at tcpPositive
    have computed := minTaskStackSize_lt misc
    exact ⟨by omega, udpPositive, by omega⟩
  · rintro ⟨tcpPositive, udpPositive, udpSmall⟩
    have computed := minTaskStackSize_of_small tcpPositive udpPositive udpSmall
    constructor
    · rw [tcp]
      omega
    · rw [tcp, sndBuf]
      exact min_le_right _ _
    · exact udpPositive
    · rw [stack, tcp, udp, computed]
      exact le_max_right _ _

/-- The stack has what one of the settings asks for. -/
theorem le_taskStackSize_fitStack {misc : HevMiscConfig} {bytes : Int}
    (tcpPositive : 0 < misc.tcpBufferSize) (udpPositive : 1 ≤ misc.udpCopyBufferNums)
    (udpSmall : TASK_STACK_SIZE + UDP_BUF_SIZE * misc.udpCopyBufferNums < 2 ^ 31) :
    bytes ≤ (fitStack misc).taskStackSize - TASK_STACK_SIZE ↔
      Reserved misc.taskStackSize (min misc.tcpBufferSize Lwip.TCP_SND_BUF)
        misc.udpCopyBufferNums bytes := by
  have sndBuf : (Lwip.TCP_SND_BUF : Int) = 65528 := rfl
  have computed := minTaskStackSize_of_small tcpPositive udpPositive udpSmall
  rw [taskStackSize_fitStack, computed, Reserved, sndBuf]
  unfold TASK_STACK_SIZE UDP_BUF_SIZE
  omega

/-- For every document that is accepted: the stacks have room for the buffers if and
only if the buffers are positive as they are stored, the stack that the UDP buffers
ask for is an `int`, and one of the settings asks for as much as each of the buffers
takes, with the messages of fwd_b and the head of the ring buffer. -/
theorem stacksFit_iff (accepted : (parseDoc platform doc reset).1 = 0) :
    BuffersFit platform (parseDoc platform doc reset).2.misc ↔
      BuffersInRange platform doc := by
  obtain ⟨misc, fitted, tcp, udp, stack⟩ :=
    exists_fitStack platform doc accepted
  have small : misc.taskStackSize < 2 ^ 31 := by
    rw [stack]
    exact sizeOf_lt platform doc _ (by decide)
  have fits : StacksFit (fitStack misc) ↔ SizesInRange platform doc := by
    rw [stacksFit_fitStack_iff small, tcp, udp]
    rfl
  have room (inRange : SizesInRange platform doc) (bytes : Int) :
      bytes ≤ (fitStack misc).taskStackSize - TASK_STACK_SIZE ↔
        ReservedBy platform doc bytes := by
    obtain ⟨tcpPositive, udpPositive, udpSmall⟩ := inRange
    rw [← tcp] at tcpPositive
    rw [← udp] at udpPositive udpSmall
    rw [le_taskStackSize_fitStack tcpPositive udpPositive udpSmall, tcp, udp, stack]
    rfl
  have udpFitted : (fitStack misc).udpCopyBufferNums =
      sizeOf platform doc "udp-copy-buffer-nums" 10 := udp
  have tcpFitted : (fitStack misc).tcpBufferSize = tcpSizeOf platform doc := by
    rw [tcpBufferSize_fitStack, tcp]
    rfl
  rw [fitted]
  constructor
  · rintro ⟨sizes, arrays, ring⟩
    have inRange := fits.mp sizes
    rw [udpFitted, room inRange] at arrays
    rw [tcpFitted, room inRange] at ring
    exact ⟨inRange, arrays, ring⟩
  · rintro ⟨inRange, arrays, ring⟩
    refine ⟨fits.mpr inRange, ?_, ?_⟩
    · rw [udpFitted, room inRange]
      exact arrays
    · rw [tcpFitted, room inRange]
      exact ring

/-- The condition in the bytes of a processor whose words have 4 or 8 of them: neither
array can be held by the part that the UDP buffers ask for themselves, and the ring
buffer never by the part that it asks for itself. -/
theorem buffersInRange_iff {word : Nat} (words : word = 4 ∨ word = 8)
    (bits : platform.longBits = 8 * word) :
    BuffersInRange platform doc ↔ SizesInRange platform doc ∧
      (TASK_STACK_SIZE + (UDP_BUF_SIZE + 3 * word) *
            sizeOf platform doc "udp-copy-buffer-nums" 10 ≤
          sizeOf platform doc "task-stack-size" 86016 ∨
        (UDP_BUF_SIZE + 3 * word) * sizeOf platform doc "udp-copy-buffer-nums" 10 ≤
          tcpSizeOf platform doc) ∧
      (TASK_STACK_SIZE + (5 * word + tcpSizeOf platform doc) ≤
          sizeOf platform doc "task-stack-size" 86016 ∨
        5 * word + tcpSizeOf platform doc ≤
          UDP_BUF_SIZE * sizeOf platform doc "udp-copy-buffer-nums" 10) := by
  refine and_congr_right fun inRange => ?_
  obtain ⟨tcpPositive, udpPositive, udpSmall⟩ := inRange
  have sndBuf : (Lwip.TCP_SND_BUF : Int) = 65528 := rfl
  have wordBytes : platform.wordBytes = word := by
    unfold Platform.wordBytes
    rw [bits]
    omega
  have least : (2 : Int) ^ 32 ≤ 2 ^ platform.longBits := by
    rw [bits]
    rcases words with rfl | rfl <;> decide
  have cut : tcpSizeOf platform doc = min (sizeOf platform doc "tcp-buffer-size" 65536)
    65528 := rfl
  unfold TASK_STACK_SIZE UDP_BUF_SIZE at *
  have arrays : fwdArrays platform (sizeOf platform doc "udp-copy-buffer-nums" 10) =
      (1500 + 3 * word) * sizeOf platform doc "udp-copy-buffer-nums" 10 := by
    have whole : sizeOf platform doc "udp-copy-buffer-nums" 10 % 2 ^ 32 =
        sizeOf platform doc "udp-copy-buffer-nums" 10 :=
      Int.emod_eq_of_lt (by omega) (by omega)
    unfold fwdArrays fwdBuffer fwdMessages UDP_BUF_SIZE
    rw [whole, wordBytes, Int.emod_eq_of_lt (by omega) (by omega), Int.add_mul]
    congr 1
    refine Int.emod_eq_of_lt ?_ ?_
    · rcases words with rfl | rfl <;> omega
    · rcases words with rfl | rfl <;> omega
  have ring : ringBuffer platform (tcpSizeOf platform doc) =
      5 * word + tcpSizeOf platform doc := by
    unfold ringBuffer
    rw [wordBytes]
    exact Int.emod_eq_of_lt (by omega) (by omega)
  unfold ReservedBy Reserved TASK_STACK_SIZE UDP_BUF_SIZE
  rw [arrays, ring]
  rcases words with rfl | rfl <;> omega

/-- A document that sets the TCP buffer beside a server. -/
def tcpBufferDoc (value : String) : Document where
  nodes := [.mapping [(2, 3), (8, 9)],
    .scalar (ascii "socks5"), .mapping [(4, 5), (6, 7)],
    .scalar (ascii "port"), .scalar (ascii "1080"),
    .scalar (ascii "address"), .scalar (ascii "127.0.0.1"),
    .scalar (ascii "misc"), .mapping [(10, 11)],
    .scalar (ascii "tcp-buffer-size"), .scalar (ascii value)]

/-- A processor with long words of 64 bits. -/
def wide : Platform where
  longBits := 64
  inetPton _ := none
  ntohl word := word
  strtoulAuto _ := 0

theorem stacksFit_iff_small_buffer :
    BuffersFit wide (parseDoc wide (tcpBufferDoc "4096") reset).2.misc := by
  have inRange : BuffersInRange wide (tcpBufferDoc "4096") := by decide +kernel
  exact (stacksFit_iff wide (tcpBufferDoc "4096") (by decide +kernel)).mpr inRange

/-- A buffer of three billion bytes is stored as a negative size. -/
theorem stack_without_room :
    ¬∀ (platform : Platform) (doc : Document),
      (parseDoc platform doc reset).1 = 0 →
        BuffersFit platform (parseDoc platform doc reset).2.misc := by
  intro fits
  have positive := (fits wide (tcpBufferDoc "3000000000")
    (by decide +kernel)).tcpPositive
  exact absurd positive (by decide +kernel)

end ProxyVPN.HevConfig
