/-
Module: ProxyVPN.Lib.Traffic
Purpose: What goes out of a process and what comes into it.  A weakest
  precondition speaks of both; it holds through all parts of sends and receives
  and through all losses, so what a process ensures it ensures in whatever
  surroundings it runs.
Trusted boundary: none
Main exports: Traffic, Process.Ensures, Process.ensures_bind, Ensures.move,
  Ensures.lose, Move.bind, Loses.bind, Process.alone, Traffic.Holds, ensures_send
-/
import ProxyVPN.Lib.Dialogue

namespace ProxyVPN.Dialogue

open Process

variable {β ρ σ : Type}

/-! ## Traffic -/

/-- What a process has sent and read.  Behind a send that failed, nothing more
counts as sent. -/
structure Traffic (β : Type) where
  sent : List β
  read : List β
  broken : Bool
deriving DecidableEq

namespace Traffic

def none : Traffic β := ⟨[], [], false⟩

def send (traffic : Traffic β) (items : List β) : Traffic β :=
  if traffic.broken then traffic
  else { traffic with sent := traffic.sent ++ items }

def receive (traffic : Traffic β) (items : List β) : Traffic β :=
  { traffic with read := traffic.read ++ items }

def fail (traffic : Traffic β) : Traffic β := { traffic with broken := true }

/-- The traffic behind the loss of what the process was about to do. -/
def lose (traffic : Traffic β) : Process β ρ → Traffic β
  | .send _ _ => traffic.fail
  | _ => traffic

/-- Sending reads nothing, -/
@[simp] theorem send_read (traffic : Traffic β) (items : List β) :
    (traffic.send items).read = traffic.read := by
  unfold send
  split
  · rfl
  · rfl

/-- and breaks nothing. -/
@[simp] theorem send_broken (traffic : Traffic β) (items : List β) :
    (traffic.send items).broken = traffic.broken := by
  unfold send
  split
  · rfl
  · rfl

/-- Receiving adds to what was read, -/
@[simp] theorem receive_read (traffic : Traffic β) (items : List β) :
    (traffic.receive items).read = traffic.read ++ items := rfl

/-- sends nothing, -/
@[simp] theorem receive_sent (traffic : Traffic β) (items : List β) :
    (traffic.receive items).sent = traffic.sent := rfl

/-- and breaks nothing. -/
@[simp] theorem receive_broken (traffic : Traffic β) (items : List β) :
    (traffic.receive items).broken = traffic.broken := rfl

/-- A failure keeps what was read, -/
@[simp] theorem fail_read (traffic : Traffic β) :
    traffic.fail.read = traffic.read := rfl

/-- and what was sent, -/
@[simp] theorem fail_sent (traffic : Traffic β) :
    traffic.fail.sent = traffic.sent := rfl

/-- and is remembered. -/
@[simp] theorem fail_broken (traffic : Traffic β) :
    traffic.fail.broken = true := rfl

/-- A process that loses its peer has read what it had read. -/
@[simp] theorem lose_read (traffic : Traffic β) (process : Process β ρ) :
    (traffic.lose process).read = traffic.read := by
  cases process <;> rfl

/-- Receiving nothing changes nothing, -/
@[simp] theorem receive_nil (traffic : Traffic β) :
    traffic.receive [] = traffic := by
  unfold receive
  rw [List.append_nil]

/-- and neither does sending nothing. -/
@[simp] theorem send_nil (traffic : Traffic β) : traffic.send [] = traffic := by
  unfold send
  split
  · rfl
  · rw [List.append_nil]

/-- Two receives are one of both parts, -/
theorem receive_receive (traffic : Traffic β) (front back : List β) :
    (traffic.receive front).receive back = traffic.receive (front ++ back) := by
  unfold receive
  simp only [List.append_assoc]

/-- and two sends are. -/
theorem send_send (traffic : Traffic β) (front back : List β) :
    (traffic.send front).send back = traffic.send (front ++ back) := by
  cases traffic with
  | mk sent read broken =>
      cases broken
      · change (⟨(sent ++ front) ++ back, read, false⟩ : Traffic β) =
          ⟨sent ++ (front ++ back), read, false⟩
        rw [List.append_assoc]
      · rfl

end Traffic

/-! ## Weakest preconditions -/

namespace Process

/-- Every end of the process satisfies `post`, whatever it receives and
whatever it loses. -/
def Ensures (post : Traffic β → ρ → Prop) :
    Process β ρ → Traffic β → Prop
  | .done result, traffic => post traffic result
  | .send items next, traffic =>
      (next true).Ensures post (traffic.send items) ∧
        ∀ front, front <+: items → (front = items → items = []) →
          ∀ sent, (next sent).Ensures post (traffic.send front).fail
  | .recv count next, traffic =>
      (∀ front, front.length = count →
        (next (some front)).Ensures post (traffic.receive front)) ∧
        ∀ front, front.length ≤ count →
          (next none).Ensures post (traffic.receive front)

/-- A postcondition may be weakened. -/
theorem Ensures.mono {post weaker : Traffic β → ρ → Prop}
    {process : Process β ρ} {traffic : Traffic β}
    (ensures : process.Ensures post traffic)
    (implied : ∀ traffic result, post traffic result → weaker traffic result) :
    process.Ensures weaker traffic := by
  induction process generalizing traffic with
  | done result => exact implied _ _ ensures
  | send items next inductionHypothesis =>
      exact ⟨inductionHypothesis _ ensures.1, fun front within partly sent =>
        inductionHypothesis _ (ensures.2 front within partly sent)⟩
  | recv count next inductionHypothesis =>
      exact ⟨fun front sized => inductionHypothesis _ (ensures.1 front sized),
        fun front sized => inductionHypothesis _ (ensures.2 front sized)⟩

/-- What two processes ensure one after the other, the first ensures with what
the second does behind it. -/
theorem ensures_bind (post : Traffic β → σ → Prop) (process : Process β ρ)
    (rest : ρ → Process β σ) (traffic : Traffic β) :
    (process >>= rest).Ensures post traffic ↔
      process.Ensures (fun traffic result => (rest result).Ensures post traffic)
        traffic := by
  induction process generalizing traffic with
  | done result => exact Iff.rfl
  | send items next inductionHypothesis =>
      refine and_congr (inductionHypothesis _ _) ?_
      exact forall_congr' fun front => forall₃_congr fun _ _ sent =>
        inductionHypothesis sent _
  | recv count next inductionHypothesis =>
      refine and_congr ?_ ?_
      · exact forall₂_congr fun front _ => inductionHypothesis _ _
      · exact forall₂_congr fun front _ => inductionHypothesis _ _

/-- What follows a process begins where it may end. -/
theorem Ensures.bind {middle : Traffic β → ρ → Prop} {post : Traffic β → σ → Prop}
    {process : Process β ρ} {rest : ρ → Process β σ} {traffic : Traffic β}
    (ensures : process.Ensures middle traffic)
    (behind : ∀ later result, middle later result →
      (rest result).Ensures post later) :
    (process >>= rest).Ensures post traffic :=
  (ensures_bind _ _ _ _).mpr (ensures.mono behind)

/-- A part of a send or receive keeps what is ensured. -/
theorem Ensures.move {post : Traffic β → ρ → Prop}
    {process later : Process β ρ} {traffic : Traffic β}
    {incoming came rest out : List β} (ensures : process.Ensures post traffic)
    (moves : Move process incoming later rest out)
    (split : incoming = came ++ rest) :
    later.Ensures post ((traffic.send out).receive came) := by
  cases moves with
  | @send items _ back _ next parts progress =>
      have nothing : came = [] := List.self_eq_append_left.mp split
      rw [nothing, Traffic.receive_nil]
      cases back with
      | nil =>
          rw [List.append_nil] at parts
          rw [← parts]
          exact ensures.1
      | cons first others =>
          refine ⟨?_, ?_⟩
          · rw [Traffic.send_send, ← parts]
            exact ensures.1
          · intro front within partly sent
            rw [Traffic.send_send]
            apply ensures.2
            · rw [parts]
              exact (List.prefix_append_right_inj _).mpr within
            · intro whole
              rw [parts] at whole
              have same := partly (List.append_cancel_left whole)
              cases same
  | @recv _ left _ front _ next parts within progress =>
      have same : came = front :=
        List.append_cancel_right (split.symm.trans parts)
      rw [same, Traffic.send_nil]
      have ofPrepend : ∀ more : Option (List β), prepend front next more =
        next (more.map (front ++ ·)) := fun _ => rfl
      cases left with
      | zero =>
          change (prepend front next (some [])).Ensures post _
          rw [ofPrepend, Option.map_some, List.append_nil]
          exact ensures.1 front within.symm
      | succ left =>
          refine ⟨?_, ?_⟩
          · intro more sized
            rw [Traffic.receive_receive, ofPrepend]
            apply ensures.1
            rw [List.length_append, sized, within]
          · intro more sized
            rw [Traffic.receive_receive]
            apply ensures.2
            rw [List.length_append, within]
            omega

/-- So does a loss. -/
theorem Ensures.lose {post : Traffic β → ρ → Prop}
    {process later : Process β ρ} {traffic : Traffic β}
    (ensures : process.Ensures post traffic) (loses : Loses process later) :
    later.Ensures post (traffic.lose process) := by
  cases loses with
  | @send items next sent =>
      have failed := ensures.2 [] List.nil_prefix Eq.symm sent
      rw [Traffic.send_nil] at failed
      exact failed
  | recv =>
      have failed := ensures.2 [] (Nat.zero_le _)
      rw [Traffic.receive_nil] at failed
      exact failed

end Process

/-! ## Processes that go on -/

namespace Process

/-- A part of a process is one of whatever goes on behind it. -/
theorem Move.bind {process later : Process β ρ} {incoming rest out : List β}
    (moves : Move process incoming later rest out) (behind : ρ → Process β σ) :
    Move (process >>= behind) incoming (later >>= behind) rest out := by
  cases moves with
  | @send items _ back _ next split progress =>
      have whole : Move (.send items fun sent => next sent >>= behind) incoming
          (sending (fun sent => next sent >>= behind) back) incoming out :=
        .send split progress
      cases back with
      | nil => exact whole
      | cons first others => exact whole
  | @recv count left _ front _ next split within progress =>
      have whole : Move (.recv count fun received => next received >>= behind)
          incoming (receiving (prepend front
            fun received => next received >>= behind) left) rest [] :=
        .recv split within progress
      cases left with
      | zero => exact whole
      | succ left => exact whole

/-- A process that loses its peer loses it with whatever stands behind. -/
theorem Loses.bind {process later : Process β ρ} (loses : Loses process later)
    (behind : ρ → Process β σ) : Loses (process >>= behind) (later >>= behind) := by
  cases loses with
  | send sent => exact .send sent
  | recv => exact .recv

end Process

/-- What the process comes to on a stream where nothing is lost, and what it
leaves of it. -/
def Process.alone : Process β ρ → List β → Option (ρ × List β)
  | .done result, incoming => some (result, incoming)
  | .send _ next, incoming => (next true).alone incoming
  | .recv count next, incoming =>
      if count ≤ incoming.length then
        (next (some (incoming.take count))).alone (incoming.drop count)
      else none

/-! ## What counts as sent -/

namespace Traffic

/-- The process has sent exactly these items, or a send of a part of them
failed. -/
def Holds (traffic : Traffic β) (items : List β) : Prop :=
  if traffic.broken then
    traffic.sent <+: items ∧ traffic.sent.length < items.length
  else traffic.sent = items

/-- Nothing was sent at the beginning. -/
theorem holds_none : (none : Traffic β).Holds [] := rfl

/-- Receiving keeps what was sent, -/
theorem Holds.receive {traffic : Traffic β} {items : List β}
    (holds : traffic.Holds items) (came : List β) :
    (traffic.receive came).Holds items := holds

/-- sending adds to it, -/
theorem Holds.send {traffic : Traffic β} {items : List β}
    (holds : traffic.Holds items) (more : List β) :
    (traffic.send more).Holds (items ++ more) := by
  unfold Holds at holds ⊢
  rw [send_broken]
  unfold Traffic.send
  by_cases broken : traffic.broken
  · rw [if_pos broken] at holds ⊢
    rw [if_pos broken, List.length_append]
    exact ⟨holds.1.trans (List.prefix_append _ _), by omega⟩
  · rw [if_neg broken] at holds ⊢
    rw [if_neg broken]
    exact congrArg (· ++ more) holds

/-- and a send that failed has sent a part of what was meant. -/
theorem Holds.fail {traffic : Traffic β} {items front more : List β}
    (holds : traffic.Holds items) (within : front <+: more)
    (partly : front.length < more.length) :
    (traffic.send front).fail.Holds (items ++ more) := by
  unfold Holds at holds ⊢
  rw [if_pos (by rfl), fail_sent, List.length_append]
  unfold Traffic.send
  by_cases broken : traffic.broken
  · rw [if_pos broken] at holds ⊢
    exact ⟨holds.1.trans (List.prefix_append _ _), by omega⟩
  · rw [if_neg broken] at holds ⊢
    change traffic.sent ++ front <+: items ++ more ∧
      (traffic.sent ++ front).length < _
    rw [List.length_append, holds]
    exact ⟨(List.prefix_append_right_inj _).mpr within, by omega⟩

/-- What was sent is a part of what was meant. -/
theorem Holds.sent_prefix {traffic : Traffic β} {items : List β}
    (holds : traffic.Holds items) : traffic.sent <+: items := by
  unfold Holds at holds
  split at holds
  case isTrue => exact holds.1
  case isFalse => rw [holds]

end Traffic

/-- A send, whether it goes through or not, leads to traffic that holds its
items. -/
theorem ensures_send {post : Traffic β → ρ → Prop} {traffic : Traffic β}
    {before items : List β} {next : Bool → Process β ρ} (nonempty : items ≠ [])
    (holds : traffic.Holds before)
    (behind : ∀ later : Traffic β, later.read = traffic.read →
      later.Holds (before ++ items) → ∀ sent, (next sent).Ensures post later) :
    (Process.send items next).Ensures post traffic := by
  refine ⟨behind _ (Traffic.send_read _ _) (holds.send items) true, ?_⟩
  intro front within partly sent
  refine behind _ ?_ (holds.fail within ?_) sent
  · rw [Traffic.fail_read, Traffic.send_read]
  · refine lt_of_le_of_ne within.length_le ?_
    intro same
    exact nonempty (partly (within.eq_of_length same))

end ProxyVPN.Dialogue
