/-
Module: ProxyVPN.Lib.Inquiry
Purpose: A process against a peer that is a function of what it has consumed.
  The peer answers in its own time and may close its end; what the process
  ensures holds in every run, and where the answers suffice for it every run
  ends the same way.
Trusted boundary: none
Main exports: Responder, Responder.emitted, Inquiry, inquiry, Consistent,
  consistent_of_reachable, ensures_of_reachable, done_of_stopped, Proceeds,
  Proceeds.ends, inquiry_terminates, exists_stopped
-/
import ProxyVPN.Lib.Traffic

namespace ProxyVPN.Dialogue

open Process Transition

variable {β ρ : Type}

/-! ## Peers -/

/-- What a peer sends when it has consumed exactly these items, and whether it
then closes its end. -/
structure Responder (β : Type) where
  answer : List β → List β
  closes : List β → Bool

namespace Responder

/-- What the peer sends while it consumes some items behind others. -/
def emittedFrom (peer : Responder β) : List β → List β → List β
  | _, [] => []
  | before, first :: rest =>
      peer.answer (before ++ [first]) ++ peer.emittedFrom (before ++ [first]) rest

/-- What the peer has sent when it has consumed these items. -/
def emitted (peer : Responder β) (consumed : List β) : List β :=
  peer.emittedFrom [] consumed

/-- The peer sends nothing inside the message. -/
def SilentWithin (peer : Responder β) (before message : List β) : Prop :=
  ∀ front back, message = front ++ back → front ≠ [] → back ≠ [] →
    peer.answer (before ++ front) = []

/-- The peer does not close its end before it has consumed these items. -/
def StaysFor (peer : Responder β) (items : List β) : Prop :=
  ∀ front back, items = front ++ back → back ≠ [] → peer.closes front = false

theorem emittedFrom_append (peer : Responder β) (before front back : List β) :
    peer.emittedFrom before (front ++ back) =
      peer.emittedFrom before front ++ peer.emittedFrom (before ++ front) back := by
  induction front generalizing before with
  | nil => rw [List.append_nil, emittedFrom, List.nil_append, List.nil_append]
  | cons first rest inductionHypothesis =>
      rw [List.cons_append, emittedFrom, emittedFrom, inductionHypothesis,
        List.append_assoc, List.append_assoc, List.singleton_append]

theorem emitted_append (peer : Responder β) (front back : List β) :
    peer.emitted (front ++ back) =
      peer.emitted front ++ peer.emittedFrom front back :=
  emittedFrom_append peer [] front back

theorem emitted_snoc (peer : Responder β) (front : List β) (item : β) :
    peer.emitted (front ++ [item]) =
      peer.emitted front ++ peer.answer (front ++ [item]) := by
  rw [emitted_append, emittedFrom, emittedFrom, List.append_nil]

theorem emitted_prefix (peer : Responder β) {front whole : List β}
    (within : front <+: whole) : peer.emitted front <+: peer.emitted whole := by
  obtain ⟨back, rfl⟩ := within
  rw [emitted_append]
  exact List.prefix_append _ _

/-- Inside a message there is no answer. -/
theorem SilentWithin.emittedFrom_eq_nil {peer : Responder β}
    {before message front back : List β}
    (silent : peer.SilentWithin before message) (split : message = front ++ back)
    (inside : back ≠ []) : peer.emittedFrom before front = [] := by
  induction front using List.reverseRecOn generalizing back with
  | nil => rfl
  | append_singleton front last inductionHypothesis =>
      have answer := silent (front ++ [last]) back split
        (List.append_ne_nil_of_right_ne_nil _ (List.cons_ne_nil _ _)) inside
      rw [List.append_assoc] at split
      rw [emittedFrom_append, inductionHypothesis split
        (List.append_ne_nil_of_left_ne_nil (List.cons_ne_nil _ _) _)]
      rw [emittedFrom, emittedFrom, List.append_assoc, answer]
      rfl

/-- A whole message is answered at its end. -/
theorem SilentWithin.emittedFrom_eq {peer : Responder β}
    {before message : List β} (silent : peer.SilentWithin before message)
    (nonempty : message ≠ []) :
    peer.emittedFrom before message = peer.answer (before ++ message) := by
  have split := (List.dropLast_append_getLast nonempty).symm
  rw [split, emittedFrom_append,
    silent.emittedFrom_eq_nil split (List.cons_ne_nil _ _), List.nil_append,
    emittedFrom, emittedFrom, List.append_nil, List.append_assoc]

/-- The lengths inside a message are finitely many. -/
theorem SilentWithin.of_take {peer : Responder β} {before message : List β}
    (silent : ∀ count < message.length, 0 < count →
      peer.answer (before ++ message.take count) = []) :
    peer.SilentWithin before message := by
  rintro front back rfl nonempty inside
  have positive := List.length_pos_iff.mpr inside
  have shorter : front.length < (front ++ back).length := by
    rw [List.length_append]
    omega
  have answer := silent front.length shorter (List.length_pos_iff.mpr nonempty)
  rw [List.take_left] at answer
  exact answer

theorem StaysFor.snoc {peer : Responder β} {items : List β}
    (stays : peer.StaysFor items) (open_ : peer.closes items = false)
    (last : β) : peer.StaysFor (items ++ [last]) := by
  intro front back split inside
  rcases List.eq_nil_or_concat back with rfl | ⟨back, item, rfl⟩
  · exact absurd rfl inside
  rw [List.concat_eq_append, ← List.append_assoc] at split
  have same := List.append_inj_left' split rfl
  by_cases whole : back = []
  · rw [whole, List.append_nil] at same
    rw [← same]
    exact open_
  · exact stays front back same whole

/-- A peer that has closed its end inside these items does not stay for them. -/
theorem StaysFor.eq_of_closed {peer : Responder β} {items front : List β}
    (stays : peer.StaysFor items) (within : front <+: items)
    (closed : peer.closes front = true) : front = items := by
  obtain ⟨back, rfl⟩ := within
  by_contra different
  have inside : back ≠ [] := by
    intro none
    rw [none, List.append_nil] at different
    exact different rfl
  rw [stays front back rfl inside] at closed
  cases closed

end Responder

/-! ## Inquiries -/

/-- A process, what is on its way to the peer, what the peer has consumed, and
what is on its way back. -/
structure Inquiry (β ρ : Type) where
  client : Process β ρ
  toPeer : List β
  consumed : List β
  toClient : List β
  traffic : Traffic β

inductive InquiryTurn where
  | client
  | peer
  | sendFails
  | recvEnds

/-- One part of a send or receive of the process, or one item for the peer.  A
send fails only where the peer has closed its end, and a receive ends only where
nothing more comes and what is there is too short. -/
inductive InquiryStep (peer : Responder β) :
    Inquiry β ρ → InquiryTurn → Inquiry β ρ → Prop where
  | client {state : Inquiry β ρ} {later : Process β ρ} {came rest out : List β}
      (moves : Move state.client state.toClient later rest out)
      (split : state.toClient = came ++ rest) :
      InquiryStep peer state .client
        { state with
          client := later
          toPeer := state.toPeer ++ out
          toClient := rest
          traffic := (state.traffic.send out).receive came }
  | peer {state : Inquiry β ρ} {first : β} {rest : List β}
      (arrived : state.toPeer = first :: rest)
      (stays : peer.closes state.consumed = false) :
      InquiryStep peer state .peer
        { state with
          toPeer := rest
          consumed := state.consumed ++ [first]
          toClient := state.toClient ++ peer.answer (state.consumed ++ [first]) }
  | sendFails {state : Inquiry β ρ} {items : List β}
      {next : Bool → Process β ρ} (sent : Bool)
      (sends : state.client = .send items next)
      (closed : peer.closes state.consumed = true) :
      InquiryStep peer state .sendFails
        { state with client := next sent, traffic := state.traffic.fail }
  | recvEnds {state : Inquiry β ρ} {count : Nat}
      {next : Option (List β) → Process β ρ}
      (receives : state.client = .recv count next)
      (ended : peer.closes state.consumed = true ∨ state.toPeer = [])
      (short : state.toClient.length < count) :
      InquiryStep peer state .recvEnds { state with client := next none }

/-- All runs of the process against the peer. -/
def inquiry (peer : Responder β) (client : Process β ρ) :
    System (Inquiry β ρ) InquiryTurn where
  start state := state = ⟨client, [], [], [], .none⟩
  step := InquiryStep peer

/-! ## Invariants -/

/-- How the traffic of the process belongs to what the peer did. -/
structure Consistent (peer : Responder β) (state : Inquiry β ρ) : Prop where
  read : state.traffic.read ++ state.toClient = peer.emitted state.consumed
  sent : state.traffic.broken = false →
    state.traffic.sent = state.consumed ++ state.toPeer
  consumed : state.consumed <+: state.traffic.sent
  closed : state.traffic.broken = true → peer.closes state.consumed = true
  stays : peer.StaysFor state.consumed

theorem Consistent.step {peer : Responder β} {state next : Inquiry β ρ}
    {turn : InquiryTurn} (consistent : Consistent peer state)
    (taken : InquiryStep peer state turn next) : Consistent peer next := by
  cases taken with
  | client moves split =>
      refine ⟨?_, ?_, ?_, ?_, consistent.stays⟩
      · rw [← consistent.read, split]
        simp only [Traffic.receive_read, Traffic.send_read, List.append_assoc]
      · intro whole
        rw [Traffic.receive_broken, Traffic.send_broken] at whole
        rw [Traffic.receive_sent]
        unfold Traffic.send
        rw [whole, if_neg Bool.false_ne_true, consistent.sent whole]
        exact List.append_assoc _ _ _
      · rw [Traffic.receive_sent]
        unfold Traffic.send
        split
        case isTrue => exact consistent.consumed
        case isFalse =>
          exact consistent.consumed.trans (List.prefix_append _ _)
      · rw [Traffic.receive_broken, Traffic.send_broken]
        exact consistent.closed
  | @peer first rest arrived open_ =>
      have whole : state.traffic.broken = false := by
        by_contra broken
        have closed := consistent.closed ((Bool.not_eq_false _).mp broken)
        rw [open_] at closed
        cases closed
      have sent := consistent.sent whole
      rw [arrived] at sent
      refine ⟨?_, ?_, ?_, ?_, consistent.stays.snoc open_ first⟩
      · rw [← List.append_assoc, consistent.read, Responder.emitted_snoc]
      · intro _
        rw [sent, List.append_assoc, List.singleton_append]
      · rw [sent]
        exact ⟨rest, by rw [List.append_assoc, List.singleton_append]⟩
      · intro broken
        rw [whole] at broken
        cases broken
  | sendFails sent sends closed =>
      exact ⟨consistent.read, nofun, consistent.consumed, fun _ => closed,
        consistent.stays⟩
  | recvEnds receives ended short =>
      exact ⟨consistent.read, consistent.sent, consistent.consumed,
        consistent.closed, consistent.stays⟩

theorem consistent_of_reachable {peer : Responder β} {client : Process β ρ}
    {state : Inquiry β ρ} (reached : (inquiry peer client).Reachable state) :
    Consistent peer state := by
  have invariant : Invariant (inquiry peer client) (Consistent peer) := by
    constructor
    · rintro state rfl
      refine ⟨rfl, fun _ => rfl, List.prefix_rfl, nofun, ?_⟩
      intro front back split inside
      exact absurd (List.append_eq_nil_iff.mp split.symm).2 inside
    · intro state turn next consistent taken
      exact consistent.step taken
  exact invariant.reachable reached

/-- What the process ensures holds in every run. -/
theorem ensures_of_reachable {peer : Responder β} {client : Process β ρ}
    {post : Traffic β → ρ → Prop} (ensures : client.Ensures post .none)
    {state : Inquiry β ρ} (reached : (inquiry peer client).Reachable state) :
    state.client.Ensures post state.traffic := by
  have invariant : Invariant (inquiry peer client)
      fun state => state.client.Ensures post state.traffic := by
    constructor
    · rintro state rfl
      exact ensures
    · intro state turn next ensures taken
      cases taken with
      | client moves split => exact ensures.move moves split
      | peer _ _ => exact ensures
      | sendFails sent sends _ =>
          rw [sends] at ensures
          exact ensures.lose (.send sent)
      | recvEnds receives _ _ =>
          rw [receives] at ensures
          exact ensures.lose .recv
  exact invariant.reachable reached

/-- Where a run stops the process is done. -/
theorem done_of_stopped {peer : Responder β} {state : Inquiry β ρ}
    (stopped : ∀ turn next, ¬InquiryStep peer state turn next) :
    ∃ result, state.client = .done result := by
  cases held : state.client with
  | done result => exact ⟨result, rfl⟩
  | send items next =>
      have moves := move_send items state.toClient next
      rw [← held] at moves
      exact absurd (.client moves (List.nil_append _).symm) (stopped .client _)
  | recv count next =>
      by_cases enough : count ≤ state.toClient.length
      · have moves := move_recv (state.toClient.take count)
          (state.toClient.drop count) next
        rw [List.length_take_of_le enough, List.take_append_drop, ← held] at moves
        exact absurd (.client moves (List.take_append_drop _ _).symm)
          (stopped .client _)
      · have short := not_le.mp enough
        cases arrived : state.toPeer with
        | nil =>
            exact absurd (.recvEnds held (.inr arrived) short)
              (stopped .recvEnds _)
        | cons first rest =>
            cases closed : peer.closes state.consumed with
            | true =>
                exact absurd (.recvEnds held (.inl closed) short)
                  (stopped .recvEnds _)
            | false => exact absurd (.peer arrived closed) (stopped .peer _)

/-! ## Sufficient answers -/

/-- The process comes to its ending with the items of `whole` sent and those of
`replies` read: at each receive, the peer will have sent enough by then. -/
inductive Proceeds (peer : Responder β) (ending : ρ) (whole replies : List β) :
    Process β ρ → List β → List β → Prop where
  | done : Proceeds peer ending whole replies (.done ending) whole replies
  | send {items sent read : List β} {next : Bool → Process β ρ}
      (nonempty : items ≠ []) (within : sent ++ items <+: whole)
      (behind : Proceeds peer ending whole replies (next true) (sent ++ items)
        read) :
      Proceeds peer ending whole replies (.send items next) sent read
  | recv {count : Nat} {front sent read : List β}
      {next : Option (List β) → Process β ρ} (sized : front.length = count)
      (within : read ++ front <+: peer.emitted sent)
      (behind : Proceeds peer ending whole replies (next (some front)) sent
        (read ++ front)) :
      Proceeds peer ending whole replies (.recv count next) sent read

section Proceeds

variable {peer : Responder β} {ending : ρ} {whole replies sent read : List β}
  {process : Process β ρ}

theorem Proceeds.sent_prefix
    (proceeds : Proceeds peer ending whole replies process sent read) :
    sent <+: whole := by
  induction proceeds with
  | done => exact List.prefix_rfl
  | send _ within _ _ => exact (List.prefix_append _ _).trans within
  | recv _ _ _ inductionHypothesis => exact inductionHypothesis

theorem Proceeds.move
    (proceeds : Proceeds peer ending whole replies process sent read)
    {incoming came rest out : List β} {later : Process β ρ}
    (moves : Move process incoming later rest out)
    (split : incoming = came ++ rest)
    (come : read ++ came <+: peer.emitted sent) :
    Proceeds peer ending whole replies later (sent ++ out) (read ++ came) := by
  cases moves with
  | @send items _ back _ next parts progress =>
      have nothing : came = [] := List.self_eq_append_left.mp split
      rw [nothing, List.append_nil]
      cases proceeds with
      | send nonempty within behind =>
          rw [parts, ← List.append_assoc] at within behind
          cases back with
          | nil =>
              rw [List.append_nil] at behind
              exact behind
          | cons first others =>
              exact .send (List.cons_ne_nil _ _) within behind
  | @recv count left _ front _ next parts sized progress =>
      have same : came = front :=
        List.append_cancel_right (split.symm.trans parts)
      rw [same] at come
      rw [same, List.append_nil]
      cases proceeds with
      | @recv _ full _ _ _ fullSized within behind =>
          -- the part is the beginning of what the process will read
          obtain ⟨more, rfl⟩ : ∃ more, front ++ more = full := by
            refine (List.prefix_append_right_inj read).mp
              (List.prefix_of_prefix_length_le come within ?_)
            rw [List.length_append, List.length_append]
            omega
          rw [List.length_append, sized] at fullSized
          have moreSized := Nat.add_left_cancel fullSized
          rw [← List.append_assoc] at within behind
          cases left with
          | zero =>
              have settled : receiving (prepend front next) 0 =
                  next (some front) :=
                congrArg (fun items => next (some items)) (List.append_nil front)
              rw [List.eq_nil_of_length_eq_zero moreSized, List.append_nil,
                List.append_nil] at behind
              rw [settled]
              exact behind
          | succ left => exact .recv moreSized within behind

/-- Where the answers suffice and the peer stays long enough, every run that
stops has come to the ending, with all items sent and read. -/
theorem Proceeds.ends {client : Process β ρ}
    (proceeds : Proceeds peer ending whole replies client [] [])
    (stays : peer.StaysFor whole) {state : Inquiry β ρ}
    (reached : (inquiry peer client).Reachable state)
    (stopped : ∀ turn next, ¬InquiryStep peer state turn next) :
    state.client = .done ending ∧ state.traffic = ⟨whole, replies, false⟩ := by
  have invariant : Invariant (inquiry peer client) fun state =>
      Consistent peer state ∧ state.traffic.broken = false ∧
        Proceeds peer ending whole replies state.client state.traffic.sent
          state.traffic.read := by
    constructor
    · rintro state rfl
      exact ⟨consistent_of_reachable ⟨_, [], rfl, .nil _⟩, rfl, proceeds⟩
    · rintro state turn next ⟨consistent, unbroken, proceeds⟩ taken
      have sent := consistent.sent unbroken
      have sentWithin := proceeds.sent_prefix
      refine ⟨consistent.step taken, ?_⟩
      cases taken with
      | @client later came rest out moves split =>
          refine ⟨?_, ?_⟩
          · rw [Traffic.receive_broken, Traffic.send_broken]
            exact unbroken
          · have come : state.traffic.read ++ came <+:
                peer.emitted state.traffic.sent := by
              refine List.IsPrefix.trans ?_
                (peer.emitted_prefix consistent.consumed)
              rw [← consistent.read, split, ← List.append_assoc]
              exact List.prefix_append _ _
            have later := proceeds.move moves split come
            rw [Traffic.receive_sent, Traffic.receive_read, Traffic.send_read]
            unfold Traffic.send
            rw [unbroken, if_neg Bool.false_ne_true]
            exact later
      | peer _ _ => exact ⟨unbroken, proceeds⟩
      | sendFails _ sends closed =>
          rw [sends] at proceeds
          cases proceeds with
          | send nonempty within _ =>
              -- the peer has closed its end before the last items
              have same := stays.eq_of_closed
                (consistent.consumed.trans
                  ((List.prefix_append _ _).trans within)) closed
              have longer := within.length_le
              have shorter := consistent.consumed.length_le
              have positive := List.length_pos_iff.mpr nonempty
              rw [List.length_append] at longer
              rw [same] at shorter
              omega
      | recvEnds receives ended short =>
          rw [receives] at proceeds
          cases proceeds with
          | recv sized within _ =>
              have all : state.consumed = state.traffic.sent := by
                rcases ended with closed | arrived
                · have same := stays.eq_of_closed
                    (consistent.consumed.trans sentWithin) closed
                  exact consistent.consumed.eq_of_length_le
                    (same ▸ sentWithin.length_le)
                · rw [sent, arrived, List.append_nil]
              rw [← all, ← consistent.read] at within
              have longer := within.length_le
              rw [List.length_append, List.length_append] at longer
              omega
  obtain ⟨consistent, unbroken, proceeds⟩ := invariant.reachable reached
  obtain ⟨result, isDone⟩ := done_of_stopped stopped
  rw [isDone] at proceeds ⊢
  cases held : state.traffic with
  | mk allSent allRead broken =>
      rw [held] at proceeds unbroken
      cases unbroken
      cases proceeds with
      | done => exact ⟨rfl, rfl⟩

end Proceeds

/-! ## Termination -/

/-- Every run is finite. -/
theorem inquiry_terminates (peer : Responder β) (state : Inquiry β ρ) :
    Acc (fun later earlier => ∃ turn, InquiryStep peer earlier turn later)
      state := by
  have pair : Acc (Prod.Lex Later (· < ·)) (state.client, state.toPeer.length) :=
    Prod.lexAccessible state.client.acc (fun _ => Nat.lt_wfRel.wf.apply _) _
  refine Subrelation.accessible ?_ (InvImage.accessible
    (fun state : Inquiry β ρ => (state.client, state.toPeer.length)) pair)
  rintro later earlier ⟨turn, taken⟩
  cases taken with
  | client moves _ => exact .left _ _ (.inl ⟨_, _, _, moves⟩)
  | peer arrived _ =>
      refine .right _ ?_
      rw [arrived]
      exact Nat.lt_succ_self _
  | sendFails sent sends _ =>
      refine .left _ _ (.inr ?_)
      rw [sends]
      exact .send sent
  | recvEnds receives _ _ =>
      refine .left _ _ (.inr ?_)
      rw [receives]
      exact .recv

/-- Every run goes on to a state where it stops. -/
theorem exists_stopped (peer : Responder β) (client : Process β ρ) :
    ∃ state, (inquiry peer client).Reachable state ∧
      ∀ turn next, ¬InquiryStep peer state turn next := by
  have fromHere : ∀ state, (inquiry peer client).Reachable state →
      ∃ last, (inquiry peer client).Reachable last ∧
        ∀ turn next, ¬InquiryStep peer last turn next := by
    intro state
    induction inquiry_terminates peer state with
    | intro state _ inductionHypothesis =>
        intro reached
        by_cases stopped : ∀ turn next, ¬InquiryStep peer state turn next
        · exact ⟨state, reached, stopped⟩
        · push Not at stopped
          obtain ⟨turn, next, taken⟩ := stopped
          exact inductionHypothesis next ⟨turn, taken⟩ (reached.step taken)
  exact fromHere _ ⟨_, [], rfl, .nil _⟩

end ProxyVPN.Dialogue
