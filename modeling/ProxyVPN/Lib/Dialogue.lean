/-
Module: ProxyVPN.Lib.Dialogue
Purpose: Two processes that send each other streams.  Sends and receives go on
  in parts of any size, in any order of the two sides, and a side that has given
  up closes its end; one way for the processes to take turns decides how every
  run ends.
Trusted boundary: none
Main exports: Process, Process.Move, Process.Loses, Talk, dialogue, Doomed,
  Leads, dialogue_terminates, Leads.ends, Leads.ends_badly
-/
import Mathlib.Order.GameAdd
import ProxyVPN.Lib.Transition

namespace ProxyVPN.Dialogue

open Transition

variable {β ρ σ : Type}

/-! ## Processes -/

/-- A program that sends and receives.  It learns whether a send went through,
and gets nothing where the stream ends before all items are there. -/
inductive Process (β ρ : Type) : Type where
  | done (result : ρ)
  | send (items : List β) (next : Bool → Process β ρ)
  | recv (count : Nat) (next : Option (List β) → Process β ρ)

namespace Process

def bind : Process β ρ → (ρ → Process β σ) → Process β σ
  | .done result, rest => rest result
  | .send items next, rest => .send items fun sent => (next sent).bind rest
  | .recv count next, rest =>
      .recv count fun received => (next received).bind rest

instance : Monad (Process β) where
  pure := .done
  bind := bind

def sendAll (items : List β) : Process β Bool := .send items .done

def receive (count : Nat) : Process β (Option (List β)) := .recv count .done

@[simp] theorem pure_eq (result : ρ) :
    (pure result : Process β ρ) = .done result := rfl

@[simp] theorem done_bind (result : ρ) (rest : ρ → Process β σ) :
    (.done result >>= rest) = rest result := rfl

@[simp] theorem sendAll_bind (items : List β) (rest : Bool → Process β σ) :
    (sendAll items >>= rest) = .send items rest := rfl

@[simp] theorem receive_bind (count : Nat)
    (rest : Option (List β) → Process β σ) :
    (receive count >>= rest) = .recv count rest := rfl

theorem bind_assoc {τ : Type} (first : Process β ρ) (second : ρ → Process β σ)
    (third : σ → Process β τ) :
    (first >>= second) >>= third =
      first >>= fun result => second result >>= third := by
  induction first with
  | done result => rfl
  | send items next inductionHypothesis =>
      exact congrArg (Process.send items) (funext inductionHypothesis)
  | recv count next inductionHypothesis =>
      exact congrArg (Process.recv count) (funext inductionHypothesis)

/-- What remains to be sent, or the process behind it. -/
def sending (next : Bool → Process β ρ) : List β → Process β ρ
  | [] => next true
  | first :: others => .send (first :: others) next

/-- What remains to be received, or the process behind it. -/
def receiving (next : Option (List β) → Process β ρ) : Nat → Process β ρ
  | 0 => next (some [])
  | left + 1 => .recv (left + 1) next

/-- The process that gets `front` in front of what is received. -/
def prepend (front : List β) (next : Option (List β) → Process β ρ) :
    Option (List β) → Process β ρ :=
  fun more => next (more.map (front ++ ·))

/-- One part of a send or a receive, with the incoming stream before and behind
it and what goes out. -/
inductive Move :
    Process β ρ → List β → Process β ρ → List β → List β → Prop where
  | send {items front back incoming : List β} {next : Bool → Process β ρ}
      (split : items = front ++ back) (progress : front = [] → items = []) :
      Move (.send items next) incoming (sending next back) incoming front
  | recv {count left : Nat} {incoming front rest : List β}
      {next : Option (List β) → Process β ρ} (split : incoming = front ++ rest)
      (within : count = front.length + left)
      (progress : front = [] → count = 0) :
      Move (.recv count next) incoming (receiving (prepend front next) left) rest
        []

/-- The other end was closed: a send may still report success, where a part of
it went out before. -/
inductive Loses : Process β ρ → Process β ρ → Prop where
  | send {items : List β} {next : Bool → Process β ρ} (sent : Bool) :
      Loses (.send items next) (next sent)
  | recv {count : Nat} {next : Option (List β) → Process β ρ} :
      Loses (.recv count next) (next none)

end Process

open Process

/-! ## Dialogues -/

/-- Both sides, and the items on their way. -/
structure Talk (β ρ σ : Type) where
  left : Process β ρ
  right : Process β σ
  toRight : List β
  toLeft : List β

inductive Turn where
  | left
  | right
  | leftLoses
  | rightLoses

/-- One part of a send or receive of one side; a side whose partner has closed
its end may lose it. -/
inductive Step (closesLeft : ρ → Prop) (closesRight : σ → Prop) :
    Talk β ρ σ → Turn → Talk β ρ σ → Prop where
  | left {talk : Talk β ρ σ} {left : Process β ρ} {rest out : List β}
      (moves : Move talk.left talk.toLeft left rest out) :
      Step closesLeft closesRight talk .left
        { talk with left := left, toRight := talk.toRight ++ out, toLeft := rest }
  | right {talk : Talk β ρ σ} {right : Process β σ} {rest out : List β}
      (moves : Move talk.right talk.toRight right rest out) :
      Step closesLeft closesRight talk .right
        { talk with right := right, toRight := rest, toLeft := talk.toLeft ++ out }
  | leftLoses {talk : Talk β ρ σ} {left : Process β ρ} {result : σ}
      (closed : talk.right = .done result) (closes : closesRight result)
      (loses : Loses talk.left left) :
      Step closesLeft closesRight talk .leftLoses { talk with left := left }
  | rightLoses {talk : Talk β ρ σ} {right : Process β σ} {result : ρ}
      (closed : talk.left = .done result) (closes : closesLeft result)
      (loses : Loses talk.right right) :
      Step closesLeft closesRight talk .rightLoses { talk with right := right }

/-- All runs of two processes. -/
def dialogue (closesLeft : ρ → Prop) (closesRight : σ → Prop)
    (left : Process β ρ) (right : Process β σ) : System (Talk β ρ σ) Turn where
  start talk := talk = ⟨left, right, [], []⟩
  step := Step closesLeft closesRight

/-! ## Termination -/

/-- The process gets on, by some part or by a loss. -/
def Process.Later (later earlier : Process β ρ) : Prop :=
  (∃ incoming rest out, Move earlier incoming later rest out) ∨
    Loses earlier later

theorem Process.acc_send {next : Bool → Process β ρ}
    (behind : ∀ sent, Acc Later (next sent)) (items : List β) :
    Acc Later (.send items next) := by
  induction sized : items.length using Nat.strongRecOn generalizing items with
  | ind size inductionHypothesis =>
      constructor
      rintro later (⟨incoming, rest, out, moves⟩ | loses)
      · cases moves with
        | @send _ _ back _ _ split progress =>
            cases back with
            | nil => exact behind true
            | cons first others =>
                refine inductionHypothesis _ ?_ (first :: others) rfl
                have front : out ≠ [] := by
                  intro none
                  rw [none, progress none] at split
                  cases split
                have positive := List.length_pos_iff.mpr front
                rw [← sized, split, List.length_append]
                omega
      · cases loses with
        | send sent => exact behind sent

theorem Process.acc_recv (count : Nat) :
    ∀ next : Option (List β) → Process β ρ,
      (∀ received, Acc Later (next received)) → Acc Later (.recv count next) := by
  induction count using Nat.strongRecOn with
  | ind count inductionHypothesis =>
      intro next behind
      constructor
      rintro later (⟨incoming, rest, out, moves⟩ | loses)
      · cases moves with
        | @recv _ left _ front _ _ split within progress =>
            have behindFront : ∀ received, Acc Later (prepend front next received) :=
              fun received => behind _
            cases left with
            | zero => exact behindFront (some [])
            | succ left =>
                apply inductionHypothesis (left + 1) _ _ behindFront
                have front : front ≠ [] := by
                  intro none
                  have zero := progress none
                  omega
                have positive := List.length_pos_iff.mpr front
                omega
      · cases loses with
        | recv => exact behind none

/-- A process gets on only finitely often. -/
theorem Process.acc (process : Process β ρ) : Acc Later process := by
  induction process with
  | done result =>
      constructor
      rintro later (⟨incoming, rest, out, moves⟩ | loses)
      · cases moves
      · cases loses
  | send items next inductionHypothesis =>
      exact acc_send inductionHypothesis items
  | recv count next inductionHypothesis =>
      exact acc_recv count next inductionHypothesis

/-- Every run of a dialogue is finite. -/
theorem dialogue_terminates (closesLeft : ρ → Prop) (closesRight : σ → Prop)
    (talk : Talk β ρ σ) :
    Acc (fun later earlier =>
      ∃ turn, Step closesLeft closesRight earlier turn later) talk := by
  have pair : Acc (Prod.GameAdd Later Later) (talk.left, talk.right) :=
    Acc.prod_gameAdd talk.left.acc talk.right.acc
  refine Subrelation.accessible ?_ (InvImage.accessible
    (fun talk : Talk β ρ σ => (talk.left, talk.right)) pair)
  rintro later earlier ⟨turn, taken⟩
  cases taken with
  | left moves => exact .fst (.inl ⟨_, _, _, moves⟩)
  | right moves => exact .snd (.inl ⟨_, _, _, moves⟩)
  | leftLoses _ _ loses => exact .fst (.inr loses)
  | rightLoses _ _ loses => exact .snd (.inr loses)

/-! ## Processes that end badly -/

/-- Alone with what is on its way to it, the process ends with a bad result,
whatever it loses. -/
inductive Doomed (bad : ρ → Prop) : Process β ρ → List β → Prop where
  | done {result : ρ} {incoming : List β} (isBad : bad result) :
      Doomed bad (.done result) incoming
  | send {items incoming : List β} {next : Bool → Process β ρ}
      (behind : ∀ sent, Doomed bad (next sent) incoming) :
      Doomed bad (.send items next) incoming
  | recv {count : Nat} {incoming : List β}
      {next : Option (List β) → Process β ρ}
      (lost : ∀ rest, Doomed bad (next none) rest)
      (behind : ∀ front rest, incoming = front ++ rest → front.length = count →
        Doomed bad (next (some front)) rest) :
      Doomed bad (.recv count next) incoming

/-- The process ends with a bad result, whatever it receives. -/
def Hopeless (bad : ρ → Prop) (process : Process β ρ) : Prop :=
  ∀ incoming, Doomed bad process incoming

theorem Hopeless.done {bad : ρ → Prop} {result : ρ} (isBad : bad result) :
    Hopeless (β := β) bad (.done result) := fun _ => .done isBad

theorem Hopeless.send {bad : ρ → Prop} {items : List β}
    {next : Bool → Process β ρ} (behind : ∀ sent, Hopeless bad (next sent)) :
    Hopeless bad (.send items next) :=
  fun incoming => .send fun sent => behind sent incoming

theorem Hopeless.recv {bad : ρ → Prop} {count : Nat}
    {next : Option (List β) → Process β ρ}
    (behind : ∀ received, Hopeless bad (next received)) :
    Hopeless bad (.recv count next) :=
  fun _ => .recv (behind none) fun front rest _ _ => behind (some front) rest

theorem Hopeless.of_forall {bad : ρ → Prop} (all : ∀ result, bad result)
    (process : Process β ρ) : Hopeless bad process := by
  induction process with
  | done result => exact .done (all result)
  | send items next inductionHypothesis => exact .send inductionHypothesis
  | recv count next inductionHypothesis => exact .recv inductionHypothesis

theorem Doomed.move {bad : ρ → Prop} {process later : Process β ρ}
    {incoming rest out : List β} (doomed : Doomed bad process incoming)
    (moves : Move process incoming later rest out) : Doomed bad later rest := by
  cases moves with
  | @send _ _ back _ _ split progress =>
      cases doomed with
      | send behind =>
          cases back with
          | nil => exact behind true
          | cons first others => exact .send behind
  | @recv _ left _ front _ _ split within progress =>
      cases doomed with
      | recv lost behind =>
          cases left with
          | zero =>
              have whole := behind front rest split within.symm
              rw [← List.append_nil front] at whole
              exact whole
          | succ left =>
              refine .recv lost ?_
              intro more later restSplit sized
              apply behind (front ++ more) later
              · rw [split, restSplit, List.append_assoc]
              · rw [List.length_append, sized, within]

theorem Doomed.lose {bad : ρ → Prop} {process later : Process β ρ}
    {incoming : List β} (doomed : Doomed bad process incoming)
    (loses : Loses process later) : Doomed bad later incoming := by
  cases loses with
  | send sent =>
      cases doomed with
      | send behind => exact behind sent
  | recv =>
      cases doomed with
      | recv lost _ => exact lost incoming

/-! ## One way to take turns -/

/-- The results of both sides, and the items that nobody received. -/
structure Ending (β ρ σ : Type) where
  left : ρ
  right : σ
  toRight : List β
  toLeft : List β

def Ending.swap (ending : Ending β ρ σ) : Ending β σ ρ :=
  ⟨ending.right, ending.left, ending.toLeft, ending.toRight⟩

/-- The processes can take turns to this ending; each would end badly if it
lost one of the sends and receives on the way. -/
inductive Leads (badLeft : ρ → Prop) (badRight : σ → Prop)
    (ending : Ending β ρ σ) :
    Process β ρ → Process β σ → List β → List β → Prop where
  | done : Leads badLeft badRight ending (.done ending.left)
      (.done ending.right) ending.toRight ending.toLeft
  | leftSends {items toRight toLeft : List β} {next : Bool → Process β ρ}
      {right : Process β σ} (lost : Hopeless badLeft (next false))
      (behind : Leads badLeft badRight ending (next true) right
        (toRight ++ items) toLeft) :
      Leads badLeft badRight ending (.send items next) right toRight toLeft
  | leftReceives {count : Nat} {toRight toLeft front rest : List β}
      {next : Option (List β) → Process β ρ} {right : Process β σ}
      (split : toLeft = front ++ rest) (sized : front.length = count)
      (lost : Hopeless badLeft (next none))
      (behind : Leads badLeft badRight ending (next (some front)) right toRight
        rest) :
      Leads badLeft badRight ending (.recv count next) right toRight toLeft
  | rightSends {items toRight toLeft : List β} {next : Bool → Process β σ}
      {left : Process β ρ} (lost : Hopeless badRight (next false))
      (behind : Leads badLeft badRight ending left (next true) toRight
        (toLeft ++ items)) :
      Leads badLeft badRight ending left (.send items next) toRight toLeft
  | rightReceives {count : Nat} {toRight toLeft front rest : List β}
      {next : Option (List β) → Process β σ} {left : Process β ρ}
      (split : toRight = front ++ rest) (sized : front.length = count)
      (lost : Hopeless badRight (next none))
      (behind : Leads badLeft badRight ending left (next (some front)) rest
        toLeft) :
      Leads badLeft badRight ending left (.recv count next) toRight toLeft

section Leads

variable {badLeft : ρ → Prop} {badRight : σ → Prop} {ending : Ending β ρ σ}
  {left : Process β ρ} {right : Process β σ} {toRight toLeft : List β}

theorem Leads.swap
    (leads : Leads badLeft badRight ending left right toRight toLeft) :
    Leads badRight badLeft ending.swap right left toLeft toRight := by
  induction leads with
  | done => exact .done
  | leftSends lost _ inductionHypothesis =>
      exact .rightSends lost inductionHypothesis
  | leftReceives split sized lost _ inductionHypothesis =>
      exact .rightReceives split sized lost inductionHypothesis
  | rightSends lost _ inductionHypothesis =>
      exact .leftSends lost inductionHypothesis
  | rightReceives split sized lost _ inductionHypothesis =>
      exact .leftReceives split sized lost inductionHypothesis

/-- More items behind those on their way do not matter to a part. -/
theorem Process.Move.extend {process later : Process β ρ}
    {incoming rest out : List β} (moves : Move process incoming later rest out)
    (more : List β) : Move process (incoming ++ more) later (rest ++ more) out := by
  cases moves with
  | send split progress => exact .send split progress
  | recv split within progress =>
      refine .recv ?_ within progress
      rw [split, List.append_assoc]

/-- Whatever part the left side does, the ending stays the same: it was its
turn, or the other turns come first. -/
theorem Leads.left_move
    (leads : Leads badLeft badRight ending left right toRight toLeft)
    {later : Process β ρ} {rest out : List β}
    (moves : Move left toLeft later rest out) :
    Leads badLeft badRight ending later right (toRight ++ out) rest := by
  induction leads generalizing later rest out with
  | done => cases moves
  | leftSends lost behind _ =>
      cases moves with
      | @send _ _ back _ _ split progress =>
          rw [split, ← List.append_assoc] at behind
          cases back with
          | nil =>
              rw [List.append_nil] at behind
              exact behind
          | cons first others => exact .leftSends lost behind
  | @leftReceives _ _ _ whole wholeRest _ _ split sized lost behind _ =>
      cases moves with
      | @recv _ remaining _ front _ _ partSplit within progress =>
          rw [List.append_nil]
          -- the part is the beginning of what the turn receives
          obtain ⟨more, rfl⟩ : ∃ more, front ++ more = whole :=
            List.prefix_of_prefix_length_le ⟨rest, partSplit.symm⟩
              ⟨wholeRest, split.symm⟩ (by omega)
          rw [split, List.append_assoc] at partSplit
          have restSplit := List.append_cancel_left partSplit
          rw [List.length_append, within] at sized
          have moreSize := Nat.add_left_cancel sized
          cases remaining with
          | zero =>
              have none := List.eq_nil_of_length_eq_zero moreSize
              subst none
              rw [← restSplit]
              exact behind
          | succ remaining =>
              exact .leftReceives restSplit.symm moreSize lost behind
  | rightSends lost _ inductionHypothesis =>
      exact .rightSends lost (inductionHypothesis (moves.extend _))
  | rightReceives split sized lost _ inductionHypothesis =>
      refine .rightReceives ?_ sized lost (inductionHypothesis moves)
      rw [split, List.append_assoc]

theorem Leads.right_move
    (leads : Leads badLeft badRight ending left right toRight toLeft)
    {later : Process β σ} {rest out : List β}
    (moves : Move right toRight later rest out) :
    Leads badLeft badRight ending left later rest (toLeft ++ out) :=
  (leads.swap.left_move moves).swap

theorem move_send (items incoming : List β) (next : Bool → Process β ρ) :
    Move (.send items next) incoming (next true) incoming items := by
  have whole : Move (.send items next) incoming (sending next []) incoming items :=
    .send (List.append_nil items).symm id
  exact whole

theorem move_recv (front rest : List β)
    (next : Option (List β) → Process β ρ) :
    Move (.recv front.length next) (front ++ rest) (prepend front next (some []))
      rest [] := by
  have whole : Move (.recv front.length next) (front ++ rest)
      (receiving (prepend front next) 0) rest [] :=
    .recv rfl rfl (congrArg List.length)
  exact whole

/-- As long as not both sides are done, one of them gets on. -/
theorem Leads.progress
    (leads : Leads badLeft badRight ending left right toRight toLeft) :
    (left = .done ending.left ∧ right = .done ending.right ∧
      toRight = ending.toRight ∧ toLeft = ending.toLeft) ∨
    (∃ later rest out, Move left toLeft later rest out) ∨
      ∃ later rest out, Move right toRight later rest out := by
  cases leads with
  | done => exact .inl ⟨rfl, rfl, rfl, rfl⟩
  | leftSends _ _ => exact .inr (.inl ⟨_, _, _, move_send _ _ _⟩)
  | leftReceives split sized _ _ =>
      rw [split, ← sized]
      exact .inr (.inl ⟨_, _, _, move_recv _ _ _⟩)
  | rightSends _ _ => exact .inr (.inr ⟨_, _, _, move_send _ _ _⟩)
  | rightReceives split sized _ _ =>
      rw [split, ← sized]
      exact .inr (.inr ⟨_, _, _, move_recv _ _ _⟩)

/-- A side that is done has its result of the ending, and where that ending is
bad the other side is doomed. -/
theorem Leads.of_right_done
    (leads : Leads badLeft badRight ending left right toRight toLeft)
    {result : σ} (isDone : right = .done result) :
    result = ending.right ∧
      (badLeft ending.left → Doomed badLeft left toLeft) := by
  induction leads with
  | done =>
      cases isDone
      exact ⟨rfl, .done⟩
  | leftSends lost _ inductionHypothesis =>
      obtain ⟨same, doomed⟩ := inductionHypothesis isDone
      refine ⟨same, fun isBad => .send ?_⟩
      intro sent
      cases sent with
      | true => exact doomed isBad
      | false => exact lost _
  | @leftReceives _ _ _ front _ _ _ split sized lost _ inductionHypothesis =>
      obtain ⟨same, doomed⟩ := inductionHypothesis isDone
      refine ⟨same, fun isBad => .recv lost ?_⟩
      intro other otherRest otherSplit otherSized
      rw [split] at otherSplit
      obtain ⟨rfl, rfl⟩ :=
        List.append_inj otherSplit (sized.trans otherSized.symm)
      exact doomed isBad
  | rightSends _ _ _ => cases isDone
  | rightReceives _ _ _ _ _ => cases isDone

theorem Leads.of_left_done
    (leads : Leads badLeft badRight ending left right toRight toLeft)
    {result : ρ} (isDone : left = .done result) :
    result = ending.left ∧
      (badRight ending.right → Doomed badRight right toRight) :=
  leads.swap.of_right_done isDone

/-! ## All ways to take turns -/

variable {closesLeft : ρ → Prop} {closesRight : σ → Prop}

/-- Where no side gives up, every run that stops has come to the ending. -/
theorem Leads.ends (leads : Leads badLeft badRight ending left right [] [])
    (leftStays : ¬closesLeft ending.left)
    (rightStays : ¬closesRight ending.right) {talk : Talk β ρ σ}
    (reached : (dialogue closesLeft closesRight left right).Reachable talk)
    (stopped : ∀ turn next, ¬Step closesLeft closesRight talk turn next) :
    talk = ⟨.done ending.left, .done ending.right, ending.toRight,
      ending.toLeft⟩ := by
  have invariant : Invariant (dialogue closesLeft closesRight left right)
      fun talk => Leads badLeft badRight ending talk.left talk.right talk.toRight
        talk.toLeft := by
    constructor
    · rintro talk rfl
      exact leads
    · intro talk turn next leads taken
      cases taken with
      | left moves => exact leads.left_move moves
      | right moves => exact leads.right_move moves
      | leftLoses closed closes _ =>
          rw [(leads.of_right_done closed).1] at closes
          exact absurd closes rightStays
      | rightLoses closed closes _ =>
          rw [(leads.of_left_done closed).1] at closes
          exact absurd closes leftStays
  rcases (invariant.reachable reached).progress with
    ⟨leftDone, rightDone, toRight, toLeft⟩ | ⟨_, _, _, moves⟩ | ⟨_, _, _, moves⟩
  · cases talk
    cases leftDone
    cases rightDone
    cases toRight
    cases toLeft
    rfl
  · exact absurd (.left moves) (stopped .left _)
  · exact absurd (.right moves) (stopped .right _)

/-- One side is done with a bad result, and the other one is doomed. -/
def OneDoomed (badLeft : ρ → Prop) (badRight : σ → Prop) (talk : Talk β ρ σ) :
    Prop :=
  (∃ result, talk.right = .done result ∧ badRight result ∧
    Doomed badLeft talk.left talk.toLeft) ∨
  ∃ result, talk.left = .done result ∧ badLeft result ∧
    Doomed badRight talk.right talk.toRight

/-- A side that is doomed stays so, and its partner stays done. -/
theorem OneDoomed.step {talk next : Talk β ρ σ} {turn : Turn}
    (doomed : OneDoomed badLeft badRight talk)
    (taken : Step closesLeft closesRight talk turn next) :
    OneDoomed badLeft badRight next := by
  rcases doomed with ⟨result, isDone, isBad, doomed⟩ |
    ⟨result, isDone, isBad, doomed⟩
  · cases taken with
    | left moves => exact .inl ⟨result, isDone, isBad, doomed.move moves⟩
    | right moves =>
        rw [isDone] at moves
        cases moves
    | leftLoses _ _ loses => exact .inl ⟨result, isDone, isBad, doomed.lose loses⟩
    | rightLoses _ _ loses =>
        rw [isDone] at loses
        cases loses
  · cases taken with
    | left moves =>
        rw [isDone] at moves
        cases moves
    | right moves => exact .inr ⟨result, isDone, isBad, doomed.move moves⟩
    | leftLoses _ _ loses =>
        rw [isDone] at loses
        cases loses
    | rightLoses _ _ loses =>
        exact .inr ⟨result, isDone, isBad, doomed.lose loses⟩

/-- A doomed side whose partner has closed its end is done or can lose. -/
theorem Doomed.progress {bad : ρ → Prop} {process : Process β ρ}
    {incoming : List β} (doomed : Doomed bad process incoming) :
    (∃ result, process = .done result ∧ bad result) ∨
      ∃ later, Loses process later := by
  cases doomed with
  | done isBad => exact .inl ⟨_, rfl, isBad⟩
  | send _ => exact .inr ⟨_, .send true⟩
  | recv _ _ => exact .inr ⟨_, .recv⟩

/-- Where both endings are bad, every run that stops has ended badly on both
sides, also where a side closes its end before the other is done. -/
theorem Leads.ends_badly
    (leads : Leads badLeft badRight ending left right [] [])
    (leftBad : badLeft ending.left) (rightBad : badRight ending.right)
    (leftCloses : ∀ result, badLeft result → closesLeft result)
    (rightCloses : ∀ result, badRight result → closesRight result)
    {talk : Talk β ρ σ}
    (reached : (dialogue closesLeft closesRight left right).Reachable talk)
    (stopped : ∀ turn next, ¬Step closesLeft closesRight talk turn next) :
    ∃ leftResult rightResult, talk.left = .done leftResult ∧
      talk.right = .done rightResult ∧ badLeft leftResult ∧
      badRight rightResult := by
  have invariant : Invariant (dialogue closesLeft closesRight left right)
      fun talk => Leads badLeft badRight ending talk.left talk.right talk.toRight
        talk.toLeft ∨ OneDoomed badLeft badRight talk := by
    constructor
    · rintro talk rfl
      exact .inl leads
    · rintro talk turn next (leads | doomed) taken
      · cases taken with
        | left moves => exact .inl (leads.left_move moves)
        | right moves => exact .inl (leads.right_move moves)
        | leftLoses closed _ loses =>
            obtain ⟨same, doomed⟩ := leads.of_right_done closed
            exact .inr (.inl ⟨_, closed, same ▸ rightBad,
              (doomed leftBad).lose loses⟩)
        | rightLoses closed _ loses =>
            obtain ⟨same, doomed⟩ := leads.of_left_done closed
            exact .inr (.inr ⟨_, closed, same ▸ leftBad,
              (doomed rightBad).lose loses⟩)
      · exact .inr (doomed.step taken)
  rcases invariant.reachable reached with leads | doomed
  · rcases leads.progress with
      ⟨leftDone, rightDone, _⟩ | ⟨_, _, _, moves⟩ | ⟨_, _, _, moves⟩
    · exact ⟨_, _, leftDone, rightDone, leftBad, rightBad⟩
    · exact absurd (.left moves) (stopped .left _)
    · exact absurd (.right moves) (stopped .right _)
  · rcases doomed with ⟨result, isDone, isBad, doomed⟩ |
      ⟨result, isDone, isBad, doomed⟩
    · rcases doomed.progress with ⟨other, otherDone, otherBad⟩ | ⟨_, loses⟩
      · exact ⟨other, result, otherDone, isDone, otherBad, isBad⟩
      · exact absurd (.leftLoses isDone (rightCloses _ isBad) loses)
          (stopped .leftLoses _)
    · rcases doomed.progress with ⟨other, otherDone, otherBad⟩ | ⟨_, loses⟩
      · exact ⟨result, other, isDone, otherDone, isBad, otherBad⟩
      · exact absurd (.rightLoses isDone (leftCloses _ isBad) loses)
          (stopped .rightLoses _)

end Leads

end ProxyVPN.Dialogue
