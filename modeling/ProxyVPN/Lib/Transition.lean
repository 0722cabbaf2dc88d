/-
Module: ProxyVPN.Lib.Transition
Purpose: Labelled transition systems, their finite runs, and the rules that
  carry a one-step fact to whole runs: the invariant rule, the invariant rule
  for runs all of whose steps are allowed, the rule for a flag that steps set
  and clear, and forward simulation.
Trusted boundary: none
Main exports: System, System.ofExec, System.Run, System.restrict,
  System.observe, System.under, System.Run.of_observe, System.Run.of_under,
  System.Run.mono, System.Run.preserves, System.Reachable, Invariant, Invariant.run,
  Invariant.reachable, Simulation.run, run_of_foldlM, replay, run_restrict_of_foldlM,
  replay_restrict, System.Since, System.Run.flag_iff, System.Run.countP_le
-/
import Mathlib.Init

namespace ProxyVPN.Transition

universe u v w

/-- A labelled transition system: the states a run may begin in and the
labelled steps between states. -/
structure System (State : Type u) (Label : Type v) where
  start : State → Prop
  step : State → Label → State → Prop

namespace System

variable {State : Type u} {Label : Type v}

/-- The system of a partial step function. -/
def ofExec (start : State → Prop) (exec : State → Label → Option State) :
    System State Label where
  start := start
  step state label next := exec state label = some next

/-- Finite runs, with the labels in the order in which they were taken. -/
inductive Run (system : System State Label) :
    State → List Label → State → Prop where
  | nil (state : State) : Run system state [] state
  | snoc {first state last : State} {labels : List Label} {label : Label}
      (before : Run system first labels state)
      (taken : system.step state label last) :
      Run system first (labels ++ [label]) last

/-- A state some run from a start state ends in. -/
def Reachable (system : System State Label) (state : State) : Prop :=
  ∃ first labels, system.start first ∧ system.Run first labels state

theorem Reachable.step {system : System State Label} {state next : State}
    {label : Label} (reached : system.Reachable state)
    (taken : system.step state label next) : system.Reachable next := by
  obtain ⟨first, labels, started, run⟩ := reached
  exact ⟨first, _, started, run.snoc taken⟩

/-- The same system with only the steps that `allowed` admits. -/
def restrict (system : System State Label)
    (allowed : State → Label → Prop) : System State Label where
  start := system.start
  step state label next := allowed state label ∧ system.step state label next

theorem Run.cons {system : System State Label} {first state last : State}
    {label : Label} {labels : List Label}
    (taken : system.step first label state)
    (rest : system.Run state labels last) :
    system.Run first (label :: labels) last := by
  induction rest with
  | nil =>
      rw [← List.nil_append [label]]
      exact .snoc (.nil first) taken
  | snoc _ lastTaken inductionHypothesis =>
      rw [← List.cons_append]
      exact .snoc inductionHypothesis lastTaken

/-- What takes all steps of a system has all its runs. -/
theorem Run.mono {left right : System State Label} {first last : State}
    {labels : List Label} (taken : left.Run first labels last)
    (steps : ∀ state label next,
      left.step state label next → right.step state label next) :
    right.Run first labels last := by
  induction taken with
  | nil => exact .nil first
  | snoc _ lastTaken inductionHypothesis =>
      exact .snoc inductionHypothesis (steps _ _ _ lastTaken)

/-- What every step preserves holds at the end of a run that began with it. -/
theorem Run.preserves {system : System State Label} {holds : State → Prop}
    (steps : ∀ state label next,
      holds state → system.step state label next → holds next)
    {first last : State} {labels : List Label}
    (taken : system.Run first labels last) (begins : holds first) : holds last := by
  induction taken with
  | nil => exact begins
  | snoc _ lastTaken inductionHypothesis =>
      exact steps _ _ _ inductionHypothesis lastTaken

/-- A run whose labels are allowed in every state is a run of the restricted
system. -/
theorem Run.restrict {system : System State Label}
    {allowed : State → Label → Prop} {first last : State}
    {labels : List Label} (taken : system.Run first labels last)
    (admitted : ∀ label ∈ labels, ∀ state, allowed state label) :
    (system.restrict allowed).Run first labels last := by
  induction taken with
  | nil => exact .nil first
  | snoc _ lastTaken inductionHypothesis =>
      have before := inductionHypothesis fun label member =>
        admitted label (List.mem_append_left _ member)
      have lastAdmitted := admitted _ (List.mem_append_right _ List.mem_cons_self)
      exact .snoc before ⟨lastAdmitted _, lastTaken⟩

/-- A run of the restricted system is a run. -/
theorem Run.of_restrict {system : System State Label}
    {allowed : State → Label → Prop} {first last : State}
    {labels : List Label}
    (restricted : (system.restrict allowed).Run first labels last) :
    system.Run first labels last :=
  restricted.mono fun _ _ _ taken => taken.2

/-- A run of the partial step function is a run of its system. -/
theorem run_of_foldlM {start : State → Prop}
    {exec : State → Label → Option State} {labels : List Label} :
    ∀ {first last : State}, labels.foldlM exec first = some last →
      (ofExec start exec).Run first labels last := by
  induction labels with
  | nil =>
      intro first last executed
      cases executed
      exact .nil first
  | cons label labels inductionHypothesis =>
      intro first last executed
      rw [List.foldlM_cons] at executed
      cases stepEq : exec first label with
      | none =>
          rw [stepEq] at executed
          cases executed
      | some state =>
          rw [stepEq] at executed
          exact .cons stepEq (inductionHypothesis executed)

/-- Replaying labels and looking at the last state yields a run that ends in a
state with that look. -/
theorem replay {View : Type w} (view : State → View) {start : State → Prop}
    {exec : State → Label → Option State} {labels : List Label}
    {first : State} {seen : View}
    (replayed : (labels.foldlM exec first).map view = some seen) :
    ∃ last, (ofExec start exec).Run first labels last ∧ view last = seen := by
  rcases Option.map_eq_some_iff.mp replayed with ⟨last, executed, looks⟩
  exact ⟨last, run_of_foldlM executed, looks⟩

/-- The same for runs all of whose steps are allowed. -/
theorem run_restrict_of_foldlM {start : State → Prop}
    {exec : State → Label → Option State} {allowed : State → Label → Prop}
    [∀ state label, Decidable (allowed state label)] {labels : List Label}
    {first last : State}
    (executed : labels.foldlM (fun state label =>
      if allowed state label then exec state label else none) first =
        some last) :
    ((ofExec start exec).restrict allowed).Run first labels last := by
  have run : (ofExec start fun state label =>
      if allowed state label then exec state label else none).Run first labels
        last := run_of_foldlM executed
  exact run.mono fun _ _ _ taken => Option.ite_none_right_eq_some.mp taken

theorem replay_restrict {View : Type w} (view : State → View)
    {start : State → Prop} {exec : State → Label → Option State}
    {allowed : State → Label → Prop}
    [∀ state label, Decidable (allowed state label)] {labels : List Label}
    {first : State} {seen : View}
    (replayed : (labels.foldlM (fun state label =>
      if allowed state label then exec state label else none) first).map view =
        some seen) :
    ∃ last, ((ofExec start exec).restrict allowed).Run first labels last ∧
      view last = seen := by
  rcases Option.map_eq_some_iff.mp replayed with ⟨last, executed, looks⟩
  exact ⟨last, run_restrict_of_foldlM executed, looks⟩

end System

section Seen

variable {State : Type u} {Label : Type v} {Seen : Type w}

namespace System

/-- A system whose labels are only what can be seen of them. -/
def observe (system : System State Label) (view : Label → Seen) :
    System State Seen where
  start := system.start
  step state seen next := ∃ label, view label = seen ∧ system.step state label next

theorem Run.of_observe {system : System State Label} {view : Label → Seen}
    {first last : State} {seen : List Seen}
    (taken : (system.observe view).Run first seen last) :
    ∃ labels, labels.map view = seen ∧ system.Run first labels last := by
  induction taken with
  | nil => exact ⟨[], rfl, .nil first⟩
  | snoc _ lastTaken inductionHypothesis =>
      obtain ⟨labels, rfl, before⟩ := inductionHypothesis
      obtain ⟨label, rfl, step⟩ := lastTaken
      exact ⟨labels ++ [label], List.map_append, before.snoc step⟩

/-- A system under labels that say more. -/
def under (system : System State Label) (view : Seen → Label) :
    System State Seen where
  start := system.start
  step state seen next := system.step state (view seen) next

theorem Run.of_under {system : System State Label} {view : Seen → Label}
    {first last : State} {seen : List Seen}
    (taken : (system.under view).Run first seen last) :
    system.Run first (seen.map view) last := by
  induction taken with
  | nil => exact .nil first
  | snoc _ lastTaken inductionHypothesis =>
      rw [List.map_append]
      exact inductionHypothesis.snoc lastTaken

end System

end Seen

variable {State : Type u} {Label : Type v}

/-- `inv` holds initially and every step preserves it. -/
structure Invariant (system : System State Label) (inv : State → Prop) :
    Prop where
  initial : ∀ state, system.start state → inv state
  preserved : ∀ state label next,
    inv state → system.step state label next → inv next

namespace Invariant

variable {system : System State Label} {inv : State → Prop}

/-- An invariant that holds where a run begins holds where it ends. -/
theorem run (invariant : Invariant system inv) {first last : State}
    {labels : List Label} (taken : system.Run first labels last)
    (holds : inv first) : inv last :=
  taken.preserves invariant.preserved holds

/-- An invariant holds in every reachable state. -/
theorem reachable (invariant : Invariant system inv) {state : State}
    (reached : system.Reachable state) : inv state := by
  rcases reached with ⟨first, labels, started, taken⟩
  exact invariant.run taken (invariant.initial first started)

end Invariant

/-- A run in which a step of the first kind was taken, and after it none of the
second. -/
def System.Since (system : System State Label) (sets clears : State → Label → Prop)
    (first : State) (labels : List Label) (last : State) : Prop :=
  ∃ earlier label later state next, labels = earlier ++ label :: later ∧
    system.Run first earlier state ∧ sets state label ∧
    system.step state label next ∧
    (system.restrict fun state label => ¬clears state label).Run next later last

/-- A flag that every step sets, clears or leaves holds after a run that began
without it exactly where a step has set it and none has cleared it since. -/
theorem System.Run.flag_iff {system : System State Label} {inv flag : State → Prop}
    {sets clears : State → Label → Prop} (invariant : Invariant system inv)
    (law : ∀ state label next, inv state → system.step state label next →
      (flag next ↔ sets state label ∨ flag state ∧ ¬clears state label))
    {first last : State} {labels : List Label} (holds : inv first)
    (fresh : ¬flag first) (taken : system.Run first labels last) :
    flag last ↔ system.Since sets clears first labels last := by
  constructor
  · intro flagged
    induction taken with
    | nil => exact absurd flagged fresh
    | @snoc state last labels label before lastTaken inductionHypothesis =>
        have inside := invariant.run before holds
        rcases (law _ _ _ inside lastTaken).mp flagged with set | ⟨old, kept⟩
        · exact ⟨labels, label, [], state, last, rfl, before, set, lastTaken,
            .nil last⟩
        · obtain ⟨earlier, setting, later, middle, next, rfl, run, set, step, rest⟩ :=
            inductionHypothesis old
          refine ⟨earlier, setting, later ++ [label], middle, next, ?_, run, set,
            step, rest.snoc ⟨kept, lastTaken⟩⟩
          rw [List.append_assoc, List.cons_append]
  · rintro ⟨earlier, setting, later, state, next, -, before, set, step, rest⟩
    have inside := invariant.run before holds
    have flagged := (law _ _ _ inside step).mpr (.inl set)
    have nextInside := invariant.preserved _ _ _ inside step
    clear taken
    induction rest with
    | nil => exact flagged
    | snoc later lastTaken inductionHypothesis =>
        have stays := invariant.run later.of_restrict nextInside
        exact (law _ _ _ stays lastTaken.2).mpr
          (.inr ⟨inductionHypothesis, lastTaken.1⟩)

/-- A rank in which each of the counted steps uses up one, and which no other step
makes larger, bounds the number of the counted steps of a run. -/
theorem System.Run.countP_le {system : System State Label} {counted : Label → Bool}
    {ranked : State → Nat → Prop}
    (steps : ∀ state label next rank, ranked state rank →
      system.step state label next →
        ∃ left, ranked next left ∧ left + (if counted label then 1 else 0) ≤ rank)
    {first last : State} {labels : List Label} (taken : system.Run first labels last)
    {rank : Nat} (begins : ranked first rank) :
    ∃ left, ranked last left ∧ left + labels.countP counted ≤ rank := by
  induction taken with
  | nil => exact ⟨rank, begins, Nat.le_refl _⟩
  | @snoc state last labels label _ lastTaken inductionHypothesis =>
      obtain ⟨middle, rankedMiddle, used⟩ := inductionHypothesis
      obtain ⟨left, rankedLast, usedLast⟩ := steps _ _ _ _ rankedMiddle lastTaken
      refine ⟨left, rankedLast, ?_⟩
      rw [List.countP_append, List.countP_singleton]
      omega

/-- Forward simulation: related states take equally labelled steps to related
states. -/
structure Simulation {Abstract : Type w} (concrete : System State Label)
    (abstract : System Abstract Label) (related : State → Abstract → Prop) :
    Prop where
  forward : ∀ state view label next, related state view →
    concrete.step state label next →
      ∃ viewNext, abstract.step view label viewNext ∧ related next viewNext

/-- A run of the concrete system is matched by a run of the abstract one with
the same labels. -/
theorem Simulation.run {Abstract : Type w} {concrete : System State Label}
    {abstract : System Abstract Label} {related : State → Abstract → Prop}
    (simulation : Simulation concrete abstract related)
    {first last : State} {labels : List Label} {view : Abstract}
    (taken : concrete.Run first labels last) (begins : related first view) :
    ∃ viewLast, abstract.Run view labels viewLast ∧ related last viewLast := by
  induction taken with
  | nil => exact ⟨view, .nil view, begins⟩
  | snoc _ lastTaken inductionHypothesis =>
      rcases inductionHypothesis with ⟨viewMid, abstractRun, relatedMid⟩
      rcases simulation.forward _ _ _ _ relatedMid lastTaken with
        ⟨viewNext, abstractStep, relatedNext⟩
      exact ⟨viewNext, .snoc abstractRun abstractStep, relatedNext⟩

end ProxyVPN.Transition
