/-
Module: ProxyVPN.Lib.Rounds
Purpose: Loops that are modelled with a bound on their rounds.  A loop is steady
  when a larger bound changes no result it has, and then its result does not
  depend on the bound.
Trusted boundary: none
Main exports: Below, Steady, Steady.bind, Steady.ite, Steady.le, Returns,
  Returns.unique, Settles, Steady.settles, Settles.bind, Settles.unique
-/
import Mathlib.Init

namespace ProxyVPN

universe u v

variable {α : Type u} {β : Type v}

/-- The longer run has the result of the shorter one, if that has one. -/
def Below (short long : Option β) : Prop :=
  ∀ result, short = some result → long = some result

/-- A run gives what it gives. -/
theorem Below.refl (run : Option β) : Below run run := fun _ same => same

/-- Where both halves give no less, so does the whole. -/
theorem Below.bind {short long : Option α} {shortRest longRest : α → Option β}
    (first : Below short long)
    (rest : ∀ value, Below (shortRest value) (longRest value)) :
    Below (short.bind shortRest) (long.bind longRest) := by
  intro result ran
  obtain ⟨value, found, ranRest⟩ := Option.bind_eq_some_iff.mp ran
  rw [first value found]
  exact rest value result ranRest

/-- Where both branches give no less, so does the choice. -/
theorem Below.ite {condition : Prop} [Decidable condition]
    {short long shortElse longElse : Option β} (yes : Below short long)
    (no : Below shortElse longElse) :
    Below (if condition then short else shortElse)
      (if condition then long else longElse) := by
  split
  · exact yes
  · exact no

/-- One more round changes no result. -/
def Steady (loop : Nat → Option β) : Prop :=
  ∀ rounds, Below (loop rounds) (loop (rounds + 1))

/-- What does not count its rounds gives no less with more of them. -/
theorem Steady.const (result : Option β) : Steady fun _ => result :=
  fun _ => .refl result

/-- One loop behind another gives no less with more rounds for both. -/
theorem Steady.bind {first : Nat → Option α} {rest : Nat → α → Option β}
    (steady : Steady first) (steadyRest : ∀ value, Steady fun rounds => rest rounds value) :
    Steady fun rounds => (first rounds).bind (rest rounds) :=
  fun rounds => (steady rounds).bind fun value => steadyRest value rounds

/-- A choice between loops that does not depend on the rounds is steady. -/
theorem Steady.ite {condition : Prop} [Decidable condition]
    {yes no : Nat → Option β} (steadyYes : Steady yes) (steadyNo : Steady no) :
    Steady fun rounds => if condition then yes rounds else no rounds :=
  fun rounds => .ite (steadyYes rounds) (steadyNo rounds)

/-- A steady loop gives no less with any larger number of rounds. -/
theorem Steady.le {loop : Nat → Option β} (steady : Steady loop) {rounds more : Nat}
    (fewer : rounds ≤ more) : Below (loop rounds) (loop more) := by
  induction fewer with
  | refl => exact .refl _
  | step _ inductionHypothesis =>
      exact fun result ran => steady _ result (inductionHypothesis result ran)

/-- The loop returns a result in as many rounds as it takes. -/
def Returns (loop : Nat → Option β) (result : β) : Prop :=
  ∃ rounds, loop rounds = some result

/-- A steady loop returns one result, however many rounds it is given. -/
theorem Returns.unique {loop : Nat → Option β} (steady : Steady loop)
    {result other : β} (returns : Returns loop result) (again : Returns loop other) :
    result = other := by
  obtain ⟨rounds, ran⟩ := returns
  obtain ⟨more, ranAgain⟩ := again
  have long := steady.le (Nat.le_max_left rounds more) result ran
  rw [steady.le (Nat.le_max_right rounds more) other ranAgain] at long
  exact (Option.some.inj long).symm

/-- The loop has this result with every bound that is large enough. -/
def Settles (loop : Nat → Option β) (result : β) : Prop :=
  ∃ enough, ∀ rounds, enough ≤ rounds → loop rounds = some result

/-- A steady loop that has returned once settles on that result. -/
theorem Steady.settles {loop : Nat → Option β} (steady : Steady loop) {rounds : Nat}
    {result : β} (ran : loop rounds = some result) : Settles loop result :=
  ⟨rounds, fun _ more => steady.le more result ran⟩

/-- What does not count its rounds settles at once. -/
theorem Settles.const (result : β) : Settles (fun _ => some result) result :=
  ⟨0, fun _ _ => rfl⟩

/-- Where both halves settle, the whole settles on the result of the second. -/
theorem Settles.bind {first : Nat → Option α} {rest : Nat → α → Option β} {value : α}
    {result : β} (settles : Settles first value)
    (settlesRest : Settles (fun rounds => rest rounds value) result) :
    Settles (fun rounds => (first rounds).bind (rest rounds)) result := by
  obtain ⟨enough, ran⟩ := settles
  obtain ⟨enoughRest, ranRest⟩ := settlesRest
  refine ⟨max enough enoughRest, fun rounds more => ?_⟩
  show (first rounds).bind (rest rounds) = _
  rw [ran rounds (Nat.le_trans (Nat.le_max_left _ _) more), Option.bind_some]
  exact ranRest rounds (Nat.le_trans (Nat.le_max_right _ _) more)

/-- A loop settles on one result only. -/
theorem Settles.unique {loop : Nat → Option β} {result other : β}
    (settles : Settles loop result) (again : Settles loop other) : result = other := by
  obtain ⟨enough, ran⟩ := settles
  obtain ⟨enoughAgain, ranAgain⟩ := again
  have long := ran _ (Nat.le_max_left enough enoughAgain)
  rw [ranAgain _ (Nat.le_max_right enough enoughAgain)] at long
  exact (Option.some.inj long).symm

end ProxyVPN
