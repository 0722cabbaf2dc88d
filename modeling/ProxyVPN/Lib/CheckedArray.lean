/-
Module: ProxyVPN.Lib.CheckedArray
Purpose: Arrays whose accesses are checked, as lists in the error monad: reads,
  writes and block copies, when they succeed, and what they do to an array
  known in parts.
Trusted boundary: none
Main exports: CheckedArray.Error, read, write, allocate, copy, bind_eq_ok,
  length_of_write, Keeps, read_append, copy_append
-/
import Mathlib.Data.List.Basic

namespace ProxyVPN.CheckedArray

universe u

/-- What a failed access or allocation raises. -/
inductive Error where
  | indexOutOfBounds
  | negativeSize
deriving Repr, DecidableEq

variable {α : Type u}

def read (array : List α) (index : Nat) : Except Error α :=
  match array[index]? with
  | some value => .ok value
  | none => .error .indexOutOfBounds

def write (array : List α) (index : Nat) (value : α) :
    Except Error (List α) :=
  match array[index]? with
  | some _ => .ok (array.set index value)
  | none => .error .indexOutOfBounds

/-- A new array of a signed size. -/
def allocate (blank : α) (size : Int) : Except Error (List α) :=
  if size < 0 then .error .negativeSize
  else .ok (List.replicate size.toNat blank)

/-- Copy `count` elements of `source` from `sourceStart` over those of `target`
from `targetStart`. -/
def copy (source : List α) (sourceStart : Nat) (target : List α)
    (targetStart count : Nat) : Except Error (List α) :=
  if sourceStart + count ≤ source.length ∧
      targetStart + count ≤ target.length then
    .ok (target.take targetStart ++ (source.drop sourceStart).take count ++
      target.drop (targetStart + count))
  else
    .error .indexOutOfBounds

@[simp] theorem ok_bind {ε β γ : Type u} (value : β)
    (next : β → Except ε γ) : (Except.ok value >>= next) = next value := rfl

@[simp] theorem error_bind {ε β γ : Type u} (raised : ε)
    (next : β → Except ε γ) :
    ((Except.error raised : Except ε β) >>= next) = .error raised := rfl

@[simp] theorem pure_eq_ok {ε β : Type u} (value : β) :
    (pure value : Except ε β) = .ok value := rfl

/-- Steps in a row succeed with what the last one gives. -/
theorem bind_eq_ok {ε β γ : Type u} {first : Except ε β}
    {next : β → Except ε γ} {result : γ} :
    first >>= next = .ok result ↔
      ∃ value, first = .ok value ∧ next value = .ok result := by
  cases first with
  | error raised => simp
  | ok value => simp

/-- Inside of the array a read gives the element, -/
theorem read_eq_ok {array : List α} {index : Nat}
    (inside : index < array.length) (fallback : α) :
    read array index = .ok (array.getD index fallback) := by
  unfold read
  rw [List.getD_eq_getElem?_getD, List.getElem?_eq_getElem inside,
    Option.getD_some]

/-- and behind its end it fails. -/
theorem read_eq_error {array : List α} {index : Nat}
    (outside : array.length ≤ index) :
    read array index = .error .indexOutOfBounds := by
  unfold read
  rw [List.getElem?_eq_none outside]

/-- A read that succeeds was inside. -/
theorem lt_length_of_read {array : List α} {index : Nat} {value : α}
    (success : read array index = .ok value) : index < array.length := by
  unfold read at success
  split at success
  case h_1 found => exact (List.getElem?_eq_some_iff.mp found).1
  case h_2 => cases success

theorem write_eq_ok {array : List α} {index : Nat} {value : α}
    (inside : index < array.length) :
    write array index value = .ok (array.set index value) := by
  unfold write
  rw [List.getElem?_eq_getElem inside]

/-- A write that succeeds is inside the array and keeps its length. -/
theorem length_of_write {array result : List α} {index : Nat} {value : α}
    (success : write array index value = .ok result) :
    index < array.length ∧ result.length = array.length := by
  unfold write at success
  split at success
  case h_1 found =>
    cases success
    exact ⟨(List.getElem?_eq_some_iff.mp found).1, List.length_set⟩
  case h_2 => cases success

/-- A copy between regions that are inside of their arrays replaces the one by
the other. -/
theorem copy_eq_ok {source target : List α} {sourceStart targetStart count : Nat}
    (sourceInside : sourceStart + count ≤ source.length)
    (targetInside : targetStart + count ≤ target.length) :
    copy source sourceStart target targetStart count =
      .ok (target.take targetStart ++ (source.drop sourceStart).take count ++
        target.drop (targetStart + count)) :=
  if_pos ⟨sourceInside, targetInside⟩

/-- Copies to adjacent places are one copy. -/
theorem copy_bind_copy (first second target : List α) (start : Nat) :
    (copy first 0 target start first.length >>= fun middle =>
      copy second 0 middle (start + first.length) second.length) =
      copy (first ++ second) 0 target start (first.length + second.length) := by
  have firstSize : 0 + first.length ≤ first.length := by omega
  have secondSize : 0 + second.length ≤ second.length := by omega
  have bothSize : 0 + (first.length + second.length) ≤
      (first ++ second).length := by
    rw [List.length_append]
    omega
  by_cases firstInside : start + first.length ≤ target.length
  · rw [copy_eq_ok firstSize firstInside]
    change copy second 0 _ _ _ = _
    have whole : (first.drop 0).take first.length = first := by
      rw [List.drop_zero, List.take_length]
    have front : (target.take start ++ first).length = start + first.length := by
      rw [List.length_append, List.length_take]
      omega
    have size : (target.take start ++ first ++
        target.drop (start + first.length)).length = target.length := by
      rw [List.length_append, front, List.length_drop]
      omega
    rw [whole]
    by_cases secondInside : start + first.length + second.length ≤
        target.length
    · have behind : (target.take start ++ first ++
          target.drop (start + first.length)).drop
            (start + first.length + second.length) =
          target.drop (start + (first.length + second.length)) := by
        rw [← List.drop_drop, List.drop_left' front, List.drop_drop,
          Nat.add_assoc]
      rw [copy_eq_ok secondSize (by rw [size]; exact secondInside),
        copy_eq_ok bothSize (by omega), List.take_left' front, behind,
        List.drop_zero, List.drop_zero, List.take_length,
        List.take_of_length_le (Nat.le_of_eq List.length_append),
        List.append_assoc (target.take start)]
    · unfold copy
      rw [if_neg fun inside => secondInside (by
          have bound := inside.2
          rw [size] at bound
          omega),
        if_neg fun inside => secondInside (by omega)]
  · unfold copy
    rw [if_neg fun inside => firstInside inside.2,
      if_neg fun inside => firstInside (by omega)]
    rfl

/-- A copy that succeeds keeps the length of its target. -/
theorem length_of_copy {source target result : List α}
    {sourceStart targetStart count : Nat}
    (success : copy source sourceStart target targetStart count = .ok result) :
    result.length = target.length := by
  unfold copy at success
  split at success
  case isTrue inside =>
    cases success
    simp only [List.length_append, List.length_take, List.length_drop]
    omega
  case isFalse => cases success

/-- A copy changes nothing in front of it. -/
theorem getElem?_of_copy {source target result : List α}
    {sourceStart targetStart count index : Nat}
    (success : copy source sourceStart target targetStart count = .ok result)
    (before : index < targetStart) : result[index]? = target[index]? := by
  unfold copy at success
  split at success
  case isTrue inside =>
    cases success
    have front : index < (target.take targetStart).length := by
      rw [List.length_take]
      omega
    rw [List.append_assoc, List.getElem?_append_left front,
      List.getElem?_take_of_lt before]
  case isFalse => cases success

@[simp] theorem allocate_natCast (blank : α) (size : Nat) :
    allocate blank (size : Int) = .ok (List.replicate size blank) :=
  if_neg (Int.not_lt.mpr (Int.natCast_nonneg size))

/-- No array has a negative length. -/
theorem length_of_allocate {blank : α} {size : Int} {result : List α}
    (success : allocate blank size = .ok result) :
    0 ≤ size ∧ result.length = size.toNat := by
  unfold allocate at success
  split at success
  case isTrue => cases success
  case isFalse nonnegative =>
    cases success
    exact ⟨Int.not_lt.mp nonnegative, List.length_replicate⟩

/-! Steps that always succeed on arrays of one length and keep it. -/

def Keeps (size : Nat) (step : List α → Except Error (List α)) : Prop :=
  ∀ array, array.length = size →
    ∃ next, step array = .ok next ∧ next.length = size

theorem Keeps.write {size index : Nat} (inside : index < size) (value : α) :
    Keeps size fun array => write array index value := by
  intro array sizeEq
  rw [← sizeEq] at inside
  exact ⟨_, write_eq_ok inside, by rw [List.length_set, sizeEq]⟩

theorem Keeps.copy {source : List α} {sourceStart size start count : Nat}
    (sourceInside : sourceStart + count ≤ source.length)
    (inside : start + count ≤ size) :
    Keeps size fun array => copy source sourceStart array start count := by
  intro array sizeEq
  rw [← sizeEq] at inside
  have copied : CheckedArray.copy source sourceStart array start count = _ :=
    copy_eq_ok sourceInside inside
  exact ⟨_, copied, by rw [length_of_copy copied, sizeEq]⟩

/-- A step may depend on what was computed from the array before it. -/
theorem Keeps.using {β : Type u} {size : Nat}
    {compute : List α → Except Error β}
    {step : β → List α → Except Error (List α)}
    (computes : ∀ array, array.length = size →
      ∃ value, compute array = .ok value)
    (keeps : ∀ value, Keeps size (step value)) :
    Keeps size fun array => compute array >>= fun value => step value array := by
  intro array sizeEq
  obtain ⟨value, computed⟩ := computes array sizeEq
  simp only [computed]
  exact keeps value array sizeEq

theorem Keeps.read {size index : Nat}
    {step : α → List α → Except Error (List α)} (inside : index < size)
    (keeps : ∀ value, Keeps size (step value)) :
    Keeps size fun array =>
      CheckedArray.read array index >>= fun value => step value array := by
  apply Keeps.using _ keeps
  intro array sizeEq
  have insideArray : index < array.length := by rwa [sizeEq]
  exact ⟨_, read_eq_ok insideArray array[index]⟩

/-- Two steps of this kind in a row are one. -/
theorem Keeps.seq {size : Nat} {first second : List α → Except Error (List α)}
    (keepsFirst : Keeps size first) (keepsSecond : Keeps size second) :
    Keeps size fun array => first array >>= second := by
  intro array sizeEq
  obtain ⟨middle, firstEq, middleSize⟩ := keepsFirst array sizeEq
  simp only
  rw [firstEq]
  exact keepsSecond middle middleSize

theorem read_set {array : List α} {index : Nat} (inside : index < array.length)
    (value : α) : read (array.set index value) index = .ok value := by
  unfold read
  rw [List.getElem?_set_self inside]

/-- An index behind a front is one into the rest. -/
theorem read_append (front back : List α) (index : Nat) :
    read (front ++ back) (front.length + index) = read back index := by
  unfold read
  rw [List.getElem?_append_right (Nat.le_add_right _ _), Nat.add_sub_cancel_left]

theorem write_append (front : List α) (old value : α) (back : List α) :
    write (front ++ old :: back) front.length value =
      .ok (front ++ value :: back) := by
  have inside : front.length < (front ++ old :: back).length := by
    rw [List.length_append, List.length_cons]
    omega
  rw [write_eq_ok inside, List.set_append_right _ _ (Nat.le_refl _),
    Nat.sub_self, List.set_cons_zero]

/-- A copy from the beginning of `source` over a known part of the target. -/
theorem copy_append (source front middle back : List α) {count : Nat}
    (available : count ≤ source.length) (sized : middle.length = count) :
    copy source 0 (front ++ (middle ++ back)) front.length count =
      .ok (front ++ (source.take count ++ back)) := by
  subst sized
  rw [copy_eq_ok (by omega) (by simp), List.take_left, List.drop_zero,
    ← List.append_assoc front, ← List.length_append, List.drop_left,
    List.append_assoc]

end ProxyVPN.CheckedArray
