/-
Module: ProxyVPN.Worker.UpdateProxies
Purpose: The list that the Worker keeps: what `updateProxies` reads of the body
  of its source, and exactly the lines that it takes an entry of.
Trusted boundary: that of JavaScript and of ProxySources: bytes are decoded as
  they are for the app. The entries are not written out as JSON.
Main exports: Worker.Entry, Worker.readLine, Worker.readSource,
  Worker.updateProxies, Worker.Taken, Worker.readLine_isSome_iff,
  Worker.readSource_eq
-/
import ProxyVPN.App.ProxySources
import ProxyVPN.Lib.JavaScript

namespace ProxyVPN.Worker

open Kotlin (Text)
open JavaScript (Number parseInt responseText)

structure Entry where
  host : Text
  port : Number
  type : Text
  deriving DecidableEq

def sources : List String :=
  ["https://raw.githubusercontent.com/TheSpeedX/SOCKS-List/master/socks5.txt"]

/-- The fields of a line. -/
def fields (line : Text) : List Text :=
  (JavaScript.trim line).splitOn ':'

/-- The entry of a line. The number has to be one and not zero. -/
def readLine (line : Text) : Option Entry :=
  match fields line with
  | ip :: second :: _ =>
      let port := parseInt second
      if ip ≠ [] ∧ port.truthy then
        some { host := ip, port := port, type := "SOCKS5".toList }
      else none
  | _ => none

/-- The entries of the lines that have a colon. -/
def readText (text : Text) : List Entry :=
  ((text.splitOn '\n').filter (':' ∈ ·)).filterMap readLine

/-- The entries of the body of a response. -/
def readSource (platform : Platform) (body : List UInt8) : List Entry :=
  readText (responseText (platform.utf8 body))

/-- What is put into the store, when there is one. A source that cannot be
fetched gives nothing. -/
def updateProxies (platform : Platform) (bound : Bool)
    (fetch : String → Option (List UInt8)) : Option (List Entry) :=
  if bound then
    let allProxies := sources.flatMap fun source =>
      match fetch source with
      | some body => readSource platform body
      | none => []
    some (allProxies.take 1000)
  else none

/-! ## Lines -/

/-- The line has a first field and a number in the second. -/
def Taken (line : Text) : Prop :=
  match fields line with
  | ip :: second :: _ => ip ≠ [] ∧ (parseInt second).truthy = true
  | _ => False

instance (line : Text) : Decidable (Taken line) :=
  match split : fields line with
  | ip :: second :: _ =>
      decidable_of_iff (ip ≠ [] ∧ (parseInt second).truthy = true)
        (by unfold Taken; rw [split])
  | [] => isFalse (by unfold Taken; rw [split]; exact id)
  | [_] => isFalse (by unfold Taken; rw [split]; exact id)

theorem readLine_eq {line ip second : Text} {others : List Text}
    (split : fields line = ip :: second :: others) (host : ip ≠ [])
    (number : (parseInt second).truthy = true) :
    readLine line = some
      { host := ip, port := parseInt second, type := "SOCKS5".toList } := by
  unfold readLine
  rw [split]
  exact if_pos ⟨host, number⟩

theorem readLine_eq_some {line : Text} {entry : Entry}
    (read : readLine line = some entry) :
    ∃ second others, fields line = entry.host :: second :: others ∧
      parseInt second = entry.port ∧ Taken line := by
  unfold readLine at read
  split at read
  case h_1 ip second others split =>
    obtain ⟨taken, same⟩ := Option.ite_none_right_eq_some.mp read
    cases same
    refine ⟨second, others, split, rfl, ?_⟩
    unfold Taken
    rw [split]
    exact taken
  case h_2 => cases read

theorem readLine_isSome_iff (line : Text) :
    (readLine line).isSome = true ↔ Taken line := by
  constructor
  · intro gives
    obtain ⟨entry, read⟩ := Option.isSome_iff_exists.mp gives
    obtain ⟨_, _, _, _, taken⟩ := readLine_eq_some read
    exact taken
  · intro taken
    unfold Taken at taken
    split at taken
    case h_1 ip second others split =>
      rw [readLine_eq split taken.1 taken.2]
      rfl
    case h_2 => exact taken.elim

/-- A line without a colon has one field. -/
theorem readLine_of_notMem {line : Text} (absent : ':' ∉ line) :
    readLine line = none := by
  have trimmed : ':' ∉ JavaScript.trim line := by
    intro member
    have front := (List.dropWhile_sublist _).subset (List.mem_reverse.mp member)
    exact absent ((List.dropWhile_sublist _).subset (List.mem_reverse.mp front))
  unfold readLine fields
  rw [List.splitOn_eq_singleton trimmed]

/-- The lines without a colon are left out twice. -/
theorem readText_eq (text : Text) :
    readText text = (text.splitOn '\n').filterMap readLine := by
  unfold readText
  rw [List.filterMap_filter]
  apply List.filterMap_congr
  intro line _
  split
  case isTrue => rfl
  case isFalse absent =>
    have notMem : ':' ∉ line := fun member => absent (decide_eq_true member)
    exact (readLine_of_notMem notMem).symm

/-- A byte order mark is left out of the first line in any case. -/
theorem readText_responseText (text : Text) :
    readText (responseText text) = readText text := by
  cases text with
  | nil => rfl
  | cons first rest =>
      unfold responseText
      simp only
      split_ifs with isMark
      · rw [isMark, readText_eq, readText_eq,
          Kotlin.splitOn_cons_of_ne _ (by decide)]
        cases split : rest.splitOn '\n' with
        | nil => exact absurd split (List.splitOn_ne_nil _ _)
        | cons line lines =>
            have same : readLine (JavaScript.byteOrderMark :: line) =
                readLine line := by
              unfold readLine fields
              rw [JavaScript.trim_byteOrderMark]
            rw [List.modifyHead_cons, List.filterMap_cons, List.filterMap_cons,
              same]
      · rfl

theorem readSource_eq (platform : Platform) (body : List UInt8) :
    readSource platform body =
      ((platform.utf8 body).splitOn '\n').filterMap readLine := by
  unfold readSource
  rw [readText_responseText, readText_eq]

end ProxyVPN.Worker
