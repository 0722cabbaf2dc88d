/-
Module: ProxyVPN.Worker.SharedList
Purpose: The list of SOCKS5 proxies that the Worker and the app both fetch: how
  each reads a line of it, and exactly when the two take the same endpoints of
  a body.
Trusted boundary: that of UpdateProxies.
Main exports: Worker.SameList, Worker.ReadAlike, Worker.Compensated,
  Worker.sameList_iff, Worker.port_out_of_range, Worker.sameList_of_plain
-/
import ProxyVPN.App.ScrapedEndpoints
import ProxyVPN.Lib.Readings
import ProxyVPN.Worker.UpdateProxies

namespace ProxyVPN.Worker

open Kotlin
open JavaScript (Number parseInt)

/-! ## Endpoints -/

def Entry.endpoint (entry : Entry) : Text × Number :=
  (entry.host, entry.port)

def appEndpoint (proxy : ProxyInfo) : Text × Number :=
  (proxy.host, .finite proxy.port)

/-- What the Worker stores has ports, and it reads of a body what the app
does. -/
structure SameList (platform : Platform) (body : List UInt8) : Prop where
  ports : ∀ stored ∈ updateProxies platform true fun _ => some body,
    ∀ entry ∈ stored, ∃ port, entry.port = .finite port ∧ validPort port
  endpoints : (readSource platform body).map Entry.endpoint =
    (fetchFromUrl platform body .text).map appEndpoint

/-! ## Lines -/

/-- The app lists the line: it is no comment, and the last of its fields, which
are two or more, is a port. -/
def Listed (line : Text) : Prop :=
  (trim line).head? ≠ some '#' ∧ (trim line).head? ≠ some '!' ∧
    ∃ port ∈ (ScrapedEndpoints.fields line).tail.getLast?.bind toIntOrNull,
      validPort port

instance (line : Text) : Decidable (Listed line) :=
  inferInstanceAs (Decidable (_ ∧ _ ∧ _))

/-- The line of the Worker and the line of the app have the same first field,
and the second field of the one begins with the number that the last of the
other is. -/
def SameEndpoint (line piece : Text) : Prop :=
  ∃ ip second rest others last port, fields line = ip :: second :: rest ∧
    ScrapedEndpoints.fields piece = ip :: (others ++ [last]) ∧
    parseInt second = .finite port ∧ toIntOrNull last = some port

/-- Both pass over a line, or both find the same endpoint in it. For the app a
carriage return ends a line too. -/
inductive ReadAlike (line : Text) : Prop where
  | passed (taken : ¬Taken line)
      (listed : ∀ piece ∈ line.splitOn '\r', ¬Listed piece)
  | found {before after : List Text} {piece : Text}
      (pieces : line.splitOn '\r' = before ++ piece :: after)
      (taken : Taken line) (listed : Listed piece)
      (same : SameEndpoint line piece)
      (others : ∀ other ∈ before ++ after, ¬Listed other)

/-- How many endpoints the Worker takes of a line. -/
def takenCount (line : Text) : Nat :=
  if Taken line then 1 else 0

/-- How many endpoints the app takes of it. -/
def listedCount (line : Text) : Nat :=
  (line.splitOn '\r').countP fun piece => Listed piece

/-- Of one line only the Worker takes an endpoint, and of another one the app
takes more than the Worker. -/
def Compensated (lines : List Text) : Prop :=
  (∃ line ∈ lines, listedCount line < takenCount line) ∧
    ∃ line ∈ lines, takenCount line < listedCount line

/-! ## What the readers take -/

/-- The endpoint that the Worker takes of a line. -/
def taken (line : Text) : Option (Text × Number) :=
  (readLine line).map Entry.endpoint

/-- The endpoint that the app takes of a line. -/
def listed (piece : Text) : Option (Text × Number) :=
  (textLine piece).map appEndpoint

theorem taken_isSome_iff (line : Text) :
    (taken line).isSome = true ↔ Taken line := by
  unfold taken
  rw [Option.isSome_map]
  exact readLine_isSome_iff line

/-- A proxy that the app makes of a piece is one that it lists. -/
theorem listed_of_textLine {piece : Text} {proxy : ProxyInfo}
    (made : textLine piece = some proxy) : Listed piece := by
  obtain ⟨noHash, noBang, others, last, split, number, valid⟩ :=
    ScrapedEndpoints.fields_of_textLine made
  refine ⟨noHash, noBang, proxy.port, ?_, valid⟩
  rw [split, List.tail_cons, List.getLast?_concat]
  exact number

/-- The app takes the first field of a piece as the host and its last as the
port. -/
theorem fields_of_listed {piece : Text} (isListed : Listed piece) :
    ∃ first others last port,
      ScrapedEndpoints.fields piece = first :: (others ++ [last]) ∧
      toIntOrNull last = some port ∧ validPort port ∧
      textLine piece = some { host := first, port := port } := by
  obtain ⟨noHash, noBang, port, number, valid⟩ := isListed
  obtain ⟨last, ends, number⟩ := Option.bind_eq_some_iff.mp number
  obtain ⟨others, shape⟩ := List.getLast?_eq_some_iff.mp ends
  cases split : ScrapedEndpoints.fields piece with
  | nil =>
      rw [split] at shape
      exact absurd shape (by simp)
  | cons first rest =>
      rw [split, List.tail_cons] at shape
      rw [shape] at split
      exact ⟨first, others, last, port, by rw [shape], number, valid,
        ScrapedEndpoints.textLine_of_fields split noHash noBang number valid⟩

theorem listed_isSome_iff (piece : Text) :
    (listed piece).isSome = true ↔ Listed piece := by
  unfold listed
  rw [Option.isSome_map]
  constructor
  · intro gives
    obtain ⟨proxy, made⟩ := Option.isSome_iff_exists.mp gives
    exact listed_of_textLine made
  · intro isListed
    obtain ⟨_, _, _, _, _, _, _, made⟩ := fields_of_listed isListed
    rw [made]
    rfl

/-- Where both take a line, they agree exactly if they read the same endpoint.
-/
theorem taken_eq_listed_iff {line piece : Text} (isTaken : Taken line)
    (isListed : Listed piece) :
    taken line = listed piece ↔ SameEndpoint line piece := by
  obtain ⟨entry, read⟩ :=
    Option.isSome_iff_exists.mp ((readLine_isSome_iff line).mpr isTaken)
  obtain ⟨second, rest, split, parsed, _⟩ := readLine_eq_some read
  obtain ⟨first, others, last, port, appSplit, number, _, made⟩ :=
    fields_of_listed isListed
  unfold taken listed
  rw [read, made, Option.map_some, Option.map_some, Option.some_inj]
  constructor
  · intro same
    obtain ⟨host, port⟩ := Prod.mk.inj same
    exact ⟨_, second, rest, others, last, _, split, host ▸ appSplit,
      parsed.trans port, number⟩
  · rintro ⟨ip, _, _, appOthers, appLast, appPort, workerSplit, appShape,
      workerNumber, appNumber⟩
    rw [split] at workerSplit
    rw [appSplit] at appShape
    obtain ⟨rfl, workerRest⟩ := List.cons.inj workerSplit
    obtain ⟨rfl, _⟩ := List.cons.inj workerRest
    obtain ⟨rfl, appRest⟩ := List.cons.inj appShape
    obtain ⟨_, lasts⟩ := List.append_inj' appRest rfl
    obtain ⟨rfl, _⟩ := List.cons.inj lasts
    obtain rfl : port = appPort := Option.some.inj (number.symm.trans appNumber)
    exact Prod.ext rfl (parsed.symm.trans workerNumber)

theorem taken_eq_none_iff (line : Text) : taken line = none ↔ ¬Taken line := by
  rw [← taken_isSome_iff, Option.not_isSome_iff_eq_none]

theorem filterMap_listed_eq_nil_iff (pieces : List Text) :
    pieces.filterMap listed = [] ↔ ∀ piece ∈ pieces, ¬Listed piece := by
  rw [List.filterMap_eq_nil_iff]
  apply forall₂_congr
  intro piece _
  rw [← listed_isSome_iff, Option.not_isSome_iff_eq_none]

/-- One line is read alike exactly when both readers take the same of it. -/
theorem taken_eq_iff (line : Text) :
    (taken line).toList = (line.splitOn '\r').filterMap listed ↔
      ReadAlike line := by
  constructor
  · intro same
    cases read : taken line with
    | none =>
        rw [read, Option.toList_none, eq_comm] at same
        exact .passed ((taken_eq_none_iff line).mp read)
          ((filterMap_listed_eq_nil_iff _).mp same)
    | some endpoint =>
        rw [read, Option.toList_some] at same
        obtain ⟨before, piece, after, pieces, noneBefore, made, noneAfter⟩ :=
          List.filterMap_eq_cons_iff.mp same.symm
        have isTaken : Taken line := by
          rw [← taken_isSome_iff, read]
          rfl
        have isListed : Listed piece := by
          rw [← listed_isSome_iff, made]
          rfl
        refine .found pieces isTaken isListed
          ((taken_eq_listed_iff isTaken isListed).mp (read.trans made.symm)) ?_
        rw [← filterMap_listed_eq_nil_iff, List.filterMap_append, noneAfter,
          List.filterMap_eq_nil_iff.mpr noneBefore]
        rfl
  · intro alike
    cases alike with
    | passed isTaken isListed =>
        rw [(taken_eq_none_iff line).mpr isTaken,
          (filterMap_listed_eq_nil_iff _).mpr isListed]
        rfl
    | @found before after piece pieces isTaken isListed same others =>
        obtain ⟨endpoint, read⟩ :=
          Option.isSome_iff_exists.mp ((taken_isSome_iff line).mpr isTaken)
        have made : listed piece = some endpoint := by
          rw [← read]
          exact ((taken_eq_listed_iff isTaken isListed).mpr same).symm
        rw [← filterMap_listed_eq_nil_iff, List.filterMap_append,
          List.append_eq_nil_iff] at others
        rw [read, pieces, List.filterMap_append, others.1,
          List.filterMap_cons_some made, others.2]
        rfl

/-- The worker makes at most one entry of a line. -/
theorem length_taken (line : Text) :
    (taken line).toList.length = takenCount line := by
  unfold takenCount
  rw [Option.length_toList]
  by_cases isTaken : Taken line
  · rw [if_pos isTaken, if_pos ((taken_isSome_iff line).mpr isTaken)]
  · rw [if_neg isTaken, if_neg (mt (taken_isSome_iff line).mp isTaken)]

theorem length_listed (line : Text) :
    ((line.splitOn '\r').filterMap listed).length = listedCount line := by
  unfold listedCount
  rw [List.length_filterMap_eq_countP]
  apply List.countP_congr
  intro piece _
  rw [listed_isSome_iff, decide_eq_true_iff]

/-! ## Bodies -/

/-- What the worker publishes of a body, line by line. -/
theorem endpoints_readSource (platform : Platform) (body : List UInt8) :
    (readSource platform body).map Entry.endpoint =
      ((platform.utf8 body).splitOn '\n').filterMap taken := by
  rw [readSource_eq, List.map_filterMap]
  rfl

/-- What the app lists of it: a line may be several pieces, as a return ends
one. -/
theorem endpoints_fetchFromUrl (platform : Platform) (body : List UInt8) :
    (fetchFromUrl platform body .text).map appEndpoint =
      ((platform.utf8 body).splitOn '\n').flatMap fun line =>
        (line.splitOn '\r').filterMap listed := by
  have empty : listed [] = none := rfl
  unfold fetchFromUrl
  rw [List.map_filterMap]
  exact filterMap_readLines empty _

/-- The ports that the app lists are in range. -/
theorem sameList_iff_endpoints (platform : Platform) (body : List UInt8) :
    SameList platform body ↔
      (readSource platform body).map Entry.endpoint =
        (fetchFromUrl platform body .text).map appEndpoint := by
  refine ⟨SameList.endpoints, ?_⟩
  intro same
  refine ⟨?_, same⟩
  rintro stored ⟨⟩ entry member
  have extracted : entry ∈ readSource platform body := by
    have taken := List.mem_of_mem_take member
    simpa [sources] using taken
  have endpoint : entry.endpoint ∈
      (fetchFromUrl platform body .text).map appEndpoint :=
    same ▸ List.mem_map_of_mem extracted
  obtain ⟨proxy, fetched, matched⟩ := List.mem_map.mp endpoint
  obtain ⟨line, _, made⟩ := List.mem_filterMap.mp fetched
  obtain ⟨_, _, _, _, _, _, valid⟩ := ScrapedEndpoints.fields_of_textLine made
  exact ⟨proxy.port, (Prod.mk.inj matched).2.symm, valid⟩

/-- Lines that are read alike make the same lists. -/
theorem endpoints_eq_of_readAlike {lines : List Text}
    (alike : ∀ line ∈ lines, ReadAlike line) :
    lines.filterMap taken =
      lines.flatMap fun line => (line.splitOn '\r').filterMap listed := by
  rw [List.filterMap_eq_flatMap_toList]
  apply List.flatMap_congr
  intro line member
  exact (taken_eq_iff line).mpr (alike line member)

/-- Where nothing is made up for, every line is read alike. -/
theorem readAlike_of_endpoints_eq {lines : List Text}
    (same : lines.filterMap taken =
      lines.flatMap fun line => (line.splitOn '\r').filterMap listed)
    (plain : ¬Compensated lines) : ∀ line ∈ lines, ReadAlike line := by
  rw [List.filterMap_eq_flatMap_toList] at same
  intro line member
  rw [← taken_eq_iff]
  by_cases fewer : ∃ line ∈ lines, listedCount line < takenCount line
  · refine (Readings.eq_of_flatMap_eq ?_ same.symm line member).symm
    intro other inside
    rw [length_taken, length_listed]
    exact Nat.le_of_not_lt fun more => plain ⟨fewer, other, inside, more⟩
  · refine Readings.eq_of_flatMap_eq ?_ same line member
    intro other inside
    rw [length_taken, length_listed]
    exact Nat.le_of_not_lt fun less => fewer ⟨other, inside, less⟩

/-- The Worker and the app read a body the same way exactly when they read every
line of it alike, or when lines that they do not read alike make up for one
another, so that the lines that the Worker takes and the lines that the app
lists correspond in their order. -/
theorem sameList_iff (platform : Platform) (body : List UInt8) :
    SameList platform body ↔
      (∀ line ∈ (platform.utf8 body).splitOn '\n', ReadAlike line) ∨
        (Compensated ((platform.utf8 body).splitOn '\n') ∧
          List.Forall₂ SameEndpoint
            (((platform.utf8 body).splitOn '\n').filter fun line => Taken line)
            ((((platform.utf8 body).splitOn '\n').flatMap
              (·.splitOn '\r')).filter fun piece => Listed piece)) := by
  have correspond := Readings.filterMap_eq_iff taken_isSome_iff
    listed_isSome_iff (fun _ _ => taken_eq_listed_iff)
    ((platform.utf8 body).splitOn '\n')
    (((platform.utf8 body).splitOn '\n').flatMap (·.splitOn '\r'))
  rw [List.filterMap_flatMap] at correspond
  rw [sameList_iff_endpoints, endpoints_readSource, endpoints_fetchFromUrl]
  constructor
  · intro same
    by_cases compensated : Compensated ((platform.utf8 body).splitOn '\n')
    · exact .inr ⟨compensated, correspond.mp same⟩
    · exact .inl (readAlike_of_endpoints_eq same compensated)
  · rintro (alike | ⟨_, pairs⟩)
    · exact endpoints_eq_of_readAlike alike
    · exact correspond.mpr pairs

/-- Of the port 99999 the app takes no proxy, but the Worker stores it. -/
theorem port_out_of_range :
    ¬∀ (platform : Platform) (body : List UInt8), SameList platform body := by
  intro all
  let platform := ShadowsocksLink.utf8Platform
  let text := "192.0.2.1:99999".toList
  have decoded : platform.utf8 (platform.bytes text) = text :=
    ShadowsocksLink.utf8Platform_standard.1 text
  have worker : (readSource platform (platform.bytes text)).map Entry.endpoint =
      [("192.0.2.1".toList, .finite 99999)] := by
    unfold readSource
    rw [decoded]
    decide
  have app : (fetchFromUrl platform (platform.bytes text) .text).map appEndpoint =
      [] := by
    unfold fetchFromUrl
    rw [decoded]
    decide
  have same := (all platform (platform.bytes text)).endpoints
  rw [worker, app] at same
  cases same

/-! ## Plain lists -/

/-- A line of a host, a colon and the digits of a port, without white space. -/
structure PlainLine (line host digits : Text) (port : Int) : Prop where
  line : line = host ++ ':' :: digits
  nonempty : host ≠ []
  colon : ':' ∉ host
  noHash : host.head? ≠ some '#'
  noBang : host.head? ≠ some '!'
  solid : ∀ char ∈ host,
    isWhitespace char = false ∧ JavaScript.isWhiteSpace char = false
  numeral : Numeral digits port
  valid : validPort port

namespace PlainLine

variable {line host digits : Text} {port : Int}

/-- A plain line has no white space of either language. -/
theorem solid_line (plain : PlainLine line host digits port) :
    ∀ char ∈ line,
      isWhitespace char = false ∧ JavaScript.isWhiteSpace char = false := by
  intro char member
  rw [plain.line, List.mem_append, List.mem_cons] at member
  rcases member with inHost | rfl | inDigits
  · exact plain.solid char inHost
  · decide
  · have digit := plain.numeral.isDigit char inDigits
    exact ⟨isWhitespace_of_isDigit digit,
      JavaScript.isWhiteSpace_of_isDigit digit⟩

theorem splitOn_colon (plain : PlainLine line host digits port) :
    line.splitOn ':' = [host, digits] := by
  have noColon : ':' ∉ digits := by
    intro member
    exact absurd (plain.numeral.isDigit _ member) (by decide)
  rw [plain.line, List.splitOn_append_cons_self_of_not_mem plain.colon,
    List.splitOn_eq_singleton noColon]

theorem splitOn_return (plain : PlainLine line host digits port) :
    line.splitOn '\r' = [line] := by
  apply List.splitOn_eq_singleton
  intro member
  exact absurd (plain.solid_line _ member).1 (by decide)

/-- Both read a plain line as the endpoint that it names. -/
theorem readAlike (plain : PlainLine line host digits port) :
    ReadAlike line := by
  have trimmed := trim_of_forall fun char member =>
    (plain.solid_line char member).1
  have workerFields : fields line = [host, digits] := by
    unfold fields
    rw [JavaScript.trim_of_forall fun char member =>
      (plain.solid_line char member).2, plain.splitOn_colon]
  have appFields : ScrapedEndpoints.fields line = [host, digits] := by
    unfold ScrapedEndpoints.fields
    rw [trimmed, plain.splitOn_colon]
  have range : 1 ≤ port ∧ port ≤ 65535 := plain.valid
  have workerNumber : parseInt digits = .finite port :=
    JavaScript.parseInt_of_numeral plain.numeral (by omega)
  have appNumber : toIntOrNull digits = some port :=
    plain.numeral.toIntOrNull (by omega)
  have begins : (trim line).head? = host.head? := by
    rw [trimmed, plain.line, List.head?_append_of_ne_nil _ plain.nonempty]
  refine @ReadAlike.found line [] [] line plain.splitOn_return ?_ ?_ ?_ ?_
  · unfold Taken
    rw [workerFields]
    refine ⟨plain.nonempty, ?_⟩
    rw [workerNumber]
    exact decide_eq_true (by omega)
  · refine ⟨begins ▸ plain.noHash, begins ▸ plain.noBang, port, ?_,
      plain.valid⟩
    rw [appFields]
    exact appNumber
  · exact ⟨host, digits, [], [], digits, port, workerFields, appFields,
      workerNumber, appNumber⟩
  · intro other member
    cases member

end PlainLine

/-- A list of plain lines and empty ones is read the same way. -/
theorem sameList_of_plain {platform : Platform} {body : List UInt8}
    (plain : ∀ line ∈ (platform.utf8 body).splitOn '\n',
      line = [] ∨ ∃ host digits port, PlainLine line host digits port) :
    SameList platform body := by
  rw [sameList_iff_endpoints, endpoints_readSource, endpoints_fetchFromUrl]
  apply endpoints_eq_of_readAlike
  intro line member
  rcases plain line member with rfl | ⟨host, digits, port, plainLine⟩
  · exact .passed (by decide) (by decide)
  · exact plainLine.readAlike

end ProxyVPN.Worker
