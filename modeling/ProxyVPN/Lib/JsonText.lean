/-
Module: ProxyVPN.Lib.JsonText
Purpose: Texts in JSON: a machine that reads the tokens of a text one character
  at a time, and the value of a text.
Trusted boundary: none
Main exports: JsonText.step, JsonText.scan, JsonText.lexFrom, JsonText.Denotes,
  JsonText.Denotes.unique, JsonText.lexFrom_append
-/
import ProxyVPN.Lib.Json

namespace ProxyVPN.JsonText

open Kotlin Json

/-! ## Strings -/

/-- A character of a string, or the number of a UTF-16 unit that an escape
gives. -/
inductive Piece where
  | char (char : Char)
  | unit (code : Nat)
deriving DecidableEq

/-- A unit that is half of a pair is replaced. -/
def ofUnit (code : Nat) : Char :=
  if 0xD800 ≤ code ∧ code ≤ 0xDFFF then '\uFFFD' else Char.ofNat code

/-- The text of the pieces.  Two units that are a pair are one character. -/
def decode : List Piece → Text
  | [] => []
  | .char char :: pieces => char :: decode pieces
  | .unit high :: .unit low :: pieces =>
      if 0xD800 ≤ high ∧ high ≤ 0xDBFF ∧ 0xDC00 ≤ low ∧ low ≤ 0xDFFF then
        Char.ofNat (0x10000 + (high - 0xD800) * 0x400 + (low - 0xDC00)) ::
          decode pieces
      else
        ofUnit high :: decode (.unit low :: pieces)
  | .unit code :: pieces => ofUnit code :: decode pieces

/-- The character that an escape of two characters stands for. -/
def escaped : Char → Option Char
  | '"' => some '"'
  | '\\' => some '\\'
  | '/' => some '/'
  | 'b' => some '\x08'
  | 'f' => some '\x0c'
  | 'n' => some '\n'
  | 'r' => some '\r'
  | 't' => some '\t'
  | _ => none

def hexDigit (char : Char) : Option Nat :=
  if char.isDigit then some (char.toNat - '0'.toNat)
  else if 'a' ≤ char ∧ char ≤ 'f' then some (char.toNat - 'a'.toNat + 10)
  else if 'A' ≤ char ∧ char ≤ 'F' then some (char.toNat - 'A'.toNat + 10)
  else none

/-! ## Words -/

def afterDigits (text : Text) : Option Text :=
  if text.head?.any Char.isDigit then some (text.dropWhile Char.isDigit)
  else none

/-- What follows an integer without leading zeros. -/
def afterInteger : Text → Option Text
  | '0' :: rest => some rest
  | text => afterDigits text

def afterFraction : Text → Option Text
  | '.' :: rest => afterDigits rest
  | text => some text

def afterExponent (text : Text) : Option Text :=
  match text with
  | char :: rest =>
      if char = 'e' ∨ char = 'E' then
        match rest with
        | '+' :: digits => afterDigits digits
        | '-' :: digits => afterDigits digits
        | digits => afterDigits digits
      else some text
  | [] => some []

def withoutMinus : Text → Text
  | '-' :: rest => rest
  | text => text

def isNumber (literal : Text) : Bool :=
  ((afterInteger (withoutMinus literal)).bind afterFraction).bind
    afterExponent = some []

def wordToken (word : Text) : Option (Token Text) :=
  if word = ['n', 'u', 'l', 'l'] then some .null
  else if word = ['t', 'r', 'u', 'e'] then some (.bool true)
  else if word = ['f', 'a', 'l', 's', 'e'] then some (.bool false)
  else if isNumber word then some (.number word)
  else none

/-! ## The machine -/

/-- Where the reading of a text is: what it has read of a word or of a string,
and of an escape how many digits come after the next one. -/
inductive Mode where
  | between
  | word (read : Text)
  | string (read : List Piece)
  | escape (read : List Piece)
  | unicode (read : List Piece) (left : Nat) (code : Nat)
deriving DecidableEq

def structural : Char → Option (Token Text)
  | '\x7b' => some .beginObject
  | '\x7d' => some .endObject
  | '[' => some .beginArray
  | ']' => some .endArray
  | ':' => some .nameSeparator
  | ',' => some .valueSeparator
  | _ => none

def isSpace (char : Char) : Bool :=
  char = ' ' || char = '\t' || char = '\n' || char = '\r'

/-- The characters that words are made of: all that mean nothing else. -/
def inWord (char : Char) : Bool :=
  !(isSpace char || char = '"' || (structural char).isSome)

def stepBetween (char : Char) : Mode × List (Token Text) :=
  if inWord char then (.word [char], [])
  else if char = '"' then (.string [], [])
  else (.between, (structural char).toList)

def stepString (read : List Piece) (char : Char) :
    Option (Mode × List (Token Text)) :=
  if char = '"' then some (.between, [.string (decode read)])
  else if char = '\\' then some (.escape read, [])
  else if char.toNat < 0x20 then none
  else some (.string (read ++ [.char char]), [])

def stepEscape (read : List Piece) (char : Char) :
    Option (Mode × List (Token Text)) :=
  if char = 'u' then some (.unicode read 3 0, [])
  else (escaped char).map fun stands => (.string (read ++ [.char stands]), [])

/-- Behind a digit of an escape, with as many left. -/
def afterDigit (read : List Piece) (code : Nat) : Nat → Mode
  | 0 => .string (read ++ [.unit code])
  | left + 1 => .unicode read left code

def stepUnicode (read : List Piece) (left code : Nat) (char : Char) :
    Option (Mode × List (Token Text)) :=
  (hexDigit char).map fun digit =>
    (afterDigit read (code * 16 + digit) left, [])

/-- One character: the next mode and the tokens that end here. -/
def step : Mode → Char → Option (Mode × List (Token Text))
  | .between, char => some (stepBetween char)
  | .word read, char =>
      if inWord char then some (.word (read ++ [char]), [])
      else
        (wordToken read).map fun token =>
          ((stepBetween char).1, token :: (stepBetween char).2)
  | .string read, char => stepString read char
  | .escape read, char => stepEscape read char
  | .unicode read left code, char => stepUnicode read left code char

/-- The mode after a text, and the tokens that ended in it. -/
def scan : Mode → Text → Option (Mode × List (Token Text))
  | mode, [] => some (mode, [])
  | mode, char :: text =>
      (step mode char).bind fun (next, first) =>
        (scan next text).map fun (last, rest) => (last, first ++ rest)

def finish : Mode → Option (List (Token Text))
  | .between => some []
  | .word read => (wordToken read).map ([·])
  | _ => none

/-- The tokens of a text that is read to its end. -/
def lexFrom : Mode → Text → Option (List (Token Text))
  | mode, [] => finish mode
  | mode, char :: text =>
      (step mode char).bind fun (next, first) =>
        (lexFrom next text).map (first ++ ·)

/-- The text is valid, and this is its value. -/
def Denotes (text : Text) (document : Json Text) : Prop :=
  lexFrom .between text = some document.tokens

/-- A text is that of one value at most. -/
theorem Denotes.unique {text : Text} {left right : Json Text}
    (isLeft : Denotes text left) (isRight : Denotes text right) :
    left = right :=
  tokens_inj (Option.some.inj (isLeft.symm.trans isRight))

/-- One step of a text that is read to its end. -/
theorem lexFrom_cons {mode : Mode} {char : Char} {text : Text}
    {tokens : List (Token Text)} (reads : lexFrom mode (char :: text) = some tokens) :
    ∃ next first rest, step mode char = some (next, first) ∧
      lexFrom next text = some rest ∧ first ++ rest = tokens := by
  obtain ⟨⟨next, first⟩, taken, others⟩ := Option.bind_eq_some_iff.mp reads
  obtain ⟨rest, goesOn, same⟩ := Option.map_eq_some_iff.mp others
  exact ⟨next, first, rest, taken, goesOn, same⟩

theorem lexFrom_append {mode next : Mode} {front : Text}
    {tokens : List (Token Text)} (scanned : scan mode front = some (next, tokens))
    (rest : Text) :
    lexFrom mode (front ++ rest) = (lexFrom next rest).map (tokens ++ ·) := by
  induction front generalizing mode tokens with
  | nil =>
      cases scanned
      simp
  | cons char front inductionHypothesis =>
      obtain ⟨⟨middle, first⟩, taken, others⟩ :=
        Option.bind_eq_some_iff.mp scanned
      obtain ⟨⟨last, more⟩, goesOn, same⟩ := Option.map_eq_some_iff.mp others
      cases same
      simp [lexFrom, taken, inductionHypothesis goesOn, Option.map_map,
        Function.comp_def]

/-- What is read behind a text that is scanned is read from where the scan
ends. -/
theorem lexFrom_append_iff {mode next : Mode} {front : Text}
    {tokens : List (Token Text)} (scanned : scan mode front = some (next, tokens))
    {rest : Text} {more : List (Token Text)} :
    lexFrom mode (front ++ rest) = some (tokens ++ more) ↔
      lexFrom next rest = some more := by
  rw [lexFrom_append scanned]
  simp

end ProxyVPN.JsonText
