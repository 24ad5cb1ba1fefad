/-
# Spaces, words, numbers and scalars

The pieces of a JSON text below its brackets. Space is the four characters that JSON allows, a
narrower class than blank. Each reader starts at the first character of its piece and answers what
it read with the text that is left.
-/
import EvaluationBrowser.Json.Text

namespace EvaluationBrowser.Json

def isSpace (c : Char) : Bool := c == ' ' || c == '\t' || c == '\n' || c == '\r'

def skipSpace (text : List Char) : List Char := text.dropWhile isSpace

/-- The letters of `true`, `false` or `null`, after the first. -/
def readWord : List Char → List Char → Except Fault (List Char)
  | [], text => .ok text
  | _ :: _, [] => .error (.before .endInValue [])
  | w :: ws, c :: rest => if c = w then readWord ws rest else .error (.on .expectedWord (c :: rest))

/-! ## Numbers

A number that the text ends in has one cause of fault where its value is wanted and another where
it is skipped, so that cause is a parameter. -/

/-- Where a digit must stand and none does. -/
def digitFault (atEnd : Cause) (text : List Char) : Fault :=
  if text.isEmpty then .before atEnd [] else .on .invalidNumber text

/-- A single zero, or digits that do not begin with zero. -/
def readWhole (atEnd : Cause) : List Char → Except Fault (List Char × List Char)
  | [] => .error (digitFault atEnd [])
  | c :: rest =>
    if c = '0' then
      match rest with
      | [] => .ok (['0'], [])
      | d :: _ =>
        if d.isDigit then .error (.on .invalidNumber rest) else .ok (['0'], rest)
    else if c.isDigit then .ok (c :: rest.takeWhile Char.isDigit, rest.dropWhile Char.isDigit)
    else .error (digitFault atEnd (c :: rest))

def readFraction (atEnd : Cause) (text : List Char) :
    Except Fault (Option (List Char) × List Char) :=
  match text with
  | '.' :: rest =>
    let digits := rest.takeWhile Char.isDigit
    if digits.isEmpty then .error (digitFault atEnd rest)
    else .ok (some digits, rest.dropWhile Char.isDigit)
  | _ => .ok (none, text)

def readExponentSign : List Char → ExponentSign × List Char
  | '+' :: rest => (.plus, rest)
  | '-' :: rest => (.minus, rest)
  | rest => (.absent, rest)

def readExponent (atEnd : Cause) (text : List Char) : Except Fault (Option Exponent × List Char) :=
  match text with
  | [] => .ok (none, [])
  | c :: rest =>
    if c = 'e' ∨ c = 'E' then
      let (sign, rest) := readExponentSign rest
      let digits := rest.takeWhile Char.isDigit
      if digits.isEmpty then .error (digitFault atEnd rest)
      else .ok (some ⟨decide (c = 'E'), sign, digits⟩, rest.dropWhile Char.isDigit)
    else .ok (none, text)

def readLiteral (atEnd : Cause) (text : List Char) : Except Fault (Literal × List Char) := do
  let negative := text.head? == some '-'
  let (whole, text) ← readWhole atEnd (if negative then text.drop 1 else text)
  let (fraction, text) ← readFraction atEnd text
  let (exponent, text) ← readExponent atEnd text
  .ok (⟨negative, whole, fraction, exponent⟩, text)

/-- A number whose value is wanted. If it is out of range, the fault lies behind the characters
that show it. -/
def readNumber (text : List Char) : Except Fault (Number × List Char) := do
  let (literal, rest) ← readLiteral .endInValue text
  match literal.number with
  | .ok number => .ok (number, rest)
  | .error unread => .error (.before .outOfRange (unread ++ rest))

def startsNumber (c : Char) : Bool := c == '-' || c.isDigit

/-! ## Scalars -/

/-- Any value but a list or an object. -/
def readScalar : List Char → Except Fault (Found × List Char)
  | [] => .error (.before .endInValue [])
  | c :: rest =>
    if c = 'n' then (readWord ['u', 'l', 'l'] rest).map (Found.null, ·)
    else if c = 't' then (readWord ['r', 'u', 'e'] rest).map (Found.boolean true, ·)
    else if c = 'f' then (readWord ['a', 'l', 's', 'e'] rest).map (Found.boolean false, ·)
    else if c = '"' then (readText rest).map fun r => (Found.text (String.ofList r.1), r.2)
    else if startsNumber c then (readNumber (c :: rest)).map fun r => (Found.number r.1, r.2)
    else .error (.on .expectedValue (c :: rest))

def skipScalar : List Char → Except Fault (List Char)
  | [] => .error (.before .endInValue [])
  | c :: rest =>
    if c = 'n' then readWord ['u', 'l', 'l'] rest
    else if c = 't' then readWord ['r', 'u', 'e'] rest
    else if c = 'f' then readWord ['a', 'l', 's', 'e'] rest
    else if c = '"' then skipText rest
    else if startsNumber c then (readLiteral .invalidNumber (c :: rest)).map Prod.snd
    else .error (.on .expectedValue (c :: rest))

end EvaluationBrowser.Json
