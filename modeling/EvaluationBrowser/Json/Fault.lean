/-
# Faults of a JSON text

A fault is a cause and a position. While a text is being read only what is left of it is at hand,
so the position is kept as the number of bytes that follow it; `Error.ofFault` turns that into a
line and a column once the whole text is known. Columns count bytes, and a position can lie inside
a character, since a reader that meets an unwelcome character stops after its first byte.
-/
import EvaluationBrowser.Json.Literal
import EvaluationBrowser.Text.Quoted

namespace EvaluationBrowser.Json

/-- What a value turned out to be where something else was wanted. -/
inductive Found where
  | null
  | boolean (value : Bool)
  | number (value : Number)
  | text (value : String)
  | sequence
  | map
  deriving DecidableEq

inductive Wanted where
  | natural
  | real
  | text
  | sequence
  | record (title : String)
  deriving DecidableEq

inductive Cause where
  | endInValue
  | endInList
  | endInObject
  | endInText
  | expectedValue
  | expectedWord
  | invalidNumber
  | outOfRange
  | expectedListSeparator
  | expectedObjectSeparator
  | expectedColon
  | keyNotText
  | trailingComma
  | trailingCharacters
  | invalidEscape
  | unfinishedPair
  | loneSurrogate
  | controlCharacter
  | invalidType (found : Found) (wanted : Wanted)
  | belowZero (value : Int)
  | missingField (name : String)
  | duplicateField (name : String)
  | tooFewElements (given : Nat) (title : String) (size : Nat)
  deriving DecidableEq

/-! ## Wording -/

def Number.describe : Number → String
  | .integer value => "integer `" ++ toString value ++ "`"
  | .real value =>
    let digits := (Literal.ofBinary64? value).elim value.positionalChars Literal.chars
    "floating point `" ++ String.ofList digits ++ "`"

def Found.describe : Found → String
  | .null => "null"
  | .boolean value => "boolean `" ++ (if value then "true" else "false") ++ "`"
  | .number value => value.describe
  | .text value => "string " ++ Text.quoted value
  | .sequence => "sequence"
  | .map => "map"

def Wanted.describe : Wanted → String
  | .natural => "u64"
  | .real => "f64"
  | .text => "a string"
  | .sequence => "a sequence"
  | .record title => title

def Cause.message : Cause → String
  | .endInValue => "EOF while parsing a value"
  | .endInList => "EOF while parsing a list"
  | .endInObject => "EOF while parsing an object"
  | .endInText => "EOF while parsing a string"
  | .expectedValue => "expected value"
  | .expectedWord => "expected ident"
  | .invalidNumber => "invalid number"
  | .outOfRange => "number out of range"
  | .expectedListSeparator => "expected `,` or `]`"
  | .expectedObjectSeparator => "expected `,` or `\x7d`"
  | .expectedColon => "expected `:`"
  | .keyNotText => "key must be a string"
  | .trailingComma => "trailing comma"
  | .trailingCharacters => "trailing characters"
  | .invalidEscape => "invalid escape"
  | .unfinishedPair => "unexpected end of hex escape"
  | .loneSurrogate => "lone leading surrogate in hex escape"
  | .controlCharacter =>
    "control character (\\u0000-\\u001F) found while parsing a string"
  | .invalidType found wanted =>
    "invalid type: " ++ found.describe ++ ", expected " ++ wanted.describe
  | .belowZero value =>
    "invalid value: " ++ (Number.integer value).describe ++ ", expected " ++ Wanted.natural.describe
  | .missingField name => "missing field `" ++ name ++ "`"
  | .duplicateField name => "duplicate field `" ++ name ++ "`"
  | .tooFewElements given title size =>
    "invalid length " ++ toString given ++ ", expected " ++ title ++ " with " ++ toString size ++
      (if size = 1 then " element" else " elements")

/-! ## Positions -/

/-- The length of a text in bytes. -/
def bytes : List Char → Nat
  | [] => 0
  | c :: cs => c.utf8Size + bytes cs

structure Fault where
  cause : Cause
  bytesLeft : Nat
  deriving DecidableEq

/-- A fault found with this text left: all before it has been taken. -/
def Fault.before (cause : Cause) (text : List Char) : Fault := ⟨cause, bytes text⟩

/-- A fault in the first byte of this text, which counts as taken; at the end of the text, there. -/
def Fault.on (cause : Cause) (text : List Char) : Fault := ⟨cause, bytes text - 1⟩

/-- The line and the column after the given number of bytes, from a given line and column on. -/
def place : Nat → Nat × Nat → List Char → Nat × Nat
  | _, here, [] => here
  | n, (line, column), c :: cs =>
    if n < c.utf8Size then (line, column + n)
    else if c = '\n' then place (n - 1) (line + 1, 0) cs
    else place (n - c.utf8Size) (line, column + c.utf8Size) cs

/-- A fault with its place in the text. -/
structure Error where
  cause : Cause
  line : Nat
  column : Nat
  deriving DecidableEq

def Error.ofFault (text : List Char) (fault : Fault) : Error :=
  let (line, column) := place (bytes text - fault.bytesLeft) (1, 0) text
  ⟨fault.cause, line, column⟩

def Error.message (e : Error) : String :=
  e.cause.message ++ " at line " ++ toString e.line ++ " column " ++ toString e.column

end EvaluationBrowser.Json
