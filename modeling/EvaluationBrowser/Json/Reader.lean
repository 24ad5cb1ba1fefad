/-
# Reading values of a known type

A reader takes the text that is left and answers a value with what is left after it. Spaces before
a value are passed over. Where a value of another type stands, the fault names what was found: a
scalar is read to its end first, so that a fault inside it comes first, while a list or an object
is not entered.

Records are read from an object, or from a list of the values of their fields in order. Which
fields may be missing is the record's own affair (`RecordFormat.finish`). Faults that concern a
record as a whole lie behind its closing bracket.
-/
import EvaluationBrowser.Json.Skip

namespace EvaluationBrowser.Json

abbrev Reader (α : Type) := List Char → Except Fault (α × List Char)

/-- The fault of a value that is not of the type wanted. -/
def mismatch (wanted : Wanted) (text : List Char) : Fault :=
  match text with
  | '[' :: _ => .before (.invalidType .sequence wanted) text
  | '\x7b' :: _ => .before (.invalidType .map wanted) text
  | _ =>
    match readScalar text with
    | .ok (found, rest) => .before (.invalidType found wanted) rest
    | .error fault => fault

/-! ## Scalars -/

def Reader.text : Reader String := fun cs =>
  match skipSpace cs with
  | [] => .error (.before .endInValue [])
  | '"' :: rest => (readText rest).map fun r => (String.ofList r.1, r.2)
  | cs => .error (mismatch .text cs)

/-- A number of which a part is wanted. -/
def Reader.number (wanted : Wanted) (take : Number → Except Cause α) : Reader α := fun cs =>
  match skipSpace cs with
  | [] => .error (.before .endInValue [])
  | c :: rest =>
    if startsNumber c then do
      let (n, rest) ← readNumber (c :: rest)
      match take n with
      | .ok x => .ok (x, rest)
      | .error cause => .error (.before cause rest)
    else .error (mismatch wanted (c :: rest))

/-- A natural number below 2⁶⁴. No literal above that is an integer, so only the sign is left to
ask about. -/
def Reader.natural : Reader UInt64 :=
  .number .natural fun
    | .integer value =>
      if 0 ≤ value then .ok (UInt64.ofNat value.toNat) else .error (.belowZero value)
    | .real value => .error (.invalidType (.number (.real value)) .natural)

def Reader.real : Reader Binary64 := .number .real fun n => .ok n.toBinary64

/-- A value, or null for none. -/
def Reader.optional (read : Reader α) : Reader (Option α) := fun cs =>
  match skipSpace cs with
  | 'n' :: rest => (readWord ['u', 'l', 'l'] rest).map (none, ·)
  | cs => (read cs).map fun r => (some r.1, r.2)

/-! ## Lists -/

/-- The way to the next element of a list, or none at its closing bracket, which is left in place.
The first element has no comma before it. -/
def nextElement (first : Bool) (cs : List Char) : Except Fault (Option (List Char)) :=
  match skipSpace cs with
  | [] => .error (.before .endInList [])
  | c :: rest =>
    if c = ']' then .ok none
    else if first then .ok (some (c :: rest))
    else if c = ',' then
      match skipSpace rest with
      | [] => .error (.before .endInValue [])
      | ']' :: rest => .error (.on .trailingComma (']' :: rest))
      | rest => .ok (some rest)
    else .error (.on .expectedListSeparator (c :: rest))

/-- The closing bracket of a list all of whose elements were read. -/
def closeList (cs : List Char) : Except Fault (List Char) :=
  match skipSpace cs with
  | [] => .error (.before .endInList [])
  | ']' :: rest => .ok rest
  | ',' :: rest =>
    match skipSpace rest with
    | ']' :: rest => .error (.on .trailingComma (']' :: rest))
    | rest => .error (.on .trailingCharacters rest)
  | cs => .error (.on .trailingCharacters cs)

/-- The elements of a list up to its closing bracket. Each takes a character at least, so their
number is bounded by that of the characters. -/
def readElements (read : Reader α) : Nat → Bool → Reader (List α)
  | 0, _, cs => .error (.before .endInList cs)
  | fuel + 1, first, cs => do
    match ← nextElement first cs with
    | none => .ok ([], ← closeList cs)
    | some cs =>
      let (x, cs) ← read cs
      let (xs, cs) ← readElements read fuel false cs
      .ok (x :: xs, cs)

def Reader.list (read : Reader α) : Reader (List α) := fun cs =>
  match skipSpace cs with
  | [] => .error (.before .endInValue [])
  | '[' :: rest => readElements read (rest.length + 1) true rest
  | cs => .error (mismatch .sequence cs)

/-! ## Records -/

/-- How a record is read. A draft holds the fields given so far; `finish` makes the record of it,
or names the first field that is missing. -/
structure RecordFormat (Field Draft Record : Type) where
  title : String
  fields : List Field
  name : Field → String
  empty : Draft
  isGiven : Draft → Field → Bool
  read : Field → Draft → Reader Draft
  finish : Draft → Except Field Record

variable {Field Draft Record : Type}

def RecordFormat.field? (format : RecordFormat Field Draft Record) (name : String) :
    Option Field :=
  format.fields.find? (format.name · == name)

/-- The values of a list, given to the fields in order until the list ends. -/
def readPlaces (format : RecordFormat Field Draft Record) :
    List Field → Bool → Draft → Reader Draft
  | [], _, draft, cs => .ok (draft, cs)
  | field :: fields, first, draft, cs => do
    match ← nextElement first cs with
    | none => .ok (draft, cs)
    | some cs =>
      let (draft, cs) ← format.read field draft cs
      readPlaces format fields false draft cs

/-- A record in the form of a list. -/
def readTuple (format : RecordFormat Field Draft Record) [BEq Field] : Reader Record := fun cs => do
  let (draft, cs) ← readPlaces format format.fields true format.empty cs
  match format.finish draft with
  | .ok record => .ok (record, ← closeList cs)
  | .error field =>
    let cause := .tooFewElements (format.fields.idxOf field) format.title format.fields.length
    .error (.before cause ((skipSpace cs).drop 1))

/-- The way to the next key of an object, or none at its closing bracket, with the text after that
bracket or after the key's opening mark. The first key has no comma before it. -/
def nextKey (first : Bool) (cs : List Char) : Except Fault (Bool × List Char) :=
  match skipSpace cs with
  | [] => .error (.before .endInObject [])
  | c :: rest =>
    if c = '\x7d' then .ok (false, rest)
    else if first then
      if c = '"' then .ok (true, rest) else .error (.on .keyNotText (c :: rest))
    else if c = ',' then
      match skipSpace rest with
      | [] => .error (.before .endInValue [])
      | '"' :: rest => .ok (true, rest)
      | '\x7d' :: rest => .error (.on .trailingComma ('\x7d' :: rest))
      | rest => .error (.on .keyNotText rest)
    else .error (.on .expectedObjectSeparator (c :: rest))

/-- What is left after spaces and a closing bracket, if one follows. -/
def afterObject (cs : List Char) : List Char :=
  match skipSpace cs with
  | '\x7d' :: rest => rest
  | cs => cs

/-- The members of an object up to its closing bracket. -/
def readMembers (format : RecordFormat Field Draft Record) : Nat → Bool → Draft → Reader Record
  | 0, _, _, cs => .error (.before .endInObject cs)
  | fuel + 1, first, draft, cs => do
    match ← nextKey first cs with
    | (false, cs) =>
      match format.finish draft with
      | .ok record => .ok (record, cs)
      | .error field => .error (.before (.missingField (format.name field)) cs)
    | (true, cs) =>
      let (key, cs) ← readText cs
      match format.field? (String.ofList key) with
      | none =>
        let cs ← readColon cs
        let cs ← skipValue cs
        readMembers format fuel false draft cs
      | some field =>
        if format.isGiven draft field then
          .error (.before (.duplicateField (format.name field)) (afterObject cs))
        else
          let cs ← readColon cs
          let (draft, cs) ← format.read field draft cs
          readMembers format fuel false draft cs

def Reader.record (format : RecordFormat Field Draft Record) [BEq Field] : Reader Record :=
  fun cs =>
    match skipSpace cs with
    | [] => .error (.before .endInValue [])
    | '[' :: rest => readTuple format rest
    | '\x7b' :: rest => readMembers format (rest.length + 1) true format.empty rest
    | cs => .error (mismatch (.record format.title) cs)

/-! ## Documents -/

/-- A text that holds one value and, around it, nothing but spaces. -/
def Reader.document (read : Reader α) (s : String) : Except Error α :=
  let result := do
    let (x, rest) ← read s.toList
    match skipSpace rest with
    | [] => .ok x
    | rest => .error (.on .trailingCharacters rest)
  result.mapError (Error.ofFault s.toList)

end EvaluationBrowser.Json
