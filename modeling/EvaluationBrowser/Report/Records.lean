/-
# Reading comma-separated values

A reader goes through the text once. A comma ends a field and a line break ends a record, and the
last record may do without. A field that begins with a quotation mark goes on to the mark that
closes it: two marks in a row stand for one in the field, and commas and line breaks before the
closing mark are the field's. Nothing but the end of the field may follow a closing mark, and no
mark may stand within a field that does not begin with one; such a text is refused.

Readers differ in what breaks a line. To some it is a line feed only, and a carriage return is a
character like others. To others it is a line feed, a carriage return, or a carriage return with a
line feed right behind it.
-/
import EvaluationBrowser.Report.Csv

namespace EvaluationBrowser.Report.Csv

inductive LineBreaks where
  | lineFeed
  | any
  deriving DecidableEq

/-- What a character is to a reader that is not between quotation marks. -/
inductive Mark where
  | comma
  | quote
  | lineFeed
  | carriageReturn
  | plain
  deriving DecidableEq

def LineBreaks.mark (breaks : LineBreaks) (c : Char) : Mark :=
  if c = ',' then .comma
  else if c = '"' then .quote
  else if c = '\n' then .lineFeed
  else if c = '\r' ∧ breaks = .any then .carriageReturn
  else .plain

structure Field where
  text : String
  isQuoted : Bool
  deriving DecidableEq

abbrev Record := List Field

/-- Where a reader stands. -/
inductive Place where
  /-- A field begins. -/
  | start
  /-- A field begins behind a carriage return that broke the line; a line feed here belongs to it.
  -/
  | returned
  | bare
  | quoted
  /-- Behind a quotation mark that closes the field, unless another one follows. -/
  | closing
  deriving DecidableEq

/-- What has been read. -/
structure Reading where
  place : Place
  /-- Of the field that is being read. -/
  text : List Char
  /-- The fields before it in its record. -/
  fields : Record
  /-- The records before that. -/
  records : List Record
  deriving DecidableEq

namespace Reading

def initial : Reading := ⟨.start, [], [], []⟩

def push (r : Reading) (place : Place) (c : Char) : Reading :=
  { r with place, text := r.text ++ [c] }

def field (r : Reading) : Field := ⟨String.ofList r.text, r.place = .closing⟩

def endField (r : Reading) : Reading := ⟨.start, [], r.fields ++ [r.field], r.records⟩

/-- The next record is begun at one of the places where a field begins. -/
def endRecord (r : Reading) (place : Place) : Reading :=
  ⟨place, [], [], r.records ++ [r.fields ++ [r.field]]⟩

def step (breaks : LineBreaks) (r : Reading) (c : Char) : Option Reading :=
  match r.place, breaks.mark c with
  | .quoted, .quote => some { r with place := .closing }
  | .quoted, _ => some (r.push .quoted c)
  | .closing, .quote => some (r.push .quoted c)
  | .closing, .plain => none
  | .bare, .quote => none
  | _, .quote => some { r with place := .quoted }
  | .returned, .lineFeed => some { r with place := .start }
  | _, .comma => some r.endField
  | _, .lineFeed => some (r.endRecord .start)
  | _, .carriageReturn => some (r.endRecord .returned)
  | _, .plain => some (r.push .bare c)

/-- What a text adds to what has been read before it. -/
def after? (breaks : LineBreaks) (r : Reading) (cs : List Char) : Option Reading :=
  cs.foldlM (step breaks) r

/-- The records at the end of the text. No record is begun by a line break. -/
def finish? (r : Reading) : Option (List Record) :=
  match r.place with
  | .quoted => none
  | .start => some (if r.fields.isEmpty then r.records else (r.endRecord .start).records)
  | .returned => some r.records
  | _ => some (r.endRecord .start).records

end Reading

def readChars (breaks : LineBreaks) (cs : List Char) : Option (List Record) :=
  (Reading.initial.after? breaks cs).bind Reading.finish?

def read (breaks : LineBreaks) (s : String) : Option (List Record) := readChars breaks s.toList

/-- The texts of the fields alone. -/
def readTexts (breaks : LineBreaks) (s : String) : Option (List (List String)) :=
  (read breaks s).map fun records => records.map (·.map Field.text)

/-- Readers agree on a field between quotation marks, and not on a carriage return without them. -/
example :
    readTexts .lineFeed "\"a,\"\"\r\",b\rc\n" = some [["a,\"\r", "b\rc"]] ∧
      readTexts .any "\"a,\"\"\r\",b\rc\n" = some [["a,\"\r", "b"], ["c"]] := by decide

end EvaluationBrowser.Report.Csv
