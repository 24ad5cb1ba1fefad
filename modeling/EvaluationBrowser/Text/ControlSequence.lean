/-
# Texts without control sequences

A terminal takes some of the characters that it is sent as instructions: single control
characters, and sequences that the escape character opens. Where a stream is no terminal they are
left out of what is written to it. Of the control characters only the tab, the line feed, the form
feed and the carriage return are *layout* and stay.

What follows the escape character decides how far its sequence reaches. After `[` it reaches to the
first of the characters from `@` to `~`, after a character below `0` to the first from `0` on, after
`]` to the bell, and after `P`, `X`, `^` and `_` to the next escape character; any other character
is the whole sequence. The escape character opens a new sequence wherever it stands, and the two
control characters that cancel end any.

A layout character in a sequence of the first two kinds stays, and the sequence is *suspended*: what
follows stays as well, up to the next control character that is not layout, which takes the
sequence up again. Characters beyond ASCII are lost in a sequence and end a suspended one.
-/

namespace EvaluationBrowser.Text

/-! ## Sequences -/

/-- How much of a control sequence has been read. -/
inductive Sequence where
  | outside
  /-- The escape character. -/
  | escape
  /-- The escape character and characters below `0`. -/
  | intermediate
  /-- From `[` on. -/
  | bracket
  /-- From `]` on. -/
  | title
  /-- From `P` on, in three stages; `body` is the last. -/
  | device
  | deviceParameter
  | deviceIntermediate
  /-- Characters that only an escape character ends, also from `X`, `^` and `_` on. -/
  | body
  deriving DecidableEq

def isControl (c : Char) : Bool := decide (c.toNat < 0x20) || c == '\x7f'

def isLayout (c : Char) : Bool := c == '\t' || c == '\n' || c == '\x0c' || c == '\r'

def isAscii (c : Char) : Bool := decide (c.toNat < 0x80)

/-- The sequence after an ASCII character that is no control character. -/
def Sequence.afterPrintable (s : Sequence) (c : Char) : Sequence :=
  match s with
  | .outside => .outside
  | .escape =>
    if c < '0' then .intermediate
    else if c = '[' then .bracket
    else if c = ']' then .title
    else if c = 'P' then .device
    else if c = 'X' ∨ c = '^' ∨ c = '_' then .body
    else .outside
  | .intermediate => if c < '0' then .intermediate else .outside
  | .bracket => if c < '@' then .bracket else .outside
  | .title => .title
  | .device =>
    if c < '0' then .deviceIntermediate else if c < '@' then .deviceParameter else .body
  | .deviceParameter =>
    if c < '0' then .deviceIntermediate else if c < '<' then .deviceParameter else .body
  | .deviceIntermediate => if c < '0' then .deviceIntermediate else .body
  | .body => .body

/-- The sequence after a control character. -/
def Sequence.afterControl (s : Sequence) (c : Char) : Sequence :=
  if c = '\x1b' then .escape
  else if c = '\x18' ∨ c = '\x1a' then .outside
  else if s = .title ∧ c = '\x07' then .outside
  else s

/-- The sequence after a character beyond ASCII. It is read byte by byte, and one of its bytes can
be the one that ends a body. -/
def Sequence.afterWide (s : Sequence) (c : Char) : Sequence :=
  if s = .body ∧ (String.utf8EncodeChar c).contains 0x9c then .outside else s

def Sequence.after (s : Sequence) (c : Char) : Sequence :=
  if isControl c then s.afterControl c
  else if isAscii c then s.afterPrintable c
  else s.afterWide c

/-- Layout characters stay in sequences of these kinds. -/
def Sequence.keepsLayout : Sequence → Bool
  | .outside | .escape | .intermediate | .bracket => true
  | _ => false

/-! ## Leaving them out -/

structure Place where
  sequence : Sequence
  isSuspended : Bool
  deriving DecidableEq

def Place.outside : Place := ⟨.outside, false⟩

/-- Whether a character stays, and the place after it. -/
def Place.step (p : Place) (c : Char) : Bool × Place :=
  if isLayout c then
    if p.sequence.keepsLayout then (true, ⟨p.sequence, true⟩) else (false, p)
  else if isControl c then (false, ⟨p.sequence.after c, false⟩)
  else if p.isSuspended then (true, if isAscii c then p else .outside)
  else (decide (p.sequence = .outside), ⟨p.sequence.after c, false⟩)

def plainFrom (p : Place) : List Char → List Char
  | [] => []
  | c :: cs =>
    if (p.step c).1 then c :: plainFrom (p.step c).2 cs else plainFrom (p.step c).2 cs

def plainChars (cs : List Char) : List Char := plainFrom .outside cs

/-- The text without control sequences and control characters. -/
def plain (s : String) : String := String.ofList (plainChars s.toList)

/-- Colours go. -/
example : plainChars ['\x1b', '[', '3', '1', 'm', 'a', '\x1b', '[', '0', 'm', 'b'] =
    ['a', 'b'] := by decide +kernel

/-- A line feed suspends a sequence, and the next control character takes it up again. -/
example : plainChars ['\x1b', '[', '\n', 'a', 'b', '\x01', '1', 'm', 'c'] =
    ['\n', 'a', 'b', 'c'] := by decide +kernel

end EvaluationBrowser.Text
