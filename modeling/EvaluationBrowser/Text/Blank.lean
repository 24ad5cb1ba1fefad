/-
# Blank characters and trimming

A character is *blank* when it has the Unicode property White_Space. Trimming takes blank
characters off both ends of a text and leaves those inside alone; a text is blank when nothing is
left. The zero-width space, the byte order mark and the information separators U+001C to U+001F
are not blank.
-/
import EvaluationBrowser.Text.CodePoints
import EvaluationBrowser.Text.Ends

namespace EvaluationBrowser.Text

/-- The edges of White_Space. -/
def blankEdges : List Nat :=
  [0x9, 0xe, 0x20, 0x21, 0x85, 0x86, 0xa0, 0xa1, 0x1680, 0x1681, 0x2000, 0x200b, 0x2028, 0x202a,
   0x202f, 0x2030, 0x205f, 0x2060, 0x3000, 0x3001]

def isBlank (c : Char) : Bool := within blankEdges c.toNat

/-! ## Trimming -/

def trimChars (cs : List Char) : List Char :=
  dropTrailing isBlank (cs.dropWhile isBlank)

/-- The text without blank characters at its ends. -/
def trim (s : String) : String := String.ofList (trimChars s.toList)

/-- Nothing is left of the text after trimming. -/
def isBlankText (s : String) : Bool := (trimChars s.toList).isEmpty

end EvaluationBrowser.Text
