/-
# Lower case

A whole text is lower-cased, not one character at a time: each character gives its small letter,
with two exceptions. The dotted capital I gives `i` and a combining dot. A capital sigma gives the
final small sigma at the end of a word, that is when a cased letter stands before it and none
after it, case-ignorable characters being passed over on both sides; anywhere else it gives the
plain small sigma.

Because of the sigma the small form of a part need not be a part of the small form.
-/
import EvaluationBrowser.Text.Letters

namespace EvaluationBrowser.Text

/-- The nearest character that is not case-ignorable is a cased letter. -/
def meetsLetter (cs : List Char) : Bool :=
  match cs.dropWhile isCaseIgnorable with
  | [] => false
  | c :: _ => isCased c

/-- What a character becomes. `before` holds the characters to its left, the nearest first, and
`after` those to its right. -/
def smallForm (before : List Char) (c : Char) (after : List Char) : List Char :=
  if c = 'Σ' then [if meetsLetter before && !meetsLetter after then 'ς' else 'σ']
  else if c = 'İ' then ['i', '\u0307']
  else [smallLetter c]

def lowercaseAfter (before : List Char) : List Char → List Char
  | [] => []
  | c :: after => smallForm before c after ++ lowercaseAfter (c :: before) after

def lowercaseChars (cs : List Char) : List Char := lowercaseAfter [] cs

def lowercase (s : String) : String := String.ofList (lowercaseChars s.toList)

/-! ## Words that end in a sigma -/

example : lowercaseChars ['Ο', 'Σ'] = ['ο', 'ς'] := by decide +kernel

example : lowercaseChars ['Σ', 'Ο'] = ['σ', 'ο'] := by decide +kernel

/-- A capital sigma that stands alone ends no word. -/
example : lowercaseChars ['Σ'] = ['σ'] := by decide +kernel

/-- The small form of a part is not always a part of the small form. -/
example : lowercaseChars ['Α', 'Σ', 'Α'] = ['α', 'σ', 'α'] ∧
    lowercaseChars ['Α', 'Σ'] = ['α', 'ς'] := by decide +kernel

end EvaluationBrowser.Text
