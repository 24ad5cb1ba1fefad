/-
# The texts that write a value

One tree is written by many texts. Any space may stand between the tokens, a character of a text
may be written by itself or by any of its escapes, and a number is written as its literal is spelt.
The grammar says which texts those are, and it knows nothing of how they are read. A text value is
a sequence of characters, so half of a surrogate pair, which stands for no character, writes none.

Whether an item is the first between its brackets is an index, since a comma stands before every
item but the first.
-/
import Mathlib.Data.List.Forall2
import EvaluationBrowser.Json.Value
import EvaluationBrowser.Proofs.Json.Literal

namespace EvaluationBrowser.Json

/-- Space between tokens. -/
def IsWhite (cs : List Char) : Prop := ∀ c ∈ cs, c ∈ [' ', '\t', '\n', '\r']

instance (cs : List Char) : Decidable (IsWhite cs) := List.decidableBAll _ cs

/-! ## Texts -/

/-- The letters that may follow a backslash, each with the character that the two stand for. -/
def letterEscapes : List (Char × Char) :=
  [('"', '"'), ('\\', '\\'), ('/', '/'), ('b', '\x08'), ('f', '\x0c'), ('n', '\n'), ('r', '\r'),
    ('t', '\t')]

/-- A hexadecimal digit, in either case. -/
def IsHexDigit (value : Nat) (c : Char) : Prop :=
  value < 16 ∧ (c = Nat.digitChar value ∨ c = (Nat.digitChar value).toUpper)

instance (value : Nat) (c : Char) : Decidable (IsHexDigit value c) :=
  inferInstanceAs (Decidable (_ ∧ _))

/-- Four hexadecimal digits. -/
inductive IsHexQuad : Nat → List Char → Prop
  | digits {k l m n : Nat} {a b c d : Char} (first : IsHexDigit k a) (second : IsHexDigit l b)
      (third : IsHexDigit m c) (fourth : IsHexDigit n d) :
      IsHexQuad (((k * 16 + l) * 16 + m) * 16 + n) [a, b, c, d]

/-- The ways to write one character. The last is for those beyond U+FFFF only. -/
inductive WritesChar (c : Char) : List Char → Prop
  | plain (noMark : c ≠ '"') (noBackslash : c ≠ '\\') (noControl : 0x20 ≤ c.toNat) :
      WritesChar c [c]
  | letter {l : Char} (escape : (l, c) ∈ letterEscapes) : WritesChar c ['\\', l]
  | unit {ds : List Char} (quad : IsHexQuad c.toNat ds) : WritesChar c ('\\' :: 'u' :: ds)
  | pair {high low : Nat} {ds es : List Char} (highFew : high < 0x400) (lowFew : low < 0x400)
      (value : c.toNat = 0x10000 + high * 0x400 + low) (leading : IsHexQuad (0xd800 + high) ds)
      (trailing : IsHexQuad (0xdc00 + low) es) :
      WritesChar c ('\\' :: 'u' :: (ds ++ '\\' :: 'u' :: es))

/-- The characters one by one, between quotation marks. -/
inductive WritesText (s : String) : List Char → Prop
  | quoted {pieces : List (List Char)} (chars : List.Forall₂ WritesChar s.toList pieces) :
      WritesText s ('"' :: (pieces.flatten ++ ['"']))

/-! ## Values -/

/-- What stands before an item: space, and before every item but the first a comma within it. -/
inductive Leads : Bool → List Char → Prop
  | first {space : List Char} (white : IsWhite space) : Leads true space
  | next {before after : List Char} (white : IsWhite before) (whiteAfter : IsWhite after) :
      Leads false (before ++ ',' :: after)

mutual

inductive Writes : Value → List Char → Prop
  | null : Writes .null ['n', 'u', 'l', 'l']
  | truth : Writes (.boolean true) ['t', 'r', 'u', 'e']
  | falsity : Writes (.boolean false) ['f', 'a', 'l', 's', 'e']
  | number {l : Literal} (form : l.IsWellFormed) : Writes (.number l) l.chars
  | text {s : String} {text : List Char} (writes : WritesText s text) : Writes (.text s) text
  | list {vs : List Value} {inside : List Char} (elements : WritesElements true vs inside) :
      Writes (.list vs) ('[' :: (inside ++ [']']))
  | object {ms : List (String × Value)} {inside : List Char}
      (members : WritesMembers true ms inside) :
      Writes (.object ms) ('\x7b' :: (inside ++ ['\x7d']))

/-- The elements up to the closing bracket. -/
inductive WritesElements : Bool → List Value → List Char → Prop
  | none {first : Bool} {space : List Char} (white : IsWhite space) : WritesElements first [] space
  | element {first : Bool} {v : Value} {vs : List Value} {lead text others : List Char}
      (leads : Leads first lead) (writes : Writes v text) (next : WritesElements false vs others) :
      WritesElements first (v :: vs) (lead ++ (text ++ others))

/-- The members up to the closing bracket. -/
inductive WritesMembers : Bool → List (String × Value) → List Char → Prop
  | none {first : Bool} {space : List Char} (white : IsWhite space) : WritesMembers first [] space
  | member {first : Bool} {key : String} {v : Value} {ms : List (String × Value)}
      {lead keyText before after text others : List Char} (leads : Leads first lead)
      (writesKey : WritesText key keyText) (white : IsWhite before) (whiteAfter : IsWhite after)
      (writes : Writes v text) (next : WritesMembers false ms others) :
      WritesMembers first ((key, v) :: ms)
        (lead ++ (keyText ++ (before ++ ':' :: (after ++ (text ++ others)))))

end

/-- A text that holds the value and, around it, nothing but space. -/
inductive WritesDocument (v : Value) : String → Prop
  | document {before text after : List Char} (white : IsWhite before) (writes : Writes v text)
      (whiteAfter : IsWhite after) : WritesDocument v (String.ofList (before ++ (text ++ after)))

end EvaluationBrowser.Json
