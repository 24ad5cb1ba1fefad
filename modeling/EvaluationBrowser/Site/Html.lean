/-
# HTML trees

A page is a tree of elements and texts, and writing it is the only place where it becomes text.
Texts escape the ampersand and the angle brackets; attribute values escape the quotation mark as
well. A void element has neither content nor an end tag. Nothing is put between tags.

A text that changes while the page is shown must stay in the tree when it is empty; `Html.shown`
writes it as one space then.
-/

namespace EvaluationBrowser.Site

inductive Attribute where
  | value (name value : String)
  /-- Present or absent, without a value. -/
  | mark (name : String)
  deriving DecidableEq

inductive Html where
  | text (s : String)
  | element (tag : String) (attributes : List Attribute) (content : List Html)
  | void (tag : String) (attributes : List Attribute)

namespace Html

def escapeText (c : Char) : List Char :=
  if c = '&' then ['&', 'a', 'm', 'p', ';']
  else if c = '<' then ['&', 'l', 't', ';']
  else if c = '>' then ['&', 'g', 't', ';']
  else [c]

def escapeValue (c : Char) : List Char :=
  if c = '"' then ['&', 'q', 'u', 'o', 't', ';'] else escapeText c

def attributeChars : Attribute → List Char
  | .value name value =>
    ' ' :: name.toList ++ '=' :: '"' :: value.toList.flatMap escapeValue ++ ['"']
  | .mark name => ' ' :: name.toList

def startTag (tag : String) (attributes : List Attribute) : List Char :=
  '<' :: tag.toList ++ attributes.flatMap attributeChars ++ ['>']

def endTag (tag : String) : List Char := '<' :: '/' :: tag.toList ++ ['>']

mutual

def chars : Html → List Char
  | .text s => s.toList.flatMap escapeText
  | .element tag attributes content =>
    startTag tag attributes ++ allChars content ++ endTag tag
  | .void tag attributes => startTag tag attributes

def allChars : List Html → List Char
  | [] => []
  | h :: hs => h.chars ++ allChars hs

end

def render (h : Html) : String := String.ofList h.chars

/-! ## Shorthands -/

/-- A text that can become empty. -/
def shown (s : String) : Html := .text (if s = "" then " " else s)

/-- The one attribute that most elements have. -/
def ofClass (tag cls : String) (content : List Html) : Html :=
  .element tag [.value "class" cls] content

/-- An element with no attributes. -/
def plain (tag : String) (content : List Html) : Html := .element tag [] content

def truth (b : Bool) : String := if b then "true" else "false"

/-- The line that tells what went wrong. -/
def errorPanel (reason : String) : Html :=
  ofClass "div" "error-panel"
    [.element "p" [.value "style" "color: var(--error);;"] [.text "Error: ", shown reason]]

end Html

end EvaluationBrowser.Site
