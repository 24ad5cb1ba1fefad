/-
# Model names

A model name is one or more ASCII letters, digits, hyphens and underscores. It can therefore stand
in an address as it is: nothing in it separates, escapes or ends a segment.
-/

namespace EvaluationBrowser

def isNameChar (c : Char) : Bool := c.isAlphanum || c == '-' || c == '_'

def isModelName (s : String) : Bool := !s.toList.isEmpty && s.toList.all isNameChar

structure ModelName where
  text : String
  isName : isModelName text = true
  deriving DecidableEq

/-- The name, if the text is one as it stands. -/
def ModelName.ofString? (s : String) : Option ModelName :=
  if h : isModelName s = true then some ⟨s, h⟩ else none

@[simp] theorem ModelName.ofString?_text (name : ModelName) :
    ModelName.ofString? name.text = some name := by
  simp [ofString?, name.isName]

theorem ModelName.ofString?_eq_some_iff {s : String} {name : ModelName} :
    ModelName.ofString? s = some name ↔ s = name.text := by
  constructor
  · intro h
    unfold ofString? at h
    split at h
    · cases h; rfl
    · cases h
  · intro h
    rw [h, ofString?_text]

end EvaluationBrowser
