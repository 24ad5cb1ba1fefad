/-
# Reading HTML trees

What can be found in a tree without knowing how it was made: the elements with a tag, in the order
in which they begin, the attributes of an element, and the text that stands in it. An element that
stands in another of the same tag is found after that one.
-/
import Mathlib.Data.List.Basic
import EvaluationBrowser.Site.Html

namespace EvaluationBrowser.Site.Html

def tag? : Html → Option String
  | .text _ => none
  | .element tag _ _ | .void tag _ => some tag

def attributes : Html → List Attribute
  | .text _ => []
  | .element _ attributes _ | .void _ attributes => attributes

def value? (name : String) (h : Html) : Option String :=
  h.attributes.findSome? fun
    | .value n value => if n = name then some value else none
    | .mark _ => none

def isMarked (name : String) (h : Html) : Bool := h.attributes.contains (.mark name)

mutual

def withTag (tag : String) : Html → List Html
  | .text _ => []
  | .element t attributes content =>
    (if t = tag then [.element t attributes content] else []) ++ allWithTag tag content
  | .void t attributes => if t = tag then [.void t attributes] else []

def allWithTag (tag : String) : List Html → List Html
  | [] => []
  | h :: hs => h.withTag tag ++ allWithTag tag hs

end

mutual

def innerText : Html → List Char
  | .text s => s.toList
  | .element _ _ content => allInnerText content
  | .void .. => []

def allInnerText : List Html → List Char
  | [] => []
  | h :: hs => h.innerText ++ allInnerText hs

end

/-- The texts that the boxes in a tree are bound to. -/
def boundTexts (h : Html) : List String := (h.withTag "input").filterMap (value? "prop:value")

/-! ## Reading lists -/

section Lists

variable {tag : String}

theorem allWithTag_eq_flatMap (hs : List Html) : allWithTag tag hs = hs.flatMap (withTag tag) := by
  induction hs with
  | nil => rfl
  | cons h hs ih => rw [allWithTag, ih, List.flatMap_cons]

theorem allInnerText_eq_flatMap (hs : List Html) : allInnerText hs = hs.flatMap innerText := by
  induction hs with
  | nil => rfl
  | cons h hs ih => rw [allInnerText, ih, List.flatMap_cons]

@[simp] theorem withTag_text (s : String) : (text s).withTag tag = [] := by rw [withTag]

@[simp] theorem withTag_shown (s : String) : (shown s).withTag tag = [] := withTag_text _

@[simp] theorem withTag_element (t : String) (attributes : List Attribute) (content : List Html) :
    (element t attributes content).withTag tag
      = (if t = tag then [element t attributes content] else [])
        ++ content.flatMap (withTag tag) := by
  rw [withTag, allWithTag_eq_flatMap]

@[simp] theorem withTag_void (t : String) (attributes : List Attribute) :
    (void t attributes).withTag tag = if t = tag then [void t attributes] else [] := by
  rw [withTag]

@[simp] theorem innerText_text (s : String) : (text s).innerText = s.toList := by rw [innerText]

@[simp] theorem innerText_element (t : String) (attributes : List Attribute) (content : List Html) :
    (element t attributes content).innerText = content.flatMap innerText := by
  rw [innerText, allInnerText_eq_flatMap]

variable (tag) {α : Type} {f : α → Html}

theorem flatMap_withTag_of_none (none : ∀ a, (f a).withTag tag = []) (as : List α) :
    (as.map f).flatMap (withTag tag) = [] := by
  rw [List.flatMap_map]
  exact List.flatMap_eq_nil_iff.mpr fun a _ => none a

theorem flatMap_withTag_of_one (one : ∀ a, (f a).withTag tag = [f a]) (as : List α) :
    (as.map f).flatMap (withTag tag) = as.map f := by
  rw [List.flatMap_map, List.map_eq_flatMap]
  exact List.flatMap_congr fun a _ => one a

end Lists

end EvaluationBrowser.Site.Html
