/-
# The state of a grid

A grid does not own rows. What it keeps is how they are to be shown: the page, one sort, one
filter, and the columns hidden, in the order in which they were hidden. Changing the sort or the
filter goes back to the first page.

The page kept may lie past the last one when the rows have become fewer; what is shown then is the
last page, and stepping forward or back starts from there.
-/
import EvaluationBrowser.Failure

namespace EvaluationBrowser.Grid

inductive Direction where
  | ascending
  | descending
  deriving DecidableEq

def Direction.arrow : Direction → String
  | .ascending => "▲"
  | .descending => "▼"

structure SortOrder where
  column : Column
  direction : Direction
  deriving DecidableEq

/-- The text is kept as it was given; matching trims it. -/
structure Filter where
  column : Column
  text : String
  deriving DecidableEq

structure State where
  page : Nat
  sort : Option SortOrder
  filter : Option Filter
  hidden : List Column
  deriving DecidableEq

namespace State

/-- The first page of everything, unsorted. -/
def initial : State := ⟨0, none, none, []⟩

/-! ## Columns -/

def isHidden (s : State) (c : Column) : Bool := s.hidden.contains c

def visibleColumns (s : State) : List Column := Column.all.filter (!s.isHidden ·)

/-- Hides a column, or shows it again. -/
def toggleHidden (s : State) (c : Column) : Except Failure State :=
  if c.isHideable then
    .ok { s with hidden := if s.isHidden c then s.hidden.erase c else s.hidden ++ [c] }
  else .error (.notHideable c)

/-! ## Sort and filter -/

/-- The direction in which a column is sorted, if it is. -/
def direction? (s : State) (c : Column) : Option Direction :=
  match s.sort with
  | some sort => if sort.column = c then some sort.direction else none
  | none => none

def setSort (s : State) (c : Column) (d : Direction) : Except Failure State :=
  if c.isSortable then .ok { s with sort := some ⟨c, d⟩, page := 0 }
  else .error (.notSortable c)

/-- Not sorted by the column, ascending, descending, and not sorted again. -/
def toggleSort (s : State) (c : Column) : Except Failure State :=
  if c.isSortable then
    let sort :=
      match s.direction? c with
      | none => some ⟨c, .ascending⟩
      | some .ascending => some ⟨c, .descending⟩
      | some .descending => none
    .ok { s with sort := sort, page := 0 }
  else .error (.notSortable c)

/-- A blank text takes the filter away. -/
def setFilter (s : State) (c : Column) (text : String) : Except Failure State :=
  if c.isFilterable then
    .ok { s with filter := if Text.isBlankText text then none else some ⟨c, text⟩, page := 0 }
  else .error (.notFilterable c)

def clearFilter (s : State) : State := { s with filter := none, page := 0 }

/-- The text that a column is filtered by, as it was given. -/
def filterText (s : State) (c : Column) : String :=
  match s.filter with
  | some filter => if filter.column = c then filter.text else ""
  | none => ""

/-! ## Pages -/

/-- The page that is shown of so many. -/
def shownPage (s : State) (pageCount : Nat) : Nat := min s.page (pageCount - 1)

def setPage (s : State) (page pageCount : Nat) : State :=
  { s with page := min page (pageCount - 1) }

def nextPage (s : State) (pageCount : Nat) : State :=
  s.setPage (s.shownPage pageCount + 1) pageCount

def previousPage (s : State) (pageCount : Nat) : State :=
  { s with page := s.shownPage pageCount - 1 }

end State

/-! ## Actions

Everything that can be done to a grid, as data. An action that fails changes nothing. -/

inductive Action where
  | toggleSort (column : Column)
  | setSort (column : Column) (direction : Direction)
  | setFilter (column : Column) (text : String)
  | clearFilter
  | toggleHidden (column : Column)
  | setPage (page pageCount : Nat)
  | nextPage (pageCount : Nat)
  | previousPage (pageCount : Nat)
  deriving DecidableEq

def State.apply (s : State) : Action → Except Failure State
  | .toggleSort c => s.toggleSort c
  | .setSort c d => s.setSort c d
  | .setFilter c text => s.setFilter c text
  | .clearFilter => .ok s.clearFilter
  | .toggleHidden c => s.toggleHidden c
  | .setPage page pageCount => .ok (s.setPage page pageCount)
  | .nextPage pageCount => .ok (s.nextPage pageCount)
  | .previousPage pageCount => .ok (s.previousPage pageCount)

/-- The state after an action, the same if the action fails. -/
def State.after (s : State) (action : Action) : State :=
  match s.apply action with
  | .ok s' => s'
  | .error _ => s

end EvaluationBrowser.Grid
