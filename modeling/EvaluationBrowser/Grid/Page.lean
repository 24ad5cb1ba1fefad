/-
# The page that a grid shows

A state and a list of settings give one page: the rows that match the filter, in the order of the
sort, cut into pages of five. A row knows the position of its setting in the list that was given,
so settings that share an identifier stay apart. There is always at least one page, which is empty
when no row matches.
-/
import EvaluationBrowser.Grid.Sorting
import EvaluationBrowser.Grid.State

namespace EvaluationBrowser.Grid

/-- Rows on a page. -/
def pageSize : Nat := 5

structure Row where
  id : UInt64
  /-- The position of the setting in the list that the page was made from. -/
  index : Nat
  cells : List Cell
  deriving DecidableEq

structure Page where
  /-- The visible columns; the cells of a row line up with them. -/
  columns : List Column
  rows : List Row
  number : Nat
  pageCount : Nat
  /-- How many rows match, on all pages. -/
  totalRows : Nat
  deriving DecidableEq

def pageCount (totalRows : Nat) : Nat := max 1 ((totalRows + (pageSize - 1)) / pageSize)

namespace Page

def hasPrevious (p : Page) : Bool := decide (0 < p.number)

def hasNext (p : Page) : Bool := decide (p.number + 1 < p.pageCount)

def isEmpty (p : Page) : Bool := p.rows.isEmpty

/-- The positions of the first and the last row shown, counted from one, among those that match. -/
def rangeLabel (p : Page) : String :=
  if p.totalRows = 0 then "0–0 of 0"
  else
    let start := p.number * pageSize + 1
    toString start ++ "–" ++ toString (start + p.rows.length - 1) ++ " of " ++ toString p.totalRows

end Page

namespace State

/-- The setting has the filter's text in the filter's column. -/
def isMatch (s : State) (setting : Setting) : Bool :=
  match s.filter with
  | none => true
  | some filter =>
    Text.occursIn (Text.lowercaseChars (Text.trimChars filter.text.toList))
      (Text.lowercaseChars (filter.column.text setting).toList)

/-- The first setting comes strictly before the second by the sort. -/
def isBefore (sort : SortOrder) (a b : Setting) : Bool :=
  match sort.direction with
  | .ascending => sort.column.compare a b == .lt
  | .descending => sort.column.compare a b == .gt

/-- The settings that match, each with its position, in the order in which they are shown. -/
def shownSettings (s : State) (settings : List Setting) : List (Setting × Nat) :=
  let found := settings.zipIdx.filter fun r => s.isMatch r.1
  match s.sort with
  | none => found
  | some sort => sortBy (fun a b => isBefore sort a.1 b.1) found

def row (columns : List Column) (r : Setting × Nat) : Row :=
  ⟨r.1.id, r.2, columns.map (·.cell r.1)⟩

/-- The page shown of the settings. -/
def view (s : State) (settings : List Setting) : Page :=
  let shown := s.shownSettings settings
  let count := pageCount shown.length
  let number := s.shownPage count
  let columns := s.visibleColumns
  { columns
    rows := ((shown.drop (number * pageSize)).take pageSize).map (row columns)
    number
    pageCount := count
    totalRows := shown.length }

end State

end EvaluationBrowser.Grid
