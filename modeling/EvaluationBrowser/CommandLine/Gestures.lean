/-
# A query done by hand

What the settings command is asked for in one line, a reader of the page does one thing after
another: click the heading of the column to sort by, a second time for the other direction; type
the filter into the box of its column; take the mark off the columns to hide; and step forward to
the page. What names no column is no gesture.
-/
import EvaluationBrowser.CommandLine.Run
import EvaluationBrowser.Site.DataGrid

namespace EvaluationBrowser

/-- The grid after some events, if every one of them finds its element. -/
def Site.GridEvent.afterAll? (settings : List Setting) (s : Grid.State)
    (events : List Site.GridEvent) : Option Grid.State :=
  events.foldlM (fun s e => e.after? s settings) s

namespace CommandLine

open Site (GridEvent)

/-- The place of a column among those of a kind, all columns being shown. -/
def placeAmong (kind : Column → Bool) (c : Column) : Nat := (Column.all.filter kind).idxOf c

def sortGestures (sort : Option String) (isDescending : Bool) : List GridEvent :=
  match sort.bind Column.ofField? with
  | none => []
  | some c =>
    List.replicate (if isDescending then 2 else 1) (.heading (placeAmong Column.isSortable c))

def filterGestures : Option String → List GridEvent
  | none => []
  | some given =>
    match splitAtEquals given.toList with
    | (_, none) => []
    | (field, some text) =>
      (Column.ofField? (String.ofList field)).toList.map fun c =>
        .filter (placeAmong Column.isFilterable c) (String.ofList text)

/-- One click for each column, in the order in which they are first mentioned. -/
def hideGestures (hidden : List String) : List GridEvent :=
  ((hidden.filterMap Column.ofField?).eraseDups).map fun c =>
    .checkbox (placeAmong Column.isHideable c)

/-- Clicks on Next, as many as lie between the first page and the one asked for. -/
def stepGestures (number pageCount : Nat) : List GridEvent :=
  List.replicate (min (max number 1) pageCount - 1) (.button 1)

def Query.gestures (query : Query) (pageCount : Nat) : List GridEvent :=
  sortGestures query.sort query.isDescending ++
    (filterGestures query.filter ++
      (hideGestures query.hidden ++ stepGestures query.page pageCount))

end CommandLine

end EvaluationBrowser
