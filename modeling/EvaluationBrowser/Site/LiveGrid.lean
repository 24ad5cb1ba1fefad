/-
# A grid over time

Two kinds of events come to a grid on a page, in any order: the reader does something to one of its
elements, and the page gives it other settings. An event whose element is not there does nothing,
and other settings leave the state as it is.

What the reader did is a list of actions. Three lists can be told from it: the columns whose
headings were clicked, what was typed above which column, and the columns whose checkboxes were
changed. Each of the three says one thing about what is to be seen, and says it alone.
-/
import EvaluationBrowser.Site.DataGrid

namespace EvaluationBrowser

namespace Grid

/-! ## What was done -/

def Action.clicked? : Action → Option Column
  | .toggleSort c => some c
  | _ => none

def Action.typed? : Action → Option Filter
  | .setFilter c text => some ⟨c, text⟩
  | _ => none

def Action.ticked? : Action → Option Column
  | .toggleHidden c => some c
  | _ => none

/-- The direction of a column that was clicked so many times in a row, unsorted before. -/
def directionOfRun : Nat → Option Direction
  | 0 => none
  | 1 => some .ascending
  | 2 => some .descending
  | n + 3 => directionOfRun n

/-- A click on any other column breaks the row. -/
def directionOfClicks (clicked : List Column) (c : Column) : Option Direction :=
  directionOfRun (clicked.reverse.takeWhile (· == c)).length

/-- What was typed last is the filter, unless it is blank. -/
def filterOfTexts (typed : List Filter) : Option Filter :=
  typed.getLast?.filter fun filter => !Text.isBlankText filter.text

/-- A column is there as long as its checkbox was changed an even number of times. -/
def columnsOfTicks (ticked : List Column) : List Column :=
  Column.all.filter fun c => ticked.count c % 2 == 0

/-- The settings that a filter leaves. -/
def matching (filter : Option Filter) (settings : List Setting) : List Setting :=
  settings.filter ({ State.initial with filter } : State).isMatch

end Grid

namespace Site

open Grid (Action State)

/-- A grid with the settings that it has at the time. -/
structure LiveGrid where
  state : State
  settings : List Setting
  deriving DecidableEq

namespace LiveGrid

inductive Event where
  | reader (event : GridEvent)
  | give (settings : List Setting)

def fresh (settings : List Setting) : LiveGrid := ⟨.initial, settings⟩

def action? (g : LiveGrid) : Event → Option Action
  | .reader event => event.action? g.state g.settings
  | .give _ => none

def after (g : LiveGrid) : Event → LiveGrid
  | .reader event => { g with state := (event.after? g.state g.settings).getD g.state }
  | .give settings => { g with settings }

def afterAll (g : LiveGrid) (events : List Event) : LiveGrid := events.foldl after g

/-- What the reader does to the grid by some events. -/
def actions (g : LiveGrid) : List Event → List Action
  | [] => []
  | event :: events => (g.action? event).toList ++ (g.after event).actions events

/-- The settings that match, in the order in which they are shown. -/
def shown (g : LiveGrid) : List Setting := (g.state.shownSettings g.settings).map Prod.fst

/-- The number of the page that is shown. -/
def number (g : LiveGrid) : Nat := (g.state.view g.settings).number

def html (path : String) (g : LiveGrid) : Html := (GridView.of g.state g.settings).html path

end LiveGrid

end Site

end EvaluationBrowser
