/-
# Pages without a browser

Outside a browser a cell is its text, and a link is its target. A column with an empty heading goes
by its field name. The JSON form of a page holds the whole settings that its rows show, in the order
of the rows; they are found by position, so settings that share an identifier are not mixed up.
-/
import EvaluationBrowser.Grid.Page

namespace EvaluationBrowser

def Cell.exported : Cell → String
  | .text shown => shown
  | .link _ href => href

namespace Report

def heading (c : Column) : String := if c.heading = "" then c.field else c.heading

/-- The settings on a page. They must be the ones that the page was made from. -/
def shownOn (page : Grid.Page) (settings : List Setting) : List Setting :=
  page.rows.filterMap fun row => settings[row.index]?

def json (page : Grid.Page) (settings : List Setting) : String :=
  Setting.encodeAll (shownOn page settings)

end Report

end EvaluationBrowser
