/-
# Pages as tables

A table has one line for the headings and one for each row, between rules of hyphens, and a last
line that says which rows these are. Every column is as wide as its widest text, its heading
included, and has two spaces before it; widths count characters.
-/
import EvaluationBrowser.Report.Export

namespace EvaluationBrowser.Report.Table

/-- The widths after one more line of texts. -/
def widen (widths : List Nat) (texts : List (List Char)) : List Nat :=
  List.zipWith max widths (texts.map List.length ++ List.replicate widths.length 0)

def headings (page : Grid.Page) : List (List Char) := page.columns.map (heading · |>.toList)

def texts (r : Grid.Row) : List (List Char) := r.cells.map (·.exported.toList)

def widths (page : Grid.Page) : List Nat :=
  (page.rows.map texts).foldl widen ((headings page).map List.length)

/-- A text filled up with spaces. -/
def pad (text : List Char) (width : Nat) : List Char :=
  text ++ List.replicate (width - text.length) ' '

def line (texts : List (List Char)) (widths : List Nat) : List Char :=
  (List.zipWith (fun text width => ' ' :: ' ' :: pad text width) texts widths).flatten ++ ['\n']

def rule (widths : List Nat) : List Char :=
  List.replicate (widths.foldl (· + ·) 0 + 2 * widths.length) '-' ++ ['\n']

def footer (page : Grid.Page) : String :=
  "  Rows " ++ page.rangeLabel ++ "  (page " ++ toString (page.number + 1) ++ "/" ++
    toString page.pageCount ++ ")\n"

def body (page : Grid.Page) (widths : List Nat) : List Char :=
  if page.isEmpty then "  No evaluation settings\n".toList
  else page.rows.flatMap fun r => line (texts r) widths

def chars (page : Grid.Page) : List Char :=
  let widths := widths page
  rule widths ++ line (headings page) widths ++ rule widths ++ body page widths ++ rule widths ++
    (footer page).toList

end Table

def table (page : Grid.Page) : String := String.ofList (Table.chars page)

end EvaluationBrowser.Report
