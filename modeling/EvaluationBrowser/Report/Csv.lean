/-
# Pages as comma-separated values

The first line names the columns, after one for the identifier; each row follows on its own line. A
field that holds a comma, a quotation mark or a line feed is put between quotation marks, and the
quotation marks in it are doubled.
-/
import EvaluationBrowser.Report.Export

namespace EvaluationBrowser.Report.Csv

def needsQuotes (c : Char) : Bool := c == ',' || c == '"' || c == '\n'

def field (s : String) : List Char :=
  let cs := s.toList
  if cs.any needsQuotes then
    '"' :: (cs.flatMap (fun c => if c = '"' then ['"', '"'] else [c]) ++ ['"'])
  else cs

def line (fields : List (List Char)) : List Char :=
  List.intercalate [','] fields ++ ['\n']

def header (page : Grid.Page) : List Char :=
  line (['i', 'd'] :: page.columns.map (·.field.toList))

def row (r : Grid.Row) : List Char :=
  line ((toString r.id.toNat).toList :: r.cells.map (field ·.exported))

def chars (page : Grid.Page) : List Char := header page ++ page.rows.flatMap row

end Csv

def csv (page : Grid.Page) : String := String.ofList (Csv.chars page)

end EvaluationBrowser.Report
