/-
# The grid on a page

What a reader sees of a grid is a `GridView`: a checkbox for every column that can be hidden, a
heading and a filter box for every visible column, the cells of one page, and, where there is more
than one page, two buttons. It is made from the state and the settings alone, and HTML is made from
it alone.

A reader acts on the elements that are there, which are counted in the order of the document. What
an action means depends on what is shown: the third heading is that of the third visible column.
-/
import EvaluationBrowser.Grid.Page
import EvaluationBrowser.Site.Html

namespace EvaluationBrowser.Site

open Grid (Action Direction State)

structure Heading where
  column : Column
  direction : Option Direction
  deriving DecidableEq

/-- The box above a column; none above one that cannot be filtered. -/
structure FilterBox where
  column : Column
  text : Option String
  deriving DecidableEq

structure Buttons where
  previousDisabled : Bool
  nextDisabled : Bool
  deriving DecidableEq

structure GridView where
  /-- The columns that can be hidden, with whether they are shown. -/
  toggles : List (Column × Bool)
  headings : List Heading
  filters : List FilterBox
  rows : List (List Cell)
  noRows : Bool
  range : String
  buttons : Option Buttons
  deriving DecidableEq

def filterBox (s : State) (c : Column) : FilterBox :=
  ⟨c, if c.isFilterable then some (s.filterText c) else none⟩

def GridView.of (s : State) (settings : List Setting) : GridView :=
  let page := s.view settings
  { toggles := (Column.all.filter (·.isHideable)).map fun c => (c, !s.isHidden c)
    headings := page.columns.map fun c => ⟨c, s.direction? c⟩
    filters := page.columns.map (filterBox s)
    rows := page.rows.map (·.cells)
    noRows := page.isEmpty
    range := page.rangeLabel
    buttons := if 1 < page.pageCount then some ⟨!page.hasPrevious, !page.hasNext⟩ else none }

/-! ## Events -/

inductive GridEvent where
  | checkbox (index : Nat)
  | heading (index : Nat)
  | filter (index : Nat) (text : String)
  | button (index : Nat)
  deriving DecidableEq

/-- What an event does, if its element is there. -/
def GridEvent.action? (e : GridEvent) (s : State) (settings : List Setting) : Option Action :=
  let page := s.view settings
  match e with
  | .checkbox index =>
    (Column.all.filter (·.isHideable))[index]?.map .toggleHidden
  | .heading index => (page.columns.filter (·.isSortable))[index]?.map .toggleSort
  | .filter index text => (page.columns.filter (·.isFilterable))[index]?.map (.setFilter · text)
  | .button index =>
    if 1 < page.pageCount then
      [Action.previousPage page.pageCount, Action.nextPage page.pageCount][index]?
    else none

/-- The state after an event; none if its element is not there. -/
def GridEvent.after? (e : GridEvent) (s : State) (settings : List Setting) : Option State :=
  (e.action? s settings).map s.after

/-! ## HTML -/

namespace GridView

open Html

def toggleHtml (toggle : Column × Bool) : Html :=
  ofClass "label" "column-toggle"
    [.void "input"
      [.value "type" "checkbox", .value "prop:checked" (truth toggle.2),
        .value "class" "column-visible"],
      .text " ", shown toggle.1.heading]

def widthStyle (c : Column) : List Attribute :=
  c.width.elim [] fun width => [.value "style" ("width: " ++ toString width ++ "px;")]

def headingHtml (h : Heading) : Html :=
  if h.column.isSortable then
    .element "th" (.value "class" "sortable" :: widthStyle h.column)
      [shown h.column.heading, .text " ",
        ofClass "span" "sort-arrow" [shown (h.direction.elim "" Direction.arrow)]]
  else .element "th" (widthStyle h.column) [shown h.column.heading]

def filterHtml (f : FilterBox) : Html :=
  plain "th" (f.text.elim [] fun text =>
    [.void "input"
      [.value "type" "text", .value "placeholder" "Filter", .value "prop:value" text,
        .value "class" "grid-filter"]])

/-- A link's target is relative to the page's own path. -/
def cellHtml (path : String) : Cell → Html
  | .text s => plain "td" [shown s]
  | .link label href =>
    plain "td" [.element "a" [.value "href" (path ++ "/" ++ href)] [shown label]]

def button (disabled : Bool) (cls label : String) : Html :=
  .element "button"
    ((if disabled then [Attribute.mark "disabled"] else []) ++ [.value "class" cls]) [.text label]

def buttonsHtml (b : Buttons) : List Html :=
  [button b.previousDisabled "page-btn prev" "Previous",
    button b.nextDisabled "page-btn next" "Next"]

/-- The grid on the page with that path. -/
def html (path : String) (v : GridView) : Html :=
  let table := ofClass "table" "results-table"
    [plain "thead"
      [plain "tr" (v.headings.map headingHtml),
        ofClass "tr" "filter-row" (v.filters.map filterHtml)],
      plain "tbody" (v.rows.map fun cells => ofClass "tr" "grid-row" (cells.map (cellHtml path)))]
  let noRows := if v.noRows then [ofClass "p" "placeholder grid-overlay" [.text "No rows"]] else []
  let footer := ofClass "div" "grid-footer"
    (ofClass "span" "grid-range" [shown v.range] :: v.buttons.elim [] buttonsHtml)
  ofClass "div" "data-grid"
    (ofClass "div" "column-toggles" (v.toggles.map toggleHtml) :: table :: noRows ++ [footer])

end GridView

end EvaluationBrowser.Site
