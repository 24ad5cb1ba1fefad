/-
# The page of a model

The page shows the settings of the model that its route names. It decodes the parameter of the
route, fetches the settings when it is opened and whenever the parameter changes, and shows that it
waits, what it got, or what went wrong. The grid on it stays as it is when the rows change.

The page remembers its requests in order, so that an answer can be given to one that has not been
answered; an answer that came too late changes nothing that is shown.
-/
import EvaluationBrowser.Fetch.Route
import EvaluationBrowser.Site.DataGrid
import EvaluationBrowser.Site.Escape
import EvaluationBrowser.Site.Home
import EvaluationBrowser.Site.Request

namespace EvaluationBrowser.Site

structure Request where
  ticket : Fetch.Ticket
  url : String
  isAnswered : Bool
  deriving DecidableEq

structure ModelPage where
  /-- The parameter of the route, decoded. -/
  routeName : String
  tracker : Fetch.Tracker (List Setting)
  requests : List Request
  grid : Grid.State
  deriving DecidableEq

namespace ModelPage

/-- The page before it has looked at its route. -/
def mounted (parameter : String) : ModelPage := ⟨decoded parameter, .initial, [], .initial⟩

/-- Looks at the route, and asks if there is something to ask for. -/
def lookAtRoute (built : Option String) (p : ModelPage) : ModelPage :=
  match p.tracker.onRouteName p.routeName with
  | (none, tracker) => { p with tracker }
  | (some ticket, tracker) =>
    match requestUrl built ticket.name with
    | .ok url => { p with tracker, requests := p.requests ++ [⟨ticket, url, false⟩] }
    | .error reason => { p with tracker := (tracker.complete ticket (.error reason)).2 }

def opened (built : Option String) (parameter : String) : ModelPage :=
  (mounted parameter).lookAtRoute built

/-- The rows of the grid. -/
def rows (p : ModelPage) : List Setting := p.tracker.state.loaded?.getD []

/-! ## Events -/

inductive Event where
  | grid (event : GridEvent)
  | route (parameter : String)
  | respond (request : Nat) (reply : Reply)

/-- The page after the answer to a request; none if there is no such request, or it was answered. -/
def respond? (p : ModelPage) (index : Nat) (reply : Reply) : Option ModelPage :=
  match p.requests[index]? with
  | some request =>
    if request.isAnswered then none
    else
      some { p with
        requests := p.requests.set index { request with isAnswered := true }
        tracker := (p.tracker.complete request.ticket (outcomeOf reply)).2 }
  | none => none

/-- The page after an event; none if what the event is for is not there. -/
def after? (built : Option String) (p : ModelPage) : Event → Option ModelPage
  | .grid event => (event.after? p.grid p.rows).map fun grid => { p with grid }
  | .route parameter => some ({ p with routeName := decoded parameter }.lookAtRoute built)
  | .respond request reply => p.respond? request reply

/-! ## HTML -/

open Html

def loadingLine : Html :=
  ofClass "p" "loading" [ofClass "span" "spinner" [], .text " Loading..."]

def html (p : ModelPage) : Html :=
  ofClass "div" "page evaluation-settings-page"
    ([plain "h2" [.text "Evaluation Settings"],
      ofClass "p" "subtitle" [shown ("Model: " ++ p.routeName)]] ++
      (if p.tracker.state.isLoading then [loadingLine] else []) ++
      p.tracker.state.failed?.elim [] (fun reason => [errorPanel reason]) ++
      [(GridView.of p.grid p.rows).html (modelPath p.routeName)])

end ModelPage

end EvaluationBrowser.Site
