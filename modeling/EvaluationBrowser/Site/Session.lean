/-
# A session in the browser

One browser window over time: it shows the home page, the page of a model, or neither, and the
reader moves between them in any order. A page of a model that is opened starts anew, with a tracker
of its own that counts its generations from zero again; moving from one model to another keeps the
page and changes the name in its route. The page looks at its route when it is opened and after
every change, but not at once: between the change and the look, events of other kinds may come.

Requests outlive the page that sent them. The session therefore keeps all of them, each with the
number of the page, or *visit*, that it belongs to, and a reply is handed to that page if it is
still open and to nobody otherwise. Where there is no address to ask, the fetch has failed when it
has begun, and there is nothing to reply to.
-/
import EvaluationBrowser.Site.App

namespace EvaluationBrowser.Site

/-- A fetch that a page has begun. -/
structure Asked where
  /-- How many pages of models had been opened by then. -/
  visit : Nat
  /-- Its place among the requests of the page. -/
  place : Nat
  name : ModelName
  /-- The address asked, or why there is none. -/
  url : Except String String
  reply : Option Reply

/-- What the fetch came to, if that is known. -/
def Asked.outcome? (a : Asked) : Option (Except String (List Setting)) :=
  match a.url with
  | .ok _ => a.reply.map outcomeOf
  | .error reason => some (.error reason)

inductive Screen where
  | home
  | nowhere
  /-- The page of a model, and the name in its route when it last looked. -/
  | model (page : ModelPage) (looked : Option String)

/-- Changes the page that is open, if one is. -/
def Screen.mapPage (change : ModelPage → ModelPage) : Screen → Screen
  | .model page looked => .model (change page) looked
  | screen => screen

theorem Screen.mapPage_eq_model {change : ModelPage → ModelPage} {screen : Screen}
    {p : ModelPage} {looked : Option String} (h : screen.mapPage change = .model p looked) :
    ∃ page, screen = .model page looked ∧ p = change page := by
  cases screen with
  | home => cases h
  | nowhere => cases h
  | model page looked =>
      obtain ⟨rfl, rfl⟩ := Screen.model.inj h
      exact ⟨page, rfl, rfl⟩

structure Session where
  screen : Screen
  /-- How many pages of models have been opened. -/
  visit : Nat
  /-- In the order in which they were begun. -/
  asked : List Asked

namespace Session

def initial : Session := ⟨.home, 0, []⟩

inductive Event where
  | navigate (route : Route)
  /-- The page looks at its route. -/
  | look
  | grid (event : GridEvent)
  /-- The reply to the request with that number. -/
  | deliver (request : Nat) (reply : Reply)

def navigate (s : Session) : Route → Session
  | .home => { s with screen := .home }
  | .nowhere => { s with screen := .nowhere }
  | .model parameter =>
    match s.screen with
    | .model page looked =>
      { s with screen := .model { page with routeName := decoded parameter } looked }
    | _ => { s with screen := .model (.mounted parameter) none, visit := s.visit + 1 }

/-- The fetch that the page begins when it looks at its route. -/
def begun? (built : Option String) (visit : Nat) (page : ModelPage) : Option Asked :=
  (page.tracker.onRouteName page.routeName).1.map fun ticket =>
    ⟨visit, page.requests.length, ticket.name, requestUrl built ticket.name, none⟩

def look (built : Option String) (s : Session) : Session :=
  match s.screen with
  | .model page _ =>
    { s with
      screen := .model (page.lookAtRoute built) (some page.routeName)
      asked := s.asked ++ (begun? built s.visit page).toList }
  | _ => s

/-- Changes the page of a visit. It may have been left by now; then nothing happens. -/
def updatePage (s : Session) (visit : Nat) (change : ModelPage → ModelPage) : Session :=
  if visit = s.visit then { s with screen := s.screen.mapPage change } else s

/-- Every request is answered at most once. -/
def deliver (s : Session) (request : Nat) (reply : Reply) : Session :=
  match s.asked[request]? with
  | none => s
  | some a =>
    match a.outcome? with
    | some _ => s
    | none =>
      { s with asked := s.asked.set request { a with reply := some reply } }.updatePage a.visit
        fun page => (page.respond? a.place reply).getD page

def after (built : Option String) (s : Session) : Event → Session
  | .navigate route => s.navigate route
  | .look => s.look built
  | .grid event => s.updatePage s.visit fun page => (page.after? built (.grid event)).getD page
  | .deliver request reply => s.deliver request reply

/-- The session after some events, the site having been built with that address. -/
def ofEvents (built : Option String) (events : List Event) : Session :=
  events.foldl (after built) initial

/-- What the page last asked for. -/
def lastAsked? (s : Session) : Option Asked :=
  (s.asked.filter fun a => a.visit = s.visit).getLast?

end Session

/-! ## What is shown -/

def Screen.html : Screen → Html
  | .home => Route.home.content
  | .nowhere => Route.nowhere.content
  | .model page _ => page.html

/-- The elements directly inside an element. -/
def Html.children : Html → List Html
  | .element _ _ content => content
  | _ => []

/-- There is a loading line on the page. -/
def ModelPage.ShowsLoading (p : ModelPage) : Prop := loadingLine ∈ p.html.children

/-- There is an error line on the page. -/
def ModelPage.ShowsError (p : ModelPage) : Prop :=
  ∃ reason, Html.errorPanel reason ∈ p.html.children

end EvaluationBrowser.Site
