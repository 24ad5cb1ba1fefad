/-
# One visit to the page of a model

From when it is mounted until it is left, a page sees three streams of events: names in its route,
what the reader does to the grid, and replies to its requests. Each stream has an order of its own,
and how the streams mix is up to chance. An *interleaving* is one such mix, in which every request
is replied to exactly once, after it was sent.

An event for something that is not there, such as a reply to a request that was never sent, does
nothing.
-/
import EvaluationBrowser.Site.ModelPage

namespace EvaluationBrowser.Site

/-- Stepping through pages, which depends on how many rows there are. -/
def GridEvent.isButton : GridEvent → Bool
  | .button _ => true
  | _ => false

namespace ModelPage

def after (built : Option String) (p : ModelPage) (event : Event) : ModelPage :=
  (p.after? built event).getD p

def afterAll (built : Option String) (p : ModelPage) (events : List Event) : ModelPage :=
  events.foldl (after built) p

/-- The page after some events, having been mounted with a parameter. -/
def ofEvents (built : Option String) (parameter : String) (events : List Event) : ModelPage :=
  (mounted parameter).afterAll built events

theorem afterAll_cons (built : Option String) (p : ModelPage) (event : Event)
    (events : List Event) :
    p.afterAll built (event :: events) = (p.after built event).afterAll built events := rfl

theorem after_route (built : Option String) (p : ModelPage) (parameter : String) :
    p.after built (.route parameter)
      = lookAtRoute built { p with routeName := decoded parameter } := (rfl)

/-! ## Streams of events -/

def Event.routeName? : Event → Option String
  | .route parameter => some (decoded parameter)
  | _ => none

def Event.grid? : Event → Option GridEvent
  | .grid event => some event
  | _ => none

def routeNames (events : List Event) : List String := events.filterMap Event.routeName?

def gridEvents (events : List Event) : List GridEvent := events.filterMap Event.grid?

@[simp] theorem routeNames_route (parameter : String) (events : List Event) :
    routeNames (.route parameter :: events) = decoded parameter :: routeNames events := rfl

@[simp] theorem routeNames_grid (event : GridEvent) (events : List Event) :
    routeNames (.grid event :: events) = routeNames events := rfl

@[simp] theorem routeNames_respond (request : Nat) (reply : Reply) (events : List Event) :
    routeNames (.respond request reply :: events) = routeNames events := rfl

@[simp] theorem gridEvents_route (parameter : String) (events : List Event) :
    gridEvents (.route parameter :: events) = gridEvents events := rfl

@[simp] theorem gridEvents_grid (event : GridEvent) (events : List Event) :
    gridEvents (.grid event :: events) = event :: gridEvents events := rfl

@[simp] theorem gridEvents_respond (request : Nat) (reply : Reply) (events : List Event) :
    gridEvents (.respond request reply :: events) = gridEvents events := rfl

/-- Every reply is the one to a request that has been sent and has none yet. -/
def RepliesInTime (built : Option String) (reply : Nat → Reply) (p : ModelPage)
    (events : List Event) : Prop :=
  ∀ before request given later, events = before ++ .respond request given :: later →
    given = reply request ∧
      ∃ q, (p.afterAll built before).requests[request]? = some q ∧ q.isAnswered = false

/-- The events mix the names and the grid events with a reply to each request. -/
structure IsInterleaving (built : Option String) (p : ModelPage) (names : List String)
    (gestures : List GridEvent) (reply : Nat → Reply) (events : List Event) : Prop where
  names : routeNames events = names
  gestures : gridEvents events = gestures
  inTime : RepliesInTime built reply p events
  /-- In the end no request waits. -/
  answered : ∀ q ∈ (p.afterAll built events).requests, q.isAnswered = true

end ModelPage

end EvaluationBrowser.Site
