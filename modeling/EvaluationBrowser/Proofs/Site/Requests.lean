/-
# What a page asks the backend

The requests of a page are the tickets that its tracker hands out, each with the address of its
name; without an address to ask there are none. Since tickets follow the names in the route alone,
so do the requests: neither the grid nor any reply, early, late or missing, adds or drops one.
-/
import EvaluationBrowser.Proofs.Fetch.RouteRequests
import EvaluationBrowser.Proofs.Fetch.LatestRequest
import EvaluationBrowser.Site.Visit

namespace EvaluationBrowser.Site

open Fetch (AsksByRoute Call Run Ticket)

/-- The request for a ticket, if there is an address to ask. -/
def sent? (built : Option String) (ticket : Ticket) : Option (Ticket × String) :=
  match requestUrl built ticket.name with
  | .ok url => some (ticket, url)
  | .error _ => none

namespace ModelPage

/-- The requests sent so far, answered or not. -/
def sent (p : ModelPage) : List (Ticket × String) := p.requests.map fun q => (q.ticket, q.url)

section Visit

variable (built : Option String) (p : ModelPage)

/-! ## One event -/

/-- What the tracker answers to the name in the route is sent. -/
theorem sent_lookAtRoute :
    (p.lookAtRoute built).tracker.Alike (p.tracker.onRouteName p.routeName).2 ∧
      (p.lookAtRoute built).sent
        = p.sent ++ ((p.tracker.onRouteName p.routeName).1.bind (sent? built)).toList := by
  unfold lookAtRoute
  cases p.tracker.onRouteName p.routeName with
  | mk answer tracker =>
      cases answer with
      | none => exact ⟨.refl _, (List.append_nil _).symm⟩
      | some ticket =>
          dsimp only [Option.bind_some]
          rw [sent?]
          cases requestUrl built ticket.name with
          | ok url => exact ⟨.refl _, List.map_append⟩
          | error reason => exact ⟨tracker.complete_alike ticket _, (List.append_nil _).symm⟩

/-- A reply that is in time is handed to the tracker. -/
theorem after_respond {request : Nat} {q : Request} (found : p.requests[request]? = some q)
    (waits : q.isAnswered = false) (reply : Reply) :
    p.after built (.respond request reply)
      = { p with
          requests := p.requests.set request { q with isAnswered := true }
          tracker := (p.tracker.complete q.ticket (outcomeOf reply)).2 } := by
  simp [after, after?, respond?, found, waits]

/-- Any other reply does nothing. -/
theorem after_respond_cases (request : Nat) (reply : Reply) :
    p.after built (.respond request reply) = p ∨
      ∃ q, p.requests[request]? = some q ∧ q.isAnswered = false := by
  cases found : p.requests[request]? with
  | none => exact .inl (by simp [after, after?, respond?, found])
  | some q =>
      cases answered : q.isAnswered with
      | true => exact .inl (by simp [after, after?, respond?, found, answered])
      | false => exact .inr ⟨q, rfl, answered⟩

/-- A reply changes only what is shown. -/
theorem sent_respond (request : Nat) (reply : Reply) :
    (p.after built (.respond request reply)).tracker.Alike p.tracker ∧
      (p.after built (.respond request reply)).sent = p.sent := by
  rcases p.after_respond_cases built request reply with none | ⟨q, found, waits⟩
  · rw [none]
    exact ⟨.refl _, rfl⟩
  · rw [after_respond built p found waits]
    refine ⟨p.tracker.complete_alike q.ticket _, ?_⟩
    have place : p.sent[request]? = some (q.ticket, q.url) := by
      rw [sent, List.getElem?_map, found, Option.map_some]
    obtain ⟨within, eq⟩ := List.getElem?_eq_some_iff.mp place
    rw [sent, List.map_set, ← sent, ← eq]
    exact List.set_getElem_self within

/-- The grid has no part in requests. -/
theorem sent_grid (event : GridEvent) :
    (p.after built (.grid event)).tracker = p.tracker ∧
      (p.after built (.grid event)).sent = p.sent := by
  simp only [after, after?]
  cases event.after? p.grid p.rows <;> exact ⟨rfl, rfl⟩

end Visit

/-! ## All events of a visit -/

/-- The requests of a visit are those of its route names. -/
theorem sent_afterAll (built : Option String) (p : ModelPage) (events : List Event) :
    (p.afterAll built events).sent
      = p.sent ++
          (p.tracker.routeTickets (routeNames events)).filterMap (·.bind (sent? built)) := by
  induction events generalizing p with
  | nil => exact (List.append_nil _).symm
  | cons event events ih =>
      have rest := ih (p.after built event)
      rw [afterAll_cons, rest]
      cases event with
      | grid event =>
          obtain ⟨tracker, same⟩ := p.sent_grid built event
          rw [same, tracker, routeNames_grid]
      | respond request reply =>
          obtain ⟨alike, same⟩ := p.sent_respond built request reply
          rw [same, alike.routeTickets, routeNames_respond]
      | route parameter =>
          obtain ⟨alike, more⟩ :=
            sent_lookAtRoute built { p with routeName := decoded parameter }
          rw [after_route, alike.routeTickets, more, List.append_assoc, routeNames_route,
            Fetch.Tracker.routeTickets, List.filterMap_cons]
          dsimp only
          cases (p.tracker.onRouteName (decoded parameter)).1.bind (sent? built) <;> rfl

theorem sent_ofEvents (built : Option String) (parameter : String) (events : List Event) :
    (ofEvents built parameter events).sent
      = ((Fetch.Tracker.initial : Fetch.Tracker (List Setting)).routeTickets
          (routeNames events)).filterMap (·.bind (sent? built)) :=
  sent_afterAll built (mounted parameter) events

end ModelPage

/-! ## The theorem -/

/-- What comes of the route names among the calls, whatever results come between them. -/
structure FollowsNames (calls : List (Call (List Setting))) : Prop where
  asks : AsksByRoute (Fetch.routeNames calls) (Run.initial.answers calls)
  /-- With other results at other times the answers are the same. -/
  regardless : ∀ others : List (Call (List Setting)),
    (∀ call ∈ others, call.isOfPage = true) → Fetch.routeNames others = Fetch.routeNames calls →
      Run.initial.answers others = Run.initial.answers calls
  /-- A page whose route takes those names sends the requests for those tickets and no others. -/
  sent : ∀ (built : Option String) (parameter : String) (events : List ModelPage.Event),
    ModelPage.routeNames events = Fetch.routeNames calls →
      (ModelPage.ofEvents built parameter events).sent
        = (Run.initial.answers calls).filterMap (·.bind (sent? built))

/-- Requests depend on the names in the route and on nothing else. -/
theorem followsNames_of_page_calls (calls : List (Call (List Setting)))
    (only : ∀ call ∈ calls, call.isOfPage = true) : FollowsNames calls where
  asks := by
    rw [Run.answers_eq only]
    exact Fetch.asksByRoute_routeTickets (Fetch.routeNames calls)
  regardless others onlyOthers same := by
    rw [Run.answers_eq only, Run.answers_eq onlyOthers, same]
  sent built parameter events same := by
    rw [Run.answers_eq only, ModelPage.sent_ofEvents, same]
    rfl

/-- A name comes twice in a row, and again after one that is none; a result is late and twice. -/
theorem followsNames_of_repeats :
    (∀ call ∈ ([.onRouteName "a", .onRouteName "a", .complete 0 (.error "gone"), .onRouteName "a",
      .onRouteName "a b", .onRouteName "a", .complete 0 (.ok [])] : List (Call (List Setting))),
        call.isOfPage = true) ∧
    FollowsNames [.onRouteName "a", .onRouteName "a", .complete 0 (.error "gone"),
      .onRouteName "a", .onRouteName "a b", .onRouteName "a", .complete 0 (.ok [])] := by
  have only : ∀ call ∈ ([.onRouteName "a", .onRouteName "a", .complete 0 (.error "gone"),
      .onRouteName "a", .onRouteName "a b", .onRouteName "a", .complete 0 (.ok [])] :
        List (Call (List Setting))), call.isOfPage = true := by
    intro call mem
    simp only [List.mem_cons, List.not_mem_nil, or_false] at mem
    rcases mem with rfl | rfl | rfl | rfl | rfl | rfl | rfl <;> rfl
  exact ⟨only, followsNames_of_page_calls _ only⟩

end EvaluationBrowser.Site
