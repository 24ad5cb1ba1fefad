/-
# Independent events commute

Route names, replies and what the reader does to the grid come to a page in three streams. How the
streams mix makes no difference to where the page ends, as long as every request is replied to
once, after it was sent, and no button is pressed, since what a button does depends on the rows.

Two interleavings are not brought into each other by exchanging neighbours. Instead the end is
computed from the streams: the grid from the gestures alone, since none of them asks for the rows;
the requests from the names alone; and the tracker from the names and the replies (`Follows`). The
run to compare with is the one of the names without any result. It tells which ticket is current,
and what the page shows is the reply to that ticket, if there is one.
-/
import EvaluationBrowser.Proofs.Site.Requests
import EvaluationBrowser.Proofs.Site.Session

namespace EvaluationBrowser.Fetch

variable {α : Type}

namespace Run

/-- The run after route names that come one after another. -/
def afterNames (r : Run α) (names : List String) : Run α :=
  (names.map Call.onRouteName).foldl after r

theorem afterNames_cons (r : Run α) (raw : String) (names : List String) :
    r.afterNames (raw :: names) = (r.after (.onRouteName raw)).afterNames names := rfl

theorem decisions_le_after (r : Run α) (raw : String) :
    decisions r.history ≤ decisions (r.after (.onRouteName raw)).history := by
  simp only [after]
  cases ModelName.ofString raw with
  | error failure => simp [noteRejection]
  | ok name =>
      dsimp only
      cases r.tracker.onRouteName raw with
      | mk answer tracker =>
          cases answer with
          | none => exact Nat.le_refl _
          | some ticket => simp [noteTicket]

theorem decisions_le_afterNames (r : Run α) (names : List String) :
    decisions r.history ≤ decisions (r.afterNames names).history := by
  induction names generalizing r with
  | nil => exact Nat.le_refl _
  | cons raw names ih =>
      rw [afterNames_cons]
      exact Nat.le_trans (r.decisions_le_after raw) (ih _)

/-- The tickets of a run grow by the answers to its route names. -/
theorem tickets_onRouteName (r : Run α) (raw : String) :
    (r.after (.onRouteName raw)).tickets = r.tickets ++ (r.tracker.onRouteName raw).1.toList := by
  simp only [after]
  cases valid : ModelName.ofString raw with
  | error failure => simp [noteRejection, Tracker.onRouteName, valid]
  | ok name =>
      dsimp only
      cases r.tracker.onRouteName raw with
      | mk answer tracker =>
          cases answer with
          | none => exact (List.append_nil _).symm
          | some ticket => rfl

/-! ## What a route name does to a run -/

section RouteName

variable {r : Run α} {raw : String}

theorem after_onRouteName_of_invalid {failure : Failure}
    (invalid : ModelName.ofString raw = .error failure) :
    r.after (.onRouteName raw)
      = r.noteRejection (r.tracker.reject failure.message) failure.message := by
  simp [after, Tracker.onRouteName, invalid]

theorem after_onRouteName_of_active {name : ModelName} (valid : ModelName.ofString raw = .ok name)
    (active : r.tracker.active = some name) : r.after (.onRouteName raw) = r := by
  simp [after, Tracker.onRouteName, valid, Tracker.beginIfChanged, active, noteTicket]

theorem after_onRouteName_of_new {name : ModelName} (valid : ModelName.ofString raw = .ok name)
    (new : r.tracker.active ≠ some name) :
    r.after (.onRouteName raw)
      = ⟨(r.tracker.begin name).2, r.tickets ++ [(r.tracker.begin name).1],
          .issued name :: r.history⟩ := by
  simp only [after, Tracker.onRouteName, valid, Tracker.beginIfChanged, if_neg new]
  rfl

end RouteName

end Run

end EvaluationBrowser.Fetch

namespace EvaluationBrowser.Site

open Fetch (Call Run Ticket current? decisions)

/-! ## The grid -/

/-- What an event other than a button does to a grid, which is the same for all rows. -/
def GridEvent.applied (s : Grid.State) (e : GridEvent) : Grid.State := (e.after? s []).getD s

theorem GridEvent.after?_eq {e : GridEvent} (noButton : e.isButton = false) (s : Grid.State)
    (settings : List Setting) : e.after? s settings = e.after? s [] := by
  cases e with
  | checkbox index => rfl
  | heading index => rfl
  | filter index text => rfl
  | button index => cases noButton

namespace ModelPage

section Grid

variable (built : Option String) (p : ModelPage)

theorem grid_lookAtRoute : (p.lookAtRoute built).grid = p.grid := by
  unfold lookAtRoute
  cases p.tracker.onRouteName p.routeName with
  | mk answer tracker =>
      cases answer with
      | none => rfl
      | some ticket =>
          dsimp only
          cases requestUrl built ticket.name <;> rfl

theorem grid_respond (request : Nat) (reply : Reply) :
    (p.after built (.respond request reply)).grid = p.grid := by
  rcases p.after_respond_cases built request reply with none | ⟨q, found, waits⟩
  · rw [none]
  · rw [after_respond built p found waits]

/-- The grid after some events is that of the gestures among them. -/
theorem grid_afterAll {events : List Event}
    (noButton : ∀ e ∈ gridEvents events, e.isButton = false) :
    (p.afterAll built events).grid = (gridEvents events).foldl GridEvent.applied p.grid := by
  induction events generalizing p with
  | nil => rfl
  | cons event events ih =>
      rw [afterAll_cons]
      cases event with
      | grid e =>
          rw [gridEvents_grid] at noButton ⊢
          have here : (p.after built (.grid e)).grid = e.applied p.grid := by
            simp only [after, after?]
            rw [e.after?_eq (noButton e List.mem_cons_self), GridEvent.applied]
            cases e.after? p.grid [] <;> rfl
          rw [ih _ fun e' h => noButton e' (List.mem_cons_of_mem _ h), here, List.foldl_cons]
      | route parameter =>
          have here : (p.after built (.route parameter)).grid = p.grid :=
            grid_lookAtRoute built { p with routeName := decoded parameter }
          rw [gridEvents_route] at noButton ⊢
          rw [ih _ noButton, here]
      | respond request reply =>
          rw [gridEvents_respond] at noButton ⊢
          rw [ih _ noButton, grid_respond built p request reply]

end Grid

/-! ## The tracker -/

/-- What has come of a request of the page. Without an address it has failed as soon as it was
wanted. -/
def result? (built : Option String) (reply : Nat → Reply) (requests : List Request)
    (number : Nat) : Option (Except String (List Setting)) :=
  match Backend.ofOption built with
  | .error fault => some (.error (Failure.address fault).message)
  | .ok _ =>
    (requests[number]?.filter Request.isAnswered).map fun _ => outcomeOf (reply number)

/-- What a page shows whose route names made that run: the result of the current request. -/
def shownOf (built : Option String) (reply : Nat → Reply) (r : Run (List Setting))
    (requests : List Request) : Fetch.State (List Setting) :=
  match current? r.history with
  | some number => .ofResult (result? built reply requests number)
  | none => r.tracker.state

/-- The page has been led by the route names of a run, and its requests were replied to as told. -/
structure Follows (built : Option String) (reply : Nat → Reply) (r : Run (List Setting))
    (p : ModelPage) : Prop where
  consistent : r.Consistent
  alike : p.tracker.Alike r.tracker
  sent : p.sent = r.tickets.filterMap (sent? built)
  state : p.tracker.state = shownOf built reply r p.requests

theorem follows_mounted (built : Option String) (reply : Nat → Reply) (parameter : String) :
    Follows built reply Run.initial (.mounted parameter) where
  consistent := Run.consistent_initial
  alike := .refl _
  sent := rfl
  state := rfl

section Sent

variable {built : Option String} {tickets : List Ticket}

theorem filterMap_sent?_of_address {backend : Backend}
    (address : Backend.ofOption built = .ok backend) :
    tickets.filterMap (sent? built)
      = tickets.map fun t => (t, Backend.settingsUrl backend.base t.name) := by
  have all : sent? built = some ∘ fun t => (t, Backend.settingsUrl backend.base t.name) := by
    funext t
    simp [sent?, requestUrl, address]
  rw [all, List.filterMap_eq_map]

theorem filterMap_sent?_of_fault {fault : AddressFault}
    (noAddress : Backend.ofOption built = .error fault) : tickets.filterMap (sent? built) = [] := by
  refine List.filterMap_eq_nil_iff.mpr fun t _ => ?_
  simp [sent?, requestUrl, noAddress]

end Sent

section Steps

variable {built : Option String} {reply : Nat → Reply} {r : Run (List Setting)} {p : ModelPage}

/-- A request that was sent has an address, and its ticket is that of its number. -/
theorem Follows.of_request (h : Follows built reply r p) {number : Nat} {q : Request}
    (found : p.requests[number]? = some q) :
    (∃ backend, Backend.ofOption built = .ok backend) ∧ r.tickets[number]? = some q.ticket := by
  have sent : p.sent[number]? = some (q.ticket, q.url) := by
    rw [ModelPage.sent, List.getElem?_map, found, Option.map_some]
  rw [h.sent] at sent
  cases address : Backend.ofOption built with
  | error fault =>
      rw [filterMap_sent?_of_fault address] at sent
      cases sent
  | ok backend =>
      rw [filterMap_sent?_of_address address, List.getElem?_map] at sent
      obtain ⟨ticket, place, eq⟩ := Option.map_eq_some_iff.mp sent
      rw [(Prod.mk.inj eq).1] at place
      exact ⟨⟨backend, rfl⟩, place⟩

theorem Follows.length_requests (h : Follows built reply r p) {backend : Backend}
    (address : Backend.ofOption built = .ok backend) : p.requests.length = r.tickets.length := by
  have length := congrArg List.length h.sent
  rwa [filterMap_sent?_of_address address, List.length_map, ModelPage.sent,
    List.length_map] at length

/-- The grid has no part in it. -/
theorem Follows.grid (h : Follows built reply r p) (event : GridEvent) :
    Follows built reply r (p.after built (.grid event)) := by
  have same : (p.after built (.grid event)).tracker = p.tracker ∧
      (p.after built (.grid event)).requests = p.requests := by
    simp only [after, after?]
    cases event.after? p.grid p.rows <;> exact ⟨rfl, rfl⟩
  obtain ⟨tracker, requests⟩ := same
  refine { consistent := h.consistent, alike := ?_, sent := ?_, state := ?_ }
  · rw [tracker]
    exact h.alike
  · rw [ModelPage.sent, requests]
    exact h.sent
  · rw [tracker, requests]
    exact h.state

/-- The reply to the current request is shown, every other is dropped. -/
theorem Follows.respond (h : Follows built reply r p) (few : decisions r.history < 2 ^ 64)
    {number : Nat} {q : Request} (found : p.requests[number]? = some q)
    (waits : q.isAnswered = false) :
    Follows built reply r (p.after built (.respond number (reply number))) := by
  obtain ⟨alike, sent⟩ := p.sent_respond built number (reply number)
  refine { consistent := h.consistent, alike := alike.trans h.alike, sent := ?_, state := ?_ }
  · rw [sent]
    exact h.sent
  obtain ⟨⟨backend, address⟩, ticket⟩ := h.of_request found
  have within : number < p.requests.length := (List.getElem?_eq_some_iff.mp found).1
  have present := h.consistent.isPresent_iff few ticket
  rw [← h.alike.generation] at present
  rw [after_respond built p found waits]
  by_cases same : q.ticket.generation = p.tracker.generation
  · have result : result? built reply (p.requests.set number { q with isAnswered := true }) number
        = some (outcomeOf (reply number)) := by
      unfold result?
      rw [address]
      dsimp only
      rw [List.getElem?_set_self within]
      rfl
    rw [Fetch.Tracker.complete_of_present same, shownOf, present.mp same]
    dsimp only
    rw [result]
  · rw [Fetch.Tracker.complete_of_stale same]
    refine h.state.trans ?_
    unfold shownOf
    cases current : current? r.history with
    | none => rfl
    | some other =>
        have ne : number ≠ other := by
          rintro rfl
          exact same (present.mpr current)
        dsimp only
        rw [result?, result?, List.getElem?_set_ne ne]

/-- What is shown after a name in the route: why it is none, what was shown before, or that the
new request is under way. -/
theorem Follows.state_lookAtRoute (h : Follows built reply r p) :
    (p.lookAtRoute built).tracker.state
      = shownOf built reply (r.after (.onRouteName p.routeName))
          (p.lookAtRoute built).requests := by
  have current : ∀ name : ModelName,
      current? (.issued name :: r.history) = some r.tickets.length := by
    intro name
    rw [h.consistent.length]
    rfl
  have new : ∀ name ticket, (p.tracker.onRouteName p.routeName).1 = some ticket →
      ModelName.ofString p.routeName = .ok name → r.tracker.active ≠ some name := by
    intro name ticket answer valid same
    rw [← h.alike.active] at same
    simp [Fetch.Tracker.onRouteName, valid, Fetch.Tracker.beginIfChanged, same] at answer
  cases looked built 0 p with
  | rejected failure invalid _ eq =>
      rw [eq, Run.after_onRouteName_of_invalid invalid]
      rfl
  | unchanged name valid active _ eq =>
      rw [h.alike.active] at active
      rw [eq, Run.after_onRouteName_of_active valid active]
      exact h.state
  | sent name url valid address begun eq =>
      obtain ⟨ticket, answer, -⟩ := Option.map_eq_some_iff.mp begun
      obtain ⟨backend, found⟩ : ∃ backend, Backend.ofOption built = .ok backend := by
        unfold requestUrl at address
        cases found : Backend.ofOption built with
        | ok backend => exact ⟨backend, rfl⟩
        | error fault =>
            rw [found] at address
            cases address
      rw [eq, Run.after_onRouteName_of_new valid (new name ticket answer valid), shownOf, current]
      dsimp only
      rw [result?, found, ← h.length_requests found]
      dsimp only
      rw [List.getElem?_concat_length]
      rfl
  | unsent name reason valid address begun eq =>
      obtain ⟨ticket, answer, -⟩ := Option.map_eq_some_iff.mp begun
      obtain ⟨fault, found, message⟩ : ∃ fault, Backend.ofOption built = .error fault ∧
          (Failure.address fault).message = reason := by
        unfold requestUrl at address
        cases found : Backend.ofOption built with
        | ok backend =>
            rw [found] at address
            cases address
        | error fault =>
            rw [found] at address
            exact ⟨fault, rfl, Except.error.inj address⟩
      have generation : (p.tracker.begin name).1.generation = (p.tracker.begin name).2.generation :=
        rfl
      rw [eq, Run.after_onRouteName_of_new valid (new name ticket answer valid), shownOf, current,
        Fetch.Tracker.complete_of_present generation]
      dsimp only
      rw [result?, found]
      dsimp only
      rw [message]

/-- A new name in the route is followed by the page and by the run of names alike. -/
theorem Follows.route (h : Follows built reply r p) (parameter : String) :
    Follows built reply (r.after (.onRouteName (decoded parameter)))
      (p.after built (.route parameter)) := by
  have h' : Follows built reply r { p with routeName := decoded parameter } :=
    ⟨h.consistent, h.alike, h.sent, h.state⟩
  have tracker := r.tracker_onRouteName (decoded parameter)
  have tickets := r.tickets_onRouteName (decoded parameter)
  obtain ⟨answer, alike⟩ := h.alike.onRouteName (decoded parameter)
  obtain ⟨looked, sent⟩ := sent_lookAtRoute built { p with routeName := decoded parameter }
  dsimp only at looked sent
  rw [after_route]
  refine { consistent := h.consistent.after _, alike := ?_, sent := ?_,
           state := h'.state_lookAtRoute }
  · rw [tracker]
    exact looked.trans alike
  · have more : ((r.tracker.onRouteName (decoded parameter)).1.toList).filterMap (sent? built)
        = ((r.tracker.onRouteName (decoded parameter)).1.bind (sent? built)).toList := by
      cases (r.tracker.onRouteName (decoded parameter)).1 with
      | none => rfl
      | some ticket => cases eq : sent? built ticket <;> simp [eq]
    rw [tickets, List.filterMap_append, more, ← h.sent, ← answer]
    exact sent

theorem repliesInTime_nil : RepliesInTime built reply p [] := by
  intro before request given later split
  exact absurd split.symm (List.append_ne_nil_of_right_ne_nil _ (List.cons_ne_nil _ _))

/-- Replies are in time if the first event is, should it be one, and all later ones are. -/
theorem repliesInTime_cons {event : Event} {events : List Event} :
    RepliesInTime built reply p (event :: events) ↔
      (∀ request given, event = .respond request given → given = reply request ∧
        ∃ q, p.requests[request]? = some q ∧ q.isAnswered = false) ∧
      RepliesInTime built reply (p.after built event) events := by
  constructor
  · intro h
    refine ⟨fun request given eq => h [] request given events (by rw [eq, List.nil_append]), ?_⟩
    intro before request given later split
    exact h (event :: before) request given later (by rw [split, List.cons_append])
  · rintro ⟨now, rest⟩ before request given later split
    cases before with
    | nil =>
        obtain ⟨rfl, rfl⟩ := List.cons.inj split
        exact now request given rfl
    | cons head before =>
        obtain ⟨rfl, eq⟩ := List.cons.inj split
        exact rest before request given later eq

/-- The page goes with the run of its names, whatever else comes between them. -/
theorem Follows.afterAll (h : Follows built reply r p) {events : List Event}
    (inTime : RepliesInTime built reply p events)
    (few : decisions (r.afterNames (routeNames events)).history < 2 ^ 64) :
    Follows built reply (r.afterNames (routeNames events)) (p.afterAll built events) := by
  induction events generalizing r p with
  | nil => exact h
  | cons event events ih =>
      obtain ⟨now, later⟩ := repliesInTime_cons.mp inTime
      rw [afterAll_cons]
      cases event with
      | grid e =>
          rw [routeNames_grid] at few ⊢
          exact ih (h.grid e) later few
      | route parameter =>
          rw [routeNames_route] at few ⊢
          exact ih (h.route parameter) later few
      | respond request given =>
          obtain ⟨rfl, q, found, waits⟩ := now request given rfl
          rw [routeNames_respond] at few ⊢
          have here : decisions r.history < 2 ^ 64 :=
            Nat.lt_of_le_of_lt (r.decisions_le_afterNames (routeNames events)) few
          exact ih (h.respond here found waits) later few

end Steps

/-! ## The theorem -/

/-- Requests that were all answered are known from their tickets and addresses. -/
theorem requests_eq_of_sent {p p' : ModelPage} (sent : p.sent = p'.sent)
    (answered : ∀ q ∈ p.requests, q.isAnswered = true)
    (answered' : ∀ q ∈ p'.requests, q.isAnswered = true) : p.requests = p'.requests := by
  have known : ∀ {p : ModelPage}, (∀ q ∈ p.requests, q.isAnswered = true) →
      p.requests = p.sent.map fun s => ⟨s.1, s.2, true⟩ := by
    intro p answered
    rw [ModelPage.sent, List.map_map]
    refine (List.map_id _).symm.trans (List.map_congr_left fun q hq => ?_)
    have flag := answered q hq
    obtain ⟨ticket, url, isAnswered⟩ := q
    dsimp only at flag
    rw [flag]
    rfl
  rw [known answered, known answered', sent]

/-- Two mixes of the same names, gestures and replies end in the same fetch and the same grid. As
everywhere, a generation is a number of 64 bits, which no visit uses up: after 2⁶⁴ decisions it
comes back, and a reply that was held up for so long would pass for one to the latest request. -/
theorem ends_alike_of_interleavings {built : Option String} {parameter : String}
    {names : List String} {gestures : List GridEvent} {reply : Nat → Reply}
    {events others : List Event}
    (mixed : IsInterleaving built (mounted parameter) names gestures reply events)
    (mixed' : IsInterleaving built (mounted parameter) names gestures reply others)
    (noButton : ∀ e ∈ gestures, e.isButton = false)
    (few : decisions (Run.initial.afterNames names : Run (List Setting)).history < 2 ^ 64) :
    let p := ofEvents built parameter events
    let p' := ofEvents built parameter others
    p.tracker.state = p'.tracker.state ∧ p.tracker.active = p'.tracker.active ∧
      p.grid.view p.rows = p'.grid.view p'.rows := by
  intro p p'
  have follows : ∀ {events : List Event},
      IsInterleaving built (mounted parameter) names gestures reply events →
        Follows built reply (Run.initial.afterNames names) (ofEvents built parameter events) := by
    intro events h
    have start := follows_mounted built reply parameter
    rw [← h.names] at few ⊢
    exact start.afterAll h.inTime few
  have h := follows mixed
  have h' := follows mixed'
  have requests : p.requests = p'.requests :=
    requests_eq_of_sent (h.sent.trans h'.sent.symm) mixed.answered mixed'.answered
  have state : p.tracker.state = p'.tracker.state := by
    rw [h.state, h'.state, requests]
  have rows : p.rows = p'.rows := by
    rw [ModelPage.rows, ModelPage.rows, state]
  have grid : p.grid = p'.grid := by
    have last : ∀ {events : List Event},
        IsInterleaving built (mounted parameter) names gestures reply events →
          (ofEvents built parameter events).grid
            = gestures.foldl GridEvent.applied (mounted parameter).grid := by
      intro events h
      rw [← h.gestures] at noButton ⊢
      exact grid_afterAll built (mounted parameter) noButton
    rw [last mixed, last mixed']
  refine ⟨state, ?_, ?_⟩
  · rw [h.alike.active, h'.alike.active]
  · rw [grid, rows]

theorem RepliesInTime.noReply {built : Option String} {reply : Nat → Reply} {p : ModelPage}
    {event : Event} {events : List Event} (other : ∀ request given, event ≠ .respond request given)
    (later : RepliesInTime built reply (p.after built event) events) :
    RepliesInTime built reply p (event :: events) :=
  repliesInTime_cons.mpr ⟨fun request given eq => absurd eq (other request given), later⟩

theorem RepliesInTime.inTurn {built : Option String} {reply : Nat → Reply} {p : ModelPage}
    {request : Nat} {given : Reply} {events : List Event} (own : given = reply request)
    (waits : (p.requests[request]?).map (·.isAnswered) = some false)
    (later : RepliesInTime built reply (p.after built (.respond request given)) events) :
    RepliesInTime built reply p (.respond request given :: events) := by
  refine repliesInTime_cons.mpr ⟨?_, later⟩
  rintro _ _ ⟨⟩
  exact ⟨own, Option.map_eq_some_iff.mp waits⟩

/-- Two models one after the other; the reader sorts, filters and hides a column meanwhile. In one
mix the replies overtake each other, in the other each comes before the next request. -/
theorem ends_alike_of_overtaking :
    let reply : Nat → Reply := fun k => if k = 0 then .answered 200 (.ok "[]") else .unsent "gone"
    let events : List Event := [.route "a", .grid (.heading 0), .route "b",
      .respond 1 (.unsent "gone"), .grid (.filter 1 "x"), .grid (.checkbox 1),
      .respond 0 (.answered 200 (.ok "[]"))]
    let others : List Event := [.grid (.heading 0), .grid (.filter 1 "x"), .route "a",
      .respond 0 (.answered 200 (.ok "[]")), .grid (.checkbox 1), .route "b",
      .respond 1 (.unsent "gone")]
    IsInterleaving none (mounted "a") ["a", "b"] [.heading 0, .filter 1 "x", .checkbox 1] reply
        events ∧
      IsInterleaving none (mounted "a") ["a", "b"] [.heading 0, .filter 1 "x", .checkbox 1] reply
        others ∧
      (ofEvents none "a" events).tracker.state = (ofEvents none "a" others).tracker.state ∧
      (ofEvents none "a" events).tracker.active = (ofEvents none "a" others).tracker.active ∧
      (ofEvents none "a" events).grid.view (ofEvents none "a" events).rows
        = (ofEvents none "a" others).grid.view (ofEvents none "a" others).rows := by
  intro reply events others
  have mixed : IsInterleaving none (mounted "a") ["a", "b"]
      [.heading 0, .filter 1 "x", .checkbox 1] reply events :=
    { names := by decide +kernel
      gestures := rfl
      inTime := .noReply nofun <| .noReply nofun <| .noReply nofun <|
        .inTurn rfl (by decide +kernel) <| .noReply nofun <| .noReply nofun <|
          .inTurn rfl (by decide +kernel) repliesInTime_nil
      answered := by decide +kernel }
  have mixed' : IsInterleaving none (mounted "a") ["a", "b"]
      [.heading 0, .filter 1 "x", .checkbox 1] reply others :=
    { names := by decide +kernel
      gestures := rfl
      inTime := .noReply nofun <| .noReply nofun <| .noReply nofun <|
        .inTurn rfl (by decide +kernel) <| .noReply nofun <| .noReply nofun <|
          .inTurn rfl (by decide +kernel) repliesInTime_nil
      answered := by decide +kernel }
  have few :
      decisions (Run.initial.afterNames ["a", "b"] : Run (List Setting)).history < 2 ^ 64 := by
    decide +kernel
  exact ⟨mixed, mixed', ends_alike_of_interleavings mixed mixed' (by decide) few⟩

end ModelPage

end EvaluationBrowser.Site
