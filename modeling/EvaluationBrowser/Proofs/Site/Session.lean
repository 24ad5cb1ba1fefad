/-
# A page shows its own model

Whatever the reader does and whenever replies come, a page that has looked at its present route
shows rows, a loading line or an error line for that route and for no other.

The argument has two layers. Within a visit the tracker of the page is the tracker of a run of
calls (`Fetch.Run`), whose tickets are the requests of the visit in order; the theory of such runs
says which reply counts. Between visits nothing is shared: the requests of a session are those of
earlier visits and then those of the present one, and a reply to one of the former changes no page.
`Tracks` states the first, `Session.Kept` the second, and one event keeps both.

A visit with 2⁶⁴ looks at the route would wrap the generations of its tracker, so sessions are
followed for fewer looks than that.
-/
import EvaluationBrowser.Proofs.Backend.Reply
import EvaluationBrowser.Proofs.Fetch.LatestRequest
import EvaluationBrowser.Site.Session

namespace EvaluationBrowser.Site

open Fetch (Run current? decisions getElem?_concat_eq_some)

/-! ## Lines on the page -/

section Lines

variable (p : ModelPage)

theorem ModelPage.showsLoading_iff : p.ShowsLoading ↔ p.tracker.state = .loading := by
  unfold ShowsLoading html
  cases p.tracker.state <;>
    simp [Html.children, Html.ofClass, Html.plain, Html.errorPanel, loadingLine,
      GridView.html, Fetch.State.isLoading, Fetch.State.failed?]

theorem ModelPage.showsError_iff :
    p.ShowsError ↔ ∃ reason, p.tracker.state = .failed reason := by
  unfold ShowsError html
  cases p.tracker.state <;>
    simp [Html.children, Html.ofClass, Html.plain, Html.errorPanel, loadingLine,
      GridView.html, Fetch.State.isLoading, Fetch.State.failed?]

theorem ModelPage.rows_ne_nil (h : p.rows ≠ []) : p.tracker.state = .loaded p.rows := by
  unfold rows at h ⊢
  cases state : p.tracker.state with
  | loaded value => rfl
  | idle => simp [state, Fetch.State.loaded?] at h
  | loading => simp [state, Fetch.State.loaded?] at h
  | failed reason => simp [state, Fetch.State.loaded?] at h

end Lines

/-! ## Names and outcomes -/

theorem ModelName.ofString_eq_ok {s : String} (h : isModelName s = true) :
    ModelName.ofString s = .ok ⟨s, h⟩ := by
  simp [ModelName.ofString, ModelName.ofString?, h]

theorem ModelName.ofString_eq_error {s : String} (h : isModelName s = false) :
    ModelName.ofString s = .error (.invalidModelName s) := by
  simp [ModelName.ofString, ModelName.ofString?, h]

namespace Asked

/-- There was an address to ask, and nothing has come from it. -/
def Waits (a : Asked) : Prop := (∃ address, a.url = .ok address) ∧ a.reply = none

/-- There was no address to ask, or what came from it brings no settings. -/
def Fails (a : Asked) : Prop :=
  (∃ reason, a.url = .error reason) ∨
    ∃ reply, a.reply = some reply ∧ ∀ settings, ¬ reply.Brings settings

variable {a : Asked}

theorem outcome?_eq_ok {settings : List Setting} (h : a.outcome? = some (.ok settings)) :
    ∃ reply, a.reply = some reply ∧ reply.Brings settings := by
  unfold outcome? at h
  cases url : a.url with
  | error reason =>
      rw [url] at h
      cases h
  | ok address =>
      rw [url] at h
      obtain ⟨reply, found, outcome⟩ := Option.map_eq_some_iff.mp h
      exact ⟨reply, found, outcomeOf_eq_ok_iff.mp outcome⟩

theorem outcome?_eq_none_iff : a.outcome? = none ↔ a.Waits := by
  unfold outcome? Waits
  cases a.url with
  | error reason => simp
  | ok address => simp

theorem exists_outcome?_eq_error_iff :
    (∃ reason, a.outcome? = some (.error reason)) ↔ a.Fails := by
  unfold outcome? Fails
  cases a.url with
  | error reason => simp
  | ok address =>
      cases a.reply with
      | none => simp
      | some reply => simpa using exists_outcomeOf_eq_error_iff

end Asked

/-! ## What looking at the route can do

Four things, by the name in the route and by whether there is an address to ask. -/

inductive Looked (built : Option String) (visit : Nat) (p : ModelPage) : Prop
  | rejected (failure : Failure) :
      ModelName.ofString p.routeName = .error failure →
      Session.begun? built visit p = none →
      p.lookAtRoute built = { p with tracker := p.tracker.reject failure.message } →
      Looked built visit p
  | unchanged (name : ModelName) :
      ModelName.ofString p.routeName = .ok name → p.tracker.active = some name →
      Session.begun? built visit p = none → p.lookAtRoute built = p → Looked built visit p
  | sent (name : ModelName) (url : String) :
      ModelName.ofString p.routeName = .ok name → requestUrl built name = .ok url →
      Session.begun? built visit p = some ⟨visit, p.requests.length, name, .ok url, none⟩ →
      p.lookAtRoute built =
        { p with
          tracker := (p.tracker.begin name).2
          requests := p.requests ++ [⟨(p.tracker.begin name).1, url, false⟩] } →
      Looked built visit p
  | unsent (name : ModelName) (reason : String) :
      ModelName.ofString p.routeName = .ok name → requestUrl built name = .error reason →
      Session.begun? built visit p = some ⟨visit, p.requests.length, name, .error reason, none⟩ →
      p.lookAtRoute built =
        { p with
          tracker := ((p.tracker.begin name).2.complete (p.tracker.begin name).1
            (.error reason)).2 } →
      Looked built visit p

theorem looked (built : Option String) (visit : Nat) (p : ModelPage) : Looked built visit p := by
  cases valid : ModelName.ofString p.routeName with
  | error failure =>
      refine .rejected failure valid ?_ ?_
      · simp [Session.begun?, Fetch.Tracker.onRouteName, valid]
      · simp [ModelPage.lookAtRoute, Fetch.Tracker.onRouteName, valid]
  | ok name =>
      by_cases same : p.tracker.active = some name
      · refine .unchanged name valid same ?_ ?_
        · simp [Session.begun?, Fetch.Tracker.onRouteName, valid, Fetch.Tracker.beginIfChanged,
            same]
        · simp [ModelPage.lookAtRoute, Fetch.Tracker.onRouteName, valid,
            Fetch.Tracker.beginIfChanged, same]
      · have route : p.tracker.onRouteName p.routeName
            = (some (p.tracker.begin name).1, (p.tracker.begin name).2) := by
          simp [Fetch.Tracker.onRouteName, valid, Fetch.Tracker.beginIfChanged, same]
        cases address : requestUrl built name with
        | ok url =>
            refine .sent name url valid address ?_ ?_
            · simp [Session.begun?, route, Fetch.Tracker.begin, address]
            · simp [ModelPage.lookAtRoute, route, Fetch.Tracker.begin, address]
        | error reason =>
            refine .unsent name reason valid address ?_ ?_
            · simp [Session.begun?, route, Fetch.Tracker.begin, address]
            · simp [ModelPage.lookAtRoute, route, Fetch.Tracker.begin, address]

/-- Whether there is an address does not depend on the name. -/
theorem requestUrl_error {built : Option String} {name : ModelName} {reason : String}
    (h : requestUrl built name = .error reason) (other : ModelName) :
    requestUrl built other = .error reason := by
  unfold requestUrl at h ⊢
  cases address : Backend.ofOption built with
  | ok backend => rw [address] at h; cases h
  | error fault => rw [address] at h; exact h

/-! ## Within a visit

The fetches of the visit are the tickets of a run, in order. Nothing is said of fetches that have
been answered: they may be answered again only in the tracker's own theory. -/

structure Tracks (built : Option String) (p : ModelPage) (asked : List Asked)
    (r : Run (List Setting)) : Prop where
  consistent : r.Consistent
  tracker : r.tracker = p.tracker
  length : r.tickets.length = asked.length
  /-- Every fetch has sent a request, or none has. -/
  aligned : p.requests.length = asked.length ∨
    ∀ name, ∃ reason, requestUrl built name = .error reason
  waiting : ∀ (k : Nat) (a : Asked), asked[k]? = some a → a.outcome? = none →
    a.place = k ∧ ∃ q : Request, p.requests[k]? = some q ∧ q.isAnswered = false ∧
      r.tickets[k]? = some q.ticket
  /-- If a name is active, the last fetch is for it and its outcome is shown. -/
  latest : p.tracker.active = none ∨ ∃ a : Asked, asked.getLast? = some a ∧
    p.tracker.active = some a.name ∧ current? r.history = some (asked.length - 1) ∧
    p.tracker.state = .ofResult a.outcome?

theorem tracks_mounted (built : Option String) (parameter : String) :
    Tracks built (.mounted parameter) [] .initial where
  consistent := Run.consistent_initial
  tracker := rfl
  length := rfl
  aligned := .inl rfl
  waiting := by intro k a h; cases h
  latest := .inl rfl

/-- Only the tracker and the requests of a page matter. -/
theorem Tracks.congr {built : Option String} {p p' : ModelPage} {asked : List Asked}
    {r : Run (List Setting)} (h : Tracks built p asked r) (tracker : p'.tracker = p.tracker)
    (requests : p'.requests = p.requests) : Tracks built p' asked r where
  consistent := h.consistent
  tracker := h.tracker.trans tracker.symm
  length := h.length
  aligned := requests ▸ h.aligned
  waiting := requests ▸ h.waiting
  latest := tracker ▸ h.latest

/-- What the last look at the route has left behind. -/
def Agrees (p : ModelPage) (name : String) : Prop :=
  match ModelName.ofString name with
  | .ok name => p.tracker.active = some name
  | .error failure => p.tracker.active = none ∧ p.tracker.state = .failed failure.message

section Look

variable {built : Option String} {p : ModelPage} {asked : List Asked} {r : Run (List Setting)}

theorem Tracks.reject (h : Tracks built p asked r) (reason : String) :
    Tracks built { p with tracker := p.tracker.reject reason } asked
      (r.after (.reject reason)) where
  consistent := h.consistent.after (.reject reason)
  tracker := by rw [Run.after, h.tracker]; rfl
  length := h.length
  aligned := h.aligned
  waiting := h.waiting
  latest := .inl rfl

/-- A request that is sent waits. -/
theorem Tracks.send (h : Tracks built p asked r) {name : ModelName} {url : String}
    (address : requestUrl built name = .ok url) (visit : Nat) :
    Tracks built
      { p with
        tracker := (p.tracker.begin name).2
        requests := p.requests ++ [⟨(p.tracker.begin name).1, url, false⟩] }
      (asked ++ [⟨visit, p.requests.length, name, .ok url, none⟩])
      (r.after (.begin name)) := by
  have aligned : p.requests.length = asked.length := by
    rcases h.aligned with eq | none
    · exact eq
    · obtain ⟨reason, error⟩ := none name
      rw [address] at error; cases error
  have tickets : (r.after (.begin name)).tickets = r.tickets ++ [(p.tracker.begin name).1] := by
    rw [← h.tracker]; rfl
  exact {
    consistent := h.consistent.after (.begin name)
    tracker := by rw [← h.tracker]; rfl
    length := by simp [tickets, h.length]
    aligned := .inl (by simp [aligned])
    waiting := by
      intro k a found waits
      rw [tickets]
      rcases getElem?_concat_eq_some found with ⟨found, old⟩ | ⟨rfl, rfl⟩
      · obtain ⟨place, q, sent, unanswered, ticket⟩ := h.waiting k a found waits
        refine ⟨place, q, ?_, unanswered, ?_⟩
        · rw [List.getElem?_append_left (by omega), sent]
        · rw [List.getElem?_append_left (by rw [h.length]; omega), ticket]
      · refine ⟨aligned, ⟨(p.tracker.begin name).1, url, false⟩, ?_, rfl, ?_⟩
        · rw [← aligned, List.getElem?_concat_length]
        · rw [← h.length, List.getElem?_concat_length]
    latest := by
      refine .inr ⟨_, List.getLast?_concat, rfl, ?_, rfl⟩
      rw [List.length_append, List.length_singleton, Nat.add_sub_cancel, ← h.length,
        h.consistent.length]
      rfl }

/-- A fetch without an address has failed at once. -/
theorem Tracks.fail (h : Tracks built p asked r) {name : ModelName} {reason : String}
    (address : requestUrl built name = .error reason) (visit : Nat) :
    Tracks built
      { p with
        tracker := ((p.tracker.begin name).2.complete (p.tracker.begin name).1
          (.error reason)).2 }
      (asked ++ [⟨visit, p.requests.length, name, .error reason, none⟩])
      ((r.after (.begin name)).after (.complete r.tickets.length (.error reason))) := by
  have begun : r.after (.begin name)
      = ⟨(p.tracker.begin name).2, r.tickets ++ [(p.tracker.begin name).1],
          .issued name :: r.history⟩ := by
    rw [← h.tracker]; rfl
  have last :
      (r.after (.begin name)).tickets[r.tickets.length]? = some (p.tracker.begin name).1 := by
    rw [begun, List.getElem?_concat_length]
  have completed := Run.after_complete last (.error reason)
  rw [begun] at completed
  have generation : (p.tracker.begin name).1.generation = (p.tracker.begin name).2.generation := rfl
  have present := Fetch.Tracker.complete_of_present generation (.error reason)
  have consistent := (h.consistent.after (.begin name)).after
    (.complete r.tickets.length (.error reason))
  rw [begun, completed] at consistent ⊢
  exact {
    consistent := consistent
    tracker := rfl
    length := by simp [Run.noteResult, h.length]
    aligned := .inr fun other => ⟨reason, requestUrl_error address other⟩
    waiting := by
      intro k a found waits
      rcases getElem?_concat_eq_some found with ⟨found, old⟩ | ⟨rfl, rfl⟩
      · obtain ⟨place, q, sent, unanswered, ticket⟩ := h.waiting k a found waits
        refine ⟨place, q, sent, unanswered, ?_⟩
        rw [Run.noteResult, List.getElem?_append_left (by rw [h.length]; omega), ticket]
      · cases waits
    latest := by
      refine .inr ⟨_, List.getLast?_concat, ?_, ?_, ?_⟩
      · rw [present]; rfl
      · rw [List.length_append, List.length_singleton, Nat.add_sub_cancel, ← h.length,
          h.consistent.length]
        rfl
      · rw [present]; rfl }

/-- A look at the route keeps the visit in order and leaves it agreeing with the route. -/
theorem Tracks.look (h : Tracks built p asked r) (visit : Nat) :
    Agrees (p.lookAtRoute built) p.routeName ∧
    ∃ r', Tracks built (p.lookAtRoute built) (asked ++ (Session.begun? built visit p).toList) r' ∧
      decisions r'.history ≤ decisions r.history + 1 := by
  cases looked built visit p with
  | rejected failure invalid none eq =>
      rw [none, eq, Agrees, invalid, Option.toList_none, List.append_nil]
      refine ⟨⟨rfl, rfl⟩, _, h.reject failure.message, ?_⟩
      simp [Run.after, Run.noteRejection]
  | unchanged name valid active none eq =>
      rw [none, eq, Agrees, valid, Option.toList_none, List.append_nil]
      exact ⟨active, r, h, Nat.le_succ _⟩
  | sent name url valid address some eq =>
      rw [some, eq, Agrees, valid]
      refine ⟨rfl, _, h.send address visit, ?_⟩
      simp [Run.after, Run.noteTicket]
  | unsent name reason valid address some eq =>
      rw [some, eq, Agrees, valid]
      refine ⟨?_, _, h.fail address visit, ?_⟩
      · rw [Fetch.Tracker.complete_active]; rfl
      · simp only [Run.after]
        split <;> simp [Run.noteResult, Run.noteTicket]

end Look

section Answer

variable {built : Option String} {p : ModelPage} {asked : List Asked} {r : Run (List Setting)}
  {k : Nat} {a : Asked}

/-- Where no name is active no ticket counts. -/
theorem Tracks.no_current (h : Tracks built p asked r) (few : decisions r.history < 2 ^ 64)
    (inactive : p.tracker.active = none) : current? r.history = none := by
  cases current : current? r.history with
  | none => rfl
  | some number =>
      obtain ⟨ticket, -, active⟩ := h.consistent.names number current
      rw [← h.consistent.active few, h.tracker, inactive] at active
      cases active

/-- A reply to a fetch of the visit that waits for one is taken by the page. -/
theorem Tracks.respond (h : Tracks built p asked r) (found : asked[k]? = some a)
    (waits : a.outcome? = none) (reply : Reply) :
    ∃ q : Request, p.requests[k]? = some q ∧ r.tickets[k]? = some q.ticket ∧
      p.respond? a.place reply = some { p with
        requests := p.requests.set k { q with isAnswered := true }
        tracker := (p.tracker.complete q.ticket (outcomeOf reply)).2 } := by
  obtain ⟨place, q, sent, unanswered, ticket⟩ := h.waiting k a found waits
  refine ⟨q, sent, ticket, ?_⟩
  rw [place, ModelPage.respond?, sent]
  simp [unanswered]

/-- The answer to a fetch that waited. -/
theorem Asked.outcome?_answered (waits : a.outcome? = none) (reply : Reply) :
    Asked.outcome? { a with reply := some reply } = some (outcomeOf reply) := by
  unfold outcome? at waits ⊢
  cases url : a.url with
  | ok address => rfl
  | error reason => rw [url] at waits; cases waits

theorem Tracks.answer (h : Tracks built p asked r) (few : decisions r.history < 2 ^ 64)
    (found : asked[k]? = some a) (waits : a.outcome? = none) (reply : Reply) {q : Request}
    (ticket : r.tickets[k]? = some q.ticket) :
    Tracks built
      { p with
        requests := p.requests.set k { q with isAnswered := true }
        tracker := (p.tracker.complete q.ticket (outcomeOf reply)).2 }
      (asked.set k { a with reply := some reply })
      (r.noteResult k (r.tracker.complete q.ticket (outcomeOf reply)).2 (outcomeOf reply)) where
  consistent := Run.consistent_complete h.consistent ticket _
  tracker := by rw [h.tracker]; rfl
  length := by rw [List.length_set]; exact h.length
  aligned := by rw [List.length_set, List.length_set]; exact h.aligned
  waiting := by
    intro k' a' found' waits'
    by_cases same : k = k'
    · subst same
      rw [List.getElem?_set_self (List.getElem?_eq_some_iff.mp found).1] at found'
      cases found'
      rw [Asked.outcome?_answered waits] at waits'
      cases waits'
    · rw [List.getElem?_set_ne same] at found'
      obtain ⟨place, q', sent', unanswered, ticket'⟩ := h.waiting k' a' found' waits'
      exact ⟨place, q', by rw [List.getElem?_set_ne same, sent'], unanswered, ticket'⟩
  latest := by
    rw [Fetch.Tracker.complete_active]
    rcases h.latest with inactive | ⟨b, last, active, current, state⟩
    · exact .inl inactive
    have present := h.consistent.isPresent_iff few ticket
    rw [h.tracker, current] at present
    have within : k < asked.length := (List.getElem?_eq_some_iff.mp found).1
    rw [List.getLast?_eq_getElem?] at last
    rw [List.getLast?_eq_getElem?, List.length_set]
    by_cases same : k = asked.length - 1
    · -- The last fetch is answered: its ticket is the present one.
      rw [← same, found] at last
      cases last
      refine .inr ⟨{ a with reply := some reply }, ?_, active, ?_, ?_⟩
      · rw [← same, List.getElem?_set_self within]
      · simpa [Run.noteResult, current?] using current
      · rw [Fetch.Tracker.complete_of_present (present.mpr (by rw [same])),
          Asked.outcome?_answered waits]
    · -- An earlier fetch is answered, too late.
      have stale : q.ticket.generation ≠ p.tracker.generation := by
        rw [Ne, present, Option.some.injEq]
        exact fun eq => same eq.symm
      refine .inr ⟨b, ?_, active, ?_, ?_⟩
      · rw [List.getElem?_set_ne same, last]
      · simpa [Run.noteResult, current?] using current
      · rw [Fetch.Tracker.complete_of_stale stale, state]

theorem Tracks.answer_agrees (h : Tracks built p asked r) (few : decisions r.history < 2 ^ 64)
    (reply : Reply) {q : Request} (ticket : r.tickets[k]? = some q.ticket) {name : String}
    (agrees : Agrees p name) :
    Agrees { p with
      requests := p.requests.set k { q with isAnswered := true }
      tracker := (p.tracker.complete q.ticket (outcomeOf reply)).2 } name := by
  unfold Agrees at agrees ⊢
  cases valid : ModelName.ofString name with
  | ok name =>
      rw [valid] at agrees
      exact (Fetch.Tracker.complete_active ..).trans agrees
  | error failure =>
      rw [valid] at agrees
      obtain ⟨active, state⟩ := agrees
      have present := h.consistent.isPresent_iff few ticket
      rw [h.tracker, h.no_current few active] at present
      have stale : q.ticket.generation ≠ p.tracker.generation := by
        rw [Ne, present]; exact nofun
      rw [Fetch.Tracker.complete_of_stale stale]
      exact ⟨active, state⟩

end Answer

/-! ## Across visits -/

namespace Session

def Event.isLook : Event → Bool
  | .look => true
  | _ => false

section Begun

variable {built : Option String} {visit : Nat} {p : ModelPage} {a : Asked}

/-- What a page begins belongs to its visit. -/
theorem visit_of_begun (h : a ∈ (begun? built visit p).toList) : a.visit = visit := by
  obtain ⟨ticket, -, rfl⟩ := Option.map_eq_some_iff.mp (Option.mem_toList.mp h)
  rfl

theorem url_of_begun (h : a ∈ (begun? built visit p).toList) :
    a.url = requestUrl built a.name := by
  obtain ⟨ticket, -, rfl⟩ := Option.map_eq_some_iff.mp (Option.mem_toList.mp h)
  rfl

end Begun

/-- An open page, its own fetches after those of earlier visits, and a run that it tracks. -/
structure Open (built : Option String) (looks visit : Nat) (asked : List Asked) (p : ModelPage)
    (looked : Option String) : Prop where
  split : ∃ earlier own r, asked = earlier ++ own ∧
    (∀ a ∈ earlier, a.visit < visit) ∧ (∀ a ∈ own, a.visit = visit) ∧
    Tracks built p own r ∧ decisions r.history ≤ looks
  agrees : ∀ name, looked = some name → Agrees p name

/-- What every session keeps, after so many looks at routes. -/
structure Kept (built : Option String) (looks : Nat) (s : Session) : Prop where
  visits : ∀ a ∈ s.asked, a.visit ≤ s.visit
  addressed : ∀ a ∈ s.asked, a.url = requestUrl built a.name
  page : ∀ p looked, s.screen = .model p looked → Open built looks s.visit s.asked p looked

variable {built : Option String} {looks visit : Nat} {asked : List Asked} {p : ModelPage}
  {looked : Option String} {s : Session}

theorem Open.mono (h : Open built looks visit asked p looked) {more : Nat} (le : looks ≤ more) :
    Open built more visit asked p looked := by
  obtain ⟨⟨earlier, own, r, eq, before, now, tracks, bound⟩, agrees⟩ := h
  exact ⟨⟨earlier, own, r, eq, before, now, tracks, Nat.le_trans bound le⟩, agrees⟩

/-- Only the tracker and the requests of the page matter. -/
theorem Open.congr (h : Open built looks visit asked p looked) {p' : ModelPage}
    (tracker : p'.tracker = p.tracker) (requests : p'.requests = p.requests) :
    Open built looks visit asked p' looked := by
  obtain ⟨⟨earlier, own, r, eq, before, now, tracks, bound⟩, agrees⟩ := h
  refine ⟨⟨earlier, own, r, eq, before, now, tracks.congr tracker requests, bound⟩, ?_⟩
  intro name eq
  unfold Agrees
  rw [tracker]
  exact agrees name eq

/-- All that was asked for is of earlier visits when a page is opened. -/
theorem open_mounted (before : ∀ a ∈ asked, a.visit < visit) (parameter : String) :
    Open built looks visit asked (.mounted parameter) none := by
  refine ⟨⟨asked, [], .initial, (List.append_nil _).symm, before, ?_,
    tracks_mounted built parameter, Nat.zero_le _⟩, ?_⟩
  · intro a h; cases h
  · intro name h; cases h

/-- After a look the page agrees with its route. -/
theorem Open.look (h : Open built looks visit asked p looked) :
    Open built (looks + 1) visit (asked ++ (begun? built visit p).toList) (p.lookAtRoute built)
      (some p.routeName) := by
  obtain ⟨⟨earlier, own, r, eq, before, now, tracks, bound⟩, -⟩ := h
  obtain ⟨agrees, r', tracks', bound'⟩ := tracks.look visit
  refine ⟨⟨earlier, own ++ (begun? built visit p).toList, r', ?_, before, ?_, tracks',
    by omega⟩, ?_⟩
  · rw [eq, List.append_assoc]
  · intro a ha
    rcases List.mem_append.mp ha with old | new
    · exact now a old
    · exact visit_of_begun new
  · rintro name ⟨⟩
    exact agrees

/-- An answer to a fetch of a visit that is over leaves the open page as it is. -/
theorem Open.forget (h : Open built looks visit asked p looked) {request : Nat} {a : Asked}
    (found : asked[request]? = some a) (ended : a.visit ≠ visit) (reply : Reply) :
    Open built looks visit (asked.set request { a with reply := some reply }) p looked := by
  obtain ⟨⟨earlier, own, r, rfl, before, now, tracks, bound⟩, agrees⟩ := h
  have early : request < earlier.length := by
    rcases Nat.lt_or_ge request earlier.length with early | late
    · exact early
    · rw [List.getElem?_append_right late] at found
      exact absurd (now a (List.mem_of_getElem? found)) ended
  rw [List.getElem?_append_left early] at found
  refine ⟨⟨earlier.set request { a with reply := some reply }, own, r,
    List.set_append_left _ _ early, ?_, now, tracks, bound⟩, agrees⟩
  intro b hb
  rcases List.mem_or_eq_of_mem_set hb with old | rfl
  · exact before b old
  · exact before a (List.mem_of_getElem? found)

/-- An answer to a fetch of this visit reaches the page. -/
theorem Open.answer (h : Open built looks visit asked p looked) (few : looks < 2 ^ 64)
    {request : Nat} {a : Asked} (found : asked[request]? = some a) (waits : a.outcome? = none)
    (present : a.visit = visit) (reply : Reply) :
    Open built looks visit (asked.set request { a with reply := some reply })
      ((p.respond? a.place reply).getD p) looked := by
  obtain ⟨⟨earlier, own, r, rfl, before, now, tracks, bound⟩, agrees⟩ := h
  have late : earlier.length ≤ request := by
    rcases Nat.lt_or_ge request earlier.length with early | late
    · rw [List.getElem?_append_left early] at found
      exact absurd present (Nat.ne_of_lt (before a (List.mem_of_getElem? found)))
    · exact late
  rw [List.getElem?_append_right late] at found
  obtain ⟨q, sent, ticket, taken⟩ := tracks.respond found waits reply
  have few : decisions r.history < 2 ^ 64 := Nat.lt_of_le_of_lt bound few
  rw [taken, Option.getD_some]
  refine ⟨⟨earlier, own.set (request - earlier.length) { a with reply := some reply }, _,
    List.set_append_right _ _ late, before, ?_, tracks.answer few found waits reply ticket,
    bound⟩, ?_⟩
  · intro b hb
    rcases List.mem_or_eq_of_mem_set hb with old | rfl
    · exact now b old
    · exact present
  · intro name eq
    exact tracks.answer_agrees few reply ticket (agrees name eq)

/-! ## One event -/

theorem deliver_of_waiting {request : Nat} {a : Asked} (found : s.asked[request]? = some a)
    (waits : a.outcome? = none) (reply : Reply) :
    s.deliver request reply
      = { s with asked := s.asked.set request { a with reply := some reply } }.updatePage a.visit
          fun page => (page.respond? a.place reply).getD page := by
  simp [deliver, found, waits]

theorem deliver_of_answered {request : Nat} {a : Asked} (found : s.asked[request]? = some a)
    {outcome : Except String (List Setting)} (done : a.outcome? = some outcome) (reply : Reply) :
    s.deliver request reply = s := by
  simp [deliver, found, done]

/-- A reply to a fetch of a visit that is over changes nothing on the screen. -/
theorem screen_deliver_of_visit_ne {request : Nat} {a : Asked}
    (found : s.asked[request]? = some a) (ended : a.visit ≠ s.visit) (reply : Reply) :
    (s.deliver request reply).screen = s.screen := by
  cases waits : a.outcome? with
  | some outcome => rw [deliver_of_answered found waits]
  | none =>
      rw [deliver_of_waiting found waits, updatePage]
      simp only [if_neg ended]

theorem kept_initial : Kept built 0 initial where
  visits := by intro a h; cases h
  addressed := by intro a h; cases h
  page := by intro p looked h; cases h

theorem Kept.mono (h : Kept built looks s) {more : Nat} (le : looks ≤ more) :
    Kept built more s where
  visits := h.visits
  addressed := h.addressed
  page := fun p looked screen => (h.page p looked screen).mono le

theorem Kept.navigate (h : Kept built looks s) (route : Route) :
    Kept built looks (s.navigate route) := by
  cases route with
  | home => exact ⟨h.visits, h.addressed, by intro p looked screen; cases screen⟩
  | nowhere => exact ⟨h.visits, h.addressed, by intro p looked screen; cases screen⟩
  | model parameter =>
      have opened : Kept built looks
          { s with screen := .model (.mounted parameter) none, visit := s.visit + 1 } := by
        refine ⟨fun a ha => Nat.le_succ_of_le (h.visits a ha), h.addressed, ?_⟩
        intro p looked screen
        obtain ⟨rfl, rfl⟩ := Screen.model.inj screen
        exact open_mounted (fun a ha => Nat.lt_succ_of_le (h.visits a ha)) parameter
      cases screen : s.screen with
      | home => simpa only [Session.navigate, screen] using opened
      | nowhere => simpa only [Session.navigate, screen] using opened
      | model page looked =>
          simp only [Session.navigate, screen]
          refine ⟨h.visits, h.addressed, ?_⟩
          intro p' looked' eq
          obtain ⟨rfl, rfl⟩ := Screen.model.inj eq
          exact (h.page page looked screen).congr rfl rfl

theorem Kept.look (h : Kept built looks s) : Kept built (looks + 1) (s.look built) := by
  cases screen : s.screen with
  | home => simpa only [Session.look, screen] using h.mono (Nat.le_succ _)
  | nowhere => simpa only [Session.look, screen] using h.mono (Nat.le_succ _)
  | model page looked =>
      simp only [Session.look, screen]
      refine ⟨?_, ?_, ?_⟩
      · intro a ha
        rcases List.mem_append.mp ha with old | new
        · exact h.visits a old
        · exact Nat.le_of_eq (visit_of_begun new)
      · intro a ha
        rcases List.mem_append.mp ha with old | new
        · exact h.addressed a old
        · exact url_of_begun new
      · intro p' looked' eq
        obtain ⟨rfl, rfl⟩ := Screen.model.inj eq
        exact (h.page page looked screen).look

theorem Kept.grid (h : Kept built looks s) (event : GridEvent) :
    Kept built looks (s.after built (.grid event)) := by
  simp only [Session.after, updatePage, if_true]
  refine ⟨h.visits, h.addressed, ?_⟩
  intro p looked eq
  obtain ⟨page, screen, rfl⟩ := Screen.mapPage_eq_model eq
  refine (h.page page looked screen).congr ?_ ?_ <;>
    simp only [ModelPage.after?] <;> cases event.after? page.grid page.rows <;> rfl

theorem Kept.deliver (h : Kept built looks s) (few : looks < 2 ^ 64) (request : Nat)
    (reply : Reply) : Kept built looks (s.deliver request reply) := by
  cases found : s.asked[request]? with
  | none => simpa [Session.deliver, found] using h
  | some a =>
      cases waits : a.outcome? with
      | some outcome => rw [deliver_of_answered found waits]; exact h
      | none =>
          have visits : ∀ b ∈ s.asked.set request { a with reply := some reply },
              b.visit ≤ s.visit := by
            intro b hb
            rcases List.mem_or_eq_of_mem_set hb with old | rfl
            · exact h.visits b old
            · exact h.visits a (List.mem_of_getElem? found)
          have addressed : ∀ b ∈ s.asked.set request { a with reply := some reply },
              b.url = requestUrl built b.name := by
            intro b hb
            rcases List.mem_or_eq_of_mem_set hb with old | rfl
            · exact h.addressed b old
            · exact h.addressed a (List.mem_of_getElem? found)
          rw [deliver_of_waiting found waits, updatePage]
          by_cases present : a.visit = s.visit
          · simp only [if_pos present]
            refine ⟨visits, addressed, ?_⟩
            intro p looked eq
            obtain ⟨page, screen, rfl⟩ := Screen.mapPage_eq_model eq
            exact (h.page page looked screen).answer few found waits present reply
          · simp only [if_neg present]
            refine ⟨visits, addressed, ?_⟩
            intro p looked screen
            exact (h.page p looked screen).forget found present reply

theorem Kept.after (h : Kept built looks s) (event : Event)
    (few : looks + event.isLook.toNat < 2 ^ 64) :
    Kept built (looks + event.isLook.toNat) (s.after built event) := by
  cases event with
  | navigate route => exact h.navigate route
  | look => exact h.look
  | grid event => exact h.grid event
  | deliver request reply => exact h.deliver few request reply

/-- How often pages have looked at their routes. -/
def lookCount (events : List Event) : Nat := events.countP Event.isLook

theorem lookCount_cons (event : Event) (events : List Event) :
    lookCount (event :: events) = event.isLook.toNat + lookCount events := by
  unfold lookCount
  rw [List.countP_cons]
  cases event.isLook <;> simp [Nat.add_comm]

theorem Kept.foldl (h : Kept built looks s) (events : List Event)
    (few : looks + lookCount events < 2 ^ 64) :
    Kept built (looks + lookCount events) (events.foldl (Session.after built) s) := by
  induction events generalizing looks s with
  | nil => exact h
  | cons event events ih =>
      rw [lookCount_cons, ← Nat.add_assoc] at few ⊢
      exact ih (h.after event (by omega)) few

theorem kept_ofEvents (built : Option String) (events : List Event)
    (few : lookCount events < 2 ^ 64) :
    Kept built (lookCount events) (ofEvents built events) := by
  have start : Kept built 0 initial := kept_initial
  have h := start.foldl events (by rwa [Nat.zero_add])
  rwa [Nat.zero_add] at h

/-! ## The theorem -/

/-- What a session shows on the page of a model follows the route of that page. A page has
*settled* if it has looked at the name that is in its route now. -/
structure FollowsRoute (built : Option String) (s : Session) : Prop where
  /-- The last fetch of a settled page is for its name. -/
  request : ∀ (p : ModelPage), s.screen = .model p (some p.routeName) →
    isModelName p.routeName = true →
      ∃ a, s.lastAsked? = some a ∧ a.name.text = p.routeName ∧ a.url = requestUrl built a.name
  /-- Rows were read from the answer to that fetch. -/
  rows : ∀ (p : ModelPage), s.screen = .model p (some p.routeName) → p.rows ≠ [] →
    ∃ a reply, s.lastAsked? = some a ∧ a.name.text = p.routeName ∧
      a.url = requestUrl built a.name ∧ a.reply = some reply ∧ reply.Brings p.rows
  loading : ∀ (p : ModelPage), s.screen = .model p (some p.routeName) →
    (p.ShowsLoading ↔ isModelName p.routeName = true ∧
      ∃ a, s.lastAsked? = some a ∧ a.Waits)
  error : ∀ (p : ModelPage), s.screen = .model p (some p.routeName) →
    (p.ShowsError ↔ isModelName p.routeName = false ∨
      ∃ a, s.lastAsked? = some a ∧ a.Fails)
  /-- Never two of the three, settled or not. -/
  exclusive : ∀ (p : ModelPage) (looked : Option String), s.screen = .model p looked →
    ¬(p.ShowsLoading ∧ p.ShowsError) ∧ ¬(p.ShowsLoading ∧ p.rows ≠ []) ∧
      ¬(p.ShowsError ∧ p.rows ≠ [])
  /-- A reply to a fetch of an earlier visit changes nothing that is shown, whatever is open. -/
  late : ∀ (request : Nat) (a : Asked) (reply : Reply), s.asked[request]? = some a →
    a.visit < s.visit → (s.deliver request reply).screen = s.screen

/-- The last fetch of the session that belongs to the visit is the last of the page's own. -/
theorem lastAsked?_eq {earlier own : List Asked} (eq : s.asked = earlier ++ own)
    (before : ∀ a ∈ earlier, a.visit < s.visit) (now : ∀ a ∈ own, a.visit = s.visit) :
    s.lastAsked? = own.getLast? := by
  have none : earlier.filter (fun a => a.visit = s.visit) = [] := by
    rw [List.filter_eq_nil_iff]
    intro a ha
    simpa using Nat.ne_of_lt (before a ha)
  have all : own.filter (fun a => a.visit = s.visit) = own := by
    rw [List.filter_eq_self]
    intro a ha
    simpa using now a ha
  rw [lastAsked?, eq, List.filter_append, none, all, List.nil_append]

/-- A settled page shows its last fetch, which is for its name. -/
theorem Kept.settled (h : Kept built looks s) {p : ModelPage}
    (screen : s.screen = .model p (some p.routeName)) (isName : isModelName p.routeName = true) :
    ∃ a, s.lastAsked? = some a ∧ a.name.text = p.routeName ∧ a.url = requestUrl built a.name ∧
      p.tracker.state = .ofResult a.outcome? := by
  obtain ⟨⟨earlier, own, r, eq, before, now, tracks, -⟩, agrees⟩ := h.page p _ screen
  have active : p.tracker.active = some ⟨p.routeName, isName⟩ := by
    have := agrees p.routeName rfl
    rwa [Agrees, ModelName.ofString_eq_ok isName] at this
  rcases tracks.latest with inactive | ⟨a, last, active', -, state⟩
  · rw [inactive] at active; cases active
  · have name : a.name = ⟨p.routeName, isName⟩ := Option.some.inj (active'.symm.trans active)
    refine ⟨a, (lastAsked?_eq eq before now).trans last, by rw [name], ?_, state⟩
    refine h.addressed a ?_
    rw [eq]
    exact List.mem_append_right _ (List.mem_of_getLast? last)

/-- A settled page whose name is none shows why. -/
theorem Kept.settled_of_not_name (h : Kept built looks s) {p : ModelPage}
    (screen : s.screen = .model p (some p.routeName)) (notName : isModelName p.routeName = false) :
    ∃ reason, p.tracker.state = .failed reason := by
  have := (h.page p _ screen).agrees p.routeName rfl
  rw [Agrees, ModelName.ofString_eq_error notName] at this
  exact ⟨_, this.2⟩

theorem Kept.followsRoute (h : Kept built looks s) : FollowsRoute built s where
  request := by
    intro p screen isName
    obtain ⟨a, last, name, url, -⟩ := h.settled screen isName
    exact ⟨a, last, name, url⟩
  rows := by
    intro p screen some
    have loaded := p.rows_ne_nil some
    cases isName : isModelName p.routeName with
    | false =>
        obtain ⟨reason, failed⟩ := h.settled_of_not_name screen isName
        cases failed.symm.trans loaded
    | true =>
        obtain ⟨a, last, name, url, state⟩ := h.settled screen isName
        obtain ⟨reply, replied, brings⟩ :=
          Asked.outcome?_eq_ok (Fetch.State.ofResult_eq_loaded.mp (state.symm.trans loaded))
        exact ⟨a, reply, last, name, url, replied, brings⟩
  loading := by
    intro p screen
    rw [p.showsLoading_iff]
    cases isName : isModelName p.routeName with
    | false =>
        obtain ⟨reason, failed⟩ := h.settled_of_not_name screen isName
        simp [failed]
    | true =>
        obtain ⟨a, last, -, -, state⟩ := h.settled screen isName
        rw [last, state, Fetch.State.ofResult_eq_loading, Asked.outcome?_eq_none_iff]
        simp
  error := by
    intro p screen
    rw [p.showsError_iff]
    cases isName : isModelName p.routeName with
    | false =>
        obtain ⟨reason, failed⟩ := h.settled_of_not_name screen isName
        exact ⟨fun _ => .inl rfl, fun _ => ⟨reason, failed⟩⟩
    | true =>
        obtain ⟨a, last, -, -, state⟩ := h.settled screen isName
        simp only [last, state, Fetch.State.ofResult_eq_failed,
          Asked.exists_outcome?_eq_error_iff]
        simp
  exclusive := by
    intro p looked _
    rw [p.showsLoading_iff, p.showsError_iff]
    refine ⟨?_, ?_, ?_⟩
    · rintro ⟨loading, reason, failed⟩
      cases loading.symm.trans failed
    · rintro ⟨loading, some⟩
      cases loading.symm.trans (p.rows_ne_nil some)
    · rintro ⟨⟨reason, failed⟩, some⟩
      cases failed.symm.trans (p.rows_ne_nil some)
  late := by
    intro request a reply found earlier
    exact screen_deliver_of_visit_ne found (Nat.ne_of_lt earlier) reply

/-- Whatever happens in a session, a page shows what its route asks for. -/
theorem followsRoute_ofEvents (built : Option String) (events : List Event)
    (few : lookCount events < 2 ^ 64) : FollowsRoute built (ofEvents built events) :=
  (kept_ofEvents built events few).followsRoute

/-- The reader has gone from one model home and on to another, and the reply for the first is late.
-/
theorem followsRoute_of_late_reply :
    lookCount [.navigate (.model "a"), .look, .navigate .home, .navigate (.model "b"), .look,
      .deliver 0 (.answered 200 (.ok "[]")), .deliver 1 (.unsent "gone")] < 2 ^ 64 ∧
    FollowsRoute (some "http://host") (ofEvents (some "http://host")
      [.navigate (.model "a"), .look, .navigate .home, .navigate (.model "b"), .look,
        .deliver 0 (.answered 200 (.ok "[]")), .deliver 1 (.unsent "gone")]) := by
  have few : lookCount [.navigate (.model "a"), .look, .navigate .home, .navigate (.model "b"),
      .look, .deliver 0 (.answered 200 (.ok "[]")), .deliver 1 (.unsent "gone")] < 2 ^ 64 := by
    decide +kernel
  exact ⟨few, followsRoute_ofEvents _ _ few⟩

end Session

end EvaluationBrowser.Site
