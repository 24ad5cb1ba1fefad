/-
# The history of a tracker

A tracker is used by one call after another. A call may ask for a name, give up, or hand in the
result for a ticket; the tickets handed out so far are numbered from zero, and any of them may be
used at any time, more than once or never. What comes of a call is an event: a ticket was issued,
the view was rejected, a result was handed in. Asking for the name that is active already is no
event.

A `Run` is a tracker with the tickets it has handed out and the events so far. It is made by the
tracker's own functions; the events say what these functions answered.
-/
import EvaluationBrowser.Fetch.Route

namespace EvaluationBrowser.Fetch

inductive Call (α : Type) where
  | begin (name : ModelName)
  | beginIfChanged (name : ModelName)
  | onRouteName (raw : String)
  | reject (reason : String)
  /-- Hands in the result for the ticket with that number. -/
  | complete (ticket : Nat) (result : Except String α)

inductive Event (α : Type) where
  | issued (name : ModelName)
  | rejected (reason : String)
  | completed (ticket : Nat) (result : Except String α)

structure Run (α : Type) where
  tracker : Tracker α
  /-- In the order in which they were handed out. -/
  tickets : List Ticket
  /-- The latest event stands first. -/
  history : List (Event α)

variable {α : Type}

namespace Run

def initial : Run α := ⟨.initial, [], []⟩

/-- The run after a call that may have handed out a ticket. -/
def noteTicket (r : Run α) : Option Ticket × Tracker α → Run α
  | (some ticket, tracker) =>
    ⟨tracker, r.tickets ++ [ticket], .issued ticket.name :: r.history⟩
  | (none, tracker) => { r with tracker }

def noteRejection (r : Run α) (tracker : Tracker α) (reason : String) : Run α :=
  { r with tracker, history := .rejected reason :: r.history }

def noteResult (r : Run α) (number : Nat) (tracker : Tracker α) (result : Except String α) :
    Run α :=
  { r with tracker, history := .completed number result :: r.history }

def after (r : Run α) : Call α → Run α
  | .begin name =>
    let (ticket, tracker) := r.tracker.begin name
    r.noteTicket (some ticket, tracker)
  | .beginIfChanged name => r.noteTicket (r.tracker.beginIfChanged name)
  | .onRouteName raw =>
    match ModelName.ofString raw with
    | .ok _ => r.noteTicket (r.tracker.onRouteName raw)
    | .error failure => r.noteRejection (r.tracker.onRouteName raw).2 failure.message
  | .reject reason => r.noteRejection (r.tracker.reject reason) reason
  | .complete number result =>
    match r.tickets[number]? with
    | some ticket => r.noteResult number (r.tracker.complete ticket result).2 result
    | none => r

theorem after_complete {r : Run α} {number : Nat} {ticket : Ticket}
    (found : r.tickets[number]? = some ticket) (result : Except String α) :
    r.after (.complete number result)
      = r.noteResult number (r.tracker.complete ticket result).2 result := by
  simp [after, found]

def ofCalls (calls : List (Call α)) : Run α := calls.foldl after initial

end Run

/-! ## What a history says -/

/-- Issues and rejections decide what the tracker is about; results do not. -/
def Event.isDecision : Event α → Bool
  | .completed .. => false
  | _ => true

def Event.isIssue : Event α → Bool
  | .issued _ => true
  | _ => false

def decisions (history : List (Event α)) : Nat := history.countP Event.isDecision

/-- How many tickets were issued, which is also the number of the next one. -/
def issues (history : List (Event α)) : Nat := history.countP Event.isIssue

section Counting

variable (name : ModelName) (reason : String) (number : Nat) (result : Except String α)
  (earlier : List (Event α))

@[simp] theorem decisions_issued :
    decisions (.issued name :: earlier) = decisions earlier + 1 := by
  simp [decisions, List.countP_cons, Event.isDecision]

@[simp] theorem decisions_rejected :
    decisions (.rejected reason :: earlier) = decisions earlier + 1 := by
  simp [decisions, List.countP_cons, Event.isDecision]

@[simp] theorem decisions_completed :
    decisions (.completed number result :: earlier) = decisions earlier := by
  simp [decisions, Event.isDecision]

@[simp] theorem issues_issued : issues (.issued name :: earlier) = issues earlier + 1 := by
  simp [issues, List.countP_cons, Event.isIssue]

@[simp] theorem issues_rejected : issues (.rejected reason :: earlier) = issues earlier := by
  simp [issues, Event.isIssue]

@[simp] theorem issues_completed :
    issues (.completed number result :: earlier) = issues earlier := by
  simp [issues, Event.isIssue]

end Counting

/-- The result that an event hands in for a ticket. -/
def Event.resultFor? (ticket : Nat) : Event α → Option (Except String α)
  | .completed number result => if number = ticket then some result else none
  | _ => none

theorem Event.eq_completed {e : Event α} (h : e.isDecision = false) :
    ∃ number result, e = .completed number result := by
  cases e with
  | completed number result => exact ⟨number, result, rfl⟩
  | issued name => cases h
  | rejected reason => cases h

/-- What is shown of a request whose result is there or not. -/
def State.ofResult : Option (Except String α) → State α
  | none => .loading
  | some (.ok value) => .loaded value
  | some (.error reason) => .failed reason

section OfResult

variable {result : Option (Except String α)}

theorem State.ofResult_eq_loading : State.ofResult result = .loading ↔ result = none := by
  rcases result with _ | _ | _ <;> simp [ofResult]

theorem State.ofResult_eq_failed {reason : String} :
    State.ofResult result = .failed reason ↔ result = some (.error reason) := by
  rcases result with _ | _ | _ <;> simp [ofResult]

theorem State.ofResult_eq_loaded {value : α} :
    State.ofResult result = .loaded value ↔ result = some (.ok value) := by
  rcases result with _ | _ | _ <;> simp [ofResult]

end OfResult

/-! ## Results that count and results that do not -/

@[simp] theorem Tracker.complete_generation (t : Tracker α) (ticket : Ticket)
    (result : Except String α) : (t.complete ticket result).2.generation = t.generation := by
  unfold complete; split <;> rfl

@[simp] theorem Tracker.complete_active (t : Tracker α) (ticket : Ticket)
    (result : Except String α) : (t.complete ticket result).2.active = t.active := by
  unfold complete; split <;> rfl

theorem Tracker.complete_of_present {t : Tracker α} {ticket : Ticket}
    (h : ticket.generation = t.generation) (result : Except String α) :
    t.complete ticket result = (true, { t with state := .ofResult (some result) }) := by
  cases result <;> simp [complete, h, State.ofResult]

theorem Tracker.complete_of_stale {t : Tracker α} {ticket : Ticket}
    (h : ticket.generation ≠ t.generation) (result : Except String α) :
    t.complete ticket result = (false, t) := by
  simp [complete, h]

end EvaluationBrowser.Fetch
