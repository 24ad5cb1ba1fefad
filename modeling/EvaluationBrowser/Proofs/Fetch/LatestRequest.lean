/-
# The latest request decides

Any number of requests can be in flight, and their results come late, twice or never. What the
tracker shows is nevertheless a function of its history: the latest issue or rejection says what it
is about, and of the results only those for that very ticket count.

The proof does not follow single tickets. Every decision, an issue or a rejection, opens a
generation, so the present generation is the number of decisions so far
(`Run.Consistent.generation`), and the generation of a ticket is the number of decisions up to its
own issue. That number is the present one iff the ticket is `current?`, which the history alone
tells. Generations have 64 bits, so two numbers of decisions can be told apart as long as there are
fewer than 2⁶⁴ of them.
-/
import EvaluationBrowser.Fetch.History

namespace EvaluationBrowser.Fetch

variable {α : Type}

/-! ## What the tracker should be, from the history alone -/

/-- The ticket of the latest decision, if that was an issue. -/
def current? : List (Event α) → Option Nat
  | [] => none
  | .issued _ :: earlier => some (issues earlier)
  | .rejected _ :: _ => none
  | .completed .. :: earlier => current? earlier

def activeName : List (Event α) → Option ModelName
  | [] => none
  | .issued name :: _ => some name
  | .rejected _ :: _ => none
  | .completed .. :: earlier => activeName earlier

def shownState : List (Event α) → State α
  | [] => .idle
  | .issued _ :: _ => .loading
  | .rejected reason :: _ => .failed reason
  | .completed number result :: earlier =>
    if current? earlier = some number then .ofResult (some result) else shownState earlier

section Later

/-! Results that came after a decision do not change what it decided, except that the latest result
for the current ticket is shown. -/

variable {later earlier : List (Event α)}

theorem current?_of_no_decision (h : ∀ e ∈ later, e.isDecision = false) :
    current? (later ++ earlier) = current? earlier := by
  induction later with
  | nil => rfl
  | cons e later ih =>
      obtain ⟨number, result, rfl⟩ := Event.eq_completed (h e List.mem_cons_self)
      exact ih fun e he => h e (List.mem_cons_of_mem _ he)

theorem activeName_of_no_decision (h : ∀ e ∈ later, e.isDecision = false) :
    activeName (later ++ earlier) = activeName earlier := by
  induction later with
  | nil => rfl
  | cons e later ih =>
      obtain ⟨number, result, rfl⟩ := Event.eq_completed (h e List.mem_cons_self)
      exact ih fun e he => h e (List.mem_cons_of_mem _ he)

/-- Without a current ticket no result counts. -/
theorem shownState_of_no_current (h : ∀ e ∈ later, e.isDecision = false)
    (none : current? earlier = none) : shownState (later ++ earlier) = shownState earlier := by
  induction later with
  | nil => rfl
  | cons e later ih =>
      have rest : ∀ e ∈ later, e.isDecision = false := fun e he => h e (List.mem_cons_of_mem _ he)
      obtain ⟨number, result, rfl⟩ := Event.eq_completed (h e List.mem_cons_self)
      rw [List.cons_append, shownState, current?_of_no_decision rest, none]
      exact ih rest

/-- After an issue the latest result for its ticket is shown. -/
theorem shownState_of_issued {name : ModelName} (h : ∀ e ∈ later, e.isDecision = false) :
    shownState (later ++ .issued name :: earlier)
      = .ofResult (later.findSome? (·.resultFor? (issues earlier))) := by
  induction later with
  | nil => rfl
  | cons e later ih =>
      have rest : ∀ e ∈ later, e.isDecision = false := fun e he => h e (List.mem_cons_of_mem _ he)
      obtain ⟨number, result, rfl⟩ := Event.eq_completed (h e List.mem_cons_self)
      rw [List.cons_append, shownState, current?_of_no_decision rest, List.findSome?_cons]
      by_cases same : number = issues earlier
      · simp [same, current?, Event.resultFor?]
      · have other : current? (.issued name :: earlier) ≠ some number :=
          fun eq => same (Option.some.inj eq).symm
        simp only [if_neg other, Event.resultFor?, if_neg same]
        exact ih rest

end Later

/-- The current ticket was issued by the latest decision. -/
theorem current?_eq_some_iff {history : List (Event α)} {number : Nat} :
    current? history = some number ↔
      ∃ later name earlier, history = later ++ .issued name :: earlier ∧
        (∀ e ∈ later, e.isDecision = false) ∧ number = issues earlier := by
  constructor
  · intro h
    induction history with
    | nil => cases h
    | cons e history ih =>
        cases e with
        | issued name => exact ⟨[], name, history, rfl, by simp, (Option.some.inj h).symm⟩
        | rejected reason => cases h
        | completed other result =>
            obtain ⟨later, name, earlier, rfl, none, eq⟩ := ih h
            refine ⟨.completed other result :: later, name, earlier, rfl, ?_, eq⟩
            intro e he
            rcases List.mem_cons.mp he with rfl | he
            · rfl
            · exact none e he
  · rintro ⟨later, name, earlier, rfl, none, rfl⟩
    rw [current?_of_no_decision none]
    rfl

/-! ## The tracker agrees with its history -/

/-- What stands in a list after one more element stood there before or is that element. -/
theorem getElem?_concat_eq_some {β : Type} {xs : List β} {x y : β} {k : Nat}
    (h : (xs ++ [x])[k]? = some y) : xs[k]? = some y ∧ k < xs.length ∨ k = xs.length ∧ x = y := by
  rcases Nat.lt_trichotomy k xs.length with old | rfl | beyond
  · rw [List.getElem?_append_left old] at h
    exact .inl ⟨h, old⟩
  · rw [List.getElem?_concat_length] at h
    exact .inr ⟨rfl, Option.some.inj h⟩
  · rw [List.getElem?_eq_none (by simp; omega)] at h
    cases h

namespace Run

/-- What every run keeps. The generation of a ticket counts the decisions up to its issue. The
names and states are only promised while generations do not wrap. -/
structure Consistent (r : Run α) : Prop where
  generation : r.tracker.generation = UInt64.ofNat (decisions r.history)
  length : r.tickets.length = issues r.history
  stamped : ∀ (number : Nat) (ticket : Ticket), r.tickets[number]? = some ticket →
    ∃ stamp ≤ decisions r.history, ticket.generation = UInt64.ofNat stamp ∧
      (stamp = decisions r.history ↔ current? r.history = some number)
  names : ∀ number, current? r.history = some number →
    ∃ ticket, r.tickets[number]? = some ticket ∧ activeName r.history = some ticket.name
  active : decisions r.history < 2 ^ 64 → r.tracker.active = activeName r.history
  state : decisions r.history < 2 ^ 64 → r.tracker.state = shownState r.history

theorem consistent_initial : (initial : Run α).Consistent where
  generation := rfl
  length := rfl
  stamped := by intro number ticket h; cases h
  names := by intro number h; cases h
  active := fun _ => rfl
  state := fun _ => rfl

theorem consistent_begin {r : Run α} (h : r.Consistent) (name : ModelName) :
    (r.noteTicket (some (r.tracker.begin name).1, (r.tracker.begin name).2)).Consistent where
  generation := by
    simp [noteTicket, Tracker.begin, h.generation]
  length := by
    simp [noteTicket, Tracker.begin, h.length]
  stamped := by
    intro number ticket found
    simp only [noteTicket, Tracker.begin, decisions_issued] at found ⊢
    rcases getElem?_concat_eq_some found with ⟨found, old⟩ | ⟨rfl, rfl⟩
    · obtain ⟨stamp, le, eq, -⟩ := h.stamped number ticket found
      refine ⟨stamp, by omega, eq, ?_⟩
      simp only [current?, Option.some.injEq, ← h.length]
      omega
    · exact ⟨_, Nat.le_refl _, by simp [h.generation], by simp [current?, h.length]⟩
  names := by
    intro number current
    cases current
    refine ⟨(r.tracker.begin name).1, ?_, rfl⟩
    rw [noteTicket, ← h.length, List.getElem?_concat_length]
  active := fun _ => rfl
  state := fun _ => rfl

theorem consistent_beginIfChanged {r : Run α} (h : r.Consistent) (name : ModelName) :
    (r.noteTicket (r.tracker.beginIfChanged name)).Consistent := by
  unfold Tracker.beginIfChanged
  split
  · exact h
  · exact consistent_begin h name

theorem consistent_reject {r : Run α} (h : r.Consistent) (reason : String) :
    (r.noteRejection (r.tracker.reject reason) reason).Consistent where
  generation := by
    simp [noteRejection, Tracker.reject, h.generation]
  length := by
    simp [noteRejection, h.length]
  stamped := by
    intro number ticket found
    obtain ⟨stamp, le, eq, -⟩ := h.stamped number ticket found
    simp only [noteRejection, decisions_rejected, current?, reduceCtorEq, iff_false]
    exact ⟨stamp, by omega, eq, by omega⟩
  names := by intro number current; cases current
  active := fun _ => rfl
  state := fun _ => rfl

/-- As long as generations do not wrap, a ticket bears the present one iff it is current. -/
theorem Consistent.isPresent_iff {r : Run α} (h : r.Consistent)
    (few : decisions r.history < 2 ^ 64) {number : Nat} {ticket : Ticket}
    (found : r.tickets[number]? = some ticket) :
    ticket.generation = r.tracker.generation ↔ current? r.history = some number := by
  obtain ⟨stamp, le, eq, present⟩ := h.stamped number ticket found
  rw [← present, eq, h.generation]
  constructor
  · intro same
    have := congrArg UInt64.toNat same
    simp only [UInt64.toNat_ofNat'] at this
    omega
  · rintro rfl; rfl

theorem consistent_complete {r : Run α} (h : r.Consistent) {number : Nat} {ticket : Ticket}
    (found : r.tickets[number]? = some ticket) (result : Except String α) :
    (r.noteResult number (r.tracker.complete ticket result).2 result).Consistent where
  generation := by simpa [noteResult] using h.generation
  length := by simpa [noteResult] using h.length
  stamped := by simpa [noteResult, current?] using h.stamped
  names := by simpa [noteResult, current?, activeName] using h.names
  active := by simpa [noteResult, activeName] using h.active
  state := by
    intro few
    simp only [noteResult, decisions_completed] at few ⊢
    have present := h.isPresent_iff few found
    by_cases same : ticket.generation = r.tracker.generation
    · rw [Tracker.complete_of_present same, shownState, if_pos (present.mp same)]
    · rw [Tracker.complete_of_stale same, shownState, if_neg (mt present.mpr same)]
      exact h.state few

theorem Consistent.after {r : Run α} (h : r.Consistent) (call : Call α) :
    (r.after call).Consistent := by
  cases call with
  | begin name => exact consistent_begin h name
  | beginIfChanged name => exact consistent_beginIfChanged h name
  | onRouteName raw =>
      simp only [Run.after, Tracker.onRouteName]
      cases ModelName.ofString raw with
      | ok name => exact consistent_beginIfChanged h name
      | error failure => exact consistent_reject h failure.message
  | reject reason => exact consistent_reject h reason
  | complete number result =>
      cases found : r.tickets[number]? with
      | none => simpa [Run.after, found] using h
      | some ticket => rw [after_complete found]; exact consistent_complete h found result

theorem consistent_ofCalls (calls : List (Call α)) : (ofCalls calls).Consistent := by
  have steps : ∀ (r : Run α), r.Consistent → (calls.foldl Run.after r).Consistent := by
    induction calls with
    | nil => intro r h; exact h
    | cons call calls ih => intro r h; exact ih _ (h.after call)
  exact steps initial consistent_initial

/-! ## The theorem

What is said of a tracker in terms of its history. `later` are the events after the latest
decision; none of them decides anything. -/

/-- The latest decision was the issue of the ticket with that number. -/
def IsLatest (r : Run α) (number : Nat) : Prop :=
  ∃ later name earlier, r.history = later ++ .issued name :: earlier ∧
    (∀ e ∈ later, e.isDecision = false) ∧ number = issues earlier

structure FollowsLatest (r : Run α) : Prop where
  /-- Nothing was ever decided. -/
  fresh : (∀ e ∈ r.history, e.isDecision = false) →
    r.tracker.state = .idle ∧ r.tracker.active = none
  rejected : ∀ later reason earlier, r.history = later ++ .rejected reason :: earlier →
    (∀ e ∈ later, e.isDecision = false) →
      r.tracker.state = .failed reason ∧ r.tracker.active = none
  /-- The last result for the ticket, if there is one since its issue, is what is shown. -/
  issued : ∀ later name earlier, r.history = later ++ .issued name :: earlier →
    (∀ e ∈ later, e.isDecision = false) →
      (∃ ticket, r.tickets[issues earlier]? = some ticket ∧ ticket.name = name) ∧
      r.tracker.active = some name ∧
      r.tracker.state = .ofResult (later.findSome? (·.resultFor? (issues earlier)))
  /-- A result counts iff it is for the latest decision. -/
  counts : ∀ number ticket result, r.tickets[number]? = some ticket →
    ((r.tracker.complete ticket result).1 = true ↔ r.IsLatest number)
  /-- A result that does not count changes nothing. -/
  dropped : ∀ ticket result, (r.tracker.complete ticket result).1 = false →
    (r.tracker.complete ticket result).2 = r.tracker

theorem followsLatest_ofCalls (calls : List (Call α))
    (few : decisions (ofCalls calls).history < 2 ^ 64) : (ofCalls calls).FollowsLatest := by
  have h := consistent_ofCalls calls
  refine { fresh := ?_, rejected := ?_, issued := ?_, counts := ?_, dropped := ?_ }
  · intro none
    rw [h.state few, h.active few, ← List.append_nil (ofCalls calls).history]
    exact ⟨shownState_of_no_current none rfl, activeName_of_no_decision none⟩
  · intro later reason earlier split none
    rw [h.state few, h.active few, split]
    exact ⟨shownState_of_no_current none rfl, activeName_of_no_decision none⟩
  · intro later name earlier split none
    have current : current? (ofCalls calls).history = some (issues earlier) := by
      rw [split]; exact current?_of_no_decision none
    have active : activeName (ofCalls calls).history = some name := by
      rw [split]; exact activeName_of_no_decision none
    obtain ⟨ticket, found, eq⟩ := h.names _ current
    refine ⟨⟨ticket, found, Option.some.inj (eq.symm.trans active)⟩, ?_, ?_⟩
    · rw [h.active few, active]
    · rw [h.state few, split]; exact shownState_of_issued none
  · intro number ticket result found
    refine Iff.trans ?_ ((h.isPresent_iff few found).trans current?_eq_some_iff)
    by_cases same : ticket.generation = (ofCalls calls).tracker.generation
    · simp [Tracker.complete_of_present same, same]
    · simp [Tracker.complete_of_stale same, same]
  · intro ticket result no
    by_cases same : ticket.generation = (ofCalls calls).tracker.generation
    · rw [Tracker.complete_of_present same] at no; cases no
    · rw [Tracker.complete_of_stale same]

/-- Two requests overlap; the result for the first is late and comes twice. -/
theorem followsLatest_of_overlap :
    decisions (ofCalls [.onRouteName "a", .onRouteName "b", .complete 0 (.ok 1),
      .complete 1 (.error "gone"), .complete 0 (.ok 2)] : Run Nat).history < 2 ^ 64 ∧
    (ofCalls [.onRouteName "a", .onRouteName "b", .complete 0 (.ok 1),
      .complete 1 (.error "gone"), .complete 0 (.ok 2)] : Run Nat).FollowsLatest := by
  have few : decisions (ofCalls [.onRouteName "a", .onRouteName "b", .complete 0 (.ok 1),
      .complete 1 (.error "gone"), .complete 0 (.ok 2)] : Run Nat).history < 2 ^ 64 := by
    decide +kernel
  exact ⟨few, followsLatest_ofCalls _ few⟩

end Run

end EvaluationBrowser.Fetch
