/-
# Requests follow routes

A page hands its tracker route names and results, nothing else. Whether a route name is answered
with a ticket depends on the generation and on the name that is active, and results touch neither:
they change what is shown. So the tickets are those of the route names alone, as if they came one
after another with nothing between them (`routeTickets`), and there a name is asked for iff it is a
model name and not the name of the route before.

Nothing here depends on how many generations there are: a wrapped generation would let a result
count that should not, but would neither add nor drop a ticket.
-/
import EvaluationBrowser.Fetch.History

namespace EvaluationBrowser.Fetch

variable {α : Type}

namespace Tracker

/-! ## What decides about tickets -/

/-- Trackers that differ in what they show at most. -/
structure Alike (t t' : Tracker α) : Prop where
  generation : t.generation = t'.generation
  active : t.active = t'.active

variable {t t' : Tracker α}

theorem Alike.refl (t : Tracker α) : t.Alike t := ⟨rfl, rfl⟩

theorem Alike.trans {t'' : Tracker α} (h : t.Alike t') (h' : t'.Alike t'') : t.Alike t'' :=
  ⟨h.generation.trans h'.generation, h.active.trans h'.active⟩

theorem complete_alike (t : Tracker α) (ticket : Ticket) (result : Except String α) :
    (t.complete ticket result).2.Alike t :=
  ⟨complete_generation t ticket result, complete_active t ticket result⟩

theorem Alike.begin (h : t.Alike t') (name : ModelName) :
    (t.begin name).1 = (t'.begin name).1 ∧ (t.begin name).2 = (t'.begin name).2 := by
  simp [Tracker.begin, h.generation]

/-- Trackers that are alike answer a route name alike and stay alike. -/
theorem Alike.onRouteName (h : t.Alike t') (raw : String) :
    (t.onRouteName raw).1 = (t'.onRouteName raw).1 ∧
      (t.onRouteName raw).2.Alike (t'.onRouteName raw).2 := by
  unfold Tracker.onRouteName
  cases ModelName.ofString raw with
  | error failure =>
      exact ⟨rfl, by simp [reject, h.generation], rfl⟩
  | ok name =>
      dsimp only
      unfold beginIfChanged
      rw [← h.active]
      obtain ⟨ticket, tracker⟩ := h.begin name
      by_cases same : t.active = some name
      · rw [if_pos same, if_pos same]
        exact ⟨rfl, h⟩
      · rw [if_neg same, if_neg same]
        dsimp only
        rw [ticket, tracker]
        exact ⟨rfl, .refl _⟩

/-- What a tracker answers to route names that come one after another. -/
def routeTickets (t : Tracker α) : List String → List (Option Ticket)
  | [] => []
  | raw :: names => (t.onRouteName raw).1 :: (t.onRouteName raw).2.routeTickets names

theorem Alike.routeTickets (h : t.Alike t') (names : List String) :
    t.routeTickets names = t'.routeTickets names := by
  induction names generalizing t t' with
  | nil => rfl
  | cons raw names ih =>
      obtain ⟨ticket, rest⟩ := h.onRouteName raw
      rw [Tracker.routeTickets, Tracker.routeTickets, ticket, ih rest]

/-! ## Route names one after another -/

/-- After a route name exactly that name is active, if it is a model name. It is asked for unless
it was the name of the route before. -/
theorem onRouteName_of_previous {previous : Option String}
    (active : t.active = previous.bind ModelName.ofString?) (raw : String) :
    ((t.onRouteName raw).1.map Ticket.name
        = if previous = some raw then none else ModelName.ofString? raw) ∧
      (t.onRouteName raw).2.active = ModelName.ofString? raw := by
  unfold Tracker.onRouteName ModelName.ofString
  cases valid : ModelName.ofString? raw with
  | none => simp [reject]
  | some name =>
      have unchanged : t.active = some name ↔ previous = some raw := by
        rw [active]
        constructor
        · intro h
          obtain ⟨before, rfl, same⟩ := Option.bind_eq_some_iff.mp h
          rw [ModelName.ofString?_eq_some_iff.mp same, ModelName.ofString?_eq_some_iff.mp valid]
        · rintro rfl
          exact valid
      dsimp only
      unfold beginIfChanged
      by_cases same : previous = some raw
      · rw [if_pos (unchanged.mpr same), if_pos same]
        exact ⟨rfl, unchanged.mpr same⟩
      · rw [if_neg (mt unchanged.mp same), if_neg same]
        exact ⟨rfl, rfl⟩

theorem length_routeTickets (t : Tracker α) (names : List String) :
    (t.routeTickets names).length = names.length := by
  induction names generalizing t with
  | nil => rfl
  | cons raw names ih => rw [routeTickets, List.length_cons, List.length_cons, ih]

/-- The answer to one of many route names, by the name of the route before. -/
theorem routeTickets_getElem? {previous : Option String}
    (active : t.active = previous.bind ModelName.ofString?) {names : List String} {i : Nat}
    {raw : String} (found : names[i]? = some raw) :
    ∃ answer, (t.routeTickets names)[i]? = some answer ∧
      answer.map Ticket.name
        = if (previous :: names.map some)[i]? = some (some raw) then none
          else ModelName.ofString? raw := by
  induction names generalizing t previous i with
  | nil => cases found
  | cons head names ih =>
      obtain ⟨answer, next⟩ := onRouteName_of_previous active head
      cases i with
      | zero =>
          cases found
          refine ⟨(t.onRouteName raw).1, rfl, ?_⟩
          rw [answer, List.getElem?_cons_zero]
          simp only [Option.some.injEq]
      | succ i =>
          rw [List.getElem?_cons_succ] at found
          have active : (t.onRouteName head).2.active = (some head).bind ModelName.ofString? := next
          exact ih active found

end Tracker

/-! ## What a page hands to its tracker -/

/-- A route name or a result. -/
def Call.isOfPage : Call α → Bool
  | .onRouteName _ => true
  | .complete .. => true
  | _ => false

def Call.routeName? : Call α → Option String
  | .onRouteName raw => some raw
  | _ => none

def routeNames (calls : List (Call α)) : List String := calls.filterMap Call.routeName?

namespace Run

/-- What the tracker answers to the route names among the calls, in order: a ticket, or none. -/
def answers (r : Run α) : List (Call α) → List (Option Ticket)
  | [] => []
  | .onRouteName raw :: calls =>
    (r.tracker.onRouteName raw).1 :: (r.after (.onRouteName raw)).answers calls
  | call :: calls => (r.after call).answers calls

theorem tracker_noteTicket (r : Run α) (answer : Option Ticket × Tracker α) :
    (r.noteTicket answer).tracker = answer.2 := by
  obtain ⟨_ | ticket, tracker⟩ := answer <;> rfl

theorem tracker_onRouteName (r : Run α) (raw : String) :
    (r.after (.onRouteName raw)).tracker = (r.tracker.onRouteName raw).2 := by
  simp only [after]
  cases ModelName.ofString raw with
  | ok name => exact tracker_noteTicket r _
  | error failure => rfl

/-- A result leaves the tracker as it is, but for what it shows. -/
theorem complete_alike (r : Run α) (number : Nat) (result : Except String α) :
    (r.after (.complete number result)).tracker.Alike r.tracker := by
  cases found : r.tickets[number]? with
  | none => simpa [after, found] using Tracker.Alike.refl r.tracker
  | some ticket =>
      rw [after_complete found]
      exact r.tracker.complete_alike ticket result

/-- Results between the route names make no difference to the answers. -/
theorem answers_eq {calls : List (Call α)} (only : ∀ call ∈ calls, call.isOfPage = true)
    (r : Run α) : r.answers calls = r.tracker.routeTickets (routeNames calls) := by
  induction calls generalizing r with
  | nil => rfl
  | cons call calls ih =>
      have rest := ih fun c hc => only c (List.mem_cons_of_mem _ hc)
      have ofPage := only call List.mem_cons_self
      cases call with
      | onRouteName raw =>
          change _ :: _ = (r.tracker.onRouteName raw).1 :: Tracker.routeTickets _ (routeNames calls)
          rw [rest, tracker_onRouteName]
      | complete number result =>
          change (r.after _).answers calls = r.tracker.routeTickets (routeNames calls)
          rw [rest, (r.complete_alike number result).routeTickets]
      | begin name => cases ofPage
      | beginIfChanged name => cases ofPage
      | reject reason => cases ofPage

end Run

/-! ## Which names are asked for -/

/-- Of route names and the answers to them: a name is asked for iff it is a model name and the
route before had another name, and its ticket is for that name. -/
structure AsksByRoute (names : List String) (answers : List (Option Ticket)) : Prop where
  length : answers.length = names.length
  issued : ∀ (i : Nat) (raw : String), names[i]? = some raw →
    ((∃ ticket, answers[i]? = some (some ticket)) ↔
      isModelName raw = true ∧ ∀ j, i = j + 1 → names[j]? ≠ some raw)
  named : ∀ (i : Nat) (raw : String) (ticket : Ticket), names[i]? = some raw →
    answers[i]? = some (some ticket) → ticket.name.text = raw

theorem ofString?_isSome_iff {raw : String} :
    (∃ name, ModelName.ofString? raw = some name) ↔ isModelName raw = true := by
  constructor
  · rintro ⟨name, valid⟩
    rw [ModelName.ofString?_eq_some_iff.mp valid]
    exact name.isName
  · intro valid
    exact ⟨⟨raw, valid⟩, dif_pos valid⟩

theorem asksByRoute_routeTickets (names : List String) :
    AsksByRoute names ((Tracker.initial : Tracker α).routeTickets names) := by
  have answer : ∀ {i : Nat} {raw : String}, names[i]? = some raw →
      ∃ answer, ((Tracker.initial : Tracker α).routeTickets names)[i]? = some answer ∧
        answer.map Ticket.name
          = if (none :: names.map some)[i]? = some (some raw) then none
            else ModelName.ofString? raw :=
    fun found => Tracker.routeTickets_getElem? rfl found
  have before : ∀ {i : Nat} {raw : String}, (none :: names.map some)[i]? = some (some raw) ↔
      ∃ j, i = j + 1 ∧ names[j]? = some raw := by
    intro i raw
    cases i with
    | zero => simp
    | succ j => simp
  refine { length := Tracker.length_routeTickets _ names, issued := ?_, named := ?_ }
  · intro i raw found
    obtain ⟨answer, eq, name⟩ := answer found
    have isSome : (∃ ticket, answer = some ticket) ↔ ∃ n, answer.map Ticket.name = some n := by
      cases answer <;> simp
    rw [eq]
    simp only [Option.some.injEq]
    rw [isSome, name, ← ofString?_isSome_iff]
    by_cases same : (none :: names.map some)[i]? = some (some raw)
    · obtain ⟨j, rfl, previous⟩ := before.mp same
      rw [if_pos same]
      constructor
      · rintro ⟨n, h⟩
        cases h
      · rintro ⟨-, other⟩
        exact absurd previous (other j rfl)
    · rw [if_neg same]
      exact ⟨fun h => ⟨h, fun j eq previous => same (before.mpr ⟨j, eq, previous⟩)⟩, And.left⟩
  · intro i raw ticket found issued
    obtain ⟨answer, eq, name⟩ := answer found
    rw [issued] at eq
    cases eq
    split at name
    · cases name
    · exact (ModelName.ofString?_eq_some_iff.mp name.symm).symm

end EvaluationBrowser.Fetch
