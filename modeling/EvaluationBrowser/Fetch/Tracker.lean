/-
# Fetching for a route

The page of a model asks for its settings whenever the name in its route changes, and answers may
come late or in another order. Every request is numbered. Its ticket bears the number of the
*generation* that it opened; giving a request up opens a generation too, without a ticket. An answer
counts only if its ticket bears the present generation, so the last request wins, whichever answer
comes last.
-/
import EvaluationBrowser.ModelName

namespace EvaluationBrowser.Fetch

inductive State (α : Type) where
  | idle
  | loading
  | loaded (value : α)
  | failed (reason : String)
  deriving DecidableEq

variable {α : Type}

def State.isLoading : State α → Bool
  | .loading => true
  | _ => false

def State.loaded? : State α → Option α
  | .loaded value => some value
  | _ => none

def State.failed? : State α → Option String
  | .failed reason => some reason
  | _ => none

structure Ticket where
  generation : UInt64
  name : ModelName
  deriving DecidableEq

structure Tracker (α : Type) where
  generation : UInt64
  /-- The name of the last request, if it was not given up. -/
  active : Option ModelName
  state : State α
  deriving DecidableEq

namespace Tracker

/-- Nothing asked for yet. -/
def initial : Tracker α := ⟨0, none, .idle⟩

/-- Asks for a name. What was asked for before is out of date. -/
def begin (t : Tracker α) (name : ModelName) : Ticket × Tracker α :=
  let generation := t.generation + 1
  (⟨generation, name⟩, ⟨generation, some name, .loading⟩)

/-- Asks for a name unless it is the one that is active. -/
def beginIfChanged (t : Tracker α) (name : ModelName) : Option Ticket × Tracker α :=
  if t.active = some name then (none, t)
  else
    let (ticket, t) := t.begin name
    (some ticket, t)

/-- Gives up without asking. What was asked for before is out of date. -/
def reject (t : Tracker α) (reason : String) : Tracker α :=
  ⟨t.generation + 1, none, .failed reason⟩

/-- Takes the answer to a request, and tells whether it counted. -/
def complete (t : Tracker α) (ticket : Ticket) (result : Except String α) : Bool × Tracker α :=
  if ticket.generation = t.generation then
    let state :=
      match result with
      | .ok value => .loaded value
      | .error reason => .failed reason
    (true, { t with state })
  else (false, t)

end Tracker

end EvaluationBrowser.Fetch
