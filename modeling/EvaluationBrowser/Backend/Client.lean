/-
# Asking the backend

The client knows a base address and asks one address under it for each thing it wants. What comes
back is a reply: nothing could be sent, or a status came with a body that could or could not be
read. A status outside 200 to 299 is a failure, and the body is then not read. Whether the backend
is up depends on the status alone.

An exchange is what was asked and what came of it; how a reply is got is left open.
-/
import EvaluationBrowser.Failure

namespace EvaluationBrowser

inductive Reply where
  | unsent (reason : String)
  | answered (status : Nat) (body : Except String String)

/-- The reply to a request, by its address. -/
abbrev Transport := String → Reply

/-- The addresses asked, in order, and the outcome. -/
structure Exchange (α : Type) where
  requests : List String
  outcome : Except Failure α

def isSuccess (status : Nat) : Bool := decide (200 ≤ status) && decide (status ≤ 299)

/-- The settings in a reply. -/
def Reply.settings : Reply → Except Failure (List Setting)
  | .unsent reason => .error (.http reason)
  | .answered status body =>
    if isSuccess status then
      match body with
      | .ok text => Setting.parseAll text
      | .error reason => .error (.http reason)
    else .error (.status status)

def Reply.health : Reply → Except Failure Unit
  | .unsent reason => .error (.http reason)
  | .answered status _ => if isSuccess status then .ok () else .error (.status status)

structure Client where
  base : String
  deriving DecidableEq

namespace Client

/-- The client of a base address, which may end in slashes. -/
def ofBase (base : String) : Client := ⟨Text.dropTrailingSlashes base⟩

def ofBackend (b : Backend) : Client := ofBase b.base

def settings (c : Client) (transport : Transport) (name : ModelName) : Exchange (List Setting) :=
  let url := Backend.settingsUrl c.base name
  ⟨[url], (transport url).settings⟩

def health (c : Client) (transport : Transport) : Exchange Unit :=
  let url := Backend.healthUrl c.base
  ⟨[url], (transport url).health⟩

end Client

end EvaluationBrowser
