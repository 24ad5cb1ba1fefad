/-
# What can fail

The causes of failure of everything that the browser does, and their wording.
-/
import EvaluationBrowser.Backend.Address
import EvaluationBrowser.Grid.Column
import EvaluationBrowser.Setting.Format
import EvaluationBrowser.Setting.Validity

namespace EvaluationBrowser

inductive Failure where
  | http (reason : String)
  | status (code : Nat)
  | json (error : Json.Error)
  | invalidSetting (id : UInt64) (violation : Setting.Violation)
  | invalidModelName (given : String)
  | notSortable (column : Column)
  | notFilterable (column : Column)
  | notHideable (column : Column)
  | address (fault : AddressFault)
  deriving DecidableEq

namespace Failure

def message : Failure → String
  | .http reason => "HTTP error: " ++ reason
  | .status code => "Backend returned status " ++ toString code
  | .json error => "JSON error: " ++ error.message
  | .invalidSetting id violation =>
    "Invalid evaluation setting " ++ toString id.toNat ++ ": " ++ violation.reason
  | .invalidModelName given => "Invalid model name: " ++ Text.quoted given
  | .notSortable column => "Column is not sortable: " ++ column.field
  | .notFilterable column => "Column is not filterable: " ++ column.field
  | .notHideable column => "Column cannot be hidden: " ++ column.field
  | .address fault => "Config error: " ++ fault.message

/-- The message and those of the causes behind it: a JSON error has one of its own. -/
def chain (f : Failure) : List String :=
  match f with
  | .json error => [f.message, error.message]
  | f => [f.message]

end Failure

/-! ## Checks whose failure is one of these -/

def ModelName.ofString (s : String) : Except Failure ModelName :=
  match ofString? s with
  | some name => .ok name
  | none => .error (.invalidModelName s)

def Setting.validate (s : Setting) : Except Failure Unit :=
  match s.violation? with
  | none => .ok ()
  | some violation => .error (.invalidSetting s.id violation)

/-- The settings in a response body. The whole body is decoded first; then the settings are
checked one after another, and the first that is not valid fails the body. -/
def Setting.parseAll (body : String) : Except Failure (List Setting) :=
  match decodeAll body with
  | .error error => .error (.json error)
  | .ok settings => (settings.forM validate).map fun _ => settings

end EvaluationBrowser
