/-
# Requests from the browser

The browser asks for the settings of a model by itself. The backend's address, if there is one, was
fixed when the site was built. Failures are kept as the text that is shown: what the browser says
about sending or reading as it says it, all other failures by their messages.
-/
import EvaluationBrowser.Backend.Client

namespace EvaluationBrowser.Site

/-- The address to ask, or why there is none. -/
def requestUrl (built : Option String) (name : ModelName) : Except String String :=
  match Backend.ofOption built with
  | .ok backend => .ok (Backend.settingsUrl backend.base name)
  | .error fault => .error (Failure.address fault).message

/-- What a reply comes to. A bad status comes before a body that cannot be read. -/
def outcomeOf : Reply → Except String (List Setting)
  | .unsent reason => .error reason
  | .answered status body =>
    if isSuccess status then
      match body with
      | .error reason => .error reason
      | .ok text => (Setting.parseAll text).mapError Failure.message
    else .error (Failure.status status).message

/-- The addresses asked, and the outcome, where the reply is there at once. -/
def fetchSettings (built : Option String) (transport : Transport) (name : ModelName) :
    List String × Except String (List Setting) :=
  match requestUrl built name with
  | .error reason => ([], .error reason)
  | .ok url => ([url], outcomeOf (transport url))

end EvaluationBrowser.Site
