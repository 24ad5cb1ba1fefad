/-
# Names from routes

A route's name is any text. One that is no model name gives up what is being fetched, with the
message of that failure as the reason; one that is asks for it unless it is active already.
-/
import EvaluationBrowser.Failure
import EvaluationBrowser.Fetch.Tracker

namespace EvaluationBrowser.Fetch.Tracker

variable {α : Type}

def onRouteName (t : Tracker α) (raw : String) : Option Ticket × Tracker α :=
  match ModelName.ofString raw with
  | .ok name => t.beginIfChanged name
  | .error failure => (none, t.reject failure.message)

end EvaluationBrowser.Fetch.Tracker
