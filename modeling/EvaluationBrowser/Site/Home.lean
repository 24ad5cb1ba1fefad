/-
# The home page

A text box and a button. Pressing the button trims the text that was typed: a model name leads to
the model's page and takes an error line away, anything else shows an error line. Typing leaves the
error line alone.
-/
import EvaluationBrowser.Failure
import EvaluationBrowser.Site.Html

namespace EvaluationBrowser.Site

/-- The path of a model's page. -/
def modelPath (name : String) : String := "/models/" ++ name

structure Home where
  typed : String
  error : Option String
  /-- The paths that were navigated to, in order. -/
  navigated : List String
  deriving DecidableEq

namespace Home

def initial : Home := ⟨"", none, []⟩

def type (h : Home) (text : String) : Home := { h with typed := text }

def press (h : Home) : Home :=
  match ModelName.ofString (Text.trim h.typed) with
  | .ok name => { h with error := none, navigated := h.navigated ++ [modelPath name.text] }
  | .error failure => { h with error := some failure.message }

open Html

def html (h : Home) : Html :=
  ofClass "div" "page home-page"
    ([plain "h2" [.text "Welcome to Velour"],
      plain "p" [.text "Browse the evaluation settings recorded for a model."],
      ofClass "div" "config-panel"
        [ofClass "div" "form-group"
          [plain "label" [.text "Model"],
            .void "input"
              [.value "type" "text", .value "placeholder" "resnet50",
                .value "prop:value" h.typed]],
          ofClass "button" "run-btn" [.text "View Evaluation Settings"]]] ++
      h.error.elim [] fun reason => [errorPanel reason])

end Home

end EvaluationBrowser.Site
