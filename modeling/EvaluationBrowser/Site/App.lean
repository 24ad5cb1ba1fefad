/-
# The site

Every page has the same header, whose title leads home, and under it what the route asks for.
-/
import EvaluationBrowser.Site.ModelPage
import EvaluationBrowser.Site.Route

namespace EvaluationBrowser.Site

open Html

/-- What stands under the header when a page has just been opened, before it looked at its route. -/
def Route.content : Route → Html
  | .home => Home.initial.html
  | .model parameter => (ModelPage.mounted parameter).html
  | .nowhere => plain "p" [.text "Page not found"]

/-- The header, above the page of a path. -/
def header (path : Path) : Html :=
  let current := if path.isAtRoot then [Attribute.value "aria-current" "page"] else []
  ofClass "header" "header"
    [.element "a" (.value "href" "/" :: current) [plain "h1" [.text "Velour"]],
      ofClass "span" "subtitle" [.text "Model Evaluation"]]

/-- The site at an address. -/
def appHtml (address : String) : Html :=
  let path := Path.ofAddress address
  ofClass "div" "app" [header path, ofClass "main" "content" [(Route.ofPath path).content]]

end EvaluationBrowser.Site
