/-
# Routes

A path leads to the home page, to the page of a model, or nowhere. Home is the root, or no path at
all. The name of a model is the one segment after `models`, which must not be empty and may be
followed by one slash; whether a slash stands in front of `models` does not matter. Escapes in the
name are decoded.
-/
import EvaluationBrowser.Site.Address
import EvaluationBrowser.Site.Escape

namespace EvaluationBrowser.Site

inductive Route where
  | home
  /-- The segment that names the model, decoded. -/
  | model (parameter : String)
  | nowhere
  deriving DecidableEq

/-- The route of a path, without the empty piece in front of its first slash. -/
def Route.ofPieces : Path → Route
  | [first, name] | [first, name, []] =>
    if first = ['m', 'o', 'd', 'e', 'l', 's'] ∧ name ≠ [] then .model (decoded (String.ofList name))
    else .nowhere
  | _ => .nowhere

def Route.ofPath : Path → Route
  | [[]] | [[], []] => .home
  | [] :: pieces => .ofPieces pieces
  | pieces => .ofPieces pieces

def Route.ofAddress (address : String) : Route := .ofPath (.ofAddress address)

/-- A link to the root counts as a link to where one is, if no segment stands after the first slash.
Segments after further slashes are not asked for. -/
def Path.isAtRoot : Path → Bool
  | [[]] => true
  | [] :: [] :: _ => true
  | _ => false

end EvaluationBrowser.Site
