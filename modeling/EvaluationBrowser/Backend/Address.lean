/-
# The address of the backend

The backend is known by one absolute web address. An address that a person gives is trimmed, must
not be empty and must begin with `http://` or `https://`; it is stored as it then stands. The
slashes it ends in are dropped wherever a path is put behind it. Where no address is given a fixed
one is used.

An address that comes from a JSON document is not checked.
-/
import EvaluationBrowser.ModelName
import EvaluationBrowser.Text.Blank
import EvaluationBrowser.Json.Reader
import EvaluationBrowser.Json.Value

namespace EvaluationBrowser

inductive AddressFault where
  | empty
  | noScheme (given : String)
  deriving DecidableEq

def AddressFault.message : AddressFault → String
  | .empty => "backend URL is empty"
  | .noScheme given => "backend URL must start with http:// or https://, got " ++ given

structure Backend where
  stored : String
  deriving DecidableEq

namespace Backend

/-- Used where no address is given. -/
def default : Backend := ⟨"http://localhost:8000"⟩

def httpScheme : List Char := ['h', 't', 't', 'p', ':', '/', '/']

def httpsScheme : List Char := ['h', 't', 't', 'p', 's', ':', '/', '/']

def ofString (given : String) : Except AddressFault Backend :=
  let cs := Text.trimChars given.toList
  if cs.isEmpty then .error .empty
  else if httpScheme.isPrefixOf cs || httpsScheme.isPrefixOf cs then .ok ⟨String.ofList cs⟩
  else .error (.noScheme (String.ofList cs))

/-- The backend of an address that may not be given at all. -/
def ofOption : Option String → Except AddressFault Backend
  | none => .ok default
  | some given => ofString given

/-- The address without the slashes at its end. -/
def base (b : Backend) : String := Text.dropTrailingSlashes b.stored

/-! ## Addresses built on a base -/

/-- Where the evaluation settings of a model are. -/
def settingsUrl (base : String) (name : ModelName) : String :=
  Text.dropTrailingSlashes base ++ "/models/" ++ name.text ++ "/evaluation-settings"

/-- Where the backend says that it is up. -/
def healthUrl (base : String) : String := Text.dropTrailingSlashes base ++ "/health"

/-! ## As JSON -/

/-- An object with the one member `base_url`, or a list of its value. -/
def format : Json.RecordFormat Unit (Option String) Backend where
  title := "struct BackendConfig"
  fields := [()]
  name := fun _ => "base_url"
  empty := none
  isGiven := fun draft _ => draft.isSome
  read := fun _ _ cs => (Json.Reader.text cs).map fun r => (some r.1, r.2)
  finish := fun draft =>
    match draft with
    | some stored => .ok ⟨stored⟩
    | none => .error ()

def decode (s : String) : Except Json.Error Backend := Json.Reader.document (.record format) s

def encode (b : Backend) : String :=
  (Json.Value.object [("base_url", .text b.stored)]).render .compact

end Backend

end EvaluationBrowser
