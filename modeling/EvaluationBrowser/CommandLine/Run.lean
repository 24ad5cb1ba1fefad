/-
# Running a command

Everything is checked before anything is asked: the backend's address, the model's name, the column
to sort by, the filter, and the columns to hide from left to right. Then one request is made, and
its answer is shown or the failure is told. What is shown goes to standard output in one piece, at
the end, so a run that fails has printed nothing there.
-/
import EvaluationBrowser.Backend.Client
import EvaluationBrowser.CommandLine.Invocation
import EvaluationBrowser.Report.Csv
import EvaluationBrowser.Report.Table

namespace EvaluationBrowser.CommandLine

/-- Why a run fails that was asked for properly. -/
inductive RunFault where
  | unknownColumn (field : String)
  | notAFilter (given : String)
  | failed (failure : Failure)
  | notFetched (name : ModelName) (failure : Failure)
  deriving DecidableEq

/-! ## Wording

A fault is told with the causes behind it. One cause stands alone; several are numbered. The lines
of a cause are aligned. -/

def RunFault.message : RunFault → String
  | .unknownColumn field => "Unknown column: " ++ field
  | .notAFilter given => "Filter must be FIELD=TEXT, got " ++ given
  | .failed failure => failure.message
  | .notFetched name _ => "Failed to fetch evaluation settings for " ++ name.text

def RunFault.causes : RunFault → List String
  | .notFetched _ failure => failure.chain
  | _ => []

/-- The text with so many spaces after each line feed. -/
def indented (spaces : Nat) (s : String) : String :=
  String.ofList (s.toList.flatMap fun c =>
    if c = '\n' then '\n' :: List.replicate spaces ' ' else [c])

def causeLines : List String → List String
  | [] => []
  | [cause] => ["    " ++ indented 4 cause]
  | causes => causes.zipIdx.map fun c => "    " ++ toString c.2 ++ ": " ++ indented 7 c.1

def RunFault.report (f : RunFault) : String :=
  "Error: " ++ f.message ++ "\n" ++
    (if f.causes.isEmpty then ""
    else "\nCaused by:\n" ++ String.join ((causeLines f.causes).map (· ++ "\n")))

/-! ## The grid that a query asks for -/

def columnOf (field : String) : Except RunFault Column :=
  match Column.ofField? field with
  | some c => .ok c
  | none => .error (.unknownColumn field)

def withSort (s : Grid.State) (isDescending : Bool) : Option String → Except RunFault Grid.State
  | none => .ok s
  | some field => do
    let c ← columnOf field
    (s.setSort c (if isDescending then .descending else .ascending)).mapError .failed

/-- The filter is given as a field name, an equals sign and a text. -/
def withFilter (s : Grid.State) : Option String → Except RunFault Grid.State
  | none => .ok s
  | some given =>
    match splitAtEquals given.toList with
    | (_, none) => .error (.notAFilter given)
    | (field, some text) => do
      let c ← columnOf (String.ofList field)
      (s.setFilter c (String.ofList text)).mapError .failed

/-- Naming a hidden column again does not show it again. -/
def withHidden (s : Grid.State) : List String → Except RunFault Grid.State
  | [] => .ok s
  | field :: fields => do
    let c ← columnOf field
    let s ← if s.isHidden c then .ok s else (s.toggleHidden c).mapError .failed
    withHidden s fields

def gridState (sort : Option String) (isDescending : Bool) (filter : Option String)
    (hidden : List String) : Except RunFault Grid.State := do
  let s ← withSort .initial isDescending sort
  let s ← withFilter s filter
  withHidden s hidden

/-- The page of that number, counted from one; the first for zero, the last for any beyond. -/
def pageOf (s : Grid.State) (number : Nat) (settings : List Setting) : Grid.Page :=
  (s.setPage (number - 1) (s.view settings).pageCount).view settings

def shown (query : Query) (name : ModelName) (s : Grid.State) (settings : List Setting) : String :=
  let page := pageOf s query.page settings
  match query.output with
  | .json => Report.json page settings ++ "\n"
  | .csv => Report.csv page
  | .table => "\nEvaluation settings for " ++ name.text ++ ":\n" ++ Report.table page ++ "\n"

/-! ## Runs -/

/-- What a run leaves behind. -/
structure Outcome where
  exitCode : Nat
  output : String
  errors : String
  requests : List String
  deriving DecidableEq

def Outcome.success (output : String) (requests : List String) : Outcome :=
  ⟨0, output, "", requests⟩

def Outcome.failure (fault : RunFault) (requests : List String) : Outcome :=
  ⟨1, "", fault.report, requests⟩

/-- An address on the command line wins over one in the environment. -/
def backendOf (given environment : Option String) : Except AddressFault Backend :=
  match given with
  | some url => Backend.ofString url
  | none => Backend.ofOption environment

/-- All that a query needs before a request is made. -/
def Query.prepare (query : Query) : Except RunFault (ModelName × Grid.State) := do
  let name ← (ModelName.ofString query.model).mapError .failed
  let s ← gridState query.sort query.isDescending query.filter query.hidden
  .ok (name, s)

def runSettings (client : Client) (transport : Transport) (query : Query) : Outcome :=
  match query.prepare with
  | .error fault => .failure fault []
  | .ok (name, s) =>
    let exchange := client.settings transport name
    match exchange.outcome with
    | .error failure => .failure (.notFetched name failure) exchange.requests
    | .ok settings => .success (shown query name s settings) exchange.requests

def statusReport (client : Client) (health : Except Failure Unit) : String :=
  "System Status:\n" ++ String.ofList (List.replicate 40 '-') ++ "\n  Backend URL: " ++
    client.base ++ "\n  Backend: " ++
    (match health with
    | .ok () => "connected"
    | .error failure => "disconnected (" ++ failure.message ++ ")") ++ "\n"

/-- A backend that is down is reported, and is no failure of the run. -/
def runStatus (client : Client) (transport : Transport) : Outcome :=
  let exchange := client.health transport
  .success (statusReport client exchange.outcome) exchange.requests

def Invocation.run (i : Invocation) (environment : Option String) (transport : Transport) :
    Outcome :=
  match backendOf i.backendUrl environment with
  | .error fault => .failure (.failed (.address fault)) []
  | .ok backend =>
    let client := Client.ofBackend backend
    match i.command with
    | .settings query => runSettings client transport query
    | .status => runStatus client transport

/-- The whole program, given its arguments, the backend's address in the environment, and the
replies to its requests. -/
def run (arguments : List String) (environment : Option String) (transport : Transport) :
    Outcome :=
  match Invocation.ofArguments arguments with
  | .error (.help topic) => ⟨0, topic.text, "", []⟩
  | .error (.misuse fault) => ⟨2, "", fault.message, []⟩
  | .ok invocation => invocation.run environment transport

end EvaluationBrowser.CommandLine
