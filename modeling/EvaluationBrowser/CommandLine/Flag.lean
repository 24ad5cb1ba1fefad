/-
# Commands and flags

There are two commands, one that shows the settings of a model and one that asks whether the
backend is up. Each place of a command line, before the command and after it, has flags of its own.
A flag has a long spelling; some have a letter as well. Most take a value.
-/

namespace EvaluationBrowser.CommandLine

/-- The places of a command line: before a command, and after each. -/
inductive Scope where
  | top
  | settings
  | status
  deriving DecidableEq

inductive Flag where
  | backendUrl
  | page
  | sort
  | descending
  | filter
  | hide
  | output
  | help
  deriving DecidableEq

def Flag.long : Flag → String
  | .backendUrl => "backend-url"
  | .page => "page"
  | .sort => "sort"
  | .descending => "desc"
  | .filter => "filter"
  | .hide => "hide"
  | .output => "output"
  | .help => "help"

def Flag.letter? : Flag → Option Char
  | .page => some 'p'
  | .sort => some 's'
  | .filter => some 'f'
  | .output => some 'o'
  | .help => some 'h'
  | .backendUrl | .descending | .hide => none

/-- The name of a flag's value, for those that take one. -/
def Flag.valueName? : Flag → Option String
  | .backendUrl => some "BACKEND_URL"
  | .page => some "PAGE"
  | .sort => some "SORT"
  | .filter => some "FILTER"
  | .hide => some "FIELD"
  | .output => some "OUTPUT"
  | .descending | .help => none

/-- A flag as messages name it. -/
def Flag.display (f : Flag) : String :=
  "--" ++ f.long ++ f.valueName?.elim "" fun value => " <" ++ value ++ ">"

def Scope.flags : Scope → List Flag
  | .settings => [.backendUrl, .page, .sort, .descending, .filter, .hide, .output, .help]
  | .top | .status => [.backendUrl, .help]

def Scope.long? (scope : Scope) (name : String) : Option Flag :=
  scope.flags.find? (·.long == name)

def Scope.letter? (scope : Scope) (c : Char) : Option Flag :=
  scope.flags.find? (·.letter? == some c)

inductive OutputFormat where
  | table
  | json
  | csv
  deriving DecidableEq

def OutputFormat.ofString? : String → Option OutputFormat
  | "table" => some .table
  | "json" => some .json
  | "csv" => some .csv
  | _ => none

end EvaluationBrowser.CommandLine
