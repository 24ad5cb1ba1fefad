/-
# What a command line asks for

Arguments are taken from the left. One that begins with two hyphens is a flag by its long spelling,
with a value after `=` or in the next argument. One that begins with a single hyphen is a flag by
its letter, with a value right after the letter, after `=`, or in the next argument. Two hyphens
alone end the flags; a single hyphen alone is no flag. Anything else is a command, or the model.

A flag whose value is still to come is *open*, and takes the next argument unless that is a flag.
Values are checked one argument late: when the next flag or the model comes, or at the end. So a
misuse that is found in an argument wins over a value before it that is still unchecked.
-/
import EvaluationBrowser.Power
import EvaluationBrowser.CommandLine.Misuse
import EvaluationBrowser.Text.Digit

namespace EvaluationBrowser.CommandLine

/-- What the settings command is asked to show. -/
structure Query where
  model : String
  page : Nat
  sort : Option String
  isDescending : Bool
  filter : Option String
  hidden : List String
  output : OutputFormat
  deriving DecidableEq

inductive Command where
  | settings (query : Query)
  | status
  deriving DecidableEq

structure Invocation where
  backendUrl : Option String
  command : Command
  deriving DecidableEq

/-- Why a command line is not carried out. -/
inductive Stop where
  | help (topic : Topic)
  | misuse (fault : Misuse)
  deriving DecidableEq

/-! ## Values -/

/-- Digits from the left, up to the first that is none or makes the number too large. -/
def pageDigits (n : Nat) : List Char → Except PageFault Nat
  | [] => .ok n
  | c :: cs =>
    if c.isDigit then
      let n := n * 10 + Text.digitValue c
      if n < 2 ^ 64 then pageDigits n cs else .error .tooLarge
    else .error .notDigit

/-- A page number below 2⁶⁴, with or without a plus sign. -/
def pageNumber (s : String) : Except PageFault Nat :=
  match s.toList with
  | [] => .error .empty
  | '+' :: c :: cs => pageDigits 0 (c :: cs)
  | cs => pageDigits 0 cs

/-- What was given so far in one place of the command line. -/
structure Given where
  backendUrl : Option String
  model : Option String
  page : Option Nat
  sort : Option String
  isDescending : Bool
  filter : Option String
  hidden : List String
  output : Option OutputFormat
  deriving DecidableEq

def Given.nothing : Given := ⟨none, none, none, none, false, none, [], none⟩

/-- A value that may be given once. -/
def once {α : Type} (flag : Flag) : Option α → Except Misuse Unit
  | none => .ok ()
  | some _ => .error (.repeated flag)

/-- Takes the value of a flag. Whether it may be given again is asked before whether it is right. -/
def Given.accept (g : Given) (flag : Flag) (value : String) : Except Misuse Given :=
  match flag with
  | .backendUrl => (once flag g.backendUrl).map fun _ => { g with backendUrl := some value }
  | .sort => (once flag g.sort).map fun _ => { g with sort := some value }
  | .filter => (once flag g.filter).map fun _ => { g with filter := some value }
  | .hide => .ok { g with hidden := g.hidden ++ [value] }
  | .page => do
    once flag g.page
    match pageNumber value with
    | .ok n => .ok { g with page := some n }
    | .error fault => .error (.invalidPage value fault)
  | .output => do
    once flag g.output
    match OutputFormat.ofString? value with
    | some format => .ok { g with output := some format }
    | none => .error (.invalidOutput value)
  | .descending | .help => .error (.unwantedValue flag value)

/-! ## Arguments -/

/-- The flag whose value is still to come or still to be checked. -/
inductive Pending where
  | none
  | opened (flag : Flag)
  | filled (flag : Flag) (value : String)
  deriving DecidableEq

structure Progress where
  given : Given
  pending : Pending
  deriving DecidableEq

def Progress.start : Progress := ⟨.nothing, .none⟩

/-- Checks the value that is pending. -/
def Progress.settle (p : Progress) : Except Misuse Given :=
  match p.pending with
  | .none => .ok p.given
  | .opened flag => .error (.missingValue flag)
  | .filled flag value => p.given.accept flag value

/-- A flag, with the value attached to it. -/
def Progress.flag (p : Progress) (scope : Scope) (flag : Flag) (attached : Option String) :
    Except Stop Progress :=
  match flag, attached with
  | .help, .none => do
    let _ ← p.settle.mapError .misuse
    .error (.help (.ofScope scope))
  | .descending, .none => do
    let g ← p.settle.mapError .misuse
    if g.isDescending then .error (.misuse (.repeated flag))
    else .ok ⟨{ g with isDescending := true }, .none⟩
  | .help, some value | .descending, some value => .error (.misuse (.unwantedValue flag value))
  | flag, some value => do
    let g ← p.settle.mapError .misuse
    let g ← (g.accept flag value).mapError .misuse
    .ok ⟨g, .none⟩
  | flag, .none => do
    let g ← p.settle.mapError .misuse
    .ok ⟨g, .opened flag⟩

/-- What stands before the first equals sign, and what stands after it. -/
def splitAtEquals (cs : List Char) : List Char × Option (List Char) :=
  match cs.dropWhile (· != '=') with
  | [] => (cs, none)
  | _ :: rest => (cs.takeWhile (· != '='), some rest)

/-- An argument that begins with two hyphens, without them. -/
def Progress.long (p : Progress) (scope : Scope) (cs : List Char) : Except Stop Progress :=
  let (name, value) := splitAtEquals cs
  match scope.long? (String.ofList name) with
  | some flag => p.flag scope flag (value.map String.ofList)
  | none => .error (.misuse (.unexpectedArgument (String.ofList ('-' :: '-' :: name))))

/-- An argument that begins with one hyphen: its letter, and what stands after that. The only
letter without a value asks for help, and nothing after it counts. -/
def Progress.short (p : Progress) (scope : Scope) (c : Char) (cs : List Char) :
    Except Stop Progress :=
  match scope.letter? c with
  | none => .error (.misuse (.unexpectedArgument (String.ofList ['-', c])))
  | some .help => p.flag scope .help none
  | some flag =>
    match cs with
    | [] => p.flag scope flag none
    | '=' :: value => p.flag scope flag (some (String.ofList value))
    | value => p.flag scope flag (some (String.ofList value))

/-- What an argument is by its looks. -/
inductive Shape where
  | endOfFlags
  | long (cs : List Char)
  | short (c : Char) (cs : List Char)
  | word

def shape (argument : String) : Shape :=
  match argument.toList with
  | ['-', '-'] => .endOfFlags
  | '-' :: '-' :: cs => .long cs
  | '-' :: c :: cs => .short c cs
  | _ => .word

/-- An argument that no flag takes: the model, where there is a place for one. -/
def Progress.word (p : Progress) (scope : Scope) (argument : String) : Except Stop Progress :=
  if scope = .settings ∧ p.given.model = none then do
    let g ← p.settle.mapError .misuse
    .ok ⟨{ g with model := some argument }, .none⟩
  else .error (.misuse (.unexpectedArgument argument))

/-- The arguments after a command. -/
def Progress.readAll (scope : Scope) : Bool → Progress → List String → Except Stop Given
  | _, p, [] => p.settle.mapError .misuse
  | flagsEnded, p, argument :: arguments =>
    if flagsEnded then do
      let p ← p.word scope argument
      readAll scope true p arguments
    else
      match shape argument with
      | .endOfFlags => readAll scope true p arguments
      | .long cs => do
        let p ← p.long scope cs
        readAll scope false p arguments
      | .short c cs => do
        let p ← p.short scope c cs
        readAll scope false p arguments
      | .word =>
        match p.pending with
        | .opened flag => readAll scope false { p with pending := .filled flag argument } arguments
        | _ => do
          let p ← p.word scope argument
          readAll scope false p arguments

/-! ## Commands -/

/-- The query of what was given after the settings command. A direction needs a column. -/
def Given.query (g : Given) : Except Misuse Query :=
  match g.model with
  | none => .error .missingArgument
  | some model =>
    if g.isDescending && g.sort.isNone then .error .missingArgument
    else
      .ok ⟨model, g.page.getD 1, g.sort, g.isDescending, g.filter, g.hidden,
        g.output.getD .table⟩

/-- The words after `help` lead from one topic to the next, and only the first topic has others
below it. -/
def helpOn : Topic → List String → Stop
  | topic, [] => .help topic
  | .top, word :: words =>
    match Topic.ofWord? word with
    | some topic => helpOn topic words
    | none => .misuse (.unknownCommand word)
  | _, word :: _ => .misuse (.unknownCommand word)

/-- A command and the arguments after it. An address given after the command wins over one given
before it. -/
def readCommand (p : Progress) (word : String) (arguments : List String) :
    Except Stop Invocation := do
  match Topic.ofWord? word with
  | some .settings =>
    let after ← Progress.readAll .settings false .start arguments
    let query ← after.query.mapError .misuse
    let before ← p.settle.mapError .misuse
    .ok ⟨after.backendUrl.or before.backendUrl, .settings query⟩
  | some .status =>
    let after ← Progress.readAll .status false .start arguments
    let before ← p.settle.mapError .misuse
    .ok ⟨after.backendUrl.or before.backendUrl, .status⟩
  | some .help => .error (helpOn .top arguments)
  | _ => .error (.misuse (.unknownCommand word))

/-- The arguments from before the command on. -/
def readTop : Bool → Progress → List String → Except Stop Invocation
  | _, p, [] => do
    let g ← p.settle.mapError .misuse
    .error (.misuse (if g.backendUrl.isNone then .nothingGiven else .noCommand))
  | flagsEnded, p, argument :: arguments =>
    if flagsEnded then
      .error (.misuse (if (Topic.ofWord? argument).isSome then .unexpectedArgument argument
        else .unknownCommand argument))
    else
      match shape argument with
      | .endOfFlags => readTop true p arguments
      | .long cs => do
        let p ← p.long .top cs
        readTop false p arguments
      | .short c cs => do
        let p ← p.short .top c cs
        readTop false p arguments
      | .word =>
        match p.pending with
        | .opened flag => readTop false { p with pending := .filled flag argument } arguments
        | _ => readCommand p argument arguments

/-- What the arguments ask for. -/
def Invocation.ofArguments (arguments : List String) : Except Stop Invocation :=
  readTop false .start arguments

end EvaluationBrowser.CommandLine
