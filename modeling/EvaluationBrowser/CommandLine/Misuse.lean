/-
# Misuse and help

What can be wrong with a command line, the one line said about it, and the help texts.

Words of the command line are repeated in that line without their control sequences and control
characters. A line feed stays, and then the one line ends at the first.
-/
import EvaluationBrowser.CommandLine.Flag
import EvaluationBrowser.Text.ControlSequence
import EvaluationBrowser.Text.Ends

namespace EvaluationBrowser.CommandLine

inductive PageFault where
  | empty
  | notDigit
  | tooLarge
  deriving DecidableEq

def PageFault.reason : PageFault → String
  | .empty => "cannot parse integer from empty string"
  | .notDigit => "invalid digit found in string"
  | .tooLarge => "number too large to fit in target type"

inductive Misuse where
  | nothingGiven
  | noCommand
  | unknownCommand (word : String)
  | unexpectedArgument (argument : String)
  | missingArgument
  | missingValue (flag : Flag)
  | unwantedValue (flag : Flag) (value : String)
  | repeated (flag : Flag)
  | invalidPage (value : String) (fault : PageFault)
  | invalidOutput (value : String)
  deriving DecidableEq

def about : String := "Velour - browse model evaluation settings"

/-- A word of the command line between quotation marks. -/
def repeatedWord (word : String) : String := "'" ++ Text.plain word ++ "'"

/-- What is said. To a command line with nothing in it the program says what it is. An output format
that is empty counts as missing. -/
def Misuse.sentence : Misuse → String
  | .nothingGiven => about
  | .noCommand => "error: 'velour' requires a subcommand but one was not provided"
  | .unknownCommand word => "error: unrecognized subcommand " ++ repeatedWord word
  | .unexpectedArgument argument =>
    "error: unexpected argument " ++ repeatedWord argument ++ " found"
  | .missingArgument => "error: the following required arguments were not provided:"
  | .missingValue flag =>
    "error: a value is required for '" ++ flag.display ++ "' but none was supplied"
  | .unwantedValue flag value =>
    "error: unexpected value " ++ repeatedWord value ++ " for '" ++ flag.display ++
      "' found; no more were expected"
  | .repeated flag => "error: the argument '" ++ flag.display ++ "' cannot be used multiple times"
  | .invalidPage value fault =>
    "error: invalid value " ++ repeatedWord value ++ " for '" ++ Flag.page.display ++ "': " ++
      fault.reason
  | .invalidOutput value =>
    if value = "" then
      "error: a value is required for '" ++ Flag.output.display ++ "' but none was supplied"
    else "error: invalid value " ++ repeatedWord value ++ " for '" ++ Flag.output.display ++ "'"

/-- The one line that is said. -/
def Misuse.message (m : Misuse) : String := String.ofList (Text.firstLine m.sentence.toList)

/-! ## Help -/

inductive Topic where
  | top
  | settings
  | status
  | help
  deriving DecidableEq

def Topic.ofWord? : String → Option Topic
  | "settings" => some .settings
  | "status" => some .status
  | "help" => some .help
  | _ => none

def Topic.ofScope : Scope → Topic
  | .top => .top
  | .settings => .settings
  | .status => .status

def Topic.lines : Topic → List String
  | .top =>
    [about,
      "",
      "Usage: velour [OPTIONS] <COMMAND>",
      "",
      "Commands:",
      "  settings  Show the evaluation settings of a model",
      "  status    Show backend status",
      "  help      Print this message or the help of the given subcommand(s)",
      "",
      "Options:",
      "      --backend-url <BACKEND_URL>  Backend base URL (overrides BACKEND_URL)",
      "  -h, --help                       Print help"]
  | .settings =>
    ["Show the evaluation settings of a model",
      "",
      "Usage: velour settings [OPTIONS] <MODEL>",
      "",
      "Arguments:",
      "  <MODEL>  Model name",
      "",
      "Options:",
      "      --backend-url <BACKEND_URL>  Backend base URL (overrides BACKEND_URL)",
      "  -p, --page <PAGE>                Page to show, starting at 1 [default: 1]",
      "  -s, --sort <SORT>                Column to sort by " ++
        "(dataset_name, model_pred_task_type, ...)",
      "      --desc                       Sort descending",
      "  -f, --filter <FILTER>            Filter as FIELD=TEXT (case-insensitive substring)",
      "      --hide <FIELD>               Column to leave out; repeatable",
      "  -o, --output <OUTPUT>            Output format [default: table] " ++
        "[possible values: table, json, csv]",
      "  -h, --help                       Print help"]
  | .status =>
    ["Show backend status",
      "",
      "Usage: velour status [OPTIONS]",
      "",
      "Options:",
      "      --backend-url <BACKEND_URL>  Backend base URL (overrides BACKEND_URL)",
      "  -h, --help                       Print help"]
  | .help =>
    ["Print this message or the help of the given subcommand(s)",
      "",
      "Usage: velour help [COMMAND]...",
      "",
      "Arguments:",
      "  [COMMAND]...  Print help for the subcommand(s)"]

def Topic.text (t : Topic) : String := String.join (t.lines.map (· ++ "\n"))

end EvaluationBrowser.CommandLine
