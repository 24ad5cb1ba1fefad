/-
# The program

The command line with its arguments and environment. Requests are answered from standard input: the
first line is the status, and all after it is the body. Standard input is read only if there is a
request.
-/
import EvaluationBrowser.CommandLine.Run

namespace EvaluationBrowser.CommandLine

/-- The reply in a text. A first line that is no number means that nothing could be sent. -/
def replyOfText (s : String) : Reply :=
  let cs := s.toList
  match (String.ofList (cs.takeWhile (· != '\n'))).toNat? with
  | some status => .answered status (.ok (String.ofList ((cs.dropWhile (· != '\n')).drop 1)))
  | none => .unsent "no reply"

def Outcome.emit (o : Outcome) : IO UInt32 := do
  (← IO.getStdout).putStr o.output
  if o.exitCode = 2 then (← IO.getStderr).putStrLn o.errors
  else (← IO.getStderr).putStr o.errors
  return UInt32.ofNat o.exitCode

/-- What is left to read. -/
partial def readAll (input : IO.FS.Stream) (before : String) : IO String := do
  let line ← input.getLine
  if line.isEmpty then return before
  readAll input (before ++ line)

end EvaluationBrowser.CommandLine

def main (arguments : List String) : IO UInt32 := do
  let environment ← IO.getEnv "BACKEND_URL"
  let silent := EvaluationBrowser.CommandLine.run arguments environment fun _ => .unsent ""
  if silent.requests.isEmpty then silent.emit
  else
    let input ← EvaluationBrowser.CommandLine.readAll (← IO.getStdin) ""
    let reply := EvaluationBrowser.CommandLine.replyOfText input
    (EvaluationBrowser.CommandLine.run arguments environment fun _ => reply).emit
