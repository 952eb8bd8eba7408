import Resilience.Command.Run
import Std.Time.DateTime.Timestamp

/-!
The program: it gathers what a command may look at, runs the command, and prints what it answers.
-/

open Resilience Resilience.Command

/-- The system's number, perhaps negative, of the failure to use a file as a folder. -/
def isBlockedCode (code : UInt32) : Bool := code = 20 || code = 0 - 20

/-- What is found at a path, by how reading a file there fails. -/
def foundAt (path : String) : IO Found := do
  try
    let bytes ← IO.FS.readBinFile path
    match String.fromUTF8? bytes with
    | some text => return .file text
    | none => return .garbled
  catch e =>
    match e with
    | .inappropriateType _ code _ => return if isBlockedCode code then .blocked else .folder
    | .noSuchThing _ _ _ | .noFileOrDirectory _ _ _ => return .nothing
    | _ => return .folder

/-- The variables of the environment, as the system lists them. -/
def environment : IO (List (String × String)) := do
  try
    let bytes ← IO.FS.readBinFile "/proc/self/environ"
    let text := (String.fromUTF8? bytes).getD ""
    return (Text.runs (· = '\x00') text.toList).filterMap fun entry =>
      if entry.contains '=' then
        some (String.ofList (entry.takeWhile (· != '=')),
          String.ofList ((entry.dropWhile (· != '=')).drop 1))
      else none
  catch _ => return []

def clock : IO Timestamp := do
  let nanos := (← Std.Time.Timestamp.now).toNanosecondsSinceUnixEpoch.val
  return (Timestamp.of? (nanos / 1000000000) (nanos % 1000000000).toNat).getD default

def main (args : List String) : IO UInt32 := do
  let found ← (filesOf args).mapM fun path => do return (path, ← foundAt path)
  let disk : Disk := fun path => (found.lookup path).getD .nothing
  let answer := run { now := ← clock, disk, environment := ← environment } args
  IO.print answer.out
  IO.eprint answer.err
  return answer.exit.toUInt32
