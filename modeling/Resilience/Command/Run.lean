import Resilience.Command.Line
import Resilience.Command.Log
import Resilience.Settings.Load

/-!
The commands: explain a message, show the policy of a channel, inspect the record of a failure.
-/

namespace Resilience.Command

/-- What a command finds around it. -/
structure World where
  now : Timestamp
  disk : Disk
  /-- Variables of the environment. Of two with one name, the later one counts. -/
  environment : List (String × String) := []
  /-- What the environment wants to be logged, whatever the settings say. -/
  logFilter : Option String := none

def World.value? (w : World) (name : String) : Option String := w.environment.reverse.lookup name

structure Output where
  exit : UInt8
  out : String := ""
  err : String := ""
deriving DecidableEq

def version : String := "sitecraft 0.1.0\n"

def usage : String :=
  "Usage: sitecraft [-v] [--no-color] [--config FILE] COMMAND\n\n" ++
  "Commands:\n" ++
  "  explain MESSAGE [--code CODE] [--channel CHANNEL] [--development] [--json]\n" ++
  "  policy CHANNEL\n" ++
  "  inspect FILE [--development] [--json]\n"

def complaint (color : Bool) (label text : String) : String :=
  (if color then Terminal.alarm label else label) ++ ": " ++ text ++ "\n"

def failed (color : Bool) (text : String) : Output :=
  { exit := 1, err := complaint color "error" text }

def refused (color : Bool) (text : String) : Output :=
  { exit := 2, err := complaint color "invalid" text }

/-- The lines that the settings, the command line and the environment want. -/
def logged (w : World) (settings : Logging) (lines : List LogLine) : String :=
  let filter := (w.logFilter.map LogFilter.ofText).getD (LogFilter.ofLevel settings.level)
  let color := ((w.value? "NO_COLOR").getD "").isEmpty
  let time := if settings.timestamps then some w.now.text else none
  String.join ((lines.filter fun l => filter.shows .debug l.target).map
    (·.render color settings.target time))

/-- Tells of a failure, after the lines that were logged before. -/
def tell (w : World) (settings : Settings) (color development json : Bool)
    (before : List LogLine) (f : Failure) (s : Situation) : Output :=
  let t := settings.translator.translator
  let t := if development then { t with environment := .development } else t
  let friendly := t.translate f s
  { exit := 0
    out := if json then friendly.toJson.pretty ++ "\n" else Terminal.render {} color friendly
    err := logged w settings.logging (before ++ [.translating f.code (t.classify f)]) }

/-- The policy of a channel as it is used. -/
def policyReport (ps : Policies) (channel : String) : Json :=
  let p := ps.effective channel
  .obj [("channel", .str channel), ("blacklisted", .bool (ps.isBlacklisted channel)),
    ("maxAttempts", .nat p.attemptLimit), ("baseDelayMs", .nat p.baseDelay.millis64),
    ("maxDelayMs", .nat p.maxDelay.millis64), ("retryableErrorCodes", jsonTexts p.codes.toList)]

def inspectFile (w : World) (settings : Settings) (color development json : Bool) (file : String) :
    Output :=
  match w.disk file with
  | .nothing => failed color "No such file or directory (os error 2)"
  | .blocked => failed color "Not a directory (os error 20)"
  | .folder => failed color "Is a directory (os error 21)"
  | .garbled => failed color "stream did not contain valid UTF-8"
  | .file text =>
    match Json.read? text with
    | none => refused color (file ++ " is not valid JSON")
    | some v =>
      match Record.validate w.now v with
      | .error e => refused color (file ++ ": " ++ e.message)
      | .ok r =>
        tell w settings color development json [.valid r.code] (Failure.ofRecord r) {}

def Request.run (w : World) (settings : Settings) (color : Bool) : Request → Output
  | .explain message code channel development json =>
    let e : NativeError := { message, code }
    tell w settings color development json [] (e.toFailure w.now) { channel }
  | .policy channel =>
    { exit := 0, out := (policyReport settings.retry.policies channel).pretty ++ "\n" }
  | .inspect file development json => inspectFile w settings color development json file

/-- Without a file there is nothing to load: the settings are the defaults, and variables do not
count. -/
def Invocation.settings (w : World) (i : Invocation) : Except LoadError Settings :=
  match i.config with
  | some path => Settings.load w.disk w.environment path
  | none => .ok {}

def Invocation.run (w : World) (i : Invocation) : Output :=
  let color := i.color && (w.value? "NO_COLOR").isNone
  match i.settings w with
  | .error e => failed color e.message
  | .ok s => i.request.run w { s with logging := s.logging.raised i.verbosity } color

def run (w : World) (args : List String) : Output :=
  match Invocation.ofArguments args with
  | .ok i => i.run w
  | .error .help => { exit := 0, out := usage }
  | .error .version => { exit := 0, out := version }
  | .error .misuse => { exit := 2, err := usage }

def filesOf (args : List String) : List String :=
  match Invocation.ofArguments args with
  | .error _ => []
  | .ok i =>
    let config := i.config.toList
    let input := match i.request with
      | .inspect file _ _ => [file]
      | _ => []
    config ++ config.filterMap Settings.beside? ++ input

end Resilience.Command
