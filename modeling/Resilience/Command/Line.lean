/-!
The command line: options that hold for every command, a command, and its own options and word.
-/

namespace Resilience.Command

inductive Flag where
  | verbose
  | noColor
  | config
  | code
  | channel
  | development
  | json
  | help
  | version
deriving DecidableEq

namespace Flag

def long : Flag → String
  | verbose => "verbose"
  | noColor => "no-color"
  | config => "config"
  | code => "code"
  | channel => "channel"
  | development => "development"
  | json => "json"
  | help => "help"
  | version => "version"

def short : Flag → Option Char
  | verbose => some 'v'
  | help => some 'h'
  | version => some 'V'
  | _ => none

def takesValue : Flag → Bool
  | config | code | channel => true
  | _ => false

/-- Options that may stand before the command or after it. -/
def everywhere : List Flag := [verbose, noColor, config, help]

end Flag

inductive Verb where
  | explain
  | policy
  | inspect
deriving DecidableEq

namespace Verb

def name : Verb → String
  | explain => "explain"
  | policy => "policy"
  | inspect => "inspect"

def all : List Verb := [explain, policy, inspect]

def ofName? (name : String) : Option Verb := all.find? (·.name = name)

def flags : Verb → List Flag
  | explain => [.code, .channel, .development, .json]
  | policy => []
  | inspect => [.development, .json]

end Verb

inductive Stop where
  | help
  | version
  | misuse
deriving DecidableEq

/-- What stands on one side of the command's name, last first. -/
structure Level where
  given : List (Flag × String) := []
  word : Option String := none

namespace Level

/-- Only the option for more output may be given twice, and a file has a name. -/
def give (l : Level) (f : Flag) (value : String) : Except Stop Level :=
  if f = .help then .error .help
  else if f = .version then .error .version
  else if f ≠ .verbose && l.given.any (·.1 = f) then .error .misuse
  else if f = .config && value.isEmpty then .error .misuse
  else .ok { l with given := (f, value) :: l.given }

/-- A command has one word, and a file has a name. -/
def say (verb : Option Verb) (l : Level) (word : String) : Except Stop Level :=
  if verb.isNone || l.word.isSome || (verb = some .inspect && word.isEmpty) then .error .misuse
  else .ok { l with word := some word }

def letter (allowed : List Flag) (l : Level) (c : Char) : Except Stop Level :=
  match allowed.find? (·.short = some c) with
  | some f => l.give f ""
  | none => .error .misuse

/-- Whether an argument is an option; a single dash is not. -/
def isOption (arg : String) : Bool := arg.startsWith "-" && arg != "-"

/-- The name of an option after two dashes, and what follows an equals sign. -/
def named? (arg : String) : Option (String × Option String) :=
  match arg.toList with
  | '-' :: '-' :: rest =>
    let value := match rest.dropWhile (· != '=') with
      | _ :: value => some (String.ofList value)
      | [] => none
    some (String.ofList (rest.takeWhile (· != '=')), value)
  | _ => none

/-- The option with a name, and its value if that is attached or if it has none. -/
def option? (allowed : List Flag) (name : String) (attached : Option String) :
    Except Stop (Flag × Option String) :=
  match allowed.find? (·.long = name) with
  | none => .error .misuse
  | some f =>
    if f.takesValue then .ok (f, attached)
    else if attached.isSome then .error .misuse
    else .ok (f, some "")

/-- Reads arguments from left to right, and answers those it has not read. Before the command it
stops at the first word. Two dashes alone make words of all arguments after them. -/
def read (allowed : List Flag) (verb : Option Verb) (l : Level) :
    List String → Except Stop (Level × List String)
  | [] => .ok (l, [])
  | arg :: rest =>
    if !isOption arg then
      if verb.isNone then .ok (l, arg :: rest)
      else (l.say verb arg).bind fun l => read allowed verb l rest
    else if arg = "--" then (rest.foldlM (say verb) l).map (·, [])
    else match named? arg with
    | none =>
      ((arg.toList.drop 1).foldlM (letter allowed) l).bind fun l => read allowed verb l rest
    | some (name, attached) =>
      match option? allowed name attached with
      | .error stop => .error stop
      | .ok (f, some value) => (l.give f value).bind fun l => read allowed verb l rest
      | .ok (f, none) =>
        match rest with
        | [] => .error .misuse
        | value :: rest =>
          if isOption value then .error .misuse
          else (l.give f value).bind fun l => read allowed verb l rest

def value? (l : Level) (f : Flag) : Option String := l.given.lookup f

def has (l : Level) (f : Flag) : Bool := (l.value? f).isSome

/-- How often more output is asked for. -/
def verbosity (l : Level) : Nat := min 255 (l.given.countP (·.1 = .verbose))

end Level

inductive Request where
  | explain (message : String) (code channel : Option String) (development json : Bool)
  | policy (channel : String)
  | inspect (file : String) (development json : Bool)

structure Invocation where
  verbosity : Nat
  color : Bool
  config : Option String
  request : Request

/-- Whether these are names of commands as help is asked for. -/
def helpTopic : List String → Bool
  | [] => true
  | [name] => name = "help" || (Verb.ofName? name).isSome
  | ["help", name] => name = "help" || (Verb.ofName? name).isSome
  | _ => false

def Request.of (verb : Verb) (l : Level) (word : String) : Request :=
  match verb with
  | .explain =>
    .explain word (l.value? .code) (l.value? .channel) (l.has .development) (l.has .json)
  | .policy => .policy word
  | .inspect => .inspect word (l.has .development) (l.has .json)

/-- Reads a command line. Options after the command take precedence over those before it. -/
def Invocation.ofArguments (args : List String) : Except Stop Invocation := do
  let (before, rest) ← Level.read (Flag.everywhere ++ [.version]) none {} args
  match rest with
  | [] => .error .misuse
  | "help" :: topic => .error (if helpTopic topic then .help else .misuse)
  | name :: rest =>
    let some verb := Verb.ofName? name | .error .misuse
    let (after, _) ← Level.read (Flag.everywhere ++ verb.flags) (some verb) {} rest
    let some word := after.word | .error .misuse
    .ok {
      verbosity := if after.verbosity = 0 then before.verbosity else after.verbosity
      color := !before.has .noColor && !after.has .noColor
      config := (after.value? .config).or (before.value? .config)
      request := Request.of verb after word }

end Resilience.Command
