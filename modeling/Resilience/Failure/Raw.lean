import Resilience.Failure.Code
import Resilience.Failure.Record
import Resilience.Json.Printer

/-!
What an operation can fail with: a failure, an error from outside, or a value that is no error at
all. Each is wrapped into a failure in one way; a failure stays as it is.
-/

namespace Resilience

structure NativeError where
  name : String := "Error"
  message : String
  code : Option String := none
  stack : Option String := none
  /-- The text of the error that this one was made from. -/
  source : Option String := none
deriving DecidableEq

namespace NativeError

/-- The code that was given, or else one that stands in the message. -/
def effectiveCode (e : NativeError) : Option String := e.code.or (Code.infer? e.message)

def text (e : NativeError) : String := e.name ++ ": " ++ e.message

def ofSystemIO (kind message : String) : NativeError where
  name := "IoError"
  message := message
  code := match kind with
    | "NotFound" => some "ENOENT"
    | "PermissionDenied" => some "EACCES"
    | "AlreadyExists" => some "EEXIST"
    | "ConnectionRefused" => some "ECONNREFUSED"
    | "ConnectionReset" => some "ECONNRESET"
    | "ConnectionAborted" => some "ECONNABORTED"
    | "TimedOut" => some "ETIMEDOUT"
    | "AddrInUse" => some "EADDRINUSE"
    | "BrokenPipe" => some "EPIPE"
    | _ => none
  source := some message

def ofPayload (message : String) : NativeError where
  name := "SyntaxError"
  message := message
  code := some Code.invalidPayload
  source := some message

def toFailure (now : Timestamp) (e : NativeError) : Failure :=
  let code := e.effectiveCode.getD Code.unknown
  { (Failure.make now e.message code ((Code.category? code).getD .system)).withContext
      "nativeName" (.str e.name) with
    stack := e.stack
    cause := match e.source with
      | some text => .native text
      | none => .absent }

end NativeError

inductive Raw where
  | failure (f : Failure)
  | native (e : NativeError)
  | value (v : Json)

namespace Raw

/-- The text of a value that was thrown: a text as it is, anything else as compact JSON. -/
def valueText : Json → String
  | .str s => s
  | v => v.compact

/-- Decodes what came across a process boundary. A wire record is a failure, another object with a
message is an error from outside, and anything else is a value. -/
def ofWire (now : Timestamp) (v : Json) : Raw :=
  match Record.validate now v with
  | .ok r => .failure (Failure.ofRecord r)
  | .error _ =>
    match (v.get? "message").bind Json.str? with
    | some message => .native {
        name := ((v.get? "name").bind Json.str?).getD "Error"
        message := message
        code := (v.get? "code").bind Json.str?
        stack := (v.get? "stack").bind Json.str? }
    | none => .value v

def ofText (s : String) : Raw := .value (.str s)

def message : Raw → String
  | failure f => f.message
  | native e => e.message
  | value v => valueText v

def code : Raw → Option String
  | failure f => some f.code
  | native e => e.effectiveCode
  | value _ => none

def toFailure (now : Timestamp) : Raw → Failure
  | failure f => f
  | native e => e.toFailure now
  | value v =>
    { (Failure.make now (valueText v) Code.nonErrorValue .system).withContext "thrownValue" v with
      severity := .medium }

end Raw

end Resilience
