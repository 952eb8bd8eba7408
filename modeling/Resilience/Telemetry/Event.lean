import Resilience.Failure.Record
import Resilience.Json.Shape
import Resilience.Telemetry.Stringify

/-!
Telemetry events and their payloads. A payload is flat, and each of its texts is bounded.
-/

namespace Resilience.Telemetry

inductive What where
  /-- An attempt failed, and another one follows after a wait. -/
  | retry (delay : Span) (error : Failure)
  /-- An attempt succeeded, after this time in all. -/
  | success (duration : Span)
  /-- The last attempt failed, after this time in all. -/
  | failure (error : Failure) (duration : Span)

inductive Kind where
  | retry
  | success
  | failure
deriving DecidableEq

def Kind.name : Kind → String
  | retry => "retry"
  | success => "success"
  | failure => "failure"

def Kind.ofName? (name : String) : Option Kind :=
  [retry, success, failure].find? (·.name = name)

namespace What

def kind : What → Kind
  | retry .. => .retry
  | success .. => .success
  | failure .. => .failure

def delay? : What → Option Span
  | retry delay _ => some delay
  | _ => none

def error? : What → Option Failure
  | retry _ error | failure error _ => some error
  | success _ => none

def duration? : What → Option Span
  | retry .. => none
  | success duration | failure _ duration => some duration

end What

structure Event where
  channel : String
  attempt : UInt32
  total : UInt32
  timestamp : Timestamp
  what : What
  extra : Option Json := none

structure Payload where
  kind : Kind
  channel : String
  attempt : UInt32
  total : UInt32
  delayMs : Option UInt64
  code : Option String
  /-- The wire record of the failure as JSON text. -/
  error : Option String
  timestamp : Timestamp
  success : Bool
  durationMs : Option UInt64
  extra : Option String

/-- What is known of an occurrence, each thing for itself. An event is one, and so is whatever else is
put together to be told. -/
structure Occurrence where
  kind : Kind
  channel : String
  attempt : UInt32
  total : UInt32
  delay : Option Span
  error : Option Failure
  timestamp : Timestamp
  success : Bool
  duration : Option Span
  extra : Option Json

/-- The payload of an occurrence, with texts of at most `most` characters. -/
def Occurrence.payload (most : Nat) (o : Occurrence) : Payload where
  kind := o.kind
  channel := truncateField most o.channel
  attempt := o.attempt
  total := o.total
  delayMs := o.delay.map (·.millis64.toUInt64)
  code := o.error.map fun f => truncateField most f.code
  error := o.error.map fun f => truncateField most (stringify (.ok f.toJson))
  timestamp := o.timestamp
  success := o.success
  durationMs := o.duration.map (·.millis64.toUInt64)
  extra := o.extra.map fun v => truncateField most (stringify (.ok v))

def Event.occurrence (e : Event) : Occurrence where
  kind := e.what.kind
  channel := e.channel
  attempt := e.attempt
  total := e.total
  delay := e.what.delay?
  error := e.what.error?
  timestamp := e.timestamp
  success := e.what.kind = .success
  duration := e.what.duration?
  extra := e.extra

def Event.payload (most : Nat) (e : Event) : Payload := e.occurrence.payload most

@[simp] theorem Occurrence.delayMs_payload (most : Nat) (o : Occurrence) :
    (o.payload most).delayMs = o.delay.map (·.millis64.toUInt64) := rfl

@[simp] theorem Event.delay_occurrence (e : Event) : e.occurrence.delay = e.what.delay? := rfl

namespace Payload

def toJson (p : Payload) : Json :=
  Json.objSome
    [("attempt", some (.nat p.attempt.toNat)),
      ("channel", some (.str p.channel)),
      ("delayMs", p.delayMs.map fun n => .nat n.toNat),
      ("error", p.error.map .str),
      ("errorCode", p.code.map .str),
      ("extra", p.extra.map .str),
      ("kind", some (.str p.kind.name)),
      ("success", some (.bool p.success)),
      ("timestamp", some (.str p.timestamp.text)),
      ("totalAttempts", some (.nat p.total.toNat)),
      ("totalDurationMs", p.durationMs.map fun n => .nat n.toNat)]

/-- The fields in the order in which an array gives them. -/
def fields : List (String × Json.Shape Unit) :=
  [("kind", .choice), ("channel", .any), ("attempt", .any), ("totalAttempts", .any),
    ("delayMs", .any), ("errorCode", .any), ("error", .any), ("timestamp", .any),
    ("success", .any), ("totalDurationMs", .any), ("extra", .any)]

/-- A number of milliseconds that may be missing or null. -/
def millis? : Option Json → Option (Option UInt64)
  | none | some .null => some none
  | some v => (v.natBelow? UInt64.size).map fun n => some n.toUInt64

def ofJson? (v : Json) : Option Payload := do
  let kind ← v.get? "kind"
  let channel ← v.get? "channel"
  let attempt ← v.get? "attempt"
  let total ← v.get? "totalAttempts"
  let timestamp ← v.get? "timestamp"
  let success ← v.get? "success"
  some {
    kind := ← Kind.ofName? (← kind.variant?)
    channel := ← channel.str?
    attempt := (← attempt.natBelow? UInt32.size).toUInt32
    total := (← total.natBelow? UInt32.size).toUInt32
    delayMs := ← millis? (v.get? "delayMs")
    code := ← Json.optText? (v.get? "errorCode")
    error := ← Json.optText? (v.get? "error")
    timestamp := ← Timestamp.ofText? (← timestamp.str?)
    success := ← match success with
      | .bool b => some b
      | _ => none
    durationMs := ← millis? (v.get? "totalDurationMs")
    extra := ← Json.optText? (v.get? "extra") }

def ofText? (text : String) : Option Payload :=
  (Json.readRecord? (fun () => fields) () text).bind ofJson?

end Payload

end Resilience.Telemetry
