import Resilience.Dispatch.Handler
import Resilience.Dispatch.Report
import Resilience.Dispatch.Ring
import Resilience.Failure.Raw

/-!
The registry of failures: who handles them, the context in which they happen, what happened before
them, and which there were.
-/

namespace Resilience

/-- How failures are reported, and how much is remembered. -/
structure Reporting where
  /-- Attempts per report, the first one included. -/
  maxAttempts : UInt32 := 3
  /-- Unit of the waits between attempts. -/
  retryDelay : Span := Span.ofSeconds 1
  breadcrumbCapacity : Nat := 50
  historyCapacity : Nat := 100

namespace Reporting

def attemptLimit (r : Reporting) : Nat := max 1 r.maxAttempts.toNat

/-- The wait after a failed attempt, which grows by one unit from attempt to attempt. -/
def delayAfter (r : Reporting) (attempt : Nat) : Span := r.retryDelay.times attempt

end Reporting

inductive Reply where
  | ok
  | unavailable
  | rejected
deriving DecidableEq

def Reply.name : Reply → String
  | ok => "ok"
  | unavailable => "unavailable"
  | rejected => "rejected"

/-- Values that belong to whatever happens while the frame is there. -/
structure Frame where
  id : Nat
  values : Dict Json

/-- Stands for a frame that is there until the guard is dropped. -/
structure Guard where
  id : Nat

structure Registry where
  settings : Reporting
  handlers : List Handler := []
  frames : List Frame := []
  breadcrumbs : Ring Breadcrumb := Ring.empty settings.breadcrumbCapacity
  history : Ring Failure := Ring.empty settings.historyCapacity
  /-- Calls of handlers that were made. -/
  handlerCalls : Nat := 0
  /-- What the reporter answers to its calls, counted from zero. -/
  reporter : Option (Nat → Reply) := none
  calls : Nat := 0
  /-- The number of the next frame or handler. It is taken to stay below 2 ^ 64. -/
  nextId : Nat := 1

namespace Registry

/-! ## Handlers -/

def enroll (r : Registry) (key : HandlerKey) (label : String)
    (behaves : Nat → Failure → HandlerBehavior) : Registry × Nat :=
  ({ r with handlers := r.handlers ++ [⟨r.nextId, key, label, behaves⟩], nextId := r.nextId + 1 },
    r.nextId)

/-- Registers a handler of which every call goes alike. -/
def register (r : Registry) (key : HandlerKey) (label : String) (behavior : HandlerBehavior) :
    Registry × Nat :=
  r.enroll key label fun _ _ => behavior

/-- Removes a registration. Answers whether it was there. -/
def unregister (r : Registry) (id : Nat) : Registry × Bool :=
  ({ r with handlers := r.handlers.filter (·.id ≠ id) }, r.handlers.any (·.id = id))

/-- Removes what is registered for a key. Answers how many registrations there were. -/
def unregisterKey (r : Registry) (key : HandlerKey) : Registry × Nat :=
  ({ r with handlers := r.handlers.filter (·.key ≠ key) }, r.handlers.countP (·.key = key))

/-! ## Context -/

/-- Adds a frame inside all others. -/
def push (r : Registry) (values : List (String × Json)) : Registry × Nat :=
  ({ r with frames := r.frames ++ [⟨r.nextId, Dict.ofList values⟩], nextId := r.nextId + 1 },
    r.nextId)

/-- Removes the innermost frame with a number, wherever it is. Answers its values if it was there. -/
def pop (r : Registry) (id : Nat) : Registry × Option (Dict Json) :=
  ({ r with frames := (r.frames.reverse.eraseP (·.id = id)).reverse },
    (r.frames.reverse.find? (·.id = id)).map (·.values))

/-- Adds a frame that somebody guards. -/
def scope (r : Registry) (values : List (String × Json)) : Registry × Guard :=
  let (r, id) := r.push values
  (r, ⟨id⟩)

def drop (r : Registry) (g : Guard) : Registry := (r.pop g.id).1

/-- The values of all frames; inner frames win. -/
def context (r : Registry) : Dict Json :=
  r.frames.foldl (fun merged frame => merged.merge frame.values) Dict.empty

end Registry

/-- The failure with the values of a scope that it does not have itself. -/
def Failure.within (f : Failure) (scope : Dict Json) : Failure :=
  f.withContexts (scope.filter fun key _ => !f.context.contains key).entries

namespace Registry

def wrap (now : Timestamp) (r : Registry) (raw : Raw) : Failure :=
  (raw.toFailure now).within r.context

/-! ## What happened -/

def addBreadcrumb (r : Registry) (b : Breadcrumb) : Registry :=
  { r with breadcrumbs := r.breadcrumbs.add b }

def clearBreadcrumbs (r : Registry) : Registry := { r with breadcrumbs := r.breadcrumbs.clear }

def remember (r : Registry) (f : Failure) : Registry := { r with history := r.history.add f }

/-- What is reported of a failure. `now` is the date of the capture, and not that of the attempt to
report it. -/
def report (now : Timestamp) (r : Registry) (f : Failure) : Report where
  error := f.toRecord
  breadcrumbs := r.breadcrumbs.entries
  context := r.context
  reportedAt := now

/-- The breadcrumb that a captured failure leaves, with the date of the capture. -/
def trace (now : Timestamp) (f : Failure) : Breadcrumb where
  timestamp := now
  level := .error
  message := f.message
  category := "error"
  data := some (.obj [("code", .str f.code)])

end Registry

end Resilience
