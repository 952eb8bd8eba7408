import Resilience.Failure.Shapes
import Resilience.Friendly.Basic
import Resilience.Retry.Run

/-!
Invocations of channels by name. A transport carries calls out, runs are retried, and what fails in
the end is told as a friendly failure.
-/

namespace Resilience

open Telemetry (Event)

structure Call where
  channel : String
  args : List Json

/-- What carries calls out: what a call comes to, after those that were carried out before it. -/
abbrev Transport := List Call → Call → Attempt Json

/-- What answers on a channel, given the arguments; calls are counted from one over all
invocations. -/
abbrev Route := List Json → Operation Json

/-- A transport that leaves each call to the route of its channel. Nobody answers on a channel
without a route. -/
def Transport.ofRoutes (clock : Timestamp) (routes : Dict Route) : Transport := fun before call =>
  match routes.get? call.channel with
  | some r => r call.args (before.countP (·.channel = call.channel) + 1)
  | none => { result := .error (.failure (Failure.handlerMissing clock call.channel)) }

inductive InvokeOutcome where
  | success (value : Json)
  | failure (f : Friendly)
  /-- Cancelled between two attempts; nobody is told. -/
  | aborted

namespace InvokeOutcome

def isSuccess : InvokeOutcome → Bool
  | success _ => true
  | _ => false

def isAborted : InvokeOutcome → Bool
  | aborted => true
  | _ => false

def failure? : InvokeOutcome → Option Friendly
  | failure f => some f
  | _ => none

end InvokeOutcome

structure Invoker where
  routes : Dict Route := ∅
  /-- The calls that were carried out, first to last. -/
  carried : List Call := []
  policies : Policies
  emitter : Event → Delivery := fun _ => .taken
  translator : Translator

namespace Invoker

variable (clock : Timestamp)

/-- A route takes the place of an earlier one for its channel. -/
def route (i : Invoker) (channel : String) (r : Route) : Invoker :=
  { i with routes := i.routes.insert channel r }

def hasRoute (i : Invoker) (channel : String) : Bool := i.routes.contains channel

/-- The call that an invocation makes at an attempt. -/
def call (channel : String) (args : List Json) (_attempt : Nat) : Call := ⟨channel, args⟩

/-- What an invocation attempts. -/
def operation (i : Invoker) (transport : Transport) (channel : String) (args : List Json) :
    Operation Json := fun n =>
  transport (i.carried ++ (List.range' 1 (n - 1)).map (call channel args)) (call channel args n)

/-- The breadcrumb that an invocation leaves before anything is attempted. -/
def trace (channel : String) (args : List Json) : Breadcrumb where
  timestamp := clock
  level := .info
  message := "invoke " ++ channel
  category := "ipc"
  data := some (.obj [("args", .nat args.length)])

/-- How often a failed operation is retried at most. -/
def maxRetries (i : Invoker) (channel : String) : UInt32 :=
  ((i.policies.effective channel).attemptLimit - 1).toUInt32

def outcome (i : Invoker) (channel : String) : Outcome Json → InvokeOutcome
  | .success value => .success value
  | .failure f => .failure <| i.translator.translate f
      { channel := some channel
        retryCount := some f.retryCount
        maxRetries := some (i.maxRetries channel) }
  | .aborted .. => .aborted

def task (i : Invoker) (channel : String) (scope : Dict Json) (started : Nat) : Task :=
  { i.policies.task channel (i.policies.resolve channel) scope started with emitter := i.emitter }

/-- Runs a call of a channel over a transport, from the moment `started`. -/
def invokeOver (i : Invoker) (transport : Transport) (channel : String) (args : List Json)
    (scope : Dict Json) (started : Nat) (cancelled : Option Nat) :
    Invoker × InvokeOutcome × Run Json :=
  let run := (i.task channel scope started).run clock (i.operation transport channel args) cancelled
  ({ i with carried := i.carried ++ run.calls.map (call channel args) },
    i.outcome channel run.outcome, run)

/-- Runs what answers on a channel. -/
def invoke (i : Invoker) (channel : String) (args : List Json) (scope : Dict Json)
    (started : Nat) (cancelled : Option Nat) : Invoker × InvokeOutcome × Run Json :=
  i.invokeOver clock (.ofRoutes clock i.routes) channel args scope started cancelled

end Invoker

end Resilience
