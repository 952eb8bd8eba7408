import Resilience.Dispatch.Timeline
import Resilience.Retry.Invoke
import Resilience.Telemetry.Shipping

/-!
Runs and invocations on a clock, one after the other, with those who watch them: a registry that is
told of invocations and captures failures, and a batcher that is given events.
-/

namespace Resilience

open Telemetry (Shipping)

structure Session where
  now : Nat := 0
  dispatcher : Option Dispatcher := none
  shipping : Option Shipping := none

namespace Session

variable {α : Type} (clock : Timestamp)

def scope (s : Session) : Dict Json :=
  match s.dispatcher with
  | some d => d.registry.context
  | none => Dict.empty

/-- Leaves a breadcrumb in the registry, if there is one. -/
def leave (s : Session) (b : Breadcrumb) : Session :=
  { s with dispatcher := s.dispatcher.map fun d =>
      { d with registry := d.registry.addBreadcrumb b } }

/-- Runs what answers on a channel, in the context of the registry, which is told of it before. -/
def invoke (s : Session) (i : Invoker) (channel : String) (args : List Json)
    (cancelled : Option Nat) : Session × Invoker × InvokeOutcome × Run Json :=
  let s := s.leave (Invoker.trace clock channel args)
  (s, i.invoke clock channel args s.scope s.now cancelled)

/-- Lets time pass up to a moment at which somebody else is first. -/
def advanceBefore (s : Session) (target : Nat) : Session where
  now := target
  dispatcher := s.dispatcher.map (·.advanceBefore clock s.now target)
  shipping := s.shipping.map fun sh =>
    if target ≤ s.now then sh else sh.advance s.now (target - 1)

def advance (s : Session) (millis : Nat) : Session where
  now := s.now + millis
  dispatcher := s.dispatcher.map (·.advance clock s.now (s.now + millis))
  shipping := s.shipping.map (·.advance s.now (s.now + millis))

def observe (s : Session) : Effect → Session
  | .called _ | .dropped _ => s
  | .emitted e => { s with shipping := s.shipping.map fun sh => (sh.record e true).1 }
  | .captured f => { s with dispatcher := s.dispatcher.map (·.spawn s.now f) }

def watch (s : Session) (r : Run α) : Session :=
  (r.effects.foldl (fun s (moment, e) => (s.advanceBefore clock moment).observe e) s).advanceBefore
    clock r.ended

/-- Watches a run where nothing runs in the background and nobody can wait. -/
def watchAtOnce (s : Session) (r : Run α) : Option Session :=
  if r.ended ≠ s.now || 1 < r.calls.length || r.outcome.isAborted then none
  else some <| r.effects.foldl (fun s (_, e) => match e with
    | .called _ | .dropped _ => s
    | .emitted e => { s with shipping := s.shipping.map fun sh => (sh.record e false).1 }
    | .captured f => { s with dispatcher := s.dispatcher.map (·.rememberOnly f) }) s

def forget (s : Session) : Session :=
  { s with
    dispatcher := s.dispatcher.map fun d => { d with notices := [] }
    shipping := s.shipping.map fun sh => { sh with notices := [] } }

end Session

end Resilience
