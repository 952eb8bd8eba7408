import Resilience.Dispatch.Registry
import Resilience.Retry.Policy
import Resilience.Telemetry.Event
import Resilience.Time.Clock

/-!
Runs of operations. A run attempts an operation until it succeeds, or its failure is final, or the
run is cancelled while it waits. An attempt that has begun is never broken off. The date is read once
for a run: all its events and failures have the same time, however long it takes.
-/

namespace Resilience

open Telemetry (Event)

structure Attempt (α : Type) where
  /-- Milliseconds. -/
  takes : Nat := 0
  /-- Whether the run is cancelled when the attempt is over. -/
  cancels : Bool := false
  result : Except Raw α

/-- What an operation does at each attempt, which are counted from one. -/
abbrev Operation (α : Type) := Nat → Attempt α

inductive Outcome (α : Type) where
  | success (value : α)
  | failure (f : Failure)
  /-- Cancelled in a wait, after so many attempts. -/
  | aborted (channel : String) (attempts : Nat)

namespace Outcome

variable {α : Type}

def isSuccess : Outcome α → Bool
  | success _ => true
  | _ => false

def isAborted : Outcome α → Bool
  | aborted .. => true
  | _ => false

def value? : Outcome α → Option α
  | success v => some v
  | _ => none

def failure? : Outcome α → Option Failure
  | failure f => some f
  | _ => none

/-- What the operation came to, unless the run was aborted. -/
def result? : Outcome α → Option (Except Failure α)
  | success v => some (.ok v)
  | failure f => some (.error f)
  | aborted .. => none

end Outcome

/-- How an emitter takes an event. -/
inductive Delivery where
  | taken
  | panicked
deriving DecidableEq

/-- What a run does to the world. -/
inductive Effect where
  | called (attempt : Nat)
  | emitted (event : Event)
  /-- The emitter panicked over the event, which is told to nobody else. -/
  | dropped (event : Event)
  /-- The failure goes to the registry, if there is one. -/
  | captured (f : Failure)

namespace Effect

def attempt? : Effect → Option Nat
  | called attempt => some attempt
  | _ => none

def event? : Effect → Option Event
  | emitted event => some event
  | _ => none

def failure? : Effect → Option Failure
  | captured f => some f
  | _ => none

end Effect

structure Run (α : Type) where
  outcome : Outcome α
  /-- What the run did and when, first to last. -/
  effects : List (Nat × Effect)
  ended : Nat

namespace Run

variable {α : Type}

def after (effects : List (Nat × Effect)) (r : Run α) : Run α :=
  { r with effects := effects ++ r.effects }

/-- The attempts for which the operation was called. -/
def calls (r : Run α) : List Nat := r.effects.filterMap (·.2.attempt?)

def events (r : Run α) : List Event := r.effects.filterMap (·.2.event?)

def captures (r : Run α) : List Failure := r.effects.filterMap (·.2.failure?)

end Run

structure Task where
  channel : String
  policy : Policy
  scope : Dict Json := ∅
  started : Nat := 0
  /-- No two events of a run are alike, so this is whatever an emitter does in the run. -/
  emitter : Event → Delivery := fun _ => .taken

namespace Task

variable {α : Type} (clock : Timestamp)

/-- The failure of an attempt, as the run knows it. -/
def classify (t : Task) (attempt : Nat) (raw : Raw) : Failure :=
  (((raw.toFailure clock).within t.scope).withDefaultOperation t.channel).withRetryCount
    (attempt - 1).toUInt32

def event (t : Task) (attempt : Nat) (what : Telemetry.What) : Event where
  channel := t.channel
  attempt := attempt.toUInt32
  total := t.policy.attemptLimit.toUInt32
  timestamp := clock
  what := what

/-- Gives an event to the emitter. A panic there costs the event and nothing else. -/
def emit (t : Task) (now : Nat) (e : Event) : List (Nat × Effect) :=
  (now, .emitted e) :: match t.emitter e with
    | .taken => []
    | .panicked => [(now, .dropped e)]

/-- The time from the first attempt on. -/
def duration (t : Task) (now : Nat) : Span := Span.between t.started now

/-- Ends with a value. Only a success that took several attempts is told. -/
def succeed (t : Task) (attempt now : Nat) (value : α) : Run α where
  outcome := .success value
  effects :=
    if 1 < attempt then t.emit now (t.event clock attempt (.success (t.duration now))) else []
  ended := now

def giveUp (t : Task) (attempt now : Nat) (f : Failure) : Run α where
  outcome := .failure f
  effects :=
    t.emit now (t.event clock attempt (.failure f (t.duration now))) ++ [(now, .captured f)]
  ended := now

/-- The earlier of two moments, either of which may never come. -/
def earlier (a b : Option Nat) : Option Nat :=
  match a, b with
  | some a, some b => some (min a b)
  | a, b => a.or b

/-- The moment from which on the run is cancelled, after an attempt that is over. -/
def cancelledAfter (a : Attempt α) (finish : Nat) (cancelled : Option Nat) : Option Nat :=
  if a.cancels then earlier cancelled (some finish) else cancelled

/-- The moment at which the run is aborted if it waits until `wake`. -/
def abortedAt (cancelled : Option Nat) (finish wake : Nat) : Option Nat :=
  (cancelled.filter (· ≤ wake)).map (max finish)

/-- Makes an attempt now, and the ones that come after it, of which there are at most `left`.
The run is cancelled from the moment `cancelled` on. -/
def attempt (t : Task) (op : Operation α) (cancelled : Option Nat) (n now : Nat) :
    (left : Nat) → Run α
  | 0 =>
    let finish := now + (op n).takes
    Run.after [(now, .called n)] <| match (op n).result with
      | .ok value => t.succeed clock n finish value
      | .error raw => t.giveUp clock n finish (t.classify clock n raw)
  | left + 1 =>
    let finish := now + (op n).takes
    Run.after [(now, .called n)] <| match (op n).result with
      | .ok value => t.succeed clock n finish value
      | .error raw =>
        let f := t.classify clock n raw
        if t.policy.allows f then
          let delay := t.policy.delay n f
          let wake := delay.endFrom finish
          let cancelled := cancelledAfter (op n) finish cancelled
          Run.after (t.emit finish (t.event clock n (.retry delay f))) <|
            match abortedAt cancelled finish wake with
            | some moment => ⟨.aborted t.channel n, [], moment⟩
            | none => attempt t op cancelled (n + 1) wake left
        else t.giveUp clock n finish f

def run (t : Task) (op : Operation α) (cancelled : Option Nat) : Run α :=
  t.attempt clock op cancelled 1 t.started (t.policy.attemptLimit - 1)

end Task

namespace Policies

/-- The task of running an operation with a policy, which the blacklist limits. -/
def task (ps : Policies) (channel : String) (p : Policy) (scope : Dict Json) (started : Nat) :
    Task where
  channel := channel
  policy := ps.limit channel p
  scope := scope
  started := started

end Policies

end Resilience
