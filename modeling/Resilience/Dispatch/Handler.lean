import Resilience.Failure.Basic

/-!
Handlers of failures: what each is registered for, and how it behaves when it is called.
-/

namespace Resilience

inductive HandlerKey where
  | named (name : String)
  | wildcard
deriving DecidableEq

namespace HandlerKey

def ofText (text : String) : HandlerKey := if text = "*" then wildcard else named text

def text : HandlerKey → String
  | named name => name
  | wildcard => "*"

end HandlerKey

/-- How a call of a handler ends. -/
inductive HandlerEnding where
  | succeeds
  | fails
  | panics
deriving DecidableEq

/-- How a call of a handler goes. -/
structure HandlerBehavior where
  /-- How long the handler waits before it ends, if it waits at all. -/
  wait : Option Span := none
  ending : HandlerEnding
deriving DecidableEq

namespace HandlerBehavior

def succeeds : HandlerBehavior := { ending := .succeeds }

def fails : HandlerBehavior := { ending := .fails }

def panics : HandlerBehavior := { ending := .panics }

def panicsAfter (wait : Span) : HandlerBehavior := { wait := some wait, ending := .panics }

end HandlerBehavior

structure Handler where
  id : Nat
  key : HandlerKey
  label : String
  /-- How a call goes, given how many calls of handlers there were before, and the failure. -/
  behaves : Nat → Failure → HandlerBehavior

/-- The handlers for failures of a name in the order in which they are called: those for the name,
then those for every failure. -/
def Handler.matching (handlers : List Handler) (name : String) : List Handler :=
  handlers.filter (·.key = .named name) ++ handlers.filter (·.key = .wildcard)

/-- How many calls of handlers went well and how many did not. -/
structure DispatchSummary where
  handled : Nat := 0
  failed : Nat := 0
deriving DecidableEq

/-- A handler that panics fails. -/
def DispatchSummary.count (s : DispatchSummary) : HandlerEnding → DispatchSummary
  | .succeeds => { s with handled := s.handled + 1 }
  | .fails | .panics => { s with failed := s.failed + 1 }

end Resilience
