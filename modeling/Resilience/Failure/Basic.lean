import Resilience.Failure.Category
import Resilience.Json.Basic
import Resilience.Time.Span
import Resilience.Time.Timestamp

/-!
Failures: what went wrong, where, and what caused it. A failure is a value; what changes one of its
parts answers another failure.
-/

namespace Resilience

/-- What a failure came from: nothing known, another failure, or an error from outside, of which
only the text is known. -/
inductive Cause (α : Type) where
  | absent
  | failure (cause : α)
  | native (text : String)

structure Failure where
  /-- The name of its type. -/
  name : String
  message : String
  /-- A stable code for programs. -/
  code : String
  category : Category
  severity : Severity
  timestamp : Timestamp
  /-- The operation, or channel, that failed. -/
  operation : Option String
  /-- What the operation was about: a file, a website. -/
  resource : Option String
  context : Dict Json
  /-- Retries that had been made when this was observed. -/
  retryCount : UInt32
  /-- Failures of parts of the operation. -/
  inner : List Failure
  cause : Cause Failure
  stack : Option String

namespace Failure

/-- A failure with the name and severity of its category, and nothing else known. -/
def make (now : Timestamp) (message code : String) (category : Category) : Failure where
  name := category.typeName
  message := message
  code := code
  category := category
  severity := category.defaultSeverity
  timestamp := now
  operation := none
  resource := none
  context := Dict.empty
  retryCount := 0
  inner := []
  cause := .absent
  stack := none

def withContext (f : Failure) (key : String) (value : Json) : Failure :=
  { f with context := f.context.insert key value }

/-- Entries are put in from left to right. -/
def withContexts (f : Failure) (entries : List (String × Json)) : Failure :=
  { f with context := f.context.insertAll entries }

def withRetryCount (f : Failure) (n : UInt32) : Failure := { f with retryCount := n }

/-- An operation that is known already is kept. -/
def withDefaultOperation (f : Failure) (operation : String) : Failure :=
  { f with operation := some (f.operation.getD operation) }

def withResource (f : Failure) (resource : String) : Failure := { f with resource := some resource }

/-- Whether the failure can be recovered from without help. -/
def recoverable (f : Failure) : Bool :=
  if f.severity = .critical then false
  else match f.category with
    | .network | .externalService | .validation => true
    | .system | .configuration => f.severity ≠ .high
    | _ => f.severity ≤ .medium

/-- The wait that the failure asks for before another attempt. What cannot be recovered from asks
for none, and some failures leave it to the policy. -/
def retryDelay (f : Failure) : Option Span :=
  if !f.recoverable then none
  else match f.category with
    | .network | .externalService => some (Span.ofMillis (1000 <<< min f.retryCount.toNat 5))
    | .fileSystem => some (Span.ofMillis 500)
    | _ => none

mutual

/-- The failure, its cause, the cause of that, as far as these are failures. -/
def chain : Failure → List Failure
  | ⟨name, message, code, category, severity, timestamp, operation, resource, context, retryCount,
      inner, cause, stack⟩ =>
    ⟨name, message, code, category, severity, timestamp, operation, resource, context, retryCount,
      inner, cause, stack⟩ :: causeChain cause

def causeChain : Cause Failure → List Failure
  | .absent => []
  | .failure f => chain f
  | .native _ => []

end

theorem chain_eq (f : Failure) : f.chain = f :: causeChain f.cause := by
  cases f; rw [chain]

def rootCause (f : Failure) : Failure := f.chain.getLastD f

inductive Trait where
  | code (code : String)
  | category (category : Category)
  | name (name : String)

def has (f : Failure) : Trait → Bool
  | .code code => f.code = code
  | .category category => f.category = category
  | .name name => f.name = name

/-- Whether the failure or one that caused it has the trait. -/
def concerns (f : Failure) (t : Trait) : Bool := f.chain.any (·.has t)

def source (f : Failure) : Option String :=
  match f.cause with
  | .absent => none
  | .failure c => some c.message
  | .native text => some text

end Failure

end Resilience
