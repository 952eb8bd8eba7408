import Resilience.Friendly.Catalog
import Resilience.Friendly.Rule
import Resilience.Friendly.Scrub
import Resilience.Failure.Raw

/-!
What a user is told about a failure, and how it is made: a template is found by the codes and
messages along the chain of causes, filled in, and scrubbed.
-/

namespace Resilience

/-- Where the application runs. Stacks are shown in development only. -/
inductive Environment where
  | development
  | production
deriving DecidableEq

namespace Environment

def name : Environment → String
  | development => "development"
  | production => "production"

/-- Reads a name or its short form in any case. -/
def ofName? (text : String) : Except UnknownName Environment :=
  let s := String.ofList (text.toList.map Char.toLower)
  if s = "development" ∨ s = "dev" then .ok development
  else if s = "production" ∨ s = "prod" then .ok production
  else .error (.environment s)

end Environment

/-- What the caller knows about where a failure happened. -/
structure Situation where
  channel : Option String := none
  operation : Option String := none
  resource : Option String := none
  retryCount : Option UInt32 := none
  maxRetries : Option UInt32 := none
  /-- Whether details are shown, unless that is left to the kind of failure. -/
  showDetails : Option Bool := none

structure Friendly where
  title : String
  message : String
  suggestion : Option String
  technical : String
  code : String
  category : Category
  severity : Severity
  retryable : Bool
  dismissible : Bool
  showDetails : Bool
  channel : Option String
  operation : Option String
  resource : Option String
  retryCount : UInt32
  failure : Failure

/-- The members in the order in which they are shown. -/
def Friendly.toJson (f : Friendly) : Json :=
  Json.objSome
    [("title", some (.str f.title)),
      ("message", some (.str f.message)),
      ("suggestion", f.suggestion.map .str),
      ("technicalMessage", some (.str f.technical)),
      ("errorCode", some (.str f.code)),
      ("category", some (.str f.category.name)),
      ("severity", some (.str f.severity.name)),
      ("isRetryable", some (.bool f.retryable)),
      ("isDismissible", some (.bool f.dismissible)),
      ("showDetails", some (.bool f.showDetails)),
      ("context", some (Json.objSome
        [("channel", f.channel.map .str),
          ("operation", f.operation.map .str),
          ("resource", f.resource.map .str),
          ("retryCount", some (.nat f.retryCount.toNat))]))]

structure Translator where
  catalog : Catalog := Catalog.builtin
  rules : List Rule := Rule.builtin
  environment : Environment := .production
  /-- Longest message; technical texts may be twice as long. -/
  limit : Nat := Scrub.defaultLimit

namespace Translator

/-- Told when a template fails. -/
def fallback : String := "An unexpected error occurred while describing this problem."

/-- The key of the template for a failure: the first code of the chain that is in the catalog. If
there is none, the first message of the chain that a rule fits decides. -/
def classify (t : Translator) (f : Failure) : String :=
  match f.chain.find? fun g => t.catalog.contains g.code with
  | some g => g.code
  | none =>
    match f.chain.findSome? fun g => Rule.classify t.rules g.message with
    | some key => if t.catalog.contains key then key else Catalog.unknownKey
    | none => Catalog.unknownKey

def context (f : Failure) (s : Situation) : Template.Context :=
  let resource := s.resource.or f.resource
  { channel := s.channel
    operation := s.operation.or f.operation
    resource := resource
    filename := (resource.bind Scrub.firstFileName?).or
      (f.chain.findSome? fun g => Scrub.firstFileName? g.message)
    retryCount := s.retryCount.getD f.retryCount
    maxRetries := s.maxRetries
    details := f.context }

/-- Message and suggestion of a template. If one of them fails, neither is told. -/
def render (t : Template) (c : Template.Context) : String × Option String :=
  match t.message.render c, t.suggestion.map (·.render c) with
  | some message, none => (message, none)
  | some message, some (some suggestion) => (message, some suggestion)
  | _, _ => (fallback, none)

def technical (t : Translator) (f : Failure) : String :=
  let text := "[" ++ f.code ++ "] " ++ f.message
  let text := match t.environment, f.stack with
    | .development, some stack => text ++ "\n" ++ stack
    | _, _ => text
  Scrub.technical t.limit text

def translate (t : Translator) (f : Failure) (s : Situation) : Friendly :=
  let key := t.classify f
  let isUnknown := key = Catalog.unknownKey
  let template := (t.catalog.get? key).getD t.catalog.unknown
  let c := context f s
  let (message, suggestion) := render template c
  { title := template.title
    message := Scrub.message t.limit message
    suggestion := suggestion.map (Scrub.message t.limit)
    technical := t.technical f
    code := f.code
    category := if isUnknown then f.category else template.category
    severity := if isUnknown then f.severity else template.severity
    retryable := template.retryable
    dismissible := template.dismissible
    showDetails := s.showDetails.getD isUnknown
    channel := s.channel
    operation := c.operation
    resource := c.resource.map (Scrub.message t.limit)
    retryCount := c.retryCount
    failure := f }

end Translator

end Resilience
