import Resilience.Failure.Record
import Resilience.Json.Shape

/-!
Breadcrumbs: what happened before a failure.
-/

namespace Resilience

inductive Breadcrumb.Level where
  | debug
  | info
  | warning
  | error
deriving DecidableEq

namespace Breadcrumb.Level

def name : Level → String
  | debug => "debug"
  | info => "info"
  | warning => "warning"
  | error => "error"

def ofName? (name : String) : Option Level :=
  [debug, info, warning, error].find? (·.name = name)

end Breadcrumb.Level

structure Breadcrumb where
  timestamp : Timestamp
  level : Breadcrumb.Level
  message : String
  category : String
  data : Option Json := none

namespace Breadcrumb

/-- The fields in the order in which an array gives them. -/
def fields {σ : Type} : List (String × Json.Shape σ) :=
  [("timestamp", .any), ("level", .choice), ("message", .any), ("category", .any), ("data", .any)]

def toJson (b : Breadcrumb) : Json :=
  Json.objSome
    [("category", some (.str b.category)),
      ("data", b.data),
      ("level", some (.str b.level.name)),
      ("message", some (.str b.message)),
      ("timestamp", some (.str b.timestamp.text))]

/-- Decodes a breadcrumb. Data that are null are none. -/
def ofJson? (v : Json) : Option Breadcrumb := do
  let timestamp ← v.get? "timestamp"
  let level ← v.get? "level"
  let message ← v.get? "message"
  let category ← v.get? "category"
  some {
    timestamp := ← Timestamp.ofText? (← timestamp.str?)
    level := ← Level.ofName? (← level.variant?)
    message := ← message.str?
    category := ← category.str?
    data := (v.get? "data").filter (!·.isNull) }

def ofText? (text : String) : Option Breadcrumb :=
  (Json.readRecord? (fun () => fields) () text).bind ofJson?

end Breadcrumb

end Resilience
