import Resilience.Dispatch.Breadcrumb

/-!
Reports of failures: the wire record, with what was known when it was reported.
-/

namespace Resilience

structure Report where
  error : Record
  breadcrumbs : List Breadcrumb
  context : Dict Json
  reportedAt : Timestamp

namespace Report

def toJson (r : Report) : Json :=
  .obj
    [("breadcrumbs", .arr (r.breadcrumbs.map (·.toJson))),
      ("context", Json.ofDict r.context),
      ("error", r.error.toJson),
      ("reportedAt", .str r.reportedAt.text)]

/-- Decodes a report. A failure in it that has no time happened now. -/
def ofJson? (now : Timestamp) (v : Json) : Option Report := do
  let error ← v.get? "error"
  let breadcrumbs ← v.get? "breadcrumbs"
  let context ← v.get? "context"
  let reportedAt ← v.get? "reportedAt"
  match breadcrumbs with
  | .arr breadcrumbs =>
    some {
      error := ← Record.ofJson? now error
      breadcrumbs := ← breadcrumbs.mapM Breadcrumb.ofJson?
      context := ← Record.contextOf? (some context)
      reportedAt := ← Timestamp.ofText? (← reportedAt.str?) }
  | _ => none

/-- The records that a report is made of. -/
inductive Part where
  | report
  | breadcrumb
  | failure
  | metadata

def grammar : Json.Grammar Part
  | .report =>
    [("error", .record .failure), ("breadcrumbs", .records .breadcrumb), ("context", .any),
      ("reportedAt", .any)]
  | .breadcrumb => Breadcrumb.fields
  | .failure => Record.fields.map fun field => (field, match field with
    | "category" | "severity" => .choice
    | "metadata" => .record .metadata
    | "cause" => .record .failure
    | _ => .any)
  | .metadata => Record.metadataFields.map fun field => (field, match field with
    | "innerErrors" => .records .failure
    | _ => .any)

def ofText? (now : Timestamp) (text : String) : Option Report :=
  (Json.readRecord? grammar .report text).bind (ofJson? now)

end Report

end Resilience
