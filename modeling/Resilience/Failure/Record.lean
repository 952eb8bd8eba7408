import Resilience.Failure.Basic

/-!
Wire records: what of a failure crosses a process boundary, its JSON form, and the check of values
that claim to be one. A native cause stays behind.
-/

namespace Resilience

structure Record where
  name : String
  message : String
  code : String
  category : Category
  severity : Severity
  timestamp : Timestamp
  operation : Option String
  resource : Option String
  context : Dict Json
  retryCount : UInt32
  inner : List Record
  cause : Option Record
  stack : Option String

/-! ## Records of failures -/

namespace Failure

mutual

def toRecord : Failure → Record
  | ⟨name, message, code, category, severity, timestamp, operation, resource, context, retryCount,
      inner, cause, stack⟩ =>
    ⟨name, message, code, category, severity, timestamp, operation, resource, context, retryCount,
      toRecords inner, causeRecord cause, stack⟩

def toRecords : List Failure → List Record
  | [] => []
  | f :: rest => toRecord f :: toRecords rest

def causeRecord : Cause Failure → Option Record
  | .absent => none
  | .failure f => some (toRecord f)
  | .native _ => none

end

mutual

def ofRecord : Record → Failure
  | ⟨name, message, code, category, severity, timestamp, operation, resource, context, retryCount,
      inner, cause, stack⟩ =>
    ⟨name, message, code, category, severity, timestamp, operation, resource, context, retryCount,
      ofRecords inner, recordCause cause, stack⟩

def ofRecords : List Record → List Failure
  | [] => []
  | r :: rest => ofRecord r :: ofRecords rest

def recordCause : Option Record → Cause Failure
  | none => .absent
  | some r => .failure (ofRecord r)

end

end Failure

namespace Record

/-! ## Writing -/

/-- Members that are left out when they are empty. -/
def contextMember (context : Dict Json) : Option Json :=
  if context.isEmpty then none else some (Json.ofDict context)

mutual

def toJson : Record → Json
  | ⟨name, message, code, category, severity, timestamp, operation, resource, context, retryCount,
      inner, cause, stack⟩ =>
    Json.objSome
      [("category", some (.str category.name)),
        ("cause", causeJson cause),
        ("code", some (.str code)),
        ("message", some (.str message)),
        ("metadata", some (Json.objSome
          [("context", contextMember context),
            ("innerErrors", innerJson inner),
            ("operation", operation.map .str),
            ("resource", resource.map .str),
            ("retryCount", some (.nat retryCount.toNat)),
            ("timestamp", some (.str timestamp.text))])),
        ("name", some (.str name)),
        ("severity", some (.str severity.name)),
        ("stack", stack.map .str)]

def causeJson : Option Record → Option Json
  | none => none
  | some r => some (toJson r)

def innerJson : List Record → Option Json
  | [] => none
  | r :: rest => some (.arr (toJson r :: itemsJson rest))

def itemsJson : List Record → List Json
  | [] => []
  | r :: rest => toJson r :: itemsJson rest

end

end Record

/-! ## Decoding -/

namespace Json

/-- What stands under a name in a value that has named fields. An array gives them by position; what
it does not reach is missing. -/
def fields? (names : List String) : Json → Option (String → Option Json)
  | .obj members => some (Json.obj members).get?
  | .arr items =>
    if items.length ≤ names.length then some fun name => items[names.idxOf name]? else none
  | _ => none

theorem sizeOf_fields? {names : List String} {v w : Json} {field : String → Option Json}
    {name : String} (h : v.fields? names = some field) (hw : field name = some w) :
    sizeOf w < sizeOf v := by
  cases v with
  | obj members =>
    cases h
    exact sizeOf_get? hw
  | arr items =>
    simp only [fields?, Option.ite_none_right_eq_some, Option.some.injEq] at h
    obtain ⟨_, rfl⟩ := h
    have := List.sizeOf_lt_of_mem (List.mem_of_getElem? hw)
    simp
    omega
  | _ => simp [fields?] at h

/-- The items of an array that may be missing. -/
def items? : Option Json → Option (List Json)
  | none => some []
  | some (.arr items) => some items
  | some _ => none

theorem items?_eq_some {v : Option Json} {items : List Json} :
    items? v = some items ↔ v = none ∧ items = [] ∨ v = some (.arr items) := by
  unfold items?
  split <;> simp_all [eq_comm]

/-- A value that may be missing or null. -/
def present? : Option Json → Option Json
  | none | some .null => none
  | some w => some w

theorem present?_eq_some {v : Option Json} {w : Json} :
    present? v = some w ↔ v = some w ∧ w ≠ .null := by
  unfold present?
  split
  · simp
  · simp [eq_comm]
  · next u hne =>
    simp only [Option.some.injEq]
    constructor
    · rintro rfl
      exact ⟨rfl, hne⟩
    · exact And.left

/-- A choice is a name, or an object whose only member is named so and is null. -/
def variant? : Json → Option String
  | .str s => some s
  | .obj [(k, .null)] => some k
  | _ => none

/-- A text that may be missing or null. -/
def optText? : Option Json → Option (Option String)
  | none | some .null => some none
  | some (.str s) => some (some s)
  | some _ => none

/-- An integer from zero up to, not including, `bound`. -/
def natBelow? (bound : Nat) : Json → Option Nat
  | .num (.int n) => if 0 ≤ n ∧ n < bound then some n.toNat else none
  | _ => none

end Json

namespace Record

def fields : List String :=
  ["name", "message", "code", "category", "severity", "metadata", "cause", "stack"]

def metadataFields : List String :=
  ["timestamp", "operation", "resource", "context", "retryCount", "innerErrors"]

def textOf? (w : Option Json) : Option String := w.bind Json.str?

def choiceOf? {α : Type} (ofName? : String → Except UnknownName α) (w : Option Json) : Option α :=
  (w.bind Json.variant?).bind fun name => (ofName? name).toOption

def timestampOf? (now : Timestamp) : Option Json → Option Timestamp
  | none => some now
  | some (.str s) => Timestamp.ofText? s
  | some _ => none

def contextOf? : Option Json → Option (Dict Json)
  | none => some Dict.empty
  | some (.obj members) => some (Dict.ofList members)
  | some _ => none

def retryCountOf? : Option Json → Option UInt32
  | none => some 0
  | some v => (v.natBelow? UInt32.size).map Nat.toUInt32

/-- What a record has of its own, besides its inner errors and its cause. A missing time is now. -/
def own? (now : Timestamp) (field metadata : String → Option Json) : Option Record := do
  some {
    name := ← textOf? (field "name")
    message := ← textOf? (field "message")
    code := ← textOf? (field "code")
    category := ← choiceOf? Category.ofName? (field "category")
    severity := ← choiceOf? Severity.ofName? (field "severity")
    timestamp := ← timestampOf? now (metadata "timestamp")
    operation := ← Json.optText? (metadata "operation")
    resource := ← Json.optText? (metadata "resource")
    context := ← contextOf? (metadata "context")
    retryCount := ← retryCountOf? (metadata "retryCount")
    inner := []
    cause := none
    stack := ← Json.optText? (field "stack") }

/-- A record of which the inner errors and the cause are yet to be decoded. -/
structure Outline where
  own : Record
  inner : List Json
  cause : Option Json

def Outline.fill (d : Outline) (inner : List Record) (cause : Option Record) : Record :=
  { d.own with inner, cause }

def outline? (now : Timestamp) (v : Json) : Option Outline := do
  let field ← v.fields? fields
  let metadata ← (← field "metadata").fields? metadataFields
  let inner ← Json.items? (metadata "innerErrors")
  let own ← own? now field metadata
  some ⟨own, inner, Json.present? (field "cause")⟩

theorem outline?_eq_some {now : Timestamp} {v : Json} {d : Outline} :
    outline? now v = some d ↔ ∃ field m metadata, v.fields? fields = some field ∧
      field "metadata" = some m ∧ m.fields? metadataFields = some metadata ∧
      Json.items? (metadata "innerErrors") = some d.inner ∧
      own? now field metadata = some d.own ∧ Json.present? (field "cause") = d.cause := by
  constructor
  · intro h
    simp only [outline?, Option.bind_eq_bind, Option.bind_eq_some_iff, Option.some.injEq] at h
    obtain ⟨field, hfield, m, hm, metadata, hmetadata, inner, hinner, own, hown, rfl⟩ := h
    exact ⟨field, m, metadata, hfield, hm, hmetadata, hinner, hown, rfl⟩
  · rintro ⟨field, m, metadata, hfield, hm, hmetadata, hinner, hown, hcause⟩
    simp [outline?, hfield, hm, hmetadata, hinner, hown, hcause]

/-- What is inside a record is smaller than the record. -/
theorem Outline.sizeOf_lt {now : Timestamp} {v w : Json} {d : Outline}
    (h : outline? now v = some d) (hw : w ∈ d.inner ∨ d.cause = some w) :
    sizeOf w < sizeOf v := by
  obtain ⟨field, m, metadata, hfield, hm, hmetadata, hinner, _, hcause⟩ := outline?_eq_some.1 h
  rcases hw with hw | hw
  · have hlt := Json.sizeOf_fields? hfield hm
    rcases Json.items?_eq_some.1 hinner with ⟨_, hnil⟩ | hitems
    · rw [hnil] at hw
      cases hw
    · have hmem := List.sizeOf_lt_of_mem hw
      have := Json.sizeOf_fields? hmetadata hitems
      simp at this
      omega
  · exact Json.sizeOf_fields? hfield (Json.present?_eq_some.1 (hcause.trans hw)).1

/-- Decodes a record. -/
def ofJson? (now : Timestamp) (v : Json) : Option Record :=
  match _ : outline? now v with
  | none => none
  | some d => do
    let inner ← d.inner.attach.mapM fun w => ofJson? now w.1
    let cause ← d.cause.attach.mapM fun w => ofJson? now w.1
    some (d.fill inner cause)
termination_by sizeOf v
decreasing_by
  · exact Outline.sizeOf_lt ‹_› (.inl w.2)
  · exact Outline.sizeOf_lt ‹_› (.inr w.2)

theorem ofJson?_eq (now : Timestamp) (v : Json) : ofJson? now v =
    (outline? now v).bind fun d => (d.inner.mapM (ofJson? now)).bind fun inner =>
      (d.cause.mapM (ofJson? now)).bind fun cause => some (d.fill inner cause) := by
  rw [ofJson?]
  cases outline? now v with
  | none => rfl
  | some d =>
    have hinner : (d.inner.attach.mapM fun w => ofJson? now w.1) = d.inner.mapM (ofJson? now) := by
      rw [List.mapM_subtype (fun _ _ => rfl), List.unattach_attach]
    have hcause : (d.cause.attach.mapM fun w => ofJson? now w.1) = d.cause.mapM (ofJson? now) := by
      cases d.cause <;> rfl
    dsimp only
    rw [hinner, hcause]
    rfl

end Record

/-! ## Checking -/

/-- Why a value is not a wire record. -/
inductive SchemaError where
  | notAnObject
  | missing (field : String)
  | notText (field : String)
  | notObject (field : String)
  | unknownName (field : String) (reason : UnknownName)
  | inCause (reason : SchemaError)
  /-- The fields are there, but what is in them does not decode. -/
  | malformed
deriving DecidableEq

def SchemaError.message : SchemaError → String
  | notAnObject => "serialized error must be a JSON object"
  | missing field => "missing required field: " ++ field
  | notText field => "invalid field " ++ field ++ ": expected a string"
  | notObject field => "invalid field " ++ field ++ ": expected an object"
  | unknownName field reason => "invalid field " ++ field ++ ": " ++ reason.message
  | inCause reason => "invalid field cause: " ++ reason.message
  | malformed => "malformed serialized error"

namespace Record

def textField (v : Json) (field : String) : Except SchemaError String :=
  match v.get? field with
  | some (.str s) => .ok s
  | some _ => .error (.notText field)
  | none => .error (.missing field)

/-- The checks that are made of a record and of its causes, in their order. -/
def checkFields (v : Json) : Except SchemaError Unit := do
  match v with
  | .obj _ => pure ()
  | _ => throw .notAnObject
  discard <| textField v "name"
  discard <| textField v "message"
  discard <| textField v "code"
  discard <| (Category.ofName? (← textField v "category")).mapError (.unknownName "category")
  discard <| (Severity.ofName? (← textField v "severity")).mapError (.unknownName "severity")
  match v.get? "metadata" with
  | some (.obj _) => pure ()
  | some _ => throw (.notObject "metadata")
  | none => throw (.missing "metadata")

/-- Checks a value and decodes it. -/
def validate (now : Timestamp) (v : Json) : Except SchemaError Record := do
  checkFields v
  match h : v.get? "cause" with
  | none | some .null => pure ()
  | some c =>
    have : sizeOf c < sizeOf v := Json.sizeOf_get? h
    discard <| (validate now c).mapError .inCause
  match ofJson? now v with
  | some r => .ok r
  | none => .error .malformed
termination_by sizeOf v

end Record

namespace Failure

def toJson (f : Failure) : Json := f.toRecord.toJson

def ofJson (now : Timestamp) (v : Json) : Except SchemaError Failure :=
  (Record.validate now v).map ofRecord

end Failure

end Resilience
