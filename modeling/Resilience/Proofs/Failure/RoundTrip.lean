import Resilience.Failure.Raw
import Resilience.Proofs.Failure.Acceptance
import Resilience.Proofs.Time.Reading

/-!
# Across a boundary and back

A failure that crosses a boundary comes back without the errors from outside that it was caused by,
and is otherwise the same (`Failure.wire_round_trip`).
-/

namespace Resilience

/-! ## Failures without errors from outside -/

namespace Failure

mutual

/-- The failure without causes from outside, at every depth. -/
def bare : Failure → Failure
  | f@⟨_, _, _, _, _, _, _, _, _, _, inner, cause, _⟩ =>
    { f with inner := bareAll inner, cause := bareCause cause }

def bareAll : List Failure → List Failure
  | [] => []
  | f :: rest => bare f :: bareAll rest

def bareCause : Cause Failure → Cause Failure
  | .absent => .absent
  | .failure f => .failure (bare f)
  | .native _ => .absent

end

mutual

/-- What a record keeps of a failure. -/
theorem ofRecord_toRecord : ∀ f : Failure, ofRecord (toRecord f) = f.bare
  | ⟨name, message, code, category, severity, timestamp, operation, resource, context, retryCount,
      inner, cause, stack⟩ => by
    rw [toRecord, ofRecord, bare, ofRecords_toRecords inner, recordCause_causeRecord cause]

theorem ofRecords_toRecords : ∀ fs : List Failure, ofRecords (toRecords fs) = bareAll fs
  | [] => rfl
  | f :: rest => by
    rw [toRecords, ofRecords, bareAll, ofRecord_toRecord f, ofRecords_toRecords rest]

theorem recordCause_causeRecord : ∀ c : Cause Failure, recordCause (causeRecord c) = bareCause c
  | .absent => rfl
  | .failure f => by
    rw [causeRecord, recordCause, bareCause, ofRecord_toRecord f]
  | .native _ => rfl

end

mutual

/-- Nothing of a record is lost in its failure. -/
theorem toRecord_ofRecord : ∀ r : Record, toRecord (ofRecord r) = r
  | ⟨name, message, code, category, severity, timestamp, operation, resource, context, retryCount,
      inner, cause, stack⟩ => by
    rw [ofRecord, toRecord, toRecords_ofRecords inner, causeRecord_recordCause cause]

theorem toRecords_ofRecords : ∀ rs : List Record, toRecords (ofRecords rs) = rs
  | [] => rfl
  | r :: rest => by
    rw [ofRecords, toRecords, toRecord_ofRecord r, toRecords_ofRecords rest]

theorem causeRecord_recordCause : ∀ c : Option Record, causeRecord (recordCause c) = c
  | none => rfl
  | some r => by
    rw [recordCause, causeRecord, toRecord_ofRecord r]

end

mutual

theorem chain_bare : ∀ f : Failure, f.bare.chain = f.chain.map bare
  | ⟨name, message, code, category, severity, timestamp, operation, resource, context, retryCount,
      inner, cause, stack⟩ => by
    rw [chain, bare, chain, causeChain_bareCause cause, List.map_cons, bare]

theorem causeChain_bareCause : ∀ c : Cause Failure,
    causeChain (bareCause c) = (causeChain c).map bare
  | .absent => rfl
  | .failure f => by
    rw [bareCause, causeChain, causeChain, chain_bare f]
  | .native _ => rfl

end

theorem bare_code (f : Failure) : f.bare.code = f.code := by
  cases f
  rw [bare]

theorem has_bare (f : Failure) (t : Trait) : f.bare.has t = f.has t := by
  cases f
  rw [bare]
  cases t <;> rfl

theorem rootCause_bare (f : Failure) : f.bare.rootCause = f.rootCause.bare := by
  rw [rootCause, chain_bare, rootCause, chain_eq]
  simp [List.getLastD_eq_getLast?, List.getLast?_cons]

theorem concerns_bare (f : Failure) (t : Trait) : f.bare.concerns t = f.concerns t := by
  simp only [concerns, chain_bare, List.any_map]
  exact congrArg f.chain.any (funext fun g => has_bare g t)

end Failure

/-! ## Records as JSON -/

theorem Json.optText?_map_str (s : Option String) : optText? (s.map .str) = some s := by
  cases s <;> rfl

namespace Record

theorem contextOf?_contextMember (context : Dict Json) :
    contextOf? (contextMember context) = some context := by
  obtain ⟨entries, ordered⟩ := context
  cases entries with
  | nil => rfl
  | cons head rest => exact congrArg some (Dict.ofList_entries ⟨head :: rest, ordered⟩)

theorem retryCountOf?_nat (n : UInt32) : retryCountOf? (some (.nat n.toNat)) = some n := by
  have hlt : n.toNat < UInt32.size := n.toNat_lt
  simp only [retryCountOf?, Json.nat, Json.natBelow?]
  rw [if_pos ⟨Int.natCast_nonneg _, by exact_mod_cast hlt⟩]
  simp

theorem timestampOf?_text (now t : Timestamp) : timestampOf? now (some (.str t.text)) = some t :=
  Timestamp.ofText?_text t

theorem items?_innerJson (rs : List Record) : Json.items? (innerJson rs) = some (itemsJson rs) := by
  cases rs <;> simp [innerJson, itemsJson, Json.items?]

/-- The member of a record's JSON in which its own data apart from the texts stand. -/
def metadataJson (r : Record) : Json :=
  Json.objSome
    [("context", contextMember r.context),
      ("innerErrors", innerJson r.inner),
      ("operation", r.operation.map .str),
      ("resource", r.resource.map .str),
      ("retryCount", some (.nat r.retryCount.toNat)),
      ("timestamp", some (.str r.timestamp.text))]

theorem toJson_eq (r : Record) : r.toJson = Json.objSome
    [("category", some (.str r.category.name)),
      ("cause", causeJson r.cause),
      ("code", some (.str r.code)),
      ("message", some (.str r.message)),
      ("metadata", some r.metadataJson),
      ("name", some (.str r.name)),
      ("severity", some (.str r.severity.name)),
      ("stack", r.stack.map .str)] := by
  cases r
  rw [toJson, metadataJson]

theorem present?_causeJson (cause : Option Record) :
    Json.present? (causeJson cause) = cause.map toJson := by
  cases cause with
  | none => rfl
  | some r =>
    rw [causeJson, Option.map_some, toJson_eq]
    rfl

/-- What stands under a name in the JSON of a record. -/
theorem get?_toJson (r : Record) :
    r.toJson.get? "name" = some (.str r.name) ∧ r.toJson.get? "message" = some (.str r.message) ∧
      r.toJson.get? "code" = some (.str r.code) ∧
      r.toJson.get? "category" = some (.str r.category.name) ∧
      r.toJson.get? "severity" = some (.str r.severity.name) ∧
      r.toJson.get? "metadata" = some r.metadataJson ∧
      r.toJson.get? "cause" = causeJson r.cause ∧ r.toJson.get? "stack" = r.stack.map .str := by
  rw [toJson_eq]
  simp [Json.get?_objSome, Dict.lookup]

theorem get?_metadataJson (r : Record) :
    r.metadataJson.get? "timestamp" = some (.str r.timestamp.text) ∧
      r.metadataJson.get? "operation" = r.operation.map .str ∧
      r.metadataJson.get? "resource" = r.resource.map .str ∧
      r.metadataJson.get? "context" = contextMember r.context ∧
      r.metadataJson.get? "retryCount" = some (.nat r.retryCount.toNat) ∧
      r.metadataJson.get? "innerErrors" = innerJson r.inner := by
  rw [metadataJson]
  simp [Json.get?_objSome, Dict.lookup]

theorem outline?_toJson (now : Timestamp) (r : Record) : outline? now r.toJson =
    some ⟨{ r with inner := [], cause := none }, itemsJson r.inner, r.cause.map toJson⟩ := by
  obtain ⟨hname, hmessage, hcode, hcategory, hseverity, hmetadata, hcause, hstack⟩ := get?_toJson r
  obtain ⟨htimestamp, hoperation, hresource, hcontext, hretryCount, hinner⟩ := get?_metadataJson r
  refine outline?_eq_some.2 ⟨r.toJson.get?, r.metadataJson, r.metadataJson.get?, ?_, hmetadata, rfl,
    ?_, ?_, ?_⟩
  · rw [toJson_eq]
    rfl
  · rw [hinner, items?_innerJson]
  · simp only [own?, hname, hmessage, hcode, hcategory, hseverity, hstack, htimestamp, hoperation,
      hresource, hcontext, hretryCount, Json.optText?_map_str, contextOf?_contextMember,
      retryCountOf?_nat, timestampOf?_text, textOf?, choiceOf?, Option.bind_eq_bind, Option.bind_some,
      Json.str?, Json.variant?, Category.ofName?_name, Severity.ofName?_name, Except.toOption]
  · rw [hcause, present?_causeJson]

/-! ## Reading back -/

mutual

theorem ofJson?_toJson (now : Timestamp) : ∀ r : Record, ofJson? now r.toJson = some r
  | ⟨_, _, _, _, _, _, _, _, _, _, inner, cause, _⟩ =>
    ofJson?_eq_some.2 ⟨_, inner, cause, outline?_toJson now _, mapM_itemsJson now inner,
      mapM_toJson now cause, rfl⟩

theorem mapM_itemsJson (now : Timestamp) :
    ∀ rs : List Record, (itemsJson rs).mapM (ofJson? now) = some rs
  | [] => rfl
  | r :: rest => by
    rw [itemsJson, List.mapM_cons, ofJson?_toJson now r, mapM_itemsJson now rest]
    rfl

theorem mapM_toJson (now : Timestamp) :
    ∀ cause : Option Record, (cause.map toJson).mapM (ofJson? now) = some cause
  | none => rfl
  | some r => by
    rw [Option.map_some, Option.mapM_some, ofJson?_toJson now r]
    rfl

end

theorem checked_toJson (r : Record) : Checked r.toJson := by
  obtain ⟨hname, hmessage, hcode, hcategory, hseverity, hmetadata, _⟩ := get?_toJson r
  refine ⟨?_, ⟨_, hcategory⟩, ⟨_, hseverity⟩, ⟨_, hmetadata⟩⟩
  simp [hname, hmessage, hcode]

theorem sizeOf_cause {r s : Record} (h : r.cause = some s) : sizeOf s < sizeOf r := by
  cases r
  cases h
  simp
  omega

/-- By recursion along the causes, which are all that is checked before the whole is decoded. -/
theorem validate_toJson (now : Timestamp) (r : Record) : validate now r.toJson = .ok r := by
  refine validate_eq_ok.2 ⟨checked_toJson r, fun c hc => ?_, ofJson?_toJson now r⟩
  obtain ⟨_, _, _, _, _, _, hcause, _⟩ := get?_toJson r
  rw [hcause, present?_causeJson] at hc
  obtain ⟨s, hs, rfl⟩ := Option.map_eq_some_iff.1 hc
  have := sizeOf_cause hs
  exact ⟨s, validate_toJson now s⟩
termination_by r

end Record

/-! ## Failures -/

namespace Failure

theorem ofJson_toJson (now : Timestamp) (f : Failure) : ofJson now f.toJson = .ok f.bare := by
  rw [ofJson, toJson, Record.validate_toJson, Except.map, ofRecord_toRecord]

theorem ofWire_toJson (now : Timestamp) (f : Failure) :
    Raw.ofWire now f.toJson = .failure f.bare := by
  rw [Raw.ofWire, toJson, Record.validate_toJson]
  dsimp only
  rw [ofRecord_toRecord]

/-- A failure comes back from its JSON without the errors from outside that it was caused by, in
itself, in its causes and in its inner errors; all else is kept. And whatever JSON is accepted as a
record, the failure of the record has this record, and the JSON of the record is accepted as it. -/
theorem wire_round_trip :
    (∀ (now : Timestamp) (f : Failure), Raw.ofWire now f.toJson = .failure f.bare ∧
      ofJson now f.toJson = .ok f.bare ∧
      f.bare.chain.map (·.code) = f.chain.map (·.code) ∧ f.bare.rootCause = f.rootCause.bare ∧
      ∀ t, f.bare.concerns t = f.concerns t) ∧
    ∀ (now : Timestamp) (v : Json) (r : Record), Record.validate now v = .ok r →
      (ofRecord r).toRecord = r ∧ ∀ later, Record.validate later r.toJson = .ok r := by
  constructor
  · intro now f
    refine ⟨ofWire_toJson now f, ofJson_toJson now f, ?_, rootCause_bare f, concerns_bare f⟩
    rw [chain_bare, List.map_map]
    exact List.map_congr_left fun g _ => bare_code g
  · intro now v r _
    exact ⟨toRecord_ofRecord r, fun later => Record.validate_toJson later r⟩

end Failure

end Resilience
