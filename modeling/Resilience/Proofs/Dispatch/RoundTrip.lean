import Resilience.Dispatch.Report
import Resilience.Proofs.Friendly.Crossing
import Resilience.Proofs.Json.Conforming

/-!
# Reports across a boundary

A report comes back from its JSON, and from the text of its JSON, as it was, but for breadcrumbs whose
data are null: these are written apart from breadcrumbs without data, and read like them
(`Report.json_round_trip`). Null values anywhere else are kept.
-/

namespace Resilience

open Json (Conforms Grammar Legible)

/-! ## Breadcrumbs -/

namespace Breadcrumb

variable {b : Breadcrumb} {depth : Nat}

/-- The breadcrumb without data that are null. -/
def recalled (b : Breadcrumb) : Breadcrumb := { b with data := b.data.filter (!·.isNull) }

theorem recalled_eq_iff : b.recalled = b ↔ b.data ≠ some .null := by
  obtain ⟨timestamp, level, message, category, data⟩ := b
  cases data with
  | none => simp [recalled]
  | some v => cases v <;> simp [recalled, Json.isNull]

theorem Level.ofName?_name (l : Level) : ofName? l.name = some l := by
  cases l <;> rfl

theorem pairwise_keys : ["category", "data", "level", "message", "timestamp"].Pairwise (· < ·) := by
  decide

/-- What stands under a name in the JSON of a breadcrumb. -/
theorem get?_toJson (b : Breadcrumb) :
    b.toJson.get? "timestamp" = some (.str b.timestamp.text) ∧
      b.toJson.get? "level" = some (.str b.level.name) ∧
      b.toJson.get? "message" = some (.str b.message) ∧
      b.toJson.get? "category" = some (.str b.category) ∧ b.toJson.get? "data" = b.data := by
  have hkeys := pairwise_keys.imp String.ne_of_lt
  rw [toJson]
  refine ⟨?_, ?_, ?_, ?_, ?_⟩ <;> exact Json.get?_objSome (by exact hkeys) _

theorem ofJson?_toJson (b : Breadcrumb) : ofJson? b.toJson = some b.recalled := by
  obtain ⟨htimestamp, hlevel, hmessage, hcategory, hdata⟩ := b.get?_toJson
  simp only [ofJson?, htimestamp, hlevel, hmessage, hcategory, hdata, Option.bind_eq_bind,
    Option.bind_some, Json.str?, Json.variant?, Timestamp.ofText?_text, Level.ofName?_name, recalled]

/-- What is written tells null data and no data apart. -/
theorem toJson_injective : Function.Injective toJson := by
  intro b c h
  have hrecalled : b.recalled = c.recalled := by
    rw [← Option.some_inj, ← ofJson?_toJson, ← ofJson?_toJson, h]
  have hdata : b.data = c.data := by
    obtain ⟨_, _, _, _, hb⟩ := b.get?_toJson
    obtain ⟨_, _, _, _, hc⟩ := c.get?_toJson
    rw [← hb, ← hc, h]
  cases b
  cases c
  simp only [recalled, mk.injEq] at hrecalled hdata ⊢
  exact ⟨hrecalled.1, hrecalled.2.1, hrecalled.2.2.1, hrecalled.2.2.2.1, hdata⟩

theorem mapM_toJson (bs : List Breadcrumb) :
    (bs.map toJson).mapM ofJson? = some (bs.map recalled) := by
  induction bs with
  | nil => rfl
  | cons b rest ih =>
    rw [List.map_cons, List.mapM_cons, ofJson?_toJson, ih]
    rfl

theorem conforms_toJson {σ : Type} {g : Grammar σ} {name : σ} (hname : g name = fields)
    (b : Breadcrumb) : Conforms g (.record name) b.toJson := by
  refine Conforms.objSome pairwise_keys ?_
  simp only [List.forall_mem_cons, Option.mem_some_iff, forall_eq', hname]
  exact ⟨⟨_, rfl, .any _⟩, fun v _ => ⟨_, rfl, .any v⟩, ⟨_, rfl, .choice _⟩, ⟨_, rfl, .any _⟩,
    ⟨_, rfl, .any _⟩, by simp⟩

theorem legible_toJson (hdata : ∀ v ∈ b.data, Legible depth v) : Legible (depth + 1) b.toJson := by
  refine Legible.objSome pairwise_keys ?_
  simp only [List.forall_mem_cons, Option.mem_some_iff, forall_eq']
  exact ⟨.str _, hdata, .str _, .str _, .str _, by simp⟩

theorem ofText?_compact (h : Legible Json.maxDepth b.toJson) :
    ofText? b.toJson.compact = ofJson? b.toJson := by
  rw [ofText?, Json.readRecord?_compact h (conforms_toJson rfl b), Option.bind_some]

end Breadcrumb

/-! ## Records -/

namespace Record

open Report (grammar)

variable {r : Record}

theorem conforms_metadataJson (hinner : ∀ i ∈ r.inner, Conforms grammar (.record .failure) i.toJson) :
    Conforms grammar (.record .metadata) r.metadataJson := by
  have hinnerJson : ∀ v ∈ innerJson r.inner, Conforms grammar (.records .failure) v := by
    intro v hv
    rw [eq_of_mem_innerJson hv]
    exact .records (List.forall_mem_map.2 hinner)
  have hkeys : ["context", "innerErrors", "operation", "resource", "retryCount",
    "timestamp"].Pairwise (· < ·) := by decide
  refine Conforms.objSome hkeys ?_
  simp only [List.forall_mem_cons, Option.mem_some_iff, forall_eq']
  exact ⟨fun v _ => ⟨_, rfl, .any v⟩, fun v hv => ⟨_, rfl, hinnerJson v hv⟩,
    fun v _ => ⟨_, rfl, .any v⟩, fun v _ => ⟨_, rfl, .any v⟩, ⟨_, rfl, .any _⟩, ⟨_, rfl, .any _⟩,
    by simp⟩

theorem sizeOf_inner {i : Record} (h : i ∈ r.inner) : sizeOf i < sizeOf r := by
  have := List.sizeOf_lt_of_mem h
  cases r
  simp at this ⊢
  omega

/-- By recursion into the inner errors and the cause. -/
theorem conforms_toJson (r : Record) : Conforms grammar (.record .failure) r.toJson := by
  have hmetadata : Conforms grammar (.record .metadata) r.metadataJson :=
    conforms_metadataJson fun i hi => conforms_toJson i
  have hcause : ∀ v ∈ causeJson r.cause, Conforms grammar (.record .failure) v := by
    intro v hv
    obtain ⟨c, hc, rfl⟩ := exists_of_mem_causeJson hv
    exact conforms_toJson c
  have hkeys : ["category", "cause", "code", "message", "metadata", "name", "severity",
    "stack"].Pairwise (· < ·) := by decide
  rw [toJson_eq]
  refine Conforms.objSome hkeys ?_
  simp only [List.forall_mem_cons, Option.mem_some_iff, forall_eq']
  exact ⟨⟨_, rfl, .choice _⟩, fun v hv => ⟨_, rfl, hcause v hv⟩, ⟨_, rfl, .any _⟩, ⟨_, rfl, .any _⟩,
    ⟨_, rfl, hmetadata⟩, ⟨_, rfl, .any _⟩, ⟨_, rfl, .choice _⟩, fun v _ => ⟨_, rfl, .any v⟩, by simp⟩
termination_by r
decreasing_by
  · exact sizeOf_inner hi
  · exact sizeOf_cause hc

end Record

/-! ## Reports -/

namespace Report

variable {r : Report} {depth : Nat}

/-- The report without data of breadcrumbs that are null. -/
def recalled (r : Report) : Report := { r with breadcrumbs := r.breadcrumbs.map (·.recalled) }

theorem recalled_eq_iff : r.recalled = r ↔ ∀ b ∈ r.breadcrumbs, b.data ≠ some .null := by
  obtain ⟨error, breadcrumbs, context, reportedAt⟩ := r
  have hmap := @List.map_inj_left _ _ breadcrumbs Breadcrumb.recalled id
  rw [List.map_id] at hmap
  simp only [recalled, mk.injEq, true_and, and_true, hmap, id, Breadcrumb.recalled_eq_iff]

/-- What stands under a name in the JSON of a report. -/
theorem get?_toJson (r : Report) :
    r.toJson.get? "error" = some r.error.toJson ∧
      r.toJson.get? "breadcrumbs" = some (.arr (r.breadcrumbs.map (·.toJson))) ∧
      r.toJson.get? "context" = some (Json.ofDict r.context) ∧
      r.toJson.get? "reportedAt" = some (.str r.reportedAt.text) :=
  ⟨rfl, rfl, rfl, rfl⟩

theorem ofJson?_toJson (now : Timestamp) (r : Report) : ofJson? now r.toJson = some r.recalled := by
  obtain ⟨herror, hbreadcrumbs, hcontext, hreportedAt⟩ := r.get?_toJson
  have hread : Record.contextOf? (some (Json.ofDict r.context)) = some r.context :=
    congrArg some (Dict.ofList_entries r.context)
  simp only [ofJson?, herror, hbreadcrumbs, hcontext, hreportedAt, hread, Option.bind_eq_bind,
    Option.bind_some, Json.str?, Timestamp.ofText?_text, Record.ofJson?_toJson,
    Breadcrumb.mapM_toJson, recalled]

theorem toJson_injective : Function.Injective toJson := by
  intro r s h
  have hrecalled : r.recalled = s.recalled := by
    rw [← Option.some_inj, ← ofJson?_toJson default, ← ofJson?_toJson default, h]
  have hbreadcrumbs : r.breadcrumbs.map (·.toJson) = s.breadcrumbs.map (·.toJson) := by
    obtain ⟨_, hr, _⟩ := r.get?_toJson
    obtain ⟨_, hs, _⟩ := s.get?_toJson
    rw [h, hs] at hr
    exact (Json.arr.inj (Option.some.inj hr)).symm
  cases r
  cases s
  simp only [recalled, mk.injEq] at hrecalled hbreadcrumbs ⊢
  exact ⟨hrecalled.1, List.map_injective_iff.2 Breadcrumb.toJson_injective hbreadcrumbs,
    hrecalled.2.2⟩

theorem toJson_eq (r : Report) : r.toJson = Json.objSome
    [("breadcrumbs", some (.arr (r.breadcrumbs.map (·.toJson)))),
      ("context", some (Json.ofDict r.context)),
      ("error", some r.error.toJson),
      ("reportedAt", some (.str r.reportedAt.text))] := rfl

theorem pairwise_keys : ["breadcrumbs", "context", "error", "reportedAt"].Pairwise (· < ·) := by
  decide

theorem conforms_toJson (r : Report) : Conforms grammar (.record .report) r.toJson := by
  have hbreadcrumbs : Conforms grammar (.records .breadcrumb) (.arr (r.breadcrumbs.map (·.toJson))) :=
    .records (List.forall_mem_map.2 fun b _ => b.conforms_toJson rfl)
  rw [toJson_eq]
  refine Conforms.objSome pairwise_keys ?_
  simp only [List.forall_mem_cons, Option.mem_some_iff, forall_eq']
  exact ⟨⟨_, rfl, hbreadcrumbs⟩, ⟨_, rfl, .any _⟩, ⟨_, rfl, r.error.conforms_toJson⟩,
    ⟨_, rfl, .any _⟩, by simp⟩

/-- The text of a report can be read if its parts can. -/
theorem legible_toJson (hdata : ∀ b ∈ r.breadcrumbs, ∀ v ∈ b.data, Legible depth v)
    (hcontext : ∀ e ∈ r.context.entries, Legible (depth + 1) e.2)
    (herror : Legible (depth + 2) r.error.toJson) : Legible (depth + 3) r.toJson := by
  have hbreadcrumbs : Legible (depth + 2) (.arr (r.breadcrumbs.map (·.toJson))) :=
    .arr (List.forall_mem_map.2 fun b hb => Breadcrumb.legible_toJson (hdata b hb))
  rw [toJson_eq]
  refine Legible.objSome pairwise_keys ?_
  simp only [List.forall_mem_cons, Option.mem_some_iff, forall_eq']
  exact ⟨hbreadcrumbs, .obj r.context hcontext, herror, .str _, by simp⟩

theorem ofText?_compact (now : Timestamp) (h : Legible Json.maxDepth r.toJson) :
    ofText? now r.toJson.compact = ofJson? now r.toJson := by
  rw [ofText?, Json.readRecord?_compact h r.conforms_toJson, Option.bind_some]

/-- A report is decoded from its JSON as the same report without the data of breadcrumbs that are null,
so as itself if and only if there are none, although no other report has this JSON; and so is a
breadcrumb. The text of the JSON, if it is legible, is decoded as the JSON is. -/
theorem json_round_trip (now : Timestamp) (r : Report) :
    (ofJson? now r.toJson = some r.recalled ∧
      (ofJson? now r.toJson = some r ↔ ∀ b ∈ r.breadcrumbs, b.data ≠ some .null) ∧
      ∀ s : Report, s.toJson = r.toJson → s = r) ∧
    (∀ b : Breadcrumb, Breadcrumb.ofJson? b.toJson = some b.recalled ∧
      (Breadcrumb.ofJson? b.toJson = some b ↔ b.data ≠ some .null) ∧
      ∀ c : Breadcrumb, c.toJson = b.toJson → c = b) ∧
    (Legible Json.maxDepth r.toJson → ofText? now r.toJson.compact = ofJson? now r.toJson) ∧
    ∀ b : Breadcrumb, Legible Json.maxDepth b.toJson →
      Breadcrumb.ofText? b.toJson.compact = Breadcrumb.ofJson? b.toJson := by
  refine ⟨⟨ofJson?_toJson now r, ?_, fun _ h => toJson_injective h⟩,
    fun b => ⟨b.ofJson?_toJson, ?_, fun _ h => Breadcrumb.toJson_injective h⟩, ofText?_compact now,
    fun b => Breadcrumb.ofText?_compact⟩
  · rw [ofJson?_toJson, Option.some_inj, recalled_eq_iff]
  · rw [Breadcrumb.ofJson?_toJson, Option.some_inj, Breadcrumb.recalled_eq_iff]

/-- A breadcrumb with null for its data. -/
def opened : Breadcrumb := ⟨default, .info, "opened", "file", some .null⟩

/-- A report with null in its context, and with that breadcrumb. -/
def unset : Report where
  error := (Failure.make default "refused" "ECONNREFUSED" .network).toRecord
  breadcrumbs := [opened]
  context := Dict.empty.insert "user" .null
  reportedAt := default

theorem json_round_trip_unset :
    Legible Json.maxDepth unset.toJson ∧ Legible Json.maxDepth opened.toJson ∧
      ofText? default unset.toJson.compact =
        some { unset with breadcrumbs := [{ opened with data := none }] } ∧
      Breadcrumb.ofText? opened.toJson.compact = some { opened with data := none } := by
  have hdata {depth : Nat} : ∀ v ∈ opened.data, Legible depth v := by
    rintro v ⟨⟩
    exact .null
  have hopened : Legible Json.maxDepth opened.toJson := Breadcrumb.legible_toJson hdata
  have hunset : Legible Json.maxDepth unset.toJson := by
    refine @legible_toJson unset 124 ?_ ?_ ?_
    · intro b hb
      cases List.mem_singleton.1 hb
      exact hdata
    · intro e he
      cases List.mem_singleton.1 he
      exact .null
    · exact @Record.legible_toJson 123 _ (by rintro e ⟨⟩) (by rintro i ⟨⟩) (by rintro c ⟨⟩)
  obtain ⟨⟨hreport, _⟩, hbreadcrumb, htext, htexts⟩ := json_round_trip default unset
  exact ⟨hunset, hopened, (htext hunset).trans hreport,
    (htexts opened hopened).trans (hbreadcrumb opened).1⟩

theorem unset_not_recalled : ofJson? default unset.toJson ≠ some unset ∧
    Breadcrumb.ofJson? opened.toJson ≠ some opened := by
  constructor
  · rw [ofJson?_toJson, Ne, Option.some_inj, recalled_eq_iff]
    exact fun h => h opened List.mem_cons_self rfl
  · rw [Breadcrumb.ofJson?_toJson, Ne, Option.some_inj, Breadcrumb.recalled_eq_iff]
    exact fun h => h rfl

end Report

end Resilience
