import Resilience.Command.Run
import Resilience.Proofs.Failure.RoundTrip
import Resilience.Proofs.Friendly.View
import Resilience.Proofs.Json.Reading

/-!
# What is seen beyond a boundary

A failure that crosses a boundary as JSON is told there as it would have been told before. So it is
where the text of this JSON is inspected, if the text is read as this JSON (`Failure.told_beyond`);
with a floating-point number in it, the text may be read as other JSON
(`Command.inspected_otherwise`).
-/

namespace Resilience

/-! ## The text of a record -/

theorem Json.legible_of_mem_map_str {depth : Nat} {s : Option String} :
    ∀ v ∈ s.map Json.str, Json.Legible depth v := by
  intro v hv
  obtain ⟨s, _, rfl⟩ := Option.map_eq_some_iff.1 hv
  exact .str s

namespace Record

variable {depth : Nat} {r : Record}

theorem itemsJson_eq (rs : List Record) : itemsJson rs = rs.map toJson := by
  induction rs with
  | nil => rfl
  | cons i rest ih => rw [itemsJson, ih, List.map_cons]

theorem eq_of_mem_innerJson {rs : List Record} {v : Json} (h : v ∈ innerJson rs) :
    v = .arr (rs.map toJson) := by
  cases rs with
  | nil => cases h
  | cons i rest =>
    cases h
    rw [itemsJson_eq, List.map_cons]

theorem exists_of_mem_causeJson {cause : Option Record} {v : Json} (h : v ∈ causeJson cause) :
    ∃ c ∈ cause, v = c.toJson := by
  cases cause with
  | none => cases h
  | some c =>
    cases h
    exact ⟨c, rfl, rfl⟩

theorem legible_metadataJson (hcontext : ∀ e ∈ r.context.entries, Json.Legible depth e.2)
    (hinner : ∀ i ∈ r.inner, Json.Legible depth i.toJson) :
    Json.Legible (depth + 2) r.metadataJson := by
  have hcontextMember : ∀ v ∈ contextMember r.context, Json.Legible (depth + 1) v := by
    intro v hv
    unfold contextMember at hv
    split at hv
    · cases hv
    · cases hv
      exact .obj r.context hcontext
  have hinnerJson : ∀ v ∈ innerJson r.inner, Json.Legible (depth + 1) v := by
    intro v hv
    rw [eq_of_mem_innerJson hv]
    exact .arr (List.forall_mem_map.2 hinner)
  have hretryCount : Json.Legible (depth + 1) (.nat r.retryCount.toNat) := by
    have hlt := r.retryCount.toNat_lt
    exact .int (by omega) (by omega)
  have hkeys : ["context", "innerErrors", "operation", "resource", "retryCount",
    "timestamp"].Pairwise (· < ·) := by decide
  refine Json.Legible.objSome hkeys ?_
  simp only [List.forall_mem_cons]
  refine ⟨hcontextMember, hinnerJson, Json.legible_of_mem_map_str, Json.legible_of_mem_map_str,
    ?_, ?_, by simp⟩
  · rintro v ⟨⟩
    exact hretryCount
  · rintro v ⟨⟩
    exact .str _

/-- The text of a record can be read if its parts can: the cause stands in the record itself, inner
errors and the values of the context two levels further in. -/
theorem legible_toJson (hcontext : ∀ e ∈ r.context.entries, Json.Legible depth e.2)
    (hinner : ∀ i ∈ r.inner, Json.Legible depth i.toJson)
    (hcause : ∀ c ∈ r.cause, Json.Legible (depth + 2) c.toJson) :
    Json.Legible (depth + 3) r.toJson := by
  have hcauseJson : ∀ v ∈ causeJson r.cause, Json.Legible (depth + 2) v := by
    intro v hv
    obtain ⟨c, hc, rfl⟩ := exists_of_mem_causeJson hv
    exact hcause c hc
  have hkeys : ["category", "cause", "code", "message", "metadata", "name", "severity",
    "stack"].Pairwise (· < ·) := by decide
  rw [toJson_eq]
  refine Json.Legible.objSome hkeys ?_
  simp only [List.forall_mem_cons, Option.mem_some_iff, forall_eq']
  exact ⟨.str _, hcauseJson, .str _, .str _, legible_metadataJson hcontext hinner, .str _, .str _,
    Json.legible_of_mem_map_str, by simp⟩

end Record

/-! ## Told alike -/

theorem Failure.bare_looksLike (f : Failure) : f.LooksLike f.bare := by
  have hchain : f.chain.map (fun c => (c.code, c.message)) =
      f.bare.chain.map fun c => (c.code, c.message) := by
    rw [chain_bare, List.map_map]
    refine List.map_congr_left fun c _ => ?_
    cases c
    rfl
  cases f
  exact ⟨rfl, rfl, rfl, rfl, rfl, rfl, rfl, rfl, hchain⟩

theorem Failure.bare_stack (f : Failure) : f.bare.stack = f.stack := by
  cases f
  rfl

namespace Command

variable {w : World} {settings : Settings} {color development json : Bool} {before : List LogLine}
  {s : Situation} {f g : Failure} {file text : String}

theorem tell_congr (h : f.LooksLike g) (hstack : f.stack = g.stack) :
    tell w settings color development json before g s =
      tell w settings color development json before f s := by
  simp only [tell, Translator.translate_congr _ s h (.inr hstack), Translator.classify_congr _ h,
    h.code, Friendly.toJson_failure, Terminal.render_failure]

theorem inspectFile_toJson (hfile : w.disk file = .file text)
    (hread : Json.read? text = some f.toJson) :
    inspectFile w settings color development json file =
      tell w settings color development json [.valid f.code] f {} := by
  have hvalid : Record.validate w.now f.toJson = .ok f.toRecord :=
    Record.validate_toJson w.now f.toRecord
  have hcode : f.toRecord.code = f.code := by
    cases f
    rfl
  simp only [inspectFile, hfile, hread, hvalid, hcode, Failure.ofRecord_toRecord]
  exact tell_congr f.bare_looksLike f.bare_stack.symm

end Command

/-- A failure that was decoded from its JSON is told as the failure itself. To inspect a file whose
text is read as this JSON is to tell of the failure, and the compact text of the JSON is read so if
it is legible. -/
theorem Failure.told_beyond (t : Translator) (f : Failure) (s : Situation) (now : Timestamp) :
    (∃ g, ofJson now f.toJson = .ok g ∧ (t.translate g s).toJson = (t.translate f s).toJson ∧
      ∀ theme color, Terminal.render theme color (t.translate g s) =
        Terminal.render theme color (t.translate f s)) ∧
    (∀ (w : Command.World) (settings : Settings) (color development json : Bool)
      (file text : String), w.disk file = .file text → Json.read? text = some f.toJson →
      (Command.Request.inspect file development json).run w settings color =
        Command.tell w settings color development json [.valid f.code] f {}) ∧
    (Json.Legible Json.maxDepth f.toJson → Json.read? f.toJson.compact = some f.toJson) := by
  refine ⟨⟨f.bare, ofJson_toJson now f, ?_⟩, ?_, Json.read?_compact⟩
  · rw [Translator.translate_congr t s f.bare_looksLike (.inr f.bare_stack.symm)]
    exact ⟨Friendly.toJson_failure _ _, fun theme color => Terminal.render_failure theme color _ _⟩
  · intro w settings color development json file text hfile hread
    exact Command.inspectFile_toJson hfile hread

namespace Command

/-- A disk on which every file has this text. -/
def World.holding (text : String) : World := { now := default, disk := fun _ => .file text }

/-- A service that could not be reached; its name is a number. -/
def unreached (service : Binary64) : Failure :=
  (Failure.make default "refused" "ECONNREFUSED" .network).withContext "service" (.float service)

theorem told_beyond_unreached :
    Json.Legible Json.maxDepth (unreached .one).toJson ∧
    (Request.inspect "error.json" false false).run (.holding (unreached .one).toJson.compact) {}
      false = tell (.holding (unreached .one).toJson.compact) {} false false false
        [.valid "ECONNREFUSED"] (unreached .one) {} := by
  have hlegible : Json.Legible Json.maxDepth (unreached .one).toJson := by
    have hone : (Number.float .one).Legible := by
      unfold Number.Legible
      decide +kernel
    refine @Record.legible_toJson 124 _ (fun e he => ?_) (by rintro i ⟨⟩) (by rintro c ⟨⟩)
    cases List.mem_singleton.1 he
    exact .float hone
  obtain ⟨_, hinspect, hread⟩ := Failure.told_beyond {} (unreached .one) {} default
  exact ⟨hlegible, hinspect _ {} false false false "error.json" _ rfl (hread hlegible)⟩

/-- The number nearest to `1e-23` is written so, and what is written so is read as the number above
it. -/
theorem inspected_otherwise :
    ((Request.inspect "error.json" false false).run
      (.holding (unreached ⟨0x3b282db34012b251⟩).toJson.compact) {} false).out ≠
    Terminal.render {} false (({} : Settings).translator.translator.translate
      (unreached ⟨0x3b282db34012b251⟩) {}) := by
  have hread : Json.read? (unreached ⟨0x3b282db34012b251⟩).toJson.compact =
    some (unreached ⟨0x3b282db34012b252⟩).toJson := by decide +kernel
  have hinspect := @inspectFile_toJson (.holding (unreached ⟨0x3b282db34012b251⟩).toJson.compact)
    {} false false false (unreached ⟨0x3b282db34012b252⟩) "error.json" _ rfl hread
  rw [Request.run, hinspect, tell]
  decide +kernel

end Command

end Resilience
