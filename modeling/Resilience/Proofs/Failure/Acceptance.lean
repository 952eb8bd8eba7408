import Resilience.Failure.Record
import Resilience.Proofs.Except

/-!
# Which values are accepted

What `Record.checkFields` and `Record.validate` ask of a value, each in one lemma
(`Record.checkFields_eq_ok`, `Record.validate_eq_ok`), and what the decoder takes from it
(`Record.ofJson?_eq_some`).
-/

namespace Resilience

/-! ## Names and texts -/

theorem Category.ofName?_eq_ok {name : String} {c : Category} :
    ofName? name = .ok c ↔ name = c.name := by
  constructor
  · intro h
    unfold ofName? at h
    split at h
    · next found =>
      cases h
      simpa [eq_comm] using List.find?_some found
    · cases h
  · rintro rfl
    exact ofName?_name c

theorem Severity.ofName?_eq_ok {name : String} {s : Severity} :
    ofName? name = .ok s ↔ name = s.name := by
  constructor
  · intro h
    unfold ofName? at h
    split at h
    · next found =>
      cases h
      simpa [eq_comm] using List.find?_some found
    · cases h
  · rintro rfl
    exact ofName?_name s

theorem Json.bind_str?_eq_some {w : Option Json} {s : String} :
    w.bind str? = some s ↔ w = some (.str s) := by
  cases w with
  | none => simp
  | some v => cases v <;> simp [str?]

namespace Record

/-! ## Checks -/

/-- What is checked of a record and of its causes before they are decoded. -/
structure Checked (v : Json) : Prop where
  text : ∀ field ∈ ["name", "message", "code"], ∃ s, v.get? field = some (.str s)
  category : ∃ c : Category, v.get? "category" = some (.str c.name)
  severity : ∃ s : Severity, v.get? "severity" = some (.str s.name)
  metadata : ∃ members, v.get? "metadata" = some (.obj members)

theorem Checked.isObj {v : Json} (h : Checked v) : ∃ members, v = .obj members := by
  obtain ⟨members, hmembers⟩ := h.metadata
  cases v with
  | obj members => exact ⟨members, rfl⟩
  | _ => cases hmembers

theorem textField_eq_ok {v : Json} {field s : String} :
    textField v field = .ok s ↔ v.get? field = some (.str s) := by
  unfold textField
  split <;> simp_all

theorem checkFields_eq_ok {v : Json} {u : Unit} : checkFields v = .ok u ↔ Checked v := by
  constructor
  · intro h
    cases v with
    | obj members =>
      simp only [checkFields, Except.bind_eq_ok, Except.discard_eq_ok, textField_eq_ok,
        Except.mapError_eq_ok, Category.ofName?_eq_ok, Severity.ofName?_eq_ok] at h
      obtain ⟨_, hname, _, hmessage, _, hcode, _, hcategory, _, ⟨c, rfl⟩, _, hseverity, _,
        ⟨s, rfl⟩, hmetadata⟩ := h
      refine ⟨?_, ⟨c, hcategory⟩, ⟨s, hseverity⟩, ?_⟩
      · simpa using ⟨hname, hmessage, hcode⟩
      · split at hmetadata
        · exact ⟨_, ‹_›⟩
        · cases hmetadata
        · cases hmetadata
    | _ => cases h
  · intro h
    obtain ⟨members, rfl⟩ := h.isObj
    obtain ⟨⟨name, hname⟩, ⟨message, hmessage⟩, code, hcode⟩ := by simpa using h.text
    obtain ⟨c, hcategory⟩ := h.category
    obtain ⟨s, hseverity⟩ := h.severity
    obtain ⟨metadata, hmetadata⟩ := h.metadata
    simp only [checkFields, Except.bind_eq_ok, Except.discard_eq_ok, textField_eq_ok,
      Except.mapError_eq_ok, Category.ofName?_eq_ok, Severity.ofName?_eq_ok, hmetadata]
    exact ⟨(), ⟨name, hname⟩, (), ⟨message, hmessage⟩, (), ⟨code, hcode⟩, _, hcategory, (),
      ⟨c, rfl⟩, _, hseverity, (), ⟨s, rfl⟩, rfl⟩

/-! ## Decoding -/

theorem ofJson?_eq_some {now : Timestamp} {v : Json} {r : Record} : ofJson? now v = some r ↔
    ∃ d inner cause, outline? now v = some d ∧ d.inner.mapM (ofJson? now) = some inner ∧
      d.cause.mapM (ofJson? now) = some cause ∧ d.fill inner cause = r := by
  simp only [ofJson?_eq, Option.bind_eq_some_iff, Option.some.injEq]
  constructor
  · rintro ⟨d, hd, inner, hinner, cause, hcause, rfl⟩
    exact ⟨d, inner, cause, hd, hinner, hcause, rfl⟩
  · rintro ⟨d, inner, cause, hd, hinner, hcause, rfl⟩
    exact ⟨d, hd, inner, hinner, cause, hcause, rfl⟩

/-- A value is accepted if it has passed the checks, its cause is accepted, and it decodes. -/
theorem validate_eq_ok {now : Timestamp} {v : Json} {r : Record} : validate now v = .ok r ↔
    Checked v ∧ (∀ c, Json.present? (v.get? "cause") = some c → ∃ s, validate now c = .ok s) ∧
      ofJson? now v = some r := by
  rw [validate]
  simp only [Except.bind_eq_ok, checkFields_eq_ok]
  split
  · next h => cases ofJson? now v <;> simp [h, Json.present?]
  · next h => cases ofJson? now v <;> simp [h, Json.present?]
  · next c hne h =>
    have hpresent : Json.present? (v.get? "cause") = some c := by
      rw [h]
      cases c with
      | null => exact (hne rfl).elim
      | _ => rfl
    cases ofJson? now v <;>
      simp [Except.bind_eq_ok, Except.discard_eq_ok, Except.mapError_eq_ok, hpresent]

end Record

end Resilience
