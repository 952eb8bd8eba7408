import Resilience.Failure.Raw
import Resilience.Proofs.Failure.Acceptance

/-!
# What wrapping keeps

A failure of any shape has its message and its code before it is wrapped and after. A value from beyond
a boundary takes one of three shapes (`Raw.ofWire_cases`), and which of them an object takes makes no
difference to the message, the code and the stack that it gives as texts (`Raw.wrapped_as_told`).
-/

namespace Resilience

/-! ## Texts of records -/

namespace Record

/-- The texts of a record are those of the value. -/
theorem texts_of_own? {now : Timestamp} {field metadata : String → Option Json} {r : Record}
    (h : own? now field metadata = some r) : field "message" = some (.str r.message) ∧
      field "code" = some (.str r.code) ∧ Json.optText? (field "stack") = some r.stack := by
  simp only [own?, Option.bind_eq_bind, Option.bind_eq_some_iff, Option.some.injEq] at h
  obtain ⟨_, _, _, hmessage, _, hcode, _, _, _, _, _, _, _, _, _, _, _, _, _, _, _, hstack, rfl⟩ := h
  exact ⟨Json.bind_str?_eq_some.1 hmessage, Json.bind_str?_eq_some.1 hcode, hstack⟩

theorem texts_of_validate {now : Timestamp} {v : Json} {r : Record} (h : validate now v = .ok r) :
    v.get? "message" = some (.str r.message) ∧ v.get? "code" = some (.str r.code) ∧
      Json.optText? (v.get? "stack") = some r.stack := by
  obtain ⟨hchecked, _, hdecoded⟩ := validate_eq_ok.1 h
  obtain ⟨members, rfl⟩ := hchecked.isObj
  obtain ⟨d, inner, cause, houtline, _, _, rfl⟩ := ofJson?_eq_some.1 hdecoded
  obtain ⟨field, _, metadata, hfield, _, _, _, hown, _⟩ := outline?_eq_some.1 houtline
  cases hfield
  have htexts := texts_of_own? hown
  exact htexts

end Record

/-- An error from outside as an object tells it that is no record. -/
def NativeError.ofObject (v : Json) (message : String) : NativeError where
  name := ((v.get? "name").bind Json.str?).getD "Error"
  message := message
  code := (v.get? "code").bind Json.str?
  stack := (v.get? "stack").bind Json.str?

namespace Raw

variable {now : Timestamp} {r : Raw} {v : Json} {c : String}

/-! ## Before wrapping and after -/

theorem message_toFailure (now : Timestamp) (r : Raw) : (r.toFailure now).message = r.message := by
  cases r <;> rfl

theorem code_toFailure (h : r.code = some c) : (r.toFailure now).code = c := by
  cases r with
  | failure f => exact Option.some.inj h
  | native e =>
    have hcode : e.effectiveCode = some c := h
    exact congrArg (Option.getD · Code.unknown) hcode
  | value v => cases h

theorem code_toFailure_native {e : NativeError} (h : e.effectiveCode = none) :
    ((native e).toFailure now).code = Code.unknown :=
  congrArg (Option.getD · Code.unknown) h

/-- Only what is wrapped for the first time can be without a code. -/
theorem code_toFailure_of_none (h : r.code = none) :
    (∃ e, r = .native e ∧ (r.toFailure now).code = "UNKNOWN_ERROR") ∨
      ∃ v, r = .value v ∧ (r.toFailure now).code = "NON_ERROR_VALUE" := by
  cases r with
  | failure f => cases h
  | native e => exact .inl ⟨e, rfl, code_toFailure_native h⟩
  | value v => exact .inr ⟨v, rfl, rfl⟩

/-! ## The shape of a value -/

/-- Each value takes one of the three shapes. -/
theorem ofWire_cases (now : Timestamp) (v : Json) :
    (∃ r, Record.validate now v = .ok r ∧ ofWire now v = .failure (Failure.ofRecord r)) ∨
    ((∀ r, Record.validate now v ≠ .ok r) ∧ ∃ message, v.get? "message" = some (.str message) ∧
      ofWire now v = .native (.ofObject v message)) ∨
    ((∀ r, Record.validate now v ≠ .ok r) ∧ (∀ message, v.get? "message" ≠ some (.str message)) ∧
      ofWire now v = .value v) := by
  rw [ofWire]
  cases hrecord : Record.validate now v with
  | ok r => exact .inl ⟨r, rfl, rfl⟩
  | error reason =>
    cases hmessage : (v.get? "message").bind Json.str? with
    | some message => exact .inr (.inl ⟨nofun, message, Json.bind_str?_eq_some.1 hmessage, rfl⟩)
    | none =>
      refine .inr (.inr ⟨nofun, fun message h => ?_, rfl⟩)
      rw [Json.bind_str?_eq_some.2 h] at hmessage
      cases hmessage

/-- What an object gives as texts is kept in the first two shapes alike. -/
theorem toFailure_ofWire {message : String} (h : v.get? "message" = some (.str message))
    (now later : Timestamp) : ((ofWire now v).toFailure later).message = message ∧
      (∀ c, v.get? "code" = some (.str c) → ((ofWire now v).toFailure later).code = c) ∧
      ∀ s, v.get? "stack" = some (.str s) → ((ofWire now v).toFailure later).stack = some s := by
  rcases ofWire_cases now v with ⟨r, hrecord, hshape⟩ | ⟨_, other, hother, hshape⟩ | ⟨_, hnot, _⟩
  · obtain ⟨hmessage, hcode, hstack⟩ := Record.texts_of_validate hrecord
    rw [hshape]
    cases r
    refine ⟨?_, fun c hc => ?_, fun s hs => ?_⟩
    · exact Json.str.inj (Option.some.inj (hmessage.symm.trans h))
    · exact Json.str.inj (Option.some.inj (hcode.symm.trans hc))
    · rw [hs] at hstack
      exact (Option.some.inj hstack).symm
  · rw [hshape]
    refine ⟨?_, fun c hc => ?_, fun s hs => Json.bind_str?_eq_some.2 hs⟩
    · exact Json.str.inj (Option.some.inj (hother.symm.trans h))
    · have hgiven : (NativeError.ofObject v other).code = some c := Json.bind_str?_eq_some.2 hc
      exact code_toFailure (by rw [code, NativeError.effectiveCode, hgiven, Option.some_or])
  · exact absurd h (hnot message)

/-- Wrapping keeps the message, and the code if there is one. A value from beyond a boundary is a
failure just if it is accepted as a record, otherwise an error from outside just if it is an object with
a text as its message, and otherwise itself; and the message, code and stack that an object with a
message gives as texts are those of the failure. -/
theorem wrapped_as_told :
    (∀ (now : Timestamp) (r : Raw), (r.toFailure now).message = r.message ∧
      (∀ c, r.code = some c → (r.toFailure now).code = c) ∧
      (r.code = none → (∃ e, r = .native e ∧ (r.toFailure now).code = "UNKNOWN_ERROR") ∨
        ∃ v, r = .value v ∧ (r.toFailure now).code = "NON_ERROR_VALUE")) ∧
    ∀ (now : Timestamp) (v : Json),
      (∀ f, ofWire now v = .failure f ↔
        ∃ r, Record.validate now v = .ok r ∧ Failure.ofRecord r = f) ∧
      (∀ e, ofWire now v = .native e ↔ (∀ r, Record.validate now v ≠ .ok r) ∧
        ∃ message, v.get? "message" = some (.str message) ∧ NativeError.ofObject v message = e) ∧
      (∀ w, ofWire now v = .value w ↔ (∀ r, Record.validate now v ≠ .ok r) ∧
        (∀ message, v.get? "message" ≠ some (.str message)) ∧ v = w) ∧
      ∀ message, v.get? "message" = some (.str message) → ∀ later : Timestamp,
        ((ofWire now v).toFailure later).message = message ∧
        (∀ c, v.get? "code" = some (.str c) → ((ofWire now v).toFailure later).code = c) ∧
        ∀ s, v.get? "stack" = some (.str s) → ((ofWire now v).toFailure later).stack = some s := by
  constructor
  · intro now r
    exact ⟨message_toFailure now r, fun c => code_toFailure, code_toFailure_of_none⟩
  · intro now v
    have htold (message : String) (h : v.get? "message" = some (.str message)) :=
      toFailure_ofWire h now
    rcases ofWire_cases now v with ⟨r, hr, hshape⟩ | ⟨hnot, message, h, hshape⟩ | ⟨hnot, hnone, hshape⟩
    · exact ⟨by simp [hshape, hr], by simp [hshape, hr], by simp [hshape, hr], htold⟩
    · exact ⟨by simp [hshape, hnot], by simp [hshape, hnot, h], by simp [hshape, h], htold⟩
    · exact ⟨by simp [hshape, hnot], by simp [hshape, hnone], by simp [hshape, hnot, hnone], htold⟩

end Raw

end Resilience
