import Resilience.Proofs.Failure.Raw
import Resilience.Proofs.Text.Runs

/-!
# Codes in messages

A known code stands in a message where it is not part of a longer word (`Code.Stands`). The code that is
found is the one that stands there first, whatever its place in the table, and it makes the code and the
category of an error from outside that has none of its own (`Code.code_of_message`).
-/

namespace Resilience

namespace Code

variable {message before code : String} {category : Category} {p u s : List Char}

/-! ## Known codes -/

theorem all_isCodeChar_of_known : ∀ code ∈ known.map (·.1), code.toList.all isCodeChar := by
  decide

theorem isSome_category?_iff : (category? code).isSome ↔ code ∈ known.map (·.1) := by
  simp [category?]

/-- No code is in the table twice. -/
theorem category?_of_mem (h : (code, category) ∈ known) : category? code = some category := by
  have hall : ∀ e ∈ known, category? e.1 = some e.2 := by decide
  exact hall (code, category) h

/-! ## Where a code stands -/

/-- Whether a known code stands in a message behind a text, with no letter, digit or underscore of ASCII
directly before or after it. -/
structure Stands (message before code : String) : Prop where
  known : code ∈ known.map (·.1)
  text : ∃ after, message = before ++ code ++ after ∧
    (∀ c ∈ before.toList.getLast?, ¬ (c.isAlphanum ∨ c = '_')) ∧
    ∀ c ∈ after.toList.head?, ¬ (c.isAlphanum ∨ c = '_')

theorem not_isCodeChar_iff {c : Char} : (!isCodeChar c) = true ↔ ¬ (c.isAlphanum ∨ c = '_') := by
  simp [isCodeChar]

theorem Stands.exists_run (h : Stands message before code) :
    ∃ s, message.toList = before.toList ++ (code.toList ++ s) ∧
      Text.IsRun (!isCodeChar ·) before.toList code.toList s := by
  obtain ⟨hknown, after, rfl, hbefore, hafter⟩ := h
  have hrun := List.all_eq_true.1 (all_isCodeChar_of_known code hknown)
  refine ⟨after.toList, by simp, fun c hc => by simp [hrun c hc], fun c hc => ?_, fun c hc => ?_⟩
  · exact not_isCodeChar_iff.2 (hbefore c hc)
  · exact not_isCodeChar_iff.2 (hafter c hc)

theorem stands_of_isRun (hknown : String.ofList u ∈ known.map (·.1))
    (hmessage : message.toList = p ++ (u ++ s)) (h : Text.IsRun (!isCodeChar ·) p u s) :
    Stands message (String.ofList p) (String.ofList u) := by
  refine ⟨hknown, String.ofList s, String.ext (by simp [hmessage]), fun c hc => ?_, fun c hc => ?_⟩
  · exact not_isCodeChar_iff.1 (h.before c (by simpa using hc))
  · exact not_isCodeChar_iff.1 (h.behind c (by simpa using hc))

/-! ## The code that is found -/

theorem infer?_eq_map (message : String) : infer? message =
    ((Text.runs (!isCodeChar ·) message.toList).find? fun u => (category? (String.ofList u)).isSome).map
      String.ofList :=
  List.find?_map

theorem infer?_eq_some_iff : infer? message = some code ↔ ∃ before, Stands message before code ∧
    ∀ other c, Stands message other c → before.length ≤ other.length := by
  simp only [infer?_eq_map, Option.map_eq_some_iff, Text.find?_runs_eq_some_iff, isSome_category?_iff]
  constructor
  · rintro ⟨u, ⟨hknown, p, s, ⟨hmessage, hrun⟩, hleast⟩, rfl⟩
    refine ⟨String.ofList p, stands_of_isRun hknown hmessage hrun, fun other c h => ?_⟩
    obtain ⟨t, hother, hother'⟩ := h.exists_run
    simpa [String.length_toList] using hleast _ _ t ⟨hother, hother'⟩ (by simpa using h.known)
  · rintro ⟨before, h, hleast⟩
    obtain ⟨s, hmessage, hrun⟩ := h.exists_run
    refine ⟨code.toList, ⟨?_, before.toList, s, ⟨hmessage, hrun⟩, fun q v t hv hknown => ?_⟩, ?_⟩
    · simpa using h.known
    · simpa [String.length_toList] using hleast _ _ (stands_of_isRun hknown hv.1 hv.2)
    · exact String.ofList_toList

theorem infer?_eq_none_iff : infer? message = none ↔ ∀ before code, ¬ Stands message before code := by
  rw [infer?_eq_map, Option.map_eq_none_iff, List.find?_eq_none]
  simp only [Text.mem_runs_iff, isSome_category?_iff]
  constructor
  · intro hnone before code h
    obtain ⟨s, hrun⟩ := h.exists_run
    exact hnone code.toList ⟨before.toList, s, hrun⟩ (by simpa using h.known)
  · rintro hnone u ⟨p, s, hmessage, hrun⟩ hknown
    exact hnone _ _ (stands_of_isRun hknown hmessage hrun)

example : infer? "XENOENTX: EAI_AGAIN, then ENOENT" = some "EAI_AGAIN" := by decide

/-- The table is asked for the code that the failure has. -/
theorem category_toFailure (now : Timestamp) (e : NativeError) :
    ((Raw.native e).toFailure now).category =
      (category? ((Raw.native e).toFailure now).code).getD .system := rfl

/-- The code that is found in a message is the known code that stands there first, and none is found just
if none stands there. So an error from outside without a code of its own is wrapped with the known code
that stands first in its message, under the category of the table, and as unknown, under the category of
the system, if none stands there. -/
theorem code_of_message :
    (∀ message : String,
      (∀ code, infer? message = some code ↔ ∃ before, Stands message before code ∧
        ∀ other c, Stands message other c → before.length ≤ other.length) ∧
      (infer? message = none ↔ ∀ before code, ¬ Stands message before code)) ∧
    ∀ (now : Timestamp) (e : NativeError), e.code = none →
      (∀ before code, Stands e.message before code →
        (∀ other c, Stands e.message other c → before.length ≤ other.length) →
        ((Raw.native e).toFailure now).code = code ∧
        (code, ((Raw.native e).toFailure now).category) ∈ known) ∧
      ((∀ before code, ¬ Stands e.message before code) →
        ((Raw.native e).toFailure now).code = "UNKNOWN_ERROR" ∧
        ((Raw.native e).toFailure now).category = .system) := by
  refine ⟨fun message => ⟨fun code => infer?_eq_some_iff, infer?_eq_none_iff⟩, fun now e hcode => ?_⟩
  have heffective : e.effectiveCode = infer? e.message := by
    rw [NativeError.effectiveCode, hcode, Option.none_or]
  constructor
  · intro before code h hleast
    have hfound : e.effectiveCode = some code :=
      heffective.trans (infer?_eq_some_iff.2 ⟨before, h, hleast⟩)
    have hwrapped : ((Raw.native e).toFailure now).code = code :=
      Raw.code_toFailure (r := .native e) hfound
    obtain ⟨⟨_, category⟩, hmem, rfl⟩ := List.mem_map.1 h.known
    refine ⟨hwrapped, ?_⟩
    have hcategory : ((Raw.native e).toFailure now).category = category := by
      rw [category_toFailure, hwrapped, category?_of_mem hmem, Option.getD_some]
    rwa [hcategory]
  · intro hnone
    have hfound : e.effectiveCode = none := heffective.trans (infer?_eq_none_iff.2 hnone)
    have hwrapped : ((Raw.native e).toFailure now).code = unknown := Raw.code_toFailure_native hfound
    refine ⟨hwrapped, ?_⟩
    rw [category_toFailure, hwrapped]
    rfl

end Code

end Resilience
