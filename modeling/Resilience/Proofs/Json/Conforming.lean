import Mathlib.Data.List.Nodup
import Resilience.Json.Shape
import Resilience.Proofs.Json.Reading

/-!
# Records as they are written

A value that has a shape plainly (`Json.Conforms`), with records as objects of known fields and names as
texts, is what reading its text in this shape gives (`Json.readRecord?_compact`). Nothing of it is
skipped, and no field of it is taken for another one.
-/

namespace Resilience.Json

variable {σ : Type} {g : Grammar σ} {name : σ} {shape : Shape σ} {depth : Nat} {v : Json}

/-- The shape of the value of a field. -/
def shapeOf (fields : List (String × Shape σ)) (key : String) : Shape σ :=
  (Dict.lookup key fields).getD .any

/-- Values that have a shape as the library writes them. -/
inductive Conforms (g : Grammar σ) : Shape σ → Json → Prop
  | any (v : Json) : Conforms g .any v
  | choice (s : String) : Conforms g .choice (.str s)
  | record {name : σ} (members : Dict Json)
      (hfields : ∀ m ∈ members.entries, (Dict.lookup m.1 (g name)).isSome)
      (h : ∀ m ∈ members.entries, Conforms g (shapeOf (g name) m.1) m.2) :
      Conforms g (.record name) (.ofDict members)
  | records {name : σ} {items : List Json} (h : ∀ v ∈ items, Conforms g (.record name) v) :
      Conforms g (.records name) (.arr items)

/-! ## Fields -/

theorem field?_some (fields : List (String × Shape σ)) (key : String) :
    Draft.field? fields (some key) = some ((Dict.lookup key fields).map (key, ·)) := by
  rw [Draft.field?, Option.map_some, Option.some_inj]
  induction fields with
  | nil => rfl
  | cons field rest ih =>
    rw [List.find?_cons, Dict.lookup]
    by_cases h : field.1 = key
    · simp [← h]
    · simp [h, ih]

theorem distinct_draft (fields : List (String × Shape σ)) (members : Dict Json) :
    Draft.distinct fields (members.entries.map fun (k, v) => (some k, v.draft)) = true := by
  have hkeys : (members.entries.map (·.1)).Nodup :=
    members.pairwise_keys.imp String.ne_of_lt
  refine List.all_eq_true.2 fun field _ => decide_eq_true ?_
  have hcount := List.nodup_iff_count_le_one.1 hkeys field.1
  rw [List.count_eq_countP, List.countP_map] at hcount
  rw [← List.countP_eq_length_filter, List.countP_map]
  refine Nat.le_trans (List.countP_mono_left fun m _ hm => ?_) hcount
  simpa using hm

/-! ## Reading -/

theorem conform?_any (g : Grammar σ) (depth : Nat) (d : Draft) :
    d.conform? g depth .any = d.toJson? depth := by
  cases d <;> rfl

theorem conformMembers?_draft {fields : List (String × Shape σ)} {members : List (String × Json)}
    (hfields : ∀ m ∈ members, (Dict.lookup m.1 fields).isSome)
    (h : ∀ m ∈ members, m.2.draft.conform? g depth (shapeOf fields m.1) = some m.2) :
    Draft.conformMembers? g depth fields (members.map fun (k, v) => (some k, v.draft)) =
      some members := by
  induction members with
  | nil => rfl
  | cons m rest ih =>
    obtain ⟨hm, hrest⟩ := List.forall_mem_cons.1 h
    obtain ⟨hfield, hfields⟩ := List.forall_mem_cons.1 hfields
    obtain ⟨shape, hshape⟩ := Option.isSome_iff_exists.1 hfield
    rw [shapeOf, hshape, Option.getD_some] at hm
    rw [List.map_cons, Draft.conformMembers?, field?_some, hshape]
    simp [hm, ih hfields hrest]

theorem conformItems?_draft {items : List Json}
    (h : ∀ v ∈ items, v.draft.conform? g depth (.record name) = some v) :
    Draft.conformItems? g depth name (items.map draft) = some items := by
  induction items with
  | nil => rfl
  | cons v rest ih =>
    obtain ⟨hv, hrest⟩ := List.forall_mem_cons.1 h
    rw [List.map_cons, Draft.conformItems?, hv, ih hrest]
    rfl

theorem Legible.of_ofDict {members : Dict Json} (h : Legible depth (.ofDict members)) :
    ∃ inner, depth = inner + 1 ∧ ∀ m ∈ members.entries, Legible inner m.2 := by
  generalize hv : Json.ofDict members = v at h
  cases h with
  | @obj inner others h =>
    have hentries : members.entries = others.entries := by injection hv
    exact ⟨inner, rfl, hentries ▸ h⟩
  | _ => cases hv

theorem conform?_draft (hlegible : Legible depth v) (h : Conforms g shape v) :
    v.draft.conform? g depth shape = some v := by
  induction h generalizing depth with
  | any v => rw [conform?_any, toJson?_draft hlegible]
  | choice s => rfl
  | record members hfields h ih =>
    obtain ⟨inner, rfl, hmembers⟩ := hlegible.of_ofDict
    have hread := conformMembers?_draft hfields fun m hm => ih m hm (hmembers m hm)
    rw [ofDict, draft, draftMembers_eq, Draft.conform?]
    simp [distinct_draft, hread, Dict.ofList_entries, ofDict]
  | records h ih =>
    cases hlegible with
    | arr hitems =>
      rw [draft, draftItems_eq, Draft.conform?, if_neg (Nat.succ_ne_zero _), Nat.add_sub_cancel,
        conformItems?_draft fun v hv => ih v hv (hitems v hv)]
      rfl

theorem readRecord?_compact (hlegible : Legible maxDepth v) (h : Conforms g (.record name) v) :
    readRecord? g name v.compact = some v := by
  rw [readRecord?, Draft.read?, (spells_compact hlegible).scan, Option.bind_some,
    Draft.ofTokens?_tokens, Option.bind_some, conform?_draft hlegible h]

/-- Members that are left out when they are missing. -/
theorem Conforms.objSome {members : List (String × Option Json)}
    (hkeys : (members.map (·.1)).Pairwise (· < ·))
    (h : ∀ m ∈ members, ∀ v ∈ m.2, ∃ shape, Dict.lookup m.1 (g name) = some shape ∧
      Conforms g shape v) : Conforms g (.record name) (objSome members) := by
  obtain ⟨d, hd, hmembers⟩ := objSome_eq_ofDict hkeys
  have hfield (m : String × Json) (hm : m ∈ d.entries) := h _ (hmembers m hm) _ rfl
  rw [hd]
  refine .record d (fun m hm => ?_) (fun m hm => ?_)
  · obtain ⟨shape, hshape, _⟩ := hfield m hm
    rw [hshape, Option.isSome_some]
  · obtain ⟨shape, hshape, hv⟩ := hfield m hm
    rwa [shapeOf, hshape, Option.getD_some]

end Resilience.Json
