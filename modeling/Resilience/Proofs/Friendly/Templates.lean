import Resilience.Proofs.Friendly.Classification

/-!
# Templates that fail

A translation is there whatever the functions of the catalog do. One that fails takes the texts of its
template with it and nothing else: the failure is told as by a catalog in which this template has a
fixed message and no suggestion (`Translator.translate_silenced`).
-/

namespace Resilience

namespace Catalog

variable {c : Catalog} {key : String}

theorem contains_insert (c : Catalog) (key other : String) (t : Template) :
    (c.insert key t).contains other = (decide (other = key) || c.contains other) :=
  Dict.contains_insert ..

/-- Another template under a key that has one changes no other key. -/
theorem contains_replace (h : c.contains key = true) (t : Template) :
    (c.insert key t).contains = c.contains := by
  funext other
  rw [contains_insert]
  by_cases hother : other = key
  · rw [hother, h, Bool.or_true]
  · rw [decide_eq_false hother, Bool.false_or]

theorem insert_insert (c : Catalog) (key : String) (one other : Template) :
    (c.insert key one).insert key other = c.insert key other := by
  refine congrArg Catalog.mk (Dict.ext_get? fun k => ?_)
  simp only [insert, Dict.get?_insert]
  split <;> rfl

end Catalog

/-! ## The texts of a template -/

namespace Template

variable {t : Template} {c : Context}

/-- Whether the message or the suggestion of a template fails in a context. -/
def Fails (t : Template) (c : Context) : Prop :=
  t.message.render c = none ∨ ∃ s ∈ t.suggestion, s.render c = none

/-- The message and the suggestion of a template, if both can be told. -/
def texts? (t : Template) (c : Context) : Option (String × Option String) := do
  let message ← t.message.render c
  let suggestion ← t.suggestion.mapM (·.render c)
  some (message, suggestion)

/-- The template with a fixed message and no suggestion. -/
def silenced (t : Template) : Template :=
  { t with message := .literal Translator.fallback, suggestion := none }

theorem texts?_eq_none_iff : t.texts? c = none ↔ t.Fails c := by
  rw [texts?, Fails]
  cases t.message.render c with
  | none => simp
  | some message =>
    cases t.suggestion with
    | none => simp
    | some s => cases hs : s.render c <;> simp [hs]

end Template

namespace Translator

variable {t : Translator} {f : Failure} {s : Situation}

theorem render_eq (template : Template) (c : Template.Context) :
    render template c = (template.texts? c).getD (fallback, none) := by
  rw [render, Template.texts?]
  cases template.message.render c with
  | none => rfl
  | some message =>
    cases template.suggestion with
    | none => rfl
    | some s => cases hs : s.render c <;> simp [hs]

/-! ## The template of a failure -/

/-- The template that is told of a failure. -/
def template (t : Translator) (f : Failure) : Template :=
  (t.catalog.get? (t.classify f)).getD t.catalog.unknown

/-- The translator with another template for a failure. -/
def withTemplate (t : Translator) (f : Failure) (template : Template) : Translator :=
  { t with catalog := t.catalog.insert (t.classify f) template }

/-- A key without a template is the one for what has no other. -/
theorem KeyFor.unlisted_key {key : String} (h : KeyFor t f key)
    (hkey : ¬ t.catalog.contains key = true) :
    key = Catalog.unknownKey ∧ NoneListed t.catalog f.chain := by
  cases h with
  | code hfirst =>
    obtain ⟨_, _, _, _, hlisted⟩ := hfirst
    exact absurd hlisted hkey
  | rule _ _ hlisted => exact absurd hlisted hkey
  | stray hnone _ _ => exact ⟨rfl, hnone⟩
  | none hnone _ => exact ⟨rfl, hnone⟩

/-- Putting a template in under the key of a failure does not change the key: if the key had none, it
is the one for what has no other, and stays it. -/
theorem classify_withTemplate (t : Translator) (f : Failure) (template : Template) :
    (t.withTemplate f template).classify f = t.classify f := by
  by_cases hkey : t.catalog.contains (t.classify f) = true
  · have hcontains : (t.withTemplate f template).catalog.contains = t.catalog.contains :=
      Catalog.contains_replace hkey template
    rw [classify, hcontains]
    rfl
  · obtain ⟨hunknown, hnone⟩ := (keyFor_classify t f).unlisted_key hkey
    have hlisted {other : String} (h : (t.withTemplate f template).catalog.contains other = true) :
        other = t.classify f ∨ t.catalog.contains other = true := by
      simpa [withTemplate, Catalog.contains_insert] using h
    generalize hother : (t.withTemplate f template).classify f = other
    cases classify_iff.1 hother with
    | code hfirst =>
      obtain ⟨before, after, hchain, _, hcode⟩ := hfirst
      refine (hlisted hcode).resolve_right ?_
      simp [hnone _ (hchain ▸ List.mem_append_right before List.mem_cons_self)]
    | rule _ hfirst hrule =>
      refine (hlisted hrule).resolve_right fun hrule => hkey ?_
      rwa [classify_of_keyFor (.rule hnone hfirst hrule)]
    | stray => exact hunknown.symm
    | none => exact hunknown.symm

theorem template_withTemplate (t : Translator) (f : Failure) (template : Template) :
    (t.withTemplate f template).template f = template := by
  rw [Translator.template, classify_withTemplate, withTemplate, Catalog.get?_insert, if_pos rfl,
    Option.getD_some]

theorem withTemplate_withTemplate (t : Translator) (f : Failure) (one other : Template) :
    (t.withTemplate f one).withTemplate f other = t.withTemplate f other := by
  rw [withTemplate, classify_withTemplate, withTemplate, withTemplate, Catalog.insert_insert]

/-- A template that fails was found in the catalog. -/
theorem get?_of_fails (h : (t.template f).Fails (context f s)) :
    t.catalog.get? (t.classify f) = some (t.template f) := by
  rw [template] at h ⊢
  cases hget : t.catalog.get? (t.classify f) with
  | some template => rw [Option.getD_some]
  | none =>
    have hkey : ¬ t.catalog.contains (t.classify f) = true := by
      rw [Catalog.get?] at hget
      simp [Catalog.contains, Dict.contains, hget]
    obtain ⟨hunknown, _⟩ := (keyFor_classify t f).unlisted_key hkey
    rw [hunknown] at hget
    rw [hunknown, hget, Catalog.unknown, hget] at h
    rcases h with h | ⟨s, hs, h⟩
    · cases h
    · cases hs
      cases h

/-! ## What is told -/

/-- The translator with a fixed message and no suggestion for a failure. -/
def silenced (t : Translator) (f : Failure) : Translator := t.withTemplate f (t.template f).silenced

/-- Nothing but the two texts depends on how they were rendered. -/
theorem translate_eq (t : Translator) (f : Failure) (s : Situation) :
    t.translate f s = { (t.silenced f).translate f s with
      message := Scrub.message t.limit (render (t.template f) (context f s)).1
      suggestion := (render (t.template f) (context f s)).2.map (Scrub.message t.limit) } := by
  have hkey : (t.silenced f).classify f = t.classify f := classify_withTemplate ..
  have hown : (t.catalog.get? (t.classify f)).getD t.catalog.unknown = t.template f := rfl
  have hsilenced : ((t.silenced f).catalog.get? (t.classify f)).getD (t.silenced f).catalog.unknown =
      (t.template f).silenced := by
    rw [← hkey]
    exact template_withTemplate ..
  have hlimit : (t.silenced f).limit = t.limit := rfl
  have htechnical : (t.silenced f).technical f = t.technical f := rfl
  simp only [translate, hkey, hown, hsilenced, hlimit, htechnical, Template.silenced]

theorem texts_silenced (t : Translator) (f : Failure) (s : Situation) :
    ((t.silenced f).translate f s).message = Scrub.message t.limit fallback ∧
      ((t.silenced f).translate f s).suggestion = none := by
  have hmessage : ((t.silenced f).translate f s).message =
    Scrub.message t.limit (render ((t.silenced f).template f) (context f s)).1 := rfl
  have hsuggestion : ((t.silenced f).translate f s).suggestion =
    (render ((t.silenced f).template f) (context f s)).2.map (Scrub.message t.limit) := rfl
  rw [hmessage, hsuggestion, silenced, template_withTemplate]
  exact ⟨rfl, rfl⟩

theorem translate_of_fails (h : (t.template f).Fails (context f s)) :
    t.translate f s = (t.silenced f).translate f s := by
  have hrender : render (t.template f) (context f s) = (fallback, none) := by
    rw [render_eq, Template.texts?_eq_none_iff.2 h, Option.getD_none]
  obtain ⟨hmessage, hsuggestion⟩ := texts_silenced t f s
  calc t.translate f s
    _ = { (t.silenced f).translate f s with
          message := Scrub.message t.limit fallback, suggestion := none } := by
      rw [translate_eq, hrender, Option.map_none]
    _ = (t.silenced f).translate f s := by
      rw [← hmessage, ← hsuggestion]

theorem silenced_withTemplate (t : Translator) (f : Failure) {template : Template}
    (h : template.silenced = (t.template f).silenced) :
    (t.withTemplate f template).silenced f = t.silenced f := by
  rw [silenced, template_withTemplate, withTemplate_withTemplate, h, silenced]

/-- Whatever the functions of the catalog do, a failure is told. If the message or the suggestion of
its template fails, it is told as by the same catalog in which this template has a fixed message and
no suggestion, whatever the other of the two would have been. If neither fails, the two texts are
those of the template, and all else is told as by that catalog too. -/
theorem translate_silenced (t : Translator) (f : Failure) (s : Situation) :
    let template := t.template f
    let c := context f s
    let silent := (t.silenced f).translate f s
    (t.silenced f).template f =
      { template with message := .literal fallback, suggestion := none } ∧
    silent.message = Scrub.message t.limit fallback ∧ silent.suggestion = none ∧
    (template.Fails c → t.catalog.get? (t.classify f) = some template ∧ t.translate f s = silent) ∧
    (∀ message suggestion, Template.Fails { template with message, suggestion } c →
      (t.withTemplate f { template with message, suggestion }).translate f s = silent) ∧
    (template.texts? c = none ↔ template.Fails c) ∧
    ∀ message suggestion, template.texts? c = some (message, suggestion) → t.translate f s =
      { silent with
        message := Scrub.message t.limit message
        suggestion := suggestion.map (Scrub.message t.limit) } := by
  intro template c silent
  obtain ⟨hmessage, hsuggestion⟩ := texts_silenced t f s
  refine ⟨template_withTemplate .., hmessage, hsuggestion,
    fun h => ⟨get?_of_fails h, translate_of_fails h⟩, fun message suggestion h => ?_,
    Template.texts?_eq_none_iff, fun message suggestion h => ?_⟩
  · have hother : ((t.withTemplate f { template with message, suggestion }).template f).Fails c := by
      rwa [template_withTemplate]
    rw [translate_of_fails hother]
    exact congrArg (translate · f s) (silenced_withTemplate t f rfl)
  · have hrender : render template c = (message, suggestion) := by
      rw [render_eq, h, Option.getD_some]
    rw [translate_eq, hrender]

/-- A template of which only the suggestion fails. -/
def explosive : Template where
  title := "Boom"
  message := .literal "All is well."
  suggestion := some (.computed fun _ => none)
  category := .system
  severity := .low

theorem translate_silenced_explosive :
    let t : Translator := { catalog := Catalog.builtin.insert "EXPLODES" explosive }
    let f := Failure.make default "no more room" "EXPLODES" .website
    let told := t.translate f {}
    (t.template f).Fails (context f {}) ∧ told.title = "Boom" ∧ told.category = .system ∧
      told.message = Scrub.message Scrub.defaultLimit fallback ∧ told.suggestion = none := by
  intro t f told
  have hlisted : t.catalog.contains "EXPLODES" = true := by
    simp [t, Catalog.contains_insert]
  have hkey : t.classify f = "EXPLODES" :=
    classify_of_keyFor (.code (g := f) ⟨[], [], rfl, by simp, hlisted⟩)
  have htemplate : t.template f = explosive := by
    rw [template, hkey]
    exact congrArg (Option.getD · _) ((Catalog.get?_insert ..).trans (if_pos rfl))
  have hfails : (t.template f).Fails (context f {}) := by
    rw [htemplate]
    exact .inr ⟨_, rfl, rfl⟩
  obtain ⟨_, hmessage, hsuggestion, htold, _⟩ := translate_silenced t f {}
  have htitle : told.title = (t.template f).title := rfl
  have hcategory : told.category = if t.classify f = Catalog.unknownKey then f.category
    else (t.template f).category := rfl
  refine ⟨hfails, by rw [htitle, htemplate]; rfl, ?_, ?_, ?_⟩
  · rw [hcategory, hkey, htemplate]
    rfl
  · exact (congrArg Friendly.message (htold hfails).2).trans hmessage
  · exact (congrArg Friendly.suggestion (htold hfails).2).trans hsuggestion

end Translator

end Resilience
