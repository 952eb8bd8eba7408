import Resilience.Friendly.Basic

/-!
# The key of a failure

How the key of a failure is found, by the codes along its chain of causes first and then by its
messages (`Translator.KeyFor`), and what a translation takes from the template of the key. With a
catalog to which templates were only added, there always is one (`Translator.translate_by_key`).
-/

namespace Resilience

/-! ## Catalogs with more templates -/

namespace Catalog

/-- Puts in templates from left to right. -/
def insertAll (c : Catalog) (entries : List (String × Template)) : Catalog :=
  entries.foldl (fun c e => c.insert e.1 e.2) c

theorem contains_insertAll {c : Catalog} {entries : List (String × Template)} {key : String} :
    (c.insertAll entries).contains key = true ↔
      key ∈ entries.map (·.1) ∨ c.contains key = true := by
  induction entries generalizing c with
  | nil => simp [insertAll]
  | cons e entries ih =>
    have hstep : (c.insert e.1 e.2).contains key = true ↔ key = e.1 ∨ c.contains key = true := by
      simp [contains, insert]
    calc (c.insertAll (e :: entries)).contains key = true
      _ ↔ key ∈ entries.map (·.1) ∨ (c.insert e.1 e.2).contains key = true := ih
      _ ↔ key ∈ (e :: entries).map (·.1) ∨ c.contains key = true := by
        rw [hstep, List.map_cons, List.mem_cons, or_left_comm, or_assoc]

theorem contains_empty {key : String} : empty.contains key = true ↔ key = unknownKey := by
  simp [contains, empty, Dict.contains]

theorem contains_builtin {key : String} :
    builtin.contains key = true ↔ key ∈ builtinTemplates.map (·.1) ∨ key = unknownKey := by
  have hbuiltin : builtin = empty.insertAll builtinTemplates := rfl
  rw [hbuiltin, contains_insertAll, contains_empty]

end Catalog

namespace Rule

variable {rules : List Rule} {message key : String}

theorem classify_eq_none : classify rules message = none ↔ ∀ r ∈ rules, r.fits message = false := by
  simp [classify]

theorem classify_eq_some : classify rules message = some key ↔ ∃ passed rule rest,
    rules = passed ++ rule :: rest ∧ (∀ r ∈ passed, r.fits message = false) ∧
      rule.fits message = true ∧ rule.key = key := by
  simp only [classify, Option.map_eq_some_iff, List.find?_eq_some_iff_append]
  constructor
  · rintro ⟨rule, ⟨hfits, passed, rest, hrules, hpassed⟩, hkey⟩
    exact ⟨passed, rule, rest, hrules, by simpa using hpassed, hfits, hkey⟩
  · rintro ⟨passed, rule, rest, hrules, hpassed, hfits, hkey⟩
    exact ⟨rule, ⟨hfits, passed, rest, hrules, by simpa using hpassed⟩, hkey⟩

/-- Each built-in rule leads to a template of its own. -/
theorem key_mem_builtin {rule : Rule} (h : rule ∈ builtin) :
    rule.key ∈ Catalog.builtinTemplates.map (·.1) ∧ rule.key ≠ Catalog.unknownKey := by
  have hall : ∀ key ∈ builtin.map (·.key),
      key ∈ Catalog.builtinTemplates.map (·.1) ∧ key ≠ Catalog.unknownKey := by decide
  exact hall rule.key (List.mem_map_of_mem h)

end Rule

namespace Translator

/-! ## How the key is found -/

/-- The first failure of a chain whose code has a template. -/
def FirstListed (c : Catalog) (chain : List Failure) (g : Failure) : Prop :=
  ∃ before after, chain = before ++ g :: after ∧
    (∀ h ∈ before, c.contains h.code = false) ∧ c.contains g.code = true

/-- The first rule that fits the first message of a chain that any rule fits. -/
def FirstFitting (rules : List Rule) (chain : List Failure) (rule : Rule) : Prop :=
  ∃ before g after, chain = before ++ g :: after ∧
    (∀ h ∈ before, ∀ r ∈ rules, r.fits h.message = false) ∧
    ∃ passed rest, rules = passed ++ rule :: rest ∧ (∀ r ∈ passed, r.fits g.message = false) ∧
      rule.fits g.message = true

/-- No code of a chain has a template. -/
def NoneListed (c : Catalog) (chain : List Failure) : Prop :=
  ∀ g ∈ chain, c.contains g.code = false

/-- No rule fits a message of a chain. -/
def NoneFitting (rules : List Rule) (chain : List Failure) : Prop :=
  ∀ g ∈ chain, ∀ r ∈ rules, r.fits g.message = false

/-- What makes a key the one of a failure. -/
inductive KeyFor (t : Translator) (f : Failure) : String → Prop where
  | code {g : Failure} : FirstListed t.catalog f.chain g → KeyFor t f g.code
  | rule {r : Rule} : NoneListed t.catalog f.chain → FirstFitting t.rules f.chain r →
      t.catalog.contains r.key = true → KeyFor t f r.key
  /-- The key of the rule has no template. -/
  | stray {r : Rule} : NoneListed t.catalog f.chain → FirstFitting t.rules f.chain r →
      t.catalog.contains r.key = false → KeyFor t f Catalog.unknownKey
  | none : NoneListed t.catalog f.chain → NoneFitting t.rules f.chain →
      KeyFor t f Catalog.unknownKey

section

variable {t : Translator} {f g : Failure} {rules : List Rule} {chain : List Failure} {key : String}

theorem find?_eq_some_iff_firstListed {c : Catalog} :
    chain.find? (fun g => c.contains g.code) = some g ↔ FirstListed c chain g := by
  simp only [List.find?_eq_some_iff_append, FirstListed, Bool.not_eq_true']
  constructor
  · rintro ⟨hg, before, after, hchain, hbefore⟩
    exact ⟨before, after, hchain, hbefore, hg⟩
  · rintro ⟨before, after, hchain, hbefore, hg⟩
    exact ⟨hg, before, after, hchain, hbefore⟩

theorem find?_eq_none_iff_noneListed {c : Catalog} :
    chain.find? (fun g => c.contains g.code) = none ↔ NoneListed c chain := by
  simp [NoneListed]

theorem findSome?_eq_some_iff_firstFitting :
    chain.findSome? (fun g => Rule.classify rules g.message) = some key ↔
      ∃ r, FirstFitting rules chain r ∧ r.key = key := by
  simp only [List.findSome?_eq_some_iff, Rule.classify_eq_some, Rule.classify_eq_none]
  constructor
  · rintro ⟨before, g, after, hchain, ⟨passed, r, rest, hrules, hpassed, hfits, hkey⟩, hbefore⟩
    exact ⟨r, ⟨before, g, after, hchain, hbefore, passed, rest, hrules, hpassed, hfits⟩, hkey⟩
  · rintro ⟨r, ⟨before, g, after, hchain, hbefore, passed, rest, hrules, hpassed, hfits⟩, hkey⟩
    exact ⟨before, g, after, hchain, ⟨passed, r, rest, hrules, hpassed, hfits, hkey⟩, hbefore⟩

theorem findSome?_eq_none_iff_noneFitting :
    chain.findSome? (fun g => Rule.classify rules g.message) = none ↔ NoneFitting rules chain := by
  simp only [List.findSome?_eq_none_iff, Rule.classify_eq_none, NoneFitting]

theorem classify_of_keyFor (h : KeyFor t f key) : t.classify f = key := by
  cases h with
  | code hfirst => rw [classify, find?_eq_some_iff_firstListed.2 hfirst]
  | rule hnone hfirst hlisted =>
    rw [classify, find?_eq_none_iff_noneListed.2 hnone,
      findSome?_eq_some_iff_firstFitting.2 ⟨_, hfirst, rfl⟩]
    simp [hlisted]
  | stray hnone hfirst hstray =>
    rw [classify, find?_eq_none_iff_noneListed.2 hnone,
      findSome?_eq_some_iff_firstFitting.2 ⟨_, hfirst, rfl⟩]
    simp [hstray]
  | none hnone hunfit =>
    rw [classify, find?_eq_none_iff_noneListed.2 hnone, findSome?_eq_none_iff_noneFitting.2 hunfit]

variable (t f) in
theorem keyFor_classify : KeyFor t f (t.classify f) := by
  rw [classify]
  split
  · next g hg => exact .code (find?_eq_some_iff_firstListed.1 hg)
  · next hnone =>
    have hnone := find?_eq_none_iff_noneListed.1 hnone
    split
    · next key hkey =>
      obtain ⟨r, hfirst, rfl⟩ := findSome?_eq_some_iff_firstFitting.1 hkey
      split
      · next hlisted => exact .rule hnone hfirst hlisted
      · next hstray => exact .stray hnone hfirst (by simpa using hstray)
    · next hunfit => exact .none hnone (findSome?_eq_none_iff_noneFitting.1 hunfit)

theorem classify_iff : t.classify f = key ↔ KeyFor t f key :=
  ⟨fun h => h ▸ keyFor_classify t f, classify_of_keyFor⟩

/-- A key that is found has a template if there is one for what has no other. -/
theorem KeyFor.contains (h : KeyFor t f key)
    (hunknown : t.catalog.contains Catalog.unknownKey = true) : t.catalog.contains key = true := by
  cases h with
  | code hfirst =>
    obtain ⟨_, _, _, _, hlisted⟩ := hfirst
    exact hlisted
  | rule _ _ hlisted => exact hlisted
  | stray => exact hunknown
  | none => exact hunknown

theorem FirstFitting.mem {r : Rule} (h : FirstFitting rules chain r) : r ∈ rules := by
  obtain ⟨_, _, _, _, _, _, _, rfl, _⟩ := h
  exact List.mem_append_right _ List.mem_cons_self

/-- Where each rule leads to a template of its own, no rule leads to the one for what has no other. -/
theorem KeyFor.unlisted (h : KeyFor t f key) (hkey : key = Catalog.unknownKey)
    (hrules : ∀ r ∈ t.rules, t.catalog.contains r.key = true ∧ r.key ≠ Catalog.unknownKey) :
    (∃ g, FirstListed t.catalog f.chain g ∧ g.code = Catalog.unknownKey) ∨
      NoneListed t.catalog f.chain ∧ NoneFitting t.rules f.chain := by
  cases h with
  | code hfirst => exact .inl ⟨_, hfirst, hkey⟩
  | rule _ hfirst _ => exact absurd hkey (hrules _ hfirst.mem).2
  | stray _ hfirst hstray => simp [(hrules _ hfirst.mem).1] at hstray
  | none hnone hunfit => exact .inr ⟨hnone, hunfit⟩

end

/-! ## What is told -/

/-- With a catalog to which templates were only added, the template of the key that is found is the
one that is told; for what has no other, category and severity are those of the failure, and details
are shown unless the caller decides. With the built-in rules and all built-in keys, a failure is
without a key of its own just if the first code found says so, or no code is found and no rule fits
a message. -/
theorem translate_by_key (base : Catalog) (hbase : base ∈ [Catalog.empty, Catalog.builtin])
    (entries : List (String × Template)) (rules : List Rule) (environment : Environment)
    (limit : Nat) (f : Failure) (s : Situation) :
    let t : Translator := ⟨base.insertAll entries, rules, environment, limit⟩
    let key := t.classify f
    let told := t.translate f s
    (∀ other, key = other ↔ KeyFor t f other) ∧
    (∃ template, t.catalog.get? key = some template ∧
      told.title = template.title ∧
      told.message = Scrub.message limit (render template (context f s)).1 ∧
      told.suggestion = (render template (context f s)).2.map (Scrub.message limit) ∧
      told.retryable = template.retryable ∧ told.dismissible = template.dismissible ∧
      (key ≠ Catalog.unknownKey →
        told.category = template.category ∧ told.severity = template.severity)) ∧
    (key = Catalog.unknownKey → told.category = f.category ∧ told.severity = f.severity) ∧
    (told.showDetails = true ↔
      s.showDetails = some true ∨ s.showDetails = none ∧ key = Catalog.unknownKey) ∧
    (base = Catalog.builtin → rules = Rule.builtin → (key = Catalog.unknownKey ↔
      (∃ g, FirstListed t.catalog f.chain g ∧ g.code = Catalog.unknownKey) ∨
      NoneListed t.catalog f.chain ∧ NoneFitting rules f.chain)) := by
  intro t key told
  have hunknown : t.catalog.contains Catalog.unknownKey = true := by
    refine Catalog.contains_insertAll.2 (.inr ?_)
    simp only [List.mem_cons, List.not_mem_nil, or_false] at hbase
    rcases hbase with rfl | rfl
    · exact Catalog.contains_empty.2 rfl
    · exact Catalog.contains_builtin.2 (.inr rfl)
  have hkeyFor : KeyFor t f key := keyFor_classify t f
  obtain ⟨template, hget⟩ : ∃ template, t.catalog.get? key = some template :=
    Option.isSome_iff_exists.1 (hkeyFor.contains hunknown)
  have htold : told = t.translate f s := rfl
  simp only [translate, show t.classify f = key from rfl, hget, Option.getD_some] at htold
  refine ⟨fun other => classify_iff, ⟨template, hget, ?_⟩, fun hkey => ?_, ?_, ?_⟩
  · simp only [htold, true_and]
    refine ⟨rfl, rfl, fun hkey => ?_⟩
    simp [hkey]
  · simp [htold, hkey]
  · rw [htold]
    cases s.showDetails <;> simp
  · rintro rfl rfl
    constructor
    · refine fun hkey => hkeyFor.unlisted hkey fun r hr => ?_
      obtain ⟨hlisted, hne⟩ := Rule.key_mem_builtin hr
      refine ⟨Catalog.contains_insertAll.2 (.inr (Catalog.contains_builtin.2 (.inl hlisted))), hne⟩
    · rintro (⟨g, hfirst, hcode⟩ | ⟨hnone, hunfit⟩)
      · exact hcode ▸ classify_of_keyFor (.code hfirst)
      · exact classify_of_keyFor (.none hnone hunfit)

/-- Put in for a service that takes no more requests. -/
def quotaTemplate : Template where
  title := "Quota Exceeded"
  message := .literal "The service takes no more requests today."
  suggestion := none
  category := .externalService
  severity := .low

/-- A failure that a rule fits, caused by one for which a template was put in. -/
def overQuota : Failure :=
  { Failure.make default "connection refused" "UPLOAD_FAILED" .network with
    cause := .failure (Failure.make default "too many requests" "E_QUOTA" .externalService) }

/-- The code of the cause comes before the words of the failure. -/
theorem translate_by_key_overQuota :
    Catalog.builtin ∈ [Catalog.empty, Catalog.builtin] ∧
      let t : Translator := { catalog := Catalog.builtin.insertAll [("E_QUOTA", quotaTemplate)] }
      let told := t.translate overQuota {}
      t.classify overQuota = "E_QUOTA" ∧ told.title = quotaTemplate.title ∧ told.severity = .low ∧
        told.showDetails = false := by
  have hbase : Catalog.builtin ∈ [Catalog.empty, Catalog.builtin] := .tail _ (.head _)
  obtain ⟨hkeys, ⟨template, hget, htitle, _, _, _, _, hown⟩, _, hdetails, _⟩ :=
    translate_by_key Catalog.builtin hbase [("E_QUOTA", quotaTemplate)] Rule.builtin .production
      Scrub.defaultLimit overQuota {}
  refine ⟨hbase, ?_⟩
  intro t told
  have hfirst : FirstListed t.catalog overQuota.chain
      (Failure.make default "too many requests" "E_QUOTA" .externalService) := by
    refine ⟨[overQuota], [], rfl, ?_, Catalog.contains_insertAll.2 (.inl (.head _))⟩
    have hnot : ¬ t.catalog.contains overQuota.code = true := by
      rw [Catalog.contains_insertAll, Catalog.contains_builtin]
      decide
    simpa using hnot
  have hkey : t.classify overQuota = "E_QUOTA" := (hkeys _).2 (.code hfirst)
  have hknown : t.classify overQuota ≠ Catalog.unknownKey := by
    rw [hkey]
    decide
  obtain rfl : quotaTemplate = template := by
    rw [hkey] at hget
    exact Option.some.inj ((Catalog.get?_insert ..).symm.trans hget)
  refine ⟨hkey, htitle, (hown hknown).2, ?_⟩
  have hhidden : ¬ told.showDetails = true := by
    rw [hdetails]
    rintro (h | ⟨_, h⟩)
    · cases h
    · exact hknown h
  simpa using hhidden

end Translator

end Resilience
