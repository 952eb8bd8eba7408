import Resilience.Proofs.Failure.Acceptance

/-!
# The schema of records

The JSON values that are records, as a grammar, and which of them are accepted. An inner error is
not checked before it is decoded, and the decoder also takes forms that no check lets pass:
`Record.validate_iff` says which values are accepted, and when these are the records of the schema.
-/

namespace Resilience

/-! ## Grammar -/

/-- In what form the fields of a record and a choice are given. -/
inductive Manner where
  /-- An object has the fields, and a text is the choice. -/
  | plain
  /-- Whatever the decoder takes. An array may have the fields in their order, and an object of which
  the only member is null may be the choice. -/
  | lenient

namespace Manner

def fields? (names : List String) : Manner → Json → Option (String → Option Json)
  | .plain, .obj members => some (Json.obj members).get?
  | .plain, _ => none
  | .lenient, v => v.fields? names

def choice? : Manner → Json → Option String
  | .plain => Json.str?
  | .lenient => Json.variant?

theorem fields?_plain {names : List String} {v : Json} {field : String → Option Json} :
    plain.fields? names v = some field ↔ ∃ members, v = .obj members ∧ v.get? = field := by
  cases v <;> simp [fields?]

theorem fields?_lenient {m : Manner} {names : List String} {v : Json}
    {field : String → Option Json} (h : m.fields? names v = some field) :
    lenient.fields? names v = some field := by
  cases m with
  | plain =>
    cases v with
    | obj members => exact h
    | _ => cases h
  | lenient => exact h

theorem choice?_plain {v : Json} {name : String} :
    plain.choice? v = some name ↔ v = .str name := by
  cases v <;> simp [choice?, Json.str?]

theorem choice?_lenient {m : Manner} {v : Json} {name : String} (h : m.choice? v = some name) :
    lenient.choice? v = some name := by
  cases m with
  | plain =>
    cases v with
    | str s => exact h
    | _ => cases h
  | lenient => exact h

end Manner

namespace Record

/-- A text that may be missing or null. -/
def IsOptText (w : Option Json) : Prop := ∀ v, w = some v → v = .null ∨ ∃ s, v = .str s

/-- The fields of a record, and those of its metadata, but for the records inside. The text of a time is
one that `Timestamp.ofText?` reads. -/
structure IsOwn (m : Manner) (field metadata : String → Option Json) : Prop where
  name : ∃ s, field "name" = some (.str s)
  message : ∃ s, field "message" = some (.str s)
  code : ∃ s, field "code" = some (.str s)
  category : ∃ v, ∃ c : Category, field "category" = some v ∧ m.choice? v = some c.name
  severity : ∃ v, ∃ s : Severity, field "severity" = some v ∧ m.choice? v = some s.name
  timestamp : ∀ v, metadata "timestamp" = some v → ∃ s t, v = .str s ∧ Timestamp.ofText? s = some t
  operation : IsOptText (metadata "operation")
  resource : IsOptText (metadata "resource")
  context : ∀ v, metadata "context" = some v → ∃ members, v = .obj members
  retryCount : ∀ v, metadata "retryCount" = some v → ∃ n : Nat, n < UInt32.size ∧ v = .nat n
  stack : IsOptText (field "stack")

end Record

open Record (IsOwn)

/-- A value is a record that is given in a manner, as are its causes, and of which the inner errors
are given in the manner `inside`. The records of the schema are those of which all is plain,
`IsRecord .plain .plain`. -/
inductive IsRecord (inside : Manner) : Manner → Json → Prop where
  | intro {m : Manner} {v w : Json} {field metadata : String → Option Json} {items : List Json}
      (fields : m.fields? Record.fields v = some field) (member : field "metadata" = some w)
      (metadataFields : m.fields? Record.metadataFields w = some metadata)
      (own : IsOwn m field metadata)
      (innerErrors : metadata "innerErrors" = none ∧ items = [] ∨
        metadata "innerErrors" = some (.arr items))
      (inner : ∀ u ∈ items, IsRecord inside inside u)
      (cause : ∀ c, field "cause" = some c → c ≠ .null → IsRecord inside m c) :
      IsRecord inside m v

/-! ## Manners -/

theorem Record.IsOwn.lenient {m : Manner} {field metadata : String → Option Json}
    (h : IsOwn m field metadata) : IsOwn .lenient field metadata := by
  obtain ⟨v, c, hv, hc⟩ := h.category
  obtain ⟨w, s, hw, hs⟩ := h.severity
  exact { h with
    category := ⟨v, c, hv, Manner.choice?_lenient hc⟩
    severity := ⟨w, s, hw, Manner.choice?_lenient hs⟩ }

namespace IsRecord

/-- A record in any manner is one that the decoder takes. -/
theorem lenient {inside m : Manner} {v : Json} (h : IsRecord inside m v) :
    IsRecord .lenient .lenient v := by
  induction h with
  | intro hfields hmember hmetadata hown hitems _ _ hinner hcause =>
    exact .intro (Manner.fields?_lenient hfields) hmember (Manner.fields?_lenient hmetadata)
      hown.lenient hitems hinner hcause

theorem lenientInside {inside m : Manner} {v : Json} (h : IsRecord inside m v) :
    IsRecord .lenient m v := by
  induction h with
  | intro hfields hmember hmetadata hown hitems hinner _ _ hcause =>
    exact .intro hfields hmember hmetadata hown hitems (fun u hu => (hinner u hu).lenient) hcause

end IsRecord

/-! ## What the decoder takes -/

namespace Record

theorem optText?_iff {w : Option Json} : (∃ s, Json.optText? w = some s) ↔ IsOptText w := by
  unfold Json.optText?
  split
  · simp [IsOptText]
  · simp [IsOptText]
  · simp [IsOptText]
  · next v hnull htext =>
    constructor
    · rintro ⟨_, h⟩
      cases h
    · intro h
      rcases h v rfl with rfl | ⟨s, rfl⟩
      · exact (hnull rfl).elim
      · exact (htext s rfl).elim

theorem timestampOf?_iff (now : Timestamp) {w : Option Json} :
    (∃ t, timestampOf? now w = some t) ↔
      ∀ v, w = some v → ∃ s t, v = .str s ∧ Timestamp.ofText? s = some t := by
  unfold timestampOf?
  split
  · simp
  · simp
  · next v htext =>
    constructor
    · rintro ⟨_, h⟩
      cases h
    · intro h
      obtain ⟨s, _, rfl, _⟩ := h v rfl
      exact (htext s rfl).elim

theorem contextOf?_iff {w : Option Json} :
    (∃ d, contextOf? w = some d) ↔ ∀ v, w = some v → ∃ members, v = .obj members := by
  unfold contextOf?
  split
  · simp
  · simp
  · next v hobject =>
    constructor
    · rintro ⟨_, h⟩
      cases h
    · intro h
      obtain ⟨members, rfl⟩ := h v rfl
      exact (hobject members rfl).elim

theorem natBelow?_iff {bound : Nat} {v : Json} :
    (∃ n, v.natBelow? bound = some n) ↔ ∃ n, n < bound ∧ v = .nat n := by
  unfold Json.natBelow?
  split
  · next n =>
    constructor
    · rintro ⟨m, h⟩
      obtain ⟨⟨h0, hlt⟩, _⟩ := Option.ite_none_right_eq_some.1 h
      exact ⟨n.toNat, by omega, by rw [Json.nat, Int.toNat_of_nonneg h0]⟩
    · rintro ⟨m, hm, hv⟩
      cases hv
      exact ⟨m, by rw [if_pos ⟨Int.natCast_nonneg m, by exact_mod_cast hm⟩]; rfl⟩
  · next hint =>
    constructor
    · rintro ⟨_, h⟩
      cases h
    · rintro ⟨n, _, rfl⟩
      exact (hint n rfl).elim

theorem retryCountOf?_iff {w : Option Json} : (∃ n, retryCountOf? w = some n) ↔
    ∀ v, w = some v → ∃ n : Nat, n < UInt32.size ∧ v = .nat n := by
  cases w with
  | none => simp [retryCountOf?]
  | some v =>
    have hmap : (∃ n, retryCountOf? (some v) = some n) ↔ ∃ n, v.natBelow? UInt32.size = some n := by
      rw [retryCountOf?]
      cases v.natBelow? UInt32.size <;> simp
    rw [hmap, natBelow?_iff]
    simp

theorem textOf?_iff {w : Option Json} : (∃ s, textOf? w = some s) ↔ ∃ s, w = some (.str s) :=
  exists_congr fun _ => Json.bind_str?_eq_some

theorem choiceOf?_iff {α : Type} {ofName? : String → Except UnknownName α} {nameOf : α → String}
    (hofName : ∀ {name a}, ofName? name = .ok a ↔ name = nameOf a) {w : Option Json} :
    (∃ a, choiceOf? ofName? w = some a) ↔
      ∃ v a, w = some v ∧ Manner.lenient.choice? v = some (nameOf a) := by
  constructor
  · rintro ⟨a, h⟩
    obtain ⟨name, hname, ha⟩ := Option.bind_eq_some_iff.1 h
    obtain ⟨v, hv, hvariant⟩ := Option.bind_eq_some_iff.1 hname
    rw [Except.toOption_eq_some, hofName] at ha
    exact ⟨v, a, hv, ha ▸ hvariant⟩
  · rintro ⟨v, a, rfl, hname⟩
    exact ⟨a, Option.bind_eq_some_iff.2 ⟨nameOf a, hname, Except.toOption_eq_some.2 (hofName.2 rfl)⟩⟩

theorem own?_iff (now : Timestamp) {field metadata : String → Option Json} :
    (∃ r, own? now field metadata = some r) ↔ IsOwn .lenient field metadata := by
  constructor
  · rintro ⟨r, h⟩
    obtain ⟨_, hname, h⟩ := Option.bind_eq_some_iff.1 h
    obtain ⟨_, hmessage, h⟩ := Option.bind_eq_some_iff.1 h
    obtain ⟨_, hcode, h⟩ := Option.bind_eq_some_iff.1 h
    obtain ⟨_, hcategory, h⟩ := Option.bind_eq_some_iff.1 h
    obtain ⟨_, hseverity, h⟩ := Option.bind_eq_some_iff.1 h
    obtain ⟨_, htimestamp, h⟩ := Option.bind_eq_some_iff.1 h
    obtain ⟨_, hoperation, h⟩ := Option.bind_eq_some_iff.1 h
    obtain ⟨_, hresource, h⟩ := Option.bind_eq_some_iff.1 h
    obtain ⟨_, hcontext, h⟩ := Option.bind_eq_some_iff.1 h
    obtain ⟨_, hretryCount, h⟩ := Option.bind_eq_some_iff.1 h
    obtain ⟨_, hstack, _⟩ := Option.bind_eq_some_iff.1 h
    exact {
      name := textOf?_iff.1 ⟨_, hname⟩
      message := textOf?_iff.1 ⟨_, hmessage⟩
      code := textOf?_iff.1 ⟨_, hcode⟩
      category := (choiceOf?_iff Category.ofName?_eq_ok).1 ⟨_, hcategory⟩
      severity := (choiceOf?_iff Severity.ofName?_eq_ok).1 ⟨_, hseverity⟩
      timestamp := (timestampOf?_iff now).1 ⟨_, htimestamp⟩
      operation := optText?_iff.1 ⟨_, hoperation⟩
      resource := optText?_iff.1 ⟨_, hresource⟩
      context := contextOf?_iff.1 ⟨_, hcontext⟩
      retryCount := retryCountOf?_iff.1 ⟨_, hretryCount⟩
      stack := optText?_iff.1 ⟨_, hstack⟩ }
  · intro h
    obtain ⟨name, hname⟩ := textOf?_iff.2 h.name
    obtain ⟨message, hmessage⟩ := textOf?_iff.2 h.message
    obtain ⟨code, hcode⟩ := textOf?_iff.2 h.code
    obtain ⟨category, hcategory⟩ := (choiceOf?_iff Category.ofName?_eq_ok).2 h.category
    obtain ⟨severity, hseverity⟩ := (choiceOf?_iff Severity.ofName?_eq_ok).2 h.severity
    obtain ⟨timestamp, htimestamp⟩ := (timestampOf?_iff now).2 h.timestamp
    obtain ⟨operation, hoperation⟩ := optText?_iff.2 h.operation
    obtain ⟨resource, hresource⟩ := optText?_iff.2 h.resource
    obtain ⟨context, hcontext⟩ := contextOf?_iff.2 h.context
    obtain ⟨retryCount, hretryCount⟩ := retryCountOf?_iff.2 h.retryCount
    obtain ⟨stack, hstack⟩ := optText?_iff.2 h.stack
    refine ⟨⟨name, message, code, category, severity, timestamp, operation, resource, context,
      retryCount, [], none, stack⟩, ?_⟩
    simp only [own?, hname, hmessage, hcode, hcategory, hseverity, htimestamp, hoperation,
      hresource, hcontext, hretryCount, hstack, Option.bind_eq_bind, Option.bind_some]

theorem exists_mapM_iff {α β : Type} {f : α → Option β} {l : List α} :
    (∃ ys, l.mapM f = some ys) ↔ ∀ x ∈ l, ∃ y, f x = some y := by
  induction l with
  | nil => simp
  | cons x rest ih =>
    simp only [List.mapM_cons, Option.bind_eq_bind, Option.bind_eq_some_iff, List.forall_mem_cons,
      ← ih]
    constructor
    · rintro ⟨_, y, hy, ys, hys, _⟩
      exact ⟨⟨y, hy⟩, ys, hys⟩
    · rintro ⟨⟨y, hy⟩, ys, hys⟩
      exact ⟨_, y, hy, ys, hys, rfl⟩

/-- What the decoder takes is a record in its own manner. By recursion on the size of the value. -/
theorem isRecord_of_ofJson? (now : Timestamp) (v : Json) {r : Record}
    (h : ofJson? now v = some r) : IsRecord .lenient .lenient v := by
  obtain ⟨d, inner, cause, hd, hinner, hcause, _⟩ := ofJson?_eq_some.1 h
  obtain ⟨field, w, metadata, hfield, hw, hmetadata, hitems, hown, hpresent⟩ :=
    outline?_eq_some.1 hd
  refine .intro hfield hw hmetadata ((own?_iff now).1 ⟨_, hown⟩) (Json.items?_eq_some.1 hitems) ?_ ?_
  · intro u hu
    have := Outline.sizeOf_lt hd (.inl hu)
    obtain ⟨s, hs⟩ := exists_mapM_iff.1 ⟨_, hinner⟩ u hu
    exact isRecord_of_ofJson? now u hs
  · intro c hc hne
    have hdcause : d.cause = some c := hpresent.symm.trans (Json.present?_eq_some.2 ⟨hc, hne⟩)
    have := Outline.sizeOf_lt hd (.inr hdcause)
    rw [hdcause, Option.mapM_some] at hcause
    cases hs : ofJson? now c with
    | none =>
      rw [hs] at hcause
      cases hcause
    | some s => exact isRecord_of_ofJson? now c hs
termination_by sizeOf v

/-- A record in any manner is decoded. -/
theorem ofJson?_of_isRecord (now : Timestamp) {inside m : Manner} {v : Json}
    (h : IsRecord inside m v) : ∃ r, ofJson? now v = some r := by
  induction h with
  | @intro m v w field metadata items hfields hmember hmetadata hown hitems _ _ hinner hcause =>
    obtain ⟨own, hown⟩ := (own?_iff now).2 hown.lenient
    obtain ⟨inner, hinner⟩ := exists_mapM_iff.2 hinner
    have hdcause : ∃ cause, (Json.present? (field "cause")).mapM (ofJson? now) = some cause := by
      cases hpresent : Json.present? (field "cause") with
      | none => exact ⟨none, rfl⟩
      | some c =>
        obtain ⟨hc, hne⟩ := Json.present?_eq_some.1 hpresent
        obtain ⟨s, hs⟩ := hcause c hc hne
        exact ⟨some s, by rw [Option.mapM_some, hs]; rfl⟩
    obtain ⟨cause, hdcause⟩ := hdcause
    refine ⟨_, ofJson?_eq_some.2 ⟨⟨own, items, Json.present? (field "cause")⟩, inner, cause,
      outline?_eq_some.2 ?_, hinner, hdcause, rfl⟩⟩
    exact ⟨field, w, metadata, Manner.fields?_lenient hfields, hmember,
      Manner.fields?_lenient hmetadata, Json.items?_eq_some.2 hitems, hown, rfl⟩

/-! ## What is accepted -/

theorem IsOwn.plain {m : Manner} {field metadata : String → Option Json}
    (h : IsOwn m field metadata) (hcategory : ∃ c : Category, field "category" = some (.str c.name))
    (hseverity : ∃ s : Severity, field "severity" = some (.str s.name)) :
    IsOwn .plain field metadata := by
  obtain ⟨c, hc⟩ := hcategory
  obtain ⟨s, hs⟩ := hseverity
  exact { h with category := ⟨_, c, hc, rfl⟩, severity := ⟨_, s, hs, rfl⟩ }

theorem isRecord_of_validate (now : Timestamp) (v : Json) {r : Record}
    (h : validate now v = .ok r) : IsRecord .lenient .plain v := by
  obtain ⟨hchecked, hcauses, hdecoded⟩ := validate_eq_ok.1 h
  obtain ⟨members, hobj⟩ := hchecked.isObj
  obtain ⟨metadataMembers, hmembers⟩ := hchecked.metadata
  cases isRecord_of_ofJson? now v hdecoded with
  | @intro _ _ w field metadata items hfields hmember hmetadata hown hitems hinner _ =>
    have hfield : field = v.get? := by
      rw [hobj] at hfields ⊢
      exact (Option.some.inj hfields).symm
    subst hfield
    have hw : w = .obj metadataMembers := Option.some.inj (hmember.symm.trans hmembers)
    subst hw hobj
    refine .intro rfl hmember hmetadata (hown.plain hchecked.category hchecked.severity) hitems
      hinner fun c hc hne => ?_
    have := Json.sizeOf_get? hc
    obtain ⟨s, hs⟩ := hcauses c (Json.present?_eq_some.2 ⟨hc, hne⟩)
    exact isRecord_of_validate now c hs
termination_by sizeOf v

theorem checked_of_isOwn {v w : Json} {field metadata : String → Option Json}
    (hfields : Manner.plain.fields? fields v = some field) (hmember : field "metadata" = some w)
    (hmetadata : Manner.plain.fields? metadataFields w = some metadata)
    (hown : IsOwn .plain field metadata) : Checked v := by
  obtain ⟨members, _, rfl⟩ := Manner.fields?_plain.1 hfields
  obtain ⟨metadataMembers, rfl, _⟩ := Manner.fields?_plain.1 hmetadata
  obtain ⟨category, c, hcategory, hc⟩ := hown.category
  obtain ⟨severity, s, hseverity, hs⟩ := hown.severity
  rw [Manner.choice?_plain] at hc hs
  subst hc hs
  refine ⟨?_, ⟨c, hcategory⟩, ⟨s, hseverity⟩, ⟨_, hmember⟩⟩
  simpa using ⟨hown.name, hown.message, hown.code⟩

theorem validate_of_isRecord (now : Timestamp) {inside : Manner} (v : Json)
    (h : IsRecord inside .plain v) : ∃ r, validate now v = .ok r := by
  obtain ⟨r, hr⟩ := ofJson?_of_isRecord now h
  refine ⟨r, validate_eq_ok.2 ⟨?_, fun c hc => ?_, hr⟩⟩
  · cases h with
    | intro hfields hmember hmetadata hown _ _ _ =>
      exact checked_of_isOwn hfields hmember hmetadata hown
  · cases h with
    | intro hfields _ _ _ _ _ hcause =>
      obtain ⟨members, rfl, rfl⟩ := Manner.fields?_plain.1 hfields
      obtain ⟨hc, hne⟩ := Json.present?_eq_some.1 hc
      have := Json.sizeOf_get? hc
      exact validate_of_isRecord now c (hcause c hc hne)
termination_by sizeOf v

/-! ## Where the decoder is laxer than the checks -/

/-- The inner errors that the decoder finds in a value. -/
def innerOf (v : Json) : List Json :=
  ((v.fields? fields).bind fun field => (field "metadata").bind fun w =>
    (w.fields? metadataFields).bind fun metadata => Json.items? (metadata "innerErrors")).getD []

/-- The cause that the decoder finds in a value. -/
def causeOf (v : Json) : Option Json :=
  (v.fields? fields).bind fun field => Json.present? (field "cause")

/-- The decoder comes from a value to what is inside it, from records to their causes and to their
inner errors. It says `true` if it comes through an inner error. -/
inductive Reaches (v : Json) : Bool → Json → Prop where
  | self : Reaches v false v
  | cause {inside : Bool} {w c : Json} :
    Reaches v inside w → causeOf w = some c → Reaches v inside c
  | inner {inside : Bool} {w u : Json} : Reaches v inside w → u ∈ innerOf w → Reaches v true u

/-- What the checks would ask of the form of a value. -/
structure IsPlain (v : Json) : Prop where
  metadata : ∃ members, v.get? "metadata" = some (.obj members)
  category : ∃ s, v.get? "category" = some (.str s)
  severity : ∃ s, v.get? "severity" = some (.str s)

section

variable {m : Manner} {v w : Json} {field metadata : String → Option Json} {items : List Json}

theorem causeOf_eq_some (hfields : m.fields? fields v = some field) {c : Json} :
    causeOf v = some c ↔ field "cause" = some c ∧ c ≠ .null := by
  have hfields : v.fields? fields = some field := Manner.fields?_lenient hfields
  rw [causeOf, hfields, Option.bind_some, Json.present?_eq_some]

theorem innerOf_eq (hfields : m.fields? fields v = some field) (hmember : field "metadata" = some w)
    (hmetadata : m.fields? metadataFields w = some metadata)
    (hitems : metadata "innerErrors" = none ∧ items = [] ∨
      metadata "innerErrors" = some (.arr items)) : innerOf v = items := by
  have hfields : v.fields? fields = some field := Manner.fields?_lenient hfields
  have hmetadata : w.fields? metadataFields = some metadata := Manner.fields?_lenient hmetadata
  rw [innerOf, hfields, Option.bind_some, hmember, Option.bind_some, hmetadata, Option.bind_some,
    Json.items?_eq_some.2 hitems, Option.getD_some]

/-- Where all is given plainly, the decoder comes to plain records only. -/
theorem isRecord_of_reaches {inside : Bool} (h : IsRecord .plain .plain v)
    (hreach : Reaches v inside w) : IsRecord .plain .plain w := by
  induction hreach with
  | self => exact h
  | cause _ hc ih =>
    cases ih with
    | intro hfields _ _ _ _ _ hcause =>
      obtain ⟨hc, hne⟩ := (causeOf_eq_some hfields).1 hc
      exact hcause _ hc hne
  | inner _ hu ih =>
    cases ih with
    | intro hfields hmember hmetadata _ hitems hinner _ =>
      rw [innerOf_eq hfields hmember hmetadata hitems] at hu
      exact hinner _ hu

theorem isPlain_of_isRecord {inside : Manner} (h : IsRecord inside .plain v) : IsPlain v := by
  cases h with
  | intro hfields hmember hmetadata hown _ _ _ =>
    obtain ⟨_, ⟨c, hc⟩, ⟨s, hs⟩, hmetadata⟩ := checked_of_isOwn hfields hmember hmetadata hown
    exact ⟨hmetadata, ⟨_, hc⟩, ⟨_, hs⟩⟩

/-- Nothing but its form keeps a record in the manner of the decoder from being plain. -/
theorem IsPlain.regular (hplain : IsPlain v) (hfields : m.fields? fields v = some field)
    (hmember : field "metadata" = some w) (hmetadata : m.fields? metadataFields w = some metadata)
    (hown : IsOwn m field metadata) : Manner.plain.fields? fields v = some field ∧
      Manner.plain.fields? metadataFields w = some metadata ∧ IsOwn .plain field metadata := by
  obtain ⟨⟨metadataMembers, hmembers⟩, ⟨category, hcategory⟩, ⟨severity, hseverity⟩⟩ := hplain
  obtain ⟨members, rfl⟩ : ∃ members, v = .obj members := by
    cases v with
    | obj members => exact ⟨members, rfl⟩
    | _ => cases hmembers
  obtain rfl : (Json.obj members).get? = field := Option.some.inj (Manner.fields?_lenient hfields)
  obtain rfl : w = .obj metadataMembers := Option.some.inj (hmember.symm.trans hmembers)
  obtain rfl : (Json.obj metadataMembers).get? = metadata :=
    Option.some.inj (Manner.fields?_lenient hmetadata)
  obtain ⟨_, c, hc, hname⟩ := hown.category
  obtain ⟨_, s, hs, hname'⟩ := hown.severity
  rw [hcategory] at hc
  rw [hseverity] at hs
  obtain rfl := Option.some.inj hc
  obtain rfl := Option.some.inj hs
  obtain rfl : category = c.name := Option.some.inj (Manner.choice?_lenient hname)
  obtain rfl : severity = s.name := Option.some.inj (Manner.choice?_lenient hname')
  exact ⟨rfl, rfl, hown.plain ⟨c, hcategory⟩ ⟨s, hseverity⟩⟩

/-- By induction on the record, along the way by which the decoder has come to it: only what it has
come to through an inner error can be given in its own manner. -/
theorem plain_of_reaches {u : Json} (hform : ∀ w, Reaches u true w → IsPlain w)
    (h : IsRecord .lenient m v) {inside : Bool} (hreach : Reaches u inside v)
    (hinside : inside = true ∨ m = .plain) : IsRecord .plain .plain v := by
  induction h generalizing inside with
  | @intro m v w field metadata items hfields hmember hmetadata hown hitems hinner hcause ihinner
      ihcause =>
    have hplain : IsPlain v := by
      rcases hinside with rfl | rfl
      · exact hform v hreach
      · exact isPlain_of_isRecord (.intro hfields hmember hmetadata hown hitems hinner hcause)
    obtain ⟨hfields', hmetadata', hown'⟩ := hplain.regular hfields hmember hmetadata hown
    refine .intro hfields' hmember hmetadata' hown' hitems (fun x hx => ?_) fun c hc hne => ?_
    · have hmem : x ∈ innerOf v := (innerOf_eq hfields hmember hmetadata hitems).symm ▸ hx
      exact ihinner x hx (hreach.inner hmem) (.inl rfl)
    · have hcauseOf : causeOf v = some c := (causeOf_eq_some hfields).2 ⟨hc, hne⟩
      exact ihcause c hc hne (hreach.cause hcauseOf) hinside

theorem isRecord_plain_iff : IsRecord .plain .plain v ↔
    IsRecord .lenient .plain v ∧ ∀ w, Reaches v true w → IsPlain w := by
  constructor
  · intro h
    exact ⟨h.lenientInside, fun w hreach => isPlain_of_isRecord (isRecord_of_reaches h hreach)⟩
  · rintro ⟨h, hform⟩
    exact plain_of_reaches hform h .self (.inr rfl)

end

theorem accepted_iff (now : Timestamp) {v : Json} :
    (∃ r, validate now v = .ok r) ↔ IsRecord .lenient .plain v :=
  ⟨fun ⟨_, hr⟩ => isRecord_of_validate now v hr, validate_of_isRecord now v⟩

/-- A value is accepted just if it is a record, given plainly as are its causes, of which the inner
errors are given in any form that the decoder takes. So the values that are accepted are the records
of the schema just as far as the decoder comes, on its way through inner errors, to values in plain
form. -/
theorem validate_iff (now : Timestamp) (v : Json) :
    ((∃ r, validate now v = .ok r) ↔ IsRecord .lenient .plain v) ∧
    (((∃ r, validate now v = .ok r) ↔ IsRecord .plain .plain v) ↔
      ((∃ r, validate now v = .ok r) → ∀ w, Reaches v true w → IsPlain w)) := by
  refine ⟨accepted_iff now, ?_⟩
  rw [isRecord_plain_iff, ← accepted_iff now]
  constructor
  · intro h haccepted
    exact (h.1 haccepted).2
  · intro h
    exact ⟨fun haccepted => ⟨haccepted, h haccepted⟩, And.left⟩

/-- The fields of an inner error in their order. -/
def fieldsInOrder : Json :=
  .arr [.str "E", .str "m", .str "C", .str "NETWORK", .str "LOW", .obj []]

/-- A record with an inner error that is an array of its fields. -/
def withFieldsInOrder : Json :=
  .obj [("category", .str "NETWORK"), ("code", .str "C"), ("message", .str "m"),
    ("metadata", .obj [("innerErrors", .arr [fieldsInOrder])]), ("name", .str "E"),
    ("severity", .str "LOW")]

theorem isOwn_of_texts {m : Manner} {field metadata : String → Option Json}
    {name message code : String} {c : Category} {s : Severity}
    (hname : field "name" = some (.str name)) (hmessage : field "message" = some (.str message))
    (hcode : field "code" = some (.str code)) (hcategory : field "category" = some (.str c.name))
    (hseverity : field "severity" = some (.str s.name)) (hstack : field "stack" = none)
    (hmissing : ∀ key ∈ metadataFields, key ≠ "innerErrors" → metadata key = none) :
    IsOwn m field metadata := by
  have hchoice (name : String) : m.choice? (.str name) = some name := by cases m <;> rfl
  simp [metadataFields] at hmissing
  obtain ⟨htimestamp, hoperation, hresource, hcontext, hretryCount⟩ := hmissing
  exact {
    name := ⟨_, hname⟩
    message := ⟨_, hmessage⟩
    code := ⟨_, hcode⟩
    category := ⟨_, c, hcategory, hchoice _⟩
    severity := ⟨_, s, hseverity, hchoice _⟩
    timestamp := by simp [htimestamp]
    operation := by simp [IsOptText, hoperation]
    resource := by simp [IsOptText, hresource]
    context := by simp [hcontext]
    retryCount := by simp [hretryCount]
    stack := by simp [IsOptText, hstack] }

theorem isRecord_fieldsInOrder : IsRecord .lenient .lenient fieldsInOrder :=
  .intro rfl rfl rfl
    (isOwn_of_texts (c := .network) (s := .low) rfl rfl rfl rfl rfl rfl (by decide))
    (.inl ⟨rfl, rfl⟩) (by simp) (by intro c hc; cases hc)

/-- The inner error is accepted, though it is no object. -/
theorem not_accepted_iff_plain : ¬ ∀ (now : Timestamp) (v : Json),
    (∃ r, validate now v = .ok r) ↔ IsRecord .plain .plain v := by
  intro h
  have haccepted : ∃ r, validate default withFieldsInOrder = .ok r := by
    refine (accepted_iff default).2 (.intro rfl rfl rfl
      (isOwn_of_texts (c := .network) (s := .low) rfl rfl rfl rfl rfl rfl (by decide))
      (.inr rfl) ?_ (by intro c hc; cases hc))
    simpa using isRecord_fieldsInOrder
  have hinside : Reaches withFieldsInOrder true fieldsInOrder := .inner .self List.mem_cons_self
  obtain ⟨_, hform⟩ := isRecord_plain_iff.1 ((h default withFieldsInOrder).1 haccepted)
  obtain ⟨members, hmembers⟩ := (hform fieldsInOrder hinside).metadata
  cases hmembers

end Record

end Resilience
