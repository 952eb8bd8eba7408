import Resilience.Proofs.Failure.Acceptance

/-!
# Why values are rejected

A value, its cause, the cause of that are checked on the way down and decoded on the way up. So of
several things that are wrong with them, the one that is told is the first fault of the shallowest
value that has one, or else, if all of them pass the checks, that the deepest of them that does not
decode is malformed (`Record.validate_error_iff`). An error says once for each step down that it is
in a cause.
-/

namespace Resilience

/-! ## Errors -/

namespace SchemaError

/-- The field that is invalid, and why. -/
def invalid? : SchemaError → Option (String × String)
  | notText field => some (field, "expected a string")
  | notObject field => some (field, "expected an object")
  | unknownName field reason => some (field, reason.message)
  | inCause reason => some ("cause", reason.message)
  | notAnObject | missing _ | malformed => none

theorem message_of_invalid? {e : SchemaError} {field reason : String}
    (h : e.invalid? = some (field, reason)) :
    e.message = "invalid field " ++ field ++ ": " ++ reason := by
  have htext : ": " ++ "expected a string" = ": expected a string" := rfl
  have hobject : ": " ++ "expected an object" = ": expected an object" := rfl
  cases e with
  | notAnObject | missing _ | malformed => cases h
  | notText field =>
    cases h
    rw [String.append_assoc, htext]
    rfl
  | notObject field =>
    cases h
    rw [String.append_assoc, hobject]
    rfl
  | unknownName field reason =>
    cases h
    rfl
  | inCause e =>
    cases h
    rfl

/-- An error in a cause that is so many steps down. -/
def within (e : SchemaError) : Nat → SchemaError
  | 0 => e
  | d + 1 => .inCause (e.within d)

end SchemaError

/-! ## Names that stand for nothing -/

theorem UnknownName.eq_error_iff {α : Type} {ofName? : String → Except UnknownName α}
    {nameOf : α → String} {unknown : String → UnknownName}
    (hok : ∀ {name a}, ofName? name = .ok a ↔ name = nameOf a)
    (herror : ∀ {name e}, ofName? name = .error e → e = unknown name) {name : String}
    {e : UnknownName} :
    ofName? name = .error e ↔ (∀ a, name ≠ nameOf a) ∧ e = unknown name := by
  constructor
  · intro h
    refine ⟨fun a ha => ?_, herror h⟩
    rw [hok.2 ha] at h
    cases h
  · rintro ⟨hnone, rfl⟩
    cases h : ofName? name with
    | ok a => exact absurd (hok.1 h) (hnone a)
    | error e => rw [herror h]

theorem Category.ofName?_eq_error {name : String} {e : UnknownName} :
    ofName? name = .error e ↔ (∀ c : Category, name ≠ c.name) ∧ e = .category name :=
  UnknownName.eq_error_iff ofName?_eq_ok fun h => by
    unfold ofName? at h
    split at h <;> cases h
    rfl

theorem Severity.ofName?_eq_error {name : String} {e : UnknownName} :
    ofName? name = .error e ↔ (∀ s : Severity, name ≠ s.name) ∧ e = .severity name :=
  UnknownName.eq_error_iff ofName?_eq_ok fun h => by
    unfold ofName? at h
    split at h <;> cases h
    rfl

namespace Record

/-! ## Faults -/

/-- The fields that are checked, in the order of their checks. -/
def checkedFields : List String := ["name", "message", "code", "category", "severity", "metadata"]

/-- What can be wrong with a value itself, and the number of the check that finds it. -/
inductive Fault (v : Json) : Nat → SchemaError → Prop where
  | object : (∀ members, v ≠ .obj members) → Fault v 0 .notAnObject
  | missing {n : Nat} {field : String} : checkedFields[n]? = some field → v.get? field = none →
      Fault v (n + 1) (.missing field)
  | text {n : Nat} {field : String} {w : Json} : checkedFields[n]? = some field →
      field ≠ "metadata" → v.get? field = some w → (∀ s, w ≠ .str s) →
      Fault v (n + 1) (.notText field)
  | category {s : String} : v.get? "category" = some (.str s) → (∀ c : Category, s ≠ c.name) →
      Fault v 4 (.unknownName "category" (.category s))
  | severity {s : String} : v.get? "severity" = some (.str s) → (∀ r : Severity, s ≠ r.name) →
      Fault v 5 (.unknownName "severity" (.severity s))
  | metadata {w : Json} : v.get? "metadata" = some w → (∀ members, w ≠ .obj members) →
      Fault v 6 (.notObject "metadata")

/-- What the first check that a value fails finds. -/
def FirstFault (v : Json) (e : SchemaError) : Prop :=
  ∃ n, Fault v n e ∧ ∀ m < n, ∀ e', ¬ Fault v m e'

/-- The checks one by one. -/
def steps (v : Json) : List (Except SchemaError Unit) :=
  [match v with
    | .obj _ => pure ()
    | _ => throw .notAnObject,
    discard (textField v "name"),
    discard (textField v "message"),
    discard (textField v "code"),
    textField v "category" >>= fun s =>
      discard ((Category.ofName? s).mapError (.unknownName "category")),
    textField v "severity" >>= fun s =>
      discard ((Severity.ofName? s).mapError (.unknownName "severity")),
    match v.get? "metadata" with
    | some (.obj _) => pure ()
    | some _ => throw (.notObject "metadata")
    | none => throw (.missing "metadata")]

theorem checkFields_eq_forM (v : Json) : checkFields v = (steps v).forM id := by
  have hsingle (x : Except SchemaError Unit) : [x].forM id = x := by cases x <;> rfl
  have hcons (x y : Except SchemaError Unit) (rest : List (Except SchemaError Unit)) :
      (x :: y :: rest).forM id = x >>= fun _ => (y :: rest).forM id := rfl
  simp only [steps, hcons, hsingle, bind_assoc, checkFields]
  cases v <;> rfl

theorem textField_eq_error {v : Json} {field : String} {e : SchemaError} :
    textField v field = .error e ↔ (v.get? field = none ∧ e = .missing field) ∨
      ∃ w, v.get? field = some w ∧ (∀ s, w ≠ .str s) ∧ e = .notText field := by
  unfold textField
  split
  · next s h => simp [h]
  · next w hne h =>
    constructor
    · rintro ⟨⟩
      exact .inr ⟨w, h, fun s heq => hne s (heq ▸ rfl), rfl⟩
    · rintro (⟨hnone, _⟩ | ⟨_, _, _, rfl⟩)
      · simp [h] at hnone
      · rfl
  · next h => simp [h, eq_comm]

section

variable {v : Json} {n : Nat} {field : String} {e : SchemaError}

theorem fault_of_textField (hfield : checkedFields[n]? = some field) (hne : field ≠ "metadata")
    (h : textField v field = .error e) : Fault v (n + 1) e := by
  rcases textField_eq_error.1 h with ⟨hnone, rfl⟩ | ⟨w, hw, hother, rfl⟩
  · exact .missing hfield hnone
  · exact .text hfield hne hw hother

theorem step_of_textField (hfield : checkedFields[n]? = some field) (hne : field ≠ "metadata")
    (h : textField v field = .error e) : (steps v)[n + 1]? = some (.error e) := by
  have hdiscard : (discard (textField v field) : Except SchemaError Unit) = .error e :=
    Except.discard_eq_error.2 h
  have hbind (f : String → Except SchemaError Unit) : textField v field >>= f = .error e :=
    Except.bind_eq_error.2 (.inl h)
  rcases n with _ | _ | _ | _ | _ | _ | n <;> cases hfield
  · exact congrArg some hdiscard
  · exact congrArg some hdiscard
  · exact congrArg some hdiscard
  · exact congrArg some (hbind _)
  · exact congrArg some (hbind _)
  · exact (hne rfl).elim

theorem choice_eq_error {α : Type} {ofName? : String → Except UnknownName α} :
    (textField v field >>= fun s =>
      (discard ((ofName? s).mapError (.unknownName field)) : Except SchemaError Unit)) = .error e ↔
    textField v field = .error e ∨ ∃ s reason, v.get? field = some (.str s) ∧
      ofName? s = .error reason ∧ SchemaError.unknownName field reason = e := by
  simp only [Except.bind_eq_error, Except.discard_eq_error, Except.mapError_eq_error,
    textField_eq_ok]
  simp only [exists_and_left]

/-- A check fails just if it finds a fault. -/
theorem step_eq_error_iff : (steps v)[n]? = some (.error e) ↔ Fault v n e := by
  constructor
  · intro h
    rcases n with _ | _ | _ | _ | _ | _ | _ | n
    · cases v with
      | obj members => cases h
      | _ =>
        cases h
        exact .object nofun
    · exact fault_of_textField rfl (by decide) (Except.discard_eq_error.1 (Option.some.inj h))
    · exact fault_of_textField rfl (by decide) (Except.discard_eq_error.1 (Option.some.inj h))
    · exact fault_of_textField rfl (by decide) (Except.discard_eq_error.1 (Option.some.inj h))
    · rcases choice_eq_error.1 (Option.some.inj h) with h | ⟨s, reason, hs, hname, rfl⟩
      · exact fault_of_textField rfl (by decide) h
      · obtain ⟨hnone, rfl⟩ := Category.ofName?_eq_error.1 hname
        exact .category hs hnone
    · rcases choice_eq_error.1 (Option.some.inj h) with h | ⟨s, reason, hs, hname, rfl⟩
      · exact fault_of_textField rfl (by decide) h
      · obtain ⟨hnone, rfl⟩ := Severity.ofName?_eq_error.1 hname
        exact .severity hs hnone
    · have h := Option.some.inj h
      split at h
      · cases h
      · next w hother hw =>
        cases h
        exact .metadata hw fun members heq => hother members (heq ▸ rfl)
      · next hnone =>
        cases h
        exact .missing rfl hnone
    · cases h
  · intro h
    cases h with
    | object hne =>
      cases v with
      | obj members => exact (hne members rfl).elim
      | _ => rfl
    | @missing n field hfield hnone =>
      by_cases hmetadata : field = "metadata"
      · subst hmetadata
        rcases n with _ | _ | _ | _ | _ | _ | n <;> simp [checkedFields] at hfield
        simp [steps, hnone, throw, throwThe, MonadExceptOf.throw]
      · exact step_of_textField hfield hmetadata (textField_eq_error.2 (.inl ⟨hnone, rfl⟩))
    | text hfield hne hw hother =>
      exact step_of_textField hfield hne (textField_eq_error.2 (.inr ⟨_, hw, hother, rfl⟩))
    | category hs hnone =>
      have hname := Category.ofName?_eq_error.2 ⟨hnone, rfl⟩
      exact congrArg some (choice_eq_error.2 (.inr ⟨_, _, hs, hname, rfl⟩))
    | severity hs hnone =>
      have hname := Severity.ofName?_eq_error.2 ⟨hnone, rfl⟩
      exact congrArg some (choice_eq_error.2 (.inr ⟨_, _, hs, hname, rfl⟩))
    | @metadata w hw hne =>
      cases w with
      | obj members => exact (hne members rfl).elim
      | _ => simp [steps, hw, throw, throwThe, MonadExceptOf.throw]

theorem step_eq_ok_iff (hn : n < 7) :
    (steps v)[n]? = some (.ok ()) ↔ ∀ e, ¬ Fault v n e := by
  simp only [← step_eq_error_iff]
  have hlength : (steps v).length = 7 := rfl
  rw [List.getElem?_eq_getElem (hlength ▸ hn)]
  cases (steps v)[n] with
  | ok u => simp
  | error e => simp

theorem checkFields_eq_error : checkFields v = .error e ↔ FirstFault v e := by
  rw [checkFields_eq_forM, Except.forM_eq_error, FirstFault]
  refine exists_congr fun n => ?_
  rw [step_eq_error_iff]
  refine and_congr_right fun hfault => forall_congr' fun m => imp_congr_right fun hm => ?_
  have hn : n < 7 := by
    obtain ⟨hlt, _⟩ := List.getElem?_eq_some_iff.1 (step_eq_error_iff.2 hfault)
    exact hlt
  exact step_eq_ok_iff (by omega)

/-- A value passes the checks just if none of them finds a fault. -/
theorem checked_iff : Checked v ↔ ∀ e, ¬ FirstFault v e := by
  simp only [← checkFields_eq_error, ← checkFields_eq_ok (u := ())]
  cases checkFields v with
  | ok u => simp
  | error e => simp

end

/-! ## Causes -/

/-- The value so many steps down, from a value to its cause. -/
def causeAt? : Nat → Json → Option Json
  | 0, v => some v
  | d + 1, v => (Json.present? (v.get? "cause")).bind (causeAt? d)

section

variable {now : Timestamp} {v : Json} {e : SchemaError}

/-- A value is rejected for its own first fault, or for its cause, or because it does not decode, in
this order. -/
theorem validate_eq_error : validate now v = .error e ↔ FirstFault v e ∨ Checked v ∧
    ((∃ c reason, Json.present? (v.get? "cause") = some c ∧ validate now c = .error reason ∧
        .inCause reason = e) ∨
      (∀ c, Json.present? (v.get? "cause") = some c → ∃ r, validate now c = .ok r) ∧
        ofJson? now v = none ∧ .malformed = e) := by
  rw [validate]
  simp only [Except.bind_eq_error, checkFields_eq_error, checkFields_eq_ok]
  refine or_congr_right ?_
  split
  · next h => cases ofJson? now v <;> simp [h, Json.present?]
  · next h => cases ofJson? now v <;> simp [h, Json.present?]
  · next c hne h =>
    have hpresent : Json.present? (v.get? "cause") = some c := by
      rw [h]
      cases c with
      | null => exact (hne rfl).elim
      | _ => rfl
    cases ofJson? now v <;> simp [Except.bind_eq_error, Except.discard_eq_error,
      Except.mapError_eq_error, Except.discard_eq_ok, Except.mapError_eq_ok, hpresent]

theorem causeAt?_succ {d : Nat} {w : Json} : causeAt? (d + 1) v = some w ↔
    ∃ c, Json.present? (v.get? "cause") = some c ∧ causeAt? d c = some w :=
  Option.bind_eq_some_iff

/-- What is down the causes is the value itself, or is down the causes of its cause. -/
theorem causeAt?_cases {i : Nat} {c u : Json} (hc : Json.present? (v.get? "cause") = some c)
    (hu : causeAt? i v = some u) : i = 0 ∧ v = u ∨ ∃ j, i = j + 1 ∧ causeAt? j c = some u := by
  cases i with
  | zero => exact .inl ⟨rfl, Option.some.inj hu⟩
  | succ j =>
    obtain ⟨c', hc', hu⟩ := causeAt?_succ.1 hu
    obtain rfl : c' = c := Option.some.inj (hc'.symm.trans hc)
    exact .inr ⟨j, rfl, hu⟩

/-- What is accepted has accepted causes. -/
theorem accepted_of_causeAt? {d : Nat} {w : Json} (h : ∃ r, validate now v = .ok r)
    (hw : causeAt? d v = some w) : ∃ r, validate now w = .ok r := by
  induction d generalizing v with
  | zero =>
    obtain rfl := Option.some.inj hw
    exact h
  | succ d ih =>
    obtain ⟨c, hc, hw⟩ := causeAt?_succ.1 hw
    obtain ⟨r, hr⟩ := h
    exact ih ((validate_eq_ok.1 hr).2.1 c hc) hw

/-- What is told of a value that is rejected. -/
inductive Located (now : Timestamp) (v : Json) : SchemaError → Prop where
  /-- The first fault of the shallowest value that does not pass the checks. -/
  | fault {d : Nat} {w : Json} {e : SchemaError} : causeAt? d v = some w → FirstFault w e →
      (∀ i < d, ∀ u, causeAt? i v = some u → ∀ e', ¬ FirstFault u e') → Located now v (e.within d)
  /-- The deepest value that does not decode, if all of them pass the checks. -/
  | malformed {d : Nat} {w : Json} : (∀ i u, causeAt? i v = some u → ∀ e', ¬ FirstFault u e') →
      causeAt? d v = some w → ofJson? now w = none →
      (∀ i > d, ∀ u, causeAt? i v = some u → ∃ r, ofJson? now u = some r) →
      Located now v (SchemaError.malformed.within d)

/-- What the checks and the decoder take, down to the last cause, is accepted. By recursion on the
size of the value. -/
theorem accepted_of_causes (v : Json) (hchecked : ∀ i u, causeAt? i v = some u → Checked u)
    (hdecodes : ∀ i u, causeAt? i v = some u → ∃ r, ofJson? now u = some r) :
    ∃ r, validate now v = .ok r := by
  obtain ⟨r, hr⟩ := hdecodes 0 v rfl
  refine ⟨r, validate_eq_ok.2 ⟨hchecked 0 v rfl, fun c hc => ?_, hr⟩⟩
  have := Json.sizeOf_get? (Json.present?_eq_some.1 hc).1
  exact accepted_of_causes c (fun i u hu => hchecked (i + 1) u (causeAt?_succ.2 ⟨c, hc, hu⟩))
    fun i u hu => hdecodes (i + 1) u (causeAt?_succ.2 ⟨c, hc, hu⟩)
termination_by sizeOf v

theorem located_of_error (v : Json) {e : SchemaError} (h : validate now v = .error e) :
    Located now v e := by
  rcases validate_eq_error.1 h with hfault | ⟨hchecked, ⟨c, reason, hc, hreason, rfl⟩ | hdecoding⟩
  · exact .fault (d := 0) rfl hfault nofun
  · have := Json.sizeOf_get? (Json.present?_eq_some.1 hc).1
    cases located_of_error c hreason with
    | @fault d w e hw hfault hbefore =>
      refine .fault (d := d + 1) (causeAt?_succ.2 ⟨c, hc, hw⟩) hfault fun i hi u hu => ?_
      obtain ⟨_, rfl⟩ | ⟨j, rfl, hbelow⟩ := causeAt?_cases hc hu
      · exact checked_iff.1 hchecked
      · exact hbefore j (Nat.lt_of_succ_lt_succ hi) u hbelow
    | @malformed d w hall hw hnone hafter =>
      refine .malformed (d := d + 1) (fun i u hu => ?_) (causeAt?_succ.2 ⟨c, hc, hw⟩) hnone
        fun i hi u hu => ?_
      · obtain ⟨_, rfl⟩ | ⟨j, rfl, hbelow⟩ := causeAt?_cases hc hu
        · exact checked_iff.1 hchecked
        · exact hall j u hbelow
      · obtain ⟨rfl, _⟩ | ⟨j, rfl, hbelow⟩ := causeAt?_cases hc hu
        · cases hi
        · exact hafter j (Nat.lt_of_succ_lt_succ hi) u hbelow
  · obtain ⟨hcauses, hnone, rfl⟩ := hdecoding
    have haccepted (j : Nat) (u : Json) (hu : causeAt? (j + 1) v = some u) :
        ∃ r, validate now u = .ok r := by
      obtain ⟨c, hc, hu⟩ := causeAt?_succ.1 hu
      exact accepted_of_causeAt? (hcauses c hc) hu
    refine .malformed (d := 0) (fun i u hu => checked_iff.1 ?_) rfl hnone fun i hi u hu => ?_
    · cases i with
      | zero => exact Option.some.inj hu ▸ hchecked
      | succ j =>
        obtain ⟨r, hr⟩ := haccepted j u hu
        exact (validate_eq_ok.1 hr).1
    · obtain ⟨j, rfl⟩ := Nat.exists_eq_add_of_lt hi
      obtain ⟨r, hr⟩ := haccepted _ u hu
      exact ⟨r, (validate_eq_ok.1 hr).2.2⟩
termination_by sizeOf v

theorem error_of_located {e : SchemaError} (h : Located now v e) : validate now v = .error e := by
  cases h with
  | @fault d w e hw hfault hbefore =>
    induction d generalizing v with
    | zero =>
      obtain rfl := Option.some.inj hw
      exact validate_eq_error.2 (.inl hfault)
    | succ d ih =>
      obtain ⟨c, hc, hw⟩ := causeAt?_succ.1 hw
      have hreason := ih hw fun i hi u hu =>
        hbefore (i + 1) (Nat.succ_lt_succ hi) u (causeAt?_succ.2 ⟨c, hc, hu⟩)
      have hchecked := checked_iff.2 (hbefore 0 (Nat.succ_pos d) v rfl)
      exact validate_eq_error.2 (.inr ⟨hchecked, .inl ⟨c, _, hc, hreason, rfl⟩⟩)
  | @malformed d w hall hw hnone hafter =>
    induction d generalizing v with
    | zero =>
      obtain rfl := Option.some.inj hw
      refine validate_eq_error.2
        (.inr ⟨checked_iff.2 (hall 0 v rfl), .inr ⟨fun c hc => ?_, hnone, rfl⟩⟩)
      exact accepted_of_causes c
        (fun i u hu => checked_iff.2 (hall (i + 1) u (causeAt?_succ.2 ⟨c, hc, hu⟩)))
        fun i u hu => hafter (i + 1) (Nat.succ_pos i) u (causeAt?_succ.2 ⟨c, hc, hu⟩)
    | succ d ih =>
      obtain ⟨c, hc, hw⟩ := causeAt?_succ.1 hw
      have hreason := ih (fun i u hu => hall (i + 1) u (causeAt?_succ.2 ⟨c, hc, hu⟩)) hw
        fun i hi u hu => hafter (i + 1) (Nat.succ_lt_succ hi) u (causeAt?_succ.2 ⟨c, hc, hu⟩)
      have hchecked := checked_iff.2 (hall 0 v rfl)
      exact validate_eq_error.2 (.inr ⟨hchecked, .inl ⟨c, _, hc, hreason, rfl⟩⟩)

end

/-- A value is rejected with an error just if this is located so: it is the first fault of the
shallowest value, down the causes, that does not pass the checks, or tells that the deepest value that
does not decode is malformed. For each step down it says that the cause is invalid, with the text of
the error inside as the reason. So it says of the value itself that it is malformed only if all the
causes decode. -/
theorem validate_error_iff (now : Timestamp) (v : Json) :
    (∀ e, validate now v = .error e ↔ Located now v e) ∧
    (∀ e d, (SchemaError.within e (d + 1)).invalid? = some ("cause", (e.within d).message) ∧
      (e.within (d + 1)).message = "invalid field " ++ "cause" ++ ": " ++ (e.within d).message) ∧
    (validate now v = .error .malformed →
      ∀ d w, causeAt? (d + 1) v = some w → ∃ r, ofJson? now w = some r) := by
  refine ⟨fun e => ⟨located_of_error v, error_of_located⟩,
    fun _ _ => ⟨rfl, SchemaError.message_of_invalid? rfl⟩, fun h d w hw => ?_⟩
  rcases validate_eq_error.1 h with hfault | ⟨_, ⟨_, _, _, _, heq⟩ | ⟨hcauses, _⟩⟩
  · obtain ⟨n, hfault, _⟩ := hfault
    cases hfault
  · cases heq
  · obtain ⟨c, hc, hw⟩ := causeAt?_succ.1 hw
    obtain ⟨r, hr⟩ := accepted_of_causeAt? (hcauses c hc) hw
    exact ⟨r, (validate_eq_ok.1 hr).2.2⟩

end Record

end Resilience
