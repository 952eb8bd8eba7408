import Resilience.Proofs.Dispatch.Actions

/-!
# The context of a registry

Whatever the order in which frames are added and removed, a key has the value that it has in the
latest of the standing frames that have it (`Usage.run_context`). A frame that was added and removed
again makes no difference (`Usage.context_without`): the same actions without that frame, the later
numbers counted down by one, leave the same context.
-/

namespace Resilience

/-! ## Frames one inside the other -/

namespace Frame

/-- The values of frames; inner frames win. -/
def merged (frames : List Frame) : Dict Json :=
  frames.foldl (fun merged frame => merged.merge frame.values) Dict.empty

variable {frames : List Frame} {key : String} {value : Json}

theorem get?_merged_concat (frame : Frame) : (merged (frames ++ [frame])).get? key =
    (frame.values.get? key).or ((merged frames).get? key) := by
  simp [merged, Dict.get?_merge]

theorem get?_merged_eq_none_iff :
    (merged frames).get? key = none ↔ ∀ frame ∈ frames, frame.values.get? key = none := by
  induction frames using List.reverseRecOn with
  | nil => simp [merged]
  | append_singleton frames frame ih =>
    rw [get?_merged_concat, Option.or_eq_none_iff, ih]
    simp [or_imp, forall_and, and_comm]

/-- A value is the one of the innermost frame that has the key. -/
theorem get?_merged_eq_some_iff (h : frames.Pairwise (·.id < ·.id)) :
    (merged frames).get? key = some value ↔ ∃ frame ∈ frames, frame.values.get? key = some value ∧
      ∀ inner ∈ frames, frame.id < inner.id → inner.values.get? key = none := by
  induction frames using List.reverseRecOn with
  | nil => simp [merged]
  | append_singleton frames last ih =>
    obtain ⟨hframes, -, hlast⟩ := List.pairwise_append.1 h
    replace hlast : ∀ frame ∈ frames, frame.id < last.id := fun frame hframe =>
      hlast frame hframe last (List.mem_singleton_self last)
    rw [get?_merged_concat, Option.or_eq_some_iff, ih hframes]
    constructor
    · rintro (hvalue | ⟨hnone, frame, hframe, hvalue, hinner⟩)
      · refine ⟨last, by simp, hvalue, fun inner hinner hlt => ?_⟩
        rcases List.mem_append.1 hinner with hinner | hinner
        · exact absurd hlt (Nat.lt_asymm (hlast inner hinner))
        · simp [List.mem_singleton.1 hinner] at hlt
      · refine ⟨frame, by simp [hframe], hvalue, fun inner hmem hlt => ?_⟩
        rcases List.mem_append.1 hmem with hmem | hmem
        · exact hinner inner hmem hlt
        · exact List.mem_singleton.1 hmem ▸ hnone
    · rintro ⟨frame, hframe, hvalue, hinner⟩
      rcases List.mem_append.1 hframe with hframe | hframe
      · refine .inr ⟨hinner last (by simp) (hlast frame hframe), frame, hframe, hvalue,
          fun inner hmem => hinner inner (by simp [hmem])⟩
      · exact .inl (List.mem_singleton.1 hframe ▸ hvalue)

/-- Numbers do not matter for the values. -/
theorem merged_congr {others : List Frame} (h : frames.map (·.values) = others.map (·.values)) :
    merged frames = merged others := by
  have hmap (frames : List Frame) : merged frames =
      (frames.map (·.values)).foldl Dict.merge Dict.empty := by
    rw [merged, List.foldl_map]
  rw [hmap, hmap, h]

end Frame

/-! ## Without a frame -/

/-- A number, counted down by one if it comes after `k`. -/
def renumber (k id : Nat) : Nat := if k < id then id - 1 else id

theorem renumber_inj {k a b : Nat} (ha : a ≠ k) (hb : b ≠ k) (h : renumber k a = renumber k b) :
    a = b := by
  simp only [renumber] at h
  split at h <;> split at h <;> omega

/-- The action where the frame with the number `k` was not added, and so later numbers are smaller.
What is about the frame itself is left out. -/
def Action.without (k : Nat) : Action → Option Action
  | .pop id => if id = k then none else some (.pop (renumber k id))
  | .drop g => if g.id = k then none else some (.drop ⟨renumber k g.id⟩)
  | .unregister id => if id = k then none else some (.unregister (renumber k id))
  | a => some a

theorem Action.without_eq_none {k : Nat} {a : Action} (h : a.without k = none) :
    a.values? = none ∧ a.draws = false ∧ ∀ id, a.removed? = some id → id = k := by
  cases a <;> simp_all [without, values?, draws, removed?]

theorem Action.without_eq_some {k : Nat} {a b : Action} (h : a.without k = some b) :
    b.values? = a.values? ∧ b.draws = a.draws ∧ b.removed? = a.removed?.map (renumber k) ∧
      a.removed? ≠ some k := by
  cases a <;> grind [without, values?, draws, removed?]

namespace Usage

/-- The second one is the first without the frame with the number `k`. -/
structure Without (k : Nat) (d e : Usage) : Prop where
  number : d.registry.nextId = e.registry.nextId + 1
  given : k < d.registry.nextId
  frames : e.registry.frames = (d.registry.frames.filter (·.id ≠ k)).map
    fun frame => { frame with id := renumber k frame.id }

variable {k : Nat} {d e : Usage} {a b : Action}

theorem Without.skip (h : Without k d e) (hd : d.Orderly) (ha : a.without k = none) :
    Without k (d.act a) e := by
  obtain ⟨hvalues, hdraws, hremoved⟩ := Action.without_eq_none ha
  have hnext : (d.act a).registry.nextId = d.registry.nextId := by
    simp [act_nextId hd.background, hdraws]
  refine ⟨hnext ▸ h.number, hnext ▸ h.given, ?_⟩
  have hadded : a.added d.registry.nextId = [] := by simp [Action.added, hvalues]
  rw [act_frames hd, hadded, List.append_nil, List.filter_filter, h.frames]
  congr 2
  funext frame
  rw [eq_comm, Bool.and_eq_left_iff_imp]
  simp only [decide_eq_true_eq]
  exact fun hne hsome => hne (hremoved frame.id hsome)

theorem Without.act (h : Without k d e) (hd : d.Orderly) (he : e.Orderly)
    (ha : a.without k = some b) : Without k (d.act a) (e.act b) := by
  obtain ⟨hvalues, hdraws, hremoved, hother⟩ := Action.without_eq_some ha
  have hnumber := h.number
  have hgiven := h.given
  have hd' := act_nextId hd.background (a := a)
  have he' := act_nextId he.background (a := b)
  rw [hdraws] at he'
  refine ⟨by omega, by omega, ?_⟩
  have hadded : b.added e.registry.nextId = ((a.added d.registry.nextId).filter (·.id ≠ k)).map
      fun frame => { frame with id := renumber k frame.id } := by
    have hne : d.registry.nextId ≠ k := by omega
    have hre : renumber k d.registry.nextId = e.registry.nextId := by
      rw [renumber, if_pos hgiven]
      omega
    rw [Action.added, Action.added, hvalues]
    cases a.values? <;> simp [hne, hre]
  rw [act_frames hd, act_frames he, hadded, h.frames, List.filter_append, List.map_append,
    List.filter_map, List.filter_filter, List.filter_filter]
  congr 2
  apply List.filter_congr
  intro frame _
  by_cases hk : frame.id = k
  · simp [hk]
  · cases hid : a.removed? with
    | none => simp [hremoved, hid, hk]
    | some id =>
      have hidk : id ≠ k := fun heq => hother (heq ▸ hid)
      have hiff : renumber k id = renumber k frame.id ↔ id = frame.id :=
        ⟨renumber_inj hidk hk, congrArg (renumber k)⟩
      simp [hremoved, hid, hk, hiff]

theorem Without.run (h : Without k d e) (hd : d.Orderly) (he : e.Orderly) (actions : List Action) :
    Without k (d.run actions) (e.run (actions.filterMap (Action.without k))) := by
  induction actions generalizing d e with
  | nil => exact h
  | cons a actions ih =>
    cases ha : a.without k with
    | none =>
      rw [List.filterMap_cons_none ha]
      exact ih (h.skip hd ha) (hd.act a) he
    | some b =>
      rw [List.filterMap_cons_some ha]
      exact ih (h.act hd he ha) (hd.act a) (he.act b)

theorem merged_frames (d : Usage) : d.registry.context = Frame.merged d.registry.frames := rfl

/-- A number that is not used any longer is never used again. -/
theorem gone_run (hd : d.Orderly) (hk : k < d.registry.nextId)
    (h : ∀ frame ∈ d.registry.frames, frame.id ≠ k) (actions : List Action) :
    ∀ frame ∈ (d.run actions).registry.frames, frame.id ≠ k := by
  induction actions generalizing d with
  | nil => exact h
  | cons a actions ih =>
    have hnext := act_nextId hd.background (a := a)
    refine ih (hd.act a) (by omega) fun frame hframe => ?_
    rw [act_frames hd, List.mem_append] at hframe
    rcases hframe with hold | hnew
    · exact h frame (List.mem_of_mem_filter hold)
    · obtain ⟨values, _, rfl⟩ := Action.mem_added.1 hnew
      exact Nat.ne_of_gt hk

theorem gone_act (hd : d.Orderly) (ha : a.removed? = some k) :
    ∀ frame ∈ (d.act a).registry.frames, frame.id ≠ k := by
  have hadded : a.added d.registry.nextId = [] := by
    cases a <;> first | rfl | cases ha
  intro frame hframe
  rw [act_frames hd, hadded, List.append_nil] at hframe
  have hkept : a.removed? ≠ some frame.id := by simpa using List.of_mem_filter hframe
  exact fun heq => hkept (heq ▸ ha)

/-- A frame was just added. -/
theorem without_act (he : e.Orderly) (ha : a.values?.isSome) :
    Without e.registry.nextId (e.act a) e := by
  obtain ⟨values, hvalues⟩ := Option.isSome_iff_exists.1 ha
  have hnext := act_nextId he.background (a := a)
  rw [if_pos (Action.draws_of_values? hvalues)] at hnext
  refine ⟨hnext, by omega, ?_⟩
  have hremoved : a.removed? = none := by
    cases a <;> first | rfl | cases hvalues
  have hadded : (a.added e.registry.nextId).filter (·.id ≠ e.registry.nextId) = [] := by
    simp [Action.added, hvalues]
  have hold : ∀ frame ∈ e.registry.frames, frame.id ≠ e.registry.nextId := fun frame hframe =>
    Nat.ne_of_lt (he.frames_lt frame hframe)
  have hnumbers : ∀ frame ∈ e.registry.frames,
      { frame with id := renumber e.registry.nextId frame.id } = id frame := fun frame hframe => by
    simp [renumber, Nat.lt_asymm (he.frames_lt frame hframe)]
  rw [act_frames he, hremoved, List.filter_append, hadded, List.append_nil, List.filter_filter,
    List.filter_eq_self.2 (by simpa using hold), List.map_congr_left hnumbers, List.map_id]

/-- Once its frame is removed, the two cannot be told apart by their contexts. -/
theorem Without.context (h : Without k d e) (hgone : ∀ frame ∈ d.registry.frames, frame.id ≠ k) :
    d.registry.context = e.registry.context := by
  have hall : d.registry.frames.filter (·.id ≠ k) = d.registry.frames := by
    simpa [List.filter_eq_self] using hgone
  rw [merged_frames, merged_frames, h.frames, hall]
  apply Frame.merged_congr
  simp [Function.comp_def]

section

variable (settings : Reporting) (reporter : Option (Nat → Reply))

theorem context_without {before after : List Action} (ha : a.values?.isSome)
    (hremoved : ∃ b ∈ after, b.removed? = some (Action.number before)) :
    ((fresh settings reporter).run (before ++ a :: after)).registry.context =
      ((fresh settings reporter).run (before ++
        after.filterMap (Action.without (Action.number before)))).registry.context := by
  have he := orderly_run settings reporter before
  have hid := nextId_run settings reporter before
  rw [run_append, run_append, run_cons, ← hid]
  generalize (fresh settings reporter).run before = e at he hid ⊢
  obtain ⟨b, hb, hb'⟩ := hremoved
  obtain ⟨mid, rest, rfl⟩ := List.append_of_mem hb
  have hd := he.act a
  have h := without_act he ha
  refine (h.run hd he _).context ?_
  rw [run_append, run_cons]
  have hgiven := (h.run hd he mid).given
  have hnext := act_nextId (hd.run mid).background (a := b)
  exact gone_run ((hd.run mid).act b) (by omega) (gone_act (hd.run mid) (hid ▸ hb')) rest

/-- After any sequence of actions, a key has the value of the latest standing frame that has the key,
and no value if there is none. A frame is removed with its own values if it stands; otherwise nothing
changes. Actions among which a frame is added and removed leave the context that they leave without
that frame. Each frame and each handler is given the next number, and so none is given again. -/
theorem run_context (actions : List Action) :
    let u := (fresh settings reporter).run actions
    let r := u.registry
    (∀ key value, r.context.get? key = some value ↔
      ∃ id values, Action.Stands actions id values ∧ (Dict.ofList values).get? key = some value ∧
        ∀ later others, Action.Stands actions later others → id < later →
          (Dict.ofList others).get? key = none) ∧
    (∀ key, r.context.get? key = none ↔
      ∀ id values, Action.Stands actions id values → (Dict.ofList values).get? key = none) ∧
    (∀ id values, (r.pop id).2 = some values ↔
      ∃ given, Action.Stands actions id given ∧ values = Dict.ofList given) ∧
    (∀ id, (r.pop id).2 = none → (r.pop id).1 = r) ∧
    (∀ before a after, actions = before ++ a :: after → a.values?.isSome →
      (∃ b ∈ after, b.removed? = some (Action.number before)) →
        r.context = ((fresh settings reporter).run (before ++
          after.filterMap (Action.without (Action.number before)))).registry.context) ∧
    (∀ before a after, actions = before ++ a :: after → a.draws = true →
      let v := (fresh settings reporter).run before
      (v.act a).ids = v.ids ++ [Action.number before]) ∧
    u.ids.Pairwise (· < ·) := by
  intro u r
  have horder : u.Orderly := orderly_run settings reporter actions
  have hmem (frame : Frame) : frame ∈ r.frames ↔
      ∃ values, Action.Stands actions frame.id values ∧ frame.values = Dict.ofList values :=
    mem_frames_iff settings reporter actions
  refine ⟨fun key value => ?_, fun key => ?_, fun id values => ?_, fun id => Registry.pop_of_none,
    ?_, ?_, ?_⟩
  · rw [merged_frames, Frame.get?_merged_eq_some_iff horder.frames]
    constructor
    · rintro ⟨frame, hframe, hvalue, hinner⟩
      obtain ⟨values, hstands, hvalues⟩ := (hmem frame).1 hframe
      refine ⟨frame.id, values, hstands, hvalues ▸ hvalue, fun later others hlater hlt => ?_⟩
      exact hinner ⟨later, _⟩ ((hmem _).2 ⟨others, hlater, rfl⟩) hlt
    · rintro ⟨id, values, hstands, hvalue, hinner⟩
      refine ⟨⟨id, _⟩, (hmem _).2 ⟨values, hstands, rfl⟩, hvalue, fun inner hframe hlt => ?_⟩
      obtain ⟨others, hlater, hothers⟩ := (hmem inner).1 hframe
      exact hothers ▸ hinner inner.id others hlater hlt
  · rw [merged_frames, Frame.get?_merged_eq_none_iff]
    constructor
    · exact fun hnone id values hstands => hnone ⟨id, _⟩ ((hmem _).2 ⟨values, hstands, rfl⟩)
    · intro hnone frame hframe
      obtain ⟨values, hstands, hvalues⟩ := (hmem frame).1 hframe
      exact hvalues ▸ hnone frame.id values hstands
  · rw [Registry.pop_answer_iff horder.frames, hmem]
  · rintro before a after rfl ha hremoved
    exact context_without settings reporter ha hremoved
  · intro before a after _ ha
    have hids := act_ids (orderly_run settings reporter before).background (a := a)
    rw [if_pos ha, nextId_run] at hids
    exact hids
  · rw [ids_run]
    exact List.pairwise_lt_range' _

end

end Usage

end Resilience
