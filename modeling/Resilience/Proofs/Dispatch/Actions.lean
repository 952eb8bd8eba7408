import Mathlib.Data.List.Induction
import Mathlib.Data.List.Nodup
import Resilience.Proofs.Dispatch.Captures

/-!
# Actions on a registry

An application does one thing after the other with its registry (`Usage.run`). Frames and handlers
are numbered as they come, so no number is given twice (`Usage.ids_run`), and the frames that stand
after a sequence of actions are those that were added and not removed since (`Usage.mem_frames_iff`).
-/

namespace Resilience

/-- What an application does with its registry. -/
inductive Action where
  /-- Captures a failure and waits until that is done. -/
  | capture (clock : Timestamp) (f : Failure)
  | breadcrumb (b : Breadcrumb)
  | clear
  | push (values : List (String × Json))
  | scope (values : List (String × Json))
  | pop (id : Nat)
  | drop (g : Guard)
  | enroll (key : HandlerKey) (label : String) (behaves : Nat → Failure → HandlerBehavior)
  | unregister (id : Nat)
  | unregisterKey (key : HandlerKey)

namespace Action

/-- The values of the frame that is added. -/
def values? : Action → Option (List (String × Json))
  | push values | scope values => some values
  | _ => none

/-- The number of the frame that is to be removed. -/
def removed? : Action → Option Nat
  | pop id => some id
  | drop g => some g.id
  | _ => none

/-- Whether a frame or a handler is given a number. -/
def draws : Action → Bool
  | push _ | scope _ | enroll .. => true
  | _ => false

/-- The number that is next after some actions. -/
def number (actions : List Action) : Nat := actions.countP draws + 1

/-- A frame was added with the number, and it was not removed since. -/
def Stands (actions : List Action) (id : Nat) (values : List (String × Json)) : Prop :=
  ∃ before a after, actions = before ++ a :: after ∧ a.values? = some values ∧
    number before = id ∧ ∀ b ∈ after, b.removed? ≠ some id

theorem draws_of_values? {a : Action} {values : List (String × Json)} (h : a.values? = some values) :
    a.draws = true := by
  cases a <;> first | rfl | cases h

@[simp] theorem number_concat (actions : List Action) (a : Action) :
    number (actions ++ [a]) = number actions + if a.draws then 1 else 0 := by
  simp only [number, List.countP_append, List.countP_singleton]
  omega

theorem not_stands_nil {id : Nat} {values : List (String × Json)} : ¬ Stands [] id values := by
  rintro ⟨before, a, after, h, _⟩
  simp at h

theorem stands_concat {actions : List Action} {a : Action} {id : Nat}
    {values : List (String × Json)} : Stands (actions ++ [a]) id values ↔
      Stands actions id values ∧ a.removed? ≠ some id ∨
        a.values? = some values ∧ number actions = id := by
  constructor
  · rintro ⟨before, b, after, hsplit, hvalues, hid, hafter⟩
    rcases List.eq_nil_or_concat after with rfl | ⟨after, last, rfl⟩
    · obtain ⟨rfl, rfl⟩ := List.append_singleton_inj.1 hsplit
      exact .inr ⟨hvalues, hid⟩
    · rw [List.concat_eq_append, ← List.cons_append, ← List.append_assoc] at hsplit
      obtain ⟨rfl, rfl⟩ := List.append_singleton_inj.1 hsplit
      rw [List.concat_eq_append] at hafter
      exact .inl ⟨⟨before, b, after, rfl, hvalues, hid,
        fun b hb => hafter b (List.mem_append_left _ hb)⟩, hafter a (by simp)⟩
  · rintro (⟨⟨before, b, after, rfl, hvalues, hid, hafter⟩, ha⟩ | ⟨hvalues, hid⟩)
    · refine ⟨before, b, after ++ [a], by simp, hvalues, hid, fun c hc => ?_⟩
      rcases List.mem_append.1 hc with hc | hc
      · exact hafter c hc
      · exact List.mem_singleton.1 hc ▸ ha
    · exact ⟨actions, a, [], rfl, hvalues, hid, by simp⟩

/-- The frame that is added. -/
def added (a : Action) (id : Nat) : List Frame :=
  (a.values?.map fun values => ⟨id, Dict.ofList values⟩).toList

theorem mem_added {a : Action} {id : Nat} {frame : Frame} : frame ∈ a.added id ↔
    ∃ values, a.values? = some values ∧ frame = ⟨id, Dict.ofList values⟩ := by
  rw [added, Option.mem_toList, Option.map_eq_some_iff]
  simp only [eq_comm]

theorem pairwise_added (a : Action) (id : Nat) : (a.added id).Pairwise (·.id < ·.id) := by
  rw [added]
  cases a.values? <;> simp

end Action

/-! ## Frames by their numbers -/

namespace Registry

variable {r : Registry} {id : Nat}

/-- An element that is the only one of its kind is erased as by a filter. -/
theorem eraseP_eq_filter {α : Type} {p : α → Bool} {l : List α}
    (h : l.Pairwise fun a b => p a → p b = false) : l.eraseP p = l.filter (!p ·) := by
  induction l with
  | nil => rfl
  | cons head tail ih =>
    obtain ⟨hhead, htail⟩ := List.pairwise_cons.1 h
    cases hp : p head with
    | true =>
      rw [List.eraseP_cons_of_pos hp, List.filter_cons_of_neg (by simp [hp])]
      refine (List.filter_eq_self.2 fun b hb => ?_).symm
      simp [hhead b hb hp]
    | false =>
      rw [List.eraseP_cons_of_neg (by simp [hp]), List.filter_cons_of_pos (by simp [hp]), ih htail]

theorem frames_pop (h : r.frames.Pairwise (·.id < ·.id)) :
    (r.pop id).1.frames = r.frames.filter (·.id ≠ id) := by
  have hsingle : r.frames.reverse.Pairwise fun a b =>
      decide (a.id = id) → decide (b.id = id) = false := by
    rw [List.pairwise_reverse]
    refine h.imp fun {a b} hlt hb => ?_
    simp only [decide_eq_true_eq, decide_eq_false_iff_not] at hb ⊢
    omega
  rw [pop]
  dsimp only
  rw [eraseP_eq_filter hsingle, List.filter_reverse, List.reverse_reverse]
  simp only [ne_eq, decide_not]

theorem eq_of_mem_frames (h : r.frames.Pairwise (·.id < ·.id)) {a b : Frame} (ha : a ∈ r.frames)
    (hb : b ∈ r.frames) (hid : a.id = b.id) : a = b := by
  have hnodup : (r.frames.map (·.id)).Nodup :=
    List.pairwise_map.2 (h.imp fun hlt => Nat.ne_of_lt hlt)
  exact List.inj_on_of_nodup_map hnodup ha hb hid

theorem pop_answer_iff (h : r.frames.Pairwise (·.id < ·.id)) {values : Dict Json} :
    (r.pop id).2 = some values ↔ ⟨id, values⟩ ∈ r.frames := by
  rw [pop]
  dsimp only
  constructor
  · intro hanswer
    obtain ⟨frame, hfind, rfl⟩ := Option.map_eq_some_iff.1 hanswer
    have hid : frame.id = id := by simpa using List.find?_some hfind
    exact hid ▸ List.mem_reverse.1 (List.mem_of_find?_eq_some hfind)
  · intro hmem
    cases hfind : r.frames.reverse.find? (·.id = id) with
    | none => simpa using List.find?_eq_none.1 hfind _ (List.mem_reverse.2 hmem)
    | some frame =>
      have hid : frame.id = id := by simpa using List.find?_some hfind
      have hframe := List.mem_reverse.1 (List.mem_of_find?_eq_some hfind)
      rw [eq_of_mem_frames h hframe hmem hid, Option.map_some]

theorem pop_of_none (h : (r.pop id).2 = none) : (r.pop id).1 = r := by
  rw [pop] at h ⊢
  dsimp only at h ⊢
  have hnone := List.find?_eq_none.1 (Option.map_eq_none_iff.1 h)
  rw [List.eraseP_of_forall_not hnone, List.reverse_reverse]

end Registry

/-! ## Sequences of actions -/

/-- A registry in use. -/
structure Usage where
  dispatcher : Dispatcher
  now : Nat := 0
  /-- What came of the captures, first to last. -/
  summaries : List DispatchSummary := []
  /-- The numbers that were given to frames and handlers, first to last. -/
  ids : List Nat := []

namespace Usage

def fresh (settings : Reporting) (reporter : Option (Nat → Reply)) : Usage where
  dispatcher := { registry := { settings, reporter } }

def registry (d : Usage) : Registry := d.dispatcher.registry

def notices (d : Usage) : List Notice := d.dispatcher.notices

/-- Goes on with a registry. -/
def put (d : Usage) (r : Registry) : Usage := { d with dispatcher := { d.dispatcher with registry := r } }

/-- Goes on with a registry that has given a number. -/
def give (d : Usage) (r : Registry) (id : Nat) : Usage := { d.put r with ids := d.ids ++ [id] }

def act (d : Usage) : Action → Usage
  | .capture clock f =>
    let (dispatcher, now, summary) := d.dispatcher.perform clock d.now { failure := f }
    { d with dispatcher, now, summaries := d.summaries ++ [summary] }
  | .breadcrumb b => d.put (d.registry.addBreadcrumb b)
  | .clear => d.put d.registry.clearBreadcrumbs
  | .push values =>
    let (r, id) := d.registry.push values
    d.give r id
  | .scope values =>
    let (r, g) := d.registry.scope values
    d.give r g.id
  | .pop id => d.put (d.registry.pop id).1
  | .drop g => d.put (d.registry.drop g)
  | .enroll key label behaves =>
    let (r, id) := d.registry.enroll key label behaves
    d.give r id
  | .unregister id => d.put (d.registry.unregister id).1
  | .unregisterKey key => d.put (d.registry.unregisterKey key).1

def run (d : Usage) (actions : List Action) : Usage := actions.foldl act d

variable {d : Usage} {a : Action}

@[simp] theorem run_concat (actions : List Action) : d.run (actions ++ [a]) = (d.run actions).act a := by
  simp [run]

theorem run_append (first second : List Action) :
    d.run (first ++ second) = (d.run first).run second := List.foldl_append

theorem run_cons (actions : List Action) : d.run (a :: actions) = (d.act a).run actions := rfl

/-- Nothing runs in the background, and numbers are given in order. -/
structure Orderly (d : Usage) : Prop where
  background : d.dispatcher.background = []
  frames : d.registry.frames.Pairwise (·.id < ·.id)
  frames_lt : ∀ frame ∈ d.registry.frames, frame.id < d.registry.nextId

theorem act_capture (h : d.dispatcher.background = []) (clock : Timestamp) (f : Failure) :
    ∃ summary, (d.act (.capture clock f)).summaries = d.summaries ++ [summary] ∧
      (d.act (.capture clock f)).ids = d.ids ∧
      (d.act (.capture clock f)).dispatcher.Captured clock d.registry f d.notices summary :=
  ⟨_, rfl, rfl, Dispatcher.perform_spec h d.now⟩

theorem registry_capture (h : d.dispatcher.background = []) (clock : Timestamp) (f : Failure) :
    ∃ calls, (d.act (.capture clock f)).registry =
      { (d.registry.remember f).addBreadcrumb (Registry.trace clock f) with
        handlerCalls :=
          d.registry.handlerCalls + (Handler.matching d.registry.handlers f.name).length
        calls := calls } := by
  obtain ⟨_, _, _, hcaptured⟩ := act_capture h clock f
  obtain ⟨_, _, _, hresult⟩ := hcaptured.notices
  exact ⟨_, hresult.registry⟩

theorem act_background (h : d.dispatcher.background = []) :
    (d.act a).dispatcher.background = [] := by
  cases a with
  | capture clock f =>
    obtain ⟨_, _, _, hcaptured⟩ := act_capture h clock f
    exact hcaptured.background
  | _ => exact h

theorem act_nextId (h : d.dispatcher.background = []) :
    (d.act a).registry.nextId = d.registry.nextId + if a.draws then 1 else 0 := by
  cases a with
  | capture clock f =>
    obtain ⟨_, hregistry⟩ := registry_capture h clock f
    rw [hregistry]
    rfl
  | _ => rfl

/-- An action removes the frame that it names and adds its own. -/
theorem act_frames (h : d.Orderly) : (d.act a).registry.frames =
    d.registry.frames.filter (a.removed? ≠ some ·.id) ++ a.added d.registry.nextId := by
  have hpop (id : Nat) : (d.registry.pop id).1.frames =
      d.registry.frames.filter (some id ≠ some ·.id) := by
    rw [Registry.frames_pop h.frames]
    simp only [ne_eq, Option.some.injEq, eq_comm]
  have hkeep : d.registry.frames = d.registry.frames.filter (none ≠ some ·.id) := by simp
  cases a with
  | capture clock f =>
    obtain ⟨_, hregistry⟩ := registry_capture h.background clock f
    rw [hregistry]
    exact hkeep.trans (List.append_nil _).symm
  | pop id => exact (hpop id).trans (List.append_nil _).symm
  | drop g => exact (hpop g.id).trans (List.append_nil _).symm
  | push values => exact congrArg (· ++ _) hkeep
  | scope values => exact congrArg (· ++ _) hkeep
  | _ => exact hkeep.trans (List.append_nil _).symm

theorem act_ids (h : d.dispatcher.background = []) :
    (d.act a).ids = d.ids ++ if a.draws then [d.registry.nextId] else [] := by
  cases a with
  | capture clock f =>
    obtain ⟨_, _, hids, _⟩ := act_capture h clock f
    exact hids.trans (List.append_nil _).symm
  | push values | scope values | enroll key label behaves => rfl
  | _ => exact (List.append_nil _).symm

theorem Orderly.act (h : d.Orderly) (a : Action) : (d.act a).Orderly := by
  have hframes := act_frames h (a := a)
  have hnext := act_nextId h.background (a := a)
  refine ⟨act_background h.background, ?_, ?_⟩
  · rw [hframes, List.pairwise_append]
    refine ⟨h.frames.filter _, a.pairwise_added _, fun old hold new hnew => ?_⟩
    obtain ⟨values, _, rfl⟩ := Action.mem_added.1 hnew
    exact h.frames_lt old (List.mem_of_mem_filter hold)
  · intro frame hframe
    rw [hframes, List.mem_append] at hframe
    rcases hframe with hold | hnew
    · have := h.frames_lt frame (List.mem_of_mem_filter hold)
      omega
    · obtain ⟨values, hvalues, rfl⟩ := Action.mem_added.1 hnew
      rw [hnext, if_pos (Action.draws_of_values? hvalues)]
      exact Nat.lt_succ_self _

theorem orderly_fresh (settings : Reporting) (reporter : Option (Nat → Reply)) :
    (fresh settings reporter).Orderly :=
  ⟨rfl, .nil, by simp [fresh, registry]⟩

theorem Orderly.run (h : d.Orderly) (actions : List Action) : (d.run actions).Orderly := by
  induction actions generalizing d with
  | nil => exact h
  | cons a actions ih => exact ih (h.act a)

section

variable (settings : Reporting) (reporter : Option (Nat → Reply)) (actions : List Action)

theorem orderly_run : ((fresh settings reporter).run actions).Orderly :=
  (orderly_fresh settings reporter).run actions

theorem nextId_run :
    ((fresh settings reporter).run actions).registry.nextId = Action.number actions := by
  induction actions using List.reverseRecOn with
  | nil => rfl
  | append_singleton actions a ih =>
    rw [run_concat, act_nextId (orderly_run settings reporter actions).background, ih,
      Action.number_concat]

/-- Numbers are given from one on, each once. -/
theorem ids_run : ((fresh settings reporter).run actions).ids =
    List.range' 1 (actions.countP Action.draws) := by
  induction actions using List.reverseRecOn with
  | nil => rfl
  | append_singleton actions a ih =>
    rw [run_concat, act_ids (orderly_run settings reporter actions).background, ih, nextId_run,
      List.countP_append, List.countP_singleton]
    split
    · rw [List.range'_concat, Action.number]
      simp [Nat.add_comm]
    · simp

/-- The frames that are there are the ones that stand. -/
theorem mem_frames_iff {frame : Frame} :
    frame ∈ ((fresh settings reporter).run actions).registry.frames ↔
      ∃ values, Action.Stands actions frame.id values ∧ frame.values = Dict.ofList values := by
  induction actions using List.reverseRecOn with
  | nil => simp [run, fresh, registry, Action.not_stands_nil]
  | append_singleton actions a ih =>
    rw [run_concat, act_frames (orderly_run settings reporter actions), List.mem_append,
      List.mem_filter, ih, nextId_run, Action.mem_added]
    simp only [Action.stands_concat, decide_eq_true_eq]
    constructor
    · rintro (⟨⟨values, hstands, hvalues⟩, hkept⟩ | ⟨values, hvalues, rfl⟩)
      · exact ⟨values, .inl ⟨hstands, hkept⟩, hvalues⟩
      · exact ⟨values, .inr ⟨hvalues, rfl⟩, rfl⟩
    · rintro ⟨values, ⟨hstands, hkept⟩ | ⟨hvalues, hid⟩, hframe⟩
      · exact .inl ⟨⟨values, hstands, hframe⟩, hkept⟩
      · obtain ⟨id, frameValues⟩ := frame
        dsimp only at hid hframe
        exact .inr ⟨values, hvalues, by rw [hid, hframe]⟩

end

end Usage

end Resilience
