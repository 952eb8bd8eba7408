import Resilience.Proofs.Dispatch.Actions

/-!
# Handlers that are called

The handlers of a registry are those that were registered and not removed since, in the order of their
registration (`Usage.listed_handlers`). A dispatch calls those for the name of the failure and then
those for every failure, however the calls end (`Dispatcher.perform_dispatch`), and counts how each of
them ended (`Usage.run_dispatch`).
-/

namespace Resilience

/-! ## How calls end -/

/-- The notice of a call. -/
def Handler.notice (f : Failure) (h : Handler) : Notice := .handled h.label f.code

/-- How the calls of handlers with a failure end, one after the other, with so many made before. -/
def Handler.endings (f : Failure) (calls : Nat) (hs : List Handler) : List HandlerEnding :=
  hs.mapIdx fun i h => (h.behaves (calls + i) f).ending

namespace DispatchSummary

variable {f : Failure} {calls : Nat} {hs : List Handler} {s : DispatchSummary}

/-- What succeeds is handled, and all else has failed. -/
def ofEndings (endings : List HandlerEnding) : DispatchSummary where
  handled := endings.countP (· = .succeeds)
  failed := endings.countP (· ≠ .succeeds)

theorem total_ofEndings (endings : List HandlerEnding) :
    (ofEndings endings).handled + (ofEndings endings).failed = endings.length := by
  have hlength := List.length_eq_countP_add_countP (· = HandlerEnding.succeeds) (l := endings)
  simpa [ofEndings] using hlength.symm

theorem tally_eq : s.tally f calls hs =
    { handled := s.handled + (ofEndings (Handler.endings f calls hs)).handled
      failed := s.failed + (ofEndings (Handler.endings f calls hs)).failed } := by
  induction hs generalizing calls s with
  | nil => rfl
  | cons h hs ih =>
    have hendings : Handler.endings f calls (h :: hs) =
        (h.behaves calls f).ending :: Handler.endings f (calls + 1) hs := by
      simp [Handler.endings, List.mapIdx_cons, Nat.add_comm 1, Nat.add_assoc]
    rw [tally, ih, hendings]
    cases (h.behaves calls f).ending <;>
      simp [count, ofEndings, Nat.add_comm 1, Nat.add_assoc]

end DispatchSummary

/-! ## A dispatch -/

namespace HandlerCalls

/-- The handlers that come after the call that waits. -/
def left (c : HandlerCalls) : List Handler :=
  match c.pause with
  | some (_, _, rest) => rest
  | none => []

theorem make_notices (f : Failure) (calls : Nat) (hs : List Handler) (s : DispatchSummary) :
    (make f calls hs s).notices ++ (make f calls hs s).left.map (·.notice f) = hs.map (·.notice f) := by
  induction hs generalizing calls s with
  | nil => rfl
  | cons h hs ih =>
    rw [make]
    cases hwait : (h.behaves calls f).wait with
    | none => exact congrArg (h.notice f :: ·) (ih _ _)
    | some wait => rfl

end HandlerCalls

namespace Capture

variable {clock : Timestamp} {r now : Registry} {f : Failure} {c : Capture} {hs : List Handler}
  {seen : List Notice}

/-- A dispatch of `f` that began with registry `r`, with registry `now`, and `hs` still to be called.
Nothing changes in the meantime but the number of calls. -/
structure Dispatching (r : Registry) (f : Failure) (now : Registry) (c : Capture) (hs : List Handler)
    (seen : List Notice) : Prop where
  failure : c.failure = f
  whole : c.whole = false
  registry : now = { r with handlerCalls := now.handlerCalls }
  summary : c.summary.tally f now.handlerCalls hs =
    DispatchSummary.tally f r.handlerCalls (Handler.matching r.handlers f.name) {}
  count : now.handlerCalls + hs.length =
    r.handlerCalls + (Handler.matching r.handlers f.name).length
  notices : seen ++ hs.map (·.notice f) = (Handler.matching r.handlers f.name).map (·.notice f)

/-- What a dispatch comes to. -/
structure Dispatched (r : Registry) (f : Failure) (after : Registry) (summary : DispatchSummary)
    (seen : List Notice) : Prop where
  registry : after =
    { r with handlerCalls := r.handlerCalls + (Handler.matching r.handlers f.name).length }
  summary : summary = DispatchSummary.tally f r.handlerCalls (Handler.matching r.handlers f.name) {}
  notices : seen = (Handler.matching r.handlers f.name).map (·.notice f)

/-- The step is one of a dispatch of `f` that began with registry `r`. -/
def Step.Dispatches (r : Registry) (f : Failure) (seen : List Notice) (s : Step) : Prop :=
  match s.progress with
  | .finished summary => Dispatched r f s.registry summary seen
  | .paused _ c (.handling ending rest) =>
    Dispatching r f s.registry { c with summary := c.summary.count ending } rest seen
  | .paused _ _ (.reporting ..) => False

/-- Handlers are called up to one that waits. -/
theorem Dispatching.handle (h : Dispatching r f now c hs seen) :
    (c.handle clock now hs).Dispatches r f (seen ++ (c.handle clock now hs).notices) := by
  obtain ⟨hf, hwhole, hregistry, hsummary, hcount, hnotices⟩ := h
  subst hf
  have hmade := HandlerCalls.make_notices c.failure now.handlerCalls hs c.summary
  have hcalled (k : Nat) : { now with handlerCalls := now.handlerCalls + k } =
      { r with handlerCalls := now.handlerCalls + k } :=
    congrArg (fun m : Registry => { m with handlerCalls := now.handlerCalls + k }) hregistry
  rw [Capture.handle]
  dsimp only
  split
  · next wait ending rest hpause =>
    obtain ⟨htally, hlength⟩ := HandlerCalls.make_paused hpause
    rw [HandlerCalls.left, hpause] at hmade
    exact ⟨rfl, hwhole, hcalled _, htally.trans hsummary, by dsimp only; omega,
      by rw [List.append_assoc, hmade, hnotices]⟩
  · next hpause =>
    obtain ⟨htally, hlength⟩ := HandlerCalls.make_finished hpause
    rw [HandlerCalls.left, hpause, List.map_nil, List.append_nil] at hmade
    rw [if_neg (by simp [hwhole]), Capture.finish, if_neg (by simp [hwhole])]
    refine ⟨(hcalled _).trans ?_, htally.trans hsummary, by rw [hmade, hnotices]⟩
    rw [hlength, hcount]

theorem start_dispatches (clock : Timestamp) (r : Registry) (f : Failure) :
    (start clock r { failure := f, whole := false }).Dispatches r f
      (start clock r { failure := f, whole := false }).notices := by
  have h : Dispatching r f r { failure := f, whole := false } (Handler.matching r.handlers f.name) [] :=
    ⟨rfl, rfl, rfl, rfl, rfl, rfl⟩
  exact h.handle

end Capture

namespace Dispatcher

variable {clock : Timestamp} {d : Dispatcher} {r : Registry} {f : Failure}

/-- What a dispatch that is waited for leaves behind. -/
structure HasDispatched (r : Registry) (f : Failure) (before : List Notice) (d : Dispatcher)
    (summary : DispatchSummary) : Prop where
  background : d.background = []
  notices : ∃ seen, d.notices = before ++ seen ∧ Capture.Dispatched r f d.registry summary seen

theorem complete_dispatch {now : Nat} {s : Capture.Step} {before seen : List Notice}
    (hbackground : d.background = []) (hseen : d.notices ++ s.notices = before ++ seen)
    (h : s.Dispatches r f seen) :
    HasDispatched r f before (d.complete clock now s).1 (d.complete clock now s).2.2 := by
  fun_induction complete clock d now s generalizing seen with
  | case1 d now s summary hfinished =>
    rw [Capture.Step.Dispatches, hfinished] at h
    exact ⟨hbackground, seen, hseen, h⟩
  | case2 d now s wait c stage hpaused waited =>
    rename_i ih
    have hwaited : waited = d.absorb s :=
      advanceBefore_of_background_nil (d := d.absorb s) hbackground ..
    rw [Capture.Step.Dispatches, hpaused] at h
    cases stage with
    | reporting report attempt left => exact h.elim
    | handling ending rest =>
      rw [hwaited] at ih ⊢
      refine ih hbackground ?_ h.handle
      rw [← List.append_assoc, ← hseen]
      rfl

theorem perform_dispatch (clock : Timestamp) (f : Failure) (hbackground : d.background = []) (now : Nat) :
    HasDispatched d.registry f d.notices (d.perform clock now { failure := f, whole := false }).1
      (d.perform clock now { failure := f, whole := false }).2.2 :=
  complete_dispatch hbackground rfl (Capture.start_dispatches clock d.registry f)

end Dispatcher

/-! ## Registrations -/

namespace Action

/-- The handler that is registered, given its number. -/
def handler? (id : Nat) : Action → Option Handler
  | enroll key label behaves => some ⟨id, key, label, behaves⟩
  | _ => none

/-- Whether the action removes a handler if it is there. -/
def removes (h : Handler) : Action → Bool
  | unregister id => h.id = id
  | unregisterKey key => h.key = key
  | _ => false

/-- The handler was registered, and it was not removed since. -/
def Registered (actions : List Action) (h : Handler) : Prop :=
  ∃ before a after, actions = before ++ a :: after ∧ a.handler? (number before) = some h ∧
    ∀ b ∈ after, b.removes h = false

theorem not_registered_nil {h : Handler} : ¬ Registered [] h := by
  rintro ⟨before, a, after, h, _⟩
  simp at h

theorem registered_concat {actions : List Action} {a : Action} {h : Handler} :
    Registered (actions ++ [a]) h ↔
      Registered actions h ∧ a.removes h = false ∨ a.handler? (number actions) = some h := by
  constructor
  · rintro ⟨before, b, after, hsplit, hb, hafter⟩
    rcases List.eq_nil_or_concat after with rfl | ⟨after, last, rfl⟩
    · obtain ⟨rfl, rfl⟩ := List.append_singleton_inj.1 hsplit
      exact .inr hb
    · rw [List.concat_eq_append, ← List.cons_append, ← List.append_assoc] at hsplit
      obtain ⟨rfl, rfl⟩ := List.append_singleton_inj.1 hsplit
      rw [List.concat_eq_append] at hafter
      exact .inl ⟨⟨before, b, after, rfl, hb, fun b hb => hafter b (List.mem_append_left _ hb)⟩,
        hafter a (by simp)⟩
  · rintro (⟨⟨before, b, after, rfl, hb, hafter⟩, ha⟩ | ha)
    · refine ⟨before, b, after ++ [a], by simp, hb, fun c hc => ?_⟩
      rcases List.mem_append.1 hc with hc | hc
      · exact hafter c hc
      · exact List.mem_singleton.1 hc ▸ ha
    · exact ⟨actions, a, [], rfl, ha, by simp⟩

/-- The action with a handler that always succeeds in place of its own. -/
def succeeding : Action → Action
  | enroll key label _ => enroll key label fun _ _ => .succeeds
  | a => a

end Action

/-- The handler if it always succeeded. -/
def Handler.succeeding (h : Handler) : Handler := { h with behaves := fun _ _ => .succeeds }

namespace Action

theorem draws_succeeding (a : Action) : a.succeeding.draws = a.draws := by
  cases a <;> rfl

theorem handler?_succeeding (a : Action) (id : Nat) :
    a.succeeding.handler? id = (a.handler? id).map Handler.succeeding := by
  cases a <;> rfl

theorem removes_succeeding (a : Action) (h : Handler) :
    a.succeeding.removes h.succeeding = a.removes h := by
  cases a <;> rfl

theorem id_of_handler? {a : Action} {id : Nat} {h : Handler} (ha : a.handler? id = some h) :
    h.id = id ∧ a.draws = true := by
  cases a with
  | enroll key label behaves =>
    cases ha
    exact ⟨rfl, rfl⟩
  | _ => cases ha

end Action

/-- These are the handlers with a property, in the order in which they were registered. -/
structure Handler.Listed (hs : List Handler) (p : Handler → Prop) : Prop where
  ordered : hs.Pairwise (·.id < ·.id)
  mem : ∀ h, h ∈ hs ↔ p h

theorem Handler.Listed.filter {hs : List Handler} {p : Handler → Prop} (h : Listed hs p)
    (q : Handler → Bool) : Listed (hs.filter q) fun h => p h ∧ q h where
  ordered := h.ordered.filter q
  mem g := by rw [List.mem_filter, h.mem]

namespace Usage

variable {d : Usage} {a : Action}

/-- An action removes handlers and adds its own. -/
theorem act_handlers (h : d.dispatcher.background = []) : (d.act a).registry.handlers =
    d.registry.handlers.filter (!a.removes ·) ++ (a.handler? d.registry.nextId).toList := by
  have hkeep : d.registry.handlers = d.registry.handlers.filter fun _ => !false := by simp
  cases a with
  | capture clock f =>
    obtain ⟨_, hregistry⟩ := registry_capture h clock f
    rw [hregistry]
    exact hkeep.trans (List.append_nil _).symm
  | enroll key label behaves => exact congrArg (· ++ _) hkeep
  | unregister id =>
    have hfilter : (d.registry.unregister id).1.handlers =
        d.registry.handlers.filter fun h => !decide (h.id = id) := by simp [Registry.unregister]
    exact hfilter.trans (List.append_nil _).symm
  | unregisterKey key =>
    have hfilter : (d.registry.unregisterKey key).1.handlers =
        d.registry.handlers.filter fun h => !decide (h.key = key) := by simp [Registry.unregisterKey]
    exact hfilter.trans (List.append_nil _).symm
  | _ => exact hkeep.trans (List.append_nil _).symm

section

variable (settings : Reporting) (reporter : Option (Nat → Reply)) (actions : List Action)

/-- The handlers that are there are the registered ones, with numbers that were given before. -/
theorem listed_handlers :
    Handler.Listed ((fresh settings reporter).run actions).registry.handlers
        (Action.Registered actions) ∧
      ∀ h ∈ ((fresh settings reporter).run actions).registry.handlers,
        h.id < Action.number actions := by
  induction actions using List.reverseRecOn with
  | nil =>
    exact ⟨⟨.nil, fun h => iff_of_false List.not_mem_nil Action.not_registered_nil⟩,
      fun h hh => absurd hh List.not_mem_nil⟩
  | append_singleton actions a ih =>
    obtain ⟨hlisted, hlt⟩ := ih
    have hhandlers := act_handlers (orderly_run settings reporter actions).background (a := a)
    rw [nextId_run] at hhandlers
    rw [run_concat, hhandlers]
    refine ⟨⟨?_, fun h => ?_⟩, fun h hh => ?_⟩
    · refine List.pairwise_append.2 ⟨hlisted.ordered.filter _, ?_, fun old hold new hnew => ?_⟩
      · cases a.handler? (Action.number actions) <;> simp
      · rw [(Action.id_of_handler? (Option.mem_toList.1 hnew)).1]
        exact hlt old (List.mem_of_mem_filter hold)
    · rw [List.mem_append, List.mem_filter, hlisted.mem, Option.mem_toList, Action.registered_concat,
        Bool.not_eq_true']
    · rw [Action.number_concat]
      rcases List.mem_append.1 hh with hold | hnew
      · have := hlt h (List.mem_of_mem_filter hold)
        omega
      · obtain ⟨hid, hdraws⟩ := Action.id_of_handler? (Option.mem_toList.1 hnew)
        rw [hid, if_pos hdraws]
        exact Nat.lt_succ_self _

/-! ## Handlers that behave otherwise -/

/-- How handlers behave makes no difference to which are there. -/
theorem handlers_succeeding : ((fresh settings reporter).run actions).registry.handlers.map
      Handler.succeeding =
    ((fresh settings reporter).run (actions.map Action.succeeding)).registry.handlers := by
  induction actions using List.reverseRecOn with
  | nil => rfl
  | append_singleton actions a ih =>
    have hdraws : (actions.map Action.succeeding).countP Action.draws = actions.countP Action.draws := by
      rw [List.countP_map]
      exact List.countP_congr fun a _ => by simp [Action.draws_succeeding]
    have hnumber : Action.number (actions.map Action.succeeding) = Action.number actions :=
      congrArg (· + 1) hdraws
    rw [List.map_append, List.map_singleton, run_concat, run_concat,
      act_handlers (orderly_run settings reporter actions).background,
      act_handlers (orderly_run settings reporter _).background, nextId_run, nextId_run, hnumber, ← ih,
      List.map_append, List.filter_map, Action.handler?_succeeding, Option.toList_map]
    congr 2
    refine List.filter_congr fun h _ => ?_
    rw [Function.comp_apply, Action.removes_succeeding]

/-! ## Dispatches -/

theorem called_succeeding (f : Failure) (hs : List Handler) :
    (Handler.matching (hs.map Handler.succeeding) f.name).map (·.notice f) =
      (Handler.matching hs f.name).map (·.notice f) := by
  simp only [Handler.matching, List.filter_map, List.map_append, List.map_map]
  rfl

/-- After any sequence of actions, a dispatch calls each registered handler for the name of the failure
once, in the order of registration, and then each one for every failure; those that succeed are
handled, and the others have failed. The calls are the same however handlers behave. To unregister a
number or a key removes the registrations that have it and no others, and answers whether or how many
there were. -/
theorem run_dispatch (clock : Timestamp) (f : Failure) :
    let u := (fresh settings reporter).run actions
    let r := u.registry
    let done := u.dispatcher.perform clock u.now { failure := f, whole := false }
    (∃ named wildcard,
      Handler.Listed named (fun h => Action.Registered actions h ∧ h.key = .named f.name) ∧
      Handler.Listed wildcard (fun h => Action.Registered actions h ∧ h.key = .wildcard) ∧
      done.1.notices = u.notices ++ (named ++ wildcard).map (·.notice f) ∧
      done.1.registry =
        { r with handlerCalls := r.handlerCalls + (named ++ wildcard).length } ∧
      done.2.2 = .ofEndings (Handler.endings f r.handlerCalls (named ++ wildcard)) ∧
      done.2.2.handled + done.2.2.failed = (named ++ wildcard).length) ∧
    (∀ others, others.map Action.succeeding = actions.map Action.succeeding →
      let v := (fresh settings reporter).run others
      ∃ seen, done.1.notices = u.notices ++ seen ∧
        (v.dispatcher.perform clock v.now { failure := f, whole := false }).1.notices =
          v.notices ++ seen) ∧
    Handler.Listed r.handlers (Action.Registered actions) ∧
    (∀ id,
      Handler.Listed (r.unregister id).1.handlers
        (fun h => Action.Registered actions h ∧ h.id ≠ id) ∧
      ((r.unregister id).2 = true ↔ ∃ h, Action.Registered actions h ∧ h.id = id)) ∧
    ∀ key,
      Handler.Listed (r.unregisterKey key).1.handlers
        (fun h => Action.Registered actions h ∧ h.key ≠ key) ∧
      ∃ gone, Handler.Listed gone (fun h => Action.Registered actions h ∧ h.key = key) ∧
        (r.unregisterKey key).2 = gone.length := by
  intro u r done
  have hdispatched (actions : List Action) :=
    Dispatcher.perform_dispatch clock f
      (orderly_run settings reporter actions).background ((fresh settings reporter).run actions).now
  have hlisted : Handler.Listed r.handlers (Action.Registered actions) :=
    (listed_handlers settings reporter actions).1
  have hfilter (q : Handler → Prop) [DecidablePred q] :
      Handler.Listed (r.handlers.filter fun h => q h) fun h => Action.Registered actions h ∧ q h := by
    simpa using hlisted.filter fun h => q h
  obtain ⟨seen, hseen, hresult⟩ := (hdispatched actions).notices
  have hcalled := hresult.notices
  have hsummary := hresult.summary
  rw [DispatchSummary.tally_eq, Nat.zero_add, Nat.zero_add] at hsummary
  refine ⟨⟨_, _, hfilter (·.key = .named f.name), hfilter (·.key = .wildcard), ?_, hresult.registry,
    hsummary, ?_⟩, fun others hothers => ?_, hlisted, fun id => ⟨hfilter (·.id ≠ id), ?_⟩,
    fun key => ⟨hfilter (·.key ≠ key), _, hfilter (·.key = key), List.countP_eq_length_filter⟩⟩
  · exact hseen.trans (congrArg _ hcalled)
  · exact (congrArg (fun s => s.handled + s.failed) hsummary).trans
      ((DispatchSummary.total_ofEndings _).trans List.length_mapIdx)
  · obtain ⟨seen', hseen', hresult'⟩ := (hdispatched others).notices
    have hsame : seen' = seen :=
      calc seen' = (Handler.matching ((fresh settings reporter).run others).registry.handlers
            f.name).map (·.notice f) := hresult'.notices
        _ = (Handler.matching r.handlers f.name).map (·.notice f) := by
          rw [← called_succeeding, handlers_succeeding, hothers, ← handlers_succeeding,
            called_succeeding]
        _ = seen := hcalled.symm
    exact ⟨seen, hseen, hsame ▸ hseen'⟩
  · rw [Registry.unregister, List.any_eq_true]
    simp only [hlisted.mem, decide_eq_true_eq]

end

end Usage

end Resilience
