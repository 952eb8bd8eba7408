import Resilience.Telemetry.Batcher

/-!
# What a batcher does

Every action of a batcher is made of a few changes. `Batcher.Change` lists them, each with what is
told of it, and `Batcher.step_changes` says that an action does nothing else. What every change
keeps is kept by every run (`Batcher.run_keeps`), and what is told of a run is told of its actions
one after the other (`Batcher.run_flatMap`).
-/

namespace Resilience.Telemetry

namespace Batcher

/-- What a batcher can do at once, and what is told of it. -/
inductive Change (b : Batcher) : List Notice → Batcher → Prop where
  | refuse (e : Event) : Change b [.recorded e false]
      { b with counts := { b.counts with dropped := b.counts.dropped + 1 } }
  | queue (e : Event) : Change b [.recorded e true]
      { b with
        queue := b.queue ++ [e]
        counts := { b.counts with admitted := b.counts.admitted + 1 } }
  | send (batch rest : List Event) (ofTimer : Bool) : b.queue = batch ++ rest →
      (ofTimer = true → b.timerWaits = false) →
      Change b [.taken batch] ({ b with queue := rest }.send batch ofTimer)
  | discard (batch rest : List Event) : b.queue = batch ++ rest →
      Change b [.taken batch, .discarded batch]
        { b with
          queue := rest
          counts := { b.counts with failed := b.counts.failed + batch.length } }
  | ask (s : Sending) : s ∈ b.sendings → s.stage ≠ .reporting →
      Change b [.called s.id .config] (b.setStage s.id .fetching)
  | hear (now : Nat) (reply : ConfigReply) : Change b [.told now reply]
      { b with cache := b.cache.store (Span.ofMillis now) reply }
  | report (s : Sending) : s ∈ b.sendings → s.stage ≠ .reporting →
      (∃ fetched, b.cache.cached = some (fetched, true)) →
      Change b [.called s.id (b.reportOf s.batch)] (b.setStage s.id .reporting)
  | close (s : Sending) (fate : Fate) : s ∈ b.sendings →
      fate = .unwanted ∨ (fate = .accepted ∨ fate = .rejected) ∧ s.stage = .reporting →
      Change b (b.close s fate).2 (b.close s fate).1
  | abortTimer : Change b b.abortTimer.2 b.abortTimer.1
  | runTimer : b.timerWaits = false → Change b [] { b with timer := true }

/-- Changes one after the other. -/
inductive Changes : Batcher → List Notice → Batcher → Prop where
  | none (b : Batcher) : Changes b [] b
  | next {b c d : Batcher} {first rest : List Notice} :
      Change b first c → Changes c rest d → Changes b (first ++ rest) d

theorem Change.changes {b c : Batcher} {notices : List Notice} (h : Change b notices c) :
    Changes b notices c := by
  have hone : Changes b (notices ++ []) c := .next h (.none c)
  rwa [List.append_nil] at hone

theorem Changes.append {b c d : Batcher} {first rest : List Notice} (h : Changes b first c)
    (h' : Changes c rest d) : Changes b (first ++ rest) d := by
  induction h with
  | none b => exact h'
  | next hfirst _ ih =>
    rw [List.append_assoc]
    exact .next hfirst (ih h')

/-! ## What an action is about -/

/-- The event that is recorded, if the action is to record one, and whether it is admitted. -/
def recordedBy (b : Batcher) : Action → List (Event × Bool)
  | .record e draw background => [(e, (b.record e draw background).2.1)]
  | _ => []

/-- The batch that is full when an event is recorded, if there is nobody to send it. -/
def discardedBy (b : Batcher) : Action → List (List Event)
  | .record e draw false =>
    if b.settings.enabled && b.settings.samples draw then (b.enqueue e).2.toList else []
  | _ => []

/-- The sending that ends because the sink answers its report, and whether the sink accepted it. -/
def answeredBy (b : Batcher) : Action → List (Sending × Bool)
  | .answerReport id taken =>
    match b.find? id with
    | some s => if s.stage = .reporting then [(s, taken)] else []
    | none => []
  | _ => []

/-- Whether an action ends the timer that runs. -/
def Action.endsTimer : Action → Bool
  | .start | .stop => true
  | _ => false

/-- The sendings that end with the timer. -/
def abandonedBy (b : Batcher) (a : Action) : List Sending :=
  if a.endsTimer then b.sendings.filter (·.ofTimer) else []

/-! ## What an action does -/

theorem mem_of_find? {b : Batcher} {id : Nat} {s : Sending} (h : b.find? id = some s) :
    s ∈ b.sendings ∧ s.id = id :=
  ⟨List.mem_of_find?_eq_some h, by simpa using List.find?_some h⟩

theorem fresh?_eq_some {c : ConfigCache} {now : Span} {wanted : Bool}
    (h : c.fresh? now = some wanted) : ∃ fetched, c.cached = some (fetched, wanted) := by
  cases hc : c.cached with
  | none => simp [ConfigCache.fresh?, hc] at h
  | some last =>
    obtain ⟨fetched, accepts⟩ := last
    simp only [ConfigCache.fresh?, hc, Option.ite_none_right_eq_some, Option.some.injEq] at h
    exact ⟨fetched, by rw [h.2]⟩

/-- An event that is recorded is refused, or queued, and then a full batch may be taken. -/
theorem record_cases (b : Batcher) (e : Event) (draw : Binary64) (background : Bool) :
    ((b.settings.enabled && b.settings.samples draw) = false ∧
      b.record e draw background =
        ({ b with counts := { b.counts with dropped := b.counts.dropped + 1 } }, false,
          [.recorded e false])) ∨
    ((b.settings.enabled && b.settings.samples draw) = true ∧
      ((∃ c, b.enqueue e = (c, none) ∧
          b.record e draw background = (c, true, [.recorded e true])) ∨
        ∃ c batch, b.enqueue e = (c, some batch) ∧
          b.record e draw background = ((c.dispatch batch background).1, true,
            .recorded e true :: .taken batch :: (c.dispatch batch background).2))) := by
  rw [record, ← Bool.not_and]
  cases b.settings.enabled && b.settings.samples draw with
  | false => exact .inl ⟨rfl, rfl⟩
  | true =>
    refine .inr ⟨rfl, ?_⟩
    rcases b.enqueue e with ⟨c, _ | batch⟩
    · exact .inl ⟨c, rfl, rfl⟩
    · exact .inr ⟨c, batch, rfl, rfl⟩

theorem samples_iff {s : BatcherSettings} {draw : Binary64} : s.samples draw = true ↔
    (Binary64.zero false).lt s.samplingRate = true ∧
      (s.samplingRate.lt Binary64.one = false ∨ draw.lt s.samplingRate = true) := by
  rw [BatcherSettings.samples]
  cases (Binary64.zero false).lt s.samplingRate <;> cases s.samplingRate.lt Binary64.one <;> simp

/-- An event is admitted just if the batcher is enabled and the rate is above zero, and the number drawn
for the event is below the rate, if that is below one. -/
theorem admitted_iff {b : Batcher} {e : Event} {draw : Binary64} {background : Bool} :
    (b.record e draw background).2.1 = true ↔ b.settings.enabled = true ∧
      (Binary64.zero false).lt b.settings.samplingRate = true ∧
      (b.settings.samplingRate.lt Binary64.one = false ∨
        draw.lt b.settings.samplingRate = true) := by
  rw [← samples_iff, ← Bool.and_eq_true_iff]
  obtain ⟨hrefused, h⟩ | ⟨hadmitted, ⟨_, _, h⟩ | ⟨_, _, _, h⟩⟩ := record_cases b e draw background
  · rw [h, hrefused]
  · rw [h, hadmitted]
  · rw [h, hadmitted]

/-- A sending that goes on is decided upon or asks the sink. -/
theorem proceed_cases (b : Batcher) (now id : Nat) :
    b.proceed now id = (b, []) ∨ ∃ s ∈ b.sendings, s.id = id ∧ s.stage = .waiting ∧
      ((∃ wanted, b.cache.fresh? (Span.ofMillis now) = some wanted ∧
          b.proceed now id = b.decide s wanted) ∨
        b.proceed now id = (b.setStage id .fetching, [.called id .config])) := by
  rw [proceed]
  split
  · next s hfind =>
    obtain ⟨hs, hid⟩ := mem_of_find? hfind
    split
    · exact .inl rfl
    · next hwaits =>
      have hstage : s.stage = .waiting := by
        simp only [Bool.or_eq_true, decide_eq_true_eq, not_or, Decidable.not_not] at hwaits
        exact hwaits.1
      refine .inr ⟨s, hs, hid, hstage, ?_⟩
      split
      · next wanted hfresh => exact .inl ⟨wanted, hfresh, rfl⟩
      · exact .inr rfl
  · exact .inl rfl

theorem answerConfig_cases (b : Batcher) (now id : Nat) (reply : ConfigReply) :
    b.answerConfig now id reply = (b, []) ∨ ∃ s ∈ b.sendings, s.stage = .fetching ∧
      let told := b.cache.store (Span.ofMillis now) reply
      let decided := Batcher.decide { b with cache := told } s reply.accepts
      b.answerConfig now id reply = (decided.1, .told now reply :: decided.2) := by
  rw [answerConfig]
  split
  · next s hfind =>
    obtain ⟨hs, _⟩ := mem_of_find? hfind
    split
    · exact .inl rfl
    · next hfetching =>
      have hstage : s.stage = .fetching := by simpa using hfetching
      exact .inr ⟨s, hs, hstage, rfl⟩
  · exact .inl rfl

theorem answerReport_cases (b : Batcher) (id : Nat) (taken : Bool) :
    (b.answerReport id taken = (b, []) ∧ b.answeredBy (.answerReport id taken) = []) ∨
      ∃ s ∈ b.sendings, s.stage = .reporting ∧
        b.answerReport id taken = b.close s (if taken then .accepted else .rejected) ∧
        b.answeredBy (.answerReport id taken) = [(s, taken)] := by
  rw [answerReport, answeredBy]
  cases hfind : b.find? id with
  | none => exact .inl ⟨rfl, rfl⟩
  | some s =>
    obtain ⟨hs, _⟩ := mem_of_find? hfind
    by_cases hstage : s.stage = .reporting
    · exact .inr ⟨s, hs, hstage, by simp [hstage], by simp [hstage]⟩
    · exact .inl ⟨by simp [hstage], by simp [hstage]⟩

theorem mem_of_answeredBy {b : Batcher} {a : Action} {s : Sending} {taken : Bool}
    (h : (s, taken) ∈ b.answeredBy a) : s ∈ b.sendings ∧ s.stage = .reporting := by
  cases a with
  | answerReport id taken' =>
    obtain ⟨_, hnone⟩ | ⟨s', hs, hstage, _, hone⟩ := answerReport_cases b id taken'
    · exact (List.not_mem_nil (hnone ▸ h)).elim
    · rw [hone] at h
      cases List.mem_singleton.1 h
      exact ⟨hs, hstage⟩
  | _ => exact (List.not_mem_nil h).elim

theorem timerWaits_abortTimer (b : Batcher) : b.abortTimer.1.timerWaits = false := by
  simp [timerWaits, abortTimer]

theorem decide_changes {b : Batcher} {s : Sending} {wanted : Bool} (hs : s ∈ b.sendings)
    (hstage : s.stage ≠ .reporting) (hcached : ∃ fetched, b.cache.cached = some (fetched, wanted)) :
    Changes b (b.decide s wanted).2 (b.decide s wanted).1 := by
  cases wanted with
  | true => exact (Change.report s hs hstage hcached).changes
  | false => exact (Change.close s .unwanted hs (.inl rfl)).changes

theorem record_changes (b : Batcher) (e : Event) (draw : Binary64) (background : Bool) :
    Changes b (b.record e draw background).2.2 (b.record e draw background).1 := by
  let queued : Batcher := { b with
    queue := b.queue ++ [e]
    counts := { b.counts with admitted := b.counts.admitted + 1 } }
  have hqueue : Changes b [.recorded e true] queued := (Change.queue e).changes
  obtain ⟨_, h⟩ | ⟨_, ⟨c, henqueue, h⟩ | ⟨c, batch, henqueue, h⟩⟩ :=
      record_cases b e draw background <;> rw [h]
  · exact (Change.refuse e).changes
  · rw [enqueue] at henqueue
    split at henqueue <;> cases henqueue
    exact hqueue
  · rw [enqueue] at henqueue
    split at henqueue <;> cases henqueue
    have hsplit : queued.queue = queued.queue.take b.settings.batchSize ++
      queued.queue.drop b.settings.batchSize := (List.take_append_drop ..).symm
    refine hqueue.append ?_
    rw [dispatch]
    cases background with
    | true => exact (Change.send _ _ false hsplit (by simp)).changes
    | false => exact (Change.discard _ _ hsplit).changes

theorem sendAll_changes {b : Batcher} {ofTimer : Bool}
    (h : ofTimer = true → b.timerWaits = false) :
    Changes b (b.sendAll ofTimer).2.2 (b.sendAll ofTimer).1 :=
  (Change.send b.queue [] ofTimer (List.append_nil _).symm h).changes

theorem tick_changes (b : Batcher) : Changes b b.tick.2 b.tick.1 := by
  rw [tick]
  split
  · exact .none b
  · next hidle =>
    have hwaits : b.timerWaits = false := by simp at hidle; exact hidle.2
    exact sendAll_changes fun _ => hwaits

theorem start_changes (b : Batcher) : Changes b b.start.2 b.start.1 := by
  have hrun : Changes b (b.abortTimer.2 ++ []) b.start.1 :=
    .next .abortTimer (Change.runTimer (timerWaits_abortTimer b)).changes
  rwa [List.append_nil] at hrun

theorem proceed_changes (b : Batcher) (now id : Nat) :
    Changes b (b.proceed now id).2 (b.proceed now id).1 := by
  obtain h | ⟨s, hs, rfl, hstage, ⟨wanted, hfresh, h⟩ | h⟩ := proceed_cases b now id <;> rw [h]
  · exact .none b
  · exact decide_changes hs (by simp [hstage]) (fresh?_eq_some hfresh)
  · exact (Change.ask s hs (by simp [hstage])).changes

theorem answerConfig_changes (b : Batcher) (now id : Nat) (reply : ConfigReply) :
    Changes b (b.answerConfig now id reply).2 (b.answerConfig now id reply).1 := by
  obtain h | ⟨s, hs, hstage, h⟩ := answerConfig_cases b now id reply <;> rw [h]
  · exact .none b
  · have hheard : Change b [.told now reply]
        { b with cache := b.cache.store (Span.ofMillis now) reply } :=
      .hear now reply
    exact hheard.changes.append (decide_changes hs (by simp [hstage]) ⟨Span.ofMillis now, rfl⟩)

theorem answerReport_changes (b : Batcher) (id : Nat) (taken : Bool) :
    Changes b (b.answerReport id taken).2 (b.answerReport id taken).1 := by
  obtain ⟨h, _⟩ | ⟨s, hs, hstage, h, _⟩ := answerReport_cases b id taken <;> rw [h]
  · exact .none b
  · refine (Change.close s _ hs (.inr ⟨?_, hstage⟩)).changes
    cases taken <;> simp

theorem step_changes (b : Batcher) (a : Action) : Changes b (b.step a).2 (b.step a).1 := by
  cases a with
  | record e draw background => exact record_changes b e draw background
  | flush => exact sendAll_changes nofun
  | tick => exact tick_changes b
  | start => exact start_changes b
  | stop => exact Change.abortTimer.changes
  | proceed now id => exact proceed_changes b now id
  | answerConfig now id reply => exact answerConfig_changes b now id reply
  | answerReport id taken => exact answerReport_changes b id taken

/-! ## What is told of an action -/

/-- Something that is told while it is found out whether the sink wants a batch. -/
inductive Asking : Notice → Prop where
  | called (id : Nat) (call : SinkCall) : Asking (.called id call)
  | told (now : Nat) (reply : ConfigReply) : Asking (.told now reply)
  | unwanted (id : Nat) (batch : List Event) : Asking (.ended id batch .unwanted)

theorem decide_asking (b : Batcher) (s : Sending) (wanted : Bool) :
    ∀ n ∈ (b.decide s wanted).2, Asking n := by
  cases wanted with
  | true => exact List.forall_mem_singleton.2 (.called ..)
  | false => exact List.forall_mem_singleton.2 (.unwanted ..)

theorem proceed_asking (b : Batcher) (now id : Nat) : ∀ n ∈ (b.proceed now id).2, Asking n := by
  obtain h | ⟨s, _, _, _, ⟨wanted, _, h⟩ | h⟩ := proceed_cases b now id <;> rw [h]
  · exact fun _ hn => (List.not_mem_nil hn).elim
  · exact decide_asking b s wanted
  · exact List.forall_mem_singleton.2 (.called ..)

theorem answerConfig_asking (b : Batcher) (now id : Nat) (reply : ConfigReply) :
    ∀ n ∈ (b.answerConfig now id reply).2, Asking n := by
  obtain h | ⟨s, _, _, h⟩ := answerConfig_cases b now id reply <;> rw [h]
  · exact fun _ hn => (List.not_mem_nil hn).elim
  · exact List.forall_mem_cons.2 ⟨.told .., decide_asking _ s _⟩

section

variable {α : Type} {g : Notice → List α} (htaken : ∀ batch, g (.taken batch) = [])
include htaken

theorem record_flatMap (b : Batcher) (e : Event) (draw : Binary64) (background : Bool) :
    (b.record e draw background).2.2.flatMap g =
      g (.recorded e (b.record e draw background).2.1) ++
        (b.discardedBy (.record e draw background)).flatMap fun batch => g (.discarded batch) := by
  obtain ⟨hkept, h⟩ | ⟨hkept, ⟨c, henqueue, h⟩ | ⟨c, batch, henqueue, h⟩⟩ :=
      record_cases b e draw background <;> rw [h]
  · cases background <;> simp [discardedBy, hkept]
  · cases background <;> simp [discardedBy, hkept, henqueue]
  · cases background <;> simp [discardedBy, dispatch, hkept, henqueue, htaken]

/-- What is told of an action, apart from what is taken off the queue and from what is told while
the sink is asked. -/
theorem step_flatMap (hasking : ∀ n, Asking n → g n = []) (b : Batcher) (a : Action) :
    (b.step a).2.flatMap g =
      (b.recordedBy a).flatMap (fun (e, admitted) => g (.recorded e admitted)) ++
      (b.discardedBy a).flatMap (fun batch => g (.discarded batch)) ++
      (b.answeredBy a).flatMap (fun (s, taken) =>
        g (.ended s.id s.batch (if taken then .accepted else .rejected))) ++
      (b.abandonedBy a).flatMap (fun s => g (.ended s.id s.batch .abandoned)) := by
  have habort : b.abortTimer.2.flatMap g = (b.sendings.filter (·.ofTimer)).flatMap
      fun s => g (.ended s.id s.batch .abandoned) := List.flatMap_map ..
  cases a with
  | record e draw background =>
    simpa [step, recordedBy, answeredBy, abandonedBy, Action.endsTimer] using
      record_flatMap htaken b e draw background
  | flush => exact (List.flatMap_singleton ..).trans (htaken b.queue)
  | tick =>
    rw [step, tick]
    split
    · rfl
    · exact (List.flatMap_singleton ..).trans (htaken b.queue)
  | start => exact habort
  | stop => exact habort
  | proceed now id =>
    exact List.flatMap_eq_nil_iff.2 fun n hn => hasking n (proceed_asking b now id n hn)
  | answerConfig now id reply =>
    exact List.flatMap_eq_nil_iff.2 fun n hn => hasking n (answerConfig_asking b now id reply n hn)
  | answerReport id taken =>
    obtain ⟨h, hanswered⟩ | ⟨s, _, _, h, hanswered⟩ := answerReport_cases b id taken
    · simp [step, h, hanswered, recordedBy, discardedBy, abandonedBy, Action.endsTimer]
    · simp [step, h, hanswered, close, recordedBy, discardedBy, abandonedBy, Action.endsTimer]

end

/-! ## Runs -/

theorem run_changes (b : Batcher) (actions : List Action) :
    Changes b (b.run actions).2 (b.run actions).1 := by
  induction actions generalizing b with
  | nil => exact .none b
  | cons a rest ih => exact (step_changes b a).append (ih (b.step a).1)

/-- What the actions of a run come to, one after the other. -/
def along {α : Type} (f : Batcher → Action → List α) : Batcher → List Action → List α
  | _, [] => []
  | b, a :: rest => f b a ++ along f (b.step a).1 rest

/-- What is told of every action is told of the run. -/
theorem run_flatMap {α β : Type} {f : Batcher → Action → List β} {g : Notice → List α}
    {h : β → List α} (hstep : ∀ b a, (b.step a).2.flatMap g = (f b a).flatMap h) (b : Batcher)
    (actions : List Action) : (b.run actions).2.flatMap g = (b.along f actions).flatMap h := by
  induction actions generalizing b with
  | nil => rfl
  | cons a rest ih =>
    rw [along, List.flatMap_append, ← hstep, ← ih]
    exact List.flatMap_append

theorem run_cons (b : Batcher) (a : Action) (rest : List Action) : b.run (a :: rest) =
    (((b.step a).1.run rest).1, (b.step a).2 ++ ((b.step a).1.run rest).2) := rfl

theorem run_append (b : Batcher) (before after : List Action) : b.run (before ++ after) =
    (((b.run before).1.run after).1, (b.run before).2 ++ ((b.run before).1.run after).2) := by
  induction before generalizing b with
  | nil => rfl
  | cons a rest ih =>
    rw [List.cons_append, run_cons, ih, run_cons, List.append_assoc]

theorem mem_along {α : Type} {f : Batcher → Action → List α} {b : Batcher} {actions : List Action}
    {x : α} : x ∈ b.along f actions ↔
      ∃ before a after, actions = before ++ a :: after ∧ x ∈ f (b.run before).1 a := by
  induction actions generalizing b with
  | nil => simp [along]
  | cons a rest ih =>
    rw [along, List.mem_append, ih]
    constructor
    · rintro (hnow | ⟨before, a', after, rfl, hx⟩)
      · exact ⟨[], a, rest, rfl, hnow⟩
      · exact ⟨a :: before, a', after, rfl, hx⟩
    · rintro ⟨_ | ⟨a', before⟩, a'', after, heq, hx⟩
      · cases heq
        exact .inl hx
      · cases heq
        exact .inr ⟨before, a'', after, rfl, hx⟩

section

variable {P : List Notice → Batcher → Prop}
  (hkeeps : ∀ {log b notices c}, P log b → Change b notices c → P (log ++ notices) c)
include hkeeps

theorem Changes.keeps {log notices : List Notice} {b c : Batcher} (hb : P log b)
    (h : Changes b notices c) : P (log ++ notices) c := by
  induction h generalizing log with
  | none b => rwa [List.append_nil]
  | next hfirst _ ih =>
    rw [← List.append_assoc]
    exact ih (hkeeps hb hfirst)

/-- What holds at the beginning and is kept by every change holds at the end of every run. -/
theorem run_keeps {b : Batcher} (hb : P [] b) (actions : List Action) :
    P (b.run actions).2 (b.run actions).1 :=
  (run_changes b actions).keeps hkeeps hb

end

/-! ## The settings -/

theorem Change.settings {b c : Batcher} {notices : List Notice} (h : Change b notices c) :
    c.settings = b.settings := by
  cases h with
  | send batch rest ofTimer _ _ =>
    by_cases hempty : batch.isEmpty <;> simp [Batcher.send, hempty]
  | _ => rfl

theorem Changes.settings {b c : Batcher} {notices : List Notice} (h : Changes b notices c) :
    c.settings = b.settings := by
  induction h with
  | none => rfl
  | next hfirst _ ih => exact ih.trans hfirst.settings

theorem step_settings (b : Batcher) (a : Action) : (b.step a).1.settings = b.settings :=
  (step_changes b a).settings

theorem run_settings (b : Batcher) (actions : List Action) :
    (b.run actions).1.settings = b.settings :=
  (run_changes b actions).settings

end Batcher

end Resilience.Telemetry
