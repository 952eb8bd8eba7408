import Mathlib.Data.List.Infix
import Resilience.Proofs.Telemetry.Timer

/-!
# Reports

What the sink is told, and how its answers are counted. `Batcher.Founded` is what was told before a
batch is reported; `Batcher.run_accounted` adds up the counts of a run in which nobody disturbs the
timer.
-/

namespace Resilience.Telemetry

namespace Batcher

/-- What was told before a batch is reported: it was taken off the queue, the sink had last answered
that it wants telemetry, and it had not been given the batch. -/
structure Founded (before : List Notice) (id : Nat) (batch : List Event) : Prop where
  filled : batch ≠ []
  taken : .taken batch ∈ before
  wanted : ∃ now, (before.filterMap Notice.told?).getLast? = some (now, .enabled)
  first : ∀ call, .called id call ∈ before → call = .config

/-- Every report so far is founded. -/
def AllFounded (log : List Notice) (b : Batcher) : Prop :=
  ∀ before id call after, log = before ++ .called id call :: after → call ≠ .config →
    ∃ batch, call = b.reportOf batch ∧ Founded before id batch

variable {b c : Batcher} {s : Sending} {log notices : List Notice}

/-! ## What was told before a report -/

/-- What a sending is reported with, once the sink is known to want telemetry. -/
theorem Sound.founded (h : Sound log b) (hs : s ∈ b.sendings) (hstage : s.stage ≠ .reporting)
    {fetched : Span} (hcached : b.cache.cached = some (fetched, true)) :
    Founded log s.id s.batch where
  filled := (h.onWay s hs).filled
  taken := (h.onWay s hs).taken
  wanted := by
    have hlast := h.cached
    rw [hcached, eq_comm, Option.map_eq_some_iff] at hlast
    obtain ⟨⟨now, reply⟩, hreply, heq⟩ := hlast
    have hwanted : reply = .enabled := by
      simpa [ConfigReply.accepts] using (Prod.mk.inj heq).2
    exact ⟨now, hwanted ▸ hreply⟩
  first := (h.onWay s hs).unreported hstage

theorem AllFounded.append (h : AllFounded log b) (hsettings : c.settings = b.settings)
    (hnew : ∀ before id call after, notices = before ++ .called id call :: after →
      call ≠ .config → ∃ batch, call = b.reportOf batch ∧ Founded (log ++ before) id batch) :
    AllFounded (log ++ notices) c := by
  intro before id call after heq hcall
  simp only [reportOf_congr hsettings]
  -- The call is told by the change, or it was told before.
  rcases List.append_eq_append_iff.1 heq with ⟨mid, rfl, hnotices⟩ | ⟨rest, hlog, hrest⟩
  · exact hnew mid id call after hnotices hcall
  · cases rest with
    | nil =>
      rw [List.append_nil] at hlog
      have hfirst := hnew [] id call after hrest.symm hcall
      rwa [List.append_nil, hlog] at hfirst
    | cons n rest =>
      obtain ⟨rfl, rfl⟩ := List.cons.inj hrest
      exact h before id call rest hlog hcall

/-- Nothing is reported. -/
theorem AllFounded.quiet (h : AllFounded log b) (hsettings : c.settings = b.settings)
    (hnew : ∀ id call, .called id call ∈ notices → call = .config) :
    AllFounded (log ++ notices) c :=
  h.append hsettings fun before id call after heq hcall =>
    (hcall (hnew id call (heq ▸ by simp))).elim

theorem AllFounded.change (hsound : Sound log b) (h : AllFounded log b)
    (hchange : Change b notices c) : AllFounded (log ++ notices) c := by
  have hsettings := hchange.settings
  cases hchange with
  | report s hs hstage hcached =>
    obtain ⟨fetched, hcached⟩ := hcached
    refine h.append hsettings fun before id call after heq hcall => ?_
    cases before with
    | nil =>
      cases heq
      rw [List.append_nil]
      exact ⟨s.batch, rfl, hsound.founded hs hstage hcached⟩
    | cons n rest => simp at heq
  | abortTimer => exact h.quiet hsettings (by simp [abortTimer])
  | _ => exact h.quiet hsettings (by simp [Batcher.close])

theorem run_founded (settings : BatcherSettings) (actions : List Action) :
    AllFounded (Batcher.run { settings } actions).2 (Batcher.run { settings } actions).1 := by
  have hnew : AllFounded [] ({ settings } : Batcher) := by
    intro before id call after heq
    simp at heq
  exact (run_keeps (P := fun log b => Sound log b ∧ AllFounded log b)
    (fun h hchange => ⟨h.1.change hchange, h.2.change h.1 hchange⟩)
    ⟨sound_new settings, hnew⟩ actions).2

theorem reportOf_cases (b : Batcher) {batch : List Event} (h : batch ≠ []) :
    (∃ e, batch = [e] ∧ b.reportOf batch = .event (e.payload b.settings.maxFieldLength)) ∨
      2 ≤ batch.length ∧
        b.reportOf batch = .batch (batch.map (·.payload b.settings.maxFieldLength)) := by
  match batch, h with
  | [e], _ => exact .inl ⟨e, rfl, rfl⟩
  | _ :: _ :: _, _ => exact .inr ⟨by simp, rfl⟩

/-- A batch that was taken is a run of successive admitted events. -/
theorem Balanced.infix_admitted (h : Balanced log b) {batch : List Event}
    (htaken : .taken batch ∈ log) : batch <:+: entries (.recorded true) log := by
  have hpart : batch <:+: entries .taken log :=
    List.infix_of_mem_flatten (List.mem_map.2 ⟨_, htaken, rfl⟩)
  rw [← h.queued]
  exact hpart.trans (List.prefix_append _ _).isInfix

/-- What the sink answers are reports that were made. -/
theorem called_of_answered (settings : BatcherSettings) (actions : List Action) {s : Sending}
    {taken : Bool} (h : (s, taken) ∈ Batcher.along answeredBy { settings } actions) :
    .called s.id (Batcher.reportOf { settings } s.batch) ∈
      (Batcher.run { settings } actions).2 := by
  obtain ⟨before, a, after, rfl, hanswered⟩ := mem_along.1 h
  obtain ⟨hs, hstage⟩ := mem_of_answeredBy hanswered
  have hreported := ((run_sound settings before).onWay s hs).reported hstage
  rw [reportOf_congr (run_settings _ before)] at hreported
  rw [run_append]
  exact List.mem_append_left _ hreported

/-! ## The counts of a run -/

/-- The counts of a run in which nobody disturbs the timer. Every recorded event is counted as
dropped, flushed or failed, or it is queued or on its way. Flushed are the events of the reports
that the sink accepted, failed those of the reports that it rejected and of the full batches that
nobody was there to send. A report is made of successive admitted events, by itself if it is one,
and only while the sink wants telemetry. -/
theorem run_accounted (settings : BatcherSettings) (actions : List Action)
    (h : Batcher.Undisturbed { settings } actions) :
    let new : Batcher := { settings }
    let b := (new.run actions).1
    let log := (new.run actions).2
    let recorded := new.along recordedBy actions
    let answered := new.along answeredBy actions
    (recorded.length = b.counts.dropped + b.counts.flushed + b.counts.failed + b.queue.length +
      b.inFlight.length) ∧
    b.counts.admitted = (recorded.filter (·.2 = true)).length ∧
    b.counts.flushed = ((answered.filter (·.2 = true)).flatMap (·.1.batch)).length ∧
    b.counts.failed = ((answered.filter (·.2 = false)).flatMap (·.1.batch)).length +
      (new.along discardedBy actions).flatten.length ∧
    (∀ s taken, (s, taken) ∈ answered → .called s.id (new.reportOf s.batch) ∈ log) ∧
    ∀ before id call after, log = before ++ .called id call :: after → call ≠ .config →
      ∃ batch, Founded before id batch ∧ batch <:+: (recorded.filter (·.2 = true)).map (·.1) ∧
        ((∃ e, batch = [e] ∧ call = .event (e.payload settings.maxFieldLength)) ∨
          2 ≤ batch.length ∧ call = .batch (batch.map (·.payload settings.maxFieldLength))) := by
  intro new b log recorded answered
  have hbalanced : Balanced log b := run_balanced settings actions
  have hadmitted : entries (.recorded true) log = (recorded.filter (·.2 = true)).map (·.1) :=
    entries_recorded new actions true
  have hrefused : entries (.recorded false) log = (recorded.filter (·.2 = false)).map (·.1) :=
    entries_recorded new actions false
  have haccepted := entries_answered new actions true
  have hrejected := entries_answered new actions false
  have hdiscarded := entries_discarded new actions
  have hlost : entries (.ended .abandoned) log = [] := (entries_abandoned_eq_nil ..).2 h
  refine ⟨?_, ?_, ?_, ?_, fun s taken => called_of_answered settings actions, ?_⟩
  · have hparts : recorded.length =
        (entries (.recorded true) log).length + (entries (.recorded false) log).length := by
      rw [hadmitted, hrefused, List.length_map, List.length_map,
        List.length_eq_length_filter_add (·.2 = true)]
      simp
    have hlength := hbalanced.perm.length_eq
    simp only [hlost, List.length_append, List.length_nil] at hlength
    have htotal := total_tally log
    rw [hbalanced.counted]
    omega
  · rw [hbalanced.counted, tally, hadmitted, List.length_map]
  · rw [hbalanced.counted]
    exact congrArg List.length haccepted
  · rw [hbalanced.counted]
    exact congrArg₂ (· + ·) (congrArg List.length hrejected) (congrArg List.length hdiscarded)
  · intro before id call after hlog hcall
    obtain ⟨batch, rfl, hfounded⟩ := run_founded settings actions before id call after hlog hcall
    refine ⟨batch, hfounded, ?_, ?_⟩
    · rw [← hadmitted]
      exact hbalanced.infix_admitted (hlog ▸ List.mem_append_left _ hfounded.taken)
    · have hcases := reportOf_cases b hfounded.filled
      rwa [show b.settings = settings from run_settings new actions] at hcases

/-- A batcher that sends two events at once. -/
def pairing : Batcher := { settings := BatcherSettings.withBatchSize {} 2 }

/-- The timer sends one event, which the sink accepts. The next two fill a batch, which is sent in
the background and which the sink rejects, after the timer was stopped. -/
def mixed : List Action :=
  [.start, .record promptly .one true, .tick, .proceed 0 0, .answerConfig 0 0 .enabled,
    .answerReport 0 true, .record promptly .one true, .record promptly .one true, .proceed 1000 1,
    .stop, .answerReport 1 false]

theorem run_accounted_mixed :
    let b := (pairing.run mixed).1
    let log := (pairing.run mixed).2
    pairing.Undisturbed mixed ∧
      (pairing.along recordedBy mixed).length = b.counts.dropped + b.counts.flushed +
        b.counts.failed + b.queue.length + b.inFlight.length ∧
      b.counts = { admitted := 3, flushed := 1, failed := 2 } ∧
      ∃ batch, 2 ≤ batch.length ∧ Founded (log.take 9) 1 batch := by
  intro b log
  have hcalm : pairing.Undisturbed mixed := by decide
  obtain ⟨hsum, _, _, _, _, hreports⟩ :=
    run_accounted (BatcherSettings.withBatchSize {} 2) mixed hcalm
  have hlog : log = log.take 9 ++
      .called 1 (pairing.reportOf [promptly, promptly]) :: log.drop 10 := rfl
  obtain ⟨batch, hfounded, _, ⟨e, _, hevent⟩ | ⟨hlength, _⟩⟩ := hreports _ _ _ _ hlog nofun
  · cases hevent
  · exact ⟨hcalm, hsum, rfl, batch, hlength, hfounded⟩

end Batcher

end Resilience.Telemetry
