import Resilience.Proofs.Telemetry.Ledger

/-!
# The queue

Three actions take events off the queue: recording one when that fills a batch, flushing, and the
timer. `Batcher.run_queue` says that whatever the actions of a run are, the queue hands its events
on in the order in which they were admitted, and that a full batch leaves it at once.
-/

namespace Resilience.Telemetry

namespace Batcher

variable {b c : Batcher}

/-! ## How long it is -/

@[simp] theorem queue_dispatch (b : Batcher) (batch : List Event) (background : Bool) :
    (b.dispatch batch background).1.queue = b.queue := by
  cases background
  · rfl
  · exact queue_send batch false

theorem taken_not_mem_dispatch (b : Batcher) (batch taken : List Event) (background : Bool) :
    .taken taken ∉ (b.dispatch batch background).2 := by
  cases background <;> simp [dispatch]

theorem enqueue_eq_none {e : Event} (h : b.enqueue e = (c, none)) :
    b.queue.length + 1 < b.settings.batchSize ∧ c.queue = b.queue ++ [e] := by
  rw [enqueue] at h
  split at h <;> cases h
  next hshort => exact ⟨by simpa using hshort, rfl⟩

section

variable (hshort : b.queue.length < b.settings.batchSize)
include hshort

theorem enqueue_eq_some {e : Event} {batch : List Event} (h : b.enqueue e = (c, some batch)) :
    b.queue.length + 1 = b.settings.batchSize ∧ batch = b.queue ++ [e] ∧ c.queue = [] := by
  rw [enqueue] at h
  split at h <;> cases h
  next hfull =>
    have hlength : b.settings.batchSize = (b.queue ++ [e]).length := by
      simp at hfull ⊢
      omega
    refine ⟨by simpa using hlength.symm, ?_, ?_⟩
    · exact List.take_of_length_le (Nat.le_of_eq hlength.symm)
    · exact List.drop_eq_nil_of_le (Nat.le_of_eq hlength.symm)

/-- The event that fills a batch takes it off the queue. -/
theorem taken_mem_record {e : Event} {draw : Binary64} {background : Bool} {batch : List Event} :
    .taken batch ∈ (b.record e draw background).2.2 ↔
      (b.record e draw background).2.1 = true ∧ batch = b.queue ++ [e] ∧
        batch.length = b.settings.batchSize := by
  have hlength : (b.queue ++ [e]).length = b.queue.length + 1 := List.length_append
  obtain ⟨_, h⟩ | ⟨_, ⟨c, henqueue, h⟩ | ⟨c, taken, henqueue, h⟩⟩ :=
      record_cases b e draw background <;> rw [h]
  · simp
  · obtain ⟨hlt, _⟩ := enqueue_eq_none henqueue
    have hne : (b.queue ++ [e]).length ≠ b.settings.batchSize := by omega
    simpa using fun hbatch => hbatch ▸ hne
  · obtain ⟨heq, rfl, _⟩ := enqueue_eq_some hshort henqueue
    have hfull : (b.queue ++ [e]).length = b.settings.batchSize := by omega
    simpa [taken_not_mem_dispatch] using fun hbatch => hbatch ▸ hfull

theorem length_queue_record (e : Event) (draw : Binary64) (background : Bool) :
    (b.record e draw background).1.queue.length < b.settings.batchSize := by
  obtain ⟨_, h⟩ | ⟨_, ⟨c, henqueue, h⟩ | ⟨c, taken, henqueue, h⟩⟩ :=
      record_cases b e draw background <;> rw [h]
  · exact hshort
  · obtain ⟨hlt, hqueue⟩ := enqueue_eq_none henqueue
    simpa [hqueue] using hlt
  · obtain ⟨_, _, hqueue⟩ := enqueue_eq_some hshort henqueue
    simpa [hqueue] using Nat.lt_of_le_of_lt (Nat.zero_le _) hshort

end

theorem queue_decide (s : Sending) (wanted : Bool) : (b.decide s wanted).1.queue = b.queue := by
  cases wanted <;> rfl

/-- An action other than to record an event leaves the queue as it is, or empties it. -/
theorem queue_step (b : Batcher) {a : Action}
    (ha : ∀ e draw background, a ≠ .record e draw background) :
    (b.step a).1.queue = b.queue ∨ (b.step a).1.queue = [] := by
  cases a with
  | record e draw background => exact (ha e draw background rfl).elim
  | flush => exact .inr (queue_send _ _)
  | tick =>
    rw [step, tick]
    split
    · exact .inl rfl
    · exact .inr (queue_send _ _)
  | start => exact .inl rfl
  | stop => exact .inl rfl
  | proceed now id =>
    obtain h | ⟨s, _, _, _, ⟨wanted, _, h⟩ | h⟩ := proceed_cases b now id <;> rw [step, h]
    · exact .inl rfl
    · exact .inl (queue_decide s wanted)
    · exact .inl rfl
  | answerConfig now id reply =>
    obtain h | ⟨s, _, _, h⟩ := answerConfig_cases b now id reply <;> rw [step, h]
    · exact .inl rfl
    · exact .inl (queue_decide s _)
  | answerReport id taken =>
    obtain ⟨h, _⟩ | ⟨s, _, _, h, _⟩ := answerReport_cases b id taken <;> rw [step, h]
    · exact .inl rfl
    · exact .inl rfl

theorem length_queue_step (h : b.queue.length < b.settings.batchSize) (a : Action) :
    (b.step a).1.queue.length < b.settings.batchSize := by
  -- Only recording makes the queue longer.
  by_cases ha : ∃ e draw background, a = .record e draw background
  · obtain ⟨e, draw, background, rfl⟩ := ha
    exact length_queue_record h e draw background
  · have hother (e : Event) (draw : Binary64) (background : Bool) :
        a ≠ .record e draw background := fun heq => ha ⟨e, draw, background, heq⟩
    rcases queue_step b hother with hsame | hempty
    · rwa [hsame]
    · rw [hempty]
      exact Nat.lt_of_le_of_lt (Nat.zero_le _) h

theorem length_queue_run (h : b.queue.length < b.settings.batchSize) (actions : List Action) :
    (b.run actions).1.queue.length < b.settings.batchSize := by
  induction actions generalizing b with
  | nil => exact h
  | cons a rest ih =>
    have hstep := step_settings b a
    have hrest := ih (b := (b.step a).1) (hstep ▸ length_queue_step h a)
    rwa [hstep] at hrest

/-- Whatever is done with a batcher whose batches are to hold so many events: the batches taken off
its queue and then what is still queued are the admitted events in their order. The queue is always
too short for a batch; the event that makes it long enough takes a full batch off it. Flushing
answers how many events were queued. An event is admitted just if the batcher is enabled and the
number drawn for the event allows it. -/
theorem run_queue (settings : BatcherSettings) (size : Nat) (actions : List Action) :
    let new : Batcher := { settings := settings.withBatchSize size }
    let b := (new.run actions).1
    let log := (new.run actions).2
    entries .taken log ++ b.queue =
      ((new.along recordedBy actions).filter (·.2 = true)).map (·.1) ∧
    b.queue.length < max 1 size ∧
    (∀ e draw background batch, .taken batch ∈ (b.record e draw background).2.2 ↔
      (b.record e draw background).2.1 = true ∧ batch = b.queue ++ [e] ∧
        batch.length = max 1 size) ∧
    (b.sendAll false).2 = (b.queue.length, [.taken b.queue]) ∧
    ∀ e draw background, (b.record e draw background).2.1 = true ↔ settings.enabled = true ∧
      (Binary64.zero false).lt settings.samplingRate = true ∧
      (settings.samplingRate.lt Binary64.one = false ∨ draw.lt settings.samplingRate = true) := by
  intro new b log
  have hsettings : b.settings = settings.withBatchSize size := run_settings new actions
  have hshort : b.queue.length < b.settings.batchSize := by
    rw [hsettings]
    exact length_queue_run (b := new) (Nat.lt_of_lt_of_le Nat.zero_lt_one (Nat.le_max_left ..))
      actions
  have hsize : b.settings.batchSize = max 1 size := by rw [hsettings]; rfl
  rw [← hsize]
  refine ⟨?_, hshort, fun e draw background batch => taken_mem_record hshort, rfl,
    fun e draw background => ?_⟩
  · rw [(run_balanced _ actions).queued, entries_recorded]
  · rw [admitted_iff, hsettings]
    rfl

end Batcher

end Resilience.Telemetry
