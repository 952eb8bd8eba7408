import Resilience.Proofs.Telemetry.Ledger

/-!
# The timer

The timer sends what is queued and waits for the sink. Who stops or restarts it meanwhile ends the
sending too. `Batcher.run_lost` says where every admitted event is after a run: queued, on its way,
counted, or lost so. None is lost if, and only if, nobody disturbs the timer while it waits.
-/

namespace Resilience.Telemetry

namespace Batcher

/-- Nobody starts or stops the timer while it waits for the sink. -/
def Undisturbed : Batcher → List Action → Prop
  | _, [] => True
  | b, a :: rest => (a.endsTimer = true → b.timerWaits = false) ∧ Undisturbed (b.step a).1 rest

instance decidableUndisturbed : (b : Batcher) → (actions : List Action) →
    Decidable (b.Undisturbed actions)
  | _, [] => inferInstanceAs (Decidable True)
  | b, a :: rest =>
    have := decidableUndisturbed (b.step a).1 rest
    inferInstanceAs (Decidable ((a.endsTimer = true → b.timerWaits = false) ∧ _))

variable {b : Batcher} {log : List Notice}

/-! ## What is lost -/

theorem abandonedBy_eq_nil (b : Batcher) (a : Action) :
    b.abandonedBy a = [] ↔ (a.endsTimer = true → b.timerWaits = false) := by
  rw [abandonedBy, timerWaits]
  cases a.endsTimer <;> simp [List.filter_eq_nil_iff]

theorem along_abandonedBy_eq_nil (b : Batcher) (actions : List Action) :
    b.along abandonedBy actions = [] ↔ b.Undisturbed actions := by
  induction actions generalizing b with
  | nil => exact iff_of_true rfl trivial
  | cons a rest ih => rw [along, List.append_eq_nil_iff, abandonedBy_eq_nil, ih, Undisturbed]

/-- Events are lost if, and only if, the timer is disturbed. -/
theorem entries_abandoned_eq_nil (settings : BatcherSettings) (actions : List Action) :
    entries (.ended .abandoned) (Batcher.run { settings } actions).2 = [] ↔
      Batcher.Undisturbed { settings } actions := by
  -- A batch on its way has an event, so whatever is abandoned is a loss.
  have hfilled : ∀ s ∈ Batcher.along abandonedBy { settings } actions, s.batch ≠ [] := by
    intro s hs
    obtain ⟨before, a, _, _, hs⟩ := mem_along.1 hs
    rw [abandonedBy] at hs
    split at hs
    · exact ((run_sound settings before).onWay s (List.mem_filter.1 hs).1).filled
    · exact (List.not_mem_nil hs).elim
  rw [entries_abandoned, ← along_abandonedBy_eq_nil, List.flatMap_eq_nil_iff]
  constructor
  · exact fun hnone => List.eq_nil_iff_forall_not_mem.2 fun s hs => hfilled s hs (hnone s hs)
  · exact fun hnone s hs => (List.not_mem_nil (hnone ▸ hs)).elim

/-! ## Where the events are -/

theorem Balanced.perm (h : Balanced log b) : (entries (.recorded true) log).Perm
    (b.queue ++ b.inFlight ++ settled log ++ entries (.ended .abandoned) log) := by
  rw [← h.queued, List.append_assoc, List.append_assoc, ← List.append_assoc b.inFlight]
  exact (h.placed.append_right b.queue).trans List.perm_append_comm

theorem total_tally (log : List Notice) :
    (tally log).flushed + (tally log).failed + (tally log).dropped =
      (settled log).length + (entries (.recorded false) log).length := by
  simp only [tally, settled, List.length_append]
  omega

/-- After a run, every admitted event is still queued, on its way, counted as flushed, failed or
dropped, or it was on its way when the timer that waited for it was ended. The last are counted
nowhere, so nothing is lost if and only if nobody disturbs the timer. Whoever does loses one
batch. -/
theorem run_lost (settings : BatcherSettings) (actions : List Action) :
    let new : Batcher := { settings }
    let b := (new.run actions).1
    let log := (new.run actions).2
    (entries (.recorded true) log).Perm
      (b.queue ++ b.inFlight ++ settled log ++ (new.along abandonedBy actions).flatMap (·.batch)) ∧
    b.counts.flushed + b.counts.failed + b.counts.dropped =
      (settled log).length + (entries (.recorded false) log).length ∧
    ((entries (.recorded true) log).Perm (b.queue ++ b.inFlight ++ settled log) ↔
      new.Undisturbed actions) ∧
    ∀ a, (b.abandonedBy a).length ≤ 1 := by
  intro new b log
  have hbalanced : Balanced log b := run_balanced settings actions
  have hperm := hbalanced.perm
  refine ⟨?_, ?_, ?_, fun a => ?_⟩
  · rwa [← entries_abandoned]
  · rw [hbalanced.counted, total_tally]
  · rw [← entries_abandoned_eq_nil settings actions]
    constructor
    · intro hkept
      have hlength := (hperm.symm.trans hkept).length_eq
      rw [List.length_append] at hlength
      have hzero : (entries (.ended .abandoned) log).length = 0 := by omega
      exact List.eq_nil_of_length_eq_zero hzero
    · intro hnone
      rwa [show entries (.ended .abandoned) log = [] from hnone, List.append_nil] at hperm
  · rw [abandonedBy]
    split
    · exact (run_sound settings actions).single
    · exact Nat.zero_le 1

/-- An event that tells of a first attempt that succeeded. -/
def promptly : Event where
  channel := "publish-website"
  attempt := 1
  total := 3
  timestamp := default
  what := .success Span.zero

/-- The timer takes an event off the queue, and is stopped before the sink answers whether it wants
telemetry, or started again before the sink answers the report. The event was admitted, and then it
is neither queued nor on its way nor counted. -/
theorem timer_ended_early :
    let asking : List Action := [.start, .record promptly .one true, .tick, .proceed 0 0]
    let stopped := Batcher.run { settings := {} } (asking ++ [.stop])
    let restarted := Batcher.run { settings := {} } (asking ++ [.answerConfig 0 0 .enabled, .start])
    (entries (.recorded true) stopped.2 = [promptly] ∧
      stopped.1.queue ++ stopped.1.inFlight ++ settled stopped.2 = [] ∧
      stopped.1.counts = { admitted := 1 }) ∧
    (entries (.recorded true) restarted.2 = [promptly] ∧
      restarted.1.queue ++ restarted.1.inFlight ++ settled restarted.2 = [] ∧
      restarted.1.counts = { admitted := 1 }) :=
  ⟨⟨rfl, rfl, rfl⟩, rfl, rfl, rfl⟩

end Batcher

end Resilience.Telemetry
