import Resilience.Proofs.Retry.Course

/-!
# Cancelled runs

A cancellation breaks off a wait and nothing else. `Task.run_cancellable` says what becomes of a run
whenever it is cancelled: by somebody else at any moment, or in any of its attempts.
-/

namespace Resilience

open Telemetry (Event Kind)

namespace Task

variable {α : Type}

/-- The run is cancelled at the moment, by somebody else or in one of the attempts up to `n`, which
are over by then. -/
def CancelledBy (op : Operation α) (cancelled : Option Nat) (n moment : Nat) : Prop :=
  (∃ c, cancelled = some c ∧ c ≤ moment) ∨ ∃ m, 1 ≤ m ∧ m ≤ n ∧ (op m).cancels = true

variable {clock : Timestamp} {t : Task} {op : Operation α} {cancelled : Option Nat}

/-! ## When attempts begin -/

theorem called_not_mem_emit {m n now : Nat} {e : Event} : (m, .called n) ∉ t.emit now e := by
  cases h : t.emitter e <;> simp [emit, h]

theorem called_mem_lap {m n k : Nat} :
    (m, .called n) ∈ t.lap clock op k ↔ n = k ∧ m = t.ready clock op (k - 1) := by
  cases h : t.answer clock op k with
  | ok value => simp [lap, h, call, and_comm]
  | error f => simp [lap, h, call, called_not_mem_emit, and_comm]

theorem Closes.called_mem {m n k : Nat} {r : Run α} (h : t.Closes clock op cancelled k r) :
    (m, .called n) ∈ r.effects ↔ n = k ∧ m = t.ready clock op (k - 1) := by
  cases h with
  | success value _ =>
    by_cases hk : 1 < k <;> simp [succeed, hk, call, called_not_mem_emit, and_comm]
  | failure f _ _ => simp [giveUp, call, called_not_mem_emit, and_comm]
  | abort f moment _ _ _ => simp [called_mem_lap]

theorem run_called_mem {m n k : Nat} {r : Run α} (hk : 1 ≤ k)
    (hcloses : t.Closes clock op cancelled k r)
    (hrun : t.run clock op cancelled =
      .after ((List.range' 1 (k - 1)).flatMap (t.lap clock op)) r) :
    (m, .called n) ∈ (t.run clock op cancelled).effects ↔
      1 ≤ n ∧ n ≤ k ∧ m = t.ready clock op (n - 1) := by
  rw [hrun, Run.effects_after, List.mem_append, hcloses.called_mem, List.mem_flatMap]
  constructor
  · rintro (⟨j, hj, hcalled⟩ | ⟨rfl, rfl⟩)
    · obtain ⟨hj, hjk⟩ := List.mem_range'_1.1 hj
      obtain ⟨rfl, rfl⟩ := called_mem_lap.1 hcalled
      exact ⟨hj, by omega, rfl⟩
    · exact ⟨hk, Nat.le_refl _, rfl⟩
  · rintro ⟨hn, hnk, rfl⟩
    by_cases heq : n = k
    · exact .inr ⟨heq, heq ▸ rfl⟩
    · exact .inl ⟨n, List.mem_range'_1.2 ⟨hn, by omega⟩, called_mem_lap.2 ⟨rfl, rfl⟩⟩

/-! ## When the run is cancelled -/

section

variable {k n : Nat} (hlaps : ∀ m, 1 ≤ m → m < k → ∃ f, t.Continues clock op cancelled m f)
include hlaps

/-- Nobody has cancelled by the end of a wait that another attempt follows. -/
theorem not_cancelledBy (hn : 1 ≤ n) (hnk : n < k) :
    ¬ CancelledBy op cancelled n (t.ready clock op n) := by
  rintro (⟨c, hc, hle⟩ | ⟨m, hm, hmn, hcancels⟩)
  · obtain ⟨f, hf⟩ := hlaps n hn hnk
    have := hf.later c hc
    omega
  · obtain ⟨f, hf⟩ := hlaps m hm (by omega)
    simp [hf.calm] at hcancels

end

/-- A failure that another attempt is to follow is told when its attempt is over. -/
theorem retry_mem_lap {n : Nat} {f : Failure} (h : t.answer clock op n = .error f) :
    (t.ready clock op (n - 1) + (op n).takes,
      .emitted (t.event clock n (.retry (t.policy.delay n f) f))) ∈ t.lap clock op n := by
  simp [lap_error h, emit, finish]

/-- A run is aborted just if its last attempt was to be followed by another one. -/
theorem Closes.outcome_aborted_iff {k n : Nat} {channel : String} {r : Run α} (hk : 1 ≤ k)
    (h : t.Closes clock op cancelled k r) :
    r.outcome = .aborted channel n ↔ channel = t.channel ∧ n = k ∧ ∃ f,
      t.answer clock op k = .error f ∧ t.Retries k f ∧
        CancelledBy op cancelled k (t.ready clock op k) := by
  cases h with
  | success value hanswer => simp [succeed, hanswer]
  | failure f hanswer hfinal => simp [giveUp, hanswer, hfinal]
  | abort f moment hanswer hretries hcancelled =>
    have hby : CancelledBy op cancelled k (t.ready clock op k) := by
      rcases hcancelled with hcancels | hearly
      · exact .inr ⟨k, hk, Nat.le_refl _, hcancels⟩
      · exact .inl hearly
    simp [hanswer, hretries, hby, eq_comm]

/-- A run that is aborted tells of its last attempt that another one is to follow. -/
theorem Closes.told_of_retries {k : Nat} {f : Failure} {r : Run α}
    (h : t.Closes clock op cancelled k r) (hle : k ≤ t.policy.attemptLimit)
    (hanswer : t.answer clock op k = .error f) (hretries : t.Retries k f) :
    r.told = [(.retry, k)] ∧ r.captures = [] := by
  cases h with
  | success value hvalue =>
    rw [hvalue] at hanswer
    cases hanswer
  | failure g hg hfinal =>
    rw [hg] at hanswer
    cases hanswer
    exact (hfinal hretries).elim
  | abort g moment hg _ _ =>
    obtain ⟨_, hevents, hfailures⟩ := lap_views hg
    refine ⟨?_, by rw [Run.captures_after, hfailures]; rfl⟩
    rw [Run.told, Run.events_after, hevents, List.map_append, List.map_singleton, event_attempt hle]
    rfl

variable (clock) in
/-- Whenever a run is cancelled, its first attempt begins at once, and each attempt that has begun is
completed and counts: it ends the run with its value or its final failure, or its failure is told as
one that another attempt follows.
The run is aborted after the attempt of which the failure was to be followed by another attempt and
the run is cancelled by the end of the wait. Apart from the first one, no attempt begins when the run
is cancelled already. An aborted run has told of its attempts only that they would be followed by
others, and nothing is captured. -/
theorem run_cancellable (ps : Policies) (channel : String) (p : Policy) (scope : Dict Json)
    (started : Nat) (emitter : Event → Delivery) (op : Operation α) (cancelled : Option Nat) :
    let t : Task := { ps.task channel p scope started with emitter }
    let r := t.run clock op cancelled
    (started, .called 1) ∈ r.effects ∧
    (∀ m n, (m, .called n) ∈ r.effects → match t.answer clock op n with
      | .ok value => r.outcome = .success value ∧ r.ended = m + (op n).takes
      | .error f =>
        if t.Retries n f then
          (m + (op n).takes, .emitted (t.event clock n (.retry (t.policy.delay n f) f))) ∈ r.effects
        else r.outcome = .failure f ∧ r.ended = m + (op n).takes) ∧
    (∀ c k, r.outcome = .aborted c k ↔ c = channel ∧ ∃ m f, (m, .called k) ∈ r.effects ∧
      t.answer clock op k = .error f ∧ t.Retries k f ∧
      CancelledBy op cancelled k ((t.policy.delay k f).endFrom (m + (op k).takes))) ∧
    (∀ m n, (m, .called n) ∈ r.effects → 1 < n → ¬ CancelledBy op cancelled (n - 1) m) ∧
    ∀ c k, r.outcome = .aborted c k → r.calls = List.range' 1 k ∧
      r.told = (List.range' 1 k).map (Kind.retry, ·) ∧ r.captures = [] := by
  intro t r
  obtain ⟨k, last, hk, hle, hcloses, hlaps, hrun⟩ := t.run_course clock op cancelled
  have hcalled (m n : Nat) : (m, .called n) ∈ r.effects ↔
      1 ≤ n ∧ n ≤ k ∧ m = t.ready clock op (n - 1) := run_called_mem hk hcloses hrun
  have houtcome : r.outcome = last.outcome := (congrArg Run.outcome hrun).trans rfl
  have hended : r.ended = last.ended := (congrArg Run.ended hrun).trans rfl
  have hlast : last.effects ⊆ r.effects := fun e he => by
    rw [show r = _ from hrun, Run.effects_after]
    exact List.mem_append_right _ he
  have haborted (c : String) (n : Nat) : r.outcome = .aborted c n ↔ c = channel ∧ n = k ∧ ∃ f,
      t.answer clock op k = .error f ∧ t.Retries k f ∧
        CancelledBy op cancelled k (t.ready clock op k) :=
    houtcome ▸ hcloses.outcome_aborted_iff hk
  refine ⟨(hcalled started 1).2 ⟨Nat.le_refl _, hk, rfl⟩, fun m n hmem => ?_,
    fun c n => ⟨fun h => ?_, ?_⟩, fun m n hmem hn => ?_, fun c n h => ?_⟩
  · obtain ⟨hn, hnk, rfl⟩ := (hcalled m n).1 hmem
    by_cases heq : n = k
    · subst heq
      cases hcloses with
      | success value hanswer =>
        rw [hanswer]
        exact ⟨houtcome, hended⟩
      | failure f hanswer hfinal =>
        rw [hanswer]
        dsimp only
        rw [if_neg hfinal]
        exact ⟨houtcome, hended⟩
      | abort f moment hanswer hretries _ =>
        rw [hanswer]
        dsimp only
        rw [if_pos hretries]
        exact hlast (List.mem_append_left _ (retry_mem_lap hanswer))
    · obtain ⟨f, hf⟩ := hlaps n hn (by omega)
      rw [hf.answer]
      dsimp only
      rw [if_pos hf.retries, show r = _ from hrun, Run.effects_after]
      refine List.mem_append_left _ (List.mem_flatMap.2 ⟨n, ?_, retry_mem_lap hf.answer⟩)
      exact List.mem_range'_1.2 ⟨hn, by omega⟩
  · obtain ⟨hc, rfl, f, hanswer, hretries, hby⟩ := (haborted c n).1 h
    refine ⟨hc, _, f, (hcalled _ n).2 ⟨hk, Nat.le_refl _, rfl⟩, hanswer, hretries, ?_⟩
    rwa [ready_error hk hanswer] at hby
  · rintro ⟨hc, m, f, hmem, hanswer, hretries, hby⟩
    obtain ⟨hn, hnk, rfl⟩ := (hcalled m n).1 hmem
    rw [show (t.policy.delay n f).endFrom (t.ready clock op (n - 1) + (op n).takes) =
      t.ready clock op n from (ready_error hn hanswer).symm] at hby
    by_cases heq : n = k
    · subst heq
      exact (haborted c n).2 ⟨hc, rfl, f, hanswer, hretries, hby⟩
    · exact (not_cancelledBy hlaps hn (by omega) hby).elim
  · obtain ⟨_, hnk, rfl⟩ := (hcalled m n).1 hmem
    exact not_cancelledBy hlaps (by omega) (by omega)
  · obtain ⟨_, rfl, f, hanswer, hretries, _⟩ := (haborted c n).1 h
    obtain ⟨htold, hcaptures⟩ := hcloses.told_of_retries hle hanswer hretries
    have htold : r.told = (List.range' 1 (n - 1)).map (Kind.retry, ·) ++ [(.retry, n)] :=
      htold ▸ run_told hle hlaps hrun
    refine ⟨run_calls hk hcloses hlaps hrun, ?_, (run_captures hlaps hrun).trans hcaptures⟩
    rw [htold, range'_one_eq hk, List.map_append]
    rfl

end Task

end Resilience
