import Resilience.Failure.Shapes
import Resilience.Proofs.Retry.Cancellation
import Resilience.Proofs.Retry.Ending

/-!
# Failures that cannot be recovered from

Whether a failure can be recovered from decides nothing but the wait. `Task.run_unrecoverable` says
when a run ends with an unrecoverable failure, and when the operation is attempted again.
-/

namespace Resilience

/-! ## The wait -/

theorem Failure.retryDelay_of_unrecoverable {f : Failure} (h : f.recoverable = false) :
    f.retryDelay = none := by
  simp [retryDelay, h]

theorem Policy.delay_of_unrecoverable {p : Policy} {n : Nat} {f : Failure}
    (h : f.recoverable = false) : p.delay n f = p.backoff n := by
  rw [delay, Failure.retryDelay_of_unrecoverable h]

theorem Policies.limit_backoff (ps : Policies) (channel : String) (p : Policy) (n : Nat) :
    (ps.limit channel p).backoff n = p.backoff n := by
  by_cases h : ps.isBlacklisted channel <;> simp [limit, h, Policy.backoff]

open Telemetry (Event)

namespace Task

variable {α : Type} {clock : Timestamp} {t : Task} {op : Operation α} {cancelled : Option Nat}

/-! ## What follows on a failed attempt -/

theorem mem_calls {n : Nat} : n ∈ (t.run clock op cancelled).calls ↔
    ∃ m, (m, .called n) ∈ (t.run clock op cancelled).effects := by
  rw [Run.calls, List.mem_filterMap]
  constructor
  · rintro ⟨⟨m, e⟩, hmem, he⟩
    cases e <;> simp only [Effect.attempt?, reduceCtorEq, Option.some.injEq] at he
    exact ⟨m, he ▸ hmem⟩
  · rintro ⟨m, hmem⟩
    exact ⟨_, hmem, rfl⟩

/-- A last attempt that failed ends the run with its failure, unless the run is aborted in the wait
for the next one. -/
theorem Closes.of_failed {k : Nat} {f : Failure} {r : Run α} (hk : 1 ≤ k)
    (h : t.Closes clock op cancelled k r) (hanswer : t.answer clock op k = .error f) :
    (t.Retries k f ∧ CancelledBy op cancelled k (t.ready clock op k) ∧
      r.outcome = .aborted t.channel k) ∨
    ¬ t.Retries k f ∧ r.outcome = .failure f := by
  cases h with
  | success value hvalue => simp [hvalue] at hanswer
  | failure g hg hfinal =>
    obtain rfl : g = f := by simpa [hg] using hanswer
    exact .inr ⟨hfinal, rfl⟩
  | abort g moment hg hretries hcancelled =>
    obtain rfl : g = f := by simpa [hg] using hanswer
    refine .inl ⟨hretries, ?_, rfl⟩
    rcases hcancelled with hcancels | hearly
    · exact .inr ⟨k, hk, Nat.le_refl _, hcancels⟩
    · exact .inl hearly

/-- A failure that no attempt is to follow ends the run. -/
theorem run_final {m n : Nat} {f : Failure}
    (hcalled : (m, .called n) ∈ (t.run clock op cancelled).effects)
    (hanswer : t.answer clock op n = .error f) (hfinal : ¬ t.Retries n f) :
    (∀ i ∈ (t.run clock op cancelled).calls, i ≤ n) ∧
      (t.run clock op cancelled).outcome = .failure f := by
  obtain ⟨k, last, hk, _, hcloses, hlaps, hrun⟩ := t.run_course clock op cancelled
  obtain ⟨hn, hnk, _⟩ := (run_called_mem hk hcloses hrun).1 hcalled
  obtain rfl : n = k := by
    by_contra hne
    obtain ⟨g, hg⟩ := hlaps n hn (by omega)
    obtain rfl : g = f := by simpa [hg.answer] using hanswer
    exact hfinal hg.retries
  refine ⟨fun i hi => ?_, ?_⟩
  · obtain ⟨_, hcall⟩ := mem_calls.1 hi
    exact ((run_called_mem hk hcloses hrun).1 hcall).2.1
  · rw [hrun, Run.outcome_after]
    obtain ⟨hretries, _, _⟩ | ⟨_, houtcome⟩ := hcloses.of_failed hk hanswer
    · exact (hfinal hretries).elim
    · exact houtcome

/-- After a failure that another attempt is to follow, the run is aborted if it is cancelled by the
end of the wait, and otherwise the next attempt begins then. -/
theorem run_retried {m n : Nat} {f : Failure}
    (hcalled : (m, .called n) ∈ (t.run clock op cancelled).effects)
    (hanswer : t.answer clock op n = .error f) (hretries : t.Retries n f) :
    let wake := (t.policy.delay n f).endFrom (m + (op n).takes)
    (CancelledBy op cancelled n wake → (t.run clock op cancelled).outcome = .aborted t.channel n) ∧
      (¬ CancelledBy op cancelled n wake →
        (wake, .called (n + 1)) ∈ (t.run clock op cancelled).effects) := by
  intro wake
  obtain ⟨k, last, hk, _, hcloses, hlaps, hrun⟩ := t.run_course clock op cancelled
  obtain ⟨hn, hnk, hm⟩ := (run_called_mem hk hcloses hrun).1 hcalled
  have hwake : wake = t.ready clock op n := by
    rw [ready_error hn hanswer, finish, ← hm]
  have hend (heq : n = k) : CancelledBy op cancelled n wake ∧
      (t.run clock op cancelled).outcome = .aborted t.channel n := by
    subst heq
    obtain ⟨_, hby, houtcome⟩ | ⟨hfinal, _⟩ := hcloses.of_failed hk hanswer
    · exact ⟨hwake ▸ hby, by rw [hrun, Run.outcome_after, houtcome]⟩
    · exact (hfinal hretries).elim
  by_cases heq : n = k
  · exact ⟨fun _ => (hend heq).2, fun hcalm => (hcalm (hend heq).1).elim⟩
  · have hcalm : ¬ CancelledBy op cancelled n wake :=
      hwake ▸ not_cancelledBy hlaps hn (by omega)
    exact ⟨fun hby => (hcalm hby).elim,
      fun _ => (run_called_mem hk hcloses hrun).2 ⟨by omega, by omega, hwake⟩⟩

/-! ## Unrecoverable failures -/

variable (clock) in
/-- A run that is given an unrecoverable failure by an attempt stops there with that failure just if
the limit is reached or the policy does not list the failure. Otherwise it goes on like after any
failure that asks for no wait of its own: it waits as long as the policy says, and unless it is
cancelled by then, it attempts the operation again. -/
theorem run_unrecoverable (ps : Policies) (channel : String) (p : Policy) (scope : Dict Json)
    (started : Nat) (emitter : Event → Delivery) (op : Operation α) (cancelled : Option Nat) :
    let limit := if ps.isBlacklisted channel then 1 else max 1 p.maxAttempts.toNat
    let t : Task := { ps.task channel p scope started with emitter }
    let r := t.run clock op cancelled
    ∀ m n f, (m, .called n) ∈ r.effects → t.answer clock op n = .error f →
      f.recoverable = false →
      (((∀ i ∈ r.calls, i ≤ n) ∧ r.outcome = .failure f) ↔ n = limit ∨ p.allows f = false) ∧
      (n ≠ limit → p.allows f = true →
        let wake := (p.backoff n).endFrom (m + (op n).takes)
        (CancelledBy op cancelled n wake → r.outcome = .aborted channel n) ∧
        (¬ CancelledBy op cancelled n wake → (wake, .called (n + 1)) ∈ r.effects)) := by
  intro limit t r m n f hcalled hanswer hf
  have hlimit : t.policy.attemptLimit = limit := ps.limit_attemptLimit channel p
  have hallows : t.policy.allows f = p.allows f := ps.limit_allows channel p f
  have hdelay : t.policy.delay n f = p.backoff n :=
    (Policy.delay_of_unrecoverable hf).trans (ps.limit_backoff channel p n)
  have hle : n ≤ limit := by
    obtain ⟨k, last, hk, hkl, hcloses, _, hrun⟩ := t.run_course clock op cancelled
    obtain ⟨_, hnk, _⟩ := (run_called_mem hk hcloses hrun).1 hcalled
    omega
  have hretries : t.Retries n f ↔ ¬ (n = limit ∨ p.allows f = false) := by
    rw [Retries, hlimit, hallows, not_or, Bool.not_eq_false]
    exact and_congr_left' ⟨fun h => by omega, fun h => by omega⟩
  have hgoes (h : t.Retries n f) := run_retried hcalled hanswer h
  rw [hdelay] at hgoes
  refine ⟨⟨fun ⟨hcalls, houtcome⟩ => ?_, fun h => ?_⟩,
    fun hn hworth => hgoes (hretries.2 (by simp [hn, hworth]))⟩
  rotate_left
  · exact run_final hcalled hanswer fun hgo => hretries.1 hgo h
  by_contra hends
  obtain ⟨haborts, hnext⟩ := hgoes (hretries.2 hends)
  by_cases hby : CancelledBy op cancelled n ((p.backoff n).endFrom (m + (op n).takes))
  · have habort := haborts hby
    rw [show r.outcome = .failure f from houtcome] at habort
    cases habort
  · have hagain := hcalls (n + 1) (mem_calls.2 ⟨_, hnext hby⟩)
    omega

/-- The first attempt gives up half-way and leaves behind what it has done. -/
def publishing : Operation Json := fun n =>
  { result := if n = 1 then
      .error (.failure (Failure.ofSteps default "upload failed" "publish-website" false []))
    else .ok (.str "published") }

/-- Publishing on a channel for which nothing is set. -/
def publication : Task := Policies.task {} "publish-website" {} ∅ 0

theorem publishing_calls : (publication.run default publishing none).calls = [1, 2] := rfl

theorem publishing_unrecoverable : ∃ f,
    publication.answer default publishing 1 = .error f ∧ f.recoverable = false := ⟨_, rfl, rfl⟩

/-- Half of the website is published when the second attempt begins, a second later. -/
theorem run_unrecoverable_publishing :
    (0, .called 1) ∈ (publication.run default publishing none).effects ∧
    (∃ f, publication.answer default publishing 1 = .error f ∧ f.recoverable = false) ∧
    (1000, .called 2) ∈ (publication.run default publishing none).effects := by
  obtain ⟨f, hanswer, hf⟩ := publishing_unrecoverable
  have hcalled : (0, .called 1) ∈ (publication.run default publishing none).effects := .head _
  refine ⟨hcalled, ⟨f, hanswer, hf⟩, ?_⟩
  obtain ⟨_, hgoes⟩ := run_unrecoverable default {} "publish-website" {} ∅ 0 (fun _ => .taken)
    publishing none 0 1 f hcalled hanswer hf
  obtain ⟨_, hnext⟩ := hgoes (by decide) rfl
  refine hnext ?_
  rintro (⟨_, hnone, _⟩ | ⟨m, hm, hmn, hcancels⟩)
  · cases hnone
  · cases hcancels

/-- An unrecoverable failure does not always end its run. -/
theorem unrecoverable_attempted_again :
    ¬ ∀ n f, n ∈ (publication.run default publishing none).calls →
      publication.answer default publishing n = .error f → f.recoverable = false →
        (∀ i ∈ (publication.run default publishing none).calls, i ≤ n) ∧
          (publication.run default publishing none).outcome = .failure f := by
  intro hclaim
  obtain ⟨f, hanswer, hf⟩ := publishing_unrecoverable
  have hone : 1 ∈ (publication.run default publishing none).calls := by simp [publishing_calls]
  have htwo : 2 ∈ (publication.run default publishing none).calls := by simp [publishing_calls]
  have hle : 2 ≤ 1 := (hclaim 1 f hone hanswer hf).1 2 htwo
  omega

end Task

end Resilience
