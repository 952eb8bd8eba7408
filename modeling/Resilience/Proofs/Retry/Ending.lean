import Mathlib.Order.Bounds.Defs
import Resilience.Proofs.Retry.Course

/-!
# Where a run ends

The attempts that are made, the events that are told, the failure that is captured and the outcome
all agree on the attempt at which a run ends. `Task.run_uncancelled` says which one this is if
nobody cancels, and `Task.run_cancellable` what a cancellation changes. Which failures deserve another
attempt is said by `Policy.allows_iff`.
-/

namespace Resilience

open Telemetry (Event Kind)

/-! ## The policy of a channel -/

/-- A failure is worth another attempt just if no codes are listed, or if the code of a failure along
its chain is, from itself on. -/
theorem Policy.allows_iff {p : Policy} {f : Failure} :
    p.allows f ↔ p.codes.keys = [] ∨ ∃ g ∈ f.chain, g.code ∈ p.codes.keys := by
  rw [allows, Bool.or_eq_true, Dict.isEmpty, List.isEmpty_iff, List.any_eq_true]
  simp only [Dict.keys, List.map_eq_nil_iff, ← Dict.mem_keys_iff]

namespace Policies

variable (ps : Policies) (channel : String) (p : Policy)

theorem limit_attemptLimit : (ps.limit channel p).attemptLimit =
    if ps.isBlacklisted channel then 1 else max 1 p.maxAttempts.toNat := by
  by_cases h : ps.isBlacklisted channel <;> simp [limit, h, Policy.attemptLimit]

theorem limit_codes : (ps.limit channel p).codes = p.codes := by
  rw [limit]
  split <;> rfl

theorem limit_allows (f : Failure) : (ps.limit channel p).allows f = p.allows f := by
  rw [Bool.eq_iff_iff, Policy.allows_iff, Policy.allows_iff, limit_codes]

end Policies

namespace Task

variable {α : Type} (clock : Timestamp)

/-- Without cancellation, a run ends at the first attempt that succeeds, or fails in a way that
deserves no other attempt, or is the last one that the limit leaves. The limit is one on a
blacklisted channel, and at least one on any other. Whatever the emitter does, each attempt up to
that one is made once, each but the last is told as a retry, and the last one decides. -/
theorem run_uncancelled (ps : Policies) (channel : String) (p : Policy) (scope : Dict Json)
    (started : Nat) (emitter : Event → Delivery) (takes : Nat → Nat)
    (result : Nat → Except Raw α) :
    let limit := if ps.isBlacklisted channel then 1 else max 1 p.maxAttempts.toNat
    let t : Task := { ps.task channel p scope started with emitter }
    let r := t.run clock (fun n => { takes := takes n, result := result n }) none
    ∃ k, IsLeast {n | 1 ≤ n ∧ (n = limit ∨ match result n with
          | .ok _ => True
          | .error raw => p.allows (t.classify clock n raw) = false)} k ∧
      r.calls = List.range' 1 k ∧
      (match result k with
        | .ok value => r.outcome = .success value ∧ r.captures = [] ∧
            r.told = (List.range' 1 (k - 1)).map (Kind.retry, ·) ++
              if k = 1 then [] else [(.success, k)]
        | .error raw => r.outcome = .failure (t.classify clock k raw) ∧
            r.captures = [t.classify clock k raw] ∧
            r.told = (List.range' 1 (k - 1)).map (Kind.retry, ·) ++ [(.failure, k)]) ∧
      ∀ e ∈ r.events, e.channel = channel ∧ e.total.toNat = limit ∧
        ∀ f, e.what.error? = some f → ∃ raw, result e.attempt.toNat = .error raw ∧
          f = t.classify clock e.attempt.toNat raw := by
  intro limit t r
  let op : Operation α := fun n => { takes := takes n, result := result n }
  have hlimit : t.policy.attemptLimit = limit := ps.limit_attemptLimit channel p
  have hallows (f : Failure) : t.policy.allows f = p.allows f := ps.limit_allows channel p f
  obtain ⟨k, last, hk, hle, hcloses, hlaps, hrun⟩ := t.run_course clock op none
  have hbefore : ∀ n, 1 ≤ n → n < k → n ≠ limit ∧ ∃ raw, result n = .error raw ∧
      p.allows (t.classify clock n raw) = true := by
    intro n hn hnk
    obtain ⟨f, hf⟩ := hlaps n hn hnk
    obtain ⟨raw, hraw, rfl⟩ := result_of_answer_error hf.answer
    refine ⟨by omega, raw, hraw, ?_⟩
    rw [← hallows]
    exact hf.retries.2
  have hleast : ∀ n, 1 ≤ n ∧ (n = limit ∨ match result n with
      | .ok _ => True
      | .error raw => p.allows (t.classify clock n raw) = false) → k ≤ n := by
    rintro n ⟨hn, hends⟩
    by_contra hnk
    obtain ⟨hne, raw, hraw, hworth⟩ := hbefore n hn (by omega)
    rcases hends with heq | hends
    · exact hne heq
    · simp [hraw, hworth] at hends
  have hevents : ∀ e ∈ r.events, e.channel = channel ∧ e.total.toNat = limit ∧
      ∀ f, e.what.error? = some f → ∃ raw, result e.attempt.toNat = .error raw ∧
        f = t.classify clock e.attempt.toNat raw := by
    intro e he
    obtain ⟨n, what, hn, hnl, htells, rfl⟩ := mem_events he
    refine ⟨rfl, by rw [event_total, hlimit], fun f hf => ?_⟩
    rw [event_attempt hnl]
    cases htells with
    | retry g hanswer _ | failure g hanswer _ =>
      cases hf
      exact result_of_answer_error hanswer
    | success value _ => cases hf
  refine ⟨k, ⟨⟨hk, ?_⟩, hleast⟩, run_calls hk hcloses hlaps hrun, ?_, hevents⟩
  · cases hcloses with
    | success value hanswer =>
      have hresult : result k = .ok value := result_of_answer_ok hanswer
      simp [hresult]
    | failure f hanswer hfinal =>
      obtain ⟨raw, hraw, rfl⟩ : ∃ raw, result k = .error raw ∧ f = t.classify clock k raw :=
        result_of_answer_error hanswer
      rw [hraw]
      by_cases heq : k = limit
      · exact .inl heq
      · right
        by_contra hworth
        exact hfinal ⟨by omega, by simpa [hallows] using hworth⟩
    | abort f moment _ _ hcancelled => simp [op] at hcancelled
  · have houtcome : r.outcome = last.outcome := (congrArg Run.outcome hrun).trans rfl
    have hcaptures : r.captures = last.captures := run_captures hlaps hrun
    have htold : r.told = _ := run_told hle hlaps hrun
    rw [houtcome, hcaptures, htold]
    cases hcloses with
    | success value hanswer =>
      have hresult : result k = .ok value := result_of_answer_ok hanswer
      rw [hresult]
      refine ⟨rfl, by simp, ?_⟩
      by_cases hone : k = 1
      · simp [hone, Run.told]
      · have hlt : 1 < k := by omega
        simp [hone, hlt, Run.told, event_attempt hle]
        rfl
    | failure f hanswer hfinal =>
      obtain ⟨raw, hraw, rfl⟩ : ∃ raw, result k = .error raw ∧ f = t.classify clock k raw :=
        result_of_answer_error hanswer
      rw [hraw]
      refine ⟨rfl, by simp, ?_⟩
      simp [Run.told, event_attempt hle]
      rfl
    | abort f moment _ _ hcancelled => simp [op] at hcancelled

end Task

end Resilience
