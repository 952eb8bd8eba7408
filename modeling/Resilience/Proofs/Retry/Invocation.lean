import Resilience.Proofs.Friendly.Retries
import Resilience.Proofs.Retry.Ending
import Resilience.Retry.Invoke

/-!
# Invocations

An invocation makes the same call again and again, as often as the run attempts it, and answers what
the last call came to (`Invoker.invokeOver_course`). A user is told of retries in vain just if the
limit of the channel was used up, and then their number is that of the calls, less the first.
-/

namespace Resilience.Invoker

open Resilience.Task (retryCount_classify)

variable (clock : Timestamp) (i : Invoker) (transport : Transport) (channel : String)
  (args : List Json)

/-- The attempts of a run are calls that do not differ. -/
theorem map_call_range' (start k : Nat) : (List.range' start k).map (call channel args) =
    List.replicate k ⟨channel, args⟩ := by
  have hconst : call channel args = fun _ => ⟨channel, args⟩ := rfl
  rw [hconst, List.map_const', List.length_range']

theorem operation_eq (n : Nat) : i.operation transport channel args n =
    transport (i.carried ++ List.replicate (n - 1) ⟨channel, args⟩) ⟨channel, args⟩ := by
  rw [operation, map_call_range']
  rfl

theorem maxRetries_toNat :
    (i.maxRetries channel).toNat = (i.policies.effective channel).attemptLimit - 1 := by
  have hlt : (i.policies.effective channel).attemptLimit < UInt32.size :=
    (i.task channel ∅ 0).attemptLimit_lt
  rw [maxRetries, Nat.toUInt32_eq, UInt32.toNat_ofNat']
  exact Nat.mod_eq_of_lt (Nat.lt_of_le_of_lt (Nat.sub_le ..) hlt)

/-- Retries in vain are told of the last attempt that the limit allows, if it was not the first. -/
theorem claimsRetries_iff {f : Failure} {n m : Nat} (hn : 1 ≤ n)
    (hle : n ≤ (i.policies.effective channel).attemptLimit) (hcount : f.retryCount.toNat = n - 1) :
    (({} : Translator).translate f
        { channel := some channel
          retryCount := some f.retryCount
          maxRetries := some (i.maxRetries channel) }).ClaimsRetries m ↔
      ({} : Translator).classify f = "ETIMEDOUT" ∧ 1 ≤ m ∧
        m = (i.policies.effective channel).attemptLimit - 1 ∧ n = m + 1 := by
  have hmost := i.maxRetries_toNat channel
  rw [Translator.claimsRetries_translate_iff]
  simp only [Option.some.injEq, exists_eq_left', Option.getD_some, UInt32.le_iff_toNat_le, hmost,
    hcount]
  refine and_congr_right fun _ => and_congr_right fun hm => ?_
  omega

/-- An invocation makes the same call up to as many times as the limit of the channel allows, which
is once on a blacklisted channel. It succeeds just with the value of the last call. Otherwise it was
cancelled, or the failure of the last call is told; then the retries are counted as the calls after
the first. -/
theorem invokeOver_course (scope : Dict Json) (started : Nat) (cancelled : Option Nat) :
    let i : Invoker := { i with translator := {} }
    let (after, outcome, _) := i.invokeOver clock transport channel args scope started cancelled
    let limit := (i.policies.effective channel).attemptLimit
    ∃ n, 1 ≤ n ∧ n ≤ limit ∧ (i.policies.isBlacklisted channel = true → n = 1) ∧
      after.carried = i.carried ++ List.replicate n ⟨channel, args⟩ ∧
      let last := transport (i.carried ++ List.replicate (n - 1) ⟨channel, args⟩) ⟨channel, args⟩
      match outcome with
      | .success value => last.result = .ok value
      | .aborted => (∃ raw, last.result = .error raw) ∧ (last.cancels = true ∨ cancelled.isSome)
      | .failure told =>
        (∃ raw, last.result = .error raw ∧
          told.failure = (i.task channel scope started).classify clock n raw) ∧
        told.channel = some channel ∧ told.retryCount.toNat = n - 1 ∧
        ∀ m, told.ClaimsRetries m ↔
          i.translator.classify told.failure = "ETIMEDOUT" ∧ 1 ≤ m ∧ m = limit - 1 ∧ n = m + 1 := by
  intro i
  let t := i.task channel scope started
  let op := i.operation transport channel args
  obtain ⟨n, r, hn, hle, hcloses, hlaps, hrun⟩ := t.run_course clock op cancelled
  have hcalls : (t.run clock op cancelled).calls = List.range' 1 n :=
    Task.run_calls hn hcloses hlaps hrun
  have houtcome : (t.run clock op cancelled).outcome = r.outcome := by
    rw [hrun]
    rfl
  have hlast : op n =
      transport (i.carried ++ List.replicate (n - 1) ⟨channel, args⟩) ⟨channel, args⟩ :=
    i.operation_eq transport channel args n
  refine ⟨n, hn, hle, fun hblack => ?_, ?_, ?_⟩
  · have hlimit := i.policies.limit_attemptLimit channel (i.policies.resolve channel)
    rw [if_pos hblack] at hlimit
    exact Nat.le_antisymm (hlimit ▸ hle) hn
  · change i.carried ++ ((t.run clock op cancelled).calls).map (call channel args) = _
    rw [hcalls, map_call_range']
  · change match i.outcome channel (t.run clock op cancelled).outcome with
      | .success value => _
      | .aborted => _
      | .failure told => _
    rw [houtcome, ← hlast]
    cases hcloses with
    | success value hanswer => exact Task.result_of_answer_ok hanswer
    | abort f moment hanswer _ hcancelled =>
      obtain ⟨raw, hraw, _⟩ := Task.result_of_answer_error hanswer
      refine ⟨⟨raw, hraw⟩, hcancelled.imp_right ?_⟩
      rintro ⟨c, rfl, _⟩
      rfl
    | failure f hanswer _ =>
      obtain ⟨raw, hraw, rfl⟩ := Task.result_of_answer_error hanswer
      have hcount := retryCount_classify clock raw hle
      exact ⟨⟨raw, hraw, rfl⟩, rfl, hcount, fun m => i.claimsRetries_iff channel hn hle hcount⟩

end Resilience.Invoker
