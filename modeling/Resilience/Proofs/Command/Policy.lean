import Resilience.Command.Run
import Resilience.Proofs.Retry.Policies

/-!
# The policy that is shown

The command that shows the policy of a channel names as many attempts as a run on the channel makes
if every one of them fails in a way that deserves another (`Task.calls_of_failing`), whatever the
settings say about the channel (`Command.policy_shown`).
-/

namespace Resilience

/-- A run of which every attempt fails, in a way that deserves another one, uses its limit up. -/
theorem Task.calls_of_failing {α : Type} (clock : Timestamp) (t : Task) (takes : Nat → Nat)
    (raws : Nat → Raw) (h : ∀ n, t.policy.allows (t.classify clock n (raws n)) = true) :
    (t.run clock (α := α) (fun n => { takes := takes n, result := .error (raws n) }) none).calls =
      List.range' 1 t.policy.attemptLimit := by
  let op : Operation α := fun n => { takes := takes n, result := .error (raws n) }
  obtain ⟨k, r, hk, hle, hcloses, hlaps, hrun⟩ := t.run_course clock op none
  have hanswer : t.answer clock op k = .error (t.classify clock k (raws k)) := answer_error rfl
  have hlast : k = t.policy.attemptLimit := by
    cases hcloses with
    | success value hsuccess => rw [hsuccess] at hanswer; cases hanswer
    | failure f hfailure hfinal =>
      rw [hfailure] at hanswer
      cases hanswer
      by_contra hne
      exact hfinal ⟨by omega, h k⟩
    | abort f moment _ _ hcancelled => simp [op] at hcancelled
  rw [← hlast]
  exact run_calls hk hcloses hlaps hrun

namespace Command

open Policies

/-- However policies are edited, a channel has the policy that the defaults and the last override
for it make, but one attempt if it was ever forbidden; the forbidden channels are listed in order;
and nothing of this depends on what is edited for other channels. With the policies that settings
make, a configured channel has its own override, a known one the override that it is known for, and
any other one the defaults. The attempts that the command shows are those of a run that fails again
and again. -/
theorem policy_shown :
    (∀ (defaults : Policy) (known : Bool) (edits : List Edit) (channel : String),
      let ps := (initial defaults known).editAll edits
      let own := (initial defaults known).editAll (edits.filter (·.channel = channel))
      let o := lastOverride edits channel known
      ps.resolve channel =
        { maxAttempts := o.maxAttempts.getD defaults.maxAttempts
          baseDelay := o.baseDelay.getD defaults.baseDelay
          maxDelay := o.maxDelay.getD defaults.maxDelay
          codes := o.codes.getD defaults.codes } ∧
      (ps.isBlacklisted channel = true ↔ Forbidden edits channel known) ∧
      (Forbidden edits channel known →
        ps.effective channel = { ps.resolve channel with maxAttempts := 1 }) ∧
      (¬ Forbidden edits channel known → ps.effective channel = ps.resolve channel) ∧
      ps.blacklist.toList.Pairwise (· < ·) ∧
      (channel ∈ ps.blacklist.toList ↔ Forbidden edits channel known) ∧
      own.resolve channel = ps.resolve channel ∧
      own.effective channel = ps.effective channel ∧
      own.isBlacklisted channel = ps.isBlacklisted channel) ∧
    (∀ (s : RetrySettings) (channel : String),
      s.policies.resolve channel =
        (match s.channels.get? channel with
          | some c => c.override
          | none => if s.builtin then (knownOverride? channel).getD {} else {}).apply s.defaults ∧
      (s.policies.isBlacklisted channel = true ↔
        channel ∈ s.blacklist ∨ s.builtin = true ∧ channel ∈ onceChannels)) ∧
    ∀ (α : Type) (clock : Timestamp) (w : World) (settings : Settings) (color : Bool)
      (channel : String) (scope : Dict Json) (started : Nat)
      (emitter : Telemetry.Event → Delivery) (takes : Nat → Nat) (raws : Nat → Raw),
      let ps := settings.retry.policies
      let t : Task := { ps.task channel (ps.resolve channel) scope started with emitter }
      let op : Operation α := fun n => { takes := takes n, result := .error (raws n) }
      (∀ n, t.policy.allows (t.classify clock n (raws n)) = true) →
        ∃ report : Json,
          (Request.run w settings color (.policy channel)).out = report.pretty ++ "\n" ∧
          report.get? "channel" = some (.str channel) ∧
          report.get? "maxAttempts" = some (.nat (t.run clock op none).calls.length) := by
  refine ⟨fun defaults known edits channel => ?_, fun s channel => ?_, ?_⟩
  · have hresolve := resolve_editAll edits channel defaults known
    have hblacklisted := isBlacklisted_editAll_iff edits channel defaults known
    have hown := own_editAll edits channel defaults known
    refine ⟨hresolve, hblacklisted, fun hforbidden => ?_, fun hallowed => ?_, Dict.pairwise_keys _,
      Dict.mem_keys_iff.trans hblacklisted, hown⟩
    · exact if_pos (hblacklisted.2 hforbidden)
    · exact if_neg fun h => hallowed (hblacklisted.1 h)
  · exact ⟨s.resolve_policies channel, s.isBlacklisted_policies channel⟩
  · intro α clock w settings color channel scope started emitter takes raws ps t op hallows
    refine ⟨_, rfl, rfl, ?_⟩
    rw [t.calls_of_failing clock takes raws hallows, List.length_range']
    rfl

end Command

end Resilience
