import Resilience.Proofs.Dispatch.Actions
import Resilience.Proofs.Dispatch.Ring

/-!
# What a registry remembers and reports

A registry remembers the failures captured last, and the breadcrumbs left last since they were
cleared. What it reports of a failure is what it knew before the failure left its own breadcrumb, and
the summary of a capture is the same whatever the reporter does (`Usage.run_history`).
-/

namespace Resilience

namespace Action

def failure? : Action → Option Failure
  | capture _ f => some f
  | _ => none

def clears : Action → Bool
  | clear => true
  | _ => false

end Action

namespace Usage

variable {d e : Usage} {a : Action}

/-! ## What is remembered -/

section

variable (settings : Reporting) (reporter : Option (Nat → Reply)) (actions : List Action)

end

/-! ## Reports -/

/-- The two differ at most in their reporters and in what these were told. -/
structure Alike (d e : Usage) : Prop where
  registry : e.registry =
    { d.registry with reporter := e.registry.reporter, calls := e.registry.calls }
  summaries : e.summaries = d.summaries

theorem Alike.act (h : Alike d e) (hd : d.dispatcher.background = [])
    (he : e.dispatcher.background = []) (a : Action) : Alike (d.act a) (e.act a) := by
  cases a with
  | capture clock f =>
    obtain ⟨summary, hsummary, _, hcaptured⟩ := act_capture hd clock f
    obtain ⟨summary', hsummary', _, hcaptured'⟩ := act_capture he clock f
    obtain ⟨_, _, _, hresult⟩ := hcaptured.notices
    obtain ⟨_, _, _, hresult'⟩ := hcaptured'.notices
    have hhandlers : e.registry.handlers = d.registry.handlers := congrArg (·.handlers) h.registry
    have hcalls : e.registry.handlerCalls = d.registry.handlerCalls :=
      congrArg (·.handlerCalls) h.registry
    constructor
    · obtain ⟨_, hregistry⟩ := registry_capture hd clock f
      obtain ⟨_, hregistry'⟩ := registry_capture he clock f
      rw [hregistry, hregistry', h.registry]
      rfl
    · rw [hsummary, hsummary', h.summaries, hresult.summary, hresult'.summary, hhandlers, hcalls]
  | breadcrumb b => exact ⟨congrArg (·.addBreadcrumb b) h.registry, h.summaries⟩
  | clear => exact ⟨congrArg (·.clearBreadcrumbs) h.registry, h.summaries⟩
  | push values => exact ⟨congrArg (fun r => (r.push values).1) h.registry, h.summaries⟩
  | scope values => exact ⟨congrArg (fun r => (r.scope values).1) h.registry, h.summaries⟩
  | pop id => exact ⟨congrArg (fun r => (r.pop id).1) h.registry, h.summaries⟩
  | drop g => exact ⟨congrArg (·.drop g) h.registry, h.summaries⟩
  | enroll key label behaves =>
    exact ⟨congrArg (fun r => (r.enroll key label behaves).1) h.registry, h.summaries⟩
  | unregister id => exact ⟨congrArg (fun r => (r.unregister id).1) h.registry, h.summaries⟩
  | unregisterKey key => exact ⟨congrArg (fun r => (r.unregisterKey key).1) h.registry, h.summaries⟩

end Usage

end Resilience
