import Resilience.Dispatch.Registry
import Resilience.Proofs.Dispatch.Context

/-!
# Wrapping under a context

Wrapping makes a failure of whatever an operation failed with and adds the context that the failure
does not have itself (`Failure.get?_context_within`). A failure that was wrapped is not wrapped a
second time: under the same stack it stays as it is, and under other stacks only keys are added that
were missing (`Registry.wrap_adds_missing`).
-/

namespace Resilience

namespace Failure

variable {f : Failure} {scope : Dict Json} {key : String}

/-- A value that the failure has itself wins. -/
theorem get?_context_within :
    (f.within scope).context.get? key = (f.context.get? key).or (scope.get? key) := by
  have hmerge : (f.within scope).context =
      f.context.merge (scope.filter fun key _ => !f.context.contains key) := rfl
  rw [hmerge, Dict.get?_merge, Dict.get?_filter, Dict.contains]
  cases f.context.get? key with
  | none => cases scope.get? key <;> rfl
  | some value => cases scope.get? key <;> rfl

theorem with_context_eq_self {context : Dict Json} (h : context = f.context) :
    { f with context } = f := by
  cases f
  rw [h]

theorem within_eq_self (h : ∀ key, (f.context.get? key).or (scope.get? key) = f.context.get? key) :
    f.within scope = f :=
  with_context_eq_self (Dict.ext_get? fun key => get?_context_within.trans (h key))

end Failure

namespace Registry

/-- The value of a key in the innermost frame that has it. -/
def innermost? (frames : List Frame) (key : String) : Option Json :=
  frames.reverse.findSome? (·.values.get? key)

theorem get?_context (r : Registry) (key : String) :
    r.context.get? key = innermost? r.frames key := by
  have hmerged : r.context = Frame.merged r.frames := rfl
  rw [hmerged]
  induction r.frames using List.reverseRecOn with
  | nil => rfl
  | append_singleton frames frame ih =>
    rw [Frame.get?_merged_concat, ih, innermost?, innermost?, List.reverse_append,
      List.reverse_singleton, List.singleton_append, List.findSome?_cons]
    cases frame.values.get? key <;> rfl

/-- A failure wrapped again under one stack after the other. -/
def rewrap (f : Failure) (scopes : List (Timestamp × Registry)) : Failure :=
  scopes.foldl (fun f scope => scope.2.wrap scope.1 (.failure f)) f

theorem rewrap_eq (f : Failure) (scopes : List (Timestamp × Registry)) :
    rewrap f scopes = { f with context := (rewrap f scopes).context } ∧
      ∀ key, (rewrap f scopes).context.get? key =
        (f.context.get? key).or (scopes.findSome? fun scope => scope.2.context.get? key) := by
  induction scopes generalizing f with
  | nil => exact ⟨(Failure.with_context_eq_self rfl).symm, fun key => (Option.or_none ..).symm⟩
  | cons scope scopes ih =>
    obtain ⟨hfields, hcontext⟩ := ih (f.within scope.2.context)
    refine ⟨hfields, fun key => (hcontext key).trans ?_⟩
    rw [Failure.get?_context_within, Option.or_assoc, List.findSome?_cons]
    cases scope.2.context.get? key <;> rfl

/-- Whatever an operation failed with, wrapping changes nothing but the context of the failure that is
made of it. A key has the value that the failure has itself, or else the one of the innermost frame that
has the key. Wrapped again under the same stack, the failure stays as it is; wrapped again under any
other stacks, it gets the keys that it does not have yet, from the first stack that has them, and
nothing else is changed. -/
theorem wrap_adds_missing (now later : Timestamp) (r : Registry) (raw : Raw) :
    let plain := raw.toFailure now
    let wrapped := r.wrap now raw
    wrapped = { plain with context := wrapped.context } ∧
    (∀ key, wrapped.context.get? key = (plain.context.get? key).or (r.context.get? key)) ∧
    (∀ key, r.context.get? key = innermost? r.frames key) ∧
    r.wrap later (.failure wrapped) = wrapped ∧
    ∀ scopes, let again := rewrap wrapped scopes
      again = { wrapped with context := again.context } ∧
      ∀ key, again.context.get? key = (wrapped.context.get? key).or
        (scopes.findSome? fun scope => scope.2.context.get? key) := by
  intro plain wrapped
  have hcontext (key : String) :
      wrapped.context.get? key = (plain.context.get? key).or (r.context.get? key) :=
    Failure.get?_context_within
  refine ⟨rfl, hcontext, get?_context r, ?_, rewrap_eq wrapped⟩
  have hagain : wrapped.within r.context = wrapped := Failure.within_eq_self fun key => by
    rw [hcontext, Option.or_assoc, Option.or_self]
  exact hagain

end Registry

end Resilience
