import Resilience.Dispatch.Capture
import Resilience.Time.Clock

/-!
A registry on a clock. Captures that run in the background go on whenever the clock stands and
somebody waits; the clock jumps from one end of a wait to the next.
-/

namespace Resilience

/-- A capture in the background. -/
inductive Pending where
  | fresh (f : Failure)
  | paused (c : Capture) (stage : Capture.Stage)

structure Dispatcher where
  registry : Registry
  /-- Captures and when they go on, oldest first. -/
  background : List (Nat × Pending) := []
  /-- What others have seen, oldest first. -/
  notices : List Notice := []

namespace Dispatcher

variable (clock : Timestamp)

/-- Captures a failure in the background. -/
def spawn (d : Dispatcher) (now : Nat) (f : Failure) : Dispatcher :=
  { d with background := d.background ++ [(now, .fresh f)] }

/-- Takes over what a capture did. -/
def absorb (d : Dispatcher) (s : Capture.Step) : Dispatcher :=
  { d with registry := s.registry, notices := d.notices ++ s.notices }

/-- A capture goes on. -/
def go (d : Dispatcher) (now : Nat) (p : Pending) : Dispatcher :=
  let step := match p with
    | .fresh f => Capture.start clock d.registry { failure := f }
    | .paused c stage => c.resume clock d.registry stage
  let d := d.absorb step
  match step.progress with
  | .finished _ => d
  | .paused wait c stage =>
    { d with background := d.background ++ [(wait.endFrom now, .paused c stage)] }

/-- All captures go on that do not wait any longer. -/
def settle (d : Dispatcher) (now : Nat) : Dispatcher :=
  d.background.foldl (fun d (wake, p) =>
    if wake ≤ now then d.go clock now p
    else { d with background := d.background ++ [(wake, p)] }) { d with background := [] }

/-- The end of the next wait. -/
def nextWake? (d : Dispatcher) : Option Nat := (d.background.map (·.1)).min?

def advance (d : Dispatcher) (now target : Nat) : Dispatcher :=
  let d := d.settle clock now
  match d.nextWake? with
  | some wake => if now < wake ∧ wake ≤ target then advance d wake target else d
  | none => d
termination_by target - now

/-- Lets time pass up to a moment at which somebody else is first. -/
def advanceBefore (d : Dispatcher) (now target : Nat) : Dispatcher :=
  if target ≤ now then d else d.advance clock now (target - 1)

theorem go_settings (d : Dispatcher) (now : Nat) (p : Pending) :
    (d.go clock now p).registry.settings = d.registry.settings := by
  cases p with
  | fresh f =>
    have h : (Capture.start clock d.registry { failure := f }).registry.settings =
        d.registry.settings := by
      rw [Capture.start, Capture.handle_settings]; rfl
    unfold go; dsimp only
    split <;> exact h
  | paused c stage =>
    have h : (c.resume clock d.registry stage).registry.settings = d.registry.settings :=
      Capture.resume_settings
    unfold go; dsimp only
    split <;> exact h

theorem settle_settings (d : Dispatcher) (now : Nat) :
    (d.settle clock now).registry.settings = d.registry.settings := by
  suffices h : ∀ (l : List (Nat × Pending)) (e : Dispatcher),
      (l.foldl (fun d (wake, p) =>
        if wake ≤ now then d.go clock now p
        else { d with background := d.background ++ [(wake, p)] }) e).registry.settings =
          e.registry.settings from h ..
  intro l
  induction l with
  | nil => intro e; rfl
  | cons head tail ih =>
    intro e
    rw [List.foldl_cons, ih]
    dsimp only
    split
    · exact go_settings ..
    · rfl

theorem advance_settings (d : Dispatcher) (now target : Nat) :
    (d.advance clock now target).registry.settings = d.registry.settings := by
  fun_induction advance clock d now target with
  | case1 d now e wake _ _ ih => rw [ih]; exact settle_settings ..
  | case2 d now => exact settle_settings ..
  | case3 d now => exact settle_settings ..

theorem advanceBefore_settings (d : Dispatcher) (now target : Nat) :
    (d.advanceBefore clock now target).registry.settings = d.registry.settings := by
  unfold advanceBefore
  split
  · rfl
  · exact advance_settings ..

/-- Waits until a capture ends of which a step was done now. Answers the moment of its end. -/
def complete (d : Dispatcher) (now : Nat) (s : Capture.Step) :
    Dispatcher × Nat × DispatchSummary :=
  match _ : s.progress with
  | .finished summary => (d.absorb s, now, summary)
  | .paused wait c stage =>
    let waited := (d.absorb s).advanceBefore clock now (wait.endFrom now)
    complete waited (wait.endFrom now) (c.resume clock waited.registry stage)
termination_by s.work
decreasing_by
  have less := @Capture.resume_work clock waited.registry c stage
  rw [advanceBefore_settings] at less
  rw [Capture.Step.work_eq ‹s.progress = _›]
  exact less

/-- Handles a failure, or captures it, and waits until that is done. -/
def perform (d : Dispatcher) (now : Nat) (c : Capture) : Dispatcher × Nat × DispatchSummary :=
  d.complete clock now (c.start clock d.registry)

/-! ## Without a clock -/

/-- Reports that were made in a step. -/
def reportCount (notices : List Notice) : Nat :=
  notices.countP fun
    | .reported .. => true
    | .handled .. => false

/-- Goes on where nobody can wait: a handler that would wait panics at once, and there is no second
attempt to report. Answers nothing if one would be made. -/
def completeAtOnce (d : Dispatcher) (s : Capture.Step) : Option (Dispatcher × DispatchSummary) :=
  if 1 < reportCount s.notices then none
  else
    match _ : s.progress with
    | .finished summary => some (d.absorb s, summary)
    | .paused _ c (.handling _ rest) =>
      completeAtOnce (d.absorb s) (c.resume clock s.registry (.handling .panics rest))
    | .paused _ _ (.reporting ..) => none
termination_by s.work
decreasing_by
  rw [Capture.Step.work_eq ‹s.progress = _›]
  exact Capture.resume_work

def performAtOnce (d : Dispatcher) (c : Capture) : Option (Dispatcher × DispatchSummary) :=
  d.completeAtOnce clock (c.start clock d.registry)

/-- Where nothing runs in the background, a failure is remembered and that is all. -/
def rememberOnly (d : Dispatcher) (f : Failure) : Dispatcher :=
  { d with registry := d.registry.remember f }

end Dispatcher

end Resilience
