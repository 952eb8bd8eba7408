import Resilience.Dispatch.Registry

/-!
Captures: a failure is remembered, handled and reported, and leaves a breadcrumb. A capture goes on
until it has to wait; what is left of it then is its stage. Every wait makes the work that is left
smaller, so a capture ends. The date is read once for a capture: the time of its report is that of its
breadcrumb too, however long it has waited in between.
-/

namespace Resilience

/-- What others see of a capture. -/
inductive Notice where
  | handled (label code : String)
  | reported (report : Report) (reply : Reply)

/-! ## Calls -/

/-- Calls of handlers, one after the other, up to one that waits. -/
structure HandlerCalls where
  summary : DispatchSummary
  /-- There is one for each call. -/
  notices : List Notice := []
  /-- The wait, how the call ends after it, and the handlers that come then. -/
  pause : Option (Span × HandlerEnding × List Handler) := none

def HandlerCalls.after (notice : Notice) (c : HandlerCalls) : HandlerCalls :=
  { c with notices := notice :: c.notices }

/-- Calls handlers, with so many calls made before. -/
def HandlerCalls.make (f : Failure) : (calls : Nat) → List Handler → DispatchSummary → HandlerCalls
  | _, [], s => { summary := s }
  | calls, h :: rest, s =>
    let called := Notice.handled h.label f.code
    let behavior := h.behaves calls f
    match behavior.wait with
    | none => (make f (calls + 1) rest (s.count behavior.ending)).after called
    | some wait =>
      { summary := s, notices := [called], pause := some (wait, behavior.ending, rest) }

theorem HandlerCalls.length_lt_of_pause {f : Failure} {calls : Nat} {hs rest : List Handler}
    {s : DispatchSummary} {wait : Span} {ending : HandlerEnding}
    (h : (make f calls hs s).pause = some (wait, ending, rest)) : rest.length < hs.length := by
  induction hs generalizing calls s with
  | nil => simp [make] at h
  | cons head tail ih =>
    rw [make] at h
    split at h
    · exact Nat.lt_succ_of_lt (ih h)
    · simp at h
      simp [h.2.2]

/-- Calls of the reporter, up to one that succeeds, or a wait, or the last one. -/
structure ReporterCalls where
  /-- What it answered. -/
  replies : List Reply
  /-- The wait, the attempt after it, and how many attempts there can be after that. -/
  pause : Option (Span × Nat × Nat) := none

def ReporterCalls.after (reply : Reply) (c : ReporterCalls) : ReporterCalls :=
  { c with replies := reply :: c.replies }

/-- Makes an attempt, after which so many are left. `calls` calls have been made before it. -/
def ReporterCalls.make (settings : Reporting) (reply : Nat → Reply) (calls attempt : Nat) :
    (left : Nat) → ReporterCalls
  | 0 => { replies := [reply calls] }
  | left + 1 =>
    if reply calls = .ok then { replies := [.ok] }
    else if settings.delayAfter attempt = Span.zero then
      (make settings reply (calls + 1) (attempt + 1) left).after (reply calls)
    else
      { replies := [reply calls]
        pause := some (settings.delayAfter attempt, attempt + 1, left) }

theorem ReporterCalls.lt_of_pause {settings : Reporting} {reply : Nat → Reply}
    {calls attempt left next after : Nat} {wait : Span}
    (h : (make settings reply calls attempt left).pause = some (wait, next, after)) :
    after < left := by
  induction left generalizing calls attempt with
  | zero => simp [make] at h
  | succ left ih =>
    rw [make] at h
    split at h
    · simp at h
    · split at h
      · exact Nat.lt_succ_of_lt (ih h)
      · simp at h; omega

/-! ## Captures -/

structure Capture where
  failure : Failure
  /-- Whether the failure is reported and leaves a breadcrumb, and is not just handled. -/
  whole : Bool := true
  summary : DispatchSummary := {}

namespace Capture

/-- Where a capture goes on after a wait. -/
inductive Stage where
  /-- A handler ends, and others come after it. -/
  | handling (ending : HandlerEnding) (rest : List Handler)
  /-- An attempt to report is made, with so many more after it. -/
  | reporting (report : Report) (attempt left : Nat)

/-- How far a capture has come. -/
inductive Progress where
  | finished (summary : DispatchSummary)
  | paused (wait : Span) (capture : Capture) (stage : Stage)

structure Step where
  registry : Registry
  notices : List Notice
  progress : Progress

/-- Leaves the breadcrumb. -/
def finish (now : Timestamp) (r : Registry) (c : Capture) (notices : List Notice) : Step where
  registry := if c.whole then r.addBreadcrumb (Registry.trace now c.failure) else r
  notices := notices
  progress := .finished c.summary

/-- Goes on with an attempt to report. -/
def report (now : Timestamp) (r : Registry) (c : Capture) (notices : List Notice)
    (report : Report) (attempt left : Nat) : Step :=
  match r.reporter with
  | none => c.finish now r notices
  | some reply =>
    let calls := ReporterCalls.make r.settings reply r.calls attempt left
    let r := { r with calls := r.calls + calls.replies.length }
    let notices := notices ++ calls.replies.map (.reported report)
    match calls.pause with
    | some (wait, attempt, left) => ⟨r, notices, .paused wait c (.reporting report attempt left)⟩
    | none => c.finish now r notices

/-- Goes on with handlers. -/
def handle (now : Timestamp) (r : Registry) (c : Capture) (handlers : List Handler) : Step :=
  let calls := HandlerCalls.make c.failure r.handlerCalls handlers c.summary
  let r := { r with handlerCalls := r.handlerCalls + calls.notices.length }
  let c := { c with summary := calls.summary }
  match calls.pause with
  | some (wait, ending, rest) => ⟨r, calls.notices, .paused wait c (.handling ending rest)⟩
  | none =>
    if c.whole then
      c.report now r calls.notices (r.report now c.failure) 1 (r.settings.attemptLimit - 1)
    else c.finish now r calls.notices

/-- Begins to handle a failure, or to capture it. -/
def start (now : Timestamp) (r : Registry) (c : Capture) : Step :=
  c.handle now (if c.whole then r.remember c.failure else r)
    (Handler.matching r.handlers c.failure.name)

/-- Goes on after a wait. -/
def resume (now : Timestamp) (r : Registry) (c : Capture) : Stage → Step
  | .handling ending rest => { c with summary := c.summary.count ending }.handle now r rest
  | .reporting report attempt left => c.report now r [] report attempt left

/-- How many waits can still come, this one included. -/
def Stage.work (settings : Reporting) : Stage → Nat
  | .handling _ rest => rest.length + settings.attemptLimit + 1
  | .reporting _ _ left => left + 1

theorem finish_settings {now : Timestamp} {r : Registry} {c : Capture} {notices : List Notice} :
    (c.finish now r notices).registry.settings = r.settings := by
  unfold finish; dsimp only; split <;> rfl

theorem report_settings {now : Timestamp} {r : Registry} {c : Capture} {notices : List Notice}
    {rep : Report} {attempt left : Nat} :
    (c.report now r notices rep attempt left).registry.settings = r.settings := by
  unfold report; dsimp only
  split
  · exact finish_settings
  · split
    · rfl
    · exact finish_settings

theorem handle_settings {now : Timestamp} {r : Registry} {c : Capture} {handlers : List Handler} :
    (c.handle now r handlers).registry.settings = r.settings := by
  unfold handle; dsimp only
  split
  · rfl
  · split
    · exact report_settings
    · exact finish_settings

theorem resume_settings {now : Timestamp} {r : Registry} {c : Capture} {stage : Stage} :
    (c.resume now r stage).registry.settings = r.settings := by
  cases stage
  · exact handle_settings
  · exact report_settings

theorem report_work {now : Timestamp} {r : Registry} {c d : Capture} {notices : List Notice}
    {rep : Report} {attempt left : Nat} {wait : Span} {stage : Stage}
    (h : (c.report now r notices rep attempt left).progress = .paused wait d stage) :
    stage.work r.settings ≤ left := by
  unfold report at h; dsimp only at h
  split at h
  · cases h
  · split at h
    · next hp => cases h; exact ReporterCalls.lt_of_pause hp
    · cases h

theorem handle_work {now : Timestamp} {r : Registry} {c d : Capture} {handlers : List Handler}
    {wait : Span} {stage : Stage} (h : (c.handle now r handlers).progress = .paused wait d stage) :
    stage.work r.settings < handlers.length + r.settings.attemptLimit + 1 := by
  unfold handle at h; dsimp only at h
  split at h
  · next hp =>
    cases h
    have := HandlerCalls.length_lt_of_pause hp
    simp only [Stage.work]; omega
  · split at h
    · have hleft := report_work h
      dsimp only at hleft
      omega
    · cases h

/-- How many waits can still come after a step. -/
def Step.work (s : Step) : Nat :=
  match s.progress with
  | .finished _ => 0
  | .paused _ _ stage => stage.work s.registry.settings

theorem Step.work_eq {s : Step} {wait : Span} {c : Capture} {stage : Stage}
    (h : s.progress = .paused wait c stage) : s.work = stage.work s.registry.settings := by
  simp [work, h]

/-- A wait leaves less work. -/
theorem resume_work {now : Timestamp} {r : Registry} {c : Capture} {stage : Stage} :
    (c.resume now r stage).work < stage.work r.settings := by
  unfold Step.work
  rw [resume_settings]
  split
  · cases stage <;> exact Nat.succ_pos _
  · next h =>
    cases stage with
    | handling ending rest => exact handle_work h
    | reporting rep attempt left => exact Nat.lt_succ_of_le (report_work h)

end Capture

end Resilience
