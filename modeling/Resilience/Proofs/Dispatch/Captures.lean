import Resilience.Dispatch.Timeline

/-!
# Captures that are waited for

If nothing else runs, a capture that is waited for remembers the failure, calls the matching
handlers, hands one report to the reporter, once or several times, and leaves a breadcrumb; nothing
else of the registry changes (`Dispatcher.perform_spec`). What is kept from one step of the capture
to the next is `Capture.Underway`.
-/

namespace Resilience

/-! ## Calls -/

/-- How the calls of handlers end in all, with so many calls made before, whether or not some of
them wait. -/
def DispatchSummary.tally (f : Failure) :
    (calls : Nat) → List Handler → DispatchSummary → DispatchSummary
  | _, [], s => s
  | calls, h :: rest, s => tally f (calls + 1) rest (s.count (h.behaves calls f).ending)

namespace HandlerCalls

variable {f : Failure} {calls : Nat} {hs rest : List Handler} {s : DispatchSummary}
  {wait : Span} {ending : HandlerEnding}

theorem make_finished (h : (make f calls hs s).pause = none) :
    (make f calls hs s).summary = s.tally f calls hs ∧
      (make f calls hs s).notices.length = hs.length := by
  induction hs generalizing calls s with
  | nil => exact ⟨rfl, rfl⟩
  | cons head tail ih =>
    rw [make] at h ⊢
    cases hwait : (head.behaves calls f).wait with
    | none =>
      simp only [hwait] at h ⊢
      obtain ⟨hsummary, hlength⟩ := ih h
      exact ⟨hsummary, congrArg (· + 1) hlength⟩
    | some wait => simp [hwait] at h

/-- Calls that wait are not over: the one that waits is counted when it ends. -/
theorem make_paused (h : (make f calls hs s).pause = some (wait, ending, rest)) :
    ((make f calls hs s).summary.count ending).tally f (calls + (make f calls hs s).notices.length)
        rest = s.tally f calls hs ∧
      (make f calls hs s).notices.length + rest.length = hs.length := by
  induction hs generalizing calls s with
  | nil => simp [make] at h
  | cons head tail ih =>
    rw [make] at h ⊢
    cases hwait : (head.behaves calls f).wait with
    | none =>
      simp only [hwait] at h ⊢
      obtain ⟨hsummary, hlength⟩ := ih h
      simp only [after, List.length_cons, DispatchSummary.tally]
      refine ⟨?_, by omega⟩
      rw [← hsummary]
      congr 1
      omega
    | some wait =>
      simp only [hwait, Option.some.injEq, Prod.mk.injEq] at h ⊢
      obtain ⟨rfl, rfl, rfl⟩ := h
      exact ⟨rfl, Nat.add_comm ..⟩

theorem not_reported_mem_make (report : Report) (reply : Reply) :
    .reported report reply ∉ (make f calls hs s).notices := by
  induction hs generalizing calls s with
  | nil => simp [make]
  | cons head tail ih =>
    rw [make]
    cases (head.behaves calls f).wait with
    | none => simpa [after] using ih
    | some wait => simp

end HandlerCalls

theorem ReporterCalls.make_replies_ne_nil (settings : Reporting) (reply : Nat → Reply)
    (calls attempt left : Nat) : (make settings reply calls attempt left).replies ≠ [] := by
  cases left with
  | zero => simp [make]
  | succ left =>
    rw [make]
    split
    · simp
    · split <;> simp [after]

/-! ## Steps -/

namespace Capture

variable {clock : Timestamp} {r now : Registry} {f : Failure} {c : Capture} {hs : List Handler}
  {seen : List Notice}

/-- A capture of `f` that began with registry `r`, with registry `now` and handlers `hs` still to be
called. What of the registry changes in the meantime are counts. -/
structure Underway (r : Registry) (f : Failure) (now : Registry) (c : Capture) (hs : List Handler) :
    Prop where
  failure : c.failure = f
  whole : c.whole = true
  registry : now =
    { r.remember f with handlerCalls := now.handlerCalls, calls := now.calls }
  summary : c.summary.tally f now.handlerCalls hs =
    DispatchSummary.tally f r.handlerCalls (Handler.matching r.handlers f.name) {}
  count : now.handlerCalls + hs.length =
    r.handlerCalls + (Handler.matching r.handlers f.name).length

/-- Where a capture waits. -/
inductive Stage.Underway (clock : Timestamp) (r : Registry) (f : Failure) (now : Registry)
    (c : Capture) : Stage → Prop where
  | handling {ending : HandlerEnding} {rest : List Handler} :
      Capture.Underway r f now { c with summary := c.summary.count ending } rest →
      Underway clock r f now c (.handling ending rest)
  | reporting {attempt left : Nat} : Capture.Underway r f now c [] →
      Underway clock r f now c (.reporting (r.report clock f) attempt left)

/-- What a capture comes to. -/
structure Result (clock : Timestamp) (r : Registry) (f : Failure) (after : Registry)
    (summary : DispatchSummary) (seen : List Notice) : Prop where
  registry : after =
    { (r.remember f).addBreadcrumb (Registry.trace clock f) with
      handlerCalls := r.handlerCalls + (Handler.matching r.handlers f.name).length
      calls := after.calls }
  summary : summary = DispatchSummary.tally f r.handlerCalls (Handler.matching r.handlers f.name) {}
  reported : r.reporter.isSome → ∃ reply, .reported (r.report clock f) reply ∈ seen

/-- The step is one of a capture of `f` that began with registry `r`. All reports that are seen are
alike. -/
structure Step.Sound (clock : Timestamp) (r : Registry) (f : Failure) (seen : List Notice) (s : Step) :
    Prop where
  reports : ∀ report reply, .reported report reply ∈ seen → report = r.report clock f
  progress : match s.progress with
    | .finished summary => Result clock r f s.registry summary seen
    | .paused _ c stage => stage.Underway clock r f s.registry c

theorem Underway.report_eq (h : Underway r f now c hs) : now.report clock f = r.report clock f := by
  rw [h.registry]
  rfl

theorem Underway.finish (h : Underway r f now c [])
    (hreported : r.reporter.isSome → ∃ reply, .reported (r.report clock f) reply ∈ seen)
    (notices : List Notice) :
    Result clock r f (c.finish clock now notices).registry c.summary seen := by
  have hcount : now.handlerCalls = _ := h.count
  refine ⟨?_, h.summary, hreported⟩
  rw [Capture.finish, if_pos h.whole, h.failure, h.registry, ← hcount]
  rfl

theorem Underway.withCalls (h : Underway r f now c hs) (calls : Nat) :
    Underway r f { now with calls := calls } c hs :=
  { h with registry := congrArg (fun m : Registry => { m with calls := calls }) h.registry }

/-- Some handlers are called. -/
theorem Underway.called (h : Underway r f now c hs) {k : Nat} {summary : DispatchSummary}
    {rest : List Handler}
    (hsummary : summary.tally f (now.handlerCalls + k) rest = c.summary.tally f now.handlerCalls hs)
    (hlength : k + rest.length = hs.length) :
    Underway r f { now with handlerCalls := now.handlerCalls + k } { c with summary := summary }
      rest where
  failure := h.failure
  whole := h.whole
  registry := congrArg
    (fun m : Registry => { m with handlerCalls := now.handlerCalls + k }) h.registry
  summary := hsummary.trans h.summary
  count := by
    have := h.count
    dsimp only
    omega

/-- An attempt to report is made if there is a reporter. -/
theorem Underway.report (h : Underway r f now c []) {notices : List Notice} {attempt left : Nat}
    (hreports : ∀ report reply, .reported report reply ∈ seen ++ notices → report = r.report clock f) :
    (c.report clock now notices (r.report clock f) attempt left).Sound clock r f
      (seen ++ (c.report clock now notices (r.report clock f) attempt left).notices) := by
  have hreporter : now.reporter = r.reporter := by
    rw [h.registry]
    rfl
  rw [Capture.report]
  split
  · next hnone =>
    refine ⟨hreports, h.finish (fun hsome => ?_) notices⟩
    rw [← hreporter, hnone] at hsome
    cases hsome
  · next reply hsome =>
    dsimp only
    have hreplies := ReporterCalls.make_replies_ne_nil now.settings reply now.calls attempt left
    generalize ReporterCalls.make now.settings reply now.calls attempt left = calls at hreplies ⊢
    obtain ⟨answer, hanswer⟩ := List.exists_mem_of_ne_nil calls.replies hreplies
    have hcalls := h.withCalls (now.calls + calls.replies.length)
    have hall : ∀ report reply, .reported report reply ∈
        seen ++ (notices ++ calls.replies.map (.reported (r.report clock f))) →
          report = r.report clock f := by
      intro report reply hmem
      rw [← List.append_assoc, List.mem_append] at hmem
      rcases hmem with hmem | hmem
      · exact hreports report reply hmem
      · obtain ⟨answer, _, heq⟩ := List.mem_map.1 hmem
        cases heq
        rfl
    split
    · exact ⟨hall, .reporting hcalls⟩
    · refine ⟨hall, hcalls.finish (fun _ => ⟨answer, ?_⟩) _⟩
      exact List.mem_append_right _ (List.mem_append_right _ (List.mem_map_of_mem hanswer))

theorem Underway.handle (h : Underway r f now c hs)
    (hreports : ∀ report reply, .reported report reply ∈ seen → report = r.report clock f) :
    (c.handle clock now hs).Sound clock r f (seen ++ (c.handle clock now hs).notices) := by
  rw [Capture.handle]
  dsimp only
  have hcalls : ∀ report reply, .reported report reply ∈
      seen ++ (HandlerCalls.make c.failure now.handlerCalls hs c.summary).notices →
        report = r.report clock f := by
    intro report reply hmem
    rcases List.mem_append.1 hmem with hmem | hmem
    · exact hreports report reply hmem
    · exact absurd hmem (HandlerCalls.not_reported_mem_make report reply)
  have hf := h.failure
  subst hf
  split
  · next wait ending rest hpause =>
    obtain ⟨hsummary, hlength⟩ := HandlerCalls.make_paused hpause
    exact ⟨hcalls, .handling (h.called hsummary hlength)⟩
  · next hpause =>
    obtain ⟨hsummary, hlength⟩ := HandlerCalls.make_finished hpause
    have hdone : Underway r c.failure _ _ [] := h.called hsummary hlength
    rw [if_pos h.whole, hdone.report_eq]
    exact hdone.report hcalls

theorem start_sound (clock : Timestamp) (r : Registry) (f : Failure) :
    (start clock r { failure := f }).Sound clock r f (start clock r { failure := f }).notices := by
  have h : Underway r f (r.remember f) { failure := f } (Handler.matching r.handlers f.name) :=
    ⟨rfl, rfl, rfl, rfl, rfl⟩
  have hnothing : ∀ report reply, Notice.reported report reply ∈ [] → report = r.report clock f := by
    simp
  exact h.handle hnothing

theorem resume_sound {stage : Stage} (h : stage.Underway clock r f now c)
    (hreports : ∀ report reply, .reported report reply ∈ seen → report = r.report clock f) :
    (c.resume clock now stage).Sound clock r f (seen ++ (c.resume clock now stage).notices) := by
  cases h with
  | handling h => exact h.handle hreports
  | reporting h => exact h.report (by simpa using hreports)

end Capture

/-! ## Captures -/

namespace Dispatcher

variable {clock : Timestamp} {d : Dispatcher} {r : Registry} {f : Failure}

/-- Time passes without anything in the background. -/
theorem advanceBefore_of_background_nil (h : d.background = []) (now target : Nat) :
    d.advanceBefore clock now target = d := by
  have hsettle : d.settle clock now = d := by
    obtain ⟨registry, background, notices⟩ := d
    cases h
    rfl
  have hwake : d.nextWake? = none := by
    rw [nextWake?, h]
    rfl
  rw [advanceBefore]
  split
  · rfl
  · rw [advance, hsettle, hwake]

/-- What a capture that is waited for leaves behind. -/
structure Captured (clock : Timestamp) (r : Registry) (f : Failure) (before : List Notice)
    (d : Dispatcher) (summary : DispatchSummary) : Prop where
  background : d.background = []
  notices : ∃ seen, d.notices = before ++ seen ∧
    (∀ report reply, .reported report reply ∈ seen → report = r.report clock f) ∧
    Capture.Result clock r f d.registry summary seen

theorem complete_spec {now : Nat} {s : Capture.Step} {before seen : List Notice}
    (hbackground : d.background = []) (hseen : d.notices ++ s.notices = before ++ seen)
    (h : s.Sound clock r f seen) :
    Captured clock r f before (d.complete clock now s).1 (d.complete clock now s).2.2 := by
  fun_induction complete clock d now s generalizing seen with
  | case1 d now s summary hfinished =>
    have hresult := h.progress
    rw [hfinished] at hresult
    exact ⟨hbackground, seen, hseen, h.reports, hresult⟩
  | case2 d now s wait c stage hpaused waited =>
    rename_i ih
    have hunderway := h.progress
    rw [hpaused] at hunderway
    have hwaited : waited = d.absorb s := advanceBefore_of_background_nil (d := d.absorb s) hbackground ..
    rw [hwaited] at ih ⊢
    refine ih hbackground ?_ (Capture.resume_sound hunderway h.reports)
    rw [← List.append_assoc, ← hseen]
    rfl

theorem perform_spec (hbackground : d.background = []) (now : Nat) :
    Captured clock d.registry f d.notices (d.perform clock now { failure := f }).1
      (d.perform clock now { failure := f }).2.2 :=
  complete_spec hbackground rfl (Capture.start_sound clock d.registry f)

end Dispatcher

end Resilience
