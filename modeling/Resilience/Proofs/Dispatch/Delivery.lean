import Resilience.Dispatch.Delivery
import Resilience.Proofs.Dispatch.Captures

/-!
# The delivery of a report

A reporter is called until it takes the report, but no more often than it may be, with growing waits
in between (`Reporting.attempt_course`), and a capture that reports with nothing else going on does
just that (`Dispatcher.complete_report`). `Reporting.deliver_course` puts both together.
-/

namespace Resilience

/-! ## Deliveries -/

namespace Report.Delivery

def Act.notice? : Act → Option Notice
  | called report reply => some (.reported report reply)
  | waited _ => none

def Act.wait? : Act → Option Span
  | called .. => none
  | waited wait => some wait

/-- What others see of a delivery. -/
def notices (d : Delivery) : List Notice := d.acts.filterMap Act.notice?

def waits (d : Delivery) : List Span := d.acts.filterMap Act.wait?

/-- The moment at which a delivery is over that begins now. -/
def endFrom (d : Delivery) (now : Nat) : Nat := d.waits.foldl (fun now wait => wait.endFrom now) now

variable {d : Delivery} (report : Report) (reply : Reply) (wait : Span) (now : Nat)

theorem notices_after :
    (d.after [.called report reply, .waited wait]).notices = .reported report reply :: d.notices :=
  rfl

theorem waits_after : (d.after [.called report reply, .waited wait]).waits = wait :: d.waits := rfl

theorem endFrom_after :
    (d.after [.called report reply, .waited wait]).endFrom now = d.endFrom (wait.endFrom now) := by
  rw [endFrom, waits_after, List.foldl_cons, endFrom]

theorem endFrom_of_waits_nil (h : d.waits = []) : d.endFrom now = now := by
  rw [endFrom, h, List.foldl_nil]

theorem endFrom_zero : Span.zero.endFrom now = now := by
  simp [Span.endFrom, Span.millisUp, Span.zero]

end Report.Delivery

open Report.Delivery

namespace Reporting

variable {s : Reporting} {answer : Nat → Reply} {report : Report}

/-- An attempt that failed, and the wait after it. -/
def lap (s : Reporting) (answer : Nat → Reply) (report : Report) (n : Nat) : List Act :=
  [.called report (answer n), .waited (s.delayAfter n)]

/-- All attempts fail up to the last one, which is the first that succeeds or the last that may be
made. -/
theorem attempt_course (s : Reporting) (answer : Nat → Reply) (report : Report) (n left : Nat) :
    ∃ k, n ≤ k ∧ k ≤ n + left ∧ (∀ i, n ≤ i → i < k → answer i ≠ .ok) ∧
      (answer k = .ok ∨ k = n + left) ∧
      s.attempt answer report n left =
        ⟨(List.range' n (k - n)).flatMap (s.lap answer report) ++ [.called report (answer k)],
          answer k = .ok⟩ := by
  induction left generalizing n with
  | zero => exact ⟨n, by simp [attempt]; omega⟩
  | succ left ih =>
    by_cases hok : answer n = .ok
    · refine ⟨n, Nat.le_refl n, Nat.le_add_right .., by omega, .inl hok, ?_⟩
      simp [attempt, hok]
    · obtain ⟨k, hn, hle, hfailed, hends, heq⟩ := ih (n + 1)
      refine ⟨k, by omega, by omega, fun i hi hik => ?_, hends.imp_right (by omega), ?_⟩
      · rcases Nat.eq_or_lt_of_le hi with rfl | hlt
        · exact hok
        · exact hfailed i hlt hik
      · have hcount : k - n = k - (n + 1) + 1 := by omega
        rw [attempt, if_neg hok, heq, hcount, List.range'_succ, List.flatMap_cons, List.append_assoc]
        rfl

end Reporting

/-! ## Captures that report -/

namespace ReporterCalls

variable {s : Reporting} {reply answer : Nat → Reply} {calls n left next after : Nat} {wait : Span}

theorem answer_succ (h : ∀ i, answer (n + i) = reply (calls + i)) (i : Nat) :
    answer (n + 1 + i) = reply (calls + 1 + i) := by
  rw [Nat.add_assoc, Nat.add_assoc]
  exact h (1 + i)

/-- Calls without a pause are a whole delivery, which takes no time. -/
theorem attempt_of_finished (report : Report) (h : ∀ i, answer (n + i) = reply (calls + i))
    (hpause : (make s reply calls n left).pause = none) :
    (s.attempt answer report n left).notices =
        (make s reply calls n left).replies.map (.reported report) ∧
      ∀ now, (s.attempt answer report n left).endFrom now = now := by
  have hanswer : answer n = reply calls := h 0
  induction left generalizing calls n with
  | zero =>
    rw [Reporting.attempt, hanswer]
    exact ⟨rfl, fun now => endFrom_of_waits_nil now rfl⟩
  | succ left ih =>
    rw [make] at hpause ⊢
    rw [Reporting.attempt, hanswer]
    split at hpause
    · next hok =>
      rw [if_pos hok, if_pos hok]
      exact ⟨rfl, fun now => endFrom_of_waits_nil now rfl⟩
    · next hfailed =>
      rw [if_neg hfailed, if_neg hfailed]
      split at hpause
      · next hzero =>
        obtain ⟨hnotices, hends⟩ := ih (answer_succ h) hpause (answer_succ h 0)
        rw [if_pos hzero, notices_after, hnotices, hzero]
        refine ⟨rfl, fun now => ?_⟩
        rw [endFrom_after, endFrom_zero, hends]
      · cases hpause

/-- What comes after a pause is the rest of the delivery. -/
theorem attempt_of_paused (report : Report) (h : ∀ i, answer (n + i) = reply (calls + i))
    (hpause : (make s reply calls n left).pause = some (wait, next, after)) :
    next = n + (make s reply calls n left).replies.length ∧
      (s.attempt answer report n left).notices =
        (make s reply calls n left).replies.map (.reported report) ++
          (s.attempt answer report next after).notices ∧
      ∀ now, (s.attempt answer report n left).endFrom now =
        (s.attempt answer report next after).endFrom (wait.endFrom now) := by
  have hanswer : answer n = reply calls := h 0
  induction left generalizing calls n with
  | zero => simp [make] at hpause
  | succ left ih =>
    rw [make] at hpause ⊢
    rw [Reporting.attempt, hanswer]
    split at hpause
    · cases hpause
    · next hfailed =>
      rw [if_neg hfailed, if_neg hfailed]
      split at hpause
      · next hzero =>
        obtain ⟨hnext, hnotices, hends⟩ := ih (answer_succ h) hpause (answer_succ h 0)
        rw [if_pos hzero, notices_after, hnotices, hzero]
        refine ⟨?_, rfl, fun now => ?_⟩
        · rw [hnext]
          simp only [ReporterCalls.after, List.length_cons]
          omega
        · rw [endFrom_after, endFrom_zero, hends]
      · next hzero =>
        cases hpause
        rw [if_neg hzero, notices_after]
        refine ⟨rfl, rfl, fun now => ?_⟩
        rw [endFrom_after]

end ReporterCalls

namespace Capture

variable {clock : Timestamp} {r : Registry} {c : Capture} {reply : Nat → Reply} {report : Report}
  {n left next after : Nat} {wait : Span}

theorem report_of_finished (hreporter : r.reporter = some reply)
    (hpause : (ReporterCalls.make r.settings reply r.calls n left).pause = none) :
    let replies := (ReporterCalls.make r.settings reply r.calls n left).replies
    c.report clock r [] report n left =
      c.finish clock { r with calls := r.calls + replies.length }
        (replies.map (.reported report)) := by
  intro replies
  rw [Capture.report, hreporter]
  simp only [hpause, List.nil_append]
  rfl

theorem report_of_paused (hreporter : r.reporter = some reply)
    (hpause : (ReporterCalls.make r.settings reply r.calls n left).pause = some (wait, next, after)) :
    let replies := (ReporterCalls.make r.settings reply r.calls n left).replies
    c.report clock r [] report n left =
      ⟨{ r with calls := r.calls + replies.length }, replies.map (.reported report),
        .paused wait c (.reporting report next after)⟩ := by
  intro replies
  rw [Capture.report, hreporter]
  simp only [hpause, List.nil_append]
  rfl

end Capture

open Capture (report_of_finished report_of_paused)

namespace Dispatcher

variable {clock : Timestamp} {d : Dispatcher} {s : Capture.Step} {reply answer : Nat → Reply}
  {report : Report} {n left now : Nat}

theorem complete_of_finished {summary : DispatchSummary} (h : s.progress = .finished summary) :
    d.complete clock now s = (d.absorb s, now, summary) := by
  rw [complete]
  split
  · next hfinished => rw [h] at hfinished; cases hfinished; rfl
  · next hpaused => rw [h] at hpaused; cases hpaused

/-- If nothing else goes on, a capture goes on after a wait as it was left. -/
theorem complete_of_paused {wait : Span} {c : Capture} {stage : Capture.Stage}
    (hbackground : d.background = []) (h : s.progress = .paused wait c stage) :
    d.complete clock now s =
      (d.absorb s).complete clock (wait.endFrom now) (c.resume clock s.registry stage) := by
  have hwaited (target : Nat) : (d.absorb s).advanceBefore clock now target = d.absorb s :=
    advanceBefore_of_background_nil (d := d.absorb s) hbackground ..
  rw [complete]
  split
  · next hfinished => rw [h] at hfinished; cases hfinished
  · next hpaused =>
    rw [h] at hpaused
    cases hpaused
    simp only [hwaited]
    rfl

/-- A capture that reports while nothing else goes on makes the delivery, and is over with it. -/
theorem complete_report (hbackground : d.background = []) (hreporter : d.registry.reporter = some reply)
    (h : ∀ i, answer (n + i) = reply (d.registry.calls + i)) (c : Capture) :
    let ended := d.complete clock now (c.report clock d.registry [] report n left)
    let delivery := d.registry.settings.attempt answer report n left
    ended.1.notices = d.notices ++ delivery.notices ∧ ended.2.1 = delivery.endFrom now := by
  induction left using Nat.strongRecOn generalizing d n now with
  | ind left ih =>
    intro ended delivery
    cases hpause : (ReporterCalls.make d.registry.settings reply d.registry.calls n left).pause with
    | none =>
      obtain ⟨hnotices, hends⟩ := ReporterCalls.attempt_of_finished report h hpause
      have hended : ended = _ :=
        complete_of_finished (congrArg Capture.Step.progress (report_of_finished hreporter hpause))
      rw [hended, hnotices, hends, report_of_finished hreporter hpause]
      exact ⟨rfl, rfl⟩
    | some pause =>
      obtain ⟨wait, next, after⟩ := pause
      obtain ⟨hnext, hnotices, hends⟩ := ReporterCalls.attempt_of_paused report h hpause
      let replies := (ReporterCalls.make d.registry.settings reply d.registry.calls n left).replies
      let step : Capture.Step :=
        ⟨{ d.registry with calls := d.registry.calls + replies.length },
          replies.map (.reported report), .paused wait c (.reporting report next after)⟩
      have hstep : c.report clock d.registry [] report n left = step :=
        report_of_paused hreporter hpause
      have hpaused : step.progress = .paused wait c (.reporting report next after) := rfl
      have hended : ended = (d.absorb step).complete clock (wait.endFrom now)
          (c.report clock step.registry [] report next after) := by
        rw [show ended = d.complete clock now _ from rfl, hstep]
        exact complete_of_paused hbackground hpaused
      have hgoes (i : Nat) :
          answer (next + i) = reply ((d.absorb step).registry.calls + i) := by
        rw [hnext, Nat.add_assoc, show (d.absorb step).registry.calls = _ + _ from rfl, Nat.add_assoc]
        exact h _
      obtain ⟨hrest, hover⟩ := @ih after (ReporterCalls.lt_of_pause hpause) (d.absorb step) next
        (wait.endFrom now) hbackground hreporter hgoes
      rw [hended, hnotices, hends, ← List.append_assoc]
      exact ⟨hrest, hover⟩

end Dispatcher

namespace Reporting

theorem nanos_delayAfter (s : Reporting) (i : Nat) :
    (s.delayAfter i).nanos = min (i * s.retryDelay.nanos) Span.longest.nanos := by
  rw [delayAfter, Span.times, Span.nanos_min, Nat.mul_comm]

/-- Whatever a reporter answers: it is called with one and the same report until it takes it or has been
called as often as it may be, and at least once. After each call but the last one, the `i`th that is,
there is a wait of `i` units, but no longer than a length of time can be. The report is delivered just
if one of the calls that may be made succeeds. And a capture that reports while nothing else goes on
makes these calls, and is over when the delivery is. -/
theorem deliver_course (s : Reporting) (answer : Nat → Reply) (report : Report) :
    let limit := max 1 s.maxAttempts.toNat
    let delivery := s.deliver answer report
    (∃ k, 1 ≤ k ∧ k ≤ limit ∧ (∀ i, 1 ≤ i → i < k → answer i ≠ .ok) ∧ (answer k = .ok ∨ k = limit) ∧
      delivery.acts = (List.range' 1 (k - 1)).flatMap
        (fun i => [.called report (answer i), .waited (s.delayAfter i)]) ++
          [.called report (answer k)]) ∧
    (delivery.delivered = true ↔ ∃ i, 1 ≤ i ∧ i ≤ limit ∧ answer i = .ok) ∧
    (∀ i, (s.delayAfter i).nanos = min (i * s.retryDelay.nanos) Span.longest.nanos) ∧
    ∀ (clock : Timestamp) (d : Dispatcher) (c : Capture) (reply : Nat → Reply) (now : Nat),
      d.background = [] → d.registry.settings = s → d.registry.reporter = some reply →
      (∀ i, answer (1 + i) = reply (d.registry.calls + i)) →
      let ended := d.complete clock now (c.report clock d.registry [] report 1 (limit - 1))
      ended.1.notices = d.notices ++ delivery.notices ∧ ended.2.1 = delivery.endFrom now := by
  intro limit delivery
  obtain ⟨k, hk, hle, hfailed, hends, heq⟩ := s.attempt_course answer report 1 (limit - 1)
  have hlimit : 1 + (limit - 1) = limit := Nat.add_sub_cancel' (Nat.le_max_left ..)
  rw [hlimit] at hle hends
  have hdelivery : delivery = _ := heq
  refine ⟨⟨k, hk, hle, hfailed, hends, by rw [hdelivery]; rfl⟩, ?_, s.nanos_delayAfter, ?_⟩
  · rw [hdelivery, decide_eq_true_iff]
    constructor
    · exact fun hok => ⟨k, hk, hle, hok⟩
    · rintro ⟨i, hi, hile, hok⟩
      -- A call that succeeds is not before the last one, and none after it may be made.
      rcases hends with hlast | rfl
      · exact hlast
      · rcases Nat.eq_or_lt_of_le hile with rfl | hlt
        · exact hok
        · exact absurd hok (hfailed i hi hlt)
  · intro clock d c reply now hbackground hsettings hreporter hanswer
    subst hsettings
    exact d.complete_report hbackground hreporter hanswer c

end Reporting

end Resilience
