import Mathlib.Data.List.Range
import Resilience.Retry.Run

/-!
# The course of a run

A run is made of laps and an end. A lap is an attempt after which the run goes on: it failed, there
is to be another attempt, and the wait is not broken off (`Task.Continues`). The last attempt ends
the run in one of three ways (`Task.Closes`). `Task.run_course` puts a run together from the laps
before its last attempt and the end that this one makes.
-/

namespace Resilience

open Telemetry (Event)

namespace Run

variable {α : Type} (effects : List (Nat × Effect)) (r : Run α)

@[simp] theorem outcome_after : (Run.after effects r).outcome = r.outcome := rfl

@[simp] theorem ended_after : (Run.after effects r).ended = r.ended := rfl

@[simp] theorem effects_after : (Run.after effects r).effects = effects ++ r.effects := rfl

@[simp] theorem calls_after :
    (Run.after effects r).calls = effects.filterMap (·.2.attempt?) ++ r.calls := by
  simp [calls]

@[simp] theorem events_after :
    (Run.after effects r).events = effects.filterMap (·.2.event?) ++ r.events := by
  simp [events]

@[simp] theorem captures_after :
    (Run.after effects r).captures = effects.filterMap (·.2.failure?) ++ r.captures := by
  simp [captures]

theorem after_after (first : List (Nat × Effect)) :
    Run.after first (Run.after effects r) = Run.after (first ++ effects) r := by
  simp [Run.after]

/-- The kinds of the events, and the attempts that they are about. -/
def told : List (Telemetry.Kind × Nat) := r.events.map fun e => (e.what.kind, e.attempt.toNat)

end Run

namespace Task

variable {α : Type} (clock : Timestamp) (t : Task) (op : Operation α) (cancelled : Option Nat)

/-- What an attempt comes to, a failure being classified. -/
def answer (n : Nat) : Except Failure α := (op n).result.mapError (t.classify clock n)

/-- Whether another attempt is to follow on one that came to the failure. -/
def Retries (n : Nat) (f : Failure) : Prop := n < t.policy.attemptLimit ∧ t.policy.allows f = true

instance (n : Nat) (f : Failure) : Decidable (t.Retries n f) := inferInstanceAs (Decidable (_ ∧ _))

/-- The wait after an attempt, of which there is none after a success. -/
def waitAfter (n : Nat) : Span :=
  match t.answer clock op n with
  | .ok _ => Span.zero
  | .error f => t.policy.delay n f

/-- The moment at which the wait after attempt `n` is over and the next attempt can begin. -/
def ready : Nat → Nat
  | 0 => t.started
  | n + 1 => (t.waitAfter clock op (n + 1)).endFrom (ready n + (op (n + 1)).takes)

/-- The moment at which attempt `n` is over. -/
def finish (n : Nat) : Nat := t.ready clock op (n - 1) + (op n).takes

/-- The call of attempt `n`. -/
def call (n : Nat) : Nat × Effect := (t.ready clock op (n - 1), .called n)

/-- The effects of an attempt that another one is to follow. -/
def lap (n : Nat) : List (Nat × Effect) :=
  t.call clock op n :: match t.answer clock op n with
    | .ok _ => []
    | .error f => t.emit (t.finish clock op n) (t.event clock n (.retry (t.policy.delay n f) f))

/-- Attempt `n` came to the failure, and the run goes on after it. -/
structure Continues (n : Nat) (f : Failure) : Prop where
  answer : t.answer clock op n = .error f
  retries : t.Retries n f
  calm : (op n).cancels = false
  later : ∀ c, cancelled = some c → t.ready clock op n < c

/-- The run from attempt `n` on, if this is the last one. -/
inductive Closes (n : Nat) : Run α → Prop where
  | success (value : α) : t.answer clock op n = .ok value →
      Closes n (.after [t.call clock op n] (t.succeed clock n (t.finish clock op n) value))
  | failure (f : Failure) : t.answer clock op n = .error f → ¬ t.Retries n f →
      Closes n (.after [t.call clock op n] (t.giveUp clock n (t.finish clock op n) f))
  | abort (f : Failure) (moment : Nat) : t.answer clock op n = .error f → t.Retries n f →
      ((op n).cancels = true ∨ ∃ c, cancelled = some c ∧ c ≤ t.ready clock op n) →
      Closes n (.after (t.lap clock op n) ⟨.aborted t.channel n, [], moment⟩)

/-- What an event of a run can be about. -/
inductive Tells (n : Nat) : Telemetry.What → Prop where
  | retry (f : Failure) : t.answer clock op n = .error f → t.Retries n f →
      Tells n (.retry (t.policy.delay n f) f)
  | success (value : α) : t.answer clock op n = .ok value →
      Tells n (.success (t.duration (t.finish clock op n)))
  | failure (f : Failure) : t.answer clock op n = .error f → ¬ t.Retries n f →
      Tells n (.failure f (t.duration (t.finish clock op n)))

variable {clock t op cancelled}

theorem answer_ok {n : Nat} {value : α} (h : (op n).result = .ok value) :
    t.answer clock op n = .ok value := by
  rw [answer, h, Except.mapError]

theorem answer_error {n : Nat} {raw : Raw} (h : (op n).result = .error raw) :
    t.answer clock op n = .error (t.classify clock n raw) := by
  rw [answer, h, Except.mapError]

theorem result_of_answer_ok {n : Nat} {value : α} (h : t.answer clock op n = .ok value) :
    (op n).result = .ok value := by
  cases hresult : (op n).result with
  | ok value' =>
    rw [answer_ok hresult] at h
    cases h
    rfl
  | error raw =>
    rw [answer_error hresult] at h
    cases h

theorem result_of_answer_error {n : Nat} {f : Failure} (h : t.answer clock op n = .error f) :
    ∃ raw, (op n).result = .error raw ∧ f = t.classify clock n raw := by
  cases hresult : (op n).result with
  | ok value =>
    rw [answer_ok hresult] at h
    cases h
  | error raw =>
    rw [answer_error hresult] at h
    cases h
    exact ⟨raw, rfl, rfl⟩

theorem lap_error {n : Nat} {f : Failure} (h : t.answer clock op n = .error f) :
    t.lap clock op n = t.call clock op n ::
      t.emit (t.finish clock op n) (t.event clock n (.retry (t.policy.delay n f) f)) := by
  simp [lap, h]

theorem ready_error {n : Nat} {f : Failure} (hn : 1 ≤ n) (h : t.answer clock op n = .error f) :
    t.ready clock op n = (t.policy.delay n f).endFrom (t.finish clock op n) := by
  cases n with
  | zero => omega
  | succ n => simp [ready, waitAfter, h, finish]

theorem finish_le_ready {n : Nat} {f : Failure} (hn : 1 ≤ n)
    (h : t.answer clock op n = .error f) : t.finish clock op n ≤ t.ready clock op n := by
  rw [ready_error hn h]
  exact Nat.le_add_right ..

/-! ## What is seen of the parts of a run -/

section

variable {n : Nat} (now : Nat) (e : Event)

@[simp] theorem call_attempt : (t.call clock op n).2.attempt? = some n := rfl

@[simp] theorem call_event : (t.call clock op n).2.event? = none := rfl

@[simp] theorem call_failure : (t.call clock op n).2.failure? = none := rfl

@[simp] theorem emit_attempts : (t.emit now e).filterMap (·.2.attempt?) = [] := by
  cases h : t.emitter e <;> simp [emit, h, Effect.attempt?]

@[simp] theorem emit_events : (t.emit now e).filterMap (·.2.event?) = [e] := by
  cases h : t.emitter e <;> simp [emit, h, Effect.event?]

@[simp] theorem emit_failures : (t.emit now e).filterMap (·.2.failure?) = [] := by
  cases h : t.emitter e <;> simp [emit, h, Effect.failure?]

end

section

variable (n now : Nat) (value : α) (f : Failure)

@[simp] theorem succeed_calls : (t.succeed clock n now value).calls = [] := by
  by_cases h : 1 < n <;> simp only [Run.calls, succeed, h, ↓reduceIte, emit_attempts,
    List.filterMap_nil]

@[simp] theorem succeed_events : (t.succeed clock n now value).events =
    if 1 < n then [t.event clock n (.success (t.duration now))] else [] := by
  by_cases h : 1 < n <;> simp only [Run.events, succeed, h, ↓reduceIte, emit_events,
    List.filterMap_nil]

@[simp] theorem succeed_captures : (t.succeed clock n now value).captures = [] := by
  by_cases h : 1 < n <;> simp only [Run.captures, succeed, h, ↓reduceIte, emit_failures,
    List.filterMap_nil]

@[simp] theorem giveUp_calls : (t.giveUp clock n now f : Run α).calls = [] := by
  simp only [Run.calls, giveUp, List.filterMap_append, emit_attempts]
  rfl

@[simp] theorem giveUp_events : (t.giveUp clock n now f : Run α).events =
    [t.event clock n (.failure f (t.duration now))] := by
  simp only [Run.events, giveUp, List.filterMap_append, emit_events]
  rfl

@[simp] theorem giveUp_captures : (t.giveUp clock n now f : Run α).captures = [f] := by
  simp only [Run.captures, giveUp, List.filterMap_append, emit_failures]
  rfl

end

theorem attemptLimit_pos : 1 ≤ t.policy.attemptLimit := Nat.le_max_left ..

theorem attemptLimit_lt : t.policy.attemptLimit < UInt32.size := by
  have := t.policy.maxAttempts.toNat_lt_size
  exact Nat.max_lt.2 ⟨by decide, this⟩

theorem event_attempt {n : Nat} {what : Telemetry.What} (h : n ≤ t.policy.attemptLimit) :
    (t.event clock n what).attempt.toNat = n := by
  have hlt : n < UInt32.size := Nat.lt_of_le_of_lt h attemptLimit_lt
  simp only [event, Nat.toUInt32_eq, UInt32.toNat_ofNat']
  exact Nat.mod_eq_of_lt hlt

theorem event_total {n : Nat} {what : Telemetry.What} :
    (t.event clock n what).total.toNat = t.policy.attemptLimit := by
  simp only [event, Nat.toUInt32_eq, UInt32.toNat_ofNat']
  exact Nat.mod_eq_of_lt attemptLimit_lt

variable (clock) in
/-- The attempts before it are the retries that a failure counts. -/
theorem retryCount_classify {n : Nat} (raw : Raw) (h : n ≤ t.policy.attemptLimit) :
    (t.classify clock n raw).retryCount.toNat = n - 1 := by
  have hlt : n - 1 < UInt32.size := by
    have := t.attemptLimit_lt
    omega
  rw [classify, Failure.withRetryCount, Nat.toUInt32_eq, UInt32.toNat_ofNat']
  exact Nat.mod_eq_of_lt hlt

/-! ## One attempt -/

/-- A wait is broken off just if the run is cancelled by the end of it. An attempt that cancels is
over before the wait begins. -/
theorem abortedAt_eq_none_iff {a : Attempt α} {finish wake : Nat} (h : finish ≤ wake) :
    abortedAt (cancelledAfter a finish cancelled) finish wake = none ↔
      a.cancels = false ∧ ∀ c, cancelled = some c → wake < c := by
  cases hc : a.cancels with
  | false => cases cancelled <;> simp [abortedAt, cancelledAfter, hc, Option.filter_some]
  | true =>
    cases cancelled with
    | none => simp [abortedAt, cancelledAfter, earlier, hc, Option.filter_some, h]
    | some c =>
      have hle : min c finish ≤ wake := by omega
      simp [abortedAt, cancelledAfter, earlier, hc, Option.filter_some, hle]

/-- An attempt that another one is to follow. The next one begins unless the wait is broken off. -/
theorem attempt_retry {n rest : Nat} {f : Failure} (hn : 1 ≤ n)
    (hanswer : t.answer clock op n = .error f) (hallows : t.policy.allows f = true) :
    t.attempt clock op cancelled n (t.ready clock op (n - 1)) (rest + 1) =
      .after (t.lap clock op n)
        (match abortedAt (cancelledAfter (op n) (t.finish clock op n) cancelled)
            (t.finish clock op n) (t.ready clock op n) with
          | some moment => ⟨.aborted t.channel n, [], moment⟩
          | none => t.attempt clock op (cancelledAfter (op n) (t.finish clock op n) cancelled) (n + 1)
              (t.ready clock op n) rest) := by
  rw [lap_error hanswer, ready_error hn hanswer, attempt]
  cases hresult : (op n).result with
  | ok value => simp [answer_ok hresult] at hanswer
  | error raw =>
    rw [answer_error hresult] at hanswer
    cases hanswer
    dsimp only
    rw [if_pos hallows]
    rfl

/-- An attempt ends the run, or it is a lap and the run goes on with the next one. -/
theorem attempt_cases {n left : Nat} (hn : 1 ≤ n) (hleft : n + left = t.policy.attemptLimit) :
    t.Closes clock op cancelled n
      (t.attempt clock op cancelled n (t.ready clock op (n - 1)) left) ∨
    ∃ f rest, t.Continues clock op cancelled n f ∧ left = rest + 1 ∧
      t.attempt clock op cancelled n (t.ready clock op (n - 1)) left =
        .after (t.lap clock op n)
          (t.attempt clock op cancelled (n + 1) (t.ready clock op n) rest) := by
  cases hresult : (op n).result with
  | ok value =>
    left
    have hanswer : t.answer clock op n = .ok value := answer_ok hresult
    cases left <;> rw [attempt, hresult] <;> exact .success value hanswer
  | error raw =>
    have hanswer : t.answer clock op n = .error (t.classify clock n raw) := answer_error hresult
    cases left with
    | zero =>
      left
      rw [attempt, hresult]
      refine .failure _ hanswer fun h => ?_
      have := h.1
      omega
    | succ rest =>
      by_cases hallows : t.policy.allows (t.classify clock n raw) = true
      · have hretries : t.Retries n (t.classify clock n raw) := ⟨by omega, hallows⟩
        have hle := finish_le_ready hn hanswer
        rw [attempt_retry hn hanswer hallows]
        split
        · next moment hmoment =>
          left
          refine .abort _ moment hanswer hretries ?_
          by_contra hcalm
          rw [(abortedAt_eq_none_iff hle).2 (by simpa using hcalm)] at hmoment
          cases hmoment
        · next hmoment =>
          obtain ⟨hcalm, hlater⟩ := (abortedAt_eq_none_iff hle).1 hmoment
          refine .inr ⟨_, rest, ⟨hanswer, hretries, hcalm, hlater⟩, rfl, ?_⟩
          rw [cancelledAfter, hcalm]
          rfl
      · left
        rw [attempt, hresult]
        dsimp only
        rw [if_neg hallows]
        exact .failure _ hanswer fun h => hallows h.2

/-! ## All attempts -/

/-- From attempt `n` on, a run goes through laps up to an attempt `k` that ends it. -/
theorem attempt_course {n left : Nat} (hn : 1 ≤ n) (hleft : n + left = t.policy.attemptLimit) :
    ∃ k r, n ≤ k ∧ k ≤ t.policy.attemptLimit ∧ t.Closes clock op cancelled k r ∧
      (∀ m, n ≤ m → m < k → ∃ f, t.Continues clock op cancelled m f) ∧
      t.attempt clock op cancelled n (t.ready clock op (n - 1)) left =
        .after ((List.range' n (k - n)).flatMap (t.lap clock op)) r := by
  induction left generalizing n with
  | zero =>
    obtain hcloses | ⟨_, _, _, hrest, _⟩ := attempt_cases hn hleft
    · exact ⟨n, _, Nat.le_refl _, by omega, hcloses, fun m _ _ => by omega, by simp [Run.after]⟩
    · cases hrest
  | succ left ih =>
    obtain hcloses | ⟨f, rest, hgoes, hrest, hrun⟩ := attempt_cases hn hleft
    · exact ⟨n, _, Nat.le_refl _, by omega, hcloses, fun m _ _ => by omega, by simp [Run.after]⟩
    · cases hrest
      obtain ⟨k, r, hk, hlimit, hcloses, hbefore, hlaps⟩ :=
        @ih (n + 1) (by omega) (by omega)
      refine ⟨k, r, by omega, hlimit, hcloses, fun m hm hmk => ?_, ?_⟩
      · by_cases heq : m = n
        · exact heq ▸ ⟨f, hgoes⟩
        · exact hbefore m (by omega) hmk
      · rw [Nat.add_sub_cancel] at hlaps
        obtain ⟨d, rfl⟩ := Nat.exists_eq_add_of_lt (show n < k by omega)
        rw [hrun, hlaps, Run.after_after, show n + d + 1 - n = d + 1 by omega,
          show n + d + 1 - (n + 1) = d by omega, List.range'_succ, List.flatMap_cons]

variable (clock t op cancelled) in
/-- A run is its laps, and the end that its last attempt makes. -/
theorem run_course :
    ∃ k r, 1 ≤ k ∧ k ≤ t.policy.attemptLimit ∧ t.Closes clock op cancelled k r ∧
      (∀ m, 1 ≤ m → m < k → ∃ f, t.Continues clock op cancelled m f) ∧
      t.run clock op cancelled = .after ((List.range' 1 (k - 1)).flatMap (t.lap clock op)) r :=
  attempt_course (Nat.le_refl 1) (Nat.add_sub_cancel' attemptLimit_pos)

/-! ## What is seen of a run -/

theorem lap_views {n : Nat} {f : Failure} (h : t.answer clock op n = .error f) :
    (t.lap clock op n).filterMap (·.2.attempt?) = [n] ∧
      (t.lap clock op n).filterMap (·.2.event?) =
        [t.event clock n (.retry (t.policy.delay n f) f)] ∧
      (t.lap clock op n).filterMap (·.2.failure?) = [] := by
  simp only [lap_error h, List.filterMap_cons, call_attempt, call_event, call_failure,
    emit_attempts, emit_events, emit_failures, and_self]

theorem Closes.calls {k : Nat} {r : Run α} (h : t.Closes clock op cancelled k r) :
    r.calls = [k] := by
  cases h with
  | success value _ => simp
  | failure f _ _ => simp
  | abort f _ hanswer _ _ => simp [(lap_views hanswer).1, Run.calls]

section

variable {k : Nat} (hlaps : ∀ m, 1 ≤ m → m < k → ∃ f, t.Continues clock op cancelled m f)
include hlaps

theorem laps_attempts :
    ((List.range' 1 (k - 1)).flatMap (t.lap clock op)).filterMap (·.2.attempt?) =
      List.range' 1 (k - 1) := by
  have hlap : ∀ m ∈ List.range' 1 (k - 1), (t.lap clock op m).filterMap (·.2.attempt?) = [m] := by
    intro m hm
    obtain ⟨hm, hmk⟩ := List.mem_range'_1.1 hm
    obtain ⟨f, hf⟩ := hlaps m hm (by omega)
    exact (lap_views hf.answer).1
  rw [List.filterMap_flatMap, List.flatMap_congr hlap, List.flatMap_singleton']

theorem laps_told (hk : k ≤ t.policy.attemptLimit) :
    (((List.range' 1 (k - 1)).flatMap (t.lap clock op)).filterMap (·.2.event?)).map
        (fun e => (e.what.kind, e.attempt.toNat)) =
      (List.range' 1 (k - 1)).map (Telemetry.Kind.retry, ·) := by
  have hlap : ∀ m ∈ List.range' 1 (k - 1), ((t.lap clock op m).filterMap (·.2.event?)).map
      (fun e => (e.what.kind, e.attempt.toNat)) = [(.retry, m)] := by
    intro m hm
    obtain ⟨hm, hmk⟩ := List.mem_range'_1.1 hm
    obtain ⟨f, hf⟩ := hlaps m hm (by omega)
    rw [(lap_views hf.answer).2.1, List.map_singleton, event_attempt (by omega)]
    rfl
  rw [List.filterMap_flatMap, List.map_flatMap, List.flatMap_congr hlap, List.map_eq_flatMap]

theorem laps_failures :
    ((List.range' 1 (k - 1)).flatMap (t.lap clock op)).filterMap (·.2.failure?) = [] := by
  have hlap : ∀ m ∈ List.range' 1 (k - 1), (t.lap clock op m).filterMap (·.2.failure?) = [] := by
    intro m hm
    obtain ⟨hm, hmk⟩ := List.mem_range'_1.1 hm
    obtain ⟨f, hf⟩ := hlaps m hm (by omega)
    exact (lap_views hf.answer).2.2
  rw [List.filterMap_flatMap, List.flatMap_congr hlap]
  simp

end

/-- The attempts up to `k`, of which `k` is the last one. -/
theorem range'_one_eq {k : Nat} (hk : 1 ≤ k) :
    List.range' 1 k = List.range' 1 (k - 1) ++ [k] := by
  have hlast : List.range' 1 (k - 1 + 1) = List.range' 1 (k - 1) ++ [1 + 1 * (k - 1)] :=
    List.range'_concat
  rwa [Nat.sub_add_cancel hk, Nat.one_mul, Nat.add_sub_cancel' hk] at hlast

theorem run_calls {k : Nat} {r : Run α} (hk : 1 ≤ k) (hcloses : t.Closes clock op cancelled k r)
    (hlaps : ∀ m, 1 ≤ m → m < k → ∃ f, t.Continues clock op cancelled m f)
    (hrun : t.run clock op cancelled =
      .after ((List.range' 1 (k - 1)).flatMap (t.lap clock op)) r) :
    (t.run clock op cancelled).calls = List.range' 1 k := by
  rw [hrun, Run.calls_after, laps_attempts hlaps, hcloses.calls, ← range'_one_eq hk]

theorem run_told {k : Nat} {r : Run α} (hk : k ≤ t.policy.attemptLimit)
    (hlaps : ∀ m, 1 ≤ m → m < k → ∃ f, t.Continues clock op cancelled m f)
    (hrun : t.run clock op cancelled =
      .after ((List.range' 1 (k - 1)).flatMap (t.lap clock op)) r) :
    (t.run clock op cancelled).told =
      (List.range' 1 (k - 1)).map (Telemetry.Kind.retry, ·) ++ r.told := by
  rw [hrun, Run.told, Run.events_after, List.map_append, laps_told hlaps hk]
  rfl

theorem run_captures {k : Nat} {r : Run α}
    (hlaps : ∀ m, 1 ≤ m → m < k → ∃ f, t.Continues clock op cancelled m f)
    (hrun : t.run clock op cancelled =
      .after ((List.range' 1 (k - 1)).flatMap (t.lap clock op)) r) :
    (t.run clock op cancelled).captures = r.captures := by
  rw [hrun, Run.captures_after, laps_failures hlaps, List.nil_append]

/-- Every event of a run is about one of its attempts. -/
theorem mem_events {e : Event} (h : e ∈ (t.run clock op cancelled).events) :
    ∃ n what, 1 ≤ n ∧ n ≤ t.policy.attemptLimit ∧ t.Tells clock op n what ∧
      e = t.event clock n what := by
  obtain ⟨k, r, hk, hlimit, hcloses, hlaps, hrun⟩ := t.run_course clock op cancelled
  rw [hrun, Run.events_after, List.filterMap_flatMap, List.mem_append, List.mem_flatMap] at h
  rcases h with ⟨m, hm, he⟩ | he
  · obtain ⟨hm, hmk⟩ := List.mem_range'_1.1 hm
    obtain ⟨f, hf⟩ := hlaps m hm (by omega)
    rw [(lap_views hf.answer).2.1, List.mem_singleton] at he
    exact ⟨m, _, hm, by omega, .retry f hf.answer hf.retries, he⟩
  · cases hcloses with
    | success value hanswer =>
      by_cases hone : 1 < k <;> simp [hone] at he
      exact ⟨k, _, hk, hlimit, .success value hanswer, he⟩
    | failure f hanswer hretries =>
      simp at he
      exact ⟨k, _, hk, hlimit, .failure f hanswer hretries, he⟩
    | abort f _ hanswer hretries _ =>
      rw [Run.events_after, (lap_views hanswer).2.1] at he
      simp [Run.events] at he
      exact ⟨k, _, hk, hlimit, .retry f hanswer hretries, he⟩

end Task

end Resilience
