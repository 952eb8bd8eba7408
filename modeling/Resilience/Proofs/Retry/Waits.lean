import Resilience.Proofs.Retry.Recovery

/-!
# Waits between attempts

How long a run waits after a failed attempt follows from the number of the attempt and from the kind
of the failure (`Policy.waitFor`), whatever count of retries the failure came with. `Task.run_waits`
says that the wait which is made is the wait which is told, and that it is told as it is.
-/

namespace Resilience

/-! ## Lengths of time -/

namespace Span

variable {a b : Span}

theorem min_le_right (a b : Span) : min a b ≤ b := Nat.min_le_right a.nanos b.nanos

theorem min_le_left (a b : Span) : min a b ≤ a := Nat.min_le_left a.nanos b.nanos

theorem millis_mono (h : a ≤ b) : a.millis ≤ b.millis := Nat.div_le_div_right h

/-- Milliseconds that fit into a word are not cut down to it. -/
theorem millis64_eq (h : a.millis < UInt64.size) : a.millis64 = a.millis := Nat.mod_eq_of_lt h

theorem ofMillis_millis64_le (s : Span) : ofMillis s.millis64 ≤ s := by
  have hword : s.millis64 ≤ s.millis := Nat.mod_le ..
  calc s.millis64 * 1000000
    _ ≤ s.millis * 1000000 := Nat.mul_le_mul_right _ hword
    _ ≤ s.nanos := Nat.div_mul_le_self ..

end Span

/-! ## The wait that a failure asks for -/

theorem Severity.le_medium_iff {s : Severity} : s ≤ .medium ↔ s = .low ∨ s = .medium := by
  cases s <;> decide

theorem Failure.retryDelay_eq (f : Failure) : f.retryDelay =
    if (f.category = .network ∨ f.category = .externalService) ∧ f.severity ≠ .critical then
      some (Span.ofSeconds (Nat.pow 2 (min f.retryCount.toNat 5)))
    else if f.category = .fileSystem ∧ (f.severity = .low ∨ f.severity = .medium) then
      some (Span.ofMillis 500)
    else none := by
  have hdouble (k : Nat) : Span.ofMillis (1000 <<< k) = Span.ofSeconds (Nat.pow 2 k) := by
    rw [Span.ofMillis, Span.ofSeconds, Nat.shiftLeft_eq, Nat.mul_comm 1000, Nat.mul_assoc]
    rfl
  unfold retryDelay recoverable
  cases hcategory : f.category with
  | network | externalService => by_cases h : f.severity = .critical <;> simp [h, hdouble]
  | fileSystem => cases hseverity : f.severity <;> simp [Severity.le_medium_iff]
  | _ => simp

namespace Policy

variable (p : Policy) (n : Nat)

/-- The wait after attempt `n`, by the kind of the failure that it came to. -/
def waitFor (category : Category) (severity : Severity) : Span :=
  if (category = .network ∨ category = .externalService) ∧ severity ≠ .critical then
    min (Span.ofSeconds (Nat.pow 2 (min (n - 1) 5))) p.maxDelay
  else if category = .fileSystem ∧ (severity = .low ∨ severity = .medium) then
    min (Span.ofMillis 500) p.maxDelay
  else p.backoff n

/-! ## Bounds -/

theorem backoff_le : p.backoff n ≤ p.maxDelay := by
  unfold backoff
  split
  · exact Span.min_le_right ..
  · refine Nat.le_trans (Nat.mul_le_mul_right _ ?_) p.maxDelay.ofMillis_millis64_le
    exact Nat.min_le_right ..

theorem millis_backoff_lt (hn : 1 ≤ n) : (p.backoff n).millis < UInt64.size := by
  have hpos : n ≠ 0 := by omega
  rw [backoff, if_neg hpos, Span.millis_ofMillis]
  exact Nat.lt_of_le_of_lt (Nat.min_le_right ..) (Nat.mod_lt _ (by decide))

theorem waitFor_le (category : Category) (severity : Severity) :
    p.waitFor n category severity ≤ p.maxDelay := by
  unfold waitFor
  split
  · exact Span.min_le_right ..
  · split
    · exact Span.min_le_right ..
    · exact p.backoff_le n

theorem millis_waitFor_lt (hn : 1 ≤ n) (category : Category) (severity : Severity) :
    (p.waitFor n category severity).millis < UInt64.size := by
  unfold waitFor
  split
  · have hpow : Nat.pow 2 (min (n - 1) 5) ≤ Nat.pow 2 5 :=
      Nat.pow_le_pow_right (by decide) (Nat.min_le_right ..)
    have hasked : Span.ofSeconds (Nat.pow 2 (min (n - 1) 5)) ≤ Span.ofSeconds (Nat.pow 2 5) :=
      Nat.mul_le_mul_right _ hpow
    have hle := Span.millis_mono (Nat.le_trans (Span.min_le_left _ p.maxDelay) hasked)
    exact Nat.lt_of_le_of_lt hle (by decide)
  · split
    · have hle := Span.millis_mono (Span.min_le_left (Span.ofMillis 500) p.maxDelay)
      exact Nat.lt_of_le_of_lt hle (by decide)
    · exact p.millis_backoff_lt n hn

/-! ## The wait that is made -/

variable {p n}

/-- A failure that counts the attempts before it asks for the wait that its kind has. -/
theorem delay_eq_waitFor {f : Failure} (h : f.retryCount.toNat = n - 1) :
    p.delay n f = p.waitFor n f.category f.severity := by
  rw [delay, f.retryDelay_eq, waitFor, h]
  by_cases hnetwork :
      (f.category = .network ∨ f.category = .externalService) ∧ f.severity ≠ .critical
  · rw [if_pos hnetwork, if_pos hnetwork]
  · rw [if_neg hnetwork, if_neg hnetwork]
    by_cases hfile : f.category = .fileSystem ∧ (f.severity = .low ∨ f.severity = .medium)
    · rw [if_pos hfile, if_pos hfile]
    · rw [if_neg hfile, if_neg hfile]

end Policy

open Telemetry (Event)

namespace Task

variable {α : Type} {clock : Timestamp} {t : Task} {op : Operation α} {cancelled : Option Nat}

/-! ## The wait that is told -/

theorem attempt_of_called {m n : Nat} (h : (m, .called n) ∈ (t.run clock op cancelled).effects) :
    1 ≤ n ∧ n ≤ t.policy.attemptLimit := by
  obtain ⟨k, last, hk, hle, hcloses, _, hrun⟩ := t.run_course clock op cancelled
  obtain ⟨hn, hnk, _⟩ := (run_called_mem hk hcloses hrun).1 h
  exact ⟨hn, Nat.le_trans hnk hle⟩

/-- A failure that another attempt is to follow is told as soon as its attempt is over. -/
theorem emitted_of_retries {m n : Nat} {f : Failure}
    (hcalled : (m, .called n) ∈ (t.run clock op cancelled).effects)
    (hanswer : t.answer clock op n = .error f) (hretries : t.Retries n f) :
    (m + (op n).takes, .emitted (t.event clock n (.retry (t.policy.delay n f) f))) ∈
      (t.run clock op cancelled).effects := by
  obtain ⟨k, last, hk, _, hcloses, _, hrun⟩ := t.run_course clock op cancelled
  obtain ⟨hn, hnk, rfl⟩ := (run_called_mem hk hcloses hrun).1 hcalled
  rw [hrun, Run.effects_after, List.mem_append, List.mem_flatMap]
  by_cases heq : n = k
  · subst heq
    cases hcloses with
    | success value hvalue => simp [hvalue] at hanswer
    | failure g hg hfinal =>
      obtain rfl : g = f := by simpa [hg] using hanswer
      exact (hfinal hretries).elim
    | abort g moment _ _ _ => exact .inr (List.mem_append_left _ (retry_mem_lap hanswer))
  · exact .inl ⟨n, List.mem_range'_1.2 ⟨hn, by omega⟩, retry_mem_lap hanswer⟩

/-- Nothing else is told of an attempt that another one is to follow. -/
theorem what_of_retries {n : Nat} {f : Failure} {e : Event}
    (h : e ∈ (t.run clock op cancelled).events) (hattempt : e.attempt.toNat = n)
    (hanswer : t.answer clock op n = .error f) (hretries : t.Retries n f) :
    e.what = .retry (t.policy.delay n f) f := by
  obtain ⟨i, what, _, hle, htells, rfl⟩ := mem_events h
  obtain rfl : i = n := (event_attempt hle).symm.trans hattempt
  cases htells with
  | retry g hg _ =>
    obtain rfl : g = f := by simpa [hg] using hanswer
    rfl
  | success value hvalue => simp [hvalue] at hanswer
  | failure g hg hfinal =>
    obtain rfl : g = f := by simpa [hg] using hanswer
    exact (hfinal hretries).elim

/-! ## Runs -/

variable (clock) in
/-- After a failed attempt that another one is to follow, a run waits as long as the policy has it
for the number of the attempt and the kind of the failure, but never longer than the longest wait.
The failure counts the retries before it, whatever count it came with, and knows its operation or
else the channel. The wait is told as it is, also in whole milliseconds, which fit into a word. -/
theorem run_waits (ps : Policies) (channel : String) (p : Policy) (scope : Dict Json)
    (started : Nat) (emitter : Event → Delivery) (op : Operation α) (cancelled : Option Nat) :
    let c := ps.limit channel p
    let t : Task := { ps.task channel p scope started with emitter }
    let r := t.run clock op cancelled
    ∀ m n raw, (m, .called n) ∈ r.effects → (op n).result = .error raw →
      let own := raw.toFailure clock
      let f := t.classify clock n raw
      t.Retries n f →
      let wait := c.waitFor n own.category own.severity
      let ended := m + (op n).takes
      let wake := wait.endFrom ended
      (f.retryCount.toNat = n - 1 ∧ f.operation = some (own.operation.getD channel) ∧
        f.category = own.category ∧ f.severity = own.severity) ∧
      (CancelledBy op cancelled n wake → r.outcome = .aborted channel n) ∧
      (¬ CancelledBy op cancelled n wake → (wake, .called (n + 1)) ∈ r.effects) ∧
      wait ≤ c.maxDelay ∧ wait.millis < UInt64.size ∧
      (ended, .emitted (t.event clock n (.retry wait f))) ∈ r.effects ∧
      ∀ e ∈ r.events, e.attempt.toNat = n → e.what = .retry wait f ∧
        ∀ most, (e.payload most).delayMs.map (·.toNat) = some wait.millis := by
  intro c t r m n raw hcalled hresult own f hretries wait ended wake
  have hanswer : t.answer clock op n = .error f := answer_error hresult
  obtain ⟨hn, hle⟩ := attempt_of_called hcalled
  have hcount : f.retryCount.toNat = n - 1 := retryCount_classify clock raw hle
  have hwait : t.policy.delay n f = wait := Policy.delay_eq_waitFor hcount
  have hword : wait.millis < UInt64.size := c.millis_waitFor_lt n hn own.category own.severity
  have hgoes := run_retried hcalled hanswer hretries
  have htold := emitted_of_retries hcalled hanswer hretries
  rw [hwait] at hgoes htold
  refine ⟨⟨hcount, rfl, rfl, rfl⟩, hgoes.1, hgoes.2, c.waitFor_le n own.category own.severity, hword,
    htold, fun e he hattempt => ?_⟩
  have hwhat : e.what = .retry wait f := hwait ▸ what_of_retries he hattempt hanswer hretries
  refine ⟨hwhat, fun most => ?_⟩
  have hmillis : wait.millis64.toUInt64.toNat = wait.millis := by
    rw [Span.millis64_eq hword, Nat.toUInt64_eq, UInt64.toNat_ofNat']
    exact Nat.mod_eq_of_lt hword
  simp [Event.payload, hwhat, Telemetry.What.delay?, hmillis]

/-- Each attempt is refused, and the failure says that it was retried often. -/
def refused : Raw :=
  .failure { Failure.make default "connection refused" "ECONNREFUSED" .network with retryCount := 7 }

def loading : Operation Json := fun _ => { takes := 5, result := .error refused }

/-- Loading on a channel for which nothing is set. -/
def visit : Task := Policies.task {} "get-website-schema" {} ∅ 0

/-- The wait after the second attempt has two seconds. -/
theorem run_waits_visit :
    let f := visit.classify default 2 refused
    (1005, .called 2) ∈ (visit.run default loading none).effects ∧
    (loading 2).result = .error refused ∧ visit.Retries 2 f ∧ f.retryCount = 1 ∧
    (1010, .emitted (visit.event default 2 (.retry (Span.ofSeconds 2) f))) ∈
      (visit.run default loading none).effects ∧
    (3010, .called 3) ∈ (visit.run default loading none).effects := by
  intro f
  have hcalled : (1005, .called 2) ∈ (visit.run default loading none).effects :=
    .tail _ (.tail _ (.head _))
  have hretries : visit.Retries 2 f := ⟨by decide, rfl⟩
  obtain ⟨_, _, hnext, _, _, htold, _⟩ := run_waits default {} "get-website-schema" {} ∅ 0
    (fun _ => .taken) loading none 1005 2 refused hcalled rfl hretries
  refine ⟨hcalled, rfl, hretries, rfl, htold, hnext ?_⟩
  rintro (⟨_, hnone, _⟩ | ⟨_, _, _, hcancels⟩)
  · cases hnone
  · cases hcancels

end Task

end Resilience
