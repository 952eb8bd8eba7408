import Resilience.Proofs.Retry.Waits

/-!
# The backoff of a policy

The wait after a failed attempt doubles from one attempt to the next up to the longest wait, in whole
milliseconds, and after the thirty-second attempt it does not double any more.
`Policy.backoff_in_millis` says how this compares with doubling in exact arithmetic, and
`Policy.waits_monotone_bounded` that waits never get shorter from one attempt to a later one, whatever
the lengths of time are.
-/

namespace Resilience

/-! ## Lengths of time -/

namespace Span

variable {a b c : Span}

theorem le_antisymm (hab : a ≤ b) (hba : b ≤ a) : a = b := eq_iff.2 (Nat.le_antisymm hab hba)

theorem le_min (hb : a ≤ b) (hc : a ≤ c) : a ≤ min b c := Nat.le_min.2 ⟨hb, hc⟩

theorem min_le_min_left (h : a ≤ b) : min a c ≤ min b c :=
  le_min (Nat.le_trans (min_le_left a c) h) (min_le_right a c)

theorem ofMillis_mono {m n : Nat} (h : m ≤ n) : ofMillis m ≤ ofMillis n := Nat.mul_le_mul_right _ h

theorem ofMillis_le_iff {m : Nat} : ofMillis m ≤ a ↔ m ≤ a.millis :=
  (Nat.le_div_iff_mul_le (by decide)).symm

theorem ofMillis_millis_le (s : Span) : ofMillis s.millis ≤ s := ofMillis_le_iff.2 (Nat.le_refl _)

theorem ofMillis_le_ofMillis_iff {m n : Nat} : ofMillis m ≤ ofMillis n ↔ m ≤ n := by
  rw [ofMillis_le_iff, millis_ofMillis]

/-- Two lengths that are each at most another one have the same minimum as these just if it is the
second one and that is no shorter, or it is the first one and that is no shorter. -/
theorem min_eq_min_iff {a' b' : Span} (ha : a ≤ a') (hb : b ≤ b') (hab : a ≤ b' → a ≤ b) :
    min a b = min a' b' ↔ (b = b' ∧ b ≤ a) ∨ (a' ≤ b' ∧ a = a') := by
  simp only [eq_iff, le_iff, nanos_min] at *
  omega

theorem min_ofMillis (m n : Nat) : min (ofMillis m) (ofMillis n) = ofMillis (min m n) :=
  congrArg mk (Nat.mul_min_mul_right ..)

/-- Without a part of a millisecond. -/
def IsWhole (s : Span) : Prop := ofMillis s.millis = s

end Span

namespace Policy

variable (p : Policy) (n : Nat)

/-! ## Doubling -/

/-- The wait after attempt `n` in exact arithmetic. -/
def doubled : Span := min ⟨p.baseDelay.nanos * Nat.pow 2 (n - 1)⟩ p.maxDelay

variable {p n}

theorem backoff_eq (hn : 1 ≤ n) : p.backoff n = Span.ofMillis
    (min (min (p.baseDelay.millis64 * Nat.pow 2 (min (n - 1) 31)) (UInt64.size - 1))
      p.maxDelay.millis64) := by
  have hpos : n ≠ 0 := by omega
  rw [backoff, if_neg hpos, Nat.shiftLeft_eq]
  rfl

/-- Milliseconds that fit into a word are not cut down. -/
theorem backoff_eq_of_fits (hn : 1 ≤ n) (hbase : p.baseDelay.millis < UInt64.size)
    (hmax : p.maxDelay.millis < UInt64.size) :
    p.backoff n = min (Span.ofMillis (p.baseDelay.millis * Nat.pow 2 (min (n - 1) 31)))
      (Span.ofMillis p.maxDelay.millis) := by
  rw [backoff_eq hn, Span.millis64_eq hbase, Span.millis64_eq hmax, Span.min_ofMillis, Nat.min_assoc,
    Nat.min_eq_right (Nat.le_sub_one_of_lt hmax)]

theorem pow_min_le (k m : Nat) : Nat.pow 2 (min k m) ≤ Nat.pow 2 k :=
  Nat.pow_le_pow_right (by decide) (Nat.min_le_left ..)

/-- Whole milliseconds that are doubled at most 31 times come to no more than all of it doubled each
time. -/
theorem ofMillis_doubled_le (s : Span) (k : Nat) :
    Span.ofMillis (s.millis * Nat.pow 2 (min k 31)) ≤ ⟨s.nanos * Nat.pow 2 k⟩ := by
  calc s.millis * Nat.pow 2 (min k 31) * 1000000
    _ = s.millis * 1000000 * Nat.pow 2 (min k 31) := Nat.mul_right_comm ..
    _ ≤ s.nanos * Nat.pow 2 k := Nat.mul_le_mul s.ofMillis_millis_le (pow_min_le k 31)

/-- Nothing is lost if there is nothing to double, or if these are whole milliseconds that are doubled
at most 31 times. -/
theorem ofMillis_doubled_eq_iff (s : Span) (k : Nat) :
    Span.ofMillis (s.millis * Nat.pow 2 (min k 31)) = ⟨s.nanos * Nat.pow 2 k⟩ ↔
      s = Span.zero ∨ s.IsWhole ∧ k ≤ 31 := by
  constructor
  · intro h
    have hnanos : s.millis * 1000000 * Nat.pow 2 (min k 31) = s.nanos * Nat.pow 2 k := by
      rw [Nat.mul_right_comm]
      exact congrArg Span.nanos h
    have hwhole : s.millis * 1000000 ≤ s.nanos := s.ofMillis_millis_le
    rcases Nat.eq_zero_or_pos s.nanos with hzero | hpos
    · exact .inl (congrArg Span.mk hzero)
    · -- Both factors are at most their counterparts, so both are equal to them.
      have hpow : 0 < Nat.pow 2 k := Nat.pow_pos (by decide)
      have hmillis : s.millis * 1000000 = s.nanos := by
        refine Nat.le_antisymm hwhole (Nat.le_of_mul_le_mul_right ?_ hpow)
        rw [← hnanos]
        exact Nat.mul_le_mul_left _ (pow_min_le k 31)
      rw [hmillis] at hnanos
      have hexponent : min k 31 = k := Nat.pow_right_injective (Nat.le_refl 2)
        (Nat.eq_of_mul_eq_mul_left hpos hnanos)
      exact .inr ⟨congrArg Span.mk hmillis, by omega⟩
  · rintro (rfl | ⟨hwhole, hk⟩)
    · simp [Span.zero, Span.millis, Span.ofMillis]
    · rw [Nat.min_eq_left hk]
      refine congrArg Span.mk ?_
      rw [Nat.mul_right_comm]
      exact congrArg (· * _) (congrArg Span.nanos hwhole)

/-- Where the whole milliseconds of the base and of the longest wait fit into a word, the wait after
an attempt has the whole milliseconds of the base, doubled for each attempt before it but at most 31
times, and at most the whole milliseconds of the longest wait. It is never longer than the one in
exact arithmetic, and it is that one just if it has come to a longest wait of whole milliseconds, or
if the exact one does not exceed the longest wait and nothing of it is lost: a base of whole
milliseconds is doubled at most 31 times, or there is nothing to double. -/
theorem backoff_in_millis (hn : 1 ≤ n) (hbase : p.baseDelay.millis < UInt64.size)
    (hmax : p.maxDelay.millis < UInt64.size) :
    let doublings := Nat.pow 2 (min (n - 1) 31)
    p.backoff n = min (Span.ofMillis (p.baseDelay.millis * doublings))
      (Span.ofMillis p.maxDelay.millis) ∧
    p.backoff n ≤ p.doubled n ∧
    (p.backoff n = p.doubled n ↔
      (p.maxDelay.IsWhole ∧ p.maxDelay.millis ≤ p.baseDelay.millis * doublings) ∨
      (Span.mk (p.baseDelay.nanos * Nat.pow 2 (n - 1)) ≤ p.maxDelay ∧
        (p.baseDelay = Span.zero ∨ p.baseDelay.IsWhole ∧ n ≤ 32))) := by
  intro doublings
  have heq := backoff_eq_of_fits hn hbase hmax
  have hless := ofMillis_doubled_le p.baseDelay (n - 1)
  have hlost := ofMillis_doubled_eq_iff p.baseDelay (n - 1)
  have hcap := p.maxDelay.ofMillis_millis_le
  have hcount : n - 1 ≤ 31 ↔ n ≤ 32 := by omega
  rw [hcount] at hlost
  refine ⟨heq, ?_, ?_⟩
  · rw [heq]
    exact Span.le_min (Nat.le_trans (Span.min_le_left ..) hless)
      (Nat.le_trans (Span.min_le_right ..) hcap)
  · rw [heq, doubled, Span.min_eq_min_iff hless hcap
      fun h => Span.ofMillis_le_ofMillis_iff.2 (Span.ofMillis_le_iff.1 h),
      Span.ofMillis_le_ofMillis_iff, hlost]
    rfl

/-- The base is not a whole number of milliseconds. -/
def fractional : Policy := { baseDelay := ⟨1500000⟩ }

/-- The longest wait is far away. -/
def patient : Policy := { baseDelay := Span.ofMillis 1, maxDelay := Span.ofMillis 10000000000 }

theorem backoff_in_millis_patient :
    patient.baseDelay.millis < UInt64.size ∧ patient.maxDelay.millis < UInt64.size ∧
      patient.backoff 32 = Span.ofMillis 2147483648 ∧ patient.backoff 32 = patient.doubled 32 := by
  have hbase : patient.baseDelay.millis < UInt64.size := by decide
  have hmax : patient.maxDelay.millis < UInt64.size := by decide
  obtain ⟨heq, _, hdoubled⟩ := backoff_in_millis (n := 32) (by decide) hbase hmax
  have hexact : Span.mk (patient.baseDelay.nanos * Nat.pow 2 31) ≤ patient.maxDelay := by decide
  exact ⟨hbase, hmax, heq, hdoubled.2 (.inr ⟨hexact, .inr ⟨rfl, Nat.le_refl 32⟩⟩)⟩

/-- Half a millisecond is lost, though not if nothing was attempted, and one millisecond is not doubled
more than 31 times. So the backoff is not the one in exact arithmetic. -/
theorem backoff_falls_short :
    (fractional.backoff 0 = ⟨1500000⟩ ∧ fractional.backoff 1 = Span.ofMillis 1 ∧
      fractional.doubled 1 = ⟨1500000⟩) ∧
      (patient.backoff 33 = Span.ofMillis 2147483648 ∧
        patient.doubled 33 = Span.ofMillis 4294967296) ∧
      ¬ ∀ (p : Policy) (n : Nat), 1 ≤ n → n < UInt32.size → p.backoff n = p.doubled n := by
  have hfractional : fractional.backoff 0 = ⟨1500000⟩ ∧ fractional.backoff 1 = Span.ofMillis 1 ∧
      fractional.doubled 1 = ⟨1500000⟩ := by
    decide +kernel
  refine ⟨hfractional, by decide +kernel, fun h => ?_⟩
  have hexact := h fractional 1 (by decide) (by decide)
  rw [hfractional.2.1, hfractional.2.2] at hexact
  cases hexact

/-! ## From one attempt to a later one -/

variable {m : Nat}

theorem pow_mono {k l : Nat} (h : k ≤ l) (most : Nat) :
    Nat.pow 2 (min k most) ≤ Nat.pow 2 (min l most) :=
  Nat.pow_le_pow_right (by decide) (by omega)

theorem backoff_mono (hm : 1 ≤ m) (h : m ≤ n) : p.backoff m ≤ p.backoff n := by
  have hdoubled := Nat.mul_le_mul_left p.baseDelay.millis64
    (pow_mono (Nat.sub_le_sub_right h 1) 31)
  rw [backoff_eq hm, backoff_eq (Nat.le_trans hm h)]
  apply Span.ofMillis_mono
  omega

theorem backoff_le_millis (hn : 1 ≤ n) : p.backoff n ≤ Span.ofMillis p.maxDelay.millis := by
  rw [backoff_eq hn]
  exact Span.ofMillis_mono (Nat.le_trans (Nat.min_le_right ..) (Nat.mod_le ..))

theorem waitFor_mono (hm : 1 ≤ m) (h : m ≤ n) (category : Category) (severity : Severity) :
    p.waitFor m category severity ≤ p.waitFor n category severity := by
  unfold waitFor
  split
  · apply Span.min_le_min_left
    exact Nat.mul_le_mul_right _ (pow_mono (Nat.sub_le_sub_right h 1) 5)
  · split
    · exact Nat.le_refl _
    · exact backoff_mono hm h

end Policy

/-! ## On machine words -/

namespace Word

/-- There is no difference below zero. -/
def sub? (a b : UInt32) : Option UInt32 := if b ≤ a then some (a - b) else none

/-- There is no shift by all of a word. -/
def shiftLeft? (a : UInt64) (k : UInt32) : Option UInt64 :=
  if k < 64 then some (a <<< k.toUInt64) else none

/-- The product, or the largest word if it does not fit. -/
def saturatingMul (a b : UInt64) : UInt64 := (min (a.toNat * b.toNat) (UInt64.size - 1)).toUInt64

theorem toNat_toUInt64 (n : Nat) : n.toUInt64.toNat = n % UInt64.size := by
  rw [Nat.toUInt64_eq, UInt64.toNat_ofNat']

theorem toNat_saturatingMul (a b : UInt64) :
    (saturatingMul a b).toNat = min (a.toNat * b.toNat) (UInt64.size - 1) := by
  rw [saturatingMul, toNat_toUInt64]
  apply Nat.mod_eq_of_lt
  exact Nat.lt_of_le_of_lt (Nat.min_le_right ..) (by decide)

theorem toNat_one_shiftLeft {k : UInt32} (h : k.toNat ≤ 31) :
    ((1 : UInt64) <<< k.toUInt64).toNat = Nat.pow 2 k.toNat := by
  have hpow : Nat.pow 2 k.toNat < UInt64.size :=
    Nat.lt_of_le_of_lt (Nat.pow_le_pow_right (by decide) h) (by decide : Nat.pow 2 31 < UInt64.size)
  rw [UInt64.toNat_shiftLeft, UInt32.toNat_toUInt64, Nat.mod_eq_of_lt (by omega : k.toNat < 64),
    Nat.shiftLeft_eq, UInt64.toNat_one, Nat.one_mul]
  exact Nat.mod_eq_of_lt hpow

end Word

namespace Policy

/-- The milliseconds to wait after an attempt, on words of a machine. -/
def backoffWord? (p : Policy) (attempt : UInt32) : Option UInt64 := do
  let doublings ← Word.sub? attempt 1
  let multiplier ← Word.shiftLeft? 1 (min doublings 31)
  let doubled := Word.saturatingMul p.baseDelay.millis.toUInt64 multiplier
  return min doubled p.maxDelay.millis.toUInt64

/-- Every operation on words has a result, and these come to the backoff. -/
theorem backoffWord?_eq (p : Policy) {attempt : UInt32} (h : 1 ≤ attempt.toNat) :
    ∃ word, p.backoffWord? attempt = some word ∧
      p.backoff attempt.toNat = Span.ofMillis word.toNat := by
  have hone : (1 : UInt32) ≤ attempt := UInt32.le_iff_toNat_le.2 h
  have hdoublings : (min (attempt - 1) 31).toNat = min (attempt.toNat - 1) 31 := by
    rw [UInt32.toNat_min, UInt32.toNat_sub_of_le _ _ hone]
    rfl
  have hle : (min (attempt - 1) 31).toNat ≤ 31 := hdoublings ▸ Nat.min_le_right ..
  have hshift : min (attempt - 1) 31 < 64 :=
    UInt32.lt_iff_toNat_lt.2 (Nat.lt_of_le_of_lt hle (by decide))
  have hword : p.backoffWord? attempt = some (min
      (Word.saturatingMul p.baseDelay.millis.toUInt64 (1 <<< (min (attempt - 1) 31).toUInt64))
      p.maxDelay.millis.toUInt64) := by
    rw [backoffWord?, Word.sub?, if_pos hone, Option.bind_eq_bind, Option.bind_some,
      Word.shiftLeft?, if_pos hshift]
    rfl
  refine ⟨_, hword, ?_⟩
  rw [UInt64.toNat_min, Word.toNat_saturatingMul, Word.toNat_one_shiftLeft hle, hdoublings,
    Word.toNat_toUInt64, Word.toNat_toUInt64, backoff_eq h]
  rfl

/-! ## All waits -/

/-- Whatever the lengths of time of a policy are, its backoff never gets shorter from one attempt to a
later one and is never longer than the longest wait; no operation of a machine that computes it fails
or gives more; and once it has come to the whole milliseconds of the longest wait it stays there. The
wait that is chosen after a failure that counts the attempts before it never gets shorter either, from
one failure of a kind to a later one, and is never longer than the longest wait. -/
theorem waits_monotone_bounded (p : Policy) :
    (∀ m n, 1 ≤ m → m ≤ n → p.backoff m ≤ p.backoff n ∧ p.backoff n ≤ p.maxDelay) ∧
    (∀ attempt : UInt32, 1 ≤ attempt.toNat → ∃ word, p.backoffWord? attempt = some word ∧
      p.backoff attempt.toNat = Span.ofMillis word.toNat) ∧
    (∀ m n, 1 ≤ m → m ≤ n → p.backoff m = Span.ofMillis p.maxDelay.millis →
      p.backoff n = Span.ofMillis p.maxDelay.millis) ∧
    ∀ m n (f g : Failure), 1 ≤ m → m ≤ n → f.category = g.category → f.severity = g.severity →
      f.retryCount.toNat = m - 1 → g.retryCount.toNat = n - 1 →
      p.delay m f ≤ p.delay n g ∧ p.delay n g ≤ p.maxDelay := by
  refine ⟨fun m n hm h => ⟨backoff_mono hm h, p.backoff_le n⟩, fun _ => p.backoffWord?_eq, ?_, ?_⟩
  · intro m n hm h hreached
    apply Span.le_antisymm (backoff_le_millis (Nat.le_trans hm h))
    exact hreached ▸ backoff_mono hm h
  · intro m n f g hm h hcategory hseverity hf hg
    rw [delay_eq_waitFor hf, delay_eq_waitFor hg, hcategory, hseverity]
    exact ⟨waitFor_mono hm h _ _, p.waitFor_le n _ _⟩

end Policy

end Resilience
