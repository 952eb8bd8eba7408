/-!
Lengths of time in nanoseconds.
-/

namespace Resilience

structure Span where
  nanos : Nat
deriving DecidableEq, Inhabited

namespace Span

def zero : Span := ⟨0⟩

def ofMillis (n : Nat) : Span := ⟨n * 1000000⟩

def ofSeconds (n : Nat) : Span := ⟨n * 1000000000⟩

instance : LE Span := ⟨fun a b => a.nanos ≤ b.nanos⟩
instance : LT Span := ⟨fun a b => a.nanos < b.nanos⟩
instance : DecidableRel (α := Span) (· ≤ ·) := fun a b => inferInstanceAs (Decidable (a.nanos ≤ b.nanos))
instance : DecidableRel (α := Span) (· < ·) := fun a b => inferInstanceAs (Decidable (a.nanos < b.nanos))
instance : Add Span := ⟨fun a b => ⟨a.nanos + b.nanos⟩⟩
/-- There is no time before zero. -/
instance : Sub Span := ⟨fun a b => ⟨a.nanos - b.nanos⟩⟩
instance : Min Span := ⟨fun a b => ⟨min a.nanos b.nanos⟩⟩

def millis (s : Span) : Nat := s.nanos / 1000000

/-- Whole milliseconds as a word of 64 bits, which drops what does not fit. -/
def millis64 (s : Span) : Nat := s.millis % UInt64.size

/-- Longest span that has whole seconds of 64 bits. -/
def longest : Span := ⟨UInt64.size * 1000000000 - 1⟩

/-- The span `n` times, at most the longest one. -/
def times (s : Span) (n : Nat) : Span := min ⟨s.nanos * n⟩ longest

variable {a b : Span}

theorem eq_iff : a = b ↔ a.nanos = b.nanos := ⟨congrArg nanos, congrArg mk⟩

theorem le_iff : a ≤ b ↔ a.nanos ≤ b.nanos := Iff.rfl

theorem lt_iff : a < b ↔ a.nanos < b.nanos := Iff.rfl

theorem nanos_add (a b : Span) : (a + b).nanos = a.nanos + b.nanos := rfl

theorem nanos_sub (a b : Span) : (a - b).nanos = a.nanos - b.nanos := rfl

theorem nanos_min (a b : Span) : (min a b).nanos = min a.nanos b.nanos := rfl

@[simp] theorem millis_ofMillis (n : Nat) : (ofMillis n).millis = n := by
  simp [millis, ofMillis]

end Span

end Resilience
