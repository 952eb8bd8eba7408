import Resilience.Time.Span

/-!
Moments of a clock. A moment is a number of whole milliseconds since the clock was started.
-/

namespace Resilience.Span

/-- Milliseconds, the last of which may be begun only. -/
def millisUp (s : Span) : Nat := (s.nanos + 999999) / 1000000

/-- The time from one moment to a later one. -/
def between (first last : Nat) : Span := ofMillis (last - first)

/-- The moment at which a wait is over that begins now. -/
def endFrom (s : Span) (now : Nat) : Nat := now + s.millisUp

end Resilience.Span
