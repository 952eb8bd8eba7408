import Resilience.Time.Span

/-!
Whether a sink wants telemetry. Its answer is trusted for some time, and a sink that cannot be
asked does not want any.
-/

namespace Resilience.Telemetry

/-- What a sink answers when it is asked for its settings. -/
inductive ConfigReply where
  | enabled
  | disabled
  | unavailable
deriving DecidableEq

namespace ConfigReply

def name : ConfigReply → String
  | enabled => "enabled"
  | disabled => "disabled"
  | unavailable => "unavailable"

def accepts (r : ConfigReply) : Bool := r = enabled

end ConfigReply

/-- Moments are times since the clock was started. -/
structure ConfigCache where
  ttl : Span
  /-- When the sink answered last, and whether it wanted telemetry. -/
  cached : Option (Span × Bool) := none

namespace ConfigCache

/-- The last answer, if it can still be trusted. -/
def fresh? (c : ConfigCache) (now : Span) : Option Bool :=
  match c.cached with
  | some (fetched, accepts) => if now - fetched < c.ttl then some accepts else none
  | none => none

def store (c : ConfigCache) (now : Span) (reply : ConfigReply) : ConfigCache :=
  { c with cached := some (now, reply.accepts) }

def invalidate (c : ConfigCache) : ConfigCache := { c with cached := none }

/-- Whether the sink wants telemetry, and whether it was asked; if it is asked, it takes so long and
answers this. -/
def consult (c : ConfigCache) (now takes : Span) (reply : ConfigReply) :
    ConfigCache × Bool × Bool :=
  match c.fresh? now with
  | some accepts => (c, accepts, false)
  | none => (c.store (now + takes) reply, reply.accepts, true)

/-- Whether a sink wants telemetry that answers at once. -/
def enabled (c : ConfigCache) (now : Nat) (reply : ConfigReply) : ConfigCache × Bool × Bool :=
  c.consult (Span.ofMillis now) Span.zero reply

end ConfigCache

end Resilience.Telemetry
