import Resilience.Failure.Basic
import Resilience.Names

/-!
Policies: how often an operation is attempted, how long a run waits between two attempts, and which
failures are worth another one.
-/

namespace Resilience

structure Policy where
  /-- Attempts in all, the first one included. -/
  maxAttempts : UInt32 := 3
  baseDelay : Span := Span.ofSeconds 1
  maxDelay : Span := Span.ofSeconds 10
  /-- Codes worth another attempt. If there are none, every failure is worth one. -/
  codes : Names := ∅
deriving DecidableEq

namespace Policy

def attemptLimit (p : Policy) : Nat := max 1 p.maxAttempts.toNat

/-- The wait after a failed attempt. It doubles from one attempt to the next, in whole milliseconds,
up to the longest wait. -/
def backoff (p : Policy) (attempt : Nat) : Span :=
  if attempt = 0 then min p.baseDelay p.maxDelay
  else
    let doubled := p.baseDelay.millis64 <<< min (attempt - 1) 31
    Span.ofMillis (min (min doubled (UInt64.size - 1)) p.maxDelay.millis64)

/-- Whether a failure is worth another attempt: its code, or one along its chain, is listed. -/
def allows (p : Policy) (f : Failure) : Bool :=
  p.codes.isEmpty || f.chain.any (p.codes.contains ·.code)

/-- The wait after a failed attempt: the one that the failure asks for, or else the one of the
policy, but never longer than the longest wait. -/
def delay (p : Policy) (attempt : Nat) (f : Failure) : Span :=
  match f.retryDelay with
  | some asked => min asked p.maxDelay
  | none => p.backoff attempt

end Policy

/-- Parts of a policy that take the place of others. -/
structure Policy.Override where
  maxAttempts : Option UInt32 := none
  baseDelay : Option Span := none
  maxDelay : Option Span := none
  codes : Option Names := none

def Policy.Override.apply (o : Override) (base : Policy) : Policy where
  maxAttempts := o.maxAttempts.getD base.maxAttempts
  baseDelay := o.baseDelay.getD base.baseDelay
  maxDelay := o.maxDelay.getD base.maxDelay
  codes := o.codes.getD base.codes

/-- Policies by channel, and the channels on which nothing is attempted twice. -/
structure Policies where
  defaults : Policy := {}
  channels : Dict Policy.Override := ∅
  blacklist : Names := ∅

namespace Policies

/-- Takes the place of what was set for the channel before. -/
def set (ps : Policies) (channel : String) (o : Policy.Override) : Policies :=
  { ps with channels := ps.channels.insert channel o }

def forbid (ps : Policies) (channel : String) : Policies :=
  { ps with blacklist := ps.blacklist.add channel }

/-- The policy of a channel, whether or not the channel is blacklisted. -/
def resolve (ps : Policies) (channel : String) : Policy :=
  match ps.channels.get? channel with
  | some o => o.apply ps.defaults
  | none => ps.defaults

def isBlacklisted (ps : Policies) (channel : String) : Bool := ps.blacklist.contains channel

/-- A policy as it is used on a channel. -/
def limit (ps : Policies) (channel : String) (p : Policy) : Policy :=
  if ps.isBlacklisted channel then { p with maxAttempts := 1 } else p

def effective (ps : Policies) (channel : String) : Policy := ps.limit channel (ps.resolve channel)

def readChannels : List String :=
  ["get-website-schema", "get-website-files", "read-website-file", "get-website-config"]

/-- Channels whose operations must not be repeated. -/
def onceChannels : List String :=
  ["build-website", "save-website-file", "delete-website", "create-website", "deploy-website"]

def builtin (defaults : Policy) : Policies :=
  let plain : Policies := { defaults := defaults }
  let reading := readChannels.foldl
    (fun ps channel => ps.set channel { maxAttempts := some 3 }) plain
  let all := reading.set "check-dns"
    { maxAttempts := some 5, baseDelay := some (Span.ofSeconds 2) }
  onceChannels.foldl forbid all

end Policies

end Resilience
