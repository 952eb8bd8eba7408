import Resilience.Dispatch.Registry

/-!
The delivery of one report: the reporter is called until it takes the report or the last attempt has
failed, with a wait after each attempt that another one follows.
-/

namespace Resilience

namespace Report

/-- What is done to deliver a report. -/
inductive Delivery.Act where
  | called (report : Report) (reply : Reply)
  | waited (wait : Span)

structure Delivery where
  /-- First to last. -/
  acts : List Delivery.Act
  /-- Whether the reporter took the report. -/
  delivered : Bool

def Delivery.after (acts : List Act) (d : Delivery) : Delivery := { d with acts := acts ++ d.acts }

end Report

namespace Reporting

/-- Makes attempt `n`, and the ones that come after it, of which there are at most `left`. -/
def attempt (s : Reporting) (answer : Nat → Reply) (report : Report) (n : Nat) :
    (left : Nat) → Report.Delivery
  | 0 => ⟨[.called report (answer n)], answer n = .ok⟩
  | left + 1 =>
    if answer n = .ok then ⟨[.called report .ok], true⟩
    else
      (attempt s answer report (n + 1) left).after
        [.called report (answer n), .waited (s.delayAfter n)]

/-- Delivers a report to a reporter. `answer` is what that answers to the attempts, which are counted
from one. -/
def deliver (s : Reporting) (answer : Nat → Reply) (report : Report) : Report.Delivery :=
  s.attempt answer report 1 (s.attemptLimit - 1)

end Reporting

end Resilience
