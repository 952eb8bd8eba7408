import Resilience.Dispatch.Registry
import Resilience.Telemetry.Batcher
import Resilience.Time.Clock

/-!
A batcher with a sink that answers at once, on a clock. Whatever is on the way is sent before time
goes on, and the timer fires at whole multiples of its interval.
-/

namespace Resilience.Telemetry

/-- What a sink answers to its calls, each kind counted from zero. -/
structure Sink where
  config : Nat → ConfigReply := fun _ => .enabled
  reply : Nat → Reply := fun _ => .ok

/-- What a sink saw and answered. -/
inductive SinkNotice where
  | config (reply : ConfigReply)
  | event (payload : Payload) (reply : Reply)
  | batch (payloads : List Payload) (reply : Reply)

inductive Ticker where
  | off
  /-- It was started and counts from when it first runs. -/
  | starting
  | since (first : Nat)

structure Shipping where
  batcher : Batcher
  sink : Sink := {}
  /-- The number that is drawn for each event. -/
  draw : Binary64
  fetches : Nat := 0
  reports : Nat := 0
  ticker : Ticker := .off
  notices : List SinkNotice := []

namespace Shipping

def report (s : Shipping) (id : Nat) (notice : Reply → SinkNotice) : Shipping :=
  let reply := s.sink.reply s.reports
  { s with
    batcher := (s.batcher.answerReport id (reply = .ok)).1
    reports := s.reports + 1
    notices := s.notices ++ [notice reply] }

/-- The sink answers the reports that were made for a sending. -/
def reportAll (s : Shipping) (id : Nat) (told : List Notice) : Shipping :=
  told.foldl (fun s notice => match notice with
    | .called _ (.event payload) => s.report id (.event payload)
    | .called _ (.batch payloads) => s.report id (.batch payloads)
    | _ => s) s

/-- A sending goes all its way. -/
def ship (s : Shipping) (now : Nat) (id : Nat) : Shipping :=
  let (batcher, told) := s.batcher.proceed now id
  let s := { s with batcher }
  match told with
  | [.called _ .config] =>
    let reply := s.sink.config s.fetches
    let (batcher, told) := s.batcher.answerConfig now id reply
    let asked : Shipping := { s with
      batcher, fetches := s.fetches + 1, notices := s.notices ++ [.config reply] }
    asked.reportAll id told
  | told => s.reportAll id told

/-- Everything that is on the way is sent, and a timer that was started runs. -/
def settle (s : Shipping) (now : Nat) : Shipping :=
  let s := (s.batcher.sendings.map (·.id)).foldl (·.ship now ·) s
  match s.ticker with
  | .starting => { s with ticker := .since now }
  | _ => s

/-- The first time after now at which the timer fires. An interval without length has none. -/
def nextTick? (s : Shipping) (now : Nat) : Option Nat :=
  match s.ticker with
  | .since first =>
    let interval := s.batcher.settings.flushInterval.nanos
    if interval = 0 then none
    else
      let passed := (Span.between first now).nanos / interval
      some (first + Span.millisUp ⟨(passed + 1) * interval⟩)
  | _ => none

/-- Lets time pass. Once the queue is empty, the timer finds nothing more. -/
def advance (s : Shipping) (now target : Nat) : Shipping :=
  let s := s.settle now
  match s.nextTick? now with
  | some tick =>
    if tick ≤ target then { s with batcher := s.batcher.tick.1 }.settle tick else s
  | none => s

def record (s : Shipping) (e : Event) (background : Bool) : Shipping × Bool :=
  let (batcher, admitted, _) := s.batcher.record e s.draw background
  ({ s with batcher }, admitted)

/-- Sends everything that is queued, and waits for the sink. Answers how many events that were. -/
def flush (s : Shipping) (now : Nat) : Shipping × Nat :=
  let (batcher, n, _) := s.batcher.sendAll false
  ({ s with batcher }.settle now, n)

def start (s : Shipping) : Shipping :=
  { s with batcher := s.batcher.start.1, ticker := .starting }

def stop (s : Shipping) : Shipping :=
  { s with batcher := s.batcher.stop.1, ticker := .off }

end Shipping

end Resilience.Telemetry
