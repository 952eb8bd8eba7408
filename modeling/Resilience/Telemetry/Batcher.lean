import Resilience.Binary64
import Resilience.Telemetry.Event
import Resilience.Telemetry.SinkConfig

/-!
The batcher collects telemetry events and sends them to a sink in batches. It is a machine whose
actions are what callers ask for, what its timer does, and what the sink answers. A batch that has
been taken off the queue is a sending until the sink has answered.
-/

namespace Resilience.Telemetry

structure BatcherSettings where
  enabled : Bool := true
  samplingRate : Binary64 := Binary64.one
  /-- The length of the queue at which a batch is sent. -/
  batchSize : Nat := 10
  flushInterval : Span := Span.ofSeconds 30
  maxFieldLength : Nat := 10000
  /-- How long the sink's settings are trusted. -/
  configTtl : Span := Span.ofSeconds 60

namespace BatcherSettings

/-- Shares are between nothing and all; what is no number is nothing. -/
def withSamplingRate (s : BatcherSettings) (rate : Binary64) : BatcherSettings :=
  { s with samplingRate := rate.clampUnit }

/-- A batch has one event at least. -/
def withBatchSize (s : BatcherSettings) (size : Nat) : BatcherSettings :=
  { s with batchSize := max 1 size }

/-- Whether an event is kept for which this number, from zero up to but not including one, was
drawn. -/
def samples (s : BatcherSettings) (draw : Binary64) : Bool :=
  if !(Binary64.zero false).lt s.samplingRate then false
  else if !s.samplingRate.lt Binary64.one then true
  else draw.lt s.samplingRate

end BatcherSettings

/-- What becomes of a batch that was to be sent. -/
inductive Fate where
  /-- The sink did not want any telemetry. -/
  | unwanted
  | accepted
  | rejected
  /-- The timer was ended while it sent the batch. -/
  | abandoned
deriving DecidableEq

/-- What has become of the events, of which there are taken to be fewer than 2 ^ 64. -/
structure Counts where
  admitted : Nat := 0
  /-- Events that were not queued, or that the sink did not want. -/
  dropped : Nat := 0
  flushed : Nat := 0
  failed : Nat := 0
deriving DecidableEq

/-- Counts the events of a batch. Those of an abandoned one are not counted. -/
def Counts.close (c : Counts) (fate : Fate) (n : Nat) : Counts :=
  match fate with
  | .unwanted => { c with dropped := c.dropped + n }
  | .accepted => { c with flushed := c.flushed + n }
  | .rejected => { c with failed := c.failed + n }
  | .abandoned => c

/-- How far a batch has come. -/
inductive Stage where
  /-- It has not been asked yet whether the sink wants it. -/
  | waiting
  | fetching
  | reporting
deriving DecidableEq

/-- A batch on its way to the sink. -/
structure Sending where
  id : Nat
  batch : List Event
  /-- Whether the timer waits for it. -/
  ofTimer : Bool
  stage : Stage := .waiting

inductive SinkCall where
  | config
  | event (payload : Payload)
  | batch (payloads : List Payload)

/-- What an action comes to. -/
inductive Notice where
  /-- An event was given to the batcher, which queued it or not. -/
  | recorded (event : Event) (admitted : Bool)
  /-- A batch was taken off the queue. -/
  | taken (batch : List Event)
  /-- There was nobody to send a batch that had been taken off the queue. -/
  | discarded (batch : List Event)
  /-- The sink was called for a batch. -/
  | called (id : Nat) (call : SinkCall)
  /-- The sink answered whether it wants telemetry. -/
  | told (now : Nat) (reply : ConfigReply)
  | ended (id : Nat) (batch : List Event) (fate : Fate)

structure Batcher where
  settings : BatcherSettings
  queue : List Event := []
  counts : Counts := {}
  cache : ConfigCache := { ttl := settings.configTtl }
  /-- Batches that were taken off the queue, oldest first. -/
  sendings : List Sending := []
  nextId : Nat := 0
  timer : Bool := false

namespace Batcher

/-! ## Off the queue -/

/-- Sends a batch; one without events is nothing to send. -/
def send (b : Batcher) (batch : List Event) (ofTimer : Bool) : Batcher :=
  if batch.isEmpty then b
  else
    { b with
      sendings := b.sendings ++ [{ id := b.nextId, batch, ofTimer }]
      nextId := b.nextId + 1 }

/-- Sends a full batch in the background. That takes someone to do it; without, the batch is
lost. -/
def dispatch (b : Batcher) (batch : List Event) (background : Bool) : Batcher × List Notice :=
  if background then (b.send batch false, [])
  else
    ({ b with counts := { b.counts with failed := b.counts.failed + batch.length } },
      [.discarded batch])

/-- Queues an event. If the queue is long enough then, takes a full batch off it. -/
def enqueue (b : Batcher) (e : Event) : Batcher × Option (List Event) :=
  let b := { b with
    queue := b.queue ++ [e]
    counts := { b.counts with admitted := b.counts.admitted + 1 } }
  let size := b.settings.batchSize
  if size ≤ b.queue.length then
    ({ b with queue := b.queue.drop size }, some (b.queue.take size))
  else (b, none)

/-- Records an event for which a number was drawn. Answers whether it was admitted. -/
def record (b : Batcher) (e : Event) (draw : Binary64) (background : Bool) :
    Batcher × Bool × List Notice :=
  if !b.settings.enabled || !b.settings.samples draw then
    ({ b with counts := { b.counts with dropped := b.counts.dropped + 1 } }, false,
      [.recorded e false])
  else
    match b.enqueue e with
    | (b, some batch) =>
      let (b, notices) := b.dispatch batch background
      (b, true, .recorded e true :: .taken batch :: notices)
    | (b, none) => (b, true, [.recorded e true])

/-- Sends everything that is queued. Answers how many events that are. -/
def sendAll (b : Batcher) (ofTimer : Bool) : Batcher × Nat × List Notice :=
  ({ b with queue := [] }.send b.queue ofTimer, b.queue.length, [.taken b.queue])

/-! ## On the way -/

def find? (b : Batcher) (id : Nat) : Option Sending := b.sendings.find? (·.id = id)

def setStage (b : Batcher) (id : Nat) (stage : Stage) : Batcher :=
  { b with sendings := b.sendings.map fun s => if s.id = id then { s with stage } else s }

/-- Ends a sending. -/
def close (b : Batcher) (s : Sending) (fate : Fate) : Batcher × List Notice :=
  ({ b with
      sendings := b.sendings.filter (·.id ≠ s.id)
      counts := b.counts.close fate s.batch.length },
    [.ended s.id s.batch fate])

/-- How a batch is given to the sink: a single event for itself. -/
def reportOf (b : Batcher) (batch : List Event) : SinkCall :=
  match batch.map (·.payload b.settings.maxFieldLength) with
  | [payload] => .event payload
  | payloads => .batch payloads

/-- Gives a batch to the sink, or drops it. -/
def decide (b : Batcher) (s : Sending) (wanted : Bool) : Batcher × List Notice :=
  if wanted then (b.setStage s.id .reporting, [.called s.id (b.reportOf s.batch)])
  else b.close s .unwanted

/-- A sending that has waited goes on, unless another one is asking the sink. -/
def proceed (b : Batcher) (now : Nat) (id : Nat) : Batcher × List Notice :=
  match b.find? id with
  | some s =>
    if s.stage ≠ .waiting || b.sendings.any (·.stage = .fetching) then (b, [])
    else
      match b.cache.fresh? (Span.ofMillis now) with
      | some wanted => b.decide s wanted
      | none => (b.setStage id .fetching, [.called id .config])
  | none => (b, [])

/-- The sink has answered whether it wants telemetry. -/
def answerConfig (b : Batcher) (now : Nat) (id : Nat) (reply : ConfigReply) :
    Batcher × List Notice :=
  match b.find? id with
  | some s =>
    if s.stage ≠ .fetching then (b, [])
    else
      let (b, notices) := { b with cache := b.cache.store (Span.ofMillis now) reply }.decide s reply.accepts
      (b, .told now reply :: notices)
  | none => (b, [])

def answerReport (b : Batcher) (id : Nat) (taken : Bool) : Batcher × List Notice :=
  match b.find? id with
  | some s =>
    if s.stage ≠ .reporting then (b, [])
    else b.close s (if taken then .accepted else .rejected)
  | none => (b, [])

/-! ## The timer -/

/-- Whether the timer waits for the sink. -/
def timerWaits (b : Batcher) : Bool := b.sendings.any (·.ofTimer)

/-- The timer sends everything that is queued, unless it waits for the sink. -/
def tick (b : Batcher) : Batcher × List Notice :=
  if !b.timer || b.timerWaits then (b, [])
  else
    let (b, _, notices) := b.sendAll true
    (b, notices)

/-- Ends the timer, and with it what it waits for. -/
def abortTimer (b : Batcher) : Batcher × List Notice :=
  ({ b with timer := false, sendings := b.sendings.filter (!·.ofTimer) },
    (b.sendings.filter (·.ofTimer)).map fun s => .ended s.id s.batch .abandoned)

/-- Starts the timer; one that runs already is ended. -/
def start (b : Batcher) : Batcher × List Notice :=
  let (b, notices) := b.abortTimer
  ({ b with timer := true }, notices)

/-- Stops the timer. What is queued stays so. -/
def stop (b : Batcher) : Batcher × List Notice := b.abortTimer

/-! ## All together -/

inductive Action where
  | record (event : Event) (draw : Binary64) (background : Bool)
  | flush
  | tick
  | start
  | stop
  | proceed (now : Nat) (id : Nat)
  | answerConfig (now : Nat) (id : Nat) (reply : ConfigReply)
  | answerReport (id : Nat) (taken : Bool)

def step (b : Batcher) : Action → Batcher × List Notice
  | .record e draw background =>
    let (b, _, notices) := b.record e draw background
    (b, notices)
  | .flush =>
    let (b, _, notices) := b.sendAll false
    (b, notices)
  | .tick => b.tick
  | .start => b.start
  | .stop => b.stop
  | .proceed now id => b.proceed now id
  | .answerConfig now id reply => b.answerConfig now id reply
  | .answerReport id taken => b.answerReport id taken

def run (b : Batcher) : List Action → Batcher × List Notice
  | [] => (b, [])
  | a :: rest =>
    let (b, notices) := b.step a
    let (b, more) := b.run rest
    (b, notices ++ more)

end Batcher

end Resilience.Telemetry
