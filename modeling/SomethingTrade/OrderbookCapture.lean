import SomethingTrade.Conveyor
import SomethingTrade.MetricSeries
import SomethingTrade.SnapshotRefusal

/-!
# A Capture of the Orderbook

A capture runs two tasks around one processor. The reader puts the depth updates of the stream
into a bounded queue and drops those that find it full. The consumer waits for the queue to fill,
fetches a snapshot, and then takes updates from the queue one by one; it fetches a new snapshot
whenever an update shows that the book is lost, and checks for staleness when no update comes.

## Representation

* The tasks share one thread, and only give way where they await. So a run is a list of acts, one
  for each stretch between two awaits, in any order the event loop may choose; an act that its
  task is not ready for does nothing.
* An act carries the readings of the clocks it takes, and what the world answers: the event of
  the stream, the snapshot or the failure of its request.
* The queue monitor is a record of the counters the processor touches (`QueueMonitor`, inside the
  processor) and of the rest (`QueueLoad`, beside it); `Capture.monitor` puts them together.

## Main results

* `captureMachine`: the capture as one machine.
-/

namespace SomethingTrade

open OrderbookPhase41Processor

/-! ### The queue monitor -/

/-- Append to a deque: a full one gives up its first value. -/
def appendBounded {α : Type*} (maxlen : ℕ) (values : List α) (value : α) : List α :=
  (if values.length < maxlen then values else values.tail) ++ [value]

/-- What the queue monitor measures beside its event counters. -/
structure QueueLoad where
  queueCurrentSize : ℤ
  queueMaxSize : ℤ
  queueDroppedMessages : ℕ
  enqueueToDequeueLagMsMax : ℚ
  maxProcessingLagMs : ℚ
  lagSamples : List ℚ
  processingLagSamples : List ℚ
  snapshotRequestDurationSamples : List ℚ
  snapshotApplyDurationSamples : List ℚ
  queueDepthSamples : List ℤ
  queuePutBlockSamples : List ℚ
  queuePutBlockCount : ℕ
  deriving DecidableEq

/-- The queue monitor. -/
structure QueueBackpressureMonitor where
  events : QueueMonitor
  load : QueueLoad
  deriving DecidableEq

/-- Refresh the total of the backpressure events. -/
def QueueMonitor.refreshBackpressureTotal (q : QueueMonitor) : QueueMonitor :=
  { q with
    queueBackpressureEvents := q.queueSizeBackpressureEvents + q.queueLagBackpressureEvents +
      q.processingLagBackpressureEvents + q.snapshotBlockingLagEvents }

namespace QueueBackpressureMonitor

/-- The number of samples each deque keeps. -/
def sampleCapacity : ℕ := 4096

/-- The capacity the monitor is created with. -/
def capacity : ℤ := 1024

/-- The processing lag that counts as severe, in milliseconds. -/
def processingLagSevereMs : ℚ := 50

/-- The time of a snapshot request that counts as blocking, in milliseconds. -/
def snapshotBlockingLagMs : ℚ := 250

/-- The queue is so full that it counts as backpressure. -/
def isBackpressured (queueSize : ℤ) : Prop :=
  0 < capacity ∧ truncate (capacity * (4 / 5)) ≤ queueSize

instance (queueSize : ℤ) : Decidable (isBackpressured queueSize) :=
  inferInstanceAs (Decidable (_ ∧ _))

variable (m : QueueBackpressureMonitor)

/-- Note that an item is about to be put into the queue. -/
def recordEnqueue (payload : QueuePayload) (enqueueMonotonicNs queueSize : ℤ) :
    QueueBackpressureMonitor × QueueEnvelope :=
  ({ events :=
      if isBackpressured queueSize then
        { m.events with
          queueSizeBackpressureEvents := m.events.queueSizeBackpressureEvents + 1
          }.refreshBackpressureTotal
      else m.events
     load :=
      { m.load with
        queueCurrentSize := queueSize
        queueMaxSize := max m.load.queueMaxSize queueSize
        queueDepthSamples := appendBounded sampleCapacity m.load.queueDepthSamples queueSize } },
    { payload := payload
      enqueueMonotonicNs := enqueueMonotonicNs
      queueSizeAtEnqueue := queueSize
      queuePutEndMonotonicNs := none })

/-- Note that an item was taken out of the queue; its lag in milliseconds. -/
def recordDequeue (severeLagMs : ℚ) (envelope : QueueEnvelope)
    (dequeueMonotonicNs queueSize : ℤ) : QueueBackpressureMonitor × ℚ :=
  let lagMs : ℚ := (dequeueMonotonicNs - envelope.enqueueMonotonicNs) / 1000000
  ({ events :=
      if lagMs > severeLagMs then
        { m.events with
          queueLagBackpressureEvents := m.events.queueLagBackpressureEvents + 1
          }.refreshBackpressureTotal
      else m.events
     load :=
      { m.load with
        queueCurrentSize := queueSize
        enqueueToDequeueLagMsMax := max m.load.enqueueToDequeueLagMsMax lagMs
        lagSamples := appendBounded sampleCapacity m.load.lagSamples lagMs } },
    lagMs)

/-- Note that an item was processed. -/
def recordProcessingDone (dequeueMonotonicNs processingDoneMonotonicNs : ℤ) :
    QueueBackpressureMonitor :=
  let lagMs : ℚ := (processingDoneMonotonicNs - dequeueMonotonicNs) / 1000000
  { events :=
      if lagMs > processingLagSevereMs then
        { m.events with
          processingLagBackpressureEvents := m.events.processingLagBackpressureEvents + 1
          }.refreshBackpressureTotal
      else m.events
    load :=
      { m.load with
        maxProcessingLagMs := max m.load.maxProcessingLagMs lagMs
        processingLagSamples :=
          appendBounded sampleCapacity m.load.processingLagSamples lagMs } }

def recordSnapshotRequestDuration (durationMs : ℚ) : QueueBackpressureMonitor :=
  { events :=
      if durationMs > snapshotBlockingLagMs then
        { m.events with
          snapshotBlockingLagEvents := m.events.snapshotBlockingLagEvents + 1
          }.refreshBackpressureTotal
      else m.events
    load :=
      { m.load with
        snapshotRequestDurationSamples :=
          appendBounded sampleCapacity m.load.snapshotRequestDurationSamples durationMs } }

def recordSnapshotApplyDuration (durationMs : ℚ) : QueueBackpressureMonitor :=
  { m with
    load :=
      { m.load with
        snapshotApplyDurationSamples :=
          appendBounded sampleCapacity m.load.snapshotApplyDurationSamples durationMs } }

/-- Note the time of a put; the reader's puts never block. -/
def recordQueuePutDuration (durationMs : ℚ) (blocked : Bool) : QueueBackpressureMonitor :=
  { m with
    load :=
      { m.load with
        queuePutBlockSamples :=
          appendBounded sampleCapacity m.load.queuePutBlockSamples (max 0 durationMs)
        queuePutBlockCount := m.load.queuePutBlockCount + if blocked then 1 else 0 } }

/-- Count dropped messages. -/
def recordDrops (count : ℕ) : QueueBackpressureMonitor :=
  { events :=
      { m.events with
        queueSizeBackpressureEvents := m.events.queueSizeBackpressureEvents + count
        }.refreshBackpressureTotal
    load := { m.load with queueDroppedMessages := m.load.queueDroppedMessages + count } }

end QueueBackpressureMonitor

/-- Take the item at the front of a queue, if there is one. -/
def EnvelopeQueue.getNowait (q : EnvelopeQueue) : Option (QueueEnvelope × EnvelopeQueue) :=
  match hitems : q.items with
  | [] => none
  | envelope :: rest =>
      some (envelope,
        { q with
          items := rest
          fits := fun hpos => by
            have hfits := q.fits hpos
            rw [hitems, List.length_cons] at hfits
            omega })

/-! ### Lifecycle -/

namespace WSLifecycleTracker

def onConnect (t : WSLifecycleTracker) : WSLifecycleTracker :=
  { t with counters := { t.counters with connectCount := t.counters.connectCount + 1 } }

def onDisconnect (t : WSLifecycleTracker) : WSLifecycleTracker :=
  { t with counters := { t.counters with disconnectCount := t.counters.disconnectCount + 1 } }

def onSnapshotRefresh (t : WSLifecycleTracker) : WSLifecycleTracker :=
  { t with counters :=
      { t.counters with snapshotRefreshCount := t.counters.snapshotRefreshCount + 1 } }

def onQueueBackpressure (t : WSLifecycleTracker) (count : ℕ) : WSLifecycleTracker :=
  { t with counters :=
      { t.counters with queueBackpressureEvents := t.counters.queueBackpressureEvents + count } }

end WSLifecycleTracker

/-! ### The capture -/

/-- The arguments of a capture. -/
structure CaptureArgs where
  symbol : String
  durationSec : ℚ
  depthN : ℤ

/-- Where the consumer stands. -/
inductive CapturePhase
  /-- It sleeps until the queue has an update, or until a time. -/
  | buffering (bufferDeadline : ℚ)
  /-- It awaits the answer to a snapshot request made at a time. -/
  | fetching (attempt : ℕ) (requestStartNs : ℤ)
  /-- It sleeps before another attempt. -/
  | pausing (attempt : ℕ)
  /-- It awaits an update. -/
  | consuming
  /-- The capture is over; it may have ended by an exception. -/
  | finished (raised : Bool)
  deriving DecidableEq

/-- The state of a capture. The deadline is set when the first snapshot is in. -/
structure Capture where
  processor : OrderbookPhase41Processor
  queue : EnvelopeQueue
  load : QueueLoad
  deadline : Option ℚ
  phase : CapturePhase

/-- The order book in a snapshot of the exchange. -/
structure DepthSnapshot where
  lastUpdateId : ℤ
  bids : List LevelRow
  asks : List LevelRow

/-- The clock readings after an answered snapshot request, in the order they are taken; the last
two are of the clock of the deadline, to set it and to check it. -/
structure SnapshotReadings where
  response : ℤ
  applyStart : ℤ
  utcNowNs : ℤ
  applyEnd : ℤ
  purge : ℤ
  deadlineSet : ℚ
  deadlineCheck : ℚ

/-- The clock readings around an update taken from the queue. -/
structure DequeueReadings where
  dequeue : ℤ
  depth : DepthReadings
  done : ℤ
  requestStart : ℤ
  deadlineCheck : ℚ

/-- What happens next in a capture. -/
inductive CaptureAct
  /-- The stream yields an event to the reader. -/
  | read (payload : QueuePayload) (putNs putEndNs : ℤ)
  /-- The consumer wakes up and looks at the queue. -/
  | lookAtBuffer (time : ℚ) (requestStartNs : ℤ)
  /-- The snapshot request is answered, or fails. -/
  | answer (snapshot : Option DepthSnapshot) (r : SnapshotReadings)
  /-- The pause after a snapshot without a bridge is over. -/
  | wake (requestStartNs : ℤ) (deadlineSet deadlineCheck : ℚ)
  /-- The consumer gets an update. -/
  | dequeue (r : DequeueReadings)
  /-- The consumer gets no update in time. -/
  | timeout (now clock : ℤ) (deadlineCheck : ℚ)

/-- What comes of an act. -/
inductive CaptureReply
  | enqueued (envelope : QueueEnvelope)
  | dropped (envelope : QueueEnvelope)
  | purged (loaded : ProcessorReply) (purge : PostSnapshotQueuePurgeResult)
  | processed (envelope : QueueEnvelope) (reply : ProcessorReply)
  | stalePeriods (periods : List StalePeriod)
  | none

/-- The size of the queue of a capture. -/
def captureQueueSize : ℤ := 4096

/-- How often a snapshot is fetched until an update bridges it. -/
def maxSnapshotAttempts : ℕ := 3

/-- How long the consumer waits for the first update, in seconds. -/
def initialBufferTimeoutSec : ℚ := 5

namespace CaptureArgs

/-- The settings of the processor of a capture. -/
def settings (a : CaptureArgs) (now : ℤ) : Phase41Settings where
  symbols := [upper a.symbol]
  depthN := a.depthN
  staleAfterMs := 1000
  feedReceiveStaleAfterMs := some 60000
  queueLagWarningMs := 50
  queueLagSevereMs := 250
  monotonicNow := now

/-- A capture that starts when the clocks read `now` and `time`. -/
def start (a : CaptureArgs) (now : ℤ) (time : ℚ) : Capture where
  processor :=
    let p := OrderbookPhase41Processor.init (a.settings now)
    { p with lifecycle := p.lifecycle.onConnect }
  queue := ⟨[], captureQueueSize, fun h => h.le⟩
  load := ⟨0, 0, 0, 0, 0, [], [], [], [], [], [], 0⟩
  deadline := none
  phase := .buffering (time + initialBufferTimeoutSec)

end CaptureArgs

namespace Capture

/-- The queue monitor. -/
def monitor (s : Capture) : QueueBackpressureMonitor := ⟨s.processor.queueMonitor, s.load⟩

/-- Store the queue monitor. -/
def setMonitor (s : Capture) (m : QueueBackpressureMonitor) : Capture :=
  { s with processor := { s.processor with queueMonitor := m.events }, load := m.load }

/-- Change the processor. -/
def setProcessor (s : Capture) (p : OrderbookPhase41Processor) : Capture :=
  { s with processor := p }

/-- Change the lifecycle tracker. -/
def updateLifecycle (s : Capture) (f : WSLifecycleTracker → WSLifecycleTracker) : Capture :=
  { s with processor := { s.processor with lifecycle := f s.processor.lifecycle } }

/-- The `finally` part: the reader is stopped and the capture ends. -/
def finish (s : Capture) (raised : Bool) : Capture :=
  let s := s.updateLifecycle WSLifecycleTracker.onDisconnect
  { s with processor := s.processor.setCaptureActive false, phase := .finished raised }

/-- The head of the consumer loop: go on until the deadline. -/
def loopHead (s : Capture) (time : ℚ) : Capture :=
  match s.deadline with
  | some deadline => if time < deadline then { s with phase := .consuming } else s.finish false
  | none => s.finish false

/-- After a snapshot load: the first one sets the deadline. -/
def afterLoad (s : Capture) (a : CaptureArgs) (deadlineSet deadlineCheck : ℚ) : Capture :=
  match s.deadline with
  | some _ => s.loopHead deadlineCheck
  | none => { s with deadline := some (deadlineSet + a.durationSec) }.loopHead deadlineCheck

/-- Request a snapshot. -/
def requestSnapshot (s : Capture) (a : CaptureArgs) (attempt : ℕ) (requestStartNs : ℤ) : Capture :=
  let s := s.updateLifecycle WSLifecycleTracker.onSnapshotRefresh
  let p := s.processor.markSnapshotRecoveryActive (upper a.symbol) true
  let p := p.setState (upper a.symbol) (p.stateFor (upper a.symbol) requestStartNs)
  { s with processor := p, phase := .fetching attempt requestStartNs }

/-- Put an event into the queue, or drop it when the queue is full. -/
def enqueue (s : Capture) (payload : QueuePayload) (putNs putEndNs : ℤ) :
    Capture × CaptureReply :=
  let (m, envelope) := s.monitor.recordEnqueue payload putNs (s.queue.items.length + 1)
  let s := s.setMonitor m
  match s.queue.putNowait { envelope with queuePutEndMonotonicNs := some putEndNs } with
  | some queue =>
      let s := { s with queue := queue }
      (s.setMonitor (s.monitor.recordQueuePutDuration ((putEndNs - putNs : ℚ) / 1000000) false),
        .enqueued { envelope with queuePutEndMonotonicNs := some putEndNs })
  | none =>
      let s := s.setMonitor (s.monitor.recordDrops 1)
      (s.updateLifecycle WSLifecycleTracker.onQueueDropped, .dropped envelope)

/-- Give an event to the reader, which keeps the depth updates until the capture is over. -/
def read (s : Capture) (payload : QueuePayload) (putNs putEndNs : ℤ) : Capture × CaptureReply :=
  match s.phase with
  | .finished _ => (s, .none)
  | _ =>
      match payload with
      | .other _ => (s, .none)
      | .depthUpdate _ => s.enqueue payload putNs putEndNs

/-- Look at the queue: go on when it has an update or the time is over. -/
def lookAtBuffer (s : Capture) (a : CaptureArgs) (time : ℚ) (requestStartNs : ℤ) :
    Capture × CaptureReply :=
  match s.phase with
  | .buffering bufferDeadline =>
      if s.queue.items = [] ∧ time < bufferDeadline then (s, .none)
      else (s.requestSnapshot a 0 requestStartNs, .none)
  | _ => (s, .none)

/-- The load of a snapshot. -/
def snapshotLoad (a : CaptureArgs) (snapshot : DepthSnapshot) (r : SnapshotReadings) :
    SnapshotLoad where
  symbol := upper a.symbol
  bids := snapshot.bids
  asks := snapshot.asks
  lastUpdateId := snapshot.lastUpdateId
  localRecvMonotonicNs := some r.applyStart
  generation := none
  snapshotApplyMonotonicNs := some r.applyStart
  monotonicNow := r.applyStart
  utcNowNs := r.utcNowNs

/-- Load a snapshot that was requested at a time. -/
def applySnapshot (s : Capture) (a : CaptureArgs) (requestStartNs : ℤ) (snapshot : DepthSnapshot)
    (r : SnapshotReadings) : Capture × ProcessorReply :=
  let s := s.setMonitor
    (s.monitor.recordSnapshotRequestDuration ((r.response - requestStartNs : ℚ) / 1000000))
  let (p, loaded) := s.processor.loadSnapshot (snapshotLoad a snapshot r)
  let s := s.setProcessor p
  (s.setMonitor
    (s.monitor.recordSnapshotApplyDuration ((r.applyEnd - r.applyStart : ℚ) / 1000000)), loaded)

/-- Purge the queue after a snapshot. Updates that cannot be put back are counted in both parts of
the monitor. -/
def purgeQueue (s : Capture) (a : CaptureArgs) (snapshotLastUpdateId purgeNs : ℤ) :
    Capture × PostSnapshotQueuePurgeResult :=
  let (p, queue, purge) := s.processor.purgeQueueAfterSnapshot s.queue (upper a.symbol)
    snapshotLastUpdateId purgeNs
  let dropped := (purgeQueuedDepthUpdatesAfterSnapshot s.queue.items snapshotLastUpdateId
    (upper a.symbol)).preserved.length - queue.items.length
  ({ s with
      processor := p.markSnapshotRecoveryActive (upper a.symbol) false
      queue := queue
      load := { s.load with queueDroppedMessages := s.load.queueDroppedMessages + dropped } },
    purge)

/-- Load a snapshot and purge the queue. -/
def loadSnapshot (s : Capture) (a : CaptureArgs) (requestStartNs : ℤ) (snapshot : DepthSnapshot)
    (r : SnapshotReadings) : Capture × ProcessorReply × PostSnapshotQueuePurgeResult :=
  let (s, loaded) := s.applySnapshot a requestStartNs snapshot r
  let (s, purge) := s.purgeQueue a snapshot.lastUpdateId r.purge
  (s, loaded, purge)

/-- The answer to a snapshot request. A snapshot without a bridge is followed by a pause. -/
def answer (s : Capture) (a : CaptureArgs) (snapshot : Option DepthSnapshot)
    (r : SnapshotReadings) : Capture × CaptureReply :=
  match s.phase with
  | .fetching attempt requestStartNs =>
      match snapshot with
      | none => (s.finish true, .none)
      | some snapshot =>
          let (s, loaded, purge) := s.loadSnapshot a requestStartNs snapshot r
          if purge.bridgeMissingAfterSnapshot then
            ({ s with phase := .pausing attempt }, .purged loaded purge)
          else (s.afterLoad a r.deadlineSet r.deadlineCheck, .purged loaded purge)
  | _ => (s, .none)

/-- The pause is over: another attempt, or go on without a bridge. -/
def wake (s : Capture) (a : CaptureArgs) (requestStartNs : ℤ) (deadlineSet deadlineCheck : ℚ) :
    Capture × CaptureReply :=
  match s.phase with
  | .pausing attempt =>
      if attempt + 1 < maxSnapshotAttempts then
        (s.requestSnapshot a (attempt + 1) requestStartNs, .none)
      else (s.afterLoad a deadlineSet deadlineCheck, .none)
  | _ => (s, .none)

/-- The outcomes of an update after which a new snapshot is fetched. -/
def refreshStatuses : List ApplyStatus :=
  [.sequenceGapOrReset, .sequenceBridgeFailed, .previousFinalUpdateIdMismatch,
    .invalidDeltaLevels, .deltaBeforeSnapshot]

/-- Process an update that was taken from the queue. -/
def process (s : Capture) (a : CaptureArgs) (envelope : QueueEnvelope) (update : DepthUpdate)
    (r : DequeueReadings) : Capture × CaptureReply :=
  let backpressureBefore := s.processor.queueMonitor.queueBackpressureEvents
  let (m, lagMs) := s.monitor.recordDequeue s.processor.validator.queueLagSevereMs envelope
    r.dequeue s.queue.items.length
  let s := s.setMonitor m
  let (p, reply) := s.processor.processDepthUpdate update (some lagMs) r.depth
  let s := s.setProcessor p
  match reply with
  | .applied result _ =>
      let s := s.setMonitor (s.monitor.recordProcessingDone r.dequeue r.done)
      let s := s.updateLifecycle fun t =>
        t.onQueueBackpressure (s.processor.queueMonitor.queueBackpressureEvents -
          backpressureBefore)
      if result.status ∈ refreshStatuses then
        (s.requestSnapshot a 0 r.requestStart, .processed envelope reply)
      else (s.loopHead r.deadlineCheck, .processed envelope reply)
  | _ => (s.finish true, .processed envelope reply)

/-- Take an update from the queue. -/
def dequeue (s : Capture) (a : CaptureArgs) (r : DequeueReadings) : Capture × CaptureReply :=
  match s.phase with
  | .consuming =>
      match s.queue.getNowait with
      | none => (s, .none)
      | some (envelope, queue) =>
          let s := { s with queue := queue }
          match envelope.payload with
          | .depthUpdate update => s.process a envelope update r
          | .other _ => (s.finish true, .processed envelope .raised)
  | _ => (s, .none)

/-- Check for staleness when no update comes. -/
def timeout (s : Capture) (now clock : ℤ) (deadlineCheck : ℚ) : Capture × CaptureReply :=
  match s.phase with
  | .consuming =>
      let (p, periods) := s.processor.checkStalePeriods (some now) [] none s.queue.items.length
        clock
      ((s.setProcessor p).loopHead deadlineCheck, .stalePeriods periods)
  | _ => (s, .none)

end Capture

/-- The capture as a machine. -/
def captureMachine (a : CaptureArgs) : Machine Capture CaptureAct CaptureReply where
  step s
    | .read payload putNs putEndNs => s.read payload putNs putEndNs
    | .lookAtBuffer time requestStartNs => s.lookAtBuffer a time requestStartNs
    | .answer snapshot r => s.answer a snapshot r
    | .wake requestStartNs deadlineSet deadlineCheck =>
        s.wake a requestStartNs deadlineSet deadlineCheck
    | .dequeue r => s.dequeue a r
    | .timeout now clock deadlineCheck => s.timeout now clock deadlineCheck

end SomethingTrade
