import SomethingTrade.LabeledInput
import SomethingTrade.MarketEvents

/-!
# The Orderbook Processor

The processor that feeds depth updates to the orderbook states, copies and validates the
book after each accepted delta, and emits a clean sample or counts why not. Around it
stand the lifecycle tracker, the backpressure counters and the stale-period checks.

## Representation

* A counter table is a record with one field for each name the source uses. The writer
  is taken to raise nothing, and what is only written to debug files is left out; the
  samples written to the dataset are the reply of the call.
* Each call carries the clock readings it may take, in the order it takes them.
* A copy raises a `KeyError` when an index holds a price the book lacks; the call then
  ends there (`ProcessorReply.raised`) with the effects it had.

## Main results

* `phase41Machine`: the calls of the processor as one machine.
-/

namespace SomethingTrade

/-! ### Lifecycle tracker -/

/-- The lifecycle counters. -/
structure LifecycleCounters where
  connectCount : ℕ
  disconnectCount : ℕ
  reconnectCount : ℕ
  resubscribeCount : ℕ
  snapshotLoadedCount : ℕ
  snapshotRefreshCount : ℕ
  snapshotFailedCount : ℕ
  deltaBeforeSnapshotCount : ℕ
  messagesBeforeReadyCount : ℕ
  stateResetCount : ℕ
  sequenceGapCount : ℕ
  duplicateMessagesDetected : ℕ
  duplicateMessagesSkipped : ℕ
  queueBackpressureEvents : ℕ
  queueDroppedMessages : ℕ
  sampleBlockedByReadyGuard : ℕ
  readyToEmitFalseWarningCount : ℕ
  deriving DecidableEq

/-- The lifecycle tracker. -/
structure WSLifecycleTracker where
  counters : LifecycleCounters
  readyToEmitFalseDurationMsMax : ℚ
  symbolReadyFalseWarnings : Dict String ℕ
  deriving DecidableEq

namespace WSLifecycleTracker

/-- A fresh tracker: every counter starts at zero. -/
def init : WSLifecycleTracker where
  counters := ⟨0, 0, 0, 0, 0, 0, 0, 0, 0, 0, 0, 0, 0, 0, 0, 0, 0⟩
  readyToEmitFalseDurationMsMax := 0
  symbolReadyFalseWarnings := .empty

def onSnapshotLoaded (t : WSLifecycleTracker) : WSLifecycleTracker :=
  { t with counters :=
      { t.counters with snapshotLoadedCount := t.counters.snapshotLoadedCount + 1 } }

def onSnapshotFailed (t : WSLifecycleTracker) : WSLifecycleTracker :=
  { t with counters :=
      { t.counters with snapshotFailedCount := t.counters.snapshotFailedCount + 1 } }

def onDeltaBeforeSnapshot (t : WSLifecycleTracker) : WSLifecycleTracker :=
  { t with counters :=
      { t.counters with
        deltaBeforeSnapshotCount := t.counters.deltaBeforeSnapshotCount + 1
        messagesBeforeReadyCount := t.counters.messagesBeforeReadyCount + 1 } }

def onMessageBeforeReady (t : WSLifecycleTracker) : WSLifecycleTracker :=
  { t with counters :=
      { t.counters with messagesBeforeReadyCount := t.counters.messagesBeforeReadyCount + 1 } }

def onSequenceGap (t : WSLifecycleTracker) : WSLifecycleTracker :=
  { t with counters :=
      { t.counters with
        sequenceGapCount := t.counters.sequenceGapCount + 1
        stateResetCount := t.counters.stateResetCount + 1 } }

def onDuplicate (t : WSLifecycleTracker) : WSLifecycleTracker :=
  { t with counters :=
      { t.counters with
        duplicateMessagesDetected := t.counters.duplicateMessagesDetected + 1
        duplicateMessagesSkipped := t.counters.duplicateMessagesSkipped + 1 } }

def onSampleBlockedByReadyGuard (t : WSLifecycleTracker) : WSLifecycleTracker :=
  { t with counters :=
      { t.counters with
        sampleBlockedByReadyGuard := t.counters.sampleBlockedByReadyGuard + 1 } }

/-- Take over the not-ready statistics of a state: the longest duration, and the warnings
that are new for its symbol. -/
def observeReadyFalse (t : WSLifecycleTracker) (state : OrderbookState) :
    WSLifecycleTracker :=
  let previous := (t.symbolReadyFalseWarnings.get? state.symbol).getD 0
  let count := state.readyFalse.warningCount
  { counters :=
      { t.counters with
        readyToEmitFalseWarningCount :=
          if count > previous then t.counters.readyToEmitFalseWarningCount + (count - previous)
          else t.counters.readyToEmitFalseWarningCount }
    readyToEmitFalseDurationMsMax :=
      if state.readyFalse.durationMsMax > t.readyToEmitFalseDurationMsMax then
        state.readyFalse.durationMsMax
      else t.readyToEmitFalseDurationMsMax
    symbolReadyFalseWarnings :=
      if count > previous then t.symbolReadyFalseWarnings.set state.symbol count
      else t.symbolReadyFalseWarnings }

end WSLifecycleTracker

/-! ### The processor -/

/-- The counters of the processor. -/
structure Phase41Counters where
  messagesReceived : ℕ
  messagesParsed : ℕ
  deltasAccepted : ℕ
  deltasRejected : ℕ
  samplesEmitted : ℕ
  samplesBlocked : ℕ
  firstDeltaBridgeFailedCount : ℕ
  bridgeMissingAfterSnapshotCount : ℕ
  invalidDeltaCount : ℕ
  previousFinalUpdateIdMismatchCount : ℕ
  readyToEmitDisabledCount : ℕ
  cleanSampleSchemaViolationCount : ℕ
  strictMismatchCount : ℕ
  tolerantMismatchCount : ℕ
  crossedBookCount : ℕ
  staleBookCount : ℕ
  activeFeedStaleCount : ℕ
  feedReceiveStaleCount : ℕ
  processorApplyStaleCount : ℕ
  staleResetCount : ℕ
  deriving DecidableEq

/-- A period without messages of a symbol. -/
structure StalePeriod where
  symbol : String
  staleThresholdMs : ℚ
  startedMonotonicNs : ℤ
  endedMonotonicNs : Option ℤ
  maxAgeMs : ℚ
  snapshotReady : Bool
  readyToEmit : Bool
  lastBookUpdateMonotonicNs : Option ℤ
  lastMessageRecvMonotonicNs : Option ℤ
  lastWsMessageRecvMonotonicNs : Option ℤ
  generationId : ℕ
  deriving DecidableEq

/-- The backpressure counters the processor touches. -/
structure QueueMonitor where
  queueSizeBackpressureEvents : ℕ
  queueLagBackpressureEvents : ℕ
  processingLagBackpressureEvents : ℕ
  snapshotBlockingLagEvents : ℕ
  queueBackpressureEvents : ℕ
  deriving DecidableEq

/-- Count a snapshot that blocks the queue and refresh the total. -/
def QueueMonitor.recordSnapshotBlockingLag (q : QueueMonitor) : QueueMonitor :=
  { q with
    snapshotBlockingLagEvents := q.snapshotBlockingLagEvents + 1
    queueBackpressureEvents := q.queueSizeBackpressureEvents + q.queueLagBackpressureEvents +
      q.processingLagBackpressureEvents + (q.snapshotBlockingLagEvents + 1) }

/-- The processor. Sets of symbols are dictionaries to the unit type. -/
structure OrderbookPhase41Processor where
  states : Dict String OrderbookState
  depthN : ℤ
  staleThresholdMs : ℚ
  feedReceiveStaleThresholdMs : ℚ
  validator : OrderbookQualityValidator
  lifecycle : WSLifecycleTracker
  queueMonitor : QueueMonitor
  counters : Phase41Counters
  blockedByQualityError : Dict BookError ℕ
  openStalePeriods : Dict String StalePeriod
  postCaptureWarningSymbols : Dict String Unit
  postSnapshotTraceCounts : Dict String ℕ
  updatesProcessedSinceSnapshot : Dict String ℕ
  lastSnapshotLastUpdateId : Dict String ℤ
  lastWsMessageRecvMonotonicNs : Dict String ℤ
  openProcessorApplyStaleSymbols : Dict String Unit
  processorApplyStaleConsecutiveChecks : Dict String ℕ
  snapshotRecoveryActiveSymbols : Dict String Unit
  captureActive : Bool
  shutdownStarted : Bool
  maxBookAgeMs : ℚ
  lastBookUpdateAgeMsAtReport : Option ℚ
  deriving DecidableEq

/-- The settings a processor is created with. -/
structure Phase41Settings where
  symbols : List String
  depthN : ℤ
  staleAfterMs : ℚ
  feedReceiveStaleAfterMs : Option ℚ
  queueLagWarningMs : ℚ
  queueLagSevereMs : ℚ
  monotonicNow : ℤ

namespace OrderbookPhase41Processor

/-- The warning interval of a state made with the defaults, in seconds. -/
def readyFalseWarningAfterSec : ℚ := 300

/-- A fresh processor. -/
def init (c : Phase41Settings) : OrderbookPhase41Processor where
  states := .ofList (c.symbols.map fun symbol =>
    (upper symbol, OrderbookState.init symbol readyFalseWarningAfterSec c.monotonicNow))
  depthN := c.depthN
  staleThresholdMs := c.staleAfterMs
  feedReceiveStaleThresholdMs := c.feedReceiveStaleAfterMs.getD c.staleAfterMs
  validator :=
    { staleAfterMs := c.staleAfterMs
      queueLagWarningMs := c.queueLagWarningMs
      queueLagSevereMs := c.queueLagSevereMs
      priceTolerance := orderbookPriceTolerance
      sizeTolerance := orderbookSizeTolerance }
  lifecycle := .init
  queueMonitor := ⟨0, 0, 0, 0, 0⟩
  counters := ⟨0, 0, 0, 0, 0, 0, 0, 0, 0, 0, 0, 0, 0, 0, 0, 0, 0, 0, 0, 0⟩
  blockedByQualityError := .empty
  openStalePeriods := .empty
  postCaptureWarningSymbols := .empty
  postSnapshotTraceCounts := .empty
  updatesProcessedSinceSnapshot := .empty
  lastSnapshotLastUpdateId := .empty
  lastWsMessageRecvMonotonicNs := .empty
  openProcessorApplyStaleSymbols := .empty
  processorApplyStaleConsecutiveChecks := .empty
  snapshotRecoveryActiveSymbols := .empty
  captureActive := true
  shutdownStarted := false
  maxBookAgeMs := 0
  lastBookUpdateAgeMsAtReport := none

/-- The state of a symbol, a fresh one when there is none yet. -/
def stateFor (p : OrderbookPhase41Processor) (symbol : String) (monotonicNow : ℤ) :
    OrderbookState :=
  (p.states.get? (upper symbol)).getD
    (OrderbookState.init (upper symbol) readyFalseWarningAfterSec monotonicNow)

/-- Store the state of a symbol. -/
def setState (p : OrderbookPhase41Processor) (symbol : String) (s : OrderbookState) :
    OrderbookPhase41Processor :=
  { p with states := p.states.set (upper symbol) s }

/-- Note a message from the websocket. -/
def recordWsMessageRecv (p : OrderbookPhase41Processor) (symbol : String) (ns : ℤ) :
    OrderbookPhase41Processor :=
  { p with
    lastWsMessageRecvMonotonicNs := p.lastWsMessageRecvMonotonicNs.set (upper symbol) ns }

/-! ### Stale periods -/

/-- The age of the last websocket message of a symbol. -/
def feedReceiveAgeMs (p : OrderbookPhase41Processor) (symbol : String) (now : ℤ) :
    Option ℚ :=
  (p.lastWsMessageRecvMonotonicNs.get? (upper symbol)).map fun t => (now - t : ℚ) / 1000000

/-- End the open stale period of a symbol, if there is one. -/
def closeStalePeriod (p : OrderbookPhase41Processor) (symbol : String) :
    OrderbookPhase41Processor :=
  { p with openStalePeriods := p.openStalePeriods.pop (upper symbol) }

/-- Record that a feed is stale: open a period and take the book out of use, or extend
the open period. -/
def recordFeedReceiveStale (p : OrderbookPhase41Processor) (symbol : String)
    (state : OrderbookState) (now : ℤ) (feedAgeMs : ℚ) (clock : ℤ) :
    OrderbookPhase41Processor × StalePeriod :=
  let lastWs := p.lastWsMessageRecvMonotonicNs.get? symbol
  match p.openStalePeriods.get? symbol with
  | none =>
      let started := truncate (orNumber lastWs now + p.feedReceiveStaleThresholdMs * 1000000)
      let stopped := state.markNotReady "feed_receive_stale" (some now) true none clock
      let period : StalePeriod :=
        { symbol := symbol
          staleThresholdMs := p.feedReceiveStaleThresholdMs
          startedMonotonicNs := started
          endedMonotonicNs := none
          maxAgeMs := feedAgeMs
          snapshotReady := stopped.snapshotReady
          readyToEmit := stopped.readyToEmit
          lastBookUpdateMonotonicNs := state.lastBookUpdateMonotonicNs
          lastMessageRecvMonotonicNs := state.lastMessageRecvMonotonicNs
          lastWsMessageRecvMonotonicNs := lastWs
          generationId := stopped.generation }
      ({ p with
          states := p.states.set symbol stopped
          openStalePeriods := p.openStalePeriods.set symbol period
          counters :=
            { p.counters with
              feedReceiveStaleCount := p.counters.feedReceiveStaleCount + 1
              activeFeedStaleCount := p.counters.activeFeedStaleCount + 1
              staleBookCount := p.counters.staleBookCount + 1
              staleResetCount := p.counters.staleResetCount + 1 }
          lifecycle := p.lifecycle.observeReadyFalse stopped },
        period)
  | some period =>
      let extended : StalePeriod :=
        { period with
          maxAgeMs := max period.maxAgeMs feedAgeMs
          snapshotReady := state.snapshotReady
          readyToEmit := state.readyToEmit
          lastMessageRecvMonotonicNs := state.lastMessageRecvMonotonicNs
          lastWsMessageRecvMonotonicNs := lastWs
          generationId := state.generation }
      ({ p with openStalePeriods := p.openStalePeriods.set symbol extended }, extended)

/-- Record that messages arrive and are not applied: count the check, and count the
symbol once until it is seen applying again. -/
def recordProcessorApplyStale (p : OrderbookPhase41Processor) (symbol : String) :
    OrderbookPhase41Processor :=
  let p := { p with
    processorApplyStaleConsecutiveChecks :=
      p.processorApplyStaleConsecutiveChecks.increment symbol }
  if (p.openProcessorApplyStaleSymbols.get? symbol).isSome then p
  else
    { p with
      openProcessorApplyStaleSymbols := p.openProcessorApplyStaleSymbols.set symbol ()
      counters :=
        { p.counters with
          processorApplyStaleCount := p.counters.processorApplyStaleCount + 1 } }

/-- Whether messages of a symbol arrive and are not applied. -/
def processorApplyStale (p : OrderbookPhase41Processor) (applyAgeMs feedAgeMs : Option ℚ)
    (queueSize : ℤ) : Bool :=
  applyAgeMs.any (· > p.staleThresholdMs) &&
    (decide (queueSize > 0) || feedAgeMs.any (· ≤ p.staleThresholdMs))

/-- The check of a symbol whose feed is not stale. -/
def checkApplyStale (p : OrderbookPhase41Processor) (symbol : String)
    (applyAgeMs feedAgeMs : Option ℚ) (queueSize : ℤ) : OrderbookPhase41Processor :=
  let p := p.closeStalePeriod symbol
  if p.processorApplyStale applyAgeMs feedAgeMs queueSize then
    p.recordProcessorApplyStale symbol
  else
    { p with
      openProcessorApplyStaleSymbols := p.openProcessorApplyStaleSymbols.pop symbol
      processorApplyStaleConsecutiveChecks :=
        p.processorApplyStaleConsecutiveChecks.set symbol 0 }

/-- Store a state whose age was read, and keep the greatest age. -/
def observeBookAge (p : OrderbookPhase41Processor) (symbol : String) (state : OrderbookState)
    (applyAgeMs : Option ℚ) : OrderbookPhase41Processor :=
  { p with
    states := p.states.set symbol state
    maxBookAgeMs := max p.maxBookAgeMs (applyAgeMs.getD p.maxBookAgeMs)
    lastBookUpdateAgeMsAtReport :=
      match applyAgeMs with
      | some age => some age
      | none => p.lastBookUpdateAgeMsAtReport }

/-- Check one symbol that has a state. -/
def checkStaleState (p : OrderbookPhase41Processor) (symbol : String)
    (state : OrderbookState) (now : ℤ) (active : Bool) (queueSize clock : ℤ) :
    OrderbookPhase41Processor × List StalePeriod :=
  let applyAgeMs := state.bookAgeMs now
  let state := { state with lastStaleCheckMonotonicNs := some now }
  let p := p.observeBookAge symbol state applyAgeMs
  let feedAgeMs := p.feedReceiveAgeMs symbol now
  if active = false then
    if applyAgeMs.any (· > p.staleThresholdMs) ∧ (p.openStalePeriods.get? symbol).isNone then
      ({ p with postCaptureWarningSymbols := p.postCaptureWarningSymbols.set symbol () }, [])
    else (p, [])
  else if (p.snapshotRecoveryActiveSymbols.get? symbol).isSome then
    if queueSize > 0 then
      ({ p with queueMonitor := p.queueMonitor.recordSnapshotBlockingLag }, [])
    else (p, [])
  else
    match feedAgeMs with
    | some feedAge =>
        if feedAge > p.feedReceiveStaleThresholdMs ∧ queueSize = 0 then
          let (p, period) := p.recordFeedReceiveStale symbol state now feedAge clock
          (p, [period])
        else (p.checkApplyStale symbol applyAgeMs feedAgeMs queueSize, [])
    | none => (p.checkApplyStale symbol applyAgeMs feedAgeMs queueSize, [])

/-- Check the symbols in turn; a symbol without a state is skipped. -/
def checkStaleSymbols (now : ℤ) (active : Bool) (queueSize clock : ℤ) :
    List String → OrderbookPhase41Processor → OrderbookPhase41Processor × List StalePeriod
  | [], p => (p, [])
  | symbol :: symbols, p =>
      match p.states.get? symbol with
      | none => checkStaleSymbols now active queueSize clock symbols p
      | some state =>
          let (p, found) := p.checkStaleState symbol state now active queueSize clock
          let (p, rest) := checkStaleSymbols now active queueSize clock symbols p
          (p, found ++ rest)

/-- Check the given symbols, or all of them when none are given. -/
def checkStalePeriods (p : OrderbookPhase41Processor) (now : Option ℤ)
    (symbols : List String) (feedActive : Option Bool) (queueSize clock : ℤ) :
    OrderbookPhase41Processor × List StalePeriod :=
  let selected := if symbols = [] then p.states.keys else symbols.map upper
  checkStaleSymbols (now.getD clock) (feedActive.getD p.captureActive) queueSize clock
    selected p

/-! ### Snapshots -/

end OrderbookPhase41Processor

/-- The arguments of a snapshot load, with the clock readings it may take. -/
structure SnapshotLoad where
  symbol : String
  bids : List LevelRow
  asks : List LevelRow
  lastUpdateId : ℤ
  localRecvMonotonicNs : Option ℤ
  generation : Option ℤ
  snapshotApplyMonotonicNs : Option ℤ
  monotonicNow : ℤ
  utcNowNs : ℤ

/-- The clock readings of a depth update, in the order they are taken: of the receive
time when the event has none, of the copy, of the copy again when its time is zero, and
of the validation; and the wall clock. -/
structure DepthReadings where
  received : ℤ
  copied : ℤ
  copiedAgain : ℤ
  validated : ℤ
  utcNowNs : ℤ
  deriving DecidableEq

/-- The reply of a call to the processor. -/
inductive ProcessorReply
  /-- The result of applying a snapshot or delta, with the clean sample it emitted. -/
  | applied (result : OrderbookApplyResult) (emitted : Option Json)
  /-- The result of a validation on request. -/
  | quality (result : OrderbookQualityResult)
  /-- The stale periods that were found. -/
  | stalePeriods (periods : List StalePeriod)
  | done
  /-- A copy raised a `KeyError`. -/
  | raised

namespace OrderbookPhase41Processor

/-- When a snapshot is applied. -/
def applyTime (a : SnapshotLoad) : ℤ :=
  match a.snapshotApplyMonotonicNs, a.localRecvMonotonicNs with
  | some t, _ => t
  | none, some t => t
  | none, none => a.monotonicNow

/-- The snapshot of a load. -/
def snapshotArgs (a : SnapshotLoad) : SnapshotArgs where
  bids := a.bids
  asks := a.asks
  lastUpdateId := a.lastUpdateId
  localRecvMonotonicNs := applyTime a
  localRecvWallTs := some (utcIso a.utcNowNs)
  generation := a.generation
  monotonicNow := a.monotonicNow
  utcIsoNow := utcIso a.utcNowNs

/-- Apply a snapshot to the state of its symbol. -/
def loadSnapshot (p : OrderbookPhase41Processor) (a : SnapshotLoad) :
    OrderbookPhase41Processor × ProcessorReply :=
  let (state, result) :=
    (p.stateFor a.symbol a.monotonicNow).applySnapshot (snapshotArgs a)
  let p := p.setState a.symbol state
  let p :=
    if result.accepted then
      let p := p.closeStalePeriod a.symbol
      { p with
        lifecycle := p.lifecycle.onSnapshotLoaded
        postSnapshotTraceCounts := p.postSnapshotTraceCounts.set (upper a.symbol) 0
        updatesProcessedSinceSnapshot := p.updatesProcessedSinceSnapshot.set (upper a.symbol) 0
        lastSnapshotLastUpdateId :=
          p.lastSnapshotLastUpdateId.set (upper a.symbol) a.lastUpdateId }
    else { p with lifecycle := p.lifecycle.onSnapshotFailed }
  ({ p with lifecycle := p.lifecycle.observeReadyFalse state }, .applied result none)

/-- What the purge of the queue does to the processor when the bridge is missing. -/
def bridgeMissing (p : OrderbookPhase41Processor) (symbol : String) (monotonicNow : ℤ) :
    OrderbookPhase41Processor :=
  let state := (p.stateFor symbol monotonicNow).markNotReady "bridge_missing_after_snapshot"
    (some monotonicNow) true none monotonicNow
  let p := p.setState symbol state
  { p with
    counters :=
      { p.counters with
        bridgeMissingAfterSnapshotCount := p.counters.bridgeMissingAfterSnapshotCount + 1 }
    lifecycle := p.lifecycle.observeReadyFalse state }

/-! ### Depth updates -/

/-- The arguments of the copy of a state: not before its last receive time. -/
def copyArgs (p : OrderbookPhase41Processor) (state : OrderbookState) (wallTs : Option String)
    (r : DepthReadings) : OrderbookState.CopyArgs where
  topN := p.depthN
  localRecvMonotonicNs :=
    some (match state.lastLocalRecvMonotonicNs with
      | some t => max r.copied t
      | none => r.copied)
  localRecvWallTs := some (orText wallTs (utcIso r.utcNowNs))
  monotonicNow := r.copiedAgain
  utcIsoNow := utcIso r.utcNowNs

/-- Count the mismatches and the block reasons of a quality result. -/
def countQuality (c : Phase41Counters) (quality : OrderbookQualityResult) :
    Phase41Counters :=
  { c with
    strictMismatchCount :=
      c.strictMismatchCount + if quality.strictMismatchDetails.strictMismatch then 1 else 0
    tolerantMismatchCount :=
      c.tolerantMismatchCount + if quality.tolerantMismatchDetails.tolerantMismatch then 1 else 0
    crossedBookCount := c.crossedBookCount + if .crossedBook ∈ quality.errors then 1 else 0
    staleBookCount := c.staleBookCount + if .staleBook ∈ quality.errors then 1 else 0 }

/-- Emit the clean sample of a snapshot, or count why it is blocked. -/
def maybeEmitOrBlockSample (p : OrderbookPhase41Processor) (snapshot : OrderbookSnapshot)
    (quality : OrderbookQualityResult) (exchangeEventTs : Option ℤ) :
    OrderbookPhase41Processor × Option Json :=
  let c := countQuality p.counters quality
  if ¬ quality.isValid then
    ({ p with
        counters := { c with samplesBlocked := c.samplesBlocked + 1 }
        lifecycle := p.lifecycle.onSampleBlockedByReadyGuard
        blockedByQualityError :=
          quality.errors.foldl Dict.increment p.blockedByQualityError },
      none)
  else
    let sample := cleanSampleFromSnapshot snapshot quality p.depthN exchangeEventTs
    if validateCleanSampleSchema sample ≠ [] then
      ({ p with
          counters :=
            { c with
              samplesBlocked := c.samplesBlocked + 1
              cleanSampleSchemaViolationCount := c.cleanSampleSchemaViolationCount + 1 } },
        none)
    else ({ p with counters := { c with samplesEmitted := c.samplesEmitted + 1 } }, some sample)

/-- The receive time of an event. -/
def recvTime (event : DepthUpdate) (r : DepthReadings) : ℤ :=
  orNumber event.recvMonotonicNs r.received

/-- Count a received and parsed update. -/
def countReceived (p : OrderbookPhase41Processor) : OrderbookPhase41Processor :=
  { p with
    counters :=
      { p.counters with
        messagesReceived := p.counters.messagesReceived + 1
        messagesParsed := p.counters.messagesParsed + 1 } }

/-- Count an accepted delta. -/
def countAccepted (p : OrderbookPhase41Processor) : OrderbookPhase41Processor :=
  { p with counters := { p.counters with deltasAccepted := p.counters.deltasAccepted + 1 } }

/-- Note the message, count it, and check its symbol for staleness. -/
def receive (p : OrderbookPhase41Processor) (event : DepthUpdate) (r : DepthReadings) :
    OrderbookPhase41Processor :=
  let recv := recvTime event r
  let state := (p.stateFor event.symbol r.received).recordMessageRecv recv
  let p := ((p.setState event.symbol state).recordWsMessageRecv event.symbol recv).countReceived
  (p.checkStalePeriods (some recv) [event.symbol] (some true) 0 r.received).1

/-- The delta of an event. -/
def deltaArgs (event : DepthUpdate) (r : DepthReadings) : DeltaArgs where
  firstUpdateId := event.firstUpdateId
  finalUpdateId := event.finalUpdateId
  bids := event.bids.map fun level => .seq [level.1, level.2]
  asks := event.asks.map fun level => .seq [level.1, level.2]
  localRecvMonotonicNs := recvTime event r
  previousFinalUpdateId := event.previousFinalUpdateId
  monotonicNow := r.received

/-- The wall-clock text of an event, if it has a time. -/
def eventWallTs (event : DepthUpdate) : Option String := event.localReceivedTs.map utcIso

/-- The quality of a copy made while an event is processed. -/
def depthQuality (p : OrderbookPhase41Processor) (state : OrderbookState)
    (snapshot : OrderbookSnapshot) (event : DepthUpdate) (queueLagMs : Option ℚ)
    (r : DepthReadings) : OrderbookQualityResult :=
  p.validator.validate snapshot (some state) (some (max r.validated (recvTime event r)))
    none none queueLagMs

/-- Count a rejected delta by its status. -/
def countRejected (p : OrderbookPhase41Processor) (status : ApplyStatus) :
    OrderbookPhase41Processor :=
  let p := { p with
    counters := { p.counters with deltasRejected := p.counters.deltasRejected + 1 } }
  match status with
  | .deltaBeforeSnapshot => { p with lifecycle := p.lifecycle.onDeltaBeforeSnapshot }
  | .duplicateUpdate => { p with lifecycle := p.lifecycle.onDuplicate }
  | .sequenceGapOrReset => { p with lifecycle := p.lifecycle.onSequenceGap }
  | .sequenceBridgeFailed =>
      { p with
        counters :=
          { p.counters with
            firstDeltaBridgeFailedCount := p.counters.firstDeltaBridgeFailedCount + 1 }
        lifecycle := p.lifecycle.onSequenceGap }
  | .previousFinalUpdateIdMismatch =>
      { p with
        counters :=
          { p.counters with
            previousFinalUpdateIdMismatchCount :=
              p.counters.previousFinalUpdateIdMismatchCount + 1
            readyToEmitDisabledCount := p.counters.readyToEmitDisabledCount + 1 } }
  | .invalidDeltaLevels =>
      { p with
        counters :=
          { p.counters with
            invalidDeltaCount := p.counters.invalidDeltaCount + 1
            readyToEmitDisabledCount := p.counters.readyToEmitDisabledCount + 1 } }
  | _ => { p with lifecycle := p.lifecycle.onMessageBeforeReady }

/-- The bookkeeping after an update: the trace of the first updates after a snapshot, the
count of updates, and the not-ready statistics. -/
def finishUpdate (p : OrderbookPhase41Processor) (symbol : String) (state : OrderbookState) :
    OrderbookPhase41Processor :=
  let key := upper symbol
  let index := (p.postSnapshotTraceCounts.get? key).getD 0 + 1
  { p with
    postSnapshotTraceCounts :=
      if index > 20 then p.postSnapshotTraceCounts else p.postSnapshotTraceCounts.set key index
    updatesProcessedSinceSnapshot := p.updatesProcessedSinceSnapshot.increment key
    lifecycle :=
      if state.readyToEmit then p.lifecycle else p.lifecycle.observeReadyFalse state }

/-- Process a depth update. -/
def processDepthUpdate (p : OrderbookPhase41Processor) (event : DepthUpdate)
    (queueLagMs : Option ℚ) (r : DepthReadings) :
    OrderbookPhase41Processor × ProcessorReply :=
  let p := p.receive event r
  let (state, result) :=
    (p.stateFor event.symbol r.received).applyDelta (deltaArgs event r)
  let p := p.setState event.symbol state
  if result.accepted then
    let p := p.countAccepted.closeStalePeriod event.symbol
    match state.copySnapshot (p.copyArgs state (eventWallTs event) r) with
    | none => (p, .raised)
    | some snapshot =>
        let state := state.ensurePriceIndexes
        let p := p.setState event.symbol state
        let quality := p.depthQuality state snapshot event queueLagMs r
        let (p, emitted) := p.maybeEmitOrBlockSample snapshot quality event.exchangeEventTs
        (p.finishUpdate event.symbol state, .applied result emitted)
  else
    let p := p.countRejected result.status
    match result.status with
    | .invalidDeltaLevels =>
        match state.copySnapshot (p.copyArgs state (eventWallTs event) r) with
        | none => (p, .raised)
        | some _ =>
            let state := state.ensurePriceIndexes
            ((p.setState event.symbol state).finishUpdate event.symbol state,
              .applied result none)
    | _ => (p.finishUpdate event.symbol state, .applied result none)

/-- Validate the book of a symbol against reported best prices. -/
def validateReportedBest (p : OrderbookPhase41Processor) (symbol : String)
    (reportedBid reportedAsk : Option ℚ) (r : DepthReadings) :
    OrderbookPhase41Processor × ProcessorReply :=
  let state := p.stateFor symbol r.received
  let p := p.setState symbol state
  match state.copySnapshot (p.copyArgs state none r) with
  | none => (p, .raised)
  | some snapshot =>
      let state := state.ensurePriceIndexes
      (p.setState symbol state,
        .quality (p.validator.validate snapshot (some state) (some r.validated) reportedBid
          reportedAsk none))

/-- Drop the state of a symbol. -/
def cleanupSymbol (p : OrderbookPhase41Processor) (symbol : String) :
    OrderbookPhase41Processor :=
  { p with
    states := p.states.pop (upper symbol)
    openStalePeriods := p.openStalePeriods.pop (upper symbol) }

/-- Note that a snapshot recovery of a symbol starts or ends. -/
def markSnapshotRecoveryActive (p : OrderbookPhase41Processor) (symbol : String)
    (active : Bool) : OrderbookPhase41Processor :=
  { p with
    snapshotRecoveryActiveSymbols :=
      if active then p.snapshotRecoveryActiveSymbols.set (upper symbol) ()
      else p.snapshotRecoveryActiveSymbols.pop (upper symbol) }

/-- Start or end the capture. -/
def setCaptureActive (p : OrderbookPhase41Processor) (active : Bool) :
    OrderbookPhase41Processor :=
  { p with
    captureActive := active
    shutdownStarted := p.shutdownStarted || !active }

end OrderbookPhase41Processor

/-! ### Calls -/

/-- A call of the processor. -/
inductive ProcessorCall
  | loadSnapshot (a : SnapshotLoad)
  | processDepthUpdate (event : DepthUpdate) (queueLagMs : Option ℚ) (r : DepthReadings)
  | bridgeMissing (symbol : String) (monotonicNow : ℤ)
  | checkStalePeriods (now : Option ℤ) (symbols : List String) (feedActive : Option Bool)
      (queueSize clock : ℤ)
  | validateReportedBest (symbol : String) (reportedBid reportedAsk : Option ℚ)
      (r : DepthReadings)
  | cleanupSymbol (symbol : String)
  | recordWsMessageRecv (symbol : String) (ns : ℤ)
  | markSnapshotRecoveryActive (symbol : String) (active : Bool)
  | setCaptureActive (active : Bool)

/-- The processor as a machine. -/
def phase41Machine : Machine OrderbookPhase41Processor ProcessorCall ProcessorReply where
  step p
    | .loadSnapshot a => p.loadSnapshot a
    | .processDepthUpdate event queueLagMs r => p.processDepthUpdate event queueLagMs r
    | .bridgeMissing symbol now => (p.bridgeMissing symbol now, .done)
    | .checkStalePeriods now symbols feedActive queueSize clock =>
        let (p, periods) := p.checkStalePeriods now symbols feedActive queueSize clock
        (p, .stalePeriods periods)
    | .validateReportedBest symbol bid ask r => p.validateReportedBest symbol bid ask r
    | .cleanupSymbol symbol => (p.cleanupSymbol symbol, .done)
    | .recordWsMessageRecv symbol ns => (p.recordWsMessageRecv symbol ns, .done)
    | .markSnapshotRecoveryActive symbol active =>
        (p.markSnapshotRecoveryActive symbol active, .done)
    | .setCaptureActive active => (p.setCaptureActive active, .done)

end SomethingTrade
