import SomethingTrade.EventLogger
import SomethingTrade.GapDetector
import SomethingTrade.MarketUniverse

/-!
# The Gap Monitor

The monitor of the gaps joins the parts that measure them. Two tasks take the events of the two
feeds; each event goes through the market state to the detector, and the observations that come
of it are logged. A loop wakes once a second, looks whether the markets are to be discovered
again, and gives what the universe holds then to the detector, to the client of the feed and to
the summary. When the loop is left, the tasks are cancelled and the logger is closed.

The tasks, the loop and the worker of the logger take turns where one of them awaits: a task
between two events, the loop in its sleep and while it awaits a discovery, the worker for its
queue and its thread. Logging does not await, so an event and all its observations are one turn.

## Representation

* The readings of the clocks and what a discovery comes to are arguments of a turn. A turn that
  cannot be taken, as an event after the end of the loop, leaves everything where it is.
* The clients of the feeds are left out: their events are arguments too. Of the client of the
  market feed its last update of the markets is kept.
* A cancelled discovery counts as one that crashed: both leave the loop, and of the manager both
  have changed the count of the forced refreshes only.
* What the loop prints and the summaries it writes are left out, with the counters that only they
  read, and so are the startup and the formatting of the reports.

## Main results

* `monitorMachine`: the turns of the monitor as one machine.
-/

namespace SomethingTrade

/-! ### The summary -/

/-- What the monitor counts, and whether the feed has told of a new market. -/
structure GapRuntimeSummary where
  markets : List PolymarketMarketMetadata
  lastDiff : MarketUniverseDiff
  binanceEventsSeenBySymbol : Dict String ℕ
  gapEventsWrittenBySymbol : Dict String ℕ
  lifecycleRefreshRequested : Bool
  deriving DecidableEq

/-- The symbol of an event of the exchange. -/
def MarketEvent.binanceSymbol : MarketEvent → Option String
  | .marketTick e => some e.symbol
  | .orderBookTop e => some e.symbol
  | .depthUpdate e => some e.symbol
  | _ => none

/-- Whether an event tells of a new market. -/
def MarketEvent.tellsNewMarket : MarketEvent → Bool
  | .marketLifecycle e => e.lifecycleType = .newMarket
  | _ => false

namespace GapRuntimeSummary

/-- A summary of some markets. -/
def init (markets : List PolymarketMarketMetadata) (lastDiff : MarketUniverseDiff) :
    GapRuntimeSummary where
  markets := markets
  lastDiff := lastDiff
  binanceEventsSeenBySymbol := .empty
  gapEventsWrittenBySymbol := .empty
  lifecycleRefreshRequested := false

/-- Count an event of the exchange. -/
def recordBinanceEvent (s : GapRuntimeSummary) (event : MarketEvent) : GapRuntimeSummary :=
  match event.binanceSymbol with
  | some symbol =>
      { s with binanceEventsSeenBySymbol := s.binanceEventsSeenBySymbol.increment symbol }
  | none => s

/-- Note that the feed tells of a new market. -/
def recordPolymarketEvent (s : GapRuntimeSummary) (event : MarketEvent) : GapRuntimeSummary :=
  if event.tellsNewMarket then { s with lifecycleRefreshRequested := true } else s

/-- Count an observation that was logged. -/
def recordGapEventWritten (s : GapRuntimeSummary) (observation : TradableGapObservation) :
    GapRuntimeSummary :=
  { s with
    gapEventsWrittenBySymbol := s.gapEventsWrittenBySymbol.increment observation.symbol }

/-- Take the request for a refresh. -/
def consumeLifecycleRefreshRequest (s : GapRuntimeSummary) : GapRuntimeSummary × Bool :=
  ({ s with lifecycleRefreshRequested := false }, s.lifecycleRefreshRequested)

/-- Take over the markets of a refresh. -/
def updateMarketUniverse (s : GapRuntimeSummary) (markets : List PolymarketMarketMetadata)
    (diff : MarketUniverseDiff) : GapRuntimeSummary :=
  { s with markets := markets, lastDiff := diff }

end GapRuntimeSummary

/-! ### The monitor -/

/-- Why the markets are refreshed. -/
inductive RefreshReason
  | forcedNoSignal | lifecycleNewMarket | scheduled
  deriving DecidableEq

/-- A refresh that awaits its discovery: its reason, the moves that were counted when it began,
and the second it began in. -/
structure RefreshInProgress where
  reason : RefreshReason
  moveTotal : ℕ
  now : ℤ
  deriving DecidableEq

/-- Whether a refresh is forced. -/
def RefreshInProgress.forced (refresh : RefreshInProgress) : Bool := refresh.reason ≠ .scheduled

/-- Where the loop of the monitor is. -/
inductive MonitorPhase
  /-- It sleeps. -/
  | sleeping
  /-- It awaits a discovery. -/
  | discovering (refresh : RefreshInProgress)
  /-- It is left, and awaits the logger. -/
  | closing
  /-- It is over. -/
  | closed
  deriving DecidableEq

/-- The arguments of the loop. -/
structure GapMonitorSettings where
  marketRefreshForceWhenNoSignal : Bool
  marketRefreshIntervalMs : ℤ
  deriving DecidableEq

/-- The time between two forced refreshes, in seconds. -/
def GapMonitorSettings.marketRefreshInterval (c : GapMonitorSettings) : ℚ :=
  ((max 1 c.marketRefreshIntervalMs : ℤ) : ℚ) / 1000

/-- The monitor. -/
structure GapMonitor where
  settings : GapMonitorSettings
  state : MarketState
  detector : GapDetector
  detectorMarkets : List PolymarketMarketMetadata
  universeManager : RuntimeMarketUniverseManager
  clientMarkets : List PolymarketMarketMetadata
  clientTokenIds : List String
  summary : GapRuntimeSummary
  logger : AsyncJsonlEventLogger TradableGapObservation
  nextForcedRefreshAllowedAt : ℚ
  lastForcedRefreshMoveTotal : ℕ
  phase : MonitorPhase
  deriving DecidableEq

/-- The moves that a detector has found. -/
def GapDetector.moveTotal (d : GapDetector) : ℕ :=
  (d.binanceMovesDetectedBySymbol.entries.map Prod.snd).sum

/-- The markets whose candidates are wanted at a moment. -/
def signalEnabledMarkets (markets : List PolymarketMarketMetadata) (nowTs : ℤ) : ℕ :=
  (markets.filter fun market => marketSignalEnabled market nowTs).length

/-- Whether the next discovery is due. -/
def RuntimeMarketUniverseManager.refreshDue (s : RuntimeMarketUniverseManager) (now : ℤ) : Bool :=
  s.nextDiscoveryTs.all fun next => next ≤ now

/-- Whether a refresh is forced as moves are found and no market gives a signal. -/
def shouldForceMarketRefresh (enabled : Bool)
    (signalEnabledMarkets binanceMoveTotal lastForcedRefreshMoveTotal : ℕ)
    (now nextForcedRefreshAllowedAt : ℚ) : Bool :=
  enabled && signalEnabledMarkets = 0 && binanceMoveTotal > lastForcedRefreshMoveTotal &&
    now ≥ nextForcedRefreshAllowedAt

/-- The readings of a turn of the loop: the time its statistics are of, the time of the loop,
and the seconds in which it asks for the next discovery and in which a refresh begins. -/
structure WakeReadings where
  statsNs : ℤ
  loopTime : ℚ
  dueTs : ℤ
  refreshTs : ℤ

/-- An event that a task takes, with the moment at which the market state applies it and what
the clock of the detector reads then. -/
structure FeedEvent where
  event : MarketEvent
  now : Moment
  clock : ℤ

/-- A turn of the monitor. -/
inductive MonitorAct
  /-- The task of the exchange takes an event. -/
  | binance (e : FeedEvent)
  /-- The task of the market feed takes an event. -/
  | polymarket (e : FeedEvent)
  /-- The loop wakes. -/
  | wake (r : WakeReadings)
  /-- The discovery that the loop awaits comes to something. -/
  | discovered (outcome : DiscoveryOutcome) (loopTime : ℚ) (now : Moment)
  /-- The loop is interrupted in its sleep. -/
  | interrupt
  /-- The worker of the logger takes a step. -/
  | worker (step : LogStep)
  /-- The worker that the end of the loop awaits has ended. -/
  | joined

/-- What a turn comes to. -/
inductive MonitorReply
  /-- Nothing that is told. -/
  | quiet
  /-- An event was taken; it may tell of a new market. -/
  | observed (tellsNewMarket : Bool) (observations : List TradableGapObservation)
  /-- A refresh begins, at a time of the loop. -/
  | begins (refresh : RefreshInProgress) (loopTime : ℚ)
  /-- A refresh is done, at a time of the loop. -/
  | refreshed (refresh : RefreshInProgress) (loopTime : ℚ)
      (observations : List TradableGapObservation)
  /-- The worker has written an observation. -/
  | wrote (observation : TradableGapObservation)

namespace GapMonitor

/-- A monitor of some discovered markets. -/
def init (c : GapMonitorSettings) (g : GapDetectorSettings) (maxPolymarketQuoteAgeMs : ℚ)
    (discovered : List PolymarketMarketMetadata) (lookaheadWindows now startedNs : ℤ)
    (loopTime : ℚ) : GapMonitor :=
  let universeManager := RuntimeMarketUniverseManager.init discovered c.marketRefreshIntervalMs
    lookaheadWindows now
  { settings := c
    state := .init maxPolymarketQuoteAgeMs
    detector := .init g universeManager.markets startedNs
    detectorMarkets := universeManager.markets
    universeManager := universeManager
    clientMarkets := universeManager.markets
    clientTokenIds := flattenTokenIds universeManager.markets
    summary := .init universeManager.markets universeManager.lastDiff
    logger := AsyncJsonlEventLogger.init.start
    nextForcedRefreshAllowedAt := loopTime
    lastForcedRefreshMoveTotal := 0
    phase := .sleeping }

/-- Whether the loop runs. -/
def running (s : GapMonitor) : Bool :=
  match s.phase with
  | .sleeping | .discovering _ => true
  | _ => false

/-- Log an observation, and count it. -/
def logGap (s : GapMonitor) (gap : TradableGapObservation) : GapMonitor :=
  { s with logger := s.logger.log gap, summary := s.summary.recordGapEventWritten gap }

/-- The call of the detector that comes of an event. -/
def callOf (s : GapMonitor) (e : FeedEvent) : GapCall :=
  let updated := s.state.apply e.event e.now
  .onMarketEvent updated.2 updated.1 none e.clock

/-- An event goes through the market state to the detector, and what comes of it is logged. -/
def ingest (s : GapMonitor) (e : FeedEvent) : GapMonitor × List TradableGapObservation :=
  let gaps := gapMachine.step s.detector (s.callOf e)
  (gaps.2.foldl logGap { s with state := (s.state.apply e.event e.now).1, detector := gaps.1 },
    gaps.2)

/-- The task of the exchange takes an event. -/
def ingestGapBinance (s : GapMonitor) (e : FeedEvent) : GapMonitor × MonitorReply :=
  ({ s with summary := s.summary.recordBinanceEvent e.event }.ingest e).map id (.observed false)

/-- The task of the market feed takes an event. -/
def ingestGapPolymarket (s : GapMonitor) (e : FeedEvent) : GapMonitor × MonitorReply :=
  ({ s with summary := s.summary.recordPolymarketEvent e.event }.ingest e).map id
    (.observed e.event.tellsNewMarket)

/-- Why the markets are refreshed now, if they are. -/
def refreshReason (s : GapMonitor) (r : WakeReadings) : Option RefreshReason :=
  if shouldForceMarketRefresh s.settings.marketRefreshForceWhenNoSignal
      (signalEnabledMarkets s.detectorMarkets r.statsNs) s.detector.moveTotal
      s.lastForcedRefreshMoveTotal r.loopTime s.nextForcedRefreshAllowedAt then
    some .forcedNoSignal
  else if s.summary.consumeLifecycleRefreshRequest.2 then some .lifecycleNewMarket
  else if s.universeManager.refreshDue r.dueTs then some .scheduled
  else none

/-- The loop wakes. -/
def wake (s : GapMonitor) (r : WakeReadings) : GapMonitor × MonitorReply :=
  let woken := { s with summary := s.summary.consumeLifecycleRefreshRequest.1 }
  match s.refreshReason r with
  | none => (woken, .quiet)
  | some reason =>
      let refresh : RefreshInProgress := ⟨reason, s.detector.moveTotal, r.refreshTs⟩
      ({ woken with phase := .discovering refresh }, .begins refresh r.loopTime)

/-- Give the markets of the universe to the detector, the client and the summary, and log the
observations of the gaps whose markets are gone. -/
def applyMarketUniverseRefresh (s : GapMonitor) (diff : MarketUniverseDiff) (now : Moment) :
    GapMonitor × List TradableGapObservation :=
  let updated := s.detector.updateMarkets s.universeManager.markets now
  let drained := updated.drainMarketUpdateObservations
  let logged := drained.2.foldl logGap
    { s with detector := drained.1, detectorMarkets := s.universeManager.markets }
  ({ logged with
      clientMarkets := s.universeManager.markets
      clientTokenIds := flattenTokenIds s.universeManager.markets
      summary := logged.summary.updateMarketUniverse s.universeManager.markets diff }, drained.2)

/-- The loop is left: the tasks are cancelled and the logger is closed. -/
def leave (s : GapMonitor) : GapMonitor := { s with logger := s.logger.close, phase := .closing }

/-- A forced refresh is not forced again for a while. -/
def noteForced (s : GapMonitor) (refresh : RefreshInProgress) (loopTime : ℚ) : GapMonitor :=
  if refresh.forced then
    { s with
      nextForcedRefreshAllowedAt := loopTime + s.settings.marketRefreshInterval
      lastForcedRefreshMoveTotal := refresh.moveTotal }
  else s

/-- The discovery of a refresh comes to something. -/
def finishRefresh (s : GapMonitor) (refresh : RefreshInProgress) (outcome : DiscoveryOutcome)
    (loopTime : ℚ) (now : Moment) : GapMonitor × MonitorReply :=
  let found := s.universeManager.refresh outcome refresh.now refresh.forced
  let s := { s with universeManager := found.1 }
  match found.2 with
  | none => (s.leave, .quiet)
  | some diff =>
      ({ s.noteForced refresh loopTime with phase := .sleeping }.applyMarketUniverseRefresh
        diff now).map id (.refreshed refresh loopTime)

/-- The worker that the end of the loop awaits has ended. -/
def join (s : GapMonitor) : GapMonitor :=
  match s.logger.worker with
  | .returned | .raised .. => { s with logger := s.logger.joined, phase := .closed }
  | _ => s

end GapMonitor

/-- The monitor as a machine. -/
def monitorMachine (pathForEvent : TradableGapObservation → String) :
    Machine GapMonitor MonitorAct MonitorReply where
  step s act :=
    match act, s.phase with
    | .binance e, _ => if s.running then s.ingestGapBinance e else (s, .quiet)
    | .polymarket e, _ => if s.running then s.ingestGapPolymarket e else (s, .quiet)
    | .wake r, .sleeping => s.wake r
    | .discovered outcome loopTime now, .discovering refresh =>
        s.finishRefresh refresh outcome loopTime now
    | .interrupt, .sleeping => (s.leave, .quiet)
    | .worker step, _ =>
        let run := s.logger.run pathForEvent step
        ({ s with logger := run.1 }, run.2.elim .quiet .wrote)
    | .joined, .closing => (s.join, .quiet)
    | _, _ => (s, .quiet)

end SomethingTrade
