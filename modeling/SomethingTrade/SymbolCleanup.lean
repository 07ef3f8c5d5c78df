import SomethingTrade.OrderbookIndex
import SomethingTrade.SymbolFrame

/-!
# Removing a Symbol

Removing a symbol drops its state and its open stale period. The time of its last websocket
message and its mark of a snapshot recovery stay, and later checks of the symbol read both: a
symbol that comes back is found stale by the old time, or not checked at all. Two processors with
the same entries of a symbol reply alike to its calls, so nothing else can tell a removed symbol
from one that was never seen.

## Main results

* `seesSame_next`: processors with the same entries of a symbol reply alike to its calls.
* `cleanup_forgets_iff`: when a removed symbol is like one that was never seen.
-/

namespace SomethingTrade

open OrderbookPhase41Processor

/-! ### Two processors with the same entries -/

/-- Two processors have the same settings, and the same entries of a symbol. -/
structure SeesSame (key : String) (p q : OrderbookPhase41Processor) : Prop where
  settings : p.replySettings = q.replySettings
  captureActive : p.captureActive = q.captureActive
  entries : p.entriesOf key = q.entriesOf key

namespace SeesSame

variable {key : String} {p q p' q' : OrderbookPhase41Processor} (h : SeesSame key p q)

include h

theorem state : p.states.get? key = q.states.get? key := congrArg SymbolEntries.state h.entries

theorem openPeriod : p.openStalePeriods.get? key = q.openStalePeriods.get? key :=
  congrArg SymbolEntries.openPeriod h.entries

theorem lastWs :
    p.lastWsMessageRecvMonotonicNs.get? key = q.lastWsMessageRecvMonotonicNs.get? key :=
  congrArg SymbolEntries.lastWsMessageRecvMonotonicNs h.entries

theorem recovery :
    p.snapshotRecoveryActiveSymbols.get? key = q.snapshotRecoveryActiveSymbols.get? key :=
  congrArg SymbolEntries.snapshotRecoveryActive h.entries

theorem depthN : p.depthN = q.depthN := congrArg ReplySettings.depthN h.settings

theorem staleThreshold : p.staleThresholdMs = q.staleThresholdMs :=
  congrArg ReplySettings.staleThresholdMs h.settings

theorem feedThreshold : p.feedReceiveStaleThresholdMs = q.feedReceiveStaleThresholdMs :=
  congrArg ReplySettings.feedReceiveStaleThresholdMs h.settings

theorem validator : p.validator = q.validator := congrArg ReplySettings.validator h.settings

/-- Steps that touch no map. -/
theorem quiet (hp : TouchesOnly [] p p') (hq : TouchesOnly [] q q') : SeesSame key p' q' where
  settings := hp.settings.trans (h.settings.trans hq.settings.symm)
  captureActive := hp.captureActive.trans (h.captureActive.trans hq.captureActive.symm)
  entries := (hp.entries key List.not_mem_nil).trans
    (h.entries.trans (hq.entries key List.not_mem_nil).symm)

theorem observeBookAge (s : OrderbookState) (age : Option ℚ) :
    SeesSame key (p.observeBookAge key s age) (q.observeBookAge key s age) := by
  refine ⟨h.settings, h.captureActive, ?_⟩
  simp only [entriesOf, OrderbookPhase41Processor.observeBookAge, Dict.get?_set_self,
    h.openPeriod, h.lastWs, h.recovery]

theorem setState {symbol : String} (hsymbol : upper symbol = key) (s : OrderbookState) :
    SeesSame key (p.setState symbol s) (q.setState symbol s) := by
  refine ⟨h.settings, h.captureActive, ?_⟩
  simp only [entriesOf, OrderbookPhase41Processor.setState, hsymbol, Dict.get?_set_self,
    h.openPeriod, h.lastWs, h.recovery]

theorem recordWsMessageRecv {symbol : String} (hsymbol : upper symbol = key) (ns : ℤ) :
    SeesSame key (p.recordWsMessageRecv symbol ns) (q.recordWsMessageRecv symbol ns) := by
  refine ⟨h.settings, h.captureActive, ?_⟩
  simp only [entriesOf, OrderbookPhase41Processor.recordWsMessageRecv, hsymbol,
    Dict.get?_set_self, h.state, h.openPeriod, h.recovery]

theorem closeStalePeriod {symbol : String} (hsymbol : upper symbol = key) :
    SeesSame key (p.closeStalePeriod symbol) (q.closeStalePeriod symbol) := by
  refine ⟨h.settings, h.captureActive, ?_⟩
  simp only [entriesOf, OrderbookPhase41Processor.closeStalePeriod, hsymbol, Dict.get?_pop,
    if_true, h.state, h.lastWs, h.recovery]

theorem stateFor {symbol : String} (hsymbol : upper symbol = key) (now : ℤ) :
    p.stateFor symbol now = q.stateFor symbol now := by
  rw [OrderbookPhase41Processor.stateFor, OrderbookPhase41Processor.stateFor, hsymbol, h.state]

theorem staleFeedAge (hupper : upper key = key) (now queueSize : ℤ) :
    SomethingTrade.staleFeedAge p key now queueSize =
      SomethingTrade.staleFeedAge q key now queueSize := by
  simp only [SomethingTrade.staleFeedAge, feedReceiveAgeMs, hupper, h.lastWs, h.feedThreshold]

/-- A stale feed is recorded alike. -/
theorem recordFeedReceiveStale (s : OrderbookState) (now : ℤ) (age : ℚ) (clock : ℤ) :
    (p.recordFeedReceiveStale key s now age clock).2 =
        (q.recordFeedReceiveStale key s now age clock).2 ∧
      SeesSame key (p.recordFeedReceiveStale key s now age clock).1
        (q.recordFeedReceiveStale key s now age clock).1 := by
  simp only [OrderbookPhase41Processor.recordFeedReceiveStale, h.openPeriod, h.lastWs,
    h.feedThreshold]
  cases q.openStalePeriods.get? key with
  | none =>
      refine ⟨rfl, ?_, h.captureActive, ?_⟩
      · simp only [replySettings, h.depthN, h.staleThreshold, h.validator]
      · simp only [entriesOf, Dict.get?_set_self, h.lastWs, h.recovery]
  | some period =>
      refine ⟨rfl, ?_, h.captureActive, ?_⟩
      · simp only [replySettings, h.depthN, h.staleThreshold, h.validator]
      · simp only [entriesOf, Dict.get?_set_self, h.state, h.lastWs, h.recovery]

/-- A symbol is checked alike. -/
theorem checkStaleState (hupper : upper key = key) (s : OrderbookState) (now : ℤ)
    (active : Bool) (queueSize clock : ℤ) :
    (p.checkStaleState key s now active queueSize clock).2 =
        (q.checkStaleState key s now active queueSize clock).2 ∧
      SeesSame key (p.checkStaleState key s now active queueSize clock).1
        (q.checkStaleState key s now active queueSize clock).1 := by
  have hseen := h.observeBookAge { s with lastStaleCheckMonotonicNs := some now }
    (s.bookAgeMs now)
  have hpspec := checkStaleState_spec p key s now active queueSize clock
  have hqspec := checkStaleState_spec q key s now active queueSize clock
  dsimp only at hpspec hqspec
  rw [hseen.recovery, hseen.staleFeedAge hupper] at hpspec
  split at hpspec
  · rename_i hquiet
    rw [if_pos hquiet] at hqspec
    exact ⟨hpspec.1.trans hqspec.1.symm, hseen.quiet hpspec.2 hqspec.2⟩
  · rename_i hchecked
    rw [if_neg hchecked] at hqspec
    split at hpspec
    · rename_i age hstale
      rw [hstale] at hqspec
      dsimp only at hqspec
      obtain ⟨hperiod, hsame⟩ := hseen.recordFeedReceiveStale
        { s with lastStaleCheckMonotonicNs := some now } now age clock
      rw [hpspec, hqspec]
      exact ⟨congrArg (fun period => [period]) hperiod, hsame⟩
    · rename_i hfresh
      rw [hfresh] at hqspec
      exact ⟨hpspec.1.trans hqspec.1.symm,
        (hseen.closeStalePeriod hupper).quiet hpspec.2 hqspec.2⟩

end SeesSame

/-- Checks of one symbol, over and over, are alike. -/
theorem SeesSame.checkStaleSymbols {key : String} (hupper : upper key = key) (now : ℤ)
    (active : Bool) (queueSize clock : ℤ) {symbols : List String}
    (hsymbols : ∀ symbol ∈ symbols, symbol = key) {p q : OrderbookPhase41Processor}
    (h : SeesSame key p q) :
    (OrderbookPhase41Processor.checkStaleSymbols now active queueSize clock symbols p).2 =
        (OrderbookPhase41Processor.checkStaleSymbols now active queueSize clock symbols q).2 ∧
      SeesSame key
        (OrderbookPhase41Processor.checkStaleSymbols now active queueSize clock symbols p).1
        (OrderbookPhase41Processor.checkStaleSymbols now active queueSize clock symbols q).1 := by
  induction symbols generalizing p q with
  | nil => exact ⟨rfl, h⟩
  | cons symbol symbols ih =>
      obtain rfl := hsymbols symbol List.mem_cons_self
      have hrest : ∀ symbol' ∈ symbols, symbol' = symbol :=
        fun symbol' hmem => hsymbols symbol' (List.mem_cons_of_mem symbol hmem)
      rw [OrderbookPhase41Processor.checkStaleSymbols,
        OrderbookPhase41Processor.checkStaleSymbols, h.state]
      cases q.states.get? symbol with
      | none => exact ih hrest h
      | some s =>
          obtain ⟨hfound, hsame⟩ := h.checkStaleState hupper s now active queueSize clock
          obtain ⟨hmore, hlast⟩ := ih hrest hsame
          exact ⟨congrArg₂ (· ++ ·) hfound hmore, hlast⟩

/-! ### Calls for a symbol -/

section

variable {key : String} {p q : OrderbookPhase41Processor} (h : SeesSame key p q)

include h

theorem SeesSame.receive {event : DepthUpdate} (hsymbol : upper event.symbol = key)
    (r : DepthReadings) : SeesSame key (p.receive event r) (q.receive event r) := by
  rw [OrderbookPhase41Processor.receive, OrderbookPhase41Processor.receive, h.stateFor hsymbol]
  have hset := h.setState hsymbol
    ((q.stateFor event.symbol r.received).recordMessageRecv (recvTime event r))
  have hnoted := hset.recordWsMessageRecv hsymbol (recvTime event r)
  have hcount := hnoted.quiet (touchesOnly_countReceived _) (touchesOnly_countReceived _)
  refine (SeesSame.checkStaleSymbols (hsymbol ▸ upper_upper _) _ _ _ _ ?_ hcount).2
  intro symbol hmem
  exact (List.mem_singleton.mp hmem).trans hsymbol

/-- A sample is emitted or blocked alike. -/
theorem SeesSame.maybeEmitOrBlockSample (snapshot : OrderbookSnapshot)
    (quality : OrderbookQualityResult) (ts : Option ℤ) :
    (p.maybeEmitOrBlockSample snapshot quality ts).2 =
        (q.maybeEmitOrBlockSample snapshot quality ts).2 ∧
      SeesSame key (p.maybeEmitOrBlockSample snapshot quality ts).1
        (q.maybeEmitOrBlockSample snapshot quality ts).1 := by
  refine ⟨?_, h.quiet (touchesOnly_maybeEmitOrBlockSample ..)
    (touchesOnly_maybeEmitOrBlockSample ..)⟩
  simp only [OrderbookPhase41Processor.maybeEmitOrBlockSample, h.depthN]
  split
  · rfl
  · split <;> rfl

/-- An update is processed alike. -/
theorem SeesSame.processDepthUpdate {event : DepthUpdate} (hsymbol : upper event.symbol = key)
    (lag : Option ℚ) (r : DepthReadings) :
    (p.processDepthUpdate event lag r).2 = (q.processDepthUpdate event lag r).2 ∧
      SeesSame key (p.processDepthUpdate event lag r).1 (q.processDepthUpdate event lag r).1 := by
  have hreceive := h.receive hsymbol r
  rw [OrderbookPhase41Processor.processDepthUpdate, OrderbookPhase41Processor.processDepthUpdate]
  generalize p.receive event r = p at hreceive ⊢
  generalize q.receive event r = q at hreceive ⊢
  rw [hreceive.stateFor hsymbol]
  generalize (q.stateFor event.symbol r.received).applyDelta (deltaArgs event r) = applied
  obtain ⟨state, result⟩ := applied
  have hset := hreceive.setState hsymbol state
  dsimp only
  generalize p.setState event.symbol state = p at hset ⊢
  generalize q.setState event.symbol state = q at hset ⊢
  have hcopy (p q : OrderbookPhase41Processor) (hdepth : p.depthN = q.depthN) :
      p.copyArgs state (eventWallTs event) r = q.copyArgs state (eventWallTs event) r := by
    rw [copyArgs, copyArgs, hdepth]
  cases result.accepted with
  | true =>
      rw [if_pos rfl, if_pos rfl]
      have hclose := (hset.quiet (touchesOnly_countAccepted _)
        (touchesOnly_countAccepted _)).closeStalePeriod hsymbol
      generalize p.countAccepted.closeStalePeriod event.symbol = p at hclose ⊢
      generalize q.countAccepted.closeStalePeriod event.symbol = q at hclose ⊢
      rw [hcopy p q hclose.depthN]
      cases state.copySnapshot (q.copyArgs state (eventWallTs event) r) with
      | none => exact ⟨rfl, hclose⟩
      | some snapshot =>
          dsimp only
          have hstored := hclose.setState hsymbol state.ensurePriceIndexes
          generalize p.setState event.symbol state.ensurePriceIndexes = p at hstored ⊢
          generalize q.setState event.symbol state.ensurePriceIndexes = q at hstored ⊢
          have hquality : p.depthQuality state.ensurePriceIndexes snapshot event lag r =
              q.depthQuality state.ensurePriceIndexes snapshot event lag r := by
            rw [depthQuality, depthQuality, hstored.validator]
          rw [hquality]
          obtain ⟨hemitted, hsame⟩ := hstored.maybeEmitOrBlockSample snapshot
            (q.depthQuality state.ensurePriceIndexes snapshot event lag r) event.exchangeEventTs
          exact ⟨congrArg (ProcessorReply.applied result) hemitted,
            hsame.quiet (touchesOnly_finishUpdate ..) (touchesOnly_finishUpdate ..)⟩
  | false =>
      rw [if_neg Bool.false_ne_true, if_neg Bool.false_ne_true]
      have hcount := hset.quiet (touchesOnly_countRejected _ result.status)
        (touchesOnly_countRejected _ result.status)
      generalize p.countRejected result.status = p at hcount ⊢
      generalize q.countRejected result.status = q at hcount ⊢
      rw [hcopy p q hcount.depthN]
      split
      · cases state.copySnapshot (q.copyArgs state (eventWallTs event) r) with
        | none => exact ⟨rfl, hcount⟩
        | some snapshot =>
            exact ⟨rfl, (hcount.setState hsymbol _).quiet (touchesOnly_finishUpdate ..)
              (touchesOnly_finishUpdate ..)⟩
      · exact ⟨rfl, hcount.quiet (touchesOnly_finishUpdate ..) (touchesOnly_finishUpdate ..)⟩

/-- A snapshot is loaded alike. -/
theorem SeesSame.loadSnapshot {a : SnapshotLoad} (hsymbol : upper a.symbol = key) :
    (p.loadSnapshot a).2 = (q.loadSnapshot a).2 ∧
      SeesSame key (p.loadSnapshot a).1 (q.loadSnapshot a).1 := by
  rw [OrderbookPhase41Processor.loadSnapshot, OrderbookPhase41Processor.loadSnapshot,
    h.stateFor hsymbol]
  generalize (q.stateFor a.symbol a.monotonicNow).applySnapshot (snapshotArgs a) = applied
  obtain ⟨state, result⟩ := applied
  have hset := h.setState hsymbol state
  dsimp only
  generalize p.setState a.symbol state = p at hset ⊢
  generalize q.setState a.symbol state = q at hset ⊢
  refine ⟨rfl, ?_⟩
  cases result.accepted with
  | true =>
      refine SeesSame.quiet (hset.closeStalePeriod hsymbol) ?_ ?_
      · exact .of_maps rfl rfl rfl rfl rfl rfl
      · exact .of_maps rfl rfl rfl rfl rfl rfl
  | false =>
      refine SeesSame.quiet hset ?_ ?_
      · exact .of_maps rfl rfl rfl rfl rfl rfl
      · exact .of_maps rfl rfl rfl rfl rfl rfl

end

/-- A snapshot, an update or a check for a symbol. -/
def CallsFor (symbol : String) : ProcessorCall → Prop
  | .loadSnapshot a => upper a.symbol = upper symbol
  | .processDepthUpdate event _ _ => upper event.symbol = upper symbol
  | .checkStalePeriods _ symbols _ _ _ =>
      symbols ≠ [] ∧ ∀ checked ∈ symbols, upper checked = upper symbol
  | _ => False

/-- **Processors with the same entries of a symbol reply alike to its calls.** -/
theorem seesSame_next {symbol : String} (p q : OrderbookPhase41Processor) (call : ProcessorCall)
    (h : SeesSame (upper symbol) p q) (hcall : CallsFor symbol call) :
    phase41Machine.out p call = phase41Machine.out q call ∧
      SeesSame (upper symbol) (phase41Machine.next p call) (phase41Machine.next q call) := by
  cases call with
  | loadSnapshot a => exact h.loadSnapshot hcall
  | processDepthUpdate event lag r => exact h.processDepthUpdate hcall lag r
  | checkStalePeriods now symbols feedActive queueSize clock =>
      obtain ⟨hne, hall⟩ := hcall
      have hsymbols : ∀ key ∈ symbols.map upper, key = upper symbol := by
        intro key hkey
        obtain ⟨checked, hmem, rfl⟩ := List.mem_map.mp hkey
        exact hall checked hmem
      have hcheck := SeesSame.checkStaleSymbols (upper_upper symbol) (now.getD clock)
        (feedActive.getD q.captureActive) queueSize clock hsymbols h
      change ProcessorReply.stalePeriods
          (p.checkStalePeriods now symbols feedActive queueSize clock).2 =
        ProcessorReply.stalePeriods
          (q.checkStalePeriods now symbols feedActive queueSize clock).2 ∧
        SeesSame (upper symbol) (p.checkStalePeriods now symbols feedActive queueSize clock).1
          (q.checkStalePeriods now symbols feedActive queueSize clock).1
      simp only [checkStalePeriods, if_neg hne, h.captureActive]
      exact ⟨congrArg ProcessorReply.stalePeriods hcheck.1, hcheck.2⟩
  | _ => exact hcall.elim

/-! ### What was never seen -/

/-- The state of a symbol, made when there is none. -/
def openState (p : OrderbookPhase41Processor) (symbol : String) (now : ℤ) :
    OrderbookPhase41Processor := p.setState symbol (p.stateFor symbol now)

/-- A symbol without entries has none after calls that do not name it. -/
theorem entriesOf_next_none {p : OrderbookPhase41Processor} (hp : UpperKeys p) {key : String}
    (hnone : p.entriesOf key = .none) {call : ProcessorCall} (hcall : key ∉ call.named) :
    (phase41Machine.next p call).entriesOf key = .none := by
  cases hcapture : call.setsCapture with
  | true =>
      obtain ⟨active, rfl⟩ := exists_of_setsCapture hcapture
      exact hnone
  | false =>
      refine ((touchesOnly_next hp hcapture).entries key ?_).trans hnone
      rw [ProcessorCall.symbols.eq_def]
      split
      · exact Dict.get?_eq_none_iff.mp (congrArg SymbolEntries.state hnone)
      · exact hcall

/-- A processor without a symbol has nothing about it, as long as no call names it. -/
theorem entriesOf_exec_none (c : Phase41Settings) {key : String}
    (hkey : key ∉ c.symbols.map upper) {calls : List ProcessorCall}
    (hcalls : ∀ call ∈ calls, key ∉ call.named) :
    (phase41Machine.exec (OrderbookPhase41Processor.init c) calls).entriesOf key = .none := by
  have hstate : (OrderbookPhase41Processor.init c).states.get? key = none := by
    cases hget : (OrderbookPhase41Processor.init c).states.get? key with
    | none => rfl
    | some s =>
        obtain ⟨symbol, hsymbol, heq⟩ := List.mem_map.mp (Dict.mem_of_get?_ofList hget)
        exact absurd (List.mem_map.mpr ⟨symbol, hsymbol, (Prod.mk.inj heq).1⟩) hkey
  have hstart : (OrderbookPhase41Processor.init c).entriesOf key = .none := by
    rw [entriesOf, hstate]
    rfl
  exact (phase41Machine.exec_invariant_while (C := fun _ call => key ∉ call.named)
    (I := fun p => UpperKeys p ∧ p.entriesOf key = .none)
    (fun p call hp hcall => ⟨hp.1.next call, entriesOf_next_none hp.1 hp.2 hcall⟩)
    ⟨.init c, hstart⟩ (phase41Machine.stepsMeet_of_forall _ hcalls)).2

/-- The settings of a processor are those it was made with. -/
theorem replySettings_exec (c : Phase41Settings) (calls : List ProcessorCall) :
    (phase41Machine.exec (OrderbookPhase41Processor.init c) calls).replySettings =
      (OrderbookPhase41Processor.init c).replySettings :=
  (phase41Machine.exec_invariant
    (I := fun p => UpperKeys p ∧
      p.replySettings = (OrderbookPhase41Processor.init c).replySettings)
    (fun _ call hp => ⟨hp.1.next call, (replySettings_next hp.1 call).trans hp.2⟩)
    ⟨.init c, rfl⟩ calls).2

/-! ### Calls for the symbol that tell processors apart -/

/-- A symbol with a state and a noted message. -/
structure Signalled (key : String) (recovery : Option Unit) (p : OrderbookPhase41Processor) :
    Prop where
  state : ∃ s, p.states.get? key = some s
  lastWs : ∃ ns, p.lastWsMessageRecvMonotonicNs.get? key = some ns
  recovery : p.snapshotRecoveryActiveSymbols.get? key = recovery

theorem keptByParts_signalled (key : String) (recovery : Option Unit) :
    KeptByParts [key] (Signalled key recovery) := by
  constructor
  · intro p q hquiet hp
    have hentries := hquiet.entries key List.not_mem_nil
    have hstate : q.states.get? key = p.states.get? key := congrArg SymbolEntries.state hentries
    have hws : q.lastWsMessageRecvMonotonicNs.get? key = p.lastWsMessageRecvMonotonicNs.get? key :=
      congrArg SymbolEntries.lastWsMessageRecvMonotonicNs hentries
    have hrecovery : q.snapshotRecoveryActiveSymbols.get? key =
        p.snapshotRecoveryActiveSymbols.get? key :=
      congrArg SymbolEntries.snapshotRecoveryActive hentries
    exact ⟨hstate ▸ hp.state, hws ▸ hp.lastWs, hrecovery.trans hp.recovery⟩
  · intro p symbol s hsymbol hp
    refine ⟨⟨s, ?_⟩, hp.lastWs, hp.recovery⟩
    rw [setState, List.mem_singleton.mp hsymbol, Dict.get?_set_self]
  · exact fun symbol hsymbol hp => ⟨hp.state, hp.lastWs, hp.recovery⟩
  · intro p key' s age hkey' hp
    obtain rfl := List.mem_singleton.mp hkey'
    exact ⟨⟨s, Dict.get?_set_self ..⟩, hp.lastWs, hp.recovery⟩
  · intro p key' s now age clock hkey' hp
    obtain rfl := List.mem_singleton.mp hkey'
    simp only [recordFeedReceiveStale]
    split
    · exact ⟨⟨_, Dict.get?_set_self ..⟩, hp.lastWs, hp.recovery⟩
    · exact ⟨hp.state, hp.lastWs, hp.recovery⟩

/-- A processed update leaves a noted message. -/
theorem signalled_processDepthUpdate (p : OrderbookPhase41Processor) (event : DepthUpdate)
    (lag : Option ℚ) (r : DepthReadings) :
    Signalled (upper event.symbol) (p.snapshotRecoveryActiveSymbols.get? (upper event.symbol))
      (p.processDepthUpdate event lag r).1 := by
  have hparts := keptByParts_signalled (upper event.symbol)
    (p.snapshotRecoveryActiveSymbols.get? (upper event.symbol))
  refine hparts.processDepthUpdate event lag r List.mem_cons_self ?_
  exact hparts.receive event r List.mem_cons_self
    ⟨⟨_, Dict.get?_set_self ..⟩, ⟨_, Dict.get?_set_self ..⟩, rfl⟩

/-- An update of a symbol without levels. -/
def bareUpdate (symbol : String) : DepthUpdate where
  tsNs := 0
  exchangeEventTs := none
  localReceivedTs := none
  parseDoneTs := none
  stateUpdatedTs := none
  recvMonotonicNs := some 1
  parseDoneMonotonicNs := none
  stateUpdatedMonotonicNs := none
  latencyMs := none
  sequence := none
  symbol := symbol
  firstUpdateId := 1
  finalUpdateId := 1
  previousFinalUpdateId := none
  bids := []
  asks := []

/-- A check of a symbol, with nothing in the queue. -/
def checkAt (symbol : String) (now : ℤ) : ProcessorCall :=
  .checkStalePeriods (some now) [symbol] (some true) 0 now

section

variable {p : OrderbookPhase41Processor} {symbol : String} {s : OrderbookState}

theorem staleFeedAge_observeBookAge (key : String) (age : Option ℚ) (now queueSize : ℤ) :
    staleFeedAge (p.observeBookAge key s age) key now queueSize =
      staleFeedAge p key now queueSize := rfl

theorem recovery_observeBookAge (key : String) (age : Option ℚ) :
    (p.observeBookAge key s age).snapshotRecoveryActiveSymbols =
      p.snapshotRecoveryActiveSymbols := rfl

theorem out_checkAt (hs : p.states.get? (upper symbol) = some s) (now : ℤ) :
    phase41Machine.out p (checkAt symbol now) =
      .stalePeriods (p.checkStaleState (upper symbol) s now true 0 now).2 := by
  have hcheck : p.checkStalePeriods (some now) [symbol] (some true) 0 now =
      checkStaleSymbols now true 0 now [upper symbol] p := rfl
  change ProcessorReply.stalePeriods
    (p.checkStalePeriods (some now) [symbol] (some true) 0 now).2 = _
  rw [hcheck, checkStaleSymbols, hs]
  simp only [checkStaleSymbols, List.append_nil]

/-- A symbol without a noted message, or in recovery, is found in no stale period. -/
theorem out_checkAt_nil (hs : p.states.get? (upper symbol) = some s) (now : ℤ)
    (h : p.lastWsMessageRecvMonotonicNs.get? (upper symbol) = none ∨
      p.snapshotRecoveryActiveSymbols.get? (upper symbol) ≠ none) :
    phase41Machine.out p (checkAt symbol now) = .stalePeriods [] := by
  rw [out_checkAt hs]
  have hspec := checkStaleState_spec p (upper symbol) s now true 0 now
  dsimp only at hspec
  split at hspec
  · rw [hspec.1]
  · rename_i hchecked
    rcases h with hws | hrecovery
    · have hage : staleFeedAge p (upper symbol) now 0 = none := by
        rw [staleFeedAge, feedReceiveAgeMs, upper_upper, hws]
        rfl
      rw [staleFeedAge_observeBookAge, hage] at hspec
      rw [hspec.1]
    · exact absurd (.inr (Option.isSome_iff_ne_none.mpr hrecovery)) hchecked

/-- A noted message that is old enough gives a stale period. -/
theorem out_checkAt_stale (hs : p.states.get? (upper symbol) = some s) {ns : ℤ}
    (hws : p.lastWsMessageRecvMonotonicNs.get? (upper symbol) = some ns)
    (hrecovery : p.snapshotRecoveryActiveSymbols.get? (upper symbol) = none) :
    phase41Machine.out p
      (checkAt symbol (ns + ⌊p.feedReceiveStaleThresholdMs * 1000000⌋ + 1)) ≠
      .stalePeriods [] := by
  set now := ns + ⌊p.feedReceiveStaleThresholdMs * 1000000⌋ + 1 with hnow
  rw [out_checkAt hs]
  have hspec := checkStaleState_spec p (upper symbol) s now true 0 now
  have hold : ((now : ℚ) - ns) / 1000000 > p.feedReceiveStaleThresholdMs := by
    have hfloor := Int.lt_floor_add_one (p.feedReceiveStaleThresholdMs * 1000000)
    rw [gt_iff_lt, lt_div_iff₀ (by norm_num), hnow]
    push_cast
    linarith
  have hage : staleFeedAge p (upper symbol) now 0 = some (((now : ℚ) - ns) / 1000000) := by
    rw [staleFeedAge, feedReceiveAgeMs, upper_upper, hws]
    exact Option.filter_some_pos (by simpa using hold)
  have hchecked : ¬ (true = false ∨
      (p.snapshotRecoveryActiveSymbols.get? (upper symbol)).isSome = true) := by
    simp [hrecovery]
  dsimp only at hspec
  rw [recovery_observeBookAge, if_neg hchecked, staleFeedAge_observeBookAge, hage] at hspec
  rw [hspec]
  simp

end

/-! ### Removed and never seen -/

/-- What removing a symbol should mean: to later calls for it, it is like a symbol that the other
processor never saw, and the states of other symbols stay as they are. -/
def RemovalForgets (symbol : String) (now : ℤ) (p q : OrderbookPhase41Processor) : Prop :=
  ∀ later, (∀ call ∈ later, CallsFor symbol call) →
    let removed := openState (p.cleanupSymbol symbol) symbol now
    let fresh := openState q symbol now
    phase41Machine.trace removed later = phase41Machine.trace fresh later ∧
    ((phase41Machine.exec removed later).states.get? (upper symbol)).map
        OrderbookState.readyToEmit =
      ((phase41Machine.exec fresh later).states.get? (upper symbol)).map
        OrderbookState.readyToEmit ∧
    (phase41Machine.exec removed later).openStalePeriods.get? (upper symbol) =
      (phase41Machine.exec fresh later).openStalePeriods.get? (upper symbol) ∧
    ∀ other, other ≠ upper symbol →
      (phase41Machine.exec removed later).states.get? other = p.states.get? other

section

variable {symbol : String} {p q : OrderbookPhase41Processor}

/-- Asking for a symbol stores its state. -/
theorem entriesOf_openState (symbol : String) (now : ℤ) (p : OrderbookPhase41Processor) :
    (openState p symbol now).entriesOf (upper symbol) =
      { p.entriesOf (upper symbol) with state := some (p.stateFor symbol now) } := by
  simp only [openState, entriesOf, setState, Dict.get?_set_self]

theorem touchesOnly_openState (symbol : String) (now : ℤ) (p : OrderbookPhase41Processor) :
    TouchesOnly [upper symbol] p (openState p symbol now) :=
  (keptByParts_touchesOnly _ p).setState symbol _ List.mem_cons_self (.refl _ p)

/-- What is left of a symbol that was removed and asked for again. -/
theorem entriesOf_removed (symbol : String) (now : ℤ) (p : OrderbookPhase41Processor) :
    (openState (p.cleanupSymbol symbol) symbol now).entriesOf (upper symbol) =
      ⟨some (OrderbookState.init (upper symbol) readyFalseWarningAfterSec now), none,
        p.lastWsMessageRecvMonotonicNs.get? (upper symbol),
        p.snapshotRecoveryActiveSymbols.get? (upper symbol)⟩ := by
  have hstate : (p.cleanupSymbol symbol).stateFor symbol now =
      OrderbookState.init (upper symbol) readyFalseWarningAfterSec now := by
    simp only [stateFor, cleanupSymbol, Dict.get?_pop, if_true, Option.getD_none]
  rw [entriesOf_openState, hstate]
  simp only [entriesOf, cleanupSymbol, Dict.get?_pop, if_true]

/-- A symbol that was never seen and is asked for. -/
theorem entriesOf_fresh (hnone : q.entriesOf (upper symbol) = .none) (now : ℤ) :
    (openState q symbol now).entriesOf (upper symbol) =
      ⟨some (OrderbookState.init (upper symbol) readyFalseWarningAfterSec now), none, none,
        none⟩ := by
  have hget : q.states.get? (upper symbol) = none := congrArg SymbolEntries.state hnone
  rw [entriesOf_openState, hnone, stateFor, hget]
  rfl

/-- Calls for a symbol touch nothing else. -/
theorem touchesOnly_calls {start : OrderbookPhase41Processor} (hstart : UpperKeys start)
    {later : List ProcessorCall} (hlater : ∀ call ∈ later, CallsFor symbol call) :
    TouchesOnly [upper symbol] start (phase41Machine.exec start later) := by
  refine (phase41Machine.exec_invariant_while (C := fun _ call => CallsFor symbol call)
    (I := fun p => UpperKeys p ∧ TouchesOnly [upper symbol] start p)
    (fun p call hp hcall => ⟨hp.1.next call, hp.2.trans ?_⟩) ⟨hstart, .refl _ _⟩
    (phase41Machine.stepsMeet_of_forall _ hlater)).2
  cases call with
  | loadSnapshot a =>
      refine (touchesOnly_next hp.1 rfl).mono ?_
      exact List.cons_subset.mpr ⟨List.mem_singleton.mpr hcall, List.nil_subset _⟩
  | processDepthUpdate event lag r =>
      refine (touchesOnly_next hp.1 rfl).mono ?_
      exact List.cons_subset.mpr ⟨List.mem_singleton.mpr hcall, List.nil_subset _⟩
  | checkStalePeriods now symbols feedActive queueSize clock =>
      refine (touchesOnly_next hp.1 rfl).mono fun key hkey => ?_
      obtain ⟨hne, hall⟩ := hcall
      rw [ProcessorCall.symbols.eq_def] at hkey
      split at hkey
      · rename_i heq
        obtain ⟨-, hnil, -⟩ := ProcessorCall.checkStalePeriods.inj heq
        exact absurd hnil hne
      · obtain ⟨checked, hmem, rfl⟩ := List.mem_map.mp hkey
        exact List.mem_singleton.mpr (hall checked hmem)
  | _ => exact hcall.elim

/-- A symbol with nothing left is like one that was never seen. -/
theorem removalForgets_of_nothing_left (hp : UpperKeys p) (hsettings : q.replySettings = p.replySettings)
    (hactive : q.captureActive = p.captureActive) (hnone : q.entriesOf (upper symbol) = .none)
    (now : ℤ) (hws : p.lastWsMessageRecvMonotonicNs.get? (upper symbol) = none)
    (hrecovery : p.snapshotRecoveryActiveSymbols.get? (upper symbol) = none) :
    RemovalForgets symbol now p q := by
  intro later hlater
  have hsame : SeesSame (upper symbol) (openState (p.cleanupSymbol symbol) symbol now)
      (openState q symbol now) := by
    refine ⟨hsettings.symm, hactive.symm, ?_⟩
    rw [entriesOf_removed, entriesOf_fresh hnone, hws, hrecovery]
  obtain ⟨htrace, hend⟩ := phase41Machine.trace_eq_of_related
    (R := SeesSame (upper symbol)) seesSame_next hsame hlater
  refine ⟨htrace, by rw [hend.state], hend.openPeriod, fun other hother => ?_⟩
  have hcleaned : UpperKeys (p.cleanupSymbol symbol) := hp.next (.cleanupSymbol symbol)
  have hremoved : TouchesOnly [upper symbol] p (p.cleanupSymbol symbol) :=
    @touchesOnly_next p hp (.cleanupSymbol symbol) rfl
  have hopened := touchesOnly_openState symbol now (p.cleanupSymbol symbol)
  have hopenedUpper : UpperKeys (openState (p.cleanupSymbol symbol) symbol now) :=
    hcleaned.of_touchesOnly hopened fun key hkey => by
      rw [List.mem_singleton.mp hkey, upper_upper]
  have hall := (hremoved.trans hopened).trans (touchesOnly_calls hopenedUpper hlater)
  exact congrArg SymbolEntries.state
    (hall.entries other fun hmem => hother (List.mem_singleton.mp hmem))

/-- What removing a symbol leaves behind tells it from one that was never seen. -/
theorem nothing_left_of_removalForgets
    (hnone : q.entriesOf (upper symbol) = .none) {now : ℤ} (h : RemovalForgets symbol now p q) :
    p.lastWsMessageRecvMonotonicNs.get? (upper symbol) = none ∧
      p.snapshotRecoveryActiveSymbols.get? (upper symbol) = none := by
  have hleft := entriesOf_removed symbol now p
  have hnew := entriesOf_fresh hnone now
  have htrace (later : List ProcessorCall) (hlater : ∀ call ∈ later, CallsFor symbol call) :=
    (h later hlater).1
  generalize openState (p.cleanupSymbol symbol) symbol now = removed at hleft htrace
  generalize openState q symbol now = fresh at hnew htrace
  have hcheck (ns : ℤ) : CallsFor symbol (checkAt symbol ns) :=
    ⟨by simp, fun checked hmem => by rw [List.mem_singleton.mp hmem]⟩
  have hrecovery : p.snapshotRecoveryActiveSymbols.get? (upper symbol) = none := by
    by_contra hactive
    -- after an update, a check finds the new symbol stale, and does not look at the removed one
    set update : ProcessorCall := .processDepthUpdate (bareUpdate symbol) none ⟨0, 0, 0, 0, 0⟩
    have hsignalled (start : OrderbookPhase41Processor) :
        Signalled (upper symbol) (start.snapshotRecoveryActiveSymbols.get? (upper symbol))
          (phase41Machine.next start update) :=
      signalled_processDepthUpdate start (bareUpdate symbol) none ⟨0, 0, 0, 0, 0⟩
    obtain ⟨⟨s, hs⟩, ⟨ns, hns⟩, hfreshRecovery⟩ := hsignalled fresh
    obtain ⟨⟨s', hs'⟩, -, hremovedRecovery⟩ := hsignalled removed
    rw [show fresh.snapshotRecoveryActiveSymbols.get? (upper symbol) = none from
      congrArg SymbolEntries.snapshotRecoveryActive hnew] at hfreshRecovery
    rw [show removed.snapshotRecoveryActiveSymbols.get? (upper symbol) =
        p.snapshotRecoveryActiveSymbols.get? (upper symbol) from
      congrArg SymbolEntries.snapshotRecoveryActive hleft] at hremovedRecovery
    have hstale := out_checkAt_stale hs hns hfreshRecovery
    set check := checkAt symbol
      (ns + ⌊(phase41Machine.next fresh update).feedReceiveStaleThresholdMs * 1000000⌋ + 1)
    have hboth := htrace [update, check] (by
      rintro call hmem
      rcases List.mem_pair.mp hmem with rfl | rfl
      · exact rfl
      · exact hcheck _)
    simp only [Machine.trace_cons, Machine.trace_nil, List.cons.injEq, Prod.mk.injEq,
      true_and, and_true] at hboth
    rw [← hboth.2, out_checkAt_nil hs' _ (.inr (hremovedRecovery ▸ hactive))] at hstale
    exact hstale rfl
  refine ⟨?_, hrecovery⟩
  by_contra hws
  -- the old message makes the removed symbol stale
  obtain ⟨ns, hns⟩ := Option.ne_none_iff_exists'.mp hws
  have hstale := out_checkAt_stale (congrArg SymbolEntries.state hleft)
    ((congrArg SymbolEntries.lastWsMessageRecvMonotonicNs hleft).trans hns)
    ((congrArg SymbolEntries.snapshotRecoveryActive hleft).trans hrecovery)
  set check := checkAt symbol (ns + ⌊removed.feedReceiveStaleThresholdMs * 1000000⌋ + 1)
  have hboth := htrace [check] fun call hmem => by
    rw [List.mem_singleton.mp hmem]
    exact hcheck _
  simp only [Machine.trace_cons, Machine.trace_nil, List.cons.injEq, Prod.mk.injEq,
    true_and, and_true] at hboth
  rw [hboth, out_checkAt_nil (congrArg SymbolEntries.state hnew) _
    (.inl (congrArg SymbolEntries.lastWsMessageRecvMonotonicNs hnew))] at hstale
  exact hstale rfl

end

/-! ### Runs -/

/-- **When removing a symbol forgets it**: exactly when no message of the symbol was noted and it
is in no snapshot recovery. The other processor has the same settings, was made without the symbol
and got no call that names it. -/
theorem cleanup_forgets_iff (c : Phase41Settings) (calls : List ProcessorCall) (symbol : String)
    (now : ℤ) (others : List String) (elsewhere : List ProcessorCall)
    (hothers : upper symbol ∉ others.map upper)
    (helsewhere : ∀ call ∈ elsewhere, upper symbol ∉ call.named)
    (hactive :
      (phase41Machine.exec (OrderbookPhase41Processor.init { c with symbols := others })
        elsewhere).captureActive =
      (phase41Machine.exec (OrderbookPhase41Processor.init c) calls).captureActive) :
    RemovalForgets symbol now (phase41Machine.exec (OrderbookPhase41Processor.init c) calls)
        (phase41Machine.exec (OrderbookPhase41Processor.init { c with symbols := others })
          elsewhere) ↔
      (phase41Machine.exec (OrderbookPhase41Processor.init c)
          calls).lastWsMessageRecvMonotonicNs.get? (upper symbol) = none ∧
        (phase41Machine.exec (OrderbookPhase41Processor.init c)
          calls).snapshotRecoveryActiveSymbols.get? (upper symbol) = none := by
  have hnone := entriesOf_exec_none { c with symbols := others } hothers helsewhere
  have hsettings := (replySettings_exec { c with symbols := others } elsewhere).trans
    (replySettings_exec c calls).symm
  have hupper := phase41Machine.exec_invariant (I := UpperKeys)
    (fun _ call hp => hp.next call) (UpperKeys.init c) calls
  constructor
  · exact nothing_left_of_removalForgets hnone
  · rintro ⟨hws, hrecovery⟩
    exact removalForgets_of_nothing_left hupper hsettings hactive hnone now hws hrecovery

/-- The settings of a processor of one symbol. -/
def oneSymbolSettings (symbols : List String) : Phase41Settings :=
  ⟨symbols, 20, 1000, none, 50, 250, 0⟩

/-- A symbol that got no message is forgotten. -/
theorem cleanup_forgets_iff_unused :
    RemovalForgets "btcusdt" 5
        (phase41Machine.exec (OrderbookPhase41Processor.init (oneSymbolSettings ["btcusdt"])) [])
        (phase41Machine.exec (OrderbookPhase41Processor.init (oneSymbolSettings [])) []) ↔
      (phase41Machine.exec (OrderbookPhase41Processor.init (oneSymbolSettings ["btcusdt"]))
          []).lastWsMessageRecvMonotonicNs.get? (upper "btcusdt") = none ∧
        (phase41Machine.exec (OrderbookPhase41Processor.init (oneSymbolSettings ["btcusdt"]))
          []).snapshotRecoveryActiveSymbols.get? (upper "btcusdt") = none :=
  cleanup_forgets_iff (oneSymbolSettings ["btcusdt"]) [] "btcusdt" 5 [] [] (by simp) (by simp) rfl

/-- A symbol that got an update is not forgotten: after it is removed and asked for again, the
time of the update is still there. -/
theorem cleanup_keeps_last_message :
    ¬ RemovalForgets "btcusdt" 5
      (phase41Machine.exec (OrderbookPhase41Processor.init (oneSymbolSettings ["btcusdt"]))
        [.processDepthUpdate (bareUpdate "btcusdt") none ⟨0, 0, 0, 0, 0⟩])
      (OrderbookPhase41Processor.init (oneSymbolSettings [])) := by
  intro h
  have hleft := (nothing_left_of_removalForgets (by decide +kernel) h).1
  revert hleft
  decide +kernel

end SomethingTrade
