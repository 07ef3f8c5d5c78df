import SomethingTrade.OrderbookPhase41

/-!
# What a Call of the Processor Touches

The processor keeps the data of its symbols in maps. Four of them decide what later calls reply:
the states, the open stale periods, the receive times of the websocket and the set of symbols in
snapshot recovery. A call touches the entries of the symbols it is about, and no setting.

## Main results

* `touchesOnly_next`: a call leaves the settings and the entries of other symbols alone.
* `UpperKeys.next`: the symbols of the states are in upper case.
-/

namespace SomethingTrade

open OrderbookPhase41Processor

/-! ### Views -/

/-- What the processor has about a symbol, as far as replies depend on it. -/
structure SymbolEntries where
  state : Option OrderbookState
  openPeriod : Option StalePeriod
  lastWsMessageRecvMonotonicNs : Option ℤ
  snapshotRecoveryActive : Option Unit
  deriving DecidableEq

/-- Nothing about a symbol. -/
def SymbolEntries.none : SymbolEntries := ⟨.none, .none, .none, .none⟩

/-- The settings that replies depend on. -/
structure ReplySettings where
  depthN : ℤ
  staleThresholdMs : ℚ
  feedReceiveStaleThresholdMs : ℚ
  validator : OrderbookQualityValidator

namespace OrderbookPhase41Processor

/-- The entries of a symbol. -/
def entriesOf (p : OrderbookPhase41Processor) (key : String) : SymbolEntries where
  state := p.states.get? key
  openPeriod := p.openStalePeriods.get? key
  lastWsMessageRecvMonotonicNs := p.lastWsMessageRecvMonotonicNs.get? key
  snapshotRecoveryActive := p.snapshotRecoveryActiveSymbols.get? key

/-- The settings. -/
def replySettings (p : OrderbookPhase41Processor) : ReplySettings :=
  ⟨p.depthN, p.staleThresholdMs, p.feedReceiveStaleThresholdMs, p.validator⟩

end OrderbookPhase41Processor

/-- From one processor to another only the entries of the given symbols change. -/
structure TouchesOnly (keys : List String) (p q : OrderbookPhase41Processor) : Prop where
  settings : q.replySettings = p.replySettings
  captureActive : q.captureActive = p.captureActive
  entries : ∀ key ∉ keys, q.entriesOf key = p.entriesOf key

namespace TouchesOnly

variable {keys keys' : List String} {p q r : OrderbookPhase41Processor}

theorem refl (keys : List String) (p : OrderbookPhase41Processor) : TouchesOnly keys p p :=
  ⟨rfl, rfl, fun _ _ => rfl⟩

theorem trans (h : TouchesOnly keys p q) (h' : TouchesOnly keys q r) : TouchesOnly keys p r :=
  ⟨h'.settings.trans h.settings, h'.captureActive.trans h.captureActive,
    fun key hkey => (h'.entries key hkey).trans (h.entries key hkey)⟩

theorem mono (h : TouchesOnly keys p q) (hsub : keys ⊆ keys') : TouchesOnly keys' p q :=
  ⟨h.settings, h.captureActive, fun key hkey => h.entries key fun hmem => hkey (hsub hmem)⟩

/-- A step that touches none of the maps. -/
theorem of_maps (hsettings : q.replySettings = p.replySettings)
    (hactive : q.captureActive = p.captureActive) (hstates : q.states = p.states)
    (hperiods : q.openStalePeriods = p.openStalePeriods)
    (hws : q.lastWsMessageRecvMonotonicNs = p.lastWsMessageRecvMonotonicNs)
    (hrecovery : q.snapshotRecoveryActiveSymbols = p.snapshotRecoveryActiveSymbols) :
    TouchesOnly keys p q :=
  ⟨hsettings, hactive, fun key _ => by
    simp only [entriesOf, hstates, hperiods, hws, hrecovery]⟩

end TouchesOnly

/-! ### Parts that touch no map -/

section

variable (p : OrderbookPhase41Processor) {keys : List String}

theorem touchesOnly_countReceived : TouchesOnly keys p p.countReceived :=
  .of_maps rfl rfl rfl rfl rfl rfl

theorem touchesOnly_countAccepted : TouchesOnly keys p p.countAccepted :=
  .of_maps rfl rfl rfl rfl rfl rfl

theorem touchesOnly_countRejected (status : ApplyStatus) :
    TouchesOnly keys p (p.countRejected status) := by
  cases status <;> exact .of_maps rfl rfl rfl rfl rfl rfl

theorem touchesOnly_finishUpdate (symbol : String) (s : OrderbookState) :
    TouchesOnly keys p (p.finishUpdate symbol s) := .of_maps rfl rfl rfl rfl rfl rfl

theorem touchesOnly_maybeEmitOrBlockSample (snapshot : OrderbookSnapshot)
    (quality : OrderbookQualityResult) (ts : Option ℤ) :
    TouchesOnly keys p (p.maybeEmitOrBlockSample snapshot quality ts).1 := by
  simp only [maybeEmitOrBlockSample]
  split
  · exact .of_maps rfl rfl rfl rfl rfl rfl
  · split <;> exact .of_maps rfl rfl rfl rfl rfl rfl

theorem touchesOnly_recordProcessorApplyStale (key : String) :
    TouchesOnly keys p (p.recordProcessorApplyStale key) := by
  simp only [recordProcessorApplyStale]
  split <;> exact .of_maps rfl rfl rfl rfl rfl rfl

/-- The check of a feed that is not stale closes its period; the rest are counters. -/
theorem touchesOnly_checkApplyStale (key : String) (applyAge feedAge : Option ℚ)
    (queueSize : ℤ) :
    TouchesOnly keys (p.closeStalePeriod key)
      (p.checkApplyStale key applyAge feedAge queueSize) := by
  simp only [checkApplyStale]
  split
  · exact touchesOnly_recordProcessorApplyStale _ key
  · exact .of_maps rfl rfl rfl rfl rfl rfl

end

/-! ### The check of a symbol -/

/-- The age of a feed that counts as stale. -/
def staleFeedAge (p : OrderbookPhase41Processor) (key : String) (now queueSize : ℤ) : Option ℚ :=
  (p.feedReceiveAgeMs key now).filter fun age =>
    age > p.feedReceiveStaleThresholdMs ∧ queueSize = 0

/-- **The check of a symbol.** When the capture is over or a snapshot recovery is active, only the
age of the book is noted; a stale feed has a period recorded; else its period is closed. -/
theorem checkStaleState_spec (p : OrderbookPhase41Processor) (key : String) (s : OrderbookState)
    (now : ℤ) (active : Bool) (queueSize clock : ℤ) :
    let seen := { s with lastStaleCheckMonotonicNs := some now }
    let q := p.observeBookAge key seen (s.bookAgeMs now)
    let out := p.checkStaleState key s now active queueSize clock
    if active = false ∨ (q.snapshotRecoveryActiveSymbols.get? key).isSome = true then
      out.2 = [] ∧ TouchesOnly [] q out.1
    else
      match staleFeedAge q key now queueSize with
      | some age => out = ((q.recordFeedReceiveStale key seen now age clock).1,
          [(q.recordFeedReceiveStale key seen now age clock).2])
      | none => out.2 = [] ∧ TouchesOnly [] (q.closeStalePeriod key) out.1 := by
  dsimp only
  rw [checkStaleState]
  dsimp only
  generalize ({ s with lastStaleCheckMonotonicNs := some now } : OrderbookState) = seen
  generalize p.observeBookAge key seen (s.bookAgeMs now) = q
  by_cases hactive : active = false
  · rw [if_pos (.inl hactive), if_pos hactive]
    split
    · exact ⟨rfl, .of_maps rfl rfl rfl rfl rfl rfl⟩
    · exact ⟨rfl, .refl _ _⟩
  by_cases hrecovery : (q.snapshotRecoveryActiveSymbols.get? key).isSome = true
  · rw [if_pos (.inr hrecovery), if_neg hactive, if_pos hrecovery]
    split
    · exact ⟨rfl, .of_maps rfl rfl rfl rfl rfl rfl⟩
    · exact ⟨rfl, .refl _ _⟩
  rw [if_neg (not_or.mpr ⟨hactive, hrecovery⟩), if_neg hactive, if_neg hrecovery, staleFeedAge]
  cases q.feedReceiveAgeMs key now with
  | none => exact ⟨rfl, touchesOnly_checkApplyStale ..⟩
  | some age =>
      dsimp only
      by_cases hstale : age > q.feedReceiveStaleThresholdMs ∧ queueSize = 0
      · rw [Option.filter_some_pos (by simpa using hstale), if_pos hstale]
      · rw [Option.filter_some_neg (by simpa using hstale), if_neg hstale]
        exact ⟨rfl, touchesOnly_checkApplyStale ..⟩

/-! ### Properties kept by every part -/

/-- A property of the processor that the parts of calls for some symbols keep, noting a message
apart. -/
structure KeptByParts (keys : List String) (P : OrderbookPhase41Processor → Prop) : Prop where
  quiet : ∀ {p q}, TouchesOnly [] p q → P p → P q
  setState : ∀ {p} symbol s, upper symbol ∈ keys → P p → P (p.setState symbol s)
  closeStalePeriod : ∀ {p} symbol, upper symbol ∈ keys → P p → P (p.closeStalePeriod symbol)
  observeBookAge : ∀ {p} key s age, key ∈ keys → P p → P (p.observeBookAge key s age)
  recordFeedReceiveStale : ∀ {p} key s now age clock, key ∈ keys → P p →
    P (p.recordFeedReceiveStale key s now age clock).1

namespace KeptByParts

variable {keys : List String} {P : OrderbookPhase41Processor → Prop} (hP : KeptByParts keys P)

include hP

theorem checkStaleState {p : OrderbookPhase41Processor} (hp : P p) {key : String}
    (s : OrderbookState) (now : ℤ) (active : Bool) (queueSize clock : ℤ) (h : key ∈ keys)
    (hupper : upper key = key) : P (p.checkStaleState key s now active queueSize clock).1 := by
  have hspec := checkStaleState_spec p key s now active queueSize clock
  have hobserve := hP.observeBookAge key { s with lastStaleCheckMonotonicNs := some now }
    (s.bookAgeMs now) h hp
  dsimp only at hspec
  split at hspec
  · exact hP.quiet hspec.2 hobserve
  · split at hspec
    · rw [hspec]
      exact hP.recordFeedReceiveStale key _ now _ clock h hobserve
    · exact hP.quiet hspec.2 (hP.closeStalePeriod key (hupper.symm ▸ h) hobserve)

theorem checkStaleSymbols (now : ℤ) (active : Bool) (queueSize clock : ℤ)
    (symbols : List String) {p : OrderbookPhase41Processor} (hp : P p) (h : symbols ⊆ keys)
    (hupper : ∀ key ∈ symbols, upper key = key) :
    P (checkStaleSymbols now active queueSize clock symbols p).1 := by
  induction symbols generalizing p with
  | nil => exact hp
  | cons key symbols ih =>
      have hrest := List.subset_of_cons_subset h
      have hupperRest : ∀ key ∈ symbols, upper key = key :=
        fun key' hkey' => hupper key' (List.mem_cons_of_mem key hkey')
      rw [OrderbookPhase41Processor.checkStaleSymbols]
      cases p.states.get? key with
      | none => exact ih hp hrest hupperRest
      | some s =>
          have hfirst := hP.checkStaleState hp s now active queueSize clock
            (h List.mem_cons_self) (hupper key List.mem_cons_self)
          exact ih hfirst hrest hupperRest

/-- Receiving an update keeps what holds once its message is noted. -/
theorem receive {p : OrderbookPhase41Processor} (event : DepthUpdate) (r : DepthReadings)
    (h : upper event.symbol ∈ keys)
    (hp : P ((p.setState event.symbol ((p.stateFor event.symbol r.received).recordMessageRecv
      (recvTime event r))).recordWsMessageRecv event.symbol (recvTime event r))) :
    P (p.receive event r) := by
  have hcount := hP.quiet (touchesOnly_countReceived _) hp
  refine hP.checkStaleSymbols _ _ _ _ [upper event.symbol] hcount ?_ ?_
  · exact List.cons_subset.mpr ⟨h, List.nil_subset _⟩
  · intro key hkey
    rw [List.mem_singleton.mp hkey, upper_upper]

/-- Processing an update keeps what receiving it keeps. -/
theorem processDepthUpdate {p : OrderbookPhase41Processor} (event : DepthUpdate)
    (lag : Option ℚ) (r : DepthReadings) (h : upper event.symbol ∈ keys)
    (hreceive : P (p.receive event r)) : P (p.processDepthUpdate event lag r).1 := by
  rw [OrderbookPhase41Processor.processDepthUpdate]
  generalize p.receive event r = received at hreceive ⊢
  generalize (received.stateFor event.symbol r.received).applyDelta (deltaArgs event r) = applied
  obtain ⟨state, result⟩ := applied
  have hset := hP.setState event.symbol state h hreceive
  dsimp only
  split
  · have hclose := hP.closeStalePeriod event.symbol h
      (hP.quiet (touchesOnly_countAccepted _) hset)
    split
    · exact hclose
    · exact hP.quiet (touchesOnly_finishUpdate _ _ _)
        (hP.quiet (touchesOnly_maybeEmitOrBlockSample _ _ _ _)
          (hP.setState event.symbol _ h hclose))
  · have hcount := hP.quiet (touchesOnly_countRejected _ result.status) hset
    split
    · split
      · exact hcount
      · exact hP.quiet (touchesOnly_finishUpdate _ _ _) (hP.setState event.symbol _ h hcount)
    · exact hP.quiet (touchesOnly_finishUpdate _ _ _) hcount

theorem loadSnapshot {p : OrderbookPhase41Processor} (hp : P p) (a : SnapshotLoad)
    (h : upper a.symbol ∈ keys) : P (p.loadSnapshot a).1 := by
  have hset := hP.setState a.symbol
    ((p.stateFor a.symbol a.monotonicNow).applySnapshot (snapshotArgs a)).1 h hp
  simp only [OrderbookPhase41Processor.loadSnapshot]
  split
  · refine hP.quiet ?_ (hP.closeStalePeriod a.symbol h hset)
    exact .of_maps rfl rfl rfl rfl rfl rfl
  · refine hP.quiet ?_ hset
    exact .of_maps rfl rfl rfl rfl rfl rfl

theorem validateReportedBest {p : OrderbookPhase41Processor} (hp : P p) (symbol : String)
    (bid ask : Option ℚ) (r : DepthReadings) (h : upper symbol ∈ keys) :
    P (p.validateReportedBest symbol bid ask r).1 := by
  have hset := hP.setState symbol (p.stateFor symbol r.received) h hp
  rw [OrderbookPhase41Processor.validateReportedBest]
  dsimp only
  split
  · exact hset
  · exact hP.setState symbol _ h hset

end KeptByParts

/-- Touching only some symbols is kept by the parts of calls for them. -/
theorem keptByParts_touchesOnly (keys : List String) (p : OrderbookPhase41Processor) :
    KeptByParts keys (TouchesOnly keys p) := by
  have hne {symbol key : String} (h : symbol ∈ keys) (hkey : key ∉ keys) : symbol ≠ key :=
    fun heq => hkey (heq ▸ h)
  constructor
  · exact fun hquiet hp => hp.trans (hquiet.mono (List.nil_subset keys))
  · refine fun symbol s h hp => hp.trans ⟨rfl, rfl, fun key hkey => ?_⟩
    simp only [entriesOf, setState, Dict.get?_set_of_ne _ _ (hne h hkey)]
  · refine fun symbol h hp => hp.trans ⟨rfl, rfl, fun key hkey => ?_⟩
    simp only [entriesOf, closeStalePeriod, Dict.get?_pop, if_neg (hne h hkey)]
  · refine fun symbol s age h hp => hp.trans ⟨rfl, rfl, fun key hkey => ?_⟩
    simp only [entriesOf, observeBookAge, Dict.get?_set_of_ne _ _ (hne h hkey)]
  · refine fun symbol s now age clock h hp => hp.trans ?_
    simp only [recordFeedReceiveStale]
    split
    · refine ⟨rfl, rfl, fun key hkey => ?_⟩
      simp only [entriesOf, Dict.get?_set_of_ne _ _ (hne h hkey)]
    · refine ⟨rfl, rfl, fun key hkey => ?_⟩
      simp only [entriesOf, Dict.get?_set_of_ne _ _ (hne h hkey)]

/-- Noting a message touches its symbol. -/
theorem touchesOnly_recordWsMessageRecv (p : OrderbookPhase41Processor) (symbol : String)
    (ns : ℤ) : TouchesOnly [upper symbol] p (p.recordWsMessageRecv symbol ns) := by
  refine ⟨rfl, rfl, fun key hkey => ?_⟩
  have hne : upper symbol ≠ key := fun heq => hkey (heq ▸ List.mem_cons_self)
  simp only [entriesOf, recordWsMessageRecv, Dict.get?_set_of_ne _ _ hne]

/-! ### Calls -/

/-- The symbols a call names. -/
def ProcessorCall.named : ProcessorCall → List String
  | .loadSnapshot a => [upper a.symbol]
  | .processDepthUpdate event _ _ => [upper event.symbol]
  | .bridgeMissing symbol _ => [upper symbol]
  | .checkStalePeriods _ symbols _ _ _ => symbols.map upper
  | .validateReportedBest symbol _ _ _ => [upper symbol]
  | .cleanupSymbol symbol => [upper symbol]
  | .recordWsMessageRecv symbol _ => [upper symbol]
  | .markSnapshotRecoveryActive symbol _ => [upper symbol]
  | .setCaptureActive _ => []

/-- The symbols a call is about: a check that names none is about all that have a state. -/
def ProcessorCall.symbols (p : OrderbookPhase41Processor) : ProcessorCall → List String
  | .checkStalePeriods _ [] _ _ _ => p.states.keys
  | call => call.named

/-- A call that starts or ends the capture. -/
def ProcessorCall.setsCapture : ProcessorCall → Bool
  | .setCaptureActive _ => true
  | _ => false

theorem exists_of_setsCapture {call : ProcessorCall} (h : call.setsCapture = true) :
    ∃ active, call = .setCaptureActive active := by
  cases call with
  | setCaptureActive active => exact ⟨active, rfl⟩
  | _ => cases h

/-- The symbols of the states are in upper case. -/
def UpperKeys (p : OrderbookPhase41Processor) : Prop := ∀ key ∈ p.states.keys, upper key = key

theorem ProcessorCall.named_upper (call : ProcessorCall) :
    ∀ key ∈ call.named, upper key = key := by
  intro key hkey
  cases call with
  | checkStalePeriods now symbols feedActive queueSize clock =>
      obtain ⟨symbol, -, rfl⟩ := List.mem_map.mp hkey
      exact upper_upper symbol
  | setCaptureActive active => cases hkey
  | _ =>
      obtain rfl := List.mem_singleton.mp hkey
      exact upper_upper _

theorem UpperKeys.symbols {p : OrderbookPhase41Processor} (h : UpperKeys p)
    (call : ProcessorCall) : ∀ key ∈ call.symbols p, upper key = key := by
  rw [ProcessorCall.symbols.eq_def]
  split
  · exact h
  · exact call.named_upper

/-- **A call touches the symbols it is about, and no setting.** -/
theorem touchesOnly_next {p : OrderbookPhase41Processor} (hp : UpperKeys p)
    {call : ProcessorCall} (hcapture : call.setsCapture = false) :
    TouchesOnly (call.symbols p) p (phase41Machine.next p call) := by
  have hupper := hp.symbols call
  have hparts := keptByParts_touchesOnly (call.symbols p) p
  cases call with
  | loadSnapshot a => exact hparts.loadSnapshot (.refl _ p) a List.mem_cons_self
  | processDepthUpdate event lag r =>
      refine hparts.processDepthUpdate event lag r List.mem_cons_self ?_
      refine hparts.receive event r List.mem_cons_self ?_
      exact (hparts.setState event.symbol _ List.mem_cons_self (.refl _ p)).trans
        (touchesOnly_recordWsMessageRecv _ event.symbol _)
  | bridgeMissing symbol now =>
      exact (hparts.setState symbol _ List.mem_cons_self (.refl _ p)).trans
        (.of_maps rfl rfl rfl rfl rfl rfl)
  | checkStalePeriods now symbols feedActive queueSize clock =>
      have hchecked : (if symbols = [] then p.states.keys else symbols.map upper) =
          (ProcessorCall.checkStalePeriods now symbols feedActive queueSize clock).symbols p := by
        cases symbols <;> rfl
      have hcheck := hparts.checkStaleSymbols (now.getD clock)
        (feedActive.getD p.captureActive) queueSize clock _ (.refl _ p) (List.Subset.refl _) hupper
      rw [← hchecked] at hcheck ⊢
      exact hcheck
  | validateReportedBest symbol bid ask r =>
      exact hparts.validateReportedBest (.refl _ p) symbol bid ask r List.mem_cons_self
  | cleanupSymbol symbol =>
      refine ⟨rfl, rfl, fun key hkey => ?_⟩
      have hne : upper symbol ≠ key := fun heq => hkey (heq ▸ List.mem_cons_self)
      change (p.cleanupSymbol symbol).entriesOf key = _
      simp only [entriesOf, cleanupSymbol, Dict.get?_pop, if_neg hne]
  | recordWsMessageRecv symbol ns => exact touchesOnly_recordWsMessageRecv p symbol ns
  | markSnapshotRecoveryActive symbol active =>
      refine ⟨rfl, rfl, fun key hkey => ?_⟩
      have hne : upper symbol ≠ key := fun heq => hkey (heq ▸ List.mem_cons_self)
      change (p.markSnapshotRecoveryActive symbol active).entriesOf key = _
      simp only [entriesOf, markSnapshotRecoveryActive]
      split
      · rw [Dict.get?_set_of_ne _ _ hne]
      · rw [Dict.get?_pop, if_neg hne]
  | setCaptureActive active => cases hcapture

/-- No call changes a setting. -/
theorem replySettings_next {p : OrderbookPhase41Processor} (hp : UpperKeys p)
    (call : ProcessorCall) :
    (phase41Machine.next p call).replySettings = p.replySettings := by
  cases hcapture : call.setsCapture with
  | true =>
      obtain ⟨active, rfl⟩ := exists_of_setsCapture hcapture
      rfl
  | false => exact (touchesOnly_next hp hcapture).settings

/-- A step that touches symbols in upper case keeps them so. -/
theorem UpperKeys.of_touchesOnly {keys : List String} {p q : OrderbookPhase41Processor}
    (hp : UpperKeys p) (h : TouchesOnly keys p q) (hkeys : ∀ key ∈ keys, upper key = key) :
    UpperKeys q := by
  intro key hkey
  by_cases hmem : key ∈ keys
  · exact hkeys key hmem
  · -- the state of a symbol that is not touched was there before
    obtain ⟨s, hs⟩ := Dict.mem_keys_iff.mp hkey
    have hsame := congrArg SymbolEntries.state (h.entries key hmem)
    exact hp key (Dict.mem_keys_iff.mpr ⟨s, hsame.symm.trans hs⟩)

/-- **The symbols of the states stay in upper case.** -/
theorem UpperKeys.next {p : OrderbookPhase41Processor} (hp : UpperKeys p)
    (call : ProcessorCall) : UpperKeys (phase41Machine.next p call) := by
  cases hcapture : call.setsCapture with
  | true =>
      obtain ⟨active, rfl⟩ := exists_of_setsCapture hcapture
      exact hp
  | false => exact hp.of_touchesOnly (touchesOnly_next hp hcapture) (hp.symbols call)

theorem UpperKeys.init (c : Phase41Settings) : UpperKeys (OrderbookPhase41Processor.init c) := by
  intro key hkey
  obtain ⟨s, hs⟩ := Dict.mem_keys_iff.mp hkey
  obtain ⟨symbol, -, heq⟩ := List.mem_map.mp (Dict.mem_of_get?_ofList hs)
  obtain ⟨rfl, -⟩ := Prod.mk.inj heq
  exact upper_upper symbol

end SomethingTrade
