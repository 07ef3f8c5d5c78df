import SomethingTrade.GapEndings

/-!
# Why a Gap Timed Out

A gap that ends by the time limit says whether its middle price had followed the move. The
detector notes the middle price of a quote before it holds the quote against the time limit,
so a quote that comes too late counts as well (`timeout_explained_iff`).

## Main results

* `midNoted_exec`: in every run, a pending gap has noted a middle price exactly when a quote
  reached the threshold in time.
* `timeout_explained_iff`: when an observation explains its timeout.
* `late_quote_unexplained`: a late quote that hides that no price followed in time.
-/

namespace SomethingTrade

namespace GapDetector

/-! ### Quotes that follow the move -/

/-- A call brings a quote that follows the move of the gap under a key. -/
def RepricesNow (d : GapDetector) (key : GapKey) (call : GapCall) : Prop :=
  ∃ p mono, d.pending.get? key = some p ∧ RepricesAt d p call mono

/-- The same, and the quote was received within the time limit. -/
def RepricesInTime (d : GapDetector) (key : GapKey) (call : GapCall) : Prop :=
  ∃ p mono, d.pending.get? key = some p ∧ RepricesAt d p call mono ∧
    age p mono ≤ d.settings.maxPendingGapMs

/-- In a run, a quote of the token of a gap, received within the time limit while the gap was
pending, followed the move; the gap was pending from then on, up to the last call. -/
def RepricedInTime (start : GapDetector) (calls : List GapCall) (key : GapKey) : Prop :=
  ∃ pre call rest, calls = pre ++ call :: rest ∧
    gapMachine.StepsMeet (fun d _ => (d.pending.get? key).isSome) (gapMachine.exec start pre)
      (call :: rest) ∧
    RepricesInTime (gapMachine.exec start pre) key call

/-- One call more: the gap was pending before it, and a quote followed the move in time
before, or does so now. -/
theorem repricedInTime_concat {start : GapDetector} {calls : List GapCall} {call : GapCall}
    {key : GapKey} :
    RepricedInTime start (calls ++ [call]) key ↔
      ((gapMachine.exec start calls).pending.get? key).isSome ∧
        (RepricedInTime start calls key ∨
          RepricesInTime (gapMachine.exec start calls) key call) := by
  constructor
  · rintro ⟨pre, call', rest, hcalls, hpending, hreprices⟩
    rcases List.eq_nil_or_concat rest with rfl | ⟨rest', last, rfl⟩
    · obtain ⟨rfl, hlast⟩ := List.append_inj' hcalls rfl
      obtain rfl := (List.cons.inj hlast).1
      exact ⟨hpending.1, .inr hreprices⟩
    · have hsplit : calls ++ [call] = (pre ++ call' :: rest') ++ [last] := by
        rw [hcalls]
        simp
      obtain ⟨rfl, hlast⟩ := List.append_inj' hsplit rfl
      obtain rfl := (List.cons.inj hlast).1
      have hsteps : gapMachine.StepsMeet (fun d _ => (d.pending.get? key).isSome)
          (gapMachine.exec start pre) ((call' :: rest') ++ [call]) := by
        simpa using hpending
      rw [Machine.stepsMeet_append, ← Machine.exec_append] at hsteps
      exact ⟨hsteps.2.1, .inl ⟨pre, call', rest', rfl, hsteps.1, hreprices⟩⟩
  · rintro ⟨hpending, ⟨pre, call', rest, rfl, hsteps, hreprices⟩ | hreprices⟩
    · refine ⟨pre, call', rest ++ [call], by simp, ?_, hreprices⟩
      have happend := (gapMachine.stepsMeet_append
        (C := fun d _ => ((GapDetector.pending d).get? key).isSome = true)
        (gapMachine.exec start pre) (call' :: rest) [call]).mpr
      rw [← Machine.exec_append] at happend
      simpa using happend ⟨hsteps, hpending, trivial⟩
    · exact ⟨calls, call, [], rfl, ⟨hpending, trivial⟩, hreprices⟩

/-! ### What a pending gap has noted -/

/-- The pending gaps have noted a middle price exactly when a quote followed the move in
time, and the time they noted is in time. -/
structure MidNoted (start : GapDetector) (calls : List GapCall) (d : GapDetector) : Prop where
  noted : ∀ key p, d.pending.get? key = some p →
    (p.firstMidRepricedTsNs.isSome ↔ RepricedInTime start calls key)
  inTime : ∀ key p, d.pending.get? key = some p → ∀ mono,
    p.firstMidRepricedMonotonicNs = some mono → age p mono ≤ d.settings.maxPendingGapMs

theorem isLifecycle_of_quoteOf {event : MarketEvent} {state : MarketState} {nowTs : Option ℤ}
    {clock : ℤ} {q : PolymarketQuote × ℤ}
    (h : quoteOf (.onMarketEvent event state nowTs clock) = some q) :
    isLifecycle event = false ∧ q.2 = (momentOf event nowTs clock).nowMonotonicNs := by
  cases event with
  | polymarketQuote quote =>
      obtain rfl := Option.some.inj h
      exact ⟨rfl, rfl⟩
  | _ => cases h

/-- A gap that is pending after a call that brings a quote is in time. -/
theorem inTime_of_pending {d : GapDetector} (hkeyed : d.ledger.Keyed) {call : GapCall}
    {quote : PolymarketQuote} {mono : ℤ} (hquote : quoteOf call = some (quote, mono))
    {key : GapKey} {p : PendingTradableGap}
    (hget : (gapMachine.next d call).pending.get? key = some p) :
    age p mono ≤ d.settings.maxPendingGapMs := by
  cases call with
  | onMarketEvent event state nowTs clock =>
      obtain ⟨hevent, hmono⟩ := isLifecycle_of_quoteOf hquote
      dsimp only at hmono
      rw [hmono]
      exact onMarketEvent_inTime hkeyed hevent state nowTs clock hget
  | updateMarkets markets now => cases hquote
  | drainMarketUpdateObservations => cases hquote

theorem repricesNow_iff {d : GapDetector} {key : GapKey} {p : PendingTradableGap}
    (hget : d.pending.get? key = some p) (call : GapCall) :
    RepricesNow d key call ↔ ∃ mono, RepricesAt d p call mono := by
  constructor
  · rintro ⟨p', mono, hget', hreprices⟩
    obtain rfl := Option.some.inj (hget.symm.trans hget')
    exact ⟨mono, hreprices⟩
  · rintro ⟨mono, hreprices⟩
    exact ⟨p, mono, hget, hreprices⟩

/-- **One call** keeps what the pending gaps have noted. -/
theorem MidNoted.next {start : GapDetector} {calls : List GapCall}
    (hkeyed : (gapMachine.exec start calls).ledger.Keyed)
    (h : MidNoted start calls (gapMachine.exec start calls)) (call : GapCall) :
    MidNoted start (calls ++ [call]) (gapMachine.next (gapMachine.exec start calls) call) := by
  generalize hd : gapMachine.exec start calls = d at h hkeyed
  obtain ⟨written, haccount⟩ := gapMachine_account hkeyed call
  refine ⟨fun key p' hget' => ?_, fun key p' hget' mono hmono => ?_⟩
  · obtain ⟨rfl, hheld⟩ := haccount.held key p' hget'
    rw [repricedInTime_concat, hd]
    cases hheld.held with
    | opened event state nowTs clock byEvent noQuote was detected midTs =>
        simp [was, midTs]
    | pending p was carried =>
        have hgot : d.pending.get? p'.key = some p := by rw [carried.same.key, was]
        have hnow : (∃ mono, RepricesAt d p call mono) ↔ RepricesInTime d p'.key call := by
          constructor
          · rintro ⟨mono, hreprices⟩
            obtain ⟨quote, hquote, htoken, hthreshold⟩ := hreprices
            refine ⟨p, mono, hgot, ⟨quote, hquote, htoken, hthreshold⟩, ?_⟩
            rw [← carried.same.age]
            exact inTime_of_pending hkeyed hquote hget'
          · rintro ⟨p₀, mono, hget₀, hreprices, -⟩
            obtain rfl := Option.some.inj (hgot.symm.trans hget₀)
            exact ⟨mono, hreprices⟩
        rw [carried.midTs, h.noted _ p hgot, hnow, hgot]
        simp
  · obtain ⟨rfl, hheld⟩ := haccount.held key p' hget'
    rw [haccount.settings]
    cases hheld.held with
    | opened event state nowTs clock byEvent noQuote was detected midTs midMonotonic =>
        rw [midMonotonic] at hmono
        cases hmono
    | pending p was carried =>
        rcases carried.midMonotonic with heq | ⟨mono', -, ⟨quote, hquote, -⟩, heq⟩
        · rw [carried.same.age]
          exact h.inTime p.key p was mono (heq.symm.trans hmono)
        · obtain rfl := Option.some.inj (heq.symm.trans hmono)
          exact inTime_of_pending hkeyed hquote hget'

/-- **In every run**, a pending gap has noted a middle price exactly when a quote followed the
move in time. -/
theorem midNoted_exec (c : GapDetectorSettings) (markets : List PolymarketMarketMetadata)
    (startedNs : ℤ) (calls : List GapCall) :
    MidNoted (.init c markets startedNs) calls
      (gapMachine.exec (.init c markets startedNs) calls) := by
  induction calls using List.reverseRecOn with
  | nil =>
      refine ⟨fun key p hget => ?_, fun key p hget => ?_⟩ <;> cases hget
  | append_singleton calls call ih =>
      rw [Machine.exec_append]
      exact ih.next (keyed_exec c markets startedNs calls).2 call

/-! ### Observations of timeouts -/

/-- An observation of a timeout says that no middle price followed the move exactly when no
quote did within the time limit, and a delay it gives is within the limit. -/
structure TimeoutExplained (c : GapDetectorSettings) (start : GapDetector)
    (calls : List GapCall) (o : TradableGapObservation) : Prop where
  reason : o.exitRejectReason = some "no_mid_repricing_before_timeout" ↔
    ¬ RepricedInTime start calls o.identity.key
  delay : ∀ delay, o.midRepricingDelayMs = some delay → delay ≤ c.maxPendingGapMs

/-- A gap that times out on a call is older than the limit then, in particular at the time
of a quote the call brings. -/
theorem Written.timedOut {d : GapDetector} {call : GapCall} {o : TradableGapObservation}
    (h : Written d call o) (hstage : o.rejectStage = .timeout) :
    ∃ (d' : GapDetector) (ended : PendingTradableGap), o = d'.observationFromPending ended ∧
      Held d call ended ∧
      ∀ quote mono, quoteOf call = some (quote, mono) →
        d.settings.maxPendingGapMs < age ended mono := by
  cases h with
  | rejected noQuote stage reason =>
      rw [stage] at hstage
      cases hstage
  | ended ends =>
      rename_i d' ended
      have htimeout : ended.rejectStage = .timeout := hstage
      refine ⟨d', ended, rfl, ?_⟩
      cases ends with
      | quote was token ends =>
          rename_i quote state nowTs clock p
          have hnoted := noteQuote_noted d quote state
            (momentOf (.polymarketQuote quote) nowTs clock) p
          generalize d.noteQuote quote state (momentOf (.polymarketQuote quote) nowTs clock) p =
            noted at ends hnoted
          cases ends with
          | timedOut reason late =>
              have hsame : Unmarked noted (noted.endTimeout reason) :=
                ⟨⟨rfl, rfl, rfl, rfl, rfl⟩, rfl, rfl⟩
              refine ⟨.pending p was ((hnoted.carried token).unmarked hsame), ?_⟩
              rintro quote' mono hquote
              obtain ⟨rfl, rfl⟩ := Prod.mk.inj (Option.some.inj hquote)
              rw [quoteMonotonic_momentOf] at late
              rw [hsame.same.age]
              exact (timeoutReason_eq_some_iff.mp late).1
          | distrusted reason inTime structural => cases htimeout
          | repriced inTime trusted profit => cases htimeout
          | entryGone reason inTime entry => cases htimeout
      | expired held late stage reason =>
          refine ⟨held, fun quote mono hquote => ?_⟩
          have hmono := (isLifecycle_of_quoteOf hquote).2
          dsimp only at hmono
          rw [hmono]
          exact late
      | lifecycle was market ends same stage reason =>
          rw [stage] at htimeout
          cases htimeout
      | refreshed was same stage reason =>
          rw [stage] at htimeout
          cases htimeout

theorem exitRejectReason_of_timeout {d : GapDetector} {p : PendingTradableGap}
    (hstage : p.rejectStage = .timeout) :
    (d.observationFromPending p).exitRejectReason = some "no_mid_repricing_before_timeout" ↔
      p.firstMidRepricedTsNs = none := by
  have hreason : (d.observationFromPending p).exitRejectReason = p.exitReason := rfl
  rw [hreason, PendingTradableGap.exitReason, hstage]
  dsimp only
  split
  · rename_i hnone
    simp [hnone]
  · rename_i hsome
    split <;> simp [hsome]

/-- **When a timeout is explained**: unless it is the call on which the gap timed out that
brings the first quote that follows the move. -/
theorem timeout_explained_iff (c : GapDetectorSettings)
    (markets : List PolymarketMarketMetadata) (startedNs : ℤ) (calls : List GapCall)
    (call : GapCall) (o : TradableGapObservation)
    (ho : o ∈ (gapMachine.exec (.init c markets startedNs) calls).writtenBy call)
    (hstage : o.rejectStage = .timeout) :
    TimeoutExplained c (.init c markets startedNs) (calls ++ [call]) o ↔
      (RepricesNow (gapMachine.exec (.init c markets startedNs) calls) o.identity.key call →
        RepricedInTime (.init c markets startedNs) calls o.identity.key) := by
  obtain ⟨hsettings, hkeyed⟩ := keyed_exec c markets startedNs calls
  have hmid := midNoted_exec c markets startedNs calls
  obtain ⟨d', ended, rfl, hheld, hlate⟩ := (written_of_mem hkeyed ho).timedOut hstage
  have hdelay : ∀ delay, (d'.observationFromPending ended).midRepricingDelayMs = some delay ↔
      ∃ mono, ended.firstMidRepricedMonotonicNs = some mono ∧ age ended mono = delay := by
    intro delay
    have hobserved : (d'.observationFromPending ended).midRepricingDelayMs =
      durationMs (some ended.firstDetectedMonotonicNs) ended.firstMidRepricedMonotonicNs := rfl
    rw [hobserved]
    cases ended.firstMidRepricedMonotonicNs with
    | none => simp [durationMs]
    | some mono => simp [durationMs, age]
  have hkey : (d'.observationFromPending ended).identity.key = ended.key := rfl
  rw [hkey]
  generalize hd : gapMachine.exec (.init c markets startedNs) calls = d at *
  cases hheld with
  | opened event state nowTs clock byEvent noQuote was detected midTs midMonotonic =>
      constructor
      · rintro - ⟨p, mono, hget, -⟩
        rw [was] at hget
        cases hget
      · intro _
        refine ⟨?_, fun delay hsome => ?_⟩
        · rw [exitRejectReason_of_timeout hstage, hkey, repricedInTime_concat, hd]
          simp [was, midTs]
        · obtain ⟨mono, hmono, -⟩ := (hdelay delay).mp hsome
          rw [midMonotonic] at hmono
          cases hmono
  | pending p was carried =>
      have hgot : d.pending.get? ended.key = some p := by rw [carried.same.key, was]
      -- what the call brings comes too late
      have hno : ¬ RepricesInTime d ended.key call := by
        rintro ⟨p₀, mono, hget₀, ⟨quote, hquote, -⟩, hage⟩
        obtain rfl := Option.some.inj (hgot.symm.trans hget₀)
        have hbeyond := hlate quote mono hquote
        rw [carried.same.age] at hbeyond
        exact absurd hage (not_le.mpr hbeyond)
      have hbefore : p.firstMidRepricedTsNs.isSome ↔
          RepricedInTime (.init c markets startedNs) calls ended.key := by
        rw [carried.same.key]
        exact hmid.noted p.key p was
      have hrepriced : RepricedInTime (.init c markets startedNs) (calls ++ [call]) ended.key ↔
          RepricedInTime (.init c markets startedNs) calls ended.key := by
        rw [repricedInTime_concat, hd, hgot]
        simp [hno]
      have hreason : (d'.observationFromPending ended).exitRejectReason =
          some "no_mid_repricing_before_timeout" ↔
          ¬ (RepricedInTime (.init c markets startedNs) calls ended.key ∨
            RepricesNow d ended.key call) := by
        rw [exitRejectReason_of_timeout hstage, repricesNow_iff hgot, ← hbefore,
          ← carried.midTs, Option.not_isSome_iff_eq_none]
      constructor
      · rintro ⟨hexplained, -⟩ hnow
        rw [hreason, hkey, hrepriced] at hexplained
        by_contra hnot
        exact hexplained.mpr hnot (.inr hnow)
      · intro hcondition
        refine ⟨?_, fun delay hsome => ?_⟩
        · rw [hreason, hkey, hrepriced, or_iff_left_of_imp hcondition]
        · obtain ⟨mono, hmono, rfl⟩ := (hdelay delay).mp hsome
          rcases carried.midMonotonic with heq | ⟨mono', hnone, hreprices, -⟩
          · rw [carried.same.age, ← hsettings]
            exact hmid.inTime p.key p was mono (heq.symm.trans hmono)
          · have hsomeBefore := hbefore.mpr
              (hcondition ((repricesNow_iff hgot call).mpr ⟨mono', hreprices⟩))
            rw [hnone] at hsomeBefore
            cases hsomeBefore

/-! ### A late quote -/

/-- A market of which the window is open at second 1000. -/
def openMarket : PolymarketMarketMetadata :=
  { namedMarket "m" with
    startTime := some ⟨"", some 900⟩
    endTime := ⟨"", some 1200⟩
    active := some true
    closed := some false
    acceptingOrders := some true
    enableOrderBook := some true
    upTokenId := some "up"
    downTokenId := some "down"
    baseAsset := some "BTC" }

/-- A quote of the market, one cent wide and received at a time of the monotonic clock. -/
def upQuote (bid : ℚ) (mono : ℤ) : PolymarketQuote where
  tsNs := 1000000000000
  exchangeEventTs := none
  localReceivedTs := some 1000000000000
  parseDoneTs := none
  stateUpdatedTs := none
  recvMonotonicNs := some mono
  parseDoneMonotonicNs := none
  stateUpdatedMonotonicNs := none
  latencyMs := none
  sequence := none
  marketId := "m"
  conditionId := none
  tokenId := "up"
  sideLabel := .up
  bestBid := some bid
  bestBidSize := some 10
  bestAsk := some (bid + 1 / 100)
  bestAskSize := some 10
  midPrice := some (bid + 1 / 200)
  spread := some (1 / 100)
  eventTs := none
  receivedTs := some 1000000000000
  bookComplete := true
  bookStale := false
  bookHash := none
  validationError := none
  bookUpdateType := some .book
  bookHasSnapshot := true
  bookStructurallyComplete := true
  reportedBestValidationOk := true
  validationMode := some .tolerant
  validationToleranceTicks := some 1
  marketMismatchRate := none
  tokenMismatchRate := none
  marketQuoteCompleteRate := none
  tokenQuoteCompleteRate := none

/-- A state in which the symbol just moved and its market has a quote. -/
def movedState : MarketState :=
  { MarketState.init 5000 with
    symbols := .ofList [("BTCUSDT", { SymbolState.init "BTCUSDT" with
      rollingReturns := .ofList [("1s", some (1 / 100))]
      localReceiveTimestamp := some 1000000000000
      recvMonotonicNs := some 1000000000 })]
    polymarketQuotes := .ofList [("up", upQuote (1 / 2) 1000000000)] }

/-- Settings with which a gap is pending for five seconds at most. -/
def fiveSeconds : GapDetectorSettings where
  minMovePct := 1 / 10
  repriceThreshold := 1 / 200
  minExitEdge := 0
  maxEntrySpread := 1 / 20
  maxEntryPriceMove := 1 / 50
  maxPendingGapMs := 5000
  binanceStaleMs := 500
  polymarketStaleMs := 1000
  preEntryLogCooldownMs := 500
  requireBookReady := false
  bookWarmupMaxMs := 3000
  validationMode := .tolerant
  validationToleranceTicks := 1
  closePendingOnTickSizeChange := false

/-- The trade on which the move is detected. -/
def openingTrade : GapCall :=
  .onMarketEvent (.marketTick
    { tsNs := 1000000000000, exchangeEventTs := none, localReceivedTs := some 1000000000000
      parseDoneTs := none, stateUpdatedTs := none, recvMonotonicNs := some 1000000000
      parseDoneMonotonicNs := none, stateUpdatedMonotonicNs := none, latencyMs := none
      sequence := none, source := .binance, symbol := "BTCUSDT", price := 100 })
    movedState (some 1000000000000) 1000000000000

/-- A quote that follows the move six seconds after it was detected. -/
def lateQuote : GapCall :=
  .onMarketEvent (.polymarketQuote (upQuote (3 / 5) 7000000000)) movedState
    (some 1006000000000) 1006000000000

/-- The detector once the move is detected. -/
def movedDetector : GapDetector :=
  gapMachine.exec (.init fiveSeconds [openMarket] 1) [openingTrade]

theorem lateQuote_writes : movedDetector.writtenBy lateQuote ≠ [] := by decide +kernel

/-- The observation of the gap on which the late quote comes in. -/
def lateObservation : TradableGapObservation :=
  (movedDetector.writtenBy lateQuote).head lateQuote_writes

/-- The theorem applied to the late quote. -/
theorem timeout_explained_late_quote :
    TimeoutExplained fiveSeconds (.init fiveSeconds [openMarket] 1) ([openingTrade] ++ [lateQuote])
      lateObservation ↔
    (RepricesNow movedDetector lateObservation.identity.key lateQuote →
      RepricedInTime (.init fiveSeconds [openMarket] 1) [openingTrade]
        lateObservation.identity.key) :=
  timeout_explained_iff fiveSeconds [openMarket] 1 [openingTrade] lateQuote lateObservation
    (List.head_mem lateQuote_writes) (by decide +kernel)

/-- No quote followed the move in time, and the observation says that one did. -/
theorem late_quote_unexplained :
    ¬ ∀ (c : GapDetectorSettings) (markets : List PolymarketMarketMetadata) (startedNs : ℤ)
      (calls : List GapCall) (call : GapCall),
      ∀ o ∈ (gapMachine.exec (.init c markets startedNs) calls).writtenBy call,
        o.rejectStage = .timeout →
        TimeoutExplained c (.init c markets startedNs) (calls ++ [call]) o := by
  intro h
  obtain ⟨hreason, -⟩ := h fiveSeconds [openMarket] 1 [openingTrade] lateQuote lateObservation
    (List.head_mem lateQuote_writes) (by decide +kernel)
  have hsays : lateObservation.exitRejectReason ≠ some "no_mid_repricing_before_timeout" := by
    decide +kernel
  refine hsays (hreason.mpr ?_)
  rw [repricedInTime_concat]
  rintro ⟨-, hbefore | ⟨p, mono, hget, ⟨quote, hquote, -⟩, hage⟩⟩
  · have hempty : RepricedInTime (.init fiveSeconds [openMarket] 1) ([] ++ [openingTrade])
      lateObservation.identity.key := hbefore
    cases (repricedInTime_concat.mp hempty).1
  · obtain ⟨-, rfl⟩ := Prod.mk.inj (Option.some.inj hquote)
    have hlate : ((movedDetector.pending.get? lateObservation.identity.key).all fun p =>
      decide (5000 < age p 7000000000)) = true := by decide +kernel
    have hpending : movedDetector.pending.get? lateObservation.identity.key = some p := hget
    rw [hpending, Option.all_some, decide_eq_true_iff] at hlate
    have hlimit : (gapMachine.exec (.init fiveSeconds [openMarket] 1)
      [openingTrade]).settings.maxPendingGapMs = 5000 := by decide +kernel
    have hmono : (momentOf (.polymarketQuote (upQuote (3 / 5) 7000000000))
      (some 1006000000000) 1006000000000).nowMonotonicNs = 7000000000 := by decide +kernel
    rw [hlimit, hmono] at hage
    exact absurd hage (not_le.mpr hlate)

end GapDetector

end SomethingTrade
