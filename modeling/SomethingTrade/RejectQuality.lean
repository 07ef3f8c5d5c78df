import SomethingTrade.TickSizeRefresh
import SomethingTrade.TradableWindow

/-!
# The Grade of a Rejected Quote

A quote that is too old, or whose ask has no size, is rejected at its detection, and the reason is
graded like a validation error: such observations get the lowest tier. But the grade sees the
reason only when the quote says no error of its own, and an error that the grade tolerates hides
the reason.

## Main results

* `tier_of_rejected`: when a grade of what cannot be filled is the lowest.
* `reject_quality_iff`: when a rejected quote gets the lowest tier.
* `stale_quote_tolerated`: a stale quote that does not.
-/

namespace SomethingTrade

/-- The validation errors that are graded lowest. -/
def lowestErrors : List String :=
  ["quote_stale", "book_stale", "missing_best_ask_size", "best_ask_size_unknown",
    "best_bid_size_unknown"]

/-- **What cannot be filled is graded lowest** for its tick size, its error, or its book. -/
theorem tier_of_rejected {q : QualityInput} (h : q.quoteWasFillable = false) :
    (dataQuality q).1 = .D ↔ q.tickSize = none ∨ (∃ error ∈ lowestErrors,
      q.validationError = some error) ∨ q.bookHasSnapshot = false ∨
        q.bookStructurallyComplete = false := by
  have herrors : (∃ error ∈ lowestErrors, q.validationError = some error) ↔
      (q.validationError = some "quote_stale" ∨ q.validationError = some "book_stale") ∨
        q.validationError = some "missing_best_ask_size" ∨
          q.validationError = some "best_ask_size_unknown" ∨
            q.validationError = some "best_bid_size_unknown" := by
    simp [lowestErrors, or_assoc]
  rw [herrors, dataQuality]
  by_cases htick : q.tickSize = none
  · rw [if_pos htick]
    exact iff_of_true rfl (.inl htick)
  by_cases hstale : q.validationError = some "quote_stale" ∨ q.validationError = some "book_stale"
  · rw [if_neg htick, if_pos hstale]
    exact iff_of_true rfl (.inr (.inl (.inl hstale)))
  by_cases hsize : q.validationError = some "missing_best_ask_size" ∨
      q.validationError = some "best_ask_size_unknown" ∨
        q.validationError = some "best_bid_size_unknown"
  · rw [if_neg htick, if_neg hstale, if_pos hsize]
    exact iff_of_true rfl (.inr (.inl (.inr hsize)))
  have hunfilled : ¬ (q.quoteWasFillable = true ∧ q.bestAskSize = none) := by simp [h]
  by_cases hsnapshot : q.bookHasSnapshot = false
  · rw [if_neg htick, if_neg hstale, if_neg hsize, if_neg hunfilled, if_pos hsnapshot]
    exact iff_of_true rfl (.inr (.inr (.inl hsnapshot)))
  by_cases hcomplete : q.bookStructurallyComplete = false
  · rw [if_neg htick, if_neg hstale, if_neg hsize, if_neg hunfilled, if_neg hsnapshot,
      if_pos hcomplete]
    exact iff_of_true rfl (.inr (.inr (.inr hcomplete)))
  rw [if_neg htick, if_neg hstale, if_neg hsize, if_neg hunfilled, if_neg hsnapshot,
    if_neg hcomplete]
  refine iff_of_false ?_ ?_
  · -- no other test grades lowest
    split_ifs <;> exact not_false
  · rintro (h | (h | h) | h | h)
    exacts [htick h, hstale h, hsize h, hsnapshot h, hcomplete h]

namespace GapDetector

/-- The reasons for which a quote is rejected as stale, or without a size. -/
def staleReasons : List String := ["quote_stale", "book_stale", "missing_best_ask_size"]

/-- A quote shows the grade why it is rejected: it says no error of its own, or one that is
graded lowest too. -/
def ShowsReason (quote : PolymarketQuote) : Prop :=
  ∀ error, quote.validationError = some error → error = "" ∨ error ∈ lowestErrors

/-- The reason is graded unless the quote says an error. -/
theorem orText_lowest_iff {quote : PolymarketQuote} {reason : String}
    (h : reason ∈ staleReasons) :
    orText quote.validationError reason ∈ lowestErrors ↔ ShowsReason quote := by
  have hreason : reason ∈ lowestErrors := by
    simp only [staleReasons, List.mem_cons, List.not_mem_nil, or_false] at h
    rcases h with rfl | rfl | rfl <;> decide
  rw [ShowsReason]
  cases quote.validationError with
  | none => exact iff_of_true hreason (by simp)
  | some error =>
      by_cases hempty : error = ""
      · subst hempty
        exact iff_of_true hreason (by simp)
      · simp [orText, hempty]

/-- The grade of a rejected quote is the lowest: its market has no tick size, it shows the reason,
or its book lacks a snapshot or is not complete. -/
def GradedLowest (d : GapDetector) (market : PolymarketMarketMetadata)
    (quote : PolymarketQuote) : Prop :=
  d.tickSizeForMarket market = none ∨ ShowsReason quote ∨ quote.bookHasSnapshot = false ∨
    quote.bookStructurallyComplete = false

theorem tier_preEntryObservation (d : GapDetector) (m : BinanceMove)
    (market : PolymarketMarketMetadata) (tokenId : String) (quote : PolymarketQuote)
    {reason : String} (gate : BookReadinessGate) (h : reason ∈ staleReasons) :
    (d.preEntryObservation m market tokenId (some quote) reason gate).dataQualityTier = .D ↔
      d.GradedLowest market quote := by
  rw [GradedLowest, ← orText_lowest_iff h]
  refine (tier_of_rejected rfl).trans ?_
  simp

/-- A rejection of a stale quote is graded by the quote. -/
theorem RejectedAt.tier {d : GapDetector} {state : MarketState} {now : Moment}
    {o : TradableGapObservation} (h : RejectedAt d state now o)
    (hreason : ∃ reason ∈ staleReasons, o.rejectReason = some reason) :
    ∃ market ∈ (d.marketsBySymbol.get? o.symbol).getD [], market.marketId = o.marketId ∧
      ∃ quote, state.polymarketQuotes.get? o.tokenId = some quote ∧
        (o.dataQualityTier = .D ↔ d.GradedLowest market quote) := by
  obtain ⟨same, rfl, rfl, follows, rejects⟩ := h
  rename_i d' m market tokenId quote reason
  obtain ⟨reason', hstale, hreason⟩ := hreason
  obtain rfl := Option.some.inj hreason
  have hgrade (quote : PolymarketQuote) :
      (d'.preEntryObservation m market tokenId (some quote) reason
        (d'.bookReadinessGate market m.state m.now.nowTs)).dataQualityTier = .D ↔
          d.GradedLowest market quote := by
    rw [tier_preEntryObservation d' m market tokenId quote _ hstale, GradedLowest, GradedLowest,
      tickSizeForMarket_congr same]
  cases rejects with
  | unread unread =>
      have hdisjoint : ∀ reason ∈ unreadReasons, reason ∉ staleReasons := by decide
      exact absurd hstale (hdisjoint _ unread)
  | stale token read stale => exact ⟨market, follows, rfl, _, read, hgrade _⟩
  | unfillable token read why => exact ⟨market, follows, rfl, _, read, hgrade _⟩

/-- **When a rejected quote gets the lowest tier**: its own validation error, if it says one, is
graded lowest too, or the tick size or the book are. -/
theorem reject_quality_iff (c : GapDetectorSettings) (markets : List PolymarketMarketMetadata)
    (startedNs : ℤ) (calls : List GapCall) (call : GapCall) (o : TradableGapObservation)
    (ho : o ∈ (gapMachine.exec (.init c markets startedNs) calls).writtenBy call)
    (hstage : o.rejectStage = .preEntry)
    (hreason : ∃ reason ∈ staleReasons, o.rejectReason = some reason) :
    ∃ market ∈ ((gapMachine.exec (.init c markets startedNs) calls).marketsBySymbol.get?
        o.symbol).getD [], market.marketId = o.marketId ∧
      ∃ state quote, stateOf call = some state ∧
        state.polymarketQuotes.get? o.tokenId = some quote ∧
        (o.dataQualityTier = .D ↔
          (gapMachine.exec (.init c markets startedNs) calls).GradedLowest market quote) := by
  obtain ⟨-, hkeyed⟩ := keyed_exec c markets startedNs calls
  cases recorded_of_mem hkeyed ho with
  | rejected noQuote rejected =>
      obtain ⟨market, hfollows, hid, quote, hread, htier⟩ := rejected.tier hreason
      exact ⟨market, hfollows, hid, _, quote, rfl, hread, htier⟩
  | closed closes => exact absurd hstage closes.stage_ne

/-! ### A stale quote -/

/-- The quote of the up token, one tick beside the reported prices. -/
def toleratedQuote : PolymarketQuote :=
  { upQuote (1 / 2) 1000000000 with validationError := some "reported_best_bid_mismatch" }

/-- A state in which the symbol just moved, and the quote of its market is older. -/
def agedState : MarketState :=
  { movedState with polymarketQuotes := .ofList [("up", toleratedQuote)] }

/-- The trade on which the move is detected, two seconds after the quote. -/
def agedTrade : GapCall :=
  .onMarketEvent (.marketTick
    { tsNs := 1000000000000, exchangeEventTs := none, localReceivedTs := some 1000000000000
      parseDoneTs := none, stateUpdatedTs := none, recvMonotonicNs := some 3000000000
      parseDoneMonotonicNs := none, stateUpdatedMonotonicNs := none, latencyMs := none
      sequence := none, source := .binance, symbol := "BTCUSDT", price := 100 })
    agedState (some 1000000000000) 1000000000000

theorem agedTrade_writes :
    (GapDetector.init fiveSeconds [openMarket] 1).writtenBy agedTrade ≠ [] := by decide +kernel

/-- The rejection of the stale quote. -/
def agedObservation : TradableGapObservation :=
  ((GapDetector.init fiveSeconds [openMarket] 1).writtenBy agedTrade).head agedTrade_writes

theorem agedObservation_rejected : agedObservation.rejectStage = .preEntry ∧
    agedObservation.rejectReason = some "quote_stale" ∧
      agedObservation.dataQualityTier = .B := by decide +kernel

/-- The theorem applied to the stale quote. -/
theorem reject_quality_aged :
    ∃ market ∈ ((gapMachine.exec (.init fiveSeconds [openMarket] 1) []).marketsBySymbol.get?
        agedObservation.symbol).getD [], market.marketId = agedObservation.marketId ∧
      ∃ state quote, stateOf agedTrade = some state ∧
        state.polymarketQuotes.get? agedObservation.tokenId = some quote ∧
        (agedObservation.dataQualityTier = .D ↔
          (gapMachine.exec (.init fiveSeconds [openMarket] 1) []).GradedLowest market quote) :=
  reject_quality_iff fiveSeconds [openMarket] 1 [] agedTrade agedObservation
    (List.head_mem agedTrade_writes) agedObservation_rejected.1
    ⟨_, List.mem_cons_self, agedObservation_rejected.2.1⟩

/-- A stale quote one tick beside the reported prices is rejected, and graded like a tolerated
mismatch. -/
theorem stale_quote_tolerated :
    ¬ ∀ (c : GapDetectorSettings) (markets : List PolymarketMarketMetadata) (startedNs : ℤ)
      (calls : List GapCall) (call : GapCall),
      ∀ o ∈ (gapMachine.exec (.init c markets startedNs) calls).writtenBy call,
        o.rejectStage = .preEntry → (∃ reason ∈ staleReasons, o.rejectReason = some reason) →
          o.dataQualityTier = .D := by
  intro h
  have hlowest := h fiveSeconds [openMarket] 1 [] agedTrade agedObservation
    (List.head_mem agedTrade_writes) agedObservation_rejected.1
    ⟨_, List.mem_cons_self, agedObservation_rejected.2.1⟩
  rw [agedObservation_rejected.2.2] at hlowest
  cases hlowest

end GapDetector

end SomethingTrade
