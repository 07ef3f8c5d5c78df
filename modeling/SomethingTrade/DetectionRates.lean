import SomethingTrade.TradableWindow

/-!
# The Quality Rates of a Detection

A quote says how often the quotes of its market and of its token mismatched, and how often they
were complete. A detection writes these four rates down, and what its quote does not say it takes
from the readiness gate: the first rate that is known of the two books of the market, the one of
the up token first. A rejection asks whether the quote says a rate; a gap takes the gate's rate
for a rate of zero too.

## Main results

* `rates_exec`: the rates of a pending gap, and the detection they come from.
* `detection_rates_iff`: when an observation has the rates of its own quote.
* `zero_rate_replaced`: a rate of zero that is replaced by the one of the other token.
-/

namespace SomethingTrade

/-- The rates by which the books of a market are judged. -/
inductive Rate
  | marketMismatch
  | tokenMismatch
  | marketQuoteComplete
  | tokenQuoteComplete
  deriving DecidableEq

namespace Rate

/-- The rate that a quote says. -/
def ofQuote : Rate → PolymarketQuote → Option ℚ
  | marketMismatch, quote => quote.marketMismatchRate
  | tokenMismatch, quote => quote.tokenMismatchRate
  | marketQuoteComplete, quote => quote.marketQuoteCompleteRate
  | tokenQuoteComplete, quote => quote.tokenQuoteCompleteRate

/-- The rate that a readiness gate says. -/
def ofGate : Rate → BookReadinessGate → Option ℚ
  | marketMismatch, gate => gate.marketMismatchRate
  | tokenMismatch, gate => gate.tokenMismatchRate
  | marketQuoteComplete, gate => gate.marketQuoteCompleteRate
  | tokenQuoteComplete, gate => gate.tokenQuoteCompleteRate

/-- The rate that a gap was detected with. -/
def ofPending : Rate → PendingTradableGap → Option ℚ
  | marketMismatch, p => p.marketMismatchRateAtDetection
  | tokenMismatch, p => p.tokenMismatchRateAtDetection
  | marketQuoteComplete, p => p.marketQuoteCompleteRateAtDetection
  | tokenQuoteComplete, p => p.tokenQuoteCompleteRateAtDetection

/-- The rate that an observation says its gap was detected with. -/
def ofObservation : Rate → TradableGapObservation → Option ℚ
  | marketMismatch, o => o.marketMismatchRateAtDetection
  | tokenMismatch, o => o.tokenMismatchRateAtDetection
  | marketQuoteComplete, o => o.marketQuoteCompleteRateAtDetection
  | tokenQuoteComplete, o => o.tokenQuoteCompleteRateAtDetection

/-- The first rate that is known of the books of a market, the one of its up token first. -/
def firstKnown (rate : Rate) (market : PolymarketMarketMetadata) (state : MarketState) :
    Option ℚ :=
  (([market.upTokenId, market.downTokenId].filterMap id).filterMap
    state.polymarketQuotes.get?).findSome? rate.ofQuote

end Rate

namespace GapDetector

/-! ### The two builders -/

theorem ofGate_bookReadinessGate (rate : Rate) (d : GapDetector)
    (market : PolymarketMarketMetadata) (state : MarketState) (nowTs : ℤ) :
    rate.ofGate (d.bookReadinessGate market state nowTs) = rate.firstKnown market state := by
  have hbooks : ((([market.upTokenId, market.downTokenId].filterMap id).map
      state.polymarketQuotes.get?).filterMap id) =
      ([market.upTokenId, market.downTokenId].filterMap id).filterMap
        state.polymarketQuotes.get? := by
    rw [List.filterMap_map]
    rfl
  rw [Rate.firstKnown, ← hbooks]
  cases rate <;> rfl

/-- A rejection takes the rate of the gate when the quote says none. -/
theorem ofObservation_preEntryObservation (rate : Rate) (d : GapDetector) (m : BinanceMove)
    (market : PolymarketMarketMetadata) (tokenId : String) (quote : PolymarketQuote)
    (reason : String) (gate : BookReadinessGate) :
    rate.ofObservation (d.preEntryObservation m market tokenId (some quote) reason gate) =
      (rate.ofQuote quote).orElse fun _ => rate.ofGate gate := by
  cases rate <;> rfl

/-- A gap takes the rate of the gate when the quote says none, or zero. -/
theorem ofPending_pendingGap (rate : Rate) (d : GapDetector) (m : BinanceMove)
    (market : PolymarketMarketMetadata) (tokenId : String) (quote : PolymarketQuote)
    (ask askSize : ℚ) (gate : BookReadinessGate) :
    rate.ofPending (d.pendingGap m market tokenId quote ask askSize gate) =
      orValue (rate.ofQuote quote) (rate.ofGate gate) := by
  cases rate <;> rfl

theorem ofObservation_observationFromPending (rate : Rate) (d : GapDetector)
    (p : PendingTradableGap) :
    rate.ofObservation (d.observationFromPending p) = rate.ofPending p := by
  cases rate <;> rfl

/-- Whether a quote can be filled depends on the settings only. -/
theorem canFill_congr {d d' : GapDetector} (h : d'.settings = d.settings)
    {market : PolymarketMarketMetadata} {quote : PolymarketQuote} {now : Moment} :
    d'.CanFill market quote now ↔ d.CanFill market quote now := by
  have hfillable : d'.fillableBeforeRepricing market quote =
      d.fillableBeforeRepricing market quote := by
    simp only [fillableBeforeRepricing, h]
  constructor
  · rintro ⟨hfresh, hnone⟩
    exact ⟨h ▸ hfresh, hfillable ▸ hnone⟩
  · rintro ⟨hfresh, hnone⟩
    exact ⟨h ▸ hfresh, hfillable ▸ hnone⟩

/-! ### What gaps keep of their detection -/

/-- The same gap at two moments, with what its detection wrote down. -/
structure SameDetection (p p' : PendingTradableGap) : Prop where
  key : p'.key = p.key
  tokenId : p'.tokenId = p.tokenId
  rates : ∀ rate : Rate, rate.ofPending p' = rate.ofPending p

theorem SameDetection.trans {p p' p'' : PendingTradableGap} (h : SameDetection p p')
    (h' : SameDetection p' p'') : SameDetection p p'' :=
  ⟨h'.key.trans h.key, h'.tokenId.trans h.tokenId,
    fun rate => (h'.rates rate).trans (h.rates rate)⟩

/-- The gap that a fate is about. -/
def GapFate.gap : GapFate → PendingTradableGap
  | .keep p => p
  | .close p => p

section

variable (d : GapDetector) (state : MarketState) (now : Moment) (p : PendingTradableGap)

theorem noteQuote_sameDetection (quote : PolymarketQuote) :
    SameDetection p (d.noteQuote quote state now p) := by
  have hrates {p' : PendingTradableGap} (h : ∀ rate : Rate, rate.ofPending p' = rate.ofPending p)
      (hkey : p'.key = p.key) (htoken : p'.tokenId = p.tokenId) : SameDetection p p' :=
    ⟨hkey, htoken, h⟩
  simp only [noteQuote, markMidRepricing]
  split
  · exact hrates (fun rate => by cases rate <;> rfl) rfl rfl
  split
  · split <;> exact hrates (fun rate => by cases rate <;> rfl) rfl rfl
  · exact hrates (fun rate => by cases rate <;> rfl) rfl rfl

theorem checkQuote_sameDetection (quote : PolymarketQuote) :
    SameDetection p (d.checkQuote quote state now p).gap := by
  rw [checkQuote]
  split
  · exact ⟨rfl, rfl, fun rate => by cases rate <;> rfl⟩
  split
  · exact ⟨rfl, rfl, fun rate => by cases rate <;> rfl⟩
  split
  · exact ⟨rfl, rfl, fun rate => by cases rate <;> rfl⟩
  split <;> exact ⟨rfl, rfl, fun rate => by cases rate <;> rfl⟩

theorem quoteFate_sameDetection (quote : PolymarketQuote) :
    SameDetection p (quoteFate quote state now d p).gap := by
  rw [quoteFate_eq]
  split
  · exact ⟨rfl, rfl, fun _ => rfl⟩
  · exact (noteQuote_sameDetection d state now p quote).trans
      (checkQuote_sameDetection d state now _ quote)

theorem expiryFate_sameDetection : SameDetection p (expiryFate state now d p).gap := by
  rw [expiryFate]
  split
  · exact ⟨rfl, rfl, fun _ => rfl⟩
  · cases state.polymarketQuotes.get? p.tokenId <;>
      exact ⟨rfl, rfl, fun rate => by cases rate <;> rfl⟩

theorem lifecycleFate_sameDetection (event : MarketLifecycleEvent) :
    SameDetection p (lifecycleFate event state now d p).gap := by
  rw [lifecycleFate]
  dsimp only
  split
  · exact ⟨rfl, rfl, fun _ => rfl⟩
  · cases state.polymarketQuotes.get? p.tokenId <;>
      exact ⟨rfl, rfl, fun rate => by cases rate <;> rfl⟩

end

/-! ### Detections -/

/-- What a detection reads: a market, in a market state, at a moment. -/
structure Reading where
  market : PolymarketMarketMetadata
  state : MarketState
  now : Moment

/-- The market state that a call comes with, and its moment. -/
def readBy : GapCall → Option (MarketState × Moment)
  | .onMarketEvent event state nowTs clock => some (state, momentOf event nowTs clock)
  | _ => none

/-- In a run, the gap under a key was detected on a reading, and is pending since. -/
def DetectedOn (start : GapDetector) (calls : List GapCall) (key : GapKey) (r : Reading) : Prop :=
  ∃ pre call rest p, calls = pre ++ call :: rest ∧ readBy call = some (r.state, r.now) ∧
    (gapMachine.exec start pre).pending.get? key = none ∧
    (gapMachine.exec start (pre ++ [call])).pending.get? key = some p ∧ p.market = r.market ∧
    gapMachine.StepsMeet (fun d _ => (d.pending.get? key).isSome)
      (gapMachine.exec start (pre ++ [call])) rest

/-- One call more leaves the detection of a gap as it was. -/
theorem DetectedOn.concat {start : GapDetector} {calls : List GapCall} {key : GapKey}
    {r : Reading} (h : DetectedOn start calls key r)
    (hpending : ((gapMachine.exec start calls).pending.get? key).isSome) (call : GapCall) :
    DetectedOn start (calls ++ [call]) key r := by
  obtain ⟨pre, first, rest, p, rfl, hreads, hfree, hget, hmarket, hsteps⟩ := h
  refine ⟨pre, first, rest ++ [call], p, by simp, hreads, hfree, hget, hmarket, ?_⟩
  rw [Machine.stepsMeet_append, ← Machine.exec_append, List.append_assoc]
  exact ⟨hsteps, hpending, trivial⟩

/-- The rates of a gap are those of a quote of its token that was read: a rate of the gate
stands where the quote says none, or zero. -/
structure RatesFrom (d : GapDetector) (p : PendingTradableGap) (r : Reading)
    (quote : PolymarketQuote) : Prop where
  read : r.state.polymarketQuotes.get? p.tokenId = some quote
  fills : d.CanFill r.market quote r.now
  rates : ∀ rate : Rate, rate.ofPending p =
    orValue (rate.ofQuote quote) (rate.firstKnown r.market r.state)

theorem RatesFrom.of_same {d : GapDetector} {p p' : PendingTradableGap} {r : Reading}
    {quote : PolymarketQuote} (h : RatesFrom d p r quote) (hsame : SameDetection p p') :
    RatesFrom d p' r quote :=
  ⟨hsame.tokenId ▸ h.read, h.fills, fun rate => (hsame.rates rate).trans (h.rates rate)⟩

theorem RatesFrom.of_settings {d d' : GapDetector} {p : PendingTradableGap} {r : Reading}
    {quote : PolymarketQuote} (h : RatesFrom d' p r quote) (hsettings : d'.settings = d.settings) :
    RatesFrom d p r quote :=
  ⟨h.read, (canFill_congr hsettings).mp h.fills, h.rates⟩

theorem OpenedAt.ratesFrom {d : GapDetector} {state : MarketState} {now : Moment}
    {p : PendingTradableGap} (h : OpenedAt d state now p) :
    p.market ∈ (d.marketsBySymbol.get? p.symbol).getD [] ∧
      ∃ quote, RatesFrom d p ⟨p.market, state, now⟩ quote := by
  obtain ⟨same, rfl, rfl, follows, token, read, fills⟩ := h
  refine ⟨follows, _, read, (canFill_congr same.settings).mp fills, fun rate => ?_⟩
  rw [ofPending_pendingGap, ofGate_bookReadinessGate]
  rfl

/-- **In every run** a pending gap has the rates of the quote that its detection read. -/
theorem rates_exec (c : GapDetectorSettings) (markets : List PolymarketMarketMetadata)
    (startedNs : ℤ) (calls : List GapCall) {key : GapKey} {p : PendingTradableGap}
    (hget : (gapMachine.exec (.init c markets startedNs) calls).pending.get? key = some p) :
    ∃ r quote, DetectedOn (.init c markets startedNs) calls key r ∧
      RatesFrom (.init c markets startedNs) p r quote := by
  induction calls using List.reverseRecOn generalizing key p with
  | nil => cases hget
  | append_singleton calls call ih =>
      have hnext := hget
      rw [Machine.exec_append] at hget
      obtain ⟨hsettings, hkeyed⟩ := keyed_exec c markets startedNs calls
      obtain ⟨rfl, hheld⟩ := holds_of_next hkeyed hget
      -- a gap that was pending before keeps its detection
      have hkept {p₀ : PendingTradableGap} (hsame : SameDetection p₀ p)
          (was : (gapMachine.exec (.init c markets startedNs) calls).pending.get? p₀.key =
            some p₀) :
          ∃ r quote, DetectedOn (.init c markets startedNs) (calls ++ [call]) p.key r ∧
            RatesFrom (.init c markets startedNs) p r quote := by
        obtain ⟨r, quote, hdetected, hrates⟩ := ih was
        rw [← hsame.key] at hdetected was
        exact ⟨r, quote, hdetected.concat (Option.isSome_of_mem was) call, hrates.of_same hsame⟩
      cases hheld with
      | pending was unquoted => exact hkept ⟨rfl, rfl, fun _ => rfl⟩ was
      | noted was token keeps =>
          rename_i quote state nowTs clock p₀
          have hsame := quoteFate_sameDetection
            (gapMachine.exec (.init c markets startedNs) calls) state
            (momentOf (.polymarketQuote quote) nowTs clock) p₀ quote
          rw [keeps] at hsame
          exact hkept hsame was
      | opened noQuote free opens =>
          obtain ⟨-, quote, hrates⟩ := opens.ratesFrom
          exact ⟨_, quote, ⟨calls, _, [], p, rfl, rfl, free, hnext, rfl, trivial⟩,
            hrates.of_settings hsettings⟩
      | refreshed was sameId =>
          rename_i markets' now p₀ market
          have hkey : ({ p₀ with market := market } : PendingTradableGap).key = p₀.key := by
            simp only [PendingTradableGap.key, sameId]
          have hsame : SameDetection p₀ { p₀ with market := market } :=
            ⟨hkey, rfl, fun rate => by cases rate <;> rfl⟩
          exact hkept hsame was

/-- A gap that a call closes was detected before, or by the call. -/
theorem Closes.detection {d : GapDetector} {call : GapCall} {ended : PendingTradableGap}
    (h : Closes d call ended) :
    ∃ p, SameDetection p ended ∧ (d.pending.get? p.key = some p ∨
      ∃ state now, readBy call = some (state, now) ∧ d.pending.get? p.key = none ∧
        OpenedAt d state now p) := by
  cases h with
  | quote was closes =>
      rename_i quote state nowTs clock p
      have hsame := quoteFate_sameDetection d state (momentOf (.polymarketQuote quote) nowTs clock)
        p quote
      rw [closes] at hsame
      exact ⟨p, hsame, .inl was⟩
  | expired held closes =>
      rename_i event state nowTs clock p
      have hsame := expiryFate_sameDetection d state (momentOf event nowTs clock) p
      rw [closes] at hsame
      cases held with
      | pending was unquoted => exact ⟨p, hsame, .inl was⟩
      | noted was token keeps =>
          rename_i quote p₀
          have hkept := quoteFate_sameDetection d state
            (momentOf (.polymarketQuote quote) nowTs clock) p₀ quote
          rw [keeps] at hkept
          exact ⟨p₀, hkept.trans hsame, .inl was⟩
      | opened noQuote free opens => exact ⟨p, hsame, .inr ⟨_, _, rfl, free, opens⟩⟩
  | lifecycle was closes ends =>
      rename_i event state nowTs clock p
      have hsame := lifecycleFate_sameDetection d state
        (momentOf (.marketLifecycle event) nowTs clock) p event
      rw [closes] at hsame
      exact ⟨p, hsame, .inl was⟩
  | refreshed was closes =>
      rename_i markets now activeById p
      rw [refreshFate] at closes
      split at closes <;> cases closes
      exact ⟨p, ⟨rfl, rfl, fun rate => by cases rate <;> rfl⟩, .inl was⟩

/-! ### Observations -/

/-- The detection of an observation read a market in a state at a moment: before the call that
writes the observation, or in it. -/
inductive ReadAtDetection (start : GapDetector) (calls : List GapCall) (call : GapCall)
    (o : TradableGapObservation) (r : Reading) : Prop
  | before (watched : o.quoteWasFillable = true)
      (detected : DetectedOn start calls o.identity.key r)
  | now (unwatched : o.quoteWasFillable = false ∨
        (gapMachine.exec start calls).pending.get? o.identity.key = none)
      (reads : readBy call = some (r.state, r.now))
      (follows : r.market ∈
        ((gapMachine.exec start calls).marketsBySymbol.get? o.symbol).getD [])
      (sameId : r.market.marketId = o.marketId)

/-- An observation says the rates of a quote, wherever the quote says one. -/
def KeepsRates (o : TradableGapObservation) (quote : PolymarketQuote) : Prop :=
  ∀ (rate : Rate) (value : ℚ), rate.ofQuote quote = some value →
    rate.ofObservation o = some value

/-- An observation says the rates of a quote, and none that the quote does not say. -/
def OnlyRates (o : TradableGapObservation) (quote : PolymarketQuote) : Prop :=
  ∀ rate : Rate, rate.ofObservation o = rate.ofQuote quote

/-- Where a quote says zero, the first rate that is known of the books of the market is zero. -/
def ZerosFirst (quote : PolymarketQuote) (r : Reading) : Prop :=
  ∀ rate : Rate, rate.ofQuote quote = some 0 → rate.firstKnown r.market r.state = some 0

/-- Where a quote says no rate, none is known of the books of the market. -/
def NonesUnknown (quote : PolymarketQuote) (r : Reading) : Prop :=
  ∀ rate : Rate, rate.ofQuote quote = none → rate.firstKnown r.market r.state = none

/-- A rejection on a quote says the rates of the quote, and of the gate where the quote says
none. -/
theorem RejectedAt.rates {d : GapDetector} {state : MarketState} {now : Moment}
    {o : TradableGapObservation} (h : RejectedAt d state now o) :
    (∃ reason ∈ unreadReasons, o.rejectReason = some reason) ∨
      ∃ market ∈ (d.marketsBySymbol.get? o.symbol).getD [], market.marketId = o.marketId ∧
        o.quoteWasFillable = false ∧
        ∃ quote, state.polymarketQuotes.get? o.tokenId = some quote ∧
          ¬ d.CanFill market quote now ∧
          ∀ rate : Rate, rate.ofObservation o =
            (rate.ofQuote quote).orElse fun _ => rate.firstKnown market state := by
  obtain ⟨same, rfl, rfl, follows, rejects⟩ := h
  rename_i d' m market tokenId quote reason
  have hread {quote : PolymarketQuote} (rate : Rate) :
      rate.ofObservation (d'.preEntryObservation m market tokenId (some quote) reason
        (d'.bookReadinessGate market m.state m.now.nowTs)) =
        (rate.ofQuote quote).orElse fun _ => rate.firstKnown market m.state := by
    rw [ofObservation_preEntryObservation, ofGate_bookReadinessGate]
  cases rejects with
  | unread unread => exact .inl ⟨reason, unread, rfl⟩
  | stale token read stale =>
      refine .inr ⟨market, follows, rfl, rfl, _, read, fun hfills => ?_, fun rate => hread rate⟩
      have hfresh := ((canFill_congr same.settings).mpr hfills).fresh
      rw [stale] at hfresh
      cases hfresh
  | unfillable token read why =>
      refine .inr ⟨market, follows, rfl, rfl, _, read, fun hfills => ?_, fun rate => hread rate⟩
      have hfillable := ((canFill_congr same.settings).mpr hfills).fillable
      rw [why] at hfillable
      cases hfillable

/-- A rate that gives way to another one only when it is missing. -/
theorem orElse_keeps (own first : Option ℚ) (value : ℚ) (h : own = some value) :
    (own.orElse fun _ => first) = some value := by
  rw [h]
  rfl

theorem orElse_eq_self_iff {own first : Option ℚ} :
    (own.orElse fun _ => first) = own ↔ (own = none → first = none) := by
  cases own <;> simp

/-- A rate that gives way to another one when it is zero, too. -/
theorem orValue_keeps_iff {own first : Option ℚ} :
    (∀ value, own = some value → orValue own first = some value) ↔
      (own = some 0 → first = some 0) := by
  cases own with
  | none => simp
  | some value =>
      by_cases hzero : value = 0
      · subst hzero
        simp [orValue]
      · simp [orValue, hzero]

theorem orValue_eq_self_iff {own first : Option ℚ} :
    orValue own first = own ↔ (own = some 0 → first = some 0) ∧ (own = none → first = none) := by
  cases own with
  | none => simp [orValue]
  | some value =>
      by_cases hzero : value = 0
      · subst hzero
        simp [orValue]
      · simp [orValue, hzero]

/-- The rates of an observation, by whether the quote that was read could be filled. -/
theorem keepsRates_of_orElse {o : TradableGapObservation} {quote : PolymarketQuote} {r : Reading}
    (h : ∀ rate : Rate, rate.ofObservation o =
      (rate.ofQuote quote).orElse fun _ => rate.firstKnown r.market r.state) :
    KeepsRates o quote ∧ (OnlyRates o quote ↔ NonesUnknown quote r) := by
  refine ⟨fun rate value hown => ?_, ?_⟩
  · rw [h]
    exact orElse_keeps _ _ value hown
  · simp only [OnlyRates, NonesUnknown, h, orElse_eq_self_iff]

theorem keepsRates_of_orValue {o : TradableGapObservation} {quote : PolymarketQuote} {r : Reading}
    (h : ∀ rate : Rate, rate.ofObservation o =
      orValue (rate.ofQuote quote) (rate.firstKnown r.market r.state)) :
    (KeepsRates o quote ↔ ZerosFirst quote r) ∧
      (OnlyRates o quote ↔ ZerosFirst quote r ∧ NonesUnknown quote r) := by
  constructor
  · simp only [KeepsRates, ZerosFirst, h, orValue_keeps_iff]
  · simp only [OnlyRates, ZerosFirst, NonesUnknown, h, orValue_eq_self_iff, forall_and]

/-- **In every run**, the detection of a gap that is closed read the quote that the gap has its
rates from. -/
theorem closed_read (c : GapDetectorSettings) (markets : List PolymarketMarketMetadata)
    (startedNs : ℤ) {calls : List GapCall} {call : GapCall} {ended : PendingTradableGap}
    (h : Closes (gapMachine.exec (.init c markets startedNs) calls) call ended)
    (d' : GapDetector) :
    ∃ r quote, ReadAtDetection (.init c markets startedNs) calls call
        (d'.observationFromPending ended) r ∧
      RatesFrom (.init c markets startedNs) ended r quote := by
  obtain ⟨hsettings, -⟩ := keyed_exec c markets startedNs calls
  have hkey : (d'.observationFromPending ended).identity.key = ended.key := rfl
  obtain ⟨p, hsame, hget | ⟨state, now, hreads, hfree, hopened⟩⟩ := h.detection
  · obtain ⟨r, quote, hdetected, hrates⟩ := rates_exec c markets startedNs calls hget
    rw [← hsame.key] at hdetected
    exact ⟨r, quote, .before rfl hdetected, hrates.of_same hsame⟩
  · obtain ⟨hfollows, quote, hrates⟩ := hopened.ratesFrom
    have hid : p.key = ended.key := hsame.key.symm
    rw [PendingTradableGap.key, PendingTradableGap.key, GapKey.mk.injEq] at hid
    refine ⟨_, quote, .now (.inr ?_) hreads ?_ hid.2.1,
      (hrates.of_same hsame).of_settings hsettings⟩
    · rwa [hkey, hsame.key]
    · rwa [hid.1] at hfollows

/-- **When an observation has the rates of its own quote**: a rejection always keeps them, a gap
does unless a rate of zero gives way to another first one; and neither says other rates exactly
when, besides, none is known where the quote says none. -/
theorem detection_rates_iff (c : GapDetectorSettings) (markets : List PolymarketMarketMetadata)
    (startedNs : ℤ) (calls : List GapCall) (call : GapCall) (o : TradableGapObservation)
    (ho : o ∈ (gapMachine.exec (.init c markets startedNs) calls).writtenBy call) :
    (∃ reason ∈ unreadReasons, o.rejectReason = some reason) ∨
      ∃ r quote, ReadAtDetection (.init c markets startedNs) calls call o r ∧
        r.state.polymarketQuotes.get? o.tokenId = some quote ∧
        (KeepsRates o quote ↔
          ((GapDetector.init c markets startedNs).CanFill r.market quote r.now →
            ZerosFirst quote r)) ∧
        (OnlyRates o quote ↔
          ((GapDetector.init c markets startedNs).CanFill r.market quote r.now →
            ZerosFirst quote r) ∧ NonesUnknown quote r) := by
  obtain ⟨hsettings, hkeyed⟩ := keyed_exec c markets startedNs calls
  cases recorded_of_mem hkeyed ho with
  | rejected noQuote rejected =>
      rename_i event state nowTs clock
      rcases rejected.rates with hunread |
        ⟨market, hfollows, hid, hwritten, quote, hread, hno, hrates⟩
      · exact .inl hunread
      right
      have hunfilled : ¬ (GapDetector.init c markets startedNs).CanFill market quote
          (momentOf event nowTs clock) :=
        fun hfills => hno ((canFill_congr hsettings).mpr hfills)
      let r : Reading := ⟨market, state, momentOf event nowTs clock⟩
      obtain ⟨hkeeps, honly⟩ := keepsRates_of_orElse (r := r) hrates
      refine ⟨r, quote, .now (.inl hwritten) rfl hfollows hid, hread, ?_, ?_⟩
      · exact iff_of_true hkeeps fun hfills => absurd hfills hunfilled
      · rw [honly]
        exact (and_iff_right fun hfills => absurd hfills hunfilled).symm
  | closed closes =>
      rename_i d' ended
      right
      obtain ⟨r, quote, hreads, hread, hfills, hrates⟩ := closed_read c markets startedNs closes d'
      obtain ⟨hkeeps, honly⟩ := keepsRates_of_orValue
        fun rate => (ofObservation_observationFromPending rate d' ended).trans (hrates rate)
      refine ⟨r, quote, hreads, hread, ?_, ?_⟩
      · rw [hkeeps, forall_prop_of_true hfills]
      · rw [honly, forall_prop_of_true hfills]

/-! ### A rate of zero -/

/-- A quote of the down token. -/
def downQuote (bid : ℚ) (mono : ℤ) : PolymarketQuote :=
  { upQuote bid mono with tokenId := "down", sideLabel := .down }

/-- A state in which the symbol just fell, and of the two books of its market the one of the down
token never mismatched. -/
def ratedState : MarketState :=
  { MarketState.init 5000 with
    symbols := .ofList [("BTCUSDT", { SymbolState.init "BTCUSDT" with
      rollingReturns := .ofList [("1s", some (-1 / 100))]
      localReceiveTimestamp := some 1000000000000
      recvMonotonicNs := some 1000000000 })]
    polymarketQuotes := .ofList
      [("up", { upQuote (1 / 2) 1000000000 with tokenMismatchRate := some (1 / 10) }),
        ("down", { downQuote (1 / 2) 1000000000 with tokenMismatchRate := some 0 })] }

/-- A call with its market state replaced. -/
def inState (state : MarketState) : GapCall → GapCall
  | .onMarketEvent event _ nowTs clock => .onMarketEvent event state nowTs clock
  | call => call

/-- The quote on which the gap of the down token times out. -/
def lateDownQuote : GapCall :=
  .onMarketEvent (.polymarketQuote (downQuote (3 / 5) 7000000000)) ratedState
    (some 1006000000000) 1006000000000

/-- The detector once the fall is detected. -/
def ratedDetector : GapDetector :=
  gapMachine.exec (.init fiveSeconds [openMarket] 1) [inState ratedState openingTrade]

theorem lateDownQuote_writes : ratedDetector.writtenBy lateDownQuote ≠ [] := by decide +kernel

/-- The observation of the gap of the down token. -/
def ratedObservation : TradableGapObservation :=
  (ratedDetector.writtenBy lateDownQuote).head lateDownQuote_writes

/-- The theorem applied to the gap of the down token. -/
theorem detection_rates_late_quote :
    (∃ reason ∈ unreadReasons, ratedObservation.rejectReason = some reason) ∨
      ∃ r quote, ReadAtDetection (.init fiveSeconds [openMarket] 1)
          [inState ratedState openingTrade] lateDownQuote ratedObservation r ∧
        r.state.polymarketQuotes.get? ratedObservation.tokenId = some quote ∧
        (KeepsRates ratedObservation quote ↔
          ((GapDetector.init fiveSeconds [openMarket] 1).CanFill r.market quote r.now →
            ZerosFirst quote r)) ∧
        (OnlyRates ratedObservation quote ↔
          ((GapDetector.init fiveSeconds [openMarket] 1).CanFill r.market quote r.now →
            ZerosFirst quote r) ∧ NonesUnknown quote r) :=
  detection_rates_iff fiveSeconds [openMarket] 1 [inState ratedState openingTrade] lateDownQuote
    ratedObservation (List.head_mem lateDownQuote_writes)

/-- The book of the down token never mismatched, and its gap is written with the rate of the up
token. -/
theorem zero_rate_replaced :
    ¬ ∀ (c : GapDetectorSettings) (markets : List PolymarketMarketMetadata) (startedNs : ℤ)
      (calls : List GapCall) (call : GapCall),
      ∀ o ∈ (gapMachine.exec (.init c markets startedNs) calls).writtenBy call,
        ∀ r quote, ReadAtDetection (.init c markets startedNs) calls call o r →
          r.state.polymarketQuotes.get? o.tokenId = some quote → KeepsRates o quote := by
  intro h
  have hopened : (ratedDetector.pending.get? ratedObservation.identity.key).any
      (fun p => p.market = openMarket) = true := by decide +kernel
  obtain ⟨p, hget, hmarket⟩ := Option.any_eq_true _ _ |>.mp hopened
  have hdetected : DetectedOn (.init fiveSeconds [openMarket] 1)
      [inState ratedState openingTrade] ratedObservation.identity.key
      ⟨openMarket, ratedState, ⟨1000000000000, 1000000000⟩⟩ :=
    ⟨[], _, [], p, rfl, rfl, rfl, hget, of_decide_eq_true hmarket, trivial⟩
  have hread : ratedState.polymarketQuotes.get? ratedObservation.tokenId =
      some { downQuote (1 / 2) 1000000000 with tokenMismatchRate := some 0 } := by decide +kernel
  have hkeeps := h fiveSeconds [openMarket] 1 [inState ratedState openingTrade] lateDownQuote
    ratedObservation (List.head_mem lateDownQuote_writes) _ _
    (.before (by decide +kernel) hdetected) hread
  have hzero := hkeeps .tokenMismatch 0 rfl
  have hreplaced : Rate.tokenMismatch.ofObservation ratedObservation = some (1 / 10) := by
    decide +kernel
  rw [hreplaced] at hzero
  exact absurd hzero (by decide +kernel)

end GapDetector

end SomethingTrade
