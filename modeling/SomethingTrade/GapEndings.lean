import SomethingTrade.GapRecords

/-!
# How Gaps End

Every observation is written for one of five reasons: its candidate was rejected at the
detection, or its gap ended by a quote, by the time limit, by a lifecycle event, or by a
change of the markets. A quote is held against the time limit first, then against the
book, then against the exit, and last against the entry.

## Main results

* `Holds.held`, `Closes.ends`: what becomes of a gap by a call, and of its middle price.
* `written_of_mem`: the observations a call writes, and for which reasons.
* `GapDetector.gaps_end_in_order`: the order of the checks, in every run.
-/

namespace SomethingTrade

namespace GapDetector

/-! ### Gaps before and after a call -/

/-- A call brings a quote, received at a time of the monotonic clock, that follows the move
of a gap. -/
def RepricesAt (d : GapDetector) (p : PendingTradableGap) (call : GapCall) (mono : ℤ) : Prop :=
  ∃ quote, quoteOf call = some (quote, mono) ∧ p.tokenId = quote.tokenId ∧
    QuoteReprices d p quote

/-- The same gap before and after a call. -/
structure Carried (d : GapDetector) (call : GapCall) (p p' : PendingTradableGap) : Prop where
  same : SameGap p p'
  midTs : p'.firstMidRepricedTsNs.isSome ↔
    p.firstMidRepricedTsNs.isSome ∨ ∃ mono, RepricesAt d p call mono
  midMonotonic : p'.firstMidRepricedMonotonicNs = p.firstMidRepricedMonotonicNs ∨
    ∃ mono, p.firstMidRepricedTsNs = none ∧ RepricesAt d p call mono ∧
      p'.firstMidRepricedMonotonicNs = some mono

theorem Carried.unmarked {d : GapDetector} {call : GapCall} {p p' p'' : PendingTradableGap}
    (h : Carried d call p p') (h' : Unmarked p' p'') : Carried d call p p'' where
  same := h.same.trans h'.same
  midTs := by rw [h'.midTs, h.midTs]
  midMonotonic := by rw [h'.midMonotonic]; exact h.midMonotonic

theorem Unmarked.carried {d : GapDetector} {call : GapCall} {p p' : PendingTradableGap}
    (h : Unmarked p p') (hcall : ∀ mono, ¬ RepricesAt d p call mono) :
    Carried d call p p' where
  same := h.same
  midTs := by simp [h.midTs, hcall]
  midMonotonic := .inl h.midMonotonic

theorem Noted.carried {d : GapDetector} {quote : PolymarketQuote} {state : MarketState}
    {nowTs : Option ℤ} {clock : ℤ} {p p' : PendingTradableGap}
    (h : Noted d quote (momentOf (.polymarketQuote quote) nowTs clock) p p')
    (htoken : p.tokenId = quote.tokenId) :
    Carried d (.onMarketEvent (.polymarketQuote quote) state nowTs clock) p p' := by
  have hcall (mono : ℤ) :
      RepricesAt d p (.onMarketEvent (.polymarketQuote quote) state nowTs clock) mono ↔
        QuoteReprices d p quote ∧
          mono = (momentOf (.polymarketQuote quote) nowTs clock).nowMonotonicNs := by
    constructor
    · rintro ⟨quote', hquote, -, hreprices⟩
      obtain ⟨rfl, rfl⟩ := Prod.mk.inj (Option.some.inj hquote)
      exact ⟨hreprices, rfl⟩
    · rintro ⟨hreprices, rfl⟩
      exact ⟨quote, rfl, htoken, hreprices⟩
  refine ⟨h.same, by simp [h.midTs, hcall], ?_⟩
  rcases h.midMonotonic with heq | ⟨hnone, hreprices, heq⟩
  · exact .inl heq
  · rw [quoteMonotonic_momentOf] at heq
    exact .inr ⟨_, hnone, (hcall _).mpr ⟨hreprices, rfl⟩, heq⟩

/-- A gap that a call holds: a gap that was pending, or one the call opened. -/
inductive Held (d : GapDetector) (call : GapCall) (p' : PendingTradableGap) : Prop
  | pending (p : PendingTradableGap) (was : d.pending.get? p.key = some p)
      (carried : Carried d call p p')
  | opened (event : MarketEvent) (state : MarketState) (nowTs : Option ℤ) (clock : ℤ)
      (byEvent : call = .onMarketEvent event state nowTs clock) (noQuote : quoteOf call = none)
      (was : d.pending.get? p'.key = none)
      (detected : p'.firstDetectedMonotonicNs = (momentOf event nowTs clock).nowMonotonicNs)
      (midTs : p'.firstMidRepricedTsNs = none)
      (midMonotonic : p'.firstMidRepricedMonotonicNs = none)

theorem Held.unmarked {d : GapDetector} {call : GapCall} {p' p'' : PendingTradableGap}
    (h : Held d call p') (h' : Unmarked p' p'') : Held d call p'' := by
  cases h with
  | pending p was carried => exact .pending p was (carried.unmarked h')
  | opened event state nowTs clock byEvent noQuote was detected midTs midMonotonic =>
      exact .opened event state nowTs clock byEvent noQuote (by rw [h'.same.key]; exact was)
        (h'.same.detected.trans detected) (h'.midTs.trans midTs)
        (h'.midMonotonic.trans midMonotonic)

theorem not_repricesAt {p : PendingTradableGap} {call : GapCall} (hcall : quoteOf call = none)
    (mono : ℤ) : ¬ RepricesAt d p call mono := by
  rintro ⟨quote, hquote, -⟩
  rw [hcall] at hquote
  cases hquote

/-- **A gap that a call leaves** was pending, or was opened by the call. -/
theorem Holds.held {d : GapDetector} {call : GapCall} {p' : PendingTradableGap}
    (h : Holds d call p') : Held d call p' := by
  cases h with
  | pending was unquoted =>
      refine .pending p' was ((Unmarked.refl p').carried ?_)
      rintro mono ⟨quote, hquote, htoken, -⟩
      exact unquoted quote mono hquote htoken
  | noted was token keeps =>
      rename_i quote state nowTs clock p
      have hnoted := noteQuote_noted d quote state
        (momentOf (.polymarketQuote quote) nowTs clock) p
      rw [quoteFate_eq, if_neg (not_not.mpr token)] at keeps
      obtain ⟨-, rfl⟩ := checkQuote_keep keeps
      exact .pending p was ((hnoted.carried token).unmarked
        ⟨⟨rfl, rfl, rfl, rfl, rfl⟩, rfl, rfl⟩)
  | opened noQuote free opens =>
      cases opens with
      | mk same ofState ofNow follows token read fills =>
          exact .opened _ _ _ _ rfl noQuote free (congrArg Moment.nowMonotonicNs ofNow) rfl rfl
  | refreshed was sameId =>
      rename_i markets now p market
      have hkey : ({ p with market := market } : PendingTradableGap).key = p.key := by
        simp only [PendingTradableGap.key, sameId]
      have hsame : Unmarked p { p with market := market } :=
        ⟨⟨hkey, rfl, rfl, rfl, rfl⟩, rfl, rfl⟩
      exact .pending p was (hsame.carried (not_repricesAt rfl))

/-! ### The ends of gaps -/

/-- How a call ends a gap. -/
inductive Ends (d : GapDetector) : GapCall → PendingTradableGap → Prop
  | quote {quote : PolymarketQuote} {state : MarketState} {nowTs : Option ℤ} {clock : ℤ}
      {p ended : PendingTradableGap} (was : d.pending.get? p.key = some p)
      (token : p.tokenId = quote.tokenId)
      (ends : QuoteEnd d quote state (momentOf (.polymarketQuote quote) nowTs clock)
        (d.noteQuote quote state (momentOf (.polymarketQuote quote) nowTs clock) p) ended) :
      Ends d (.onMarketEvent (.polymarketQuote quote) state nowTs clock) ended
  | expired {event : MarketEvent} {state : MarketState} {nowTs : Option ℤ} {clock : ℤ}
      {ended : PendingTradableGap}
      (held : Held d (.onMarketEvent event state nowTs clock) ended)
      (late : d.settings.maxPendingGapMs <
        age ended (momentOf event nowTs clock).nowMonotonicNs)
      (stage : ended.rejectStage = .timeout) (reason : ended.closeReason = some timeoutReasonText) :
      Ends d (.onMarketEvent event state nowTs clock) ended
  | lifecycle {event : MarketLifecycleEvent} {state : MarketState} {nowTs : Option ℤ}
      {clock : ℤ} {p ended : PendingTradableGap} (was : d.pending.get? p.key = some p)
      (market : p.market.marketId = event.marketId) (ends : d.endsGaps event = true)
      (same : Unmarked p ended) (stage : ended.rejectStage = .lifecycle)
      (reason : ended.closeReason = some event.lifecycleType.text) :
      Ends d (.onMarketEvent (.marketLifecycle event) state nowTs clock) ended
  | refreshed {markets : List PolymarketMarketMetadata} {now : Moment}
      {p ended : PendingTradableGap} (was : d.pending.get? p.key = some p)
      (same : Unmarked p ended) (stage : ended.rejectStage = .lifecycle)
      (reason : ended.closeReason = some "market_expired") :
      Ends d (.updateMarkets markets now) ended

/-- An observation that a call writes. -/
inductive Written (d : GapDetector) (call : GapCall) : TradableGapObservation → Prop
  | rejected {o : TradableGapObservation} (noQuote : quoteOf call = none)
      (stage : o.rejectStage = .preEntry)
      (reason : ∃ reason ∈ preEntryReasons, o.rejectReason = some reason) : Written d call o
  | ended {d' : GapDetector} {ended : PendingTradableGap} (ends : Ends d call ended) :
      Written d call (d'.observationFromPending ended)

/-- **A gap that a call closes** ends in one of these ways. -/
theorem Closes.ends {d : GapDetector} {call : GapCall} {ended : PendingTradableGap}
    (h : Closes d call ended) : Ends d call ended := by
  cases h with
  | quote was closes =>
      rename_i quote state nowTs clock p
      rw [quoteFate_eq] at closes
      split at closes
      · cases closes
      rename_i htoken
      rcases checkQuote_cases d quote state (momentOf (.polymarketQuote quote) nowTs clock)
          (d.noteQuote quote state (momentOf (.polymarketQuote quote) nowTs clock) p) with
        ⟨ended', hclose, hends⟩ | ⟨kept, hkeep, -⟩
      · rw [hclose] at closes
        cases closes
        exact .quote was (not_not.mp htoken) hends
      · rw [hkeep] at closes
        cases closes
  | expired held closes =>
      rename_i event state nowTs clock p
      rcases expiryFate_cases (d := d) state (momentOf event nowTs clock) p with
        ⟨-, hkeep⟩ | ⟨ended', hlate, hclose, hunmarked, hstage, hreason⟩
      · rw [hkeep] at closes
        cases closes
      · rw [hclose] at closes
        cases closes
        rw [← hunmarked.same.age] at hlate
        exact .expired (held.held.unmarked hunmarked) hlate hstage hreason
  | lifecycle was closes ends =>
      rename_i event state nowTs clock p
      rw [lifecycleFate] at closes
      dsimp only at closes
      split at closes
      · cases closes
      rename_i hmarket
      cases closes
      refine .lifecycle was (not_not.mp hmarket) ends ?_ rfl rfl
      cases state.polymarketQuotes.get? p.tokenId <;> exact ⟨⟨rfl, rfl, rfl, rfl, rfl⟩, rfl, rfl⟩
  | refreshed was closes =>
      rw [refreshFate] at closes
      split at closes <;> cases closes
      exact .refreshed was ⟨⟨rfl, rfl, rfl, rfl, rfl⟩, rfl, rfl⟩ rfl rfl

theorem Rejects.mem_preEntryReasons {d : GapDetector} {m : BinanceMove}
    {market : PolymarketMarketMetadata} {tokenId : String} {quote : Option PolymarketQuote}
    {reason : String} (h : d.Rejects m market tokenId quote reason) :
    reason ∈ preEntryReasons := by
  have hunread : ∀ reason ∈ unreadReasons, reason ∈ preEntryReasons := by decide
  cases h with
  | unread unread => exact hunread _ unread
  | stale token read stale => decide
  | unfillable token read why => exact mem_preEntryReasons_of_unfillable why

theorem Recorded.written {d : GapDetector} {call : GapCall} {o : TradableGapObservation}
    (h : Recorded d call o) : Written d call o := by
  cases h with
  | rejected noQuote rejected =>
      cases rejected with
      | mk same ofState ofNow follows rejects =>
          exact .rejected noQuote rfl ⟨_, rejects.mem_preEntryReasons, rfl⟩
  | closed closes => exact .ended closes.ends

/-- **The observations a call writes**, and for which reasons. -/
theorem written_of_mem {d : GapDetector} (hkeyed : d.ledger.Keyed) {call : GapCall}
    {o : TradableGapObservation} (ho : o ∈ d.writtenBy call) : Written d call o :=
  (recorded_of_mem hkeyed ho).written

/-! ### The order of the checks -/

/-- An event carries a time of the monotonic clock; a reading of zero counts as none, as the
readers of the field take it. -/
def CarriesMonotonic (event : MarketEvent) (t : ℤ) : Prop :=
  t ≠ 0 ∧
    match event with
    | .marketTick e => e.recvMonotonicNs = some t
    | .orderBookTop e => e.recvMonotonicNs = some t
    | .depthUpdate e => e.recvMonotonicNs = some t
    | .polymarketQuote q => q.recvMonotonicNs = some t
    | .marketLifecycle e => e.recvMonotonicNs = some t

theorem momentOf_of_carries {event : MarketEvent} {t : ℤ} (h : CarriesMonotonic event t)
    (nowTs : Option ℤ) (clock : ℤ) : (momentOf event nowTs clock).nowMonotonicNs = t := by
  obtain ⟨hzero, hrecv⟩ := h
  cases event <;> simp only at hrecv <;>
    simp [momentOf, eventMonotonic, hrecv, orValue, orNumber, hzero]

/-- A quote is complete and not stale, on a market that is not over. -/
structure TrustedQuote (d : GapDetector) (quote : PolymarketQuote) (symbol marketId : String)
    (state : MarketState) (now : Moment) : Prop where
  complete : quote.bookComplete = true
  bookFresh : quote.bookStale = false
  quoteFresh : isStaleQuote quote now.nowTs now.nowMonotonicNs d.settings.polymarketStaleMs =
    false
  feedFresh : (d.staleDiagnostics symbol (some quote) state now).staleSource ≠ some .binance ∧
    (d.staleDiagnostics symbol (some quote) state now).staleSource ≠ some .both
  marketValid : d.invalidMarkets.get? marketId = none

theorem trustedQuote_of_structural {d : GapDetector} {p : PendingTradableGap}
    {quote : PolymarketQuote} {state : MarketState} {now : Moment}
    (h : d.structuralWindowEndReason p quote state now = none) :
    TrustedQuote d quote p.symbol p.market.marketId state now := by
  simp only [structuralWindowEndReason] at h
  split at h
  · cases h
  rename_i hfresh
  simp only [not_or, Bool.not_eq_true] at hfresh
  obtain ⟨hbook, hquote, hbinance, hboth⟩ := hfresh
  split at h
  · cases h
  rename_i hvalid
  rw [Bool.not_eq_true, Option.isSome_eq_false_iff, Option.isNone_iff_eq_none] at hvalid
  split at h
  · cases h
  rename_i hcomplete
  exact ⟨by simpa using hcomplete, hbook, hquote, ⟨hbinance, hboth⟩, hvalid⟩

/-- A gap ended at a profit: it could be sold above the entry and the edge, in time, on a
quote that can be trusted. -/
structure EndedAtProfit (d : GapDetector) (call : GapCall) (o : TradableGapObservation) :
    Prop where
  edge : ∃ exitBid entryAsk, o.executableExitBid = some exitBid ∧ o.entryAsk = some entryAsk ∧
    exitBid > entryAsk + d.settings.minExitEdge ∧
    o.estimatedEdgeAfterSpread = some (exitBid - entryAsk)
  delay : ∃ delay, o.executableRepricingDelayMs = some delay ∧
    delay ≤ d.settings.maxPendingGapMs
  quote : ∃ quote state nowTs clock,
    call = .onMarketEvent (.polymarketQuote quote) state nowTs clock ∧
    quote.tokenId = o.tokenId ∧ TrustedQuote d quote o.symbol o.marketId state
      (momentOf (.polymarketQuote quote) nowTs clock)

theorem Written.endedAtProfit {d : GapDetector} {call : GapCall} {o : TradableGapObservation}
    (h : Written d call o) (hstage : o.rejectStage = .none) : EndedAtProfit d call o := by
  cases h with
  | rejected noQuote stage reason =>
      rw [stage] at hstage
      cases hstage
  | ended ends =>
      rename_i d' ended
      have hnone : ended.rejectStage = .none := hstage
      cases ends with
      | quote was token ends =>
          rename_i quote state nowTs clock p
          have hnoted := noteQuote_noted d quote state
            (momentOf (.polymarketQuote quote) nowTs clock) p
          generalize d.noteQuote quote state (momentOf (.polymarketQuote quote) nowTs clock) p =
            noted at ends hnoted
          cases ends with
          | timedOut reason late => cases hnone
          | distrusted reason inTime structural => cases hnone
          | entryGone reason inTime entry => cases hnone
          | repriced inTime trusted profit =>
              obtain ⟨bid, hbid, hprofit⟩ : ∃ bid, quote.bestBid = some bid ∧
                  bid > noted.entryAsk + d.settings.minExitEdge := by
                simpa [hasExecutableRepriced, Option.any_eq_true] using profit
              have htrusted := trustedQuote_of_structural trusted
              refine ⟨⟨bid, noted.entryAsk, hbid, rfl, hprofit, ?_⟩,
                ⟨_, rfl, timeoutReason_eq_none_iff.mp inTime⟩,
                quote, state, nowTs, clock, rfl, ?_, htrusted⟩
              · have hedge : diff quote.bestBid (some noted.entryAsk) =
                    some (bid - noted.entryAsk) := by
                  rw [hbid]
                  rfl
                exact hedge
              · exact (hnoted.same.tokenId.trans token).symm
      | expired held late stage reason =>
          rw [stage] at hnone
          cases hnone
      | lifecycle was market ends same stage reason =>
          rw [stage] at hnone
          cases hnone
      | refreshed was same stage reason =>
          rw [stage] at hnone
          cases hnone

/-- An observation that a call writes while it brings a quote is of a gap that was pending;
beyond the time limit it timed out. -/
theorem Written.late {d : GapDetector} {quote : PolymarketQuote} {state : MarketState}
    {nowTs : Option ℤ} {clock : ℤ} {o : TradableGapObservation}
    (h : Written d (.onMarketEvent (.polymarketQuote quote) state nowTs clock) o) :
    ∃ p, d.pending.get? o.identity.key = some p ∧
      (d.settings.maxPendingGapMs <
        age p (momentOf (.polymarketQuote quote) nowTs clock).nowMonotonicNs →
      o.rejectStage = .timeout) := by
  cases h with
  | rejected noQuote stage reason => cases noQuote
  | ended ends =>
      rename_i d' ended
      cases ends with
      | quote was token ends =>
          rename_i p
          have hnoted := noteQuote_noted d quote state
            (momentOf (.polymarketQuote quote) nowTs clock) p
          generalize d.noteQuote quote state (momentOf (.polymarketQuote quote) nowTs clock) p =
            noted at ends hnoted
          have hkey : ended.key = noted.key := by cases ends <;> rfl
          have hwas : d.pending.get? ended.key = some p := by
            rw [hkey, hnoted.same.key, was]
          refine ⟨p, hwas, fun hlate => ?_⟩
          have intime (hinTime : d.timeoutReason noted (quoteMonotonic quote
              (momentOf (.polymarketQuote quote) nowTs clock)) = none) : False := by
            rw [quoteMonotonic_momentOf, timeoutReason_eq_none_iff, hnoted.same.age] at hinTime
            exact absurd hlate (not_lt.mpr hinTime)
          cases ends with
          | timedOut reason late => rfl
          | distrusted reason inTime structural => exact (intime inTime).elim
          | repriced inTime trusted profit => exact (intime inTime).elim
          | entryGone reason inTime entry => exact (intime inTime).elim
      | expired held late stage reason =>
          cases held with
          | pending p was carried =>
              have hwas : d.pending.get? ended.key = some p := by
                rw [carried.same.key, was]
              exact ⟨p, hwas, fun _ => stage⟩
          | opened event' state' nowTs' clock' byEvent noQuote => cases noQuote

/-- How gaps end in the runs of a detector with the settings `c`. -/
structure GapsEndInOrder (c : GapDetectorSettings) (start : GapDetector) : Prop where
  /-- The settings never change. -/
  settings : ∀ calls, (gapMachine.exec start calls).settings = c
  /-- A gap that was not rejected ended at a profit. -/
  profit : ∀ calls call, ∀ o ∈ (gapMachine.exec start calls).writtenBy call,
    o.rejectStage = .none → EndedAtProfit (gapMachine.exec start calls) call o
  /-- A quote beyond the time limit ends a gap by timeout. -/
  late : ∀ calls quote state nowTs clock t, CarriesMonotonic (.polymarketQuote quote) t →
    ∀ o ∈ (gapMachine.exec start calls).writtenBy
      (.onMarketEvent (.polymarketQuote quote) state nowTs clock),
    ∃ p, (gapMachine.exec start calls).pending.get? o.identity.key = some p ∧
      ((t - p.firstDetectedMonotonicNs : ℚ) / 1000000 > c.maxPendingGapMs →
        o.rejectStage = .timeout)
  /-- After an event that is no lifecycle event, no gap is pending beyond its time. -/
  inTime : ∀ calls event state nowTs clock t, isLifecycle event = false →
    CarriesMonotonic event t →
    ∀ e ∈ (gapMachine.next (gapMachine.exec start calls)
      (.onMarketEvent event state nowTs clock)).pending.entries,
    (t - e.2.firstDetectedMonotonicNs : ℚ) / 1000000 ≤ c.maxPendingGapMs
  /-- The time a gap was detected is that of the event that opened it. -/
  detected : ∀ calls call,
    ∀ e ∈ (gapMachine.next (gapMachine.exec start calls) call).pending.entries,
    (∃ p, (gapMachine.exec start calls).pending.get? e.1 = some p ∧
      e.2.firstDetectedMonotonicNs = p.firstDetectedMonotonicNs) ∨
    (gapMachine.exec start calls).pending.get? e.1 = none ∧
      ∃ event state nowTs clock, call = .onMarketEvent event state nowTs clock ∧
        e.2.firstDetectedMonotonicNs = (momentOf event nowTs clock).nowMonotonicNs

/-- **Gaps end in order**: in every run a quote is held against the time limit before
anything else, profits are taken in time on quotes that can be trusted, and no event leaves
a gap pending beyond its time. -/
theorem gaps_end_in_order (c : GapDetectorSettings) (markets : List PolymarketMarketMetadata)
    (startedNs : ℤ) : GapsEndInOrder c (.init c markets startedNs) := by
  have hrun := keyed_exec c markets startedNs
  refine ⟨fun calls => (hrun calls).1, ?_, ?_, ?_, ?_⟩
  · intro calls call o ho hstage
    exact (written_of_mem (hrun calls).2 ho).endedAtProfit hstage
  · intro calls quote state nowTs clock t ht o ho
    obtain ⟨p, hwas, hlate⟩ := (written_of_mem (hrun calls).2 ho).late
    refine ⟨p, hwas, fun hage => hlate ?_⟩
    rw [momentOf_of_carries ht, (hrun calls).1, age]
    exact lt_max_of_lt_right hage
  · intro calls event state nowTs clock t hevent ht e he
    have hage := onMarketEvent_inTime (hrun calls).2 hevent state nowTs clock
      (Dict.mem_entries_iff.mp he)
    rw [momentOf_of_carries ht, (hrun calls).1, age] at hage
    exact (le_max_right _ _).trans hage
  · intro calls call e he
    obtain ⟨hkey, hheld⟩ := holds_of_next (hrun calls).2 (Dict.mem_entries_iff.mp he)
    cases hheld.held with
    | pending p was carried =>
        have hwas : (gapMachine.exec (.init c markets startedNs) calls).pending.get? e.1 =
            some p := by
          rw [← hkey, carried.same.key, was]
        exact .inl ⟨p, hwas, carried.same.detected⟩
    | opened event state nowTs clock byEvent noQuote was detected =>
        rw [hkey] at was
        exact .inr ⟨was, event, state, nowTs, clock, byEvent, detected⟩

end GapDetector

end SomethingTrade
