import SomethingTrade.DeadMarkets
import SomethingTrade.GapAccounting

/-!
# Walks over the Pending Gaps

The four loops of the detector over its pending gaps are one walk, and what a walk does to a gap
is what its body says of it. A body reads the detector for its settings and its markets only, so
the gaps are independent of each other. A quote is held against the time limit first, then
against the book, then against the exit, and last against the entry.

## Main results

* `sweepPending_walked`: what a walk does to each gap and to the completed observations.
* `checkQuote_cases`: the ways in which a quote ends a gap.
* `expiryFate_cases`: the time limit ends the gaps that are too old, and no others.
-/

namespace SomethingTrade

namespace GapDetector

/-! ### What the bodies of the walks read -/

/-- The gap that stays pending, if it does. -/
def GapFate.kept : GapFate → Option PendingTradableGap
  | .keep pending => some pending
  | .close _ => none

/-- A body that reads the detector only for its settings and its markets. -/
def ReadsMarkets (body : GapDetector → PendingTradableGap → GapFate) : Prop :=
  ∀ d d' pending, SameMarkets d d' → body d' pending = body d pending

section

variable {d d' : GapDetector} (h : SameMarkets d d')

include h

theorem staleDiagnostics_congr (symbol : String) (quote : Option PolymarketQuote)
    (state : MarketState) (now : Moment) :
    d'.staleDiagnostics symbol quote state now = d.staleDiagnostics symbol quote state now := by
  simp only [staleDiagnostics, h.settings]

theorem effectiveRepriceThreshold_congr (market : PolymarketMarketMetadata) :
    d'.effectiveRepriceThreshold market = d.effectiveRepriceThreshold market := by
  simp only [effectiveRepriceThreshold, tickSizeForMarket, h.settings, h.tickSizes]

theorem timeoutReason_congr (pending : PendingTradableGap) (nowMonotonicNs : ℤ) :
    d'.timeoutReason pending nowMonotonicNs = d.timeoutReason pending nowMonotonicNs := by
  simp only [timeoutReason, h.settings]

theorem structuralWindowEndReason_congr (pending : PendingTradableGap)
    (quote : PolymarketQuote) (state : MarketState) (now : Moment) :
    d'.structuralWindowEndReason pending quote state now =
      d.structuralWindowEndReason pending quote state now := by
  simp only [structuralWindowEndReason, staleDiagnostics_congr h, h.settings, h.invalid]

theorem hasExecutableRepriced_congr (pending : PendingTradableGap) (quote : PolymarketQuote) :
    d'.hasExecutableRepriced pending quote = d.hasExecutableRepriced pending quote := by
  rw [hasExecutableRepriced, hasExecutableRepriced, h.settings]

theorem entryWindowEndReason_congr (pending : PendingTradableGap) (quote : PolymarketQuote) :
    d'.entryWindowEndReason pending quote = d.entryWindowEndReason pending quote := by
  rw [entryWindowEndReason, entryWindowEndReason, h.settings]

theorem markMidRepricing_congr (pending : PendingTradableGap) (quote : PolymarketQuote)
    (quoteTs quoteMono : ℤ) :
    d'.markMidRepricing pending quote quoteTs quoteMono =
      d.markMidRepricing pending quote quoteTs quoteMono := by
  simp only [markMidRepricing, effectiveRepriceThreshold_congr h]

theorem observationFromPending_congr (pending : PendingTradableGap) :
    d'.observationFromPending pending = d.observationFromPending pending := by
  simp only [observationFromPending, effectiveRepriceThreshold_congr h, h.settings]

end

/-- The time of a quote by the monotonic clock, as the detector takes it. -/
def quoteMonotonic (quote : PolymarketQuote) (now : Moment) : ℤ :=
  orNumber quote.recvMonotonicNs now.nowMonotonicNs

/-- A gap once a quote of its token is noted. -/
def noteQuote (d : GapDetector) (quote : PolymarketQuote) (state : MarketState) (now : Moment)
    (pending : PendingTradableGap) : PendingTradableGap :=
  let quoteTs := orNumber (quoteTimestamp quote) now.nowTs
  let pending := pending.copyCurrentQuote quote quoteTs (quoteMonotonic quote now)
  let pending := { pending with
    staleDiagnostics := d.staleDiagnostics pending.symbol (some quote) state now }
  d.markMidRepricing pending quote quoteTs (quoteMonotonic quote now)

/-- The checks of a quote that is noted, in their order. -/
def checkQuote (d : GapDetector) (quote : PolymarketQuote) (state : MarketState) (now : Moment)
    (pending : PendingTradableGap) : GapFate :=
  let quoteTs := orNumber (quoteTimestamp quote) now.nowTs
  match d.timeoutReason pending (quoteMonotonic quote now) with
  | some reason => .close (pending.endTimeout reason)
  | none =>
      match d.structuralWindowEndReason pending quote state now with
      | some reason => .close (pending.endWindow reason quoteTs (quoteMonotonic quote now))
      | none =>
          if d.hasExecutableRepriced pending quote then
            .close (pending.endRepriced quote quoteTs (quoteMonotonic quote now))
          else
            match d.entryWindowEndReason pending quote with
            | some reason =>
                .close (pending.endWindow reason quoteTs (quoteMonotonic quote now))
            | none =>
                .keep { pending with
                  lastTradableTsNs := quoteTs
                  lastTradableMonotonicNs := quoteMonotonic quote now }

theorem quoteFate_eq (d : GapDetector) (quote : PolymarketQuote) (state : MarketState)
    (now : Moment) (pending : PendingTradableGap) :
    quoteFate quote state now d pending = if pending.tokenId ≠ quote.tokenId then .keep pending
      else d.checkQuote quote state now (d.noteQuote quote state now pending) := rfl

theorem quoteFate_readsMarkets (quote : PolymarketQuote) (state : MarketState)
    (now : Moment) : ReadsMarkets (quoteFate quote state now) := by
  intro d d' pending h
  have hnoted : d'.noteQuote quote state now pending = d.noteQuote quote state now pending := by
    simp only [noteQuote, staleDiagnostics_congr h, markMidRepricing_congr h]
  have hchecked (noted : PendingTradableGap) :
      d'.checkQuote quote state now noted = d.checkQuote quote state now noted := by
    simp only [checkQuote, timeoutReason_congr h, structuralWindowEndReason_congr h,
      hasExecutableRepriced_congr h, entryWindowEndReason_congr h]
  rw [quoteFate_eq, quoteFate_eq, hnoted, hchecked]

theorem lifecycleFate_readsMarkets (event : MarketLifecycleEvent) (state : MarketState)
    (now : Moment) : ReadsMarkets (lifecycleFate event state now) := by
  intro d d' pending h
  simp only [lifecycleFate, staleDiagnostics_congr h]

theorem expiryFate_readsMarkets (state : MarketState) (now : Moment) :
    ReadsMarkets (expiryFate state now) := by
  intro d d' pending h
  simp only [expiryFate, timeoutReason_congr h, staleDiagnostics_congr h]

theorem refreshFate_readsMarkets (activeById : Dict String PolymarketMarketMetadata)
    (now : Moment) : ReadsMarkets (refreshFate activeById now) := fun _ _ _ _ => rfl

/-! ### What a walk does -/

/-- A walk over the pending gaps of `d`, gap by gap. -/
structure Walked (d : GapDetector) (body : GapDetector → PendingTradableGap → GapFate)
    (r : GapDetector × List TradableGapObservation) : Prop where
  same : SameMarkets d r.1
  completed : r.1.completed = d.completed ++ r.2
  closed : ∀ o ∈ r.2, ∃ key pending ended, d.pending.get? key = some pending ∧
    body d pending = .close ended ∧ o = d.observationFromPending ended
  closes : ∀ key pending ended, d.pending.get? key = some pending →
    body d pending = .close ended → d.observationFromPending ended ∈ r.2
  kept : ∀ key, r.1.pending.get? key = (d.pending.get? key).bind fun pending =>
    (body d pending).kept

/-- The part of a walk that has visited some of the entries. -/
structure WalkedSoFar (d : GapDetector) (body : GapDetector → PendingTradableGap → GapFate)
    (done : List (GapKey × PendingTradableGap))
    (r : GapDetector × List TradableGapObservation) : Prop where
  same : SameMarkets d r.1
  completed : r.1.completed = d.completed ++ r.2
  closed : ∀ o ∈ r.2, ∃ key pending ended, d.pending.get? key = some pending ∧
    body d pending = .close ended ∧ o = d.observationFromPending ended
  closes : ∀ e ∈ done, ∀ ended, body d e.2 = .close ended →
    d.observationFromPending ended ∈ r.2
  kept : ∀ key, r.1.pending.get? key = if key ∈ done.map Prod.fst then
    (d.pending.get? key).bind fun pending => (body d pending).kept else d.pending.get? key

theorem completed_closePending (d : GapDetector) (key : GapKey)
    (pending : PendingTradableGap) :
    (d.closePending key pending).1.completed =
        d.completed ++ [d.observationFromPending pending] ∧
      (d.closePending key pending).1.pending = d.pending.pop key := by
  have hledger := closePending_ledger d key pending
  exact ⟨congrArg GapLedger.completed hledger, congrArg GapLedger.pending hledger⟩

theorem sameMarkets_closePending (d : GapDetector) (key : GapKey)
    (pending : PendingTradableGap) : SameMarkets d (d.closePending key pending).1 :=
  (sameMarkets_complete d (d.observationFromPending pending) _).trans
    ⟨rfl, rfl, rfl, rfl, rfl⟩

theorem WalkedSoFar.visit {d : GapDetector}
    {body : GapDetector → PendingTradableGap → GapFate} (hbody : ReadsMarkets body)
    {done : List (GapKey × PendingTradableGap)} {e : GapKey × PendingTradableGap}
    {r : GapDetector × List TradableGapObservation}
    (hget : d.pending.get? e.1 = some e.2) (h : WalkedSoFar d body done r) :
    WalkedSoFar d body (done ++ [e]) (visitPending body r e) := by
  have hfate : body r.1 e.2 = body d e.2 := hbody d r.1 e.2 h.same
  -- the gap at hand has its new place, and the others stay where they are
  have hkept {s : Dict GapKey PendingTradableGap}
      (hself : s.get? e.1 = (body d e.2).kept)
      (hother : ∀ key, e.1 ≠ key → s.get? key = r.1.pending.get? key) (key : GapKey) :
      s.get? key = if key ∈ (done ++ [e]).map Prod.fst then
        (d.pending.get? key).bind fun pending => (body d pending).kept
        else d.pending.get? key := by
    by_cases hkey : e.1 = key
    · subst hkey
      rw [hself, if_pos (by simp), hget]
      rfl
    · rw [hother key hkey, h.kept key]
      refine if_congr ?_ rfl rfl
      simp [Ne.symm hkey]
  rw [visitPending, hfate]
  cases hcase : body d e.2 with
  | keep pending =>
      refine ⟨h.same.trans ⟨rfl, rfl, rfl, rfl, rfl⟩, h.completed, h.closed, ?_,
        hkept (s := r.1.pending.set e.1 pending) ?_ fun key hkey => ?_⟩
      · intro e' he' ended hended
        rcases List.mem_append.mp he' with he' | he'
        · exact h.closes e' he' ended hended
        · rw [List.mem_singleton.mp he', hcase] at hended
          cases hended
      · rw [Dict.get?_set_self, hcase]
        rfl
      · exact Dict.get?_set_of_ne _ _ hkey
  | close pending =>
      obtain ⟨hcompleted, hpending⟩ := completed_closePending r.1 e.1 pending
      have hobservation : (r.1.closePending e.1 pending).2 = d.observationFromPending pending :=
        observationFromPending_congr h.same pending
      refine ⟨h.same.trans (sameMarkets_closePending ..), ?_, fun o ho => ?_, ?_,
        hkept (s := (r.1.closePending e.1 pending).1.pending) ?_ fun key hkey => ?_⟩
      · have hobserved : r.1.observationFromPending pending =
          (r.1.closePending e.1 pending).2 := rfl
        rw [hobserved, h.completed, List.append_assoc] at hcompleted
        exact hcompleted
      · rcases List.mem_append.mp ho with ho | ho
        · exact h.closed o ho
        · rw [List.mem_singleton] at ho
          exact ⟨e.1, e.2, pending, hget, hcase, ho.trans hobservation⟩
      · intro e' he' ended hended
        rcases List.mem_append.mp he' with he' | he'
        · exact List.mem_append_left _ (h.closes e' he' ended hended)
        · rw [List.mem_singleton.mp he', hcase] at hended
          cases hended
          exact List.mem_append_right _ (List.mem_singleton.mpr hobservation.symm)
      · rw [hpending, Dict.get?_pop, if_pos rfl, hcase]
        rfl
      · rw [hpending, Dict.get?_pop, if_neg hkey]

/-- **A walk, gap by gap**: the gaps its body keeps stay pending, and the others are
completed. -/
theorem sweepPending_walked {body : GapDetector → PendingTradableGap → GapFate}
    (hbody : ReadsMarkets body) (d : GapDetector) : Walked d body (d.sweepPending body) := by
  have hempty : WalkedSoFar d body [] (d, []) :=
    ⟨.refl d, (List.append_nil _).symm, by simp, by simp, by simp⟩
  have hwalk : WalkedSoFar d body d.pending.entries (d.sweepPending body) :=
    Dict.walk_prefix d.pending (fun done e r hget h => h.visit hbody hget) hempty
  refine ⟨hwalk.same, hwalk.completed, hwalk.closed, fun key pending ended hget =>
    hwalk.closes (key, pending) (Dict.mem_entries_iff.mpr hget) ended,
    fun key => (hwalk.kept key).trans ?_⟩
  split
  · rfl
  · rename_i hkey
    rw [Dict.get?_eq_none_iff.mpr hkey]
    rfl

/-! ### Gaps between two moments -/

/-- The same gap at two moments: what its detection said of it is unchanged. -/
structure SameGap (p p' : PendingTradableGap) : Prop where
  key : p'.key = p.key
  tokenId : p'.tokenId = p.tokenId
  detected : p'.firstDetectedMonotonicNs = p.firstDetectedMonotonicNs
  beforeMid : p'.beforeMid = p.beforeMid
  entryAsk : p'.entryAsk = p.entryAsk

theorem SameGap.refl (p : PendingTradableGap) : SameGap p p := ⟨rfl, rfl, rfl, rfl, rfl⟩

theorem SameGap.trans {p p' p'' : PendingTradableGap} (h : SameGap p p')
    (h' : SameGap p' p'') : SameGap p p'' :=
  ⟨h'.key.trans h.key, h'.tokenId.trans h.tokenId, h'.detected.trans h.detected,
    h'.beforeMid.trans h.beforeMid, h'.entryAsk.trans h.entryAsk⟩

/-- The same gap at two moments between which no middle price was noted. -/
structure Unmarked (p p' : PendingTradableGap) : Prop where
  same : SameGap p p'
  midTs : p'.firstMidRepricedTsNs = p.firstMidRepricedTsNs
  midMonotonic : p'.firstMidRepricedMonotonicNs = p.firstMidRepricedMonotonicNs

theorem Unmarked.refl (p : PendingTradableGap) : Unmarked p p := ⟨.refl p, rfl, rfl⟩

/-- A quote follows the move of a gap: its middle price is the threshold above the one of the
detection. -/
def QuoteReprices (d : GapDetector) (p : PendingTradableGap) (quote : PolymarketQuote) : Prop :=
  ∃ beforeMid midPrice, p.beforeMid = some beforeMid ∧ quote.midPrice = some midPrice ∧
    midPrice ≥ beforeMid + d.effectiveRepriceThreshold p.market

/-- The same gap before and after a quote of its token was noted. -/
structure Noted (d : GapDetector) (quote : PolymarketQuote) (now : Moment)
    (p p' : PendingTradableGap) : Prop where
  same : SameGap p p'
  market : p'.market = p.market
  midTs : p'.firstMidRepricedTsNs.isSome ↔
    p.firstMidRepricedTsNs.isSome ∨ QuoteReprices d p quote
  midMonotonic : p'.firstMidRepricedMonotonicNs = p.firstMidRepricedMonotonicNs ∨
    p.firstMidRepricedTsNs = none ∧ QuoteReprices d p quote ∧
      p'.firstMidRepricedMonotonicNs = some (quoteMonotonic quote now)

theorem noteQuote_noted (d : GapDetector) (quote : PolymarketQuote) (state : MarketState)
    (now : Moment) (p : PendingTradableGap) :
    Noted d quote now p (d.noteQuote quote state now p) := by
  have unmarked {p' : PendingTradableGap} (h : Unmarked p p') (hmarket : p'.market = p.market)
      (hno : p.firstMidRepricedTsNs.isSome ∨ ¬ QuoteReprices d p quote) :
      Noted d quote now p p' := by
    refine ⟨h.same, hmarket, ?_, .inl h.midMonotonic⟩
    rw [h.midTs]
    rcases hno with hsome | hno
    · simp [hsome]
    · simp [hno]
  simp only [noteQuote, markMidRepricing]
  split
  · rename_i hsome
    exact unmarked ⟨⟨rfl, rfl, rfl, rfl, rfl⟩, rfl, rfl⟩ rfl (.inl hsome)
  rename_i hnone
  have hnone' : p.firstMidRepricedTsNs = none := Option.not_isSome_iff_eq_none.mp hnone
  split
  · rename_i beforeMid midPrice hbefore hmid
    split
    · rename_i hreached
      have hreprices : QuoteReprices d p quote :=
        ⟨beforeMid, midPrice, hbefore, hmid, hreached⟩
      exact ⟨⟨rfl, rfl, rfl, rfl, rfl⟩, rfl, by simp [hreprices],
        .inr ⟨hnone', hreprices, rfl⟩⟩
    · rename_i hreached
      refine unmarked ⟨⟨rfl, rfl, rfl, rfl, rfl⟩, rfl, rfl⟩ rfl (.inr ?_)
      rintro ⟨beforeMid', midPrice', hbefore', hmid', hreached'⟩
      obtain rfl := Option.some.inj (hbefore.symm.trans hbefore')
      obtain rfl := Option.some.inj (hmid.symm.trans hmid')
      exact hreached hreached'
  · rename_i hunknown
    refine unmarked ⟨⟨rfl, rfl, rfl, rfl, rfl⟩, rfl, rfl⟩ rfl (.inr ?_)
    rintro ⟨beforeMid, midPrice, hbefore, hmid, -⟩
    exact hunknown beforeMid midPrice hbefore hmid

/-! ### The checks of a quote -/

/-- How a quote of its token ends a gap that was noted as `p`. -/
inductive QuoteEnd (d : GapDetector) (quote : PolymarketQuote) (state : MarketState)
    (now : Moment) (p : PendingTradableGap) : PendingTradableGap → Prop
  | timedOut (reason : String)
      (late : d.timeoutReason p (quoteMonotonic quote now) = some reason) :
      QuoteEnd d quote state now p (p.endTimeout reason)
  | distrusted (reason : String)
      (inTime : d.timeoutReason p (quoteMonotonic quote now) = none)
      (structural : d.structuralWindowEndReason p quote state now = some reason) :
      QuoteEnd d quote state now p (p.endWindow reason
        (orNumber (quoteTimestamp quote) now.nowTs) (quoteMonotonic quote now))
  | repriced
      (inTime : d.timeoutReason p (quoteMonotonic quote now) = none)
      (trusted : d.structuralWindowEndReason p quote state now = none)
      (profit : d.hasExecutableRepriced p quote = true) :
      QuoteEnd d quote state now p (p.endRepriced quote
        (orNumber (quoteTimestamp quote) now.nowTs) (quoteMonotonic quote now))
  | entryGone (reason : String)
      (inTime : d.timeoutReason p (quoteMonotonic quote now) = none)
      (entry : d.entryWindowEndReason p quote = some reason) :
      QuoteEnd d quote state now p (p.endWindow reason
        (orNumber (quoteTimestamp quote) now.nowTs) (quoteMonotonic quote now))

/-- **The checks of a quote**: it ends the gap in one of the four ways, or the gap stays
pending in time. -/
theorem checkQuote_cases (d : GapDetector) (quote : PolymarketQuote) (state : MarketState)
    (now : Moment) (p : PendingTradableGap) :
    (∃ ended, d.checkQuote quote state now p = .close ended ∧
      QuoteEnd d quote state now p ended) ∨
    ∃ kept, d.checkQuote quote state now p = .keep kept ∧ Unmarked p kept := by
  rw [checkQuote]
  split
  · rename_i reason hlate
    exact .inl ⟨_, rfl, .timedOut reason hlate⟩
  rename_i hinTime
  split
  · rename_i reason hstructural
    exact .inl ⟨_, rfl, .distrusted reason hinTime hstructural⟩
  rename_i htrusted
  split
  · rename_i hprofit
    exact .inl ⟨_, rfl, .repriced hinTime htrusted hprofit⟩
  split
  · rename_i reason hentry
    exact .inl ⟨_, rfl, .entryGone reason hinTime hentry⟩
  · exact .inr ⟨_, rfl, ⟨rfl, rfl, rfl, rfl, rfl⟩, rfl, rfl⟩

/-! ### Reasons -/

/-- The reasons for which a candidate is rejected at its detection. -/
def preEntryReasons : List String :=
  ["market_invalidated", "direction_token_unmapped", "missing_quote", "quote_stale",
    "book_incomplete", "book_stale", "missing_best_ask", "missing_best_ask_size",
    "insufficient_best_ask_size", "missing_spread", "spread_too_wide"]

/-- The reasons for which the window of a gap ends. -/
def windowReasons : List String :=
  ["quote_stale", "market_invalidated", "book_incomplete", "missing_best_ask",
    "missing_best_ask_size", "insufficient_best_ask_size", "missing_spread",
    "spread_too_wide", "entry_price_moved"]

/-- The reason for which the time of a gap is up. -/
def timeoutReasonText : String := "max_observation_lifetime_reached"

theorem mem_preEntryReasons_of_unfillable {d : GapDetector} {market : PolymarketMarketMetadata}
    {quote : PolymarketQuote} {reason : String}
    (h : d.fillableBeforeRepricing market quote = some reason) : reason ∈ preEntryReasons := by
  rw [fillableBeforeRepricing] at h
  split_ifs at h <;> obtain rfl := Option.some.inj h <;> decide

theorem mem_windowReasons_of_structural {d : GapDetector} {p : PendingTradableGap}
    {quote : PolymarketQuote} {state : MarketState} {now : Moment} {reason : String}
    (h : d.structuralWindowEndReason p quote state now = some reason) :
    reason ∈ windowReasons := by
  simp only [structuralWindowEndReason] at h
  split_ifs at h <;> obtain rfl := Option.some.inj h <;> decide

theorem mem_windowReasons_of_entry {d : GapDetector} {p : PendingTradableGap}
    {quote : PolymarketQuote} {reason : String}
    (h : d.entryWindowEndReason p quote = some reason) : reason ∈ windowReasons := by
  rw [entryWindowEndReason] at h
  split_ifs at h <;> obtain rfl := Option.some.inj h <;> decide

/-- The age of a gap at a time of the monotonic clock. -/
def age (p : PendingTradableGap) (mono : ℤ) : ℚ :=
  max 0 ((mono - p.firstDetectedMonotonicNs : ℚ) / 1000000)

theorem timeoutReason_eq (d : GapDetector) (p : PendingTradableGap) (mono : ℤ) :
    d.timeoutReason p mono =
      if age p mono > d.settings.maxPendingGapMs then some timeoutReasonText else none := by
  by_cases hlate : age p mono > d.settings.maxPendingGapMs <;>
    simp [timeoutReason, durationMs, timeoutReasonText, age] at hlate ⊢

theorem timeoutReason_eq_none_iff {d : GapDetector} {p : PendingTradableGap} {mono : ℤ} :
    d.timeoutReason p mono = none ↔ age p mono ≤ d.settings.maxPendingGapMs := by
  rw [timeoutReason_eq]
  split
  · rename_i hlate
    simpa using hlate
  · rename_i hinTime
    simpa using hinTime

theorem timeoutReason_eq_some_iff {d : GapDetector} {p : PendingTradableGap} {mono : ℤ}
    {reason : String} : d.timeoutReason p mono = some reason ↔
      d.settings.maxPendingGapMs < age p mono ∧ reason = timeoutReasonText := by
  rw [timeoutReason_eq]
  split
  · rename_i hlate
    simp [hlate, eq_comm]
  · rename_i hinTime
    simp [hinTime]

theorem SameGap.age {p p' : PendingTradableGap} (h : SameGap p p') (mono : ℤ) :
    age p' mono = age p mono := by
  rw [GapDetector.age, h.detected, GapDetector.age]

/-! ### The fates of gaps -/

/-- The gap that a quote of its token leaves pending is the noted one, at a new time. -/
theorem checkQuote_keep {d : GapDetector} {quote : PolymarketQuote} {state : MarketState}
    {now : Moment} {p kept : PendingTradableGap}
    (h : d.checkQuote quote state now p = .keep kept) :
    d.timeoutReason p (quoteMonotonic quote now) = none ∧
      kept = { p with
        lastTradableTsNs := orNumber (quoteTimestamp quote) now.nowTs
        lastTradableMonotonicNs := quoteMonotonic quote now } := by
  rw [checkQuote] at h
  split at h
  · cases h
  rename_i hinTime
  split at h
  · cases h
  split at h
  · cases h
  split at h
  · cases h
  · cases h
    exact ⟨hinTime, rfl⟩

/-- The bodies that end gaps from outside read the settings only. -/
theorem expiryFate_congr {d d' : GapDetector} (h : d'.settings = d.settings)
    (state : MarketState) (now : Moment) (p : PendingTradableGap) :
    expiryFate state now d' p = expiryFate state now d p := by
  simp only [expiryFate, timeoutReason, staleDiagnostics, h]

theorem lifecycleFate_congr {d d' : GapDetector} (h : d'.settings = d.settings)
    (event : MarketLifecycleEvent) (state : MarketState) (now : Moment)
    (p : PendingTradableGap) :
    lifecycleFate event state now d' p = lifecycleFate event state now d p := by
  simp only [lifecycleFate, staleDiagnostics, h]

theorem expiryFate_cases {d : GapDetector} (state : MarketState) (now : Moment) (p : PendingTradableGap) :
    (age p now.nowMonotonicNs ≤ d.settings.maxPendingGapMs ∧
      expiryFate state now d p = .keep p) ∨
    ∃ ended, d.settings.maxPendingGapMs < age p now.nowMonotonicNs ∧
      expiryFate state now d p = .close ended ∧ Unmarked p ended ∧
      ended.rejectStage = .timeout ∧ ended.closeReason = some timeoutReasonText := by
  rw [expiryFate]
  split
  · rename_i hinTime
    exact .inl ⟨timeoutReason_eq_none_iff.mp hinTime, rfl⟩
  · rename_i reason htimeout
    obtain ⟨hlate, hreason⟩ := timeoutReason_eq_some_iff.mp htimeout
    subst hreason
    refine .inr ⟨_, hlate, rfl, ?_, rfl, rfl⟩
    cases state.polymarketQuotes.get? p.tokenId <;> exact ⟨⟨rfl, rfl, rfl, rfl, rfl⟩, rfl, rfl⟩

/-! ### Calls -/

/-- The quote a call brings, and its time by the monotonic clock. -/
def quoteOf : GapCall → Option (PolymarketQuote × ℤ)
  | .onMarketEvent (.polymarketQuote quote) _ nowTs clock =>
      some (quote, (momentOf (.polymarketQuote quote) nowTs clock).nowMonotonicNs)
  | _ => none

/-- A quote is as late as its event. -/
theorem quoteMonotonic_momentOf (quote : PolymarketQuote) (nowTs : Option ℤ) (clock : ℤ) :
    quoteMonotonic quote (momentOf (.polymarketQuote quote) nowTs clock) =
      (momentOf (.polymarketQuote quote) nowTs clock).nowMonotonicNs := by
  simp only [quoteMonotonic, momentOf, eventMonotonic]
  cases hrecv : quote.recvMonotonicNs with
  | none => rfl
  | some t =>
      by_cases hzero : t = 0 <;> simp [orNumber, orValue, hzero]

/-- Whether a lifecycle event ends the gaps of its market. -/
def endsGaps (d : GapDetector) (event : MarketLifecycleEvent) : Bool :=
  match event.lifecycleType, orValue event.newTickSize none with
  | .newMarket, _ => false
  | .tickSizeChange, some _ => d.settings.closePendingOnTickSizeChange
  | _, _ => true

theorem keyed_iff {d : GapDetector} :
    d.ledger.Keyed ↔ ∀ key p, d.pending.get? key = some p → p.key = key := by
  constructor
  · exact fun h key p hget => h (key, p) (Dict.mem_entries_iff.mpr hget)
  · exact fun h e he => h e.1 e.2 (Dict.mem_entries_iff.mp he)

theorem recordWarmupQuote_same (d : GapDetector) (quote : PolymarketQuote) (nowTs : ℤ) :
    (d.recordWarmupQuote quote nowTs).pending = d.pending ∧
      (d.recordWarmupQuote quote nowTs).completed = d.completed :=
  ⟨congrArg GapLedger.pending (recordWarmupQuote_ledger d quote nowTs),
    congrArg GapLedger.completed (recordWarmupQuote_ledger d quote nowTs)⟩

/-- The observations a call writes. -/
def writtenBy (d : GapDetector) (call : GapCall) : List TradableGapObservation :=
  (gapMachine.next d call).completed.drop d.completed.length

end GapDetector

end SomethingTrade
