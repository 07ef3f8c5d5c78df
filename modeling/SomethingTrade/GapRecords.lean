import SomethingTrade.GapWalks

/-!
# The Records of a Call

What a call writes, and the gaps it leaves, with all that they are made of: a rejection with the
quote it was made on, a gap that ends with the fate that closed it. Every account of the
observations of a run, and of the gaps that are pending in it, starts from here.

## Main results

* `gapMachine_account`: what a call writes and leaves.
* `recorded_of_mem`: the observations a call writes.
* `holds_invariant`: what a call keeps of the pending gaps holds of them in every run.
-/

namespace SomethingTrade

namespace GapDetector

/-! ### Detections -/

/-- A candidate was rejected in a market state at a moment. -/
inductive RejectedAt (d : GapDetector) (state : MarketState) (now : Moment) :
    TradableGapObservation → Prop
  | mk {d' : GapDetector} {m : BinanceMove} {market : PolymarketMarketMetadata}
      {tokenId : String} {quote : Option PolymarketQuote} {reason : String}
      (same : SameMarkets d d') (ofState : m.state = state) (ofNow : m.now = now)
      (follows : market ∈ (d.marketsBySymbol.get? m.symbol).getD [])
      (rejects : d'.Rejects m market tokenId quote reason) :
      RejectedAt d state now (d'.preEntryObservation m market tokenId quote reason
        (d'.bookReadinessGate market m.state m.now.nowTs))

/-- A gap was opened in a market state at a moment. -/
inductive OpenedAt (d : GapDetector) (state : MarketState) (now : Moment) :
    PendingTradableGap → Prop
  | mk {d' : GapDetector} {m : BinanceMove} {market : PolymarketMarketMetadata}
      {tokenId : String} {quote : PolymarketQuote} {ask askSize : ℚ}
      (same : SameMarkets d d') (ofState : m.state = state) (ofNow : m.now = now)
      (follows : market ∈ (d.marketsBySymbol.get? m.symbol).getD [])
      (token : market.tokenForDirection m.direction = some tokenId)
      (read : state.polymarketQuotes.get? tokenId = some quote)
      (fills : d'.CanFill market quote m.now) :
      OpenedAt d state now (d'.pendingGap m market tokenId quote ask askSize
        (d'.bookReadinessGate market m.state m.now.nowTs))

section

variable {d d' : GapDetector} {state : MarketState} {now : Moment}

theorem RejectedAt.of_same (hsame : SameMarkets d d') {o : TradableGapObservation}
    (h : RejectedAt d' state now o) : RejectedAt d state now o := by
  obtain ⟨same, ofState, ofNow, follows, rejects⟩ := h
  exact .mk (hsame.trans same) ofState ofNow (hsame.bySymbol ▸ follows) rejects

theorem OpenedAt.of_same (hsame : SameMarkets d d') {p : PendingTradableGap}
    (h : OpenedAt d' state now p) : OpenedAt d state now p := by
  obtain ⟨same, ofState, ofNow, follows, token, read, fills⟩ := h
  exact .mk (hsame.trans same) ofState ofNow (hsame.bySymbol ▸ follows) token read fills

end

/-- What a detection writes, and the gaps it leaves. -/
structure DetectionAccount (d : GapDetector) (state : MarketState) (now : Moment)
    (r : GapDetector × List TradableGapObservation) : Prop where
  same : SameMarkets d r.1
  completed : r.1.completed = d.completed ++ r.2
  rejected : ∀ o ∈ r.2, RejectedAt d state now o
  pending : ∀ key, r.1.pending.get? key = d.pending.get? key ∨
    d.pending.get? key = none ∧
      ∃ p, r.1.pending.get? key = some p ∧ p.key = key ∧ OpenedAt d state now p

section

variable {d d' d'' : GapDetector} {state : MarketState} {now : Moment}

theorem DetectionAccount.quiet (hsame : SameMarkets d d')
    (hcompleted : d'.completed = d.completed) (hpending : d'.pending = d.pending) :
    DetectionAccount d state now (d', []) where
  same := hsame
  completed := hcompleted.trans (List.append_nil _).symm
  rejected := by simp
  pending key := .inl (congrArg (·.get? key) hpending)

theorem DetectionAccount.trans {a b : List TradableGapObservation}
    (h : DetectionAccount d state now (d', a)) (h' : DetectionAccount d' state now (d'', b)) :
    DetectionAccount d state now (d'', a ++ b) where
  same := h.same.trans h'.same
  completed := h'.completed.trans (by rw [h.completed, List.append_assoc])
  rejected o ho := (List.mem_append.mp ho).elim (h.rejected o)
    fun ho => (h'.rejected o ho).of_same h.same
  pending key := by
    rcases h'.pending key with heq | ⟨hnone, p, hsome, hkey, hopened⟩
    · rcases h.pending key with heq' | ⟨hnone, p, hsome, hopened⟩
      · exact .inl (heq.trans heq')
      · exact .inr ⟨hnone, p, heq.trans hsome, hopened⟩
    · rcases h.pending key with heq' | ⟨-, p', hsome', -⟩
      · exact .inr ⟨heq'.symm.trans hnone, p, hsome, hkey, hopened.of_same h.same⟩
      · rw [hsome'] at hnone
        cases hnone

/-- A rejection writes its observation, unless it cools down. -/
theorem rejectCandidate_cases (d : GapDetector) (m : BinanceMove)
    (market : PolymarketMarketMetadata) (tokenId : String) (quote : Option PolymarketQuote)
    (reason : String) (gate : BookReadinessGate) :
    (d.rejectCandidate m market tokenId quote reason gate).1.pending = d.pending ∧
      (d.rejectCandidate m market tokenId quote reason gate).1.completed =
        d.completed ++ (d.rejectCandidate m market tokenId quote reason gate).2 ∧
      ∀ o ∈ (d.rejectCandidate m market tokenId quote reason gate).2,
        o = d.preEntryObservation m market tokenId quote reason gate := by
  rw [rejectCandidate]
  generalize d.preEntryObservation m market tokenId quote reason gate = observation
  simp only [recordPreEntryObservation]
  split
  · exact ⟨rfl, (List.append_nil _).symm, fun o ho => absurd ho List.not_mem_nil⟩
  · have hledger (d' : GapDetector) := complete_ledger d' observation .preEntry
    refine ⟨?_, ?_, fun o ho => List.mem_singleton.mp ho⟩
    · exact congrArg GapLedger.pending (hledger _)
    · exact congrArg GapLedger.completed (hledger _)

theorem Settles.account {m : BinanceMove} {market : PolymarketMarketMetadata}
    {r : GapDetector × List TradableGapObservation}
    (h : d.Settles m market (d.bookReadinessGate market m.state m.now.nowTs) r)
    (hmarket : market ∈ (d.marketsBySymbol.get? m.symbol).getD []) :
    DetectionAccount d m.state m.now r := by
  cases h with
  | rejected rejects =>
      rename_i tokenId quote reason
      obtain ⟨hpending, hcompleted, hwritten⟩ := rejectCandidate_cases d m market tokenId
        quote reason (d.bookReadinessGate market m.state m.now.nowTs)
      refine ⟨sameMarkets_rejectCandidate .., hcompleted, fun o ho => ?_, fun key => .inl ?_⟩
      · rw [hwritten o ho]
        exact .mk (.refl d) rfl rfl hmarket rejects
      · exact congrArg (·.get? key) hpending
  | duplicate => exact .quiet ⟨rfl, rfl, rfl, rfl, rfl⟩ rfl rfl
  | opened token free read fills =>
      refine ⟨⟨rfl, rfl, rfl, rfl, rfl⟩, (List.append_nil _).symm, by simp, fun key => ?_⟩
      rw [openPending, Dict.get?_set]
      split
      · rename_i hkey
        subst hkey
        exact .inr ⟨free, _, rfl, rfl, .mk (.refl d) rfl rfl hmarket token read fills⟩
      · exact .inl rfl

theorem detectInMarket_account {m : BinanceMove} {acc : GapDetector × List TradableGapObservation}
    (hacc : DetectionAccount d m.state m.now acc) {market : PolymarketMarketMetadata}
    (hmarket : market ∈ (d.marketsBySymbol.get? m.symbol).getD []) :
    DetectionAccount d m.state m.now (detectInMarket m acc market) := by
  rw [detectInMarket]
  dsimp only
  split
  · exact hacc
  split
  · have h : DetectionAccount d m.state m.now ({ acc.1 with
        bookWarmupSuppressed := acc.1.bookWarmupSuppressed + 1 }, acc.2 ++ []) :=
      hacc.trans (.quiet ⟨rfl, rfl, rfl, rfl, rfl⟩ rfl rfl)
    rwa [List.append_nil] at h
  · have hcounted : DetectionAccount d m.state m.now
        (acc.1.countCandidate m market, acc.2 ++ []) :=
      hacc.trans (.quiet ⟨rfl, rfl, rfl, rfl, rfl⟩ rfl rfl)
    rw [List.append_nil] at hcounted
    exact hcounted.trans ((settleCandidate_settles (acc.1.countCandidate m market) m market
      _).account (hcounted.same.bySymbol ▸ hmarket))

theorem detectBinanceMove_account (d : GapDetector) (symbol : String) (state : MarketState)
    (now : Moment) (binanceEventTs : Option ℤ) :
    DetectionAccount d state now (d.detectBinanceMove symbol state now binanceEventTs) := by
  refine detectBinanceMove_rule_at d symbol state now binanceEventTs
    (.quiet (.refl d) rfl rfl) (.quiet ⟨rfl, rfl, rfl, rfl, rfl⟩ rfl rfl)
    (.quiet ⟨rfl, rfl, rfl, rfl, rfl⟩ rfl rfl) ?_
  rintro m rfl rfl rfl market hmarket acc hacc
  exact detectInMarket_account hacc hmarket

end

/-! ### Calls -/

/-- A gap that is pending after a call, or when the call looks at the time limits. -/
inductive Holds (d : GapDetector) : GapCall → PendingTradableGap → Prop
  | pending {call : GapCall} {p : PendingTradableGap} (was : d.pending.get? p.key = some p)
      (unquoted : ∀ quote mono, quoteOf call = some (quote, mono) → p.tokenId ≠ quote.tokenId) :
      Holds d call p
  | noted {quote : PolymarketQuote} {state : MarketState} {nowTs : Option ℤ} {clock : ℤ}
      {p kept : PendingTradableGap} (was : d.pending.get? p.key = some p)
      (token : p.tokenId = quote.tokenId)
      (keeps : quoteFate quote state (momentOf (.polymarketQuote quote) nowTs clock) d p =
        .keep kept) :
      Holds d (.onMarketEvent (.polymarketQuote quote) state nowTs clock) kept
  | opened {event : MarketEvent} {state : MarketState} {nowTs : Option ℤ} {clock : ℤ}
      {p : PendingTradableGap} (noQuote : quoteOf (.onMarketEvent event state nowTs clock) = none)
      (free : d.pending.get? p.key = none)
      (opens : OpenedAt d state (momentOf event nowTs clock) p) :
      Holds d (.onMarketEvent event state nowTs clock) p
  | refreshed {markets : List PolymarketMarketMetadata} {now : Moment} {p : PendingTradableGap}
      {market : PolymarketMarketMetadata} (was : d.pending.get? p.key = some p)
      (sameId : market.marketId = p.market.marketId) :
      Holds d (.updateMarkets markets now) { p with market := market }

/-- A gap as a call closes it. -/
inductive Closes (d : GapDetector) : GapCall → PendingTradableGap → Prop
  | quote {quote : PolymarketQuote} {state : MarketState} {nowTs : Option ℤ} {clock : ℤ}
      {p ended : PendingTradableGap} (was : d.pending.get? p.key = some p)
      (closes : quoteFate quote state (momentOf (.polymarketQuote quote) nowTs clock) d p =
        .close ended) :
      Closes d (.onMarketEvent (.polymarketQuote quote) state nowTs clock) ended
  | expired {event : MarketEvent} {state : MarketState} {nowTs : Option ℤ} {clock : ℤ}
      {p ended : PendingTradableGap}
      (held : Holds d (.onMarketEvent event state nowTs clock) p)
      (closes : expiryFate state (momentOf event nowTs clock) d p = .close ended) :
      Closes d (.onMarketEvent event state nowTs clock) ended
  | lifecycle {event : MarketLifecycleEvent} {state : MarketState} {nowTs : Option ℤ}
      {clock : ℤ} {p ended : PendingTradableGap} (was : d.pending.get? p.key = some p)
      (closes : lifecycleFate event state (momentOf (.marketLifecycle event) nowTs clock) d p =
        .close ended)
      (ends : d.endsGaps event = true) :
      Closes d (.onMarketEvent (.marketLifecycle event) state nowTs clock) ended
  | refreshed {markets : List PolymarketMarketMetadata} {now : Moment}
      {activeById : Dict String PolymarketMarketMetadata} {p ended : PendingTradableGap}
      (was : d.pending.get? p.key = some p)
      (closes : refreshFate activeById now d p = .close ended) :
      Closes d (.updateMarkets markets now) ended

/-- An observation that a call writes, with what it is made of. -/
inductive Recorded (d : GapDetector) : GapCall → TradableGapObservation → Prop
  | rejected {event : MarketEvent} {state : MarketState} {nowTs : Option ℤ} {clock : ℤ}
      {o : TradableGapObservation}
      (noQuote : quoteOf (.onMarketEvent event state nowTs clock) = none)
      (rejected : RejectedAt d state (momentOf event nowTs clock) o) :
      Recorded d (.onMarketEvent event state nowTs clock) o
  | closed {call : GapCall} {d' : GapDetector} {ended : PendingTradableGap}
      (closes : Closes d call ended) : Recorded d call (d'.observationFromPending ended)

/-- What a part of a call writes, and the gaps it leaves. -/
structure Account (d : GapDetector) (call : GapCall)
    (r : GapDetector × List TradableGapObservation) : Prop where
  settings : r.1.settings = d.settings
  completed : r.1.completed = d.completed ++ r.2
  written : ∀ o ∈ r.2, Recorded d call o
  held : ∀ key p', r.1.pending.get? key = some p' → p'.key = key ∧ Holds d call p'

/-- What a call closes is not rejected at its detection. -/
theorem Closes.stage_ne {d : GapDetector} {call : GapCall} {ended : PendingTradableGap}
    (h : Closes d call ended) : ended.rejectStage ≠ .preEntry := by
  intro hstage
  cases h with
  | quote was closes =>
      rw [quoteFate_eq] at closes
      split at closes
      · cases closes
      rw [checkQuote] at closes
      split at closes
      · cases closes
        cases hstage
      split at closes
      · cases closes
        cases hstage
      split at closes
      · cases closes
        cases hstage
      split at closes <;> cases closes
      cases hstage
  | expired held closes =>
      rw [expiryFate] at closes
      split at closes <;> cases closes
      cases hstage
  | lifecycle was closes ends =>
      rw [lifecycleFate] at closes
      dsimp only at closes
      split at closes <;> cases closes
      cases hstage
  | refreshed was closes =>
      rw [refreshFate] at closes
      split at closes <;> cases closes
      cases hstage

section

variable {d : GapDetector} (hkeyed : d.ledger.Keyed)

include hkeyed

theorem holds_self {call : GapCall} (hcall : quoteOf call = none) {key : GapKey}
    {p : PendingTradableGap} (hget : d.pending.get? key = some p) :
    p.key = key ∧ Holds d call p := by
  obtain rfl := keyed_iff.mp hkeyed key p hget
  refine ⟨rfl, .pending hget fun quote mono hquote => ?_⟩
  rw [hcall] at hquote
  cases hquote

theorem quiet_account {call : GapCall} (hcall : quoteOf call = none) {d' : GapDetector}
    (hsettings : d'.settings = d.settings) (hcompleted : d'.completed = d.completed)
    (hpending : d'.pending = d.pending) :
    Account d call (d', []) where
  settings := hsettings
  completed := hcompleted.trans (List.append_nil _).symm
  written := by simp
  held key p' hget' := holds_self hkeyed hcall (hpending ▸ hget')

/-- A walk whose body closes and keeps gaps as the call does. -/
theorem walked_account {call : GapCall} {d' : GapDetector}
    (hsettings : d'.settings = d.settings) (hcompleted : d'.completed = d.completed)
    (hpending : d'.pending = d.pending)
    {body : GapDetector → PendingTradableGap → GapFate} (hbody : ReadsMarkets body)
    (hclose : ∀ p ended, d.pending.get? p.key = some p → body d' p = .close ended →
      Closes d call ended)
    (hkeep : ∀ p kept, d.pending.get? p.key = some p → body d' p = .keep kept →
      kept.key = p.key ∧ Holds d call kept) :
    Account d call (d'.sweepPending body) := by
  have hwalk := sweepPending_walked hbody d'
  refine ⟨hwalk.same.settings.trans hsettings, ?_, ?_, ?_⟩
  · rw [hwalk.completed, hcompleted]
  · intro o ho
    obtain ⟨key, p, ended, hget, hended, rfl⟩ := hwalk.closed o ho
    rw [hpending] at hget
    obtain rfl := keyed_iff.mp hkeyed key p hget
    exact .closed (hclose p ended hget hended)
  · intro key p' hget'
    rw [hwalk.kept, hpending, Option.bind_eq_some_iff] at hget'
    obtain ⟨p, hget, hkept⟩ := hget'
    obtain rfl := keyed_iff.mp hkeyed key p hget
    cases hfate : body d' p with
    | keep kept =>
        rw [hfate] at hkept
        cases hkept
        exact hkeep p p' hget hfate
    | close ended =>
        rw [hfate] at hkept
        cases hkept

theorem handlePolymarketQuote_account (quote : PolymarketQuote) (state : MarketState)
    (nowTs : Option ℤ) (clock : ℤ) :
    Account d (.onMarketEvent (.polymarketQuote quote) state nowTs clock)
      (d.handleEvent (.polymarketQuote quote) state
        (momentOf (.polymarketQuote quote) nowTs clock)) := by
  obtain ⟨hpending, hcompleted⟩ := recordWarmupQuote_same d quote
    (momentOf (.polymarketQuote quote) nowTs clock).nowTs
  have hsame := sameMarkets_recordWarmupQuote d quote
    (momentOf (.polymarketQuote quote) nowTs clock).nowTs
  have hreads := quoteFate_readsMarkets quote state (momentOf (.polymarketQuote quote) nowTs clock)
  rw [handleEvent, handlePolymarketQuote]
  refine walked_account hkeyed hsame.settings hcompleted hpending hreads
    (fun p ended hget hclose => ?_) fun p kept hget hkeep => ?_
  · rw [hreads d _ p hsame] at hclose
    exact .quote hget hclose
  · rw [hreads d _ p hsame] at hkeep
    by_cases htoken : p.tokenId = quote.tokenId
    · refine ⟨?_, .noted hget htoken hkeep⟩
      rw [quoteFate_eq, if_neg (not_not.mpr htoken)] at hkeep
      obtain ⟨-, rfl⟩ := checkQuote_keep hkeep
      exact (noteQuote_noted d quote state _ p).same.key
    · rw [quoteFate_eq, if_pos htoken] at hkeep
      cases hkeep
      refine ⟨rfl, .pending hget ?_⟩
      rintro quote' mono hquote
      obtain ⟨rfl, -⟩ := Prod.mk.inj (Option.some.inj hquote)
      exact htoken

theorem DetectionAccount.account {event : MarketEvent} {state : MarketState}
    {nowTs : Option ℤ} {clock : ℤ}
    (hcall : quoteOf (.onMarketEvent event state nowTs clock) = none)
    {r : GapDetector × List TradableGapObservation}
    (h : DetectionAccount d state (momentOf event nowTs clock) r) :
    Account d (.onMarketEvent event state nowTs clock) r where
  settings := h.same.settings
  completed := h.completed
  written o ho := .rejected hcall (h.rejected o ho)
  held := by
    intro key p' hget'
    rcases h.pending key with heq | ⟨hnone, p, hsome, hkey, hopened⟩
    · exact holds_self hkeyed hcall (heq.symm.trans hget')
    · obtain rfl := Option.some.inj (hsome.symm.trans hget')
      exact ⟨hkey, .opened hcall (hkey ▸ hnone) hopened⟩

theorem handleLifecycle_account (event : MarketLifecycleEvent) (state : MarketState)
    (nowTs : Option ℤ) (clock : ℤ) :
    Account d (.onMarketEvent (.marketLifecycle event) state nowTs clock)
      (d.handleLifecycle event state (momentOf (.marketLifecycle event) nowTs clock)) := by
  have hwalk (d' : GapDetector) (hsettings : d'.settings = d.settings)
      (hcompleted : d'.completed = d.completed) (hpending : d'.pending = d.pending)
      (hends : d.endsGaps event = true) :
      Account d (.onMarketEvent (.marketLifecycle event) state nowTs clock)
        (d'.sweepPending (lifecycleFate event state
          (momentOf (.marketLifecycle event) nowTs clock))) := by
    refine walked_account hkeyed hsettings hcompleted hpending
      (lifecycleFate_readsMarkets event state _) (fun p ended hget hclose => ?_)
      fun p kept hget hkeep => ?_
    · rw [lifecycleFate_congr hsettings] at hclose
      exact .lifecycle hget hclose hends
    · rw [lifecycleFate] at hkeep
      dsimp only at hkeep
      split at hkeep
      · cases hkeep
        exact holds_self hkeyed rfl hget
      · cases hkeep
  rw [handleLifecycle]
  split
  · exact quiet_account hkeyed rfl rfl rfl rfl
  rename_i hnew
  split
  · rename_i tickSize htype htick
    dsimp only
    split
    · exact quiet_account hkeyed rfl rfl rfl rfl
    · rename_i hcloses
      exact hwalk _ rfl rfl rfl (by simpa [endsGaps, htype, htick] using hcloses)
  · rename_i hother
    refine hwalk _ rfl rfl rfl ?_
    rw [endsGaps]
    split
    · rename_i htype
      exact absurd htype hnew
    · rename_i tickSize htype htick
      exact absurd htick (hother tickSize htype)
    · rfl

theorem handleEvent_account (event : MarketEvent) (state : MarketState) (nowTs : Option ℤ)
    (clock : ℤ) : Account d (.onMarketEvent event state nowTs clock)
      (d.handleEvent event state (momentOf event nowTs clock)) := by
  cases event with
  | marketTick e =>
      rw [handleEvent]
      split
      · exact (detectBinanceMove_account ..).account hkeyed rfl
      · exact quiet_account hkeyed rfl rfl rfl rfl
  | orderBookTop e =>
      rw [handleEvent]
      split
      · exact (detectBinanceMove_account ..).account hkeyed rfl
      · exact quiet_account hkeyed rfl rfl rfl rfl
  | depthUpdate e => exact quiet_account hkeyed rfl rfl rfl rfl
  | polymarketQuote quote => exact handlePolymarketQuote_account hkeyed quote state nowTs clock
  | marketLifecycle e => exact handleLifecycle_account hkeyed e state nowTs clock

omit hkeyed in
/-- **The time limit** closes the gaps the call holds that are too old, and no others. -/
theorem Account.expired {event : MarketEvent} {state : MarketState} {nowTs : Option ℤ}
    {clock : ℤ} {r : GapDetector × List TradableGapObservation}
    (h : Account d (.onMarketEvent event state nowTs clock) r) :
    let swept := r.1.closeExpiredPending state (momentOf event nowTs clock)
    Account d (.onMarketEvent event state nowTs clock) (swept.1, r.2 ++ swept.2) ∧
      ∀ key p, swept.1.pending.get? key = some p →
        age p (momentOf event nowTs clock).nowMonotonicNs ≤ d.settings.maxPendingGapMs := by
  have hwalk := sweepPending_walked
    (expiryFate_readsMarkets state (momentOf event nowTs clock)) r.1
  have hfate (p : PendingTradableGap) :
      expiryFate state (momentOf event nowTs clock) r.1 p =
        expiryFate state (momentOf event nowTs clock) d p := expiryFate_congr h.settings _ _ p
  have hkept (key : GapKey) (p' : PendingTradableGap)
      (hget' : (r.1.closeExpiredPending state
        (momentOf event nowTs clock)).1.pending.get? key = some p') :
      r.1.pending.get? key = some p' ∧
        age p' (momentOf event nowTs clock).nowMonotonicNs ≤ d.settings.maxPendingGapMs := by
    rw [closeExpiredPending, hwalk.kept, Option.bind_eq_some_iff] at hget'
    obtain ⟨p, hget, hkept⟩ := hget'
    rw [hfate] at hkept
    rcases expiryFate_cases (d := d) state (momentOf event nowTs clock) p with
      ⟨hinTime, hkeep⟩ | ⟨ended, -, hclose, -⟩
    · rw [hkeep] at hkept
      cases hkept
      exact ⟨hget, hinTime⟩
    · rw [hclose] at hkept
      cases hkept
  refine ⟨⟨hwalk.same.settings.trans h.settings, ?_, fun o ho => ?_, fun key p' hget' =>
    h.held key p' (hkept key p' hget').1⟩, fun key p hget => (hkept key p hget).2⟩
  · rw [closeExpiredPending, hwalk.completed, h.completed, List.append_assoc]
  · rcases List.mem_append.mp ho with ho | ho
    · exact h.written o ho
    · obtain ⟨key, p, ended, hget, hclose, rfl⟩ := hwalk.closed o ho
      rw [hfate] at hclose
      exact .closed (.expired (h.held key p hget).2 hclose)

/-- **After an event that is no lifecycle event** no gap is pending beyond its time. -/
theorem onMarketEvent_inTime {event : MarketEvent} (hevent : isLifecycle event = false)
    (state : MarketState) (nowTs : Option ℤ) (clock : ℤ) {key : GapKey}
    {p : PendingTradableGap}
    (hget : (d.onMarketEvent event state nowTs clock).1.pending.get? key = some p) :
    age p (momentOf event nowTs clock).nowMonotonicNs ≤ d.settings.maxPendingGapMs := by
  have hrun : (d.onMarketEvent event state nowTs clock).1 =
      ((d.handleEvent event state (momentOf event nowTs clock)).1.closeExpiredPending state
        (momentOf event nowTs clock)).1 := by
    simp only [onMarketEvent, hevent]
    rfl
  rw [hrun] at hget
  exact (handleEvent_account hkeyed event state nowTs clock).expired.2 key p hget

theorem updateMarkets_account (markets : List PolymarketMarketMetadata) (now : Moment) :
    ∃ written, Account d (.updateMarkets markets now) (d.updateMarkets markets now, written) := by
  have hactive : ∀ e ∈ (Dict.ofList (markets.map fun market =>
      (market.marketId, market))).entries, e.2.marketId = e.1 := by
    refine Dict.forall_entries_ofList
      (P := fun (k : String) (m : PolymarketMarketMetadata) => m.marketId = k) ?_
    intro e he
    obtain ⟨market, -, rfl⟩ := List.mem_map.mp he
    rfl
  have hswept : Account d (.updateMarkets markets now) (d.sweepPending (refreshFate
      (Dict.ofList (markets.map fun market => (market.marketId, market))) now)) := by
    refine walked_account hkeyed rfl rfl rfl (refreshFate_readsMarkets _ now)
      (fun p ended hget hclose => .refreshed hget hclose) fun p kept hget hkeep => ?_
    rw [refreshFate] at hkeep
    split at hkeep
    · rename_i replacement hreplacement
      cases hkeep
      have hid : replacement.marketId = p.market.marketId :=
        hactive (_, replacement) (Dict.mem_entries_iff.mpr hreplacement)
      refine ⟨?_, .refreshed hget hid⟩
      simp only [PendingTradableGap.key, hid]
    · cases hkeep
  exact ⟨_, hswept.settings, hswept.completed, hswept.written, hswept.held⟩

/-- **What a call writes**, and the gaps it leaves. -/
theorem gapMachine_account (call : GapCall) :
    ∃ written, Account d call (gapMachine.next d call, written) := by
  cases call with
  | onMarketEvent event state nowTs clock =>
      have hhandled := handleEvent_account hkeyed event state nowTs clock
      have hstep : ∃ written, Account d (.onMarketEvent event state nowTs clock)
          ((d.onMarketEvent event state nowTs clock).1, written) := by
        rw [onMarketEvent]
        split
        · exact ⟨_, hhandled⟩
        · exact ⟨_, hhandled.expired.1⟩
      exact hstep
  | updateMarkets markets now => exact updateMarkets_account hkeyed markets now
  | drainMarketUpdateObservations => exact ⟨[], quiet_account hkeyed rfl rfl rfl rfl⟩

/-- **The observations a call writes.** -/
theorem recorded_of_mem {call : GapCall} {o : TradableGapObservation}
    (ho : o ∈ d.writtenBy call) : Recorded d call o := by
  obtain ⟨written, haccount⟩ := gapMachine_account hkeyed call
  rw [writtenBy, haccount.completed, List.drop_left] at ho
  exact haccount.written o ho

/-- The gaps a call leaves. -/
theorem holds_of_next {call : GapCall} {key : GapKey} {p : PendingTradableGap}
    (hget : (gapMachine.next d call).pending.get? key = some p) :
    p.key = key ∧ Holds d call p := by
  obtain ⟨written, haccount⟩ := gapMachine_account hkeyed call
  exact haccount.held key p hget

end

/-! ### Runs -/

/-- A run keeps the settings, and every pending gap under its key. -/
theorem keyed_exec (c : GapDetectorSettings) (markets : List PolymarketMarketMetadata)
    (startedNs : ℤ) (calls : List GapCall) :
    (gapMachine.exec (.init c markets startedNs) calls).settings = c ∧
      (gapMachine.exec (.init c markets startedNs) calls).ledger.Keyed := by
  have hstart : (GapDetector.init c markets startedNs).ledger.Keyed := by
    intro e he
    cases he
  refine gapMachine.exec_invariant
    (I := fun d : GapDetector => d.settings = c ∧ d.ledger.Keyed) ?_ ⟨rfl, hstart⟩ calls
  rintro d call ⟨hsettings, hkeyed⟩
  obtain ⟨written, haccount⟩ := gapMachine_account hkeyed call
  refine ⟨haccount.settings.trans hsettings, keyed_iff.mpr fun key p hget => ?_⟩
  exact (haccount.held key p hget).1

/-- **The rule for pending gaps**: what every call keeps of the pending gaps, when it meets a
condition, holds of them after every run of such calls. -/
theorem holds_invariant {C : GapCall → Prop} {P : PendingTradableGap → Prop}
    (hstep : ∀ (d : GapDetector) (call : GapCall), C call →
      (∀ key p, d.pending.get? key = some p → P p) → ∀ p, Holds d call p → P p)
    (c : GapDetectorSettings) (markets : List PolymarketMarketMetadata) (startedNs : ℤ)
    {calls : List GapCall} (hcalls : ∀ call ∈ calls, C call) :
    ∀ key p, (gapMachine.exec (.init c markets startedNs) calls).pending.get? key = some p →
      P p := by
  induction calls using List.reverseRecOn with
  | nil =>
      intro key p hget
      cases hget
  | append_singleton calls call ih =>
      intro key p hget
      rw [Machine.exec_append] at hget
      have hbefore := ih fun call hcall => hcalls call (List.mem_append_left _ hcall)
      exact hstep _ call (hcalls call (by simp)) hbefore p
        (holds_of_next (keyed_exec c markets startedNs calls).2 hget).2

end GapDetector

end SomethingTrade
