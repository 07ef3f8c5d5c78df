import SomethingTrade.GapRecords
import SomethingTrade.MidRepricing

/-!
# For How Long a Gap Could Be Traded

The window of an observation ends with the first moment at which the gap could not be traded, or
was sold, and otherwise with the current quote. A gap that times out has neither, and the quote
on which it times out is noted as the current one before the time limit is looked at: a quote
that comes too late makes the window longer than the limit.

## Main results

* `watched_exec`: a pending gap has a current quote and no end.
* `lastTradable_exec`: a pending gap knows the last quote after which it could be traded.
* `timeout_window_iff`: when the window of a timeout is right.
* `late_quote_extends_window`: a late quote that makes it too long.
-/

namespace SomethingTrade

namespace GapDetector

/-! ### Runs of quotes with times -/

/-- A quote carries a time of the monotonic clock; a reading of zero counts as none. -/
def hasTime (quote : PolymarketQuote) : Bool := quote.recvMonotonicNs.any (· ≠ 0)

/-- The quotes that a call brings, in its event and in the market state, carry times. -/
def CarriesTimes : GapCall → Prop
  | .onMarketEvent event state _ _ =>
      (match event with
        | .polymarketQuote quote => hasTime quote = true
        | _ => True) ∧ ∀ e ∈ state.polymarketQuotes.entries, hasTime e.2 = true
  | _ => True

/-- A quote that carries a time is taken at that time. -/
theorem quoteMonotonic_of_hasTime {quote : PolymarketQuote} (h : hasTime quote = true)
    (now : Moment) :
    quote.recvMonotonicNs = some (quoteMonotonic quote now) ∧ quoteMonotonic quote now ≠ 0 := by
  rw [hasTime, Option.any_eq_true] at h
  obtain ⟨t, ht, hne⟩ := h
  have hzero : t ≠ 0 := of_decide_eq_true hne
  simp [quoteMonotonic, ht, orNumber, hzero]

/-! ### The current quote -/

/-- A gap that is watched has a current quote, and no end. -/
structure WatchedGap (p : PendingTradableGap) : Prop where
  notEnded : p.firstNonTradableMonotonicNs = none
  notRepriced : p.firstExecutableRepricedMonotonicNs = none
  current : ∃ t, t ≠ 0 ∧ p.currentQuoteMonotonicNs = some t

/-- The window of a gap without an end goes up to the current quote. -/
theorem tradableWindowMs_eq {p : PendingTradableGap}
    (hended : p.firstNonTradableMonotonicNs = none)
    (hrepriced : p.firstExecutableRepricedMonotonicNs = none) {t : ℤ} (hzero : t ≠ 0)
    (hcurrent : p.currentQuoteMonotonicNs = some t) : p.tradableWindowMs = age p t := by
  simp [PendingTradableGap.tradableWindowMs, orValue, durationMs, age, hended, hrepriced,
    hcurrent, hzero]

/-- A note of a quote changes neither the end of a gap nor when it could be traded. -/
theorem noteQuote_times (d : GapDetector) (quote : PolymarketQuote) (state : MarketState)
    (now : Moment) (p : PendingTradableGap) :
    (d.noteQuote quote state now p).firstNonTradableMonotonicNs = p.firstNonTradableMonotonicNs ∧
      (d.noteQuote quote state now p).firstExecutableRepricedMonotonicNs =
        p.firstExecutableRepricedMonotonicNs ∧
      (d.noteQuote quote state now p).currentQuoteMonotonicNs =
        some (quoteMonotonic quote now) := by
  simp only [noteQuote, markMidRepricing]
  split
  · exact ⟨rfl, rfl, rfl⟩
  split
  · split <;> exact ⟨rfl, rfl, rfl⟩
  · exact ⟨rfl, rfl, rfl⟩

/-- The gap that stays pending on a quote of its token. -/
theorem quoteFate_keep {d : GapDetector} {quote : PolymarketQuote} {state : MarketState}
    {now : Moment} {p kept : PendingTradableGap} (htoken : p.tokenId = quote.tokenId)
    (h : quoteFate quote state now d p = .keep kept) :
    age p (quoteMonotonic quote now) ≤ d.settings.maxPendingGapMs ∧ SameGap p kept ∧
      kept.firstNonTradableMonotonicNs = p.firstNonTradableMonotonicNs ∧
      kept.firstExecutableRepricedMonotonicNs = p.firstExecutableRepricedMonotonicNs ∧
      kept.currentQuoteMonotonicNs = some (quoteMonotonic quote now) ∧
      kept.lastTradableMonotonicNs = quoteMonotonic quote now := by
  rw [quoteFate_eq, if_neg (not_not.mpr htoken)] at h
  obtain ⟨hinTime, rfl⟩ := checkQuote_keep h
  have hsame := (noteQuote_noted d quote state now p).same
  obtain ⟨hended, hrepriced, hcurrent⟩ := noteQuote_times d quote state now p
  rw [timeoutReason_eq_none_iff, hsame.age] at hinTime
  exact ⟨hinTime, ⟨hsame.key, hsame.tokenId, hsame.detected, hsame.beforeMid, hsame.entryAsk⟩,
    hended, hrepriced, hcurrent, rfl⟩

/-- **In every run** of quotes with times a pending gap is watched. -/
theorem watched_exec (c : GapDetectorSettings) (markets : List PolymarketMarketMetadata)
    (startedNs : ℤ) {calls : List GapCall} (hcalls : ∀ call ∈ calls, CarriesTimes call) :
    ∀ key p, (gapMachine.exec (.init c markets startedNs) calls).pending.get? key = some p →
      WatchedGap p := by
  refine holds_invariant (fun d call hcall hbefore p hheld => ?_) c markets startedNs hcalls
  cases hheld with
  | pending was unquoted => exact hbefore _ _ was
  | noted was token keeps =>
      obtain ⟨hended, hrepriced, -⟩ := hbefore _ _ was
      obtain ⟨-, -, hended', hrepriced', hcurrent, -⟩ := quoteFate_keep token keeps
      exact ⟨hended'.trans hended, hrepriced'.trans hrepriced, _,
        (quoteMonotonic_of_hasTime hcall.1 _).2, hcurrent⟩
  | opened noQuote free opens =>
      obtain ⟨same, ofState, ofNow, follows, token, read, fills⟩ := opens
      have htime := hcall.2 _ (Dict.mem_entries_iff.mpr read)
      exact ⟨rfl, rfl, _, (quoteMonotonic_of_hasTime htime _).2, rfl⟩
  | refreshed was sameId =>
      obtain ⟨hended, hrepriced, hcurrent⟩ := hbefore _ _ was
      exact ⟨hended, hrepriced, hcurrent⟩

/-! ### The last quote -/

/-- A call brings a quote of the token of the gap under a key, received at a time. -/
def QuotesAt (d : GapDetector) (key : GapKey) (call : GapCall) (t : ℤ) : Prop :=
  ∃ p quote, d.pending.get? key = some p ∧ quoteOf call = some (quote, t) ∧
    p.tokenId = quote.tokenId

/-- In a run, the last quote of the token of a gap was received at a time while the gap was
pending, and left it pending: the gap could still be traded. -/
def LastTradableAt (start : GapDetector) (calls : List GapCall) (key : GapKey) (t : ℤ) : Prop :=
  ∃ pre call rest, calls = pre ++ call :: rest ∧
    QuotesAt (gapMachine.exec start pre) key call t ∧
    gapMachine.StepsMeet (fun d i => (d.pending.get? key).isSome ∧ ∀ t', ¬ QuotesAt d key i t')
      (gapMachine.exec start (pre ++ [call])) rest

/-- One call more: it brings the last quote, or leaves the last one as it was. -/
theorem lastTradableAt_concat {start : GapDetector} {calls : List GapCall} {call : GapCall}
    {key : GapKey} {t : ℤ} (h : LastTradableAt start (calls ++ [call]) key t) :
    QuotesAt (gapMachine.exec start calls) key call t ∨
      ((gapMachine.exec start calls).pending.get? key).isSome ∧
        (∀ t', ¬ QuotesAt (gapMachine.exec start calls) key call t') ∧
        LastTradableAt start calls key t := by
  obtain ⟨pre, call', rest, hcalls, hquotes, hsteps⟩ := h
  rcases List.eq_nil_or_concat rest with rfl | ⟨rest', last, rfl⟩
  · obtain ⟨rfl, hlast⟩ := List.append_inj' hcalls rfl
    obtain rfl := (List.cons.inj hlast).1
    exact .inl hquotes
  · have hsplit : calls ++ [call] = (pre ++ call' :: rest') ++ [last] := by
      rw [hcalls]
      simp
    obtain ⟨rfl, hlast⟩ := List.append_inj' hsplit rfl
    obtain rfl := (List.cons.inj hlast).1
    rw [List.concat_eq_append, Machine.stepsMeet_append, ← Machine.exec_append, List.append_assoc]
      at hsteps
    exact .inr ⟨hsteps.2.1.1, hsteps.2.1.2, pre, call', rest', rfl, hquotes, hsteps.1⟩

/-- **In every run** a pending gap knows the last quote after which it could be traded. -/
theorem lastTradable_exec (c : GapDetectorSettings) (markets : List PolymarketMarketMetadata)
    (startedNs : ℤ) (calls : List GapCall) {key : GapKey} {p : PendingTradableGap} {t : ℤ}
    (hget : (gapMachine.exec (.init c markets startedNs) calls).pending.get? key = some p)
    (hlast : LastTradableAt (.init c markets startedNs) calls key t) :
    p.lastTradableMonotonicNs = t ∧ p.currentQuoteMonotonicNs = some t := by
  induction calls using List.reverseRecOn generalizing key p t with
  | nil => cases hget
  | append_singleton calls call ih =>
      rw [Machine.exec_append] at hget
      obtain ⟨rfl, hheld⟩ := holds_of_next (keyed_exec c markets startedNs calls).2 hget
      have hcases := lastTradableAt_concat hlast
      generalize hd : gapMachine.exec (.init c markets startedNs) calls = d at *
      cases hheld with
      | pending was unquoted =>
          rcases hcases with ⟨p', quote, hget', hquote, htoken⟩ | ⟨-, -, hbefore⟩
          · obtain rfl := Option.some.inj (was.symm.trans hget')
            exact absurd htoken (unquoted quote t hquote)
          · exact ih was hbefore
      | noted was token keeps =>
          rename_i quote state nowTs clock p₀
          obtain ⟨-, hsame, -, -, hcurrent, hkept⟩ := quoteFate_keep token keeps
          rw [hsame.key] at hcases
          have hquote : QuotesAt d p₀.key (.onMarketEvent (.polymarketQuote quote) state nowTs
              clock) (momentOf (.polymarketQuote quote) nowTs clock).nowMonotonicNs :=
            ⟨p₀, quote, was, rfl, token⟩
          rcases hcases with ⟨p', quote', -, hquote', -⟩ | ⟨-, hnone, -⟩
          · obtain ⟨-, rfl⟩ := Prod.mk.inj (Option.some.inj hquote')
            rw [hkept, hcurrent, quoteMonotonic_momentOf]
            exact ⟨rfl, rfl⟩
          · exact absurd hquote (hnone _)
      | opened noQuote free opens =>
          rcases hcases with ⟨p', quote, hget', -⟩ | ⟨hsome, -⟩
          · rw [free] at hget'
            cases hget'
          · rw [free] at hsome
            cases hsome
      | refreshed was sameId =>
          rename_i markets' now p₀ market
          have hkey : ({ p₀ with market := market } : PendingTradableGap).key = p₀.key := by
            simp only [PendingTradableGap.key, sameId]
          rw [hkey] at hcases
          rcases hcases with ⟨p', quote, -, hquote, -⟩ | ⟨-, -, hbefore⟩
          · cases hquote
          · obtain ⟨htradable, hcurrent⟩ := ih was hbefore
            exact ⟨htradable, hcurrent⟩

/-! ### Timeouts -/

/-- The market state that a call comes with. -/
def stateOf : GapCall → Option MarketState
  | .onMarketEvent _ state _ _ => some state
  | _ => none

/-- A gap as the time limit closes it: the quote of its token in the market state, if there is
one, is the current one. -/
theorem expiryFate_close {d : GapDetector} {state : MarketState} {now : Moment}
    {p ended : PendingTradableGap} (h : expiryFate state now d p = .close ended) :
    d.settings.maxPendingGapMs < age p now.nowMonotonicNs ∧ SameGap p ended ∧
      ended.firstNonTradableMonotonicNs = p.firstNonTradableMonotonicNs ∧
      ended.firstExecutableRepricedMonotonicNs = p.firstExecutableRepricedMonotonicNs ∧
      ended.currentQuoteMonotonicNs =
        match state.polymarketQuotes.get? p.tokenId with
        | some quote => some (quoteMonotonic quote now)
        | none => p.currentQuoteMonotonicNs := by
  rw [expiryFate] at h
  split at h
  · cases h
  · rename_i reason hlate
    refine ⟨(timeoutReason_eq_some_iff.mp hlate).1, ?_⟩
    cases hquote : state.polymarketQuotes.get? p.tokenId <;> rw [hquote] at h <;> cases h <;>
      exact ⟨⟨rfl, rfl, rfl, rfl, rfl⟩, rfl, rfl, rfl⟩

/-- The window of a timeout is right: it is within the time limit, and reaches the last quote
after which the gap could be traded. -/
structure WindowInTime (start : GapDetector) (calls : List GapCall)
    (o : TradableGapObservation) : Prop where
  atMost : o.tradableWindowMs ≤ (gapMachine.exec start calls).settings.maxPendingGapMs
  atLeast : ∀ p t, (gapMachine.exec start calls).pending.get? o.identity.key = some p →
    LastTradableAt start calls o.identity.key t → age p t ≤ o.tradableWindowMs

/-- The current quote of a gap is not a late one when its time is up: the call brings no quote
of its token, and the one in the market state was received in time and not before the last one
after which the gap could be traded. Without one in the state, the one it has is in time. -/
def EndsInTime (start : GapDetector) (calls : List GapCall) (call : GapCall) (key : GapKey) :
    Prop :=
  ∃ p state, (gapMachine.exec start calls).pending.get? key = some p ∧
    (∀ quote mono, quoteOf call = some (quote, mono) → p.tokenId ≠ quote.tokenId) ∧
    stateOf call = some state ∧
    match state.polymarketQuotes.get? p.tokenId with
    | some quote => ∃ t, quote.recvMonotonicNs = some t ∧
        age p t ≤ (gapMachine.exec start calls).settings.maxPendingGapMs ∧
        ∀ t', LastTradableAt start calls key t' → age p t' ≤ age p t
    | none => ∃ t, p.currentQuoteMonotonicNs = some t ∧
        age p t ≤ (gapMachine.exec start calls).settings.maxPendingGapMs

/-- A gap that times out does so on a quote of its token that comes too late, or by the walk
that looks at the time limits. -/
theorem Closes.timedOut {d : GapDetector} {call : GapCall} {ended : PendingTradableGap}
    (h : Closes d call ended) (hstage : ended.rejectStage = .timeout) :
    (∃ p quote state nowTs clock, call = .onMarketEvent (.polymarketQuote quote) state nowTs clock ∧
      d.pending.get? p.key = some p ∧ p.tokenId = quote.tokenId ∧ SameGap p ended ∧
      d.settings.maxPendingGapMs <
        age p (quoteMonotonic quote (momentOf (.polymarketQuote quote) nowTs clock)) ∧
      ended.firstNonTradableMonotonicNs = p.firstNonTradableMonotonicNs ∧
      ended.firstExecutableRepricedMonotonicNs = p.firstExecutableRepricedMonotonicNs ∧
      ended.currentQuoteMonotonicNs =
        some (quoteMonotonic quote (momentOf (.polymarketQuote quote) nowTs clock))) ∨
    ∃ event state nowTs clock p, call = .onMarketEvent event state nowTs clock ∧
      Holds d call p ∧ expiryFate state (momentOf event nowTs clock) d p = .close ended := by
  cases h with
  | quote was closes =>
      rename_i quote state nowTs clock p
      rw [quoteFate_eq] at closes
      split at closes
      · cases closes
      rename_i htoken
      obtain ⟨hended, hrepriced, hcurrent⟩ := noteQuote_times d quote state
        (momentOf (.polymarketQuote quote) nowTs clock) p
      have hsame := (noteQuote_noted d quote state
        (momentOf (.polymarketQuote quote) nowTs clock) p).same
      generalize d.noteQuote quote state (momentOf (.polymarketQuote quote) nowTs clock) p =
        noted at closes hended hrepriced hcurrent hsame
      rcases checkQuote_cases d quote state (momentOf (.polymarketQuote quote) nowTs clock) noted
        with ⟨ended', hclose, hends⟩ | ⟨kept, hkeep, -⟩
      · rw [hclose] at closes
        cases closes
        cases hends with
        | timedOut reason late =>
            have hlate := (timeoutReason_eq_some_iff.mp late).1
            rw [hsame.age] at hlate
            exact .inl ⟨p, quote, state, nowTs, clock, rfl, was, not_not.mp htoken,
              ⟨hsame.key, hsame.tokenId, hsame.detected, hsame.beforeMid, hsame.entryAsk⟩,
              hlate, hended, hrepriced, hcurrent⟩
        | distrusted reason inTime structural => cases hstage
        | repriced inTime trusted profit => cases hstage
        | entryGone reason inTime entry => cases hstage
      · rw [hkeep] at closes
        cases closes
  | expired held closes => exact .inr ⟨_, _, _, _, _, rfl, held, closes⟩
  | lifecycle was closes ends =>
      rw [lifecycleFate] at closes
      dsimp only at closes
      split at closes <;> cases closes
      cases hstage
  | refreshed was closes =>
      rw [refreshFate] at closes
      split at closes <;> cases closes
      cases hstage

theorem tradableWindowMs_nonneg (p : PendingTradableGap) : 0 ≤ p.tradableWindowMs := by
  simp only [PendingTradableGap.tradableWindowMs, durationMs]
  generalize orValue p.firstNonTradableMonotonicNs _ = endMono
  cases endMono with
  | none => exact le_rfl
  | some t => exact le_max_left _ _

/-- A gap has no age when it is opened. -/
theorem OpenedAt.age_eq {d : GapDetector} {state : MarketState} {now : Moment}
    {p : PendingTradableGap} (h : OpenedAt d state now p) : age p now.nowMonotonicNs = 0 := by
  obtain ⟨same, ofState, rfl, follows, token, read, fills⟩ := h
  simp [age, pendingGap]

/-- The window of a gap that was pending, up to its current quote, is right when that quote is
neither late nor before the last one after which the gap could be traded. -/
theorem windowInTime_iff {start : GapDetector} {calls : List GapCall} (d' : GapDetector)
    {p ended : PendingTradableGap} {t : ℤ}
    (hgot : (gapMachine.exec start calls).pending.get? ended.key = some p)
    (hage : ended.tradableWindowMs = age p t) :
    WindowInTime start calls (d'.observationFromPending ended) ↔
      age p t ≤ (gapMachine.exec start calls).settings.maxPendingGapMs ∧
        ∀ t', LastTradableAt start calls ended.key t' → age p t' ≤ age p t := by
  have hwindow : (d'.observationFromPending ended).tradableWindowMs = age p t := hage
  have hkey : (d'.observationFromPending ended).identity.key = ended.key := rfl
  constructor
  · rintro ⟨hmost, hleast⟩
    rw [hwindow] at hmost
    refine ⟨hmost, fun t' ht' => ?_⟩
    have hle := hleast p t' hgot ht'
    rwa [hwindow] at hle
  · rintro ⟨hmost, hleast⟩
    refine ⟨by rwa [hwindow], fun p' t' hget' ht' => ?_⟩
    rw [hkey] at hget' ht'
    obtain rfl := Option.some.inj (hgot.symm.trans hget')
    rw [hwindow]
    exact hleast t' ht'

/-- The window of a gap that the walk closes: it goes up to the quote in the market state, or
else to the one that the gap has. -/
theorem expired_window_iff (c : GapDetectorSettings) (markets : List PolymarketMarketMetadata)
    (startedNs : ℤ) {calls : List GapCall} (hcalls : ∀ i ∈ calls, CarriesTimes i)
    {event : MarketEvent} {state : MarketState} {nowTs : Option ℤ} {clock : ℤ}
    (hcall : CarriesTimes (.onMarketEvent event state nowTs clock)) (d' : GapDetector)
    {p ended : PendingTradableGap}
    (was : (gapMachine.exec (.init c markets startedNs) calls).pending.get? p.key = some p)
    (unquoted : ∀ quote mono, quoteOf (.onMarketEvent event state nowTs clock) =
      some (quote, mono) → p.tokenId ≠ quote.tokenId)
    (hclose : expiryFate state (momentOf event nowTs clock)
      (gapMachine.exec (.init c markets startedNs) calls) p = .close ended) :
    WindowInTime (.init c markets startedNs) calls (d'.observationFromPending ended) ↔
      EndsInTime (.init c markets startedNs) calls (.onMarketEvent event state nowTs clock)
        ended.key := by
  obtain ⟨-, hsame, hended, hrepriced, hcurrent⟩ := expiryFate_close hclose
  obtain ⟨hnone, hnone', t₀, hzero₀, hcurrent₀⟩ :=
    watched_exec c markets startedNs hcalls _ p was
  have hgot : (gapMachine.exec (.init c markets startedNs) calls).pending.get? ended.key =
      some p := by rw [hsame.key, was]
  have hage {t : ℤ} (hzero : t ≠ 0) (ht : ended.currentQuoteMonotonicNs = some t) :
      ended.tradableWindowMs = age p t := by
    rw [tradableWindowMs_eq (hended.trans hnone) (hrepriced.trans hnone') hzero ht, hsame.age]
  cases hquote : state.polymarketQuotes.get? p.tokenId with
  | some quote =>
      rw [hquote] at hcurrent
      obtain ⟨htime, hzero⟩ := quoteMonotonic_of_hasTime
        (hcall.2 _ (Dict.mem_entries_iff.mpr hquote)) (momentOf event nowTs clock)
      rw [windowInTime_iff d' hgot (hage hzero hcurrent)]
      constructor
      · rintro ⟨hmost, hleast⟩
        refine ⟨p, state, hgot, unquoted, rfl, ?_⟩
        rw [hquote]
        exact ⟨_, htime, hmost, hleast⟩
      · rintro ⟨p', state', hget', -, hstate, hends⟩
        obtain rfl := Option.some.inj (hgot.symm.trans hget')
        obtain rfl := Option.some.inj hstate
        rw [hquote] at hends
        obtain ⟨t, ht, hmost, hleast⟩ := hends
        obtain rfl := Option.some.inj (htime.symm.trans ht)
        exact ⟨hmost, hleast⟩
  | none =>
      rw [hquote] at hcurrent
      rw [windowInTime_iff d' hgot (hage hzero₀ (hcurrent.trans hcurrent₀))]
      constructor
      · rintro ⟨hmost, -⟩
        refine ⟨p, state, hgot, unquoted, rfl, ?_⟩
        rw [hquote]
        exact ⟨t₀, hcurrent₀, hmost⟩
      · rintro ⟨p', state', hget', -, hstate, hends⟩
        obtain rfl := Option.some.inj (hgot.symm.trans hget')
        obtain rfl := Option.some.inj hstate
        rw [hquote] at hends
        obtain ⟨t, ht, hmost⟩ := hends
        obtain rfl := Option.some.inj (hcurrent₀.symm.trans ht)
        refine ⟨hmost, fun t' ht' => ?_⟩
        obtain ⟨-, hlast⟩ := lastTradable_exec c markets startedNs calls hgot ht'
        obtain rfl := Option.some.inj (hcurrent₀.symm.trans hlast)
        exact le_rfl

/-- **When the window of a timeout is right**: exactly when the current quote is not a late one.
A quote on which a gap times out never is in time. -/
theorem timeout_window_iff (c : GapDetectorSettings) (markets : List PolymarketMarketMetadata)
    (startedNs : ℤ) (calls : List GapCall) (call : GapCall)
    (hcalls : ∀ i ∈ calls, CarriesTimes i) (hcall : CarriesTimes call)
    (o : TradableGapObservation)
    (ho : o ∈ (gapMachine.exec (.init c markets startedNs) calls).writtenBy call)
    (hstage : o.rejectStage = .timeout) :
    WindowInTime (.init c markets startedNs) calls o ↔
      EndsInTime (.init c markets startedNs) calls call o.identity.key := by
  obtain ⟨-, hkeyed⟩ := keyed_exec c markets startedNs calls
  cases recorded_of_mem hkeyed ho with
  | rejected noQuote rejected =>
      cases rejected
      cases hstage
  | closed closes =>
  rename_i d' ended
  have hwindow : (d'.observationFromPending ended).tradableWindowMs = ended.tradableWindowMs := rfl
  have hkey : (d'.observationFromPending ended).identity.key = ended.key := rfl
  rw [hkey]
  rcases closes.timedOut hstage with
    ⟨p, quote, state, nowTs, clock, rfl, hget, htoken, hsame, hlate, hended, hrepriced, hcurrent⟩ |
    ⟨event, state, nowTs, clock, p, rfl, hheld, hclose⟩
  · -- the late quote is the current one
    obtain ⟨hnone, hnone', -⟩ := watched_exec c markets startedNs hcalls _ p hget
    have htime := (quoteMonotonic_of_hasTime hcall.1
      (momentOf (.polymarketQuote quote) nowTs clock)).2
    have hage := tradableWindowMs_eq (hended.trans hnone) (hrepriced.trans hnone') htime hcurrent
    refine iff_of_false (fun h => ?_) ?_
    · have hle := h.atMost
      rw [hwindow, hage, hsame.age] at hle
      exact absurd hlate (not_lt.mpr hle)
    · rintro ⟨p', -, hget', hunquoted, -⟩
      rw [hsame.key, hget] at hget'
      obtain rfl := Option.some.inj hget'
      exact hunquoted quote _ rfl htoken
  · obtain ⟨hlate, hsame, -⟩ := expiryFate_close hclose
    cases hheld with
    | pending was unquoted =>
        exact expired_window_iff c markets startedNs hcalls hcall d' was unquoted hclose
    | noted was token keeps =>
        -- the quote came in time
        obtain ⟨hinTime, hkept, -⟩ := quoteFate_keep token keeps
        rw [quoteMonotonic_momentOf, ← hkept.age] at hinTime
        exact absurd hlate (not_lt.mpr hinTime)
    | opened noQuote free opens =>
        -- the limit is negative
        rw [opens.age_eq] at hlate
        refine iff_of_false (fun h => ?_) ?_
        · have hle := h.atMost
          rw [hwindow] at hle
          exact absurd ((tradableWindowMs_nonneg ended).trans hle) (not_le.mpr hlate)
        · rintro ⟨p', -, hget', -⟩
          rw [hsame.key, free] at hget'
          cases hget'

/-- The theorem applied to the late quote. -/
theorem timeout_window_late_quote :
    WindowInTime (.init fiveSeconds [openMarket] 1) [openingTrade] lateObservation ↔
      EndsInTime (.init fiveSeconds [openMarket] 1) [openingTrade] lateQuote
        lateObservation.identity.key :=
  timeout_window_iff fiveSeconds [openMarket] 1 [openingTrade] lateQuote
    (by
      intro i hi
      rw [List.mem_singleton.mp hi]
      exact ⟨trivial, by decide +kernel⟩)
    ⟨rfl, by decide +kernel⟩ lateObservation (List.head_mem lateQuote_writes) (by decide +kernel)

/-- A quote that comes six seconds after the detection makes the window longer than the limit of
five. -/
theorem late_quote_extends_window :
    ¬ ∀ (c : GapDetectorSettings) (markets : List PolymarketMarketMetadata) (startedNs : ℤ)
      (calls : List GapCall) (call : GapCall), (∀ i ∈ calls, CarriesTimes i) →
        CarriesTimes call →
          ∀ o ∈ (gapMachine.exec (.init c markets startedNs) calls).writtenBy call,
            o.rejectStage = .timeout → WindowInTime (.init c markets startedNs) calls o := by
  intro h
  have hwindow := h fiveSeconds [openMarket] 1 [openingTrade] lateQuote
    (by
      intro i hi
      rw [List.mem_singleton.mp hi]
      exact ⟨trivial, by decide +kernel⟩)
    ⟨rfl, by decide +kernel⟩ lateObservation (List.head_mem lateQuote_writes) (by decide +kernel)
  have hlong : (5000 : ℚ) < lateObservation.tradableWindowMs := by decide +kernel
  have hlimit : (gapMachine.exec (.init fiveSeconds [openMarket] 1)
    [openingTrade]).settings.maxPendingGapMs = 5000 := by decide +kernel
  have hle := hwindow.atMost
  rw [hlimit] at hle
  exact absurd hlong (not_lt.mpr hle)

end GapDetector

end SomethingTrade
