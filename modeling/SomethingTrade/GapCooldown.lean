import Mathlib.Tactic.Linarith
import SomethingTrade.Cooldown
import SomethingTrade.GapEndings

/-!
# The Cooldown of Rejections

A candidate that is rejected at its detection is written, unless a candidate of the same
symbol, market and direction was written for the same reason less than the cooldown ago. The
detector keeps one time for each such key in one dictionary, and takes a time that went back
for no time at all.

## Representation

* `GapDetector.candidatesOf` lists the observations of the candidates a call rejects,
  written or not. It follows the branches of a detection that lead to a rejection.

## Main results

* `rejectCandidate_limited`, `sweepPending_limited`: what a rejection and what a walk over the
  pending gaps do to the cooldown.
* `GapDetector.rejections_cooled_down`: in every run each rejected candidate is written once or
  counted as suppressed, and those written under one key are apart by the cooldown.
-/

namespace SomethingTrade

/-! ### The cooldown -/

/-- The key of the cooldown of an observation. -/
def cooldownKey (o : TradableGapObservation) : GapKey × String :=
  (⟨o.symbol, o.marketId, o.direction⟩,
    orText o.preEntryRejectReason (orText o.rejectReason ""))

/-- The cooldown of the observations of rejected candidates. -/
def rejectionCooldown (cooldownMs : ℚ) : Cooldown TradableGapObservation (GapKey × String) ℤ where
  key := cooldownKey
  time := TradableGapObservation.detectedTsNs
  tooSoon last ts := max 0 ((ts - last : ℚ) / 1000000) < cooldownMs

/-- The observations of rejected candidates. -/
def isPreEntry (o : TradableGapObservation) : Bool := o.rejectStage = .preEntry

/-- A time is after another one, by the cooldown at least. -/
def Apart (cooldownMs : ℚ) (a b : ℤ) : Prop := a < b ∧ cooldownMs ≤ (b - a : ℚ) / 1000000

theorem apart_of_not_tooSoon {cooldownMs : ℚ} (h : 0 < cooldownMs) {a b : ℤ}
    (hab : (rejectionCooldown cooldownMs).tooSoon a b = false) : Apart cooldownMs a b := by
  have hle : cooldownMs ≤ max 0 ((b - a : ℚ) / 1000000) := not_lt.mp (of_decide_eq_false hab)
  -- the cooldown is positive, so the distance was not cut off at zero
  have happart : cooldownMs ≤ (b - a : ℚ) / 1000000 :=
    (le_max_iff.mp hle).resolve_left (not_le.mpr h)
  refine ⟨?_, happart⟩
  have hpos : (0 : ℚ) < (b - a : ℚ) / 1000000 := h.trans_le happart
  have hlt : (a : ℚ) < b := by linarith
  exact_mod_cast hlt

theorem Apart.trans {cooldownMs : ℚ} (h : 0 < cooldownMs) {a b c : ℤ}
    (hab : Apart cooldownMs a b) (hbc : Apart cooldownMs b c) : Apart cooldownMs a c := by
  refine ⟨hab.1.trans hbc.1, ?_⟩
  have h₁ := hab.2
  have h₂ := hbc.2
  linarith

namespace GapDetector

/-- The cooldown of a detector. -/
def cooldown (d : GapDetector) : Cooldown TradableGapObservation (GapKey × String) ℤ :=
  rejectionCooldown d.settings.preEntryLogCooldownMs

/-! ### The rejected candidates of a call -/

/-- Why a candidate is rejected at its detection, if it is: the token and the quote of its
observation, and the reason. -/
def rejection (d : GapDetector) (m : BinanceMove) (market : PolymarketMarketMetadata) :
    Option (String × Option PolymarketQuote × String) :=
  let tokenId := market.tokenForDirection m.direction
  if (d.invalidMarkets.get? market.marketId).isSome || m.state.isMarketInvalid market.marketId
  then some (tokenId.getD "", none, "market_invalidated")
  else
    match tokenId with
    | none => some ("", none, "direction_token_unmapped")
    | some tokenId =>
        if (d.pending.get? ⟨m.symbol, market.marketId, m.direction⟩).isSome then none
        else
          match m.state.polymarketQuotes.get? tokenId with
          | none => some (tokenId, none, "missing_quote")
          | some quote =>
              if isStaleQuote quote m.now.nowTs m.now.nowMonotonicNs
                  d.settings.polymarketStaleMs then some (tokenId, some quote, "quote_stale")
              else
                (d.fillableBeforeRepricing market quote).map fun reason =>
                  (tokenId, some quote, reason)

/-- The observation of a candidate that is rejected at its detection. -/
def rejectedCandidate (d : GapDetector) (m : BinanceMove) (market : PolymarketMarketMetadata)
    (gate : BookReadinessGate) : Option TradableGapObservation :=
  (d.rejection m market).map fun r => d.preEntryObservation m market r.1 r.2.1 r.2.2 gate

/-- The candidates a move rejects in one market. -/
def candidatesIn (m : BinanceMove) (d : GapDetector) (market : PolymarketMarketMetadata) :
    List TradableGapObservation :=
  let gate := d.bookReadinessGate market m.state m.now.nowTs
  if marketSignalEnabled market m.now.nowTs = false ∨ gate.suppress = true then []
  else ((d.countCandidate m market).rejectedCandidate m market gate).toList

/-- The candidates a move rejects in some markets, one after the other. -/
def candidatesAmong (m : BinanceMove) :
    GapDetector → List PolymarketMarketMetadata → List TradableGapObservation
  | _, [] => []
  | d, market :: markets =>
      candidatesIn m d market ++ candidatesAmong m (detectInMarket m (d, []) market).1 markets

/-- The move of a symbol that is held against the markets, if there is one. -/
def moveOf (d : GapDetector) (symbol : String) (state : MarketState) (now : Moment)
    (binanceEventTs : Option ℤ) : Option BinanceMove :=
  match state.symbols.get? symbol with
  | none => none
  | some symbolState =>
      if isStaleWall (orValue symbolState.localReceiveTimestamp symbolState.lastEventTimestamp)
          now.nowTs d.settings.binanceStaleMs then none
      else
        match strongestReturn (knownReturns symbolState) with
        | none => none
        | some (windowKey, value) =>
            let movePct := value * 100
            if |movePct| < d.settings.minMovePct then none
            else
              let direction := if movePct > 0 then GapDirection.up else GapDirection.down
              some
                { symbol := symbol
                  direction := direction
                  movePct := movePct
                  episode := moveEpisode symbol direction windowKey
                    (orNumber binanceEventTs now.nowTs)
                  binanceEventTs := binanceEventTs
                  state := state
                  now := now }

/-- A move was detected. -/
def countMove (d : GapDetector) (symbol : String) : GapDetector :=
  { d with
    binanceMovesDetectedBySymbol := d.binanceMovesDetectedBySymbol.increment symbol }

/-- The candidates that the moves of a symbol reject. -/
def candidatesOfSymbol (d : GapDetector) (symbol : String) (state : MarketState) (now : Moment)
    (binanceEventTs : Option ℤ) : List TradableGapObservation :=
  match d.moveOf symbol state now binanceEventTs with
  | none => []
  | some m =>
      candidatesAmong m (d.countMove symbol) ((d.marketsBySymbol.get? symbol).getD [])

/-- The candidates an event rejects. -/
def candidatesOfEvent (d : GapDetector) (event : MarketEvent) (state : MarketState)
    (now : Moment) : List TradableGapObservation :=
  match event with
  | .marketTick e =>
      if e.source = .binance then
        d.candidatesOfSymbol e.symbol state now (orValue e.exchangeEventTs e.localReceivedTs)
      else []
  | .orderBookTop e =>
      if e.source = .binance then
        d.candidatesOfSymbol e.symbol state now (orValue e.exchangeEventTs e.localReceivedTs)
      else []
  | _ => []

/-- The candidates a call rejects. -/
def candidatesOf (d : GapDetector) : GapCall → List TradableGapObservation
  | .onMarketEvent event state nowTs clock =>
      d.candidatesOfEvent event state (momentOf event nowTs clock)
  | _ => []

/-! ### What a part of a call does to the cooldown -/

/-- What rejections leave alone when they do not happen. -/
structure SameCooldown (d d' : GapDetector) : Prop where
  settings : d'.settings = d.settings
  last : d'.lastPreEntryLogNs = d.lastPreEntryLogNs
  counted : d'.nonFillableAtDetectionCount = d.nonFillableAtDetectionCount
  written : d'.preEntryObservationsWritten = d.preEntryObservationsWritten
  suppressed : d'.preEntryObservationsSuppressed = d.preEntryObservationsSuppressed
  waiting : d'.marketUpdateObservations = d.marketUpdateObservations

/-- No observation of a rejected candidate waits to be drained. -/
def NoneWaits (d : GapDetector) : Prop := ∀ o ∈ d.marketUpdateObservations, isPreEntry o = false

/-- What a part of a call does to the cooldown, when it rejects some candidates. -/
structure Limited (d : GapDetector) (r : GapDetector × List TradableGapObservation)
    (candidates : List TradableGapObservation) : Prop where
  settings : r.1.settings = d.settings
  last : r.1.lastPreEntryLogNs = d.cooldown.after d.lastPreEntryLogNs candidates
  observed : r.2.filter isPreEntry = d.cooldown.passed d.lastPreEntryLogNs candidates
  completed : r.1.completed.filter isPreEntry =
    d.completed.filter isPreEntry ++ d.cooldown.passed d.lastPreEntryLogNs candidates
  counted : r.1.nonFillableAtDetectionCount =
    d.nonFillableAtDetectionCount + candidates.length
  written : r.1.preEntryObservationsWritten = d.preEntryObservationsWritten +
    (d.cooldown.passed d.lastPreEntryLogNs candidates).length
  suppressed : r.1.preEntryObservationsSuppressed = d.preEntryObservationsSuppressed +
    (d.cooldown.held d.lastPreEntryLogNs candidates).length
  waiting : d.NoneWaits → r.1.NoneWaits

theorem SameCooldown.noneWaits {d d' : GapDetector} (h : SameCooldown d d') (hd : d.NoneWaits) :
    d'.NoneWaits := by
  rw [NoneWaits, h.waiting]
  exact hd

theorem SameCooldown.limited {d d' : GapDetector} (h : SameCooldown d d')
    (hcompleted : d'.completed = d.completed) : Limited d (d', []) [] where
  settings := h.settings
  last := h.last
  observed := rfl
  completed := by
    rw [hcompleted]
    exact (List.append_nil _).symm
  counted := h.counted
  written := h.written
  suppressed := h.suppressed
  waiting := h.noneWaits

theorem Limited.refl (d : GapDetector) : Limited d (d, []) [] :=
  SameCooldown.limited ⟨rfl, rfl, rfl, rfl, rfl, rfl⟩ rfl

theorem Limited.trans {d d' d'' : GapDetector} {a b candidates candidates' :
    List TradableGapObservation} (h : Limited d (d', a) candidates)
    (h' : Limited d' (d'', b) candidates') :
    Limited d (d'', a ++ b) (candidates ++ candidates') := by
  have hcooldown : d'.cooldown = d.cooldown := congrArg
    (fun c : GapDetectorSettings => rejectionCooldown c.preEntryLogCooldownMs) h.settings
  have hlast : d'.lastPreEntryLogNs = d.cooldown.after d.lastPreEntryLogNs candidates := h.last
  obtain ⟨hsettings', hlast', hobserved', hcompleted', hcounted', hwritten', hsuppressed',
    hwaiting'⟩ := h'
  rw [hcooldown, hlast] at hlast' hobserved' hcompleted' hwritten' hsuppressed'
  refine ⟨hsettings'.trans h.settings, ?_, ?_, ?_, ?_, ?_, ?_, fun hd => hwaiting' (h.waiting hd)⟩
  · rw [hlast', Cooldown.after_append]
  · rw [List.filter_append, h.observed, hobserved', Cooldown.passed_append]
  · rw [hcompleted', h.completed, Cooldown.passed_append, List.append_assoc]
  · rw [hcounted', h.counted, List.length_append, Nat.add_assoc]
  · rw [hwritten', h.written, Cooldown.passed_append, List.length_append, Nat.add_assoc]
  · rw [hsuppressed', h.suppressed, Cooldown.held_append, List.length_append, Nat.add_assoc]

theorem sameCooldown_complete (d : GapDetector) (observation : TradableGapObservation)
    (stage : RejectStage) : SameCooldown d (d.complete observation stage) := by
  have key : ∀ d' : GapDetector, SameCooldown d' (d'.recordObservationDiagnostics observation) := by
    intro d'
    rw [recordObservationDiagnostics]
    cases observation.rejectStage <;> cases observation.rejectReason <;>
      exact ⟨rfl, rfl, rfl, rfl, rfl, rfl⟩
  rw [complete]
  cases observation.rejectReason with
  | none =>
      obtain ⟨hsettings, hlast, hcounted, hwritten, hsuppressed, hwaiting⟩ := key d
      exact ⟨hsettings, hlast, hcounted, hwritten, hsuppressed, hwaiting⟩
  | some reason =>
      obtain ⟨hsettings, hlast, hcounted, hwritten, hsuppressed, hwaiting⟩ :=
        key (d.recordReject reason stage)
      exact ⟨hsettings, hlast, hcounted, hwritten, hsuppressed, hwaiting⟩

theorem completed_complete (d : GapDetector) (observation : TradableGapObservation)
    (stage : RejectStage) :
    (d.complete observation stage).completed = d.completed ++ [observation] :=
  congrArg GapLedger.completed (complete_ledger d observation stage)

/-- **One rejection.** -/
theorem recordPreEntryObservation_limited (d : GapDetector) {o : TradableGapObservation}
    (ho : isPreEntry o = true) :
    Limited d ((d.recordPreEntryObservation o).map id Option.toList) [o] := by
  have hholds : d.cooldown.holds d.lastPreEntryLogNs o =
      (durationMs (d.lastPreEntryLogNs.get? (cooldownKey o)) (some o.detectedTsNs)).any
        (· < d.settings.preEntryLogCooldownMs) := by
    have hkey : d.cooldown.key o = cooldownKey o := rfl
    rw [Cooldown.holds, hkey]
    cases d.lastPreEntryLogNs.get? (cooldownKey o) <;> rfl
  have hrun : (d.recordPreEntryObservation o).map id Option.toList =
      if d.cooldown.holds d.lastPreEntryLogNs o = true then
        ({ d with
            nonFillableAtDetectionCount := d.nonFillableAtDetectionCount + 1
            nonFillableBySymbol := d.nonFillableBySymbol.increment o.symbol
            preEntryObservationsSuppressed := d.preEntryObservationsSuppressed + 1
            suppressedCandidatesBySymbol := d.suppressedCandidatesBySymbol.increment o.symbol },
          [])
      else
        ({ d with
            nonFillableAtDetectionCount := d.nonFillableAtDetectionCount + 1
            nonFillableBySymbol := d.nonFillableBySymbol.increment o.symbol
            lastPreEntryLogNs := d.lastPreEntryLogNs.set (cooldownKey o) o.detectedTsNs
            preEntryObservationsWritten := d.preEntryObservationsWritten + 1
          }.complete o .preEntry, [o]) := by
    rw [hholds, recordPreEntryObservation]
    exact apply_ite (Prod.map id Option.toList) _ _ _
  rw [hrun]
  by_cases hheld : d.cooldown.holds d.lastPreEntryLogNs o = true
  · have hafter : d.cooldown.after d.lastPreEntryLogNs [o] = d.lastPreEntryLogNs := if_pos hheld
    have hpassed : d.cooldown.passed d.lastPreEntryLogNs [o] = [] := if_pos hheld
    have hsuppressed : d.cooldown.held d.lastPreEntryLogNs [o] = [o] := if_pos hheld
    rw [if_pos hheld]
    constructor
    · rfl
    · exact hafter.symm
    · exact hpassed.symm
    · rw [hpassed, List.append_nil]
    · rfl
    · rw [hpassed]
      rfl
    · rw [hsuppressed]
      rfl
    · exact id
  · have hafter : d.cooldown.after d.lastPreEntryLogNs [o] =
        d.lastPreEntryLogNs.set (cooldownKey o) o.detectedTsNs := if_neg hheld
    have hpassed : d.cooldown.passed d.lastPreEntryLogNs [o] = [o] := if_neg hheld
    have hsuppressed : d.cooldown.held d.lastPreEntryLogNs [o] = [] := if_neg hheld
    rw [if_neg hheld]
    have hsame := fun d' : GapDetector => sameCooldown_complete d' o .preEntry
    constructor
    · exact (hsame _).settings
    · exact (hsame _).last.trans hafter.symm
    · rw [hpassed, List.filter_cons_of_pos ho, List.filter_nil]
    · dsimp only
      rw [hpassed, completed_complete, List.filter_append, List.filter_cons_of_pos ho,
        List.filter_nil]
    · exact (hsame _).counted
    · rw [hpassed]
      exact (hsame _).written
    · rw [hsuppressed]
      exact (hsame _).suppressed
    · refine fun hd => (hsame _).noneWaits ?_
      exact hd

theorem rejectCandidate_limited (d : GapDetector) (m : BinanceMove)
    (market : PolymarketMarketMetadata) (tokenId : String) (quote : Option PolymarketQuote)
    (reason : String) (gate : BookReadinessGate) :
    Limited d (d.rejectCandidate m market tokenId quote reason gate)
      [d.preEntryObservation m market tokenId quote reason gate] :=
  recordPreEntryObservation_limited d rfl

/-! ### Detections -/

/-- **A candidate** is rejected exactly when it has a rejection. -/
theorem settleCandidate_limited (d : GapDetector) (m : BinanceMove)
    (market : PolymarketMarketMetadata) (gate : BookReadinessGate) :
    Limited d (d.settleCandidate m market gate)
      (d.rejectedCandidate m market gate).toList := by
  rw [settleCandidate, rejectedCandidate, rejection]
  dsimp only
  split
  · exact rejectCandidate_limited ..
  cases market.tokenForDirection m.direction with
  | none => exact rejectCandidate_limited ..
  | some tokenId =>
      dsimp only
      split
      · exact SameCooldown.limited ⟨rfl, rfl, rfl, rfl, rfl, rfl⟩ rfl
      cases m.state.polymarketQuotes.get? tokenId with
      | none => exact rejectCandidate_limited ..
      | some quote =>
          dsimp only
          split
          · exact rejectCandidate_limited ..
          cases d.fillableBeforeRepricing market quote with
          | some reason => exact rejectCandidate_limited ..
          | none =>
              dsimp only
              split <;> exact SameCooldown.limited ⟨rfl, rfl, rfl, rfl, rfl, rfl⟩ rfl

theorem detectInMarket_eq (m : BinanceMove) (acc : GapDetector × List TradableGapObservation)
    (market : PolymarketMarketMetadata) :
    detectInMarket m acc market =
      ((detectInMarket m (acc.1, []) market).1,
        acc.2 ++ (detectInMarket m (acc.1, []) market).2) := by
  rw [detectInMarket, detectInMarket]
  dsimp only
  split
  · exact Prod.ext rfl (List.append_nil _).symm
  · split
    · exact Prod.ext rfl (List.append_nil _).symm
    · rfl

theorem detectInMarket_limited (m : BinanceMove) (d : GapDetector)
    (market : PolymarketMarketMetadata) :
    Limited d (detectInMarket m (d, []) market) (candidatesIn m d market) := by
  rw [detectInMarket, candidatesIn]
  dsimp only
  split
  · rename_i hdisabled
    rw [if_pos (Or.inl hdisabled)]
    exact .refl d
  · rename_i henabled
    split
    · rename_i hsuppress
      rw [if_pos (Or.inr hsuppress)]
      exact SameCooldown.limited ⟨rfl, rfl, rfl, rfl, rfl, rfl⟩ rfl
    · rename_i hready
      rw [if_neg (not_or.mpr ⟨henabled, hready⟩)]
      have hcounted : Limited d (d.countCandidate m market, []) [] :=
        SameCooldown.limited ⟨rfl, rfl, rfl, rfl, rfl, rfl⟩ rfl
      exact hcounted.trans (settleCandidate_limited ..)

/-- **The loop over the markets** of a symbol. -/
theorem detectInMarkets_limited (m : BinanceMove) (markets : List PolymarketMarketMetadata)
    (d : GapDetector) :
    Limited d (markets.foldl (detectInMarket m) (d, [])) (candidatesAmong m d markets) := by
  -- the observations of the markets before stand in front
  have hfront : ∀ (markets : List PolymarketMarketMetadata) (d : GapDetector)
      (observations : List TradableGapObservation),
      markets.foldl (detectInMarket m) (d, observations) =
        ((markets.foldl (detectInMarket m) (d, [])).1,
          observations ++ (markets.foldl (detectInMarket m) (d, [])).2) := by
    intro markets
    induction markets with
    | nil => exact fun d observations => Prod.ext rfl (List.append_nil _).symm
    | cons market markets ih =>
        intro d observations
        simp only [List.foldl_cons]
        rw [detectInMarket_eq m (d, observations), ih, ih (detectInMarket m (d, []) market).1
          (detectInMarket m (d, []) market).2, List.append_assoc]
  induction markets generalizing d with
  | nil => exact .refl d
  | cons market markets ih =>
      rw [List.foldl_cons, hfront, candidatesAmong]
      exact (detectInMarket_limited m d market).trans (ih _)

/-- **A detection.** -/
theorem detectBinanceMove_limited (d : GapDetector) (symbol : String) (state : MarketState)
    (now : Moment) (binanceEventTs : Option ℤ) :
    Limited d (d.detectBinanceMove symbol state now binanceEventTs)
      (d.candidatesOfSymbol symbol state now binanceEventTs) := by
  rw [detectBinanceMove, candidatesOfSymbol, moveOf]
  cases state.symbols.get? symbol with
  | none => exact SameCooldown.limited ⟨rfl, rfl, rfl, rfl, rfl, rfl⟩ rfl
  | some symbolState =>
      dsimp only
      by_cases hstale : isStaleWall (orValue symbolState.localReceiveTimestamp
          symbolState.lastEventTimestamp) now.nowTs d.settings.binanceStaleMs = true
      · rw [if_pos hstale, if_pos hstale]
        exact SameCooldown.limited ⟨rfl, rfl, rfl, rfl, rfl, rfl⟩ rfl
      rw [if_neg hstale, if_neg hstale]
      cases strongestReturn (knownReturns symbolState) with
      | none => exact .refl d
      | some strongest =>
          obtain ⟨windowKey, value⟩ := strongest
          dsimp only
          by_cases hsmall : |value * 100| < d.settings.minMovePct
          · rw [if_pos hsmall, if_pos hsmall]
            exact .refl d
          rw [if_neg hsmall, if_neg hsmall]
          have hcounted : Limited d (d.countMove symbol, []) [] :=
            SameCooldown.limited ⟨rfl, rfl, rfl, rfl, rfl, rfl⟩ rfl
          exact hcounted.trans (detectInMarkets_limited _ _ _)

/-! ### Walks -/

/-- The gaps a body closes were not rejected at their detection. -/
def ClosesLater (body : GapDetector → PendingTradableGap → GapFate) : Prop :=
  ∀ d pending ended, body d pending = .close ended → ended.rejectStage ≠ .preEntry

theorem quoteFate_closesLater (quote : PolymarketQuote) (state : MarketState) (now : Moment) :
    ClosesLater (quoteFate quote state now) := by
  intro d pending ended h
  rw [quoteFate] at h
  split at h
  · cases h
  dsimp only at h
  generalize d.markMidRepricing _ quote _ _ = marked at h
  split at h
  · cases h
    intro hstage
    cases hstage
  split at h
  · cases h
    intro hstage
    cases hstage
  split at h
  · cases h
    intro hstage
    cases hstage
  split at h
  · cases h
    intro hstage
    cases hstage
  · cases h

theorem lifecycleFate_closesLater (event : MarketLifecycleEvent) (state : MarketState)
    (now : Moment) : ClosesLater (lifecycleFate event state now) := by
  intro d pending ended h
  rw [lifecycleFate] at h
  dsimp only at h
  split at h
  · cases h
  · cases h
    intro hstage
    cases hstage

theorem expiryFate_closesLater (state : MarketState) (now : Moment) :
    ClosesLater (expiryFate state now) := by
  intro d pending ended h
  rw [expiryFate] at h
  split at h
  · cases h
  · cases h
    intro hstage
    cases hstage

theorem refreshFate_closesLater (activeById : Dict String PolymarketMarketMetadata)
    (now : Moment) : ClosesLater (refreshFate activeById now) := by
  intro d pending ended h
  rw [refreshFate] at h
  split at h
  · cases h
  · cases h
    intro hstage
    cases hstage

theorem closePending_limited (d : GapDetector) (key : GapKey) {ended : PendingTradableGap}
    (h : ended.rejectStage ≠ .preEntry) :
    Limited d ((d.closePending key ended).map id fun observation => [observation]) [] := by
  have hstage : isPreEntry (d.observationFromPending ended) = false := decide_eq_false h
  have hsame := sameCooldown_complete d (d.observationFromPending ended)
    (d.observationFromPending ended).rejectStage
  refine ⟨hsame.settings, hsame.last, ?_, ?_, hsame.counted, hsame.written, hsame.suppressed,
    hsame.noneWaits⟩
  · exact List.filter_cons_of_neg (by simp [hstage])
  · have hcompleted : ((d.closePending key ended).map id fun o => [o]).1.completed =
        d.completed ++ [d.observationFromPending ended] := (completed_closePending d key ended).1
    rw [hcompleted, List.filter_append, List.filter_cons_of_neg (by simp [hstage])]
    rfl

/-- **A walk over the pending gaps** rejects no candidate. -/
theorem sweepPending_limited {body : GapDetector → PendingTradableGap → GapFate}
    (hbody : ClosesLater body) (d : GapDetector) : Limited d (d.sweepPending body) [] := by
  refine List.foldlRecOn (motive := fun r => Limited d r []) _ _ (.refl d) ?_
  rintro ⟨d', observations⟩ h e -
  rw [visitPending]
  cases hfate : body d' e.2 with
  | keep pending =>
      have hkept : Limited d' ({ d' with pending := d'.pending.set e.1 pending }, []) [] :=
        SameCooldown.limited ⟨rfl, rfl, rfl, rfl, rfl, rfl⟩ rfl
      have hstep := h.trans hkept
      rwa [List.append_nil] at hstep
  | close pending => exact h.trans (closePending_limited d' e.1 (hbody d' e.2 pending hfate))

/-! ### Calls -/

theorem Limited.swept {d : GapDetector} {r : GapDetector × List TradableGapObservation}
    {candidates : List TradableGapObservation} (h : Limited d r candidates)
    {body : GapDetector → PendingTradableGap → GapFate} (hbody : ClosesLater body) :
    Limited d ((r.1.sweepPending body).map id (r.2 ++ ·)) candidates := by
  have hswept := h.trans (sweepPending_limited hbody r.1)
  rwa [List.append_nil] at hswept

/-- A walk after something else changed. -/
theorem sweepAfter_limited {d d' : GapDetector} (h : SameCooldown d d')
    (hcompleted : d'.completed = d.completed)
    {body : GapDetector → PendingTradableGap → GapFate} (hbody : ClosesLater body) :
    Limited d (d'.sweepPending body) [] := (h.limited hcompleted).swept hbody

theorem handleLifecycle_limited (d : GapDetector) (event : MarketLifecycleEvent)
    (state : MarketState) (now : Moment) : Limited d (d.handleLifecycle event state now) [] := by
  rw [handleLifecycle]
  split
  · exact .refl d
  split
  · dsimp only
    split
    · exact SameCooldown.limited ⟨rfl, rfl, rfl, rfl, rfl, rfl⟩ rfl
    · refine sweepAfter_limited ?_ ?_ (lifecycleFate_closesLater event state now)
      · exact ⟨rfl, rfl, rfl, rfl, rfl, rfl⟩
      · rfl
  · refine sweepAfter_limited ?_ ?_ (lifecycleFate_closesLater event state now)
    · exact ⟨rfl, rfl, rfl, rfl, rfl, rfl⟩
    · rfl

theorem recordWarmupQuote_cooldown (d : GapDetector) (quote : PolymarketQuote) (nowTs : ℤ) :
    SameCooldown d (d.recordWarmupQuote quote nowTs) := by
  rw [recordWarmupQuote]
  split
  · exact ⟨rfl, rfl, rfl, rfl, rfl, rfl⟩
  · split <;> exact ⟨rfl, rfl, rfl, rfl, rfl, rfl⟩

theorem handleEvent_limited (d : GapDetector) (event : MarketEvent) (state : MarketState)
    (now : Moment) :
    Limited d (d.handleEvent event state now) (d.candidatesOfEvent event state now) := by
  cases event with
  | marketTick e =>
      rw [handleEvent, candidatesOfEvent]
      split
      · exact detectBinanceMove_limited ..
      · exact .refl d
  | orderBookTop e =>
      rw [handleEvent, candidatesOfEvent]
      split
      · exact detectBinanceMove_limited ..
      · exact .refl d
  | depthUpdate e => exact .refl d
  | polymarketQuote quote =>
      exact sweepAfter_limited (recordWarmupQuote_cooldown d quote now.nowTs)
        (recordWarmupQuote_same d quote now.nowTs).2 (quoteFate_closesLater quote state now)
  | marketLifecycle e => exact handleLifecycle_limited d e state now

theorem onMarketEvent_limited (d : GapDetector) (event : MarketEvent) (state : MarketState)
    (nowTs : Option ℤ) (clock : ℤ) :
    Limited d (d.onMarketEvent event state nowTs clock)
      (d.candidatesOf (.onMarketEvent event state nowTs clock)) := by
  have hhandled := handleEvent_limited d event state (momentOf event nowTs clock)
  rw [onMarketEvent]
  split
  · exact hhandled
  · exact hhandled.swept (expiryFate_closesLater state _)

theorem noneWaits_iff {d : GapDetector} :
    d.NoneWaits ↔ d.marketUpdateObservations.filter isPreEntry = [] := by
  simp [NoneWaits, List.filter_eq_nil_iff]

theorem updateMarkets_limited (d : GapDetector) (markets : List PolymarketMarketMetadata)
    (now : Moment) : Limited d (d.updateMarkets markets now, []) [] := by
  have hswept := sweepPending_limited (refreshFate_closesLater
    (.ofList (markets.map fun market => (market.marketId, market))) now) d
  refine ⟨hswept.settings, hswept.last, rfl, hswept.completed, hswept.counted, hswept.written,
    hswept.suppressed, fun hd => ?_⟩
  have hbefore := noneWaits_iff.mp (hswept.waiting hd)
  rw [noneWaits_iff, updateMarkets]
  dsimp only
  rw [List.filter_append, hbefore, hswept.observed]
  rfl

/-- **One call** rejects its candidates under the cooldown. -/
theorem gapMachine_limited {d : GapDetector} (hd : d.NoneWaits) (call : GapCall) :
    Limited d (gapMachine.next d call, gapMachine.out d call) (d.candidatesOf call) := by
  cases call with
  | onMarketEvent event state nowTs clock => exact onMarketEvent_limited d event state nowTs clock
  | updateMarkets markets now => exact updateMarkets_limited d markets now
  | drainMarketUpdateObservations =>
      exact
        { settings := rfl
          last := rfl
          observed := noneWaits_iff.mp hd
          completed := (List.append_nil _).symm
          counted := rfl
          written := rfl
          suppressed := rfl
          waiting := fun _ _ ho => by cases ho }

/-! ### Runs -/

/-- The candidates a run rejects, in order. -/
def rejectedIn : GapDetector → List GapCall → List TradableGapObservation
  | _, [] => []
  | d, call :: calls => d.candidatesOf call ++ rejectedIn (gapMachine.next d call) calls

/-- The observations a run returns. -/
def observedIn (d : GapDetector) (calls : List GapCall) : List TradableGapObservation :=
  (gapMachine.trace d calls).flatMap Prod.snd

theorem run_limited {d : GapDetector} (hd : d.NoneWaits) (calls : List GapCall) :
    Limited d (gapMachine.exec d calls, d.observedIn calls) (d.rejectedIn calls) := by
  induction calls generalizing d with
  | nil => exact .refl d
  | cons call calls ih =>
      have hcall := gapMachine_limited hd call
      exact hcall.trans (ih (hcall.waiting hd))

/-- The written observations of rejected candidates. -/
def rejectionsWritten (d : GapDetector) : List TradableGapObservation :=
  d.completed.filter isPreEntry

/-- What becomes of the candidates that a run rejects. -/
structure RejectionsCooledDown (start : GapDetector) (calls : List GapCall)
    (d : GapDetector) : Prop where
  /-- Each is written once, or counted as suppressed. -/
  settled : ∃ suppressed, (start.rejectedIn calls).Perm (d.rejectionsWritten ++ suppressed) ∧
    suppressed.length = d.preEntryObservationsSuppressed
  written : d.rejectionsWritten.length = d.preEntryObservationsWritten
  counted : (start.rejectedIn calls).length = d.nonFillableAtDetectionCount
  /-- What is written is returned, once and in the same order. -/
  returned : (start.observedIn calls).filter isPreEntry = d.rejectionsWritten
  /-- Those written under one key are apart. -/
  apart : 0 < start.settings.preEntryLogCooldownMs → ∀ key,
    ((d.rejectionsWritten.filter fun o => cooldownKey o = key).map
      TradableGapObservation.detectedTsNs).Pairwise
        (Apart start.settings.preEntryLogCooldownMs)

/-- **Rejections cool down**: in every run, with times in any order, each rejected candidate is
written once or counted as suppressed, and those written under one key are apart by the
cooldown. -/
theorem rejections_cooled_down (c : GapDetectorSettings)
    (markets : List PolymarketMarketMetadata) (startedNs : ℤ) (calls : List GapCall) :
    RejectionsCooledDown (.init c markets startedNs) calls
      (gapMachine.exec (.init c markets startedNs) calls) := by
  have hnone : (GapDetector.init c markets startedNs).NoneWaits := fun _ ho => by cases ho
  obtain ⟨-, -, hobserved, hcompleted, hcounted, hwritten, hsuppressed, -⟩ :=
    run_limited hnone calls
  -- a fresh detector has written nothing, and no key is cooling down
  have hpassed : (gapMachine.exec (.init c markets startedNs) calls).rejectionsWritten =
      (rejectionCooldown c.preEntryLogCooldownMs).passed .empty
        ((GapDetector.init c markets startedNs).rejectedIn calls) := hcompleted
  refine ⟨⟨(rejectionCooldown c.preEntryLogCooldownMs).held .empty
    ((GapDetector.init c markets startedNs).rejectedIn calls), ?_, ?_⟩, ?_, ?_, ?_, ?_⟩
  · rw [hpassed]
    exact Cooldown.perm_passed_held ..
  · exact (hsuppressed.trans (Nat.zero_add _)).symm
  · rw [hpassed]
    exact (hwritten.trans (Nat.zero_add _)).symm
  · exact (hcounted.trans (Nat.zero_add _)).symm
  · exact hobserved.trans hpassed.symm
  · intro hpositive key
    rw [hpassed]
    exact (rejectionCooldown c.preEntryLogCooldownMs).passed_pairwise
      (R := Apart c.preEntryLogCooldownMs) (Apart.trans hpositive)
      (apart_of_not_tooSoon hpositive) .empty _ key

end GapDetector

end SomethingTrade
