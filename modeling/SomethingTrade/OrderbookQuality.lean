import SomethingTrade.OrderbookIndex

/-!
# The Quality Validator

The check of a copied snapshot before a sample is made of it: the errors of the state it
was copied from, of its levels, of its age, of the queue lag, and of any reported best
prices. Reported prices are given as finite decimals.

## Main results

* `OrderbookQualityValidator.isValid_iff`: a snapshot checked with its state is valid
  exactly when every one of the checks passes (`PassesChecks`).
-/

namespace SomethingTrade

/-- The comparison of the computed best prices with reported ones, exactly. -/
structure StrictMismatchDetails where
  bidMismatch : Bool
  askMismatch : Bool
  strictMismatch : Bool
  computedBestBid : Option ℚ
  computedBestAsk : Option ℚ
  reportedBestBid : Option ℚ
  reportedBestAsk : Option ℚ
  bidDiff : Option ℚ
  askDiff : Option ℚ
  deriving DecidableEq

/-- The comparison of the computed best prices with reported ones, within a tolerance. -/
structure TolerantMismatchDetails where
  bidMismatch : Bool
  askMismatch : Bool
  tolerantMismatch : Bool
  priceTolerance : ℚ
  sizeTolerance : ℚ
  bidDiff : Option ℚ
  askDiff : Option ℚ
  deriving DecidableEq

/-- The flags of the state a snapshot was copied from. -/
structure LifecycleFlags where
  snapshotReady : Bool
  readyToEmit : Bool
  afterReconnect : Bool
  sequenceContinuous : Bool
  marketStatusKnown : Bool
  marketStatusMode : String
  deriving DecidableEq

/-- The result of a quality check. -/
structure OrderbookQualityResult where
  isValid : Bool
  errors : List BookError
  warnings : List BookError
  bidCount : ℕ
  askCount : ℕ
  bestBid : Option ℚ
  bestAsk : Option ℚ
  spread : Option ℚ
  mid : Option ℚ
  bookAgeMs : Option ℚ
  strictMismatchDetails : StrictMismatchDetails
  tolerantMismatchDetails : TolerantMismatchDetails
  lifecycleFlags : LifecycleFlags
  deriving DecidableEq

/-- The thresholds of the validator. -/
structure OrderbookQualityValidator where
  staleAfterMs : ℚ
  queueLagWarningMs : ℚ
  queueLagSevereMs : ℚ
  priceTolerance : ℚ
  sizeTolerance : ℚ
  deriving DecidableEq

/-- The tolerances the validator has by default. -/
def orderbookPriceTolerance : ℚ := 1 / 100

def orderbookSizeTolerance : ℚ := 1 / 1000000000

/-- The structure errors of a snapshot on its own. -/
def snapshotStructureErrors (snapshot : OrderbookSnapshot) : List BookError :=
  (if snapshot.bidCount = 0 ∧ snapshot.askCount = 0 then [.bookEmpty] else []) ++
    (if snapshot.bidCount = 0 ∨ snapshot.askCount = 0 then [.oneSideMissing] else []) ++
    (if snapshot.bestBid = none then [.bestBidMissing] else []) ++
    (if snapshot.bestAsk = none then [.bestAskMissing] else []) ++
    match snapshot.bestBid, snapshot.bestAsk with
    | some b, some a => if b ≥ a then [.crossedBook] else []
    | _, _ => []

/-- The errors of the copied levels, which are finite. -/
def topLevelErrors (snapshot : OrderbookSnapshot) : List BookError :=
  (snapshot.bidsTopN ++ snapshot.asksTopN).flatMap fun e =>
    (if e.1 ≤ 0 then [.negativePrice, .invalidPriceLevel] else []) ++
      if e.2 ≤ 0 then [.negativeSize, .invalidSizeLevel] else []

/-- The age of the copied book at `now`. -/
def snapshotBookAgeMs (snapshot : OrderbookSnapshot) (now : Option ℤ) : Option ℚ := do
  let now ← now
  let updated ← snapshot.lastBookUpdateMonotonicNs
  return (now - updated : ℚ) / 1000000

/-- The flags of a state; all false without one. -/
def lifecycleFlags (state : Option OrderbookState) : LifecycleFlags where
  snapshotReady := state.any OrderbookState.snapshotReady
  readyToEmit := state.any OrderbookState.readyToEmit
  afterReconnect := false
  sequenceContinuous := state.any OrderbookState.sequenceContinuous
  marketStatusKnown := false
  marketStatusMode := "not_applicable_for_binance_spot_orderbook"

namespace OrderbookQualityValidator

/-- Compare the best prices of a snapshot with reported ones. -/
def mismatchDetails (v : OrderbookQualityValidator) (snapshot : OrderbookSnapshot)
    (reportedBid reportedAsk : Option ℚ) : StrictMismatchDetails × TolerantMismatchDetails :=
  let bidDiff : Option ℚ := do return |(← snapshot.bestBid) - (← reportedBid)|
  let askDiff : Option ℚ := do return |(← snapshot.bestAsk) - (← reportedAsk)|
  let strictBid := bidDiff.any (· ≠ 0)
  let strictAsk := askDiff.any (· ≠ 0)
  let tolerantBid := bidDiff.any (· > v.priceTolerance)
  let tolerantAsk := askDiff.any (· > v.priceTolerance)
  ({ bidMismatch := strictBid
     askMismatch := strictAsk
     strictMismatch := strictBid || strictAsk
     computedBestBid := snapshot.bestBid
     computedBestAsk := snapshot.bestAsk
     reportedBestBid := reportedBid
     reportedBestAsk := reportedAsk
     bidDiff := bidDiff
     askDiff := askDiff },
   { bidMismatch := tolerantBid
     askMismatch := tolerantAsk
     tolerantMismatch := tolerantBid || tolerantAsk
     priceTolerance := v.priceTolerance
     sizeTolerance := v.sizeTolerance
     bidDiff := bidDiff
     askDiff := askDiff })

/-- Check a snapshot, with the state it was copied from when that is given. -/
def validate (v : OrderbookQualityValidator) (snapshot : OrderbookSnapshot)
    (state : Option OrderbookState) (now : Option ℤ) (reportedBid reportedAsk : Option ℚ)
    (queueLagMs : Option ℚ) : OrderbookQualityResult :=
  let stateErrors :=
    match state with
    | some s =>
        s.validate ++
          (if ¬ s.snapshotReady ∨ ¬ s.readyToEmit then [.sampleBeforeBookReady] else []) ++
          if ¬ s.sequenceContinuous then [.sequenceGapOrReset] else []
    | none => snapshotStructureErrors snapshot
  let bookAgeMs := snapshotBookAgeMs snapshot now
  let (strict, tolerant) := v.mismatchDetails snapshot reportedBid reportedAsk
  let errors := BookError.sortedSet <|
    stateErrors ++
      (if snapshot.snapshotVersion ≠ snapshot.stateVersion then [.snapshotInconsistent]
        else []) ++
      topLevelErrors snapshot ++
      (if bookAgeMs.any (· > v.staleAfterMs) then [.staleBook] else []) ++
      (if queueLagMs.any (· > v.queueLagSevereMs) then [.queueLagExceeded] else []) ++
      (if strict.bidMismatch then [.reportedBestBidMismatch] else []) ++
      if strict.askMismatch then [.reportedBestAskMismatch] else []
  let warnings := BookError.sortedSet <|
    if queueLagMs.any fun lag => lag ≤ v.queueLagSevereMs ∧ lag > v.queueLagWarningMs then
      [.queueLagExceeded]
    else []
  { isValid := errors.isEmpty
    errors := errors
    warnings := warnings
    bidCount := snapshot.bidCount
    askCount := snapshot.askCount
    bestBid := snapshot.bestBid
    bestAsk := snapshot.bestAsk
    spread := snapshot.spread
    mid := snapshot.mid
    bookAgeMs := bookAgeMs
    strictMismatchDetails := strict
    tolerantMismatchDetails := tolerant
    lifecycleFlags := SomethingTrade.lifecycleFlags state }

section

variable (v : OrderbookQualityValidator) (snapshot : OrderbookSnapshot)
  (state : Option OrderbookState) (now : Option ℤ) (reportedBid reportedAsk : Option ℚ)
  (queueLagMs : Option ℚ)

theorem validate_isValid :
    (v.validate snapshot state now reportedBid reportedAsk queueLagMs).isValid =
      (v.validate snapshot state now reportedBid reportedAsk queueLagMs).errors.isEmpty := rfl

theorem validate_bookAgeMs :
    (v.validate snapshot state now reportedBid reportedAsk queueLagMs).bookAgeMs =
      snapshotBookAgeMs snapshot now := rfl

theorem validate_lifecycleFlags :
    (v.validate snapshot state now reportedBid reportedAsk queueLagMs).lifecycleFlags =
      SomethingTrade.lifecycleFlags state := rfl

end

/-! ### Validity -/

/-- Every check of a snapshot with its state passes. -/
structure PassesChecks (v : OrderbookQualityValidator) (snapshot : OrderbookSnapshot)
    (s : OrderbookState) (now : Option ℤ) (reportedBid reportedAsk queueLagMs : Option ℚ) :
    Prop where
  bookValid : s.validate = []
  snapshotReady : s.snapshotReady = true
  readyToEmit : s.readyToEmit = true
  sequenceContinuous : s.sequenceContinuous = true
  sameVersion : snapshot.snapshotVersion = snapshot.stateVersion
  levelsValid : topLevelErrors snapshot = []
  fresh : ∀ age ∈ snapshotBookAgeMs snapshot now, age ≤ v.staleAfterMs
  prompt : ∀ lag ∈ queueLagMs, lag ≤ v.queueLagSevereMs
  bidAgrees : (v.mismatchDetails snapshot reportedBid reportedAsk).1.bidMismatch = false
  askAgrees : (v.mismatchDetails snapshot reportedBid reportedAsk).1.askMismatch = false

/-- An optional number is not above a bound exactly when it is at most the bound. -/
theorem any_gt_eq_false {x : Option ℚ} {bound : ℚ} :
    (x.any fun q => decide (q > bound)) = false ↔ ∀ q ∈ x, q ≤ bound := by
  cases x <;> simp

/-- **A snapshot checked with its state is valid exactly when every check passes.** -/
theorem isValid_iff {v : OrderbookQualityValidator} {snapshot : OrderbookSnapshot}
    {s : OrderbookState} {now : Option ℤ} {reportedBid reportedAsk queueLagMs : Option ℚ} :
    (v.validate snapshot (some s) now reportedBid reportedAsk queueLagMs).isValid = true ↔
      PassesChecks v snapshot s now reportedBid reportedAsk queueLagMs := by
  have hnil : ∀ (p : Prop) [Decidable p] (e : BookError),
      (if p then [e] else []) = [] ↔ ¬ p := by
    intro p _ e
    by_cases hp : p <;> simp [hp]
  simp only [validate, List.isEmpty_iff, BookError.sortedSet_eq_nil, List.append_eq_nil_iff,
    hnil, Bool.not_eq_true, any_gt_eq_false, not_or, not_not, ne_eq]
  constructor
  · rintro ⟨⟨⟨⟨⟨⟨⟨⟨hbook, hready, hemit⟩, hcont⟩, hver⟩, hlev⟩, hage⟩, hlag⟩, hbid⟩, hask⟩
    exact ⟨hbook, by simpa using hready, by simpa using hemit, by simpa using hcont, hver, hlev,
      hage, hlag, hbid, hask⟩
  · intro h
    refine ⟨⟨⟨⟨⟨⟨⟨⟨h.bookValid, ?_, ?_⟩, ?_⟩, h.sameVersion⟩, h.levelsValid⟩, h.fresh⟩, h.prompt⟩,
      h.bidAgrees⟩, h.askAgrees⟩
    · simp [h.snapshotReady]
    · simp [h.readyToEmit]
    · simp [h.sequenceContinuous]

end OrderbookQualityValidator

end SomethingTrade
