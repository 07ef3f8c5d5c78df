import Mathlib.Data.Rat.Floor
import SomethingTrade.Bisect
import SomethingTrade.Dict
import SomethingTrade.Json
import SomethingTrade.Machine

/-!
# The Orderbook State of One Symbol

The authoritative orderbook of one symbol: two dictionaries from price to size, a sorted
price index for each, and the flags that say whether the book may be used. It changes
through snapshots and deltas; every other operation touches flags, times or the indexes
only.

## Representation

* Prices and sizes are stored as finite decimals by their exact value, a rational. A
  level row is what the feed delivered: its price and size are the texts that `str`
  gives, and reading them may fail.
* Ids and nanosecond times are integers; milliseconds are exact rationals.
* The statistics of the time spent not ready are one sub-record, `ReadyFalseStats`; the
  other fields are those of the source. Readings of the clock are arguments of the
  operations that take them.
* Operations that read the best prices rebuild the indexes first when their lengths are
  off (`ensurePriceIndexes`), so reading returns a state as well.

## Main results

* `orderbookMachine`: the operations as one machine over `BookCall`.
* `parseLevels_bounds`: every parsed level has decimal cells and an allowed size.
-/

namespace SomethingTrade

/-! ### Error codes -/

/-- The error codes of the orderbook checks, in the alphabetical order of their texts. -/
inductive BookError
  | bestAskMissing
  | bestBidMissing
  | bookEmpty
  | crossedBook
  | duplicateUpdate
  | invalidPriceLevel
  | invalidSizeLevel
  | negativePrice
  | negativeSize
  | nonFinitePrice
  | nonFiniteSize
  | oneSideMissing
  | previousFinalUpdateIdMismatch
  | queueLagExceeded
  | reportedBestAskMismatch
  | reportedBestBidMismatch
  | sampleBeforeBookReady
  | sequenceGapOrReset
  | snapshotInconsistent
  | staleBook
  deriving DecidableEq, Repr

namespace BookError

/-- The text of an error code. -/
def text : BookError → String
  | bestAskMissing => "best_ask_missing"
  | bestBidMissing => "best_bid_missing"
  | bookEmpty => "book_empty"
  | crossedBook => "crossed_book"
  | duplicateUpdate => "duplicate_update"
  | invalidPriceLevel => "invalid_price_level"
  | invalidSizeLevel => "invalid_size_level"
  | negativePrice => "negative_price"
  | negativeSize => "negative_size"
  | nonFinitePrice => "non_finite_price"
  | nonFiniteSize => "non_finite_size"
  | oneSideMissing => "one_side_missing"
  | previousFinalUpdateIdMismatch => "previous_final_update_id_mismatch"
  | queueLagExceeded => "queue_lag_exceeded"
  | reportedBestAskMismatch => "reported_best_ask_mismatch"
  | reportedBestBidMismatch => "reported_best_bid_mismatch"
  | sampleBeforeBookReady => "sample_before_book_ready"
  | sequenceGapOrReset => "sequence_gap_or_reset"
  | snapshotInconsistent => "snapshot_inconsistent"
  | staleBook => "stale_book"

/-- Every error code, in the order of their texts. -/
def all : List BookError :=
  [bestAskMissing, bestBidMissing, bookEmpty, crossedBook, duplicateUpdate,
    invalidPriceLevel, invalidSizeLevel, negativePrice, negativeSize, nonFinitePrice,
    nonFiniteSize, oneSideMissing, previousFinalUpdateIdMismatch, queueLagExceeded,
    reportedBestAskMismatch, reportedBestBidMismatch, sampleBeforeBookReady,
    sequenceGapOrReset, snapshotInconsistent, staleBook]

theorem mem_all (e : BookError) : e ∈ all := by cases e <;> decide

/-- `sorted(set(errors))`. -/
def sortedSet (errors : List BookError) : List BookError := all.filter fun e => e ∈ errors

/-- The codes of a sorted set ascend by text, so no code occurs twice. -/
theorem sortedSet_sorted (errors : List BookError) :
    ((sortedSet errors).map text).Pairwise (· < ·) := by
  have hall : (all.map text).Pairwise (· < ·) := by decide +kernel
  exact hall.sublist (List.filter_sublist.map text)

@[simp] theorem mem_sortedSet {e : BookError} {errors : List BookError} :
    e ∈ sortedSet errors ↔ e ∈ errors := by
  simp [sortedSet, mem_all]

@[simp] theorem sortedSet_eq_nil {errors : List BookError} :
    sortedSet errors = [] ↔ errors = [] := by
  constructor
  · intro h
    refine List.eq_nil_iff_forall_not_mem.mpr fun e he => ?_
    exact List.not_mem_nil (h ▸ mem_sortedSet.mpr he)
  · rintro rfl
    simp [sortedSet]

end BookError

/-! ### Levels -/

/-- A row of a level list, by how the source reads it: an object with attributes
`price` and `size`, a mapping, a sequence of cells, or something else. Cells are the
texts `str` gives; a mapping may lack a key. -/
inductive LevelRow
  | attrs (price size : String)
  | mapping (price size : Option String)
  | seq (cells : List String)
  | other
  deriving DecidableEq

/-- A parsed level: a positive price with a size that is not negative. -/
structure ParsedLevel where
  price : ℚ
  size : ℚ
  price_pos : 0 < price
  size_nonneg : 0 ≤ size
  deriving DecidableEq

/-- A positive finite price, or the error codes of what it is instead. -/
def parsePrice (value : String) : Option { p : ℚ // 0 < p } × List BookError :=
  match Decimal.ofText value with
  | none => (none, [.invalidPriceLevel])
  | some (.finite p) =>
      if h : p ≤ 0 then (none, [.negativePrice, .invalidPriceLevel])
      else (some ⟨p, not_le.mp h⟩, [])
  | some _ => (none, [.nonFinitePrice, .invalidPriceLevel])

/-- A finite size, positive or, where allowed, zero, or the error codes of what it is
instead. -/
def parseSize (allowZero : Bool) (value : String) :
    Option { s : ℚ // 0 ≤ s } × List BookError :=
  match Decimal.ofText value with
  | none => (none, [.invalidSizeLevel])
  | some (.finite s) =>
      if h : s < 0 ∨ (s = 0 ∧ ¬ allowZero) then (none, [.negativeSize, .invalidSizeLevel])
      else (some ⟨s, not_lt.mp fun hs => h (Or.inl hs)⟩, [])
  | some _ => (none, [.nonFiniteSize, .invalidSizeLevel])

/-- The price and size cells of a row; `none` when it has no such cells. A missing key
reads as `None`. -/
def LevelRow.cells : LevelRow → Option (String × String)
  | .attrs price size => some (price, size)
  | .mapping price size => some (price.getD "None", size.getD "None")
  | .seq (price :: size :: _) => some (price, size)
  | _ => none

/-- Parse one row: its level when both cells are good, and the errors of both. -/
def parseRow (allowZero : Bool) (row : LevelRow) : Option ParsedLevel × List BookError :=
  match row.cells with
  | none => (none, [.invalidPriceLevel, .invalidSizeLevel])
  | some (priceRaw, sizeRaw) =>
      let (price, priceErrors) := parsePrice priceRaw
      let (size, sizeErrors) := parseSize allowZero sizeRaw
      match price, size with
      | some p, some s => (some ⟨p.1, s.1, p.2, s.2⟩, priceErrors ++ sizeErrors)
      | _, _ => (none, priceErrors ++ sizeErrors)

/-- Parse all rows: the good levels and the errors of the others, in order. -/
def parseLevels (allowZero : Bool) : List LevelRow → List ParsedLevel × List BookError
  | [] => ([], [])
  | row :: rows =>
      let (level, rowErrors) := parseRow allowZero row
      let (levels, errors) := parseLevels allowZero rows
      (level.toList ++ levels, rowErrors ++ errors)

theorem isDecimal_of_parsePrice {value : String} {p : { p : ℚ // 0 < p }}
    (h : (parsePrice value).1 = some p) : IsDecimal p.1 := by
  rw [parsePrice] at h
  split at h
  · cases h
  · rename_i q hq
    split at h
    · cases h
    · obtain rfl := Option.some.inj h
      exact Decimal.isDecimal_of_ofText hq
  · cases h

theorem parseSize_spec {allowZero : Bool} {value : String} {s : { s : ℚ // 0 ≤ s }}
    (h : (parseSize allowZero value).1 = some s) :
    IsDecimal s.1 ∧ (allowZero = false → 0 < s.1) := by
  rw [parseSize] at h
  split at h
  · cases h
  · rename_i q hq
    split at h
    · cases h
    · rename_i hne
      obtain rfl := Option.some.inj h
      refine ⟨Decimal.isDecimal_of_ofText hq, fun hz => ?_⟩
      subst hz
      simp only [Bool.false_eq_true, not_false_eq_true, and_true, not_or, not_lt] at hne
      exact lt_of_le_of_ne hne.1 (Ne.symm hne.2)
  · cases h

/-- What a parsed level is known to be: its cells are decimal fractions, and its size is
positive unless zero is allowed. -/
structure LevelBounds (allowZero : Bool) (level : ParsedLevel) : Prop where
  price_decimal : IsDecimal level.price
  size_decimal : IsDecimal level.size
  size_pos : allowZero = false → 0 < level.size

theorem parseRow_bounds {allowZero : Bool} {row : LevelRow} {level : ParsedLevel}
    (h : (parseRow allowZero row).1 = some level) : LevelBounds allowZero level := by
  rw [parseRow] at h
  split at h
  · cases h
  · simp only at h
    split at h
    · rename_i p s hp hs
      obtain rfl := Option.some.inj h
      obtain ⟨hd, hpos⟩ := parseSize_spec hs
      exact ⟨isDecimal_of_parsePrice hp, hd, hpos⟩
    · cases h

/-- **Every parsed level is within its bounds**, also when other rows have errors. -/
theorem parseLevels_bounds {allowZero : Bool} {rows : List LevelRow} {level : ParsedLevel}
    (h : level ∈ (parseLevels allowZero rows).1) : LevelBounds allowZero level := by
  induction rows with
  | nil => simp [parseLevels] at h
  | cons row rows ih =>
      simp only [parseLevels, List.mem_append, Option.mem_toList] at h
      rcases h with h | h
      · exact parseRow_bounds h
      · exact ih h

/-! ### The state -/

/-- Statistics of the time spent with `ready_to_emit` false: `ready_false_since`,
the warning interval, the longest duration and the number of warnings. -/
structure ReadyFalseStats where
  sinceMonotonicNs : Option ℤ
  warningAfterNs : ℤ
  durationMsMax : ℚ
  warningCount : ℕ
  deriving DecidableEq

/-- The orderbook state of one symbol. -/
structure OrderbookState where
  symbol : String
  bids : Dict ℚ ℚ
  asks : Dict ℚ ℚ
  bidPricesAsc : List ℚ
  askPricesAsc : List ℚ
  snapshotReady : Bool
  readyToEmit : Bool
  lastUpdateId : Option ℤ
  snapshotLastUpdateId : Option ℤ
  requiredFreshSnapshotAfterUpdateId : Option ℤ
  stateVersion : ℕ
  generation : ℕ
  sequenceContinuous : Bool
  awaitingFirstDeltaAfterSnapshot : Bool
  lastNotReadyReason : Option String
  lastMessageRecvMonotonicNs : Option ℤ
  lastBookUpdateMonotonicNs : Option ℤ
  lastSuccessfulApplyMonotonicNs : Option ℤ
  lastStaleCheckMonotonicNs : Option ℤ
  lastLocalRecvMonotonicNs : Option ℤ
  lastLocalRecvWallTs : Option String
  readyFalse : ReadyFalseStats
  deriving DecidableEq

/-- `int` of a number: truncation toward zero. -/
def truncate (q : ℚ) : ℤ := if q < 0 then ⌈q⌉ else ⌊q⌋

namespace OrderbookState

/-- A fresh state, created when the clock reads `now`. -/
def init (symbol : String) (readyFalseWarningAfterSec : ℚ) (now : ℤ) : OrderbookState where
  symbol := upper symbol
  bids := .empty
  asks := .empty
  bidPricesAsc := []
  askPricesAsc := []
  snapshotReady := false
  readyToEmit := false
  lastUpdateId := none
  snapshotLastUpdateId := none
  requiredFreshSnapshotAfterUpdateId := none
  stateVersion := 0
  generation := 0
  sequenceContinuous := false
  awaitingFirstDeltaAfterSnapshot := false
  lastNotReadyReason := some "initial_snapshot_missing"
  lastMessageRecvMonotonicNs := none
  lastBookUpdateMonotonicNs := none
  lastSuccessfulApplyMonotonicNs := none
  lastStaleCheckMonotonicNs := none
  lastLocalRecvMonotonicNs := none
  lastLocalRecvWallTs := none
  readyFalse :=
    { sinceMonotonicNs := some now
      warningAfterNs := truncate (readyFalseWarningAfterSec * 1000000000)
      durationMsMax := 0
      warningCount := 0 }

/-! ### Indexes and checks -/

/-- Sort both key lists afresh. -/
def rebuildPriceIndexes (s : OrderbookState) : OrderbookState :=
  { s with
    bidPricesAsc := s.bids.keys.insertionSort (· ≤ ·)
    askPricesAsc := s.asks.keys.insertionSort (· ≤ ·) }

/-- Rebuild the indexes when a length is off. -/
def ensurePriceIndexes (s : OrderbookState) : OrderbookState :=
  if s.bidPricesAsc.length ≠ s.bids.size ∨ s.askPricesAsc.length ≠ s.asks.size then
    s.rebuildPriceIndexes
  else s

/-- The highest bid, read off the end of the bid index. -/
def bestBid (s : OrderbookState) : Option ℚ := s.ensurePriceIndexes.bidPricesAsc.getLast?

/-- The lowest ask, read off the front of the ask index. -/
def bestAsk (s : OrderbookState) : Option ℚ := s.ensurePriceIndexes.askPricesAsc.head?

/-- The errors of stored levels. Stored prices and sizes are finite, so the checks left
are those of their signs. -/
def activeLevelErrors (book : Dict ℚ ℚ) : List BookError :=
  book.entries.flatMap fun e =>
    (if e.1 ≤ 0 then [.negativePrice, .invalidPriceLevel] else []) ++
      if e.2 ≤ 0 then [.negativeSize, .invalidSizeLevel] else []

/-- The errors of the whole book. -/
def validate (s : OrderbookState) : List BookError :=
  let bid := s.bestBid
  let ask := s.bestAsk
  BookError.sortedSet <|
    activeLevelErrors s.bids ++ activeLevelErrors s.asks ++
      (if s.bids.size = 0 ∧ s.asks.size = 0 then [.bookEmpty] else []) ++
      (if s.bids.size = 0 ∨ s.asks.size = 0 then [.oneSideMissing] else []) ++
      (if bid = none then [.bestBidMissing] else []) ++
      (if ask = none then [.bestAskMissing] else []) ++
      match bid, ask with
      | some b, some a => if b ≥ a then [.crossedBook] else []
      | _, _ => []

/-! ### Readiness -/

/-- Bring the not-ready statistics up to `now`. -/
def recordReadyFalseAge (s : OrderbookState) (now : ℤ) : OrderbookState :=
  { s with
    readyFalse :=
      match s.readyToEmit, s.readyFalse.sinceMonotonicNs with
      | false, some since =>
          let durationMs : ℚ := (now - since) / 1000000
          let threshold := s.readyFalse.warningAfterNs
          { s.readyFalse with
            durationMsMax :=
              if durationMs > s.readyFalse.durationMsMax then durationMs
              else s.readyFalse.durationMsMax
            warningCount :=
              if threshold > 0 ∧ now - since ≥ (s.readyFalse.warningCount + 1) * threshold
              then s.readyFalse.warningCount + 1
              else s.readyFalse.warningCount }
      | _, _ => s.readyFalse }

/-- Recompute `ready_to_emit` from the flags and the errors of the book. -/
def refreshReadyToEmit (s : OrderbookState) (now : ℤ) : OrderbookState :=
  let errors := s.validate
  let s := s.ensurePriceIndexes
  if s.snapshotReady ∧ s.sequenceContinuous ∧ ¬ s.awaitingFirstDeltaAfterSnapshot ∧
      errors = [] then
    { s with
      readyToEmit := true
      readyFalse := { s.readyFalse with sinceMonotonicNs := none }
      lastNotReadyReason := none }
  else
    { s with
      readyToEmit := false
      readyFalse :=
        { s.readyFalse with sinceMonotonicNs := some (s.readyFalse.sinceMonotonicNs.getD now) }
      lastNotReadyReason := some (orText s.lastNotReadyReason "quality_gate_failed") }
    |>.recordReadyFalseAge now

/-- Note the receive time of a message. -/
def recordMessageRecv (s : OrderbookState) (recv : ℤ) : OrderbookState :=
  { s with lastMessageRecvMonotonicNs := some recv, lastLocalRecvMonotonicNs := some recv }

/-- Take the book out of use. `clock` is the reading used when no time is given. -/
def markNotReady (s : OrderbookState) (reason : String) (recv : Option ℤ)
    (advanceGeneration : Bool) (gapBoundaryUpdateId : Option ℤ) (clock : ℤ) :
    OrderbookState :=
  let now := orNumber recv clock
  { s with
    readyFalse :=
      { s.readyFalse with sinceMonotonicNs := some (s.readyFalse.sinceMonotonicNs.getD now) }
    snapshotReady := false
    readyToEmit := false
    sequenceContinuous := false
    awaitingFirstDeltaAfterSnapshot := false
    lastNotReadyReason := some reason
    generation := if advanceGeneration then s.generation + 1 else s.generation
    requiredFreshSnapshotAfterUpdateId :=
      match gapBoundaryUpdateId with
      | some u => some u
      | none => s.requiredFreshSnapshotAfterUpdateId }
  |>.recordReadyFalseAge now

/-- Recompute readiness on request; the result is the new `ready_to_emit`. -/
def markReady (s : OrderbookState) (recv : Option ℤ) (clock : ℤ) : OrderbookState :=
  s.refreshReadyToEmit (orNumber recv clock)

/-- Empty the book when its symbol is removed. -/
def cleanup (s : OrderbookState) : OrderbookState :=
  { s with
    bids := .empty
    asks := .empty
    bidPricesAsc := []
    askPricesAsc := []
    snapshotReady := false
    readyToEmit := false
    sequenceContinuous := false
    awaitingFirstDeltaAfterSnapshot := false
    lastNotReadyReason := some "symbol_removed" }

/-! ### Results of snapshots and deltas -/

end OrderbookState

/-- The outcomes of applying a snapshot or a delta. -/
inductive ApplyStatus
  | staleSnapshotGeneration
  | staleSnapshotBeforeGapBoundary
  | snapshotInvalidLevels
  | snapshotLoaded
  | deltaBeforeSnapshot
  | duplicateUpdate
  | previousFinalUpdateIdMismatch
  | sequenceBridgeFailed
  | sequenceGapOrReset
  | invalidDeltaLevels
  | deltaApplied
  deriving DecidableEq, Repr

/-- The text of an outcome. -/
def ApplyStatus.text : ApplyStatus → String
  | staleSnapshotGeneration => "stale_snapshot_generation"
  | staleSnapshotBeforeGapBoundary => "stale_snapshot_before_gap_boundary"
  | snapshotInvalidLevels => "snapshot_invalid_levels"
  | snapshotLoaded => "snapshot_loaded"
  | deltaBeforeSnapshot => "delta_before_snapshot"
  | duplicateUpdate => "duplicate_update"
  | previousFinalUpdateIdMismatch => "previous_final_update_id_mismatch"
  | sequenceBridgeFailed => "sequence_bridge_failed"
  | sequenceGapOrReset => "sequence_gap_or_reset"
  | invalidDeltaLevels => "invalid_delta_levels"
  | deltaApplied => "delta_applied"

/-- The result of applying a snapshot or a delta. -/
structure OrderbookApplyResult where
  accepted : Bool
  status : ApplyStatus
  errors : List BookError
  firstUpdateId : Option ℤ
  finalUpdateId : Option ℤ
  previousLastUpdateId : Option ℤ
  expectedNextUpdateId : Option ℤ
  stateVersionBefore : ℕ
  stateVersionAfter : ℕ
  snapshotReadyBefore : Bool
  snapshotReadyAfter : Bool
  readyToEmitAfter : Bool
  generationBefore : ℕ
  generationAfter : ℕ
  deriving DecidableEq

/-- The arguments of a snapshot, with the clock readings its call may take. -/
structure SnapshotArgs where
  bids : List LevelRow
  asks : List LevelRow
  lastUpdateId : ℤ
  localRecvMonotonicNs : ℤ
  localRecvWallTs : Option String
  generation : Option ℤ
  monotonicNow : ℤ
  utcIsoNow : String

/-- The arguments of a delta, with the clock reading its call may take. -/
structure DeltaArgs where
  firstUpdateId : ℤ
  finalUpdateId : ℤ
  bids : List LevelRow
  asks : List LevelRow
  localRecvMonotonicNs : ℤ
  previousFinalUpdateId : Option ℤ
  monotonicNow : ℤ

namespace OrderbookState

/-- The result of a call that started in state `before` and ends in `s`. -/
def result (s before : OrderbookState) (firstUpdateId finalUpdateId : Option ℤ)
    (accepted : Bool) (status : ApplyStatus) (errors : List BookError)
    (expectedNextUpdateId : Option ℤ) : OrderbookApplyResult where
  accepted := accepted
  status := status
  errors := errors
  firstUpdateId := firstUpdateId
  finalUpdateId := finalUpdateId
  previousLastUpdateId := before.lastUpdateId
  expectedNextUpdateId := expectedNextUpdateId
  stateVersionBefore := before.stateVersion
  stateVersionAfter := s.stateVersion
  snapshotReadyBefore := before.snapshotReady
  snapshotReadyAfter := s.snapshotReady
  readyToEmitAfter := s.readyToEmit
  generationBefore := before.generation
  generationAfter := s.generation

/-! ### Snapshots -/

/-- The dictionary of a list of levels; a later level overwrites an earlier one. -/
def bookOfLevels (levels : List ParsedLevel) : Dict ℚ ℚ :=
  .ofList (levels.map fun l => (l.price, l.size))

/-- The state after an accepted snapshot with parsed levels. -/
def loadSnapshot (s : OrderbookState) (a : SnapshotArgs) (bids asks : List ParsedLevel) :
    OrderbookState :=
  { s with bids := bookOfLevels bids, asks := bookOfLevels asks }.rebuildPriceIndexes
  |> fun s =>
    { s with
      snapshotReady := true
      sequenceContinuous := false
      awaitingFirstDeltaAfterSnapshot := true
      readyToEmit := false
      lastNotReadyReason := some "waiting_for_first_delta_bridge"
      lastUpdateId := some a.lastUpdateId
      snapshotLastUpdateId := some a.lastUpdateId
      requiredFreshSnapshotAfterUpdateId := none
      lastBookUpdateMonotonicNs := some a.localRecvMonotonicNs
      lastSuccessfulApplyMonotonicNs := some a.localRecvMonotonicNs
      lastLocalRecvMonotonicNs := some a.localRecvMonotonicNs
      lastLocalRecvWallTs := some (orText a.localRecvWallTs a.utcIsoNow)
      stateVersion := s.stateVersion + 1 }
  |>.recordReadyFalseAge a.localRecvMonotonicNs

/-- A snapshot at or below the boundary of the last gap is stale. -/
def beforeGapBoundary (s : OrderbookState) (lastUpdateId : ℤ) : Bool :=
  match s.requiredFreshSnapshotAfterUpdateId with
  | some u => lastUpdateId ≤ u
  | none => false

/-- Apply a snapshot. -/
def applySnapshot (s : OrderbookState) (a : SnapshotArgs) :
    OrderbookState × OrderbookApplyResult :=
  let s := s.recordMessageRecv a.localRecvMonotonicNs
  let before := s
  if a.generation ≠ none ∧ a.generation ≠ some (s.generation : ℤ) then
    (s, s.result before none none false .staleSnapshotGeneration [.snapshotInconsistent] none)
  else if s.beforeGapBoundary a.lastUpdateId then
    (s, s.result before none none false .staleSnapshotBeforeGapBoundary [.sequenceGapOrReset]
      none)
  else
    let (parsedBids, bidErrors) := parseLevels false a.bids
    let (parsedAsks, askErrors) := parseLevels false a.asks
    let errors := BookError.sortedSet (bidErrors ++ askErrors)
    if errors ≠ [] then
      let s := s.markNotReady "snapshot_invalid_levels" (some a.localRecvMonotonicNs) false none
        a.monotonicNow
      (s, s.result before none none false .snapshotInvalidLevels errors none)
    else
      let s := s.loadSnapshot a parsedBids parsedAsks
      (s, s.result before none none true .snapshotLoaded [] none)

/-! ### Deltas -/

/-- Apply one level to a side: its dictionary and its sorted index. -/
def applyLevel (side : Dict ℚ ℚ × List ℚ) (level : ParsedLevel) : Dict ℚ ℚ × List ℚ :=
  let (book, sortedPricesAsc) := side
  let existing := book.get? level.price
  if level.size = 0 then
    if existing.isSome then (book.pop level.price, discard sortedPricesAsc level.price)
    else (book, sortedPricesAsc)
  else
    (book.set level.price level.size,
      if existing.isSome then sortedPricesAsc else insort sortedPricesAsc level.price)

/-- The state after an accepted delta with parsed levels. -/
def commitDelta (s : OrderbookState) (a : DeltaArgs) (bids asks : List ParsedLevel) :
    OrderbookState :=
  let (bidBook, bidPrices) := bids.foldl applyLevel (s.bids, s.bidPricesAsc)
  let (askBook, askPrices) := asks.foldl applyLevel (s.asks, s.askPricesAsc)
  { s with
    bids := bidBook
    asks := askBook
    bidPricesAsc := bidPrices
    askPricesAsc := askPrices
    lastUpdateId := some a.finalUpdateId
    lastBookUpdateMonotonicNs := some a.localRecvMonotonicNs
    lastSuccessfulApplyMonotonicNs := some a.localRecvMonotonicNs
    lastLocalRecvMonotonicNs := some a.localRecvMonotonicNs
    awaitingFirstDeltaAfterSnapshot := false
    sequenceContinuous := true
    stateVersion := s.stateVersion + 1 }
  |>.refreshReadyToEmit a.localRecvMonotonicNs

/-- The first delta after a snapshot covers the id after it. -/
def bridges (a : DeltaArgs) (snapshotId : ℤ) : Prop :=
  a.firstUpdateId ≤ snapshotId + 1 ∧ snapshotId + 1 ≤ a.finalUpdateId

instance (a : DeltaArgs) (snapshotId : ℤ) : Decidable (bridges a snapshotId) :=
  inferInstanceAs (Decidable (_ ∧ _))

/-- The sequence check of a delta that is newer than the book at `last`: the outcome that
rejects it, or nothing. -/
def sequenceFailure (s : OrderbookState) (a : DeltaArgs) (last : ℤ) : Option ApplyStatus :=
  if a.previousFinalUpdateId ≠ none ∧ a.previousFinalUpdateId ≠ some last then
    some .previousFinalUpdateIdMismatch
  else if s.awaitingFirstDeltaAfterSnapshot then
    match s.snapshotLastUpdateId with
    | some snapshotId => if bridges a snapshotId then none else some .sequenceBridgeFailed
    | none => some .sequenceBridgeFailed
  else if a.firstUpdateId ≠ last + 1 then some .sequenceGapOrReset
  else none

/-- The error code that goes with a failed sequence check. -/
def sequenceFailureError : ApplyStatus → BookError
  | .previousFinalUpdateIdMismatch => .previousFinalUpdateIdMismatch
  | _ => .sequenceGapOrReset

/-- Apply a delta. A failed check of a delta newer than the book takes the book out of
use and makes its final id the gap boundary. -/
def applyDelta (s : OrderbookState) (a : DeltaArgs) : OrderbookState × OrderbookApplyResult :=
  let s := s.recordMessageRecv a.localRecvMonotonicNs
  let before := s
  let result (s : OrderbookState) :=
    s.result before (some a.firstUpdateId) (some a.finalUpdateId)
  let fail (reason : String) :=
    s.markNotReady reason (some a.localRecvMonotonicNs) true (some a.finalUpdateId)
      a.monotonicNow
  match s.snapshotReady, s.lastUpdateId with
  | true, some last =>
      if a.finalUpdateId ≤ last then
        let s := s.recordReadyFalseAge a.localRecvMonotonicNs
        (s, result s false .duplicateUpdate [.duplicateUpdate] (some (last + 1)))
      else
        match s.sequenceFailure a last with
        | some status =>
            let s := fail status.text
            (s, result s false status [sequenceFailureError status] (some (last + 1)))
        | none =>
            let (parsedBids, bidErrors) := parseLevels true a.bids
            let (parsedAsks, askErrors) := parseLevels true a.asks
            let errors := BookError.sortedSet (bidErrors ++ askErrors)
            if errors ≠ [] then
              let s := fail "invalid_delta_fail_closed"
              (s, result s false .invalidDeltaLevels errors (some (last + 1)))
            else
              let s := s.commitDelta a parsedBids parsedAsks
              (s, result s true .deltaApplied [] (some (last + 1)))
  | _, _ =>
      let s := s.recordReadyFalseAge a.localRecvMonotonicNs
      (s, result s false .deltaBeforeSnapshot [.sampleBeforeBookReady] none)

/-! ### Copies -/

end OrderbookState

/-- An immutable copy of the top of a book. -/
structure OrderbookSnapshot where
  symbol : String
  snapshotVersion : ℕ
  stateVersion : ℕ
  generationId : ℕ
  bidsTopN : List (ℚ × ℚ)
  asksTopN : List (ℚ × ℚ)
  bidCount : ℕ
  askCount : ℕ
  bestBid : Option ℚ
  bestAsk : Option ℚ
  spread : Option ℚ
  mid : Option ℚ
  lastUpdateId : Option ℤ
  lastBookUpdateMonotonicNs : Option ℤ
  localRecvMonotonicNs : ℤ
  localRecvWallTs : String
  deriving DecidableEq

namespace OrderbookState

/-- The levels of the listed prices, without those of size zero; `none` when a price is
not in the book (a `KeyError`). -/
def copyLevels (book : Dict ℚ ℚ) : List ℚ → Option (List (ℚ × ℚ))
  | [] => some []
  | price :: prices => do
      let size ← book.get? price
      let levels ← copyLevels book prices
      return if size ≠ 0 then (price, size) :: levels else levels

/-- The highest `n` bids, best first. -/
def copyTopBidLevels (s : OrderbookState) (n : ℤ) : Option (List (ℚ × ℚ)) :=
  if n ≤ 0 then some []
  else copyLevels s.bids (s.bidPricesAsc.drop (s.bidPricesAsc.length - n.toNat)).reverse

/-- The lowest `n` asks, best first. -/
def copyTopAskLevels (s : OrderbookState) (n : ℤ) : Option (List (ℚ × ℚ)) :=
  if n ≤ 0 then some []
  else copyLevels s.asks (s.askPricesAsc.take (min s.askPricesAsc.length n.toNat))

/-- The best `n` levels of a side; any side text other than `bid` is the ask side. -/
def topN (s : OrderbookState) (side : String) (n : ℤ) : Option (List (ℚ × ℚ)) :=
  if side = "bid" then s.ensurePriceIndexes.copyTopBidLevels n
  else s.ensurePriceIndexes.copyTopAskLevels n

/-- The arguments of a copy, with the clock readings its call may take. -/
structure CopyArgs where
  topN : ℤ
  localRecvMonotonicNs : Option ℤ
  localRecvWallTs : Option String
  monotonicNow : ℤ
  utcIsoNow : String

/-- The copy with the given top levels. -/
def copyOf (s : OrderbookState) (a : CopyArgs) (bidsTopN asksTopN : List (ℚ × ℚ)) :
    OrderbookSnapshot :=
  let bid := bidsTopN.head?.map Prod.fst
  let ask := asksTopN.head?.map Prod.fst
  { symbol := s.symbol
    snapshotVersion := s.stateVersion
    stateVersion := s.stateVersion
    generationId := s.generation
    bidsTopN := bidsTopN
    asksTopN := asksTopN
    bidCount := s.bids.size
    askCount := s.asks.size
    bestBid := bid
    bestAsk := ask
    spread := do return (← ask) - (← bid)
    mid := do return ((← bid) + (← ask)) / 2
    lastUpdateId := s.lastUpdateId
    lastBookUpdateMonotonicNs := s.lastBookUpdateMonotonicNs
    localRecvMonotonicNs := orNumber a.localRecvMonotonicNs a.monotonicNow
    localRecvWallTs := orText a.localRecvWallTs (orText s.lastLocalRecvWallTs a.utcIsoNow) }

/-- Copy the top of the book. -/
def copySnapshot (s : OrderbookState) (a : CopyArgs) : Option OrderbookSnapshot := do
  let s := s.ensurePriceIndexes
  let bidsTopN ← s.copyTopBidLevels a.topN
  let asksTopN ← s.copyTopAskLevels a.topN
  return s.copyOf a bidsTopN asksTopN

/-- The age of the book in milliseconds, if it was ever updated. -/
def bookAgeMs (s : OrderbookState) (now : ℤ) : Option ℚ :=
  s.lastBookUpdateMonotonicNs.map fun t => (now - t : ℚ) / 1000000

end OrderbookState

/-! ### Calls -/

/-- A call of one of the operations. -/
inductive BookCall
  | applySnapshot (a : SnapshotArgs)
  | applyDelta (a : DeltaArgs)
  | markNotReady (reason : String) (recv : Option ℤ) (advanceGeneration : Bool)
      (gapBoundaryUpdateId : Option ℤ) (clock : ℤ)
  | markReady (recv : Option ℤ) (clock : ℤ)
  | cleanup
  | recordMessageRecv (recv : ℤ)
  | bookAgeMs (now : ℤ)
  | bestBid
  | bestAsk
  | topN (side : String) (n : ℤ)
  | copySnapshot (a : OrderbookState.CopyArgs)
  | validate

/-- The value a call returns; a copy or a level list is `none` on a `KeyError`. -/
inductive BookReply
  | applied (result : OrderbookApplyResult)
  | ready (readyToEmit : Bool)
  | done
  | age (ms : Option ℚ)
  | price (best : Option ℚ)
  | levels (top : Option (List (ℚ × ℚ)))
  | copy (snapshot : Option OrderbookSnapshot)
  | errors (found : List BookError)
  deriving DecidableEq

/-- The state of one symbol as a machine. -/
def orderbookMachine : Machine OrderbookState BookCall BookReply where
  step s
    | .applySnapshot a => ((s.applySnapshot a).1, .applied (s.applySnapshot a).2)
    | .applyDelta a => ((s.applyDelta a).1, .applied (s.applyDelta a).2)
    | .markNotReady reason recv advance boundary clock =>
        (s.markNotReady reason recv advance boundary clock, .done)
    | .markReady recv clock =>
        (s.markReady recv clock, .ready (s.markReady recv clock).readyToEmit)
    | .cleanup => (s.cleanup, .done)
    | .recordMessageRecv recv => (s.recordMessageRecv recv, .done)
    | .bookAgeMs now =>
        ({ s with lastStaleCheckMonotonicNs := some now }, .age (s.bookAgeMs now))
    | .bestBid => (s.ensurePriceIndexes, .price s.bestBid)
    | .bestAsk => (s.ensurePriceIndexes, .price s.bestAsk)
    | .topN side n => (s.ensurePriceIndexes, .levels (s.topN side n))
    | .copySnapshot a => (s.ensurePriceIndexes, .copy (s.copySnapshot a))
    | .validate => (s.ensurePriceIndexes, .errors s.validate)

end SomethingTrade
