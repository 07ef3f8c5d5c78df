import SomethingTrade.MidRepricing
import SomethingTrade.StableSort

/-!
# The Taxonomy of Reject Reasons

The dataset report sorts the reject reasons of the detector's observations into categories,
by a table that names the reasons one by one. The table names the reasons of the detections,
the windows and the time limit, but of the lifecycle types only `closed`: the reasons that
are the texts of the other types fall into `unknown` (`taxonomy_covers_iff`).

## Representation

* Rows are decoded JSON objects. Quotients of counts and medians are exact.
* Of an observation, `observationRow` has the columns the taxonomy reads.

## Main results

* `sum_categories`: the categories count every rejected row once.
* `taxonomy_covers_iff`: when the taxonomy covers the observations of a run.
* `resolved_market_unlisted`: a gap that ends with its market and falls into `unknown`.
-/

namespace SomethingTrade

/-! ### The table -/

/-- The categories with their reasons. -/
def rejectTaxonomy : List (String × List String) :=
  [("pre_entry_data_unavailable",
      ["missing_quote", "direction_token_unmapped", "market_invalidated"]),
    ("book_quality",
      ["book_incomplete", "book_stale", "missing_best_ask", "missing_best_ask_size",
        "missing_spread", "missing_snapshot", "missing_tick_size", "structurally_incomplete"]),
    ("liquidity", ["insufficient_best_ask_size"]),
    ("spread_and_entry_quality", ["spread_too_wide", "entry_price_moved"]),
    ("staleness",
      ["quote_stale", "binance_stale", "polymarket_stale", "both_stale",
        "stale_source_unknown"]),
    ("lifecycle", ["closed", "resolved", "lifecycle", "market_expired", "market_closed"]),
    ("timeout", ["max_observation_lifetime_reached"]),
    ("edge_failure", ["edge_not_positive_after_spread"])]

/-- The category of each reason that the table names. -/
def reasonToCategory : Dict String String :=
  (rejectTaxonomy.flatMap fun e => e.2.map fun reason => (reason, e.1)).foldl
    (fun d e => d.setDefault e.1 e.2) .empty

/-- The category of a reason. -/
def categoryOfReason (reason : String) : String := (reasonToCategory.get? reason).getD "unknown"

/-- The categories of the report. -/
def rejectCategories : List String := rejectTaxonomy.map Prod.fst ++ ["unknown"]

/-! ### Columns -/

/-- The quality tiers. -/
def qualityTiers : List String := ["A", "B", "C", "D"]

/-- The validation modes a row may name. -/
def validationModeKeys : List String := ["strict", "tolerant", "diagnostic", "unknown"]

/-- The quality tier of a row. -/
def tierKey (row : Json) : String :=
  let tier := upper ((row.get "data_quality_tier").orElse (.str "D")).text
  if tier ∈ qualityTiers then tier else "D"

/-- The validation mode of a row. -/
def validationModeKey (row : Json) : String :=
  let mode := lower ((row.get "validation_mode").orElse (.str "unknown")).text
  if mode ∈ validationModeKeys then mode else "unknown"

/-- The reject reason of a row. -/
def reasonKey (row : Json) : String :=
  let reason := row.get "reject_reason"
  if reason.isNull then "unknown" else reason.text

/-- The text a value is counted under. -/
def valueKey : Json → String
  | .null => "unknown"
  | .bool b => if b then "true" else "false"
  | value => value.text

/-- The number a value is, if it is one; booleans are not. -/
def numberOf? : Json → Option ℚ
  | .bool _ => none
  | value => value.asNumber?

/-- Counts of values by their key, the largest first and equal ones by key. -/
def fieldCounter (rows : List Json) (field : String) : List (String × ℕ) :=
  ((Dict.groupBy (fun row => valueKey (row.get field)) rows).entries.map fun e =>
    (e.1, e.2.length)).insertionSort fun a b => a.2 > b.2 ∨ a.2 = b.2 ∧ a.1 ≤ b.1

/-- How many rows have each of some keys. -/
def keyCounter (keys : List String) (key : Json → String) (rows : List Json) :
    List (String × ℕ) :=
  keys.map fun k => (k, (rows.filter fun row => key row = k).length)

/-- The middle of some numbers, or the mean of the middle two. -/
def median (values : List ℚ) : Option ℚ :=
  let sorted := values.insertionSort (· ≤ ·)
  let half := sorted.length / 2
  if sorted.length % 2 = 1 then sorted[half]?
  else
    match sorted[half - 1]?, sorted[half]? with
    | some a, some b => some ((a + b) / 2)
    | _, _ => none

/-- A count as a share of a total. -/
def rateOf (count total : ℕ) : ℚ := if total = 0 then 0 else count / total

/-! ### The report -/

/-- What the report says of a group of rejected rows. -/
structure RejectGroupStats where
  count : ℕ
  percentageOfTotalRows : ℚ
  percentageOfRejectedRows : ℚ
  tierDistribution : List (String × ℕ)
  validationModeDistribution : List (String × ℕ)
  symbolDistribution : List (String × ℕ)
  directionDistribution : List (String × ℕ)
  medianBinanceQuoteAgeMs : Option ℚ
  medianPolymarketQuoteAgeMs : Option ℚ

/-- A group of rejected rows in numbers. -/
def rejectGroupStats (rows : List Json) (totalRows rejectedRows : ℕ) : RejectGroupStats where
  count := rows.length
  percentageOfTotalRows := rateOf rows.length totalRows
  percentageOfRejectedRows := rateOf rows.length rejectedRows
  tierDistribution := keyCounter qualityTiers tierKey rows
  validationModeDistribution := keyCounter validationModeKeys validationModeKey rows
  symbolDistribution := fieldCounter rows "symbol"
  directionDistribution := fieldCounter rows "direction"
  medianBinanceQuoteAgeMs :=
    median (rows.filterMap fun row => numberOf? (row.get "binance_quote_age_ms"))
  medianPolymarketQuoteAgeMs :=
    median (rows.filterMap fun row => numberOf? (row.get "polymarket_quote_age_ms"))

/-- A category of the report, with its reasons. -/
structure RejectCategory where
  stats : RejectGroupStats
  reasons : List (String × RejectGroupStats)

/-- A reason of the report. -/
structure RejectReason where
  category : String
  stats : RejectGroupStats

/-- The report on the rejected rows. -/
structure RejectTaxonomyReport where
  totalRows : ℕ
  rejectedRows : ℕ
  categories : List (String × RejectCategory)
  reasons : List (String × RejectReason)

/-- Whether a row is a rejection. -/
def isRejectedRow (row : Json) : Bool :=
  !(row.get "reject_stage").isText "none" || !(row.get "reject_reason").isNull

/-- How many rows are successes. -/
def successCount (rows : List Json) : ℕ :=
  rows.countP fun row => (row.get "reject_stage").isText "none"

/-- The taxonomy of some rows, with the reasons that occur most. -/
def buildRejectTaxonomy (rows : List Json) (topN : ℕ) : RejectTaxonomyReport :=
  let rejectedRows := rows.filter isRejectedRow
  let stats (group : List Json) := rejectGroupStats group rows.length rejectedRows.length
  let categoryRows := Dict.groupBy (fun row => categoryOfReason (reasonKey row)) rejectedRows
  let reasonRows := Dict.groupBy reasonKey rejectedRows
  { totalRows := rows.length
    rejectedRows := rejectedRows.length
    categories := rejectCategories.map fun category =>
      (category,
        { stats := stats ((categoryRows.get? category).getD [])
          reasons := ((reasonRows.entries.insertionSort fun a b => a.1 ≤ b.1).filter fun e =>
            categoryOfReason e.1 = category).map fun e => (e.1, stats e.2) })
    reasons := ((reasonRows.entries.insertionSort fun a b =>
      a.2.length > b.2.length ∨ a.2.length = b.2.length ∧ a.1 ≤ b.1).take topN).map fun e =>
        (e.1, ⟨categoryOfReason e.1, stats e.2⟩) }

/-! ### Counts -/

theorem mem_rejectCategories (reason : String) : categoryOfReason reason ∈ rejectCategories := by
  rw [categoryOfReason]
  cases h : reasonToCategory.get? reason with
  | none => decide
  | some category =>
      have hall : ∀ e ∈ reasonToCategory.entries, e.2 ∈ rejectCategories := by
        decide +kernel
      exact hall (reason, category) (Dict.mem_entries_iff.mpr h)

/-- **The categories count every rejected row once.** -/
theorem sum_categories (rows : List Json) (topN : ℕ) :
    ((buildRejectTaxonomy rows topN).categories.map fun e => e.2.stats.count).sum =
      (buildRejectTaxonomy rows topN).rejectedRows := by
  have hgroup (category : String) :
      ((Dict.groupBy (fun row => categoryOfReason (reasonKey row))
        (rows.filter isRejectedRow)).get? category).getD [] =
      (rows.filter isRejectedRow).filter fun row =>
        categoryOfReason (reasonKey row) = category := by
    rw [Dict.get?_groupBy]
    split
    · rename_i hempty
      rw [hempty]
      rfl
    · rfl
  have hcounts : (buildRejectTaxonomy rows topN).categories.map (fun e => e.2.stats.count) =
      rejectCategories.map fun category => ((rows.filter isRejectedRow).filter fun row =>
        categoryOfReason (reasonKey row) = category).length := by
    simp only [buildRejectTaxonomy, List.map_map, Function.comp_def, rejectGroupStats, hgroup]
  rw [hcounts]
  have hcovered : ∀ row ∈ rows.filter isRejectedRow,
      categoryOfReason (reasonKey row) ∈ rejectCategories := fun row _ => mem_rejectCategories _
  exact sum_length_filter (by decide) hcovered

/-! ### Rows of observations -/

/-- The text of a stage. -/
def RejectStage.text : RejectStage → String
  | preEntry => "pre_entry"
  | window => "window"
  | exit => "exit"
  | lifecycle => "lifecycle"
  | timeout => "timeout"
  | none => "none"

/-- The text of a quality tier. -/
def DataQualityTier.text : DataQualityTier → String
  | A => "A"
  | B => "B"
  | C => "C"
  | D => "D"

/-- The text of a validation mode. -/
def ValidationMode.text : ValidationMode → String
  | strict => "strict"
  | tolerant => "tolerant"
  | diagnostic => "diagnostic"

/-- The row of an observation. -/
def observationRow (o : TradableGapObservation) : Json :=
  .obj [("symbol", .str o.symbol), ("direction", .str o.direction.text),
    ("validation_mode", .str o.validationMode.text),
    ("data_quality_tier", .str o.dataQualityTier.text),
    ("binance_quote_age_ms", .ofFloat? o.staleDiagnostics.binanceQuoteAgeMs),
    ("polymarket_quote_age_ms", .ofFloat? o.staleDiagnostics.polymarketQuoteAgeMs),
    ("reject_stage", .str o.rejectStage.text), ("reject_reason", .ofText? o.rejectReason)]

/-- The category the taxonomy puts an observation into. -/
def categoryOf (o : TradableGapObservation) : String :=
  categoryOfReason (reasonKey (observationRow o))

theorem categoryOf_eq {o : TradableGapObservation} {reason : String}
    (h : o.rejectReason = some reason) : categoryOf o = categoryOfReason reason := by
  simp [categoryOf, reasonKey, observationRow, h, Json.ofText?, Json.isNull, Json.text]

theorem isText_stage (o : TradableGapObservation) :
    ((observationRow o).get "reject_stage").isText "none" = decide (o.rejectStage = .none) := by
  cases h : o.rejectStage <;> simp [observationRow, h, RejectStage.text, Json.isText]

theorem isRejectedRow_observation (o : TradableGapObservation) :
    isRejectedRow (observationRow o) = (decide (o.rejectStage ≠ .none) || o.rejectReason.isSome) := by
  rw [isRejectedRow, isText_stage]
  cases h : o.rejectReason <;> simp [observationRow, h, Json.ofText?, Json.isNull]

/-- The taxonomy covers an observation: a rejected one falls into a category, that of its
stage if the table has one. -/
structure CoveredByTaxonomy (o : TradableGapObservation) : Prop where
  known : o.rejectStage ≠ .none → categoryOf o ≠ "unknown"
  lifecycle : o.rejectStage = .lifecycle → categoryOf o = "lifecycle"
  timeout : o.rejectStage = .timeout → categoryOf o = "timeout"

/-- The report counts some observations: its categories add up to the rejected ones, and
these and the successes to all. -/
structure CountedByTaxonomy (rows : List TradableGapObservation) (topN : ℕ) : Prop where
  categories : ((buildRejectTaxonomy (rows.map observationRow) topN).categories.map
    fun e => e.2.stats.count).sum =
      (buildRejectTaxonomy (rows.map observationRow) topN).rejectedRows
  rows : (buildRejectTaxonomy (rows.map observationRow) topN).rejectedRows +
    successCount (rows.map observationRow) = rows.length

theorem countedByTaxonomy {rows : List TradableGapObservation}
    (h : ∀ o ∈ rows, o.rejectStage = .none → o.rejectReason = none) (topN : ℕ) :
    CountedByTaxonomy rows topN := by
  refine ⟨sum_categories _ topN, ?_⟩
  have hrejected : (buildRejectTaxonomy (rows.map observationRow) topN).rejectedRows =
      rows.countP fun o => decide (o.rejectStage ≠ .none) := by
    have hlength : (buildRejectTaxonomy (rows.map observationRow) topN).rejectedRows =
      ((rows.map observationRow).filter isRejectedRow).length := rfl
    rw [hlength, ← List.countP_eq_length_filter, List.countP_map]
    refine List.countP_congr fun o ho => ?_
    rw [Function.comp_apply, isRejectedRow_observation]
    by_cases hstage : o.rejectStage = .none
    · simp [hstage, h o ho hstage]
    · simp [hstage]
  have hsuccess : successCount (rows.map observationRow) =
      rows.countP fun o => decide (o.rejectStage = .none) := by
    rw [successCount, List.countP_map]
    refine List.countP_congr fun o _ => ?_
    rw [Function.comp_apply, isText_stage]
  rw [hrejected, hsuccess, List.length_eq_countP_add_countP (fun o : TradableGapObservation =>
    decide (o.rejectStage ≠ .none))]
  simp

/-! ### Runs of the detector -/

namespace GapDetector

theorem known_preEntryReasons : ∀ reason ∈ preEntryReasons,
    categoryOfReason reason ≠ "unknown" := by decide +kernel

theorem known_windowReasons : ∀ reason ∈ windowReasons,
    categoryOfReason reason ≠ "unknown" := by decide +kernel

theorem category_timeout : categoryOfReason timeoutReasonText = "timeout" := by decide +kernel

/-- An observation that is rejected at a stage that has no category of its own. -/
theorem covered_of_known {o : TradableGapObservation} {stage : RejectStage} {reason : String}
    (hstage : o.rejectStage = stage) (hother : stage = .preEntry ∨ stage = .window)
    (hreason : o.rejectReason = some reason) (hknown : categoryOfReason reason ≠ "unknown") :
    CoveredByTaxonomy o := by
  subst hstage
  refine ⟨fun _ => (categoryOf_eq hreason).trans_ne hknown, fun h => ?_, fun h => ?_⟩ <;>
    simp [h] at hother

theorem covered_of_timeout {o : TradableGapObservation} (hstage : o.rejectStage = .timeout)
    (hreason : o.rejectReason = some timeoutReasonText) : CoveredByTaxonomy o where
  known _ := by
    rw [categoryOf_eq hreason, category_timeout]
    decide
  lifecycle h := by
    rw [hstage] at h
    cases h
  timeout _ := by rw [categoryOf_eq hreason, category_timeout]

theorem covered_of_lifecycle {o : TradableGapObservation} {reason : String}
    (hstage : o.rejectStage = .lifecycle) (hreason : o.rejectReason = some reason)
    (hlisted : categoryOfReason reason = "lifecycle") : CoveredByTaxonomy o where
  known _ := by
    rw [categoryOf_eq hreason, hlisted]
    decide
  lifecycle _ := by rw [categoryOf_eq hreason, hlisted]
  timeout h := by
    rw [hstage] at h
    cases h

/-- A lifecycle event ends a gap, and its type is not the one that the table names. -/
def EndsUnlisted (d : GapDetector) (call : GapCall) : Prop :=
  ∃ event state nowTs clock,
    call = .onMarketEvent (.marketLifecycle event) state nowTs clock ∧
    d.endsGaps event = true ∧ event.lifecycleType ≠ .closed ∧
    ∃ key p, d.pending.get? key = some p ∧ p.market.marketId = event.marketId

theorem QuoteEnd.covered {d d' : GapDetector} {quote : PolymarketQuote} {state : MarketState}
    {now : Moment} {p ended : PendingTradableGap} (h : QuoteEnd d quote state now p ended) :
    CoveredByTaxonomy (d'.observationFromPending ended) := by
  cases h with
  | timedOut reason late =>
      obtain ⟨-, rfl⟩ := timeoutReason_eq_some_iff.mp late
      exact covered_of_timeout rfl rfl
  | distrusted reason inTime structural =>
      exact covered_of_known rfl (.inr rfl) rfl
        (known_windowReasons reason (mem_windowReasons_of_structural structural))
  | repriced inTime trusted profit =>
      refine ⟨fun h => absurd rfl h, fun h => ?_, fun h => ?_⟩ <;> cases h
  | entryGone reason inTime entry =>
      exact covered_of_known rfl (.inr rfl) rfl
        (known_windowReasons reason (mem_windowReasons_of_entry entry))

theorem rejectReason_of_lifecycle {d : GapDetector} {p : PendingTradableGap}
    (h : p.rejectStage = .lifecycle) :
    (d.observationFromPending p).rejectReason = p.closeReason := by
  have hreason : (d.observationFromPending p).rejectReason =
    p.finalRejectReason p.exitReason := rfl
  rw [hreason, PendingTradableGap.finalRejectReason, h]

theorem rejectReason_of_timeout {d : GapDetector} {p : PendingTradableGap}
    (h : p.rejectStage = .timeout) :
    (d.observationFromPending p).rejectReason = p.closeReason := by
  have hreason : (d.observationFromPending p).rejectReason =
    p.finalRejectReason p.exitReason := rfl
  rw [hreason, PendingTradableGap.finalRejectReason, h]

/-- **What a call writes is covered**, unless a lifecycle event of another type than the
listed one ends a gap. -/
theorem Written.covered {d : GapDetector} {call : GapCall} {o : TradableGapObservation}
    (h : Written d call o) (hlisted : ¬ EndsUnlisted d call) : CoveredByTaxonomy o := by
  cases h with
  | rejected noQuote stage reason =>
      obtain ⟨reason, hmem, hreason⟩ := reason
      exact covered_of_known stage (.inl rfl) hreason (known_preEntryReasons reason hmem)
  | ended ends =>
      cases ends with
      | quote was token ends => exact ends.covered
      | expired held late stage reason =>
          exact covered_of_timeout stage ((rejectReason_of_timeout stage).trans reason)
      | lifecycle was market ends same stage reason =>
          rename_i d' ended event state nowTs clock p
          have hclosed : event.lifecycleType = .closed := by
            by_contra hother
            exact hlisted ⟨event, state, nowTs, clock, rfl, ends, hother, p.key, p, was, market⟩
          rw [hclosed] at reason
          exact covered_of_lifecycle stage ((rejectReason_of_lifecycle stage).trans reason)
            (by decide +kernel)
      | refreshed was same stage reason =>
          exact covered_of_lifecycle stage ((rejectReason_of_lifecycle stage).trans reason)
            (by decide +kernel)

/-- An observation that is not rejected has no reason. -/
theorem Written.noReason {d : GapDetector} {call : GapCall} {o : TradableGapObservation}
    (h : Written d call o) (hstage : o.rejectStage = .none) : o.rejectReason = none := by
  cases h with
  | rejected noQuote stage reason =>
      rw [stage] at hstage
      cases hstage
  | ended ends =>
      rename_i d' ended
      have hnone : ended.rejectStage = .none := hstage
      have hreason : (d'.observationFromPending ended).rejectReason =
        ended.finalRejectReason ended.exitReason := rfl
      rw [hreason, PendingTradableGap.finalRejectReason, hnone]

theorem lifecycleFate_closes (d : GapDetector) {event : MarketLifecycleEvent}
    (state : MarketState) (now : Moment) {p : PendingTradableGap}
    (hmarket : p.market.marketId = event.marketId) :
    ∃ ended, lifecycleFate event state now d p = .close ended ∧
      ended.rejectStage = .lifecycle ∧ ended.closeReason = some event.lifecycleType.text := by
  rw [lifecycleFate]
  dsimp only
  rw [if_neg (not_not.mpr hmarket)]
  exact ⟨_, rfl, rfl, rfl⟩

/-- A lifecycle event that ends gaps writes an observation of each gap of its market. -/
theorem handleLifecycle_writes {d : GapDetector} {event : MarketLifecycleEvent}
    (hends : d.endsGaps event = true) (state : MarketState) (now : Moment) {key : GapKey}
    {p : PendingTradableGap} (hget : d.pending.get? key = some p)
    (hmarket : p.market.marketId = event.marketId) :
    ∃ o ∈ (d.handleLifecycle event state now).2, o.rejectStage = .lifecycle ∧
      o.rejectReason = some event.lifecycleType.text := by
  have hwalk (d' : GapDetector) (hpending : d'.pending = d.pending) :
      ∃ o ∈ (d'.sweepPending (lifecycleFate event state now)).2, o.rejectStage = .lifecycle ∧
        o.rejectReason = some event.lifecycleType.text := by
    obtain ⟨ended, hclose, hstage, hreason⟩ := lifecycleFate_closes d' state now hmarket
    refine ⟨_, (sweepPending_walked (lifecycleFate_readsMarkets event state now) d').closes key p
      ended (hpending ▸ hget) hclose, hstage, ?_⟩
    rw [rejectReason_of_lifecycle hstage, hreason]
  rw [handleLifecycle]
  split
  · rename_i htype
    simp [endsGaps, htype] at hends
  split
  · rename_i tickSize htype htick
    dsimp only
    rw [if_neg (by simpa [endsGaps, htype, htick] using hends)]
    exact hwalk _ rfl
  · exact hwalk _ rfl

theorem unlisted_text {type : MarketLifecycleType} (h : type ≠ .closed) :
    categoryOfReason type.text = "unknown" := by
  cases type with
  | closed => exact absurd rfl h
  | _ => decide +kernel

/-- A lifecycle event of an unlisted type that ends a gap writes an observation the taxonomy
does not cover. -/
theorem exists_uncovered {d : GapDetector} (hkeyed : d.ledger.Keyed) {call : GapCall}
    (h : EndsUnlisted d call) :
    ∃ o ∈ (gapMachine.next d call).completed, ¬ CoveredByTaxonomy o := by
  obtain ⟨event, state, nowTs, clock, rfl, hends, htype, key, p, hget, hmarket⟩ := h
  obtain ⟨o, ho, hstage, hreason⟩ := handleLifecycle_writes hends state
    (momentOf (.marketLifecycle event) nowTs clock) hget hmarket
  have haccount := handleLifecycle_account hkeyed event state nowTs clock
  refine ⟨o, ?_, fun hcovered => ?_⟩
  · have hnext : (gapMachine.next d
        (.onMarketEvent (.marketLifecycle event) state nowTs clock)).completed =
      (d.handleLifecycle event state
        (momentOf (.marketLifecycle event) nowTs clock)).1.completed := rfl
    rw [hnext, haccount.completed]
    exact List.mem_append_right _ ho
  · refine hcovered.known (by simp [hstage]) ?_
    rw [categoryOf_eq hreason, unlisted_text htype]

/-- The taxonomy covers the observations a detector completed. -/
structure TaxonomyCovers (d : GapDetector) : Prop where
  covered : ∀ o ∈ d.completed, CoveredByTaxonomy o
  counted : ∀ (rows : List TradableGapObservation) (topN : ℕ), (∀ o ∈ rows, o ∈ d.completed) →
    CountedByTaxonomy rows topN

/-- The completed observations of a run give a reason exactly when they are rejected. -/
theorem noReason_exec (c : GapDetectorSettings) (markets : List PolymarketMarketMetadata)
    (startedNs : ℤ) (calls : List GapCall) :
    ∀ o ∈ (gapMachine.exec (.init c markets startedNs) calls).completed,
      o.rejectStage = .none → o.rejectReason = none := by
  induction calls using List.reverseRecOn with
  | nil =>
      intro o ho
      cases ho
  | append_singleton calls call ih =>
      intro o ho hstage
      obtain ⟨written, haccount⟩ := gapMachine_account (keyed_exec c markets startedNs calls).2 call
      rw [Machine.exec_append] at ho
      have hmem : o ∈ (gapMachine.next (gapMachine.exec (.init c markets startedNs) calls)
        call).completed := ho
      rw [haccount.completed] at hmem
      rcases List.mem_append.mp hmem with hmem | hmem
      · exact ih o hmem hstage
      · exact (haccount.written o hmem).written.noReason hstage

/-- **When the taxonomy covers a run**: no lifecycle event of another type than `closed` ends
a gap. -/
theorem taxonomy_covers_iff (c : GapDetectorSettings) (markets : List PolymarketMarketMetadata)
    (startedNs : ℤ) (calls : List GapCall) :
    TaxonomyCovers (gapMachine.exec (.init c markets startedNs) calls) ↔
      gapMachine.StepsMeet (fun d call => ¬ EndsUnlisted d call) (.init c markets startedNs)
        calls := by
  have hcovered : (∀ o ∈ (gapMachine.exec (.init c markets startedNs) calls).completed,
      CoveredByTaxonomy o) ↔ gapMachine.StepsMeet (fun d call => ¬ EndsUnlisted d call)
        (.init c markets startedNs) calls := by
    induction calls using List.reverseRecOn with
    | nil =>
        constructor
        · exact fun _ => trivial
        · rintro - o ho
          cases ho
    | append_singleton calls call ih =>
        have hkeyed := (keyed_exec c markets startedNs calls).2
        obtain ⟨written, haccount⟩ := gapMachine_account hkeyed call
        have hnext : (gapMachine.exec (.init c markets startedNs) (calls ++ [call])).completed =
            (gapMachine.exec (.init c markets startedNs) calls).completed ++ written := by
          rw [Machine.exec_append]
          exact haccount.completed
        rw [Machine.stepsMeet_append, ← ih, hnext]
        constructor
        · intro h
          refine ⟨fun o ho => h o (List.mem_append_left _ ho), fun hunlisted => ?_, trivial⟩
          obtain ⟨o, ho, huncovered⟩ := exists_uncovered hkeyed hunlisted
          rw [haccount.completed] at ho
          exact huncovered (h o ho)
        · rintro ⟨hbefore, hlisted, -⟩ o ho
          rcases List.mem_append.mp ho with ho | ho
          · exact hbefore o ho
          · exact (haccount.written o ho).written.covered hlisted
  constructor
  · exact fun h => hcovered.mp h.covered
  · intro h
    refine ⟨hcovered.mpr h, fun rows topN hrows => countedByTaxonomy (fun o ho => ?_) topN⟩
    exact noReason_exec c markets startedNs calls o (hrows o ho)

/-- The market of a gap is resolved. -/
def resolvedMarket : GapCall :=
  .onMarketEvent (.marketLifecycle
    { unsizedTickChange "m" with lifecycleType := .marketResolved }) movedState
    (some 1001000000000) 1001000000000

/-- The end of a resolved market falls into `unknown`. -/
theorem resolved_market_unlisted :
    ¬ ∀ (c : GapDetectorSettings) (markets : List PolymarketMarketMetadata) (startedNs : ℤ)
      (calls : List GapCall),
      TaxonomyCovers (gapMachine.exec (.init c markets startedNs) calls) := by
  intro h
  have hcovers := h fiveSeconds [openMarket] 1 [openingTrade, resolvedMarket]
  have hunknown : ∃ o ∈ (gapMachine.exec (.init fiveSeconds [openMarket] 1)
      [openingTrade, resolvedMarket]).completed,
      o.rejectStage = .lifecycle ∧ categoryOf o = "unknown" := by decide +kernel
  obtain ⟨o, ho, hstage, hcategory⟩ := hunknown
  exact (hcovers.covered o ho).known (by simp [hstage]) hcategory

end GapDetector

end SomethingTrade
