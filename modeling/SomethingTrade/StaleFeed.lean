import SomethingTrade.EmpiricalBuckets

/-!
# The Staleness of the Quotes

The dataset report counts the rows with a stale quote in two ways: by their reject reason and by
the source that was stale. The rate of stale quotes is that of the reject reasons once there is
one, and that of the sources before. So the first row that is rejected as stale moves the rate
from one count to the other, and the rate falls if more than one row had a stale source.

## Main results

* `quoteStaleRate_eq`: the rate, where some row has the age of a quote.
* `staleness_kept_iff`: making a row stale keeps the rate from falling, and the check from
  passing, exactly when it does not move the rate to the other count.
-/

namespace SomethingTrade

/-! ### Checks -/

/-- How a check ends. -/
inductive CheckStatus
  | pass
  | fail
  | warn
  deriving DecidableEq

/-- How grave a failed check is. -/
inductive CheckSeverity
  | blocking
  | warning
  deriving DecidableEq

/-- A check of the readiness. -/
structure ReadinessCheck where
  checkName : String
  status : CheckStatus
  value : Json
  threshold : Json
  severity : CheckSeverity
  message : String

/-- A check that passed or not. -/
def check (name : String) (passed : Bool) (value threshold : Json) (severity : CheckSeverity)
    (message : String) : ReadinessCheck where
  checkName := name
  status :=
    if passed then .pass else
      match severity with
      | .blocking => .fail
      | .warning => .warn
  value := value
  threshold := threshold
  severity := severity
  message := message

@[simp] theorem check_checkName (name : String) (passed : Bool) (value threshold : Json)
    (severity : CheckSeverity) (message : String) :
    (check name passed value threshold severity message).checkName = name := rfl

/-- A check passes exactly when its condition holds. -/
theorem check_status_eq_pass {name : String} {passed : Bool} {value threshold : Json}
    {severity : CheckSeverity} {message : String} :
    (check name passed value threshold severity message).status = .pass ↔ passed = true := by
  cases passed <;> cases severity <;> simp [check]

/-- A check is an issue that blocks. -/
def ReadinessCheck.IsBlocking (c : ReadinessCheck) : Prop :=
  c.status = .fail ∧ c.severity = .blocking

/-- A check blocks exactly when its condition fails and is grave. -/
theorem isBlocking_check {name : String} {passed : Bool} {value threshold : Json}
    {severity : CheckSeverity} {message : String} :
    (check name passed value threshold severity message).IsBlocking ↔
      passed = false ∧ severity = .blocking := by
  cases passed <;> cases severity <;> simp [check, ReadinessCheck.IsBlocking]

/-! ### The analysis -/

/-- The sources that can be stale. -/
def staleSources : List String := ["binance", "polymarket", "both"]

/-- The text of a value without surrounding space, in lower case. -/
def normalizedText (value : Json) : String :=
  lower (String.ofList (Decimal.strip value.text.toList))

/-- The stale source of a row. -/
def staleSourceOf (row : Json) : String :=
  normalizedText ((row.get "stale_source").orElse (.str ""))

/-- Whether a row was rejected as stale. -/
def isQuoteStale (row : Json) : Bool :=
  ((row.get "reject_reason").orElse (.str "")).text = "quote_stale"

/-- Whether a row names a source that was stale. -/
def hasStaleSource (row : Json) : Bool := staleSourceOf row ∈ staleSources

/-- Whether a row has the age of a quote. -/
def hasQuoteAge (row : Json) : Bool :=
  (numberOf? (row.get "binance_quote_age_ms")).isSome ||
    (numberOf? (row.get "polymarket_quote_age_ms")).isSome

/-- Whether a stale source is unknown. -/
def staleSourceIsUnknown (value : Json) : Bool :=
  value.isNull || normalizedText value ∈ ["", "unknown"]

/-- Whether the staleness could be measured. -/
inductive StalenessStatus
  | unknownMissingQuoteAgeFields
  | measuredFromStaleSourceOrRejectReason
  deriving DecidableEq

/-- What the rate of stale quotes counts. -/
inductive QuoteStaleBasis
  | rejectReasonQuoteStale
  | staleSourceBinancePolymarketBoth
  deriving DecidableEq

/-- What the ages of the quotes are good for. -/
inductive TimestampBasis
  | quoteAgeFieldsForAgeDistributionOnly
  | unknownMissingQuoteAgeFields
  deriving DecidableEq

/-- What is reported of the staleness. -/
structure StaleFeedAnalysis where
  stalenessStatus : StalenessStatus
  quoteAgeFieldsMissing : Bool
  staleSourceUnknownForAllRows : Bool
  staleSourceDistribution : List (String × ℕ)
  quoteStaleRateBasis : QuoteStaleBasis
  quoteStaleRate : Option ℚ
  binanceStaleRate : Option ℚ
  polymarketStaleRate : Option ℚ
  bothStaleRate : Option ℚ
  unknownQuoteAgeOrNotStaleSourceRate : Option ℚ
  quoteStaleCount : ℕ
  quoteStaleRejectCount : ℕ
  quoteStaleSourceCount : ℕ
  binanceStaleCount : ℕ
  polymarketStaleCount : ℕ
  bothStaleCount : ℕ
  unknownQuoteAgeOrNotStaleSourceCount : ℕ
  binanceQuoteAgeMs : MetricSummary
  polymarketQuoteAgeMs : MetricSummary
  timestampBasis : TimestampBasis

/-- The staleness of some rows. -/
def buildStaleFeedAnalysis (rows : List Json) : StaleFeedAnalysis :=
  let rejectCount := rows.countP isQuoteStale
  let sourceCount := rows.countP hasStaleSource
  let countOf (source : String) := rows.countP fun row => staleSourceOf row = source
  let unknownCount := rows.countP fun row => !hasStaleSource row
  let missing := !rows.any hasQuoteAge
  let unknownForAll := rows ≠ [] ∧ rows.all fun row => staleSourceIsUnknown (row.get "stale_source")
  let status :=
    if unknownForAll ∧ missing then StalenessStatus.unknownMissingQuoteAgeFields
    else .measuredFromStaleSourceOrRejectReason
  let staleCount := if rejectCount > 0 then rejectCount else sourceCount
  let measured (count : ℕ) :=
    if status = .unknownMissingQuoteAgeFields then none else some (rateOf count rows.length)
  { stalenessStatus := status
    quoteAgeFieldsMissing := missing
    staleSourceUnknownForAllRows := unknownForAll
    staleSourceDistribution := fieldCounter rows "stale_source"
    quoteStaleRateBasis :=
      if rejectCount > 0 then .rejectReasonQuoteStale else .staleSourceBinancePolymarketBoth
    quoteStaleRate := measured staleCount
    binanceStaleRate := measured (countOf "binance")
    polymarketStaleRate := measured (countOf "polymarket")
    bothStaleRate := measured (countOf "both")
    unknownQuoteAgeOrNotStaleSourceRate := measured unknownCount
    quoteStaleCount := staleCount
    quoteStaleRejectCount := rejectCount
    quoteStaleSourceCount := sourceCount
    binanceStaleCount := countOf "binance"
    polymarketStaleCount := countOf "polymarket"
    bothStaleCount := countOf "both"
    unknownQuoteAgeOrNotStaleSourceCount := unknownCount
    binanceQuoteAgeMs := metricSummary rows "binance_quote_age_ms"
    polymarketQuoteAgeMs := metricSummary rows "polymarket_quote_age_ms"
    timestampBasis :=
      if missing then .unknownMissingQuoteAgeFields
      else .quoteAgeFieldsForAgeDistributionOnly }

/-- The name of a status of the staleness. -/
def StalenessStatus.name : StalenessStatus → String
  | .unknownMissingQuoteAgeFields => "unknown_missing_quote_age_fields"
  | .measuredFromStaleSourceOrRejectReason => "measured_from_stale_source_or_reject_reason"

/-- The greatest rate of stale quotes. -/
def maxQuoteStaleRate : ℚ := 0.10

/-- The check of the rate of stale quotes: without ages it only warns. A rate is compared as a
number, so one that is missing ends the call. -/
def quoteStaleCheck (stale : StaleFeedAnalysis) : Except String ReadinessCheck :=
  if stale.quoteAgeFieldsMissing then
    .ok
      { checkName := "quote_stale_rate"
        status := .warn
        value := .str stale.stalenessStatus.name
        threshold := .float maxQuoteStaleRate
        severity := .warning
        message := "quote stale rate cannot be confidently assessed because quote-age " ++
          "fields are missing" }
  else
    match stale.quoteStaleRate with
    | none => .error "TypeError"
    | some rate =>
        .ok (check "quote_stale_rate" (rate ≤ maxQuoteStaleRate) (.float rate)
          (.float maxQuoteStaleRate) .blocking "quote stale rate should be below threshold")

/-! ### The rate -/

/-- Rates of one total are ordered as their counts. -/
theorem rateOf_le_rateOf_iff {a b total : ℕ} (h : total ≠ 0) :
    rateOf a total ≤ rateOf b total ↔ a ≤ b := by
  have hpos : (0 : ℚ) < total := by exact_mod_cast Nat.pos_of_ne_zero h
  rw [rateOf, rateOf, if_neg h, if_neg h, div_le_div_iff_of_pos_right hpos, Nat.cast_le]

/-- Where some row has the age of a quote, the rate is known. -/
theorem quoteStaleRate_eq {rows : List Json} (h : rows.any hasQuoteAge = true) :
    (buildStaleFeedAnalysis rows).quoteStaleRate =
      some (rateOf (buildStaleFeedAnalysis rows).quoteStaleCount rows.length) := by
  simp [buildStaleFeedAnalysis, h]

/-- Where some row has the age of a quote, the check is that of the rate. -/
theorem quoteStaleCheck_eq {rows : List Json} (h : rows.any hasQuoteAge = true) :
    (quoteStaleCheck (buildStaleFeedAnalysis rows)).map ReadinessCheck.status =
      .ok (if rateOf (buildStaleFeedAnalysis rows).quoteStaleCount rows.length ≤
        maxQuoteStaleRate then .pass else .fail) := by
  have hfields : (buildStaleFeedAnalysis rows).quoteAgeFieldsMissing = false := by
    simp [buildStaleFeedAnalysis, h]
  simp [quoteStaleCheck, hfields, quoteStaleRate_eq h, check, Except.map]

/-! ### Making a row stale -/

/-- A way to make a row stale. -/
inductive Staleness
  | rejected
  | source (name : String) (known : name ∈ staleSources)

/-- A row that is made stale. -/
def makeStale (row : Json) : Staleness → Json
  | .rejected => row.setField "reject_reason" (.str "quote_stale")
  | .source name _ => row.setField "stale_source" (.str name)

theorem get_setField_of_ne (row : Json) {k k' : String} (value : Json) (h : k ≠ k') :
    (row.setField k value).get k' = row.get k' := by
  rw [Json.get, Json.get, Json.get?_setField_of_ne row value h]

theorem get_setField_self {row : Json} (h : row.IsObj) (k : String) (value : Json) :
    (row.setField k value).get k = value := by
  rw [Json.get, h.get?_setField_self]
  rfl

theorem hasQuoteAge_makeStale (row : Json) (change : Staleness) :
    hasQuoteAge (makeStale row change) = hasQuoteAge row := by
  cases change with
  | rejected =>
      rw [hasQuoteAge, makeStale, get_setField_of_ne row _ (by decide),
        get_setField_of_ne row _ (by decide), hasQuoteAge]
  | source name known =>
      rw [hasQuoteAge, makeStale, get_setField_of_ne row _ (by decide),
        get_setField_of_ne row _ (by decide), hasQuoteAge]

theorem isQuoteStale_rejected {row : Json} (h : row.IsObj) :
    isQuoteStale (makeStale row .rejected) = true := by
  rw [isQuoteStale, makeStale, get_setField_self h]
  decide

theorem isQuoteStale_source (row : Json) (name : String) (known : name ∈ staleSources) :
    isQuoteStale (makeStale row (.source name known)) = isQuoteStale row := by
  rw [isQuoteStale, makeStale, get_setField_of_ne row _ (by decide), isQuoteStale]

theorem hasStaleSource_rejected (row : Json) :
    hasStaleSource (makeStale row .rejected) = hasStaleSource row := by
  rw [hasStaleSource, staleSourceOf, makeStale, get_setField_of_ne row _ (by decide),
    hasStaleSource, staleSourceOf]

theorem hasStaleSource_source {row : Json} (h : row.IsObj) (name : String)
    (known : name ∈ staleSources) : hasStaleSource (makeStale row (.source name known)) = true := by
  rw [hasStaleSource, staleSourceOf, makeStale, get_setField_self h]
  simp only [staleSources, List.mem_cons, List.not_mem_nil, or_false] at known
  rcases known with rfl | rfl | rfl <;> decide

/-! ### When the gate is monotone -/

/-- The gate is monotone from some rows to others: the rate does not fall, and the check does not
turn from failing to passing. -/
structure StalenessKept (before after : List Json) : Prop where
  rate : ∃ q q', (buildStaleFeedAnalysis before).quoteStaleRate = some q ∧
    (buildStaleFeedAnalysis after).quoteStaleRate = some q' ∧ q ≤ q'
  gate : ∀ c c', quoteStaleCheck (buildStaleFeedAnalysis before) = .ok c →
    quoteStaleCheck (buildStaleFeedAnalysis after) = .ok c' →
    c.status = .fail → c'.status ≠ .pass

/-- A row that is made stale moves the rate to the other count: it is the first that is rejected,
and more than one has a stale source. -/
def SwitchesBasis (rows : List Json) (change : Staleness) : Prop :=
  change = .rejected ∧ rows.countP isQuoteStale = 0 ∧ 2 ≤ rows.countP hasStaleSource

/-- The gate is monotone exactly where the count does not fall. -/
theorem stalenessKept_iff_count {before after : List Json} (hbefore : before.any hasQuoteAge = true)
    (hafter : after.any hasQuoteAge = true) (hlength : before.length = after.length) :
    StalenessKept before after ↔ (buildStaleFeedAnalysis before).quoteStaleCount ≤
      (buildStaleFeedAnalysis after).quoteStaleCount := by
  have hne : after.length ≠ 0 := by
    intro h
    rw [List.length_eq_zero_iff.mp h] at hafter
    cases hafter
  have hcheck := quoteStaleCheck_eq hbefore
  have hcheck' := quoteStaleCheck_eq hafter
  have hrate := quoteStaleRate_eq hbefore
  rw [hlength] at hcheck hrate
  rw [← rateOf_le_rateOf_iff hne]
  constructor
  · rintro ⟨⟨q, q', hq, hq', hle⟩, -⟩
    rw [hrate, Option.some.injEq] at hq
    rw [quoteStaleRate_eq hafter, Option.some.injEq] at hq'
    rwa [hq, hq']
  · intro hle
    refine ⟨⟨_, _, hrate, quoteStaleRate_eq hafter, hle⟩, fun c c' hc hc' hfail hpass => ?_⟩
    rw [hc, Except.map, Except.ok.injEq, hfail] at hcheck
    rw [hc', Except.map, Except.ok.injEq, hpass] at hcheck'
    split at hcheck'
    · rename_i hlow
      rw [if_pos (hle.trans hlow)] at hcheck
      cases hcheck
    · cases hcheck'

/-- A row that is made stale lowers the count exactly when it moves the rate. -/
theorem quoteStaleCount_le_iff {pre post : List Json} {row : Json} (h : row.IsObj)
    (change : Staleness) :
    (buildStaleFeedAnalysis (pre ++ row :: post)).quoteStaleCount ≤
        (buildStaleFeedAnalysis (pre ++ makeStale row change :: post)).quoteStaleCount ↔
      ¬ SwitchesBasis (pre ++ row :: post) change := by
  simp only [buildStaleFeedAnalysis, SwitchesBasis, List.countP_append, List.countP_cons]
  cases change with
  | rejected =>
      rw [isQuoteStale_rejected h, hasStaleSource_rejected]
      simp only [true_and]
      split <;> split <;> grind
  | source name known =>
      rw [isQuoteStale_source, hasStaleSource_source h]
      simp only [reduceCtorEq, false_and, not_false_eq_true, iff_true]
      split <;> grind

/-- **When more staleness keeps the gate**: making one more row stale lowers neither the rate nor
the gate exactly when it does not move the rate from the stale sources to the reject reasons. -/
theorem staleness_kept_iff (pre post : List Json) (row : Json) (change : Staleness)
    (hrow : row.IsObj) (hage : (pre ++ row :: post).any hasQuoteAge = true) :
    StalenessKept (pre ++ row :: post) (pre ++ makeStale row change :: post) ↔
      ¬ SwitchesBasis (pre ++ row :: post) change := by
  have hafter : (pre ++ makeStale row change :: post).any hasQuoteAge = true := by
    rw [List.any_append, List.any_cons] at hage ⊢
    rwa [hasQuoteAge_makeStale]
  rw [stalenessKept_iff_count hage hafter (by simp)]
  exact quoteStaleCount_le_iff hrow change

/-- A row with the age of a quote. -/
def agedRow (staleSource : String) : Json :=
  .obj [("reject_reason", .str "none"), ("stale_source", .str staleSource),
    ("binance_quote_age_ms", .int 12)]

/-- The theorem applied to a row that becomes stale beside a fresh one. -/
theorem staleness_kept_fresh :
    StalenessKept ([agedRow "none"] ++ agedRow "none" :: [])
        ([agedRow "none"] ++ makeStale (agedRow "none") .rejected :: []) ↔
      ¬ SwitchesBasis ([agedRow "none"] ++ agedRow "none" :: []) .rejected :=
  staleness_kept_iff _ _ _ _ ⟨_, rfl⟩ (by decide)

/-- Ten rows, two of them with a stale source. -/
def twoStaleSources : List Json :=
  List.replicate 8 (agedRow "none") ++ [agedRow "both", agedRow "both"]

/-- The ten rows after the first is rejected as stale. -/
def rejectedBesideStaleSources : List Json :=
  makeStale (agedRow "none") .rejected :: twoStaleSources.drop 1

/-- A row that is rejected as stale among ten rows of which two have a stale source: the rate
falls from a fifth to a tenth, and the check that failed passes. -/
theorem rejected_row_lowers_rate :
    (quoteStaleCheck (buildStaleFeedAnalysis twoStaleSources)).map ReadinessCheck.status =
        .ok .fail ∧
      (quoteStaleCheck (buildStaleFeedAnalysis rejectedBesideStaleSources)).map
        ReadinessCheck.status = .ok .pass ∧
      ¬ ∀ (pre post : List Json) (row : Json) (change : Staleness), row.IsObj →
        (pre ++ row :: post).any hasQuoteAge = true →
        StalenessKept (pre ++ row :: post) (pre ++ makeStale row change :: post) := by
  have hage : twoStaleSources.any hasQuoteAge = true := by decide
  have hageAfter : rejectedBesideStaleSources.any hasQuoteAge = true := by decide
  have hbefore : (buildStaleFeedAnalysis twoStaleSources).quoteStaleCount = 2 := by decide
  have hafter : (buildStaleFeedAnalysis rejectedBesideStaleSources).quoteStaleCount = 1 := by
    decide
  refine ⟨?_, ?_, fun h => ?_⟩
  · rw [quoteStaleCheck_eq hage, hbefore, if_neg]
    norm_num [rateOf, twoStaleSources, maxQuoteStaleRate]
  · rw [quoteStaleCheck_eq hageAfter, hafter, if_pos]
    norm_num [rateOf, rejectedBesideStaleSources, twoStaleSources, maxQuoteStaleRate]
  · have hkept : StalenessKept twoStaleSources rejectedBesideStaleSources :=
      h [] (twoStaleSources.drop 1) (agedRow "none") .rejected ⟨_, rfl⟩ hage
    have hcount := (stalenessKept_iff_count hage hageAfter rfl).mp hkept
    rw [hbefore, hafter] at hcount
    omega

end SomethingTrade
