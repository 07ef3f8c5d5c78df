import SomethingTrade.LabelMetrics

/-!
# Validity of Hybrid Labels

When a hybrid label is valid, in one condition for each of its two builders: the exchange time
label is eligible and valid, the lag of the sample, as it is or corrected, is at least the allowed
skew of the clocks and at most the budget, and the event was received after the sample. So a
larger budget accepts more, no budget more than the exchange time label, and all budgets have the
same eligible labels: the rates of a list of labels are ordered by the budgets.

## Main results

* `buildHybridLabel_valid_iff`, `buildCorrectedHybridLabel_valid_iff`: when the labels are valid.
* `validRate_le_of_imp`: rates of labels with the same eligible ones.
-/

namespace SomethingTrade

/-! ### When hybrid labels are valid -/

/-- The event of a label was received after its sample. -/
def ReceivedInOrder (label : ExchangeTimeLabel) : Prop :=
  ∃ featureRecvNs futureRecvNs, label.featureLocalRecvMonotonicNs.asInt? = some featureRecvNs ∧
    label.futureReferenceLocalRecvMonotonicNs.asInt? = some futureRecvNs ∧
    featureRecvNs < futureRecvNs

/-- A lag within the skew of the clocks and a budget. -/
def WithinBudget (lag : Option ℚ) (budgetMs : ℕ) (skew : ℚ) : Prop :=
  ∃ lagMs, lag = some lagMs ∧ -skew ≤ lagMs ∧ lagMs ≤ budgetMs

/-- A larger budget leaves a lag within it. -/
theorem WithinBudget.mono {lag : Option ℚ} {budgetMs budgetMs' : ℕ} {skew : ℚ}
    (h : WithinBudget lag budgetMs skew) (hle : budgetMs ≤ budgetMs') :
    WithinBudget lag budgetMs' skew := by
  obtain ⟨lagMs, hlag, hskew, hbudget⟩ := h
  have hcast : (budgetMs : ℚ) ≤ budgetMs' := by exact_mod_cast hle
  exact ⟨lagMs, hlag, hskew, hbudget.trans hcast⟩

/-- **When a hybrid label is valid.** -/
theorem buildHybridLabel_valid_iff (label : ExchangeTimeLabel) (budgetMs : ℕ) (skew : ℚ) :
    (buildHybridLabel label budgetMs skew).valid = true ↔
      label.eligible = true ∧ label.valid = true ∧
        WithinBudget label.featureReceiveLagMs budgetMs skew ∧ ReceivedInOrder label := by
  simp only [buildHybridLabel, WithinBudget, ReceivedInOrder]
  rcases heligible : label.eligible with _ | _
  · simp [HybridLabel.invalid]
  rcases hvalid : label.valid with _ | _
  · simp [HybridLabel.invalid]
  rcases hlag : label.featureReceiveLagMs with _ | lag
  · simp [HybridLabel.invalid]
  by_cases hskew : lag < -skew
  · simp [HybridLabel.invalid, hskew, not_le.mpr hskew]
  by_cases hbudget : lag > budgetMs
  · simp [HybridLabel.invalid, hskew, hbudget, not_le.mpr hbudget]
  rcases hfeature : label.featureLocalRecvMonotonicNs.asInt? with _ | featureRecvNs
  · simp [HybridLabel.invalid, hskew, hbudget]
  rcases hfuture : label.futureReferenceLocalRecvMonotonicNs.asInt? with _ | futureRecvNs
  · simp [HybridLabel.invalid, hskew, hbudget]
  by_cases horder : featureRecvNs < futureRecvNs
  · simp [hskew, hbudget, horder, not_lt.mp hskew, not_lt.mp hbudget]
  · simp [HybridLabel.invalid, hskew, hbudget, horder]

/-- **When a corrected hybrid label is valid.** -/
theorem buildCorrectedHybridLabel_valid_iff (label : ExchangeTimeLabel)
    (correctedFeature correctedFuture : Option ℚ) (budgetMs : ℕ) (driftValid : Bool) (skew : ℚ) :
    (buildCorrectedHybridLabel label correctedFeature correctedFuture budgetMs driftValid
        skew).valid = true ↔
      label.eligible = true ∧ label.valid = true ∧ driftValid = true ∧
        WithinBudget correctedFeature budgetMs skew ∧ ReceivedInOrder label := by
  simp only [buildCorrectedHybridLabel, WithinBudget, ReceivedInOrder]
  rcases heligible : label.eligible with _ | _
  · simp [CorrectedHybridLabel.invalid]
  rcases hvalid : label.valid with _ | _
  · simp [CorrectedHybridLabel.invalid]
  rcases driftValid with _ | _
  · simp [CorrectedHybridLabel.invalid]
  rcases correctedFeature with _ | lag
  · simp [CorrectedHybridLabel.invalid]
  by_cases hskew : lag < -skew
  · simp [CorrectedHybridLabel.invalid, hskew, not_le.mpr hskew]
  by_cases hbudget : lag > budgetMs
  · simp [CorrectedHybridLabel.invalid, hskew, hbudget, not_le.mpr hbudget]
  rcases hfeature : label.featureLocalRecvMonotonicNs.asInt? with _ | featureRecvNs
  · simp [CorrectedHybridLabel.invalid, hskew, hbudget]
  rcases hfuture : label.futureReferenceLocalRecvMonotonicNs.asInt? with _ | futureRecvNs
  · simp [CorrectedHybridLabel.invalid, hskew, hbudget]
  by_cases horder : featureRecvNs < futureRecvNs
  · simp [hskew, hbudget, horder, not_lt.mp hskew, not_lt.mp hbudget]
  · simp [CorrectedHybridLabel.invalid, hskew, hbudget, horder]

/-- A hybrid label is eligible when the exchange time label is. -/
theorem buildHybridLabel_eligible (label : ExchangeTimeLabel) (budgetMs : ℕ) (skew : ℚ) :
    (buildHybridLabel label budgetMs skew).eligible = label.eligible := by
  simp only [buildHybridLabel]
  repeat' split
  all_goals rfl

/-- A corrected hybrid label is eligible when the exchange time label is. -/
theorem buildCorrectedHybridLabel_eligible (label : ExchangeTimeLabel)
    (correctedFeature correctedFuture : Option ℚ) (budgetMs : ℕ) (driftValid : Bool) (skew : ℚ) :
    (buildCorrectedHybridLabel label correctedFeature correctedFuture budgetMs driftValid
      skew).eligible = label.eligible := by
  simp only [buildCorrectedHybridLabel]
  repeat' split
  all_goals rfl

/-- Without an offset the corrected lag is the lag. -/
theorem correctedReceiveLagMs_zero (lag : Option ℚ) : correctedReceiveLagMs lag (some 0) = lag := by
  cases lag <;> simp [correctedReceiveLagMs]

/-! ### Rates of lists of labels -/

/-- The rate of the valid labels among the eligible ones. -/
def validRate (labels : List LabelOutcome) : ℚ :=
  LabelCounts.rate (countLabels labels).valid (countLabels labels).eligible

theorem validRateEligibleRows_protocolMetrics (labels : List ProtocolReading) (gapField : String) :
    (protocolMetrics labels gapField).validRateEligibleRows =
      validRate (labels.map ProtocolReading.outcome) := rfl

theorem validRateEligibleRows_hybridMetrics (labels : List HybridReading) (budgetMs : ℕ)
    (corrected : Bool) :
    (hybridMetrics labels budgetMs corrected).validRateEligibleRows =
      validRate (labels.map HybridReading.outcome) := rfl

section Rates

variable {α : Type} {rows : List α} {outcome outcome' : α → LabelOutcome}

/-- **Labels with the same eligible ones, of which more are valid, have a higher rate.** -/
theorem validRate_le_of_imp
    (heligible : ∀ row ∈ rows, (outcome row).eligible = (outcome' row).eligible)
    (hvalid : ∀ row ∈ rows, (outcome row).valid = true → (outcome' row).valid = true) :
    validRate (rows.map outcome) ≤ validRate (rows.map outcome') := by
  have hcount (f : α → LabelOutcome) : (countLabels (rows.map f)).eligible =
      rows.countP fun row => (f row).eligible := by
    simp [countLabels, List.filter_map, List.countP_eq_length_filter, Function.comp_def]
  have hcount' (f : α → LabelOutcome) : (countLabels (rows.map f)).valid =
      rows.countP fun row => (f row).valid && (f row).eligible := by
    simp [countLabels, List.filter_map, List.countP_eq_length_filter, Function.comp_def,
      List.filter_filter]
  have hsame : rows.countP (fun row => (outcome row).eligible) =
      rows.countP fun row => (outcome' row).eligible :=
    List.countP_congr fun row hrow => by rw [heligible row hrow]
  have hle : rows.countP (fun row => (outcome row).valid && (outcome row).eligible) ≤
      rows.countP fun row => (outcome' row).valid && (outcome' row).eligible := by
    refine List.countP_mono_left fun row hrow hboth => ?_
    obtain ⟨hv, he⟩ := Bool.and_eq_true_iff.mp hboth
    exact Bool.and_eq_true_iff.mpr ⟨hvalid row hrow hv, heligible row hrow ▸ he⟩
  rw [validRate, validRate, hcount, hcount, hcount', hcount', hsame, LabelCounts.rate,
    LabelCounts.rate]
  split
  · exact le_rfl
  · exact div_le_div_of_nonneg_right (by exact_mod_cast hle) (Nat.cast_nonneg _)

/-- A rate that is not zero is that of labels of which some are eligible and valid. -/
theorem exists_of_validRate_pos (h : 0 < validRate (rows.map outcome)) :
    ∃ row ∈ rows, (outcome row).eligible = true ∧ (outcome row).valid = true := by
  by_contra hnone
  push Not at hnone
  have hzero : (countLabels (rows.map outcome)).valid = 0 := by
    simp only [countLabels, List.length_eq_zero_iff, List.filter_eq_nil_iff, List.mem_filter]
    rintro label ⟨hlabel, heligible⟩
    obtain ⟨row, hrow, rfl⟩ := List.mem_map.mp hlabel
    simpa using hnone row hrow heligible
  simp [validRate, LabelCounts.rate, hzero] at h

end Rates

end SomethingTrade
