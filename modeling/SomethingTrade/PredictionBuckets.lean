import SomethingTrade.AucScore
import SomethingTrade.Chunks
import SomethingTrade.Loops
import SomethingTrade.ModelDirection
import SomethingTrade.ResearchSamples

/-!
# Buckets of Predictions

What a model is worth on some samples. The samples are scored and sorted by their scores, and
the sorted rows are cut into chunks of about one size. Three reports are made of the chunks, and
each of them treats a chunk that is empty in its own way: the calibration leaves it out, the
deciles count nothing in it, and the returns ask it for its least score, which ends the call.

## Main results

* `calibration_even`, `returnBuckets_even`, `deciles_even`: the rows that a report is made of are
  the sorted rows in parts of about one size.
* `predictionReturnBuckets_returns_iff`: when the returns do not end the call.
* `metrics_sound_iff`: so the metrics are sound exactly when there are no rows or at least five.
-/

namespace SomethingTrade

/-! ### Statistics -/

/-- `statistics.fmean`: of no numbers there is no mean. -/
def fmean (values : List ℚ) : Except String ℚ :=
  if values = [] then .error "StatisticsError: fmean requires at least one data point"
  else .ok (values.sum / values.length)

/-- `min`: of no numbers there is no least one. -/
def least (values : List ℚ) : Except String ℚ :=
  match values.min? with
  | some value => .ok value
  | none => .error "ValueError: min() iterable argument is empty"

/-- `max`: of no numbers there is no greatest one. -/
def greatest (values : List ℚ) : Except String ℚ :=
  match values.max? with
  | some value => .ok value
  | none => .error "ValueError: max() iterable argument is empty"

/-- `x / n`: nothing is divided by zero. -/
def divide (x : ℚ) (n : ℕ) : Except String ℚ :=
  if n = 0 then .error "ZeroDivisionError" else .ok (x / n)

/-! ### Scored rows -/

/-- A sample with the probability that a model gives it. -/
structure ScoredRow where
  sampleId : String
  probability : ℚ
  target : ℤ
  futureReturn100msBps : ℚ

/-- Cut rows into chunks; no rows have none. -/
def equalCountChunks (rows : List ScoredRow) (count : ℕ) : List (List ScoredRow) :=
  if rows = [] then [] else chunks rows count

/-- How many of the rows with the highest probabilities are positive, as a rate. -/
def precisionAtTopK (scored : List ScoredRow) (fraction : ℚ) : Except String (Option ℚ) :=
  if scored = [] then .ok none
  else do
    let count := max 1 ⌈(scored.length : ℚ) * fraction⌉₊
    let top := (sortBy (fun row => -row.probability) scored).take count
    let precision ← divide (top.map fun row => (row.target : ℚ)).sum top.length
    .ok (some precision)

/-- A bucket of the calibration. -/
structure CalibrationBucket where
  bucket : String
  sampleCount : ℕ
  avgPredictedProbability : ℚ
  observedPositiveRate : ℚ

/-- The bucket of the calibration that a chunk makes. -/
def calibrationBucket (index : ℕ) (rows : List ScoredRow) : Except String CalibrationBucket := do
  let predicted ← fmean (rows.map ScoredRow.probability)
  let observed ← fmean (rows.map fun row => (row.target : ℚ))
  .ok
    { bucket := "p" ++ toString (index + 1)
      sampleCount := rows.length
      avgPredictedProbability := predicted
      observedPositiveRate := observed }

/-- How the probabilities compare with the targets, chunk by chunk. Empty chunks are left out. -/
def calibration (scored : List ScoredRow) : Except String (List CalibrationBucket) :=
  if scored = [] then .ok []
  else
    ((equalCountChunks (sortBy ScoredRow.probability scored) 5).zipIdx.filter fun e =>
      e.1 ≠ []).mapM fun e => calibrationBucket e.2 e.1

/-- A bucket of returns. -/
structure ReturnBucket where
  bucket : String
  sampleCount : ℕ
  minProbability : ℚ
  maxProbability : ℚ
  avgFutureReturn100msBps : ℚ
  edgeAfterCostBps : ℚ

/-- The costs that an edge has to exceed. -/
def conservativeCostBps : ℚ := 3

/-- The bucket of returns that a chunk makes. -/
def returnBucket (index : ℕ) (rows : List ScoredRow) : Except String ReturnBucket := do
  let avgReturn := meanOrZero (rows.map ScoredRow.futureReturn100msBps)
  let minProbability ← least (rows.map ScoredRow.probability)
  let maxProbability ← greatest (rows.map ScoredRow.probability)
  .ok
    { bucket := "p" ++ toString (index + 1)
      sampleCount := rows.length
      minProbability := minProbability
      maxProbability := maxProbability
      avgFutureReturn100msBps := avgReturn
      edgeAfterCostBps := avgReturn - conservativeCostBps }

/-- What the rows return, chunk by chunk. -/
def predictionReturnBuckets (scored : List ScoredRow) : Except String (List ReturnBucket) :=
  if scored = [] then .ok []
  else
    (equalCountChunks (sortBy ScoredRow.probability scored) 5).zipIdx.mapM fun e =>
      returnBucket e.2 e.1

/-! ### Metrics -/

/-- What is reported of a model on some samples. -/
structure SplitMetrics where
  sampleCount : ℕ
  positiveRate : Option ℚ
  auc : Option ℚ
  precisionTop5pct : Option ℚ
  precisionTop10pct : Option ℚ
  calibration : List CalibrationBucket
  expectedReturnBpsByPredictionBucket : List ReturnBucket

/-- Score a sample. -/
def scoreSample (predict : ResearchSample → ℚ) (sample : ResearchSample) : ScoredRow where
  sampleId := sample.sampleId
  probability := predict sample
  target := if sample.direction100ms = some 1 then 1 else 0
  futureReturn100msBps := sample.futureReturn100msBps.getD 0

/-- The rate of the positives, if there are targets. -/
def positiveRate (targets : List ℤ) : Except String (Option ℚ) :=
  if targets = [] then .ok none
  else (fmean (targets.map fun (target : ℤ) => (target : ℚ))).map some

/-- Report on a model on some samples. -/
def modelSplitMetrics (predict : ResearchSample → ℚ) (samples : List ResearchSample) :
    Except String SplitMetrics := do
  let scored := samples.map (scoreSample predict)
  let targets := scored.map ScoredRow.target
  let rate ← positiveRate targets
  let top5pct ← precisionAtTopK scored (1 / 20)
  let top10pct ← precisionAtTopK scored (1 / 10)
  let calibrated ← SomethingTrade.calibration scored
  let returned ← predictionReturnBuckets scored
  .ok
    { sampleCount := scored.length
      positiveRate := rate
      auc := SomethingTrade.auc targets (scored.map ScoredRow.probability)
      precisionTop5pct := top5pct
      precisionTop10pct := top10pct
      calibration := calibrated
      expectedReturnBpsByPredictionBucket := returned }

/-- A row of the deciles. -/
structure DecileRow where
  decile : ℕ
  sampleCount : ℕ
  avgScore : ℚ
  avgFutureReturnBps : ℚ
  edgeAfterCostBps : ℚ
  calibrationPositiveRate : ℚ

/-- The row that a chunk makes. -/
def decileRow (score : DirectedSample → Option ℚ) (costBps : ℚ) (index : ℕ)
    (chunk : List DirectedSample) : Except String DecileRow := do
  let avgReturn := meanOrZero (chunk.map fun sample => sample.signedReturn)
  let avgScore ←
    if chunk = [] then .ok 0 else fmean (chunk.map fun sample => (score sample).getD 0)
  let positiveRate ← divide (chunk.countP fun sample => sample.direction100ms = some 1 : ℕ)
    (max 1 chunk.length)
  .ok
    { decile := index + 1
      sampleCount := chunk.length
      avgScore := avgScore
      avgFutureReturnBps := avgReturn
      edgeAfterCostBps := avgReturn - costBps
      calibrationPositiveRate := positiveRate }

/-- What the samples return, decile by decile of a score. -/
def scoreDeciles (samples : List DirectedSample) (score : DirectedSample → Option ℚ)
    (costBps : ℚ) : Except String (List DecileRow) :=
  let ranked := sortBy (fun sample => (score sample).getD 0) samples
  (chunks ranked 10).zipIdx.mapM fun e => decileRow score costBps e.2 e.1

/-! ### Even parts -/

section

variable {α β : Type} {key : α → ℚ} {rows : List α} {parts : List (List α)}

/-- Parts of some rows: they make up the rows in the order of a key, and no two of their sizes
differ by more than one. -/
structure EvenParts (key : α → ℚ) (rows : List α) (parts : List (List α)) : Prop where
  perm : parts.flatten.Perm rows
  sorted : SortedBy key parts.flatten
  even : ∀ first ∈ parts, ∀ second ∈ parts, first.length ≤ second.length + 1

/-- The chunks of the sorted rows are even. -/
theorem evenParts_chunks (key : α → ℚ) (rows : List α) {count : ℕ} (h : 0 < count) :
    EvenParts key rows (chunks (sortBy key rows) count) where
  perm := by
    rw [flatten_chunks _ h]
    exact perm_sortBy key rows
  sorted := by
    rw [flatten_chunks _ h]
    exact sortedBy_sortBy key rows
  even := fun _ hfirst _ hsecond => length_chunks_le hfirst hsecond

/-- Leaving out empty parts leaves the parts even. -/
theorem EvenParts.nonempty (h : EvenParts key rows parts) :
    EvenParts key rows (parts.filter fun part => part ≠ []) where
  perm := by
    rw [List.flatten_filter_ne_nil]
    exact h.perm
  sorted := by
    rw [List.flatten_filter_ne_nil]
    exact h.sorted
  even := fun first hfirst second hsecond =>
    h.even first (List.mem_of_mem_filter hfirst) second (List.mem_of_mem_filter hsecond)

/-- The buckets of a report: each is made of one of the even parts of the rows, in their order,
and what they count adds up to the number of rows. -/
structure EvenBuckets (key : α → ℚ) (rows : List α) (make : ℕ → List α → Except String β)
    (count : β → ℕ) (buckets : List β) : Prop where
  made : ∃ parts, EvenParts key rows parts ∧
    List.Forall₂ (fun part bucket => ∃ index, make index part = .ok bucket) parts buckets
  total : (buckets.map count).sum = rows.length

/-- What a loop makes of even parts are the buckets of a report. -/
theorem evenBuckets_of_mapM {make : ℕ → List α → Except String β} {count : β → ℕ}
    (hcount : ∀ {index part bucket}, make index part = .ok bucket → count bucket = part.length)
    {indexed : List (List α × ℕ)} (hparts : EvenParts key rows (indexed.map Prod.fst))
    {buckets : List β} (h : (indexed.mapM fun e => make e.2 e.1) = .ok buckets) :
    EvenBuckets key rows make count buckets := by
  have hmade := forall₂_of_mapM h
  refine ⟨⟨_, hparts, ?_⟩, ?_⟩
  · exact List.forall₂_map_left_iff.mpr (hmade.imp fun e _ hbucket => ⟨e.2, hbucket⟩)
  · have hlengths : (indexed.map fun e => e.1.length) = buckets.map count :=
      map_eq_of_forall₂ hmade fun _ _ hbucket => (hcount hbucket).symm
    rw [← hlengths, ← hparts.perm.length_eq, List.length_flatten, List.map_map]
    rfl

end

/-! ### Reports -/

theorem fmean_returns {values : List ℚ} (h : values ≠ []) :
    fmean values = .ok (values.sum / values.length) := if_neg h

theorem divide_returns {n : ℕ} (h : n ≠ 0) (x : ℚ) : divide x n = .ok (x / n) := if_neg h

/-- The precision is there for every number of rows: at least one row is taken of any. -/
theorem precisionAtTopK_returns (scored : List ScoredRow) (fraction : ℚ) :
    ∃ precision, precisionAtTopK scored fraction = .ok precision := by
  by_cases hnil : scored = []
  · exact ⟨none, if_pos hnil⟩
  · have hpos : 0 < scored.length := List.length_pos_iff.mpr hnil
    have htop : ((sortBy (fun row => -row.probability) scored).take
        (max 1 ⌈(scored.length : ℚ) * fraction⌉₊)).length ≠ 0 := by
      rw [List.length_take, (perm_sortBy _ _).length_eq]
      omega
    have hdivide := divide_returns htop ((((sortBy (fun row => -row.probability) scored).take
      (max 1 ⌈(scored.length : ℚ) * fraction⌉₊)).map fun row => (row.target : ℚ)).sum)
    rw [precisionAtTopK, if_neg hnil]
    simp only [hdivide]
    exact ⟨_, rfl⟩

theorem calibrationBucket_spec {index : ℕ} {rows : List ScoredRow} :
    ((∃ bucket, calibrationBucket index rows = .ok bucket) ↔ rows ≠ []) ∧
      ∀ {bucket}, calibrationBucket index rows = .ok bucket →
        bucket.sampleCount = rows.length := by
  by_cases hnil : rows = []
  · subst hnil
    exact ⟨iff_of_false (fun ⟨_, h⟩ => by cases h) (fun h => h rfl), fun h => by cases h⟩
  · have hpredicted : rows.map ScoredRow.probability ≠ [] := by simpa using hnil
    have hobserved : (rows.map fun row => (row.target : ℚ)) ≠ [] := by simpa using hnil
    rw [calibrationBucket, fmean_returns hpredicted, fmean_returns hobserved]
    exact ⟨iff_of_true ⟨_, rfl⟩ hnil, fun h => Except.ok.inj h ▸ rfl⟩

/-- A chunk has a bucket of returns exactly when it is not empty. -/
theorem returnBucket_spec {index : ℕ} {rows : List ScoredRow} :
    ((∃ bucket, returnBucket index rows = .ok bucket) ↔ rows ≠ []) ∧
      ∀ {bucket}, returnBucket index rows = .ok bucket → bucket.sampleCount = rows.length := by
  cases rows with
  | nil => exact ⟨iff_of_false (fun ⟨_, h⟩ => by cases h) (fun h => h rfl), fun h => by cases h⟩
  | cons row rows =>
      rw [returnBucket]
      exact ⟨iff_of_true ⟨_, rfl⟩ (List.cons_ne_nil _ _), fun h => Except.ok.inj h ▸ rfl⟩

theorem decileRow_spec (score : DirectedSample → Option ℚ) (costBps : ℚ) (index : ℕ)
    (chunk : List DirectedSample) :
    ∃ row, decileRow score costBps index chunk = .ok row ∧ row.sampleCount = chunk.length := by
  have hpos : max 1 chunk.length ≠ 0 := by omega
  by_cases hnil : chunk = []
  · subst hnil
    exact ⟨_, rfl, rfl⟩
  · have hscores : (chunk.map fun sample => (score sample).getD 0) ≠ [] := by simpa using hnil
    rw [decileRow, if_neg hnil, fmean_returns hscores, divide_returns hpos]
    exact ⟨_, rfl, rfl⟩

theorem sortBy_ne_nil {scored : List ScoredRow} (h : scored ≠ []) :
    sortBy ScoredRow.probability scored ≠ [] := by
  intro hnil
  exact h ((hnil ▸ perm_sortBy ScoredRow.probability scored).nil_eq.symm)

/-- **The calibration is made of even parts**, whatever the number of rows: it asks no empty
chunk for a mean. -/
theorem calibration_even (scored : List ScoredRow) :
    ∃ buckets, calibration scored = .ok buckets ∧
      EvenBuckets ScoredRow.probability scored calibrationBucket CalibrationBucket.sampleCount
        buckets := by
  by_cases hnil : scored = []
  · subst hnil
    exact ⟨[], rfl, ⟨[], ⟨.nil, .nil, by simp⟩, .nil⟩, rfl⟩
  · rw [calibration, if_neg hnil, equalCountChunks, if_neg (sortBy_ne_nil hnil)]
    have hreturns : ∀ e ∈ ((chunks (sortBy ScoredRow.probability scored) 5).zipIdx.filter
        fun e => e.1 ≠ []), ∃ bucket, calibrationBucket e.2 e.1 = .ok bucket := fun e he =>
      calibrationBucket_spec.1.mpr (by simpa using (List.mem_filter.mp he).2)
    obtain ⟨buckets, hbuckets⟩ := exists_mapM_eq_ok hreturns
    refine ⟨buckets, hbuckets, evenBuckets_of_mapM calibrationBucket_spec.2 ?_ hbuckets⟩
    have hfilter := map_fst_zipIdx_filter (chunks (sortBy ScoredRow.probability scored) 5)
      fun part => decide (part ≠ [])
    rw [hfilter]
    exact (evenParts_chunks _ _ (by decide)).nonempty

/-- The returns are made of the chunks of the sorted rows. -/
theorem predictionReturnBuckets_eq {scored : List ScoredRow} (h : scored ≠ []) :
    predictionReturnBuckets scored =
      (chunks (sortBy ScoredRow.probability scored) 5).zipIdx.mapM fun e =>
        returnBucket e.2 e.1 := by
  rw [predictionReturnBuckets, if_neg h, equalCountChunks, if_neg (sortBy_ne_nil h)]

/-- **The returns do not end the call exactly when there are no rows or at least five**: with
fewer the first chunk is empty. -/
theorem predictionReturnBuckets_returns_iff (scored : List ScoredRow) :
    (∃ buckets, predictionReturnBuckets scored = .ok buckets) ↔
      scored.length = 0 ∨ 5 ≤ scored.length := by
  by_cases hnil : scored = []
  · subst hnil
    exact iff_of_true ⟨[], rfl⟩ (.inl rfl)
  · have hshort : [] ∈ chunks (sortBy ScoredRow.probability scored) 5 ↔
        (sortBy ScoredRow.probability scored).length < 5 := nil_mem_chunks_iff (by decide)
    rw [(perm_sortBy _ _).length_eq] at hshort
    have hpos : 0 < scored.length := List.length_pos_iff.mpr hnil
    rw [predictionReturnBuckets_eq hnil, mapM_returns_iff]
    constructor
    · intro h
      by_contra hfew
      obtain ⟨index, hindex⟩ := List.mem_iff_getElem?.mp (hshort.mpr (by omega))
      have hmem : ([], index) ∈ (chunks (sortBy ScoredRow.probability scored) 5).zipIdx :=
        List.mk_mem_zipIdx_iff_getElem?.mpr hindex
      exact returnBucket_spec.1.mp (h _ hmem) rfl
    · rintro henough ⟨part, index⟩ hpart
      refine returnBucket_spec.1.mpr ?_
      rintro rfl
      have hmem := hshort.mp (List.fst_mem_of_mem_zipIdx hpart)
      omega

/-- **The returns are made of even parts** when they do not end the call. -/
theorem returnBuckets_even {scored : List ScoredRow} {buckets : List ReturnBucket}
    (h : predictionReturnBuckets scored = .ok buckets) :
    EvenBuckets ScoredRow.probability scored returnBucket ReturnBucket.sampleCount buckets := by
  by_cases hnil : scored = []
  · subst hnil
    obtain rfl := Except.ok.inj h
    exact ⟨⟨[], ⟨.nil, .nil, by simp⟩, .nil⟩, rfl⟩
  · rw [predictionReturnBuckets_eq hnil] at h
    refine evenBuckets_of_mapM returnBucket_spec.2 ?_ h
    rw [List.zipIdx_map_fst]
    exact evenParts_chunks _ _ (by decide)

/-- **The deciles are made of even parts**, whatever the number of samples. -/
theorem deciles_even (samples : List DirectedSample) (score : DirectedSample → Option ℚ)
    (costBps : ℚ) :
    ∃ rows, scoreDeciles samples score costBps = .ok rows ∧
      EvenBuckets (fun sample => (score sample).getD 0) samples (decileRow score costBps)
        DecileRow.sampleCount rows := by
  obtain ⟨rows, hrows⟩ : ∃ rows, scoreDeciles samples score costBps = .ok rows := by
    refine exists_mapM_eq_ok fun e _ => ?_
    obtain ⟨row, hrow, -⟩ := decileRow_spec score costBps e.2 e.1
    exact ⟨row, hrow⟩
  refine ⟨rows, hrows, evenBuckets_of_mapM ?_ ?_ hrows⟩
  · intro index chunk row hrow
    obtain ⟨row', hrow', hcount⟩ := decileRow_spec score costBps index chunk
    rw [hrow'] at hrow
    exact Except.ok.inj hrow ▸ hcount
  · rw [List.zipIdx_map_fst]
    exact evenParts_chunks _ _ (by decide)

/-! ### Metrics -/

/-- The metrics of a model on some samples are there, and the buckets they hold are made of even
parts of the samples, in the order of their probabilities. -/
def MetricsSound (predict : ResearchSample → ℚ) (samples : List ResearchSample) : Prop :=
  ∃ metrics, modelSplitMetrics predict samples = .ok metrics ∧
    EvenBuckets ScoredRow.probability (samples.map (scoreSample predict)) calibrationBucket
      CalibrationBucket.sampleCount metrics.calibration ∧
    EvenBuckets ScoredRow.probability (samples.map (scoreSample predict)) returnBucket
      ReturnBucket.sampleCount metrics.expectedReturnBpsByPredictionBucket

/-- The deciles of some samples are there, and made of even parts in the order of the score. -/
def DecilesSound (samples : List DirectedSample) (score : DirectedSample → Option ℚ)
    (costBps : ℚ) : Prop :=
  ∃ rows, scoreDeciles samples score costBps = .ok rows ∧
    EvenBuckets (fun sample => (score sample).getD 0) samples (decileRow score costBps)
      DecileRow.sampleCount rows

theorem positiveRate_returns (targets : List ℤ) : ∃ rate, positiveRate targets = .ok rate := by
  rw [positiveRate]
  split
  · exact ⟨_, rfl⟩
  · rename_i hne
    have hvalues : targets.map (fun (target : ℤ) => (target : ℚ)) ≠ [] := by simpa using hne
    rw [fmean_returns hvalues]
    exact ⟨_, rfl⟩

/-- What the metrics hold of the calibration and the returns; all else is there. -/
theorem modelSplitMetrics_spec (predict : ResearchSample → ℚ) (samples : List ResearchSample)
    {calibrated : List CalibrationBucket}
    (hcalibrated : calibration (samples.map (scoreSample predict)) = .ok calibrated) :
    (∀ {e}, predictionReturnBuckets (samples.map (scoreSample predict)) = .error e →
      modelSplitMetrics predict samples = .error e) ∧
    ∀ {returned}, predictionReturnBuckets (samples.map (scoreSample predict)) = .ok returned →
      ∃ metrics, modelSplitMetrics predict samples = .ok metrics ∧
        metrics.calibration = calibrated ∧
        metrics.expectedReturnBpsByPredictionBucket = returned := by
  obtain ⟨top5pct, htop5pct⟩ := precisionAtTopK_returns (samples.map (scoreSample predict)) (1 / 20)
  obtain ⟨top10pct, htop10pct⟩ :=
    precisionAtTopK_returns (samples.map (scoreSample predict)) (1 / 10)
  obtain ⟨rate, hrate⟩ := positiveRate_returns
    ((samples.map (scoreSample predict)).map ScoredRow.target)
  rw [modelSplitMetrics]
  simp only [hrate, htop5pct, htop10pct, hcalibrated]
  constructor
  · intro e he
    rw [he]
    rfl
  · intro returned hreturned
    rw [hreturned]
    exact ⟨_, rfl, rfl, rfl⟩

/-- **The metrics are sound exactly when there are no samples or at least five.** The deciles
are sound for any number. -/
theorem metrics_sound_iff (predict : ResearchSample → ℚ) (samples : List ResearchSample)
    (directed : List DirectedSample) (score : DirectedSample → Option ℚ) (costBps : ℚ) :
    MetricsSound predict samples ∧ DecilesSound directed score costBps ↔
      samples.length = 0 ∨ 5 ≤ samples.length := by
  have hreturns := predictionReturnBuckets_returns_iff (samples.map (scoreSample predict))
  obtain ⟨calibrated, hcalibrated, heven⟩ := calibration_even (samples.map (scoreSample predict))
  obtain ⟨hraised, hreturned⟩ := modelSplitMetrics_spec predict samples hcalibrated
  rw [List.length_map] at hreturns
  have hdeciles : DecilesSound directed score costBps := deciles_even directed score costBps
  rw [and_iff_left hdeciles, ← hreturns]
  constructor
  · rintro ⟨metrics, hmetrics, -, -⟩
    rcases hbuckets : predictionReturnBuckets (samples.map (scoreSample predict)) with e | returned
    · rw [hraised hbuckets] at hmetrics
      cases hmetrics
    · exact ⟨returned, rfl⟩
  · rintro ⟨returned, hbuckets⟩
    obtain ⟨metrics, hmetrics, rfl, rfl⟩ := hreturned hbuckets
    exact ⟨metrics, hmetrics, heven, returnBuckets_even hbuckets⟩

/-- A valid sample. -/
def sampleWithReturn : ResearchSample where
  sampleId := "phase50-00000000-1"
  sourceRowIndex := 0
  symbol := .str "BTCUSDT"
  featureTsNs := 1
  featureTsWall := .null
  labelStartTsNs := 1
  labelFutureTsNs := some 100000001
  labelHorizonMs := some 100
  labelMaxFutureGapPolicyMs := some 100
  labelObservedFutureGapMs := some 0
  futureReturn100msBps := some 5
  direction100ms := some 1
  spreadAdjustedDirection100ms := some 1
  valid100msLabel := true
  diagnosticFutureReturn250msBps := none
  features := .ofList []
  featureSourceTsNs := .ofList []
  featureSourceMaxTsNs := none

/-- The metrics of one sample end in an exception: the first of the five chunks is empty. -/
theorem metrics_raise_on_one_sample :
    modelSplitMetrics (fun _ => 1 / 2) [sampleWithReturn] =
        .error "ValueError: min() iterable argument is empty" ∧
      ¬ ∀ (predict : ResearchSample → ℚ) (samples : List ResearchSample)
        (directed : List DirectedSample) (score : DirectedSample → Option ℚ) (costBps : ℚ),
        MetricsSound predict samples ∧ DecilesSound directed score costBps := by
  have hraised : modelSplitMetrics (fun _ => 1 / 2) [sampleWithReturn] =
      .error "ValueError: min() iterable argument is empty" := by
    obtain ⟨_, hcalibrated, -⟩ := calibration_even
      ([sampleWithReturn].map (scoreSample fun _ => 1 / 2))
    exact (modelSplitMetrics_spec _ _ hcalibrated).1 rfl
  refine ⟨hraised, fun h => ?_⟩
  obtain ⟨metrics, hmetrics, -⟩ :=
    (h (fun _ => 1 / 2) [sampleWithReturn] [] (fun _ => none) 0).1
  rw [hraised] at hmetrics
  cases hmetrics

end SomethingTrade
