import SomethingTrade.AucScore
import SomethingTrade.EdgeRobustness

/-!
# The Direction of the Model

The model of the edge reports is fitted to the training samples and gives each sample a
probability that the price goes up. The confidence of a sample is how far its probability is from
the rate at which prices went up in training. The direction that a sample signals compares the
probability with a base rate too, but with one that the sample carries, or else one in a hundred;
nothing writes the rate of the training samples there.

## Representation

* What the fitted model gives is a parameter: a probability from the training samples and the
  sample.

## Main results

* `sampleAuc_perm`: how well the probabilities tell the ups does not depend on the order of the
  samples.
* `signal_follows_model_iff`: the directions follow the model exactly when no probability lies
  between the two base rates.
-/

namespace SomethingTrade

/-! ### The model -/

/-- What the model reads of a sample: its label and what the reports read of it. -/
structure DirectedSample extends ScoredSample where
  direction100ms : Option ℤ

namespace DirectedSample

/-- The target of a sample: whether the price went up. -/
def target (s : DirectedSample) : ℤ := if s.direction100ms = some 1 then 1 else 0

/-- Whether the model scores a sample: it has a valid label and belongs to a part. -/
def isScored (s : DirectedSample) : Bool := s.valid100msLabel && s.split.isSome

/-- The base rate that the direction of a sample is judged by. -/
def assumedBaseRate (s : DirectedSample) : ℚ := orFloat s.modelBaseRate (1 / 100)

end DirectedSample

/-- The training samples. -/
def trainSamples (samples : List DirectedSample) : List DirectedSample :=
  (samples.filter DirectedSample.isScored).filter fun s => s.split = some .train

/-- The targets of the training samples. -/
def trainTargets (samples : List DirectedSample) : List ℤ :=
  (trainSamples samples).map DirectedSample.target

/-- The rate of ups among the training samples. -/
def trainPositiveRate (samples : List DirectedSample) : ℚ :=
  meanOrZero ((trainTargets samples).map fun target => (target : ℚ))

/-- Whether a model can be fitted: the training samples have two classes. -/
def hasTwoClasses (samples : List DirectedSample) : Bool :=
  2 ≤ (trainTargets samples).dedup.length

/-- What is known of the model. -/
structure ModelContext where
  status : String
  skipReason : Option String
  basePositiveRate : ℚ

/-- Fit the model and score the samples. -/
def buildModelContext (fit : List DirectedSample → DirectedSample → ℚ)
    (samples : List DirectedSample) : ModelContext × List DirectedSample :=
  if !hasTwoClasses samples then
    ({ status := "skipped"
       skipReason := some "training split has fewer than two classes"
       basePositiveRate := 0 },
      samples.map fun s =>
        if s.isScored then { s with modelProbability := none, modelConfidence := none } else s)
  else
    let baseRate := trainPositiveRate samples
    ({ status := "pass"
       skipReason := none
       basePositiveRate := baseRate },
      samples.map fun s =>
        if s.isScored then
          let probability := fit (trainSamples samples) s
          { s with
            modelProbability := some probability
            modelConfidence := some |probability - baseRate| }
        else s)

/-! ### The area of the samples -/

/-- How well the probabilities of some samples tell the ups. -/
def sampleAuc (samples : List DirectedSample) : Option ℚ :=
  auc (samples.map DirectedSample.target) (samples.map fun s => s.modelProbability.getD 0)

/-- The order of the samples does not matter. -/
theorem sampleAuc_perm {samples samples' : List DirectedSample} (h : samples'.Perm samples) :
    sampleAuc samples' = sampleAuc samples := by
  refine auc_perm (by simp) (by simp) ?_
  rw [List.zip_map', List.zip_map']
  exact h.map _

/-! ### Directions -/

/-- The directions follow the model: a sample whose probability is above the base rate of the
model signals up, one below it down, and the confidence that ranks it is the distance. -/
def FollowsModel (fit : List DirectedSample → DirectedSample → ℚ)
    (samples : List DirectedSample) : Prop :=
  ∀ s ∈ (buildModelContext fit samples).2, s.isScored = true →
    ∀ probability, s.modelProbability = some probability →
      ((buildModelContext fit samples).1.basePositiveRate < probability →
        s.signalDirection = 1) ∧
      (probability < (buildModelContext fit samples).1.basePositiveRate →
        s.signalDirection = -1) ∧
      rankValue s.toScoredSample .modelConfidence =
        |probability - (buildModelContext fit samples).1.basePositiveRate|

/-- The probability of a sample lies between a base rate and the assumed one, or on the assumed
one while the gap points the other way. -/
def Misplaced (s : DirectedSample) (probability baseRate : ℚ) : Prop :=
  (s.assumedBaseRate < probability ∧ probability < baseRate) ∨
  (baseRate < probability ∧ probability < s.assumedBaseRate) ∨
  (probability = s.assumedBaseRate ∧
    (probability < baseRate ∧ s.gapDirection = 1 ∨
      baseRate < probability ∧ s.gapDirection = -1))

theorem gapDirection_cases (s : ScoredSample) : s.gapDirection = 1 ∨ s.gapDirection = -1 := by
  rw [ScoredSample.gapDirection]
  split
  · exact .inl rfl
  · split
    · exact .inr rfl
    · exact .inl rfl

/-- The direction of a sample with a probability. -/
theorem signalDirection_of_probability {s : DirectedSample} {probability : ℚ}
    (h : s.modelProbability = some probability) :
    s.signalDirection =
      if s.assumedBaseRate < probability then 1
      else if probability < s.assumedBaseRate then -1
      else s.gapDirection := by
  rw [ScoredSample.signalDirection, h]
  rfl

/-- A direction follows a base rate exactly when the probability is not misplaced. -/
theorem direction_follows_iff {s : DirectedSample} {probability : ℚ}
    (h : s.modelProbability = some probability) (baseRate : ℚ) :
    ((baseRate < probability → s.signalDirection = 1) ∧
        (probability < baseRate → s.signalDirection = -1)) ↔
      ¬ Misplaced s probability baseRate := by
  have hne : (1 : ℚ) ≠ -1 := by norm_num
  rw [signalDirection_of_probability h, Misplaced]
  rcases lt_trichotomy s.assumedBaseRate probability with hlt | heq | hgt
  · simp [hlt, hlt.asymm, hlt.ne', hne]
  · -- on the assumed base rate the gap decides
    rw [heq, if_neg (lt_irrefl _), if_neg (lt_irrefl _)]
    rcases gapDirection_cases s.toScoredSample with hgap | hgap
    · simp [hgap, hne]
    · simp [hgap, hne.symm]
  · simp [hgt, hgt.asymm, hgt.ne, hne.symm]

/-- A sample that the model scored. -/
def scoredSample (fit : List DirectedSample → DirectedSample → ℚ) (samples : List DirectedSample)
    (s : DirectedSample) : DirectedSample :=
  { s with
    modelProbability := some (fit (trainSamples samples) s)
    modelConfidence := some |fit (trainSamples samples) s - trainPositiveRate samples| }

/-- With two classes every sample that is to be scored is. -/
theorem mem_buildModelContext {fit : List DirectedSample → DirectedSample → ℚ}
    {samples : List DirectedSample} (htwo : hasTwoClasses samples = true) {s : DirectedSample}
    (hs : s ∈ samples) (hscored : s.isScored = true) :
    scoredSample fit samples s ∈ (buildModelContext fit samples).2 := by
  rw [buildModelContext, htwo]
  exact List.mem_map.mpr ⟨s, hs, if_pos hscored⟩

/-- **The directions follow the model** exactly when no probability is misplaced. Without two
classes there is no probability, and the confidence is the distance in any case. -/
theorem signal_follows_model_iff (fit : List DirectedSample → DirectedSample → ℚ)
    (samples : List DirectedSample) :
    FollowsModel fit samples ↔
      (hasTwoClasses samples = true → ∀ s ∈ samples, s.isScored = true →
        ¬ Misplaced s (fit (trainSamples samples) s) (trainPositiveRate samples)) := by
  constructor
  · intro h htwo s hs hscored
    obtain ⟨hup, hdown, -⟩ := h _ (mem_buildModelContext htwo hs hscored) hscored _ rfl
    rw [buildModelContext, htwo] at hup hdown
    exact (direction_follows_iff (s := scoredSample fit samples s) rfl _).mp ⟨hup, hdown⟩
  · intro h scored hmem hscored probability hprobability
    rw [buildModelContext] at hmem ⊢
    cases htwo : hasTwoClasses samples
    · rw [htwo] at hmem
      obtain ⟨s, -, rfl⟩ := List.mem_map.mp hmem
      split at hprobability
      · cases hprobability
      · rename_i hunscored
        rw [if_neg hunscored] at hscored
        exact absurd hscored hunscored
    · rw [htwo] at hmem
      obtain ⟨s, hs, rfl⟩ := List.mem_map.mp hmem
      by_cases hbefore : s.isScored = true
      · rw [if_pos hbefore] at hprobability ⊢
        obtain rfl := Option.some.inj hprobability
        obtain ⟨hup, hdown⟩ := (direction_follows_iff (s := scoredSample fit samples s) rfl
          (trainPositiveRate samples)).mpr (h htwo s hs hbefore)
        exact ⟨hup, hdown, rfl⟩
      · rw [if_neg hbefore] at hscored
        exact absurd hscored hbefore

/-- A training sample whose price went up or down. -/
def trainSample (direction : ℤ) : DirectedSample where
  split := some .train
  valid100msLabel := true
  futureReturn100msBps := some direction
  features := .ofList []
  modelProbability := none
  modelConfidence := none
  modelBaseRate := none
  direction100ms := some direction

/-- Half of the training samples went up, so a probability of three tenths says down; but all of
them signal up. -/
theorem signal_against_model :
    ¬ ∀ (fit : List DirectedSample → DirectedSample → ℚ),
      (∀ train s, 0 < fit train s ∧ fit train s < 1) →
        ∀ samples, FollowsModel fit samples := by
  intro h
  have hfollows := h (fun _ _ => 3 / 10) (fun _ _ => by norm_num) [trainSample 1, trainSample (-1)]
  obtain ⟨-, hdown, -⟩ := hfollows (scoredSample (fun _ _ => 3 / 10)
    [trainSample 1, trainSample (-1)] (trainSample 1))
    (mem_buildModelContext rfl List.mem_cons_self rfl) rfl _ rfl
  exact absurd (hdown (by decide +kernel)) (by decide +kernel)

end SomethingTrade
