import Mathlib.Data.List.TakeWhile
import SomethingTrade.RankSum
import SomethingTrade.StableSort

/-!
# The Area under the Curve

How well scores tell the positives from the negatives. The rows are sorted by score and get
ranks; rows of one score form a group, and each of them gets the mean of the ranks of the group.
The area is computed from the sum of the ranks of the positives. It is the share of the pairs of
a positive and a negative in which the positive has the higher score, ties counting one half.

## Main results

* `rankSumLoop_eq`: what the loop over the groups adds up.
* `auc_eq`: the area is what the scores of the positives win over those of the negatives.
* `auc_counts_pairs`: it is a share of pairs, whatever the order of the rows, and negated scores
  give the rest.
-/

namespace SomethingTrade

/-! ### The computation -/

/-- Add the ranks of the positives group by group. The rows are sorted by score, and `rank` is
that of the first row left. -/
def rankSumLoop (order : List (ℚ × ℤ)) (rankSum : ℚ) (rank : ℕ) : ℚ :=
  match order with
  | [] => rankSum
  | first :: rest =>
      let tied := first :: rest.takeWhile fun e => e.1 = first.1
      let avgRank := ((rank : ℚ) + rank + tied.length - 1) / 2
      rankSumLoop (rest.dropWhile fun e => e.1 = first.1)
        (rankSum + avgRank * tied.countP fun e => e.2 = 1) (rank + tied.length)
termination_by order.length
decreasing_by
  exact Nat.lt_succ_of_le (List.length_dropWhile_le _ rest)

/-- The area under the curve; nothing when a class is missing. A target is positive when it is
one. -/
def auc (targets : List ℤ) (scores : List ℚ) : Option ℚ :=
  let positives := targets.countP fun target => target = 1
  let negatives := targets.length - positives
  if positives = 0 ∨ negatives = 0 then none
  else
    let rankSum := rankSumLoop (sortBy Prod.fst (scores.zip targets)) 0 1
    some ((rankSum - (positives : ℚ) * (positives + 1) / 2) / ((positives : ℚ) * negatives))

/-! ### Classes -/

/-- The scores of the positives among some rows. -/
def positivesOf (rows : List (ℚ × ℤ)) : List ℚ := (rows.filter fun e => e.2 = 1).map Prod.fst

/-- The scores of the negatives among some rows. -/
def negativesOf (rows : List (ℚ × ℤ)) : List ℚ := (rows.filter fun e => e.2 ≠ 1).map Prod.fst

section

variable {rows rows' : List (ℚ × ℤ)}

theorem positivesOf_append (rows rows' : List (ℚ × ℤ)) :
    positivesOf (rows ++ rows') = positivesOf rows ++ positivesOf rows' := by
  rw [positivesOf, List.filter_append, List.map_append]
  rfl

theorem length_positivesOf (rows : List (ℚ × ℤ)) :
    (positivesOf rows).length = rows.countP fun e => e.2 = 1 := by
  rw [positivesOf, List.length_map, List.countP_eq_length_filter]

theorem mem_positivesOf {score : ℚ} (h : score ∈ positivesOf rows) :
    ∃ e ∈ rows, e.1 = score := by
  obtain ⟨e, he, rfl⟩ := List.mem_map.mp h
  exact ⟨e, List.mem_of_mem_filter he, rfl⟩

theorem positivesOf_perm (h : rows.Perm rows') : (positivesOf rows).Perm (positivesOf rows') :=
  (h.filter _).map _

theorem negativesOf_perm (h : rows.Perm rows') : (negativesOf rows).Perm (negativesOf rows') :=
  (h.filter _).map _

/-- The positives and the negatives are all rows. -/
theorem perm_classes (rows : List (ℚ × ℤ)) :
    (positivesOf rows ++ negativesOf rows).Perm (rows.map Prod.fst) := by
  have hsplit := (List.filter_append_perm (fun e : ℚ × ℤ => e.2 = 1) rows).map Prod.fst
  rw [List.map_append] at hsplit
  simpa [positivesOf, negativesOf] using hsplit

end

/-! ### The rank sum -/

/-- The rows after the group of the first one have higher scores. -/
theorem lt_of_mem_dropWhile {first : ℚ × ℤ} {rest : List (ℚ × ℤ)}
    (h : SortedBy Prod.fst (first :: rest)) {e : ℚ × ℤ}
    (he : e ∈ rest.dropWhile fun e => e.1 = first.1) : first.1 < e.1 := by
  obtain ⟨hfirst, hrest⟩ := List.pairwise_cons.mp h
  cases hdrop : rest.dropWhile fun e => decide (e.1 = first.1) with
  | nil => simp [hdrop] at he
  | cons next later =>
      have hmem : next ∈ rest := (List.dropWhile_suffix _).subset (hdrop ▸ List.mem_cons_self)
      have hne : ¬ next.1 = first.1 := by
        have hhead := List.head?_dropWhile_not (fun e : ℚ × ℤ => decide (e.1 = first.1)) rest
        simpa [hdrop] using hhead
      have hnext : first.1 < next.1 := lt_of_le_of_ne (hfirst next hmem) (Ne.symm hne)
      have hsorted := hrest.sublist (List.dropWhile_sublist fun e => decide (e.1 = first.1))
      rw [hdrop] at he hsorted
      rcases List.mem_cons.mp he with rfl | he
      · exact hnext
      · exact hnext.trans_le ((List.pairwise_cons.mp hsorted).1 e he)

/-- **What the loop adds up**: each positive adds its rank, which is one half more than what it
wins over the rows that are left, counted from the rank of the first. The induction is that of
the loop. The group of the first row wins nothing over the rows after it, which win every
comparison with the group. -/
theorem rankSumLoop_eq {order : List (ℚ × ℤ)} (h : SortedBy Prod.fst order) (rankSum : ℚ)
    (rank : ℕ) :
    rankSumLoop order rankSum rank =
      rankSum + ((rank : ℚ) - 1 / 2) * (positivesOf order).length +
        wins (positivesOf order) (order.map Prod.fst) := by
  induction order, rankSum, rank using rankSumLoop.induct with
  | case1 rankSum rank => simp [rankSumLoop, positivesOf]
  | case2 rankSum rank first rest tied avgRank ih =>
      rw [rankSumLoop]
      have hsplit : first :: rest = tied ++ rest.dropWhile fun e => e.1 = first.1 := by
        rw [List.cons_append, List.takeWhile_append_dropWhile]
      have hlater := fun e he => lt_of_mem_dropWhile h (e := e) he
      have htied : ∀ e ∈ tied, e.1 = first.1 := by
        intro e he
        rcases List.mem_cons.mp he with rfl | he
        · rfl
        · have htest := List.mem_takeWhile_imp he
          simpa using htest
      have hsorted : SortedBy Prod.fst (rest.dropWhile fun e => e.1 = first.1) :=
        h.sublist ((List.dropWhile_sublist _).cons _)
      rw [ih hsorted]
      generalize rest.dropWhile (fun e => decide (e.1 = first.1)) = later at hsplit hlater
      have hwithin : wins (positivesOf tied) (tied.map Prod.fst) =
          ((positivesOf tied).length : ℚ) * tied.length / 2 := by
        rw [wins_of_eq, List.length_map]
        rintro x hx y hy
        obtain ⟨e, he, rfl⟩ := mem_positivesOf hx
        obtain ⟨e', he', rfl⟩ := List.mem_map.mp hy
        rw [htied e he, htied e' he']
      have hbelow : wins (positivesOf tied) (later.map Prod.fst) = 0 := by
        refine wins_of_lt fun x hx y hy => ?_
        obtain ⟨e, he, rfl⟩ := mem_positivesOf hx
        obtain ⟨e', he', rfl⟩ := List.mem_map.mp hy
        exact htied e he ▸ hlater e' he'
      have habove : wins (positivesOf later) (tied.map Prod.fst) =
          ((positivesOf later).length : ℚ) * tied.length := by
        rw [wins_of_gt, List.length_map]
        rintro x hx y hy
        obtain ⟨e, he, rfl⟩ := mem_positivesOf hx
        obtain ⟨e', he', rfl⟩ := List.mem_map.mp hy
        exact htied e' he' ▸ hlater e he
      rw [hsplit, positivesOf_append, List.map_append, wins_append, wins_append_right,
        wins_append_right, hwithin, hbelow, habove, List.length_append,
        ← length_positivesOf]
      push_cast
      rw [show avgRank = ((rank : ℚ) + rank + tied.length - 1) / 2 from rfl]
      ring

/-! ### The area -/

section

variable {targets : List ℤ} {scores : List ℚ}

/-- The positives are counted by their targets. -/
theorem countP_targets (h : targets.length = scores.length) :
    targets.countP (fun target => target = 1) = (positivesOf (scores.zip targets)).length := by
  have hsecond : (scores.zip targets).map Prod.snd = targets := List.map_snd_zip h.le
  rw [length_positivesOf]
  conv_lhs => rw [← hsecond]
  rw [List.countP_map]
  rfl

/-- The rest of the targets are those of the negatives. -/
theorem length_targets_sub (h : targets.length = scores.length) :
    targets.length - (positivesOf (scores.zip targets)).length =
      (negativesOf (scores.zip targets)).length := by
  have hlength := (perm_classes (scores.zip targets)).length_eq
  rw [List.length_append, List.length_map, List.length_zip] at hlength
  omega

/-- **The area is what the positives win over the negatives**, by the number of their pairs: of
the rank sum, what the positives win over each other and the halves are taken off. -/
theorem auc_eq (h : targets.length = scores.length) :
    auc targets scores =
      if (positivesOf (scores.zip targets)).length = 0 ∨
          (negativesOf (scores.zip targets)).length = 0 then none
      else some (wins (positivesOf (scores.zip targets)) (negativesOf (scores.zip targets)) /
        (((positivesOf (scores.zip targets)).length : ℚ) *
          (negativesOf (scores.zip targets)).length)) := by
  have hperm := perm_sortBy Prod.fst (scores.zip targets)
  have hpositives := positivesOf_perm hperm
  have hclasses : (((sortBy Prod.fst (scores.zip targets)).map Prod.fst)).Perm
      (positivesOf (scores.zip targets) ++ negativesOf (scores.zip targets)) :=
    (hperm.map _).trans (perm_classes _).symm
  have hrank := rankSumLoop_eq (sortedBy_sortBy Prod.fst (scores.zip targets)) 0 1
  rw [wins_perm hpositives hclasses, wins_append_right, wins_self, hpositives.length_eq] at hrank
  rw [auc, countP_targets h, length_targets_sub h, hrank]
  refine congrArg (ite _ none) (congrArg (fun won => some (won / _)) ?_)
  push_cast
  ring

end

/-! ### Pairs -/

/-- The pairs of a positive and a negative. -/
def classPairs (targets : List ℤ) (scores : List ℚ) : List (ℚ × ℚ) :=
  positivesOf (scores.zip targets) ×ˢ negativesOf (scores.zip targets)

/-- What the area is: the share of the pairs in which the positive has the higher score, ties
counting one half. -/
def pairShare (targets : List ℤ) (scores : List ℚ) : ℚ :=
  (((classPairs targets scores).countP fun e => e.2 < e.1 : ℕ) +
      ((classPairs targets scores).countP fun e => e.1 = e.2 : ℕ) / 2) /
    (((positivesOf (scores.zip targets)).length : ℚ) *
      (negativesOf (scores.zip targets)).length)

/-- Negated scores keep the classes. -/
theorem zip_map_neg (targets : List ℤ) (scores : List ℚ) :
    positivesOf ((scores.map fun x => -x).zip targets) =
        (positivesOf (scores.zip targets)).map (fun x => -x) ∧
      negativesOf ((scores.map fun x => -x).zip targets) =
        (negativesOf (scores.zip targets)).map fun x => -x := by
  have hzip : (scores.map fun x => -x).zip targets =
      (scores.zip targets).map fun e => (-e.1, e.2) := by
    rw [List.zip_map_left]
    rfl
  constructor
  · rw [hzip, positivesOf, positivesOf, List.filter_map, List.map_map, List.map_map]
    rfl
  · rw [hzip, negativesOf, negativesOf, List.filter_map, List.map_map, List.map_map]
    rfl

section

variable {targets : List ℤ} {scores : List ℚ}

/-- The area is there when no class is missing. -/
theorem auc_eq_none_iff (h : targets.length = scores.length) :
    auc targets scores = none ↔
      (∀ target ∈ targets, target ≠ 1) ∨ ∀ target ∈ targets, target = 1 := by
  have hpositive : (positivesOf (scores.zip targets)).length = 0 ↔
      ∀ target ∈ targets, target ≠ 1 := by
    rw [← countP_targets h, List.countP_eq_zero]
    simp
  have hnegative : (negativesOf (scores.zip targets)).length = 0 ↔
      ∀ target ∈ targets, target = 1 := by
    have hle : targets.countP (fun target => target = 1) ≤ targets.length := List.countP_le_length
    rw [← length_targets_sub h, ← countP_targets h, Nat.sub_eq_zero_iff_le, hle.ge_iff_eq,
      List.countP_eq_length]
    simp
  rw [auc_eq h, ← hpositive, ← hnegative]
  split
  · rename_i hmissing
    exact iff_of_true rfl hmissing
  · rename_i hclasses
    exact iff_of_false (Option.some_ne_none _) hclasses

/-- The area is the share of the pairs, which is between zero and one. -/
theorem auc_share (h : targets.length = scores.length) {area : ℚ}
    (harea : auc targets scores = some area) :
    area = pairShare targets scores ∧ 0 ≤ area ∧ area ≤ 1 := by
  rw [auc_eq h] at harea
  split at harea
  · cases harea
  · obtain rfl := Option.some.inj harea
    have hpairs : (0 : ℚ) ≤ ((positivesOf (scores.zip targets)).length : ℚ) *
        (negativesOf (scores.zip targets)).length := by positivity
    refine ⟨?_, div_nonneg (wins_nonneg _ _) hpairs, div_le_one_of_le₀ (wins_le _ _) hpairs⟩
    rw [wins_eq_countP]
    rfl

/-- The order of the rows does not matter. -/
theorem auc_perm (h : targets.length = scores.length) {targets' : List ℤ} {scores' : List ℚ}
    (h' : targets'.length = scores'.length)
    (hperm : (scores'.zip targets').Perm (scores.zip targets)) :
    auc targets' scores' = auc targets scores := by
  have hp := positivesOf_perm hperm
  have hn := negativesOf_perm hperm
  rw [auc_eq h, auc_eq h', wins_perm hp hn, hp.length_eq, hn.length_eq]

/-- Negated scores give the rest: the positives win what the negatives won. -/
theorem auc_neg (h : targets.length = scores.length) :
    auc targets (scores.map fun x => -x) = (auc targets scores).map fun area => 1 - area := by
  obtain ⟨hp, hn⟩ := zip_map_neg targets scores
  have hneg : targets.length = (scores.map fun x => -x).length := by rw [List.length_map, h]
  rw [auc_eq h, auc_eq hneg, hp, hn, List.length_map, List.length_map,
    wins_map_of_anti fun x y hxy => neg_lt_neg hxy]
  split
  · rfl
  · rename_i hclasses
    rw [not_or] at hclasses
    have hshare := wins_add_swap (positivesOf (scores.zip targets))
      (negativesOf (scores.zip targets))
    have hp : ((positivesOf (scores.zip targets)).length : ℚ) ≠ 0 := by exact_mod_cast hclasses.1
    have hn : ((negativesOf (scores.zip targets)).length : ℚ) ≠ 0 := by exact_mod_cast hclasses.2
    refine congrArg some (eq_sub_of_add_eq ?_)
    rw [← add_div, add_comm, hshare, div_self (mul_ne_zero hp hn)]

end

/-- **The area is the share of the pairs of a positive and a negative in which the positive has
the higher score**, ties counting one half. It is there when no class is missing, lies between
zero and one, does not depend on the order of the rows, and becomes the rest when all scores are
negated. -/
theorem auc_counts_pairs {targets : List ℤ} {scores : List ℚ}
    (h : targets.length = scores.length) :
    (auc targets scores = none ↔
      (∀ target ∈ targets, target ≠ 1) ∨ ∀ target ∈ targets, target = 1) ∧
    (∀ area, auc targets scores = some area →
      area = pairShare targets scores ∧ 0 ≤ area ∧ area ≤ 1) ∧
    (∀ {targets' : List ℤ} {scores' : List ℚ}, targets'.length = scores'.length →
      (scores'.zip targets').Perm (scores.zip targets) →
        auc targets' scores' = auc targets scores) ∧
    auc targets (scores.map fun x => -x) = (auc targets scores).map fun area => 1 - area :=
  ⟨auc_eq_none_iff h, fun _ => auc_share h, auc_perm h, auc_neg h⟩

/-- A positive with the highest score and one that is tied with the negative: the area is three
quarters. -/
theorem auc_counts_pairs_tied :
    auc [1, 0, 1] [1 / 2, 1 / 4, 1 / 4] = some (3 / 4) ∧
      auc [1, 0, 1] [-(1 / 2), -(1 / 4), -(1 / 4)] = some (1 / 4) := by
  have harea : auc [1, 0, 1] [1 / 2, 1 / 4, 1 / 4] = some (3 / 4) := by
    decide +kernel
  obtain ⟨-, -, -, hneg⟩ := auc_counts_pairs (show [1, 0, 1].length =
    [(1 / 2 : ℚ), 1 / 4, 1 / 4].length from rfl)
  rw [harea] at hneg
  refine ⟨harea, hneg.trans ?_⟩
  norm_num

end SomethingTrade
