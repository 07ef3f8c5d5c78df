import Mathlib.Tactic.Linarith
import Mathlib.Tactic.Positivity
import Mathlib.Tactic.FieldSimp
import Mathlib.Tactic.Ring
import SomethingTrade.LabeledRows

/-!
# The Features of a Book

The bounds of the features that a validated sample has by itself. A validated sample holds a
`Book`: two sides with sizes that are not negative, below and above best prices that do not
cross. The weighed price lies between the best prices, so its distance from the mid price is
at most half of the spread; an imbalance is a difference over the sum of the same two sizes;
a depth adds up the sizes of a longer prefix.

The features are exact here: the code computes the same formulas in floats.

## Main results

* `Book.boundedFeatures`: the features of a book are within their bounds.
* `Book.imbalances_mirrored`: the features of the mirrored book have the negated imbalances.
* `extractCurrentFeatures_bounded`: both, for the features of a validated sample.
-/

namespace SomethingTrade

/-! ### Imbalances and weighted means -/

section Quotients

variable {a b : ℚ}

theorem abs_imbalance_le_one (ha : 0 ≤ a) (hb : 0 ≤ b) : |(a - b) / (a + b)| ≤ 1 := by
  rw [abs_div, abs_of_nonneg (add_nonneg ha hb)]
  refine div_le_one_of_le₀ ?_ (add_nonneg ha hb)
  rw [abs_le]
  constructor <;> linarith

theorem imbalance_swap (a b : ℚ) : (b - a) / (b + a) = -((a - b) / (a + b)) := by
  rw [← neg_sub, neg_div, add_comm]

/-- A mean with weights that are not negative lies between what it is of. -/
theorem mean_bounds {low high : ℚ} (hlt : low ≤ high) (ha : 0 ≤ a) (hb : 0 ≤ b)
    (hsum : a + b ≠ 0) :
    low ≤ (high * a + low * b) / (a + b) ∧ (high * a + low * b) / (a + b) ≤ high := by
  have hpos : 0 < a + b := lt_of_le_of_ne (add_nonneg ha hb) hsum.symm
  constructor
  · rw [le_div_iff₀ hpos]
    nlinarith
  · rw [div_le_iff₀ hpos]
    nlinarith

/-- Its distance from the middle, relative to the middle, is at most half of the range. -/
theorem mean_edge_le {low high p : ℚ} (hlow : 0 < low) (hlt : low ≤ high) (hle : low ≤ p)
    (hge : p ≤ high) :
    |(p - (low + high) / 2) / ((low + high) / 2) * 10000| ≤
      (high - low) / ((low + high) / 2) * 10000 / 2 := by
  have hmid : 0 < (low + high) / 2 := by linarith
  have hdist : |p - (low + high) / 2| ≤ (high - low) / 2 := by
    rw [abs_le]
    constructor <;> linarith
  calc |(p - (low + high) / 2) / ((low + high) / 2) * 10000|
      = |p - (low + high) / 2| / ((low + high) / 2) * 10000 := by
        rw [abs_mul, abs_div, abs_of_pos hmid, abs_of_nonneg (by norm_num : (0 : ℚ) ≤ 10000)]
    _ ≤ (high - low) / 2 / ((low + high) / 2) * 10000 := by gcongr
    _ = (high - low) / ((low + high) / 2) * 10000 / 2 := by ring

end Quotients

/-! ### Depths -/

/-- The sizes of a side are not negative. -/
def SizesNonneg (levels : List (ℚ × ℚ)) : Prop := ∀ e ∈ levels, 0 ≤ e.2

theorem depthOf_nonneg {levels : List (ℚ × ℚ)} (h : SizesNonneg levels) (level : ℕ) :
    0 ≤ depthOf levels level := by
  refine List.sum_nonneg fun size hsize => ?_
  obtain ⟨e, he, rfl⟩ := List.mem_map.mp hsize
  exact h e (List.mem_of_mem_take he)

/-- More levels hold at least as much. -/
theorem depthOf_mono {levels : List (ℚ × ℚ)} (h : SizesNonneg levels) {m n : ℕ} (hmn : m ≤ n) :
    depthOf levels m ≤ depthOf levels n := by
  obtain ⟨k, rfl⟩ := Nat.exists_eq_add_of_le hmn
  have hsplit : depthOf levels (m + k) = depthOf levels m + depthOf (levels.drop m) k := by
    rw [depthOf, depthOf, depthOf, List.take_add, List.map_append, List.sum_append]
  have hrest : SizesNonneg (levels.drop m) := fun e he => h e (List.mem_of_mem_drop he)
  rw [hsplit]
  linarith [depthOf_nonneg hrest k]

/-! ### Books -/

/-- The book of a validated sample. -/
structure Book where
  bids : List (ℚ × ℚ)
  asks : List (ℚ × ℚ)
  bestBid : ℚ
  bestAsk : ℚ
  bids_sizes : SizesNonneg bids
  asks_sizes : SizesNonneg asks
  bids_ne_nil : bids ≠ []
  asks_ne_nil : asks ≠ []
  pos : 0 < bestBid
  lt : bestBid < bestAsk

/-- A sample holds a book. -/
structure Book.IsOf (book : Book) (sample : Json) : Prop where
  bids : parseInputLevels (sample.get "bids") = .ok book.bids
  asks : parseInputLevels (sample.get "asks") = .ok book.asks
  bestBid : asFloat (sample.get "best_bid") = .ok book.bestBid
  bestAsk : asFloat (sample.get "best_ask") = .ok book.bestAsk

/-- The row of a book's features. -/
def Book.row (book : Book) (i : ℕ) : RowFeatures where
  features := .ofList (bookFeatures book.bids book.asks book.bestBid book.bestAsk)
  warnings := sortedSet (bookWarnings book.bids book.asks)
  sourceIndices := .ofList
    ((bookFeatures book.bids book.asks book.bestBid book.bestAsk).map fun e => (e.1, some i))

theorem size_of_parseInputLevel {item : Json} {e : ℚ × ℚ} (h : parseInputLevel item = .ok e) :
    0 ≤ e.2 := by
  unfold parseInputLevel at h
  split at h
  · rename_i priceCell sizeCell
    cases hprice : asFloat priceCell with
    | error reason => simp [hprice, bind, Except.bind] at h
    | ok price =>
        cases hsize : asFloat sizeCell with
        | error reason => simp [hprice, hsize, bind, Except.bind] at h
        | ok size =>
            simp only [hprice, hsize, bind, Except.bind, pure, Except.pure] at h
            split at h
            · cases h
            · rename_i hbound
              obtain rfl := Except.ok.inj h
              exact not_lt.mp fun hneg => hbound (Or.inr hneg)
  · cases h

theorem sizes_of_parseInputLevels {value : Json} {levels : List (ℚ × ℚ)}
    (h : parseInputLevels value = .ok levels) : SizesNonneg levels := by
  cases value with
  | arr items =>
      intro e he
      have hmem : Except.ok e ∈ items.map parseInputLevel := by
        rw [mapM_eq_ok_iff.mp h]
        exact List.mem_map_of_mem he
      obtain ⟨item, -, hitem⟩ := List.mem_map.mp hmem
      exact size_of_parseInputLevel hitem
  | _ => cases h

/-- A validated sample holds a book. -/
theorem exists_book {sample : Json} (h : cleanSampleErrors sample = []) :
    ∃ book : Book, book.IsOf sample := by
  obtain ⟨bids, asks, bestBid, bestAsk, hbids, hasks, hbid, hask, hpos, hlt⟩ := book_of_clean h
  simp only [cleanSampleErrors, sortedSet_eq_nil, List.append_eq_nil_iff] at h
  obtain ⟨⟨⟨-, hlevels⟩, -⟩, -⟩ := h
  simp [bookLevelErrors, hbids, hasks, bind, Except.bind, pure, Except.pure] at hlevels
  obtain ⟨hbidsNe, hasksNe, -⟩ := hlevels
  exact ⟨⟨bids, asks, bestBid, bestAsk, sizes_of_parseInputLevels hbids,
    sizes_of_parseInputLevels hasks, hbidsNe, hasksNe, hpos, hlt⟩, hbids, hasks, hbid, hask⟩

theorem Book.IsOf.extract {book : Book} {sample : Json} (h : book.IsOf sample) (i : ℕ) :
    extractCurrentFeatures sample i = .ok (book.row i) := by
  have hsum : 0 < book.bestBid + book.bestAsk := by linarith [book.pos, book.lt]
  simp only [extractCurrentFeatures, h.bids, h.asks, h.bestBid, h.bestAsk, bind, Except.bind]
  rw [if_neg fun hzero => hsum.ne' hzero.2]
  rfl

/-! ### Reading the features of a book -/

/-- A feature of a book is in its row. -/
theorem Book.get_row {book : Book} {i : ℕ} {name : String} {value : Option ℚ}
    (h : (name, value) ∈ bookFeatures book.bids book.asks book.bestBid book.bestAsk) :
    (book.row i).get name = value := by
  rw [RowFeatures.get, Book.row, get?_bookFeatures h]
  rfl

/-- So is a depth feature. -/
theorem Book.get_depth {book : Book} {i level : ℕ} (hlevel : level ∈ depthLevels)
    {name : String} {value : Option ℚ}
    (h : (name, value) ∈ depthFeatures book.bids book.asks level) :
    (book.row i).get name = value := by
  refine book.get_row ?_
  have hdepths : (name, value) ∈ depthLevels.flatMap (depthFeatures book.bids book.asks) :=
    List.mem_flatMap.mpr ⟨level, hlevel, h⟩
  simp only [bookFeatures, List.mem_append]
  exact .inl (.inl (.inr hdepths))

/-- The size at the top of a side. -/
def topSize (levels : List (ℚ × ℚ)) : ℚ := (levels.head?.map Prod.snd).getD 0

theorem topSize_nonneg {levels : List (ℚ × ℚ)} (h : SizesNonneg levels) : 0 ≤ topSize levels := by
  cases levels with
  | nil => exact le_refl 0
  | cons e levels => exact h e List.mem_cons_self

theorem Book.topSizes_eq (book : Book) :
    topSizes book.bids book.asks =
      if topSize book.bids + topSize book.asks = 0 then none
      else some (topSize book.bids, topSize book.asks) := by
  obtain ⟨bid, bids, hbids⟩ := List.exists_cons_of_ne_nil book.bids_ne_nil
  obtain ⟨ask, asks, hasks⟩ := List.exists_cons_of_ne_nil book.asks_ne_nil
  rw [topSizes, hbids, hasks]
  by_cases hzero : bid.2 + ask.2 = 0 <;> simp [topSize, hzero]

/-- What the features of a book are divided by, unless they need more levels. -/
def Book.featureDivisors (book : Book) : List (String × List ℚ) :=
  let mid := (book.bestBid + book.bestAsk) / 2
  let sizes := topSize book.bids + topSize book.asks
  [("spread_bps", [mid]), ("l1_size_imbalance", [sizes]), ("microprice_l1", [sizes]),
    ("microprice_edge_bps", [sizes, mid])] ++
  depthLevels.flatMap fun level =>
    [("depth_imbalance_l" ++ toString level,
        [depthOf book.bids level + depthOf book.asks level]),
      ("depth_ratio_l" ++ toString level, [depthOf book.asks level])]

/-- The features of a book within their bounds: the weighed price between the best prices and
at most half of the spread from the middle, imbalances between minus one and one, depths that
add up and do not decrease, and a feature exactly where nothing divides by zero. -/
structure BoundedFeatures (book : Book) (row : RowFeatures) : Prop where
  bestPrices : row.get "best_bid" = some book.bestBid ∧ row.get "best_ask" = some book.bestAsk
  microprice : ∀ price ∈ row.get "microprice_l1", book.bestBid ≤ price ∧ price ≤ book.bestAsk
  edge : ∃ spreadBps, row.get "spread_bps" = some spreadBps ∧
    ∀ edge ∈ row.get "microprice_edge_bps", -(spreadBps / 2) ≤ edge ∧ edge ≤ spreadBps / 2
  l1Imbalance : ∀ imbalance ∈ row.get "l1_size_imbalance", -1 ≤ imbalance ∧ imbalance ≤ 1
  depthImbalance : ∀ level ∈ depthLevels,
    ∀ imbalance ∈ row.get ("depth_imbalance_l" ++ toString level), -1 ≤ imbalance ∧ imbalance ≤ 1
  total : ∀ level ∈ depthLevels, ∃ bidDepth askDepth,
    row.get ("bid_depth_l" ++ toString level) = some bidDepth ∧
    row.get ("ask_depth_l" ++ toString level) = some askDepth ∧
    row.get ("total_depth_l" ++ toString level) = some (bidDepth + askDepth)
  monotone : ∀ depth ∈ ["bid_depth_l", "ask_depth_l", "total_depth_l"],
    ∀ level ∈ depthLevels, ∀ deeper ∈ depthLevels, level ≤ deeper → ∃ less more,
      row.get (depth ++ toString level) = some less ∧
      row.get (depth ++ toString deeper) = some more ∧ less ≤ more
  divisors : ∀ e ∈ book.featureDivisors, (row.get e.1).isSome ↔ ∀ divisor ∈ e.2, divisor ≠ 0
  slopes : ∀ side ∈ [("bid_slope_l5", book.bids), ("ask_slope_l5", book.asks)],
    ((row.get side.1).isSome ↔ 5 ≤ side.2.length) ∧ ∀ slope ∈ row.get side.1, 0 ≤ slope

/-! ### The bounds -/

theorem Book.mid_pos (book : Book) : 0 < (book.bestBid + book.bestAsk) / 2 := by
  linarith [book.pos, book.lt]

theorem Book.get_spreadBps (book : Book) (i : ℕ) :
    (book.row i).get "spread_bps" =
      some ((book.bestAsk - book.bestBid) / ((book.bestBid + book.bestAsk) / 2) * 10000) :=
  book.get_row (by simp [bookFeatures, book.mid_pos])

theorem Book.get_l1Imbalance (book : Book) (i : ℕ) :
    (book.row i).get "l1_size_imbalance" =
      if topSize book.bids + topSize book.asks = 0 then none
      else some ((topSize book.bids - topSize book.asks) /
        (topSize book.bids + topSize book.asks)) := by
  have hrow : (book.row i).get "l1_size_imbalance" =
      (topSizes book.bids book.asks).map fun e => (e.1 - e.2) / (e.1 + e.2) :=
    book.get_row (by simp [bookFeatures])
  rw [hrow, book.topSizes_eq]
  split <;> rfl

/-- The weighed price of a book. -/
def Book.microprice (book : Book) : ℚ :=
  (book.bestAsk * topSize book.bids + book.bestBid * topSize book.asks) /
    (topSize book.bids + topSize book.asks)

theorem Book.micropriceL1_eq (book : Book) :
    micropriceL1 book.bids book.asks book.bestBid book.bestAsk =
      if topSize book.bids + topSize book.asks = 0 then none else some book.microprice := by
  rw [micropriceL1, book.topSizes_eq]
  split <;> rfl

theorem Book.get_microprice (book : Book) (i : ℕ) :
    (book.row i).get "microprice_l1" =
      if topSize book.bids + topSize book.asks = 0 then none else some book.microprice := by
  rw [← book.micropriceL1_eq]
  exact book.get_row (by simp [bookFeatures])

theorem Book.get_edge (book : Book) (i : ℕ) :
    (book.row i).get "microprice_edge_bps" =
      if topSize book.bids + topSize book.asks = 0 then none
      else some ((book.microprice - (book.bestBid + book.bestAsk) / 2) /
        ((book.bestBid + book.bestAsk) / 2) * 10000) := by
  have hrow : (book.row i).get "microprice_edge_bps" =
      (micropriceL1 book.bids book.asks book.bestBid book.bestAsk).map fun price =>
        (price - (book.bestBid + book.bestAsk) / 2) / ((book.bestBid + book.bestAsk) / 2) *
          10000 :=
    book.get_row (by simp [bookFeatures])
  rw [hrow, book.micropriceL1_eq]
  split <;> rfl

theorem Book.microprice_bounds (book : Book) (h : topSize book.bids + topSize book.asks ≠ 0) :
    book.bestBid ≤ book.microprice ∧ book.microprice ≤ book.bestAsk :=
  mean_bounds book.lt.le (topSize_nonneg book.bids_sizes) (topSize_nonneg book.asks_sizes) h

/-- The five depth features of a level. -/
theorem Book.get_depths (book : Book) (i : ℕ) {level : ℕ} (hlevel : level ∈ depthLevels) :
    (book.row i).get ("bid_depth_l" ++ toString level) = some (depthOf book.bids level) ∧
    (book.row i).get ("ask_depth_l" ++ toString level) = some (depthOf book.asks level) ∧
    (book.row i).get ("total_depth_l" ++ toString level) =
      some (depthOf book.bids level + depthOf book.asks level) :=
  ⟨book.get_depth hlevel (by simp [depthFeatures]),
    book.get_depth hlevel (by simp [depthFeatures]),
    book.get_depth hlevel (by simp [depthFeatures])⟩

theorem Book.get_depthImbalance (book : Book) (i : ℕ) {level : ℕ} (hlevel : level ∈ depthLevels) :
    (book.row i).get ("depth_imbalance_l" ++ toString level) =
      if depthOf book.bids level + depthOf book.asks level = 0 then none
      else some ((depthOf book.bids level - depthOf book.asks level) /
        (depthOf book.bids level + depthOf book.asks level)) :=
  book.get_depth hlevel (by simp [depthFeatures])

theorem Book.get_depthRatio (book : Book) (i : ℕ) {level : ℕ} (hlevel : level ∈ depthLevels) :
    (book.row i).get ("depth_ratio_l" ++ toString level) =
      if depthOf book.asks level = 0 then none
      else some (depthOf book.bids level / depthOf book.asks level) :=
  book.get_depth hlevel (by simp [depthFeatures])

/-- A depth and a deeper one. -/
theorem Book.depths_mono (book : Book) (i : ℕ) {depth : String}
    (hdepth : depth ∈ ["bid_depth_l", "ask_depth_l", "total_depth_l"]) {level deeper : ℕ}
    (hlevel : level ∈ depthLevels) (hdeeper : deeper ∈ depthLevels) (hle : level ≤ deeper) :
    ∃ less more, (book.row i).get (depth ++ toString level) = some less ∧
      (book.row i).get (depth ++ toString deeper) = some more ∧ less ≤ more := by
  obtain ⟨hbid, hask, htotal⟩ := book.get_depths i hlevel
  obtain ⟨hbid', hask', htotal'⟩ := book.get_depths i hdeeper
  have hbids := depthOf_mono book.bids_sizes hle
  have hasks := depthOf_mono book.asks_sizes hle
  simp only [List.mem_cons, List.not_mem_nil, or_false] at hdepth
  rcases hdepth with rfl | rfl | rfl
  · exact ⟨_, _, hbid, hbid', hbids⟩
  · exact ⟨_, _, hask, hask', hasks⟩
  · exact ⟨_, _, htotal, htotal', add_le_add hbids hasks⟩

/-- A value that is left out under a condition is there when the condition fails. -/
theorem isSome_unless {α : Type*} {p : Prop} [Decidable p] {x : α} :
    (if p then none else some x).isSome ↔ ¬ p := by
  split <;> simp [*]

/-- A feature of a book is there exactly when nothing it is made of is divided by zero. -/
theorem Book.divisors_ne_zero (book : Book) (i : ℕ) {e : String × List ℚ}
    (he : e ∈ book.featureDivisors) :
    ((book.row i).get e.1).isSome ↔ ∀ divisor ∈ e.2, divisor ≠ 0 := by
  have hmid := book.mid_pos.ne'
  simp only [featureDivisors, List.mem_append, List.mem_cons, List.not_mem_nil, or_false,
    List.mem_flatMap] at he
  rcases he with (rfl | rfl | rfl | rfl) | ⟨level, hlevel, rfl | rfl⟩
  · simp [book.get_spreadBps, hmid]
  · rw [book.get_l1Imbalance, isSome_unless, List.forall_mem_singleton]
  · rw [book.get_microprice, isSome_unless, List.forall_mem_singleton]
  · rw [book.get_edge, isSome_unless, List.forall_mem_cons, List.forall_mem_singleton]
    exact (and_iff_left hmid).symm
  · rw [book.get_depthImbalance i hlevel, isSome_unless, List.forall_mem_singleton]
  · rw [book.get_depthRatio i hlevel, isSome_unless, List.forall_mem_singleton]

/-- A slope is there when there are five levels, and is not negative. -/
theorem slopeL5_spec (levels : List (ℚ × ℚ)) (best : ℚ) :
    ((slopeL5 levels best).isSome ↔ 5 ≤ levels.length) ∧
      ∀ slope ∈ slopeL5 levels best, 0 ≤ slope := by
  constructor
  · rw [slopeL5, Option.isSome_map, Option.isSome_iff_ne_none, ne_eq, List.getElem?_eq_none_iff,
      not_le, Nat.lt_iff_add_one_le]
  · intro slope hslope
    obtain ⟨level, -, rfl⟩ := Option.map_eq_some_iff.mp hslope
    have hdivisor : (0 : ℚ) < max (depthOf levels 5) (1 / 10 ^ 12) :=
      lt_max_of_lt_right (by positivity)
    exact div_nonneg (abs_nonneg _) hdivisor.le

/-- **The features of a book are within their bounds.** -/
theorem Book.boundedFeatures (book : Book) (i : ℕ) : BoundedFeatures book (book.row i) where
  bestPrices := ⟨book.get_row (by simp [bookFeatures]), book.get_row (by simp [bookFeatures])⟩
  microprice := by
    intro price hprice
    rw [book.get_microprice] at hprice
    split at hprice
    · cases hprice
    · rename_i hsizes
      obtain rfl := Option.some.inj hprice
      exact book.microprice_bounds hsizes
  edge := by
    refine ⟨_, book.get_spreadBps i, fun edge hedge => ?_⟩
    rw [book.get_edge] at hedge
    split at hedge
    · cases hedge
    · rename_i hsizes
      obtain rfl := Option.some.inj hedge
      obtain ⟨hlow, hhigh⟩ := book.microprice_bounds hsizes
      exact abs_le.mp (mean_edge_le book.pos book.lt.le hlow hhigh)
  l1Imbalance := by
    intro imbalance himbalance
    rw [book.get_l1Imbalance] at himbalance
    split at himbalance
    · cases himbalance
    · obtain rfl := Option.some.inj himbalance
      exact abs_le.mp (abs_imbalance_le_one (topSize_nonneg book.bids_sizes)
        (topSize_nonneg book.asks_sizes))
  depthImbalance := by
    intro level hlevel imbalance himbalance
    rw [book.get_depthImbalance i hlevel] at himbalance
    split at himbalance
    · cases himbalance
    · obtain rfl := Option.some.inj himbalance
      exact abs_le.mp (abs_imbalance_le_one (depthOf_nonneg book.bids_sizes level)
        (depthOf_nonneg book.asks_sizes level))
  total := fun level hlevel => ⟨_, _, book.get_depths i hlevel⟩
  monotone := fun depth hdepth level hlevel deeper hdeeper hle =>
    book.depths_mono i hdepth hlevel hdeeper hle
  divisors := fun e he => book.divisors_ne_zero i he
  slopes := by
    have hbid : (book.row i).get "bid_slope_l5" = slopeL5 book.bids book.bestBid :=
      book.get_row (by simp [bookFeatures])
    have hask : (book.row i).get "ask_slope_l5" = slopeL5 book.asks book.bestAsk :=
      book.get_row (by simp [bookFeatures])
    intro side hside
    simp only [List.mem_cons, List.not_mem_nil, or_false] at hside
    rcases hside with rfl | rfl
    · simp only [hbid]
      exact slopeL5_spec _ _
    · simp only [hask]
      exact slopeL5_spec _ _

/-! ### The mirrored book -/

/-- A side at prices reflected about half of `c`. -/
def mirrorLevels (c : ℚ) (levels : List (ℚ × ℚ)) : List (ℚ × ℚ) :=
  levels.map fun e => (c - e.1, e.2)

/-- A sample whose sides are those of another, swapped, at reflected prices. -/
structure Mirrored (c : ℚ) (sample mirrored : Json) : Prop where
  bids : parseInputLevels (mirrored.get "bids") =
    (parseInputLevels (sample.get "asks")).map (mirrorLevels c)
  asks : parseInputLevels (mirrored.get "asks") =
    (parseInputLevels (sample.get "bids")).map (mirrorLevels c)
  bestBid : asFloat (mirrored.get "best_bid") =
    (asFloat (sample.get "best_ask")).map fun price => c - price
  bestAsk : asFloat (mirrored.get "best_ask") =
    (asFloat (sample.get "best_bid")).map fun price => c - price

/-- The features that compare the sizes of the two sides. -/
def imbalanceNames : List String :=
  "l1_size_imbalance" :: depthLevels.map fun level => "depth_imbalance_l" ++ toString level

theorem topSize_mirrorLevels (c : ℚ) (levels : List (ℚ × ℚ)) :
    topSize (mirrorLevels c levels) = topSize levels := by
  cases levels <;> rfl

theorem depthOf_mirrorLevels (c : ℚ) (levels : List (ℚ × ℚ)) (level : ℕ) :
    depthOf (mirrorLevels c levels) level = depthOf levels level := by
  rw [depthOf, depthOf, mirrorLevels, ← List.map_take, List.map_map]
  rfl

/-- The book of a mirrored sample has the sides of the other, swapped. -/
theorem Book.IsOf.sides_of_mirrored {book mirror : Book} {sample mirrored : Json} {c : ℚ}
    (h : book.IsOf sample) (h' : mirror.IsOf mirrored) (hmirror : Mirrored c sample mirrored) :
    mirror.bids = mirrorLevels c book.asks ∧ mirror.asks = mirrorLevels c book.bids := by
  have hbids := hmirror.bids
  have hasks := hmirror.asks
  rw [h'.bids, h.asks] at hbids
  rw [h'.asks, h.bids] at hasks
  exact ⟨Except.ok.inj hbids, Except.ok.inj hasks⟩

/-- **The mirrored book has the negated imbalances.** -/
theorem Book.imbalances_mirrored {book mirror : Book} {c : ℚ}
    (hbids : mirror.bids = mirrorLevels c book.asks)
    (hasks : mirror.asks = mirrorLevels c book.bids) (i j : ℕ) {name : String}
    (hname : name ∈ imbalanceNames) :
    (mirror.row j).get name = ((book.row i).get name).map fun imbalance => -imbalance := by
  rw [imbalanceNames, List.mem_cons, List.mem_map] at hname
  rcases hname with rfl | ⟨level, hlevel, rfl⟩
  · rw [mirror.get_l1Imbalance, book.get_l1Imbalance, hbids, hasks, topSize_mirrorLevels,
      topSize_mirrorLevels, imbalance_swap, add_comm (topSize book.asks)]
    split <;> rfl
  · rw [mirror.get_depthImbalance j hlevel, book.get_depthImbalance i hlevel, hbids, hasks,
      depthOf_mirrorLevels, depthOf_mirrorLevels, imbalance_swap,
      add_comm (depthOf book.asks level)]
    split <;> rfl

/-- **The features of a validated sample are within the bounds of its book, and those of its
mirror image have the negated imbalances.** -/
theorem extractCurrentFeatures_bounded {sample : Json} (h : cleanSampleErrors sample = [])
    (sampleIndex : ℕ) :
    ∃ book : Book, ∃ row, book.IsOf sample ∧
      extractCurrentFeatures sample sampleIndex = .ok row ∧ BoundedFeatures book row ∧
      ∀ c mirrored mirroredIndex, Mirrored c sample mirrored → cleanSampleErrors mirrored = [] →
        ∃ row', extractCurrentFeatures mirrored mirroredIndex = .ok row' ∧
          ∀ name ∈ imbalanceNames, row'.get name = (row.get name).map fun q => -q := by
  obtain ⟨book, hbook⟩ := exists_book h
  refine ⟨book, book.row sampleIndex, hbook, hbook.extract sampleIndex,
    book.boundedFeatures sampleIndex, ?_⟩
  intro c mirrored mirroredIndex hmirror hclean
  obtain ⟨mirror, hmirrored⟩ := exists_book hclean
  obtain ⟨hbids, hasks⟩ := hbook.sides_of_mirrored hmirrored hmirror
  exact ⟨mirror.row mirroredIndex, hmirrored.extract mirroredIndex, fun name hname =>
    Book.imbalances_mirrored hbids hasks sampleIndex mirroredIndex hname⟩

/-- A valid sample with given levels. -/
def sampleWithLevels (bids asks : List (ℚ × ℚ)) (bestBid bestAsk : ℚ) : Json :=
  .obj [("schema_version", .str "orderbook_clean_v1"), ("symbol", .str "BTCUSDT"),
    ("source", .str "binance"), ("generation_id", .int 1), ("local_recv_monotonic_ns", .int 5),
    ("local_recv_wall_ts", .str "2026-01-01T00:00:00Z"), ("last_update_id", .int 7),
    ("best_bid", .float bestBid), ("best_ask", .float bestAsk),
    ("bids", .arr (bids.map fun e => .arr [.float e.1, .float e.2])),
    ("asks", .arr (asks.map fun e => .arr [.float e.1, .float e.2])),
    ("quality", .obj [("errors", .arr []), ("is_valid", .bool true)]),
    ("lifecycle", .obj [("snapshot_ready", .bool true), ("ready_to_emit", .bool true),
      ("sequence_continuous", .bool true)])]

/-- A book with three times as much bid as asked at the top, and its mirror image. -/
theorem extractCurrentFeatures_bounded_threeToOne :
    ∃ row row',
      extractCurrentFeatures (sampleWithLevels [(100, 3), (99, 1)] [(101, 1)] 100 101) 0 =
        .ok row ∧
      extractCurrentFeatures (sampleWithLevels [(100, 1)] [(101, 3), (102, 1)] 100 101) 1 =
        .ok row' ∧
      row.get "l1_size_imbalance" = some (1 / 2) ∧
      row'.get "l1_size_imbalance" = some (-(1 / 2)) := by
  have hclean : cleanSampleErrors (sampleWithLevels [(100, 3), (99, 1)] [(101, 1)] 100 101) = [] ∧
      cleanSampleErrors (sampleWithLevels [(100, 1)] [(101, 3), (102, 1)] 100 101) = [] := by
    decide +kernel
  have hmirror : Mirrored 201 (sampleWithLevels [(100, 3), (99, 1)] [(101, 1)] 100 101)
      (sampleWithLevels [(100, 1)] [(101, 3), (102, 1)] 100 101) :=
    ⟨by decide +kernel, by decide +kernel, by decide +kernel, by decide +kernel⟩
  obtain ⟨book, row, hbook, hrow, -, himbalances⟩ := extractCurrentFeatures_bounded hclean.1 0
  obtain ⟨row', hrow', hnames⟩ := himbalances 201 _ 1 hmirror hclean.2
  have hbids : book.bids = [(100, 3), (99, 1)] :=
    Except.ok.inj (hbook.bids.symm.trans (by decide +kernel))
  have hasks : book.asks = [(101, 1)] :=
    Except.ok.inj (hbook.asks.symm.trans (by decide +kernel))
  have hl1 : row.get "l1_size_imbalance" = some (1 / 2) := by
    have hmade := hbook.extract 0
    rw [hrow] at hmade
    rw [Except.ok.inj hmade, book.get_l1Imbalance, hbids, hasks]
    norm_num [topSize]
  refine ⟨row, row', hrow, hrow', hl1, ?_⟩
  rw [hnames _ List.mem_cons_self, hl1]
  rfl

end SomethingTrade
