import SomethingTrade.ResearchSamples

/-!
# The Windows of Trades

Three features of a sample are about the trades of the second up to its time. As documented the
second is open at its start, so the windows of two samples that are a second apart have no trade
in common. The window that is cut is closed at both ends: a trade that was received exactly one
second before a sample is in its window too, and a row without a receive time counts as received
at zero.

## Main results

* `windowRows_perm`: the rows of the window that is cut.
* `window_counts_once_iff`: the features are those of the documented window exactly when no row
  is at its open end.
-/

namespace SomethingTrade

/-- The length of the window in nanoseconds. -/
def windowNs : ℤ := 1000000000

/-- Whether a row was received within the second up to a time, the start of it left out. -/
def inWindow (ts : ℤ) (row : Json) : Bool :=
  (recvTs? row).any fun t => ts - windowNs < t && t ≤ ts

/-- Whether a row is within the window that is cut, which is closed at its start. -/
def inClosedWindow (ts : ℤ) (row : Json) : Bool :=
  ts - windowNs ≤ recvTs row && recvTs row ≤ ts

/-- The trades of a window. -/
def windowTrades (files : DatasetFiles) (ts : ℤ) : List Json :=
  (files.trade.getD []).filter (inWindow ts)

/-- The aggregated trades of a window. -/
def windowAggtrades (files : DatasetFiles) (ts : ℤ) : List Json :=
  (files.aggtrade.getD []).filter (inWindow ts)

/-- The number of trades of a window. -/
def windowCount (files : DatasetFiles) (ts : ℤ) : ℕ :=
  (windowTrades files ts).length + (windowAggtrades files ts).length

/-- The quantity of a trade times its price. -/
def signedNotional (trade : Json) : ℚ :=
  signedQty trade * (floatOf? (trade.get "price")).getD 0

/-- The features about the trades are computed from exactly the trades of the window. -/
structure FromWindow (files : DatasetFiles) (labelRow : Json) (ts : ℤ) : Prop where
  count : ((FeatureRows.lookup files ts).features labelRow ts).get? "reference_trade_count_1s" =
    some (some (windowCount files ts : ℚ))
  qty : ((FeatureRows.lookup files ts).features labelRow ts).get?
      "reference_signed_trade_qty_1s" =
    some (some (((windowTrades files ts).map signedQty).sum +
      ((windowAggtrades files ts).map signedQty).sum))
  notional : ((FeatureRows.lookup files ts).features labelRow ts).get?
      "reference_signed_trade_notional_1s" =
    some (some ((windowTrades files ts).map signedNotional).sum)

/-- The trades of both windows are counted once: the counts of two samples a second apart add up
to the number of trades of both seconds. -/
def CountedOnce (files : DatasetFiles) (labelRow labelRow' : Json) (ts : ℤ) : Prop :=
  ∃ count count' : ℚ,
    ((FeatureRows.lookup files ts).features labelRow ts).get? "reference_trade_count_1s" =
      some (some count) ∧
    ((FeatureRows.lookup files (ts + windowNs)).features labelRow' (ts + windowNs)).get?
      "reference_trade_count_1s" = some (some count') ∧
    count + count' = windowCount files ts + windowCount files (ts + windowNs)

/-- No row is at the open end of a window: each row that is cut was received after it. -/
def NoneAtStart (files : DatasetFiles) (ts : ℤ) : Prop :=
  ∀ row ∈ files.trade.getD [] ++ files.aggtrade.getD [], inClosedWindow ts row = true →
    ∃ t, recvTs? row = some t ∧ t ≠ ts - windowNs

/-! ### The features -/

section

variable (files : DatasetFiles) (labelRow : Json) (ts : ℤ)

theorem nodup_modelFeatureNames : modelFeatureNames.Nodup := by
  decide +kernel

theorem features_count :
    ((FeatureRows.lookup files ts).features labelRow ts).get? "reference_trade_count_1s" =
      some (some (((FeatureRows.lookup files ts).trades.length : ℚ) +
        (FeatureRows.lookup files ts).aggtrades.length)) := by
  refine Dict.get?_ofList_of_mem ?_ ?_
  · exact nodup_modelFeatureNames
  · simp

theorem features_qty :
    ((FeatureRows.lookup files ts).features labelRow ts).get? "reference_signed_trade_qty_1s" =
      some (some (((FeatureRows.lookup files ts).trades.map signedQty).sum +
        ((FeatureRows.lookup files ts).aggtrades.map signedQty).sum)) := by
  refine Dict.get?_ofList_of_mem ?_ ?_
  · exact nodup_modelFeatureNames
  · simp

theorem features_notional :
    ((FeatureRows.lookup files ts).features labelRow ts).get?
        "reference_signed_trade_notional_1s" =
      some (some ((FeatureRows.lookup files ts).trades.map signedNotional).sum) := by
  refine Dict.get?_ofList_of_mem ?_ ?_
  · exact nodup_modelFeatureNames
  · have hnotional : signedNotional =
        fun trade => signedQty trade * (floatOf? (trade.get "price")).getD 0 := rfl
    simp [hnotional]

end

/-! ### The rows that are cut -/

/-- The window that is cut holds the rows of the closed second, sorted. -/
theorem windowRows_perm (rows : List Json) (ts : ℤ) :
    (windowRows (sortBy recvTs rows) ((sortBy recvTs rows).map recvTs) ts 1000).Perm
      (rows.filter (inClosedWindow ts)) := by
  rw [windowRows_eq (sortedBy_sortBy recvTs rows) ts (by decide), List.filter_filter]
  have hsame : (fun row => decide (ts - 1000 * 1000000 ≤ recvTs row) && decide (recvTs row ≤ ts)) =
      inClosedWindow ts := by
    funext row
    simp [inClosedWindow, windowNs]
  rw [hsame]
  exact (perm_sortBy recvTs rows).filter _

/-- A row of the window is within the window that is cut. -/
theorem inClosedWindow_of_inWindow {ts : ℤ} {row : Json} (h : inWindow ts row = true) :
    inClosedWindow ts row = true := by
  obtain ⟨t, ht, hwindow⟩ := (Option.any_eq_true _ _).mp h
  simp only [Bool.and_eq_true, decide_eq_true_eq] at hwindow
  have hrow : recvTs row = t := by rw [recvTs, ht, Option.getD_some]
  simp only [inClosedWindow, Bool.and_eq_true, decide_eq_true_eq]
  omega

/-- A row that is cut is of the window exactly when it was received after the start. -/
theorem inWindow_iff_of_inClosedWindow {ts : ℤ} {row : Json} (h : inClosedWindow ts row = true) :
    inWindow ts row = true ↔ ∃ t, recvTs? row = some t ∧ t ≠ ts - windowNs := by
  obtain ⟨hstart, hend⟩ := Bool.and_eq_true_iff.mp h
  have hstart := of_decide_eq_true hstart
  have hend := of_decide_eq_true hend
  cases ht : recvTs? row with
  | none => simp [inWindow, ht]
  | some t =>
      have hrow : recvTs row = t := by rw [recvTs, ht, Option.getD_some]
      simp only [inWindow, ht, Option.any_some, Bool.and_eq_true, decide_eq_true_eq,
        Option.some.injEq, exists_eq_left']
      omega

/-- A stricter test keeps fewer elements, and as many exactly when the other implies it. -/
theorem length_filter_eq_iff {α : Type} {p q : α → Bool} (h : ∀ x, p x = true → q x = true)
    (xs : List α) :
    (xs.filter p).length ≤ (xs.filter q).length ∧
      ((xs.filter q).length = (xs.filter p).length ↔ ∀ x ∈ xs, q x = true → p x = true) := by
  have hsub : (xs.filter p).Sublist (xs.filter q) := List.monotone_filter_right xs h
  refine ⟨hsub.length_le, fun hlength x hx hqx => ?_, fun hall => ?_⟩
  · have hmem : x ∈ xs.filter q := List.mem_filter.mpr ⟨hx, hqx⟩
    rw [← hsub.eq_of_length hlength.symm] at hmem
    exact (List.mem_filter.mp hmem).2
  · rw [List.filter_congr fun x hx => Bool.eq_iff_iff.mpr ⟨hall x hx, h x⟩]

/-- No fewer rows are cut than the window has, and as many exactly when each row that is cut is
of the window. -/
theorem filter_inWindow (ts : ℤ) (rows : List Json) :
    (rows.filter (inWindow ts)).length ≤ (rows.filter (inClosedWindow ts)).length ∧
      ((rows.filter (inClosedWindow ts)).length = (rows.filter (inWindow ts)).length ↔
        ∀ row ∈ rows, inClosedWindow ts row = true → inWindow ts row = true) :=
  length_filter_eq_iff (fun _ => inClosedWindow_of_inWindow) rows

section

variable (files : DatasetFiles) (ts : ℤ)

theorem trades_perm :
    (FeatureRows.lookup files ts).trades.Perm
      ((files.trade.getD []).filter (inClosedWindow ts)) :=
  windowRows_perm _ ts

theorem aggtrades_perm :
    (FeatureRows.lookup files ts).aggtrades.Perm
      ((files.aggtrade.getD []).filter (inClosedWindow ts)) :=
  windowRows_perm _ ts

theorem windowCount_le :
    windowCount files ts ≤ (FeatureRows.lookup files ts).trades.length +
      (FeatureRows.lookup files ts).aggtrades.length := by
  rw [(trades_perm files ts).length_eq, (aggtrades_perm files ts).length_eq]
  exact Nat.add_le_add (filter_inWindow ts _).1 (filter_inWindow ts _).1

/-- No row is at the start exactly when each row that is cut is of the window. -/
theorem noneAtStart_iff :
    NoneAtStart files ts ↔
      (∀ row ∈ files.trade.getD [], inClosedWindow ts row = true → inWindow ts row = true) ∧
        ∀ row ∈ files.aggtrade.getD [], inClosedWindow ts row = true → inWindow ts row = true := by
  rw [NoneAtStart, List.forall_mem_append]
  refine and_congr ?_ ?_ <;>
    exact forall₂_congr fun row _ => forall_congr' fun hrow =>
      (inWindow_iff_of_inClosedWindow hrow).symm

/-- As many rows are cut as the window has exactly when none is at its start. -/
theorem windowCount_eq_iff :
    (FeatureRows.lookup files ts).trades.length +
        (FeatureRows.lookup files ts).aggtrades.length = windowCount files ts ↔
      NoneAtStart files ts := by
  obtain ⟨htrades, htradesEq⟩ := filter_inWindow ts (files.trade.getD [])
  obtain ⟨haggtrades, haggtradesEq⟩ := filter_inWindow ts (files.aggtrade.getD [])
  rw [noneAtStart_iff, ← htradesEq, ← haggtradesEq, (trades_perm files ts).length_eq,
    (aggtrades_perm files ts).length_eq, windowCount, windowTrades, windowAggtrades]
  omega

end

/-- **The features are those of the window exactly when no row is at its start.** -/
theorem fromWindow_iff (files : DatasetFiles) (labelRow : Json) (ts : ℤ) :
    FromWindow files labelRow ts ↔ NoneAtStart files ts := by
  constructor
  · intro h
    have hcount := h.count
    rw [features_count] at hcount
    exact (windowCount_eq_iff files ts).mp
      (by exact_mod_cast Option.some.inj (Option.some.inj hcount))
  · intro h
    have hsame {rows : List Json} (hrows : ∀ row ∈ rows, inClosedWindow ts row = true →
        inWindow ts row = true) : rows.filter (inClosedWindow ts) = rows.filter (inWindow ts) :=
      List.filter_congr fun row hrow =>
        Bool.eq_iff_iff.mpr ⟨hrows row hrow, inClosedWindow_of_inWindow⟩
    obtain ⟨htradesAfter, haggtradesAfter⟩ := (noneAtStart_iff files ts).mp h
    have htrades := trades_perm files ts
    have haggtrades := aggtrades_perm files ts
    rw [hsame htradesAfter] at htrades
    rw [hsame haggtradesAfter] at haggtrades
    refine ⟨?_, ?_, ?_⟩
    · rw [features_count, htrades.length_eq, haggtrades.length_eq]
      simp [windowCount, windowTrades, windowAggtrades]
    · rw [features_qty, (htrades.map _).sum_eq, (haggtrades.map _).sum_eq]
      rfl
    · rw [features_notional, (htrades.map _).sum_eq]
      rfl

/-- The counts of two samples a second apart count each row once exactly when no row is at the
start of either window. -/
theorem countedOnce_iff (files : DatasetFiles) (labelRow labelRow' : Json) (ts : ℤ) :
    CountedOnce files labelRow labelRow' ts ↔
      NoneAtStart files ts ∧ NoneAtStart files (ts + windowNs) := by
  have hle := windowCount_le files ts
  have hle' := windowCount_le files (ts + windowNs)
  rw [CountedOnce, features_count, features_count, ← windowCount_eq_iff, ← windowCount_eq_iff]
  constructor
  · rintro ⟨count, count', hcount, hcount', hsum⟩
    rw [← Option.some.inj (Option.some.inj hcount),
      ← Option.some.inj (Option.some.inj hcount')] at hsum
    norm_cast at hsum
    omega
  · rintro ⟨hcount, hcount'⟩
    refine ⟨_, _, rfl, rfl, ?_⟩
    norm_cast
    omega

/-- **The features are computed from exactly the trades of the second up to the sample, and two
samples a second apart count each trade once**, exactly when no trade was received at the open
end of either second. -/
theorem window_counts_once_iff (files : DatasetFiles) (labelRow labelRow' : Json) (ts : ℤ) :
    FromWindow files labelRow ts ∧ CountedOnce files labelRow labelRow' ts ↔
      NoneAtStart files ts ∧ NoneAtStart files (ts + windowNs) := by
  rw [fromWindow_iff, countedOnce_iff, ← and_assoc, and_self]

/-- A dataset with one trade, which was received a second in. -/
def datasetWithTrade : DatasetFiles where
  cleanSamples := some []
  bookticker := some []
  trade := some [.obj [("local_recv_monotonic_ns", .int 1000000000), ("quantity", .float 2),
    ("price", .float 100)]]
  aggtrade := some []
  correctedLabels := some []
  latencyProfile := some []

/-- A trade that was received exactly a second before a sample is counted for it, and again for
the sample before. -/
theorem window_counts_twice :
    ¬ ∀ (files : DatasetFiles) (labelRow labelRow' : Json) (ts : ℤ),
      FromWindow files labelRow ts ∧ CountedOnce files labelRow labelRow' ts := by
  intro h
  have hstart := (fromWindow_iff _ _ _).mp (h datasetWithTrade .null .null 2000000000).1
  obtain ⟨t, ht, hne⟩ := hstart _ List.mem_cons_self (by decide +kernel)
  have ht' : some t = some 1000000000 := ht.symm.trans (by decide +kernel)
  exact hne (Option.some.inj ht')

end SomethingTrade
