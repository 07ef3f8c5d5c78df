import SomethingTrade.OrderbookOutcome
import SomethingTrade.SortedIndex

/-!
# The Price Indexes of the Orderbook

The sorted price indexes are maintained by bisection in a delta, rebuilt by a snapshot,
emptied by a cleanup, and only checked by length when read. `BookInv` is the invariant
that makes this sound: on both sides the index is the index of the dictionary and every
stored level is positive. Every call keeps it, so in every reachable state reading
through the index is reading the dictionary sorted afresh.

## Main results

* `BookInv.next`: every call keeps the invariant; `bookInv_exec`: every run does.
* `ensurePriceIndexes_eq_self`: under the invariant no read has to rebuild an index.
* `OrderbookState.reads_sorted_book`: best prices, top levels and copies are those of the
  sorted dictionaries.
-/

namespace SomethingTrade

open OrderbookState

/-- What is known of a stored level. -/
structure StoredLevel (price size : ℚ) : Prop where
  price_pos : 0 < price
  size_pos : 0 < size
  price_decimal : IsDecimal price
  size_decimal : IsDecimal size

/-- The invariant of one side: `prices` is the index of `book`, and every entry is a
stored level. -/
structure SideInv (book : Dict ℚ ℚ) (prices : List ℚ) : Prop where
  indexed : book.IndexedBy prices
  stored : ∀ e ∈ book.entries, StoredLevel e.1 e.2

/-- The invariant of both sides. -/
structure BookInv (s : OrderbookState) : Prop where
  bids : SideInv s.bids s.bidPricesAsc
  asks : SideInv s.asks s.askPricesAsc

/-! ### One side -/

theorem SideInv.empty : SideInv .empty [] := ⟨.empty, by simp⟩

/-- Sorting the keys of stored levels establishes the invariant. -/
theorem SideInv.rebuild {book : Dict ℚ ℚ} (h : ∀ e ∈ book.entries, StoredLevel e.1 e.2) :
    SideInv book (book.keys.insertionSort (· ≤ ·)) :=
  ⟨Dict.indexedBy_insertionSort book, h⟩

/-- The levels of a snapshot are stored levels. -/
theorem stored_bookOfLevels {levels : List ParsedLevel}
    (h : ∀ l ∈ levels, LevelBounds false l) :
    ∀ e ∈ (bookOfLevels levels).entries, StoredLevel e.1 e.2 := by
  refine Dict.forall_entries_ofList fun e he => ?_
  obtain ⟨l, hl, rfl⟩ := List.mem_map.mp he
  exact ⟨l.price_pos, (h l hl).size_pos rfl, (h l hl).price_decimal, (h l hl).size_decimal⟩

/-- Applying a level keeps the invariant of a side. -/
theorem SideInv.applyLevel {side : Dict ℚ ℚ × List ℚ} (h : SideInv side.1 side.2)
    {level : ParsedLevel} (hl : LevelBounds true level) :
    SideInv (applyLevel side level).1 (applyLevel side level).2 := by
  obtain ⟨book, prices⟩ := side
  unfold OrderbookState.applyLevel
  simp only
  split
  · split
    · exact ⟨h.indexed.pop _, Dict.forall_entries_pop _ h.stored⟩
    · exact h
  · rename_i hsize
    refine ⟨h.indexed.set _ _, Dict.forall_entries_set h.stored ?_⟩
    exact ⟨level.price_pos, lt_of_le_of_ne level.size_nonneg (Ne.symm hsize),
      hl.price_decimal, hl.size_decimal⟩

theorem SideInv.foldl_applyLevel {levels : List ParsedLevel}
    (hl : ∀ l ∈ levels, LevelBounds true l) (side : Dict ℚ ℚ × List ℚ)
    (h : SideInv side.1 side.2) :
    SideInv (levels.foldl OrderbookState.applyLevel side).1
      (levels.foldl OrderbookState.applyLevel side).2 := by
  induction levels generalizing side with
  | nil => exact h
  | cons l levels ih =>
      exact ih (fun l' hl' => hl l' (List.mem_cons_of_mem l hl')) _
        (h.applyLevel (hl l List.mem_cons_self))

/-! ### The book -/

/-- The invariant reads the two sides only. -/
theorem BookInv.congr {s t : OrderbookState} (h : BookInv s) (hb : t.bids = s.bids)
    (ha : t.asks = s.asks) (hbp : t.bidPricesAsc = s.bidPricesAsc)
    (hap : t.askPricesAsc = s.askPricesAsc) : BookInv t :=
  ⟨hb ▸ hbp ▸ h.bids, ha ▸ hap ▸ h.asks⟩

/-- Under the invariant a read never rebuilds an index. -/
theorem ensurePriceIndexes_eq_self {s : OrderbookState} (h : BookInv s) :
    s.ensurePriceIndexes = s := by
  unfold ensurePriceIndexes
  rw [if_neg]
  simp [h.bids.indexed.length_eq, h.asks.indexed.length_eq]

theorem BookInv.refreshReadyToEmit {s : OrderbookState} (h : BookInv s) (now : ℤ) :
    BookInv (s.refreshReadyToEmit now) := by
  unfold OrderbookState.refreshReadyToEmit
  simp only [ensurePriceIndexes_eq_self h]
  split <;> exact h.congr rfl rfl rfl rfl

/-- Committing a delta ends in recomputing the readiness of a good book. -/
theorem BookInv.commitDelta_refreshes {s : OrderbookState} (h : BookInv s) (a : DeltaArgs)
    {bids asks : List ParsedLevel} (hb : ∀ l ∈ bids, LevelBounds true l)
    (ha : ∀ l ∈ asks, LevelBounds true l) :
    ∃ t, BookInv t ∧
      s.commitDelta a bids asks = t.refreshReadyToEmit a.localRecvMonotonicNs := by
  refine ⟨_, ⟨?_, ?_⟩, rfl⟩
  · exact SideInv.foldl_applyLevel hb (s.bids, s.bidPricesAsc) h.bids
  · exact SideInv.foldl_applyLevel ha (s.asks, s.askPricesAsc) h.asks

theorem BookInv.commitDelta {s : OrderbookState} (h : BookInv s) (a : DeltaArgs)
    {bids asks : List ParsedLevel} (hb : ∀ l ∈ bids, LevelBounds true l)
    (ha : ∀ l ∈ asks, LevelBounds true l) : BookInv (s.commitDelta a bids asks) := by
  obtain ⟨t, ht, heq⟩ := h.commitDelta_refreshes a hb ha
  exact heq ▸ ht.refreshReadyToEmit _

theorem BookInv.loadSnapshot (s : OrderbookState) (a : SnapshotArgs)
    {bids asks : List ParsedLevel} (hb : ∀ l ∈ bids, LevelBounds false l)
    (ha : ∀ l ∈ asks, LevelBounds false l) : BookInv (s.loadSnapshot a bids asks) :=
  ⟨.rebuild (stored_bookOfLevels hb), .rebuild (stored_bookOfLevels ha)⟩

theorem BookInv.applySnapshot {s : OrderbookState} (h : BookInv s) (a : SnapshotArgs) :
    BookInv (s.applySnapshot a).1 := by
  cases applySnapshot_outcome s a with
  | stale accepted status state => exact state ▸ h.congr rfl rfl rfl rfl
  | invalid accepted status state => exact state ▸ h.congr rfl rfl rfl rfl
  | loaded accepted status fresh state =>
      exact state ▸ .loadSnapshot _ a (fun _ => parseLevels_bounds)
        (fun _ => parseLevels_bounds)

theorem BookInv.applyDelta {s : OrderbookState} (h : BookInv s) (a : DeltaArgs) :
    BookInv (s.applyDelta a).1 := by
  cases applyDelta_outcome s a with
  | skipped accepted status state => exact state ▸ h.congr rfl rfl rfl rfl
  | failed reason last accepted status ready atLast newer state =>
      exact state ▸ h.congr rfl rfl rfl rfl
  | applied last accepted status ready atLast newer inSequence state =>
      have hrecv : BookInv (s.recordMessageRecv a.localRecvMonotonicNs) :=
        h.congr rfl rfl rfl rfl
      rw [state]
      exact hrecv.commitDelta a (fun _ => parseLevels_bounds) (fun _ => parseLevels_bounds)

/-- **Every call keeps the invariant.** -/
theorem BookInv.next {s : OrderbookState} (h : BookInv s) (c : BookCall) :
    BookInv (orderbookMachine.next s c) := by
  rw [orderbookMachine_next]
  cases c with
  | applySnapshot a => exact h.applySnapshot a
  | applyDelta a => exact h.applyDelta a
  | markReady recv clock => exact h.refreshReadyToEmit _
  | cleanup => exact ⟨.empty, .empty⟩
  | markNotReady | recordMessageRecv | bookAgeMs => exact h.congr rfl rfl rfl rfl
  | bestBid | bestAsk | topN | copySnapshot | validate =>
      exact (ensurePriceIndexes_eq_self h).symm ▸ h

/-- Every run from a fresh state has the invariant. -/
theorem bookInv_exec (symbol : String) (warningAfterSec : ℚ) (now : ℤ)
    (calls : List BookCall) :
    BookInv (orderbookMachine.exec (init symbol warningAfterSec now) calls) :=
  orderbookMachine.exec_invariant (fun _ c h => h.next c) ⟨.empty, .empty⟩ calls

/-! ### Reading -/

/-- Copying the prices of stored entries gives those entries. -/
theorem copyLevels_map_fst {book : Dict ℚ ℚ} {es : List (ℚ × ℚ)}
    (h : ∀ e ∈ es, e ∈ book.entries ∧ e.2 ≠ 0) :
    copyLevels book (es.map Prod.fst) = some es := by
  induction es with
  | nil => rfl
  | cons e es ih =>
      obtain ⟨hmem, hsize⟩ := h e List.mem_cons_self
      have hget : book.get? e.1 = some e.2 := Dict.mem_entries_iff.mp hmem
      simp [copyLevels, hget, hsize, ih fun e' he' => h e' (List.mem_cons_of_mem e he')]

/-- The stored entries, sorted, are readable through the dictionary. -/
theorem SideInv.readable {book : Dict ℚ ℚ} {prices : List ℚ} (h : SideInv book prices) :
    ∀ e ∈ book.ascending, e ∈ book.entries ∧ e.2 ≠ 0 := fun e he =>
  ⟨Dict.mem_ascending.mp he, (h.stored e (Dict.mem_ascending.mp he)).size_pos.ne'⟩

/-- The top bids are the first entries of the bids sorted downwards. -/
theorem copyTopBidLevels_eq {s : OrderbookState} (h : BookInv s) (n : ℤ) :
    s.copyTopBidLevels n = some (s.bids.descending.take n.toNat) := by
  unfold copyTopBidLevels
  split
  · rename_i hn
    simp [Int.toNat_of_nonpos hn]
  · rw [← h.bids.indexed.map_fst_ascending, ← List.take_reverse, ← List.map_reverse,
      ← List.map_take, ← Dict.descending_eq_reverse]
    refine copyLevels_map_fst fun e he => h.bids.readable e ?_
    have hmem := List.mem_of_mem_take he
    rw [Dict.descending_eq_reverse] at hmem
    exact List.mem_reverse.mp hmem

/-- The top asks are the first entries of the asks sorted upwards. -/
theorem copyTopAskLevels_eq {s : OrderbookState} (h : BookInv s) (n : ℤ) :
    s.copyTopAskLevels n = some (s.asks.ascending.take n.toNat) := by
  unfold copyTopAskLevels
  split
  · rename_i hn
    simp [Int.toNat_of_nonpos hn]
  · rw [min_comm, ← List.take_take, List.take_length, ← h.asks.indexed.map_fst_ascending,
      ← List.map_take]
    exact copyLevels_map_fst fun e he => h.asks.readable e (List.mem_of_mem_take he)

/-- A copy of a book with the invariant exists and holds the sorted book's top. -/
theorem copySnapshot_eq {s : OrderbookState} (h : BookInv s) (a : CopyArgs) :
    s.copySnapshot a = some (s.copyOf a (s.bids.descending.take a.topN.toNat)
      (s.asks.ascending.take a.topN.toNat)) := by
  simp [copySnapshot, ensurePriceIndexes_eq_self h, copyTopBidLevels_eq h,
    copyTopAskLevels_eq h]

/-- **Reading through the index is reading the sorted book.** In every reachable state
both indexes are strictly ascending with the dictionary keys as members, stored prices
and sizes are positive, the best prices are the greatest bid and the least ask, and the
top levels and the copies are the first entries of the dictionaries sorted afresh. -/
theorem OrderbookState.reads_sorted_book (symbol : String) (warningAfterSec : ℚ) (now : ℤ)
    (calls : List BookCall) (n : ℤ) (a : CopyArgs) :
    let s := orderbookMachine.exec (init symbol warningAfterSec now) calls
    s.bids.IndexedBy s.bidPricesAsc ∧ s.asks.IndexedBy s.askPricesAsc ∧
    (∀ e ∈ s.bids.entries ++ s.asks.entries, 0 < e.1 ∧ 0 < e.2) ∧
    (∀ p, s.bestBid = some p ↔ IsGreatest { k | k ∈ s.bids.keys } p) ∧
    (∀ p, s.bestAsk = some p ↔ IsLeast { k | k ∈ s.asks.keys } p) ∧
    s.topN "bid" n = some (s.bids.descending.take n.toNat) ∧
    s.topN "ask" n = some (s.asks.ascending.take n.toNat) ∧
    ∃ copy, s.copySnapshot a = some copy ∧
      copy.bidsTopN = s.bids.descending.take a.topN.toNat ∧
      copy.asksTopN = s.asks.ascending.take a.topN.toNat ∧
      copy.bidCount = s.bids.size ∧ copy.askCount = s.asks.size := by
  intro s
  have h : BookInv s := bookInv_exec symbol warningAfterSec now calls
  have hensure : s.ensurePriceIndexes = s := ensurePriceIndexes_eq_self h
  refine ⟨h.bids.indexed, h.asks.indexed, fun e he => ?_, fun p => ?_, fun p => ?_, ?_, ?_,
    _, copySnapshot_eq h a, rfl, rfl, rfl, rfl⟩
  · rcases List.mem_append.mp he with he | he
    · exact ⟨(h.bids.stored e he).price_pos, (h.bids.stored e he).size_pos⟩
    · exact ⟨(h.asks.stored e he).price_pos, (h.asks.stored e he).size_pos⟩
  · rw [bestBid, hensure]
    exact h.bids.indexed.getLast?_eq_some_iff
  · rw [bestAsk, hensure]
    exact h.asks.indexed.head?_eq_some_iff
  · rw [topN, if_pos rfl, hensure]
    exact copyTopBidLevels_eq h n
  · rw [topN, if_neg (by decide), hensure]
    exact copyTopAskLevels_eq h n

end SomethingTrade
