import SomethingTrade.OrderbookIndex
import SomethingTrade.OrderbookRecovery

/-!
# Readiness and the Time Without It

A book may be read while it is ready, and the time it is not ready is measured from
`ready_false_since`. Recomputing readiness and taking the book out of use both set that start.
Loading a snapshot and removing the symbol make a book not ready too, but leave the start alone:
from a ready book they begin a period without a start.

## Main results

* `ready_emittable`: a ready book is synchronised, has both sides and is not crossed.
* `readyFalseSince_iff`: the start is there exactly while the book is not ready, in the runs in
  which neither a snapshot is loaded nor the symbol removed while the book is ready.
-/

namespace SomethingTrade

open OrderbookState

/-! ### What readiness promises -/

/-- What a book must be to be read. -/
structure Emittable (s : OrderbookState) : Prop where
  snapshotReady : s.snapshotReady = true
  sequenceContinuous : s.sequenceContinuous = true
  bridged : s.awaitingFirstDeltaAfterSnapshot = false
  bids : s.bids.size ≠ 0
  asks : s.asks.size ≠ 0
  spread : ∃ bid ask, s.bestBid = some bid ∧ s.bestAsk = some ask ∧ bid < ask

/-- A book without errors has both sides and is not crossed. -/
theorem sides_of_validate {s : OrderbookState} (h : s.validate = []) :
    s.bids.size ≠ 0 ∧ s.asks.size ≠ 0 ∧
      ∃ bid ask, s.bestBid = some bid ∧ s.bestAsk = some ask ∧ bid < ask := by
  rw [validate, BookError.sortedSet_eq_nil] at h
  simp only [List.append_eq_nil_iff] at h
  obtain ⟨⟨⟨⟨-, hsides⟩, hbid⟩, hask⟩, hcrossed⟩ := h
  have hboth : ¬ (s.bids.size = 0 ∨ s.asks.size = 0) := fun hor => by simp [hor] at hsides
  obtain ⟨bid, hbid⟩ : ∃ bid, s.bestBid = some bid :=
    Option.ne_none_iff_exists'.mp fun hnone => by simp [hnone] at hbid
  obtain ⟨ask, hask⟩ : ∃ ask, s.bestAsk = some ask :=
    Option.ne_none_iff_exists'.mp fun hnone => by simp [hnone] at hask
  refine ⟨fun h => hboth (.inl h), fun h => hboth (.inr h), bid, ask, hbid, hask, ?_⟩
  by_contra hle
  simp [hbid, hask, not_lt.mp hle] at hcrossed

/-- The promise reads the book and its flags only. -/
theorem Emittable.congr {s t : OrderbookState} (h : Emittable s) (hs : BookInv s) (ht : BookInv t)
    (hsame : SamePhase s t) (hbids : t.bidPricesAsc = s.bidPricesAsc)
    (hasks : t.askPricesAsc = s.askPricesAsc) : Emittable t where
  snapshotReady := hsame.snapshotReady.trans h.snapshotReady
  sequenceContinuous := hsame.sequenceContinuous.trans h.sequenceContinuous
  bridged := hsame.awaiting.trans h.bridged
  bids := hsame.bids ▸ h.bids
  asks := hsame.asks ▸ h.asks
  spread := by
    obtain ⟨bid, ask, hbid, hask, hlt⟩ := h.spread
    rw [bestBid, ensurePriceIndexes_eq_self hs] at hbid
    rw [bestAsk, ensurePriceIndexes_eq_self hs] at hask
    refine ⟨bid, ask, ?_, ?_, hlt⟩
    · rw [bestBid, ensurePriceIndexes_eq_self ht, hbids, hbid]
    · rw [bestAsk, ensurePriceIndexes_eq_self ht, hasks, hask]

/-- Recomputing readiness leaves the indexes of a good book alone. -/
theorem refreshReadyToEmit_indexes {s : OrderbookState} (h : BookInv s) (now : ℤ) :
    (s.refreshReadyToEmit now).bidPricesAsc = s.bidPricesAsc ∧
      (s.refreshReadyToEmit now).askPricesAsc = s.askPricesAsc := by
  simp only [refreshReadyToEmit, ensurePriceIndexes_eq_self h]
  split <;> exact ⟨rfl, rfl⟩

/-- A book that is found ready is one that may be read. -/
theorem emittable_of_refresh {s : OrderbookState} (h : BookInv s) {now : ℤ}
    (hready : (s.refreshReadyToEmit now).readyToEmit = true) :
    Emittable (s.refreshReadyToEmit now) := by
  obtain ⟨hsnapshot, hcontinuous, hbridged, hvalid⟩ := refreshReadyToEmit_ready hready
  obtain ⟨hbids, hasks, hspread⟩ := sides_of_validate hvalid
  obtain ⟨hbidIndex, haskIndex⟩ := refreshReadyToEmit_indexes h now
  have hs : Emittable s := ⟨hsnapshot, hcontinuous, hbridged, hbids, hasks, hspread⟩
  exact hs.congr h (h.refreshReadyToEmit now) (refreshReadyToEmit_same s now).toSamePhase
    hbidIndex haskIndex

/-! ### The start of the time without readiness -/

/-- The start of the time without readiness is there exactly while the book is not ready. -/
def SinceTracked (s : OrderbookState) : Prop :=
  s.readyFalse.sinceMonotonicNs = none ↔ s.readyToEmit = true

theorem since_recordReadyFalseAge (s : OrderbookState) (now : ℤ) :
    (s.recordReadyFalseAge now).readyFalse.sinceMonotonicNs = s.readyFalse.sinceMonotonicNs := by
  rw [recordReadyFalseAge]
  dsimp only
  split <;> rfl

/-- Recomputing readiness sets the start. -/
theorem sinceTracked_refresh (s : OrderbookState) (now : ℤ) :
    SinceTracked (s.refreshReadyToEmit now) := by
  rw [SinceTracked, refreshReadyToEmit]
  dsimp only
  split
  · exact ⟨fun _ => rfl, fun _ => rfl⟩
  · rw [since_recordReadyFalseAge]
    exact ⟨nofun, nofun⟩

/-- Taking the book out of use sets the start. -/
theorem sinceTracked_markNotReady (s : OrderbookState) (reason : String) (recv : Option ℤ)
    (advance : Bool) (boundary : Option ℤ) (clock : ℤ) :
    SinceTracked (s.markNotReady reason recv advance boundary clock) := by
  simp only [SinceTracked, markNotReady, since_recordReadyFalseAge]
  exact ⟨nofun, nofun⟩

/-- A start that is left alone is right when the book was not ready before. -/
theorem sinceTracked_of_not_ready {s t : OrderbookState} (h : SinceTracked s)
    (hsince : t.readyFalse.sinceMonotonicNs = s.readyFalse.sinceMonotonicNs)
    (hready : t.readyToEmit = false) : SinceTracked t ↔ ¬ s.readyToEmit = true := by
  rw [SinceTracked] at h
  rw [SinceTracked, hsince, h, hready]
  simp

/-! ### Calls -/

/-- A snapshot that is loaded. -/
def SnapshotLoads (s : OrderbookState) (a : SnapshotArgs) : Prop :=
  (a.generation = none ∨ a.generation = some (s.generation : ℤ)) ∧
    s.beforeGapBoundary a.lastUpdateId = false ∧
    (parseLevels false a.bids).2 = [] ∧ (parseLevels false a.asks).2 = []

/-- A call that begins a time without readiness that has no start. -/
def LosesReadyFalseSince (s : OrderbookState) : BookCall → Prop
  | .applySnapshot a => s.readyToEmit = true ∧ SnapshotLoads s a
  | .cleanup => s.readyToEmit = true
  | _ => False

/-- Exactly the snapshots that load are accepted. -/
theorem applySnapshot_accepted_iff (s : OrderbookState) (a : SnapshotArgs) :
    (s.applySnapshot a).2.accepted = true ↔ SnapshotLoads s a := by
  have hboundary : (s.recordMessageRecv a.localRecvMonotonicNs).beforeGapBoundary a.lastUpdateId =
      s.beforeGapBoundary a.lastUpdateId := rfl
  have hgeneration : (s.recordMessageRecv a.localRecvMonotonicNs).generation = s.generation := rfl
  simp only [applySnapshot, SnapshotLoads, hboundary, hgeneration]
  by_cases hold : a.generation ≠ none ∧ a.generation ≠ some (s.generation : ℤ)
  · rw [if_pos hold]
    exact iff_of_false nofun fun h => h.1.elim hold.1 hold.2
  rw [if_neg hold]
  have hcurrent : a.generation = none ∨ a.generation = some (s.generation : ℤ) := by
    tauto
  by_cases hstale : s.beforeGapBoundary a.lastUpdateId = true
  · rw [if_pos hstale]
    exact iff_of_false nofun fun h => by simp [hstale] at h
  rw [if_neg hstale]
  by_cases herrors : BookError.sortedSet
      ((parseLevels false a.bids).2 ++ (parseLevels false a.asks).2) = []
  · rw [if_neg (not_not.mpr herrors)]
    rw [BookError.sortedSet_eq_nil, List.append_eq_nil_iff] at herrors
    exact iff_of_true rfl ⟨hcurrent, by simpa using hstale, herrors⟩
  · rw [if_pos herrors]
    rw [BookError.sortedSet_eq_nil, List.append_eq_nil_iff] at herrors
    exact iff_of_false nofun fun h => herrors h.2.2

/-- The promise of readiness, kept by whatever leaves the book alone. -/
theorem emittable_of_same {s t : OrderbookState} (hs : BookInv s) (ht : BookInv t)
    (h : s.readyToEmit = true → Emittable s) (hsame : SamePhase s t)
    (hbids : t.bidPricesAsc = s.bidPricesAsc) (hasks : t.askPricesAsc = s.askPricesAsc)
    (hready : t.readyToEmit = s.readyToEmit) : t.readyToEmit = true → Emittable t :=
  fun hemit => (h (hready ▸ hemit)).congr hs ht hsame hbids hasks

/-- **A ready book may be read, after every call.** -/
theorem emittable_next {s : OrderbookState} (hs : BookInv s)
    (h : s.readyToEmit = true → Emittable s) (c : BookCall) :
    (orderbookMachine.next s c).readyToEmit = true → Emittable (orderbookMachine.next s c) := by
  have hnext : BookInv (orderbookMachine.next s c) := hs.next c
  rw [orderbookMachine_next] at hnext ⊢
  cases c with
  | applySnapshot a =>
      dsimp only at hnext ⊢
      cases applySnapshot_outcome s a with
      | stale accepted status state =>
          rw [state] at hnext ⊢
          exact emittable_of_same hs hnext h (recordMessageRecv_samePhase s _) rfl rfl rfl
      | invalid accepted status state =>
          rw [state]
          exact nofun
      | loaded accepted status fresh state =>
          rw [state]
          exact nofun
  | applyDelta a =>
      dsimp only at hnext ⊢
      cases applyDelta_outcome s a with
      | skipped accepted status state =>
          rw [state] at hnext ⊢
          have hsame := (recordMessageRecv_samePhase s a.localRecvMonotonicNs).trans
            (recordReadyFalseAge_samePhase _ a.localRecvMonotonicNs)
          exact emittable_of_same hs hnext h hsame rfl rfl rfl
      | failed reason last accepted status ready atLast newer state =>
          rw [state]
          exact nofun
      | applied last accepted status ready atLast newer inSequence state =>
          have hrecv : BookInv (s.recordMessageRecv a.localRecvMonotonicNs) :=
            hs.congr rfl rfl rfl rfl
          obtain ⟨t, ht, hrefresh⟩ := hrecv.commitDelta_refreshes a
            (fun _ => parseLevels_bounds) (fun _ => parseLevels_bounds)
          rw [state, hrefresh]
          exact emittable_of_refresh ht
  | markNotReady => exact nofun
  | markReady recv clock => exact emittable_of_refresh hs
  | cleanup => exact nofun
  | recordMessageRecv recv =>
      exact emittable_of_same hs hnext h (recordMessageRecv_samePhase s _) rfl rfl rfl
  | bookAgeMs now =>
      exact emittable_of_same hs hnext h (by constructor <;> rfl) rfl rfl rfl
  | bestBid | bestAsk | topN | copySnapshot | validate =>
      dsimp only
      rwa [ensurePriceIndexes_eq_self hs]

/-- **What a call does to the start**: it stays right, except that a book that was ready begins a
time without one when a snapshot loads or the symbol is removed. -/
theorem sinceTracked_next {s : OrderbookState} (hs : BookInv s) (h : SinceTracked s)
    (c : BookCall) :
    SinceTracked (orderbookMachine.next s c) ↔ ¬ LosesReadyFalseSince s c := by
  rw [orderbookMachine_next]
  cases c with
  | applySnapshot a =>
      rw [LosesReadyFalseSince, ← applySnapshot_accepted_iff]
      dsimp only
      cases applySnapshot_outcome s a with
      | stale accepted status state =>
          rw [state, accepted]
          exact iff_of_true h (by simp)
      | invalid accepted status state =>
          rw [state, accepted]
          exact iff_of_true (sinceTracked_markNotReady ..) (by simp)
      | loaded accepted status fresh state =>
          rw [state, accepted, and_iff_left rfl]
          exact sinceTracked_of_not_ready h (since_recordReadyFalseAge ..) rfl
  | applyDelta a =>
      refine iff_of_true ?_ not_false
      dsimp only
      cases applyDelta_outcome s a with
      | skipped accepted status state =>
          rw [state, SinceTracked, since_recordReadyFalseAge]
          exact h
      | failed reason last accepted status ready atLast newer state =>
          rw [state]
          exact sinceTracked_markNotReady ..
      | applied last accepted status ready atLast newer inSequence state =>
          rw [state]
          exact sinceTracked_refresh ..
  | markNotReady => exact iff_of_true (sinceTracked_markNotReady ..) not_false
  | markReady recv clock => exact iff_of_true (sinceTracked_refresh ..) not_false
  | cleanup => exact sinceTracked_of_not_ready h rfl rfl
  | recordMessageRecv | bookAgeMs => exact iff_of_true h not_false
  | bestBid | bestAsk | topN | copySnapshot | validate =>
      dsimp only
      rw [ensurePriceIndexes_eq_self hs]
      exact iff_of_true h not_false

/-! ### Runs -/

/-- A ready book may be read, in every state. -/
theorem ready_emittable (symbol : String) (warningAfterSec : ℚ) (now : ℤ)
    (calls : List BookCall) :
    (orderbookMachine.exec (init symbol warningAfterSec now) calls).readyToEmit = true →
      Emittable (orderbookMachine.exec (init symbol warningAfterSec now) calls) := by
  have hinv := orderbookMachine.exec_invariant
    (I := fun s => BookInv s ∧ (s.readyToEmit = true → Emittable s))
    (fun s c hs => ⟨hs.1.next c, emittable_next hs.1 hs.2 c⟩)
    (s := init symbol warningAfterSec now) ⟨⟨.empty, .empty⟩, nofun⟩ calls
  exact hinv.2

/-- **Readiness and its start.** In every state a ready book may be read; and throughout a run the
start of the time without readiness is there exactly while the book is not ready, if and only if
no snapshot loads and the symbol is not removed while the book is ready. -/
theorem readyFalseSince_iff (symbol : String) (warningAfterSec : ℚ) (now : ℤ)
    (calls : List BookCall) :
    (∀ before after, calls = before ++ after →
      ((orderbookMachine.exec (init symbol warningAfterSec now) before).readyToEmit = true →
        Emittable (orderbookMachine.exec (init symbol warningAfterSec now) before)) ∧
      SinceTracked (orderbookMachine.exec (init symbol warningAfterSec now) before)) ↔
    orderbookMachine.StepsMeet (fun s c => ¬ LosesReadyFalseSince s c)
      (init symbol warningAfterSec now) calls := by
  have hstart : SinceTracked (init symbol warningAfterSec now) := ⟨nofun, nofun⟩
  rw [← orderbookMachine.prefixes_iff_stepsMeet (I := BookInv) (P := SinceTracked)
    (fun s c hs => hs.next c) (fun s c hs h => sinceTracked_next hs h c) ⟨.empty, .empty⟩ hstart]
  constructor
  · exact fun h before after hsplit => (h before after hsplit).2
  · exact fun h before after hsplit =>
      ⟨ready_emittable symbol warningAfterSec now before, h before after hsplit⟩

/-- A second snapshot comes while the book is ready: the book is not ready then, from no time
on. -/
theorem second_snapshot_without_since :
    ¬ SinceTracked (orderbookMachine.exec (init "btcusdt" 300 0)
      [snapshotAt 100, .applyDelta (emptyDelta 101 101), snapshotAt 200]) := by
  rw [SinceTracked]
  decide +kernel

end SomethingTrade
