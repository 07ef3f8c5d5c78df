import Mathlib.Data.List.Chain
import SomethingTrade.OrderbookOutcome

/-!
# The Orderbook as the Fold of its Ledger

What the orderbook state is for: while it is ready, it is the last accepted snapshot with
every delta accepted since applied to it, none missing and none twice. The statement is
about history. `acceptedSince` reads off a run's events the last accepted snapshot and
the deltas accepted after it; a `Ledger` is such a pair whose id ranges chain, and it has
a book, the plain fold of the levels. `Synced` relates a state to its ledger.

## Main results

* `Synced.commitDelta`, `Synced.loadSnapshot`: accepted calls extend and start ledgers.
* `OrderbookState.ready_book_is_ledger`: in every reachable ready state the book, the
  last id and the accepted deltas are those of a chained ledger.
-/

namespace SomethingTrade

open OrderbookState

/-! ### Events -/

/-- A call of a run with its reply. -/
abbrev BookEvent := BookCall × BookReply

/-- The snapshot an event accepted, if it did. -/
def acceptedSnapshot : BookEvent → Option SnapshotArgs
  | (.applySnapshot a, .applied r) => if r.accepted then some a else none
  | _ => none

/-- The delta an event accepted, if it did. -/
def acceptedDelta : BookEvent → Option DeltaArgs
  | (.applyDelta a, .applied r) => if r.accepted then some a else none
  | _ => none

/-- Extend the accepted inputs by one event: a snapshot starts afresh, a delta is
appended. -/
def extendAccepted (acc : Option (SnapshotArgs × List DeltaArgs)) (e : BookEvent) :
    Option (SnapshotArgs × List DeltaArgs) :=
  match acceptedSnapshot e, acceptedDelta e with
  | some a, _ => some (a, [])
  | none, some a => acc.map fun (snapshot, deltas) => (snapshot, deltas ++ [a])
  | none, none => acc

/-- The last accepted snapshot of a run with the deltas accepted since. -/
def acceptedSince (events : List BookEvent) : Option (SnapshotArgs × List DeltaArgs) :=
  events.foldl extendAccepted none

theorem acceptedSince_concat (events : List BookEvent) (e : BookEvent) :
    acceptedSince (events ++ [e]) = extendAccepted (acceptedSince events) e :=
  List.foldl_concat ..

/-! ### Ledgers -/

/-- The id ranges of deltas chain onto a snapshot: the first one bridges it, and each
later one starts right after the one before. -/
def Chained (snapshotId : ℤ) : List DeltaArgs → Prop
  | [] => True
  | a :: as => bridges a snapshotId ∧
      (a :: as).IsChain fun a b => b.firstUpdateId = a.finalUpdateId + 1

/-- The id a book stands at after a snapshot and deltas. -/
def lastIdOf (snapshotId : ℤ) (deltas : List DeltaArgs) : ℤ :=
  (deltas.getLast?.map DeltaArgs.finalUpdateId).getD snapshotId

/-- A snapshot with deltas whose id ranges chain onto it. -/
structure Ledger where
  snapshot : SnapshotArgs
  deltas : List DeltaArgs
  chained : Chained snapshot.lastUpdateId deltas

/-- A level on a plain dictionary: size zero deletes the price, another size sets it. -/
def foldLevel (book : Dict ℚ ℚ) (level : ParsedLevel) : Dict ℚ ℚ :=
  if level.size = 0 then book.pop level.price else book.set level.price level.size

/-- The fold of the levels of deltas over those of a snapshot, for the rows that `rows`
and `snapshotRows` select. -/
def foldBook (snapshotRows : List LevelRow) (deltaRows : List (List LevelRow)) : Dict ℚ ℚ :=
  deltaRows.foldl (fun book rows => (parseLevels true rows).1.foldl foldLevel book)
    (bookOfLevels (parseLevels false snapshotRows).1)

/-- The bids of a ledger. -/
def Ledger.bids (l : Ledger) : Dict ℚ ℚ :=
  foldBook l.snapshot.bids (l.deltas.map DeltaArgs.bids)

/-- The asks of a ledger. -/
def Ledger.asks (l : Ledger) : Dict ℚ ℚ :=
  foldBook l.snapshot.asks (l.deltas.map DeltaArgs.asks)

/-- The id a ledger stands at. -/
def Ledger.lastId (l : Ledger) : ℤ := lastIdOf l.snapshot.lastUpdateId l.deltas

theorem lastIdOf_concat (snapshotId : ℤ) (deltas : List DeltaArgs) (a : DeltaArgs) :
    lastIdOf snapshotId (deltas ++ [a]) = a.finalUpdateId := by
  simp [lastIdOf]

/-- A delta that bridges the snapshot, or continues the last delta, extends a chain. -/
theorem Chained.concat {snapshotId : ℤ} {deltas : List DeltaArgs}
    (h : Chained snapshotId deltas) {a : DeltaArgs}
    (hfirst : deltas = [] → bridges a snapshotId)
    (hnext : deltas ≠ [] → a.firstUpdateId = lastIdOf snapshotId deltas + 1) :
    Chained snapshotId (deltas ++ [a]) := by
  cases deltas with
  | nil => exact ⟨hfirst rfl, List.isChain_singleton a⟩
  | cons d ds =>
      refine ⟨h.1, h.2.append (List.isChain_singleton a) ?_⟩
      intro x hx y hy
      obtain rfl : a = y := by simpa using hy
      have hlast := hnext (List.cons_ne_nil d ds)
      simpa [lastIdOf, Option.mem_def.mp hx] using hlast

theorem foldBook_concat (snapshotRows : List LevelRow) (deltaRows : List (List LevelRow))
    (rows : List LevelRow) :
    foldBook snapshotRows (deltaRows ++ [rows]) =
      (parseLevels true rows).1.foldl foldLevel (foldBook snapshotRows deltaRows) :=
  List.foldl_concat ..

/-! ### The code's update is the fold -/

/-- Popping an absent key does nothing. -/
theorem pop_eq_self {book : Dict ℚ ℚ} {price : ℚ} (h : (book.get? price).isSome = false) :
    book.pop price = book := by
  have hnot : price ∉ book.keys := by
    rw [← Dict.get?_eq_none_iff]
    simpa using h
  refine Dict.ext (List.filter_eq_self.mpr fun e he => decide_eq_true fun heq => hnot ?_)
  exact heq ▸ List.mem_map_of_mem he

/-- On the dictionary, `applyLevel` is the plain fold step. -/
theorem applyLevel_fst (side : Dict ℚ ℚ × List ℚ) (level : ParsedLevel) :
    (applyLevel side level).1 = foldLevel side.1 level := by
  unfold applyLevel foldLevel
  simp only
  split
  · split
    · rfl
    · rename_i h
      exact (pop_eq_self (by simpa using h)).symm
  · rfl

theorem foldl_applyLevel_fst (levels : List ParsedLevel) (side : Dict ℚ ℚ × List ℚ) :
    (levels.foldl applyLevel side).1 = levels.foldl foldLevel side.1 := by
  induction levels generalizing side with
  | nil => rfl
  | cons l levels ih => rw [List.foldl_cons, ih, applyLevel_fst, List.foldl_cons]

/-- What a delta that passes the sequence check satisfies. -/
theorem sequenceFailure_eq_none {s : OrderbookState} {a : DeltaArgs} {last : ℤ}
    (h : s.sequenceFailure a last = none) :
    (s.awaitingFirstDeltaAfterSnapshot = true →
      ∃ id, s.snapshotLastUpdateId = some id ∧ bridges a id) ∧
    (s.awaitingFirstDeltaAfterSnapshot = false → a.firstUpdateId = last + 1) := by
  unfold sequenceFailure at h
  split at h
  · cases h
  · split at h
    · rename_i hawait
      split at h
      · rename_i id hid
        split at h
        · rename_i hbridge
          exact ⟨fun _ => ⟨id, hid, hbridge⟩, fun hf => absurd hawait (by simp [hf])⟩
        · cases h
      · cases h
    · rename_i hawait
      split at h
      · cases h
      · rename_i hfirst
        exact ⟨fun ht => absurd ht hawait, fun _ => not_not.mp hfirst⟩

/-! ### The relation -/

/-- A state in step with a ledger. -/
structure Synced (s : OrderbookState) (l : Ledger) : Prop where
  bids : s.bids = l.bids
  asks : s.asks = l.asks
  lastId : s.lastUpdateId = some l.lastId
  snapshotId : s.snapshotLastUpdateId = some l.snapshot.lastUpdateId
  awaiting : s.awaitingFirstDeltaAfterSnapshot = true ↔ l.deltas = []

/-- The relation reads the phase only. -/
theorem Synced.congr {s t : OrderbookState} {l : Ledger} (h : Synced s l)
    (hst : SamePhase s t) : Synced t l :=
  ⟨hst.bids.trans h.bids, hst.asks.trans h.asks, hst.lastUpdateId.trans h.lastId,
    hst.snapshotLastUpdateId.trans h.snapshotId, by rw [hst.awaiting]; exact h.awaiting⟩

/-- An accepted snapshot starts a ledger. -/
theorem Synced.loadSnapshot (s : OrderbookState) (a : SnapshotArgs) :
    Synced (s.loadSnapshot a (parseLevels false a.bids).1 (parseLevels false a.asks).1)
      ⟨a, [], trivial⟩ :=
  ⟨rfl, rfl, rfl, rfl, iff_of_true rfl rfl⟩

/-- **An accepted delta extends the ledger**: it is the bridge of a ledger without deltas
and the continuation of any other. -/
theorem Synced.commitDelta {s : OrderbookState} {l : Ledger} (h : Synced s l) {a : DeltaArgs}
    {last : ℤ} (hlast : s.lastUpdateId = some last) (hseq : s.sequenceFailure a last = none) :
    ∃ l' : Ledger, l'.snapshot = l.snapshot ∧ l'.deltas = l.deltas ++ [a] ∧
      Synced (s.commitDelta a (parseLevels true a.bids).1 (parseLevels true a.asks).1) l' := by
  obtain ⟨hbridge, hcont⟩ := sequenceFailure_eq_none hseq
  have hid : last = l.lastId := by
    rw [h.lastId] at hlast
    exact (Option.some.inj hlast).symm
  have hchain : Chained l.snapshot.lastUpdateId (l.deltas ++ [a]) := by
    refine l.chained.concat (fun hnil => ?_) fun hne => ?_
    · obtain ⟨id, hsid, hb⟩ := hbridge (h.awaiting.mpr hnil)
      rw [h.snapshotId] at hsid
      exact Option.some.inj hsid ▸ hb
    · have hfalse : s.awaitingFirstDeltaAfterSnapshot = false := by
        rw [← Bool.not_eq_true, h.awaiting]
        exact hne
      rw [hcont hfalse, hid, Ledger.lastId]
  refine ⟨⟨l.snapshot, l.deltas ++ [a], hchain⟩, rfl, rfl, ?_⟩
  have hc := commitDelta_committed s a (parseLevels true a.bids).1 (parseLevels true a.asks).1
  refine ⟨?_, ?_, ?_, hc.snapshotLastUpdateId.trans h.snapshotId, by simp [hc.awaiting]⟩
  · rw [hc.bids, foldl_applyLevel_fst, h.bids, Ledger.bids, Ledger.bids, List.map_append,
      List.map_singleton, foldBook_concat]
  · rw [hc.asks, foldl_applyLevel_fst, h.asks, Ledger.asks, Ledger.asks, List.map_append,
      List.map_singleton, foldBook_concat]
  · rw [hc.lastUpdateId, Ledger.lastId, lastIdOf_concat]

/-! ### Runs -/

/-- The history relation: a ready state is in step with the ledger of its history. -/
def LedgerInv (events : List BookEvent) (s : OrderbookState) : Prop :=
  s.snapshotReady = true →
    ∃ l : Ledger, acceptedSince events = some (l.snapshot, l.deltas) ∧ Synced s l

/-- An event that accepts nothing leaves the ledger of the history. -/
theorem acceptedSince_concat_of_none {events : List BookEvent} {e : BookEvent}
    (hs : acceptedSnapshot e = none) (hd : acceptedDelta e = none) :
    acceptedSince (events ++ [e]) = acceptedSince events := by
  rw [acceptedSince_concat, extendAccepted, hs, hd]

/-- Calls that accept nothing and keep the phase keep the relation. -/
theorem LedgerInv.keep {events : List BookEvent} {s t : OrderbookState}
    (h : LedgerInv events s) {e : BookEvent} (hs : acceptedSnapshot e = none)
    (hd : acceptedDelta e = none) (hst : SamePhase s t) :
    LedgerInv (events ++ [e]) t := fun hready => by
  obtain ⟨l, hl, hsync⟩ := h (hst.snapshotReady ▸ hready)
  exact ⟨l, by rw [acceptedSince_concat_of_none hs hd, hl], hsync.congr hst⟩

/-- A call that takes the book out of use makes the relation hold. -/
theorem LedgerInv.of_not_ready {events : List BookEvent} {t : OrderbookState}
    (ht : t.snapshotReady = false) : LedgerInv events t := fun hready => by
  simp [ht] at hready

theorem LedgerInv.applySnapshot {events : List BookEvent} {s : OrderbookState}
    (h : LedgerInv events s) (a : SnapshotArgs) :
    LedgerInv (events ++ [(.applySnapshot a, .applied (s.applySnapshot a).2)])
      (s.applySnapshot a).1 := by
  cases applySnapshot_outcome s a with
  | stale accepted status state =>
      refine h.keep (by simp [acceptedSnapshot, accepted]) rfl ?_
      exact state ▸ recordMessageRecv_samePhase s _
  | invalid accepted status state => exact .of_not_ready (by rw [state]; rfl)
  | loaded accepted status fresh state =>
      intro _
      refine ⟨⟨a, [], trivial⟩, ?_, state ▸ Synced.loadSnapshot _ a⟩
      simp [acceptedSince_concat, extendAccepted, acceptedSnapshot, accepted]

theorem LedgerInv.applyDelta {events : List BookEvent} {s : OrderbookState}
    (h : LedgerInv events s) (a : DeltaArgs) :
    LedgerInv (events ++ [(.applyDelta a, .applied (s.applyDelta a).2)])
      (s.applyDelta a).1 := by
  cases applyDelta_outcome s a with
  | skipped accepted status state =>
      refine h.keep rfl (by simp [acceptedDelta, accepted]) ?_
      exact state ▸ (recordMessageRecv_samePhase s _).trans (recordReadyFalseAge_samePhase _ _)
  | failed reason last accepted status ready atLast newer state =>
      exact .of_not_ready (by rw [state]; rfl)
  | applied last accepted status ready atLast newer inSequence state =>
      intro _
      obtain ⟨l, hl, hsync⟩ := h ready
      have hrecv : Synced (s.recordMessageRecv a.localRecvMonotonicNs) l :=
        hsync.congr (recordMessageRecv_samePhase s _)
      obtain ⟨l', hsnap, hdeltas, hsync'⟩ := hrecv.commitDelta atLast inSequence
      refine ⟨l', ?_, state ▸ hsync'⟩
      simp [acceptedSince_concat, extendAccepted, acceptedSnapshot, acceptedDelta, accepted,
        hl, hsnap, hdeltas]

/-- **Every call keeps the history relation.** -/
theorem LedgerInv.step {events : List BookEvent} {s : OrderbookState}
    (h : LedgerInv events s) (c : BookCall) :
    LedgerInv (events ++ [(c, orderbookMachine.out s c)]) (orderbookMachine.next s c) := by
  rw [orderbookMachine_next]
  cases c with
  | applySnapshot a => exact h.applySnapshot a
  | applyDelta a => exact h.applyDelta a
  | markReady recv clock => exact h.keep rfl rfl (refreshReadyToEmit_same s _).toSamePhase
  | markNotReady | cleanup => exact .of_not_ready rfl
  | recordMessageRecv | bookAgeMs => exact h.keep rfl rfl (by constructor <;> rfl)
  | bestBid | bestAsk | topN | copySnapshot | validate =>
      exact h.keep rfl rfl (ensurePriceIndexes_same s).toSamePhase

/-- **A ready book is the fold of its ledger.** After every run from a fresh state, when
the snapshot is ready, there is a ledger of exactly the last accepted snapshot and the
deltas accepted since, its id ranges chain without gap or overlap, and the state has its
bids, its asks and its last id. -/
theorem OrderbookState.ready_book_is_ledger (symbol : String) (warningAfterSec : ℚ)
    (now : ℤ) (calls : List BookCall)
    (h : (orderbookMachine.exec (init symbol warningAfterSec now) calls).snapshotReady = true) :
    let s := orderbookMachine.exec (init symbol warningAfterSec now) calls
    ∃ l : Ledger,
      acceptedSince (orderbookMachine.trace (init symbol warningAfterSec now) calls) =
        some (l.snapshot, l.deltas) ∧
      s.bids = l.bids ∧ s.asks = l.asks ∧ s.lastUpdateId = some l.lastId ∧
      Chained l.snapshot.lastUpdateId l.deltas := by
  have hinv : LedgerInv (orderbookMachine.trace (init symbol warningAfterSec now) calls)
      (orderbookMachine.exec (init symbol warningAfterSec now) calls) :=
    orderbookMachine.trace_invariant (fun _ _ c hi => hi.step c) (.of_not_ready rfl) calls
  obtain ⟨l, hl, hsync⟩ := hinv h
  exact ⟨l, hl, hsync.bids, hsync.asks, hsync.lastId, l.chained⟩

/-- A snapshot, the delta that bridges it, and the delta after that one, which deletes
the bid of the snapshot. -/
def bridgedRun : List BookCall :=
  [.applySnapshot ⟨[.seq ["100.0", "1"]], [.seq ["101", "2.5"]], 100, 5, none, none, 5, "t"⟩,
    .applyDelta ⟨99, 102, [.seq ["99.5", "3"]], [], 6, none, 6⟩,
    .applyDelta ⟨103, 103, [.seq ["100.00", "0"]], [.seq ["102", "1"]], 7, none, 7⟩]

theorem OrderbookState.ready_book_is_ledger_bridgedRun :
    let s := orderbookMachine.exec (init "btcusdt" 300 0) bridgedRun
    ∃ l : Ledger,
      acceptedSince (orderbookMachine.trace (init "btcusdt" 300 0) bridgedRun) =
        some (l.snapshot, l.deltas) ∧
      s.bids = l.bids ∧ s.asks = l.asks ∧ s.lastUpdateId = some l.lastId ∧
      Chained l.snapshot.lastUpdateId l.deltas :=
  OrderbookState.ready_book_is_ledger "btcusdt" 300 0 bridgedRun (by decide +kernel)

end SomethingTrade
