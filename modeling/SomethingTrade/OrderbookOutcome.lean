import SomethingTrade.OrderbookState

/-!
# Outcomes of Snapshots and Deltas

What a snapshot and a delta can do to the orderbook state, said once. `SnapshotOutcome`
and `DeltaOutcome` have one constructor for each kind of outcome, with everything that is
known when it occurs; the results about runs are case analyses over them.

## Main results

* `applySnapshot_outcome`, `applyDelta_outcome`: every call has one of the outcomes.
* `OrderbookState.rejected_keeps_book`: a rejected call leaves the book as it was, an
  accepted one counts one version, and the generation grows exactly on the gap outcomes
  and on request.
-/

namespace SomethingTrade

open OrderbookState

/-- The outcomes that open a gap: the delta is newer than the book and cannot be applied
to it. -/
def ApplyStatus.opensGap : ApplyStatus → Bool
  | previousFinalUpdateIdMismatch | sequenceBridgeFailed | sequenceGapOrReset
  | invalidDeltaLevels => true
  | _ => false

/-- The outcomes of a snapshot `a` applied to `s` with result `r`. -/
inductive SnapshotOutcome (s : OrderbookState) (a : SnapshotArgs)
    (r : OrderbookState × OrderbookApplyResult) : Prop
  /-- The snapshot belongs to an old generation or is not newer than the last gap. -/
  | stale
      (accepted : r.2.accepted = false)
      (status : r.2.status = .staleSnapshotGeneration ∨
        r.2.status = .staleSnapshotBeforeGapBoundary)
      (state : r.1 = s.recordMessageRecv a.localRecvMonotonicNs)
  /-- Some level cannot be parsed. -/
  | invalid
      (accepted : r.2.accepted = false)
      (status : r.2.status = .snapshotInvalidLevels)
      (state : r.1 = (s.recordMessageRecv a.localRecvMonotonicNs).markNotReady
        "snapshot_invalid_levels" (some a.localRecvMonotonicNs) false none a.monotonicNow)
  /-- The snapshot replaces the book. -/
  | loaded
      (accepted : r.2.accepted = true)
      (status : r.2.status = .snapshotLoaded)
      (fresh : s.beforeGapBoundary a.lastUpdateId = false)
      (state : r.1 = (s.recordMessageRecv a.localRecvMonotonicNs).loadSnapshot a
        (parseLevels false a.bids).1 (parseLevels false a.asks).1)

/-- The outcomes of a delta `a` applied to `s` with result `r`. -/
inductive DeltaOutcome (s : OrderbookState) (a : DeltaArgs)
    (r : OrderbookState × OrderbookApplyResult) : Prop
  /-- There is no book to apply the delta to, or the book is newer. -/
  | skipped
      (accepted : r.2.accepted = false)
      (status : r.2.status = .deltaBeforeSnapshot ∨ r.2.status = .duplicateUpdate)
      (state : r.1 = (s.recordMessageRecv a.localRecvMonotonicNs).recordReadyFalseAge
        a.localRecvMonotonicNs)
  /-- The delta is newer than the book, and a check of it fails. -/
  | failed (reason : String) (last : ℤ)
      (accepted : r.2.accepted = false)
      (status : r.2.status.opensGap = true)
      (ready : s.snapshotReady = true)
      (atLast : s.lastUpdateId = some last)
      (newer : last < a.finalUpdateId)
      (state : r.1 = (s.recordMessageRecv a.localRecvMonotonicNs).markNotReady reason
        (some a.localRecvMonotonicNs) true (some a.finalUpdateId) a.monotonicNow)
  /-- The delta is applied. -/
  | applied (last : ℤ)
      (accepted : r.2.accepted = true)
      (status : r.2.status = .deltaApplied)
      (ready : s.snapshotReady = true)
      (atLast : s.lastUpdateId = some last)
      (newer : last < a.finalUpdateId)
      (inSequence : s.sequenceFailure a last = none)
      (state : r.1 = (s.recordMessageRecv a.localRecvMonotonicNs).commitDelta a
        (parseLevels true a.bids).1 (parseLevels true a.asks).1)

/-- **Every snapshot has one of the outcomes.** -/
theorem applySnapshot_outcome (s : OrderbookState) (a : SnapshotArgs) :
    SnapshotOutcome s a (s.applySnapshot a) := by
  unfold applySnapshot
  simp only
  split
  · exact .stale rfl (Or.inl rfl) rfl
  · split
    · exact .stale rfl (Or.inr rfl) rfl
    · rename_i hfresh
      split
      · exact .invalid rfl rfl rfl
      · exact .loaded rfl rfl (Bool.not_eq_true _ ▸ hfresh) rfl

/-- A failed sequence check opens a gap. -/
theorem opensGap_of_sequenceFailure {s : OrderbookState} {a : DeltaArgs} {last : ℤ}
    {status : ApplyStatus} (h : s.sequenceFailure a last = some status) :
    status.opensGap = true := by
  unfold sequenceFailure at h
  split at h
  · cases h; rfl
  · split at h
    · split at h
      · split at h <;> cases h
        rfl
      · cases h; rfl
    · split at h <;> cases h
      rfl

/-- **Every delta has one of the outcomes.** -/
theorem applyDelta_outcome (s : OrderbookState) (a : DeltaArgs) :
    DeltaOutcome s a (s.applyDelta a) := by
  unfold applyDelta
  simp only
  split
  · rename_i last hready hlast
    split
    · exact .skipped rfl (Or.inr rfl) rfl
    · rename_i hnew
      split
      · rename_i status hseq
        exact .failed status.text last rfl (opensGap_of_sequenceFailure hseq) hready hlast
          (not_le.mp hnew) rfl
      · rename_i hseq
        split
        · exact .failed "invalid_delta_fail_closed" last rfl rfl hready hlast
            (not_le.mp hnew) rfl
        · exact .applied last rfl rfl hready hlast (not_le.mp hnew) hseq rfl
  · exact .skipped rfl (Or.inl rfl) rfl

/-- The state after each call. The reading calls rebuild the indexes at most. -/
theorem orderbookMachine_next (s : OrderbookState) (c : BookCall) :
    orderbookMachine.next s c =
      match c with
      | .applySnapshot a => (s.applySnapshot a).1
      | .applyDelta a => (s.applyDelta a).1
      | .markNotReady reason recv advance boundary clock =>
          s.markNotReady reason recv advance boundary clock
      | .markReady recv clock => s.refreshReadyToEmit (orNumber recv clock)
      | .cleanup => s.cleanup
      | .recordMessageRecv recv => s.recordMessageRecv recv
      | .bookAgeMs now => { s with lastStaleCheckMonotonicNs := some now }
      | .bestBid | .bestAsk | .topN _ _ | .copySnapshot _ | .validate =>
          s.ensurePriceIndexes := by
  cases c <;> rfl

/-! ### What the helpers leave alone -/

/-- The parts of the state that describe the book itself are the same. -/
structure SameBook (s t : OrderbookState) : Prop where
  bids : t.bids = s.bids
  asks : t.asks = s.asks
  bidPricesAsc : t.bidPricesAsc = s.bidPricesAsc
  askPricesAsc : t.askPricesAsc = s.askPricesAsc
  lastUpdateId : t.lastUpdateId = s.lastUpdateId
  snapshotLastUpdateId : t.snapshotLastUpdateId = s.snapshotLastUpdateId
  stateVersion : t.stateVersion = s.stateVersion

/-- The book, its ids and its synchronisation flags are the same. -/
structure SamePhase (s t : OrderbookState) : Prop where
  bids : t.bids = s.bids
  asks : t.asks = s.asks
  lastUpdateId : t.lastUpdateId = s.lastUpdateId
  snapshotLastUpdateId : t.snapshotLastUpdateId = s.snapshotLastUpdateId
  boundary : t.requiredFreshSnapshotAfterUpdateId = s.requiredFreshSnapshotAfterUpdateId
  snapshotReady : t.snapshotReady = s.snapshotReady
  sequenceContinuous : t.sequenceContinuous = s.sequenceContinuous
  awaiting : t.awaitingFirstDeltaAfterSnapshot = s.awaitingFirstDeltaAfterSnapshot

theorem SamePhase.trans {s t u : OrderbookState} (h : SamePhase s t) (h' : SamePhase t u) :
    SamePhase s u where
  bids := h'.bids.trans h.bids
  asks := h'.asks.trans h.asks
  lastUpdateId := h'.lastUpdateId.trans h.lastUpdateId
  snapshotLastUpdateId := h'.snapshotLastUpdateId.trans h.snapshotLastUpdateId
  boundary := h'.boundary.trans h.boundary
  snapshotReady := h'.snapshotReady.trans h.snapshotReady
  sequenceContinuous := h'.sequenceContinuous.trans h.sequenceContinuous
  awaiting := h'.awaiting.trans h.awaiting

/-- Noting times keeps the phase. -/
theorem recordMessageRecv_samePhase (s : OrderbookState) (recv : ℤ) :
    SamePhase s (s.recordMessageRecv recv) := by
  constructor <;> rfl

theorem recordReadyFalseAge_samePhase (s : OrderbookState) (now : ℤ) :
    SamePhase s (s.recordReadyFalseAge now) := by
  constructor <;> rfl

/-- Recomputing readiness keeps everything but the indexes, the readiness flag with its
reason, and the statistics. -/
structure SameUpToReadiness (s t : OrderbookState) : Prop extends SamePhase s t where
  stateVersion : t.stateVersion = s.stateVersion
  generation : t.generation = s.generation
  lastBookUpdate : t.lastBookUpdateMonotonicNs = s.lastBookUpdateMonotonicNs
  lastLocalRecv : t.lastLocalRecvMonotonicNs = s.lastLocalRecvMonotonicNs
  lastLocalRecvWallTs : t.lastLocalRecvWallTs = s.lastLocalRecvWallTs

theorem ensurePriceIndexes_same (s : OrderbookState) :
    SameUpToReadiness s s.ensurePriceIndexes := by
  unfold ensurePriceIndexes
  split <;> exact ⟨by constructor <;> rfl, rfl, rfl, rfl, rfl, rfl⟩

theorem refreshReadyToEmit_same (s : OrderbookState) (now : ℤ) :
    SameUpToReadiness s (s.refreshReadyToEmit now) := by
  have h : SameUpToReadiness s.ensurePriceIndexes (s.refreshReadyToEmit now) := by
    unfold refreshReadyToEmit
    simp only
    split <;> exact ⟨by constructor <;> rfl, rfl, rfl, rfl, rfl, rfl⟩
  have h' := ensurePriceIndexes_same s
  exact ⟨h'.toSamePhase.trans h.toSamePhase, h.stateVersion.trans h'.stateVersion,
    h.generation.trans h'.generation, h.lastBookUpdate.trans h'.lastBookUpdate,
    h.lastLocalRecv.trans h'.lastLocalRecv, h.lastLocalRecvWallTs.trans h'.lastLocalRecvWallTs⟩

/-- What committing a delta does to the parts other than the indexes and readiness. -/
structure Committed (s : OrderbookState) (a : DeltaArgs) (bids asks : List ParsedLevel)
    (t : OrderbookState) : Prop where
  bids : t.bids = (bids.foldl applyLevel (s.bids, s.bidPricesAsc)).1
  asks : t.asks = (asks.foldl applyLevel (s.asks, s.askPricesAsc)).1
  lastUpdateId : t.lastUpdateId = some a.finalUpdateId
  snapshotLastUpdateId : t.snapshotLastUpdateId = s.snapshotLastUpdateId
  boundary : t.requiredFreshSnapshotAfterUpdateId = s.requiredFreshSnapshotAfterUpdateId
  snapshotReady : t.snapshotReady = s.snapshotReady
  sequenceContinuous : t.sequenceContinuous = true
  awaiting : t.awaitingFirstDeltaAfterSnapshot = false
  stateVersion : t.stateVersion = s.stateVersion + 1
  generation : t.generation = s.generation
  lastBookUpdate : t.lastBookUpdateMonotonicNs = some a.localRecvMonotonicNs
  lastLocalRecv : t.lastLocalRecvMonotonicNs = some a.localRecvMonotonicNs
  lastLocalRecvWallTs : t.lastLocalRecvWallTs = s.lastLocalRecvWallTs

theorem commitDelta_committed (s : OrderbookState) (a : DeltaArgs)
    (bids asks : List ParsedLevel) :
    Committed s a bids asks (s.commitDelta a bids asks) := by
  have h := refreshReadyToEmit_same
  constructor
  · exact (h _ _).bids
  · exact (h _ _).asks
  · exact (h _ _).lastUpdateId
  · exact (h _ _).snapshotLastUpdateId
  · exact (h _ _).boundary
  · exact (h _ _).snapshotReady
  · exact (h _ _).sequenceContinuous
  · exact (h _ _).awaiting
  · exact (h _ _).stateVersion
  · exact (h _ _).generation
  · exact (h _ _).lastBookUpdate
  · exact (h _ _).lastLocalRecv
  · exact (h _ _).lastLocalRecvWallTs

/-! ### Rejected calls -/

/-- The calls that start a new generation: a delta that opens a gap, and a request for
it. -/
def StartsGeneration (s : OrderbookState) : BookCall → Prop
  | .applyDelta a => (s.applyDelta a).2.accepted = false ∧
      (s.applyDelta a).2.status ∈ [.sequenceGapOrReset, .sequenceBridgeFailed,
        .previousFinalUpdateIdMismatch, .invalidDeltaLevels]
  | .markNotReady _ _ advanceGeneration _ _ => advanceGeneration = true
  | _ => False

theorem opensGap_iff {status : ApplyStatus} :
    status.opensGap = true ↔ status ∈ [.sequenceGapOrReset, .sequenceBridgeFailed,
      .previousFinalUpdateIdMismatch, .invalidDeltaLevels] := by
  cases status <;> decide

theorem applySnapshot_effect (s : OrderbookState) (a : SnapshotArgs) :
    (if (s.applySnapshot a).2.accepted then
      (s.applySnapshot a).1.stateVersion = s.stateVersion + 1
    else SameBook s (s.applySnapshot a).1) ∧
    (s.applySnapshot a).1.generation = s.generation := by
  cases applySnapshot_outcome s a with
  | stale accepted status state =>
      rw [accepted, state]
      exact ⟨by constructor <;> rfl, rfl⟩
  | invalid accepted status state =>
      rw [accepted, state]
      exact ⟨by constructor <;> rfl, rfl⟩
  | loaded accepted status fresh state =>
      rw [accepted, state]
      exact ⟨rfl, rfl⟩

theorem applyDelta_effect (s : OrderbookState) (a : DeltaArgs) :
    (if (s.applyDelta a).2.accepted then
      (s.applyDelta a).1.stateVersion = s.stateVersion + 1
    else SameBook s (s.applyDelta a).1) ∧
    (s.applyDelta a).1.generation =
      if (s.applyDelta a).2.status.opensGap then s.generation + 1 else s.generation := by
  cases applyDelta_outcome s a with
  | skipped accepted status state =>
      have hgap : (s.applyDelta a).2.status.opensGap = false := by
        rcases status with h | h <;> rw [h] <;> rfl
      rw [accepted, state, hgap]
      exact ⟨by constructor <;> rfl, rfl⟩
  | failed reason last accepted status ready atLast newer state =>
      rw [accepted, state, status]
      exact ⟨by constructor <;> rfl, rfl⟩
  | applied last accepted status ready atLast newer inSequence state =>
      rw [accepted, state, status]
      have hcommit := commitDelta_committed (s.recordMessageRecv a.localRecvMonotonicNs) a
        (parseLevels true a.bids).1 (parseLevels true a.asks).1
      exact ⟨hcommit.stateVersion, hcommit.generation⟩

/-- A call that starts a generation counts one; every other call keeps the count. -/
theorem generation_next (s : OrderbookState) (c : BookCall) :
    (StartsGeneration s c ∧ (orderbookMachine.next s c).generation = s.generation + 1) ∨
      (¬ StartsGeneration s c ∧ (orderbookMachine.next s c).generation = s.generation) := by
  cases c with
  | applySnapshot a => exact Or.inr ⟨id, (applySnapshot_effect s a).2⟩
  | applyDelta a =>
      have heff := (applyDelta_effect s a).2
      simp only [StartsGeneration, ← opensGap_iff, orderbookMachine_next]
      cases applyDelta_outcome s a with
      | skipped accepted status state =>
          have hgap : (s.applyDelta a).2.status.opensGap = false := by
            rcases status with h | h <;> rw [h] <;> rfl
          exact Or.inr ⟨by simp [hgap], by simpa [hgap] using heff⟩
      | failed reason last accepted status =>
          exact Or.inl ⟨⟨accepted, status⟩, by simpa [status] using heff⟩
      | applied last accepted status =>
          exact Or.inr ⟨by simp [accepted], by simpa [status, ApplyStatus.opensGap] using heff⟩
  | markNotReady reason recv advance boundary clock =>
      cases advance with
      | true => exact Or.inl ⟨rfl, rfl⟩
      | false => exact Or.inr ⟨Bool.false_ne_true, rfl⟩
  | markReady recv clock => exact Or.inr ⟨id, (refreshReadyToEmit_same s _).generation⟩
  | bestBid | bestAsk | topN | copySnapshot | validate =>
      exact Or.inr ⟨id, (ensurePriceIndexes_same s).generation⟩
  | cleanup | recordMessageRecv | bookAgeMs => exact Or.inr ⟨id, rfl⟩

/-- **A rejected call leaves the book alone.** In every state, a snapshot or delta that is
not accepted keeps both sides, both indexes, the ids and the version, and an accepted one
counts exactly one version. No call lowers the generation, and it grows exactly on a
rejected delta that opens a gap and on a request to advance it. -/
theorem OrderbookState.rejected_keeps_book (s : OrderbookState) (snapshot : SnapshotArgs)
    (delta : DeltaArgs) (c : BookCall) :
    (if (s.applySnapshot snapshot).2.accepted then
      (s.applySnapshot snapshot).1.stateVersion = s.stateVersion + 1
    else SameBook s (s.applySnapshot snapshot).1) ∧
    (if (s.applyDelta delta).2.accepted then
      (s.applyDelta delta).1.stateVersion = s.stateVersion + 1
    else SameBook s (s.applyDelta delta).1) ∧
    s.generation ≤ (orderbookMachine.next s c).generation ∧
    (s.generation < (orderbookMachine.next s c).generation ↔ StartsGeneration s c) := by
  refine ⟨(applySnapshot_effect s snapshot).1, (applyDelta_effect s delta).1, ?_⟩
  rcases generation_next s c with ⟨hstart, hgen⟩ | ⟨hstart, hgen⟩
  · exact ⟨by omega, by simp [hgen, hstart]⟩
  · exact ⟨by omega, by simp [hgen, hstart]⟩

end SomethingTrade
