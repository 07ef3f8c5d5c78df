import SomethingTrade.OrderbookOutcome

/-!
# Replays of Deltas

What deltas do to a book does not depend on the clock: two states that agree but for times
and statistics still agree after the same delta, whenever it was received. A delta that the
book has passed changes nothing else, so leaving such deltas out of a replay does not show.

## Main results

* `AgreeUpToTimes.applyDelta`: a delta keeps two states in agreement.
* `AgreeUpToTimes.applyDeltas`: so do two lists of deltas, the second without those that the
  book has passed.
* `JustLoaded.accepts`: after a snapshot, the delta that bridges it is accepted.
-/

namespace SomethingTrade

open OrderbookState

/-- Two states agree but for times and the statistics of the time spent not ready. -/
structure AgreeUpToTimes (s t : OrderbookState) : Prop extends SamePhase s t where
  symbol : t.symbol = s.symbol
  bidPricesAsc : t.bidPricesAsc = s.bidPricesAsc
  askPricesAsc : t.askPricesAsc = s.askPricesAsc
  readyToEmit : t.readyToEmit = s.readyToEmit
  generation : t.generation = s.generation
  stateVersion : t.stateVersion = s.stateVersion
  lastNotReadyReason : t.lastNotReadyReason = s.lastNotReadyReason

/-- What a delta says, without the time it was received. -/
structure DeltaContent where
  firstUpdateId : ℤ
  finalUpdateId : ℤ
  bids : List LevelRow
  asks : List LevelRow
  previousFinalUpdateId : Option ℤ

/-- The content of a delta. -/
def DeltaArgs.content (a : DeltaArgs) : DeltaContent where
  firstUpdateId := a.firstUpdateId
  finalUpdateId := a.finalUpdateId
  bids := a.bids
  asks := a.asks
  previousFinalUpdateId := a.previousFinalUpdateId

namespace AgreeUpToTimes

variable {s t : OrderbookState}

theorem refl (s : OrderbookState) : AgreeUpToTimes s s :=
  ⟨⟨rfl, rfl, rfl, rfl, rfl, rfl, rfl, rfl⟩, rfl, rfl, rfl, rfl, rfl, rfl, rfl⟩

theorem symm (h : AgreeUpToTimes s t) : AgreeUpToTimes t s :=
  ⟨⟨h.bids.symm, h.asks.symm, h.lastUpdateId.symm, h.snapshotLastUpdateId.symm, h.boundary.symm,
    h.snapshotReady.symm, h.sequenceContinuous.symm, h.awaiting.symm⟩, h.symbol.symm,
    h.bidPricesAsc.symm, h.askPricesAsc.symm, h.readyToEmit.symm, h.generation.symm,
    h.stateVersion.symm, h.lastNotReadyReason.symm⟩

theorem trans {u : OrderbookState} (h : AgreeUpToTimes s t) (h' : AgreeUpToTimes t u) :
    AgreeUpToTimes s u :=
  ⟨h.toSamePhase.trans h'.toSamePhase, h'.symbol.trans h.symbol,
    h'.bidPricesAsc.trans h.bidPricesAsc, h'.askPricesAsc.trans h.askPricesAsc,
    h'.readyToEmit.trans h.readyToEmit, h'.generation.trans h.generation,
    h'.stateVersion.trans h.stateVersion, h'.lastNotReadyReason.trans h.lastNotReadyReason⟩

theorem recordMessageRecv (h : AgreeUpToTimes s t) (recv recv' : ℤ) :
    AgreeUpToTimes (s.recordMessageRecv recv) (t.recordMessageRecv recv') :=
  ⟨⟨h.bids, h.asks, h.lastUpdateId, h.snapshotLastUpdateId, h.boundary, h.snapshotReady,
    h.sequenceContinuous, h.awaiting⟩, h.symbol, h.bidPricesAsc, h.askPricesAsc, h.readyToEmit,
    h.generation, h.stateVersion, h.lastNotReadyReason⟩

theorem recordReadyFalseAge (h : AgreeUpToTimes s t) (now now' : ℤ) :
    AgreeUpToTimes (s.recordReadyFalseAge now) (t.recordReadyFalseAge now') :=
  ⟨⟨h.bids, h.asks, h.lastUpdateId, h.snapshotLastUpdateId, h.boundary, h.snapshotReady,
    h.sequenceContinuous, h.awaiting⟩, h.symbol, h.bidPricesAsc, h.askPricesAsc, h.readyToEmit,
    h.generation, h.stateVersion, h.lastNotReadyReason⟩

theorem markNotReady (h : AgreeUpToTimes s t) (reason : String) (recv recv' : Option ℤ)
    (advanceGeneration : Bool) (boundary : Option ℤ) (clock clock' : ℤ) :
    AgreeUpToTimes (s.markNotReady reason recv advanceGeneration boundary clock)
      (t.markNotReady reason recv' advanceGeneration boundary clock') := by
  have hgeneration : (if advanceGeneration then t.generation + 1 else t.generation) =
      if advanceGeneration then s.generation + 1 else s.generation := by rw [h.generation]
  have hboundary :
      (t.markNotReady reason recv' advanceGeneration boundary
        clock').requiredFreshSnapshotAfterUpdateId =
      (s.markNotReady reason recv advanceGeneration boundary
        clock).requiredFreshSnapshotAfterUpdateId := by
    cases boundary with
    | none => exact h.boundary
    | some u => rfl
  exact ⟨⟨h.bids, h.asks, h.lastUpdateId, h.snapshotLastUpdateId, hboundary, rfl, rfl, rfl⟩,
    h.symbol, h.bidPricesAsc, h.askPricesAsc, rfl, hgeneration, h.stateVersion, rfl⟩

theorem ensurePriceIndexes (h : AgreeUpToTimes s t) :
    AgreeUpToTimes s.ensurePriceIndexes t.ensurePriceIndexes := by
  simp only [OrderbookState.ensurePriceIndexes, h.bids, h.asks, h.bidPricesAsc, h.askPricesAsc]
  split
  · exact ⟨⟨h.bids, h.asks, h.lastUpdateId, h.snapshotLastUpdateId, h.boundary, h.snapshotReady,
      h.sequenceContinuous, h.awaiting⟩, h.symbol, by simp [rebuildPriceIndexes, h.bids],
      by simp [rebuildPriceIndexes, h.asks], h.readyToEmit, h.generation, h.stateVersion,
      h.lastNotReadyReason⟩
  · exact h

theorem validate (h : AgreeUpToTimes s t) : t.validate = s.validate := by
  have hbid : t.bestBid = s.bestBid := by rw [bestBid, h.ensurePriceIndexes.bidPricesAsc, bestBid]
  have hask : t.bestAsk = s.bestAsk := by rw [bestAsk, h.ensurePriceIndexes.askPricesAsc, bestAsk]
  dsimp only [OrderbookState.validate]
  rw [hbid, hask, h.bids, h.asks]

theorem refreshReadyToEmit (h : AgreeUpToTimes s t) (now now' : ℤ) :
    AgreeUpToTimes (s.refreshReadyToEmit now) (t.refreshReadyToEmit now') := by
  have hindexes := h.ensurePriceIndexes
  simp only [OrderbookState.refreshReadyToEmit, h.validate, hindexes.snapshotReady,
    hindexes.sequenceContinuous, hindexes.awaiting]
  split
  · exact ⟨⟨hindexes.bids, hindexes.asks, hindexes.lastUpdateId, hindexes.snapshotLastUpdateId,
      hindexes.boundary, rfl, rfl, rfl⟩, hindexes.symbol, hindexes.bidPricesAsc,
      hindexes.askPricesAsc, rfl, hindexes.generation, hindexes.stateVersion, rfl⟩
  · refine recordReadyFalseAge ?_ now now'
    exact ⟨⟨hindexes.bids, hindexes.asks, hindexes.lastUpdateId, hindexes.snapshotLastUpdateId,
      hindexes.boundary, rfl, rfl, rfl⟩, hindexes.symbol, hindexes.bidPricesAsc,
      hindexes.askPricesAsc, rfl, hindexes.generation, hindexes.stateVersion,
      by rw [hindexes.lastNotReadyReason]⟩

theorem commitDelta (h : AgreeUpToTimes s t) {a a' : DeltaArgs} (ha : a'.content = a.content)
    (bids asks : List ParsedLevel) :
    AgreeUpToTimes (s.commitDelta a bids asks) (t.commitDelta a' bids asks) := by
  have hfinal : a'.finalUpdateId = a.finalUpdateId := congrArg DeltaContent.finalUpdateId ha
  simp only [OrderbookState.commitDelta, h.bids, h.asks, h.bidPricesAsc, h.askPricesAsc, hfinal]
  refine refreshReadyToEmit ?_ _ _
  exact ⟨⟨rfl, rfl, rfl, h.snapshotLastUpdateId, h.boundary, h.snapshotReady, rfl, rfl⟩,
    h.symbol, rfl, rfl, h.readyToEmit, h.generation, congrArg (· + 1) h.stateVersion,
    h.lastNotReadyReason⟩

theorem sequenceFailure (h : AgreeUpToTimes s t) {a a' : DeltaArgs} (ha : a'.content = a.content)
    (last : ℤ) : t.sequenceFailure a' last = s.sequenceFailure a last := by
  have hfirst : a'.firstUpdateId = a.firstUpdateId := congrArg DeltaContent.firstUpdateId ha
  have hfinal : a'.finalUpdateId = a.finalUpdateId := congrArg DeltaContent.finalUpdateId ha
  have hprevious : a'.previousFinalUpdateId = a.previousFinalUpdateId :=
    congrArg DeltaContent.previousFinalUpdateId ha
  have hbridges (id : ℤ) : bridges a' id ↔ bridges a id := by rw [bridges, hfirst, hfinal, bridges]
  simp only [OrderbookState.sequenceFailure, h.awaiting, h.snapshotLastUpdateId, hfirst, hprevious,
    hbridges]

/-- **A delta keeps agreement**, whenever it is received. -/
theorem applyDelta (h : AgreeUpToTimes s t) {a a' : DeltaArgs} (ha : a'.content = a.content) :
    AgreeUpToTimes (s.applyDelta a).1 (t.applyDelta a').1 := by
  have hfinal : a'.finalUpdateId = a.finalUpdateId := congrArg DeltaContent.finalUpdateId ha
  have hbids : a'.bids = a.bids := congrArg DeltaContent.bids ha
  have hasks : a'.asks = a.asks := congrArg DeltaContent.asks ha
  have hreceived := h.recordMessageRecv a.localRecvMonotonicNs a'.localRecvMonotonicNs
  simp only [OrderbookState.applyDelta]
  generalize s.recordMessageRecv a.localRecvMonotonicNs = s' at *
  generalize t.recordMessageRecv a'.localRecvMonotonicNs = t' at *
  rw [hreceived.snapshotReady, hreceived.lastUpdateId, hfinal, hbids, hasks]
  cases s'.snapshotReady with
  | false => exact hreceived.recordReadyFalseAge _ _
  | true =>
      cases s'.lastUpdateId with
      | none => exact hreceived.recordReadyFalseAge _ _
      | some last =>
          dsimp only
          rw [hreceived.sequenceFailure ha]
          by_cases hpassed : a.finalUpdateId ≤ last
          · rw [if_pos hpassed, if_pos hpassed]
            exact hreceived.recordReadyFalseAge _ _
          · rw [if_neg hpassed, if_neg hpassed]
            cases s'.sequenceFailure a last with
            | some status =>
                dsimp only
                exact hreceived.markNotReady ..
            | none =>
                dsimp only
                split
                · dsimp only
                  exact hreceived.markNotReady ..
                · exact hreceived.commitDelta ha _ _

end AgreeUpToTimes

/-! ### Passed deltas -/

namespace OrderbookState

/-- Apply deltas one after the other. -/
def applyDeltas (s : OrderbookState) (args : List DeltaArgs) : OrderbookState :=
  args.foldl (fun s a => (s.applyDelta a).1) s

/-- The book has reached an update id. -/
def Reached (s : OrderbookState) (id : ℤ) : Prop :=
  ∃ last, s.lastUpdateId = some last ∧ id ≤ last

end OrderbookState

theorem OrderbookState.Reached.applyDelta {s : OrderbookState} {id : ℤ} (h : s.Reached id)
    (a : DeltaArgs) : (s.applyDelta a).1.Reached id := by
  obtain ⟨last, hlast, hid⟩ := h
  cases applyDelta_outcome s a with
  | skipped accepted status state =>
      rw [state]
      exact ⟨last, hlast, hid⟩
  | failed reason last' accepted status ready atLast newer state =>
      rw [state]
      exact ⟨last, hlast, hid⟩
  | applied last' accepted status ready atLast newer inSequence state =>
      obtain rfl := Option.some.inj (hlast.symm.trans atLast)
      have hcommit := commitDelta_committed (s.recordMessageRecv a.localRecvMonotonicNs) a
        (parseLevels true a.bids).1 (parseLevels true a.asks).1
      rw [state]
      exact ⟨a.finalUpdateId, hcommit.lastUpdateId, by omega⟩

/-- A delta that the book has passed changes times only. -/
theorem OrderbookState.Reached.applyDelta_agree {s : OrderbookState} {a : DeltaArgs}
    (h : s.Reached a.finalUpdateId) : AgreeUpToTimes s (s.applyDelta a).1 := by
  obtain ⟨last, hlast, hid⟩ := h
  cases applyDelta_outcome s a with
  | skipped accepted status state =>
      rw [state]
      exact ⟨⟨rfl, rfl, rfl, rfl, rfl, rfl, rfl, rfl⟩, rfl, rfl, rfl, rfl, rfl, rfl, rfl⟩
  | failed reason last' accepted status ready atLast newer state =>
      obtain rfl := Option.some.inj (hlast.symm.trans atLast)
      omega
  | applied last' accepted status ready atLast newer inSequence state =>
      obtain rfl := Option.some.inj (hlast.symm.trans atLast)
      omega

/-- **Passed deltas do not show**: a list of deltas and the list of those newer than an id the
book has reached lead to states that agree. -/
theorem AgreeUpToTimes.applyDeltas {s t : OrderbookState} (h : AgreeUpToTimes s t) {id : ℤ}
    (hid : s.Reached id) {args args' : List DeltaArgs}
    (hargs : args'.map DeltaArgs.content =
      (args.map DeltaArgs.content).filter fun c => id < c.finalUpdateId) :
    AgreeUpToTimes (s.applyDeltas args) (t.applyDeltas args') := by
  induction args generalizing s t args' with
  | nil =>
      obtain rfl := List.map_eq_nil_iff.mp hargs
      exact h
  | cons a args ih =>
      by_cases hnewer : id < a.finalUpdateId
      · have hnewer' : id < a.content.finalUpdateId := hnewer
        rw [List.map_cons, List.filter_cons_of_pos (by simpa using hnewer')] at hargs
        obtain ⟨a', args', rfl, ha, hrest⟩ := List.map_eq_cons_iff.mp hargs
        exact ih (h.applyDelta ha) (hid.applyDelta a) hrest
      · have hpassed : ¬ id < a.content.finalUpdateId := hnewer
        rw [List.map_cons, List.filter_cons_of_neg (by simpa using hpassed)] at hargs
        have hreached : s.Reached a.finalUpdateId := by
          obtain ⟨last, hlast, hle⟩ := hid
          exact ⟨last, hlast, by omega⟩
        exact ih (hreached.applyDelta_agree.symm.trans h) (hid.applyDelta a) hargs

/-! ### After a snapshot -/

/-- The state has just loaded a snapshot with id `S`. -/
structure JustLoaded (s : OrderbookState) (S : ℤ) : Prop where
  ready : s.snapshotReady = true
  last : s.lastUpdateId = some S
  snapshot : s.snapshotLastUpdateId = some S
  awaiting : s.awaitingFirstDeltaAfterSnapshot = true

theorem justLoaded_of_accepted {s : OrderbookState} {a : SnapshotArgs}
    (h : (s.applySnapshot a).2.accepted = true) :
    JustLoaded (s.applySnapshot a).1 a.lastUpdateId := by
  cases applySnapshot_outcome s a with
  | stale accepted =>
      rw [accepted] at h
      cases h
  | invalid accepted =>
      rw [accepted] at h
      cases h
  | loaded accepted status fresh state =>
      rw [state]
      exact ⟨rfl, rfl, rfl, rfl⟩

/-- A delta that bridges the snapshot is accepted after it. -/
theorem JustLoaded.accepts {s : OrderbookState} {S : ℤ} (h : JustLoaded s S) {a : DeltaArgs}
    (hbridges : bridges a S) (hprevious : a.previousFinalUpdateId = none)
    (hbids : (parseLevels true a.bids).2 = []) (hasks : (parseLevels true a.asks).2 = []) :
    (s.applyDelta a).2.accepted = true := by
  simp only [OrderbookState.applyDelta]
  have hnewer : ¬ a.finalUpdateId ≤ S := by
    have hcovers := hbridges.2
    omega
  obtain ⟨hready, hlast, hsnapshot, hawaiting⟩ : JustLoaded
      (s.recordMessageRecv a.localRecvMonotonicNs) S := ⟨h.ready, h.last, h.snapshot, h.awaiting⟩
  generalize s.recordMessageRecv a.localRecvMonotonicNs = s' at *
  have hsequence : s'.sequenceFailure a S = none := by
    rw [OrderbookState.sequenceFailure, if_neg (by simp [hprevious]), if_pos hawaiting, hsnapshot]
    exact if_pos hbridges
  have herrors : BookError.sortedSet ((parseLevels true a.bids).2 ++ (parseLevels true a.asks).2) =
      [] := by simp [hbids, hasks]
  rw [hready, hlast]
  dsimp only
  rw [if_neg hnewer, hsequence]
  dsimp only
  rewrite [if_neg (not_not.mpr herrors)]
  rfl

end SomethingTrade
