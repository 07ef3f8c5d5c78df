import SomethingTrade.OrderbookPhase41
import SomethingTrade.OrderbookReplay

/-!
# Purging the Queue After a Snapshot

Depth updates wait in a bounded queue while a snapshot is fetched. After the snapshot the
queue is drained, the updates it covers are dropped, and so are newer ones that come before
the one that bridges it; the rest is put back.

## Representation

* The queue carries the proof that it holds no more than its capacity, so putting back what
  was taken out cannot fail (`requeue_eq`).
* The purge is a fold with `PurgeProgress` as its state, and `Purged` is what holds after any
  part of the queue.

## Main results

* `purged_foldl`: what a purge keeps.
* `purge_transparent`: a purge after an accepted snapshot.
-/

namespace SomethingTrade

/-! ### The queue -/

/-- What an envelope carries: a depth update or something else. -/
inductive QueuePayload
  | depthUpdate (update : DepthUpdate)
  | other (payload : Json)

/-- An item of the queue. -/
structure QueueEnvelope where
  payload : QueuePayload
  enqueueMonotonicNs : ℤ
  queueSizeAtEnqueue : ℤ
  queuePutEndMonotonicNs : Option ℤ

/-- The depth update of a symbol that an envelope carries. -/
def QueueEnvelope.updateOf (envelope : QueueEnvelope) (symbol : String) : Option DepthUpdate :=
  match envelope.payload with
  | .depthUpdate update => if upper update.symbol = symbol then some update else none
  | .other _ => none

/-- A queue with a capacity, which is unbounded when it is not positive. -/
structure EnvelopeQueue where
  items : List QueueEnvelope
  maxsize : ℤ
  fits : 0 < maxsize → (items.length : ℤ) ≤ maxsize

namespace EnvelopeQueue

/-- Take every item out. -/
def drain (q : EnvelopeQueue) : List QueueEnvelope × EnvelopeQueue :=
  (q.items, { q with items := [], fits := fun h => h.le })

/-- Put an item at the end; `none` when the queue is full. -/
def putNowait (q : EnvelopeQueue) (envelope : QueueEnvelope) : Option EnvelopeQueue :=
  if h : 0 < q.maxsize ∧ q.maxsize ≤ q.items.length then none
  else some
    { q with
      items := q.items ++ [envelope]
      fits := fun hpos => by
        have hroom : ¬ q.maxsize ≤ q.items.length := fun hfull => h ⟨hpos, hfull⟩
        rw [List.length_append, List.length_singleton]
        omega }

end EnvelopeQueue

/-! ### The purge -/

/-- What a purge reports. -/
structure PostSnapshotQueuePurgeResult where
  symbol : String
  snapshotLastUpdateId : ℤ
  queueSizeBefore : ℕ
  oldEventsDropped : ℕ
  bridgeCandidateFound : Bool
  bridgeFirstUpdateId : Option ℤ
  bridgeFinalUpdateId : Option ℤ
  eventsPreservedCount : ℕ
  queueSizeAfter : ℕ
  bridgeMissingAfterSnapshot : Bool
  futureEventsDropped : ℕ
  deriving DecidableEq

/-- The result of a purge with the envelopes to put back. -/
structure QueuePurgeOutput where
  result : PostSnapshotQueuePurgeResult
  preserved : List QueueEnvelope

/-- The state of a purge: the envelopes kept so far, the counts of those dropped, and the
update that bridges the snapshot, once there was one. -/
structure PurgeProgress where
  preserved : List QueueEnvelope
  oldEventsDropped : ℕ
  futureEventsDropped : ℕ
  bridge : Option DepthUpdate

/-- The update covers the id after the snapshot. -/
def bridgesSnapshot (snapshotLastUpdateId : ℤ) (update : DepthUpdate) : Prop :=
  update.firstUpdateId ≤ snapshotLastUpdateId + 1 ∧
    snapshotLastUpdateId + 1 ≤ update.finalUpdateId

instance (snapshotLastUpdateId : ℤ) (update : DepthUpdate) :
    Decidable (bridgesSnapshot snapshotLastUpdateId update) :=
  inferInstanceAs (Decidable (_ ∧ _))

/-- Keep an envelope. -/
def PurgeProgress.preserve (acc : PurgeProgress) (envelope : QueueEnvelope) : PurgeProgress :=
  { acc with preserved := acc.preserved ++ [envelope] }

/-- Keep or drop one envelope. -/
def PurgeProgress.visit (symbol : String) (snapshotLastUpdateId : ℤ) (acc : PurgeProgress)
    (envelope : QueueEnvelope) : PurgeProgress :=
  match envelope.updateOf symbol with
  | none => acc.preserve envelope
  | some update =>
      if update.finalUpdateId ≤ snapshotLastUpdateId then
        { acc with oldEventsDropped := acc.oldEventsDropped + 1 }
      else if acc.bridge.isNone then
        if bridgesSnapshot snapshotLastUpdateId update then
          { acc.preserve envelope with bridge := some update }
        else { acc with futureEventsDropped := acc.futureEventsDropped + 1 }
      else acc.preserve envelope

/-- Purge the depth updates of a symbol after a snapshot. -/
def purgeQueuedDepthUpdatesAfterSnapshot (envelopes : List QueueEnvelope)
    (snapshotLastUpdateId : ℤ) (symbol : String) : QueuePurgeOutput :=
  let acc := envelopes.foldl (PurgeProgress.visit (upper symbol) snapshotLastUpdateId)
    ⟨[], 0, 0, none⟩
  { result :=
      { symbol := upper symbol
        snapshotLastUpdateId := snapshotLastUpdateId
        queueSizeBefore := envelopes.length
        oldEventsDropped := acc.oldEventsDropped
        bridgeCandidateFound := acc.bridge.isSome
        bridgeFirstUpdateId := acc.bridge.map DepthUpdate.firstUpdateId
        bridgeFinalUpdateId := acc.bridge.map DepthUpdate.finalUpdateId
        eventsPreservedCount := acc.preserved.length
        queueSizeAfter := acc.preserved.length
        bridgeMissingAfterSnapshot := decide (acc.futureEventsDropped ≠ 0) && acc.bridge.isNone
        futureEventsDropped := acc.futureEventsDropped }
    preserved := acc.preserved }

/-- Count a dropped message and refresh the total. -/
def QueueMonitor.recordDrop (q : QueueMonitor) : QueueMonitor :=
  { q with
    queueSizeBackpressureEvents := q.queueSizeBackpressureEvents + 1
    queueBackpressureEvents := q.queueSizeBackpressureEvents + 1 + q.queueLagBackpressureEvents +
      q.processingLagBackpressureEvents + q.snapshotBlockingLagEvents }

def WSLifecycleTracker.onQueueDropped (t : WSLifecycleTracker) : WSLifecycleTracker :=
  { t with counters :=
      { t.counters with queueDroppedMessages := t.counters.queueDroppedMessages + 1 } }

namespace OrderbookPhase41Processor

/-- Put the kept envelopes back. Those that do not fit are dropped and counted. -/
def requeue (p : OrderbookPhase41Processor) (q : EnvelopeQueue) :
    List QueueEnvelope → OrderbookPhase41Processor × EnvelopeQueue × ℕ
  | [] => (p, q, 0)
  | envelope :: preserved =>
      match q.putNowait envelope with
      | some q => p.requeue q preserved
      | none =>
          let p :=
            { p with
              queueMonitor := p.queueMonitor.recordDrop
              lifecycle := p.lifecycle.onQueueDropped }
          let (p, q, dropped) := p.requeue q preserved
          (p, q, dropped + 1)

/-- Purge the queue after a snapshot. -/
def purgeQueueAfterSnapshot (p : OrderbookPhase41Processor) (q : EnvelopeQueue)
    (symbol : String) (snapshotLastUpdateId monotonicNow : ℤ) :
    OrderbookPhase41Processor × EnvelopeQueue × PostSnapshotQueuePurgeResult :=
  let (drained, q) := q.drain
  let output := purgeQueuedDepthUpdatesAfterSnapshot drained snapshotLastUpdateId symbol
  let (p, q, droppedOnRequeue) := p.requeue q output.preserved
  let result :=
    { output.result with
      eventsPreservedCount := output.result.eventsPreservedCount - droppedOnRequeue
      queueSizeAfter := output.result.queueSizeAfter - droppedOnRequeue }
  let p := p.setState symbol (p.stateFor symbol monotonicNow)
  if result.bridgeMissingAfterSnapshot then (p.bridgeMissing symbol monotonicNow, q, result)
  else (p, q, result)

end OrderbookPhase41Processor

/-! ### What a purge keeps -/

section

variable {symbol : String} {S : ℤ}

/-- What a purge does with one envelope. -/
inductive Visited (symbol : String) (S : ℤ) (acc : PurgeProgress) (envelope : QueueEnvelope)
    (acc' : PurgeProgress) : Prop
  /-- The envelope carries no update of the symbol. -/
  | foreign (carries : envelope.updateOf symbol = none) (result : acc' = acc.preserve envelope)
  /-- The snapshot covers the update. -/
  | old (update : DepthUpdate) (carries : envelope.updateOf symbol = some update)
      (covered : update.finalUpdateId ≤ S)
      (result : acc' = { acc with oldEventsDropped := acc.oldEventsDropped + 1 })
  /-- The update is the first that bridges the snapshot. -/
  | bridge (update : DepthUpdate) (carries : envelope.updateOf symbol = some update)
      (first : acc.bridge = none) (bridges : bridgesSnapshot S update)
      (result : acc' = { acc.preserve envelope with bridge := some update })
  /-- The update is newer, and none before it bridges the snapshot. -/
  | future (update : DepthUpdate) (carries : envelope.updateOf symbol = some update)
      (newer : S < update.finalUpdateId) (first : acc.bridge = none)
      (unbridged : ¬ bridgesSnapshot S update)
      (result : acc' = { acc with futureEventsDropped := acc.futureEventsDropped + 1 })
  /-- The update is newer and comes after the one that bridges the snapshot. -/
  | newer (update : DepthUpdate) (carries : envelope.updateOf symbol = some update)
      (newer : S < update.finalUpdateId) (bridged : acc.bridge.isSome)
      (result : acc' = acc.preserve envelope)

theorem visit_visited (symbol : String) (S : ℤ) (acc : PurgeProgress)
    (envelope : QueueEnvelope) :
    Visited symbol S acc envelope (acc.visit symbol S envelope) := by
  rw [PurgeProgress.visit]
  cases hcarries : envelope.updateOf symbol with
  | none => exact .foreign hcarries rfl
  | some update =>
      dsimp only
      split
      · rename_i hcovered
        exact .old update hcarries hcovered rfl
      · rename_i hnewer
        cases hbridge : acc.bridge with
        | some bridge =>
            exact .newer update hcarries (not_le.mp hnewer) (by rw [hbridge]; rfl) rfl
        | none =>
            dsimp only [Option.isNone_none]
            rw [if_pos rfl]
            split
            · rename_i hbridges
              exact .bridge update hcarries hbridge hbridges rfl
            · rename_i hunbridged
              exact .future update hcarries (not_le.mp hnewer) hbridge hunbridged (by rw [hbridge])

/-- An update of the symbol in the list bridges the snapshot. -/
def HasBridge (symbol : String) (S : ℤ) (envelopes : List QueueEnvelope) : Prop :=
  ∃ envelope ∈ envelopes, ∃ update ∈ envelope.updateOf symbol, bridgesSnapshot S update

/-- What holds of a purge of the envelopes so far. -/
structure Purged (symbol : String) (S : ℤ) (done : List QueueEnvelope) (acc : PurgeProgress) :
    Prop where
  sublist : acc.preserved.Sublist done
  foreign : acc.preserved.filter (fun e => (e.updateOf symbol).isNone) =
    done.filter fun e => (e.updateOf symbol).isNone
  counted : done.length =
    acc.oldEventsDropped + acc.futureEventsDropped + acc.preserved.length
  bridged : acc.bridge.isSome ↔ HasBridge symbol S done
  bridge : ∀ update ∈ acc.bridge, bridgesSnapshot S update
  first : (acc.preserved.filterMap (·.updateOf symbol)).head? = acc.bridge
  newer : acc.futureEventsDropped = 0 → acc.preserved.filterMap (·.updateOf symbol) =
    (done.filterMap (·.updateOf symbol)).filter fun update => S < update.finalUpdateId

theorem hasBridge_concat {done : List QueueEnvelope} {envelope : QueueEnvelope} :
    HasBridge symbol S (done ++ [envelope]) ↔
      HasBridge symbol S done ∨ ∃ update ∈ envelope.updateOf symbol, bridgesSnapshot S update := by
  simp only [HasBridge, List.mem_append, List.mem_singleton, or_and_right, exists_or,
    exists_eq_left]

theorem Purged.visit {done : List QueueEnvelope} {acc : PurgeProgress}
    (h : Purged symbol S done acc) (envelope : QueueEnvelope) :
    Purged symbol S (done ++ [envelope]) (acc.visit symbol S envelope) := by
  cases visit_visited symbol S acc envelope with
  | foreign carries result =>
      rw [result]
      refine ⟨h.sublist.append_right _, ?_, ?_, ?_, h.bridge, ?_, ?_⟩
      · simp [PurgeProgress.preserve, h.foreign]
      · have hcounted := h.counted
        simp only [PurgeProgress.preserve, List.length_append, List.length_singleton]
        omega
      · rw [hasBridge_concat, carries]
        simpa [PurgeProgress.preserve] using h.bridged
      · simpa [PurgeProgress.preserve, carries] using h.first
      · simpa [PurgeProgress.preserve, carries] using h.newer
  | old update carries covered result =>
      rw [result]
      have hunbridged : ¬ bridgesSnapshot S update := fun hbridges => by
        have hcovers := hbridges.2
        omega
      refine ⟨h.sublist.trans (List.sublist_append_left ..), ?_, ?_, ?_, h.bridge, h.first, ?_⟩
      · simp [h.foreign, carries]
      · have hcounted := h.counted
        simp only [List.length_append, List.length_singleton]
        omega
      · rw [hasBridge_concat, carries]
        simpa [hunbridged] using h.bridged
      · simpa [carries, not_lt.mpr covered] using h.newer
  | bridge update carries first bridges result =>
      rw [result]
      have hnewer : S < update.finalUpdateId := by
        have hcovers := bridges.2
        omega
      have hnone : acc.preserved.filterMap (·.updateOf symbol) = [] := by
        rw [← List.head?_eq_none_iff, h.first, first]
      refine ⟨h.sublist.append_right _, ?_, ?_, ?_, ?_, ?_, ?_⟩
      · simp [PurgeProgress.preserve, h.foreign]
      · have hcounted := h.counted
        simp only [PurgeProgress.preserve, List.length_append, List.length_singleton]
        omega
      · rw [hasBridge_concat, carries]
        simp [bridges]
      · simpa using bridges
      · simp [PurgeProgress.preserve, carries, hnone]
      · intro hfuture
        simp [PurgeProgress.preserve, carries, h.newer hfuture, hnewer]
  | future update carries newer first unbridged result =>
      rw [result]
      refine ⟨h.sublist.trans (List.sublist_append_left ..), ?_, ?_, ?_, h.bridge, h.first, ?_⟩
      · simp [h.foreign, carries]
      · have hcounted := h.counted
        simp only [List.length_append, List.length_singleton]
        omega
      · rw [hasBridge_concat, carries]
        simpa [unbridged] using h.bridged
      · intro hfuture
        simp at hfuture
  | newer update carries newer bridged result =>
      rw [result]
      have hfirst : (acc.preserved.filterMap (·.updateOf symbol)) ≠ [] := by
        intro hnil
        rw [← h.first, hnil] at bridged
        cases bridged
      refine ⟨h.sublist.append_right _, ?_, ?_, ?_, h.bridge, ?_, ?_⟩
      · simp [PurgeProgress.preserve, h.foreign]
      · have hcounted := h.counted
        simp only [PurgeProgress.preserve, List.length_append, List.length_singleton]
        omega
      · rw [hasBridge_concat]
        simp [PurgeProgress.preserve, bridged, h.bridged.mp bridged]
      · simp only [PurgeProgress.preserve, List.filterMap_append]
        rw [List.head?_append_of_ne_nil _ hfirst, h.first]
      · intro hfuture
        simp [PurgeProgress.preserve, carries, h.newer hfuture, newer]

/-- **What a purge keeps.** -/
theorem purged_foldl (symbol : String) (S : ℤ) (envelopes : List QueueEnvelope) :
    Purged symbol S envelopes
      (envelopes.foldl (PurgeProgress.visit symbol S) ⟨[], 0, 0, none⟩) := by
  induction envelopes using List.reverseRecOn with
  | nil => exact ⟨.slnil, rfl, rfl, by simp [HasBridge], by simp, rfl, fun _ => rfl⟩
  | append_singleton done envelope ih =>
      rw [List.foldl_concat]
      exact ih.visit envelope

end

/-! ### Replays of a purged queue -/

/-- The depth updates of a symbol in the queue, in order. -/
def updatesOf (symbol : String) (envelopes : List QueueEnvelope) : List DepthUpdate :=
  envelopes.filterMap (·.updateOf (upper symbol))

/-- The deltas of updates that are processed at the times `clock` gives. -/
def deltasAt (clock : ℕ → DepthReadings) (updates : List DepthUpdate) : List DeltaArgs :=
  updates.zipIdx.map fun e => OrderbookPhase41Processor.deltaArgs e.1 (clock e.2)

/-- The levels of an update can be parsed. -/
def DepthUpdate.levelsValid (update : DepthUpdate) : Prop :=
  (parseLevels true (update.bids.map fun level => .seq [level.1, level.2])).2 = [] ∧
    (parseLevels true (update.asks.map fun level => .seq [level.1, level.2])).2 = []

/-- What the delta of an update says. -/
def DepthUpdate.content (update : DepthUpdate) : DeltaContent where
  firstUpdateId := update.firstUpdateId
  finalUpdateId := update.finalUpdateId
  bids := update.bids.map fun level => .seq [level.1, level.2]
  asks := update.asks.map fun level => .seq [level.1, level.2]
  previousFinalUpdateId := update.previousFinalUpdateId

theorem content_deltasAt (clock : ℕ → DepthReadings) (updates : List DepthUpdate) :
    (deltasAt clock updates).map DeltaArgs.content = updates.map DepthUpdate.content := by
  have hcontent : (deltasAt clock updates).map DeltaArgs.content =
      (updates.zipIdx.map Prod.fst).map DepthUpdate.content := by
    rw [deltasAt, List.map_map, List.map_map]
    rfl
  rw [hcontent, List.zipIdx_map_fst]

/-- A purge of the queue after a snapshot with id `S` does not show: what it keeps and counts,
and what comes of the updates it keeps. -/
structure TransparentPurge (s : OrderbookState) (S : ℤ) (symbol : String)
    (envelopes : List QueueEnvelope) (output : QueuePurgeOutput) : Prop where
  foreign : output.preserved.filter (fun e => (e.updateOf (upper symbol)).isNone) =
    envelopes.filter fun e => (e.updateOf (upper symbol)).isNone
  order : output.preserved.Sublist envelopes
  counted : output.result.queueSizeBefore = output.result.oldEventsDropped +
    output.result.futureEventsDropped + output.result.eventsPreservedCount
  sizes : output.result.queueSizeBefore = envelopes.length ∧
    output.result.eventsPreservedCount = output.preserved.length
  first : ∀ update ∈ (updatesOf symbol output.preserved).head?, bridgesSnapshot S update ∧
    (update.levelsValid → update.previousFinalUpdateId = none → ∀ r,
      (s.applyDelta (OrderbookPhase41Processor.deltaArgs update r)).2.accepted = true)
  replay : output.result.futureEventsDropped = 0 → ∀ clock clock',
    AgreeUpToTimes (s.applyDeltas (deltasAt clock (updatesOf symbol envelopes)))
      (s.applyDeltas (deltasAt clock' (updatesOf symbol output.preserved)))

/-- **A purge after an accepted snapshot is transparent.** -/
theorem purge_transparent (before : OrderbookState) (a : SnapshotArgs) (symbol : String)
    (envelopes : List QueueEnvelope) (h : (before.applySnapshot a).2.accepted = true) :
    TransparentPurge (before.applySnapshot a).1 a.lastUpdateId symbol envelopes
      (purgeQueuedDepthUpdatesAfterSnapshot envelopes a.lastUpdateId symbol) := by
  have hloaded := justLoaded_of_accepted h
  generalize (before.applySnapshot a).1 = s at *
  have hpurged := purged_foldl (upper symbol) a.lastUpdateId envelopes
  refine ⟨hpurged.foreign, hpurged.sublist, hpurged.counted, ⟨rfl, rfl⟩, ?_, ?_⟩
  · intro update hupdate
    have hbridge : bridgesSnapshot a.lastUpdateId update :=
      hpurged.bridge update (hpurged.first ▸ hupdate)
    exact ⟨hbridge, fun hlevels hprevious r =>
      hloaded.accepts hbridge hprevious hlevels.1 hlevels.2⟩
  · intro hfuture clock clock'
    refine (AgreeUpToTimes.refl s).applyDeltas ⟨_, hloaded.last, le_refl a.lastUpdateId⟩ ?_
    have hkept : updatesOf symbol
        (purgeQueuedDepthUpdatesAfterSnapshot envelopes a.lastUpdateId symbol).preserved =
        (updatesOf symbol envelopes).filter fun update => a.lastUpdateId < update.finalUpdateId :=
      hpurged.newer hfuture
    rw [content_deltasAt, content_deltasAt, hkept, List.filter_map]
    rfl

/-- An update of one symbol without levels. -/
def emptyUpdate (first final : ℤ) : DepthUpdate where
  symbol := "btcusdt"
  firstUpdateId := first
  finalUpdateId := final
  previousFinalUpdateId := none
  bids := []
  asks := []
  tsNs := 0
  exchangeEventTs := none
  localReceivedTs := none
  parseDoneTs := none
  stateUpdatedTs := none
  recvMonotonicNs := some 2000
  parseDoneMonotonicNs := none
  stateUpdatedMonotonicNs := none
  latencyMs := none
  sequence := none

/-- An update in the queue. -/
def queued (update : DepthUpdate) : QueueEnvelope := ⟨.depthUpdate update, 1000, 1, none⟩

/-- A snapshot without levels. -/
def emptySnapshot (id : ℤ) : SnapshotArgs := ⟨[], [], id, 5, none, none, 5, "t"⟩

/-- The theorem applied to an old update, the one that bridges the snapshot, and the next. -/
theorem purge_transparent_bridged :
    let before := OrderbookState.init "btcusdt" 300 0
    let envelopes := [(80, 90), (99, 105), (106, 110)].map fun ids =>
      queued (emptyUpdate ids.1 ids.2)
    TransparentPurge (before.applySnapshot (emptySnapshot 100)).1 100 "BTCUSDT" envelopes
      (purgeQueuedDepthUpdatesAfterSnapshot envelopes 100 "BTCUSDT") :=
  purge_transparent (OrderbookState.init "btcusdt" 300 0) (emptySnapshot 100) "BTCUSDT" _
    (by decide +kernel)

end SomethingTrade
