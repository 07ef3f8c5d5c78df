import SomethingTrade.ExchangeBook
import SomethingTrade.OrderbookCapture

/-!
# Runs of a Capture

What holds of a capture whatever the order of its acts: however the reader and the consumer take
turns, however long the queue and the snapshot requests are, and whatever fails. The line of
updates through the queue is kept in order, each update that entered it is processed, held or
purged, and those that found it full are counted; and when what the exchange sends is true, every
sample that is written shows its book.

## Main results

* `CaptureInv.next`: what every act keeps.
* `captureMachine_conserves_updates`: the updates of a run.
* `captureMachine_shows_exchange_book`: the samples of a run.
-/

namespace SomethingTrade

open OrderbookPhase41Processor

/-! ### Purges -/

/-- **What a purge does.** It puts everything it keeps back, and stops the book when the bridge is
missing. -/
theorem purgeQueueAfterSnapshot_eq (p : OrderbookPhase41Processor) (q : EnvelopeQueue)
    (symbol : String) (S now : ℤ) :
    let output := purgeQueuedDepthUpdatesAfterSnapshot q.items S symbol
    let read := p.setState symbol (p.stateFor symbol now)
    let out := p.purgeQueueAfterSnapshot q symbol S now
    out.1 = (if output.result.bridgeMissingAfterSnapshot then read.bridgeMissing symbol now
      else read) ∧
    out.2.1.items = output.preserved ∧ out.2.2 = output.result := by
  dsimp only
  have hlen : (purgeQueuedDepthUpdatesAfterSnapshot q.items S symbol).preserved.length ≤
      q.items.length := (purged_foldl _ _ q.items).sublist.length_le
  obtain ⟨hp, hitems, hdropped⟩ := requeue_eq p q.drain.2
    (purgeQueuedDepthUpdatesAfterSnapshot q.drain.1 S symbol).preserved fun hpos => by
      have hfits := q.fits hpos
      simp only [EnvelopeQueue.drain, List.length_nil]
      omega
  simp only [EnvelopeQueue.drain] at hp hitems hdropped
  simp only [purgeQueueAfterSnapshot, EnvelopeQueue.drain, hp, hdropped, Nat.sub_zero]
  by_cases hmissing : (purgeQueuedDepthUpdatesAfterSnapshot q.items S
      symbol).result.bridgeMissingAfterSnapshot = true
  · rw [if_pos hmissing, if_pos hmissing]
    exact ⟨rfl, hitems, rfl⟩
  · rw [if_neg hmissing, if_neg hmissing]
    exact ⟨rfl, hitems, rfl⟩

/-- A put that does not fail appends. -/
theorem items_of_putNowait {q q' : EnvelopeQueue} {envelope : QueueEnvelope}
    (h : q.putNowait envelope = some q') : q'.items = q.items ++ [envelope] := by
  rw [EnvelopeQueue.putNowait] at h
  split at h
  · cases h
  · obtain rfl := Option.some.inj h
    rfl

/-- A get takes the front item. -/
theorem items_of_getNowait {q q' : EnvelopeQueue} {envelope : QueueEnvelope}
    (h : q.getNowait = some (envelope, q')) : q.items = envelope :: q'.items := by
  rw [EnvelopeQueue.getNowait] at h
  split at h
  · cases h
  · rename_i hitems
    obtain ⟨rfl, rfl⟩ := Prod.mk.inj (Option.some.inj h)
    exact hitems

/-! ### The invariant -/

/-- What the stream or the exchange answers in an act is true. -/
def Exchange.TellsAct (X : Exchange) (a : CaptureArgs) : CaptureAct → Prop
  | .read (.depthUpdate update) _ _ => ∀ r, X.TellsCall (.processDepthUpdate update none r)
  | .answer (some snapshot) r => X.TellsCall (.loadSnapshot (Capture.snapshotLoad a snapshot r))
  | _ => True

/-- An item of the queue is a true depth update. -/
def Exchange.TellsEnvelope (X : Exchange) (envelope : QueueEnvelope) : Prop :=
  ∃ update, envelope.payload = .depthUpdate update ∧
    ∀ r, X.TellsCall (.processDepthUpdate update none r)

/-- **The invariant of a capture.** Its processor came from true inputs, and its queue holds true
depth updates. -/
structure CaptureInv (X : Exchange) (c : Phase41Settings) (s : Capture) : Prop where
  tracks : Tracks X c s.processor
  queue : ∀ envelope ∈ s.queue.items, X.TellsEnvelope envelope

namespace CaptureInv

variable {X : Exchange} {c : Phase41Settings} {a : CaptureArgs} {s t : Capture}

/-- A step that touches counters only. -/
theorem quiet (h : CaptureInv X c s) (hkeeps : Keeps BookInv s.processor t.processor)
    (hquiet : TouchesOnly [] s.processor t.processor) (hqueue : t.queue = s.queue) :
    CaptureInv X c t :=
  ⟨h.tracks.quiet hkeeps hquiet, hqueue ▸ h.queue⟩

theorem setMonitor (h : CaptureInv X c s) (m : QueueBackpressureMonitor) :
    CaptureInv X c (s.setMonitor m) :=
  h.quiet (.of_states rfl rfl rfl) (.of_maps rfl rfl rfl rfl rfl rfl) rfl

/-- The lifecycle counters of a capture are not among those that account for updates. -/
theorem updateLifecycle (h : CaptureInv X c s) {f : WSLifecycleTracker → WSLifecycleTracker}
    (hf : tally { s.processor with lifecycle := f s.processor.lifecycle } = tally s.processor) :
    CaptureInv X c (s.updateLifecycle f) :=
  h.quiet (.of_states hf rfl rfl) (.of_maps rfl rfl rfl rfl rfl rfl) rfl

theorem of_processor (h : CaptureInv X c s) (ht : Tracks X c t.processor)
    (hqueue : t.queue = s.queue) : CaptureInv X c t := ⟨ht, hqueue ▸ h.queue⟩

theorem finish (h : CaptureInv X c s) (raised : Bool) : CaptureInv X c (s.finish raised) := by
  have hended := h.updateLifecycle (f := WSLifecycleTracker.onDisconnect) rfl
  exact hended.of_processor (hended.tracks.next (.setCaptureActive false) trivial) rfl

theorem loopHead (h : CaptureInv X c s) (time : ℚ) : CaptureInv X c (s.loopHead time) := by
  rw [Capture.loopHead]
  split
  · split
    · exact h.of_processor h.tracks rfl
    · exact h.finish false
  · exact h.finish false

theorem afterLoad (h : CaptureInv X c s) (deadlineSet deadlineCheck : ℚ) :
    CaptureInv X c (s.afterLoad a deadlineSet deadlineCheck) := by
  rw [Capture.afterLoad]
  split
  · exact h.loopHead deadlineCheck
  · have hset : CaptureInv X c { s with deadline := some (deadlineSet + a.durationSec) } :=
      h.of_processor h.tracks rfl
    exact hset.loopHead deadlineCheck

theorem requestSnapshot (h : CaptureInv X c s) (attempt : ℕ) (requestStartNs : ℤ) :
    CaptureInv X c (s.requestSnapshot a attempt requestStartNs) := by
  have hcounted := h.updateLifecycle (f := WSLifecycleTracker.onSnapshotRefresh) rfl
  have hmarked := hcounted.tracks.next (.markSnapshotRecoveryActive (upper a.symbol) true) trivial
  exact hcounted.of_processor (hmarked.readState (upper a.symbol) requestStartNs) rfl

/-! ### Acts -/

theorem enqueue (h : CaptureInv X c s) {payload : QueuePayload} {update : DepthUpdate}
    (hpayload : payload = .depthUpdate update)
    (htells : ∀ r, X.TellsCall (.processDepthUpdate update none r)) (putNs putEndNs : ℤ) :
    CaptureInv X c (s.enqueue payload putNs putEndNs).1 := by
  have hnoted := h.setMonitor
    (s.monitor.recordEnqueue payload putNs (s.queue.items.length + 1)).1
  rw [Capture.enqueue]
  dsimp only
  split
  · rename_i queue hput
    have hstored : CaptureInv X c
        { s.setMonitor (s.monitor.recordEnqueue payload putNs (s.queue.items.length + 1)).1 with
          queue := queue } := by
      refine ⟨hnoted.tracks, fun envelope hmem => ?_⟩
      rw [items_of_putNowait hput] at hmem
      rcases List.mem_append.mp hmem with hmem | hmem
      · exact h.queue envelope hmem
      · obtain rfl := List.mem_singleton.mp hmem
        exact ⟨update, hpayload, htells⟩
    exact hstored.setMonitor _
  · exact (hnoted.setMonitor _).updateLifecycle rfl

theorem read (h : CaptureInv X c s) (payload : QueuePayload) (putNs putEndNs : ℤ)
    (htells : X.TellsAct a (.read payload putNs putEndNs)) :
    CaptureInv X c (s.read payload putNs putEndNs).1 := by
  rw [Capture.read.eq_def]
  split
  · exact h
  · split
    · exact h
    · exact h.enqueue rfl htells putNs putEndNs

theorem applySnapshot (h : CaptureInv X c s) (requestStartNs : ℤ) {snapshot : DepthSnapshot}
    {r : SnapshotReadings}
    (htells : X.TellsCall (.loadSnapshot (Capture.snapshotLoad a snapshot r))) :
    CaptureInv X c (s.applySnapshot a requestStartNs snapshot r).1 := by
  rw [Capture.applySnapshot]
  have hrequested := h.setMonitor
    (s.monitor.recordSnapshotRequestDuration ((r.response - requestStartNs : ℚ) / 1000000))
  generalize s.setMonitor
    (s.monitor.recordSnapshotRequestDuration ((r.response - requestStartNs : ℚ) / 1000000)) =
    requested at hrequested ⊢
  have hloaded : CaptureInv X c (requested.setProcessor
      (requested.processor.loadSnapshot (Capture.snapshotLoad a snapshot r)).1) :=
    hrequested.of_processor (hrequested.tracks.next (.loadSnapshot _) htells) rfl
  exact hloaded.setMonitor _

theorem purgeQueue (h : CaptureInv X c s) (snapshotLastUpdateId purgeNs : ℤ) :
    CaptureInv X c (s.purgeQueue a snapshotLastUpdateId purgeNs).1 := by
  obtain ⟨hprocessor, hitems, -⟩ := purgeQueueAfterSnapshot_eq s.processor s.queue
    (upper a.symbol) snapshotLastUpdateId purgeNs
  have hpurged : Tracks X c (s.processor.purgeQueueAfterSnapshot s.queue (upper a.symbol)
      snapshotLastUpdateId purgeNs).1 := by
    have hread := h.tracks.readState (upper a.symbol) purgeNs
    rw [hprocessor]
    split
    · exact hread.next (.bridgeMissing (upper a.symbol) purgeNs) trivial
    · exact hread
  refine ⟨hpurged.next (.markSnapshotRecoveryActive (upper a.symbol) false) trivial,
    fun envelope hmem => h.queue envelope ?_⟩
  rw [Capture.purgeQueue] at hmem
  dsimp only at hmem
  rw [hitems] at hmem
  exact (purged_foldl _ _ s.queue.items).sublist.subset hmem

theorem answer (h : CaptureInv X c s) {snapshot : Option DepthSnapshot} {r : SnapshotReadings}
    (htells : X.TellsAct a (.answer snapshot r)) : CaptureInv X c (s.answer a snapshot r).1 := by
  rw [Capture.answer]
  split
  · rename_i attempt requestStartNs _
    cases snapshot with
    | none => exact h.finish true
    | some snapshot =>
        have hloaded : CaptureInv X c (s.loadSnapshot a requestStartNs snapshot r).1 :=
          (h.applySnapshot requestStartNs htells).purgeQueue snapshot.lastUpdateId r.purge
        dsimp only
        split
        · exact hloaded.of_processor hloaded.tracks rfl
        · exact hloaded.afterLoad _ _
  · exact h

theorem wake (h : CaptureInv X c s) (requestStartNs : ℤ) (deadlineSet deadlineCheck : ℚ) :
    CaptureInv X c (s.wake a requestStartNs deadlineSet deadlineCheck).1 := by
  rw [Capture.wake]
  split
  · split
    · exact h.requestSnapshot _ _
    · exact h.afterLoad _ _
  · exact h

theorem lookAtBuffer (h : CaptureInv X c s) (time : ℚ) (requestStartNs : ℤ) :
    CaptureInv X c (s.lookAtBuffer a time requestStartNs).1 := by
  rw [Capture.lookAtBuffer]
  split
  · split
    · exact h
    · exact h.requestSnapshot _ _
  · exact h

theorem timeout (h : CaptureInv X c s) (now clock : ℤ) (deadlineCheck : ℚ) :
    CaptureInv X c (s.timeout now clock deadlineCheck).1 := by
  rw [Capture.timeout]
  split
  · have hchecked := h.tracks.next
      (.checkStalePeriods (some now) [] none s.queue.items.length clock) trivial
    have hstored : CaptureInv X c (s.setProcessor
        (s.processor.checkStalePeriods (some now) [] none s.queue.items.length clock).1) :=
      h.of_processor hchecked rfl
    exact hstored.loopHead deadlineCheck
  · exact h

theorem process (h : CaptureInv X c s) (envelope : QueueEnvelope) {update : DepthUpdate}
    (r : DequeueReadings) (htells : ∀ r, X.TellsCall (.processDepthUpdate update none r)) :
    CaptureInv X c (s.process a envelope update r).1 := by
  rw [Capture.process]
  dsimp only
  generalize s.monitor.recordDequeue s.processor.validator.queueLagSevereMs envelope r.dequeue
    s.queue.items.length = noted
  obtain ⟨m, lagMs⟩ := noted
  have hnoted := h.setMonitor m
  generalize s.setMonitor m = s₁ at hnoted ⊢
  have hprocessed : CaptureInv X c (s₁.setProcessor
      (s₁.processor.processDepthUpdate update (some lagMs) r.depth).1) :=
    hnoted.of_processor
      (hnoted.tracks.next (.processDepthUpdate update (some lagMs) r.depth) (htells r.depth)) rfl
  generalize s₁.setProcessor
    (s₁.processor.processDepthUpdate update (some lagMs) r.depth).1 = s₂ at hprocessed ⊢
  split
  · have hcounted := (hprocessed.setMonitor
      (s₂.monitor.recordProcessingDone r.dequeue r.done)).updateLifecycle
        (f := fun t => t.onQueueBackpressure ((s₂.setMonitor
          (s₂.monitor.recordProcessingDone r.dequeue
            r.done)).processor.queueMonitor.queueBackpressureEvents -
          s.processor.queueMonitor.queueBackpressureEvents)) rfl
    split
    · exact hcounted.requestSnapshot 0 r.requestStart
    · exact hcounted.loopHead r.deadlineCheck
  · exact hprocessed.finish true

theorem dequeue (h : CaptureInv X c s) (r : DequeueReadings) :
    CaptureInv X c (s.dequeue a r).1 := by
  rw [Capture.dequeue.eq_def]
  split
  · split
    · exact h
    · rename_i envelope queue hget
      have hitems := items_of_getNowait hget
      have htaken : CaptureInv X c { s with queue := queue } :=
        ⟨h.tracks, fun e he => h.queue e (hitems ▸ List.mem_cons_of_mem envelope he)⟩
      obtain ⟨update, hpayload, htells⟩ := h.queue envelope (hitems ▸ List.mem_cons_self)
      rw [hpayload]
      exact htaken.process envelope r htells
  · exact h

/-- **Every act keeps the invariant**, when what it brings is true. -/
theorem next (h : CaptureInv X c s) (act : CaptureAct) (htells : X.TellsAct a act) :
    CaptureInv X c ((captureMachine a).next s act) := by
  cases act with
  | read payload putNs putEndNs => exact h.read payload putNs putEndNs htells
  | lookAtBuffer time requestStartNs => exact h.lookAtBuffer time requestStartNs
  | answer snapshot r => exact h.answer htells
  | wake requestStartNs deadlineSet deadlineCheck =>
      exact h.wake requestStartNs deadlineSet deadlineCheck
  | dequeue r => exact h.dequeue r
  | timeout now clock deadlineCheck => exact h.timeout now clock deadlineCheck

theorem start (X : Exchange) (a : CaptureArgs) (now : ℤ) (time : ℚ) :
    CaptureInv X (a.settings now) (a.start now time) where
  tracks := (Tracks.init X (a.settings now)).quiet (.of_states rfl rfl rfl)
    (.of_maps rfl rfl rfl rfl rfl rfl)
  queue _ hmem := absurd hmem List.not_mem_nil

end CaptureInv

/-! ### Samples -/

/-- The reply of processing an update is the processor's. -/
theorem process_reply {X : Exchange} {c : Phase41Settings} {a : CaptureArgs} {s : Capture}
    (h : CaptureInv X c s) (envelope : QueueEnvelope) (update : DepthUpdate)
    (r : DequeueReadings) :
    ∃ q lag, Tracks X c q ∧ (s.process a envelope update r).2 =
      .processed envelope (q.processDepthUpdate update (some lag) r.depth).2 := by
  rw [Capture.process]
  dsimp only
  generalize s.monitor.recordDequeue s.processor.validator.queueLagSevereMs envelope r.dequeue
    s.queue.items.length = noted
  obtain ⟨m, lagMs⟩ := noted
  refine ⟨(s.setMonitor m).processor, lagMs, (h.setMonitor m).tracks, ?_⟩
  split
  · split <;> rfl
  · rfl

/-- An act that processes an item takes a true depth update from the queue. -/
theorem processed_act {X : Exchange} {c : Phase41Settings} {a : CaptureArgs} {s : Capture}
    (h : CaptureInv X c s) {act : CaptureAct} {envelope : QueueEnvelope} {reply : ProcessorReply}
    (hout : (captureMachine a).out s act = .processed envelope reply) :
    ∃ update q lag r, envelope.payload = .depthUpdate update ∧ Tracks X c q ∧
      (∀ r, X.TellsCall (.processDepthUpdate update none r)) ∧
      reply = (q.processDepthUpdate update (some lag) r).2 := by
  cases act with
  | dequeue r =>
      change (s.dequeue a r).2 = _ at hout
      rw [Capture.dequeue.eq_def] at hout
      split at hout
      · split at hout
        · cases hout
        · rename_i taken queue hget
          have hitems := items_of_getNowait hget
          have htaken : CaptureInv X c { s with queue := queue } :=
            ⟨h.tracks, fun e he => h.queue e (hitems ▸ List.mem_cons_of_mem taken he)⟩
          obtain ⟨update, hpayload, htells⟩ := h.queue taken (hitems ▸ List.mem_cons_self)
          rw [hpayload] at hout
          obtain ⟨q, lag, hq, hreply⟩ := process_reply (a := a) htaken taken update r
          obtain ⟨rfl, rfl⟩ := CaptureReply.processed.inj (hreply.symm.trans hout)
          exact ⟨update, q, lag, r.depth, hpayload, hq, htells, rfl⟩
      · cases hout
  | read payload putNs putEndNs =>
      change (s.read payload putNs putEndNs).2 = _ at hout
      rw [Capture.read.eq_def] at hout
      split at hout
      · cases hout
      · split at hout
        · cases hout
        · simp only [Capture.enqueue] at hout
          split at hout <;> cases hout
  | lookAtBuffer time requestStartNs =>
      change (s.lookAtBuffer a time requestStartNs).2 = _ at hout
      rw [Capture.lookAtBuffer] at hout
      split at hout
      · split at hout <;> cases hout
      · cases hout
  | answer snapshot r =>
      change (s.answer a snapshot r).2 = _ at hout
      rw [Capture.answer] at hout
      split at hout
      · split at hout
        · cases hout
        · dsimp only at hout
          split at hout <;> cases hout
      · cases hout
  | wake requestStartNs deadlineSet deadlineCheck =>
      change (s.wake a requestStartNs deadlineSet deadlineCheck).2 = _ at hout
      rw [Capture.wake] at hout
      split at hout
      · split at hout <;> cases hout
      · cases hout
  | timeout now clock deadlineCheck =>
      change (s.timeout now clock deadlineCheck).2 = _ at hout
      rw [Capture.timeout] at hout
      split at hout <;> cases hout

/-- The sample that comes of an act, if there is one, shows the top of the exchange's book at the
final id of the update it was written for. -/
def CaptureReply.Shows (X : Exchange) (n : ℕ) : CaptureReply → Prop
  | .processed envelope reply => ∀ sample, reply.emitted? = some sample →
      ∃ update, envelope.payload = .depthUpdate update ∧
        (X.book (upper update.symbol)).Shown (X.watched (upper update.symbol)) n
          update.finalUpdateId sample
  | _ => True

theorem CaptureInv.shows {X : Exchange} {c : Phase41Settings} {a : CaptureArgs} {s : Capture}
    (h : CaptureInv X c s) (hdepth : 1 ≤ c.depthN) (act : CaptureAct) :
    ((captureMachine a).out s act).Shows X c.depthN.toNat := by
  cases hout : (captureMachine a).out s act with
  | processed envelope reply =>
      intro sample hsample
      obtain ⟨update, q, lag, r, hpayload, hq, htells, rfl⟩ := processed_act h hout
      have hcall : X.TellsCall (.processDepthUpdate update (some lag) r) := htells r
      exact ⟨update, hpayload, hq.shown_of_emitted hdepth hcall hsample⟩
  | _ => trivial

/-- **The samples of a capture show the exchange's book.** When the depth updates of the stream
and the snapshots are true of the watched prices, every sample that a capture writes shows the
top of the exchange's book at the final id of the update it was written for: for every order of
the acts of the reader and the consumer, whatever the queue drops, however long a request takes,
and however often the book is lost and loaded again. -/
theorem captureMachine_shows_exchange_book (a : CaptureArgs) (hdepth : 1 ≤ a.depthN)
    (X : Exchange) (now : ℤ) (time : ℚ) (acts : List CaptureAct)
    (htells : ∀ act ∈ acts, X.TellsAct a act) :
    ∀ e ∈ (captureMachine a).trace (a.start now time) acts, e.2.Shows X a.depthN.toNat := by
  have hstart := CaptureInv.start X a now time
  have hacts := (captureMachine a).stepsMeet_of_forall (P := X.TellsAct a) (a.start now time) htells
  exact (captureMachine a).forall_trace (Q := fun _ reply => reply.Shows X a.depthN.toNat)
    (fun _ act h hact => h.next act hact) (fun _ act h _ => h.shows hdepth act) hstart hacts

/-- A capture in which an update bridges the first snapshot: the book of `bridgedExchange`. -/
def bridgedCapture : List CaptureAct :=
  [.read (.depthUpdate
    { symbol := "btcusdt", firstUpdateId := 11, finalUpdateId := 12,
      previousFinalUpdateId := none, bids := [("100.5", "3.0")], asks := [],
      tsNs := 2000, exchangeEventTs := none, localReceivedTs := none, parseDoneTs := none,
      stateUpdatedTs := none, recvMonotonicNs := some 2000, parseDoneMonotonicNs := none,
      stateUpdatedMonotonicNs := none, latencyMs := none, sequence := none }) 1000 1001,
   .lookAtBuffer 1 1500,
   .answer (some ⟨10, [.seq ["100", "1"], .seq ["99.5", "2"]], [.seq ["101", "1.5"]]⟩)
    { response := 1600, applyStart := 1700, utcNowNs := 0, applyEnd := 1800, purge := 1900,
      deadlineSet := 1, deadlineCheck := 1 },
   .dequeue
    { dequeue := 2050, depth :=
        { received := 2100, copied := 2200, copiedAgain := 2200, validated := 2300,
          utcNowNs := 0 },
      done := 2400, requestStart := 2500, deadlineCheck := 2 }]

/-- Ten seconds of that symbol, two levels deep. -/
def tenSeconds : CaptureArgs := ⟨"BTCUSDT", 10, 2⟩

/-- The sample that comes of an act. -/
def CaptureReply.emitted? : CaptureReply → Option Json
  | .processed _ reply => reply.emitted?
  | _ => .none

/-- The samples that a capture writes. -/
def writtenSamples (a : CaptureArgs) (acts : List CaptureAct) : List Json :=
  ((captureMachine a).trace (a.start 0 0) acts).filterMap fun e => e.2.emitted?

theorem captureMachine_shows_exchange_book_bridgedCapture :
    (writtenSamples tenSeconds bridgedCapture).length = 1 ∧
      ∀ e ∈ (captureMachine tenSeconds).trace (tenSeconds.start 0 0) bridgedCapture,
        e.2.Shows bridgedExchange 2 := by
  refine ⟨by decide +kernel,
    captureMachine_shows_exchange_book tenSeconds (by decide) bridgedExchange 0 0 _ ?_⟩
  simp only [bridgedCapture, List.forall_mem_cons, List.not_mem_nil, false_imp_iff,
    implies_true, and_true]
  exact ⟨fun r => bridgedBook_tells_delta rfl rfl rfl rfl, trivial,
    bridgedBook_tells_snapshot rfl rfl rfl, trivial⟩

/-! ### The line of updates -/

namespace CaptureReply

/-- The update that entered the queue. -/
def entered : CaptureReply → List QueueEnvelope
  | .enqueued envelope => [envelope]
  | _ => []

/-- The update that was processed. -/
def delivered : CaptureReply → List QueueEnvelope
  | .processed envelope _ => [envelope]
  | _ => []

/-- How many updates were purged from the queue. -/
def removed : CaptureReply → ℕ
  | .purged _ purge => purge.oldEventsDropped + purge.futureEventsDropped
  | _ => 0

/-- How many updates found the queue full. -/
def droppedCount : CaptureReply → ℕ
  | .dropped _ => 1
  | _ => 0

end CaptureReply

/-- What a capture counts: the updates that found the queue full, and those processed. -/
def Capture.counts (s : Capture) : ℕ × ℕ :=
  (s.load.queueDroppedMessages, s.processor.counters.messagesReceived)

/-- A step that touches neither the queue nor what is counted of it. -/
structure Plain (s t : Capture) : Prop where
  queue : t.queue = s.queue
  counts : t.counts = s.counts

namespace Plain

variable {s t u : Capture}

theorem trans (h : Plain s t) (h' : Plain t u) : Plain s u :=
  ⟨h'.queue.trans h.queue, h'.counts.trans h.counts⟩

/-- Storing measurements other than the number of drops. -/
theorem setMonitor (s : Capture) {m : QueueBackpressureMonitor}
    (hm : m.load.queueDroppedMessages = s.load.queueDroppedMessages) : Plain s (s.setMonitor m) :=
  ⟨rfl, congrArg (·, s.processor.counters.messagesReceived) hm⟩

theorem finish (h : Plain s t) (raised : Bool) : Plain s (t.finish raised) :=
  h.trans ⟨rfl, rfl⟩

theorem loopHead (h : Plain s t) (time : ℚ) : Plain s (t.loopHead time) := by
  rw [Capture.loopHead]
  split
  · split
    · exact h.trans ⟨rfl, rfl⟩
    · exact h.finish false
  · exact h.finish false

theorem afterLoad (h : Plain s t) (a : CaptureArgs) (deadlineSet deadlineCheck : ℚ) :
    Plain s (t.afterLoad a deadlineSet deadlineCheck) := by
  rw [Capture.afterLoad]
  split
  · exact h.loopHead deadlineCheck
  · have hset : Plain s { t with deadline := some (deadlineSet + a.durationSec) } :=
      h.trans ⟨rfl, rfl⟩
    exact hset.loopHead deadlineCheck

theorem requestSnapshot (h : Plain s t) (a : CaptureArgs) (attempt : ℕ) (requestStartNs : ℤ) :
    Plain s (t.requestSnapshot a attempt requestStartNs) := h.trans ⟨rfl, rfl⟩

end Plain

/-- What an act does to the line of updates and to the counts, by its reply. -/
structure Flows (s t : Capture) (reply : CaptureReply) : Prop where
  line : ∀ entered delivered removed, Conveyor.Step
    ⟨entered, delivered, s.queue.items, removed⟩
    ⟨entered ++ reply.entered, delivered ++ reply.delivered, t.queue.items,
      removed + reply.removed⟩
  dropped : t.counts.1 = s.counts.1 + reply.droppedCount
  processed : t.counts.2 = s.counts.2 + reply.delivered.length

/-- A plain step whose reply is about no update. -/
theorem Plain.flows {s t : Capture} (h : Plain s t) {reply : CaptureReply}
    (hentered : reply.entered = []) (hdelivered : reply.delivered = [])
    (hremoved : reply.removed = 0) (hdropped : reply.droppedCount = 0) : Flows s t reply where
  line entered delivered removed := by
    rw [hentered, hdelivered, hremoved, h.queue, List.append_nil, List.append_nil]
    exact .rest _
  dropped := by rw [hdropped, h.counts, Nat.add_zero]
  processed := by rw [hdelivered, h.counts, List.length_nil, Nat.add_zero]

theorem Plain.flows_none {s t : Capture} (h : Plain s t) : Flows s t .none :=
  h.flows rfl rfl rfl rfl

/-- A step before which nothing flows. -/
theorem Plain.then_flows {s t u : Capture} {reply : CaptureReply} (h : Plain s t)
    (h' : Flows t u reply) : Flows s u reply where
  line entered delivered removed := h.queue ▸ h'.line entered delivered removed
  dropped := h.counts ▸ h'.dropped
  processed := h.counts ▸ h'.processed

/-- A step after which nothing flows. -/
theorem Flows.trans_plain {s t u : Capture} {reply : CaptureReply} (h : Flows s t reply)
    (h' : Plain t u) : Flows s u reply where
  line entered delivered removed := h'.queue ▸ h.line entered delivered removed
  dropped := h'.counts ▸ h.dropped
  processed := h'.counts ▸ h.processed

section

variable {X : Exchange} {c : Phase41Settings} {a : CaptureArgs} {s : Capture}

theorem flows_enqueue (s : Capture) (payload : QueuePayload) (putNs putEndNs : ℤ) :
    Flows s (s.enqueue payload putNs putEndNs).1 (s.enqueue payload putNs putEndNs).2 := by
  rw [Capture.enqueue]
  dsimp only
  split
  · rename_i queue hput
    refine ⟨fun entered delivered removed => ?_, rfl, rfl⟩
    change Conveyor.Step _ ⟨_, delivered ++ [], queue.items, removed⟩
    rw [items_of_putNowait hput, List.append_nil]
    exact .enter ⟨entered, delivered, s.queue.items, removed⟩ _
  · refine ⟨fun entered delivered removed => ?_, rfl, rfl⟩
    change Conveyor.Step _ ⟨entered ++ [], delivered ++ [], s.queue.items, removed⟩
    rw [List.append_nil, List.append_nil]
    exact .rest _

theorem flows_read (s : Capture) (payload : QueuePayload) (putNs putEndNs : ℤ) :
    Flows s (s.read payload putNs putEndNs).1 (s.read payload putNs putEndNs).2 := by
  rw [Capture.read.eq_def]
  split
  · exact Plain.flows_none ⟨rfl, rfl⟩
  · split
    · exact Plain.flows_none ⟨rfl, rfl⟩
    · exact flows_enqueue s _ putNs putEndNs

/-- Calls of the processor other than depth updates receive none. -/
theorem messagesReceived_next {p : OrderbookPhase41Processor} (hp : Tracks X c p)
    (call : ProcessorCall) (hcall : call.isDepthUpdate = false) :
    (phase41Machine.next p call).counters.messagesReceived = p.counters.messagesReceived :=
  congrArg Tally.messagesReceived
    (keeps_next bookInv_stateInv hp.reached.books (keptBy_bookInv call) hcall).tally

/-- A depth update is received once. -/
theorem messagesReceived_processDepthUpdate {p : OrderbookPhase41Processor} (hp : Tracks X c p)
    (event : DepthUpdate) (lag : Option ℚ) (r : DepthReadings) :
    (p.processDepthUpdate event lag r).1.counters.messagesReceived =
      p.counters.messagesReceived + 1 := by
  have hs := bookInv_appliedState hp.reached.books event r
  have hreceive : tally (p.receive event r) = tally p.countReceived :=
    (keeps_receive bookInv_stateInv hp.reached.books event r fun s hs =>
      hs.congr rfl rfl rfl rfl).tally
  have hreceived : (p.receive event r).counters.messagesReceived =
      p.counters.messagesReceived + 1 := congrArg Tally.messagesReceived hreceive
  cases haccepted : (appliedState p event r).2.accepted with
  | true =>
      rw [processDepthUpdate_of_accepted lag hs haccepted]
      have hemit (q : OrderbookPhase41Processor) (snapshot : OrderbookSnapshot)
          (quality : OrderbookQualityResult) (ts : Option ℤ) :
          (q.maybeEmitOrBlockSample snapshot quality ts).1.counters.messagesReceived =
            q.counters.messagesReceived := by
        rcases (maybeEmitOrBlockSample_counts q snapshot quality ts).1 with h | h
        · exact congrArg Tally.messagesReceived h
        · exact congrArg Tally.messagesReceived h
      have hfinish (q : OrderbookPhase41Processor) (symbol : String) (t : OrderbookState) :
          (q.finishUpdate symbol t).counters.messagesReceived = q.counters.messagesReceived :=
        congrArg Tally.messagesReceived (keeps_finishUpdate (P := BookInv) q symbol t).tally
      dsimp only
      rw [hfinish, hemit]
      exact hreceived
  | false =>
      have hcount : (rejectedUpdate p event r).counters.messagesReceived =
          p.counters.messagesReceived + 1 := by
        rw [rejectedUpdate, ← hreceived]
        cases (appliedState p event r).2.status <;> rfl
      rcases (processDepthUpdate_of_rejected lag hs haccepted).2 with hq | hq
      · rw [hq]
        exact (congrArg Tally.messagesReceived
          (keeps_finishUpdate (P := BookInv) _ _ _).tally).trans hcount
      · rw [hq]
        exact (congrArg Tally.messagesReceived
          (keeps_finishUpdate (P := BookInv) _ _ _).tally).trans hcount

theorem plain_applySnapshot (h : CaptureInv X c s) (requestStartNs : ℤ)
    (snapshot : DepthSnapshot) (r : SnapshotReadings) :
    Plain s (s.applySnapshot a requestStartNs snapshot r).1 := by
  rw [Capture.applySnapshot]
  have hrequested := h.setMonitor
    (s.monitor.recordSnapshotRequestDuration ((r.response - requestStartNs : ℚ) / 1000000))
  have hplain : Plain s (s.setMonitor
    (s.monitor.recordSnapshotRequestDuration ((r.response - requestStartNs : ℚ) / 1000000))) :=
    .setMonitor s rfl
  generalize s.setMonitor
    (s.monitor.recordSnapshotRequestDuration ((r.response - requestStartNs : ℚ) / 1000000)) =
    requested at hrequested hplain ⊢
  have hloaded : (requested.processor.loadSnapshot
      (Capture.snapshotLoad a snapshot r)).1.counters.messagesReceived =
        requested.processor.counters.messagesReceived :=
    messagesReceived_next hrequested.tracks (.loadSnapshot (Capture.snapshotLoad a snapshot r)) rfl
  generalize requested.processor.loadSnapshot (Capture.snapshotLoad a snapshot r) = out
    at hloaded ⊢
  obtain ⟨p, loaded⟩ := out
  exact hplain.trans ⟨rfl, Prod.ext rfl hloaded⟩

/-- A purge takes out what it counts. -/
theorem flows_purgeQueue (s : Capture) (snapshotLastUpdateId purgeNs : ℤ)
    (loaded : ProcessorReply) :
    Flows s (s.purgeQueue a snapshotLastUpdateId purgeNs).1
      (.purged loaded (s.purgeQueue a snapshotLastUpdateId purgeNs).2) := by
  obtain ⟨hprocessor, hitems, hresult⟩ := purgeQueueAfterSnapshot_eq s.processor s.queue
    (upper a.symbol) snapshotLastUpdateId purgeNs
  have hpurged := purged_foldl (upper (upper a.symbol)) snapshotLastUpdateId s.queue.items
  have hqueue : (s.purgeQueue a snapshotLastUpdateId purgeNs).1.queue.items =
      (purgeQueuedDepthUpdatesAfterSnapshot s.queue.items snapshotLastUpdateId
        (upper a.symbol)).preserved := hitems
  have hpurge : (s.purgeQueue a snapshotLastUpdateId purgeNs).2 =
      (purgeQueuedDepthUpdatesAfterSnapshot s.queue.items snapshotLastUpdateId
        (upper a.symbol)).result := hresult
  refine ⟨fun entered delivered removed => ?_, ?_, ?_⟩
  · rw [hqueue, hpurge]
    simp only [CaptureReply.entered, CaptureReply.delivered, List.append_nil]
    refine .remove ⟨entered, delivered, s.queue.items, removed⟩ _ _ hpurged.sublist ?_
    have hcounted := hpurged.counted
    simp only [CaptureReply.removed, purgeQueuedDepthUpdatesAfterSnapshot]
    omega
  · rw [Capture.counts, Capture.counts, Capture.purgeQueue]
    dsimp only
    rw [hitems, Nat.sub_self]
    rfl
  · rw [Capture.counts, Capture.counts, Capture.purgeQueue]
    dsimp only
    rw [hprocessor]
    split <;> rfl

/-- Processing an item receives it. -/
theorem process_counts (h : CaptureInv X c s) (envelope : QueueEnvelope) (update : DepthUpdate)
    (r : DequeueReadings) :
    ∃ reply, (s.process a envelope update r).2 = .processed envelope reply ∧
      (s.process a envelope update r).1.queue = s.queue ∧
      (s.process a envelope update r).1.counts = (s.counts.1, s.counts.2 + 1) := by
  rw [Capture.process]
  dsimp only
  have hdropped : (s.monitor.recordDequeue s.processor.validator.queueLagSevereMs envelope
      r.dequeue s.queue.items.length).1.load.queueDroppedMessages =
        s.load.queueDroppedMessages := rfl
  generalize s.monitor.recordDequeue s.processor.validator.queueLagSevereMs envelope r.dequeue
    s.queue.items.length = noted at hdropped ⊢
  obtain ⟨m, lagMs⟩ := noted
  have hnoted := h.setMonitor m
  have hplain : Plain s (s.setMonitor m) := .setMonitor s hdropped
  generalize s.setMonitor m = noted at hnoted hplain ⊢
  have hreceived := messagesReceived_processDepthUpdate hnoted.tracks update (some lagMs) r.depth
  generalize noted.processor.processDepthUpdate update (some lagMs) r.depth = out at hreceived ⊢
  obtain ⟨p, reply⟩ := out
  have hprocessed : (noted.setProcessor p).queue = s.queue ∧
      (noted.setProcessor p).counts = (s.counts.1, s.counts.2 + 1) := by
    refine ⟨hplain.queue, ?_⟩
    rw [← hplain.counts]
    exact Prod.ext rfl hreceived
  have hafter {t : Capture} (ht : Plain (noted.setProcessor p) t) :
      t.queue = s.queue ∧ t.counts = (s.counts.1, s.counts.2 + 1) :=
    ⟨ht.queue.trans hprocessed.1, ht.counts.trans hprocessed.2⟩
  split
  · have hdone : Plain (noted.setProcessor p) ((noted.setProcessor p).setMonitor
        ((noted.setProcessor p).monitor.recordProcessingDone r.dequeue r.done)) :=
      .setMonitor _ rfl
    generalize (noted.setProcessor p).setMonitor
      ((noted.setProcessor p).monitor.recordProcessingDone r.dequeue r.done) = done at hdone ⊢
    have hcounted (f : WSLifecycleTracker → WSLifecycleTracker) :
        Plain (noted.setProcessor p) (done.updateLifecycle f) := hdone.trans ⟨rfl, rfl⟩
    split
    · exact ⟨_, rfl, hafter ((hcounted _).requestSnapshot a 0 r.requestStart)⟩
    · exact ⟨_, rfl, hafter ((hcounted _).loopHead r.deadlineCheck)⟩
  · exact ⟨_, rfl, hafter (Plain.finish ⟨rfl, rfl⟩ true)⟩

theorem flows_dequeue (h : CaptureInv X c s) (r : DequeueReadings) :
    Flows s (s.dequeue a r).1 (s.dequeue a r).2 := by
  rw [Capture.dequeue.eq_def]
  split
  · split
    · exact Plain.flows_none ⟨rfl, rfl⟩
    · rename_i envelope queue hget
      have hitems := items_of_getNowait hget
      have htaken : CaptureInv X c { s with queue := queue } :=
        ⟨h.tracks, fun e he => h.queue e (hitems ▸ List.mem_cons_of_mem envelope he)⟩
      obtain ⟨update, hpayload, -⟩ := h.queue envelope (hitems ▸ List.mem_cons_self)
      rw [hpayload]
      obtain ⟨reply, hreply, hqueue, hcounts⟩ :=
        process_counts (a := a) htaken envelope update r
      dsimp only
      rw [hreply]
      refine ⟨fun entered delivered removed => ?_, ?_, ?_⟩
      · rw [hqueue]
        change Conveyor.Step _ ⟨entered ++ [], delivered ++ [envelope], queue.items, removed⟩
        rw [List.append_nil]
        exact .deliver ⟨entered, delivered, s.queue.items, removed⟩ envelope queue.items hitems
      · rw [hcounts]
        rfl
      · rw [hcounts]
        rfl
  · exact Plain.flows_none ⟨rfl, rfl⟩

/-- **What an act does to the line.** -/
theorem flows_next (h : CaptureInv X c s) (act : CaptureAct) :
    Flows s ((captureMachine a).next s act) ((captureMachine a).out s act) := by
  cases act with
  | read payload putNs putEndNs => exact flows_read s payload putNs putEndNs
  | lookAtBuffer time requestStartNs =>
      change Flows s (s.lookAtBuffer a time requestStartNs).1
        (s.lookAtBuffer a time requestStartNs).2
      rw [Capture.lookAtBuffer]
      split
      · split <;> exact Plain.flows_none ⟨rfl, rfl⟩
      · exact Plain.flows_none ⟨rfl, rfl⟩
  | answer snapshot r =>
      change Flows s (s.answer a snapshot r).1 (s.answer a snapshot r).2
      rw [Capture.answer]
      split
      · rename_i attempt requestStartNs _
        cases snapshot with
        | none => exact Plain.flows_none ⟨rfl, rfl⟩
        | some snapshot =>
            have happlied := plain_applySnapshot (a := a) h requestStartNs snapshot r
            have hloaded : Flows s (s.loadSnapshot a requestStartNs snapshot r).1
                (.purged (s.loadSnapshot a requestStartNs snapshot r).2.1
                  (s.loadSnapshot a requestStartNs snapshot r).2.2) :=
              happlied.then_flows (flows_purgeQueue _ snapshot.lastUpdateId r.purge _)
            dsimp only
            split
            · exact hloaded.trans_plain ⟨rfl, rfl⟩
            · exact hloaded.trans_plain (Plain.afterLoad ⟨rfl, rfl⟩ a _ _)
      · exact Plain.flows_none ⟨rfl, rfl⟩
  | wake requestStartNs deadlineSet deadlineCheck =>
      change Flows s (s.wake a requestStartNs deadlineSet deadlineCheck).1
        (s.wake a requestStartNs deadlineSet deadlineCheck).2
      rw [Capture.wake]
      split
      · split
        · exact Plain.flows_none ⟨rfl, rfl⟩
        · exact (Plain.afterLoad ⟨rfl, rfl⟩ a _ _).flows_none
      · exact Plain.flows_none ⟨rfl, rfl⟩
  | dequeue r =>
      change Flows s (s.dequeue a r).1 (s.dequeue a r).2
      exact flows_dequeue h r
  | timeout now clock deadlineCheck =>
      change Flows s (s.timeout now clock deadlineCheck).1 (s.timeout now clock deadlineCheck).2
      rw [Capture.timeout]
      split
      · have hchecked : Plain s (s.setProcessor
            (s.processor.checkStalePeriods (some now) [] none s.queue.items.length clock).1) :=
          ⟨rfl, Prod.ext rfl (messagesReceived_next h.tracks (.checkStalePeriods (some now) [] none
            s.queue.items.length clock) rfl)⟩
        exact (hchecked.loopHead deadlineCheck).flows rfl rfl rfl rfl
      · exact Plain.flows_none ⟨rfl, rfl⟩

end

/-- The line of updates of a capture: what its replies put in and took out, and what its queue
holds. -/
def updateLine (replies : List CaptureReply) (queue : EnvelopeQueue) : Conveyor QueueEnvelope where
  entered := replies.flatMap CaptureReply.entered
  delivered := replies.flatMap CaptureReply.delivered
  held := queue.items
  removed := (replies.map CaptureReply.removed).sum

/-- A step of the capture is a step of its line. -/
theorem Flows.updateLine {s t : Capture} {reply : CaptureReply} (h : Flows s t reply)
    (replies : List CaptureReply) :
    Conveyor.Step (updateLine replies s.queue) (updateLine (replies ++ [reply]) t.queue) := by
  have hstep := h.line (replies.flatMap CaptureReply.entered)
    (replies.flatMap CaptureReply.delivered) (replies.map CaptureReply.removed).sum
  simpa only [SomethingTrade.updateLine, List.flatMap_append, List.flatMap_singleton,
    List.map_append, List.map_singleton, List.sum_append, List.sum_singleton] using hstep

/-- An exchange of which nothing is watched: everything is true of it. -/
def blindExchange : Exchange where
  book _ := ⟨fun _ _ => none, fun _ _ => none⟩
  watched _ := ⟨∅, ∅⟩

theorem blindExchange_tellsCall (call : ProcessorCall) : blindExchange.TellsCall call := by
  have hblind (history : History ℚ ℚ) (first last : ℤ) (assignments : List (ℚ × Option ℚ)) :
      Truthful history ∅ first last assignments :=
    ⟨fun _ _ hkey => absurd hkey (Set.notMem_empty _),
      fun _ hkey => absurd hkey (Set.notMem_empty _)⟩
  cases call with
  | loadSnapshot a => exact ⟨Set.eqOn_empty _ _, Set.eqOn_empty _ _⟩
  | processDepthUpdate event lag r => exact ⟨hblind _ _ _ _, hblind _ _ _ _⟩
  | _ => trivial

theorem blindExchange_tellsAct (a : CaptureArgs) (act : CaptureAct) :
    blindExchange.TellsAct a act := by
  cases act with
  | read payload putNs putEndNs =>
      cases payload with
      | depthUpdate update => exact fun r => blindExchange_tellsCall _
      | other => trivial
  | answer snapshot r =>
      cases snapshot with
      | none => trivial
      | some snapshot =>
          exact blindExchange_tellsCall (.loadSnapshot (Capture.snapshotLoad a snapshot r))
  | _ => trivial

/-- What holds of the updates of a capture after the replies of a run. -/
structure UpdatesConserved (replies : List CaptureReply) (s : Capture) : Prop where
  line : (updateLine replies s.queue).Intact
  dropped : s.load.queueDroppedMessages = (replies.map CaptureReply.droppedCount).sum
  processed : s.processor.counters.messagesReceived =
    (replies.flatMap CaptureReply.delivered).length

/-- **No update is lost, repeated or reordered.** For every order of the acts: the updates
processed and then those in the queue are, in the order of entry and without repetition, among
those that entered it; each that entered is processed, in the queue or counted by a purge; the
counter of drops counts those that found the queue full, and the processor has received exactly
those processed. -/
theorem captureMachine_conserves_updates (a : CaptureArgs) (now : ℤ) (time : ℚ)
    (acts : List CaptureAct) :
    UpdatesConserved (((captureMachine a).trace (a.start now time) acts).map Prod.snd)
      ((captureMachine a).exec (a.start now time) acts) := by
  have hrun := (captureMachine a).trace_invariant
    (I := fun t s => CaptureInv blindExchange (a.settings now) s ∧
      UpdatesConserved (t.map Prod.snd) s) ?_
    (s := a.start now time) ⟨.start _ a now time, Conveyor.intact_empty, rfl, rfl⟩ acts
  · exact hrun.2
  · rintro t s act ⟨hinv, hconserved⟩
    have hflows := flows_next (a := a) hinv act
    refine ⟨hinv.next act (blindExchange_tellsAct a act), ?_⟩
    rw [List.map_append, List.map_singleton]
    refine ⟨hconserved.line.step (hflows.updateLine _), ?_, ?_⟩
    · rw [List.map_append, List.sum_append, List.map_singleton, List.sum_singleton,
        ← hconserved.dropped]
      exact hflows.dropped
    · rw [List.flatMap_append, List.length_append, List.flatMap_singleton, ← hconserved.processed]
      exact hflows.processed

end SomethingTrade
