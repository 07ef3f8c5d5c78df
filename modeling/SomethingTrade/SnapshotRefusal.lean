import SomethingTrade.QueuePurge

/-!
# Refused Snapshots

The snapshot-loading step loads a snapshot and purges the queue by the id of the snapshot,
whether it was accepted or not. A refused snapshot covers nothing, so the updates the purge
drops are lost: those of ids up to the snapshot's, and those before which none bridges it.

## Main results

* `purged_keeps_iff`: which updates a purge keeps.
* `refused_snapshot_keeps_iff`: when a refused snapshot costs no update past the gap boundary.
-/

namespace SomethingTrade

open OrderbookPhase41Processor

/-! ### Lists and their parts -/

section

variable {α : Type*}

/-- Each element of a list has a property of it and of those before it. -/
def EachAfter (P : List α → α → Prop) (l : List α) : Prop :=
  ∀ before a rest, l = before ++ a :: rest → P before a

theorem eachAfter_nil (P : List α → α → Prop) : EachAfter P [] := by
  intro before a rest h
  simp at h

theorem eachAfter_concat {P : List α → α → Prop} {l : List α} {a : α} :
    EachAfter P (l ++ [a]) ↔ EachAfter P l ∧ P l a := by
  constructor
  · intro h
    exact ⟨fun before b rest hl => h before b (rest ++ [a]) (by simp [hl]), h l a [] rfl⟩
  · rintro ⟨h, ha⟩ before b rest hl
    rcases List.eq_nil_or_concat' rest with rfl | ⟨rest, c, rfl⟩
    · obtain ⟨rfl, hb⟩ := List.append_inj' hl rfl
      obtain rfl := List.singleton_inj.mp hb
      exact ha
    · have hsplit : l ++ [a] = (before ++ b :: rest) ++ [c] := by simpa using hl
      obtain ⟨rfl, -⟩ := List.append_inj' hsplit rfl
      exact h before b rest rfl

/-- A part of a list has all its elements of a kind exactly when it has as many. -/
theorem filter_sublist_iff_countP {l l' : List α} (h : l'.Sublist l) (p : α → Bool) :
    (l.filter p).Sublist l' ↔ l'.countP p = l.countP p := by
  constructor
  · intro hsub
    have hle : l.countP p ≤ l'.countP p := by
      have hcount := hsub.countP_le (p := p)
      rwa [List.countP_filter, List.countP_congr (q := p) (by simp)] at hcount
    exact le_antisymm h.countP_le hle
  · intro hcount
    have heq : l'.filter p = l.filter p := by
      refine (h.filter p).eq_of_length ?_
      rw [← List.countP_eq_length_filter, ← List.countP_eq_length_filter, hcount]
    rw [← heq]
    exact List.filter_sublist

end

/-! ### What a purge costs -/

/-- A purge keeps the envelope after those before it: it carries no update of the symbol, or
a newer one that does not come before the one that bridges the snapshot. -/
def KeptAfter (symbol : String) (S : ℤ) (before : List QueueEnvelope)
    (envelope : QueueEnvelope) : Prop :=
  ∀ update ∈ envelope.updateOf symbol,
    S < update.finalUpdateId ∧ HasBridge symbol S (before ++ [envelope])

section

variable {symbol : String} {S : ℤ}

/-- A purge keeps an envelope or drops it. -/
theorem visit_preserved {done : List QueueEnvelope} {acc : PurgeProgress}
    (h : Purged symbol S done acc) (envelope : QueueEnvelope) :
    KeptAfter symbol S done envelope ∧
        (acc.visit symbol S envelope).preserved = acc.preserved ++ [envelope] ∨
      ¬ KeptAfter symbol S done envelope ∧
        (acc.visit symbol S envelope).preserved = acc.preserved := by
  cases visit_visited symbol S acc envelope with
  | foreign carries result =>
      rw [result]
      refine Or.inl ⟨fun update hupdate => ?_, rfl⟩
      rw [carries] at hupdate
      cases hupdate
  | old update carries covered result =>
      rw [result]
      refine Or.inr ⟨fun hkept => ?_, rfl⟩
      have hnewer := (hkept update carries).1
      omega
  | bridge update carries first bridges result =>
      rw [result]
      refine Or.inl ⟨fun update' hupdate => ?_, rfl⟩
      obtain rfl := Option.some.inj (carries.symm.trans hupdate)
      have hcovers := bridges.2
      exact ⟨by omega, hasBridge_concat.mpr (Or.inr ⟨update, carries, bridges⟩)⟩
  | future update carries newer first unbridged result =>
      rw [result]
      refine Or.inr ⟨fun hkept => ?_, rfl⟩
      rcases hasBridge_concat.mp (hkept update carries).2 with hbridge | ⟨update', hupdate, hbridges⟩
      · have hbridged := h.bridged.mpr hbridge
        rw [first] at hbridged
        cases hbridged
      · obtain rfl := Option.some.inj (carries.symm.trans hupdate)
        exact unbridged hbridges
  | newer update carries newer bridged result =>
      rw [result]
      refine Or.inl ⟨fun update' hupdate => ?_, rfl⟩
      obtain rfl := Option.some.inj (carries.symm.trans hupdate)
      exact ⟨newer, hasBridge_concat.mpr (Or.inl (h.bridged.mp bridged))⟩

/-- **Which envelopes a purge keeps**: all of a kind exactly when it keeps each after those
before it. -/
theorem purged_keeps_iff (kind : QueueEnvelope → Bool) (envelopes : List QueueEnvelope) :
    (envelopes.filter kind).Sublist
        (envelopes.foldl (PurgeProgress.visit symbol S) ⟨[], 0, 0, none⟩).preserved ↔
      EachAfter (fun before e => kind e = true → KeptAfter symbol S before e) envelopes := by
  rw [filter_sublist_iff_countP (purged_foldl symbol S envelopes).sublist]
  induction envelopes using List.reverseRecOn with
  | nil => simp [eachAfter_nil]
  | append_singleton done envelope ih =>
      have hpurged := purged_foldl symbol S done
      rw [List.foldl_concat, eachAfter_concat, ← ih]
      have hle := hpurged.sublist.countP_le (p := kind)
      rcases visit_preserved hpurged envelope with ⟨hkept, hpreserved⟩ | ⟨hdropped, hpreserved⟩
      · rw [hpreserved, List.countP_append, List.countP_append]
        constructor
        · intro hcount
          exact ⟨by omega, fun _ => hkept⟩
        · rintro ⟨hcount, -⟩
          omega
      · rw [hpreserved, List.countP_append]
        cases hkind : kind envelope with
        | false => simp [hkind]
        | true =>
            have hone : List.countP kind [envelope] = 1 := by simp [hkind]
            constructor
            · intro hcount
              omega
            · rintro ⟨-, hkept⟩
              exact absurd (hkept rfl) hdropped

end

/-! ### Putting back -/

/-- A queue with room for the envelopes takes them all. -/
theorem requeue_eq (p : OrderbookPhase41Processor) (q : EnvelopeQueue)
    (preserved : List QueueEnvelope)
    (hroom : 0 < q.maxsize → (q.items.length + preserved.length : ℤ) ≤ q.maxsize) :
    (p.requeue q preserved).1 = p ∧
      (p.requeue q preserved).2.1.items = q.items ++ preserved ∧
      (p.requeue q preserved).2.2 = 0 := by
  induction preserved generalizing q with
  | nil => exact ⟨rfl, (List.append_nil _).symm, rfl⟩
  | cons envelope preserved ih =>
      have hfree : ¬ (0 < q.maxsize ∧ q.maxsize ≤ q.items.length) := by
        rintro ⟨hpos, hfull⟩
        have hlen := hroom hpos
        rw [List.length_cons] at hlen
        omega
      rw [requeue, EnvelopeQueue.putNowait, dif_neg hfree]
      refine (ih _ fun hpos => ?_).imp id (And.imp_left fun hitems => ?_)
      · have hlen := hroom hpos
        simp only [List.length_append, List.length_cons, List.length_nil] at hlen ⊢
        omega
      · rw [hitems, List.append_assoc, List.singleton_append]

/-! ### The step -/

/-- The snapshot-loading step: load a snapshot, then purge the queue. -/
def OrderbookPhase41Processor.loadAndPurge (p : OrderbookPhase41Processor) (q : EnvelopeQueue)
    (a : SnapshotLoad) (purgeNow : ℤ) :
    OrderbookPhase41Processor × EnvelopeQueue × PostSnapshotQueuePurgeResult :=
  (p.loadSnapshot a).1.purgeQueueAfterSnapshot q a.symbol a.lastUpdateId purgeNow

/-- The gap boundary of a symbol. -/
def OrderbookPhase41Processor.boundary (p : OrderbookPhase41Processor) (symbol : String) :
    Option ℤ :=
  (p.states.get? (upper symbol)).bind OrderbookState.requiredFreshSnapshotAfterUpdateId

/-- The envelope carries a depth update past the gap boundary. -/
def pastBoundary (boundary : Option ℤ) (envelope : QueueEnvelope) : Bool :=
  match envelope.payload, boundary with
  | .depthUpdate update, some u => decide (u < update.finalUpdateId)
  | .depthUpdate _, none => true
  | .other _, _ => false

/-- The queue still contains, in order, every update past the gap boundary. -/
def KeepsUpdates (boundary : Option ℤ) (q q' : EnvelopeQueue) : Prop :=
  (q.items.filter (pastBoundary boundary)).Sublist q'.items

/-- The boundary a state or its absence gives. -/
theorem boundary_stateFor (p : OrderbookPhase41Processor) (symbol : String) (now : ℤ) :
    (p.stateFor symbol now).requiredFreshSnapshotAfterUpdateId = p.boundary symbol := by
  rw [stateFor, OrderbookPhase41Processor.boundary]
  cases p.states.get? (upper symbol) <;> rfl

theorem boundary_of_states {p p' : OrderbookPhase41Processor} {symbol : String}
    {s : OrderbookState} (h : p'.states = p.states.set (upper symbol) s) :
    p'.boundary symbol = s.requiredFreshSnapshotAfterUpdateId := by
  rw [OrderbookPhase41Processor.boundary, h, Dict.get?_set_self]
  rfl

/-- A refused snapshot keeps the gap boundary. -/
theorem boundary_of_refused {s : OrderbookState} {a : SnapshotArgs}
    (h : (s.applySnapshot a).2.accepted = false) :
    (s.applySnapshot a).1.requiredFreshSnapshotAfterUpdateId =
      s.requiredFreshSnapshotAfterUpdateId := by
  cases applySnapshot_outcome s a with
  | stale accepted status state =>
      rw [state]
      rfl
  | invalid accepted status state =>
      rw [state]
      rfl
  | loaded accepted status fresh state =>
      rw [h] at accepted
      cases accepted

theorem boundary_loadSnapshot {p : OrderbookPhase41Processor} {a : SnapshotLoad}
    {result : OrderbookApplyResult} (hload : (p.loadSnapshot a).2 = .applied result none)
    (hrefused : result.accepted = false) :
    (p.loadSnapshot a).1.boundary a.symbol = p.boundary a.symbol := by
  have hresult : ((p.stateFor a.symbol a.monotonicNow).applySnapshot (snapshotArgs a)).2 = result :=
    (ProcessorReply.applied.inj hload).1
  rw [← hresult] at hrefused
  have hstates : (p.loadSnapshot a).1.states = p.states.set (upper a.symbol)
      ((p.stateFor a.symbol a.monotonicNow).applySnapshot (snapshotArgs a)).1 := by
    simp only [loadSnapshot]
    split
    · rename_i haccepted
      rw [hrefused] at haccepted
      cases haccepted
    · rfl
  rw [boundary_of_states hstates, boundary_of_refused hrefused, boundary_stateFor]

/-- A purge puts back what it keeps, and keeps the gap boundary. -/
theorem purgeQueueAfterSnapshot_spec (p : OrderbookPhase41Processor) (q : EnvelopeQueue)
    (symbol : String) (S now : ℤ) :
    (p.purgeQueueAfterSnapshot q symbol S now).2.1.items =
        (purgeQueuedDepthUpdatesAfterSnapshot q.items S symbol).preserved ∧
      (p.purgeQueueAfterSnapshot q symbol S now).1.boundary symbol = p.boundary symbol := by
  have hlen : (purgeQueuedDepthUpdatesAfterSnapshot q.items S symbol).preserved.length ≤
      q.items.length := (purged_foldl _ _ q.items).sublist.length_le
  obtain ⟨hp, hitems, -⟩ := requeue_eq p q.drain.2
    (purgeQueuedDepthUpdatesAfterSnapshot q.drain.1 S symbol).preserved fun hpos => by
      have hfits := q.fits hpos
      simp only [EnvelopeQueue.drain, List.length_nil]
      omega
  simp only [purgeQueueAfterSnapshot, hp]
  have hset : (p.setState symbol (p.stateFor symbol now)).boundary symbol = p.boundary symbol :=
    (boundary_of_states rfl).trans (boundary_stateFor p symbol now)
  split
  · refine ⟨hitems, Eq.trans (boundary_of_states rfl) ?_⟩
    exact (boundary_stateFor _ symbol now).trans hset
  · exact ⟨hitems, hset⟩

/-- **What a refused snapshot costs.** It keeps the gap boundary; and the queue keeps every
update past it exactly when each such update of the symbol is newer than the snapshot and does
not come before the one that bridges it. -/
theorem refused_snapshot_keeps_iff (p : OrderbookPhase41Processor) (q : EnvelopeQueue)
    (a : SnapshotLoad) (purgeNow : ℤ) (result : OrderbookApplyResult)
    (hload : (p.loadSnapshot a).2 = .applied result none) (hrefused : result.accepted = false) :
    (p.loadAndPurge q a purgeNow).1.boundary a.symbol = p.boundary a.symbol ∧
    (KeepsUpdates (p.boundary a.symbol) q (p.loadAndPurge q a purgeNow).2.1 ↔
      EachAfter (fun before envelope => pastBoundary (p.boundary a.symbol) envelope = true →
        KeptAfter (upper a.symbol) a.lastUpdateId before envelope) q.items) := by
  obtain ⟨hitems, hboundary⟩ := purgeQueueAfterSnapshot_spec (p.loadSnapshot a).1 q a.symbol
    a.lastUpdateId purgeNow
  constructor
  · exact hboundary.trans (boundary_loadSnapshot hload hrefused)
  · rw [KeepsUpdates, loadAndPurge, hitems]
    exact purged_keeps_iff _ _

/-! ### A snapshot from before a gap -/

/-- Settings for one symbol. -/
def oneSymbol : Phase41Settings := ⟨["BTCUSDT"], 2, 3000, none, 50, 500, 0⟩

/-- A load of a snapshot without levels. -/
def loadAt (id : ℤ) : SnapshotLoad := ⟨"BTCUSDT", [], [], id, some 1000, none, none, 1500, 0⟩

/-- A processor that has seen a snapshot at 90 and then an update from 95 to 100, which opens
a gap. -/
def gapProcessor : OrderbookPhase41Processor :=
  phase41Machine.exec (.init oneSymbol) [.loadSnapshot (loadAt 90),
    .processDepthUpdate (emptyUpdate 95 100) none ⟨2000, 2001, 2001, 2002, 0⟩]

example : gapProcessor.boundary "BTCUSDT" = some 100 := by decide +kernel

/-- The next update waits in the queue. -/
def nextUpdateQueue : EnvelopeQueue := ⟨[queued (emptyUpdate 101 105)], 4096, fun _ => by decide⟩

/-- The theorem applied to a snapshot from before the gap. -/
theorem refused_snapshot_keeps_beforeGap :
    (gapProcessor.loadAndPurge nextUpdateQueue (loadAt 95) 3000).1.boundary "BTCUSDT" =
      gapProcessor.boundary "BTCUSDT" ∧
    (KeepsUpdates (gapProcessor.boundary "BTCUSDT") nextUpdateQueue
        (gapProcessor.loadAndPurge nextUpdateQueue (loadAt 95) 3000).2.1 ↔
      EachAfter (fun before envelope =>
        pastBoundary (gapProcessor.boundary "BTCUSDT") envelope = true →
          KeptAfter (upper "BTCUSDT") 95 before envelope) nextUpdateQueue.items) :=
  refused_snapshot_keeps_iff gapProcessor nextUpdateQueue (loadAt 95) 3000 _ rfl
    (by decide +kernel)

/-- A refused snapshot from before the gap costs the next update. -/
theorem refused_snapshot_empties_queue :
    ¬ ∀ (p : OrderbookPhase41Processor) (q : EnvelopeQueue) (a : SnapshotLoad) (purgeNow : ℤ)
      (result : OrderbookApplyResult), (p.loadSnapshot a).2 = .applied result none →
      result.accepted = false →
      KeepsUpdates (p.boundary a.symbol) q (p.loadAndPurge q a purgeNow).2.1 := by
  intro h
  have hkeeps := h gapProcessor nextUpdateQueue (loadAt 95) 3000 _ rfl (by decide +kernel)
  have hwaits : (nextUpdateQueue.items.filter
      (pastBoundary (gapProcessor.boundary (loadAt 95).symbol))).length = 1 := by decide +kernel
  have hempty : (gapProcessor.loadAndPurge nextUpdateQueue (loadAt 95) 3000).2.1.items.length =
      0 := by decide +kernel
  have hle := hkeeps.length_le
  rw [hwaits, hempty] at hle
  omega

end SomethingTrade
