import SomethingTrade.OrderbookLedger

/-!
# Recovery after a Gap

A delta that opens a gap at its final id `u` takes the book out of use until it is
synchronised again: a snapshot newer than `u` has to be accepted first, and then a delta
that bridges. The boundary `u` is remembered until a newer snapshot is accepted, through
rejected snapshots, skipped deltas, cleanups and further requests to stop.

The acceptance of a newer snapshot discharges the boundary. From then on a snapshot with
any id may be accepted, also one at or below `u`, and the bridging delta is one of the
snapshot accepted last: `OrderbookState.older_snapshot_after_fresh_one` is such a run.

## Main results

* `RecoveryInv.step`: what every call keeps after a gap.
* `OrderbookState.recovers_after_gap`: nothing at or below `u` is accepted first, and the
  book is ready again only after a delta bridged the snapshot accepted last.
-/

namespace SomethingTrade

open OrderbookState

/-! ### Reading histories -/

/-- The ids of the accepted snapshots of a run, in order. -/
def acceptedSnapshotIds (events : List BookEvent) : List ℤ :=
  events.filterMap fun e => (acceptedSnapshot e).map SnapshotArgs.lastUpdateId

/-- Some delta of the run bridged the snapshot accepted last before it. -/
def Bridged (events : List BookEvent) : Prop :=
  ∃ pre e post a id, events = pre ++ e :: post ∧ acceptedDelta e = some a ∧
    (acceptedSnapshotIds pre).getLast? = some id ∧ bridges a id

theorem acceptedSnapshotIds_concat_of_none {events : List BookEvent} {e : BookEvent}
    (h : acceptedSnapshot e = none) :
    acceptedSnapshotIds (events ++ [e]) = acceptedSnapshotIds events := by
  simp [acceptedSnapshotIds, h]

theorem acceptedSnapshotIds_concat_of_some (events : List BookEvent) {e : BookEvent}
    {a : SnapshotArgs} (h : acceptedSnapshot e = some a) :
    acceptedSnapshotIds (events ++ [e]) = acceptedSnapshotIds events ++ [a.lastUpdateId] := by
  simp [acceptedSnapshotIds, h]

/-- A bridge stays in the history. -/
theorem Bridged.concat {events : List BookEvent} (h : Bridged events) (e : BookEvent) :
    Bridged (events ++ [e]) := by
  obtain ⟨pre, e', post, a, id, rfl, ha, hid, hb⟩ := h
  exact ⟨pre, e', post ++ [e], a, id, by simp, ha, hid, hb⟩

/-! ### The invariant -/

/-- The history after a gap at `u`. Before any snapshot is accepted the book is out of
use with boundary `u`. The first accepted snapshot is newer than `u`; after it the
bridge is awaited, or there was one. -/
structure RecoveryInv (u : ℤ) (events : List BookEvent) (s : OrderbookState) : Prop where
  firstNewer : ∀ id ∈ (acceptedSnapshotIds events).head?, u < id
  blocked : acceptedSnapshotIds events = [] →
    s.snapshotReady = false ∧ s.requiredFreshSnapshotAfterUpdateId = some u
  bridging : s.snapshotReady = true → s.awaitingFirstDeltaAfterSnapshot = true →
    s.snapshotLastUpdateId = (acceptedSnapshotIds events).getLast?
  synchronised : s.snapshotReady = true → s.awaitingFirstDeltaAfterSnapshot = false →
    Bridged events
  emitting : s.readyToEmit = true → Bridged events

/-- A rejected gap starts the invariant. -/
theorem RecoveryInv.start (s : OrderbookState) (reason : String) (recv : Option ℤ)
    (u clock : ℤ) : RecoveryInv u [] (s.markNotReady reason recv true (some u) clock) where
  firstNewer := by simp [acceptedSnapshotIds]
  blocked _ := ⟨rfl, rfl⟩
  bridging h := nomatch h
  synchronised h := nomatch h
  emitting h := nomatch h

/-- Events that accept no snapshot and keep phase and readiness keep the invariant. -/
theorem RecoveryInv.keep {u : ℤ} {events : List BookEvent} {s t : OrderbookState}
    (h : RecoveryInv u events s) {e : BookEvent} (he : acceptedSnapshot e = none)
    (hst : SamePhase s t) (hready : t.readyToEmit = true → Bridged (events ++ [e])) :
    RecoveryInv u (events ++ [e]) t where
  firstNewer := by
    rw [acceptedSnapshotIds_concat_of_none he]
    exact h.firstNewer
  blocked hnil := by
    rw [acceptedSnapshotIds_concat_of_none he] at hnil
    rw [hst.snapshotReady, hst.boundary]
    exact h.blocked hnil
  bridging hr hw := by
    rw [hst.snapshotReady] at hr
    rw [hst.awaiting] at hw
    rw [acceptedSnapshotIds_concat_of_none he, hst.snapshotLastUpdateId]
    exact h.bridging hr hw
  synchronised hr hw := by
    rw [hst.snapshotReady] at hr
    rw [hst.awaiting] at hw
    exact (h.synchronised hr hw).concat e
  emitting := hready

/-- Calls that take the book out of use and keep the boundary keep the invariant. -/
theorem RecoveryInv.unready {u : ℤ} {events : List BookEvent} {s t : OrderbookState}
    (h : RecoveryInv u events s) {e : BookEvent} (he : acceptedSnapshot e = none)
    (hready : t.snapshotReady = false) (hemit : t.readyToEmit = false)
    (hbound : s.requiredFreshSnapshotAfterUpdateId = some u → s.snapshotReady = false →
      t.requiredFreshSnapshotAfterUpdateId = some u) :
    RecoveryInv u (events ++ [e]) t where
  firstNewer := by
    rw [acceptedSnapshotIds_concat_of_none he]
    exact h.firstNewer
  blocked hnil := by
    rw [acceptedSnapshotIds_concat_of_none he] at hnil
    exact ⟨hready, hbound (h.blocked hnil).2 (h.blocked hnil).1⟩
  bridging hr := by simp [hready] at hr
  synchronised hr := by simp [hready] at hr
  emitting hr := by simp [hemit] at hr

theorem ensurePriceIndexes_readyToEmit (s : OrderbookState) :
    s.ensurePriceIndexes.readyToEmit = s.readyToEmit := by
  unfold ensurePriceIndexes
  split <;> rfl

/-- Recomputed readiness holds only of a synchronised book. -/
theorem refreshReadyToEmit_ready {s : OrderbookState} {now : ℤ}
    (h : (s.refreshReadyToEmit now).readyToEmit = true) :
    s.snapshotReady = true ∧ s.sequenceContinuous = true ∧
      s.awaitingFirstDeltaAfterSnapshot = false ∧ s.validate = [] := by
  have hsame := ensurePriceIndexes_same s
  unfold refreshReadyToEmit at h
  simp only at h
  split at h
  · rename_i hc
    rw [hsame.snapshotReady, hsame.sequenceContinuous, hsame.awaiting] at hc
    exact ⟨hc.1, hc.2.1, by simpa using hc.2.2.1, hc.2.2.2⟩
  · cases h

theorem RecoveryInv.refresh {u : ℤ} {events : List BookEvent} {s : OrderbookState}
    (h : RecoveryInv u events s) {e : BookEvent} (he : acceptedSnapshot e = none) (now : ℤ) :
    RecoveryInv u (events ++ [e]) (s.refreshReadyToEmit now) :=
  h.keep he (refreshReadyToEmit_same s now).toSamePhase fun hready => by
    obtain ⟨hr, -, hw, -⟩ := refreshReadyToEmit_ready hready
    exact (h.synchronised hr hw).concat e

theorem RecoveryInv.applySnapshot {u : ℤ} {events : List BookEvent} {s : OrderbookState}
    (h : RecoveryInv u events s) (a : SnapshotArgs) :
    RecoveryInv u (events ++ [(.applySnapshot a, .applied (s.applySnapshot a).2)])
      (s.applySnapshot a).1 := by
  cases applySnapshot_outcome s a with
  | stale accepted status state =>
      rw [state]
      exact h.keep (by simp [acceptedSnapshot, accepted]) (recordMessageRecv_samePhase s _)
        fun hr => (h.emitting hr).concat _
  | invalid accepted status state =>
      rw [state]
      exact h.unready (by simp [acceptedSnapshot, accepted]) rfl rfl fun hb _ => hb
  | loaded accepted status fresh state =>
      have hids := acceptedSnapshotIds_concat_of_some events
        (e := (.applySnapshot a, .applied (s.applySnapshot a).2)) (a := a)
        (by simp [acceptedSnapshot, accepted])
      rw [state]
      constructor
      · rw [hids]
        cases hold : acceptedSnapshotIds events with
        | nil =>
            -- the boundary still stands, so the accepted snapshot is newer
            have hbound := (h.blocked hold).2
            simpa [beforeGapBoundary, hbound] using fresh
        | cons id ids =>
            have hfirst := h.firstNewer
            rw [hold] at hfirst
            simpa using hfirst
      · intro hnil
        simp [hids] at hnil
      · intro _ _
        rw [hids]
        simp only [List.getLast?_concat]
        rfl
      · intro _ hw
        cases hw
      · intro hr
        cases hr

theorem RecoveryInv.applyDelta {u : ℤ} {events : List BookEvent} {s : OrderbookState}
    (h : RecoveryInv u events s) (a : DeltaArgs) :
    RecoveryInv u (events ++ [(.applyDelta a, .applied (s.applyDelta a).2)])
      (s.applyDelta a).1 := by
  cases applyDelta_outcome s a with
  | skipped accepted status state =>
      rw [state]
      exact h.keep rfl
        ((recordMessageRecv_samePhase s _).trans (recordReadyFalseAge_samePhase _ _))
        fun hr => (h.emitting hr).concat _
  | failed reason last accepted status ready atLast newer state =>
      rw [state]
      exact h.unready rfl rfl rfl fun _ hr => absurd ready (by simp [hr])
  | applied last accepted status ready atLast newer inSequence state =>
      have hbridged : Bridged (events ++ [(.applyDelta a, .applied (s.applyDelta a).2)]) := by
        cases hw : s.awaitingFirstDeltaAfterSnapshot with
        | false => exact (h.synchronised ready hw).concat _
        | true =>
            obtain ⟨id, hid, hb⟩ := (sequenceFailure_eq_none inSequence).1 hw
            rw [h.bridging ready hw] at hid
            exact ⟨events, _, [], a, id, rfl, by simp [acceptedDelta, accepted], hid, hb⟩
      have hc := commitDelta_committed (s.recordMessageRecv a.localRecvMonotonicNs) a
        (parseLevels true a.bids).1 (parseLevels true a.asks).1
      rw [state]
      constructor
      · rw [acceptedSnapshotIds_concat_of_none rfl]
        exact h.firstNewer
      · intro hnil
        rw [acceptedSnapshotIds_concat_of_none rfl] at hnil
        exact absurd ready (by simp [(h.blocked hnil).1])
      · intro _ hw
        simp [hc.awaiting] at hw
      · exact fun _ _ => hbridged
      · exact fun _ => hbridged

/-! ### Runs after a gap -/

/-- A call that names no gap boundary of its own. -/
def noExplicitBoundary : BookCall → Bool
  | .markNotReady _ _ _ boundary _ => boundary.isNone
  | _ => true

/-- **Every call without an explicit boundary keeps the invariant.** -/
theorem RecoveryInv.step {u : ℤ} {events : List BookEvent} {s : OrderbookState}
    (h : RecoveryInv u events s) (c : BookCall) (hc : noExplicitBoundary c = true) :
    RecoveryInv u (events ++ [(c, orderbookMachine.out s c)]) (orderbookMachine.next s c) := by
  rw [orderbookMachine_next]
  cases c with
  | applySnapshot a => exact h.applySnapshot a
  | applyDelta a => exact h.applyDelta a
  | markNotReady reason recv advance boundary clock =>
      obtain rfl : boundary = none := Option.isNone_iff_eq_none.mp hc
      exact h.unready rfl rfl rfl fun hb _ => hb
  | markReady recv clock => exact h.refresh rfl _
  | cleanup => exact h.unready rfl rfl rfl fun hb _ => hb
  | recordMessageRecv | bookAgeMs =>
      exact h.keep rfl (by constructor <;> rfl) fun hr => (h.emitting hr).concat _
  | bestBid | bestAsk | topN | copySnapshot | validate =>
      refine h.keep rfl (ensurePriceIndexes_same s).toSamePhase fun hr => ?_
      exact (h.emitting (ensurePriceIndexes_readyToEmit s ▸ hr)).concat _

/-- **Recovery after a gap.** When a delta with final id `u` opens a gap, then in every
continuation whose requests to stop name no boundary, the first accepted snapshot is
newer than `u`, and the book is ready to emit only after, following it, a delta was
accepted that bridges the snapshot accepted last before that delta. -/
theorem OrderbookState.recovers_after_gap (symbol : String) (warningAfterSec : ℚ) (now : ℤ)
    (calls : List BookCall) (a : DeltaArgs) (more : List BookCall)
    (hgap : ((orderbookMachine.exec (init symbol warningAfterSec now) calls).applyDelta
      a).2.status.opensGap = true)
    (hmore : ∀ c ∈ more, noExplicitBoundary c = true) :
    let s := orderbookMachine.exec (init symbol warningAfterSec now) (calls ++ [.applyDelta a])
    (∀ id ∈ (acceptedSnapshotIds (orderbookMachine.trace s more)).head?,
      a.finalUpdateId < id) ∧
    ((orderbookMachine.exec s more).readyToEmit = true →
      Bridged (orderbookMachine.trace s more)) := by
  intro s
  have hs : s = ((orderbookMachine.exec (init symbol warningAfterSec now) calls).applyDelta
      a).1 := by
    simp only [s, Machine.exec_append]
    rfl
  have hstart : RecoveryInv a.finalUpdateId [] s := by
    rw [hs]
    cases applyDelta_outcome (orderbookMachine.exec (init symbol warningAfterSec now) calls) a
      with
    | skipped accepted status state =>
        rcases status with h | h <;> simp [h, ApplyStatus.opensGap] at hgap
    | failed reason last accepted status ready atLast newer state =>
        rw [state]
        exact .start ..
    | applied last accepted status => simp [status, ApplyStatus.opensGap] at hgap
  have hinv := orderbookMachine.trace_invariant_while (C := fun _ c => noExplicitBoundary c = true)
    (I := RecoveryInv a.finalUpdateId) (t := []) (fun _ _ c h hc => h.step c hc) hstart
    (orderbookMachine.stepsMeet_of_forall s hmore)
  exact ⟨hinv.firstNewer, hinv.emitting⟩

/-- A snapshot with one level on each side. -/
def snapshotAt (id : ℤ) : BookCall :=
  .applySnapshot ⟨[.seq ["100", "1"]], [.seq ["101", "1"]], id, 5, none, none, 5, "t"⟩

/-- A delta without levels. -/
def emptyDelta (first final : ℤ) : DeltaArgs := ⟨first, final, [], [], 6, none, 6⟩

theorem OrderbookState.recovers_after_gap_fresh :
    let s := orderbookMachine.exec (init "btcusdt" 300 0)
      ([snapshotAt 100] ++ [.applyDelta (emptyDelta 105 110)])
    let more := [snapshotAt 110, snapshotAt 120, .applyDelta (emptyDelta 119 121)]
    (∀ id ∈ (acceptedSnapshotIds (orderbookMachine.trace s more)).head?,
      (emptyDelta 105 110).finalUpdateId < id) ∧
    ((orderbookMachine.exec s more).readyToEmit = true →
      Bridged (orderbookMachine.trace s more)) :=
  OrderbookState.recovers_after_gap "btcusdt" 300 0 [snapshotAt 100] (emptyDelta 105 110)
    [snapshotAt 110, snapshotAt 120, .applyDelta (emptyDelta 119 121)]
    (by decide +kernel) (by decide +kernel)

/-- After a gap at 110 and a fresh snapshot at 120, a snapshot at 50 is accepted and
bridged: the book is ready although no delta bridged a snapshot newer than 110. -/
theorem OrderbookState.older_snapshot_after_fresh_one :
    let s := orderbookMachine.exec (init "btcusdt" 300 0) [snapshotAt 100]
    let t := (s.applyDelta (emptyDelta 105 110)).1
    let more := [snapshotAt 120, snapshotAt 50, .applyDelta (emptyDelta 51 55)]
    let events := orderbookMachine.trace t more
    (s.applyDelta (emptyDelta 105 110)).2.status = .sequenceBridgeFailed ∧
    acceptedSnapshotIds events = [120, 50] ∧
    (orderbookMachine.exec t more).readyToEmit = true ∧
    ∀ snapshot ∈ events.filterMap acceptedSnapshot, ∀ a ∈ events.filterMap acceptedDelta,
      ¬ (110 < snapshot.lastUpdateId ∧ bridges a snapshot.lastUpdateId) := by
  decide +kernel

end SomethingTrade
