import SomethingTrade.CaptureRuns
import SomethingTrade.Phase41Report

/-!
# What a Passing Report Certifies

The verdict of a report reads counters; what a user of the dataset wants to know is about the
run. Each thing that can go wrong with the sequence of updates, a bridge or the feed counts a
fault that nothing takes back (`faults`), and a step without a fault leaves the books where they
were, moves one by an update, or loads one (`Calm`, `DepthOutcome`). So a report that shows no
fault is the report of a run in which nothing went wrong.

## Main results

* `depthOutcome`: what a depth update does.
* `captureMachine_passing_report_certifies`: the run of a passing report.
-/

namespace SomethingTrade

open OrderbookPhase41Processor

/-! ### Faults -/

/-- What a processor counts against the sequence of updates, the bridges and the feed. -/
def faults (p : OrderbookPhase41Processor) : ℕ :=
  (tally p).deltaBeforeSnapshot + (tally p).sequenceGaps + (tally p).previousIdMismatches +
    (tally p).invalidDeltas + p.counters.bridgeMissingAfterSnapshotCount +
    p.counters.feedReceiveStaleCount

/-- Where a ready book stands: its last update id, whether it waits for its first delta, and the
id of its snapshot. -/
structure Standing where
  lastUpdateId : Option ℤ
  awaiting : Bool
  snapshotLastUpdateId : Option ℤ

/-- Where a book stands, if it is ready. -/
def OrderbookState.standing (s : OrderbookState) : Option Standing :=
  if s.snapshotReady then
    some ⟨s.lastUpdateId, s.awaitingFirstDeltaAfterSnapshot, s.snapshotLastUpdateId⟩
  else none

theorem SamePhase.standing {s t : OrderbookState} (h : SamePhase s t) :
    t.standing = s.standing := by
  rw [OrderbookState.standing, OrderbookState.standing, h.snapshotReady, h.lastUpdateId,
    h.awaiting, h.snapshotLastUpdateId]

/-- Where the book of a symbol stands. -/
def standingAt (p : OrderbookPhase41Processor) (symbol : String) : Option Standing :=
  (p.states.get? symbol).bind OrderbookState.standing

/-- No feed is known to be stale. -/
def NoneStale (p : OrderbookPhase41Processor) : Prop :=
  ∀ symbol, p.openStalePeriods.get? symbol = none

/-- A step without a fault that leaves every book where it was. -/
structure Calm (p q : OrderbookPhase41Processor) : Prop where
  standing : standingAt q = standingAt p
  faults : faults q = faults p
  stale : NoneStale p → NoneStale q

namespace Calm

variable {p q r : OrderbookPhase41Processor}

theorem refl (p : OrderbookPhase41Processor) : Calm p p := ⟨rfl, rfl, id⟩

theorem trans (h : Calm p q) (h' : Calm q r) : Calm p r :=
  ⟨h'.standing.trans h.standing, h'.faults.trans h.faults, h'.stale ∘ h.stale⟩

/-- A step that touches none of these. -/
theorem of_parts (hstates : q.states = p.states) (hfaults : SomethingTrade.faults q =
    SomethingTrade.faults p) (hperiods : q.openStalePeriods = p.openStalePeriods) : Calm p q where
  standing := by
    funext symbol
    rw [standingAt, hstates, standingAt]
  faults := hfaults
  stale h symbol := by rw [hperiods]; exact h symbol

end Calm

theorem standingAt_setState (p : OrderbookPhase41Processor) (symbol key : String)
    (t : OrderbookState) :
    standingAt (p.setState symbol t) key =
      if upper symbol = key then t.standing else standingAt p key := by
  rw [standingAt, setState, Dict.get?_set]
  split
  · rfl
  · rfl

/-- The state that is read for a symbol stands where its book stands. -/
theorem standing_stateFor (p : OrderbookPhase41Processor) (symbol : String) (now : ℤ) :
    (p.stateFor symbol now).standing = standingAt p (upper symbol) := by
  rw [stateFor, standingAt]
  cases p.states.get? (upper symbol) with
  | none => rfl
  | some s => rfl

/-- Storing a state that stands where the book stands. -/
theorem calm_setState {p : OrderbookPhase41Processor} {symbol : String} {t : OrderbookState}
    (h : t.standing = standingAt p (upper symbol)) : Calm p (p.setState symbol t) where
  standing := by
    funext key
    rw [standingAt_setState]
    split
    · rename_i hkey
      rw [h, hkey]
    · rfl
  faults := rfl
  stale := id

theorem calm_closeStalePeriod (p : OrderbookPhase41Processor) (symbol : String) :
    Calm p (p.closeStalePeriod symbol) where
  standing := rfl
  faults := rfl
  stale h key := by
    rw [closeStalePeriod, Dict.get?_pop, h key, ite_self]

/-! ### Checks for staleness -/

/-- A check finds nothing, or counts a fault. -/
structure CheckOutcome (p : OrderbookPhase41Processor)
    (out : OrderbookPhase41Processor × List StalePeriod) : Prop where
  faults_le : faults p ≤ faults out.1
  calm : NoneStale p → (Calm p out.1 ∧ out.2 = []) ∨ faults p < faults out.1

namespace CheckOutcome

variable {p q : OrderbookPhase41Processor}

theorem of_calm (h : Calm p q) : CheckOutcome p (q, []) :=
  ⟨h.faults.ge, fun _ => .inl ⟨h, rfl⟩⟩

theorem after_calm {out : OrderbookPhase41Processor × List StalePeriod} (h : Calm p q)
    (h' : CheckOutcome q out) : CheckOutcome p out where
  faults_le := h.faults ▸ h'.faults_le
  calm hnone := by
    rcases h'.calm (h.stale hnone) with ⟨hcalm, hperiods⟩ | hfault
    · exact .inl ⟨h.trans hcalm, hperiods⟩
    · exact .inr (h.faults ▸ hfault)

end CheckOutcome

theorem checkOutcome_recordFeedReceiveStale (p : OrderbookPhase41Processor) (symbol : String)
    (state : OrderbookState) (now : ℤ) (age : ℚ) (clock : ℤ) :
    CheckOutcome p ((p.recordFeedReceiveStale symbol state now age clock).1,
      [(p.recordFeedReceiveStale symbol state now age clock).2]) := by
  rw [recordFeedReceiveStale]
  cases hperiod : p.openStalePeriods.get? symbol with
  | none =>
      have hcounted (q : OrderbookPhase41Processor) (htally : tally q = tally p)
          (hbridges : q.counters.bridgeMissingAfterSnapshotCount =
            p.counters.bridgeMissingAfterSnapshotCount)
          (hstale : q.counters.feedReceiveStaleCount = p.counters.feedReceiveStaleCount + 1) :
          faults p < faults q := by
        rw [faults, faults, htally, hbridges, hstale]
        omega
      have hfault := hcounted (p.recordFeedReceiveStale symbol state now age clock).1
      rw [recordFeedReceiveStale, hperiod] at hfault
      exact ⟨(hfault rfl rfl rfl).le, fun _ => .inr (hfault rfl rfl rfl)⟩
  | some period => exact ⟨le_rfl, fun hnone => by rw [hnone symbol] at hperiod; cases hperiod⟩

theorem calm_checkApplyStale (p : OrderbookPhase41Processor) (symbol : String)
    (applyAge feedAge : Option ℚ) (queueSize : ℤ) :
    Calm p (p.checkApplyStale symbol applyAge feedAge queueSize) := by
  have hclosed := calm_closeStalePeriod p symbol
  rw [checkApplyStale]
  generalize p.closeStalePeriod symbol = closed at hclosed ⊢
  split
  · rw [recordProcessorApplyStale]
    split
    · exact hclosed.trans (.of_parts rfl rfl rfl)
    · exact hclosed.trans (.of_parts rfl rfl rfl)
  · exact hclosed.trans (.of_parts rfl rfl rfl)

/-- The check of a symbol that has a state. -/
theorem checkOutcome_checkStaleState {p : OrderbookPhase41Processor} {symbol : String}
    {state : OrderbookState} (hstate : p.states.get? symbol = some state) (now : ℤ)
    (active : Bool) (queueSize clock : ℤ) :
    CheckOutcome p (p.checkStaleState symbol state now active queueSize clock) := by
  have hobserved : Calm p (p.observeBookAge symbol
      { state with lastStaleCheckMonotonicNs := some now } (state.bookAgeMs now)) := by
    refine ⟨?_, rfl, id⟩
    funext key
    change ((p.states.set symbol _).get? key).bind OrderbookState.standing = _
    rw [Dict.get?_set, standingAt]
    split
    · rename_i hkey
      rw [← hkey, hstate]
      rfl
    · rfl
  rw [checkStaleState]
  dsimp only
  generalize p.observeBookAge symbol { state with lastStaleCheckMonotonicNs := some now }
    (state.bookAgeMs now) = observed at hobserved ⊢
  refine .after_calm hobserved ?_
  split
  · split
    · exact .of_calm (.of_parts rfl rfl rfl)
    · exact .of_calm (.refl observed)
  · split
    · split
      · exact .of_calm (.of_parts rfl rfl rfl)
      · exact .of_calm (.refl observed)
    · split
      · split
        · exact checkOutcome_recordFeedReceiveStale observed symbol _ now _ clock
        · exact .of_calm (calm_checkApplyStale observed symbol _ _ queueSize)
      · exact .of_calm (calm_checkApplyStale observed symbol _ _ queueSize)

/-- The check of symbols in turn. -/
theorem checkOutcome_checkStaleSymbols (now : ℤ) (active : Bool) (queueSize clock : ℤ)
    (symbols : List String) (p : OrderbookPhase41Processor) :
    CheckOutcome p (checkStaleSymbols now active queueSize clock symbols p) := by
  induction symbols generalizing p with
  | nil => exact .of_calm (.refl p)
  | cons symbol symbols ih =>
      rw [checkStaleSymbols]
      cases hstate : p.states.get? symbol with
      | none => exact ih p
      | some state =>
          have hfirst := checkOutcome_checkStaleState hstate now active queueSize clock
          have hrest := ih (p.checkStaleState symbol state now active queueSize clock).1
          refine ⟨hfirst.faults_le.trans hrest.faults_le, fun hnone => ?_⟩
          rcases hfirst.calm hnone with ⟨hcalm, hperiods⟩ | hfault
          · rcases hrest.calm (hcalm.stale hnone) with ⟨hcalm', hperiods'⟩ | hfault
            · exact .inl ⟨hcalm.trans hcalm', by
                rw [List.append_eq_nil_iff]
                exact ⟨hperiods, hperiods'⟩⟩
            · exact .inr (hfirst.faults_le.trans_lt hfault)
          · exact .inr (hfault.trans_le hrest.faults_le)

theorem checkOutcome_checkStalePeriods (p : OrderbookPhase41Processor) (now : Option ℤ)
    (symbols : List String) (feedActive : Option Bool) (queueSize clock : ℤ) :
    CheckOutcome p (p.checkStalePeriods now symbols feedActive queueSize clock) :=
  checkOutcome_checkStaleSymbols _ _ _ _ _ p

/-! ### Depth updates -/

/-- Receiving an update finds nothing stale, or counts a fault. -/
theorem receive_calm (p : OrderbookPhase41Processor) (event : DepthUpdate) (r : DepthReadings) :
    faults p ≤ faults (p.receive event r) ∧
      (NoneStale p → Calm p (p.receive event r) ∨ faults p < faults (p.receive event r)) := by
  rw [receive]
  have hseen : Calm p (p.setState event.symbol
      ((p.stateFor event.symbol r.received).recordMessageRecv (recvTime event r))) := by
    refine calm_setState ?_
    rw [(recordMessageRecv_samePhase _ _).standing, standing_stateFor]
  generalize p.setState event.symbol
    ((p.stateFor event.symbol r.received).recordMessageRecv (recvTime event r)) = seen at hseen ⊢
  have hnoted : Calm p (seen.recordWsMessageRecv event.symbol (recvTime event r)).countReceived :=
    hseen.trans (.of_parts rfl rfl rfl)
  have hcheck := (checkOutcome_checkStalePeriods
    (seen.recordWsMessageRecv event.symbol (recvTime event r)).countReceived
    (some (recvTime event r)) [event.symbol] (some true) 0 r.received).after_calm hnoted
  exact ⟨hcheck.faults_le, fun hnone => (hcheck.calm hnone).imp_left And.left⟩

/-- What a depth update does: it moves the book of its symbol, finds it newer, or counts a
fault. -/
inductive DepthOutcome (p : OrderbookPhase41Processor) (event : DepthUpdate)
    (out : OrderbookPhase41Processor × ProcessorReply) : Prop
  | accepted (result : OrderbookApplyResult) (emitted : Option Json) (last : ℤ) (awaiting : Bool)
      (snapshotId : Option ℤ)
      (reply : out.2 = .applied result emitted)
      (result_accepted : result.accepted = true)
      (status : result.status = .deltaApplied)
      (before : standingAt p (upper event.symbol) = some ⟨some last, awaiting, snapshotId⟩)
      (newer : last < event.finalUpdateId)
      (inSequence : awaiting = false → event.firstUpdateId = last + 1)
      (bridged : awaiting = true → ∃ id, snapshotId = some id ∧ event.firstUpdateId ≤ id + 1 ∧
        id + 1 ≤ event.finalUpdateId)
      (after : ∀ key, standingAt out.1 key = if upper event.symbol = key then
        some ⟨some event.finalUpdateId, false, snapshotId⟩ else standingAt p key)
      (faults : faults out.1 = faults p) (stale : NoneStale out.1)
  | duplicate (result : OrderbookApplyResult)
      (reply : out.2 = .applied result none)
      (rejected : result.accepted = false)
      (status : result.status = .duplicateUpdate)
      (calm : Calm p out.1)
  | fault (counted : SomethingTrade.faults p < SomethingTrade.faults out.1)

/-- Emitting or blocking a sample counts no fault. -/
theorem calm_maybeEmitOrBlockSample (p : OrderbookPhase41Processor) (snapshot : OrderbookSnapshot)
    (quality : OrderbookQualityResult) (ts : Option ℤ) :
    Calm p (p.maybeEmitOrBlockSample snapshot quality ts).1 := by
  rw [maybeEmitOrBlockSample]
  dsimp only
  split
  · exact .of_parts rfl rfl rfl
  · split
    · exact .of_parts rfl rfl rfl
    · exact .of_parts rfl rfl rfl

theorem calm_finishUpdate (p : OrderbookPhase41Processor) (symbol : String)
    (state : OrderbookState) : Calm p (p.finishUpdate symbol state) := by
  rw [finishUpdate]
  split
  · exact .of_parts rfl rfl rfl
  · exact .of_parts rfl rfl rfl

/-- A rejected delta that is no duplicate counts a fault. -/
theorem faults_lt_countRejected (p : OrderbookPhase41Processor) {status : ApplyStatus}
    (h : status = .deltaBeforeSnapshot ∨ status.opensGap = true) :
    faults p < faults (p.countRejected status) := by
  obtain rfl | rfl | rfl | rfl | rfl : status = .deltaBeforeSnapshot ∨
      status = .sequenceGapOrReset ∨ status = .sequenceBridgeFailed ∨
      status = .previousFinalUpdateIdMismatch ∨ status = .invalidDeltaLevels := by
    simpa [opensGap_iff] using h
  all_goals
    simp only [faults, tally, countRejected, WSLifecycleTracker.onDeltaBeforeSnapshot,
      WSLifecycleTracker.onSequenceGap]
    omega

theorem faults_le_countRejected (p : OrderbookPhase41Processor) (status : ApplyStatus) :
    faults p ≤ faults (p.countRejected status) := by
  cases status
  case deltaBeforeSnapshot => exact (faults_lt_countRejected p (.inl rfl)).le
  case previousFinalUpdateIdMismatch | sequenceBridgeFailed | sequenceGapOrReset
    | invalidDeltaLevels => exact (faults_lt_countRejected p (.inr rfl)).le
  all_goals exact le_rfl

/-- After a rejected delta is counted, nothing more happens. -/
theorem calm_rejected {p : OrderbookPhase41Processor} (hp : EachState BookInv p)
    {event : DepthUpdate} {r : DepthReadings} (lag : Option ℚ)
    (hrejected : (appliedState p event r).2.accepted = false) :
    Calm (rejectedUpdate p event r) (p.processDepthUpdate event lag r).1 := by
  have hs := bookInv_appliedState hp event r
  have hstored : Calm (rejectedUpdate p event r) ((rejectedUpdate p event r).setState event.symbol
      (appliedState p event r).1) := by
    refine calm_setState ?_
    have hstates : (rejectedUpdate p event r).states =
        ((p.receive event r).setState event.symbol (appliedState p event r).1).states := by
      rw [rejectedUpdate]
      cases (appliedState p event r).2.status <;> rfl
    rw [standingAt, hstates, ← standingAt, standingAt_setState, if_pos rfl]
  rcases (processDepthUpdate_of_rejected lag hs hrejected).2 with hq | hq
  · rw [hq]
    exact calm_finishUpdate _ _ _
  · rw [hq]
    exact hstored.trans (calm_finishUpdate _ _ _)

/-- After an accepted delta is stored, nothing more happens to the books. -/
theorem calm_accepted {p : OrderbookPhase41Processor} (hp : EachState BookInv p)
    {event : DepthUpdate} {r : DepthReadings} (lag : Option ℚ)
    (haccepted : (appliedState p event r).2.accepted = true) :
    Calm ((p.receive event r).setState event.symbol (appliedState p event r).1)
        (p.processDepthUpdate event lag r).1 ∧
      ∃ emitted, (p.processDepthUpdate event lag r).2 =
        .applied (appliedState p event r).2 emitted := by
  have hs := bookInv_appliedState hp event r
  rw [processDepthUpdate_of_accepted lag hs haccepted]
  refine ⟨?_, _, rfl⟩
  dsimp only
  rw [acceptedUpdate]
  have hstored : (appliedState p event r).1.standing =
      standingAt ((p.receive event r).setState event.symbol (appliedState p event r).1)
        (upper event.symbol) := by
    rw [standingAt_setState, if_pos rfl]
  generalize (p.receive event r).setState event.symbol (appliedState p event r).1 = stored
    at hstored ⊢
  have hcounted : Calm stored stored.countAccepted := .of_parts rfl rfl rfl
  have hclosed : Calm stored (stored.countAccepted.closeStalePeriod event.symbol) :=
    hcounted.trans (calm_closeStalePeriod _ _)
  rw [← hclosed.standing] at hstored
  exact ((hclosed.trans (calm_setState hstored)).trans (calm_maybeEmitOrBlockSample _ _ _ _)).trans
    (calm_finishUpdate _ _ _)

/-- **What a depth update does.** -/
theorem depthOutcome {p : OrderbookPhase41Processor} (hp : EachState BookInv p)
    (hnone : NoneStale p) (event : DepthUpdate) (lag : Option ℚ) (r : DepthReadings) :
    DepthOutcome p event (p.processDepthUpdate event lag r) := by
  obtain ⟨hle, hreceive⟩ := receive_calm p event r
  have hbefore := standing_stateFor (p.receive event r) event.symbol r.received
  have houtcome : DeltaOutcome ((p.receive event r).stateFor event.symbol r.received)
      (deltaArgs event r) (appliedState p event r) := applyDelta_outcome _ _
  have hrejected (h : (appliedState p event r).2.accepted = false) := calm_rejected hp lag h
  have haccepted (h : (appliedState p event r).2.accepted = true) := calm_accepted hp lag h
  have hreply := processDepthUpdate_of_rejected (p := p) lag (bookInv_appliedState hp event r)
  have hfault (h : (appliedState p event r).2.accepted = false)
      (hstatus : (appliedState p event r).2.status = .deltaBeforeSnapshot ∨
        (appliedState p event r).2.status.opensGap = true) :
      DepthOutcome p event (p.processDepthUpdate event lag r) := by
    refine .fault (hle.trans_lt ?_)
    rw [(hrejected h).faults]
    exact faults_lt_countRejected
      ((p.receive event r).setState event.symbol (appliedState p event r).1) hstatus
  cases houtcome with
  | skipped accepted status state =>
      rcases status with status | status
      · exact hfault accepted (.inl status)
      · have hsame : (appliedState p event r).1.standing =
            standingAt (p.receive event r) (upper event.symbol) := by
          rw [state, ((recordMessageRecv_samePhase _ _).trans
            (recordReadyFalseAge_samePhase _ _)).standing, hbefore]
        have hcounted : Calm (p.receive event r) (rejectedUpdate p event r) := by
          rw [rejectedUpdate, status]
          exact (calm_setState hsame).trans (.of_parts rfl rfl rfl)
        have hdone := hcounted.trans (hrejected accepted)
        rcases hreceive hnone with hcalm | hcount
        · exact .duplicate _ (hreply accepted).1 accepted status (hcalm.trans hdone)
        · exact .fault (hdone.faults ▸ hcount)
  | failed reason last accepted status ready atLast newer state =>
      exact hfault accepted (.inr status)
  | applied last accepted status ready atLast newer inSequence state =>
      obtain ⟨hdone, emitted, hemitted⟩ := haccepted accepted
      rcases hreceive hnone with hcalm | hcount
      · have hcommit := commitDelta_committed
          (((p.receive event r).stateFor event.symbol r.received).recordMessageRecv
            (deltaArgs event r).localRecvMonotonicNs) (deltaArgs event r)
          (parseLevels true (deltaArgs event r).bids).1
          (parseLevels true (deltaArgs event r).asks).1
        have hafter : (appliedState p event r).1.standing =
            some ⟨some event.finalUpdateId, false,
              ((p.receive event r).stateFor event.symbol r.received).snapshotLastUpdateId⟩ := by
          rw [state, OrderbookState.standing, hcommit.snapshotReady, hcommit.lastUpdateId,
            hcommit.awaiting, hcommit.snapshotLastUpdateId]
          exact if_pos ready
        obtain ⟨hbridge, hnext⟩ := sequenceFailure_eq_none inSequence
        refine .accepted _ emitted last
          ((p.receive event r).stateFor event.symbol r.received).awaitingFirstDeltaAfterSnapshot
          ((p.receive event r).stateFor event.symbol r.received).snapshotLastUpdateId
          hemitted accepted status ?_ newer hnext hbridge (fun key => ?_) ?_ ?_
        · rw [← hcalm.standing, ← hbefore, OrderbookState.standing, ready, atLast]
          rfl
        · rw [hdone.standing, standingAt_setState, hafter, hcalm.standing]
        · rw [hdone.faults, ← hcalm.faults]
          rfl
        · exact hdone.stale (hcalm.stale hnone)
      · refine .fault ?_
        rw [hdone.faults]
        exact hcount

/-- A depth update takes back no fault. -/
theorem faults_le_processDepthUpdate {p : OrderbookPhase41Processor} (hp : EachState BookInv p)
    (event : DepthUpdate) (lag : Option ℚ) (r : DepthReadings) :
    faults p ≤ faults (p.processDepthUpdate event lag r).1 := by
  refine (receive_calm p event r).1.trans ?_
  cases haccepted : (appliedState p event r).2.accepted with
  | true => exact (calm_accepted hp lag haccepted).1.faults.ge
  | false =>
      rw [(calm_rejected hp lag haccepted).faults]
      exact faults_le_countRejected
        ((p.receive event r).setState event.symbol (appliedState p event r).1) _

/-! ### Snapshots -/

/-- A load leaves the other books where they are, and makes its own stand at the snapshot, if it
is ready at all. -/
structure LoadOutcome (p : OrderbookPhase41Processor) (a : SnapshotLoad)
    (q : OrderbookPhase41Processor) : Prop where
  others : ∀ symbol, upper a.symbol ≠ symbol → standingAt q symbol = standingAt p symbol
  loaded : standingAt q (upper a.symbol) = standingAt p (upper a.symbol) ∨
    standingAt q (upper a.symbol) = none ∨
    standingAt q (upper a.symbol) = some ⟨some a.lastUpdateId, true, some a.lastUpdateId⟩
  faults : faults q = faults p
  stale : NoneStale p → NoneStale q

theorem loadOutcome (p : OrderbookPhase41Processor) (a : SnapshotLoad) :
    LoadOutcome p a (p.loadSnapshot a).1 := by
  have hbefore := standing_stateFor p a.symbol a.monotonicNow
  have houtcome := applySnapshot_outcome (p.stateFor a.symbol a.monotonicNow) (snapshotArgs a)
  have hafter : Calm (p.setState a.symbol
      ((p.stateFor a.symbol a.monotonicNow).applySnapshot (snapshotArgs a)).1)
      (p.loadSnapshot a).1 := by
    rw [OrderbookPhase41Processor.loadSnapshot]
    generalize (p.stateFor a.symbol a.monotonicNow).applySnapshot (snapshotArgs a) = out
    obtain ⟨t, result⟩ := out
    dsimp only
    split
    · exact (calm_closeStalePeriod _ a.symbol).trans (.of_parts rfl rfl rfl)
    · exact .of_parts rfl rfl rfl
  refine ⟨fun symbol hother => ?_, ?_, hafter.faults, hafter.stale⟩
  · rw [hafter.standing, standingAt_setState, if_neg hother]
  · rw [hafter.standing, standingAt_setState, if_pos rfl]
    cases houtcome with
    | stale accepted status state =>
        exact .inl (by rw [state, (recordMessageRecv_samePhase _ _).standing, hbefore])
    | invalid accepted status state => exact .inr (.inl (by rw [state]; rfl))
    | loaded accepted status fresh state => exact .inr (.inr (by rw [state]; rfl))

/-! ### Captures -/

/-- What a capture counts against its run. -/
def Capture.faults (s : Capture) : ℕ :=
  SomethingTrade.faults s.processor + s.load.queueDroppedMessages

namespace CaptureReply

/-- An act went well: no update was dropped, failed or came out of sequence, an update bridged
the snapshot, and the feed was not stale. -/
def Good : CaptureReply → Prop
  | .dropped _ => False
  | .processed _ reply => ∃ result emitted, reply = .applied result emitted ∧
      (result.accepted = true ∨ result.status = .duplicateUpdate)
  | .purged _ purge => purge.bridgeMissingAfterSnapshot = false
  | .stalePeriods periods => periods = []
  | _ => True

/-- The id of the snapshot that was loaded. -/
def snapshotId? : CaptureReply → Option ℤ
  | .purged _ purge => some purge.snapshotLastUpdateId
  | _ => Option.none

/-- The update that was applied to a book. -/
def applied? : CaptureReply → Option DepthUpdate
  | .processed ⟨.depthUpdate update, _, _, _⟩ (.applied result _) =>
      if result.accepted then some update else Option.none
  | _ => Option.none

end CaptureReply

/-- An update follows another without a gap. -/
def Follows (u v : DepthUpdate) : Prop :=
  v.firstUpdateId = u.finalUpdateId + 1 ∧ u.finalUpdateId < v.finalUpdateId

/-- **What a passing report certifies.** Every act went well, the book was loaded once, and the
updates applied to it are one chain that starts at its snapshot. -/
structure Certified (replies : List CaptureReply) : Prop where
  good : ∀ reply ∈ replies, reply.Good
  loadedOnce : (replies.filterMap CaptureReply.snapshotId?).length ≤ 1
  bridged : ∀ u ∈ (replies.filterMap CaptureReply.applied?).head?,
    ∃ id ∈ replies.filterMap CaptureReply.snapshotId?, bridgesSnapshot id u
  chained : (replies.filterMap CaptureReply.applied?).IsChain Follows

namespace CapturePhase

/-- The phases before the first snapshot is loaded. -/
def BeforeLoad : CapturePhase → Prop
  | .buffering _ | .fetching 0 _ | .finished _ => True
  | _ => False

/-- The phases after it, as long as no other is needed. -/
def AfterLoad : CapturePhase → Prop
  | .consuming | .finished _ => True
  | _ => False

end CapturePhase

/-- Where a capture without a fault stands. -/
inductive CapturePlace (a : CaptureArgs) (snapshots : List ℤ) (applied : List DepthUpdate)
    (s : Capture) : Prop
  | before (phase : s.phase.BeforeLoad) (noneLoaded : snapshots = []) (noneApplied : applied = [])
      (standing : standingAt s.processor (upper a.symbol) = none)
  | after (id : ℤ) (phase : s.phase.AfterLoad) (loaded : snapshots = [id])
      (fresh : applied = [] → ∀ at? ∈ standingAt s.processor (upper a.symbol),
        at?.awaiting = true ∧ at?.snapshotLastUpdateId = some id)
      (atLast : ∀ u ∈ applied.getLast?, ∃ snapshotId,
        standingAt s.processor (upper a.symbol) = some ⟨some u.finalUpdateId, false, snapshotId⟩)

/-- A capture without a fault. -/
structure Clean (a : CaptureArgs) (replies : List CaptureReply) (s : Capture) : Prop
    extends Certified replies where
  noneStale : NoneStale s.processor
  others : ∀ symbol, upper a.symbol ≠ symbol → standingAt s.processor symbol = none
  place : CapturePlace a (replies.filterMap CaptureReply.snapshotId?)
    (replies.filterMap CaptureReply.applied?) s

/-- An act takes back no fault, and counts one when it does not go well. -/
structure Advance (a : CaptureArgs) (s t : Capture) (reply : CaptureReply) : Prop where
  faults_le : s.faults ≤ t.faults
  clean : ∀ replies, Clean a replies s → Clean a (replies ++ [reply]) t ∨ s.faults < t.faults

/-- A stretch of a capture without a fault that leaves every book where it was. -/
structure Quiet (s t : Capture) : Prop where
  calm : Calm s.processor t.processor
  dropped : t.load.queueDroppedMessages = s.load.queueDroppedMessages

namespace Quiet

variable {s t u : Capture}

theorem refl (s : Capture) : Quiet s s := ⟨.refl _, rfl⟩

theorem trans (h : Quiet s t) (h' : Quiet t u) : Quiet s u :=
  ⟨h.calm.trans h'.calm, h'.dropped.trans h.dropped⟩

theorem faults (h : Quiet s t) : t.faults = s.faults := by
  rw [Capture.faults, Capture.faults, h.calm.faults, h.dropped]

/-- A stretch that touches counters other than these. -/
theorem of_parts (hstates : t.processor.states = s.processor.states)
    (hfaults : SomethingTrade.faults t.processor = SomethingTrade.faults s.processor)
    (hperiods : t.processor.openStalePeriods = s.processor.openStalePeriods)
    (hdropped : t.load.queueDroppedMessages = s.load.queueDroppedMessages) : Quiet s t :=
  ⟨.of_parts hstates hfaults hperiods, hdropped⟩

theorem finish (s : Capture) (raised : Bool) : Quiet s (s.finish raised) :=
  .of_parts rfl rfl rfl rfl

theorem loopHead (s : Capture) (time : ℚ) : Quiet s (s.loopHead time) := by
  rw [Capture.loopHead]
  split
  · split
    · exact .of_parts rfl rfl rfl rfl
    · exact .finish s false
  · exact .finish s false

theorem afterLoad (s : Capture) (a : CaptureArgs) (deadlineSet deadlineCheck : ℚ) :
    Quiet s (s.afterLoad a deadlineSet deadlineCheck) := by
  rw [Capture.afterLoad]
  split
  · exact .loopHead s deadlineCheck
  · have hset : Quiet s { s with deadline := some (deadlineSet + a.durationSec) } :=
      .of_parts rfl rfl rfl rfl
    exact hset.trans (.loopHead _ deadlineCheck)

theorem requestSnapshot (s : Capture) (a : CaptureArgs) (attempt : ℕ) (requestStartNs : ℤ) :
    Quiet s (s.requestSnapshot a attempt requestStartNs) := by
  have hmarked : Calm s.processor ((s.updateLifecycle
      WSLifecycleTracker.onSnapshotRefresh).processor.markSnapshotRecoveryActive
        (upper a.symbol) true) := .of_parts rfl rfl rfl
  exact ⟨hmarked.trans (calm_setState (standing_stateFor _ _ _)), rfl⟩

end Quiet

/-- Where the loop head goes. -/
theorem afterLoad_loopHead (s : Capture) (time : ℚ) : (s.loopHead time).phase.AfterLoad := by
  rw [Capture.loopHead]
  split
  · split <;> trivial
  · trivial

theorem afterLoad_afterLoad (s : Capture) (a : CaptureArgs) (deadlineSet deadlineCheck : ℚ) :
    (s.afterLoad a deadlineSet deadlineCheck).phase.AfterLoad := by
  rw [Capture.afterLoad]
  split
  · exact afterLoad_loopHead _ _
  · exact afterLoad_loopHead _ _

section

variable {a : CaptureArgs} {s t : Capture} {replies : List CaptureReply} {reply : CaptureReply}

/-- A quiet act that goes well, and neither loads a snapshot nor applies an update. -/
theorem Clean.rest (h : Clean a replies s) (hquiet : Quiet s t)
    (hbefore : s.phase.BeforeLoad → t.phase.BeforeLoad)
    (hafter : s.phase.AfterLoad → t.phase.AfterLoad) (hgood : reply.Good)
    (hsnapshot : reply.snapshotId? = none) (happlied : reply.applied? = none) :
    Clean a (replies ++ [reply]) t := by
  have hsnapshots : (replies ++ [reply]).filterMap CaptureReply.snapshotId? =
      replies.filterMap CaptureReply.snapshotId? := by
    rw [List.filterMap_append, List.filterMap_cons_none hsnapshot, List.filterMap_nil,
      List.append_nil]
  have hupdates : (replies ++ [reply]).filterMap CaptureReply.applied? =
      replies.filterMap CaptureReply.applied? := by
    rw [List.filterMap_append, List.filterMap_cons_none happlied, List.filterMap_nil,
      List.append_nil]
  have hstanding := hquiet.calm.standing
  refine ⟨⟨?_, ?_, ?_, ?_⟩, hquiet.calm.stale h.noneStale, ?_, ?_⟩
  · simpa [or_imp, forall_and] using ⟨h.good, hgood⟩
  · rw [hsnapshots]
    exact h.loadedOnce
  · rw [hsnapshots, hupdates]
    exact h.bridged
  · rw [hupdates]
    exact h.chained
  · rw [hstanding]
    exact h.others
  · rw [hsnapshots, hupdates]
    cases h.place with
    | before phase noneLoaded noneApplied standing =>
        exact .before (hbefore phase) noneLoaded noneApplied (hstanding ▸ standing)
    | after id phase loaded fresh atLast =>
        exact .after id (hafter phase) loaded (hstanding ▸ fresh) (hstanding ▸ atLast)

theorem Advance.of_quiet (hquiet : Quiet s t) (hbefore : s.phase.BeforeLoad → t.phase.BeforeLoad)
    (hafter : s.phase.AfterLoad → t.phase.AfterLoad) (hgood : reply.Good)
    (hsnapshot : reply.snapshotId? = none) (happlied : reply.applied? = none) :
    Advance a s t reply :=
  ⟨hquiet.faults.ge, fun _ h => .inl (h.rest hquiet hbefore hafter hgood hsnapshot happlied)⟩

theorem Advance.none (s : Capture) : Advance a s s .none :=
  .of_quiet (.refl s) id id trivial rfl rfl

theorem Advance.of_fault (h : s.faults < t.faults) : Advance a s t reply :=
  ⟨h.le, fun _ _ => .inr h⟩

theorem advance_read (s : Capture) (payload : QueuePayload) (putNs putEndNs : ℤ) :
    Advance a s (s.read payload putNs putEndNs).1 (s.read payload putNs putEndNs).2 := by
  rw [Capture.read.eq_def]
  split
  · exact .none s
  · split
    · exact .none s
    · rw [Capture.enqueue]
      dsimp only
      split
      · exact .of_quiet (.of_parts rfl rfl rfl rfl) id id trivial rfl rfl
      · exact .of_fault (Nat.lt_succ_self s.faults)

theorem advance_lookAtBuffer (s : Capture) (time : ℚ) (requestStartNs : ℤ) :
    Advance a s (s.lookAtBuffer a time requestStartNs).1
      (s.lookAtBuffer a time requestStartNs).2 := by
  rw [Capture.lookAtBuffer]
  split
  · rename_i hphase
    split
    · exact .none s
    · refine .of_quiet (.requestSnapshot s a 0 requestStartNs) (fun _ => trivial)
        (fun hafter => ?_) trivial rfl rfl
      rw [hphase] at hafter
      exact hafter.elim
  · exact .none s

theorem advance_timeout (s : Capture) (now clock : ℤ) (deadlineCheck : ℚ) :
    Advance a s (s.timeout now clock deadlineCheck).1 (s.timeout now clock deadlineCheck).2 := by
  rw [Capture.timeout]
  split
  · rename_i hphase
    have hcheck := checkOutcome_checkStalePeriods s.processor (some now) [] Option.none
      s.queue.items.length clock
    generalize s.processor.checkStalePeriods (some now) [] Option.none s.queue.items.length
      clock = out at hcheck ⊢
    obtain ⟨q, periods⟩ := out
    dsimp only at hcheck ⊢
    have hloop : ((s.setProcessor q).loopHead deadlineCheck).faults =
        faults q + s.load.queueDroppedMessages := (Quiet.loopHead _ _).faults
    refine ⟨?_, fun replies h => ?_⟩
    · rw [hloop]
      exact Nat.add_le_add_right hcheck.faults_le _
    · rcases hcheck.calm h.noneStale with ⟨hcalm, rfl⟩ | hfault
      · have hchecked : Quiet s (s.setProcessor q) := ⟨hcalm, rfl⟩
        refine .inl (h.rest (hchecked.trans (.loopHead _ _)) (fun hbefore => ?_)
          (fun _ => afterLoad_loopHead _ _) rfl rfl rfl)
        rw [hphase] at hbefore
        exact hbefore.elim
      · refine .inr ?_
        rw [hloop]
        exact Nat.add_lt_add_right hfault _
  · exact .none s

/-- A capture without a fault is before or after its first snapshot. -/
theorem Clean.phase (h : Clean a replies s) : s.phase.BeforeLoad ∨ s.phase.AfterLoad := by
  cases h.place with
  | before phase => exact .inl phase
  | after id phase => exact .inr phase

theorem advance_wake (s : Capture) (requestStartNs : ℤ) (deadlineSet deadlineCheck : ℚ) :
    Advance a s (s.wake a requestStartNs deadlineSet deadlineCheck).1
      (s.wake a requestStartNs deadlineSet deadlineCheck).2 := by
  rw [Capture.wake]
  split
  · rename_i attempt hphase
    have hnever (replies : List CaptureReply) (h : Clean a replies s) : False := by
      have hplace := h.phase
      rw [hphase] at hplace
      exact hplace.elim id id
    split
    · exact ⟨(Quiet.requestSnapshot s a (attempt + 1) requestStartNs).faults.ge,
        fun replies h => (hnever replies h).elim⟩
    · exact ⟨(Quiet.afterLoad s a deadlineSet deadlineCheck).faults.ge,
        fun replies h => (hnever replies h).elim⟩
  · exact .none s

/-- Loading a snapshot, up to the purge. -/
theorem applySnapshot_load (s : Capture) (requestStartNs : ℤ) (snapshot : DepthSnapshot)
    (r : SnapshotReadings) :
    LoadOutcome s.processor (Capture.snapshotLoad a snapshot r)
      (s.applySnapshot a requestStartNs snapshot r).1.processor ∧
    (s.applySnapshot a requestStartNs snapshot r).1.load.queueDroppedMessages =
      s.load.queueDroppedMessages := by
  rw [Capture.applySnapshot]
  have hrequested : Quiet s (s.setMonitor (s.monitor.recordSnapshotRequestDuration
      ((r.response - requestStartNs : ℚ) / 1000000))) := .of_parts rfl rfl rfl rfl
  generalize s.setMonitor (s.monitor.recordSnapshotRequestDuration
    ((r.response - requestStartNs : ℚ) / 1000000)) = requested at hrequested ⊢
  have hload := loadOutcome requested.processor (Capture.snapshotLoad a snapshot r)
  generalize requested.processor.loadSnapshot (Capture.snapshotLoad a snapshot r) = out at hload ⊢
  obtain ⟨q, loaded⟩ := out
  refine ⟨⟨fun symbol hother => ?_, ?_, hload.faults.trans hrequested.calm.faults,
    hload.stale ∘ hrequested.calm.stale⟩, hrequested.dropped⟩
  · rw [← hrequested.calm.standing]
    exact hload.others symbol hother
  · rw [← hrequested.calm.standing]
    exact hload.loaded

/-- A purge counts a fault exactly when the bridge is missing. -/
theorem purgeQueue_quiet (s : Capture) (snapshotLastUpdateId purgeNs : ℤ) :
    let out := s.purgeQueue a snapshotLastUpdateId purgeNs
    out.2.snapshotLastUpdateId = snapshotLastUpdateId ∧
    ((out.2.bridgeMissingAfterSnapshot = false ∧ Quiet s out.1) ∨ s.faults < out.1.faults) := by
  obtain ⟨hprocessor, hitems, hresult⟩ := purgeQueueAfterSnapshot_eq s.processor s.queue
    (upper a.symbol) snapshotLastUpdateId purgeNs
  have hread : Calm s.processor (s.processor.setState (upper a.symbol)
      (s.processor.stateFor (upper a.symbol) purgeNs)) := calm_setState (standing_stateFor _ _ _)
  rw [Capture.purgeQueue]
  generalize s.processor.purgeQueueAfterSnapshot s.queue (upper a.symbol) snapshotLastUpdateId
    purgeNs = purged at hprocessor hitems hresult ⊢
  obtain ⟨q, queue, purge⟩ := purged
  dsimp only at hprocessor hitems hresult ⊢
  rw [hitems, Nat.sub_self, Nat.add_zero]
  refine ⟨by rw [hresult]; rfl, ?_⟩
  rw [← hresult] at hprocessor
  by_cases hmissing : purge.bridgeMissingAfterSnapshot = true
  · rw [if_pos hmissing] at hprocessor
    refine .inr (Nat.add_lt_add_right ?_ _)
    rw [hprocessor, ← hread.faults]
    generalize s.processor.setState (upper a.symbol)
      (s.processor.stateFor (upper a.symbol) purgeNs) = read
    rw [SomethingTrade.faults, SomethingTrade.faults]
    change _ < _ + (read.counters.bridgeMissingAfterSnapshotCount + 1) + _
    exact Nat.add_lt_add_right (Nat.lt_succ_self _) _
  · rw [if_neg hmissing] at hprocessor
    rw [Bool.not_eq_true] at hmissing
    subst hprocessor
    exact .inl ⟨hmissing, hread.trans (.of_parts rfl rfl rfl), rfl⟩

/-- The first snapshot of a capture without a fault. -/
theorem Clean.load (h : Clean a replies s) (hphase : ¬ s.phase.AfterLoad) {snapshot : DepthSnapshot}
    {r : SnapshotReadings} {purge : PostSnapshotQueuePurgeResult} {loaded : ProcessorReply}
    (hload : LoadOutcome s.processor (Capture.snapshotLoad a snapshot r) t.processor)
    (hbridged : purge.bridgeMissingAfterSnapshot = false)
    (hid : purge.snapshotLastUpdateId = snapshot.lastUpdateId) {u : Capture} (hquiet : Quiet t u)
    (hplace : u.phase.AfterLoad) : Clean a (replies ++ [.purged loaded purge]) u := by
  cases h.place with
  | after id phase => exact absurd phase hphase
  | before phase noneLoaded noneApplied standing =>
      have hsymbol : upper (Capture.snapshotLoad a snapshot r).symbol = upper a.symbol :=
        upper_upper a.symbol
      obtain ⟨hothers, hloaded, -, hstale⟩ := hload
      rw [hsymbol] at hothers hloaded
      have hsnapshots : (replies ++ [CaptureReply.purged loaded purge]).filterMap
          CaptureReply.snapshotId? = [snapshot.lastUpdateId] := by
        rw [List.filterMap_append, noneLoaded, ← hid]
        rfl
      have hupdates : (replies ++ [CaptureReply.purged loaded purge]).filterMap
          CaptureReply.applied? = [] := by
        rw [List.filterMap_append, noneApplied]
        rfl
      refine ⟨⟨?_, ?_, ?_, ?_⟩, hquiet.calm.stale (hstale h.noneStale), ?_, ?_⟩
      · simpa [or_imp, forall_and] using ⟨h.good, hbridged⟩
      · rw [hsnapshots]
        exact le_rfl
      · rw [hupdates]
        exact fun u hu => by cases hu
      · rw [hupdates]
        exact .nil
      · intro symbol hother
        rw [hquiet.calm.standing, hothers symbol hother]
        exact h.others symbol hother
      · rw [hsnapshots, hupdates]
        refine .after snapshot.lastUpdateId hplace rfl (fun _ at? hat => ?_)
          (fun u hu => by cases hu)
        rw [hquiet.calm.standing] at hat
        rcases hloaded with hsame | hnone | hready
        · rw [hsame, standing] at hat
          cases hat
        · rw [hnone] at hat
          cases hat
        · rw [hready] at hat
          obtain rfl := Option.some.inj hat
          exact ⟨rfl, rfl⟩

theorem advance_answer (s : Capture) (snapshot : Option DepthSnapshot) (r : SnapshotReadings) :
    Advance a s (s.answer a snapshot r).1 (s.answer a snapshot r).2 := by
  rw [Capture.answer]
  split
  · rename_i attempt requestStartNs hphase
    cases snapshot with
    | none => exact .of_quiet (.finish s true) (fun _ => trivial) (fun _ => trivial) trivial rfl rfl
    | some snapshot =>
        dsimp only
        rw [Capture.loadSnapshot]
        obtain ⟨hload, hdropped⟩ := applySnapshot_load (a := a) s requestStartNs snapshot r
        generalize s.applySnapshot a requestStartNs snapshot r = out at hload hdropped ⊢
        obtain ⟨t, loaded⟩ := out
        have hfaults : t.faults = s.faults := by
          rw [Capture.faults, Capture.faults, hload.faults, hdropped]
        obtain ⟨hid, hpurge⟩ := purgeQueue_quiet (a := a) t snapshot.lastUpdateId r.purge
        dsimp only at hid hpurge ⊢
        have hnot : ¬ s.phase.AfterLoad := by
          rw [hphase]
          exact id
        have hgo := Quiet.afterLoad (t.purgeQueue a snapshot.lastUpdateId r.purge).1 a
          r.deadlineSet r.deadlineCheck
        rcases hpurge with ⟨hbridged, hquiet⟩ | hfault
        · rw [if_neg (by rw [hbridged]; exact Bool.false_ne_true)]
          refine ⟨(hgo.faults.trans (hquiet.faults.trans hfaults)).ge, fun replies h => .inl ?_⟩
          exact h.load hnot hload hbridged hid (hquiet.trans hgo) (afterLoad_afterLoad _ _ _ _)
        · rw [hfaults] at hfault
          split
          · exact .of_fault hfault
          · exact .of_fault (hgo.faults.symm ▸ hfault)
  · exact .none s

/-- After a depth update is processed, nothing more happens to the books. -/
theorem process_quiet (s : Capture) (envelope : QueueEnvelope) (update : DepthUpdate)
    (r : DequeueReadings) :
    ∃ q lag, q.states = s.processor.states ∧ Calm s.processor q ∧
      let out := q.processDepthUpdate update (some lag) r.depth
      (s.process a envelope update r).2 = .processed envelope out.2 ∧
      Calm out.1 (s.process a envelope update r).1.processor ∧
      (s.process a envelope update r).1.load.queueDroppedMessages =
        s.load.queueDroppedMessages ∧
      ∀ result emitted, out.2 = .applied result emitted →
        result.status ∉ Capture.refreshStatuses →
        (s.process a envelope update r).1.phase.AfterLoad := by
  rw [Capture.process]
  have hdequeued : Quiet s (s.setMonitor (s.monitor.recordDequeue
      s.processor.validator.queueLagSevereMs envelope r.dequeue s.queue.items.length).1) := by
    refine .of_parts rfl ?_ rfl rfl
    rfl
  dsimp only
  generalize s.monitor.recordDequeue s.processor.validator.queueLagSevereMs envelope r.dequeue
    s.queue.items.length = dequeued at hdequeued ⊢
  obtain ⟨m, lag⟩ := dequeued
  dsimp only at hdequeued ⊢
  have hstates : (s.setMonitor m).processor.states = s.processor.states := rfl
  generalize s.setMonitor m = noted at hdequeued hstates ⊢
  refine ⟨noted.processor, lag, hstates, hdequeued.calm, ?_⟩
  generalize noted.processor.processDepthUpdate update (some lag) r.depth = out
  obtain ⟨p, reply⟩ := out
  dsimp only
  cases reply with
  | applied result emitted =>
      dsimp only
      have hdone : Quiet (noted.setProcessor p) ((noted.setProcessor p).setMonitor
          ((noted.setProcessor p).monitor.recordProcessingDone r.dequeue r.done)) :=
        .of_parts rfl rfl rfl rfl
      generalize (noted.setProcessor p).setMonitor
        ((noted.setProcessor p).monitor.recordProcessingDone r.dequeue r.done) = done at hdone ⊢
      have hcounted (f : WSLifecycleTracker → WSLifecycleTracker)
          (hf : SomethingTrade.faults (done.updateLifecycle f).processor =
            SomethingTrade.faults done.processor) :
          Quiet (noted.setProcessor p) (done.updateLifecycle f) :=
        hdone.trans (.of_parts rfl hf rfl rfl)
      split
      · rename_i hrefresh
        have hend := (hcounted (fun t => t.onQueueBackpressure
          (done.processor.queueMonitor.queueBackpressureEvents -
            s.processor.queueMonitor.queueBackpressureEvents)) rfl).trans
              (.requestSnapshot _ a 0 r.requestStart)
        refine ⟨rfl, hend.calm, hend.dropped.trans hdequeued.dropped,
          fun result' emitted' hreply hstatus => ?_⟩
        obtain ⟨rfl, rfl⟩ := ProcessorReply.applied.inj hreply
        exact absurd hrefresh hstatus
      · have hend := (hcounted (fun t => t.onQueueBackpressure
          (done.processor.queueMonitor.queueBackpressureEvents -
            s.processor.queueMonitor.queueBackpressureEvents)) rfl).trans
              (.loopHead _ r.deadlineCheck)
        exact ⟨rfl, hend.calm, hend.dropped.trans hdequeued.dropped,
          fun _ _ _ _ => afterLoad_loopHead _ _⟩
  | _ =>
      have hend := Quiet.finish (noted.setProcessor p) true
      exact ⟨rfl, hend.calm, hend.dropped.trans hdequeued.dropped, fun _ _ _ _ => trivial⟩

/-- An update that is applied continues the chain. -/
theorem Clean.apply (h : Clean a replies s) (hphase : ¬ s.phase.BeforeLoad) {update : DepthUpdate}
    {enqueued queueSize : ℤ} {putEnd : Option ℤ} {result : OrderbookApplyResult}
    {emitted : Option Json} {last : ℤ} {awaiting : Bool} {snapshotId : Option ℤ}
    (haccepted : result.accepted = true)
    (hbefore : standingAt s.processor (upper update.symbol) =
      some ⟨some last, awaiting, snapshotId⟩)
    (hnewer : last < update.finalUpdateId)
    (hnext : awaiting = false → update.firstUpdateId = last + 1)
    (hbridges : awaiting = true → ∃ id, snapshotId = some id ∧ bridgesSnapshot id update)
    (hafter : ∀ key, standingAt t.processor key = if upper update.symbol = key then
      some ⟨some update.finalUpdateId, false, snapshotId⟩ else standingAt s.processor key)
    (hstale : NoneStale t.processor) (hplace : t.phase.AfterLoad) :
    Clean a (replies ++ [.processed ⟨.depthUpdate update, enqueued, queueSize, putEnd⟩
      (.applied result emitted)]) t := by
  cases h.place with
  | before phase => exact absurd phase hphase
  | after id phase loaded fresh atLast =>
      have hsymbol : upper update.symbol = upper a.symbol := by
        by_contra hother
        rw [h.others _ (Ne.symm hother)] at hbefore
        cases hbefore
      rw [hsymbol] at hbefore hafter
      set reply := CaptureReply.processed ⟨.depthUpdate update, enqueued, queueSize, putEnd⟩
        (.applied result emitted) with hreply
      have hsnapshots : (replies ++ [reply]).filterMap CaptureReply.snapshotId? =
          replies.filterMap CaptureReply.snapshotId? := by
        rw [List.filterMap_append, hreply]
        exact List.append_nil _
      have hupdates : (replies ++ [reply]).filterMap CaptureReply.applied? =
          replies.filterMap CaptureReply.applied? ++ [update] := by
        rw [List.filterMap_append, hreply, List.filterMap_cons_some (b := update)]
        · rfl
        · rw [CaptureReply.applied?, haccepted, if_pos rfl]
      refine ⟨⟨?_, ?_, ?_, ?_⟩, hstale, ?_, ?_⟩
      · simpa [or_imp, forall_and] using
          ⟨h.good, show reply.Good from ⟨result, emitted, rfl, .inl haccepted⟩⟩
      · rw [hsnapshots]
        exact h.loadedOnce
      · rw [hsnapshots, hupdates, loaded]
        intro u hu
        cases happlied : replies.filterMap CaptureReply.applied? with
        | nil =>
            rw [happlied] at hu
            obtain rfl := Option.some.inj hu
            obtain ⟨hawaiting, hat⟩ := fresh happlied _ hbefore
            obtain ⟨id', rfl, hcovers⟩ := hbridges hawaiting
            obtain rfl := Option.some.inj hat
            exact ⟨_, List.mem_singleton_self _, hcovers⟩
        | cons first rest =>
            rw [happlied] at hu
            have hfirst := h.bridged first (by rw [happlied]; rfl)
            rw [loaded] at hfirst
            obtain rfl := Option.some.inj hu
            exact hfirst
      · rw [hupdates, List.isChain_append]
        refine ⟨h.chained, .singleton _, fun u hu v hv => ?_⟩
        obtain rfl := Option.some.inj hv
        obtain ⟨_, hat⟩ := atLast u hu
        obtain ⟨hlast, rfl, -⟩ := Standing.mk.inj (Option.some.inj (hat.symm.trans hbefore))
        obtain rfl := Option.some.inj hlast
        exact ⟨hnext rfl, hnewer⟩
      · intro symbol hother
        rw [hafter symbol, if_neg hother]
        exact h.others symbol hother
      · rw [hsnapshots, hupdates]
        refine .after id hplace loaded (fun hnil => ?_) fun u hu => ?_
        · simp at hnil
        · rw [List.getLast?_concat] at hu
          obtain rfl := Option.some.inj hu
          exact ⟨snapshotId, by rw [hafter, if_pos rfl]⟩

theorem advance_dequeue {X : Exchange} {c : Phase41Settings} (h : CaptureInv X c s)
    (r : DequeueReadings) : Advance a s (s.dequeue a r).1 (s.dequeue a r).2 := by
  rw [Capture.dequeue.eq_def]
  split
  · rename_i hphase
    have hnot : ¬ s.phase.BeforeLoad := by
      rw [hphase]
      exact id
    split
    · exact .none s
    · rename_i envelope queue hget
      obtain ⟨update, hpayload, -⟩ :=
        h.queue envelope (items_of_getNowait hget ▸ List.mem_cons_self)
      obtain ⟨payload, enqueued, queueSize, putEnd⟩ := envelope
      dsimp only at hpayload ⊢
      subst hpayload
      dsimp only
      obtain ⟨q, lag, hstates, hcalm, hreply, hdone, hdropped, hplace⟩ := process_quiet (a := a)
        { s with queue := queue } ⟨.depthUpdate update, enqueued, queueSize, putEnd⟩ update r
      dsimp only at hstates hcalm hreply hdone hdropped hplace
      rw [hreply]
      generalize (({ s with queue := queue } : Capture).process a
        ⟨.depthUpdate update, enqueued, queueSize, putEnd⟩ update r).1 = t
        at hdone hdropped hplace ⊢
      have hbooks : EachState BookInv q := by
        rw [EachState, hstates]
        exact h.tracks.reached.books
      have hfaults : t.faults = SomethingTrade.faults (q.processDepthUpdate update (some lag)
          r.depth).1 + s.load.queueDroppedMessages := by
        rw [Capture.faults, hdone.faults, hdropped]
      have hle := faults_le_processDepthUpdate hbooks update (some lag) r.depth
      refine ⟨?_, fun replies hclean => ?_⟩
      · rw [hfaults, Capture.faults, ← hcalm.faults]
        exact Nat.add_le_add_right hle _
      · have hnone := hcalm.stale hclean.noneStale
        cases depthOutcome hbooks hnone update (some lag) r.depth with
        | accepted result emitted last awaiting snapshotId reply result_accepted status before
            newer inSequence bridged after _ stale =>
            rw [reply]
            rw [hcalm.standing] at before after
            refine .inl (hclean.apply hnot result_accepted before newer inSequence bridged
              (fun key => ?_) (hdone.stale stale) (hplace result emitted reply ?_))
            · rw [hdone.standing, after key]
            · rw [status]
              decide
        | duplicate result reply rejected status calm =>
            rw [reply]
            have hquiet : Quiet s t := ⟨(hcalm.trans calm).trans hdone, hdropped⟩
            refine .inl (hclean.rest hquiet (fun hbefore => absurd hbefore hnot)
              (fun _ => hplace result none reply ?_) ⟨result, none, rfl, .inr status⟩ rfl ?_)
            · rw [status]
              decide
            · rw [CaptureReply.applied?, rejected]
              rfl
        | fault counted =>
            refine .inr ?_
            rw [hfaults, Capture.faults, ← hcalm.faults]
            exact Nat.add_lt_add_right counted _
  · exact .none s

/-- **Every act advances.** -/
theorem advance_next {X : Exchange} {c : Phase41Settings} (h : CaptureInv X c s)
    (act : CaptureAct) :
    Advance a s ((captureMachine a).next s act) ((captureMachine a).out s act) := by
  cases act with
  | read payload putNs putEndNs => exact advance_read s payload putNs putEndNs
  | lookAtBuffer time requestStartNs => exact advance_lookAtBuffer s time requestStartNs
  | answer snapshot r => exact advance_answer s snapshot r
  | wake requestStartNs deadlineSet deadlineCheck =>
      exact advance_wake s requestStartNs deadlineSet deadlineCheck
  | dequeue r => exact advance_dequeue h r
  | timeout now clock deadlineCheck => exact advance_timeout s now clock deadlineCheck

end

/-! ### Certificates -/

/-- A capture starts without a fault. -/
theorem clean_start (a : CaptureArgs) (now : ℤ) (time : ℚ) : Clean a [] (a.start now time) := by
  have hstanding (symbol : String) : standingAt (a.start now time).processor symbol = none := by
    rw [standingAt]
    cases hget : (a.start now time).processor.states.get? symbol with
    | none => rfl
    | some t =>
        obtain ⟨name, -, hname⟩ := List.mem_map.mp (Dict.mem_of_get?_ofList hget)
        rw [← (Prod.mk.inj hname).2]
        rfl
  exact ⟨⟨fun _ hmem => absurd hmem List.not_mem_nil, Nat.zero_le _,
    fun u hu => absurd hu (Option.not_mem_none u), List.IsChain.nil⟩, fun _ => rfl,
    fun symbol _ => hstanding symbol, .before trivial rfl rfl (hstanding _)⟩

/-- A run that counts no fault went well. -/
theorem clean_of_faults (a : CaptureArgs) (now : ℤ) (time : ℚ) (acts : List CaptureAct)
    (h : ((captureMachine a).exec (a.start now time) acts).faults = 0) :
    Certified (((captureMachine a).trace (a.start now time) acts).map Prod.snd) := by
  have hrun := (captureMachine a).trace_invariant
    (I := fun t s => CaptureInv blindExchange (a.settings now) s ∧
      (s.faults = 0 → Clean a (t.map Prod.snd) s)) ?_
    (s := a.start now time) ⟨.start _ a now time, fun _ => clean_start a now time⟩ acts
  · exact (hrun.2 h).toCertified
  · rintro t s act ⟨hinv, hclean⟩
    refine ⟨hinv.next act (blindExchange_tellsAct a act), fun hfaults => ?_⟩
    have hadvance := advance_next (a := a) hinv act
    have hle := hadvance.faults_le
    rw [List.map_append, List.map_singleton]
    rcases hadvance.clean _ (hclean (by omega)) with hnext | hfault
    · exact hnext
    · omega

/-- **A passing report certifies the run.** When the report of a capture passes, for every order
of the acts before it: no update was dropped, each one taken from the queue was applied or a
duplicate, the feed was never stale, the book was loaded at most once, and the updates applied to
it, in order, are one chain of consecutive ids, the first of which bridges the snapshot. -/
theorem captureMachine_passing_report_certifies (a : CaptureArgs) (now : ℤ) (time : ℚ)
    (acts : List CaptureAct) (copies : CopySamples) (durationSec : Option ℚ) (clock : ℤ) :
    let s := (captureMachine a).exec (a.start now time) acts
    (s.processor.summary s.load copies durationSec clock).2.get "phase_4_1_pass" = .bool true →
      Certified (((captureMachine a).trace (a.start now time) acts).map Prod.snd) := by
  intro s hpass
  refine clean_of_faults a now time acts ?_
  obtain ⟨hspotless, -⟩ := (summary_passes_iff _ _ _ _ _).mp hpass
  have hfaults : faults (s.processor.summary s.load copies durationSec clock).1 = 0 := by
    simp only [faults, tally, hspotless.beforeSnapshot, hspotless.sequenceGaps,
      hspotless.previousIdMismatches, hspotless.invalidDeltas, hspotless.bridgesMissing,
      hspotless.feedStale]
  -- the report checks the feed once more before it counts
  have hcheck : faults s.processor ≤
      faults (s.processor.summary s.load copies durationSec clock).1 :=
    (checkOutcome_checkStalePeriods s.processor (some clock) [] (some s.processor.captureActive)
      0 clock).faults_le
  have hdropped : s.load.queueDroppedMessages = 0 := hspotless.dropped
  rw [hfaults] at hcheck
  change Capture.faults s = 0
  rw [Capture.faults]
  omega

/-- The capture of one update passes. -/
theorem captureMachine_passing_report_certifies_bridgedCapture :
    (((captureMachine tenSeconds).trace (tenSeconds.start 0 0) bridgedCapture).filterMap
        fun e => e.2.applied?).length = 1 ∧
      Certified (((captureMachine tenSeconds).trace (tenSeconds.start 0 0) bridgedCapture).map
        Prod.snd) := by
  refine ⟨by decide +kernel, captureMachine_passing_report_certifies tenSeconds 0 0
    bridgedCapture ⟨[], [], []⟩ none 3000 ?_⟩
  rw [summary_passes_iff]
  refine ⟨?_, by decide +kernel⟩
  constructor <;> decide +kernel

end SomethingTrade
