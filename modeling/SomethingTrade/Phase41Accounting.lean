import SomethingTrade.OrderbookPhase41

/-!
# The Accounting of the Processor

Every depth update is counted once as received, once as accepted or rejected, and once
more by what became of it: an accepted one as an emitted or a blocked sample, a rejected
one by its status. `Tally` is the view of the counters this is about, and `Balanced` the
invariant. It rests on an invariant of every stored state (`EachState`), without which a
copy could raise an error between two counts.

## Main results

* `processDepthUpdate_of_accepted`, `processDepthUpdate_of_rejected`: what a depth update
  does in either case.
* `processDepthUpdate_accounted`: a depth update is accounted for once.
* `OrderbookPhase41Processor.counters_balanced`: the three equations, after every run.
-/

namespace SomethingTrade

open OrderbookPhase41Processor

/-- The counters that account for depth updates. -/
structure Tally where
  messagesReceived : ℕ
  deltasAccepted : ℕ
  deltasRejected : ℕ
  samplesEmitted : ℕ
  samplesBlocked : ℕ
  deltaBeforeSnapshot : ℕ
  duplicatesSkipped : ℕ
  sequenceGaps : ℕ
  previousIdMismatches : ℕ
  invalidDeltas : ℕ

/-- The tally of a processor. -/
def tally (p : OrderbookPhase41Processor) : Tally where
  messagesReceived := p.counters.messagesReceived
  deltasAccepted := p.counters.deltasAccepted
  deltasRejected := p.counters.deltasRejected
  samplesEmitted := p.counters.samplesEmitted
  samplesBlocked := p.counters.samplesBlocked
  deltaBeforeSnapshot := p.lifecycle.counters.deltaBeforeSnapshotCount
  duplicatesSkipped := p.lifecycle.counters.duplicateMessagesSkipped
  sequenceGaps := p.lifecycle.counters.sequenceGapCount
  previousIdMismatches := p.counters.previousFinalUpdateIdMismatchCount
  invalidDeltas := p.counters.invalidDeltaCount

/-- Every update is accounted for, but for `inFlight` that have no outcome yet. -/
structure Balanced (inFlight : ℕ) (t : Tally) : Prop where
  received : t.messagesReceived = t.deltasAccepted + t.deltasRejected + inFlight
  accepted : t.deltasAccepted = t.samplesEmitted + t.samplesBlocked
  rejected : t.deltasRejected = t.deltaBeforeSnapshot + t.duplicatesSkipped +
    t.sequenceGaps + t.previousIdMismatches + t.invalidDeltas

/-! ### Invariants of the stored states -/

/-- Every state of the processor has the property. -/
def EachState (P : OrderbookState → Prop) (p : OrderbookPhase41Processor) : Prop :=
  ∀ e ∈ p.states.entries, P e.2

/-- An invariant of states that needs no snapshot or delta to be kept: fresh states have
it, and checks and stops keep it. It includes the book invariant. -/
structure StateInv (P : OrderbookState → Prop) : Prop where
  init : ∀ symbol warningAfterSec now, P (OrderbookState.init symbol warningAfterSec now)
  markNotReady : ∀ s reason recv advance boundary clock, P s →
    P (s.markNotReady reason recv advance boundary clock)
  staleCheck : ∀ s now, P s → P { s with lastStaleCheckMonotonicNs := some now }
  book : ∀ s, P s → BookInv s

/-- The settings that decide what a sample must satisfy. -/
def sampleSettings (p : OrderbookPhase41Processor) : ℤ × OrderbookQualityValidator :=
  (p.depthN, p.validator)

/-- A step keeps the tally, the settings and an invariant of the states. -/
structure Keeps (P : OrderbookState → Prop) (p q : OrderbookPhase41Processor) : Prop where
  tally : tally q = tally p
  settings : sampleSettings q = sampleSettings p
  states : EachState P p → EachState P q

theorem Keeps.trans {P : OrderbookState → Prop} {p q r : OrderbookPhase41Processor}
    (h : Keeps P p q) (h' : Keeps P q r) : Keeps P p r :=
  ⟨h'.tally.trans h.tally, h'.settings.trans h.settings, fun hp => h'.states (h.states hp)⟩

/-- A step that touches neither the tally nor the settings nor the states keeps all. -/
theorem Keeps.of_states {P : OrderbookState → Prop} {p q : OrderbookPhase41Processor}
    (ht : SomethingTrade.tally q = SomethingTrade.tally p)
    (hc : sampleSettings q = sampleSettings p) (hs : q.states = p.states) : Keeps P p q :=
  ⟨ht, hc, fun h => by rwa [EachState, hs]⟩

theorem EachState.set {P : OrderbookState → Prop} {p : OrderbookPhase41Processor}
    (h : EachState P p) {s : OrderbookState} (hs : P s) (key : String) :
    ∀ e ∈ (p.states.set key s).entries, P e.2 :=
  Dict.forall_entries_set (P := fun _ s => P s) h hs

theorem keeps_setState {P : OrderbookState → Prop} {p : OrderbookPhase41Processor}
    (symbol : String) {s : OrderbookState} (hs : P s) : Keeps P p (p.setState symbol s) :=
  ⟨rfl, rfl, fun h => h.set hs _⟩

theorem keeps_cleanupSymbol {P : OrderbookState → Prop} (p : OrderbookPhase41Processor)
    (symbol : String) : Keeps P p (p.cleanupSymbol symbol) :=
  ⟨rfl, rfl, fun h => Dict.forall_entries_pop (P := fun _ s => P s) _ h⟩

theorem finishUpdate_states (p : OrderbookPhase41Processor) (symbol : String)
    (state : OrderbookState) : (p.finishUpdate symbol state).states = p.states := by
  rw [finishUpdate]

theorem keeps_finishUpdate {P : OrderbookState → Prop} (p : OrderbookPhase41Processor)
    (symbol : String) (state : OrderbookState) : Keeps P p (p.finishUpdate symbol state) := by
  rw [finishUpdate]
  split <;> exact .of_states rfl rfl rfl

theorem keeps_observeBookAge {P : OrderbookState → Prop} (p : OrderbookPhase41Processor)
    (symbol : String) {state : OrderbookState} (hs : P state) (age : Option ℚ) :
    Keeps P p (p.observeBookAge symbol state age) := ⟨rfl, rfl, fun h => h.set hs _⟩

theorem keeps_checkApplyStale {P : OrderbookState → Prop} (p : OrderbookPhase41Processor)
    (symbol : String) (applyAge feedAge : Option ℚ) (queueSize : ℤ) :
    Keeps P p (p.checkApplyStale symbol applyAge feedAge queueSize) := by
  simp only [checkApplyStale, recordProcessorApplyStale]
  split
  · split <;> exact .of_states rfl rfl rfl
  · exact .of_states rfl rfl rfl

/-- Loading a snapshot keeps an invariant that the state with the snapshot has. -/
theorem keeps_loadSnapshot {p : OrderbookPhase41Processor} (a : SnapshotLoad)
    (hs : P ((p.stateFor a.symbol a.monotonicNow).applySnapshot (snapshotArgs a)).1) :
    Keeps P p (p.loadSnapshot a).1 := by
  simp only [OrderbookPhase41Processor.loadSnapshot]
  split
  · exact (keeps_setState _ hs).trans (.of_states rfl rfl rfl)
  · exact (keeps_setState _ hs).trans (.of_states rfl rfl rfl)

section

variable {P : OrderbookState → Prop} (hP : StateInv P)

include hP

theorem EachState.init (c : Phase41Settings) :
    EachState P (OrderbookPhase41Processor.init c) := by
  refine Dict.forall_entries_ofList (P := fun _ s => P s) fun e he => ?_
  obtain ⟨symbol, -, rfl⟩ := List.mem_map.mp he
  exact hP.init ..

/-- The state of a symbol has the property when all stored states have it. -/
theorem EachState.stateFor {p : OrderbookPhase41Processor} (h : EachState P p)
    (symbol : String) (now : ℤ) : P (p.stateFor symbol now) := by
  rw [OrderbookPhase41Processor.stateFor]
  cases hs : p.states.get? (upper symbol) with
  | none => exact hP.init ..
  | some s => exact h (upper symbol, s) (Dict.mem_entries_iff.mpr hs)

/-! ### Stale periods -/

theorem keeps_recordFeedReceiveStale (p : OrderbookPhase41Processor) (symbol : String)
    {state : OrderbookState} (hs : P state) (now : ℤ) (age : ℚ) (clock : ℤ) :
    Keeps P p (p.recordFeedReceiveStale symbol state now age clock).1 := by
  simp only [recordFeedReceiveStale]
  split
  · exact ⟨rfl, rfl, fun h => h.set (hP.markNotReady _ _ _ _ _ _ hs) _⟩
  · exact .of_states rfl rfl rfl

theorem keeps_checkStaleState (p : OrderbookPhase41Processor) (symbol : String)
    {state : OrderbookState} (hs : P state) (now : ℤ) (active : Bool)
    (queueSize clock : ℤ) :
    Keeps P p (p.checkStaleState symbol state now active queueSize clock).1 := by
  have hseen := hP.staleCheck state now hs
  have hage := keeps_observeBookAge p symbol hseen (state.bookAgeMs now)
  simp only [checkStaleState]
  split
  · split
    · exact hage.trans (.of_states rfl rfl rfl)
    · exact hage
  · split
    · split
      · exact hage.trans (.of_states rfl rfl rfl)
      · exact hage
    · split
      · split
        · exact hage.trans (keeps_recordFeedReceiveStale hP _ _ hseen ..)
        · exact hage.trans (keeps_checkApplyStale ..)
      · exact hage.trans (keeps_checkApplyStale ..)

theorem keeps_checkStaleSymbols (now : ℤ) (active : Bool) (queueSize clock : ℤ)
    (symbols : List String) {p : OrderbookPhase41Processor} (hp : EachState P p) :
    Keeps P p (checkStaleSymbols now active queueSize clock symbols p).1 := by
  induction symbols generalizing p with
  | nil => exact .of_states rfl rfl rfl
  | cons symbol symbols ih =>
      rw [checkStaleSymbols]
      cases hs : p.states.get? symbol with
      | none => exact ih hp
      | some state =>
          have hstate : P state := hp (symbol, state) (Dict.mem_entries_iff.mpr hs)
          have hfirst := keeps_checkStaleState hP p symbol hstate now active queueSize clock
          exact hfirst.trans (ih (hfirst.states hp))

theorem keeps_checkStalePeriods {p : OrderbookPhase41Processor} (hp : EachState P p)
    (now : Option ℤ) (symbols : List String) (feedActive : Option Bool)
    (queueSize clock : ℤ) :
    Keeps P p (p.checkStalePeriods now symbols feedActive queueSize clock).1 :=
  keeps_checkStaleSymbols hP _ _ _ _ _ hp

/-! ### The other calls -/

theorem keeps_bridgeMissing {p : OrderbookPhase41Processor} (hp : EachState P p)
    (symbol : String) (now : ℤ) : Keeps P p (p.bridgeMissing symbol now) :=
  (keeps_setState symbol (hP.markNotReady _ _ _ _ _ _ (hp.stateFor hP symbol now))).trans
    (.of_states rfl rfl rfl)

theorem keeps_validateReportedBest {p : OrderbookPhase41Processor} (hp : EachState P p)
    (symbol : String) (bid ask : Option ℚ) (r : DepthReadings) :
    Keeps P p (p.validateReportedBest symbol bid ask r).1 := by
  have hs : P (p.stateFor symbol r.received) := hp.stateFor hP ..
  rw [validateReportedBest]
  simp only [copySnapshot_eq (hP.book _ hs), ensurePriceIndexes_eq_self (hP.book _ hs)]
  exact (keeps_setState symbol hs).trans (keeps_setState symbol hs)

/-- Receiving an update counts it. It keeps an invariant that noting the receive time
keeps. -/
theorem keeps_receive {p : OrderbookPhase41Processor} (hp : EachState P p)
    (event : DepthUpdate) (r : DepthReadings)
    (hrecv : ∀ s, P s → P (s.recordMessageRecv (recvTime event r))) :
    Keeps P p.countReceived (p.receive event r) := by
  have hs := hrecv _ (hp.stateFor hP event.symbol r.received)
  have hset := keeps_setState (p := p.countReceived) event.symbol hs
  rw [OrderbookPhase41Processor.receive]
  have hcheck := keeps_checkStalePeriods hP (p := (((p.setState event.symbol
    ((p.stateFor event.symbol r.received).recordMessageRecv
      (recvTime event r))).recordWsMessageRecv event.symbol (recvTime event r)).countReceived))
    (hset.states hp) (some (recvTime event r)) [event.symbol] (some true) 0 r.received
  exact ⟨hcheck.tally, hcheck.settings, fun _ => hcheck.states (hset.states hp)⟩

/-- The snapshot or the delta of a call keeps an invariant of states. -/
def KeptBy (P : OrderbookState → Prop) : ProcessorCall → Prop
  | .loadSnapshot a => ∀ s, P s → P (s.applySnapshot (snapshotArgs a)).1
  | .processDepthUpdate event _ r => ∀ s, P s →
      P (s.recordMessageRecv (recvTime event r)) ∧ P (s.applyDelta (deltaArgs event r)).1
  | _ => True

/-- Whether a call is a depth update. -/
def ProcessorCall.isDepthUpdate : ProcessorCall → Bool
  | .processDepthUpdate _ _ _ => true
  | _ => false

/-- Every call but a depth update keeps the tally. -/
theorem keeps_next {p : OrderbookPhase41Processor} (hp : EachState P p) {call : ProcessorCall}
    (hk : KeptBy P call) (hd : call.isDepthUpdate = false) :
    Keeps P p (phase41Machine.next p call) := by
  cases call with
  | loadSnapshot a => exact keeps_loadSnapshot a (hk _ (hp.stateFor hP ..))
  | processDepthUpdate event queueLagMs r => cases hd
  | bridgeMissing symbol now => exact keeps_bridgeMissing hP hp symbol now
  | checkStalePeriods now symbols feedActive queueSize clock =>
      exact keeps_checkStalePeriods hP hp now symbols feedActive queueSize clock
  | validateReportedBest symbol bid ask r =>
      exact keeps_validateReportedBest hP hp symbol bid ask r
  | cleanupSymbol symbol => exact keeps_cleanupSymbol p symbol
  | recordWsMessageRecv symbol ns => exact .of_states rfl rfl rfl
  | markSnapshotRecoveryActive symbol active => exact .of_states rfl rfl rfl
  | setCaptureActive active => exact .of_states rfl rfl rfl

end

/-! ### Depth updates -/

/-- The state a depth update leaves its symbol in, with the result of the delta. -/
def appliedState (p : OrderbookPhase41Processor) (event : DepthUpdate) (r : DepthReadings) :
    OrderbookState × OrderbookApplyResult :=
  ((p.receive event r).stateFor event.symbol r.received).applyDelta (deltaArgs event r)

/-- The copy of a state made while an event is processed. -/
def depthCopy (p : OrderbookPhase41Processor) (s : OrderbookState) (event : DepthUpdate)
    (r : DepthReadings) : OrderbookSnapshot :=
  s.copyOf (p.copyArgs s (eventWallTs event) r) (s.bids.descending.take p.depthN.toNat)
    (s.asks.ascending.take p.depthN.toNat)

/-- The processor that has counted an accepted update and stored its state. -/
def acceptedUpdate (p : OrderbookPhase41Processor) (event : DepthUpdate)
    (r : DepthReadings) : OrderbookPhase41Processor :=
  (((p.receive event r).setState event.symbol
    (appliedState p event r).1).countAccepted.closeStalePeriod event.symbol).setState
    event.symbol (appliedState p event r).1

/-- The processor that has counted a rejected update and stored its state. -/
def rejectedUpdate (p : OrderbookPhase41Processor) (event : DepthUpdate)
    (r : DepthReadings) : OrderbookPhase41Processor :=
  ((p.receive event r).setState event.symbol (appliedState p event r).1).countRejected
    (appliedState p event r).2.status

section

variable {p : OrderbookPhase41Processor} {event : DepthUpdate} {r : DepthReadings}
  (lag : Option ℚ)

/-- An accepted update is counted, copied and validated, and its sample emitted or
blocked. -/
theorem processDepthUpdate_of_accepted (hs : BookInv (appliedState p event r).1)
    (h : (appliedState p event r).2.accepted = true) :
    let q := acceptedUpdate p event r
    let s := (appliedState p event r).1
    let snapshot := depthCopy q s event r
    let out := q.maybeEmitOrBlockSample snapshot (q.depthQuality s snapshot event lag r)
      event.exchangeEventTs
    p.processDepthUpdate event lag r =
      (out.1.finishUpdate event.symbol s, .applied (appliedState p event r).2 out.2) := by
  rw [appliedState] at hs h
  simp only [processDepthUpdate, h, if_true, copySnapshot_eq hs, ensurePriceIndexes_eq_self hs]
  rfl

/-- A rejected update is counted under its status, and emits nothing. -/
theorem processDepthUpdate_of_rejected (hs : BookInv (appliedState p event r).1)
    (h : (appliedState p event r).2.accepted = false) :
    let q := rejectedUpdate p event r
    let s := (appliedState p event r).1
    (p.processDepthUpdate event lag r).2 = .applied (appliedState p event r).2 none ∧
      ((p.processDepthUpdate event lag r).1 = q.finishUpdate event.symbol s ∨
        (p.processDepthUpdate event lag r).1 =
          (q.setState event.symbol s).finishUpdate event.symbol s) := by
  rw [appliedState] at hs h
  simp only [processDepthUpdate, h, Bool.false_eq_true, if_false, copySnapshot_eq hs,
    ensurePriceIndexes_eq_self hs]
  split
  · exact ⟨rfl, Or.inr rfl⟩
  · exact ⟨rfl, Or.inl rfl⟩

end

/-- The status of a rejected delta is one of those that are counted. -/
theorem rejected_status {s : OrderbookState} {a : DeltaArgs}
    (h : (s.applyDelta a).2.accepted = false) :
    ((s.applyDelta a).2.status = .deltaBeforeSnapshot ∨
      (s.applyDelta a).2.status = .duplicateUpdate) ∨
    (s.applyDelta a).2.status.opensGap = true := by
  cases applyDelta_outcome s a with
  | skipped _ status _ => exact Or.inl status
  | failed _ _ _ status => exact Or.inr status
  | applied _ accepted => rw [h] at accepted; cases accepted

/-! ### Accounting -/

/-- The book invariant is kept by every call. -/
theorem keptBy_bookInv (call : ProcessorCall) : KeptBy BookInv call := by
  cases call with
  | loadSnapshot a => exact fun s hs => hs.applySnapshot _
  | processDepthUpdate event lag r =>
      exact fun s hs => ⟨hs.congr rfl rfl rfl rfl, hs.applyDelta _⟩
  | _ => trivial

theorem bookInv_stateInv : StateInv BookInv where
  init _ _ _ := ⟨.empty, .empty⟩
  markNotReady _ _ _ _ _ _ h := h.congr rfl rfl rfl rfl
  staleCheck _ _ h := h.congr rfl rfl rfl rfl
  book _ h := h

/-- The books have their invariant, and all updates but `inFlight` are accounted for. -/
structure Accounted (inFlight : ℕ) (p : OrderbookPhase41Processor) : Prop where
  books : EachState BookInv p
  balanced : Balanced inFlight (tally p)

theorem Keeps.accounted {p q : OrderbookPhase41Processor} (h : Keeps BookInv p q) {n : ℕ}
    (hp : Accounted n p) : Accounted n q :=
  ⟨h.states hp.books, by rw [h.tally]; exact hp.balanced⟩

/-- A received update is in flight. -/
theorem receive_accounted {p : OrderbookPhase41Processor} (h : Accounted 0 p)
    (event : DepthUpdate) (r : DepthReadings) : Accounted 1 (p.receive event r) := by
  refine (keeps_receive bookInv_stateInv h.books event r ?_).accounted ⟨h.books, ?_⟩
  · exact fun s hs => hs.congr rfl rfl rfl rfl
  · exact ⟨congrArg (· + 1) h.balanced.received, h.balanced.accepted, h.balanced.rejected⟩

/-- Emitting or blocking a sample counts the one or the other. -/
theorem maybeEmitOrBlockSample_counts (p : OrderbookPhase41Processor)
    (snapshot : OrderbookSnapshot) (quality : OrderbookQualityResult) (ts : Option ℤ) :
    let q := (p.maybeEmitOrBlockSample snapshot quality ts).1
    (tally q = { tally p with samplesEmitted := (tally p).samplesEmitted + 1 } ∨
      tally q = { tally p with samplesBlocked := (tally p).samplesBlocked + 1 }) ∧
    sampleSettings q = sampleSettings p ∧ q.states = p.states := by
  simp only [maybeEmitOrBlockSample]
  split
  · exact ⟨Or.inr rfl, rfl, rfl⟩
  · split
    · exact ⟨Or.inr rfl, rfl, rfl⟩
    · exact ⟨Or.inl rfl, rfl, rfl⟩

/-- A rejected delta is counted under exactly one status. -/
theorem countRejected_accounted {p : OrderbookPhase41Processor} {status : ApplyStatus}
    (hstatus : (status = .deltaBeforeSnapshot ∨ status = .duplicateUpdate) ∨
      status.opensGap = true)
    (h : Accounted 1 p) : Accounted 0 (p.countRejected status) := by
  have hreceived := h.balanced.received
  have hrejected := h.balanced.rejected
  simp only [tally] at hreceived hrejected
  obtain rfl | rfl | rfl | rfl | rfl | rfl : status = .deltaBeforeSnapshot ∨
      status = .duplicateUpdate ∨ status = .sequenceGapOrReset ∨
      status = .sequenceBridgeFailed ∨ status = .previousFinalUpdateIdMismatch ∨
      status = .invalidDeltaLevels := by
    simpa [opensGap_iff, or_assoc] using hstatus
  all_goals
    refine ⟨h.books, ?_, h.balanced.accepted, ?_⟩ <;>
      simp only [tally, countRejected, WSLifecycleTracker.onDeltaBeforeSnapshot,
        WSLifecycleTracker.onDuplicate, WSLifecycleTracker.onSequenceGap] <;> omega

/-- An accepted delta is counted once more as an emitted or a blocked sample. -/
theorem countAccepted_accounted {p : OrderbookPhase41Processor} (h : Accounted 1 p)
    {state : OrderbookState} (hs : BookInv state) (symbol : String)
    (snapshot : OrderbookSnapshot) (quality : OrderbookQualityResult) (ts : Option ℤ) :
    Accounted 0 (((p.countAccepted.closeStalePeriod symbol).setState symbol
      state).maybeEmitOrBlockSample snapshot quality ts).1 := by
  obtain ⟨hcount, -, hstates⟩ := maybeEmitOrBlockSample_counts
    ((p.countAccepted.closeStalePeriod symbol).setState symbol state) snapshot quality ts
  have hreceived := h.balanced.received
  have haccepted := h.balanced.accepted
  refine ⟨?_, ?_⟩
  · rw [EachState, hstates]
    exact ((keeps_setState symbol hs).accounted h).books
  · rcases hcount with hcount | hcount <;> rw [hcount]
    all_goals
      refine ⟨?_, ?_, h.balanced.rejected⟩ <;>
        simp only [tally, countAccepted, closeStalePeriod, setState] at hreceived haccepted ⊢ <;>
        omega

theorem bookInv_appliedState {p : OrderbookPhase41Processor} (hp : EachState BookInv p)
    (event : DepthUpdate) (r : DepthReadings) : BookInv (appliedState p event r).1 := by
  have hreceive := keeps_receive bookInv_stateInv hp event r
    fun s hs => hs.congr rfl rfl rfl rfl
  exact ((hreceive.states hp).stateFor bookInv_stateInv event.symbol r.received).applyDelta
    (deltaArgs event r)

/-- **A depth update is accounted for once.** -/
theorem processDepthUpdate_accounted {p : OrderbookPhase41Processor} (h : Accounted 0 p)
    (event : DepthUpdate) (queueLagMs : Option ℚ) (r : DepthReadings) :
    Accounted 0 (p.processDepthUpdate event queueLagMs r).1 := by
  have hs := bookInv_appliedState h.books event r
  have hset := (keeps_setState event.symbol hs).accounted (receive_accounted h event r)
  cases haccepted : (appliedState p event r).2.accepted with
  | true =>
      rw [processDepthUpdate_of_accepted queueLagMs hs haccepted]
      exact (keeps_finishUpdate _ _ _).accounted (countAccepted_accounted hset hs ..)
  | false =>
      have hcounted := countRejected_accounted (rejected_status haccepted) hset
      rcases (processDepthUpdate_of_rejected queueLagMs hs haccepted).2 with hq | hq
      · rw [hq]
        exact (keeps_finishUpdate _ _ _).accounted hcounted
      · rw [hq]
        exact (keeps_finishUpdate _ _ _).accounted ((keeps_setState _ hs).accounted hcounted)

/-! ### Runs -/

/-- Every call keeps the processor accounted for. -/
theorem Accounted.next {p : OrderbookPhase41Processor} (h : Accounted 0 p)
    (call : ProcessorCall) : Accounted 0 (phase41Machine.next p call) := by
  cases hd : call.isDepthUpdate with
  | false =>
      exact (keeps_next bookInv_stateInv h.books (keptBy_bookInv call) hd).accounted h
  | true =>
      cases call with
      | processDepthUpdate event lag r => exact processDepthUpdate_accounted h event lag r
      | _ => cases hd

theorem accounted_exec (c : Phase41Settings) (calls : List ProcessorCall) :
    Accounted 0 (phase41Machine.exec (OrderbookPhase41Processor.init c) calls) :=
  phase41Machine.exec_invariant (fun _ call h => h.next call)
    ⟨EachState.init bookInv_stateInv c, rfl, rfl, rfl⟩ calls

/-- **The counters balance.** After every run of the processor, each received update was
accepted or rejected, each accepted one emitted a sample or was blocked, and each
rejected one is counted under its status. -/
theorem OrderbookPhase41Processor.counters_balanced (c : Phase41Settings)
    (calls : List ProcessorCall) :
    let p := phase41Machine.exec (OrderbookPhase41Processor.init c) calls
    p.counters.messagesReceived = p.counters.deltasAccepted + p.counters.deltasRejected ∧
    p.counters.deltasAccepted = p.counters.samplesEmitted + p.counters.samplesBlocked ∧
    p.counters.deltasRejected =
      p.lifecycle.counters.deltaBeforeSnapshotCount +
        p.lifecycle.counters.duplicateMessagesSkipped +
        p.lifecycle.counters.sequenceGapCount +
        p.counters.previousFinalUpdateIdMismatchCount +
        p.counters.invalidDeltaCount := by
  intro p
  obtain ⟨hreceived, haccepted, hrejected⟩ := (accounted_exec c calls).balanced
  exact ⟨hreceived, haccepted, hrejected⟩

end SomethingTrade
