import SomethingTrade.Phase41Samples

/-!
# Alarms of Stalled Processing

The processor raises an alarm when messages of a symbol arrive and are not applied: the last
message is recent and the last update of the book is not. A depth update notes its message, then
checks its symbol, and only then is applied. So the check of the first update after a pause finds
a message that arrived just now and a book as old as the pause, and raises the alarm although the
update is applied.

## Main results

* `Fresh.next`: in a run without rejected updates no message is later than the last update of its
  book, so the checks between the updates raise no alarm.
* `stall_alarm_iff`: a run raises no alarm exactly when each update arrives in time; and in every
  run a symbol is counted at most once from a check that finds it not stalled to the next.
-/

namespace SomethingTrade

open OrderbookPhase41Processor

/-! ### What the alarms depend on -/

/-- The last update of a book. -/
def lastBookUpdate (p : OrderbookPhase41Processor) (key : String) : Option ℤ :=
  (p.states.get? key).bind OrderbookState.lastBookUpdateMonotonicNs

/-- Whether an alarm of a symbol is open. -/
def isOpen (p : OrderbookPhase41Processor) (symbol : String) : Bool :=
  (p.openProcessorApplyStaleSymbols.get? symbol).isSome

/-- How many alarms were raised. -/
def stallCount (p : OrderbookPhase41Processor) : ℕ := p.counters.processorApplyStaleCount

/-- A step keeps what the alarms depend on, but for the messages. -/
structure SameStalls (p q : OrderbookPhase41Processor) : Prop where
  count : stallCount q = stallCount p
  opened : q.openProcessorApplyStaleSymbols = p.openProcessorApplyStaleSymbols
  messages : q.lastWsMessageRecvMonotonicNs = p.lastWsMessageRecvMonotonicNs
  books : ∀ key, lastBookUpdate q key = lastBookUpdate p key

namespace SameStalls

theorem trans {p q r : OrderbookPhase41Processor} (h : SameStalls p q) (h' : SameStalls q r) :
    SameStalls p r :=
  ⟨h'.count.trans h.count, h'.opened.trans h.opened, h'.messages.trans h.messages,
    fun key => (h'.books key).trans (h.books key)⟩

/-- A step that does not touch the states. -/
theorem of_states {p q : OrderbookPhase41Processor} (hcount : stallCount q = stallCount p)
    (hopened : q.openProcessorApplyStaleSymbols = p.openProcessorApplyStaleSymbols)
    (hmessages : q.lastWsMessageRecvMonotonicNs = p.lastWsMessageRecvMonotonicNs)
    (hstates : q.states = p.states) : SameStalls p q :=
  ⟨hcount, hopened, hmessages, fun key => by rw [lastBookUpdate, lastBookUpdate, hstates]⟩

end SameStalls

theorem lastBookUpdate_set (p : OrderbookPhase41Processor) (symbol key : String)
    (s : OrderbookState) :
    ((p.states.set symbol s).get? key).bind OrderbookState.lastBookUpdateMonotonicNs =
      if symbol = key then s.lastBookUpdateMonotonicNs else lastBookUpdate p key := by
  rw [Dict.get?_set]
  split
  · rfl
  · rfl

/-- The last update of the book of a symbol's state. -/
theorem lastBookUpdate_stateFor (p : OrderbookPhase41Processor) (symbol : String) (now : ℤ) :
    (p.stateFor symbol now).lastBookUpdateMonotonicNs = lastBookUpdate p (upper symbol) := by
  rw [stateFor, lastBookUpdate]
  cases p.states.get? (upper symbol) <;> rfl

/-- Storing a state with the last update of its book. -/
theorem sameStalls_setState {p : OrderbookPhase41Processor} {symbol : String}
    {s : OrderbookState}
    (h : s.lastBookUpdateMonotonicNs = lastBookUpdate p (upper symbol)) :
    SameStalls p (p.setState symbol s) := by
  refine ⟨rfl, rfl, rfl, fun key => ?_⟩
  rw [lastBookUpdate, setState, lastBookUpdate_set]
  split
  · rename_i heq
    rw [h, heq]
  · rfl

theorem lastBookUpdate_ensurePriceIndexes (s : OrderbookState) :
    s.ensurePriceIndexes.lastBookUpdateMonotonicNs = s.lastBookUpdateMonotonicNs := by
  rw [OrderbookState.ensurePriceIndexes]
  split <;> rfl

/-! ### Checks and their verdicts -/

/-- Whether the check of a symbol finds it stalled, if it is a check of that. -/
def applyVerdict (p : OrderbookPhase41Processor) (symbol : String) (state : OrderbookState)
    (now : ℤ) (active : Bool) (queueSize : ℤ) : Option Bool :=
  if active = false ∨ (p.snapshotRecoveryActiveSymbols.get? symbol).isSome ∨
      (p.feedReceiveAgeMs symbol now).any (· > p.feedReceiveStaleThresholdMs) ∧ queueSize = 0 then
    none
  else
    some (p.processorApplyStale (state.bookAgeMs now) (p.feedReceiveAgeMs symbol now) queueSize)

/-- What a check that finds a symbol stalled or not does to the alarms. -/
structure Judged (p q : OrderbookPhase41Processor) (symbol : String) (stalled : Bool) : Prop where
  count : stallCount q = stallCount p + if stalled ∧ ¬ isOpen p symbol then 1 else 0
  opened : ∀ other, isOpen q other = if other = symbol then stalled else isOpen p other
  messages : q.lastWsMessageRecvMonotonicNs = p.lastWsMessageRecvMonotonicNs
  books : ∀ key, lastBookUpdate q key = lastBookUpdate p key

/-- A check that does not look for a stalled symbol, or one that does. -/
def CheckStep (p q : OrderbookPhase41Processor) (symbol : String) : Option Bool → Prop
  | none => SameStalls p q
  | some stalled => Judged p q symbol stalled

theorem SameStalls.trans_checkStep {p q r : OrderbookPhase41Processor} {symbol : String}
    {verdict : Option Bool} (h : SameStalls p q) (h' : CheckStep q r symbol verdict) :
    CheckStep p r symbol verdict := by
  have hopen (other : String) : isOpen q other = isOpen p other := by
    rw [isOpen, isOpen, h.opened]
  cases verdict with
  | none => exact h.trans h'
  | some stalled =>
      refine ⟨?_, fun other => ?_, h'.messages.trans h.messages, fun key =>
        (h'.books key).trans (h.books key)⟩
      · rw [h'.count, h.count, hopen]
      · rw [h'.opened, hopen]

/-- The check of a symbol whose feed is not stale. -/
theorem judged_checkApplyStale (p : OrderbookPhase41Processor) (symbol : String)
    (applyAge feedAge : Option ℚ) (queueSize : ℤ) :
    Judged p (p.checkApplyStale symbol applyAge feedAge queueSize) symbol
      (p.processorApplyStale applyAge feedAge queueSize) := by
  have hkept : (p.closeStalePeriod symbol).processorApplyStale applyAge feedAge queueSize =
      p.processorApplyStale applyAge feedAge queueSize := rfl
  rw [checkApplyStale, hkept]
  by_cases hstalled : p.processorApplyStale applyAge feedAge queueSize = true
  · rw [if_pos hstalled, hstalled, recordProcessorApplyStale]
    by_cases hopen : isOpen p symbol = true
    · have hclosed : ((p.closeStalePeriod symbol).openProcessorApplyStaleSymbols.get?
          symbol).isSome = true := hopen
      rw [if_pos hclosed]
      refine ⟨by simp [hopen, stallCount, closeStalePeriod], fun other => ?_, rfl, fun key => rfl⟩
      split
      · rename_i heq
        rw [heq]
        exact hopen
      · rfl
    · have hclosed : ¬ ((p.closeStalePeriod symbol).openProcessorApplyStaleSymbols.get?
          symbol).isSome = true := hopen
      rw [if_neg hclosed]
      refine ⟨by simp [hopen, stallCount, closeStalePeriod], fun other => ?_, rfl, fun key => rfl⟩
      simp only [isOpen, closeStalePeriod, Dict.get?_set, eq_comm (a := symbol)]
      split <;> rfl
  · rw [if_neg hstalled]
    rw [Bool.not_eq_true] at hstalled
    refine ⟨by simp [hstalled, stallCount, closeStalePeriod], fun other => ?_, rfl,
      fun key => rfl⟩
    simp only [isOpen, closeStalePeriod, Dict.get?_pop, eq_comm (a := symbol), hstalled]
    split <;> rfl

/-- The age of a book is stored without touching the alarms. -/
theorem sameStalls_observeBookAge {p : OrderbookPhase41Processor} {symbol : String}
    {state : OrderbookState} (hstate : p.states.get? symbol = some state) (now : ℤ)
    (age : Option ℚ) :
    SameStalls p
      (p.observeBookAge symbol { state with lastStaleCheckMonotonicNs := some now } age) := by
  refine ⟨rfl, rfl, rfl, fun key => ?_⟩
  refine (lastBookUpdate_set p symbol key _).trans ?_
  split
  · rename_i heq
    rw [lastBookUpdate, ← heq, hstate]
    rfl
  · rfl

/-- A feed that is stale takes the book out of use and raises no alarm. -/
theorem sameStalls_recordFeedReceiveStale {p : OrderbookPhase41Processor} {symbol : String}
    {state : OrderbookState}
    (hbook : state.lastBookUpdateMonotonicNs = lastBookUpdate p symbol) (now : ℤ) (age : ℚ)
    (clock : ℤ) :
    SameStalls p (p.recordFeedReceiveStale symbol state now age clock).1 := by
  rw [recordFeedReceiveStale]
  split
  · refine ⟨rfl, rfl, rfl, fun key => ?_⟩
    rw [lastBookUpdate, lastBookUpdate_set]
    split
    · rename_i heq
      rw [← heq, ← hbook]
      rfl
    · rfl
  · exact .of_states rfl rfl rfl rfl

/-- The check of a symbol raises an alarm as its verdict says. -/
theorem checkStep_checkStaleState {p : OrderbookPhase41Processor} {symbol : String}
    {state : OrderbookState} (hstate : p.states.get? symbol = some state) (now : ℤ)
    (active : Bool) (queueSize clock : ℤ) :
    CheckStep p (p.checkStaleState symbol state now active queueSize clock).1 symbol
      (applyVerdict p symbol state now active queueSize) := by
  have hage := sameStalls_observeBookAge hstate now (state.bookAgeMs now)
  refine hage.trans_checkStep ?_
  set q := p.observeBookAge symbol { state with lastStaleCheckMonotonicNs := some now }
    (state.bookAgeMs now) with hq
  have hbook : state.lastBookUpdateMonotonicNs = lastBookUpdate q symbol := by
    rw [hage.books, lastBookUpdate, hstate]
    rfl
  -- storing the age keeps what the verdict is about
  have hverdict : applyVerdict p symbol state now active queueSize =
      applyVerdict q symbol state now active queueSize := rfl
  rw [hverdict]
  simp only [checkStaleState, ← hq]
  by_cases hactive : active = false
  · have hnone : applyVerdict q symbol state now active queueSize = none :=
      if_pos (.inl hactive)
    rw [if_pos hactive, hnone]
    split <;> exact SameStalls.of_states rfl rfl rfl rfl
  rw [if_neg hactive]
  by_cases hrecovery : (q.snapshotRecoveryActiveSymbols.get? symbol).isSome = true
  · have hnone : applyVerdict q symbol state now active queueSize = none :=
      if_pos (.inr (.inl hrecovery))
    rw [if_pos hrecovery, hnone]
    split <;> exact SameStalls.of_states rfl rfl rfl rfl
  rw [if_neg hrecovery]
  by_cases hstale : (q.feedReceiveAgeMs symbol now).any
      (· > q.feedReceiveStaleThresholdMs) = true ∧ queueSize = 0
  · have hnone : applyVerdict q symbol state now active queueSize = none :=
      if_pos (.inr (.inr hstale))
    rw [hnone]
    cases hfeed : q.feedReceiveAgeMs symbol now with
    | none =>
        rw [hfeed] at hstale
        cases hstale.1
    | some age =>
        rw [hfeed] at hstale
        simp only [if_pos (show age > q.feedReceiveStaleThresholdMs ∧ queueSize = 0 from
          ⟨by simpa using hstale.1, hstale.2⟩)]
        exact @sameStalls_recordFeedReceiveStale q symbol
          { state with lastStaleCheckMonotonicNs := some now } hbook now age clock
  · have hsome : applyVerdict q symbol state now active queueSize = some
        (q.processorApplyStale (state.bookAgeMs now) (q.feedReceiveAgeMs symbol now)
          queueSize) := by
      rw [applyVerdict, if_neg]
      rintro (h | h | h)
      · exact hactive h
      · exact hrecovery h
      · exact hstale h
    rw [hsome]
    cases hfeed : q.feedReceiveAgeMs symbol now with
    | none => exact judged_checkApplyStale ..
    | some age =>
        rw [hfeed] at hstale
        simp only [if_neg (show ¬ (age > q.feedReceiveStaleThresholdMs ∧ queueSize = 0) from
          fun h => hstale ⟨by simpa using h.1, h.2⟩)]
        exact judged_checkApplyStale ..

/-! ### Runs of checks -/

/-- The verdict of a check of a symbol, and by how much it raised the count. -/
structure StallVerdict where
  symbol : String
  stalled : Bool
  growth : ℕ

/-- The verdicts of the checks of some symbols, in turn. -/
def checkVerdicts (now : ℤ) (active : Bool) (queueSize clock : ℤ) :
    List String → OrderbookPhase41Processor → List StallVerdict
  | [], _ => []
  | symbol :: symbols, p =>
      match p.states.get? symbol with
      | none => checkVerdicts now active queueSize clock symbols p
      | some state =>
          let q := (p.checkStaleState symbol state now active queueSize clock).1
          ((applyVerdict p symbol state now active queueSize).map fun stalled =>
            ⟨symbol, stalled, stallCount q - stallCount p⟩).toList ++
          checkVerdicts now active queueSize clock symbols q

/-- Which symbols have an open alarm after a verdict. -/
def opensAfter (opened : String → Bool) (v : StallVerdict) : String → Bool :=
  fun symbol => if symbol = v.symbol then v.stalled else opened symbol

/-- Each verdict that finds a symbol stalled whose alarm is not open raises the count by one, and
no other verdict raises it. -/
def Coherent : (String → Bool) → List StallVerdict → Prop
  | _, [] => True
  | opened, v :: vs =>
      v.growth = (if v.stalled ∧ ¬ opened v.symbol then 1 else 0) ∧
        Coherent (opensAfter opened v) vs

theorem coherent_append {opened : String → Bool} {xs ys : List StallVerdict} :
    Coherent opened (xs ++ ys) ↔
      Coherent opened xs ∧ Coherent (xs.foldl opensAfter opened) ys := by
  induction xs generalizing opened with
  | nil => simp [Coherent]
  | cons x xs ih => simp [Coherent, ih, and_assoc]

/-- By how much some verdicts raise the count. -/
def growthOf (vs : List StallVerdict) : ℕ := (vs.map StallVerdict.growth).sum

/-- Some checks made of one processor another, with their verdicts. -/
structure Checked (p q : OrderbookPhase41Processor) (vs : List StallVerdict) : Prop where
  coherent : Coherent (isOpen p) vs
  opened : isOpen q = vs.foldl opensAfter (isOpen p)
  count : stallCount q = stallCount p + growthOf vs

theorem Checked.trans {p q r : OrderbookPhase41Processor} {xs ys : List StallVerdict}
    (h : Checked p q xs) (h' : Checked q r ys) : Checked p r (xs ++ ys) := by
  refine ⟨coherent_append.mpr ⟨h.coherent, h.opened ▸ h'.coherent⟩, ?_, ?_⟩
  · rw [h'.opened, h.opened, List.foldl_append]
  · rw [h'.count, h.count, growthOf, growthOf, growthOf, List.map_append, List.sum_append,
      Nat.add_assoc]

theorem SameStalls.checked {p q : OrderbookPhase41Processor} (h : SameStalls p q) :
    Checked p q [] :=
  ⟨trivial, funext fun symbol => by rw [isOpen, h.opened]; rfl, h.count⟩

theorem CheckStep.checked {p q : OrderbookPhase41Processor} {symbol : String}
    {verdict : Option Bool} (h : CheckStep p q symbol verdict) :
    Checked p q (verdict.map fun stalled =>
      (⟨symbol, stalled, stallCount q - stallCount p⟩ : StallVerdict)).toList := by
  cases verdict with
  | none => exact SameStalls.checked h
  | some stalled =>
      have hgrowth : stallCount q - stallCount p =
          if stalled ∧ ¬ isOpen p symbol then 1 else 0 := by
        rw [h.count, Nat.add_sub_cancel_left]
      refine ⟨⟨hgrowth, trivial⟩, funext fun other => ?_, ?_⟩
      · rw [h.opened]
        rfl
      · rw [h.count]
        simp [growthOf]

/-- The messages and the books that checks keep. -/
structure KeepsTimes (p q : OrderbookPhase41Processor) : Prop where
  messages : q.lastWsMessageRecvMonotonicNs = p.lastWsMessageRecvMonotonicNs
  books : ∀ key, lastBookUpdate q key = lastBookUpdate p key

theorem CheckStep.keepsTimes {p q : OrderbookPhase41Processor} {symbol : String}
    {verdict : Option Bool} (h : CheckStep p q symbol verdict) : KeepsTimes p q := by
  cases verdict with
  | none => exact ⟨SameStalls.messages h, SameStalls.books h⟩
  | some stalled => exact ⟨Judged.messages h, Judged.books h⟩

/-- Checks of some symbols have their verdicts, and keep the times. -/
theorem checked_checkStaleSymbols (now : ℤ) (active : Bool) (queueSize clock : ℤ)
    (symbols : List String) (p : OrderbookPhase41Processor) :
    Checked p (checkStaleSymbols now active queueSize clock symbols p).1
        (checkVerdicts now active queueSize clock symbols p) ∧
      KeepsTimes p (checkStaleSymbols now active queueSize clock symbols p).1 := by
  induction symbols generalizing p with
  | nil => exact ⟨(SameStalls.of_states rfl rfl rfl rfl).checked, rfl, fun _ => rfl⟩
  | cons symbol symbols ih =>
      rw [checkStaleSymbols, checkVerdicts]
      cases hstate : p.states.get? symbol with
      | none => exact ih p
      | some state =>
          have hstep := checkStep_checkStaleState hstate now active queueSize clock
          obtain ⟨hrest, htimes⟩ := ih (p.checkStaleState symbol state now active queueSize clock).1
          exact ⟨hstep.checked.trans hrest, htimes.messages.trans hstep.keepsTimes.messages,
            fun key => (htimes.books key).trans (hstep.keepsTimes.books key)⟩

/-! ### Depth updates and the other calls -/

/-- The processor that has noted the message of an update. -/
def notedMessage (p : OrderbookPhase41Processor) (event : DepthUpdate) (r : DepthReadings) :
    OrderbookPhase41Processor :=
  ((p.setState event.symbol ((p.stateFor event.symbol r.received).recordMessageRecv
    (recvTime event r))).recordWsMessageRecv event.symbol (recvTime event r)).countReceived

theorem receive_eq (p : OrderbookPhase41Processor) (event : DepthUpdate) (r : DepthReadings) :
    p.receive event r = (checkStaleSymbols (recvTime event r) true 0 r.received
      [upper event.symbol] (notedMessage p event r)).1 := rfl

theorem lastBookUpdate_notedMessage (p : OrderbookPhase41Processor) (event : DepthUpdate)
    (r : DepthReadings) (key : String) :
    lastBookUpdate (notedMessage p event r) key = lastBookUpdate p key := by
  have hset : SameStalls p (p.setState event.symbol
      ((p.stateFor event.symbol r.received).recordMessageRecv (recvTime event r))) :=
    sameStalls_setState (lastBookUpdate_stateFor p event.symbol r.received)
  exact hset.books key

theorem sameStalls_maybeEmitOrBlockSample (p : OrderbookPhase41Processor)
    (snapshot : OrderbookSnapshot) (quality : OrderbookQualityResult) (ts : Option ℤ) :
    SameStalls p (p.maybeEmitOrBlockSample snapshot quality ts).1 := by
  simp only [maybeEmitOrBlockSample]
  split
  · exact .of_states rfl rfl rfl rfl
  · split <;> exact .of_states rfl rfl rfl rfl

theorem sameStalls_countRejected (p : OrderbookPhase41Processor) (status : ApplyStatus) :
    SameStalls p (p.countRejected status) := by
  cases status <;> exact .of_states rfl rfl rfl rfl

theorem sameStalls_finishUpdate (p : OrderbookPhase41Processor) (symbol : String)
    (state : OrderbookState) : SameStalls p (p.finishUpdate symbol state) := by
  rw [finishUpdate]
  exact .of_states rfl rfl rfl rfl

/-- A state that is stored is stored again. -/
theorem sameStalls_setState_again {p q : OrderbookPhase41Processor} (symbol : String)
    (s : OrderbookState) (h : SameStalls (p.setState symbol s) q) :
    SameStalls q (q.setState symbol s) := by
  refine sameStalls_setState ?_
  rw [h.books, lastBookUpdate, setState, Dict.get?_set_self]
  rfl

theorem sameStalls_countAccepted (p : OrderbookPhase41Processor) (symbol : String) :
    SameStalls p (p.countAccepted.closeStalePeriod symbol) :=
  .of_states rfl rfl rfl rfl

/-- After its check and the delta, an update touches neither the alarms nor the times. -/
theorem sameStalls_processDepthUpdate {p : OrderbookPhase41Processor}
    (hp : EachState BookInv p) (event : DepthUpdate) (lag : Option ℚ) (r : DepthReadings) :
    SameStalls ((p.receive event r).setState event.symbol (appliedState p event r).1)
      (p.processDepthUpdate event lag r).1 := by
  have hs := bookInv_appliedState hp event r
  cases haccepted : (appliedState p event r).2.accepted with
  | true =>
      have hset : SameStalls
          ((p.receive event r).setState event.symbol (appliedState p event r).1)
          (acceptedUpdate p event r) := by
        rw [acceptedUpdate]
        have hcounted := sameStalls_countAccepted
          ((p.receive event r).setState event.symbol (appliedState p event r).1) event.symbol
        exact hcounted.trans (sameStalls_setState_again event.symbol _ hcounted)
      have hemit := sameStalls_maybeEmitOrBlockSample (acceptedUpdate p event r)
      rw [processDepthUpdate_of_accepted lag hs haccepted]
      exact (hset.trans (hemit _ _ _)).trans (sameStalls_finishUpdate _ _ _)
  | false =>
      have hcounted := sameStalls_countRejected
        ((p.receive event r).setState event.symbol (appliedState p event r).1)
        (appliedState p event r).2.status
      rcases (processDepthUpdate_of_rejected lag hs haccepted).2 with hq | hq
      · rw [hq]
        exact hcounted.trans (sameStalls_finishUpdate ..)
      · rw [hq]
        exact (hcounted.trans (sameStalls_setState_again event.symbol _ hcounted)).trans
          (sameStalls_finishUpdate ..)

/-- The verdicts of the checks a call makes. -/
def stallVerdicts (p : OrderbookPhase41Processor) : ProcessorCall → List StallVerdict
  | .processDepthUpdate event _ r =>
      checkVerdicts (recvTime event r) true 0 r.received [upper event.symbol]
        (notedMessage p event r)
  | .checkStalePeriods now symbols feedActive queueSize clock =>
      checkVerdicts (now.getD clock) (feedActive.getD p.captureActive) queueSize clock
        (if symbols = [] then p.states.keys else symbols.map upper) p
  | _ => []

/-- The verdicts of the checks of a run. -/
def stallTrace : OrderbookPhase41Processor → List ProcessorCall → List StallVerdict
  | _, [] => []
  | p, call :: calls => stallVerdicts p call ++ stallTrace (phase41Machine.next p call) calls

/-- A step that keeps the alarms makes no checks. -/
theorem checked_of_alarms {p q : OrderbookPhase41Processor} (hcount : stallCount q = stallCount p)
    (hopened : q.openProcessorApplyStaleSymbols = p.openProcessorApplyStaleSymbols) :
    Checked p q [] :=
  ⟨trivial, funext fun symbol => by rw [isOpen, hopened]; rfl, hcount⟩

/-- A depth update makes its check. -/
theorem checked_processDepthUpdate {p : OrderbookPhase41Processor} (hp : EachState BookInv p)
    (event : DepthUpdate) (lag : Option ℚ) (r : DepthReadings) :
    Checked p (p.processDepthUpdate event lag r).1
      (stallVerdicts p (.processDepthUpdate event lag r)) := by
  have hnoted : Checked p (notedMessage p event r) [] := checked_of_alarms rfl rfl
  have hcheck : Checked (notedMessage p event r) (p.receive event r)
      (stallVerdicts p (.processDepthUpdate event lag r)) :=
    (checked_checkStaleSymbols _ _ _ _ _ (notedMessage p event r)).1
  have hset : Checked (p.receive event r)
      ((p.receive event r).setState event.symbol (appliedState p event r).1) [] :=
    checked_of_alarms rfl rfl
  have hrest := (sameStalls_processDepthUpdate hp event lag r).checked
  have h := ((hnoted.trans hcheck).trans hset).trans hrest
  rwa [List.nil_append, List.append_nil, List.append_nil] at h

/-- **The step rule of the alarms.** -/
theorem checked_next {p : OrderbookPhase41Processor} (hp : EachState BookInv p)
    (call : ProcessorCall) :
    Checked p (phase41Machine.next p call) (stallVerdicts p call) := by
  cases call with
  | loadSnapshot a =>
      simp only [Machine.next, phase41Machine, loadSnapshot]
      split <;> exact checked_of_alarms rfl rfl
  | processDepthUpdate event lag r => exact checked_processDepthUpdate hp event lag r
  | checkStalePeriods now symbols feedActive queueSize clock =>
      exact (checked_checkStaleSymbols _ _ _ _ _ p).1
  | validateReportedBest symbol bid ask r =>
      simp only [Machine.next, phase41Machine, validateReportedBest]
      split <;> exact checked_of_alarms rfl rfl
  | _ => exact checked_of_alarms rfl rfl

/-- **The run rule of the alarms.** -/
theorem checked_exec {p : OrderbookPhase41Processor} (h : Accounted 0 p)
    (calls : List ProcessorCall) :
    Checked p (phase41Machine.exec p calls) (stallTrace p calls) := by
  induction calls generalizing p with
  | nil => exact checked_of_alarms rfl rfl
  | cons call calls ih => exact (checked_next h.books call).trans (ih (h.next call))

/-! ### How often a symbol is counted -/

/-- By how much the checks of a symbol raise the count. -/
def growthOfSymbol (symbol : String) (vs : List StallVerdict) : ℕ :=
  growthOf (vs.filter fun v => v.symbol = symbol)

/-- A symbol that is found stalled over and over is counted once. -/
theorem growthOfSymbol_le {symbol : String} {opened : String → Bool} {vs : List StallVerdict}
    (h : Coherent opened vs) (hstalled : ∀ v ∈ vs, v.symbol = symbol → v.stalled = true) :
    growthOfSymbol symbol vs ≤ if opened symbol then 0 else 1 := by
  induction vs generalizing opened with
  | nil => exact Nat.zero_le _
  | cons v vs ih =>
      have hrest := ih h.2 fun u hu => hstalled u (List.mem_cons_of_mem v hu)
      by_cases hsymbol : v.symbol = symbol
      · -- the check leaves the alarm of the symbol open
        have hopen : opensAfter opened v symbol = true := by
          rw [opensAfter, if_pos hsymbol.symm]
          exact hstalled v List.mem_cons_self hsymbol
        rw [hopen, if_pos rfl, growthOfSymbol, growthOf] at hrest
        have hgrowth := h.1
        rw [hstalled v List.mem_cons_self hsymbol, hsymbol] at hgrowth
        rw [growthOfSymbol, List.filter_cons_of_pos (by simpa using hsymbol), growthOf,
          List.map_cons, List.sum_cons, hgrowth]
        cases opened symbol
        · simpa using hrest
        · simpa using hrest
      · have hkept : opensAfter opened v symbol = opened symbol := by
          rw [opensAfter, if_neg (Ne.symm hsymbol)]
        rw [hkept] at hrest
        rwa [growthOfSymbol, List.filter_cons_of_neg (by simpa using hsymbol)]

/-- Verdicts that raise the count from no open alarm on are those that find a symbol stalled. -/
theorem growthOf_eq_zero_iff {opened : String → Bool} {vs : List StallVerdict}
    (h : Coherent opened vs) (hclosed : ∀ symbol, opened symbol = false) :
    growthOf vs = 0 ↔ ∀ v ∈ vs, v.stalled = false := by
  induction vs generalizing opened with
  | nil => simp [growthOf]
  | cons v vs ih =>
      have hgrowth := h.1
      rw [hclosed v.symbol] at hgrowth
      rw [growthOf, List.map_cons, List.sum_cons, Nat.add_eq_zero_iff, List.forall_mem_cons,
        hgrowth]
      cases hstalled : v.stalled with
      | true => simp
      | false =>
          have hnext : ∀ symbol, opensAfter opened v symbol = false := by
            intro symbol
            rw [opensAfter]
            split
            · exact hstalled
            · exact hclosed symbol
          simpa [growthOf] using ih h.2 hnext

theorem opened_of_not_stalled {opened : String → Bool} {vs : List StallVerdict}
    (hclosed : ∀ symbol, opened symbol = false) (h : ∀ v ∈ vs, v.stalled = false)
    (symbol : String) : vs.foldl opensAfter opened symbol = false := by
  induction vs generalizing opened with
  | nil => exact hclosed symbol
  | cons v vs ih =>
      refine ih (fun other => ?_) fun u hu => h u (List.mem_cons_of_mem v hu)
      rw [opensAfter]
      split
      · exact h v List.mem_cons_self
      · exact hclosed other

/-! ### Messages and updates -/

/-- No message is later than the last update of its book. -/
structure Fresh (p : OrderbookPhase41Processor) : Prop where
  keys : ∀ key b, lastBookUpdate p key = some b → upper key = key
  messages : ∀ key b w, lastBookUpdate p key = some b →
    p.lastWsMessageRecvMonotonicNs.get? key = some w → w ≤ b

theorem KeepsTimes.fresh {p q : OrderbookPhase41Processor} (h : KeepsTimes p q) (hp : Fresh p) :
    Fresh q where
  keys key b hb := hp.keys key b (h.books key ▸ hb)
  messages key b w hb hw := hp.messages key b w (h.books key ▸ hb) (h.messages ▸ hw)

/-- A book that is updated at a time no message of its symbol is later than stays fresh. -/
theorem Fresh.update {p q : OrderbookPhase41Processor} (hp : Fresh p) {symbol : String} {t : ℤ}
    (hbooks : ∀ key, lastBookUpdate q key =
      if upper symbol = key then some t else lastBookUpdate p key)
    (hmessages : ∀ key w, q.lastWsMessageRecvMonotonicNs.get? key = some w →
      p.lastWsMessageRecvMonotonicNs.get? key = some w ∨ key = upper symbol)
    (hlast : ∀ w, q.lastWsMessageRecvMonotonicNs.get? (upper symbol) = some w → w ≤ t) :
    Fresh q := by
  refine ⟨fun key b hb => ?_, fun key b w hb hw => ?_⟩
  · rw [hbooks] at hb
    split at hb
    · rename_i hkey
      rw [← hkey, upper_upper]
    · exact hp.keys key b hb
  · rw [hbooks] at hb
    split at hb
    · rename_i hkey
      rw [← Option.some.inj hb]
      exact hlast w (hkey ▸ hw)
    · rename_i hkey
      rcases hmessages key w hw with hw | hw
      · exact hp.messages key b w hb hw
      · exact absurd hw.symm hkey

/-- The age of a book that was updated. -/
theorem bookAgeMs_of_some {state : OrderbookState} {b : ℤ}
    (h : state.lastBookUpdateMonotonicNs = some b) (now : ℤ) :
    state.bookAgeMs now = some ((now - b : ℚ) / 1000000) := by
  rw [OrderbookState.bookAgeMs, h]
  rfl

/-- The age of a message. -/
theorem feedReceiveAgeMs_of_some {p : OrderbookPhase41Processor} {symbol : String} {w : ℤ}
    (h : p.lastWsMessageRecvMonotonicNs.get? (upper symbol) = some w) (now : ℤ) :
    p.feedReceiveAgeMs symbol now = some ((now - w : ℚ) / 1000000) := by
  rw [feedReceiveAgeMs, h]
  rfl

/-- A check on an empty queue of a book that no message is later than does not find it stalled. -/
theorem Fresh.applyVerdict {p : OrderbookPhase41Processor} (h : Fresh p) {symbol : String}
    {state : OrderbookState} (hstate : p.states.get? symbol = some state) (now : ℤ)
    (active : Bool) : applyVerdict p symbol state now active 0 ≠ some true := by
  intro hstalled
  rw [SomethingTrade.applyVerdict] at hstalled
  split at hstalled
  · cases hstalled
  simp only [Option.some.injEq, processorApplyStale, Bool.and_eq_true, Bool.or_eq_true,
    gt_iff_lt, lt_irrefl, decide_false, Bool.false_eq_true, false_or] at hstalled
  obtain ⟨hage, hfeed⟩ := hstalled
  -- the ages are those of an update and of a message that is not later
  cases hb : state.lastBookUpdateMonotonicNs with
  | none => simp [OrderbookState.bookAgeMs, hb] at hage
  | some b =>
      have hbook : lastBookUpdate p symbol = some b := by
        rw [lastBookUpdate, hstate]
        exact hb
      have hkey := h.keys symbol b hbook
      cases hw : p.lastWsMessageRecvMonotonicNs.get? symbol with
      | none => simp [feedReceiveAgeMs, hkey, hw] at hfeed
      | some w =>
          have hle : (w : ℚ) ≤ b := by exact_mod_cast h.messages symbol b w hbook hw
          rw [bookAgeMs_of_some hb, Option.any_some, decide_eq_true_eq] at hage
          rw [feedReceiveAgeMs_of_some (hkey.symm ▸ hw), Option.any_some,
            decide_eq_true_eq] at hfeed
          have hages : (now - b : ℚ) / 1000000 ≤ (now - w : ℚ) / 1000000 := by gcongr
          exact absurd (hages.trans hfeed) (not_le.mpr hage)

/-- Checks on an empty queue do not find a symbol stalled while no message is late. -/
theorem Fresh.checkVerdicts {p : OrderbookPhase41Processor} (h : Fresh p) (now : ℤ)
    (active : Bool) (clock : ℤ) (symbols : List String) :
    ∀ v ∈ checkVerdicts now active 0 clock symbols p, v.stalled = false := by
  induction symbols generalizing p with
  | nil =>
      intro v hv
      cases hv
  | cons symbol symbols ih =>
      rw [SomethingTrade.checkVerdicts]
      cases hstate : p.states.get? symbol with
      | none => exact ih h
      | some state =>
          have hstep := checkStep_checkStaleState hstate now active 0 clock
          intro v hv
          rcases List.mem_append.mp hv with hv | hv
          · obtain ⟨stalled, hverdict, rfl⟩ := Option.map_eq_some_iff.mp
              (Option.mem_toList.mp hv)
            cases stalled with
            | false => rfl
            | true => exact absurd hverdict (h.applyVerdict hstate now active)
          · exact ih (hstep.keepsTimes.fresh h) v hv

/-! ### Runs without rejected updates -/

/-- Whether a reply accepts a snapshot or an update. -/
def ProcessorReply.accepted : ProcessorReply → Bool
  | .applied result _ => result.accepted
  | _ => false

/-- The calls of a run in which every update is accepted and checks are made on an empty queue. -/
def Allowed (p : OrderbookPhase41Processor) : ProcessorCall → Prop
  | .processDepthUpdate event lag r => (p.processDepthUpdate event lag r).2.accepted = true
  | .checkStalePeriods _ _ _ queueSize _ => queueSize = 0
  | .recordWsMessageRecv _ _ => False
  | _ => True

instance (p : OrderbookPhase41Processor) (call : ProcessorCall) : Decidable (Allowed p call) :=
  match call with
  | .loadSnapshot _ | .bridgeMissing _ _ | .validateReportedBest _ _ _ _ | .cleanupSymbol _
  | .markSnapshotRecoveryActive _ _ | .setCaptureActive _ => inferInstanceAs (Decidable True)
  | .processDepthUpdate event lag r =>
      inferInstanceAs (Decidable ((p.processDepthUpdate event lag r).2.accepted = true))
  | .checkStalePeriods _ _ _ queueSize _ => inferInstanceAs (Decidable (queueSize = 0))
  | .recordWsMessageRecv _ _ => inferInstanceAs (Decidable False)

/-- The time of a call that has one. -/
def callTime? : ProcessorCall → Option ℤ
  | .loadSnapshot a => some (applyTime a)
  | .processDepthUpdate event _ r => some (recvTime event r)
  | .checkStalePeriods now _ _ _ clock => some (now.getD clock)
  | .recordWsMessageRecv _ ns => some ns
  | _ => none

/-- A snapshot is applied after the messages of its symbol. -/
def InOrder (p : OrderbookPhase41Processor) : ProcessorCall → Prop
  | .loadSnapshot a => ∀ w,
      p.lastWsMessageRecvMonotonicNs.get? (upper a.symbol) = some w → w ≤ applyTime a
  | _ => True

/-- An update arrives in time: not later than the threshold after the last update of its book,
unless the symbol is not checked or nothing counts as recent. -/
def InTime (p : OrderbookPhase41Processor) : ProcessorCall → Prop
  | .processDepthUpdate event _ r => ∀ b, lastBookUpdate p (upper event.symbol) = some b →
      (recvTime event r - b : ℚ) / 1000000 ≤ p.staleThresholdMs ∨
      (p.snapshotRecoveryActiveSymbols.get? (upper event.symbol)).isSome ∨
      p.staleThresholdMs < 0 ∨ p.feedReceiveStaleThresholdMs < 0
  | _ => True

/-- The message of an update has just arrived when its symbol is checked. -/
theorem feedReceiveAgeMs_notedMessage (p : OrderbookPhase41Processor) (event : DepthUpdate)
    (r : DepthReadings) :
    (notedMessage p event r).feedReceiveAgeMs (upper event.symbol) (recvTime event r) =
      some 0 := by
  have hlast : (notedMessage p event r).lastWsMessageRecvMonotonicNs.get? (upper event.symbol) =
      some (recvTime event r) := Dict.get?_set_self ..
  rw [feedReceiveAgeMs, upper_upper, hlast]
  simp

/-- **When the check of an update raises an alarm.** -/
theorem stallVerdicts_processDepthUpdate (p : OrderbookPhase41Processor) (event : DepthUpdate)
    (lag : Option ℚ) (r : DepthReadings) :
    (∀ v ∈ stallVerdicts p (.processDepthUpdate event lag r), v.stalled = false) ↔
      InTime p (.processDepthUpdate event lag r) := by
  set q := notedMessage p event r with hq
  set state := (p.stateFor event.symbol r.received).recordMessageRecv (recvTime event r)
    with hstate
  have hget : q.states.get? (upper event.symbol) = some state := Dict.get?_set_self ..
  have hbook : state.lastBookUpdateMonotonicNs = lastBookUpdate p (upper event.symbol) :=
    lastBookUpdate_stateFor p event.symbol r.received
  have hverdict : (∀ v ∈ stallVerdicts p (.processDepthUpdate event lag r), v.stalled = false) ↔
      applyVerdict q (upper event.symbol) state (recvTime event r) true 0 ≠ some true := by
    simp only [stallVerdicts, checkVerdicts, ← hq, hget]
    cases applyVerdict q (upper event.symbol) state (recvTime event r) true 0 with
    | none => simp
    | some stalled => simp
  rw [hverdict, applyVerdict, feedReceiveAgeMs_notedMessage, InTime]
  have hthreshold : q.staleThresholdMs = p.staleThresholdMs := rfl
  have hfeed : q.feedReceiveStaleThresholdMs = p.feedReceiveStaleThresholdMs := rfl
  have hrecovery : q.snapshotRecoveryActiveSymbols = p.snapshotRecoveryActiveSymbols := rfl
  rw [hfeed, hrecovery]
  cases hlast : lastBookUpdate p (upper event.symbol) with
  | none => simp [processorApplyStale, OrderbookState.bookAgeMs, hbook.trans hlast]
  | some b =>
      rw [bookAgeMs_of_some (hbook.trans hlast)]
      simp only [processorApplyStale, hthreshold]
      by_cases hactive : (p.snapshotRecoveryActiveSymbols.get? (upper event.symbol)).isSome
      · simp [hactive]
      · by_cases hzero : p.feedReceiveStaleThresholdMs < 0
        · simp [hzero]
        · by_cases hneg : p.staleThresholdMs < 0
          · simp [hactive, hneg]
          · simp [hactive, hzero, hneg, not_lt.mp hneg]

/-- What the check of an update keeps, and the message it notes. -/
theorem receive_keepsTimes (p : OrderbookPhase41Processor) (event : DepthUpdate)
    (r : DepthReadings) :
    (p.receive event r).lastWsMessageRecvMonotonicNs =
        p.lastWsMessageRecvMonotonicNs.set (upper event.symbol) (recvTime event r) ∧
      ∀ key, lastBookUpdate (p.receive event r) key = lastBookUpdate p key := by
  have hcheck : KeepsTimes (notedMessage p event r) (p.receive event r) :=
    (checked_checkStaleSymbols _ _ _ _ _ (notedMessage p event r)).2
  exact ⟨hcheck.messages, fun key =>
    (hcheck.books key).trans (lastBookUpdate_notedMessage p event r key)⟩

/-- An accepted update updates its book at the time of its message. -/
theorem Fresh.processDepthUpdate {p : OrderbookPhase41Processor} (hp : Fresh p)
    (hinv : EachState BookInv p) {event : DepthUpdate} {lag : Option ℚ} {r : DepthReadings}
    (h : (appliedState p event r).2.accepted = true) :
    Fresh (p.processDepthUpdate event lag r).1 := by
  obtain ⟨hmessages, hbooks⟩ := receive_keepsTimes p event r
  have hrest := sameStalls_processDepthUpdate hinv event lag r
  have hlast : (p.processDepthUpdate event lag r).1.lastWsMessageRecvMonotonicNs =
      p.lastWsMessageRecvMonotonicNs.set (upper event.symbol) (recvTime event r) :=
    hrest.messages.trans hmessages
  refine @Fresh.update p _ hp event.symbol (recvTime event r) (fun key => ?_)
    (fun key w hw => ?_) fun w hw => ?_
  · refine (hrest.books key).trans ?_
    rw [lastBookUpdate, setState, lastBookUpdate_set]
    split
    · exact (justApplied_of_accepted h).lastBookUpdate
    · exact hbooks key
  · rw [hlast, Dict.get?_set] at hw
    split at hw
    · rename_i hkey
      exact .inr hkey.symm
    · exact .inl hw
  · rw [hlast, Dict.get?_set_self] at hw
    exact (Option.some.inj hw).ge

/-- A snapshot updates its book when it is applied, or not at all. -/
theorem lastBookUpdate_loadSnapshot (p : OrderbookPhase41Processor) (a : SnapshotLoad) :
    (∀ key, lastBookUpdate (p.loadSnapshot a).1 key = lastBookUpdate p key) ∨
      ∀ key, lastBookUpdate (p.loadSnapshot a).1 key =
        if upper a.symbol = key then some (applyTime a) else lastBookUpdate p key := by
  set state := ((p.stateFor a.symbol a.monotonicNow).applySnapshot (snapshotArgs a)).1
    with hstate
  have hstates : (p.loadSnapshot a).1.states = p.states.set (upper a.symbol) state := by
    simp only [loadSnapshot]
    split <;> rfl
  have hkept : state.lastBookUpdateMonotonicNs =
        (p.stateFor a.symbol a.monotonicNow).lastBookUpdateMonotonicNs ∨
      state.lastBookUpdateMonotonicNs = some (applyTime a) := by
    cases applySnapshot_outcome (p.stateFor a.symbol a.monotonicNow) (snapshotArgs a) with
    | stale _ _ h =>
        rw [hstate, h]
        exact .inl rfl
    | invalid _ _ h =>
        rw [hstate, h]
        exact .inl rfl
    | loaded _ _ _ h =>
        rw [hstate, h]
        exact .inr rfl
  rcases hkept with h | h
  · refine .inl fun key => ?_
    rw [lastBookUpdate, hstates, lastBookUpdate_set]
    split
    · rename_i hkey
      rw [h, lastBookUpdate_stateFor, hkey]
    · rfl
  · refine .inr fun key => ?_
    rw [lastBookUpdate, hstates, lastBookUpdate_set, h]

theorem messages_loadSnapshot (p : OrderbookPhase41Processor) (a : SnapshotLoad) :
    (p.loadSnapshot a).1.lastWsMessageRecvMonotonicNs = p.lastWsMessageRecvMonotonicNs := by
  simp only [loadSnapshot]
  split <;> rfl

theorem sameStalls_validateReportedBest (p : OrderbookPhase41Processor) (symbol : String)
    (bid ask : Option ℚ) (r : DepthReadings) :
    SameStalls p (p.validateReportedBest symbol bid ask r).1 := by
  have hset : SameStalls p (p.setState symbol (p.stateFor symbol r.received)) :=
    sameStalls_setState (lastBookUpdate_stateFor p symbol r.received)
  simp only [validateReportedBest]
  split
  · exact hset
  · refine hset.trans (sameStalls_setState ?_)
    rw [lastBookUpdate_ensurePriceIndexes, lastBookUpdate_stateFor, hset.books]

theorem sameStalls_bridgeMissing (p : OrderbookPhase41Processor) (symbol : String) (now : ℤ) :
    SameStalls p (p.bridgeMissing symbol now) := by
  have hset : SameStalls p (p.setState symbol ((p.stateFor symbol now).markNotReady
      "bridge_missing_after_snapshot" (some now) true none now)) :=
    sameStalls_setState (lastBookUpdate_stateFor p symbol now)
  exact hset.trans (.of_states rfl rfl rfl rfl)

theorem SameStalls.fresh {p q : OrderbookPhase41Processor} (h : SameStalls p q) (hp : Fresh p) :
    Fresh q := KeepsTimes.fresh ⟨h.messages, h.books⟩ hp

/-- The result of an update is that of its delta. -/
theorem accepted_of_allowed {p : OrderbookPhase41Processor} (hp : EachState BookInv p)
    {event : DepthUpdate} {lag : Option ℚ} {r : DepthReadings}
    (h : Allowed p (.processDepthUpdate event lag r)) :
    (appliedState p event r).2.accepted = true := by
  have hs := bookInv_appliedState hp event r
  cases hresult : (appliedState p event r).2.accepted with
  | true => rfl
  | false =>
      rw [Allowed, (processDepthUpdate_of_rejected lag hs hresult).1, ProcessorReply.accepted,
        hresult] at h
      exact h

/-- **The step rule of the times**: no message gets later than the last update of its book. -/
theorem Fresh.next {p : OrderbookPhase41Processor} (h : Fresh p) (hinv : EachState BookInv p)
    {call : ProcessorCall} (hallowed : Allowed p call) (horder : InOrder p call) :
    Fresh (phase41Machine.next p call) := by
  cases call with
  | loadSnapshot a =>
      have hmessages := messages_loadSnapshot p a
      change Fresh (p.loadSnapshot a).1
      rcases lastBookUpdate_loadSnapshot p a with hbooks | hbooks
      · exact KeepsTimes.fresh ⟨hmessages, hbooks⟩ h
      · refine h.update hbooks (fun key w hw => ?_) fun w hw => ?_
        · rw [hmessages] at hw
          exact .inl hw
        · rw [hmessages] at hw
          exact horder w hw
  | processDepthUpdate event lag r =>
      have haccepted := accepted_of_allowed hinv hallowed
      change Fresh (p.processDepthUpdate event lag r).1
      exact h.processDepthUpdate hinv haccepted
  | bridgeMissing symbol now => exact (sameStalls_bridgeMissing p symbol now).fresh h
  | checkStalePeriods now symbols feedActive queueSize clock =>
      exact (checked_checkStaleSymbols _ _ _ _ _ p).2.fresh h
  | validateReportedBest symbol bid ask r =>
      exact (sameStalls_validateReportedBest p symbol bid ask r).fresh h
  | cleanupSymbol symbol =>
      have hbooks (key : String) (b : ℤ)
          (hb : lastBookUpdate (p.cleanupSymbol symbol) key = some b) :
          lastBookUpdate p key = some b := by
        rw [lastBookUpdate, cleanupSymbol, Dict.get?_pop] at hb
        split at hb
        · cases hb
        · exact hb
      exact ⟨fun key b hb => h.keys key b (hbooks key b hb),
        fun key b w hb hw => h.messages key b w (hbooks key b hb) hw⟩
  | recordWsMessageRecv symbol ns => exact hallowed.elim
  | markSnapshotRecoveryActive symbol active =>
      have hkept : SameStalls p (p.markSnapshotRecoveryActive symbol active) :=
        .of_states rfl rfl rfl rfl
      exact hkept.fresh h
  | setCaptureActive active =>
      have hkept : SameStalls p (p.setCaptureActive active) := .of_states rfl rfl rfl rfl
      exact hkept.fresh h

/-- A message that a call notes has the time of the call. -/
theorem messages_next {p : OrderbookPhase41Processor} (hinv : EachState BookInv p)
    (call : ProcessorCall) (key : String) (w : ℤ)
    (h : (phase41Machine.next p call).lastWsMessageRecvMonotonicNs.get? key = some w) :
    p.lastWsMessageRecvMonotonicNs.get? key = some w ∨ callTime? call = some w := by
  cases call with
  | loadSnapshot a => exact .inl (messages_loadSnapshot p a ▸ h)
  | processDepthUpdate event lag r =>
      have hlast := (sameStalls_processDepthUpdate hinv event lag r).messages.trans
        (receive_keepsTimes p event r).1
      rw [Machine.next, phase41Machine, hlast, Dict.get?_set] at h
      split at h
      · exact .inr h
      · exact .inl h
  | checkStalePeriods now symbols feedActive queueSize clock =>
      exact .inl ((checked_checkStaleSymbols _ _ _ _ _ p).2.messages ▸ h)
  | validateReportedBest symbol bid ask r =>
      exact .inl ((sameStalls_validateReportedBest p symbol bid ask r).messages ▸ h)
  | recordWsMessageRecv symbol ns =>
      change (p.lastWsMessageRecvMonotonicNs.set (upper symbol) ns).get? key = some w at h
      rw [Dict.get?_set] at h
      split at h
      · exact .inr h
      · exact .inl h
  | _ => exact .inl h

/-- In a run whose times never go back each snapshot is applied after the messages. -/
theorem inOrder_of_times {p : OrderbookPhase41Processor} (hp : Accounted 0 p)
    {calls : List ProcessorCall} (htimes : (calls.filterMap callTime?).Pairwise (· ≤ ·))
    (hbefore : ∀ key w, p.lastWsMessageRecvMonotonicNs.get? key = some w →
      ∀ t ∈ calls.filterMap callTime?, w ≤ t) :
    phase41Machine.StepsMeet InOrder p calls := by
  induction calls generalizing p with
  | nil => trivial
  | cons call calls ih =>
      have hmem {t : ℤ} (ht : t ∈ calls.filterMap callTime?) :
          t ∈ (call :: calls).filterMap callTime? := by
        obtain ⟨later, hlater, htime⟩ := List.mem_filterMap.mp ht
        exact List.mem_filterMap.mpr ⟨later, List.mem_cons_of_mem call hlater, htime⟩
      refine ⟨?_, ih (hp.next call) ?_ fun key w hw t ht => ?_⟩
      · cases call with
        | loadSnapshot a =>
            exact fun w hw => hbefore _ w hw _
              (List.mem_filterMap.mpr ⟨_, List.mem_cons_self, rfl⟩)
        | _ => trivial
      · rw [List.filterMap_cons] at htimes
        split at htimes
        · exact htimes
        · exact htimes.of_cons
      · rcases messages_next hp.books call key w hw with hw | hw
        · exact hbefore key w hw t (hmem ht)
        · rw [List.filterMap_cons, hw] at htimes
          exact List.rel_of_pairwise_cons htimes ht

/-! ### The alarms of a run -/

/-- What holds in runs without rejected updates: the messages are applied, and no alarm is open
while none was counted. -/
structure Flowing (p : OrderbookPhase41Processor) : Prop where
  accounted : Accounted 0 p
  fresh : Fresh p
  silent : stallCount p = 0 → ∀ symbol, isOpen p symbol = false

theorem flowing_init (c : Phase41Settings) : Flowing (OrderbookPhase41Processor.init c) where
  accounted := accounted_exec c []
  fresh := by
    have hnone (key : String) :
        lastBookUpdate (OrderbookPhase41Processor.init c) key = none := by
      cases hstate : (OrderbookPhase41Processor.init c).states.get? key with
      | none => rw [lastBookUpdate, hstate, Option.bind_none]
      | some state =>
          have hmem := Dict.mem_entries_iff.mpr hstate
          have hinit : ∀ e ∈ (OrderbookPhase41Processor.init c).states.entries,
              e.2.lastBookUpdateMonotonicNs = none := by
            refine Dict.forall_entries_ofList
              (P := fun _ s => OrderbookState.lastBookUpdateMonotonicNs s = none) fun e he => ?_
            obtain ⟨symbol, -, rfl⟩ := List.mem_map.mp he
            rfl
          rw [lastBookUpdate, hstate, Option.bind_some]
          exact hinit _ hmem
    refine ⟨fun key b hb => ?_, fun key b w hb => ?_⟩
    · rw [hnone] at hb
      cases hb
    · rw [hnone] at hb
      cases hb
  silent _ _ := rfl

/-- The count stays at zero exactly when no check finds a symbol stalled. -/
theorem Checked.stallCount_eq_zero_iff {p q : OrderbookPhase41Processor} {vs : List StallVerdict}
    (h : Checked p q vs) (hclosed : ∀ symbol, isOpen p symbol = false)
    (hzero : stallCount p = 0) : stallCount q = 0 ↔ ∀ v ∈ vs, v.stalled = false := by
  rw [h.count, hzero, Nat.zero_add, growthOf_eq_zero_iff h.coherent hclosed]

theorem Flowing.next {p : OrderbookPhase41Processor} (h : Flowing p) {call : ProcessorCall}
    (hallowed : Allowed p call) (horder : InOrder p call) :
    Flowing (phase41Machine.next p call) where
  accounted := h.accounted.next call
  fresh := h.fresh.next h.accounted.books hallowed horder
  silent := by
    intro hzero
    have hchecked := checked_next h.accounted.books call
    have hbefore : stallCount p = 0 := by
      have := hchecked.count
      omega
    have hclosed := h.silent hbefore
    rw [hchecked.opened]
    exact opened_of_not_stalled hclosed
      ((hchecked.stallCount_eq_zero_iff hclosed hbefore).mp hzero)

/-- **What a call does to a silent run**: only an update that is late raises an alarm. -/
theorem Flowing.stallCount_next {p : OrderbookPhase41Processor} (h : Flowing p)
    (hzero : stallCount p = 0) {call : ProcessorCall} (hallowed : Allowed p call) :
    stallCount (phase41Machine.next p call) = 0 ↔ InTime p call := by
  rw [(checked_next h.accounted.books call).stallCount_eq_zero_iff (h.silent hzero) hzero]
  cases call with
  | processDepthUpdate event lag r => exact stallVerdicts_processDepthUpdate p event lag r
  | checkStalePeriods now symbols feedActive queueSize clock =>
      obtain rfl : queueSize = 0 := hallowed
      exact iff_of_true (h.fresh.checkVerdicts _ _ _ _) trivial
  | _ =>
      refine iff_of_true (fun v hv => ?_) trivial
      cases hv

/-- **When a run without rejected updates raises an alarm.** Such a run, of checks on an empty
queue and of times that never go back, has no alarm exactly when each of its updates arrives in
time. And in every run the count is the total of what the checks raise it by, and a symbol is
counted at most once between two checks that do not find it stalled. -/
theorem stall_alarm_iff (c : Phase41Settings) (calls : List ProcessorCall) :
    (phase41Machine.StepsMeet Allowed (OrderbookPhase41Processor.init c) calls →
      (calls.filterMap callTime?).Pairwise (· ≤ ·) →
      ((∀ pre post, calls = pre ++ post →
          stallCount (phase41Machine.exec (OrderbookPhase41Processor.init c) pre) = 0) ↔
        phase41Machine.StepsMeet InTime (OrderbookPhase41Processor.init c) calls)) ∧
    stallCount (phase41Machine.exec (OrderbookPhase41Processor.init c) calls) =
      growthOf (stallTrace (OrderbookPhase41Processor.init c) calls) ∧
    ∀ symbol pre mid post,
      stallTrace (OrderbookPhase41Processor.init c) calls = pre ++ mid ++ post →
      (∀ v ∈ mid, v.symbol = symbol → v.stalled = true) → growthOfSymbol symbol mid ≤ 1 := by
  have hinit := flowing_init c
  have hchecked := checked_exec hinit.accounted calls
  refine ⟨fun hallowed htimes => ?_, ?_, fun symbol pre mid post hsplit hstalled => ?_⟩
  · have horder : phase41Machine.StepsMeet InOrder (OrderbookPhase41Processor.init c) calls :=
      inOrder_of_times hinit.accounted htimes fun key w hw => by cases hw
    exact phase41Machine.prefixes_iff_stepsMeet_while (I := Flowing)
      (P := fun p => stallCount p = 0)
      (fun _ _ h hA => h.next hA.1 hA.2) (fun _ _ h hzero hA => h.stallCount_next hzero hA.1)
      hinit rfl ((phase41Machine.stepsMeet_and _ _).mpr ⟨hallowed, horder⟩)
  · rw [hchecked.count]
    exact Nat.zero_add _
  · have hcoherent := hchecked.coherent
    rw [hsplit] at hcoherent
    have hmid := (coherent_append.mp (coherent_append.mp hcoherent).1).2
    refine (growthOfSymbol_le hmid hstalled).trans ?_
    split
    · exact Nat.zero_le 1
    · exact le_rfl

/-- A snapshot and an update that bridges it, a check at a later time, and the next update. -/
def pausedUpdates (check resume : ℤ) : List ProcessorCall :=
  bridgedUpdate ++
    [.checkStalePeriods (some check) [] none 0 check,
     .processDepthUpdate
      { symbol := "btcusdt", firstUpdateId := 13, finalUpdateId := 14,
        previousFinalUpdateId := none, bids := [("100.5", "2.0")], asks := [],
        tsNs := resume, exchangeEventTs := none, localReceivedTs := none, parseDoneTs := none,
        stateUpdatedTs := none, recvMonotonicNs := some resume, parseDoneMonotonicNs := none,
        stateUpdatedMonotonicNs := none, latencyMs := none, sequence := none }
      (some 4)
      { received := resume, copied := resume, copiedAgain := resume, validated := resume,
        utcNowNs := 0 }]

/-- Settings under which a book is stale long before its feed is. -/
def patientFeed : Phase41Settings :=
  { twoLevels with feedReceiveStaleAfterMs := some 10000 }

theorem stall_alarm_iff_pausedUpdates :
    stallCount (phase41Machine.exec (OrderbookPhase41Processor.init patientFeed)
      (pausedUpdates 1000000000 2000000000)) = 0 := by
  have hallowed : phase41Machine.StepsMeet Allowed (OrderbookPhase41Processor.init patientFeed)
      (pausedUpdates 1000000000 2000000000) := by
    refine ⟨trivial, ?_, rfl, ?_, trivial⟩
    · decide +kernel
    · decide +kernel
  have hintime : phase41Machine.StepsMeet InTime (OrderbookPhase41Processor.init patientFeed)
      (pausedUpdates 1000000000 2000000000) := by
    refine ⟨trivial, fun b hb => .inl ?_, trivial, fun b hb => .inl ?_, trivial⟩
    · obtain rfl : b = 1000 := Option.some.inj (hb.symm.trans (by decide +kernel))
      refine le_of_le_of_eq (b := 3000) ?_ ?_
      · norm_num [recvTime, orNumber]
      · decide +kernel
    · obtain rfl : b = 2000 := Option.some.inj (hb.symm.trans (by decide +kernel))
      refine le_of_le_of_eq (b := 3000) ?_ ?_
      · norm_num [recvTime, orNumber]
      · decide +kernel
  exact ((stall_alarm_iff patientFeed _).1 hallowed (by decide)).mpr hintime _ []
    (List.append_nil _).symm

theorem late_update_raises_alarm :
    phase41Machine.StepsMeet Allowed (OrderbookPhase41Processor.init patientFeed)
      (pausedUpdates 4000000000 5000000000) ∧
    ((pausedUpdates 4000000000 5000000000).filterMap callTime?).Pairwise (· ≤ ·) ∧
    stallCount (phase41Machine.exec (OrderbookPhase41Processor.init patientFeed)
      (pausedUpdates 4000000000 5000000000)) = 1 := by
  refine ⟨⟨trivial, ?_, rfl, ?_, trivial⟩, by decide, ?_⟩
  · decide +kernel
  · decide +kernel
  · decide +kernel

end SomethingTrade
