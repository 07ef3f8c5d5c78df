import SomethingTrade.OrderbookIndex
import SomethingTrade.SymbolFrame

/-!
# The Processor as a Family of Orderbooks

The processor works on the states of many symbols, checks them for staleness, stops them and
copies them, and a state is made when its symbol is first named. Seen from one symbol all of
this is one run of the orderbook machine: a fresh state that takes the snapshots and deltas
given for the symbol, in their order, with calls between them that bring no levels.

So what holds of every run of `orderbookMachine` holds of every state of the processor.

## Main results

* `Advances.next`: what a call does to the state of a symbol.
* `OrderbookPhase41Processor.refines_orderbookMachine`: the state of a symbol after any run.
-/

namespace SomethingTrade

open OrderbookPhase41Processor

/-! ### Evolution of a state -/

/-- Whether a call brings levels. -/
def BookCall.isInput : BookCall → Bool
  | .applySnapshot _ | .applyDelta _ => true
  | _ => false

/-- A state leads to another by calls of which exactly the given ones bring levels. -/
def Evolves (inputs : List BookCall) (s t : OrderbookState) : Prop :=
  ∃ calls, calls.filter BookCall.isInput = inputs ∧ orderbookMachine.exec s calls = t

namespace Evolves

variable {inputs inputs' : List BookCall} {s t u : OrderbookState}

theorem refl (s : OrderbookState) : Evolves [] s s := ⟨[], rfl, rfl⟩

theorem trans (h : Evolves inputs s t) (h' : Evolves inputs' t u) :
    Evolves (inputs ++ inputs') s u := by
  obtain ⟨calls, rfl, rfl⟩ := h
  obtain ⟨calls', rfl, rfl⟩ := h'
  exact ⟨calls ++ calls', List.filter_append .., orderbookMachine.exec_append ..⟩

/-- One call. -/
theorem call (s : OrderbookState) (c : BookCall) :
    Evolves ([c].filter BookCall.isInput) s (orderbookMachine.next s c) := ⟨[c], rfl, rfl⟩

/-- A call between those that bring levels. -/
theorem quiet (h : Evolves inputs s t) (c : BookCall) (hc : c.isInput = false) :
    Evolves inputs s (orderbookMachine.next t c) := by
  have hcall := h.trans (call t c)
  rwa [List.filter_cons_of_neg (by simp [hc]), List.filter_nil, List.append_nil] at hcall

end Evolves

/-! ### The state of a symbol -/

/-- What a step does to the state of a symbol: nothing, or it stores one that the state, or a
fresh one, evolves to. -/
inductive Advances (symbol : String) (inputs : List BookCall)
    (p q : OrderbookPhase41Processor) : Prop
  | untouched (noInputs : inputs = [])
      (same : q.states.get? (upper symbol) = p.states.get? (upper symbol))
  | touched (now : ℤ) (t : OrderbookState) (stored : q.states.get? (upper symbol) = some t)
      (evolves : Evolves inputs (p.stateFor symbol now) t)

namespace Advances

variable {symbol : String} {inputs inputs' : List BookCall} {p q r : OrderbookPhase41Processor}

theorem of_states (h : q.states = p.states) : Advances symbol [] p q :=
  .untouched rfl (by rw [h])

theorem of_touchesOnly {keys : List String} (h : TouchesOnly keys p q)
    (hkey : upper symbol ∉ keys) : Advances symbol [] p q :=
  .untouched rfl (congrArg SymbolEntries.state (h.entries _ hkey))

theorem of_quiet (h : TouchesOnly [] p q) : Advances symbol [] p q :=
  of_touchesOnly h List.not_mem_nil

theorem trans (h : Advances symbol inputs p q) (h' : Advances symbol inputs' q r) :
    Advances symbol (inputs ++ inputs') p r := by
  cases h with
  | untouched noInputs same =>
      subst noInputs
      cases h' with
      | untouched noInputs' same' => exact .untouched noInputs' (same'.trans same)
      | touched now t stored evolves =>
          have hstate : q.stateFor symbol now = p.stateFor symbol now := by
            rw [stateFor, same, stateFor]
          exact .touched now t stored (hstate ▸ evolves)
  | touched now t stored evolves =>
      cases h' with
      | untouched noInputs' same' =>
          subst noInputs'
          rw [List.append_nil]
          exact .touched now t (same'.trans stored) evolves
      | touched now' t' stored' evolves' =>
          have hstate : q.stateFor symbol now' = t := by rw [stateFor, stored, Option.getD_some]
          exact .touched now t' stored' (evolves.trans (hstate ▸ evolves'))

/-- A step that brings nothing after one. -/
theorem then_quiet (h : Advances symbol inputs p q) (h' : Advances symbol [] q r) :
    Advances symbol inputs p r := List.append_nil inputs ▸ h.trans h'

/-- A step after one that brings nothing. -/
theorem quiet_then (h : Advances symbol [] p q) (h' : Advances symbol inputs q r) :
    Advances symbol inputs p r := h.trans h'

/-- Storing a state that the state of its symbol evolves to. -/
theorem setState {symbol' : String} {now : ℤ} {t : OrderbookState}
    (h : Evolves inputs (p.stateFor symbol' now) t) :
    Advances symbol (if upper symbol' = upper symbol then inputs else []) p
      (p.setState symbol' t) := by
  by_cases hsame : upper symbol' = upper symbol
  · rw [if_pos hsame]
    refine .touched now t ?_ ?_
    · rw [OrderbookPhase41Processor.setState, hsame, Dict.get?_set_self]
    · rwa [stateFor, ← hsame]
  · rw [if_neg hsame]
    exact .untouched rfl (Dict.get?_set_of_ne _ _ hsame)

/-- Storing a state after calls that bring no levels. -/
theorem setState_quiet {symbol' : String} {now : ℤ} {t : OrderbookState}
    (h : Evolves [] (p.stateFor symbol' now) t) : Advances symbol [] p (p.setState symbol' t) := by
  have hset : Advances symbol (if upper symbol' = upper symbol then [] else []) p
      (p.setState symbol' t) := setState h
  rwa [ite_self] at hset

/-! ### Checks -/

theorem stateFor_observeBookAge (p : OrderbookPhase41Processor) (symbol : String)
    (s : OrderbookState) (age : Option ℚ) (now : ℤ) :
    (p.observeBookAge (upper symbol) s age).stateFor symbol now = s := by
  rw [stateFor]
  exact (congrArg (Option.getD · _) (Dict.get?_set_self p.states (upper symbol) s)).trans rfl

/-- The check of a symbol reads the age of its state, and may stop it. -/
theorem checkStaleState {key : String} {s : OrderbookState} (hs : p.states.get? key = some s)
    (hupper : upper key = key) (now : ℤ) (active : Bool) (queueSize clock : ℤ) :
    Advances symbol [] p (p.checkStaleState key s now active queueSize clock).1 := by
  by_cases hkey : key = upper symbol
  · subst hkey
    have hspec := checkStaleState_spec p (upper symbol) s now active queueSize clock
    have hstate : p.stateFor symbol now = s := by rw [stateFor, hs, Option.getD_some]
    have hseen : Advances symbol [] p (p.observeBookAge (upper symbol)
        { s with lastStaleCheckMonotonicNs := some now } (s.bookAgeMs now)) := by
      refine .touched now { s with lastStaleCheckMonotonicNs := some now } ?_ ?_
      · exact Dict.get?_set_self _ _ _
      · rw [hstate]
        exact (Evolves.refl s).quiet (.bookAgeMs now) rfl
    dsimp only at hspec
    split at hspec
    · exact hseen.then_quiet (of_quiet hspec.2)
    · split at hspec
      · rename_i age _
        rw [hspec]
        refine hseen.then_quiet ?_
        simp only [recordFeedReceiveStale]
        split
        · refine .touched now _ (Dict.get?_set_self _ _ _) ?_
          rw [stateFor_observeBookAge]
          exact (Evolves.refl _).quiet (.markNotReady "feed_receive_stale" (some now) true none
            clock) rfl
        · exact of_states rfl
      · have hclosed : Advances symbol [] (p.observeBookAge (upper symbol)
            { s with lastStaleCheckMonotonicNs := some now } (s.bookAgeMs now))
            ((p.observeBookAge (upper symbol)
              { s with lastStaleCheckMonotonicNs := some now }
                (s.bookAgeMs now)).closeStalePeriod (upper symbol)) := of_states rfl
        exact hseen.then_quiet (hclosed.then_quiet (of_quiet hspec.2))
  · refine of_touchesOnly ((keptByParts_touchesOnly [key] p).checkStaleState (.refl _ p) s now
      active queueSize clock List.mem_cons_self hupper) fun hmem => ?_
    exact hkey (List.mem_singleton.mp hmem).symm

theorem checkStaleSymbols (now : ℤ) (active : Bool) (queueSize clock : ℤ)
    (keys : List String) (hupper : ∀ key ∈ keys, upper key = key) :
    Advances symbol [] p (checkStaleSymbols now active queueSize clock keys p).1 := by
  induction keys generalizing p with
  | nil => exact of_states rfl
  | cons key keys ih =>
      have hrest : ∀ key' ∈ keys, upper key' = key' :=
        fun key' hkey' => hupper key' (List.mem_cons_of_mem key hkey')
      rw [OrderbookPhase41Processor.checkStaleSymbols]
      cases hs : p.states.get? key with
      | none => exact ih hrest
      | some s =>
          exact (checkStaleState hs (hupper key List.mem_cons_self) now active queueSize
            clock).then_quiet (ih hrest)

/-! ### Calls -/

theorem checkStalePeriods (hp : UpperKeys p) (now : Option ℤ) (symbols : List String)
    (feedActive : Option Bool) (queueSize clock : ℤ) :
    Advances symbol [] p (p.checkStalePeriods now symbols feedActive queueSize clock).1 := by
  refine checkStaleSymbols _ _ _ _ _ fun key hkey => ?_
  split at hkey
  · exact hp key hkey
  · obtain ⟨given, -, rfl⟩ := List.mem_map.mp hkey
    exact upper_upper given

/-- Receiving an update notes its time and checks its symbol. -/
theorem receive (p : OrderbookPhase41Processor) (event : DepthUpdate) (r : DepthReadings) :
    Advances symbol [] p (p.receive event r) := by
  rw [OrderbookPhase41Processor.receive]
  have hnoted : Advances symbol [] p (p.setState event.symbol
      ((p.stateFor event.symbol r.received).recordMessageRecv (recvTime event r))) :=
    setState_quiet ((Evolves.refl _).quiet (.recordMessageRecv (recvTime event r)) rfl)
  generalize p.setState event.symbol
    ((p.stateFor event.symbol r.received).recordMessageRecv (recvTime event r)) = noted at hnoted ⊢
  have hcounted : Advances symbol [] p
      (noted.recordWsMessageRecv event.symbol (recvTime event r)).countReceived :=
    hnoted.then_quiet (of_states rfl)
  refine hcounted.then_quiet (checkStaleSymbols _ _ _ _ [upper event.symbol] fun key hkey => ?_)
  rw [List.mem_singleton.mp hkey, upper_upper]

/-- Storing the state once more with its indexes checked. -/
theorem ensured {symbol' : String} {t : OrderbookState} (h : Advances symbol inputs p q)
    (hq : q.states.get? (upper symbol') = some t) :
    Advances symbol inputs p (q.setState symbol' t.ensurePriceIndexes) := by
  have hevolves : Evolves [] (q.stateFor symbol' 0) t.ensurePriceIndexes := by
    rw [stateFor, hq, Option.getD_some]
    exact (Evolves.refl t).quiet .bestBid rfl
  exact h.then_quiet (setState_quiet hevolves)

theorem maybeEmitOrBlockSample (h : Advances symbol inputs p q) (snapshot : OrderbookSnapshot)
    (quality : OrderbookQualityResult) (ts : Option ℤ) :
    Advances symbol inputs p (q.maybeEmitOrBlockSample snapshot quality ts).1 :=
  h.then_quiet (of_quiet (touchesOnly_maybeEmitOrBlockSample q snapshot quality ts))

theorem finishUpdate (h : Advances symbol inputs p q) (symbol' : String) (t : OrderbookState) :
    Advances symbol inputs p (q.finishUpdate symbol' t) :=
  h.then_quiet (of_quiet (touchesOnly_finishUpdate q symbol' t))

/-- Processing an update gives it to the state of its symbol. -/
theorem processDepthUpdate (p : OrderbookPhase41Processor) (event : DepthUpdate)
    (lag : Option ℚ) (r : DepthReadings) :
    Advances symbol
      (if upper event.symbol = upper symbol then [.applyDelta (deltaArgs event r)] else []) p
      (p.processDepthUpdate event lag r).1 := by
  rw [OrderbookPhase41Processor.processDepthUpdate]
  have hreceive : Advances symbol [] p (p.receive event r) := receive p event r
  generalize p.receive event r = received at hreceive ⊢
  have happlied : Advances symbol
      (if upper event.symbol = upper symbol then [.applyDelta (deltaArgs event r)] else []) p
      (received.setState event.symbol
        ((received.stateFor event.symbol r.received).applyDelta (deltaArgs event r)).1) :=
    hreceive.quiet_then (setState (Evolves.call _ (.applyDelta (deltaArgs event r))))
  have hstored : (received.setState event.symbol
      ((received.stateFor event.symbol r.received).applyDelta (deltaArgs event r)).1).states.get?
        (upper event.symbol) =
      some ((received.stateFor event.symbol r.received).applyDelta (deltaArgs event r)).1 :=
    Dict.get?_set_self _ _ _
  generalize (received.stateFor event.symbol r.received).applyDelta (deltaArgs event r) = applied
    at happlied hstored ⊢
  obtain ⟨state, result⟩ := applied
  generalize (if upper event.symbol = upper symbol then [BookCall.applyDelta (deltaArgs event r)]
    else []) = inputs at happlied ⊢
  dsimp only at happlied hstored ⊢
  generalize received.setState event.symbol state = stored at happlied hstored ⊢
  split
  · have haccepted : Advances symbol inputs p
        (stored.countAccepted.closeStalePeriod event.symbol) := happlied.then_quiet (of_states rfl)
    split
    · exact haccepted
    · exact ((ensured haccepted hstored).maybeEmitOrBlockSample ..).finishUpdate ..
  · have hrejected : Advances symbol inputs p (stored.countRejected result.status) :=
      happlied.then_quiet (of_quiet (touchesOnly_countRejected _ _))
    have hkept : (stored.countRejected result.status).states.get? (upper event.symbol) =
        some state := by
      rw [← hstored]
      exact congrArg SymbolEntries.state ((touchesOnly_countRejected stored result.status).entries
        (upper event.symbol) List.not_mem_nil)
    split
    · split
      · exact hrejected
      · exact (ensured hrejected hkept).finishUpdate ..
    · exact hrejected.finishUpdate ..

/-- Loading a snapshot gives it to the state of its symbol. -/
theorem loadSnapshot (p : OrderbookPhase41Processor) (a : SnapshotLoad) :
    Advances symbol
      (if upper a.symbol = upper symbol then [.applySnapshot (snapshotArgs a)] else []) p
      (p.loadSnapshot a).1 := by
  have happlied : Advances symbol
      (if upper a.symbol = upper symbol then [.applySnapshot (snapshotArgs a)] else []) p
      (p.setState a.symbol
        ((p.stateFor a.symbol a.monotonicNow).applySnapshot (snapshotArgs a)).1) :=
    setState (Evolves.call _ (.applySnapshot (snapshotArgs a)))
  generalize (if upper a.symbol = upper symbol then [BookCall.applySnapshot (snapshotArgs a)]
    else []) = inputs at happlied ⊢
  simp only [OrderbookPhase41Processor.loadSnapshot]
  split <;> exact happlied.then_quiet (of_states rfl)

theorem validateReportedBest (p : OrderbookPhase41Processor) (symbol' : String)
    (bid ask : Option ℚ) (r : DepthReadings) :
    Advances symbol [] p (p.validateReportedBest symbol' bid ask r).1 := by
  have hnamed : Advances symbol [] p
      (p.setState symbol' (p.stateFor symbol' r.received)) := setState_quiet (Evolves.refl _)
  rw [OrderbookPhase41Processor.validateReportedBest]
  dsimp only
  split
  · exact hnamed
  · exact ensured hnamed (Dict.get?_set_self _ _ _)

end Advances

/-! ### Runs -/

/-- The snapshot or delta that a call gives the state of a symbol. -/
def ProcessorCall.inputs (symbol : String) : ProcessorCall → List BookCall
  | .loadSnapshot a =>
      if upper a.symbol = upper symbol then [.applySnapshot (snapshotArgs a)] else []
  | .processDepthUpdate event _ r =>
      if upper event.symbol = upper symbol then [.applyDelta (deltaArgs event r)] else []
  | _ => []

/-- A call that drops the state of a symbol. -/
def ProcessorCall.drops (symbol : String) : ProcessorCall → Bool
  | .cleanupSymbol symbol' => upper symbol' = upper symbol
  | _ => false

/-- **What a call does to the state of a symbol** that it does not drop. -/
theorem Advances.next {p : OrderbookPhase41Processor} (hp : UpperKeys p) (symbol : String)
    {call : ProcessorCall} (hdrops : ¬ call.drops symbol = true) :
    Advances symbol (call.inputs symbol) p (phase41Machine.next p call) := by
  cases call with
  | loadSnapshot a => exact .loadSnapshot p a
  | processDepthUpdate event lag r => exact .processDepthUpdate p event lag r
  | bridgeMissing symbol' now =>
      have hstopped : Evolves [] (p.stateFor symbol' now)
          ((p.stateFor symbol' now).markNotReady "bridge_missing_after_snapshot" (some now) true
            none now) :=
        (Evolves.refl _).quiet
          (.markNotReady "bridge_missing_after_snapshot" (some now) true none now) rfl
      exact (Advances.setState_quiet hstopped).then_quiet (.of_states rfl)
  | checkStalePeriods now symbols feedActive queueSize clock =>
      exact .checkStalePeriods hp now symbols feedActive queueSize clock
  | validateReportedBest symbol' bid ask r => exact .validateReportedBest p symbol' bid ask r
  | cleanupSymbol symbol' =>
      refine .untouched rfl ?_
      have hne : upper symbol' ≠ upper symbol := fun hsame => hdrops (decide_eq_true hsame)
      change (p.cleanupSymbol symbol').states.get? (upper symbol) = _
      rw [OrderbookPhase41Processor.cleanupSymbol, Dict.get?_pop, if_neg hne]
  | recordWsMessageRecv symbol' ns => exact .of_states rfl
  | markSnapshotRecoveryActive symbol' active => exact .of_states rfl
  | setCaptureActive active => exact .of_states rfl

/-- Extend the inputs of a symbol by a call: dropping its state forgets them. -/
def extendInputs (symbol : String) (inputs : List BookCall) (call : ProcessorCall) :
    List BookCall :=
  if call.drops symbol then [] else inputs ++ call.inputs symbol

/-- The snapshots and deltas given for a symbol since its state was last dropped. -/
def inputsSince (symbol : String) (calls : List ProcessorCall) : List BookCall :=
  calls.foldl (extendInputs symbol) []

theorem inputsSince_concat (symbol : String) (calls : List ProcessorCall)
    (call : ProcessorCall) :
    inputsSince symbol (calls ++ [call]) = extendInputs symbol (inputsSince symbol calls) call :=
  List.foldl_concat ..

/-- What a processor has for a symbol that was given inputs: no state and no inputs, or a state
that a fresh one evolves to. -/
inductive Holds (symbol : String) (inputs : List BookCall) (p : OrderbookPhase41Processor) : Prop
  | absent (noInputs : inputs = []) (state : p.states.get? (upper symbol) = none)
  | present (now : ℤ) (t : OrderbookState) (state : p.states.get? (upper symbol) = some t)
      (evolves : Evolves inputs (OrderbookState.init symbol readyFalseWarningAfterSec now) t)

theorem init_upper (symbol : String) (warningAfterSec : ℚ) (now : ℤ) :
    OrderbookState.init (upper symbol) warningAfterSec now =
      OrderbookState.init symbol warningAfterSec now := by
  simp only [OrderbookState.init, upper_upper]

namespace Holds

variable {symbol : String} {inputs : List BookCall} {p : OrderbookPhase41Processor}

/-- A processor starts with fresh states. -/
theorem init (c : Phase41Settings) (symbol : String) :
    Holds symbol [] (OrderbookPhase41Processor.init c) := by
  cases hstate : (OrderbookPhase41Processor.init c).states.get? (upper symbol) with
  | none => exact .absent rfl hstate
  | some t =>
      obtain ⟨given, -, heq⟩ := List.mem_map.mp (Dict.mem_of_get?_ofList hstate)
      obtain ⟨hupper, rfl⟩ := Prod.mk.inj heq
      refine .present c.monotonicNow _ hstate ?_
      rw [← init_upper given, hupper, init_upper]
      exact .refl _

theorem advance {inputs' : List BookCall} {q : OrderbookPhase41Processor}
    (h : Holds symbol inputs p) (hstep : Advances symbol inputs' p q) :
    Holds symbol (inputs ++ inputs') q := by
  cases hstep with
  | untouched noInputs same =>
      subst noInputs
      rw [List.append_nil]
      cases h with
      | absent noInputs state => exact .absent noInputs (same.trans state)
      | present now t state evolves => exact .present now t (same.trans state) evolves
  | touched now t stored evolves =>
      cases h with
      | absent noInputs state =>
          rw [noInputs, List.nil_append]
          refine .present now t stored ?_
          rwa [stateFor, state, Option.getD_none, init_upper] at evolves
      | present now' t' state evolves' =>
          rw [stateFor, state, Option.getD_some] at evolves
          exact .present now' t stored (evolves'.trans evolves)

theorem next (h : Holds symbol inputs p) (hp : UpperKeys p) (call : ProcessorCall) :
    Holds symbol (extendInputs symbol inputs call) (phase41Machine.next p call) := by
  rw [extendInputs]
  split
  · rename_i hdrops
    cases call with
    | cleanupSymbol symbol' =>
        refine .absent rfl ?_
        change (p.cleanupSymbol symbol').states.get? (upper symbol) = none
        have hsame : upper symbol' = upper symbol := of_decide_eq_true hdrops
        rw [OrderbookPhase41Processor.cleanupSymbol, Dict.get?_pop, if_pos hsame]
    | _ => cases hdrops
  · rename_i hdrops
    exact h.advance (.next hp symbol hdrops)

theorem exec (c : Phase41Settings) (symbol : String) (calls : List ProcessorCall) :
    UpperKeys (phase41Machine.exec (OrderbookPhase41Processor.init c) calls) ∧
      Holds symbol (inputsSince symbol calls)
        (phase41Machine.exec (OrderbookPhase41Processor.init c) calls) := by
  induction calls using List.reverseRecOn with
  | nil => exact ⟨.init c, .init c symbol⟩
  | append_singleton calls call ih =>
      rw [phase41Machine.exec_append, inputsSince_concat]
      exact ⟨ih.1.next call, ih.2.next ih.1 call⟩

end Holds

end SomethingTrade
