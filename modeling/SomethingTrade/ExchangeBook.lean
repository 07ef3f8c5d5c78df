import SomethingTrade.OrderbookLedger
import SomethingTrade.Phase41Samples
import SomethingTrade.Replica
import SomethingTrade.SymbolRuns

/-!
# Samples Show the Exchange's Book

The exchange holds the book of a symbol, which changes with every update id. It sends copies of
it and patches to it, and drops, repeats and reorders them. What the processor makes of them is
a replica: while a state is ready, it is the exchange's book at the state's last update id, and
so is what is written to the dataset.

A snapshot has limited depth, so a replica is right about the prices the exchange tells about,
the watched ones, and only as long as what it is sent is true.

## Main results

* `Replicates.next`: a call that tells the truth keeps a state a replica.
* `OrderbookPhase41Processor.samples_show_exchange_book`: the samples of every run.
-/

namespace SomethingTrade

open OrderbookState OrderbookPhase41Processor

/-! ### The exchange -/

/-- The book of the exchange at each update id. -/
structure ExchangeBook where
  bids : History ℚ ℚ
  asks : History ℚ ℚ

/-- The prices that are watched on each side. -/
structure WatchedPrices where
  bids : Set ℚ
  asks : Set ℚ

/-- What a row of a delta makes of its price: size zero removes it. -/
def assignmentOf (level : ParsedLevel) : ℚ × Option ℚ :=
  (level.price, if level.size = 0 then none else some level.size)

/-- What the rows of a delta make of their prices. -/
def deltaAssignments (rows : List LevelRow) : List (ℚ × Option ℚ) :=
  (parseLevels true rows).1.map assignmentOf

namespace ExchangeBook

variable (x : ExchangeBook) (watched : WatchedPrices)

/-- What an orderbook is given about the watched prices is true of the exchange. -/
def Tells : BookCall → Prop
  | .applySnapshot a =>
      Set.EqOn (bookOfLevels (parseLevels false a.bids).1).get? (x.bids a.lastUpdateId)
        watched.bids ∧
      Set.EqOn (bookOfLevels (parseLevels false a.asks).1).get? (x.asks a.lastUpdateId)
        watched.asks
  | .applyDelta a =>
      Truthful x.bids watched.bids a.firstUpdateId a.finalUpdateId (deltaAssignments a.bids) ∧
      Truthful x.asks watched.asks a.firstUpdateId a.finalUpdateId (deltaAssignments a.asks)
  | _ => True

/-- A sample shows the top of the exchange's book at an update id. -/
structure Shown (n : ℕ) (id : ℤ) (sample : Json) : Prop where
  lastUpdateId : sample.get "last_update_id" = .int id
  bids : ∃ levels, sample.get "bids" = levelsToJson levels ∧
    ShowsTop (x.bids id) watched.bids (· > ·) n levels
  asks : ∃ levels, sample.get "asks" = levelsToJson levels ∧
    ShowsTop (x.asks id) watched.asks (· < ·) n levels

end ExchangeBook

/-! ### Replicas -/

/-- Folding the levels of a delta into a side assigns them. -/
theorem get?_foldl_foldLevel (levels : List ParsedLevel) (book : Dict ℚ ℚ) :
    (levels.foldl foldLevel book).get? = assign book.get? (levels.map assignmentOf) := by
  induction levels generalizing book with
  | nil => rfl
  | cons level levels ih =>
      rw [List.foldl_cons, ih, List.map_cons, assign_cons]
      congr 1
      funext price
      rw [foldLevel, assignmentOf]
      by_cases hsize : level.size = 0
      · rw [if_pos hsize, if_pos hsize, Dict.get?_pop, Function.update_apply]
        simp only [eq_comm]
      · rw [if_neg hsize, if_neg hsize, Dict.get?_set, Function.update_apply]
        simp only [eq_comm]

/-- A state at an update id is a replica of the exchange's book. -/
structure Replica (x : ExchangeBook) (watched : WatchedPrices) (s : OrderbookState) (id : ℤ) :
    Prop where
  lastUpdateId : s.lastUpdateId = some id
  bids : Set.EqOn s.bids.get? (x.bids id) watched.bids
  asks : Set.EqOn s.asks.get? (x.asks id) watched.asks

/-- **The replica invariant**: a ready state is a replica, and one that waits for its first
delta stands at its snapshot. -/
structure Replicates (x : ExchangeBook) (watched : WatchedPrices) (s : OrderbookState) : Prop where
  replica : s.snapshotReady = true → ∃ id, Replica x watched s id
  atSnapshot : s.snapshotReady = true → s.awaitingFirstDeltaAfterSnapshot = true →
    s.snapshotLastUpdateId = s.lastUpdateId

namespace Replicates

variable {x : ExchangeBook} {watched : WatchedPrices} {s t : OrderbookState}

theorem of_notReady (h : s.snapshotReady = false) : Replicates x watched s where
  replica hready := by rw [h] at hready; cases hready
  atSnapshot hready := by rw [h] at hready; cases hready

theorem congr (h : Replicates x watched s) (hsame : SamePhase s t) : Replicates x watched t where
  replica hready := by
    obtain ⟨id, hid⟩ := h.replica (hsame.snapshotReady ▸ hready)
    exact ⟨id, hsame.lastUpdateId.trans hid.lastUpdateId, hsame.bids ▸ hid.bids,
      hsame.asks ▸ hid.asks⟩
  atSnapshot hready hawaiting := by
    rw [hsame.snapshotLastUpdateId, hsame.lastUpdateId]
    exact h.atSnapshot (hsame.snapshotReady ▸ hready) (hsame.awaiting ▸ hawaiting)

theorem applySnapshot (h : Replicates x watched s) {a : SnapshotArgs}
    (htells : x.Tells watched (.applySnapshot a)) : Replicates x watched (s.applySnapshot a).1 := by
  cases applySnapshot_outcome s a with
  | stale accepted status state => exact state ▸ h.congr (recordMessageRecv_samePhase s _)
  | invalid accepted status state => exact state ▸ of_notReady rfl
  | loaded accepted status fresh state =>
      rw [state]
      exact ⟨fun _ => ⟨a.lastUpdateId, rfl, htells.1, htells.2⟩, fun _ _ => rfl⟩

/-- A delta that passes the sequence check covers the id after the book's. -/
theorem covers_next (h : Replicates x watched s) {a : DeltaArgs} {last : ℤ}
    (hready : s.snapshotReady = true) (hlast : s.lastUpdateId = some last)
    (hnewer : last < a.finalUpdateId) (hsequence : s.sequenceFailure a last = none) :
    a.firstUpdateId ≤ last + 1 ∧ last + 1 ≤ a.finalUpdateId := by
  obtain ⟨hbridge, hnext⟩ := sequenceFailure_eq_none hsequence
  cases hawaiting : s.awaitingFirstDeltaAfterSnapshot with
  | true =>
      obtain ⟨id, hid, hcovers⟩ := hbridge hawaiting
      rw [h.atSnapshot hready hawaiting, hlast] at hid
      obtain rfl := Option.some.inj hid
      exact hcovers
  | false =>
      have hfirst := hnext hawaiting
      omega

theorem applyDelta (h : Replicates x watched s) {a : DeltaArgs}
    (htells : x.Tells watched (.applyDelta a)) : Replicates x watched (s.applyDelta a).1 := by
  cases applyDelta_outcome s a with
  | skipped accepted status state =>
      rw [state]
      exact h.congr ((recordMessageRecv_samePhase s _).trans (recordReadyFalseAge_samePhase _ _))
  | failed reason last accepted status ready atLast newer state => exact state ▸ of_notReady rfl
  | applied last accepted status ready atLast newer inSequence state =>
      obtain ⟨id, hid⟩ := h.replica ready
      obtain rfl := Option.some.inj (atLast.symm.trans hid.lastUpdateId)
      obtain ⟨hfirst, hfinal⟩ := h.covers_next ready atLast newer inSequence
      have hcommit := commitDelta_committed (s.recordMessageRecv a.localRecvMonotonicNs) a
        (parseLevels true a.bids).1 (parseLevels true a.asks).1
      rw [state]
      refine ⟨fun _ => ⟨a.finalUpdateId, hcommit.lastUpdateId, ?_, ?_⟩, fun _ hawaiting => ?_⟩
      · rw [hcommit.bids, foldl_applyLevel_fst, get?_foldl_foldLevel]
        exact htells.1.eqOn_assign hid.bids hfirst hfinal
      · rw [hcommit.asks, foldl_applyLevel_fst, get?_foldl_foldLevel]
        exact htells.2.eqOn_assign hid.asks hfirst hfinal
      · rw [hcommit.awaiting] at hawaiting
        cases hawaiting

/-- **A call that tells the truth keeps a state a replica.** -/
theorem next (h : Replicates x watched s) {c : BookCall} (htells : x.Tells watched c) :
    Replicates x watched (orderbookMachine.next s c) := by
  rw [orderbookMachine_next]
  cases c with
  | applySnapshot a => exact h.applySnapshot htells
  | applyDelta a => exact h.applyDelta htells
  | markNotReady | cleanup => exact of_notReady rfl
  | markReady recv clock => exact h.congr (refreshReadyToEmit_same s _).toSamePhase
  | recordMessageRecv recv => exact h.congr (recordMessageRecv_samePhase s recv)
  | bookAgeMs now => exact h.congr ⟨rfl, rfl, rfl, rfl, rfl, rfl, rfl, rfl⟩
  | bestBid | bestAsk | topN | copySnapshot | validate =>
      exact h.congr (ensurePriceIndexes_same s).toSamePhase

/-- What a fresh state evolves to by truthful inputs is a replica. -/
theorem of_evolves {symbol : String} {warningAfterSec : ℚ} {now : ℤ} {inputs : List BookCall}
    (h : Evolves inputs (OrderbookState.init symbol warningAfterSec now) t)
    (htells : ∀ input ∈ inputs, x.Tells watched input) : Replicates x watched t := by
  obtain ⟨calls, rfl, rfl⟩ := h
  refine orderbookMachine.exec_invariant_while (fun _ _ h hc => h.next hc) (of_notReady rfl)
    (orderbookMachine.stepsMeet_of_forall (P := x.Tells watched) _ fun c hc => ?_)
  cases hinput : c.isInput with
  | true => exact htells c (List.mem_filter.mpr ⟨hc, hinput⟩)
  | false =>
      cases c with
      | applySnapshot a => cases hinput
      | applyDelta a => cases hinput
      | _ => trivial

end Replicates

/-! ### Processors -/

/-- The books of the exchange and the watched prices of each symbol, in upper case. -/
structure Exchange where
  book : String → ExchangeBook
  watched : String → WatchedPrices

/-- What is given for a symbol is true of its book. -/
def Exchange.TellsOf (X : Exchange) (symbol : String) (input : BookCall) : Prop :=
  (X.book (upper symbol)).Tells (X.watched (upper symbol)) input

/-- What a call gives is true of the book it is about. -/
def Exchange.TellsCall (X : Exchange) : ProcessorCall → Prop
  | .loadSnapshot a => X.TellsOf a.symbol (.applySnapshot (snapshotArgs a))
  | .processDepthUpdate event _ r => X.TellsOf event.symbol (.applyDelta (deltaArgs event r))
  | _ => True

theorem Exchange.tellsOf_of_mem_inputs {X : Exchange} {call : ProcessorCall}
    (h : X.TellsCall call) {symbol : String} {input : BookCall} (hin : input ∈ call.inputs symbol) :
    X.TellsOf symbol input := by
  cases call with
  | loadSnapshot a =>
      rw [ProcessorCall.inputs] at hin
      split at hin
      · rename_i hsymbol
        obtain rfl := List.mem_singleton.mp hin
        rw [Exchange.TellsOf, ← hsymbol]
        exact h
      · cases hin
  | processDepthUpdate event lag r =>
      rw [ProcessorCall.inputs] at hin
      split at hin
      · rename_i hsymbol
        obtain rfl := List.mem_singleton.mp hin
        rw [Exchange.TellsOf, ← hsymbol]
        exact h
      · cases hin
  | _ => cases hin

/-- What a processor holds of every symbol came from true inputs. -/
def Informed (X : Exchange) (p : OrderbookPhase41Processor) : Prop :=
  ∀ symbol, ∃ inputs, Holds symbol inputs p ∧ ∀ input ∈ inputs, X.TellsOf symbol input

namespace Informed

variable {X : Exchange} {p q : OrderbookPhase41Processor}

theorem init (X : Exchange) (c : Phase41Settings) :
    Informed X (OrderbookPhase41Processor.init c) := fun symbol =>
  ⟨[], .init c symbol, fun _ hinput => absurd hinput List.not_mem_nil⟩

/-- A step that touches no state. -/
theorem quiet (h : Informed X p) (hquiet : TouchesOnly [] p q) : Informed X q := by
  intro symbol
  obtain ⟨inputs, hholds, htells⟩ := h symbol
  refine ⟨inputs, ?_, htells⟩
  have hadvance := hholds.advance (.of_quiet hquiet)
  rwa [List.append_nil] at hadvance

theorem next (h : Informed X p) (hp : UpperKeys p) {call : ProcessorCall}
    (hcall : X.TellsCall call) : Informed X (phase41Machine.next p call) := by
  intro symbol
  obtain ⟨inputs, hholds, htells⟩ := h symbol
  refine ⟨_, hholds.next hp call, fun input hinput => ?_⟩
  rw [extendInputs] at hinput
  split at hinput
  · cases hinput
  · rcases List.mem_append.mp hinput with hin | hin
    · exact htells input hin
    · exact X.tellsOf_of_mem_inputs hcall hin

/-- The states of an informed processor are replicas. -/
theorem replicates (h : Informed X p) {symbol : String} {t : OrderbookState}
    (ht : p.states.get? (upper symbol) = some t) :
    Replicates (X.book (upper symbol)) (X.watched (upper symbol)) t := by
  obtain ⟨inputs, hholds, htells⟩ := h symbol
  cases hholds with
  | absent noInputs state => rw [state] at ht; cases ht
  | present now t' state evolves =>
      obtain rfl := Option.some.inj (state.symm.trans ht)
      exact .of_evolves evolves htells

end Informed

/-- What the processor of a run with true inputs is known to be. -/
structure Tracks (X : Exchange) (c : Phase41Settings) (p : OrderbookPhase41Processor) : Prop where
  reached : Reached c p
  upperKeys : UpperKeys p
  informed : Informed X p

namespace Tracks

variable {X : Exchange} {c : Phase41Settings} {p : OrderbookPhase41Processor}

theorem init (X : Exchange) (c : Phase41Settings) :
    Tracks X c (OrderbookPhase41Processor.init c) :=
  ⟨reached_init c, .init c, .init X c⟩

theorem next (h : Tracks X c p) (call : ProcessorCall) (hcall : X.TellsCall call) :
    Tracks X c (phase41Machine.next p call) :=
  ⟨h.reached.next call, h.upperKeys.next call, h.informed.next h.upperKeys hcall⟩

/-- A step that touches counters only. -/
theorem quiet {q : OrderbookPhase41Processor} (h : Tracks X c p) (hkeeps : Keeps BookInv p q)
    (hquiet : TouchesOnly [] p q) : Tracks X c q :=
  ⟨⟨hkeeps.accounted h.reached.toAccounted, hkeeps.settings.trans h.reached.settings⟩,
    h.upperKeys.of_touchesOnly hquiet fun _ hkey => absurd hkey List.not_mem_nil,
    h.informed.quiet hquiet⟩

/-- Reading the state of a symbol, which makes a fresh one when there is none. -/
theorem readState (h : Tracks X c p) (symbol : String) (now : ℤ) :
    Tracks X c (p.setState symbol (p.stateFor symbol now)) := by
  have hbook : BookInv (p.stateFor symbol now) :=
    h.reached.books.stateFor bookInv_stateInv symbol now
  have hkeeps : Keeps BookInv p (p.setState symbol (p.stateFor symbol now)) :=
    keeps_setState symbol hbook
  refine ⟨⟨hkeeps.accounted h.reached.toAccounted, hkeeps.settings.trans h.reached.settings⟩,
    h.upperKeys.of_touchesOnly ((keptByParts_touchesOnly [upper symbol] p).setState symbol _
      List.mem_cons_self (.refl _ p)) fun key hkey => ?_, fun symbol' => ?_⟩
  · rw [List.mem_singleton.mp hkey, upper_upper]
  · obtain ⟨inputs, hholds, htells⟩ := h.informed symbol'
    refine ⟨inputs, ?_, htells⟩
    have hread : Advances symbol' [] p (p.setState symbol (p.stateFor symbol now)) :=
      .setState_quiet (.refl _)
    have hadvance := hholds.advance hread
    rwa [List.append_nil] at hadvance

end Tracks

/-! ### Samples -/

/-- An accepted delta leaves the book at its final id. -/
theorem lastUpdateId_of_accepted {s : OrderbookState} {a : DeltaArgs}
    (h : (s.applyDelta a).2.accepted = true) :
    (s.applyDelta a).1.lastUpdateId = some a.finalUpdateId := by
  cases applyDelta_outcome s a with
  | skipped accepted => rw [h] at accepted; cases accepted
  | failed _ _ accepted => rw [h] at accepted; cases accepted
  | applied _ _ _ _ _ _ _ state =>
      rw [state]
      exact (commitDelta_committed _ a _ _).lastUpdateId

/-- **A sample shows the exchange's book.** What a true depth update emits shows the top of the
exchange's book at the final id of the update. -/
theorem Tracks.shown_of_emitted {X : Exchange} {c : Phase41Settings}
    {p : OrderbookPhase41Processor} (h : Tracks X c p) (hdepth : 1 ≤ c.depthN)
    {event : DepthUpdate} {lag : Option ℚ} {r : DepthReadings}
    (hcall : X.TellsCall (.processDepthUpdate event lag r)) {sample : Json}
    (hsample : (p.processDepthUpdate event lag r).2.emitted? = some sample) :
    (X.book (upper event.symbol)).Shown (X.watched (upper event.symbol)) c.depthN.toNat
      event.finalUpdateId sample := by
  obtain ⟨haccepted, hstate, -, hsampleEq⟩ := processDepthUpdate_emitted h.reached.books hsample
  have hview := cleanView_of_reached hdepth h.reached hsample
  have hlast : (appliedState p event r).1.lastUpdateId = some event.finalUpdateId :=
    lastUpdateId_of_accepted haccepted
  obtain ⟨id, hid⟩ := ((h.next _ hcall).informed.replicates hstate).replica hview.snapshotReady
  obtain rfl := Option.some.inj (hlast.symm.trans hid.lastUpdateId)
  refine ⟨?_, ⟨_, hview.bids, ?_⟩, ⟨_, hview.asks, ?_⟩⟩
  · have hcopied : (emissionCopy p event r).lastUpdateId = some event.finalUpdateId := hlast
    simp [hsampleEq, cleanSampleFromSnapshot, hcopied, Json.ofInt?]
  · exact (showsTop_take (fun e => Dict.mem_descending.trans Dict.mem_entries_iff)
      (Dict.descending_pairwise _) _).of_eqOn hid.bids
  · exact (showsTop_take (fun e => Dict.mem_ascending.trans Dict.mem_entries_iff)
      (Dict.ascending_pairwise _) _).of_eqOn hid.asks

/-- **The samples of a run show the exchange's books.** When the snapshots and deltas given to a
processor are true of the watched prices, every sample it emits shows the top of its symbol's
book at the final id of its delta, whatever else the run does: no accepted delta is missing from
it, and no older level is left in it. -/
theorem OrderbookPhase41Processor.samples_show_exchange_book (c : Phase41Settings)
    (hdepth : 1 ≤ c.depthN) (X : Exchange) (calls : List ProcessorCall)
    (htells : ∀ call ∈ calls, X.TellsCall call) :
    ∀ e ∈ phase41Machine.trace (OrderbookPhase41Processor.init c) calls,
      ∀ sample, e.2.emitted? = some sample →
        ∃ event lag r, e.1 = .processDepthUpdate event lag r ∧
          (X.book (upper event.symbol)).Shown (X.watched (upper event.symbol)) c.depthN.toNat
            event.finalUpdateId sample := by
  refine phase41Machine.forall_trace (I := Tracks X c) (C := fun _ call => X.TellsCall call)
    (Q := fun call reply => ∀ sample, reply.emitted? = some sample →
      ∃ event lag r, call = .processDepthUpdate event lag r ∧
        (X.book (upper event.symbol)).Shown (X.watched (upper event.symbol)) c.depthN.toNat
          event.finalUpdateId sample)
    (fun _ call h hcall => h.next call hcall) (fun p call h hcall sample hsample => ?_) (.init X c)
    (phase41Machine.stepsMeet_of_forall (P := X.TellsCall) _ htells)
  obtain ⟨event, lag, r, rfl, -, hemitted⟩ := emitted_call hsample
  exact ⟨event, lag, r, rfl, h.shown_of_emitted hdepth hcall hemitted⟩

/-- The exchange's book before and after one level changes at id 11. -/
def bridgedBook : ExchangeBook where
  bids id price :=
    if price = 201 / 2 then if id ≤ 10 then none else some 3
    else if price = 100 then some 1 else if price = 199 / 2 then some 2 else none
  asks _ price := if price = 101 then some (3 / 2) else none

/-- An exchange where every symbol has that book, with every price watched. -/
def bridgedExchange : Exchange where
  book _ := bridgedBook
  watched _ := ⟨Set.univ, Set.univ⟩

/-- The book of that exchange at id 10, as a snapshot. -/
theorem bridgedBook_tells_snapshot {a : SnapshotArgs}
    (hbids : a.bids = [.seq ["100", "1"], .seq ["99.5", "2"]])
    (hasks : a.asks = [.seq ["101", "1.5"]]) (hid : a.lastUpdateId = 10) :
    bridgedBook.Tells ⟨Set.univ, Set.univ⟩ (.applySnapshot a) := by
  have hparsedBids : (parseLevels false a.bids).1.map (fun l => (l.price, l.size)) =
      [(100, 1), (199 / 2, 2)] := by
    rw [hbids]
    decide +kernel
  have hparsedAsks : (parseLevels false a.asks).1.map (fun l => (l.price, l.size)) =
      [(101, 3 / 2)] := by
    rw [hasks]
    decide +kernel
  refine ⟨fun price _ => ?_, fun price _ => ?_⟩
  · rw [bookOfLevels, hparsedBids, hid]
    simp only [Dict.ofList, List.foldl_cons, List.foldl_nil, Dict.get?_set, Dict.get?_empty,
      bridgedBook]
    grind
  · rw [bookOfLevels, hparsedAsks, hid]
    simp only [Dict.ofList, List.foldl_cons, List.foldl_nil, Dict.get?_set, Dict.get?_empty,
      bridgedBook]
    grind

/-- What changes at id 11, as a delta. -/
theorem bridgedBook_tells_delta {a : DeltaArgs} (hbids : a.bids = [.seq ["100.5", "3.0"]])
    (hasks : a.asks = []) (hfirst : a.firstUpdateId = 11) (hfinal : a.finalUpdateId = 12) :
    bridgedBook.Tells ⟨Set.univ, Set.univ⟩ (.applyDelta a) := by
  have hdelta : deltaAssignments a.bids = [(201 / 2, some 3)] := by
    rw [hbids]
    decide +kernel
  have hnone : deltaAssignments a.asks = [] := by rw [hasks]; rfl
  rw [ExchangeBook.Tells, hdelta, hnone, hfirst, hfinal]
  refine ⟨⟨fun b hb _ => ?_, fun price _ hne version hversion hlast => ?_⟩,
    ⟨fun b hb _ => ?_, fun price _ hne version hversion hlast => rfl⟩⟩
  · obtain rfl := List.mem_singleton.mp hb
    have hthere : bridgedBook.bids 12 (201 / 2) = some 3 := by simp [bridgedBook]
    exact hthere.symm
  · have hother : price ≠ 201 / 2 := fun heq => hne (201 / 2, some 3) List.mem_cons_self heq.symm
    simp only [bridgedBook, if_neg hother]
  · cases hb

/-- The snapshot and the delta of that book tell the truth about every price. -/
theorem bridgedExchange_tells : ∀ call ∈ bridgedUpdate, bridgedExchange.TellsCall call := by
  intro call hcall
  rcases List.mem_cons.mp hcall with rfl | hcall
  · exact bridgedBook_tells_snapshot rfl rfl rfl
  · obtain rfl := List.mem_singleton.mp hcall
    exact bridgedBook_tells_delta rfl rfl rfl rfl

theorem OrderbookPhase41Processor.samples_show_exchange_book_bridgedUpdate :
    (emittedSamples twoLevels bridgedUpdate).length = 1 ∧
      ∀ e ∈ phase41Machine.trace (OrderbookPhase41Processor.init twoLevels) bridgedUpdate,
        ∀ sample, e.2.emitted? = some sample →
          ∃ event lag r, e.1 = .processDepthUpdate event lag r ∧
            bridgedBook.Shown ⟨Set.univ, Set.univ⟩ 2 event.finalUpdateId sample :=
  ⟨by decide +kernel, OrderbookPhase41Processor.samples_show_exchange_book twoLevels (by decide)
    bridgedExchange bridgedUpdate bridgedExchange_tells⟩

end SomethingTrade
