import SomethingTrade.MarketState
import SomethingTrade.StableSort

/-!
# Rolling Returns

The return of a symbol over a window holds its price against the last one from before the
window. The prices are searched for it after those older than the longest window are dropped,
so a price from before that window is never found, also when it is the last one from before a
shorter window.

## Main results

* `priceHistory_exec`: what the history holds after a run.
* `rolling_return_iff`: when a return is the one over all trades.
-/

namespace SomethingTrade

/-! ### Trades -/

/-- The time and the price of an event that is a trade of a symbol. -/
def MarketEvent.trade? (symbol : String) : MarketEvent → Option (ℤ × ℚ)
  | .marketTick tick =>
      if tick.symbol = symbol then
        some (eventTimestamp tick.toRealtimeMarketEvent, tick.price)
      else none
  | _ => none

/-- The trades of a symbol in a run. -/
def tradesOf (symbol : String) (inputs : List (MarketEvent × Moment)) : List (ℤ × ℚ) :=
  inputs.filterMap fun input => input.1.trade? symbol

/-- The trades of a symbol never go back in time. -/
def TradesInOrder (symbol : String) (inputs : List (MarketEvent × Moment)) : Prop :=
  SortedBy Prod.fst (tradesOf symbol inputs)

instance (symbol : String) (inputs : List (MarketEvent × Moment)) :
    Decidable (TradesInOrder symbol inputs) :=
  inferInstanceAs (Decidable ((tradesOf symbol inputs).Pairwise fun a b => a.1 ≤ b.1))

/-- The latest trade at or before a time. -/
def latestTrade (trades : List (ℤ × ℚ)) (targetTs : ℤ) : Option (ℤ × ℚ) :=
  (trades.filter fun e => e.1 ≤ targetTs).getLast?

/-- The return on the price of the latest trade from before a window; missing without one, or
when that price is zero. -/
def returnSince (trades : List (ℤ × ℚ)) (nowTs : ℤ) (price : ℚ) (windowSec : ℤ) : Option ℚ :=
  match latestTrade trades (nowTs - windowSec * 1000000000) with
  | none => none
  | some baseline => if baseline.2 = 0 then none else some (price / baseline.2 - 1)

/-- The latest trade from before a window, if any, is not older than the longest window, or
its price is zero. -/
def BaselineKept (trades : List (ℤ × ℚ)) (nowTs windowSec : ℤ) : Prop :=
  ∀ baseline ∈ latestTrade trades (nowTs - windowSec * 1000000000),
    nowTs - maxReturnWindowNs ≤ baseline.1 ∨ baseline.2 = 0

/-- The trades that are not older than the longest window when the last one takes place. -/
def keptTrades (trades : List (ℤ × ℚ)) : List (ℤ × ℚ) :=
  match trades.getLast? with
  | none => []
  | some last => trades.filter fun e => last.1 - maxReturnWindowNs ≤ e.1

/-- One trade more: what is dropped then includes what was dropped before. -/
theorem keptTrades_concat {trades : List (ℤ × ℚ)} {trade : ℤ × ℚ}
    (h : SortedBy Prod.fst (trades ++ [trade])) :
    ((keptTrades trades ++ [trade]).dropWhile fun e => e.1 < trade.1 - maxReturnWindowNs) =
      keptTrades (trades ++ [trade]) := by
  obtain ⟨hbefore, -, hlast⟩ := List.pairwise_append.mp h
  have hkept : (keptTrades trades).Sublist trades := by
    rw [keptTrades]
    split
    · exact List.nil_sublist _
    · exact List.filter_sublist
  have hsorted : SortedBy Prod.fst (keptTrades trades ++ [trade]) :=
    h.sublist (hkept.append_right [trade])
  have hall : keptTrades (trades ++ [trade]) =
      (trades ++ [trade]).filter fun e => trade.1 - maxReturnWindowNs ≤ e.1 := by
    rw [keptTrades, List.getLast?_concat]
  rw [SortedBy.dropWhile_lt hsorted, hall, List.filter_append, List.filter_append]
  congr 1
  rw [keptTrades]
  cases hend : trades.getLast? with
  | none =>
      rewrite [List.getLast?_eq_none_iff.mp hend]
      rfl
  | some last =>
      have hle : last.1 ≤ trade.1 := hlast last (List.mem_of_getLast? hend) trade (by simp)
      dsimp only
      rw [List.filter_filter]
      refine List.filter_congr fun e _ => ?_
      rw [Bool.eq_iff_iff, Bool.and_eq_true, decide_eq_true_iff, decide_eq_true_iff]
      constructor
      · exact fun hboth => hboth.1
      · intro hnew
        exact ⟨hnew, by omega⟩

/-! ### The history of a run -/

namespace MarketState

/-- What is known of a symbol; nothing, when there was no event of it. -/
def symbolState (state : MarketState) (symbol : String) : SymbolState :=
  (state.symbols.get? symbol).getD (.init symbol)

theorem symbolState_updateSymbol (state : MarketState) (changed symbol : String)
    (f : SymbolState → SymbolState) :
    (state.updateSymbol changed f).symbolState symbol =
      if changed = symbol then f (state.symbolState symbol) else state.symbolState symbol := by
  rw [symbolState, updateSymbol, Dict.get?_set]
  split
  · rename_i h
    rw [h]
    rfl
  · rfl

/-- **What an event does to the history** of a symbol. -/
theorem priceHistory_apply (state : MarketState) (event : MarketEvent) (now : Moment)
    (symbol : String) :
    ((state.apply event now).1.symbolState symbol).priceHistory =
      match event.trade? symbol with
      | some trade =>
          ((state.symbolState symbol).priceHistory ++ [trade]).dropWhile fun e =>
            e.1 < trade.1 - maxReturnWindowNs
      | none => (state.symbolState symbol).priceHistory := by
  cases event with
  | marketTick tick =>
      change ((MarketState.updateSymbol _ tick.symbol _).symbolState symbol).priceHistory = _
      rw [symbolState_updateSymbol, MarketEvent.trade?]
      split <;> rfl
  | orderBookTop e =>
      change ((MarketState.updateSymbol _ e.symbol _).symbolState symbol).priceHistory = _
      rw [symbolState_updateSymbol]
      split <;> rfl
  | depthUpdate e =>
      change ((MarketState.updateSymbol _ e.symbol _).symbolState symbol).priceHistory = _
      rw [symbolState_updateSymbol]
      split <;> rfl
  | polymarketQuote q => rfl
  | marketLifecycle e =>
      by_cases hends : e.lifecycleType.endsMarket = true
      · have hrun : (state.apply (.marketLifecycle e) now).1 = _ := if_pos hends
        rw [hrun]
        rfl
      · have hrun : (state.apply (.marketLifecycle e) now).1 = _ := if_neg hends
        rw [hrun]
        rfl

/-- **The history after a run** holds the trades that are not older than the longest window. -/
theorem priceHistory_exec (maxAgeMs : ℚ) {symbol : String}
    {inputs : List (MarketEvent × Moment)} (h : TradesInOrder symbol inputs) :
    ((marketStateMachine.exec (.init maxAgeMs) inputs).symbolState symbol).priceHistory =
      keptTrades (tradesOf symbol inputs) := by
  induction inputs using List.reverseRecOn with
  | nil => rfl
  | append_singleton inputs input ih =>
      have hsplit : tradesOf symbol (inputs ++ [input]) =
          tradesOf symbol inputs ++ (input.1.trade? symbol).toList := by
        rw [tradesOf, List.filterMap_append]
        cases htrade : input.1.trade? symbol <;> simp [htrade, tradesOf]
      rw [TradesInOrder, hsplit] at h
      have ih := ih (List.pairwise_append.mp h).1
      rw [Machine.exec_append, hsplit]
      change ((MarketState.apply _ input.1 input.2).1.symbolState symbol).priceHistory = _
      rw [priceHistory_apply, ih]
      cases htrade : input.1.trade? symbol with
      | none => simp
      | some trade =>
          rw [htrade] at h
          exact keptTrades_concat h

end MarketState

/-! ### Returns -/

/-- Returns that are set in turn under keys of their own stay. -/
theorem get?_foldl_set {keyOf : ℤ → String} {value : ℤ → Option ℚ} {windows : List ℤ}
    (hkeys : (windows.map keyOf).Nodup) (returns : Dict String (Option ℚ)) {window : ℤ}
    (h : window ∈ windows) :
    (windows.foldl (fun d w => d.set (keyOf w) (value w)) returns).get? (keyOf window) =
      some (value window) := by
  induction windows using List.reverseRecOn with
  | nil => cases h
  | append_singleton windows last ih =>
      rw [List.foldl_concat, Dict.get?_set]
      rw [List.map_append, List.nodup_append] at hkeys
      rcases List.mem_append.mp h with h | h
      · have hne : keyOf last ≠ keyOf window :=
          (hkeys.2.2 _ (List.mem_map_of_mem h) _ (by simp)).symm
        rw [if_neg hne, ih hkeys.1 h]
      · rw [List.mem_singleton.mp h, if_pos rfl]

theorem nodup_returnWindowKeys : (returnWindowsSec.map returnWindowKey).Nodup := by
  decide +kernel

/-- The returns after a trade are those its history gives. -/
theorem rollingReturns_apply (state : MarketState) (tick : MarketTick) (now : Moment)
    {windowSec : ℤ} (h : windowSec ∈ returnWindowsSec) :
    (((state.apply (.marketTick tick) now).1.symbolState tick.symbol).rollingReturns.get?
      (returnWindowKey windowSec)) =
      some (((state.apply (.marketTick tick) now).1.symbolState tick.symbol).returnOver
        (eventTimestamp tick.toRealtimeMarketEvent) tick.price windowSec) := by
  have hstate : (state.apply (.marketTick tick) now).1.symbolState tick.symbol = _ :=
    (MarketState.symbolState_updateSymbol _ tick.symbol tick.symbol _).trans (if_pos rfl)
  rw [hstate]
  exact get?_foldl_set nodup_returnWindowKeys _ h

/-- The search of the kept trades finds the latest trade, unless that is dropped. -/
theorem priceAtOrBefore_keptTrades {trades : List (ℤ × ℚ)} {last : ℤ × ℚ}
    (h : SortedBy Prod.fst trades) (hlast : trades.getLast? = some last) (targetTs : ℤ) :
    priceAtOrBefore (keptTrades trades) targetTs =
      ((latestTrade trades targetTs).filter fun e =>
        last.1 - maxReturnWindowNs ≤ e.1).map Prod.snd := by
  have hkept : keptTrades trades = trades.filter fun e => last.1 - maxReturnWindowNs ≤ e.1 := by
    rw [keptTrades, hlast]
  have hsorted : SortedBy Prod.fst (keptTrades trades) := hkept ▸ h.filter _
  rw [priceAtOrBefore, SortedBy.takeWhile_le hsorted, hkept, List.filter_comm,
    SortedBy.getLast?_filter_ge (h.filter _)]
  rfl

/-- **When a return is the one over all trades**: after every trade of every run, the return
over a window is the one on the latest trade from before the window, of all there were, exactly
when that trade is not older than the longest window. -/
theorem rolling_return_iff (maxAgeMs : ℚ) {inputs : List (MarketEvent × Moment)}
    {tick : MarketTick} {now : Moment}
    (hsorted : TradesInOrder tick.symbol (inputs ++ [(.marketTick tick, now)])) {windowSec : ℤ}
    (hwindow : windowSec ∈ returnWindowsSec) :
    (((marketStateMachine.exec (.init maxAgeMs) (inputs ++ [(.marketTick tick, now)])).symbolState
      tick.symbol).rollingReturns.get? (returnWindowKey windowSec) =
        some (returnSince (tradesOf tick.symbol (inputs ++ [(.marketTick tick, now)]))
          (eventTimestamp tick.toRealtimeMarketEvent) tick.price windowSec)) ↔
      BaselineKept (tradesOf tick.symbol (inputs ++ [(.marketTick tick, now)]))
        (eventTimestamp tick.toRealtimeMarketEvent) windowSec := by
  have hhistory := MarketState.priceHistory_exec maxAgeMs hsorted
  have hlast : (tradesOf tick.symbol (inputs ++ [(.marketTick tick, now)])).getLast? =
      some (eventTimestamp tick.toRealtimeMarketEvent, tick.price) := by
    simp [tradesOf, MarketEvent.trade?]
  have hfound := priceAtOrBefore_keptTrades hsorted hlast
    (eventTimestamp tick.toRealtimeMarketEvent - windowSec * 1000000000)
  generalize tradesOf tick.symbol (inputs ++ [(.marketTick tick, now)]) = trades at *
  have hreturn := rollingReturns_apply (marketStateMachine.exec (.init maxAgeMs) inputs) tick now
    hwindow
  rw [Machine.exec_append] at hhistory ⊢
  change (MarketState.symbolState (MarketState.apply _ _ _).1 _).priceHistory = _ at hhistory
  change (MarketState.symbolState (MarketState.apply _ _ _).1 _).rollingReturns.get? _ = _ ↔ _
  rw [hreturn, SymbolState.returnOver, hhistory, hfound, returnSince, BaselineKept]
  cases hlatest : latestTrade trades
      (eventTimestamp tick.toRealtimeMarketEvent - windowSec * 1000000000) with
  | none => simp
  | some baseline =>
      rw [Option.filter_some]
      by_cases hkept : eventTimestamp tick.toRealtimeMarketEvent - maxReturnWindowNs ≤ baseline.1
      · rw [if_pos (decide_eq_true hkept)]
        refine iff_of_true rfl ?_
        rintro _ ⟨⟩
        exact .inl hkept
      · rw [if_neg (by simpa using hkept)]
        by_cases hzero : baseline.2 = 0
        · refine iff_of_true (by simp [hzero]) ?_
          rintro _ ⟨⟩
          exact .inr hzero
        · refine iff_of_false (by simp [hzero]) fun hall => ?_
          exact (hall baseline rfl).elim hkept hzero

/-- A trade of BTC at a time, for a price. -/
def tradeAt (ts : ℤ) (price : ℚ) : MarketTick where
  tsNs := ts
  exchangeEventTs := none
  localReceivedTs := none
  parseDoneTs := none
  stateUpdatedTs := none
  recvMonotonicNs := none
  parseDoneMonotonicNs := none
  stateUpdatedMonotonicNs := none
  latencyMs := none
  sequence := none
  source := .binance
  symbol := "BTCUSDT"
  price := price

theorem rolling_return_tenSeconds :
    (((marketStateMachine.exec (.init 1000)
      ([(.marketTick (tradeAt 1000000000 100), ⟨0, 0⟩)] ++
        [(.marketTick (tradeAt 11000000000 110), ⟨0, 0⟩)])).symbolState
      "BTCUSDT").rollingReturns.get? (returnWindowKey 5) =
        some (returnSince (tradesOf "BTCUSDT" ([(.marketTick (tradeAt 1000000000 100), ⟨0, 0⟩)] ++
          [(.marketTick (tradeAt 11000000000 110), ⟨0, 0⟩)])) 11000000000 110 5)) ↔
      BaselineKept (tradesOf "BTCUSDT" ([(.marketTick (tradeAt 1000000000 100), ⟨0, 0⟩)] ++
        [(.marketTick (tradeAt 11000000000 110), ⟨0, 0⟩)])) 11000000000 5 :=
  @rolling_return_iff 1000 [(.marketTick (tradeAt 1000000000 100), ⟨0, 0⟩)]
    (tradeAt 11000000000 110) ⟨0, 0⟩ (by decide +kernel) 5 (by decide)

/-- **A dropped price loses a return.** Of two trades 31 seconds apart the second has a return
of a tenth over 30 seconds, and none is given. -/
theorem pruning_loses_return :
    ¬ ∀ (maxAgeMs : ℚ) (inputs : List (MarketEvent × Moment)) (tick : MarketTick) (now : Moment),
      TradesInOrder tick.symbol (inputs ++ [(.marketTick tick, now)]) →
      ∀ windowSec ∈ returnWindowsSec,
        ((marketStateMachine.exec (.init maxAgeMs)
          (inputs ++ [(.marketTick tick, now)])).symbolState
          tick.symbol).rollingReturns.get? (returnWindowKey windowSec) =
            some (returnSince (tradesOf tick.symbol (inputs ++ [(.marketTick tick, now)]))
              (eventTimestamp tick.toRealtimeMarketEvent) tick.price windowSec) := by
  intro h
  have hreturn := h 1000 [(.marketTick (tradeAt 1000000000 100), ⟨0, 0⟩)]
    (tradeAt 32000000000 110) ⟨0, 0⟩ (by decide +kernel) 30 (by decide)
  have hgiven : ((marketStateMachine.exec (.init 1000)
      ([(.marketTick (tradeAt 1000000000 100), ⟨0, 0⟩)] ++
        [(.marketTick (tradeAt 32000000000 110), ⟨0, 0⟩)])).symbolState
      "BTCUSDT").rollingReturns.get? (returnWindowKey 30) = some none := by decide +kernel
  have hlost : returnSince (tradesOf "BTCUSDT"
      ([(.marketTick (tradeAt 1000000000 100), ⟨0, 0⟩)] ++
        [(.marketTick (tradeAt 32000000000 110), ⟨0, 0⟩)])) 32000000000 110 30 =
      some (1 / 10) := by decide +kernel
  have hnone : some none = some (some ((1 : ℚ) / 10)) :=
    hgiven.symm.trans (hreturn.trans (congrArg some hlost))
  cases Option.some.inj hnone

end SomethingTrade
