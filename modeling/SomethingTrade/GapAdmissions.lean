import SomethingTrade.GapMonitorRuns
import SomethingTrade.TickSizeRefresh

/-!
# Where Candidates Come From

A candidate is only worth its record when its market was one that could be traded: the universe
held it, it followed the symbol that moved, and its window was open. The detector looks at the
window when a move comes, with the markets of the last refresh; between a refresh and the record
of a gap lie any number of turns. The records of a run are traced back here to the turn that
detected them, and to what the universe held in that turn.

## Main results

* `onMarketEvent_admits`: the candidates of an event are of markets that are listed and open.
* `monitorMachine_admits`: so are those of every run, and no part of the monitor works with markets
  that the universe has dropped.
-/

namespace SomethingTrade

/-! ### Candidates of an event -/

/-- A market admits a candidate: it follows the symbol, and the candidate was detected while it
was tradable and its window was open. -/
structure Admits (market : PolymarketMarketMetadata) (candidate : GapIdentity) : Prop where
  marketId : market.marketId = candidate.key.marketId
  symbol : symbolForMarket market = some candidate.key.symbol
  inWindow : InWindow market (candidate.detectedTsNs / 1000000000)

/-- A candidate of a moment that one of some markets admits. -/
structure Admitted (markets : List PolymarketMarketMetadata) (nowTs : ℤ)
    (candidate : GapIdentity) : Prop where
  now : candidate.detectedTsNs = nowTs
  admits : ∃ market ∈ markets, Admits market candidate

namespace GapDetector

/-- The markets of a symbol follow it. -/
theorem symbol_of_mem_groupBySymbol {markets : List PolymarketMarketMetadata} {symbol : String}
    {market : PolymarketMarketMetadata}
    (h : market ∈ ((groupBySymbol markets).get? symbol).getD []) :
    market ∈ markets ∧ symbolForMarket market = some symbol := by
  cases hget : (groupBySymbol markets).get? symbol with
  | none =>
      rw [hget] at h
      cases h
  | some group =>
      rw [hget] at h
      refine ⟨mem_groupBySymbol hget h, ?_⟩
      have hgroups : ∀ e ∈ (groupBySymbol markets).entries, ∀ market ∈ e.2,
          symbolForMarket market = some e.1 := by
        refine List.foldlRecOn (motive := fun grouped : Dict String (List _) =>
          ∀ e ∈ grouped.entries, ∀ market ∈ e.2, symbolForMarket market = some e.1) _ _
          (fun e he => absurd he List.not_mem_nil) fun grouped hgrouped last _ => ?_
        cases hlast : symbolForMarket last with
        | none => exact hgrouped
        | some named =>
            refine Dict.forall_entries_set (P := fun k (group : List PolymarketMarketMetadata) =>
              ∀ market ∈ group, symbolForMarket market = some k) hgrouped fun market hmarket => ?_
            rcases List.mem_append.mp hmarket with hbefore | hnew
            · cases hold : grouped.get? named with
              | none =>
                  rw [hold] at hbefore
                  cases hbefore
              | some group =>
                  rw [hold] at hbefore
                  exact hgrouped (named, group) (Dict.mem_entries_iff.mpr hold) market hbefore
            · rw [List.mem_singleton.mp hnew]
              exact hlast
      exact hgroups (symbol, group) (Dict.mem_entries_iff.mpr hget) market h

/-- Candidates of a market are wanted only in its window. -/
theorem inWindow_of_signalEnabled {market : PolymarketMarketMetadata} {nowTs : ℤ}
    (h : marketSignalEnabled market nowTs = true) : InWindow market (nowTs / 1000000000) := by
  rw [marketSignalEnabled, Bool.and_eq_true, decide_eq_true_eq] at h
  exact (inWindow_iff h.1).mpr ((classify_of_tradable h.1).1.mp h.2)

/-- The gaps and the observations of a detection that has come some way: what is new is
admitted. -/
structure AdmitsNew (markets : List PolymarketMarketMetadata) (nowTs : ℤ) (d : GapDetector)
    (acc : GapDetector × List TradableGapObservation) : Prop where
  opened : ∀ e ∈ acc.1.pending.entries, e.1 ∈ d.pending.keys ∨
    Admitted markets nowTs e.2.identity
  written : ∀ o ∈ acc.2, Admitted markets nowTs o.identity

section

variable {markets : List PolymarketMarketMetadata} {nowTs : ℤ} {d : GapDetector}

theorem AdmitsNew.quiet {d' : GapDetector} (h : d'.pending = d.pending) :
    AdmitsNew markets nowTs d (d', []) := by
  refine ⟨fun e he => .inl ?_, fun o ho => absurd ho List.not_mem_nil⟩
  rw [h] at he
  exact List.mem_map_of_mem he

/-- **Holding a move against a market** that is listed adds candidates it admits. -/
theorem AdmitsNew.detectInMarket {acc : GapDetector × List TradableGapObservation}
    {m : BinanceMove} (h : AdmitsNew markets m.now.nowTs d acc) {market : PolymarketMarketMetadata}
    (hlisted : market ∈ markets) (hsymbol : symbolForMarket market = some m.symbol) :
    AdmitsNew markets m.now.nowTs d (detectInMarket m acc market) := by
  rw [GapDetector.detectInMarket]
  dsimp only
  split
  · exact h
  rename_i hsignal
  have hopen := inWindow_of_signalEnabled ((Bool.not_eq_false _).mp hsignal)
  split
  · exact ⟨h.opened, h.written⟩
  have hsettles := settleCandidate_settles (acc.1.countCandidate m market) m market
    (acc.1.bookReadinessGate market m.state m.now.nowTs)
  generalize (acc.1.countCandidate m market).settleCandidate m market
    (acc.1.bookReadinessGate market m.state m.now.nowTs) = r at hsettles ⊢
  cases hsettles with
  | rejected rejects =>
      rename_i tokenId quote reason
      obtain ⟨hpending, -, hwritten⟩ := rejectCandidate_cases (acc.1.countCandidate m market) m
        market tokenId quote reason (acc.1.bookReadinessGate market m.state m.now.nowTs)
      refine ⟨fun e he => ?_, fun o ho => ?_⟩
      · rw [Prod.map_fst, id, hpending] at he
        exact h.opened e he
      · rcases List.mem_append.mp ho with ho | ho
        · exact h.written o ho
        · rw [hwritten o ho]
          exact ⟨rfl, market, hlisted, rfl, hsymbol, hopen⟩
  | duplicate =>
      refine ⟨h.opened, fun o ho => ?_⟩
      rw [Prod.map_snd, List.append_nil] at ho
      exact h.written o ho
  | opened token free read fills =>
      refine ⟨Dict.forall_entries_set (P := fun key (p : PendingTradableGap) =>
        key ∈ d.pending.keys ∨ Admitted markets m.now.nowTs p.identity) h.opened
        (.inr ⟨rfl, market, hlisted, rfl, hsymbol, hopen⟩), fun o ho => ?_⟩
      rw [Prod.map_snd, List.append_nil] at ho
      exact h.written o ho

theorem admitsNew_detectBinanceMove (hgroups : d.marketsBySymbol = groupBySymbol markets)
    (symbol : String) (state : MarketState) (now : Moment) (binanceEventTs : Option ℤ) :
    AdmitsNew markets now.nowTs d (d.detectBinanceMove symbol state now binanceEventTs) := by
  refine detectBinanceMove_rule_at d symbol state now binanceEventTs (.quiet rfl) (.quiet rfl)
    (.quiet rfl) ?_
  rintro m rfl rfl rfl market hmarket acc hacc
  rw [hgroups] at hmarket
  obtain ⟨hlisted, hsymbol⟩ := symbol_of_mem_groupBySymbol hmarket
  exact hacc.detectInMarket hlisted hsymbol

/-- A walk over the pending gaps opens none, and all it closes were opened. -/
structure OnlyCloses (d : GapDetector) (r : GapDetector × List TradableGapObservation) :
    Prop where
  keys : ∀ k ∈ r.1.pending.keys, k ∈ d.pending.keys
  fillable : ∀ o ∈ r.2, o.quoteWasFillable = true

/-- **What an event adds** is admitted. -/
theorem handleEvent_admits (hgroups : d.marketsBySymbol = groupBySymbol markets)
    (event : MarketEvent) (state : MarketState) (now : Moment) :
    AdmitsNew markets now.nowTs d (d.handleEvent event state now) ∨
      OnlyCloses d (d.handleEvent event state now) := by
  cases event with
  | marketTick e =>
      rw [handleEvent]
      split
      · exact .inl (admitsNew_detectBinanceMove hgroups ..)
      · exact .inl (.quiet rfl)
  | orderBookTop e =>
      rw [handleEvent]
      split
      · exact .inl (admitsNew_detectBinanceMove hgroups ..)
      · exact .inl (.quiet rfl)
  | depthUpdate e => exact .inl (.quiet rfl)
  | polymarketQuote quote =>
      have hswept := sweepPending_swept (quoteFate_keepsIdentity quote state now)
        (d.recordWarmupQuote quote now.nowTs)
      rw [recordWarmupQuote_ledger] at hswept
      exact .inr ⟨hswept.keys, hswept.fillable⟩
  | marketLifecycle e =>
      have hswept := handleLifecycle_swept d e state now
      exact .inr ⟨hswept.keys, hswept.fillable⟩

/-- **The candidates of an event**, those it opens and those it rejects, are of markets that are
listed, and open as the event comes. -/
theorem onMarketEvent_admits (hgroups : d.marketsBySymbol = groupBySymbol markets)
    (event : MarketEvent) (state : MarketState) (nowTs : Option ℤ) (clock : ℤ) :
    (∀ candidate ∈ d.opened (.onMarketEvent event state nowTs clock),
        Admitted markets (momentOf event nowTs clock).nowTs candidate) ∧
      ∀ o ∈ (d.onMarketEvent event state nowTs clock).2, o.quoteWasFillable = false →
        Admitted markets (momentOf event nowTs clock).nowTs o.identity := by
  have hhandled := handleEvent_admits hgroups event state (momentOf event nowTs clock)
  refine ⟨fun candidate hcandidate => ?_, fun o ho hunfillable => ?_⟩
  · obtain ⟨e, he, rfl⟩ := List.mem_map.mp (Multiset.mem_coe.mp hcandidate)
    obtain ⟨hentry, hnew⟩ := List.mem_filter.mp he
    have hfresh : e.1 ∉ d.pending.keys := of_decide_eq_true hnew
    rcases hhandled with hadmits | hcloses
    · exact (hadmits.opened e hentry).resolve_left hfresh
    · exact absurd (hcloses.keys e.1 (List.mem_map_of_mem hentry)) hfresh
  · have hhere : o ∈ (d.handleEvent event state (momentOf event nowTs clock)).2 := by
      rw [onMarketEvent] at ho
      split at ho
      · exact ho
      · refine (List.mem_append.mp ho).resolve_right fun hexpired => ?_
        have hfillable := (sweepPending_swept (expiryFate_keepsIdentity state
          (momentOf event nowTs clock)) _).fillable o hexpired
        rw [hunfillable] at hfillable
        cases hfillable
    rcases hhandled with hadmits | hcloses
    · exact hadmits.written o hhere
    · have hfillable := hcloses.fillable o hhere
      rw [hunfillable] at hfillable
      cases hfillable

/-- An event leaves the markets of the symbols alone. -/
theorem marketsBySymbol_onMarketEvent (d : GapDetector) (event : MarketEvent)
    (state : MarketState) (nowTs : Option ℤ) (clock : ℤ) :
    (d.onMarketEvent event state nowTs clock).1.marketsBySymbol = d.marketsBySymbol := by
  cases event with
  | marketLifecycle e =>
      have hrun : (d.onMarketEvent (.marketLifecycle e) state nowTs clock).1 =
        (d.handleLifecycle e state (momentOf (.marketLifecycle e) nowTs clock)).1 := rfl
      rw [hrun, handleLifecycle]
      split
      · rfl
      split
      · dsimp only
        split
        · rfl
        · exact (sameMarkets_sweepPending _ _).bySymbol
      · exact (sameMarkets_sweepPending _ _).bySymbol
  | _ => exact (sameMarkets_onMarketEvent d rfl state nowTs clock).bySymbol

end

end GapDetector

namespace GapMonitor

open GapDetector

/-! ### Turns -/

/-- A candidate that was detected in a run: in a turn that took an event, at the reading of the
clock in that turn, of a market that the universe held then. -/
def EverAdmitted (pathForEvent : TradableGapObservation → String) (start : GapMonitor)
    (acts : List MonitorAct) (candidate : GapIdentity) : Prop :=
  ∃ before act e, before ++ [act] <+: acts ∧ act.taken? = some e ∧
    ((monitorMachine pathForEvent).exec start before).running = true ∧
    Admitted ((monitorMachine pathForEvent).exec start before).universeManager.markets e.clock
      candidate

theorem EverAdmitted.mono {pathForEvent : TradableGapObservation → String} {start : GapMonitor}
    {acts acts' : List MonitorAct} {candidate : GapIdentity}
    (h : EverAdmitted pathForEvent start acts candidate) (hacts : acts <+: acts') :
    EverAdmitted pathForEvent start acts' candidate := by
  obtain ⟨before, act, e, hbefore, htakes, hrunning, hadmitted⟩ := h
  exact ⟨before, act, e, hbefore.trans hacts, htakes, hrunning, hadmitted⟩

/-- All parts of the monitor work with the markets that the universe holds. -/
structure OneUniverse (s : GapMonitor) : Prop where
  groups : s.detector.marketsBySymbol = groupBySymbol s.universeManager.markets
  detector : s.detectorMarkets = s.universeManager.markets
  client : s.clientMarkets = s.universeManager.markets
  tokens : s.clientTokenIds = flattenTokenIds s.universeManager.markets
  summary : s.summary.markets = s.universeManager.markets
  followed : ∀ market, s.detector.Follows market →
    ∃ listed ∈ s.universeManager.markets, listed.marketId = market.marketId

section

variable {pathForEvent : TradableGapObservation → String} {s : GapMonitor}

/-- **A turn keeps one universe.** -/
theorem OneUniverse.turn (h : OneUniverse s) {act : MonitorAct} {r : GapMonitor × MonitorReply}
    (hturn : Turn pathForEvent s act r) : OneUniverse r.1 := by
  obtain ⟨hgroups, hdetector, hclient, htokens, hsummary, hfollowed⟩ := h
  cases hturn with
  | rests idle => exact ⟨hgroups, hdetector, hclient, htokens, hsummary, hfollowed⟩
  | observes running e takes summary tells told counted markets requested =>
      rw [foldl_logGap]
      refine ⟨?_, hdetector, hclient, htokens, markets.trans hsummary, fun market hmarket => ?_⟩
      · exact (marketsBySymbol_onMarketEvent ..).trans hgroups
      · obtain ⟨before, hbefore, hid⟩ := followsNoMore_onMarketEvent s.detector _ _ none e.clock
          market hmarket
        obtain ⟨listed, hlisted, hid'⟩ := hfollowed before hbefore
        exact ⟨listed, hlisted, hid'.trans hid⟩
  | wakes r wakes sleeping why => exact ⟨hgroups, hdetector, hclient, htokens, hsummary, hfollowed⟩
  | begins r wakes sleeping reason why =>
      exact ⟨hgroups, hdetector, hclient, htokens, hsummary, hfollowed⟩
  | leaves other running universeManager same =>
      have hsame : OneUniverse { s with universeManager := universeManager } := by
        constructor <;> dsimp only <;> rw [same] <;> assumption
      obtain ⟨hgroups, hdetector, hclient, htokens, hsummary, hfollowed⟩ := hsame
      exact ⟨hgroups, hdetector, hclient, htokens, hsummary, hfollowed⟩
  | refreshes other refresh awaits universeManager diff loopTime now =>
      rw [applyMarketUniverseRefresh, foldl_logGap]
      exact ⟨rfl, rfl, rfl, rfl, rfl, fun market hmarket =>
        ⟨market, @mem_of_follows_updateMarkets s.detector _ now _ hmarket, rfl⟩⟩
  | works step works => exact ⟨hgroups, hdetector, hclient, htokens, hsummary, hfollowed⟩
  | joins joins closing =>
      rw [join]
      split
      all_goals exact ⟨hgroups, hdetector, hclient, htokens, hsummary, hfollowed⟩

/-- What a turn logs was pending, or is a candidate of the turn. -/
theorem DetectorKept.logs (h : DetectorKept s) (hone : OneUniverse s) {act : MonitorAct}
    {r : GapMonitor × MonitorReply} (hturn : Turn pathForEvent s act r) :
    (∀ o ∈ r.2.observations, o.identity ∈ s.detector.ledger.candidates ∨
      ∃ e, act.taken? = some e ∧ s.running = true ∧
        Admitted s.universeManager.markets e.clock o.identity) ∧
    ∀ candidate ∈ r.1.detector.ledger.candidates, candidate ∈ s.detector.ledger.candidates ∨
      ∃ e, act.taken? = some e ∧ s.running = true ∧
        Admitted s.universeManager.markets e.clock candidate := by
  have hflow := (h.turn hturn).2
  -- a candidate that a turn opens is one of its event
  have hopened : ∀ candidate ∈ s.openedBy act, ∃ e, act.taken? = some e ∧ s.running = true ∧
      Admitted s.universeManager.markets e.clock candidate := by
    intro candidate hcandidate
    rw [openedBy] at hcandidate
    split at hcandidate
    · rename_i e htakes
      split at hcandidate
      · rename_i hrunning
        exact ⟨e, htakes, hrunning, (onMarketEvent_admits hone.groups ..).1 candidate hcandidate⟩
      · exact absurd hcandidate (Multiset.notMem_zero _)
    · exact absurd hcandidate (Multiset.notMem_zero _)
  have hsource : ∀ candidate ∈ closedIdentities r.2.observations + r.1.detector.ledger.candidates,
      candidate ∈ s.detector.ledger.candidates ∨ ∃ e, act.taken? = some e ∧ s.running = true ∧
        Admitted s.universeManager.markets e.clock candidate := by
    intro candidate hcandidate
    rw [← hflow] at hcandidate
    exact (Multiset.mem_add.mp hcandidate).imp_right (hopened candidate)
  refine ⟨fun o ho => ?_, fun candidate hcandidate =>
    hsource candidate (Multiset.mem_add.mpr (.inr hcandidate))⟩
  cases hfillable : o.quoteWasFillable with
  | true =>
      refine hsource o.identity (Multiset.mem_add.mpr (.inl ?_))
      exact List.mem_map_of_mem (List.mem_filter.mpr ⟨ho, hfillable⟩)
  | false =>
      -- only a detection writes what could not be filled
      cases hturn with
      | observes running e takes summary tells told counted markets requested =>
          exact .inr ⟨e, takes, running,
            (onMarketEvent_admits hone.groups ..).2 o ho hfillable⟩
      | refreshes other refresh awaits universeManager diff loopTime now =>
          have hupdated := updateMarkets_booked h.ledger universeManager.markets now
          have hclosed := hupdated.inv.fillable o ho
          rw [hfillable] at hclosed
          cases hclosed
      | works step works =>
          cases hwritten : (s.logger.run pathForEvent step).2 with
          | none =>
              rw [hwritten] at ho
              cases ho
          | some observation =>
              rw [hwritten] at ho
              cases ho
      | _ => cases ho

end

/-! ### Runs -/

/-- **Where the gaps of a run come from.** What was logged, and what is pending, was detected in a
turn in which the universe held its market, with the window of the market open; and all parts
work with the markets that the universe holds now. -/
structure GapsAdmitted (pathForEvent : TradableGapObservation → String) (start : GapMonitor)
    (acts : List MonitorAct) (replies : List MonitorReply) (s : GapMonitor) : Prop where
  logged : ∀ o ∈ replies.flatMap MonitorReply.observations,
    EverAdmitted pathForEvent start acts o.identity
  pending : ∀ candidate ∈ s.detector.ledger.candidates,
    EverAdmitted pathForEvent start acts candidate
  markets : OneUniverse s

/-- **No gap comes from a market that could not be traded**, whatever turns lie between a refresh,
a detection and the record. -/
theorem monitorMachine_admits (pathForEvent : TradableGapObservation → String)
    (c : GapMonitorSettings) (g : GapDetectorSettings) (maxPolymarketQuoteAgeMs : ℚ)
    (discovered : List PolymarketMarketMetadata) (lookaheadWindows now startedNs : ℤ)
    (loopTime : ℚ) (acts : List MonitorAct) :
    let start := init c g maxPolymarketQuoteAgeMs discovered lookaheadWindows now startedNs loopTime
    GapsAdmitted pathForEvent start acts
      (((monitorMachine pathForEvent).trace start acts).map Prod.snd)
      ((monitorMachine pathForEvent).exec start acts) := by
  intro start
  have hdetector : DetectorKept start :=
    ⟨⟨⟨rfl, rfl, rfl, fun e he => absurd he List.not_mem_nil⟩,
      fun o ho => absurd ho List.not_mem_nil⟩, rfl⟩
  have huniverse : OneUniverse start := by
    refine ⟨rfl, rfl, rfl, rfl, rfl, ?_⟩
    rintro market (⟨symbol, group, hgroup, hmarket⟩ | ⟨key, p, hget, -⟩)
    · exact ⟨market, mem_groupBySymbol hgroup hmarket, rfl⟩
    · cases hget
  have hrun := (monitorMachine pathForEvent).trace_invariant
    (s := start) (I := fun t s => s = (monitorMachine pathForEvent).exec start (t.map Prod.fst) ∧
      DetectorKept s ∧ GapsAdmitted pathForEvent start (t.map Prod.fst) (t.map Prod.snd) s)
    ?_ ⟨rfl, hdetector, fun o ho => absurd ho List.not_mem_nil,
      fun candidate hcandidate => absurd hcandidate (Multiset.notMem_zero _), huniverse⟩ acts
  · have hadmitted := hrun.2.2
    rw [Machine.map_fst_trace] at hadmitted
    exact hadmitted
  · rintro t s act ⟨hhere, hkept, hadmitted⟩
    have hturn := turn pathForEvent s act
    have hlater : t.map Prod.fst <+: t.map Prod.fst ++ [act] := List.prefix_append ..
    -- what a turn adds is admitted in the state it is taken in
    have hnew {candidate : GapIdentity} (h : candidate ∈ s.detector.ledger.candidates ∨
        ∃ e, act.taken? = some e ∧ s.running = true ∧
          Admitted s.universeManager.markets e.clock candidate) :
        EverAdmitted pathForEvent start (t.map Prod.fst ++ [act]) candidate := by
      rcases h with hpending | ⟨e, htakes, hrunning, hopen⟩
      · exact (hadmitted.pending candidate hpending).mono hlater
      · rw [hhere] at hrunning hopen
        exact ⟨t.map Prod.fst, act, e, List.prefix_rfl, htakes, hrunning, hopen⟩
    obtain ⟨hlogged, hpending⟩ := hkept.logs hadmitted.markets hturn
    rw [List.map_append, List.map_append, List.map_singleton, List.map_singleton]
    refine ⟨?_, (hkept.turn hturn).1, fun o ho => ?_, fun candidate hcandidate => ?_,
      hadmitted.markets.turn hturn⟩
    · rw [Machine.exec_append, ← hhere]
      rfl
    · rw [List.flatMap_append, List.flatMap_singleton] at ho
      rcases List.mem_append.mp ho with ho | ho
      · exact (hadmitted.logged o ho).mono hlater
      · exact hnew (hlogged o ho)
    · exact hnew (hpending candidate hcandidate)

end GapMonitor

end SomethingTrade
