import SomethingTrade.MidRepricing
import SomethingTrade.TickSizes

/-!
# Tick Sizes Across Refreshes

After the feed has reported a change of a tick size, the detector and the local book of the
token it named should use the new one until the next change. A refresh of the markets writes
the tick size of the listing over it: in the detector at once, in the order books when the
listing is not the one they have.

## Main results

* `RejectedAt.tickSize`, `OpenedAt.tickSize`: the tick size a detection writes down.
* `onMarketEvent_tickSizeByMarket`: the tick sizes of the detector after an event.
* `tick_size_in_force`: in a run whose steps all keep the tick size, it is in force.
-/

namespace SomethingTrade

open PolymarketLocalOrderBook

/-! ### The detector -/

namespace GapDetector

/-- A market of one of the symbols of the detector. -/
def Lists (d : GapDetector) (market : PolymarketMarketMetadata) : Prop :=
  ∃ symbol markets, d.marketsBySymbol.get? symbol = some markets ∧ market ∈ markets

/-- A market the detector works with: a listed one, or that of a pending gap. -/
def Follows (d : GapDetector) (market : PolymarketMarketMetadata) : Prop :=
  d.Lists market ∨ ∃ key p, d.pending.get? key = some p ∧ p.market = market

theorem lists_of_mem {d : GapDetector} {symbol : String} {market : PolymarketMarketMetadata}
    (h : market ∈ (d.marketsBySymbol.get? symbol).getD []) : d.Lists market := by
  cases hlisted : d.marketsBySymbol.get? symbol with
  | none =>
      rw [hlisted] at h
      cases h
  | some markets =>
      rw [hlisted] at h
      exact ⟨symbol, markets, hlisted, h⟩

theorem tickSizeForMarket_congr {d d' : GapDetector} (h : SameMarkets d d')
    (market : PolymarketMarketMetadata) :
    d'.tickSizeForMarket market = d.tickSizeForMarket market := by
  simp only [tickSizeForMarket, h.tickSizes]

/-- **A rejection** writes down the tick size and the threshold of a listed market. -/
theorem RejectedAt.tickSize {d : GapDetector} {state : MarketState} {now : Moment}
    {o : TradableGapObservation} (h : RejectedAt d state now o) :
    ∃ market, d.Lists market ∧ o.marketId = market.marketId ∧
      o.tickSizeAtDetection = d.tickSizeForMarket market ∧
      o.effectiveRepriceThreshold = d.effectiveRepriceThreshold market := by
  obtain ⟨same, ofState, ofNow, follows, rejects⟩ := h
  exact ⟨_, lists_of_mem follows, rfl, tickSizeForMarket_congr same _,
    effectiveRepriceThreshold_congr same _⟩

/-- **A gap that is opened** has the tick size of a listed market. -/
theorem OpenedAt.tickSize {d : GapDetector} {state : MarketState} {now : Moment}
    {p : PendingTradableGap} (h : OpenedAt d state now p) :
    d.Lists p.market ∧ p.tickSizeAtDetection = d.tickSizeForMarket p.market := by
  obtain ⟨same, ofState, ofNow, follows, token, read, fills⟩ := h
  exact ⟨lists_of_mem follows, tickSizeForMarket_congr same _⟩

/-! ### The markets the detector follows -/

/-- No market is followed later that has no namesake now. -/
def FollowsNoMore (d d' : GapDetector) : Prop :=
  ∀ market', d'.Follows market' → ∃ market, d.Follows market ∧
    market.marketId = market'.marketId

theorem FollowsNoMore.refl (d : GapDetector) : FollowsNoMore d d :=
  fun market' h => ⟨market', h, rfl⟩

theorem FollowsNoMore.trans {d d' d'' : GapDetector} (h : FollowsNoMore d d')
    (h' : FollowsNoMore d' d'') : FollowsNoMore d d'' := by
  intro market'' hfollows''
  obtain ⟨market', hfollows', hid'⟩ := h' market'' hfollows''
  obtain ⟨market, hfollows, hid⟩ := h market' hfollows'
  exact ⟨market, hfollows, hid.trans hid'⟩

theorem followsNoMore_of_pending {d d' : GapDetector}
    (hsymbol : d'.marketsBySymbol = d.marketsBySymbol)
    (hpending : ∀ key p', d'.pending.get? key = some p' → ∃ market, d.Follows market ∧
      market.marketId = p'.market.marketId) : FollowsNoMore d d' := by
  rintro market' (hlists | ⟨key, p', hget, rfl⟩)
  · rw [Lists, hsymbol] at hlists
    exact ⟨market', .inl hlists, rfl⟩
  · exact hpending key p' hget

theorem followsNoMore_quiet {d d' : GapDetector}
    (hsymbol : d'.marketsBySymbol = d.marketsBySymbol) (hpending : d'.pending = d.pending) :
    FollowsNoMore d d' := by
  refine followsNoMore_of_pending hsymbol fun key p' hget => ?_
  rw [hpending] at hget
  exact ⟨p'.market, .inr ⟨key, p', hget, rfl⟩, rfl⟩

theorem marketId_of_kept {body : GapDetector → PendingTradableGap → GapFate}
    (hbody : KeepsIdentity body) {d : GapDetector} {p p' : PendingTradableGap}
    (h : (body d p).kept = some p') : p.market.marketId = p'.market.marketId := by
  have hidentity := hbody d p
  cases hfate : body d p with
  | keep kept =>
      rw [hfate] at h hidentity
      obtain rfl := Option.some.inj h
      exact congrArg (fun identity => identity.key.marketId) hidentity.symm
  | close ended =>
      rw [hfate] at h
      cases h

/-- A walk follows no other market. -/
theorem followsNoMore_sweepPending {body : GapDetector → PendingTradableGap → GapFate}
    (hreads : ReadsMarkets body) (hbody : KeepsIdentity body) (d : GapDetector) :
    FollowsNoMore d (d.sweepPending body).1 := by
  have hwalk := sweepPending_walked hreads d
  refine followsNoMore_of_pending hwalk.same.bySymbol fun key p' hget => ?_
  rw [hwalk.kept, Option.bind_eq_some_iff] at hget
  obtain ⟨p, hp, hkept⟩ := hget
  exact ⟨p.market, .inr ⟨key, p, hp, rfl⟩, marketId_of_kept hbody hkept⟩

theorem followsNoMore_detectBinanceMove (d : GapDetector) (symbol : String)
    (state : MarketState) (now : Moment) (binanceEventTs : Option ℤ) :
    FollowsNoMore d (d.detectBinanceMove symbol state now binanceEventTs).1 := by
  have haccount := detectBinanceMove_account d symbol state now binanceEventTs
  refine followsNoMore_of_pending haccount.same.bySymbol fun key p' hget => ?_
  rcases haccount.pending key with heq | ⟨-, p, hsome, -, hopened⟩
  · exact ⟨p'.market, .inr ⟨key, p', heq.symm.trans hget, rfl⟩, rfl⟩
  · obtain rfl := Option.some.inj (hsome.symm.trans hget)
    exact ⟨p.market, .inl hopened.tickSize.1, rfl⟩

theorem followsNoMore_handleEvent (d : GapDetector) (event : MarketEvent) (state : MarketState)
    (now : Moment) : FollowsNoMore d (d.handleEvent event state now).1 := by
  have hlifecycle (e : MarketLifecycleEvent) (d' : GapDetector) :=
    followsNoMore_sweepPending (lifecycleFate_readsMarkets e state now)
      (lifecycleFate_keepsIdentity e state now) d'
  cases event with
  | marketTick e =>
      rw [handleEvent]
      split
      · exact followsNoMore_detectBinanceMove d _ state now _
      · exact .refl d
  | orderBookTop e =>
      rw [handleEvent]
      split
      · exact followsNoMore_detectBinanceMove d _ state now _
      · exact .refl d
  | depthUpdate e => exact .refl d
  | polymarketQuote quote =>
      have hcounted : FollowsNoMore d (d.recordWarmupQuote quote now.nowTs) :=
        followsNoMore_quiet (sameMarkets_recordWarmupQuote d quote now.nowTs).bySymbol
          (recordWarmupQuote_same d quote now.nowTs).1
      exact hcounted.trans (followsNoMore_sweepPending (quoteFate_readsMarkets quote state now)
        (quoteFate_keepsIdentity quote state now) _)
  | marketLifecycle e =>
      rw [handleEvent, handleLifecycle]
      split
      · exact .refl d
      split
      · rename_i tickSize _ _
        have hset : FollowsNoMore d { d with
            tickSizeByMarket := d.tickSizeByMarket.set e.marketId tickSize } :=
          followsNoMore_quiet rfl rfl
        dsimp only
        split
        · exact hset
        · exact hset.trans (hlifecycle e _)
      · have hover : FollowsNoMore d { d with
            invalidMarkets := d.invalidMarkets.set e.marketId () } :=
          followsNoMore_quiet rfl rfl
        exact hover.trans (hlifecycle e _)

theorem followsNoMore_onMarketEvent (d : GapDetector) (event : MarketEvent)
    (state : MarketState) (nowTs : Option ℤ) (clock : ℤ) :
    FollowsNoMore d (d.onMarketEvent event state nowTs clock).1 := by
  have hhandled := followsNoMore_handleEvent d event state (momentOf event nowTs clock)
  rw [onMarketEvent]
  split
  · exact hhandled
  · exact hhandled.trans (followsNoMore_sweepPending
      (expiryFate_readsMarkets state _) (expiryFate_keepsIdentity state _) _)

/-! ### The tick sizes of the detector -/

/-- The change of a tick size that an event is for the detector. -/
def changedTickSize : MarketEvent → Option (String × ℚ)
  | .marketLifecycle e =>
      match e.lifecycleType, orValue e.newTickSize none with
      | .tickSizeChange, some tickSize => some (e.marketId, tickSize)
      | _, _ => none
  | _ => none

/-- **The tick sizes of the detector after an event.** -/
theorem onMarketEvent_tickSizeByMarket (d : GapDetector) (event : MarketEvent)
    (state : MarketState) (nowTs : Option ℤ) (clock : ℤ) :
    (d.onMarketEvent event state nowTs clock).1.tickSizeByMarket =
      match changedTickSize event with
      | some (marketId, tickSize) => d.tickSizeByMarket.set marketId tickSize
      | none => d.tickSizeByMarket := by
  cases event with
  | marketLifecycle e =>
      have hrun : (d.onMarketEvent (.marketLifecycle e) state nowTs clock).1 =
        (d.handleLifecycle e state (momentOf (.marketLifecycle e) nowTs clock)).1 := rfl
      rw [hrun, handleLifecycle, changedTickSize]
      cases e.lifecycleType with
      | newMarket => rfl
      | tickSizeChange =>
          cases orValue e.newTickSize none with
          | none => exact (sameMarkets_sweepPending _ _).tickSizes
          | some tickSize =>
              dsimp only
              rw [if_neg (by decide)]
              split
              · rfl
              · exact (sameMarkets_sweepPending _ _).tickSizes
      | marketResolved => exact (sameMarkets_sweepPending _ _).tickSizes
      | closed => exact (sameMarkets_sweepPending _ _).tickSizes
      | expired => exact (sameMarkets_sweepPending _ _).tickSizes
  | _ => exact (sameMarkets_onMarketEvent d rfl state nowTs clock).tickSizes

theorem mem_groupBySymbol {markets : List PolymarketMarketMetadata} {symbol : String}
    {group : List PolymarketMarketMetadata} (hget : (groupBySymbol markets).get? symbol = some group)
    {market : PolymarketMarketMetadata} (hmarket : market ∈ group) : market ∈ markets := by
  induction markets using List.reverseRecOn generalizing group with
  | nil => cases hget
  | append_singleton markets last ih =>
      rw [groupBySymbol, List.foldl_concat, ← groupBySymbol] at hget
      cases hsymbol : symbolForMarket last with
      | none =>
          rw [hsymbol] at hget
          exact List.mem_append_left _ (ih hget hmarket)
      | some named =>
          rw [hsymbol] at hget
          dsimp only at hget
          rw [Dict.get?_set] at hget
          by_cases hnamed : named = symbol
          · subst hnamed
            rw [if_pos rfl] at hget
            obtain rfl := Option.some.inj hget
            rcases List.mem_append.mp hmarket with hold | hlast
            · refine List.mem_append_left _ ?_
              cases hgroup : (groupBySymbol markets).get? named with
              | none =>
                  rw [hgroup] at hold
                  cases hold
              | some group =>
                  rw [hgroup] at hold
                  exact ih hgroup hold
            · exact List.mem_append_right _ hlast
          · rw [if_neg hnamed] at hget
            exact List.mem_append_left _ (ih hget hmarket)

/-- After a refresh the detector follows markets of the listing only. -/
theorem mem_of_follows_updateMarkets {d : GapDetector} {markets : List PolymarketMarketMetadata}
    {now : Moment} {market : PolymarketMarketMetadata}
    (h : (d.updateMarkets markets now).Follows market) : market ∈ markets := by
  rcases h with ⟨symbol, group, hgroup, hmarket⟩ | ⟨key, p, hget, rfl⟩
  · exact mem_groupBySymbol hgroup hmarket
  · have hwalk := sweepPending_walked (refreshFate_readsMarkets
      (Dict.ofList (markets.map fun market => (market.marketId, market))) now) d
    have hkept : (d.updateMarkets markets now).pending.get? key =
      (d.pending.get? key).bind fun pending => (refreshFate (Dict.ofList
        (markets.map fun market => (market.marketId, market))) now d pending).kept := hwalk.kept key
    rw [hkept, Option.bind_eq_some_iff] at hget
    obtain ⟨before, -, hfate⟩ := hget
    rw [refreshFate] at hfate
    split at hfate
    · rename_i replacement hreplacement
      obtain rfl := Option.some.inj hfate
      obtain ⟨listed, hlisted, heq⟩ := List.mem_map.mp (Dict.mem_of_get?_ofList hreplacement)
      obtain rfl := (Prod.mk.inj heq).2
      exact hlisted
    · cases hfate

theorem get?_tickSizes {markets : List PolymarketMarketMetadata} {marketId : String}
    {tickSize : ℚ} (hpos : 0 < tickSize)
    (hsame : ∀ market ∈ markets, market.marketId = marketId → market.tickSize = tickSize)
    {market : PolymarketMarketMetadata} (hmarket : market ∈ markets)
    (hid : market.marketId = marketId) : (tickSizes markets).get? marketId = some tickSize := by
  have hentry : (marketId, tickSize) ∈ (markets.filter fun market => market.tickSize > 0).map
      fun market => (market.marketId, market.tickSize) := by
    refine List.mem_map.mpr ⟨market, List.mem_filter.mpr ⟨hmarket, ?_⟩, ?_⟩
    · simp [hsame market hmarket hid, hpos]
    · rw [hid, hsame market hmarket hid]
  obtain ⟨found, hfound⟩ := Dict.exists_get?_ofList hentry
  obtain ⟨listed, hlisted, heq⟩ := List.mem_map.mp (Dict.mem_of_get?_ofList hfound)
  obtain ⟨hlistedId, rfl⟩ := Prod.mk.inj heq
  rw [hsame listed (List.mem_of_mem_filter hlisted) hlistedId] at hfound
  exact hfound

/-! ### A tick size in force for the detector -/

/-- The detector has the tick size for the market, unless it follows no such market. -/
def HasTickSize (d : GapDetector) (marketId : String) (tickSize : ℚ) : Prop :=
  d.tickSizeByMarket.get? marketId = some tickSize ∨
    ∀ market, d.Follows market → market.marketId ≠ marketId

/-- The detector uses the tick size for the market: in the threshold of every market it
follows, and in what a detection of a move writes down. -/
structure UsesTickSize (d : GapDetector) (marketId : String) (tickSize : ℚ) : Prop where
  threshold : ∀ market, d.Follows market → market.marketId = marketId →
    d.effectiveRepriceThreshold market = max d.settings.repriceThreshold tickSize
  opened : ∀ symbol state now ts key p,
    (d.detectBinanceMove symbol state now ts).1.pending.get? key = some p →
    d.pending.get? key = none → p.market.marketId = marketId →
    p.tickSizeAtDetection = some tickSize
  rejected : ∀ symbol state now ts, ∀ o ∈ (d.detectBinanceMove symbol state now ts).2,
    o.marketId = marketId → o.tickSizeAtDetection = some tickSize ∧
      o.effectiveRepriceThreshold = max d.settings.repriceThreshold tickSize

section

variable {d : GapDetector} {marketId : String} {tickSize : ℚ}

theorem HasTickSize.onMarketEvent (h : d.HasTickSize marketId tickSize) {event : MarketEvent}
    (hevent : ∀ change, changedTickSize event = some change → change.1 ≠ marketId)
    (state : MarketState) (nowTs : Option ℤ) (clock : ℤ) :
    (d.onMarketEvent event state nowTs clock).1.HasTickSize marketId tickSize := by
  rcases h with hget | hnone
  · left
    rw [onMarketEvent_tickSizeByMarket]
    cases hchange : changedTickSize event with
    | none => exact hget
    | some change =>
        dsimp only
        rw [Dict.get?_set_of_ne _ _ (hevent change hchange)]
        exact hget
  · right
    intro market' hfollows'
    obtain ⟨market, hfollows, hid⟩ := followsNoMore_onMarketEvent d event state nowTs clock
      market' hfollows'
    rw [← hid]
    exact hnone market hfollows

theorem hasTickSize_of_change {event : MarketEvent}
    (hevent : changedTickSize event = some (marketId, tickSize)) (state : MarketState)
    (nowTs : Option ℤ) (clock : ℤ) :
    (d.onMarketEvent event state nowTs clock).1.HasTickSize marketId tickSize := by
  left
  rw [onMarketEvent_tickSizeByMarket, hevent]
  exact Dict.get?_set_self ..

theorem hasTickSize_updateMarkets (hpos : 0 < tickSize)
    {markets : List PolymarketMarketMetadata}
    (hsame : ∀ market ∈ markets, market.marketId = marketId → market.tickSize = tickSize)
    (now : Moment) : (d.updateMarkets markets now).HasTickSize marketId tickSize := by
  by_cases hlisted : ∃ market ∈ markets, market.marketId = marketId
  · obtain ⟨market, hmarket, hid⟩ := hlisted
    exact .inl (get?_tickSizes hpos hsame hmarket hid)
  · right
    intro market hfollows hid
    exact hlisted ⟨market, mem_of_follows_updateMarkets hfollows, hid⟩

theorem HasTickSize.usesTickSize (h : d.HasTickSize marketId tickSize) (hpos : 0 < tickSize) :
    d.UsesTickSize marketId tickSize := by
  have htick : ∀ market, d.Follows market → market.marketId = marketId →
      d.tickSizeForMarket market = some tickSize := by
    intro market hfollows hid
    rcases h with hget | hnone
    · rw [tickSizeForMarket, hid, hget]
      exact if_pos hpos
    · exact absurd hid (hnone market hfollows)
  have hthreshold : ∀ market, d.Follows market → market.marketId = marketId →
      d.effectiveRepriceThreshold market = max d.settings.repriceThreshold tickSize := by
    intro market hfollows hid
    rw [effectiveRepriceThreshold, htick market hfollows hid]
  refine ⟨hthreshold, fun symbol state now ts key p hget hnew hid => ?_,
    fun symbol state now ts o ho hid => ?_⟩
  · rcases (detectBinanceMove_account d symbol state now ts).pending key with
      heq | ⟨-, p', hsome, -, hopened⟩
    · rw [← heq, hget] at hnew
      cases hnew
    · obtain rfl := Option.some.inj (hsome.symm.trans hget)
      obtain ⟨hlists, hp⟩ := hopened.tickSize
      exact hp.trans (htick p'.market (.inl hlists) hid)
  · obtain ⟨market, hlists, hmarketId, ho, hreprice⟩ :=
      ((detectBinanceMove_account d symbol state now ts).rejected o ho).tickSize
    have hid' := hmarketId.symm.trans hid
    exact ⟨ho.trans (htick market (.inl hlists) hid'),
      hreprice.trans (hthreshold market (.inl hlists) hid')⟩

end

end GapDetector

/-! ### The client and the detector -/

/-- What the detector is given with an event. -/
structure EventReading where
  state : MarketState
  nowTs : Option ℤ
  clock : ℤ

/-- The client and the detector it feeds. -/
structure TickSystem where
  client : PolymarketWSClient
  detector : GapDetector

/-- A step: the client handles a message of one payload and its events go to the detector,
the detector handles an event of another source, or the markets are refreshed in both. -/
inductive TickStep
  | message (fields : List (String × Json)) (r : MessageReadings) (reading : ℕ → EventReading)
  | event (event : MarketEvent) (other : GapDetector.isLifecycle event = false)
      (reading : EventReading)
  | refresh (markets : List ListedMarket) (tokenIds : List String) (now : Moment)

/-- The detector after an event and its reading. -/
def GapDetector.after (d : GapDetector) (event : MarketEvent) (reading : EventReading) :
    GapDetector :=
  (d.onMarketEvent event reading.state reading.nowTs reading.clock).1

/-- The detector after the events of a message. -/
def GapDetector.afterAll (d : GapDetector) (reading : ℕ → EventReading)
    (events : List PolymarketStreamEvent) : GapDetector :=
  events.zipIdx.foldl (fun d e => d.after e.1.toMarketEvent (reading e.2)) d

/-- The client and the detector as one machine. -/
def tickMachine : Machine TickSystem TickStep Unit where
  step s
    | .message fields r reading =>
        match s.client.normalizeMessage r (some (.obj fields)) with
        | (client, .error _) => ({ s with client := client }, ())
        | (client, .ok events) => (⟨client, s.detector.afterAll reading events⟩, ())
    | .event event _ reading => ({ s with detector := s.detector.after event reading }, ())
    | .refresh markets tokenIds now =>
        ({ client := (s.client.updateMarkets markets tokenIds).1
           detector := s.detector.updateMarkets
             (markets.map ListedMarket.toPolymarketMarketMetadata) now }, ())

/-- A fresh client and a fresh detector. -/
def TickSystem.init (c : PolymarketSettings) (overrides : Dict String PolymarketSideLabel)
    (markets : List ListedMarket) (tokenIds : List String) (g : GapDetectorSettings)
    (startedNs : ℤ) : TickSystem where
  client := .init c overrides markets tokenIds
  detector := .init g (markets.map ListedMarket.toPolymarketMarketMetadata) startedNs

/-- A tick size the feed reported is in force: the detector uses it for the market, and the
next message of the token it named is validated with it. -/
structure TickSizeInForce (change : TickSizeChange) (s : TickSystem) : Prop where
  detector : s.detector.UsesTickSize change.marketId change.tickSize
  book : ∀ token, change.tokenId = some token → ∀ payload,
    (s.client.orderbooks.bookFor token payload).metadata.tickSize = change.tickSize

/-- The markets a step lists. -/
def TickStep.listing : TickStep → List ListedMarket
  | .refresh markets _ _ => markets
  | _ => []

/-- A step brings a change of the tick size of a market, to a positive one. -/
def TickStep.Changes (marketId : String) : TickStep → Prop
  | .message fields r _ => ∃ change, reportedTickSize r (.obj fields) = some change ∧
      change.marketId = marketId ∧ 0 < change.tickSize
  | _ => False

/-- The client knows the token a change names, or has the tick size already. -/
def KnowsToken (change : TickSizeChange) (s : TickSystem) : Prop :=
  ∀ token, change.tokenId = some token →
    (s.client.orderbooks.tokenMetadata.get? token).isSome ∨
      s.client.orderbooks.tokenTickSize token = change.tickSize

/-- The metadata an update of the markets leaves for its tokens. -/
def PolymarketWSClient.adopted (s : PolymarketWSClient) (markets : List ListedMarket)
    (tokenIds : List String) : Dict String TokenBookMetadata :=
  (s.newMetadata markets tokenIds).filterKeys fun token => token ∈ wantedTokens markets tokenIds

/-- An update of the markets leaves a token the tick size: it lists it with that one, or it
drops the token and leaves its book. -/
def PolymarketWSClient.LeavesTickSize (s : PolymarketWSClient) (markets : List ListedMarket)
    (tokenIds : List String) (token : String) (tickSize : ℚ) : Prop :=
  match (s.adopted markets tokenIds).get? token with
  | some m => m.tickSize = tickSize
  | none => (s.orderbooks.books.get? token).isSome ∨ tickSize = 1 / 100

/-- A step that does not write another tick size over one in force. A message changes the
market to no negative one, and the token to no other one; a refresh lists the market with it,
if at all, and leaves it to the token, if it is not up to date. -/
def KeepsTickSize (change : TickSizeChange) (s : TickSystem) : TickStep → Prop
  | .message fields r _ => ∀ later, reportedTickSize r (.obj fields) = some later →
      (later.marketId = change.marketId → 0 < later.tickSize) ∧
      ∀ token, change.tokenId = some token → 0 < later.tickSize →
        s.client.orderbooks.tickSizeReaches later.marketId later.tokenId token = true →
        later.tickSize = change.tickSize
  | .event .. => True
  | .refresh markets tokenIds _ =>
      (∀ market ∈ markets, market.marketId = change.marketId →
        market.tickSize = change.tickSize) ∧
      ∀ token, change.tokenId = some token → s.client.upToDate markets tokenIds = false →
        s.client.LeavesTickSize markets tokenIds token change.tickSize

/-- What holds while a tick size is in force. -/
structure HoldsTickSize (change : TickSizeChange) (s : TickSystem) : Prop where
  stored : EachBook StoredUnder s.client.orderbooks
  detector : s.detector.HasTickSize change.marketId change.tickSize
  token : ∀ token, change.tokenId = some token →
    s.client.orderbooks.tokenTickSize token = change.tickSize

theorem HoldsTickSize.inForce {change : TickSizeChange} {s : TickSystem}
    (h : HoldsTickSize change s) (hpos : 0 < change.tickSize) : TickSizeInForce change s where
  detector := h.detector.usesTickSize hpos
  book token htoken payload := (tickSize_bookFor token payload).trans (h.token token htoken)

section

variable {s : TickSystem} {fields : List (String × Json)} {r : MessageReadings}
  {reading : ℕ → EventReading}

/-- A message that is a lifecycle event. -/
theorem next_lifecycle (reading : ℕ → EventReading)
    (hs : EachBook StoredUnder s.client.orderbooks)
    {event : PolymarketLifecycle} (h : lifecycleOf r (.obj fields) = some event) :
    (tickMachine.next s (.message fields r reading)).client.orderbooks =
        s.client.orderbooks.applyLifecycle event ∧
      (tickMachine.next s (.message fields r reading)).detector =
        s.detector.after (.marketLifecycle event.toMarketLifecycleEvent) (reading 0) := by
  have hpayload : s.client.orderbooks.normalizeMessage r (some (.obj fields)) =
      s.client.orderbooks.applyPayload r (.obj fields) :=
    normalizeMessage_payload r _ rfl
  rcases applyPayload_tickSizes hs r (.obj fields) with ⟨event', hevent, happly⟩ | ⟨hnone, -⟩
  · rw [h] at hevent
    obtain rfl := Option.some.inj hevent
    rw [happly] at hpayload
    rw [Machine.next, tickMachine]
    dsimp only
    rw [PolymarketWSClient.normalizeMessage, hpayload]
    exact ⟨rfl, rfl⟩
  · rw [h] at hnone
    cases hnone

theorem changedTickSize_of_lifecycle? {e : PolymarketStreamEvent} (h : e.lifecycle? = none) :
    GapDetector.changedTickSize e.toMarketEvent = none := by
  cases e with
  | quote q => rfl
  | tick trade => rfl
  | lifecycle event => cases h

theorem hasTickSize_afterAll {marketId : String} {tickSize : ℚ} {d : GapDetector}
    (h : d.HasTickSize marketId tickSize) {events : List PolymarketStreamEvent}
    (hevents : ∀ e ∈ events, e.lifecycle? = none) :
    (d.afterAll reading events).HasTickSize marketId tickSize := by
  have hloop : ∀ (indexed : List (PolymarketStreamEvent × ℕ)) (d : GapDetector),
      (∀ e ∈ indexed, e.1.lifecycle? = none) → d.HasTickSize marketId tickSize →
      (indexed.foldl (fun d e => d.after e.1.toMarketEvent (reading e.2)) d).HasTickSize
        marketId tickSize := by
    intro indexed
    induction indexed with
    | nil => exact fun d _ h => h
    | cons e indexed ih =>
        intro d hindexed h
        refine ih _ (fun e' he' => hindexed e' (List.mem_cons_of_mem e he')) ?_
        refine h.onMarketEvent (fun change hchange => ?_) _ _ _
        rw [changedTickSize_of_lifecycle? (hindexed e List.mem_cons_self)] at hchange
        cases hchange
  refine hloop _ d (fun e he => hevents e.1 ?_) h
  exact List.fst_mem_of_mem_zipIdx he

/-- A message that is no lifecycle event. -/
theorem next_other (reading : ℕ → EventReading)
    (hs : EachBook StoredUnder s.client.orderbooks)
    (h : lifecycleOf r (.obj fields) = none) :
    (∀ token, (tickMachine.next s (.message fields r reading)).client.orderbooks.tokenTickSize
        token = s.client.orderbooks.tokenTickSize token) ∧
      ∀ marketId tickSize, s.detector.HasTickSize marketId tickSize →
        (tickMachine.next s (.message fields r reading)).detector.HasTickSize marketId tickSize := by
  have hpayload : s.client.orderbooks.normalizeMessage r (some (.obj fields)) =
      s.client.orderbooks.applyPayload r (.obj fields) :=
    normalizeMessage_payload r _ rfl
  rcases applyPayload_tickSizes hs r (.obj fields) with ⟨event, hevent, -⟩ | ⟨-, hkeeps⟩
  · rw [h] at hevent
    cases hevent
  · obtain ⟨htokens, hevents⟩ := hkeeps
    rw [Machine.next, tickMachine]
    dsimp only
    rw [PolymarketWSClient.normalizeMessage, hpayload]
    dsimp only
    cases hresult : (s.client.orderbooks.applyPayload r (.obj fields)).2 with
    | error e => exact ⟨htokens, fun _ _ htick => htick⟩
    | ok events =>
        exact ⟨htokens, fun _ _ htick => hasTickSize_afterAll htick (hevents events hresult)⟩

theorem stored_next_message (hs : EachBook StoredUnder s.client.orderbooks) :
    EachBook StoredUnder
      (tickMachine.next s (.message fields r reading)).client.orderbooks := by
  have hnext : (tickMachine.next s (.message fields r reading)).client.orderbooks =
      (s.client.orderbooks.applyPayload r (.obj fields)).1 := by
    rw [Machine.next, tickMachine]
    dsimp only
    rw [PolymarketWSClient.normalizeMessage, normalizeMessage_payload r _ rfl]
    dsimp only
    cases (s.client.orderbooks.applyPayload r (.obj fields)).2 <;> rfl
  rw [hnext]
  exact storedUnder_applyPayload hs r _

/-- The change a payload reports is that of its lifecycle event. -/
theorem changedTickSize_of_tickSizeChange {event : PolymarketLifecycle} :
    GapDetector.changedTickSize (.marketLifecycle event.toMarketLifecycleEvent) =
      event.tickSizeChange.map fun change => (change.marketId, change.tickSize) := by
  rw [GapDetector.changedTickSize, PolymarketLifecycle.tickSizeChange]
  cases event.lifecycleType with
  | tickSizeChange => cases orValue event.newTickSize none <;> rfl
  | _ => rfl

/-- **A change that is reported** is in force when its message is handled. -/
theorem holds_of_reported (hs : EachBook StoredUnder s.client.orderbooks)
    {change : TickSizeChange} (h : reportedTickSize r (.obj fields) = some change)
    (hpos : 0 < change.tickSize) (hknown : KnowsToken change s) :
    HoldsTickSize change (tickMachine.next s (.message fields r reading)) := by
  rw [reportedTickSize, Option.bind_eq_some_iff] at h
  obtain ⟨event, hevent, hchange⟩ := h
  obtain ⟨hbooks, hdetector⟩ := next_lifecycle reading hs hevent
  refine ⟨stored_next_message hs, ?_, fun token htoken => ?_⟩
  · rw [hdetector]
    refine GapDetector.hasTickSize_of_change ?_ _ _ _
    rw [changedTickSize_of_tickSizeChange, hchange]
    rfl
  · rw [hbooks, tokenTickSize_applyLifecycle, hchange]
    dsimp only
    by_cases hreached : s.client.orderbooks.tickSizeReaches change.marketId change.tokenId
        token = true
    · rw [if_pos ⟨hpos, hreached⟩]
    · rw [if_neg fun h => hreached h.2]
      refine (hknown token htoken).resolve_left fun hknown => hreached ?_
      obtain ⟨m, hm⟩ := Option.isSome_iff_exists.mp hknown
      simp [tickSizeReaches, hm, htoken]

/-- **A step that keeps the tick size** keeps it in force. -/
theorem HoldsTickSize.next {change : TickSizeChange} (h : HoldsTickSize change s)
    (hpos : 0 < change.tickSize) {step : TickStep} (hother : ¬ step.Changes change.marketId)
    (hkeeps : KeepsTickSize change s step) :
    HoldsTickSize change (tickMachine.next s step) := by
  cases step with
  | message fields r reading =>
      cases hevent : lifecycleOf r (.obj fields) with
      | none =>
          obtain ⟨htokens, hdetector⟩ := next_other reading h.stored hevent
          exact ⟨stored_next_message h.stored, hdetector _ _ h.detector, fun token htoken =>
            (htokens token).trans (h.token token htoken)⟩
      | some event =>
          obtain ⟨hbooks, hdetector⟩ := next_lifecycle reading h.stored hevent
          have hreported : reportedTickSize r (.obj fields) = event.tickSizeChange := by
            rw [reportedTickSize, hevent]
            rfl
          refine ⟨stored_next_message h.stored, ?_, fun token htoken => ?_⟩
          · rw [hdetector]
            refine h.detector.onMarketEvent (fun later hlater hid => ?_) _ _ _
            rw [changedTickSize_of_tickSizeChange, Option.map_eq_some_iff] at hlater
            obtain ⟨later, hlater, rfl⟩ := hlater
            have hsome := hreported.trans hlater
            exact hother ⟨later, hsome, hid, (hkeeps later hsome).1 hid⟩
          · rw [hbooks, tokenTickSize_applyLifecycle]
            cases hlater : event.tickSizeChange with
            | none => exact h.token token htoken
            | some later =>
                dsimp only
                split
                · rename_i hreached
                  exact (hkeeps later (hreported.trans hlater)).2 token htoken hreached.1
                    hreached.2
                · exact h.token token htoken
  | event event other reading =>
      refine ⟨h.stored, h.detector.onMarketEvent (fun later hlater => ?_) _ _ _, h.token⟩
      cases event with
      | marketLifecycle e => cases other
      | _ => cases hlater
  | refresh markets tokenIds now =>
      obtain ⟨hlisted, hleaves⟩ := hkeeps
      have hbooks := s.client.updateMarkets_orderbooks markets tokenIds
      refine ⟨?_, GapDetector.hasTickSize_updateMarkets hpos (fun market hmarket => ?_) now,
        fun token htoken => ?_⟩
      · have hnext : (tickMachine.next s (.refresh markets tokenIds now)).client.orderbooks =
          (s.client.updateMarkets markets tokenIds).1.orderbooks := rfl
        rw [hnext, hbooks]
        split
        · exact h.stored
        · exact storedUnder_next h.stored _
      · obtain ⟨listed, hlisted', rfl⟩ := List.mem_map.mp hmarket
        exact hlisted listed hlisted'
      · have hnext : (tickMachine.next s (.refresh markets tokenIds now)).client.orderbooks =
          (s.client.updateMarkets markets tokenIds).1.orderbooks := rfl
        rw [hnext, hbooks]
        split
        · exact h.token token htoken
        · rename_i hchanged
          have hleft := hleaves token htoken (Bool.eq_false_iff.mpr hchanged)
          have hheld := h.token token htoken
          rw [PolymarketWSClient.LeavesTickSize, PolymarketWSClient.adopted] at hleft
          refine (tokenTickSize_updateTokenMetadata _ _ token).trans ?_
          cases hadopted : ((s.client.newMetadata markets tokenIds).filterKeys fun token =>
              token ∈ wantedTokens markets tokenIds).get? token with
          | some m =>
              rw [hadopted] at hleft
              exact hleft
          | none =>
              rw [hadopted] at hleft
              dsimp only at hleft ⊢
              rw [tokenTickSize] at hheld
              cases hbook : s.client.orderbooks.books.get? token with
              | some book =>
                  rw [hbook] at hheld
                  exact hheld
              | none =>
                  rw [hbook] at hleft
                  exact (hleft.resolve_left (by simp)).symm

end

/-- **The tick size in force.** After a change that is reported of a token the client knows,
the detector and the book of the token use the new tick size, in every state that is reached
by steps that keep it, until the next change for the market. -/
theorem tick_size_in_force (c : PolymarketSettings)
    (overrides : Dict String PolymarketSideLabel) (markets : List ListedMarket)
    (tokenIds : List String) (g : GapDetectorSettings) (startedNs : ℤ) (pre : List TickStep)
    (fields : List (String × Json)) (r : MessageReadings) (reading : ℕ → EventReading)
    (change : TickSizeChange) (post : List TickStep) :
    let s := tickMachine.exec (.init c overrides markets tokenIds g startedNs) pre
    let s' := tickMachine.next s (.message fields r reading)
    reportedTickSize r (.obj fields) = some change → 0 < change.tickSize →
    KnowsToken change s → (∀ step ∈ post, ¬ step.Changes change.marketId) →
    tickMachine.StepsMeet (KeepsTickSize change) s' post →
      TickSizeInForce change (tickMachine.exec s' post) := by
  intro s s' hreported hpos hknown hother hkeeps
  have hstored : EachBook StoredUnder s.client.orderbooks := by
    refine tickMachine.exec_invariant
      (I := fun s : TickSystem => EachBook StoredUnder s.client.orderbooks)
      (fun s step hs => ?_) (storedUnder_exec _ []) pre
    cases step with
    | message fields r reading => exact stored_next_message hs
    | event event other reading => exact hs
    | refresh markets tokenIds now =>
        have hnext : (tickMachine.next s (.refresh markets tokenIds now)).client.orderbooks =
          (s.client.updateMarkets markets tokenIds).1.orderbooks := rfl
        rw [hnext, s.client.updateMarkets_orderbooks]
        split
        · exact hs
        · exact storedUnder_next hs _
  have hstart : HoldsTickSize change s' := holds_of_reported hstored hreported hpos hknown
  have hmeets := (tickMachine.stepsMeet_and s' post).mpr
    ⟨hkeeps, tickMachine.stepsMeet_of_forall s' hother⟩
  exact (tickMachine.exec_invariant_while (I := HoldsTickSize change)
    (fun s step hs hC => hs.next hpos hC.2 hC.1) hstart hmeets).inForce hpos

/-! ### A refresh with the same listing -/

/-- The listing of the market, with a tick size of one cent. -/
def listedMarket : ListedMarket :=
  { GapDetector.openMarket with
    tokenOutcomes := .ofList [("up", "Up"), ("down", "Down")]
    conditionId := "c"
    rewardsMinSize := none
    discoverySource := none }

/-- A change of the tick size of the market that names a token of it. -/
def tickSizeFields (tickSize : ℚ) : List (String × Json) :=
  [("event_type", .str "tick_size_change"), ("market", .str "m"), ("asset_id", .str "up"),
    ("new_tick_size", .float tickSize)]

/-- The change as an event of the feed. -/
def upChange (tickSize : ℚ) : TickSizeChange := ⟨"m", some "up", tickSize⟩

/-- The message with the change. -/
def tickSizeMessage (tickSize : ℚ) (ts : ℤ) : TickStep :=
  .message (tickSizeFields tickSize) (readingsAt ts) fun _ => ⟨.init 5000, none, ts⟩

/-- A refresh with the same listing. -/
def sameRefresh (ts : ℤ) : TickStep := .refresh [listedMarket] [] ⟨ts, ts⟩

/-- The client and the detector of the market. -/
def listedSystem : TickSystem :=
  .init defaultSettings .empty [listedMarket] [] GapDetector.fiveSeconds 1

theorem tick_size_in_force_same_refresh :
    let s := tickMachine.exec listedSystem [tickSizeMessage (1 / 1000) 1]
    let s' := tickMachine.next s (tickSizeMessage (1 / 100) 2)
    TickSizeInForce (upChange (1 / 100)) (tickMachine.exec s' [sameRefresh 3]) := by
  refine tick_size_in_force defaultSettings .empty [listedMarket] [] GapDetector.fiveSeconds 1
    [tickSizeMessage (1 / 1000) 1] (tickSizeFields (1 / 100)) (readingsAt 2) _
    (upChange (1 / 100)) [sameRefresh 3] (by decide +kernel) (by decide +kernel) ?_ ?_ ⟨⟨?_, ?_⟩,
      trivial⟩
  · intro token htoken
    obtain rfl := Option.some.inj htoken
    left
    decide +kernel
  · intro step hstep
    obtain rfl := List.mem_singleton.mp hstep
    exact id
  · intro market hmarket _
    obtain rfl := List.mem_singleton.mp hmarket
    decide +kernel
  · exact fun token _ hchanged => absurd hchanged (by decide +kernel)

/-- **A refresh with the same listing undoes a change of the tick size.** The detector is back
to one cent, and the book of the token keeps the tenth of a cent. -/
theorem refresh_undoes_tick_size :
    ¬ ∀ (c : PolymarketSettings) (overrides : Dict String PolymarketSideLabel)
      (markets : List ListedMarket) (tokenIds : List String) (g : GapDetectorSettings)
      (startedNs : ℤ) (pre : List TickStep) (fields : List (String × Json))
      (r : MessageReadings) (reading : ℕ → EventReading) (change : TickSizeChange)
      (post : List TickStep) (listedTickSize : ℚ),
      let s := tickMachine.exec (.init c overrides markets tokenIds g startedNs) pre
      let s' := tickMachine.next s (.message fields r reading)
      reportedTickSize r (.obj fields) = some change → 0 < change.tickSize →
      (∀ market ∈ markets ++ (pre ++ post).flatMap TickStep.listing,
        market.marketId = change.marketId → market.tickSize = listedTickSize) →
      (∀ step ∈ post, ¬ step.Changes change.marketId) →
        TickSizeInForce change (tickMachine.exec s' post) := by
  intro h
  have hforce := h defaultSettings .empty [listedMarket] [] GapDetector.fiveSeconds 1 []
    (tickSizeFields (1 / 1000)) (readingsAt 1) (fun _ => ⟨.init 5000, none, 1⟩)
    (upChange (1 / 1000)) [sameRefresh 2] (1 / 100) (by decide +kernel) (by decide +kernel)
    (by decide +kernel) (fun step hstep => by obtain rfl := List.mem_singleton.mp hstep; exact id)
  have hfollows : (tickMachine.exec listedSystem [tickSizeMessage (1 / 1000) 1,
      sameRefresh 2]).detector.Follows listedMarket.toPolymarketMarketMetadata :=
    .inl ⟨"BTCUSDT", [listedMarket.toPolymarketMarketMetadata], by decide +kernel,
      List.mem_singleton_self _⟩
  have hthreshold := hforce.detector.threshold _ hfollows rfl
  revert hthreshold
  decide +kernel

end SomethingTrade
