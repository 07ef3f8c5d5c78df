import SomethingTrade.PolymarketClient

/-!
# The Markets of the Polymarket Client

The client knows the markets it is told of, and subscribes to their tokens. An update of the
markets replaces the metadata of the tokens and asks for a new subscription; an update that
changes nothing returns at once. The diagnostics compare the tokens that are wanted with
those of the subscription that was recorded last.

## Representation

* A version of the subscription that was never recorded is `-1`.
* A websocket is the number of its connection. `updateMarkets` gives the connection it asks
  to close, if one is active.

## Main results

* `updateMarkets_orderbooks`: what an update does to the local order books.
-/

namespace SomethingTrade

open PolymarketLocalOrderBook

/-! ### Markets -/

/-- Where a market was found. -/
inductive DiscoverySource
  | directSlug | activeEvents | cache
  deriving DecidableEq

/-- The metadata of a market with the fields the client has a use for. -/
structure ListedMarket extends PolymarketMarketMetadata where
  conditionId : String
  rewardsMinSize : Option ℚ
  discoverySource : Option DiscoverySource
  deriving DecidableEq

namespace ListedMarket

/-- Whether two markets are equal. The order of their outcomes does not count. -/
def same (a b : ListedMarket) : Bool :=
  ({ a with tokenOutcomes := .empty } : ListedMarket) = { b with tokenOutcomes := .empty } &&
    a.tokenOutcomes.entries.isPerm b.tokenOutcomes.entries

/-- Whether two lists of markets are equal. -/
def sameMarkets : List ListedMarket → List ListedMarket → Bool
  | [], [] => true
  | a :: as, b :: bs => a.same b && sameMarkets as bs
  | _, _ => false

end ListedMarket

/-- The label of an outcome. -/
def sideLabelForOutcome (outcome : String) : PolymarketSideLabel :=
  let normalized := upper (String.ofList ((Decimal.strip outcome.toList).map fun c =>
    if c = '-' ∨ c = ' ' then '_' else c))
  if normalized = "YES" then .yes
  else if normalized = "NO" then .no
  else if normalized = "UP" then .up
  else if normalized = "DOWN" then .down
  else if normalized = "ABOVE" then .above
  else if normalized = "BELOW" then .below
  else if normalized = "HIGHER" then .higher
  else if normalized = "LOWER" then .lower
  else .unknown

/-- The metadata of a token nothing is known of. -/
def unknownTokenMetadata (sideLabel : PolymarketSideLabel) : TokenBookMetadata where
  conditionId := none
  marketId := ""
  sideLabel := sideLabel
  tickSize := 1 / 100

/-- The metadata the markets give their tokens. -/
def marketTokens (markets : List ListedMarket) : List (String × TokenBookMetadata) :=
  markets.flatMap fun market => market.tokenOutcomes.entries.map fun e =>
    (e.1,
      { conditionId := some market.conditionId
        marketId := market.marketId
        sideLabel := sideLabelForOutcome e.2
        tickSize := market.tickSize })

/-- Replace the label of a token. -/
def overrideSideLabel (metadata : Dict String TokenBookMetadata)
    (e : String × PolymarketSideLabel) : Dict String TokenBookMetadata :=
  metadata.set e.1 <|
    match metadata.get? e.1 with
    | none => unknownTokenMetadata e.2
    | some previous => { previous with sideLabel := e.2 }

/-- The metadata of the tokens of a subscription. -/
def buildTokenMetadata (markets : List ListedMarket) (tokenIds : List String)
    (overrides : Dict String PolymarketSideLabel) : Dict String TokenBookMetadata :=
  tokenIds.foldl (fun d token => d.setDefault token (unknownTokenMetadata .unknown))
    (overrides.entries.foldl overrideSideLabel (.ofList (marketTokens markets)))

/-- The tokens to subscribe to: those that are given, or else those of the markets. -/
def wantedTokens (markets : List ListedMarket) (tokenIds : List String) : List String :=
  if tokenIds ≠ [] then tokenIds
  else markets.flatMap fun market => market.tokenIds

/-! ### The client -/

/-- The client: its markets, its order books and what it knows of its subscription. -/
structure PolymarketWSClient where
  marketMetadata : List ListedMarket
  tokenIds : List String
  tokenSideLabelOverrides : Dict String PolymarketSideLabel
  orderbooks : PolymarketLocalOrderBook
  subscriptionVersion : ℤ
  activeSubscriptionVersion : ℤ
  activeSubscriptionTokenIds : List String
  subscriptionTransitionActive : Bool
  subscriptionUpdateCount : ℕ
  subscriptionReconnectCount : ℕ
  activeWebsocket : Option ℕ

/-- The status of the subscription. -/
inductive SubscriptionStatus
  | pending | transition | active | outOfSync
  deriving DecidableEq

/-- What the client says of its subscription. -/
structure SubscriptionDiagnostics where
  runtimeTokenCount : ℕ
  activeWsTokenSubscriptionCount : ℕ
  activeSubscriptionEstablished : Bool
  subscriptionStatus : SubscriptionStatus
  subscriptionTransitionActive : Bool
  subscriptionUpdateCount : ℕ
  websocketReconnectCount : ℕ
  missingActiveTokens : List String
  extraActiveTokens : List String
  subscriptionOutOfSync : Option Bool

/-- The message that subscribes to tokens. -/
structure SubscriptionMessage where
  assetsIds : List String
  type : String
  customFeatureEnabled : Bool
  deriving DecidableEq

/-- Whether two lists have the same tokens. -/
def sameTokens (a b : List String) : Bool := a.all (· ∈ b) && b.all (· ∈ a)

theorem sameTokens_iff {a b : List String} :
    sameTokens a b = true ↔ ∀ token, token ∈ a ↔ token ∈ b := by
  simp only [sameTokens, Bool.and_eq_true, List.all_eq_true, decide_eq_true_eq]
  exact ⟨fun h token => ⟨h.1 token, h.2 token⟩,
    fun h => ⟨fun token => (h token).mp, fun token => (h token).mpr⟩⟩

namespace PolymarketWSClient

/-- A fresh client. The settings give the order books their tolerances; the metadata of the
tokens is that of the markets. -/
def init (c : PolymarketSettings) (overrides : Dict String PolymarketSideLabel)
    (markets : List ListedMarket) (tokenIds : List String) : PolymarketWSClient where
  marketMetadata := markets
  tokenIds := wantedTokens markets tokenIds
  tokenSideLabelOverrides := overrides
  orderbooks := .init { c with
    tokenMetadata := buildTokenMetadata markets (wantedTokens markets tokenIds) overrides }
  subscriptionVersion := 0
  activeSubscriptionVersion := -1
  activeSubscriptionTokenIds := []
  subscriptionTransitionActive := false
  subscriptionUpdateCount := 0
  subscriptionReconnectCount := 0
  activeWebsocket := none

/-- The message that subscribes to the tokens of the client. -/
def subscriptionMessage (s : PolymarketWSClient) : SubscriptionMessage where
  assetsIds := s.tokenIds
  type := "market"
  customFeatureEnabled := true

/-- An update that says nothing new. -/
def upToDate (s : PolymarketWSClient) (markets : List ListedMarket) (tokenIds : List String) :
    Bool :=
  wantedTokens markets tokenIds = s.tokenIds &&
    ListedMarket.sameMarkets markets s.marketMetadata

/-- The metadata an update gives the tokens. -/
def newMetadata (s : PolymarketWSClient) (markets : List ListedMarket)
    (tokenIds : List String) : Dict String TokenBookMetadata :=
  buildTokenMetadata markets (wantedTokens markets tokenIds) s.tokenSideLabelOverrides

/-- Replace the markets and the tokens, with the connection whose close is asked for. -/
def updateMarkets (s : PolymarketWSClient) (markets : List ListedMarket)
    (tokenIds : List String) : PolymarketWSClient × Option ℕ :=
  if s.upToDate markets tokenIds then (s, none)
  else
    ({ s with
        marketMetadata := markets
        tokenIds := wantedTokens markets tokenIds
        orderbooks := s.orderbooks.updateTokenMetadata (s.newMetadata markets tokenIds)
          (wantedTokens markets tokenIds)
        subscriptionVersion := s.subscriptionVersion + 1
        subscriptionUpdateCount := s.subscriptionUpdateCount + 1
        subscriptionTransitionActive := true },
      s.activeWebsocket)

/-- What the client says of its subscription. -/
def subscriptionDiagnostics (s : PolymarketWSClient) : SubscriptionDiagnostics :=
  let established := decide (s.activeSubscriptionVersion ≥ 0)
  let matched := sameTokens s.tokenIds s.activeSubscriptionTokenIds
  { runtimeTokenCount := s.tokenIds.dedup.length
    activeWsTokenSubscriptionCount := s.activeSubscriptionTokenIds.dedup.length
    activeSubscriptionEstablished := established
    subscriptionStatus :=
      if established = false then .pending
      else if s.subscriptionTransitionActive then .transition
      else if matched then .active
      else .outOfSync
    subscriptionTransitionActive := s.subscriptionTransitionActive
    subscriptionUpdateCount := s.subscriptionUpdateCount
    websocketReconnectCount := s.subscriptionReconnectCount
    missingActiveTokens :=
      sortedSet (s.tokenIds.filter fun token => token ∉ s.activeSubscriptionTokenIds)
    extraActiveTokens :=
      sortedSet (s.activeSubscriptionTokenIds.filter fun token => token ∉ s.tokenIds)
    subscriptionOutOfSync := if established = false then none else some (matched = false) }

/-- Normalize a raw message. -/
def normalizeMessage (s : PolymarketWSClient) (r : MessageReadings) (decoded : Option Json) :
    PolymarketWSClient × Except ClientError (List PolymarketStreamEvent) :=
  let (orderbooks, result) := s.orderbooks.normalizeMessage r decoded
  ({ s with orderbooks := orderbooks }, result)

/-- What an update does to the local order books. -/
theorem updateMarkets_orderbooks (s : PolymarketWSClient) (markets : List ListedMarket)
    (tokenIds : List String) :
    (s.updateMarkets markets tokenIds).1.orderbooks =
      if s.upToDate markets tokenIds then s.orderbooks
      else polymarketMachine.next s.orderbooks
        (.updateTokenMetadata (s.newMetadata markets tokenIds)
          (wantedTokens markets tokenIds)) := by
  rw [updateMarkets]
  split <;> rfl

end PolymarketWSClient

end SomethingTrade
