import SomethingTrade.Json
import SomethingTrade.MarketEvents

/-!
# Markets and Their Windows

The metadata of an up-or-down market and the questions the gap detector asks about it:
its token for a direction, the symbol it follows, and where a moment lies relative to the
window of the market.

## Representation

* A time of the metadata is a text together with the moment that reading the text gives,
  in Unix seconds; reading itself is not modelled, so any text may stand for any moment.
* Slugs and questions are read as ASCII.

## Main results

* `classifyMarketWindow_currentSignal`: what the classification as current says.
* `classifyMarketWindow_partition`: tradable markets are those that are current, next or later.
-/

namespace SomethingTrade

/-- A time of the metadata: its text, and the moment it stands for, if it can be read. -/
structure TimeText where
  text : String
  unixSeconds : Option ℤ
  deriving DecidableEq

/-- The direction of a move, and of the token that follows it. -/
inductive GapDirection
  | up | down
  deriving DecidableEq

/-- The text of a direction. -/
def GapDirection.text : GapDirection → String
  | up => "UP"
  | down => "DOWN"

/-- Where a moment lies relative to the window of a market. -/
inductive MarketWindowClassification
  | runtimeTradable | currentSignal | nextWarmup | futureTracked
  | activeButNotAcceptingOrders | missingOrderbook | missingTokens | closed | expired | unknown
  deriving DecidableEq

/-- The text of a classification. -/
def MarketWindowClassification.text : MarketWindowClassification → String
  | runtimeTradable => "runtime_tradable"
  | currentSignal => "current_signal"
  | nextWarmup => "next_warmup"
  | futureTracked => "future_tracked"
  | activeButNotAcceptingOrders => "active_but_not_accepting_orders"
  | missingOrderbook => "missing_orderbook"
  | missingTokens => "missing_tokens"
  | closed => "closed"
  | expired => "expired"
  | unknown => "unknown"

/-- The metadata of a market. -/
structure PolymarketMarketMetadata where
  marketId : String
  marketSlug : String
  question : String
  endTime : TimeText
  tickSize : ℚ
  minOrderSize : ℚ
  startTime : Option TimeText
  eventStartTime : Option TimeText
  active : Option Bool
  closed : Option Bool
  acceptingOrders : Option Bool
  enableOrderBook : Option Bool
  classification : Option MarketWindowClassification
  selectedForRuntime : Bool
  signalEnabled : Bool
  runtimeSelectionReason : Option String
  upTokenId : Option String
  downTokenId : Option String
  yesTokenId : Option String
  noTokenId : Option String
  tokenOutcomes : Dict String String
  baseAsset : Option String
  durationMinutes : Option ℤ
  deriving DecidableEq

namespace PolymarketMarketMetadata

/-- The tokens of a market. -/
def tokenIds (market : PolymarketMarketMetadata) : List String :=
  if market.tokenOutcomes.size ≠ 0 then market.tokenOutcomes.keys
  else
    [market.upTokenId, market.downTokenId, market.yesTokenId, market.noTokenId].filterMap id

/-- The token that follows a direction. -/
def tokenForDirection (market : PolymarketMarketMetadata) : GapDirection → Option String
  | .up => market.upTokenId
  | .down => market.downTokenId

end PolymarketMarketMetadata

/-! ### Slugs -/

/-- A character of a word. -/
def isWordChar (c : Char) : Bool := c.isAlphanum || c == '_'

/-- The rest of a text after one of some beginnings, with the beginning. -/
def stripOneOf (starts : List String) (cs : List Char) : Option (String × List Char) :=
  starts.findSome? fun start =>
    if start.toList.isPrefixOf cs then some (start, cs.drop start.length) else none

/-- The parts of a rolling slug at the start of a text: `asset-updown-horizon-start`, not
followed by a character of a word. -/
def rollingSlugAt (cs : List Char) : Option (String × String × ℕ) := do
  let (asset, cs) ← stripOneOf ["btc", "eth"] cs
  let (_, cs) ← stripOneOf ["-updown-"] cs
  let (horizon, cs) ← stripOneOf ["5m", "15m"] cs
  let (_, cs) ← stripOneOf ["-"] cs
  let digits := cs.takeWhile Char.isDigit
  if digits = [] ∨ (cs.drop digits.length).head?.any isWordChar then none
  else return (asset, horizon, digits.foldl (fun n c => 10 * n + (c.toNat - '0'.toNat)) 0)

/-- The parts of the first rolling slug in a text that does not start inside a word. -/
def findRollingSlug (before : Option Char) : List Char → Option (String × String × ℕ)
  | [] => none
  | c :: cs =>
      if before.any isWordChar then findRollingSlug (some c) cs
      else (rollingSlugAt (c :: cs)).orElse fun _ => findRollingSlug (some c) cs

/-- The parts of the first rolling slug in a text. -/
def rollingSlugParts (text : String) : Option (String × String × ℕ) :=
  findRollingSlug none (lower text).toList

/-- The start of the window a slug names. -/
def rollingSlugStartTs (slug : String) : Option ℤ :=
  (rollingSlugParts slug).map fun parts => (parts.2.2 : ℤ)

example : rollingSlugParts "btc-updown-5m-1700000100" = some ("btc", "5m", 1700000100) := by
  decide +kernel

/-! ### Windows -/

/-- The start of the window of a market; zero when nothing names it. -/
def marketStartSortKey (market : PolymarketMarketMetadata) : ℤ :=
  (orValue (market.eventStartTime.bind TimeText.unixSeconds)
    (orValue (market.startTime.bind TimeText.unixSeconds)
      (orValue (rollingSlugStartTs market.marketSlug) (some 0)))).getD 0

/-- The length of the window of a market. -/
def marketDurationSeconds (market : PolymarketMarketMetadata) : Option ℤ :=
  market.durationMinutes.map (· * 60)

/-- Whether a market is open, tradable and not over. -/
def isRuntimeTradableMarket (market : PolymarketMarketMetadata) (now : ℤ) : Bool :=
  market.active = some true && market.closed = some false &&
    market.acceptingOrders = some true && market.enableOrderBook = some true &&
    market.upTokenId.isSome && market.downTokenId.isSome && market.tokenIds.length ≥ 2 &&
    market.endTime.unixSeconds.any fun endTs => endTs > now

/-- Where a moment lies relative to the window of a market. -/
def classifyMarketWindow (market : PolymarketMarketMetadata) (now : ℤ) :
    MarketWindowClassification :=
  if market.closed = some true then .closed
  else if market.active = some true ∧ market.closed = some false ∧
      market.acceptingOrders ≠ some true then .activeButNotAcceptingOrders
  else if market.active = some true ∧ market.closed = some false ∧
      market.enableOrderBook ≠ some true then .missingOrderbook
  else if market.upTokenId = none ∨ market.downTokenId = none ∨
      market.tokenIds.length < 2 then .missingTokens
  else if market.active ≠ some true ∨ market.closed ≠ some false then .unknown
  else
    match market.endTime.unixSeconds with
    | none => .runtimeTradable
    | some endTs =>
        if endTs ≤ now then .expired
        else
          let startTs := marketStartSortKey market
          if startTs ≤ now ∧ now < endTs then .currentSignal
          else if startTs > now then
            match marketDurationSeconds market with
            | some duration => if startTs - now ≤ duration then .nextWarmup else .futureTracked
            | none => .futureTracked
          else .expired

/-- The classification, with something else where none of its rules applies. -/
def classifyMarketWindowOr (fallThrough : MarketWindowClassification)
    (market : PolymarketMarketMetadata) (now : ℤ) : MarketWindowClassification :=
  if market.closed = some true then .closed
  else if market.active = some true ∧ market.closed = some false ∧
      market.acceptingOrders ≠ some true then .activeButNotAcceptingOrders
  else if market.active = some true ∧ market.closed = some false ∧
      market.enableOrderBook ≠ some true then .missingOrderbook
  else if market.upTokenId = none ∨ market.downTokenId = none ∨
      market.tokenIds.length < 2 then .missingTokens
  else if market.active ≠ some true ∨ market.closed ≠ some false then .unknown
  else
    match market.endTime.unixSeconds with
    | none => .runtimeTradable
    | some endTs =>
        if endTs ≤ now then .expired
        else
          let startTs := marketStartSortKey market
          if startTs ≤ now ∧ now < endTs then .currentSignal
          else if startTs > now then
            match marketDurationSeconds market with
            | some duration => if startTs - now ≤ duration then .nextWarmup else .futureTracked
            | none => .futureTracked
          else fallThrough

/-- Nothing falls through: a market that is not over has started or starts later. -/
theorem classifyMarketWindowOr_eq (fallThrough : MarketWindowClassification)
    (market : PolymarketMarketMetadata) (now : ℤ) :
    classifyMarketWindowOr fallThrough market now = classifyMarketWindow market now := by
  rw [classifyMarketWindowOr, classifyMarketWindow]
  cases market.endTime.unixSeconds with
  | none => rfl
  | some endTs =>
      dsimp only
      by_cases hover : endTs ≤ now
      · rw [if_pos hover, if_pos hover]
      · rw [if_neg hover, if_neg hover]
        by_cases hstart : marketStartSortKey market ≤ now
        · have hwindow : marketStartSortKey market ≤ now ∧ now < endTs :=
            ⟨hstart, not_le.mp hover⟩
          rw [if_pos hwindow, if_pos hwindow]
        · rw [if_pos (not_le.mp hstart), if_pos (not_le.mp hstart)]

section

variable {market : PolymarketMarketMetadata} {now : ℤ}

/-- A tradable market has an end that is still to come. -/
theorem end_of_tradable (h : isRuntimeTradableMarket market now = true) :
    ∃ endTs, market.endTime.unixSeconds = some endTs ∧ now < endTs := by
  simp only [isRuntimeTradableMarket, Bool.and_eq_true, Option.any_eq_true,
    decide_eq_true_eq] at h
  exact h.2

/-- A tradable market is classified by its start. -/
theorem classify_of_tradable (h : isRuntimeTradableMarket market now = true) :
    (classifyMarketWindow market now = .currentSignal ↔ marketStartSortKey market ≤ now) ∧
      (classifyMarketWindow market now = .nextWarmup ∨
        classifyMarketWindow market now = .futureTracked ↔ now < marketStartSortKey market) := by
  obtain ⟨endTs, hend, hafter⟩ := end_of_tradable h
  simp only [isRuntimeTradableMarket, Bool.and_eq_true, decide_eq_true_eq,
    Option.isSome_iff_exists] at h
  obtain ⟨⟨⟨⟨⟨⟨⟨hactive, hclosed⟩, haccepting⟩, hbook⟩, up, hup⟩, down, hdown⟩, htokens⟩, -⟩ := h
  have hclass : classifyMarketWindow market now =
      if marketStartSortKey market ≤ now then .currentSignal
      else
        match marketDurationSeconds market with
        | some duration =>
            if marketStartSortKey market - now ≤ duration then .nextWarmup else .futureTracked
        | none => .futureTracked := by
    simp only [classifyMarketWindow, hactive, hclosed, haccepting, hbook, hup, hdown, hend]
    simp only [not_le.mpr hafter, hafter, not_lt.mpr htokens]
    by_cases hstart : marketStartSortKey market ≤ now
    · simp [hstart]
    · cases marketDurationSeconds market <;> simp [hstart, not_le.mp hstart]
  rw [hclass]
  by_cases hstart : marketStartSortKey market ≤ now
  · rw [if_pos hstart]
    exact ⟨⟨fun _ => hstart, fun _ => rfl⟩, ⟨nofun, fun hlt => absurd hlt (not_lt.mpr hstart)⟩⟩
  · rw [if_neg hstart]
    have hlt := not_le.mp hstart
    constructor
    · refine ⟨fun h => ?_, fun hle => absurd hle hstart⟩
      split at h
      · split at h <;> cases h
      · cases h
    · refine ⟨fun _ => hlt, fun _ => ?_⟩
      split
      · split
        · exact .inl rfl
        · exact .inr rfl
      · exact .inr rfl

/-- A market that has a window to signal in, or to come, is tradable. -/
theorem tradable_of_classify (h : classifyMarketWindow market now = .currentSignal ∨
    classifyMarketWindow market now = .nextWarmup ∨
    classifyMarketWindow market now = .futureTracked) :
    isRuntimeTradableMarket market now = true := by
  generalize hclass : classifyMarketWindow market now = classification at h
  rw [classifyMarketWindow] at hclass
  split at hclass
  · simp [← hclass] at h
  rename_i hclosed
  split at hclass
  · simp [← hclass] at h
  rename_i haccepting
  split at hclass
  · simp [← hclass] at h
  rename_i hbook
  split at hclass
  · simp [← hclass] at h
  rename_i htokens
  split at hclass
  · simp [← hclass] at h
  rename_i hopen
  push Not at haccepting hbook htokens hopen
  obtain ⟨hactive, hnotClosed⟩ := hopen
  obtain ⟨hup, hdown, htwo⟩ := htokens
  split at hclass
  · simp [← hclass] at h
  rename_i endTs hend
  split at hclass
  · simp [← hclass] at h
  rename_i hover
  simp [isRuntimeTradableMarket, hactive, hnotClosed, haccepting hactive hnotClosed,
    hbook hactive hnotClosed, Option.isSome_iff_ne_none.mpr hup,
    Option.isSome_iff_ne_none.mpr hdown, htwo, hend, not_le.mp hover]

/-- A market is classified as current only inside its window, and while it is open. -/
theorem classifyMarketWindow_currentSignal
    (h : classifyMarketWindow market now = .currentSignal) :
    market.active = some true ∧ market.closed = some false ∧
      (∃ token, market.upTokenId = some token) ∧ (∃ token, market.downTokenId = some token) ∧
      marketStartSortKey market ≤ now ∧ ∃ endTs, market.endTime.unixSeconds = some endTs ∧
        now < endTs := by
  have htradable := tradable_of_classify (.inl h)
  have hstart := (classify_of_tradable htradable).1.mp h
  have hend := end_of_tradable htradable
  simp only [isRuntimeTradableMarket, Bool.and_eq_true, decide_eq_true_eq,
    Option.isSome_iff_exists] at htradable
  obtain ⟨⟨⟨⟨⟨⟨⟨hactive, hclosed⟩, -⟩, -⟩, hup⟩, hdown⟩, -⟩, -⟩ := htradable
  exact ⟨hactive, hclosed, hup, hdown, hstart, hend⟩

/-- **The two cascades partition the markets alike.** A market is tradable exactly when it is
classified as current, next or later; it is current exactly when it is tradable and the moment is
in its window; and nothing falls through the classification. -/
theorem classifyMarketWindow_partition (market : PolymarketMarketMetadata) (now : ℤ) :
    (isRuntimeTradableMarket market now = true ↔
      classifyMarketWindow market now = .currentSignal ∨
        classifyMarketWindow market now = .nextWarmup ∨
        classifyMarketWindow market now = .futureTracked) ∧
    (classifyMarketWindow market now = .currentSignal ↔
      isRuntimeTradableMarket market now = true ∧ marketStartSortKey market ≤ now ∧
        ∃ endTs, market.endTime.unixSeconds = some endTs ∧ now < endTs) ∧
    ∀ fallThrough, classifyMarketWindowOr fallThrough market now =
      classifyMarketWindow market now := by
  refine ⟨⟨fun htradable => ?_, tradable_of_classify⟩, ⟨fun hcurrent => ?_, ?_⟩,
    fun fallThrough => classifyMarketWindowOr_eq fallThrough market now⟩
  · obtain ⟨hcurrent, hlater⟩ := classify_of_tradable htradable
    by_cases hstart : marketStartSortKey market ≤ now
    · exact .inl (hcurrent.mpr hstart)
    · exact .inr (hlater.mpr (not_le.mp hstart))
  · have htradable := tradable_of_classify (.inl hcurrent)
    exact ⟨htradable, (classify_of_tradable htradable).1.mp hcurrent, end_of_tradable htradable⟩
  · rintro ⟨htradable, hstart, -⟩
    exact (classify_of_tradable htradable).1.mpr hstart

end

end SomethingTrade
