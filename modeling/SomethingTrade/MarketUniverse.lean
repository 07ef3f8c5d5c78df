import Mathlib.Data.List.Lex
import Mathlib.Data.List.Sort
import Mathlib.Data.String.Basic
import SomethingTrade.Json
import SomethingTrade.Machine
import SomethingTrade.MarketWindows

/-!
# The Market Universe

The markets that are held at run time are discovered again and again. A refresh that
selects markets replaces those held; a refresh whose discovery fails, or that selects
nothing, keeps them and only marks anew what each is good for. The two paths mark with
different code: a selection writes the role of each group it picks, and a refresh that keeps
the markets asks another selector for the role of each market by its key.

## Representation

* What a discovery returns, with the counts of its attempt, is an argument of a refresh; so
  is the exception it ends with. Exceptions that a refresh does not catch leave it.
* The summary of an attempt, which is only reported, is left out.

## Main results

* `selectRuntimeMarketUniverse_flags`, `annotateRuntimeMarketRoles_flags`: both paths enable
  the signal of a market exactly in its window.
* `RuntimeMarketUniverseManager.keeps_universe`: the universe is never lost, and its signals
  follow the windows.
-/

namespace SomethingTrade

/-! ### Keys -/

/-- What tells markets apart. -/
abbrev MarketKey := String × List String

/-- The key of a market. -/
def marketKey (market : PolymarketMarketMetadata) : MarketKey :=
  (market.marketId, market.tokenIds)

/-- The tokens of some markets. -/
def flattenTokenIds (markets : List PolymarketMarketMetadata) : List String :=
  markets.flatMap PolymarketMarketMetadata.tokenIds

/-- The asset and the duration of a market. -/
def marketGroup (market : PolymarketMarketMetadata) : Option String × Option ℤ :=
  (market.baseAsset, market.durationMinutes)

/-- What markets of a universe are sorted by: a time or the slug, as text, and the market. -/
def marketSortKey (market : PolymarketMarketMetadata) : String × String :=
  (orText (market.eventStartTime.map TimeText.text)
    (orText (market.startTime.map TimeText.text) market.marketSlug), market.marketId)

/-- The order of pairs of texts. -/
def textPairLe (a b : String × String) : Prop := a.1 < b.1 ∨ a.1 = b.1 ∧ a.2 ≤ b.2

instance (a b : String × String) : Decidable (textPairLe a b) :=
  inferInstanceAs (Decidable (a.1 < b.1 ∨ a.1 = b.1 ∧ a.2 ≤ b.2))

/-! ### Roles -/

/-- What an annotation writes into a market. -/
def PolymarketMarketMetadata.annotate (market : PolymarketMarketMetadata)
    (classification : MarketWindowClassification) (selected signalEnabled : Bool)
    (reason : String) : PolymarketMarketMetadata :=
  { market with
    classification := some classification
    selectedForRuntime := selected
    signalEnabled := signalEnabled
    runtimeSelectionReason := some reason }

/-- The role of a market in a universe. -/
inductive UniverseRole
  | current | next | future
  deriving DecidableEq

/-- Write the role of a market into it. -/
def annotateUniverseRole (role : UniverseRole) (market : PolymarketMarketMetadata) :
    PolymarketMarketMetadata :=
  match role with
  | .current => market.annotate .currentSignal true true "current_signal"
  | .next => market.annotate .nextWarmup true false "next_warmup"
  | .future => market.annotate .futureTracked true false "future_tracked"

/-- The role of the market at a place among those to come. -/
def futureRole (index : ℕ) : UniverseRole := if index = 0 then .next else .future

/-- The markets of a group that are in their window, in order. -/
def currentMarkets (group : List PolymarketMarketMetadata) (now : ℤ) :
    List PolymarketMarketMetadata :=
  (group.filter fun market => isRuntimeTradableMarket market now &&
    classifyMarketWindow market now = .currentSignal).insertionSort
    fun a b => textPairLe (marketSortKey a) (marketSortKey b)

/-- The markets of a group whose window comes, in order. -/
def futureMarkets (group : List PolymarketMarketMetadata) (now : ℤ) :
    List PolymarketMarketMetadata :=
  (group.filter fun market => isRuntimeTradableMarket market now &&
    (classifyMarketWindow market now = .nextWarmup ||
      classifyMarketWindow market now = .futureTracked)).insertionSort
    fun a b => textPairLe (marketSortKey a) (marketSortKey b)

/-- Select from a group the current markets and the first ones to come. -/
def selectFromGroup (now : ℤ) (lookaheadWindows : ℕ) (group : List PolymarketMarketMetadata) :
    List PolymarketMarketMetadata :=
  (currentMarkets group now).map (annotateUniverseRole .current) ++
    ((futureMarkets group now).take lookaheadWindows).mapIdx fun index market =>
      annotateUniverseRole (futureRole index) market

/-- Select the universe: from each asset and duration, the current markets and the first ones
to come. -/
def selectRuntimeMarketUniverse (markets : List PolymarketMarketMetadata) (now : ℤ)
    (lookaheadWindows : ℕ) : List PolymarketMarketMetadata :=
  (Dict.groupBy marketGroup markets).entries.flatMap fun e =>
    selectFromGroup now lookaheadWindows e.2

/-- Whether a moment is in the window of a market. -/
def isCurrentWindow (market : PolymarketMarketMetadata) (now : ℤ) : Bool :=
  market.endTime.unixSeconds.any fun endTs =>
    marketStartSortKey market ≤ now && now < endTs

/-- The roles of the markets of a group: those in their window, and the first ones that start
later. -/
def rolesInGroup (now : ℤ) (lookaheadWindows : ℕ) (group : List PolymarketMarketMetadata) :
    List (PolymarketMarketMetadata × MarketWindowClassification) :=
  let byStart (a b : PolymarketMarketMetadata) : Bool :=
    marketStartSortKey a ≤ marketStartSortKey b
  ((group.filter fun market => isCurrentWindow market now).insertionSort
      fun a b => byStart a b).map (fun market => (market, .currentSignal)) ++
    (((group.filter fun market => marketStartSortKey market > now).insertionSort
      fun a b => byStart a b).take (max 1 lookaheadWindows)).mapIdx fun index market =>
        (market, if index = 0 then .nextWarmup else .futureTracked)

/-- The keys and the roles of the markets that are wanted at run time, group by group. -/
def selectRuntimeMarketKeyRoleOrder (markets : List PolymarketMarketMetadata) (now : ℤ)
    (lookaheadWindows : ℕ) : List (MarketKey × MarketWindowClassification) :=
  ((Dict.groupBy marketGroup
      (markets.filter fun market => isRuntimeTradableMarket market now)).entries.flatMap fun e =>
    rolesInGroup now lookaheadWindows e.2).map fun selected => (marketKey selected.1, selected.2)

/-- The role of each wanted key; a later one overwrites an earlier one. -/
def selectRuntimeMarketKeyRoles (markets : List PolymarketMarketMetadata) (now : ℤ)
    (lookaheadWindows : ℕ) : Dict MarketKey MarketWindowClassification :=
  .ofList (selectRuntimeMarketKeyRoleOrder markets now lookaheadWindows)

/-- Why a market is held. -/
def runtimeSelectionReasonOf (classification : MarketWindowClassification)
    (selectedRole : Option MarketWindowClassification) (signalEnabled : Bool) : String :=
  if signalEnabled then "current_signal"
  else
    match selectedRole with
    | some role => role.text
    | none => classification.text

/-- Write into each market the role it has among them. -/
def annotateRuntimeMarketRoles (markets : List PolymarketMarketMetadata) (now : ℤ)
    (lookaheadWindows : ℕ) : List PolymarketMarketMetadata :=
  let selectedRoles := selectRuntimeMarketKeyRoles markets now lookaheadWindows
  markets.map fun market =>
    let classification := classifyMarketWindow market now
    let selectedRole := selectedRoles.get? (marketKey market)
    let signalEnabled : Bool := selectedRole = some .currentSignal
    market.annotate classification selectedRole.isSome signalEnabled
      (runtimeSelectionReasonOf classification selectedRole signalEnabled)

/-! ### Signals -/

/-- A market is tradable, and a moment is in its window. -/
def InWindow (market : PolymarketMarketMetadata) (now : ℤ) : Prop :=
  isRuntimeTradableMarket market now = true ∧ ∃ endTs,
    market.endTime.unixSeconds = some endTs ∧ marketStartSortKey market ≤ now ∧ now < endTs

/-- The signals of some markets are enabled exactly in their windows. -/
def SignalsFollow (markets : List PolymarketMarketMetadata) (now : ℤ) : Prop :=
  ∀ market ∈ markets, market.signalEnabled = true ↔ InWindow market now

section

variable {market : PolymarketMarketMetadata} {now : ℤ}

/-- A tradable market is in its window once it has started. -/
theorem inWindow_iff (h : isRuntimeTradableMarket market now = true) :
    InWindow market now ↔ marketStartSortKey market ≤ now := by
  obtain ⟨endTs, hend, hafter⟩ := end_of_tradable h
  exact ⟨fun ⟨_, _, _, hstart, _⟩ => hstart, fun hstart => ⟨h, endTs, hend, hstart, hafter⟩⟩

theorem isCurrentWindow_iff (h : isRuntimeTradableMarket market now = true) :
    isCurrentWindow market now = true ↔ marketStartSortKey market ≤ now := by
  obtain ⟨endTs, hend, hafter⟩ := end_of_tradable h
  simp [isCurrentWindow, hend, hafter]

end

/-! ### Selections -/

section

variable {markets group : List PolymarketMarketMetadata} {now : ℤ} {lookahead : ℕ}

theorem mem_currentMarkets {market : PolymarketMarketMetadata} :
    market ∈ currentMarkets group now ↔ market ∈ group ∧
      isRuntimeTradableMarket market now = true ∧ marketStartSortKey market ≤ now := by
  rw [currentMarkets, List.mem_insertionSort, List.mem_filter, Bool.and_eq_true,
    decide_eq_true_eq]
  refine and_congr_right fun _ => and_congr_right fun h => ?_
  exact (classify_of_tradable h).1

theorem mem_futureMarkets {market : PolymarketMarketMetadata} :
    market ∈ futureMarkets group now ↔ market ∈ group ∧
      isRuntimeTradableMarket market now = true ∧ now < marketStartSortKey market := by
  rw [futureMarkets, List.mem_insertionSort, List.mem_filter, Bool.and_eq_true,
    Bool.or_eq_true, decide_eq_true_eq, decide_eq_true_eq]
  refine and_congr_right fun _ => and_congr_right fun h => ?_
  exact (classify_of_tradable h).2

/-- A selected market is one of the markets, tradable, and marked by its start. -/
theorem mem_selectFromGroup {market : PolymarketMarketMetadata}
    (h : market ∈ selectFromGroup now lookahead group) :
    ∃ original ∈ group, isRuntimeTradableMarket original now = true ∧ ∃ role,
      market = annotateUniverseRole role original ∧
        (role = .current ↔ marketStartSortKey original ≤ now) := by
  rw [selectFromGroup, List.mem_append] at h
  rcases h with h | h
  · obtain ⟨original, hmem, rfl⟩ := List.mem_map.mp h
    obtain ⟨hgroup, htradable, hstart⟩ := mem_currentMarkets.mp hmem
    exact ⟨original, hgroup, htradable, .current, rfl, fun _ => hstart, fun _ => rfl⟩
  · obtain ⟨index, hindex, rfl⟩ := List.mem_mapIdx.mp h
    obtain ⟨hgroup, htradable, hstart⟩ := mem_futureMarkets.mp
      (List.mem_of_mem_take (List.getElem_mem hindex))
    refine ⟨_, hgroup, htradable, futureRole index, rfl, fun hrole => ?_,
      fun hle => absurd hle (not_le.mpr hstart)⟩
    rw [futureRole] at hrole
    split at hrole <;> cases hrole

theorem mem_selectRuntimeMarketUniverse {market : PolymarketMarketMetadata}
    (h : market ∈ selectRuntimeMarketUniverse markets now lookahead) :
    ∃ original ∈ markets, isRuntimeTradableMarket original now = true ∧ ∃ role,
      market = annotateUniverseRole role original ∧
        (role = .current ↔ marketStartSortKey original ≤ now) := by
  obtain ⟨⟨key, group⟩, hgroup, hmem⟩ := List.mem_flatMap.mp h
  obtain ⟨original, horiginal, hrest⟩ := mem_selectFromGroup hmem
  rw [Dict.mem_groupBy hgroup] at horiginal
  exact ⟨original, (List.mem_filter.mp horiginal).1, hrest⟩

/-- An annotation keeps the market and its window. -/
theorem annotateUniverseRole_same (role : UniverseRole) (market : PolymarketMarketMetadata)
    (now : ℤ) :
    marketKey (annotateUniverseRole role market) = marketKey market ∧
      (InWindow (annotateUniverseRole role market) now ↔ InWindow market now) ∧
      ((annotateUniverseRole role market).signalEnabled = true ↔ role = .current) := by
  cases role with
  | current => exact ⟨rfl, Iff.rfl, ⟨fun _ => rfl, fun _ => rfl⟩⟩
  | next => exact ⟨rfl, Iff.rfl, ⟨nofun, nofun⟩⟩
  | future => exact ⟨rfl, Iff.rfl, ⟨nofun, nofun⟩⟩

/-- **A selection enables signals exactly in the windows.** -/
theorem selectRuntimeMarketUniverse_flags :
    SignalsFollow (selectRuntimeMarketUniverse markets now lookahead) now := by
  intro market hmarket
  obtain ⟨original, -, htradable, role, rfl, hrole⟩ := mem_selectRuntimeMarketUniverse hmarket
  obtain ⟨-, hwindow, hsignal⟩ := annotateUniverseRole_same role original now
  rw [hsignal, hwindow, hrole, inWindow_iff htradable]

theorem map_marketKey_mapIdx (markets : List PolymarketMarketMetadata)
    (role : ℕ → UniverseRole) :
    (markets.mapIdx fun index market => annotateUniverseRole (role index) market).map marketKey =
      markets.map marketKey := by
  refine List.ext_getElem (by simp) fun index _ _ => ?_
  simp only [List.getElem_map, List.getElem_mapIdx]
  exact (annotateUniverseRole_same _ _ 0).1

/-- The markets of a group that are selected are some of it, each once. -/
theorem nodup_selectFromGroup (h : (group.map marketKey).Nodup) :
    ((selectFromGroup now lookahead group).map marketKey).Nodup := by
  have hgroup : group.Nodup := .of_map _ h
  have hcurrent : ((currentMarkets group now).map marketKey).Nodup := by
    have hperm := (List.perm_insertionSort (fun a b => textPairLe (marketSortKey a)
      (marketSortKey b)) (group.filter fun market => isRuntimeTradableMarket market now &&
        classifyMarketWindow market now = .currentSignal)).map marketKey
    exact hperm.nodup_iff.mpr (h.sublist (List.filter_sublist.map _))
  have hfuture : ((futureMarkets group now).map marketKey).Nodup := by
    have hperm := (List.perm_insertionSort (fun a b => textPairLe (marketSortKey a)
      (marketSortKey b)) (group.filter fun market => isRuntimeTradableMarket market now &&
        (classifyMarketWindow market now = .nextWarmup ||
          classifyMarketWindow market now = .futureTracked))).map marketKey
    exact hperm.nodup_iff.mpr (h.sublist (List.filter_sublist.map _))
  have hkeys : (selectFromGroup now lookahead group).map marketKey =
      (currentMarkets group now).map marketKey ++
        ((futureMarkets group now).take lookahead).map marketKey := by
    rw [selectFromGroup, List.map_append, map_marketKey_mapIdx, List.map_map]
    rfl
  rw [hkeys, List.nodup_append]
  refine ⟨hcurrent, hfuture.sublist ((List.take_sublist _ _).map _), ?_⟩
  rintro _ ha _ hb rfl
  obtain ⟨a, ha, hkey⟩ := List.mem_map.mp ha
  obtain ⟨b, hb, hkey'⟩ := List.mem_map.mp hb
  obtain ⟨hga, -, hle⟩ := mem_currentMarkets.mp ha
  obtain ⟨hgb, -, hlt⟩ := mem_futureMarkets.mp (List.mem_of_mem_take hb)
  have hab : a = b := List.inj_on_of_nodup_map h hga hgb (hkey.trans hkey'.symm)
  rw [hab] at hle
  exact absurd hle (not_le.mpr hlt)

/-- The groups of markets with distinct keys share no key. -/
theorem disjoint_selectFromGroup (h : (markets.map marketKey).Nodup)
    {e e' : (Option String × Option ℤ) × List PolymarketMarketMetadata}
    (he : e ∈ (Dict.groupBy marketGroup markets).entries)
    (he' : e' ∈ (Dict.groupBy marketGroup markets).entries) (hne : e.1 ≠ e'.1) :
    List.Disjoint ((selectFromGroup now lookahead e.2).map marketKey)
      ((selectFromGroup now lookahead e'.2).map marketKey) := by
  have original {e : (Option String × Option ℤ) × List PolymarketMarketMetadata} {key : MarketKey}
      (he : e ∈ (Dict.groupBy marketGroup markets).entries)
      (hkey : key ∈ (selectFromGroup now lookahead e.2).map marketKey) :
      ∃ market ∈ markets, marketKey market = key ∧ marketGroup market = e.1 := by
    obtain ⟨market, hmem, rfl⟩ := List.mem_map.mp hkey
    obtain ⟨original, hgroup, -, role, rfl, -⟩ := mem_selectFromGroup hmem
    rw [Dict.mem_groupBy he, List.mem_filter, decide_eq_true_eq] at hgroup
    exact ⟨original, hgroup.1, (annotateUniverseRole_same role original now).1.symm, hgroup.2⟩
  intro key hkey hkey'
  obtain ⟨a, ha, hak, hag⟩ := original he hkey
  obtain ⟨b, hb, hbk, hbg⟩ := original he' hkey'
  have hab : a = b := List.inj_on_of_nodup_map h ha hb (hak.trans hbk.symm)
  exact hne (hag.symm.trans ((congrArg marketGroup hab).trans hbg))

/-- **A selection from distinct markets is distinct.** -/
theorem nodup_selectRuntimeMarketUniverse (h : (markets.map marketKey).Nodup) :
    ((selectRuntimeMarketUniverse markets now lookahead).map marketKey).Nodup := by
  rw [selectRuntimeMarketUniverse, List.map_flatMap, List.nodup_flatMap]
  constructor
  · rintro ⟨key, group⟩ he
    refine nodup_selectFromGroup ?_
    rw [Dict.mem_groupBy he]
    exact h.sublist (List.filter_sublist.map _)
  · have hkeys : (Dict.groupBy marketGroup markets).entries.Pairwise fun e e' => e.1 ≠ e'.1 :=
      List.pairwise_map.mp (Dict.groupBy marketGroup markets).nodup
    exact hkeys.imp_of_mem fun he he' hne => disjoint_selectFromGroup h he he' hne

end

/-! ### Roles by key -/

section

variable {markets group : List PolymarketMarketMetadata} {now : ℤ} {lookahead : ℕ}

/-- A role is given to a market of the group by its start. -/
theorem mem_rolesInGroup {market : PolymarketMarketMetadata}
    {role : MarketWindowClassification} (h : (market, role) ∈ rolesInGroup now lookahead group) :
    market ∈ group ∧ (role = .currentSignal → isCurrentWindow market now = true) ∧
      (role ≠ .currentSignal → now < marketStartSortKey market) := by
  rw [rolesInGroup, List.mem_append] at h
  rcases h with h | h
  · obtain ⟨original, hmem, heq⟩ := List.mem_map.mp h
    obtain ⟨rfl, rfl⟩ := Prod.mk.inj heq
    rw [List.mem_insertionSort, List.mem_filter] at hmem
    exact ⟨hmem.1, fun _ => hmem.2, fun hne => absurd rfl hne⟩
  · obtain ⟨index, hindex, heq⟩ := List.mem_mapIdx.mp h
    obtain ⟨rfl, rfl⟩ := Prod.mk.inj heq
    have hmem := List.mem_of_mem_take (List.getElem_mem hindex)
    rw [List.mem_insertionSort, List.mem_filter, decide_eq_true_eq] at hmem
    refine ⟨hmem.1, fun hrole => ?_, fun _ => hmem.2⟩
    split at hrole <;> cases hrole

/-- A market of the group that is in its window gets the role of a current one. -/
theorem current_mem_rolesInGroup {market : PolymarketMarketMetadata} (h : market ∈ group)
    (hwindow : isCurrentWindow market now = true) :
    (market, .currentSignal) ∈ rolesInGroup now lookahead group := by
  refine List.mem_append_left _ (List.mem_map.mpr ⟨market, ?_, rfl⟩)
  exact (List.mem_insertionSort _).mpr (List.mem_filter.mpr ⟨h, hwindow⟩)

theorem mem_selectRuntimeMarketKeyRoleOrder {key : MarketKey}
    {role : MarketWindowClassification}
    (h : (key, role) ∈ selectRuntimeMarketKeyRoleOrder markets now lookahead) :
    ∃ market ∈ markets, marketKey market = key ∧
      isRuntimeTradableMarket market now = true ∧
      (role = .currentSignal → isCurrentWindow market now = true) ∧
      (role ≠ .currentSignal → now < marketStartSortKey market) := by
  obtain ⟨⟨market, role'⟩, hmem, heq⟩ := List.mem_map.mp h
  obtain ⟨hkey, rfl⟩ := Prod.mk.inj heq
  obtain ⟨⟨groupKey, group⟩, hgroup, hmem⟩ := List.mem_flatMap.mp hmem
  obtain ⟨hin, hcurrent, hfuture⟩ := mem_rolesInGroup hmem
  rw [Dict.mem_groupBy hgroup, List.mem_filter, List.mem_filter] at hin
  exact ⟨market, hin.1.1, hkey, hin.1.2, hcurrent, hfuture⟩

theorem current_mem_selectRuntimeMarketKeyRoleOrder {market : PolymarketMarketMetadata}
    (lookahead : ℕ) (h : market ∈ markets) (htradable : isRuntimeTradableMarket market now = true)
    (hwindow : isCurrentWindow market now = true) :
    (marketKey market, .currentSignal) ∈
      selectRuntimeMarketKeyRoleOrder markets now lookahead := by
  have hmem : market ∈ markets.filter fun market => isRuntimeTradableMarket market now :=
    List.mem_filter.mpr ⟨h, htradable⟩
  refine List.mem_map.mpr ⟨(market, .currentSignal), List.mem_flatMap.mpr
    ⟨_, Dict.exists_groupBy (f := marketGroup) hmem, current_mem_rolesInGroup ?_ hwindow⟩, rfl⟩
  exact List.mem_filter.mpr ⟨hmem, by simp⟩

/-- Among markets with distinct keys, the ones with the role of a current market are those in
their window. -/
theorem role_current_iff (hkeys : (markets.map marketKey).Nodup)
    {market : PolymarketMarketMetadata} (h : market ∈ markets) :
    (selectRuntimeMarketKeyRoles markets now lookahead).get? (marketKey market) =
      some .currentSignal ↔ InWindow market now := by
  have same {other : PolymarketMarketMetadata} (ho : other ∈ markets)
      (hkey : marketKey other = marketKey market) : other = market :=
    List.inj_on_of_nodup_map hkeys ho h hkey
  constructor
  · intro hrole
    obtain ⟨other, ho, hkey, htradable, hcurrent, -⟩ :=
      mem_selectRuntimeMarketKeyRoleOrder (Dict.mem_of_get?_ofList hrole)
    obtain rfl := same ho hkey
    exact (inWindow_iff htradable).mpr ((isCurrentWindow_iff htradable).mp (hcurrent rfl))
  · intro hwindow
    have htradable := hwindow.1
    have hstart := (inWindow_iff htradable).mp hwindow
    obtain ⟨role, hrole⟩ := Dict.exists_get?_ofList
      (current_mem_selectRuntimeMarketKeyRoleOrder lookahead h htradable
        ((isCurrentWindow_iff htradable).mpr hstart))
    obtain ⟨other, ho, hkey, -, -, hfuture⟩ :=
      mem_selectRuntimeMarketKeyRoleOrder (Dict.mem_of_get?_ofList hrole)
    obtain rfl := same ho hkey
    by_cases hcurrent : role = .currentSignal
    · rw [← hcurrent]
      exact hrole
    · exact absurd (hfuture hcurrent) (not_lt.mpr hstart)

theorem map_marketKey_annotateRuntimeMarketRoles :
    (annotateRuntimeMarketRoles markets now lookahead).map marketKey =
      markets.map marketKey := by
  rw [annotateRuntimeMarketRoles, List.map_map]
  rfl

/-- **Marking markets anew enables signals exactly in the windows.** -/
theorem annotateRuntimeMarketRoles_flags (hkeys : (markets.map marketKey).Nodup) :
    SignalsFollow (annotateRuntimeMarketRoles markets now lookahead) now := by
  intro market hmarket
  obtain ⟨original, horiginal, rfl⟩ := List.mem_map.mp hmarket
  have hrole : (selectRuntimeMarketKeyRoles markets now lookahead).get? (marketKey original) =
      some .currentSignal ↔ InWindow original now := role_current_iff hkeys horiginal
  exact decide_eq_true_iff.trans hrole

end

/-! ### Differences -/

/-- What is reported of a market. -/
structure MarketPayload where
  marketId : String
  marketSlug : String
  baseAsset : Option String
  durationMinutes : Option ℤ
  classification : MarketWindowClassification
  runtimeSelectionReason : Option String
  deriving DecidableEq

/-- What is reported of a market at a moment. -/
def marketPayload (now : ℤ) (market : PolymarketMarketMetadata) : MarketPayload where
  marketId := market.marketId
  marketSlug := market.marketSlug
  baseAsset := market.baseAsset
  durationMinutes := market.durationMinutes
  classification := classifyMarketWindow market now
  runtimeSelectionReason := market.runtimeSelectionReason

/-- The markets of a universe by what they are good for. -/
structure MarketUniverseSnapshot where
  currentSignalMarkets : List PolymarketMarketMetadata
  nextWarmupMarkets : List PolymarketMarketMetadata
  futureTrackedMarkets : List PolymarketMarketMetadata
  expiredSelectedMarkets : List PolymarketMarketMetadata
  closedRemovedMarkets : List PolymarketMarketMetadata
  deriving DecidableEq

/-- Put a market where it belongs. -/
def MarketUniverseSnapshot.add (now : ℤ) (snapshot : MarketUniverseSnapshot)
    (market : PolymarketMarketMetadata) : MarketUniverseSnapshot :=
  match classifyMarketWindow market now, market.runtimeSelectionReason with
  | .closed, _ =>
      { snapshot with closedRemovedMarkets := snapshot.closedRemovedMarkets ++ [market] }
  | .expired, _ =>
      { snapshot with expiredSelectedMarkets := snapshot.expiredSelectedMarkets ++ [market] }
  | .currentSignal, _ =>
      { snapshot with
        currentSignalMarkets :=
          snapshot.currentSignalMarkets ++ [annotateUniverseRole .current market] }
  | classification, reason =>
      if reason = some "future_tracked" ∨ classification = .futureTracked then
        { snapshot with futureTrackedMarkets := snapshot.futureTrackedMarkets ++ [market] }
      else if classification = .nextWarmup ∨ reason = some "next_warmup" then
        { snapshot with nextWarmupMarkets := snapshot.nextWarmupMarkets ++ [market] }
      else snapshot

/-- Split a universe by what its markets are good for; of markets with one key, the last one
stands for all. -/
def buildMarketUniverseSnapshot (markets : List PolymarketMarketMetadata) (now : ℤ) :
    MarketUniverseSnapshot :=
  let selectedByKey : Dict MarketKey PolymarketMarketMetadata :=
    .ofList (markets.map fun market => (marketKey market, market))
  ((annotateRuntimeMarketRoles markets now 1).map fun annotated =>
    (selectedByKey.get? (marketKey annotated)).getD annotated).foldl
    (MarketUniverseSnapshot.add now) ⟨[], [], [], [], []⟩

/-- What a refresh changed. -/
structure MarketUniverseDiff where
  addedMarkets : List MarketPayload
  removedMarkets : List MarketPayload
  expiredMarkets : List MarketPayload
  closedMarkets : List MarketPayload
  currentSignalMarkets : List MarketPayload
  nextWarmupMarkets : List MarketPayload
  futureTrackedMarkets : List MarketPayload
  newTokenIds : List String
  removedTokenIds : List String
  forced : Bool
  error : Option String
  deriving DecidableEq

/-- The report of a refresh that changed nothing. -/
def MarketUniverseDiff.unchanged (forced : Bool) (error : Option String) :
    MarketUniverseDiff where
  addedMarkets := []
  removedMarkets := []
  expiredMarkets := []
  closedMarkets := []
  currentSignalMarkets := []
  nextWarmupMarkets := []
  futureTrackedMarkets := []
  newTokenIds := []
  removedTokenIds := []
  forced := forced
  error := error

/-- The order of keys. -/
def marketKeyLe (a b : MarketKey) : Bool := a.1 < b.1 || a.1 = b.1 && a.2 ≤ b.2

/-- The markets of some whose keys others do not have, by key. -/
def marketsNotIn (others markets : List PolymarketMarketMetadata) :
    List PolymarketMarketMetadata :=
  let byKey : Dict MarketKey PolymarketMarketMetadata :=
    .ofList (markets.map fun market => (marketKey market, market))
  ((byKey.filterKeys fun key => key ∉ others.map marketKey).entries.insertionSort
    fun a b => marketKeyLe a.1 b.1).map Prod.snd

/-- What changed between two universes. -/
def buildMarketUniverseDiff (previous current : List PolymarketMarketMetadata) (now : ℤ)
    (forced : Bool) (error : Option String) : MarketUniverseDiff :=
  let removedMarkets := marketsNotIn current previous
  let removedAs (classification : MarketWindowClassification) : List MarketPayload :=
    (removedMarkets.filter fun market => classifyMarketWindow market now = classification).map
      (marketPayload now)
  let snapshot := buildMarketUniverseSnapshot current now
  let previousTokens := flattenTokenIds previous
  let currentTokens := flattenTokenIds current
  { addedMarkets := (marketsNotIn previous current).map (marketPayload now)
    removedMarkets := removedMarkets.map (marketPayload now)
    expiredMarkets := removedAs .expired
    closedMarkets := removedAs .closed
    currentSignalMarkets := snapshot.currentSignalMarkets.map (marketPayload now)
    nextWarmupMarkets := snapshot.nextWarmupMarkets.map (marketPayload now)
    futureTrackedMarkets := snapshot.futureTrackedMarkets.map (marketPayload now)
    newTokenIds := sortedSet (currentTokens.filter fun token => token ∉ previousTokens)
    removedTokenIds := sortedSet (previousTokens.filter fun token => token ∉ currentTokens)
    forced := forced
    error := error }

/-! ### The manager -/

/-- The counts of a discovery attempt. -/
structure DiscoveryAttempt where
  failureReason : Option String
  diagnostics : List String
  directFoundCount : ℤ
  directRuntimeCount : ℤ
  closedCount : ℤ
  cacheRejected : Bool
  fallbackUsed : Bool
  activeEventsRuntimeCount : ℤ
  runtimeTradableCount : ℤ
  deriving DecidableEq

/-- What a discovery comes to. -/
inductive DiscoveryOutcome
  /-- The robust discovery found markets. -/
  | rolling (markets : List PolymarketMarketMetadata) (attempt : DiscoveryAttempt)
  /-- The plain discovery found markets. -/
  | legacy (markets : List PolymarketMarketMetadata)
  /-- An exception that a refresh catches, with its text. -/
  | failed (error : String)
  /-- An exception that a refresh does not catch. -/
  | crashed

/-- The markets a discovery found. -/
def DiscoveryOutcome.markets : DiscoveryOutcome → List PolymarketMarketMetadata
  | rolling markets _ => markets
  | legacy markets => markets
  | failed _ | crashed => []

/-- The manager of the market universe. -/
structure RuntimeMarketUniverseManager where
  refreshIntervalMs : ℤ
  lookaheadWindows : ℕ
  marketRefreshCount : ℕ
  forcedMarketRefreshCount : ℕ
  marketRefreshErrorCount : ℕ
  discoveryFailureReason : Option String
  lastSuccessfulDiscoveryTs : Option ℤ
  lastSuccessfulCurrentSignalSlugs : List String
  lastDiscoveryTs : Option ℤ
  nextDiscoveryTs : Option ℤ
  lastDiff : MarketUniverseDiff
  markets : List PolymarketMarketMetadata
  deriving DecidableEq

/-- The slugs of the markets that are in their window. -/
def currentSignalSlugs (markets : List PolymarketMarketMetadata) (now : ℤ) : List String :=
  (markets.filter fun market => isRuntimeTradableMarket market now &&
    classifyMarketWindow market now = .currentSignal).map PolymarketMarketMetadata.marketSlug

/-- The counts of a plain discovery. -/
def legacyDiscoveryAttempt (selected : List PolymarketMarketMetadata) : DiscoveryAttempt where
  failureReason := if selected = [] then some "no_runtime_tradable_markets" else none
  diagnostics := []
  directFoundCount := 0
  directRuntimeCount := 0
  closedCount := 0
  cacheRejected := false
  fallbackUsed := false
  activeEventsRuntimeCount := 0
  runtimeTradableCount := selected.length

/-- Why an attempt found nothing for run time. -/
def deriveDiscoveryFailureReasons (attempt : DiscoveryAttempt) : List String :=
  let reasons : List String :=
    (if attempt.failureReason = some "direct_slug_found_but_all_closed" then
      ["direct_slug_all_closed"] else []) ++
    (if "direct_slug_found_but_all_closed" ∈ attempt.diagnostics then
      ["direct_slug_all_closed"] else []) ++
    (if attempt.directFoundCount ≠ 0 ∧ attempt.directRuntimeCount = 0 ∧
        attempt.closedCount ≥ attempt.directFoundCount then
      ["direct_slug_all_closed"] else []) ++
    (if attempt.cacheRejected then ["cache_rejected_for_runtime"] else []) ++
    (if attempt.fallbackUsed ∧ attempt.activeEventsRuntimeCount = 0 then
      ["active_events_no_runtime_markets"] else []) ++
    (if attempt.runtimeTradableCount = 0 then
      ["no_runtime_markets_after_full_discovery"] else [])
  sortedSet
    (if reasons = [] then (attempt.failureReason.filter fun reason => reason ≠ "").toList
    else reasons)

/-- The first reason why an attempt found nothing. -/
def deriveDiscoveryFailureReason (attempt : DiscoveryAttempt) : String :=
  let reasons := deriveDiscoveryFailureReasons attempt
  match reasons with
  | [] => orText attempt.failureReason "no_runtime_markets_after_full_discovery"
  | first :: _ =>
      (["direct_slug_all_closed", "active_events_no_runtime_markets",
        "cache_rejected_for_runtime", "no_runtime_markets_after_full_discovery"].find?
        fun reason => reason ∈ reasons).getD first

namespace RuntimeMarketUniverseManager

/-- A manager of some markets, as of a moment. -/
def init (markets : List PolymarketMarketMetadata) (refreshIntervalMs lookaheadWindows : ℤ)
    (now : ℤ) : RuntimeMarketUniverseManager :=
  let lookahead := (max 1 lookaheadWindows).toNat
  let selected := selectRuntimeMarketUniverse markets now lookahead
  { refreshIntervalMs := max 1 refreshIntervalMs
    lookaheadWindows := lookahead
    marketRefreshCount := 0
    forcedMarketRefreshCount := 0
    marketRefreshErrorCount := 0
    discoveryFailureReason := none
    lastSuccessfulDiscoveryTs := if selected = [] then none else some now
    lastSuccessfulCurrentSignalSlugs :=
      if selected = [] then [] else currentSignalSlugs selected now
    lastDiscoveryTs := none
    nextDiscoveryTs := none
    lastDiff := buildMarketUniverseDiff [] selected now false none
    markets := selected }

/-- Set the time of the next discovery. -/
def scheduleNext (s : RuntimeMarketUniverseManager) (now : ℤ) : RuntimeMarketUniverseManager :=
  { s with nextDiscoveryTs := some (now + max 1 (s.refreshIntervalMs / 1000)) }

/-- Keep the markets, marked anew, after a discovery that came to nothing. -/
def preserve (s : RuntimeMarketUniverseManager) (now : ℤ) (failureReason : String)
    (diff : List PolymarketMarketMetadata → MarketUniverseDiff) :
    RuntimeMarketUniverseManager × MarketUniverseDiff :=
  let preserved := annotateRuntimeMarketRoles s.markets now s.lookaheadWindows
  ({ s with
      marketRefreshErrorCount := s.marketRefreshErrorCount + 1
      discoveryFailureReason := some failureReason
      markets := preserved
      lastDiff := diff preserved
      lastDiscoveryTs := some now }.scheduleNext now, diff preserved)

/-- Take over a selection. -/
def adopt (s : RuntimeMarketUniverseManager) (selected : List PolymarketMarketMetadata)
    (now : ℤ) (forced : Bool) : RuntimeMarketUniverseManager × MarketUniverseDiff :=
  let slugs := currentSignalSlugs selected now
  let diff := buildMarketUniverseDiff s.markets selected now forced none
  let s := { s with
    marketRefreshCount := s.marketRefreshCount + 1
    markets := selected
    lastDiscoveryTs := some now
    lastDiff := diff }
  let s :=
    if slugs ≠ [] then
      { s with
        discoveryFailureReason := none
        lastSuccessfulDiscoveryTs := some now
        lastSuccessfulCurrentSignalSlugs := slugs }
    else
      { s with discoveryFailureReason := some "no_current_signal_markets_after_full_discovery" }
  (s.scheduleNext now, diff)

/-- The error of a refresh that keeps the markets. -/
def preservingError (error : String) : String :=
  "market_discovery_failed_preserving_previous_universe " ++ error

/-- Select among the markets a discovery found. -/
def settle (s : RuntimeMarketUniverseManager) (discovered : List PolymarketMarketMetadata)
    (attemptOf : List PolymarketMarketMetadata → DiscoveryAttempt) (now : ℤ) (forced : Bool) :
    RuntimeMarketUniverseManager × MarketUniverseDiff :=
  let selected := selectRuntimeMarketUniverse discovered now s.lookaheadWindows
  if selected = [] then
    let reason := deriveDiscoveryFailureReason (attemptOf selected)
    s.preserve now reason fun preserved =>
      buildMarketUniverseDiff s.markets preserved now forced (some (preservingError reason))
  else s.adopt selected now forced

/-- Count a refresh that is forced. -/
def countForced (s : RuntimeMarketUniverseManager) (forced : Bool) :
    RuntimeMarketUniverseManager :=
  if forced then { s with forcedMarketRefreshCount := s.forcedMarketRefreshCount + 1 } else s

/-- Refresh the universe. There is no report when the discovery crashed. -/
def refresh (s : RuntimeMarketUniverseManager) (outcome : DiscoveryOutcome) (now : ℤ)
    (forced : Bool) : RuntimeMarketUniverseManager × Option MarketUniverseDiff :=
  let s := s.countForced forced
  match outcome with
  | .crashed => (s, none)
  | .failed error =>
      (s.preserve now "market_discovery_exception" fun _ =>
        .unchanged forced (some (preservingError error))).map id some
  | .rolling markets attempt => (s.settle markets (fun _ => attempt) now forced).map id some
  | .legacy markets => (s.settle markets legacyDiscoveryAttempt now forced).map id some

end RuntimeMarketUniverseManager

/-- A refresh. -/
structure UniverseRefresh where
  outcome : DiscoveryOutcome
  now : ℤ
  forced : Bool

/-- The manager as a machine. -/
def universeMachine :
    Machine RuntimeMarketUniverseManager UniverseRefresh (Option MarketUniverseDiff) where
  step s call := s.refresh call.outcome call.now call.forced

/-! ### Runs -/

/-- What a refresh selects. -/
def UniverseRefresh.selection (call : UniverseRefresh) (lookaheadWindows : ℕ) :
    List PolymarketMarketMetadata :=
  selectRuntimeMarketUniverse call.outcome.markets call.now lookaheadWindows

/-- The last selection of a run that selected something; the first one is given. -/
def lastSelection (lookaheadWindows : ℕ) (first : List PolymarketMarketMetadata)
    (calls : List UniverseRefresh) : List PolymarketMarketMetadata :=
  calls.foldl (fun last call =>
    if call.selection lookaheadWindows = [] then last else call.selection lookaheadWindows) first

namespace RuntimeMarketUniverseManager

/-- **What a refresh does**, by what its discovery comes to. -/
inductive Refreshed (s : RuntimeMarketUniverseManager) (call : UniverseRefresh)
    (r : RuntimeMarketUniverseManager × Option MarketUniverseDiff) : Prop
  /-- The discovery crashed, and nothing is selected. -/
  | crashed (result : r.2 = none) (markets : r.1.markets = s.markets)
      (empty : call.selection s.lookaheadWindows = [])
  /-- Nothing is selected, and the markets are marked anew. -/
  | kept (result : r.2.isSome)
      (markets : r.1.markets =
        annotateRuntimeMarketRoles s.markets call.now s.lookaheadWindows)
      (empty : call.selection s.lookaheadWindows = [])
  /-- A selection replaces the markets. -/
  | adopted (result : r.2.isSome) (markets : r.1.markets = call.selection s.lookaheadWindows)
      (some : call.selection s.lookaheadWindows ≠ [])

theorem countForced_same (s : RuntimeMarketUniverseManager) (forced : Bool) :
    (s.countForced forced).markets = s.markets ∧
      (s.countForced forced).lookaheadWindows = s.lookaheadWindows := by
  cases forced <;> exact ⟨rfl, rfl⟩

theorem adopt_same (s : RuntimeMarketUniverseManager) (selected : List PolymarketMarketMetadata)
    (now : ℤ) (forced : Bool) :
    (s.adopt selected now forced).1.markets = selected ∧
      (s.adopt selected now forced).1.lookaheadWindows = s.lookaheadWindows := by
  rw [adopt]
  dsimp only
  split <;> exact ⟨rfl, rfl⟩

/-- Settling keeps the markets marked anew, or takes over a selection. -/
theorem settle_same (s : RuntimeMarketUniverseManager)
    (discovered : List PolymarketMarketMetadata)
    (attemptOf : List PolymarketMarketMetadata → DiscoveryAttempt) (now : ℤ) (forced : Bool) :
    (s.settle discovered attemptOf now forced).1.markets =
        (if selectRuntimeMarketUniverse discovered now s.lookaheadWindows = [] then
          annotateRuntimeMarketRoles s.markets now s.lookaheadWindows
        else selectRuntimeMarketUniverse discovered now s.lookaheadWindows) ∧
      (s.settle discovered attemptOf now forced).1.lookaheadWindows = s.lookaheadWindows := by
  rw [settle]
  dsimp only
  by_cases hempty : selectRuntimeMarketUniverse discovered now s.lookaheadWindows = []
  · rw [if_pos hempty, if_pos hempty]
    exact ⟨rfl, rfl⟩
  · rw [if_neg hempty, if_neg hempty]
    exact adopt_same ..

/-- A refresh that settles markets keeps the ones held or takes over what it selects. -/
theorem settle_refreshed (s : RuntimeMarketUniverseManager) (call : UniverseRefresh)
    (attemptOf : List PolymarketMarketMetadata → DiscoveryAttempt) :
    Refreshed s call (((s.countForced call.forced).settle call.outcome.markets attemptOf call.now
      call.forced).map id some) := by
  obtain ⟨hmarkets, hlookahead⟩ := s.countForced_same call.forced
  obtain ⟨hsettled, -⟩ := (s.countForced call.forced).settle_same call.outcome.markets attemptOf
    call.now call.forced
  rw [hmarkets, hlookahead] at hsettled
  generalize (s.countForced call.forced).settle call.outcome.markets attemptOf call.now
    call.forced = r at hsettled ⊢
  by_cases hempty : call.selection s.lookaheadWindows = []
  · exact .kept rfl (hsettled.trans (if_pos hempty)) hempty
  · exact .adopted rfl (hsettled.trans (if_neg hempty)) hempty

/-- A refresh whose discovery returns settles what it found. -/
theorem step_settles (s : RuntimeMarketUniverseManager) (call : UniverseRefresh) :
    (∃ attemptOf, universeMachine.step s call =
      ((s.countForced call.forced).settle call.outcome.markets attemptOf call.now
        call.forced).map id some) ∨ call.outcome = .crashed ∨
      ∃ error, call.outcome = .failed error := by
  obtain ⟨outcome, now, forced⟩ := call
  cases outcome with
  | crashed => exact .inr (.inl rfl)
  | failed error => exact .inr (.inr ⟨error, rfl⟩)
  | rolling markets attempt =>
      refine .inl ⟨fun _ => attempt, ?_⟩
      simp only [universeMachine, refresh, DiscoveryOutcome.markets]
  | legacy markets =>
      refine .inl ⟨legacyDiscoveryAttempt, ?_⟩
      simp only [universeMachine, refresh, DiscoveryOutcome.markets]

/-- Every refresh does one of the three things. -/
theorem refresh_refreshed (s : RuntimeMarketUniverseManager) (call : UniverseRefresh) :
    Refreshed s call (universeMachine.step s call) := by
  obtain ⟨hmarkets, hlookahead⟩ := s.countForced_same call.forced
  rcases s.step_settles call with ⟨attemptOf, h⟩ | h | ⟨error, h⟩
  · rw [h]
    exact s.settle_refreshed call attemptOf
  · obtain ⟨outcome, now, forced⟩ := call
    obtain rfl : outcome = .crashed := h
    exact .crashed rfl hmarkets rfl
  · obtain ⟨outcome, now, forced⟩ := call
    obtain rfl : outcome = .failed error := h
    refine .kept rfl ?_ rfl
    rw [← hmarkets, ← hlookahead]
    rfl

/-- A refresh keeps the lookahead. -/
theorem lookaheadWindows_refresh (s : RuntimeMarketUniverseManager) (call : UniverseRefresh) :
    (universeMachine.next s call).lookaheadWindows = s.lookaheadWindows := by
  obtain ⟨-, hlookahead⟩ := s.countForced_same call.forced
  rcases s.step_settles call with ⟨attemptOf, h⟩ | h | ⟨error, h⟩
  · rw [Machine.next, h]
    exact ((s.countForced call.forced).settle_same _ _ _ _).2.trans hlookahead
  · obtain ⟨outcome, now, forced⟩ := call
    obtain rfl : outcome = .crashed := h
    exact hlookahead
  · obtain ⟨outcome, now, forced⟩ := call
    obtain rfl : outcome = .failed error := h
    exact hlookahead

/-- The markets held are those of a selection, with distinct keys. -/
structure HoldsSelection (lookahead : ℕ) (last : List PolymarketMarketMetadata)
    (s : RuntimeMarketUniverseManager) : Prop where
  lookahead : s.lookaheadWindows = lookahead
  keys : s.markets.map marketKey = last.map marketKey
  distinct : (s.markets.map marketKey).Nodup

/-- The markets that a refresh finds have distinct keys. -/
def FindsDistinct (call : UniverseRefresh) : Prop :=
  (call.outcome.markets.map marketKey).Nodup

instance (call : UniverseRefresh) : Decidable (FindsDistinct call) :=
  inferInstanceAs (Decidable (call.outcome.markets.map marketKey).Nodup)

section

variable {s : RuntimeMarketUniverseManager} {lookahead : ℕ}
  {last : List PolymarketMarketMetadata} {call : UniverseRefresh}

/-- **A refresh that selects nothing holds on to the last selection**, and one that selects
something holds that. -/
theorem HoldsSelection.refresh (h : HoldsSelection lookahead last s) (hcall : FindsDistinct call) :
    HoldsSelection lookahead
      (if call.selection lookahead = [] then last else call.selection lookahead)
      (universeMachine.next s call) := by
  have hlookahead := (s.lookaheadWindows_refresh call).trans h.lookahead
  rw [← h.lookahead] at hlookahead ⊢
  cases s.refresh_refreshed call with
  | crashed result markets empty =>
      rw [if_pos empty]
      have hkeys : (universeMachine.next s call).markets.map marketKey = s.markets.map marketKey :=
        congrArg (List.map marketKey) markets
      exact ⟨hlookahead, hkeys.trans h.keys, hkeys ▸ h.distinct⟩
  | kept result markets empty =>
      rw [if_pos empty]
      have hkeys : (universeMachine.next s call).markets.map marketKey = s.markets.map marketKey :=
        (congrArg (List.map marketKey) markets).trans map_marketKey_annotateRuntimeMarketRoles
      exact ⟨hlookahead, hkeys.trans h.keys, hkeys ▸ h.distinct⟩
  | adopted result markets some =>
      rw [if_neg some]
      have hkeys : (universeMachine.next s call).markets.map marketKey = _ :=
        congrArg (List.map marketKey) markets
      exact ⟨hlookahead, hkeys, hkeys ▸ nodup_selectRuntimeMarketUniverse hcall⟩

/-- **The signals follow the windows** after a refresh that returns. -/
theorem HoldsSelection.signalsFollow (h : HoldsSelection lookahead last s)
    (hdone : (universeMachine.out s call).isSome) :
    SignalsFollow (universeMachine.next s call).markets call.now := by
  cases s.refresh_refreshed call with
  | crashed result markets empty =>
      rw [Machine.out, result] at hdone
      cases hdone
  | kept result markets empty =>
      have hmarkets : (universeMachine.next s call).markets = _ := markets
      rw [hmarkets]
      exact annotateRuntimeMarketRoles_flags h.distinct
  | adopted result markets some =>
      have hmarkets : (universeMachine.next s call).markets = _ := markets
      rw [hmarkets]
      exact selectRuntimeMarketUniverse_flags

/-- A run holds on to the last selection. -/
theorem HoldsSelection.exec (h : HoldsSelection lookahead last s) {calls : List UniverseRefresh}
    (hcalls : ∀ call ∈ calls, FindsDistinct call) :
    HoldsSelection lookahead (lastSelection lookahead last calls)
      (universeMachine.exec s calls) := by
  induction calls generalizing s last with
  | nil => exact h
  | cons call calls ih =>
      exact ih (h.refresh (hcalls call List.mem_cons_self)) fun other hother =>
        hcalls other (List.mem_cons_of_mem call hother)

theorem lastSelection_ne_nil {first : List PolymarketMarketMetadata} (h : first ≠ [])
    (calls : List UniverseRefresh) : lastSelection lookahead first calls ≠ [] := by
  induction calls generalizing first with
  | nil => exact h
  | cons call calls ih =>
      rw [lastSelection, List.foldl_cons]
      refine ih ?_
      split
      · exact h
      · assumption

/-- A manager starts with a selection. -/
theorem holdsSelection_init (markets : List PolymarketMarketMetadata)
    (refreshIntervalMs lookaheadWindows now : ℤ) (h : (markets.map marketKey).Nodup) :
    HoldsSelection (max 1 lookaheadWindows).toNat
      (selectRuntimeMarketUniverse markets now (max 1 lookaheadWindows).toNat)
      (init markets refreshIntervalMs lookaheadWindows now) :=
  ⟨rfl, rfl, nodup_selectRuntimeMarketUniverse h⟩

end

/-- A run never lost the universe: what it holds is the last selection that selected
something, it holds markets once it has held some, and after each refresh that returned the
signals were those of the windows. -/
structure UniverseKept (lookahead : ℕ) (s : RuntimeMarketUniverseManager)
    (calls : List UniverseRefresh) : Prop where
  keys : (universeMachine.exec s calls).markets.map marketKey =
    (lastSelection lookahead s.markets calls).map marketKey
  stays : ∀ before after, calls = before ++ after → (universeMachine.exec s before).markets ≠ [] →
    (universeMachine.exec s calls).markets ≠ []
  signals : ∀ before call after, calls = before ++ call :: after →
    (universeMachine.out (universeMachine.exec s before) call).isSome →
    SignalsFollow (universeMachine.exec s (before ++ [call])).markets call.now

/-- **The universe is never lost**, whatever the refreshes of a run find. -/
theorem keeps_universe (markets : List PolymarketMarketMetadata)
    (refreshIntervalMs lookaheadWindows now : ℤ) (calls : List UniverseRefresh)
    (hmarkets : (markets.map marketKey).Nodup) (hcalls : ∀ call ∈ calls, FindsDistinct call) :
    UniverseKept (max 1 lookaheadWindows).toNat
      (init markets refreshIntervalMs lookaheadWindows now) calls := by
  have hinit := holdsSelection_init markets refreshIntervalMs lookaheadWindows now hmarkets
  have hearlier {before after : List UniverseRefresh} (h : calls = before ++ after) :
      HoldsSelection _ (lastSelection _ _ before) (universeMachine.exec _ before) :=
    hinit.exec fun call hcall => hcalls call (h ▸ List.mem_append_left after hcall)
  refine ⟨(hinit.exec hcalls).keys, ?_, ?_⟩
  · rintro before after rfl hheld
    have hbefore := (hearlier rfl).keys
    have hlast : lastSelection (max 1 lookaheadWindows).toNat _ before ≠ [] := fun hnone => by
      rw [hnone, List.map_nil, List.map_eq_nil_iff] at hbefore
      exact hheld hbefore
    have hafter := (hinit.exec hcalls).keys
    rw [lastSelection, List.foldl_append] at hafter
    intro hnone
    rw [hnone, List.map_nil, eq_comm, List.map_eq_nil_iff] at hafter
    exact lastSelection_ne_nil hlast after hafter
  · rintro before call after h hdone
    rw [Machine.exec_append]
    exact (hearlier h).signalsFollow hdone

/-- A market that starts at 300 and ends at 600. -/
def fiveMinuteMarket : PolymarketMarketMetadata where
  marketId := "m1"
  marketSlug := "btc-updown-5m-300"
  question := "Bitcoin Up or Down"
  endTime := ⟨"1970-01-01T00:10:00Z", some 600⟩
  tickSize := 1 / 100
  minOrderSize := 5
  startTime := some ⟨"1970-01-01T00:05:00Z", some 300⟩
  eventStartTime := none
  active := some true
  closed := some false
  acceptingOrders := some true
  enableOrderBook := some true
  classification := none
  selectedForRuntime := false
  signalEnabled := false
  runtimeSelectionReason := none
  upTokenId := some "u1"
  downTokenId := some "d1"
  yesTokenId := none
  noTokenId := none
  tokenOutcomes := .empty
  baseAsset := some "BTC"
  durationMinutes := some 5

/-- A market is selected before its window; a failed discovery keeps it into the window, and a
discovery of a market that is over does so past its end. -/
theorem keeps_universe_runsDry :
    UniverseKept 1 (init [] 60000 1 100)
        [⟨.legacy [fiveMinuteMarket], 200, false⟩, ⟨.failed "TimeoutError: ", 400, true⟩,
          ⟨.legacy [fiveMinuteMarket], 700, false⟩] ∧
      (universeMachine.exec (init [] 60000 1 100)
        [⟨.legacy [fiveMinuteMarket], 200, false⟩, ⟨.failed "TimeoutError: ", 400, true⟩]).markets.map
          PolymarketMarketMetadata.signalEnabled = [true] :=
  ⟨keeps_universe [] 60000 1 100 _ (by decide) (by decide), by decide⟩

end RuntimeMarketUniverseManager

end SomethingTrade
