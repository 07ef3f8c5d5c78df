import Mathlib.Data.String.Basic
import SomethingTrade.MarketUniverse
import SomethingTrade.StableSort

/-!
# The Two Selectors of Markets

Markets are selected at run time by two functions. Both take from each asset and duration the
markets that are in their window, and the first ones that start later. One sorts these by the
text of their times and their ids, the other one by the moment they start, in the order listed
when that is the same. A text can name an earlier moment and still come later, so the functions
can select different markets, or give another one the role of the next.

## Main results

* `hasRole_universe_iff`, `hasRole_runtime_iff`: what each selects.
* `selectorsAgree_iff`: when the two agree.
-/

namespace SomethingTrade

/-- Select the markets that are wanted at run time, with the roles they have. -/
def selectRuntimeMarkets (markets : List PolymarketMarketMetadata) (now : ℤ)
    (lookaheadWindows : ℕ) : List PolymarketMarketMetadata :=
  let selectedByKey : Dict MarketKey PolymarketMarketMetadata :=
    .ofList ((annotateRuntimeMarketRoles markets now lookaheadWindows).map fun market =>
      (marketKey market, market))
  (selectRuntimeMarketKeyRoleOrder markets now lookaheadWindows).filterMap fun e =>
    selectedByKey.get? e.1

/-- Some of the selected markets has a key and a role. -/
def HasRole (selected : List PolymarketMarketMetadata) (key : MarketKey)
    (role : Option String) : Prop :=
  ∃ market ∈ selected, marketKey market = key ∧ market.runtimeSelectionReason = role

/-- The two selectors select the same markets, with the same roles. -/
def SelectorsAgree (markets : List PolymarketMarketMetadata) (now : ℤ) (lookahead : ℕ) : Prop :=
  ∀ key role, HasRole (selectRuntimeMarketUniverse markets now lookahead) key role ↔
    HasRole (selectRuntimeMarkets markets now lookahead) key role

/-- The tradable markets of an asset and duration that start later. -/
def laterMarkets (markets : List PolymarketMarketMetadata) (now : ℤ)
    (group : Option String × Option ℤ) : List PolymarketMarketMetadata :=
  markets.filter fun market => marketGroup market = group &&
    (isRuntimeTradableMarket market now && decide (now < marketStartSortKey market))

/-- What one selector sorts by: the text of a time, and the id. -/
def universeSortKey (market : PolymarketMarketMetadata) : String ×ₗ String :=
  toLex (marketSortKey market)

/-- By start and by text, the same market is first and the same ones are among the first. -/
def SameFirst (markets : List PolymarketMarketMetadata) (now : ℤ) (lookahead : ℕ) : Prop :=
  ∀ group, ∀ n ∈ [1, lookahead], ∀ a ∈ laterMarkets markets now group,
    ∀ b ∈ laterMarkets markets now group,
    rankOf marketStartSortKey (laterMarkets markets now group) a < n →
    n ≤ rankOf marketStartSortKey (laterMarkets markets now group) b →
    Precedes universeSortKey (laterMarkets markets now group) a b

/-! ### Roles -/

section

variable {markets group : List PolymarketMarketMetadata} {now : ℤ} {lookahead : ℕ}

/-- The role of a market, where the later ones of its group are sorted. -/
def RoleAmong (sorted : List PolymarketMarketMetadata) (now : ℤ) (lookahead : ℕ)
    (market : PolymarketMarketMetadata) (role : MarketWindowClassification) : Prop :=
  (role = .currentSignal ∧ marketStartSortKey market ≤ now) ∨
    (role = .nextWarmup ∧ market ∈ sorted.take 1) ∨
    (role = .futureTracked ∧ market ∈ sorted.take lookahead ∧ market ∉ sorted.take 1)

/-- Two relations that say the same sort alike. -/
theorem insertionSort_congr {α : Type} {r r' : α → α → Prop} [DecidableRel r] [DecidableRel r']
    (h : ∀ a b, r a b ↔ r' a b) (l : List α) : l.insertionSort r = l.insertionSort r' := by
  obtain rfl : r = r' := funext fun a => funext fun b => propext (h a b)
  congr!

theorem mem_take_one {α : Type} {l : List α} {a : α} : a ∈ l.take 1 ↔ l[0]? = some a := by
  cases l <;> simp [eq_comm]

/-- The first elements, each with what its place gives it. -/
theorem exists_place_iff {α β : Type} {sorted : List α} (hnodup : sorted.Nodup) {n : ℕ}
    (hn : 1 ≤ n) {a : α} {b first later : β} :
    (∃ i, (sorted.take n)[i]? = some a ∧ b = if i = 0 then first else later) ↔
      (b = first ∧ a ∈ sorted.take 1) ∨
        (b = later ∧ a ∈ sorted.take n ∧ a ∉ sorted.take 1) := by
  have hzero : (sorted.take n)[0]? = sorted[0]? := List.getElem?_take_of_lt hn
  constructor
  · rintro ⟨i, hi, hb⟩
    by_cases hi0 : i = 0
    · subst hi0
      exact .inl ⟨by simpa using hb, mem_take_one.mpr (hzero ▸ hi)⟩
    · refine .inr ⟨by simpa [hi0] using hb, List.mem_of_getElem? hi, fun hone => hi0 ?_⟩
      have htake : (sorted.take n).Nodup := hnodup.sublist (List.take_sublist _ _)
      have hlt := (List.getElem?_eq_some_iff.mp hi).1
      exact (List.getElem?_inj hlt htake).mp (hi.trans (hzero.trans (mem_take_one.mp hone)).symm)
  · rintro (⟨hb, ha⟩ | ⟨hb, ha, hnot⟩)
    · exact ⟨0, hzero.trans (mem_take_one.mp ha), hb⟩
    · obtain ⟨i, hi⟩ := List.getElem?_of_mem ha
      refine ⟨i, hi, ?_⟩
      have hne : i ≠ 0 := by
        rintro rfl
        exact hnot (mem_take_one.mpr (hzero ▸ hi))
      rw [if_neg hne, hb]

/-- The text of a role is the reason that is written into a market. -/
theorem reason_annotateUniverseRole (index : ℕ) (market : PolymarketMarketMetadata) :
    (annotateUniverseRole (futureRole index) market).runtimeSelectionReason =
      some (if index = 0 then MarketWindowClassification.nextWarmup else .futureTracked).text := by
  cases index <;> rfl

/-- What one selector takes from a group. -/
theorem hasRole_selectFromGroup (hnodup : group.Nodup) (hlookahead : 1 ≤ lookahead)
    {key : MarketKey} {reason : Option String} :
    HasRole (selectFromGroup now lookahead group) key reason ↔
      ∃ market ∈ group, isRuntimeTradableMarket market now = true ∧ marketKey market = key ∧
        ∃ role : MarketWindowClassification, reason = some role.text ∧
          RoleAmong (futureMarkets group now) now lookahead market role := by
  have hsorted : (futureMarkets group now).Nodup :=
    (List.perm_insertionSort _ _).nodup_iff.mpr (hnodup.sublist List.filter_sublist)
  constructor
  · rintro ⟨selected, hmem, rfl, rfl⟩
    rw [selectFromGroup, List.mem_append] at hmem
    rcases hmem with hmem | hmem
    · obtain ⟨market, hmarket, rfl⟩ := List.mem_map.mp hmem
      obtain ⟨hgroup, htradable, hstart⟩ := mem_currentMarkets.mp hmarket
      exact ⟨market, hgroup, htradable, rfl, .currentSignal, rfl, .inl ⟨rfl, hstart⟩⟩
    · obtain ⟨index, hindex, rfl⟩ := List.mem_mapIdx.mp hmem
      have hat := List.getElem?_eq_getElem hindex
      obtain ⟨hgroup, htradable, -⟩ :=
        mem_futureMarkets.mp (List.mem_of_mem_take (List.mem_of_getElem? hat))
      exact ⟨_, hgroup, htradable, (annotateUniverseRole_same _ _ 0).1.symm, _,
        reason_annotateUniverseRole _ _,
        .inr ((exists_place_iff hsorted hlookahead).mp ⟨index, hat, rfl⟩)⟩
  · rintro ⟨market, hgroup, htradable, rfl, role, rfl, ⟨rfl, hstart⟩ | hrole⟩
    · refine ⟨annotateUniverseRole .current market, List.mem_append_left _ ?_, rfl, rfl⟩
      exact List.mem_map_of_mem (mem_currentMarkets.mpr ⟨hgroup, htradable, hstart⟩)
    · obtain ⟨index, hat, rfl⟩ := (exists_place_iff hsorted hlookahead).mpr hrole
      obtain ⟨hindex, heq⟩ := List.getElem?_eq_some_iff.mp hat
      refine ⟨annotateUniverseRole (futureRole index) market, List.mem_append_right _ ?_,
        (annotateUniverseRole_same _ _ 0).1, reason_annotateUniverseRole _ _⟩
      exact List.mem_mapIdx.mpr ⟨index, hindex, by rw [heq]⟩

/-- The later markets of a group, in the order of one selector. -/
theorem futureMarkets_group (groupKey : Option String × Option ℤ) :
    futureMarkets (markets.filter fun market => marketGroup market = groupKey) now =
      sortBy universeSortKey (laterMarkets markets now groupKey) := by
  have hfilter : (markets.filter fun market => marketGroup market = groupKey).filter
      (fun market => isRuntimeTradableMarket market now &&
        (classifyMarketWindow market now = .nextWarmup ||
          classifyMarketWindow market now = .futureTracked)) =
        laterMarkets markets now groupKey := by
    rw [laterMarkets, List.filter_filter]
    refine List.filter_congr fun market _ => ?_
    rw [Bool.and_comm]
    refine congrArg _ ?_
    by_cases htradable : isRuntimeTradableMarket market now = true
    · rw [htradable, Bool.true_and, Bool.true_and, Bool.eq_iff_iff, Bool.or_eq_true,
        decide_eq_true_eq, decide_eq_true_eq, decide_eq_true_eq]
      exact (classify_of_tradable htradable).2
    · rw [Bool.eq_false_of_not_eq_true htradable, Bool.false_and, Bool.false_and]
  rw [futureMarkets, hfilter, sortBy]
  refine insertionSort_congr (fun a b => ?_) _
  rw [universeSortKey, universeSortKey, Prod.Lex.toLex_le_toLex, textPairLe]

/-- **What one selector selects.** -/
theorem hasRole_universe_iff (hnodup : markets.Nodup) (hlookahead : 1 ≤ lookahead)
    {key : MarketKey} {reason : Option String} :
    HasRole (selectRuntimeMarketUniverse markets now lookahead) key reason ↔
      ∃ market ∈ markets, isRuntimeTradableMarket market now = true ∧ marketKey market = key ∧
        ∃ role : MarketWindowClassification, reason = some role.text ∧
          RoleAmong (sortBy universeSortKey (laterMarkets markets now (marketGroup market))) now
            lookahead market role := by
  have hgroupNodup (groupKey : Option String × Option ℤ) :
      (markets.filter fun market => marketGroup market = groupKey).Nodup :=
    hnodup.sublist List.filter_sublist
  constructor
  · rintro ⟨selected, hmem, hselected⟩
    obtain ⟨⟨groupKey, group⟩, hgroup, hmem⟩ := List.mem_flatMap.mp hmem
    obtain rfl := Dict.mem_groupBy hgroup
    obtain ⟨market, hmarket, htradable, hkey, role, hreason, hrole⟩ :=
      (hasRole_selectFromGroup (hgroupNodup groupKey) hlookahead).mp ⟨selected, hmem, hselected⟩
    obtain ⟨hmarket, hin⟩ := List.mem_filter.mp hmarket
    rw [futureMarkets_group, ← of_decide_eq_true hin] at hrole
    exact ⟨market, hmarket, htradable, hkey, role, hreason, hrole⟩
  · rintro ⟨market, hmarket, htradable, hkey, role, hreason, hrole⟩
    rw [← futureMarkets_group] at hrole
    obtain ⟨selected, hmem, hselected⟩ :=
      (hasRole_selectFromGroup (hgroupNodup (marketGroup market)) hlookahead).mpr
        ⟨market, List.mem_filter.mpr ⟨hmarket, by simp⟩, htradable, hkey, role, hreason, hrole⟩
    exact ⟨selected, List.mem_flatMap.mpr ⟨_, Dict.exists_groupBy hmarket, hmem⟩, hselected⟩

/-- What the other selector takes from a group. -/
theorem mem_rolesInGroup_iff (hnodup : group.Nodup) (hlookahead : 1 ≤ lookahead)
    (htradable : ∀ market ∈ group, isRuntimeTradableMarket market now = true)
    {market : PolymarketMarketMetadata} {role : MarketWindowClassification} :
    (market, role) ∈ rolesInGroup now lookahead group ↔ market ∈ group ∧
      RoleAmong (sortBy marketStartSortKey
        (group.filter fun market => decide (now < marketStartSortKey market))) now lookahead
        market role := by
  have hsort (l : List PolymarketMarketMetadata) :
      (l.insertionSort fun a b =>
        (decide (marketStartSortKey a ≤ marketStartSortKey b) : Bool) = true) =
          sortBy marketStartSortKey l :=
    insertionSort_congr (fun a b => decide_eq_true_iff) l
  have hsorted : (sortBy marketStartSortKey
      (group.filter fun market => decide (now < marketStartSortKey market))).Nodup :=
    (perm_sortBy _ _).nodup_iff.mpr (hnodup.sublist List.filter_sublist)
  rw [rolesInGroup]
  dsimp only
  rw [hsort, hsort, max_eq_right hlookahead, List.mem_append]
  constructor
  · rintro (hmem | hmem)
    · obtain ⟨market', hin, heq⟩ := List.mem_map.mp hmem
      obtain ⟨rfl, rfl⟩ := Prod.mk.inj heq
      obtain ⟨hgroup, hwindow⟩ := List.mem_filter.mp ((perm_sortBy _ _).mem_iff.mp hin)
      exact ⟨hgroup, .inl ⟨rfl, (isCurrentWindow_iff (htradable _ hgroup)).mp hwindow⟩⟩
    · obtain ⟨index, hindex, heq⟩ := List.mem_mapIdx.mp hmem
      obtain ⟨rfl, rfl⟩ := Prod.mk.inj heq
      have hat := List.getElem?_eq_getElem hindex
      have hin := List.mem_of_mem_take (List.mem_of_getElem? hat)
      refine ⟨(List.mem_filter.mp ((perm_sortBy _ _).mem_iff.mp hin)).1, .inr ?_⟩
      exact (exists_place_iff hsorted hlookahead).mp ⟨index, hat, rfl⟩
  · rintro ⟨hgroup, ⟨rfl, hstart⟩ | hrole⟩
    · refine .inl (List.mem_map.mpr ⟨market, ?_, rfl⟩)
      exact (perm_sortBy _ _).mem_iff.mpr (List.mem_filter.mpr
        ⟨hgroup, (isCurrentWindow_iff (htradable _ hgroup)).mpr hstart⟩)
    · obtain ⟨index, hat, rfl⟩ := (exists_place_iff hsorted hlookahead).mpr hrole
      obtain ⟨hindex, heq⟩ := List.getElem?_eq_some_iff.mp hat
      exact .inr (List.mem_mapIdx.mpr ⟨index, hindex, by rw [heq]⟩)

/-- The keys and roles of the other selector. -/
theorem mem_roleOrder_iff (hnodup : markets.Nodup) (hlookahead : 1 ≤ lookahead) {key : MarketKey}
    {role : MarketWindowClassification} :
    (key, role) ∈ selectRuntimeMarketKeyRoleOrder markets now lookahead ↔
      ∃ market ∈ markets, isRuntimeTradableMarket market now = true ∧ marketKey market = key ∧
        RoleAmong (sortBy marketStartSortKey (laterMarkets markets now (marketGroup market))) now
          lookahead market role := by
  have hgroup (groupKey : Option String × Option ℤ) {market : PolymarketMarketMetadata} :
      (market, role) ∈ rolesInGroup now lookahead
          ((markets.filter fun market => isRuntimeTradableMarket market now).filter
            fun market => marketGroup market = groupKey) ↔
        (market ∈ markets ∧ isRuntimeTradableMarket market now = true ∧
            marketGroup market = groupKey) ∧
          RoleAmong (sortBy marketStartSortKey (laterMarkets markets now groupKey)) now lookahead
            market role := by
    have hfilter : ((markets.filter fun market => isRuntimeTradableMarket market now).filter
        fun market => marketGroup market = groupKey).filter
          (fun market => decide (now < marketStartSortKey market)) =
            laterMarkets markets now groupKey := by
      rw [laterMarkets, List.filter_filter, List.filter_filter]
      refine List.filter_congr fun market _ => ?_
      rw [Bool.eq_iff_iff]
      simp only [Bool.and_eq_true]
      tauto
    rw [mem_rolesInGroup_iff ((hnodup.sublist List.filter_sublist).sublist List.filter_sublist)
      hlookahead fun market h =>
        (List.mem_filter.mp (List.mem_filter.mp h).1).2, hfilter]
    simp only [List.mem_filter, decide_eq_true_eq]
    tauto
  constructor
  · intro h
    obtain ⟨⟨market, role'⟩, hmem, heq⟩ := List.mem_map.mp h
    obtain ⟨hkey, rfl⟩ := Prod.mk.inj heq
    obtain ⟨⟨groupKey, group⟩, hentry, hmem⟩ := List.mem_flatMap.mp hmem
    obtain rfl := Dict.mem_groupBy hentry
    obtain ⟨⟨hmarket, htradable, rfl⟩, hrole⟩ := (hgroup groupKey).mp hmem
    exact ⟨market, hmarket, htradable, hkey, hrole⟩
  · rintro ⟨market, hmarket, htradable, hkey, hrole⟩
    have hmem : market ∈ markets.filter fun market => isRuntimeTradableMarket market now :=
      List.mem_filter.mpr ⟨hmarket, htradable⟩
    refine List.mem_map.mpr ⟨(market, role), List.mem_flatMap.mpr
      ⟨_, Dict.exists_groupBy (f := marketGroup) hmem, ?_⟩, by rw [hkey]⟩
    exact (hgroup (marketGroup market)).mpr ⟨⟨hmarket, htradable, rfl⟩, hrole⟩

/-- A market has one role at most. -/
theorem RoleAmong.unique {sorted : List PolymarketMarketMetadata}
    (hlater : ∀ market ∈ sorted, now < marketStartSortKey market)
    {market : PolymarketMarketMetadata} {role role' : MarketWindowClassification}
    (h : RoleAmong sorted now lookahead market role)
    (h' : RoleAmong sorted now lookahead market role') : role = role' := by
  have hstart {n : ℕ} (hmem : market ∈ sorted.take n) : ¬ marketStartSortKey market ≤ now :=
    not_le.mpr (hlater market (List.mem_of_mem_take hmem))
  rcases h with ⟨rfl, hle⟩ | ⟨rfl, hone⟩ | ⟨rfl, hin, hout⟩
  · rcases h' with ⟨rfl, -⟩ | ⟨-, hone'⟩ | ⟨-, hin', -⟩
    · rfl
    · exact absurd hle (hstart hone')
    · exact absurd hle (hstart hin')
  · rcases h' with ⟨-, hle'⟩ | ⟨rfl, -⟩ | ⟨-, -, hout'⟩
    · exact absurd hle' (hstart hone)
    · rfl
    · exact absurd hone hout'
  · rcases h' with ⟨-, hle'⟩ | ⟨-, hone'⟩ | ⟨rfl, -⟩
    · exact absurd hle' (hstart hin)
    · exact absurd hone' hout
    · rfl

theorem lt_start_of_mem_laterMarkets {groupKey : Option String × Option ℤ}
    {market : PolymarketMarketMetadata} (h : market ∈ laterMarkets markets now groupKey) :
    now < marketStartSortKey market := by
  simp only [laterMarkets, List.mem_filter, Bool.and_eq_true, decide_eq_true_eq] at h
  exact h.2.2.2

/-- The role that a key has. -/
theorem get?_keyRoles_iff (hkeys : (markets.map marketKey).Nodup) (hlookahead : 1 ≤ lookahead)
    {key : MarketKey} {role : MarketWindowClassification} :
    (selectRuntimeMarketKeyRoles markets now lookahead).get? key = some role ↔
      (key, role) ∈ selectRuntimeMarketKeyRoleOrder markets now lookahead := by
  refine ⟨Dict.mem_of_get?_ofList, fun h => ?_⟩
  obtain ⟨role', hrole'⟩ := Dict.exists_get?_ofList h
  have hnodup : markets.Nodup := .of_map _ hkeys
  obtain ⟨market, hmarket, -, hkey, hrole⟩ := (mem_roleOrder_iff hnodup hlookahead).mp h
  obtain ⟨market', hmarket', -, hkey', hrole'At⟩ :=
    (mem_roleOrder_iff hnodup hlookahead).mp (Dict.mem_of_get?_ofList hrole')
  obtain rfl := List.inj_on_of_nodup_map hkeys hmarket hmarket' (hkey.trans hkey'.symm)
  have hlater : ∀ other ∈ sortBy marketStartSortKey
      (laterMarkets markets now (marketGroup market)), now < marketStartSortKey other :=
    fun other hother => lt_start_of_mem_laterMarkets ((perm_sortBy _ _).mem_iff.mp hother)
  rw [hrole.unique hlater hrole'At]
  exact hrole'

/-- Marking a market by its role writes the text of the role. -/
theorem runtimeSelectionReasonOf_some (classification role : MarketWindowClassification) :
    runtimeSelectionReasonOf classification (some role)
      (decide (some role = some .currentSignal)) = role.text := by
  cases role <;> rfl

/-- The marked market of a key says its role. -/
theorem marked_of_role (hkeys : (markets.map marketKey).Nodup)
    {market : PolymarketMarketMetadata} (hmarket : market ∈ markets)
    {role : MarketWindowClassification}
    (hrole : (selectRuntimeMarketKeyRoles markets now lookahead).get? (marketKey market) =
      some role) :
    ∃ marked, (Dict.ofList ((annotateRuntimeMarketRoles markets now lookahead).map fun market =>
        (marketKey market, market))).get? (marketKey market) = some marked ∧
      marketKey marked = marketKey market ∧ marked.runtimeSelectionReason = some role.text := by
  obtain ⟨marked, hmem, hkey, hreason⟩ : ∃ marked ∈ annotateRuntimeMarketRoles markets now lookahead,
      marketKey marked = marketKey market ∧ marked.runtimeSelectionReason = some role.text := by
    refine ⟨_, List.mem_map.mpr ⟨market, hmarket, rfl⟩, rfl, ?_⟩
    rw [← runtimeSelectionReasonOf_some (classifyMarketWindow market now) role, ← hrole]
    rfl
  have hpairs : ((annotateRuntimeMarketRoles markets now lookahead).map fun market =>
      (marketKey market, market)).map Prod.fst = markets.map marketKey := by
    rw [List.map_map]
    exact map_marketKey_annotateRuntimeMarketRoles
  refine ⟨marked, Dict.mem_entries_iff.mp ?_, hkey, hreason⟩
  rw [Dict.entries_ofList (hpairs ▸ hkeys), ← hkey]
  exact List.mem_map_of_mem hmem

/-- **What the other selector selects.** -/
theorem hasRole_runtime_iff (hkeys : (markets.map marketKey).Nodup) (hlookahead : 1 ≤ lookahead)
    {key : MarketKey} {reason : Option String} :
    HasRole (selectRuntimeMarkets markets now lookahead) key reason ↔
      ∃ market ∈ markets, isRuntimeTradableMarket market now = true ∧ marketKey market = key ∧
        ∃ role : MarketWindowClassification, reason = some role.text ∧
          RoleAmong (sortBy marketStartSortKey (laterMarkets markets now (marketGroup market))) now
            lookahead market role := by
  have hnodup : markets.Nodup := .of_map _ hkeys
  constructor
  · rintro ⟨selected, hmem, rfl, rfl⟩
    obtain ⟨⟨key, role⟩, horder, hget⟩ := List.mem_filterMap.mp hmem
    obtain ⟨market, hmarket, htradable, rfl, hrole⟩ :=
      (mem_roleOrder_iff hnodup hlookahead).mp horder
    obtain ⟨marked, hmarked, hkey, hreason⟩ :=
      marked_of_role hkeys hmarket ((get?_keyRoles_iff hkeys hlookahead).mpr horder)
    obtain rfl := Option.some.inj (hget.symm.trans hmarked)
    exact ⟨market, hmarket, htradable, hkey.symm, role, hreason, hrole⟩
  · rintro ⟨market, hmarket, htradable, rfl, role, rfl, hrole⟩
    have horder := (mem_roleOrder_iff hnodup hlookahead).mpr
      ⟨market, hmarket, htradable, rfl, hrole⟩
    obtain ⟨marked, hmarked, hkey, hreason⟩ :=
      marked_of_role hkeys hmarket ((get?_keyRoles_iff hkeys hlookahead).mpr horder)
    exact ⟨marked, List.mem_filterMap.mpr ⟨_, horder, hmarked⟩, hkey, hreason⟩

/-! ### When the selectors agree -/

/-- The roles among two orders of the same later markets are the same when the same markets are
first. -/
theorem roleAmong_iff {sorted sorted' : List PolymarketMarketMetadata} (hlookahead : 1 ≤ lookahead)
    (market : PolymarketMarketMetadata) :
    (∀ role, RoleAmong sorted now lookahead market role ↔
        RoleAmong sorted' now lookahead market role) ↔
      ∀ n ∈ [1, lookahead], (market ∈ sorted.take n ↔ market ∈ sorted'.take n) := by
  have hone {l : List PolymarketMarketMetadata} (h : market ∈ l.take 1) :
      market ∈ l.take lookahead :=
    (List.take_prefix_take_left hlookahead).subset h
  constructor
  · intro h
    have hnext := h .nextWarmup
    have hfuture := h .futureTracked
    simp only [RoleAmong, reduceCtorEq, false_and, true_and, false_or, or_false] at hnext hfuture
    have hlook : market ∈ sorted.take lookahead ↔ market ∈ sorted'.take lookahead := by
      by_cases hfirst : market ∈ sorted.take 1
      · exact ⟨fun _ => hone (hnext.mp hfirst), fun _ => hone hfirst⟩
      · have hfirst' := mt hnext.mpr hfirst
        simpa [hfirst, hfirst'] using hfuture
    simpa using ⟨hnext, hlook⟩
  · intro h role
    have hnext := h 1 (by simp)
    have hlook := h lookahead (by simp)
    rw [RoleAmong, RoleAmong, hnext, hlook]

theorem MarketWindowClassification.text_injective :
    Function.Injective MarketWindowClassification.text := by
  intro a b h
  cases a <;> cases b <;> first | rfl | exact absurd h (by decide)

theorem nodup_laterMarkets (hnodup : markets.Nodup) (groupKey : Option String × Option ℤ) :
    (laterMarkets markets now groupKey).Nodup :=
  hnodup.sublist List.filter_sublist

/-- **When the two selectors agree**: exactly when, in every asset and duration, the market that
starts first and the ones that start first up to the lookahead also come first by the text of
their times and their ids. -/
theorem selectorsAgree_iff (hkeys : (markets.map marketKey).Nodup) (hlookahead : 1 ≤ lookahead) :
    SelectorsAgree markets now lookahead ↔ SameFirst markets now lookahead := by
  have hnodup : markets.Nodup := .of_map _ hkeys
  have hsame : SameFirst markets now lookahead ↔ ∀ groupKey, ∀ n ∈ [1, lookahead], ∀ market,
      market ∈ (sortBy marketStartSortKey (laterMarkets markets now groupKey)).take n ↔
        market ∈ (sortBy universeSortKey (laterMarkets markets now groupKey)).take n :=
    forall_congr' fun groupKey => forall_congr' fun n => forall_congr' fun _ =>
      (take_sortBy_agree (nodup_laterMarkets hnodup groupKey) n).symm
  rw [hsame]
  constructor
  · intro hagree groupKey n hn market
    by_cases hlater : market ∈ laterMarkets markets now groupKey
    · have hin := hlater
      simp only [laterMarkets, List.mem_filter, Bool.and_eq_true, decide_eq_true_eq] at hin
      obtain ⟨hmarket, rfl, htradable, -⟩ := hin
      have hroles : ∀ role,
          RoleAmong (sortBy marketStartSortKey (laterMarkets markets now (marketGroup market))) now
              lookahead market role ↔
            RoleAmong (sortBy universeSortKey (laterMarkets markets now (marketGroup market))) now
              lookahead market role := by
        intro role
        constructor
        · intro hrole
          have hhas := (hagree (marketKey market) (some role.text)).mpr
            ((hasRole_runtime_iff hkeys hlookahead).mpr
              ⟨market, hmarket, htradable, rfl, role, rfl, hrole⟩)
          obtain ⟨other, hother, -, hkey, role', htext, hrole'⟩ :=
            (hasRole_universe_iff hnodup hlookahead).mp hhas
          obtain rfl := List.inj_on_of_nodup_map hkeys hother hmarket hkey
          obtain rfl := MarketWindowClassification.text_injective (Option.some.inj htext)
          exact hrole'
        · intro hrole
          have hhas := (hagree (marketKey market) (some role.text)).mp
            ((hasRole_universe_iff hnodup hlookahead).mpr
              ⟨market, hmarket, htradable, rfl, role, rfl, hrole⟩)
          obtain ⟨other, hother, -, hkey, role', htext, hrole'⟩ :=
            (hasRole_runtime_iff hkeys hlookahead).mp hhas
          obtain rfl := List.inj_on_of_nodup_map hkeys hother hmarket hkey
          obtain rfl := MarketWindowClassification.text_injective (Option.some.inj htext)
          exact hrole'
      exact (roleAmong_iff hlookahead market).mp hroles n hn
    · have hnot {α : Type} [LinearOrder α] (key : PolymarketMarketMetadata → α) :
          market ∉ (sortBy key (laterMarkets markets now groupKey)).take n :=
        fun hmem => hlater ((perm_sortBy _ _).mem_iff.mp (List.mem_of_mem_take hmem))
      exact iff_of_false (hnot _) (hnot _)
  · intro hfirst key reason
    rw [hasRole_universe_iff hnodup hlookahead, hasRole_runtime_iff hkeys hlookahead]
    refine exists_congr fun market => and_congr_right fun _ => and_congr_right fun _ =>
      and_congr_right fun _ => exists_congr fun role => and_congr_right fun _ => ?_
    exact ((roleAmong_iff hlookahead market).mpr
      (fun n hn => hfirst (marketGroup market) n hn market) role).symm

end

section

open RuntimeMarketUniverseManager (fiveMinuteMarket)

/-- A market that starts earlier than the five minute market, at a time given with an offset. -/
def offsetMarket : PolymarketMarketMetadata :=
  { fiveMinuteMarket with
    marketId := "m2"
    marketSlug := "btc-updown-5m-60"
    startTime := some ⟨"1970-01-01T02:01:00+02:00", some 60⟩
    endTime := ⟨"1970-01-01T00:06:00Z", some 360⟩
    upTokenId := some "u2"
    downTokenId := some "d2" }

instance (selected : List PolymarketMarketMetadata) (key : MarketKey) (role : Option String) :
    Decidable (HasRole selected key role) :=
  inferInstanceAs (Decidable (∃ market ∈ selected,
    marketKey market = key ∧ market.runtimeSelectionReason = role))

/-- By text the market that starts first comes last: one selector selects the other market. -/
theorem selectors_disagree_on_offsets :
    ([fiveMinuteMarket, offsetMarket].map marketKey).Nodup ∧
      HasRole (selectRuntimeMarketUniverse [fiveMinuteMarket, offsetMarket] 0 1)
        (marketKey fiveMinuteMarket) (some "next_warmup") ∧
      HasRole (selectRuntimeMarkets [fiveMinuteMarket, offsetMarket] 0 1)
        (marketKey offsetMarket) (some "next_warmup") ∧
      ¬ SelectorsAgree [fiveMinuteMarket, offsetMarket] 0 1 := by
  have huniverse : HasRole (selectRuntimeMarketUniverse [fiveMinuteMarket, offsetMarket] 0 1)
      (marketKey fiveMinuteMarket) (some "next_warmup") := by
    decide +kernel
  have hruntime : HasRole (selectRuntimeMarkets [fiveMinuteMarket, offsetMarket] 0 1)
      (marketKey offsetMarket) (some "next_warmup") := by
    decide +kernel
  refine ⟨by decide, huniverse, hruntime, fun hagree => ?_⟩
  have hother := (hagree (marketKey offsetMarket) (some "next_warmup")).mpr hruntime
  exact absurd hother (by decide +kernel)

/-- One market is selected alike. -/
theorem selectorsAgree_fiveMinuteMarket :
    ([fiveMinuteMarket].map marketKey).Nodup ∧ (SelectorsAgree [fiveMinuteMarket] 0 1 ↔
      SameFirst [fiveMinuteMarket] 0 1) :=
  ⟨by decide, selectorsAgree_iff (by decide) le_rfl⟩

end

end SomethingTrade
