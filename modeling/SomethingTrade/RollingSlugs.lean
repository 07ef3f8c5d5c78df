import Mathlib.Data.Int.Range
import Mathlib.Data.List.Chain
import Mathlib.Data.List.ProdSigma
import Mathlib.Data.List.Range
import Mathlib.Data.List.TakeWhile
import SomethingTrade.MarketWindows

/-!
# Rolling Slugs

Rolling markets are looked up by their slugs, which name the asset, the horizon and the start of
the window. Around a moment the slugs of the current window, of some windows before it and of some
after it are generated, for each asset and horizon; `rollingSlugParts` reads a slug back.

## Main results

* `rollingSlugParts_updownSlug`: the parts of a generated slug.
* `generateCryptoUpdownSlugs_windows`: which slugs are generated around a moment.
-/

namespace SomethingTrade

/-- The start of the window of some length that holds a moment. -/
def floorToWindow (ts windowSeconds : ℤ) : Except String ℤ :=
  if windowSeconds ≤ 0 then .error "window_seconds must be positive"
  else .ok (ts / windowSeconds * windowSeconds)

/-- The lengths of the windows of each horizon. -/
def rollingHorizonSeconds : Dict String ℤ := .ofList [("5m", 300), ("15m", 900)]

/-- The assets that are looked up. -/
def rollingAssets : List String := ["btc", "eth"]

/-- The horizons that are looked up. -/
def rollingHorizons : List String := ["5m", "15m"]

/-- The slug of a window. -/
def updownSlug (asset horizon : String) (windowStart : ℤ) : String :=
  asset ++ "-updown-" ++ horizon ++ "-" ++ toString windowStart

/-- Append a slug that is not there yet. -/
def addUnseen (slugs : List String) (slug : String) : List String :=
  if slug ∈ slugs then slugs else slugs ++ [slug]

/-- Append the slugs of an asset and a horizon. -/
def addHorizonSlugs (now lookbackWindows lookaheadWindows : ℤ) (asset : String)
    (slugs : List String) (horizon : String) : Except String (List String) :=
  match rollingHorizonSeconds.get? horizon with
  | none => .error ("unsupported rolling horizon: " ++ horizon)
  | some windowSeconds => do
      let currentWindow ← floorToWindow now windowSeconds
      return (Int.range (-lookbackWindows) (lookaheadWindows + 1)).foldl (fun slugs offset =>
        addUnseen slugs (updownSlug asset horizon (currentWindow + offset * windowSeconds))) slugs

/-- The slugs of the windows around a moment. -/
def generateCryptoUpdownSlugs (now : ℤ) (assets horizons : List String)
    (lookbackWindows lookaheadWindows : ℤ) : Except String (List String) :=
  assets.foldlM (fun slugs asset =>
    horizons.foldlM (addHorizonSlugs now lookbackWindows lookaheadWindows (lower asset)) slugs) []

example : generateCryptoUpdownSlugs 1000 rollingAssets rollingHorizons 0 1 =
    .ok ["btc-updown-5m-900", "btc-updown-5m-1200", "btc-updown-15m-900", "btc-updown-15m-1800",
      "eth-updown-5m-900", "eth-updown-5m-1200", "eth-updown-15m-900", "eth-updown-15m-1800"] := by
  decide +kernel

/-! ### Slugs read back -/

/-- Digits are the same in lower case. -/
theorem toLower_of_isDigit {c : Char} (h : c.isDigit = true) : c.toLower = c := by
  simp only [Char.isDigit, Bool.and_eq_true, decide_eq_true_eq] at h
  refine dif_neg fun hupper => ?_
  have hle : c.val.toNat ≤ 57 := h.2
  have hge : 65 ≤ c.val.toNat := hupper.1
  omega

section

variable {asset horizon : String} (hasset : asset ∈ rollingAssets)
  (hhorizon : horizon ∈ rollingHorizons)

include hasset in
theorem stripOneOf_asset (cs : List Char) :
    stripOneOf ["btc", "eth"] (asset.toList ++ cs) = some (asset, cs) := by
  simp only [rollingAssets, List.mem_cons, List.not_mem_nil, or_false] at hasset
  rcases hasset with rfl | rfl <;> rfl

include hhorizon in
theorem stripOneOf_horizon (cs : List Char) :
    stripOneOf ["5m", "15m"] (horizon.toList ++ cs) = some (horizon, cs) := by
  simp only [rollingHorizons, List.mem_cons, List.not_mem_nil, or_false] at hhorizon
  rcases hhorizon with rfl | rfl <;> rfl

include hasset hhorizon

/-- A slug is in lower case. -/
theorem toList_lower_updownSlug (start : ℕ) :
    (lower (updownSlug asset horizon start)).toList =
      asset.toList ++ ("-updown-".toList ++ (horizon.toList ++ ("-".toList ++
        Nat.toDigits 10 start))) := by
  have htext : toString (start : ℤ) = toString start := rfl
  have hdigits : (Nat.toDigits 10 start).map Char.toLower = Nat.toDigits 10 start := by
    refine (List.map_congr_left fun c hc => ?_).trans (List.map_id _)
    exact toLower_of_isDigit (Nat.isDigit_of_mem_toDigits (by decide) (by decide) hc)
  have hassetLower : asset.toList.map Char.toLower = asset.toList := by
    simp only [rollingAssets, List.mem_cons, List.not_mem_nil, or_false] at hasset
    rcases hasset with rfl | rfl <;> rfl
  have hhorizonLower : horizon.toList.map Char.toLower = horizon.toList := by
    simp only [rollingHorizons, List.mem_cons, List.not_mem_nil, or_false] at hhorizon
    rcases hhorizon with rfl | rfl <;> rfl
  simp only [lower, updownSlug, htext, String.toList_ofList, String.toList_append,
    Nat.toString_eq_repr, Nat.toList_repr, List.map_append, List.append_assoc, hdigits, hassetLower,
    hhorizonLower]
  rfl

/-- The digits at the end of a slug are read as the start. -/
theorem rollingSlugAt_slug (start : ℕ) :
    rollingSlugAt (asset.toList ++ ("-updown-".toList ++ (horizon.toList ++ ("-".toList ++
      Nat.toDigits 10 start)))) = some (asset, horizon, start) := by
  have hupdown (cs : List Char) :
      stripOneOf ["-updown-"] ("-updown-".toList ++ cs) = some ("-updown-", cs) := rfl
  have hdash (cs : List Char) : stripOneOf ["-"] ("-".toList ++ cs) = some ("-", cs) := rfl
  have htake : (Nat.toDigits 10 start).takeWhile Char.isDigit = Nat.toDigits 10 start :=
    List.takeWhile_eq_self_iff.mpr fun c hc =>
      Nat.isDigit_of_mem_toDigits (by decide) (by decide) hc
  have hvalue : (Nat.toDigits 10 start).foldl (fun n c => 10 * n + (c.toNat - '0'.toNat)) 0 =
      start := Nat.ofDigitChars_ten_toDigits
  simp only [rollingSlugAt, stripOneOf_asset hasset, stripOneOf_horizon hhorizon, hupdown, hdash,
    Option.bind_eq_bind, Option.bind_some, htake, hvalue, List.drop_length, List.head?_nil,
    Option.any_none, Nat.toDigits_ne_nil]
  rfl

/-- **A slug is read back as its asset, its horizon and the start of its window.** -/
theorem rollingSlugParts_updownSlug (start : ℕ) :
    rollingSlugParts (updownSlug asset horizon start) = some (asset, horizon, start) := by
  have hread := rollingSlugAt_slug hasset hhorizon start
  rw [rollingSlugParts, toList_lower_updownSlug hasset hhorizon]
  generalize asset.toList ++ _ = cs at hread ⊢
  cases cs with
  | nil => cases hread
  | cons c cs => rw [findRollingSlug, if_neg (by simp), hread, Option.orElse_some]

end

/-! ### The windows around a moment -/

/-- The starts of the windows of some length around a moment. -/
def windowStarts (now lookbackWindows lookaheadWindows windowSeconds : ℤ) : List ℤ :=
  (Int.range (-lookbackWindows) (lookaheadWindows + 1)).map fun offset =>
    now / windowSeconds * windowSeconds + offset * windowSeconds

section

variable {now lookbackWindows lookaheadWindows windowSeconds : ℤ}

theorem length_windowStarts (hback : 0 ≤ lookbackWindows) (hahead : 0 ≤ lookaheadWindows) :
    ((windowStarts now lookbackWindows lookaheadWindows windowSeconds).length : ℤ) =
      lookbackWindows + lookaheadWindows + 1 := by
  rw [windowStarts, List.length_map, Int.range, List.length_map, List.length_range]
  omega

/-- Each window starts where the one before it ends. -/
theorem isChain_windowStarts :
    (windowStarts now lookbackWindows lookaheadWindows windowSeconds).IsChain
      fun start next => next = start + windowSeconds := by
  rw [windowStarts, Int.range, List.map_map, List.isChain_map, List.isChain_range]
  intro i _
  simp only [Function.comp_apply]
  push_cast
  ring

/-- The windows are in order. -/
theorem nodup_windowStarts (hpos : 0 < windowSeconds) :
    (windowStarts now lookbackWindows lookaheadWindows windowSeconds).Nodup := by
  rw [windowStarts, Int.range, List.map_map]
  refine List.nodup_range.map fun i j heq => ?_
  simp only [Function.comp_apply, add_right_inj] at heq
  have hmul := mul_right_cancel₀ hpos.ne' heq
  omega

/-- Exactly one of the windows holds the moment: the one of offset zero. -/
theorem existsUnique_window (hpos : 0 < windowSeconds) (hback : 0 ≤ lookbackWindows)
    (hahead : 0 ≤ lookaheadWindows) :
    ∃! start, start ∈ windowStarts now lookbackWindows lookaheadWindows windowSeconds ∧
      start ≤ now ∧ now < start + windowSeconds := by
  have hfloor := Int.ediv_mul_le now hpos.ne'
  have hnext := Int.lt_ediv_add_one_mul_self now hpos
  refine ⟨now / windowSeconds * windowSeconds, ⟨?_, hfloor, by linarith⟩, ?_⟩
  · exact List.mem_map.mpr ⟨0, Int.mem_range_iff.mpr ⟨by omega, by omega⟩, by ring⟩
  · rintro start ⟨hmem, hle, hlt⟩
    obtain ⟨offset, -, rfl⟩ := List.mem_map.mp hmem
    -- the start is a multiple of the length, so the floor is its quotient
    have hdiv : now / windowSeconds = now / windowSeconds + offset := by
      refine Int.ediv_eq_iff_of_pos hpos |>.mpr ⟨?_, ?_⟩ <;> linarith
    have hzero : offset = 0 := by omega
    rw [hzero, zero_mul, add_zero]

/-- No window starts before zero. -/
theorem nonneg_of_mem_windowStarts (hpos : 0 < windowSeconds)
    (hnow : lookbackWindows * windowSeconds ≤ now) {start : ℤ}
    (h : start ∈ windowStarts now lookbackWindows lookaheadWindows windowSeconds) :
    0 ≤ start := by
  obtain ⟨offset, hoffset, rfl⟩ := List.mem_map.mp h
  have hfloor : lookbackWindows ≤ now / windowSeconds := (Int.le_ediv_iff_mul_le hpos).mpr hnow
  rw [← add_mul]
  exact mul_nonneg (by have := (Int.mem_range_iff.mp hoffset).1; omega) hpos.le

end

/-! ### What is generated -/

/-- New slugs are all appended. -/
theorem foldl_addUnseen {slugs new : List String} (h : (slugs ++ new).Nodup) :
    new.foldl addUnseen slugs = slugs ++ new := by
  induction new generalizing slugs with
  | nil => rw [List.foldl_nil, List.append_nil]
  | cons slug new ih =>
      have hslug : slug ∉ slugs := by
        intro hmem
        exact (List.nodup_append.mp h).2.2 slug hmem slug List.mem_cons_self rfl
      rw [List.append_cons] at h
      rw [List.foldl_cons, addUnseen, if_neg hslug, ih h, ← List.append_cons]

theorem addHorizonSlugs_eq {now lookbackWindows lookaheadWindows windowSeconds : ℤ}
    {asset horizon : String} (hget : rollingHorizonSeconds.get? horizon = some windowSeconds)
    (hpos : 0 < windowSeconds) (slugs : List String) :
    addHorizonSlugs now lookbackWindows lookaheadWindows asset slugs horizon =
      .ok (((windowStarts now lookbackWindows lookaheadWindows windowSeconds).map
        (updownSlug asset horizon)).foldl addUnseen slugs) := by
  rw [addHorizonSlugs, hget, windowStarts, List.map_map, List.foldl_map]
  simp only [floorToWindow, if_neg hpos.not_ge]
  rfl

/-- The starts of the windows of a horizon around a moment. -/
def horizonStarts (now lookbackWindows lookaheadWindows : ℤ) (horizon : String) : List ℤ :=
  windowStarts now lookbackWindows lookaheadWindows
    ((rollingHorizonSeconds.get? horizon).getD 0)

/-- The slugs of each asset and horizon around a moment. -/
def rollingSlugs (now lookbackWindows lookaheadWindows : ℤ) : List String :=
  (rollingAssets ×ˢ rollingHorizons).flatMap fun pair =>
    (horizonStarts now lookbackWindows lookaheadWindows pair.2).map (updownSlug pair.1 pair.2)

theorem get?_rollingHorizonSeconds {horizon : String} (h : horizon ∈ rollingHorizons) :
    ∃ seconds, rollingHorizonSeconds.get? horizon = some seconds ∧ 0 < seconds ∧
      seconds ≤ 900 := by
  simp only [rollingHorizons, List.mem_cons, List.not_mem_nil, or_false] at h
  rcases h with rfl | rfl
  · exact ⟨300, by decide, by decide, by decide⟩
  · exact ⟨900, by decide, by decide, by decide⟩

variable {now lookbackWindows lookaheadWindows : ℤ}

theorem generateCryptoUpdownSlugs_eq :
    generateCryptoUpdownSlugs now rollingAssets rollingHorizons lookbackWindows lookaheadWindows =
      .ok ((rollingSlugs now lookbackWindows lookaheadWindows).foldl addUnseen []) := by
  have hfive : rollingHorizonSeconds.get? "5m" = some 300 := by decide
  have hfifteen : rollingHorizonSeconds.get? "15m" = some 900 := by decide
  have hbtc : lower "btc" = "btc" := by decide
  have heth : lower "eth" = "eth" := by decide
  have hpairs : rollingAssets ×ˢ rollingHorizons =
      [("btc", "5m"), ("btc", "15m"), ("eth", "5m"), ("eth", "15m")] := rfl
  simp only [generateCryptoUpdownSlugs, rollingSlugs, horizonStarts, hpairs, List.flatMap_cons,
    List.flatMap_nil, List.foldl_append, hfive, hfifteen, Option.getD_some]
  simp only [rollingAssets, rollingHorizons, List.foldlM_cons, List.foldlM_nil, hbtc, heth,
    addHorizonSlugs_eq hfive (by norm_num), addHorizonSlugs_eq hfifteen (by norm_num)]
  rfl

/-- A horizon has a length, of at most a quarter of an hour. -/
theorem horizonStarts_eq {horizon : String} (h : horizon ∈ rollingHorizons) :
    ∃ seconds, rollingHorizonSeconds.get? horizon = some seconds ∧ 0 < seconds ∧ seconds ≤ 900 ∧
      horizonStarts now lookbackWindows lookaheadWindows horizon =
        windowStarts now lookbackWindows lookaheadWindows seconds := by
  obtain ⟨seconds, hget, hpos, hle⟩ := get?_rollingHorizonSeconds h
  exact ⟨seconds, hget, hpos, hle, by rw [horizonStarts, hget, Option.getD_some]⟩

/-- A slug is read back as where it came from. -/
theorem parts_of_mem {asset horizon : String} (hasset : asset ∈ rollingAssets)
    (hhorizon : horizon ∈ rollingHorizons) (hback : 0 ≤ lookbackWindows)
    (hnow : lookbackWindows * 900 ≤ now) {start : ℤ}
    (h : start ∈ horizonStarts now lookbackWindows lookaheadWindows horizon) :
    ∃ n : ℕ, (n : ℤ) = start ∧
      rollingSlugParts (updownSlug asset horizon start) = some (asset, horizon, n) := by
  obtain ⟨seconds, -, hpos, hle, hstarts⟩ := horizonStarts_eq hhorizon
  rw [hstarts] at h
  have hearly : lookbackWindows * seconds ≤ now :=
    (mul_le_mul_of_nonneg_left hle hback).trans hnow
  obtain ⟨n, rfl⟩ := Int.eq_ofNat_of_zero_le (nonneg_of_mem_windowStarts hpos hearly h)
  exact ⟨n, rfl, rollingSlugParts_updownSlug hasset hhorizon n⟩

/-- No slug is generated twice. -/
theorem nodup_rollingSlugs (hback : 0 ≤ lookbackWindows) (hnow : lookbackWindows * 900 ≤ now) :
    (rollingSlugs now lookbackWindows lookaheadWindows).Nodup := by
  rw [rollingSlugs, List.nodup_flatMap]
  constructor
  · intro pair hpair
    obtain ⟨hasset, hhorizon⟩ := List.mem_product.mp hpair
    obtain ⟨seconds, -, hpos, -, hstarts⟩ := horizonStarts_eq hhorizon
    refine List.Nodup.map_on (fun start hstart start' hstart' heq => ?_)
      (hstarts ▸ nodup_windowStarts hpos)
    obtain ⟨n, rfl, hparts⟩ := parts_of_mem hasset hhorizon hback hnow hstart
    obtain ⟨n', rfl, hparts'⟩ := parts_of_mem hasset hhorizon hback hnow hstart'
    rw [heq, hparts'] at hparts
    cases hparts
    rfl
  · have hpairs : (rollingAssets ×ˢ rollingHorizons).Nodup := by decide
    refine hpairs.pairwise_of_forall_ne fun pair hpair pair' hpair' hne => ?_
    obtain ⟨hasset, hhorizon⟩ := List.mem_product.mp hpair
    obtain ⟨hasset', hhorizon'⟩ := List.mem_product.mp hpair'
    rintro slug hslug hslug'
    -- one slug cannot be read back as two pairs
    obtain ⟨start, hstart, rfl⟩ := List.mem_map.mp hslug
    obtain ⟨start', hstart', heq⟩ := List.mem_map.mp hslug'
    obtain ⟨n, rfl, hparts⟩ := parts_of_mem hasset hhorizon hback hnow hstart
    obtain ⟨n', rfl, hparts'⟩ := parts_of_mem hasset' hhorizon' hback hnow hstart'
    rw [heq, hparts, Option.some.injEq, Prod.mk.injEq, Prod.mk.injEq] at hparts'
    exact hne (Prod.ext hparts'.1 hparts'.2.1)

/-- **The slugs around a moment.** For each asset and each horizon the slugs are those of adjacent
windows, as many as are asked for and all different; exactly one of the windows holds the moment;
and each slug is read back as its asset, its horizon and the start of its window. -/
theorem generateCryptoUpdownSlugs_windows (hback : 0 ≤ lookbackWindows)
    (hahead : 0 ≤ lookaheadWindows) (hnow : lookbackWindows * 900 ≤ now) :
    ∃ slugs, ∃ starts : String → List ℤ,
      generateCryptoUpdownSlugs now rollingAssets rollingHorizons lookbackWindows
          lookaheadWindows = .ok slugs ∧
      slugs = (rollingAssets ×ˢ rollingHorizons).flatMap (fun pair =>
        (starts pair.2).map (updownSlug pair.1 pair.2)) ∧
      slugs.Nodup ∧
      ∀ horizon ∈ rollingHorizons, ∃ seconds,
        rollingHorizonSeconds.get? horizon = some seconds ∧
        ((starts horizon).length : ℤ) = lookbackWindows + lookaheadWindows + 1 ∧
        (starts horizon).IsChain (fun start next => next = start + seconds) ∧
        (∃! start, start ∈ starts horizon ∧ start ≤ now ∧ now < start + seconds) ∧
        ∀ asset ∈ rollingAssets, ∀ start ∈ starts horizon, ∃ n : ℕ, (n : ℤ) = start ∧
          rollingSlugParts (updownSlug asset horizon start) = some (asset, horizon, n) := by
  have hnodup : (rollingSlugs now lookbackWindows lookaheadWindows).Nodup :=
    nodup_rollingSlugs hback hnow
  refine ⟨rollingSlugs now lookbackWindows lookaheadWindows,
    horizonStarts now lookbackWindows lookaheadWindows, ?_, rfl, hnodup, fun horizon hhorizon => ?_⟩
  · rw [generateCryptoUpdownSlugs_eq, foldl_addUnseen (by rwa [List.nil_append]),
      List.nil_append]
  · have hparts : ∀ asset ∈ rollingAssets,
        ∀ start ∈ horizonStarts now lookbackWindows lookaheadWindows horizon, ∃ n : ℕ,
          (n : ℤ) = start ∧
          rollingSlugParts (updownSlug asset horizon start) = some (asset, horizon, n) :=
      fun asset hasset start hstart => parts_of_mem hasset hhorizon hback hnow hstart
    obtain ⟨seconds, hget, hpos, -, hstarts⟩ := horizonStarts_eq hhorizon
    rw [hstarts] at hparts ⊢
    exact ⟨seconds, hget, length_windowStarts hback hahead, isChain_windowStarts,
      existsUnique_window hpos hback hahead, hparts⟩

/-- Around the second 1000, with one window before and one after. -/
theorem generateCryptoUpdownSlugs_windows_thousand :
    ∃ slugs, ∃ starts : String → List ℤ,
      generateCryptoUpdownSlugs 1000 rollingAssets rollingHorizons 1 1 = .ok slugs ∧
      slugs = (rollingAssets ×ˢ rollingHorizons).flatMap (fun pair =>
        (starts pair.2).map (updownSlug pair.1 pair.2)) ∧
      (starts "5m").length = 3 := by
  obtain ⟨slugs, starts, hslugs, heq, -, hall⟩ :=
    generateCryptoUpdownSlugs_windows (by decide : (0 : ℤ) ≤ 1) (by decide : (0 : ℤ) ≤ 1)
      (by decide : (1 : ℤ) * 900 ≤ 1000)
  obtain ⟨seconds, -, hlength, -⟩ := hall "5m" (by decide)
  exact ⟨slugs, starts, hslugs, heq, by exact_mod_cast hlength⟩

end SomethingTrade
