import Mathlib.Order.Bounds.Basic
import SomethingTrade.PolymarketOrderbook

/-!
# What Polymarket Messages Do

The effect of each message on the book of its token, said once. A reported best price is
rejected, agrees with the ladder, or is let pass (`rejects`, `agrees`); `ReportedBest` says
what reported prices leave of a book, and `MessageOutcome` how a message can end.

## Main results

* `applyReportedBest_spec`: the book after reported best prices.
* `applyBook_outcome`, `applyPriceChange_outcome`, `applyBestBidAsk_outcome`: how each
  message ends.
* `bookComplete_iff`: when a quote is complete.
-/

namespace SomethingTrade

open PolymarketLocalOrderBook

/-! ### Verdicts on reported prices -/

namespace PolymarketLocalOrderBook

/-- The ladder has a best price of the side, and the reported price is the same. -/
def agrees (book : TokenBook) (side : BookSide) (reported : Option ℚ) : Bool :=
  match (book.localBest side).1, reported with
  | some localPrice, some price => pricesEqual localPrice price
  | _, _ => false

/-- The validation mode lets a reported price pass that is not the local one. -/
def tolerates (s : PolymarketLocalOrderBook) (book : TokenBook) (localPrice reported : ℚ) :
    Bool :=
  decide (s.bestValidationMode = .diagnostic) ||
    decide (s.bestValidationMode = .tolerant) &&
      s.withinBestTolerance localPrice reported book.metadata.tickSize

/-- A price is reported for the side, and the ladder has no best price there or one that
the validation mode does not let pass. -/
def rejects (s : PolymarketLocalOrderBook) (book : TokenBook) (side : BookSide)
    (reported : Option ℚ) : Bool :=
  match reported, (book.localBest side).1 with
  | none, _ => false
  | some _, none => true
  | some price, some localPrice =>
      !pricesEqual localPrice price && !s.tolerates book localPrice price

/-- The override a side has after a price was reported for it. -/
def overrideAfter (s : PolymarketLocalOrderBook) (book : TokenBook) (side : BookSide)
    (reported : Option ℚ) : Option ℚ :=
  if s.rejects book side reported then reported
  else if agrees book side reported then none
  else book.override side

end PolymarketLocalOrderBook

/-- What messages leave alone of an order book but for its statistics. -/
structure SameBooks (s s' : PolymarketLocalOrderBook) : Prop where
  books : s'.books = s.books
  tokenMetadata : s'.tokenMetadata = s.tokenMetadata
  marketInvalid : s'.marketInvalid = s.marketInvalid
  mode : s'.bestValidationMode = s.bestValidationMode
  ticks : s'.bestValidationToleranceTicks = s.bestValidationToleranceTicks

theorem SameBooks.refl (s : PolymarketLocalOrderBook) : SameBooks s s :=
  ⟨rfl, rfl, rfl, rfl, rfl⟩

theorem SameBooks.trans {s s' s'' : PolymarketLocalOrderBook} (h : SameBooks s s')
    (h' : SameBooks s' s'') : SameBooks s s'' :=
  ⟨h'.books.trans h.books, h'.tokenMetadata.trans h.tokenMetadata,
    h'.marketInvalid.trans h.marketInvalid, h'.mode.trans h.mode, h'.ticks.trans h.ticks⟩

/-- What reported prices leave alone of a book. -/
structure SameLadder (book book' : TokenBook) : Prop where
  bids : book'.bids = book.bids
  asks : book'.asks = book.asks
  hasSnapshot : book'.hasSnapshot = book.hasSnapshot
  invalid : book'.invalid = book.invalid
  metadata : book'.metadata = book.metadata
  tokenId : book'.tokenId = book.tokenId

theorem SameLadder.refl (book : TokenBook) : SameLadder book book :=
  ⟨rfl, rfl, rfl, rfl, rfl, rfl⟩

theorem SameLadder.trans {b b' b'' : TokenBook} (h : SameLadder b b')
    (h' : SameLadder b' b'') : SameLadder b b'' :=
  ⟨h'.bids.trans h.bids, h'.asks.trans h.asks, h'.hasSnapshot.trans h.hasSnapshot,
    h'.invalid.trans h.invalid, h'.metadata.trans h.metadata, h'.tokenId.trans h.tokenId⟩

theorem SameLadder.localBest {book book' : TokenBook} (h : SameLadder book book')
    (side : BookSide) : book'.localBest side = book.localBest side := by
  cases side with
  | bid => rw [TokenBook.localBest, TokenBook.localBest, h.bids]
  | ask => rw [TokenBook.localBest, TokenBook.localBest, h.asks]

theorem sameLadder_setOverride (book : TokenBook) (side : BookSide) (price : Option ℚ) :
    SameLadder book (book.setOverride side price) := by
  cases side <;> exact ⟨rfl, rfl, rfl, rfl, rfl, rfl⟩

theorem incomplete_setOverride (book : TokenBook) (side : BookSide) (price : Option ℚ) :
    (book.setOverride side price).incomplete = book.incomplete := by
  cases side <;> rfl

theorem override_setOverride (book : TokenBook) (side side' : BookSide) (price : Option ℚ) :
    (book.setOverride side price).override side' =
      if side' = side then price else book.override side' := by
  cases side <;> cases side' <;> rfl

/-- Verdicts depend on the ladder, the tick size and the mode only. -/
theorem rejects_congr {s s' : PolymarketLocalOrderBook} {book book' : TokenBook}
    (hs : SameBooks s s') (hb : SameLadder book book') (side : BookSide)
    (reported : Option ℚ) : s'.rejects book' side reported = s.rejects book side reported := by
  simp only [rejects, tolerates, withinBestTolerance, hb.localBest, hb.metadata, hs.mode,
    hs.ticks]

theorem agrees_congr {book book' : TokenBook} (hb : SameLadder book book') (side : BookSide)
    (reported : Option ℚ) : agrees book' side reported = agrees book side reported := by
  simp only [agrees, hb.localBest]

/-! ### Reported prices -/

/-- A book after the price reported for one side. -/
structure ReportedSide (s : PolymarketLocalOrderBook) (book : TokenBook) (side : BookSide)
    (reported : Option ℚ) (book' : TokenBook) : Prop where
  ladder : SameLadder book book'
  incomplete : book'.incomplete = (book.incomplete || s.rejects book side reported)
  override : ∀ side', book'.override side' =
    if side' = side then s.overrideAfter book side reported else book.override side'

section

variable {s : PolymarketLocalOrderBook} {book : TokenBook} {side : BookSide}
  {price localPrice : ℚ}

theorem rejects_of_missing (h : (book.localBest side).1 = none) :
    s.rejects book side (some price) = true := by
  simp only [rejects, h]

theorem rejects_of_local (h : (book.localBest side).1 = some localPrice) :
    s.rejects book side (some price) =
      (!pricesEqual localPrice price && !s.tolerates book localPrice price) := by
  simp only [rejects, h]

theorem agrees_of_local (h : (book.localBest side).1 = some localPrice) :
    agrees book side (some price) = pricesEqual localPrice price := by
  simp only [agrees, h]

theorem agrees_none : agrees book side none = false := by
  rw [agrees]
  intro _ _ _ h
  cases h

/-- A rejected price takes the place of the ladder's. -/
theorem reportedSide_rejected {book' : TokenBook}
    (h : s.rejects book side (some price) = true) (hladder : SameLadder book book')
    (hincomplete : book'.incomplete = true)
    (hoverride : ∀ side', book'.override side' =
      if side' = side then some price else book.override side') :
    ReportedSide s book side (some price) book' where
  ladder := hladder
  incomplete := by rw [h, Bool.or_true, hincomplete]
  override side' := by rw [overrideAfter, if_pos h, hoverride]

/-- A price that is let pass leaves the flag and the overrides. -/
theorem reportedSide_passed {reported : Option ℚ} {book' : TokenBook}
    (hrejects : s.rejects book side reported = false)
    (hagrees : agrees book side reported = false) (hladder : SameLadder book book')
    (hincomplete : book'.incomplete = book.incomplete)
    (hoverride : ∀ side', book'.override side' = book.override side') :
    ReportedSide s book side reported book' where
  ladder := hladder
  incomplete := by rw [hincomplete, hrejects, Bool.or_false]
  override side' := by
    rw [overrideAfter, hrejects, hagrees, hoverride]
    split
    · rename_i h
      rw [h]
      rfl
    · rfl

end

theorem applyReportedSide_spec (s : PolymarketLocalOrderBook) (book : TokenBook)
    (side : BookSide) (reported : Option ℚ) (updateType : UpdateType) :
    SameBooks s (s.applyReportedSide book side reported updateType).1 ∧
      ReportedSide s book side reported
        (s.applyReportedSide book side reported updateType).2 := by
  cases reported with
  | none => exact ⟨.refl s, reportedSide_passed rfl agrees_none (.refl book) rfl fun _ => rfl⟩
  | some price =>
      rw [applyReportedSide, applyOneReportedBest]
      cases hlocal : (book.localBest side).1 with
      | none =>
          exact ⟨.refl s, reportedSide_rejected (rejects_of_missing hlocal)
            (by cases side <;> exact ⟨rfl, rfl, rfl, rfl, rfl, rfl⟩) rfl
            fun side' => by cases side <;> cases side' <;> rfl⟩
      | some localPrice =>
          have hrejects : s.rejects book side (some price) = _ := rejects_of_local hlocal
          have hagrees : agrees book side (some price) = _ := agrees_of_local hlocal
          dsimp only
          split
          · rename_i hequal
            rw [hequal] at hrejects hagrees
            refine ⟨.refl s, sameLadder_setOverride book side none, ?_, fun side' => ?_⟩
            · rw [incomplete_setOverride, hrejects, Bool.not_true, Bool.false_and, Bool.or_false]
            · rw [override_setOverride, overrideAfter, hrejects, hagrees]
              rfl
          · rename_i hequal
            rw [Bool.not_eq_true] at hequal
            rw [hequal, Bool.not_false, Bool.true_and] at hrejects
            rw [hequal] at hagrees
            split
            · rename_i hmode
              have htolerates : s.tolerates book localPrice price = true := by
                simp [tolerates, show s.bestValidationMode = .diagnostic from hmode]
              rw [htolerates] at hrejects
              exact ⟨⟨rfl, rfl, rfl, rfl, rfl⟩, reportedSide_passed hrejects hagrees
                ⟨rfl, rfl, rfl, rfl, rfl, rfl⟩ rfl fun side' => by cases side' <;> rfl⟩
            · rename_i hdiagnostic
              split
              · rename_i hmode
                have htolerates : s.tolerates book localPrice price = true := by
                  have hwithin : s.bestValidationMode = .tolerant ∧
                    s.withinBestTolerance localPrice price book.metadata.tickSize = true := hmode
                  simp [tolerates, hwithin.1, hwithin.2]
                rw [htolerates] at hrejects
                exact ⟨⟨rfl, rfl, rfl, rfl, rfl⟩, reportedSide_passed hrejects hagrees
                  ⟨rfl, rfl, rfl, rfl, rfl, rfl⟩ rfl fun side' => by cases side' <;> rfl⟩
              · rename_i htolerant
                have htolerates : s.tolerates book localPrice price = false := by
                  have hd : s.bestValidationMode ≠ .diagnostic := hdiagnostic
                  have ht : ¬ (s.bestValidationMode = .tolerant ∧
                    s.withinBestTolerance localPrice price book.metadata.tickSize = true) :=
                    htolerant
                  simpa [tolerates, hd] using ht
                rw [htolerates] at hrejects
                exact ⟨⟨rfl, rfl, rfl, rfl, rfl⟩, reportedSide_rejected hrejects
                  (by cases side <;> exact ⟨rfl, rfl, rfl, rfl, rfl, rfl⟩) rfl
                  fun side' => by cases side <;> cases side' <;> rfl⟩

/-- The price reported for a side. -/
def BookSide.pick (bid ask : Option ℚ) : BookSide → Option ℚ
  | .bid => bid
  | .ask => ask

/-- A book after reported best prices. Without a snapshot it is incomplete; with one, a
rejected price makes it incomplete, and each side has the override its price leaves. -/
structure ReportedBest (s : PolymarketLocalOrderBook) (book : TokenBook)
    (bid ask : Option ℚ) (book' : TokenBook) : Prop where
  ladder : SameLadder book book'
  incomplete : book'.incomplete = (!book.hasSnapshot || book.incomplete ||
    s.rejects book .bid bid || s.rejects book .ask ask)
  override : book.hasSnapshot = true → ∀ side,
    book'.override side = s.overrideAfter book side (side.pick bid ask)

theorem sampleValidationError_same (s : PolymarketLocalOrderBook) (book : TokenBook)
    (payload : Json) (receivedTs : ℤ) :
    SameBooks s (s.sampleValidationError book payload receivedTs).1 := by
  simp only [sampleValidationError]
  split
  · exact .refl s
  · split
    · exact .refl s
    · exact ⟨rfl, rfl, rfl, rfl, rfl⟩

/-- **What reported best prices do.** -/
theorem applyReportedBest_spec (s : PolymarketLocalOrderBook) (book : TokenBook)
    (bid ask : Option ℚ) (payload : Json) (receivedTs : ℤ) (updateType : UpdateType) :
    let r := s.applyReportedBest book bid ask payload receivedTs updateType
    SameBooks s r.1 ∧ ReportedBest s book bid ask r.2.1 := by
  simp only [applyReportedBest]
  split
  · rename_i hsnapshot
    refine ⟨sampleValidationError_same .., ⟨rfl, rfl, rfl, rfl, rfl, rfl⟩, ?_, ?_⟩
    · rw [hsnapshot]
      rfl
    · intro h
      rw [hsnapshot] at h
      cases h
  · rename_i hsnapshot
    rw [Bool.not_eq_false] at hsnapshot
    obtain ⟨hs₁, hbid⟩ := applyReportedSide_spec s book .bid bid updateType
    obtain ⟨hs₂, hask⟩ := applyReportedSide_spec
      (s.applyReportedSide book .bid bid updateType).1
      (s.applyReportedSide book .bid bid updateType).2 .ask ask updateType
    have hreported : ReportedBest s book bid ask
        ((s.applyReportedSide book .bid bid updateType).1.applyReportedSide
          (s.applyReportedSide book .bid bid updateType).2 .ask ask updateType).2 := by
      refine ⟨hbid.ladder.trans hask.ladder, ?_, fun _ side => ?_⟩
      · rw [hask.incomplete, hbid.incomplete, rejects_congr hs₁ hbid.ladder, hsnapshot]
        rfl
      · rw [hask.override, hbid.override]
        cases side with
        | bid => rfl
        | ask =>
            rw [if_pos rfl, overrideAfter, rejects_congr hs₁ hbid.ladder,
              agrees_congr hbid.ladder, hbid.override]
            rfl
    split
    · exact ⟨(hs₁.trans hs₂).trans (sampleValidationError_same ..), hreported⟩
    · exact ⟨hs₁.trans hs₂, hreported⟩

/-! ### Quotes -/

/-- The best bid is the greatest bid price, with its size. -/
theorem bestBidLevel_eq_iff {levels : Dict ℚ ℚ} {price size : ℚ} :
    bestBidLevel levels = (some price, some size) ↔
      IsGreatest { k | k ∈ levels.keys } price ∧ levels.get? price = some size := by
  have hmax : levels.keys.max? = some price ↔ IsGreatest { k | k ∈ levels.keys } price :=
    List.max?_eq_some_iff
  rw [bestBidLevel, ← hmax]
  cases levels.keys.max? with
  | none => simp
  | some p =>
      simp only [Prod.mk.injEq, Option.some.injEq]
      constructor <;> rintro ⟨rfl, h⟩ <;> exact ⟨rfl, h⟩

/-- The best ask is the least ask price, with its size. -/
theorem bestAskLevel_eq_iff {levels : Dict ℚ ℚ} {price size : ℚ} :
    bestAskLevel levels = (some price, some size) ↔
      IsLeast { k | k ∈ levels.keys } price ∧ levels.get? price = some size := by
  have hmin : levels.keys.min? = some price ↔ IsLeast { k | k ∈ levels.keys } price :=
    List.min?_eq_some_iff
  rw [bestAskLevel, ← hmin]
  cases levels.keys.min? with
  | none => simp
  | some p =>
      simp only [Prod.mk.injEq, Option.some.injEq]
      constructor <;> rintro ⟨rfl, h⟩ <;> exact ⟨rfl, h⟩

/-- The ladder of a book has two sides that do not cross. -/
structure TwoSided (book : TokenBook) (bid bidSize ask askSize : ℚ) : Prop where
  bestBid : bestBidLevel book.bids = (some bid, some bidSize)
  bestAsk : bestAskLevel book.asks = (some ask, some askSize)
  uncrossed : bid < ask

theorem structurallyComplete_iff {book : TokenBook} :
    book.structurallyComplete = true ↔
      book.hasSnapshot = true ∧ book.invalid = false ∧
        ∃ bid bidSize ask askSize, TwoSided book bid bidSize ask askSize := by
  constructor
  · intro h
    simp only [TokenBook.structurallyComplete, TokenBook.localBest, Bool.and_eq_true,
      Bool.not_eq_true', Option.isSome_iff_exists] at h
    obtain ⟨⟨⟨⟨hsnapshot, hinvalid⟩, bidSize, hbidSize⟩, askSize, haskSize⟩, hcross⟩ := h
    refine ⟨hsnapshot, hinvalid, ?_⟩
    split at hcross
    · rename_i bid ask hbid hask
      exact ⟨bid, bidSize, ask, askSize, Prod.ext hbid hbidSize, Prod.ext hask haskSize,
        of_decide_eq_true hcross⟩
    · cases hcross
  · rintro ⟨hsnapshot, hinvalid, bid, bidSize, ask, askSize, h⟩
    simp [TokenBook.structurallyComplete, TokenBook.localBest, hsnapshot, hinvalid, h.bestBid,
      h.bestAsk, h.uncrossed]

/-- **When a quote is complete.** -/
theorem bookComplete_iff {s : PolymarketLocalOrderBook} {book : TokenBook} {t : MessageTimes}
    {updateType : UpdateType} :
    (s.quote book t updateType).bookComplete = true ↔
      book.incomplete = false ∧ book.structurallyComplete = true := by
  have h : (s.quote book t updateType).bookComplete =
    !(book.incomplete || book.invalid || !book.structurallyComplete) := rfl
  rw [h, Bool.not_eq_true', Bool.or_eq_false_iff, Bool.or_eq_false_iff, Bool.not_eq_false']
  constructor
  · rintro ⟨⟨hinc, -⟩, hstruct⟩
    exact ⟨hinc, hstruct⟩
  · rintro ⟨hinc, hstruct⟩
    exact ⟨⟨hinc, (structurallyComplete_iff.mp hstruct).2.1⟩, hstruct⟩

/-! ### How messages end -/

/-- How a message can end: before it touched a book, with an exception after it left a
book with `Left`, or with the quote of a book with `Done`. -/
inductive MessageOutcome (s : PolymarketLocalOrderBook) (Left Done : TokenBook → Prop)
    (updateType : UpdateType)
    (r : PolymarketLocalOrderBook × Except MessageError PolymarketQuote) : Prop
  | unread (e : MessageError) (result : r = (s, .error e))
  | raised (s' : PolymarketLocalOrderBook) (book : TokenBook) (e : MessageError)
      (same : SameBooks s s') (left : Left book) (result : r = (s'.setBook book, .error e))
  | quoted (s' : PolymarketLocalOrderBook) (book : TokenBook) (t : MessageTimes)
      (before : Bool) (same : SameBooks s s') (done : Done book)
      (result : r = s'.finishMessage book t updateType before)

/-- The books a book message leaves when it raises. -/
def BookLeft (s : PolymarketLocalOrderBook) (payload : Json) (book : TokenBook) : Prop :=
  ∃ token, book = s.bookFor token payload ∨
    ∃ bids, book = { s.bookFor token payload with bids := bids }

/-- The books a book message loads. -/
def BookDone (s : PolymarketLocalOrderBook) (payload : Json) (book : TokenBook) : Prop :=
  ∃ token bids asks, book = s.loadBook (s.bookFor token payload) bids asks

theorem applyBook_outcome (s : PolymarketLocalOrderBook) (payload : Json) (t : MessageTimes) :
    MessageOutcome s (BookLeft s payload) (BookDone s payload) .book (s.applyBook payload t) := by
  rw [applyBook]
  cases requiredField payload "asset_id" with
  | error e => exact .unread e rfl
  | ok assetId =>
      dsimp only
      cases levelsToDict ((payload.get? "bids").getD (.arr [])) with
      | error e => exact .raised s _ e (.refl s) ⟨assetId.text, Or.inl rfl⟩ rfl
      | ok bids =>
          cases levelsToDict ((payload.get? "asks").getD (.arr [])) with
          | error e => exact .raised s _ e (.refl s) ⟨assetId.text, Or.inr ⟨bids, rfl⟩⟩ rfl
          | ok asks => exact .quoted s _ t false (.refl s) ⟨assetId.text, bids, asks, rfl⟩ rfl

/-- The token of a price change. -/
def priceChangeToken (row parent : Json) : String :=
  ((row.get "asset_id").orElse (parent.get "asset_id")).text

/-- The side of a price change. -/
def priceChangeSide (row : Json) : String := upper ((row.get? "side").getD (.str "")).text

/-- The books of a price change after its reported best prices. -/
def PriceChangeDone (s : PolymarketLocalOrderBook) (row parent : Json) (book : TokenBook) :
    Prop :=
  ∃ price size bid ask, changedLevel row = .ok (price, size) ∧
    reportedBests row = .ok (bid, ask) ∧
    ReportedBest s (s.changeBook (s.bookFor (priceChangeToken row parent) parent)
      (priceChangeSide row) price size) bid ask book

/-- The books a price change leaves when it raises. -/
def PriceChangeLeft (s : PolymarketLocalOrderBook) (row parent : Json) (book : TokenBook) :
    Prop :=
  book = s.bookFor (priceChangeToken row parent) parent ∨
    (∃ price size, book = s.changeBook (s.bookFor (priceChangeToken row parent) parent)
      (priceChangeSide row) price size) ∨
    PriceChangeDone s row parent book

theorem applyPriceChange_outcome (s : PolymarketLocalOrderBook) (row parent : Json)
    (t : MessageTimes) :
    MessageOutcome s (PriceChangeLeft s row parent) (PriceChangeDone s row parent) .priceChange
      (s.applyPriceChange row parent t) := by
  rw [applyPriceChange]
  dsimp only
  cases hlevel : changedLevel row with
  | error e => exact .raised s _ e (.refl s) (Or.inl rfl) rfl
  | ok level =>
      cases hbests : reportedBests row with
      | error e =>
          exact .raised s _ e (.refl s) (Or.inr (Or.inl ⟨level.1, level.2, rfl⟩)) rfl
      | ok bests =>
          have hspec := applyReportedBest_spec s
            (s.changeBook (s.bookFor (priceChangeToken row parent) parent)
              (priceChangeSide row) level.1 level.2) bests.1 bests.2 row t.receivedTs
              .priceChange
          have hdone : PriceChangeDone s row parent _ :=
            ⟨level.1, level.2, bests.1, bests.2, hlevel, hbests, hspec.2⟩
          dsimp only
          split
          · exact .raised _ _ _ hspec.1 (Or.inr (Or.inr hdone)) rfl
          · exact .quoted _ _ t _ hspec.1 hdone rfl

/-- The books of a best-prices message after its reported best prices. -/
def BestBidAskLeft (s : PolymarketLocalOrderBook) (payload : Json) (book : TokenBook) :
    Prop :=
  book = s.bookFor (bestBidAskToken payload) payload ∨
    ∃ bid ask, reportedBests payload = .ok (bid, ask) ∧
      ReportedBest s (clearFlags (s.bookFor (bestBidAskToken payload) payload)) bid ask book

/-- The books of a best-prices message at its end. -/
def BestBidAskDone (s : PolymarketLocalOrderBook) (payload : Json) (book : TokenBook) :
    Prop :=
  ∃ bid ask validated, reportedBests payload = .ok (bid, ask) ∧
    ReportedBest s (clearFlags (s.bookFor (bestBidAskToken payload) payload)) bid ask
      validated ∧
    book = { validated with
      incomplete := if validated.hasSnapshot then validated.incomplete else true
      invalid := s.isMarketInvalid validated }

theorem applyBestBidAsk_outcome (s : PolymarketLocalOrderBook) (payload : Json)
    (t : MessageTimes) :
    MessageOutcome s (BestBidAskLeft s payload) (BestBidAskDone s payload) .bestBidAsk
      (s.applyBestBidAsk payload t) := by
  rw [applyBestBidAsk]
  dsimp only
  cases hbests : reportedBests payload with
  | error e => exact .raised s _ e (.refl s) (Or.inl rfl) rfl
  | ok bests =>
      have hspec := applyReportedBest_spec s
        (clearFlags (s.bookFor (bestBidAskToken payload) payload)) bests.1 bests.2 payload
        t.receivedTs .bestBidAsk
      dsimp only
      split
      · exact .raised _ _ _ hspec.1 (Or.inr ⟨bests.1, bests.2, hbests, hspec.2⟩) rfl
      · refine .quoted _ _ t _ hspec.1 ⟨bests.1, bests.2, _, hbests, hspec.2, ?_⟩ rfl
        rw [isMarketInvalid, isMarketInvalid, hspec.1.marketInvalid]

/-! ### Invariants of the books -/

/-- Every book has the property, under its token. -/
def EachBook (P : String → TokenBook → Prop) (s : PolymarketLocalOrderBook) : Prop :=
  ∀ e ∈ s.books.entries, P e.1 e.2

/-- An invariant of books that messages keep outside the ladder, the flags they set and
the overrides. It includes that a book is stored under its token. -/
structure BookRule (P : String → TokenBook → Prop) : Prop where
  init : ∀ token metadata, P token (.init token metadata)
  touch : ∀ token book t, P token book → P token (book.touch t)
  metadata : ∀ token book m, P token book → P token { book with metadata := m }
  marked : ∀ token book, P token book → P token
    { book with invalid := true, incomplete := true, validationError := some .marketInvalidated }
  token : ∀ token book, P token book → book.tokenId = token

section

variable {P : String → TokenBook → Prop} (hP : BookRule P) {s : PolymarketLocalOrderBook}

theorem EachBook.setBook (h : EachBook P s) {book : TokenBook} (hb : P book.tokenId book) :
    EachBook P (s.setBook book) := Dict.forall_entries_set h hb

theorem EachBook.congr (h : EachBook P s) {s' : PolymarketLocalOrderBook}
    (hs : s'.books = s.books) : EachBook P s' := by
  rwa [EachBook, hs]

include hP

theorem EachBook.bookFor (h : EachBook P s) (token : String) (payload : Json) :
    P token (s.bookFor token payload) := by
  rw [PolymarketLocalOrderBook.bookFor]
  cases hb : s.books.get? token with
  | none => exact hP.init ..
  | some book => exact h (token, book) (Dict.mem_entries_iff.mpr hb)

/-- A message keeps an invariant that every book it can leave has. -/
theorem MessageOutcome.eachBook {Left Done : TokenBook → Prop} {updateType : UpdateType}
    {r : PolymarketLocalOrderBook × Except MessageError PolymarketQuote}
    (h : MessageOutcome s Left Done updateType r) (hs : EachBook P s)
    (hleft : ∀ book, Left book → P book.tokenId book)
    (hdone : ∀ book, Done book → P book.tokenId book) : EachBook P r.1 := by
  cases h with
  | unread e result => rwa [result]
  | raised s' book e same left result =>
      rw [result]
      exact (hs.congr same.books).setBook (hleft book left)
  | quoted s' book t before same done result =>
      rw [result]
      exact ((hs.congr same.books).setBook
        (hP.touch _ _ t (hdone book done))).congr rfl

theorem EachBook.setBookMetadata (h : EachBook P s) (token : String) (m : TokenBookMetadata) :
    EachBook P (s.setBookMetadata token m) := by
  rw [PolymarketLocalOrderBook.setBookMetadata]
  cases hb : s.books.get? token with
  | none => exact h
  | some book =>
      exact Dict.forall_entries_set h
        (hP.metadata _ _ m (h (token, book) (Dict.mem_entries_iff.mpr hb)))

theorem EachBook.updateTokenTickSize (h : EachBook P s) (tickSize : ℚ) (token : String) :
    EachBook P (updateTokenTickSize tickSize s token) := by
  rw [PolymarketLocalOrderBook.updateTokenTickSize]
  cases s.tokenMetadata.get? token with
  | none => exact h
  | some m =>
      refine EachBook.setBookMetadata hP ?_ token _
      exact h.congr rfl

/-- The calls that are no messages keep the invariant. -/
theorem EachBook.quiet (h : EachBook P s) {call : PolymarketCall}
    (hcall : match call with
      | .applyBook _ _ | .applyPriceChange _ _ _ | .applyBestBidAsk _ _ => False
      | _ => True) : EachBook P (polymarketMachine.next s call) := by
  cases call with
  | applyBook payload t => exact hcall.elim
  | applyPriceChange row parent t => exact hcall.elim
  | applyBestBidAsk payload t => exact hcall.elim
  | markMarketInvalid marketId =>
      rintro ⟨token, book'⟩ he
      obtain ⟨⟨_, book⟩, hmem, heq⟩ := List.mem_map.mp he
      obtain ⟨rfl, rfl⟩ := Prod.mk.inj heq
      dsimp only
      split
      · exact hP.marked _ _ (h _ hmem)
      · exact h _ hmem
  | updateTickSize marketId tokenId tickSize =>
      refine PolymarketLocalOrderBook.updateTickSize_rule h marketId tokenId ?_
      exact fun s' token hs' => hs'.updateTokenTickSize hP tickSize token
  | updateTokenMetadata tokenMetadata active =>
      refine PolymarketLocalOrderBook.updateTokenMetadata_rule (h.congr rfl) ?_
      intro s' e hs'
      refine EachBook.setBookMetadata hP ?_ e.1 e.2
      exact hs'.congr rfl
  | recordReconnect => exact h.congr rfl
  | tokenReadinessSnapshot => exact h.congr rfl

end

/-- The only quotes are those of the three messages. -/
theorem out_quote {s : PolymarketLocalOrderBook} {call : PolymarketCall} {q : PolymarketQuote}
    (h : polymarketMachine.out s call = .quote q) :
    (∃ payload t, call = .applyBook payload t ∧ (s.applyBook payload t).2 = .ok q) ∨
    (∃ row parent t, call = .applyPriceChange row parent t ∧
      (s.applyPriceChange row parent t).2 = .ok q) ∨
    (∃ payload t, call = .applyBestBidAsk payload t ∧
      (s.applyBestBidAsk payload t).2 = .ok q) := by
  have key : ∀ r : PolymarketLocalOrderBook × Except MessageError PolymarketQuote,
      (r.map id PolymarketReply.ofExcept).2 = .quote q → r.2 = .ok q := by
    rintro ⟨s', e | q'⟩ hr
    · cases hr
    · cases hr
      rfl
  cases call with
  | applyBook payload t => exact Or.inl ⟨payload, t, rfl, key _ h⟩
  | applyPriceChange row parent t => exact Or.inr (Or.inl ⟨row, parent, t, rfl, key _ h⟩)
  | applyBestBidAsk payload t => exact Or.inr (Or.inr ⟨payload, t, rfl, key _ h⟩)
  | _ => cases h

/-- The quote of a message is that of the book it stored. -/
theorem MessageOutcome.quote {s : PolymarketLocalOrderBook} {Left Done : TokenBook → Prop}
    {updateType : UpdateType}
    {r : PolymarketLocalOrderBook × Except MessageError PolymarketQuote}
    (h : MessageOutcome s Left Done updateType r) {q : PolymarketQuote} (hq : r.2 = .ok q) :
    ∃ s' book t, SameBooks s s' ∧ Done book ∧
      q = (s'.setBook (book.touch t)).quote (book.touch t) t updateType ∧
      r.1.books.get? book.tokenId = some (book.touch t) ∧
      r.1.marketInvalid = s.marketInvalid := by
  cases h with
  | unread e result => rw [result] at hq; cases hq
  | raised s' book e same left result => rw [result] at hq; cases hq
  | quoted s' book t before same done result =>
      rw [result] at hq ⊢
      exact ⟨s', book, t, same, done, (Except.ok.inj hq).symm, Dict.get?_set_self _ _ _,
        same.marketInvalid⟩

end SomethingTrade
