import SomethingTrade.PolymarketCompleteness

/-!
# Verdicts on Reported Prices

What the flags of a quote say of the best prices its message reported. The two sides are
held against the ladder one after the other, into one error and one verdict: the error of
the ask replaces that of the bid, and a tolerated ask makes the verdict good again, whatever
the bid was. A change of one level starts from the error and the flag that earlier messages
left, a report of the best prices does not.

## Main results

* `applyReportedBest_verdict`: the error and the verdict that reported prices leave.
* `reported_best_ok_iff`: when the verdict of a quote is that of both sides.
* `price_change_verdict_iff`: when the verdict of a price change does not depend on earlier
  messages.
* `applyBestBidAsk_clean`: that of a report of the best prices never does, when it reports the
  ladder.
-/

namespace SomethingTrade

open PolymarketLocalOrderBook

/-! ### One side -/

namespace PolymarketLocalOrderBook

/-- The error a price reported for a side sets. -/
def sideError (book : TokenBook) (side : BookSide) (reported : Option ℚ) :
    Option ValidationError :=
  match reported, (book.localBest side).1 with
  | none, _ => none
  | some _, none => some (if book.hasSnapshot then .bestSizeUnknown side else .missingSnapshot)
  | some price, some localPrice =>
      if pricesEqual localPrice price then none else some (.reportedBestMismatch side)

/-- The verdict after a price reported for a side. -/
def sideOk (s : PolymarketLocalOrderBook) (book : TokenBook) (side : BookSide)
    (reported : Option ℚ) (before : Bool) : Bool :=
  match reported, (book.localBest side).1 with
  | none, _ => before
  | some _, none => false
  | some price, some localPrice =>
      if pricesEqual localPrice price then before
      else
        decide (s.bestValidationMode = .tolerant) &&
          s.withinBestTolerance localPrice price book.metadata.tickSize

end PolymarketLocalOrderBook

section

variable (s : PolymarketLocalOrderBook) (book : TokenBook) (side : BookSide)
  (reported : Option ℚ) (updateType : UpdateType)

theorem applyReportedSide_verdict :
    let book' := (s.applyReportedSide book side reported updateType).2
    book'.validationError = (sideError book side reported).orElse (fun _ => book.validationError) ∧
      book'.reportedBestValidationOk =
        s.sideOk book side reported book.reportedBestValidationOk := by
  cases reported with
  | none => exact ⟨rfl, rfl⟩
  | some price =>
      simp only [applyReportedSide, applyOneReportedBest, sideError, sideOk]
      cases (book.localBest side).1 with
      | none => exact ⟨rfl, rfl⟩
      | some localPrice =>
          dsimp only
          split
          · cases side <;> exact ⟨rfl, rfl⟩
          · split
            · rename_i hmode
              have hdiagnostic : s.bestValidationMode = .diagnostic := hmode
              exact ⟨rfl, by simp [hdiagnostic]⟩
            · rename_i hdiagnostic
              split
              · rename_i htolerated
                have hboth : s.bestValidationMode = .tolerant ∧
                  s.withinBestTolerance localPrice price book.metadata.tickSize = true := htolerated
                exact ⟨rfl, by simp [hboth.1, hboth.2]⟩
              · rename_i hrejected
                have hneither : ¬ (s.bestValidationMode = .tolerant ∧
                  s.withinBestTolerance localPrice price book.metadata.tickSize = true) := hrejected
                refine ⟨by cases side <;> rfl, ?_⟩
                have hfalse : (decide (s.bestValidationMode = .tolerant) &&
                    s.withinBestTolerance localPrice price book.metadata.tickSize) = false := by
                  simpa using hneither
                exact hfalse.symm

end

/-- Errors and verdicts depend on the ladder, the tick size and the mode only. -/
theorem sideError_congr {book book' : TokenBook} (hb : SameLadder book book') (side : BookSide)
    (reported : Option ℚ) : sideError book' side reported = sideError book side reported := by
  simp only [sideError, hb.localBest, hb.hasSnapshot]

theorem sideOk_congr {s s' : PolymarketLocalOrderBook} {book book' : TokenBook}
    (hs : SameBooks s s') (hb : SameLadder book book') (side : BookSide) (reported : Option ℚ)
    (before : Bool) : s'.sideOk book' side reported before = s.sideOk book side reported before := by
  simp only [sideOk, withinBestTolerance, hb.localBest, hb.metadata, hs.mode, hs.ticks]

/-! ### Both sides -/

/-- What reported prices leave of the error and the verdict of a book with a snapshot. -/
structure Verdict (s : PolymarketLocalOrderBook) (book : TokenBook) (bid ask : Option ℚ)
    (book' : TokenBook) : Prop where
  ladder : SameLadder book book'
  incomplete : book'.incomplete =
    (book.incomplete || s.rejects book .bid bid || s.rejects book .ask ask)
  error : book'.validationError = ((sideError book .ask ask).orElse fun _ =>
    sideError book .bid bid).orElse fun _ => book.validationError
  ok : book'.reportedBestValidationOk =
    s.sideOk book .ask ask (s.sideOk book .bid bid book.reportedBestValidationOk)

/-- **The verdict of reported prices.** -/
theorem applyReportedBest_verdict {s : PolymarketLocalOrderBook} {book : TokenBook}
    (hsnapshot : book.hasSnapshot = true) (bid ask : Option ℚ) (payload : Json) (receivedTs : ℤ)
    (updateType : UpdateType) :
    Verdict s book bid ask
      (s.applyReportedBest book bid ask payload receivedTs updateType).2.1 := by
  obtain ⟨-, hspec⟩ := applyReportedBest_spec s book bid ask payload receivedTs updateType
  obtain ⟨hs₁, hbid⟩ := applyReportedSide_spec s book .bid bid updateType
  obtain ⟨herror₁, hok₁⟩ := applyReportedSide_verdict s book .bid bid updateType
  obtain ⟨herror₂, hok₂⟩ := applyReportedSide_verdict
    (s.applyReportedSide book .bid bid updateType).1
    (s.applyReportedSide book .bid bid updateType).2 .ask ask updateType
  have hbook : (s.applyReportedBest book bid ask payload receivedTs updateType).2.1 =
      ((s.applyReportedSide book .bid bid updateType).1.applyReportedSide
        (s.applyReportedSide book .bid bid updateType).2 .ask ask updateType).2 := by
    simp only [applyReportedBest]
    rw [if_neg (by rw [hsnapshot]; decide)]
    split <;> rfl
  refine ⟨hspec.ladder, ?_, ?_, ?_⟩
  · rw [hspec.incomplete, hsnapshot]
    rfl
  · rw [hbook, herror₂, herror₁, sideError_congr hbid.ladder]
    cases sideError book .ask ask <;> rfl
  · rw [hbook, hok₂, hok₁, sideOk_congr hs₁ hbid.ladder]

/-- The flags of a quote that come from the verdicts. -/
structure QuoteFlags (book : TokenBook) (q : PolymarketQuote) : Prop where
  complete : q.bookComplete = !(book.incomplete || book.invalid || !book.structurallyComplete)
  error : q.validationError =
    (book.validationError.orElse fun _ => book.structuralValidationError).map
      ValidationError.text
  ok : q.reportedBestValidationOk = book.reportedBestValidationOk

theorem quoteFlags_touch (s : PolymarketLocalOrderBook) (book : TokenBook) (t : MessageTimes)
    (updateType : UpdateType) : QuoteFlags book (s.quote (book.touch t) t updateType) :=
  ⟨rfl, rfl, rfl⟩

/-- The flags of the quote of a price change. -/
theorem applyPriceChange_flags {s : PolymarketLocalOrderBook} {row parent : Json}
    {t : MessageTimes} {q : PolymarketQuote} (hq : (s.applyPriceChange row parent t).2 = .ok q)
    {price size : ℚ} (hlevel : changedLevel row = .ok (price, size)) {bid ask : Option ℚ}
    (hreports : reportedBests row = .ok (bid, ask)) :
    QuoteFlags (s.applyReportedBest (s.changeBook (s.bookFor (priceChangeToken row parent) parent)
      (priceChangeSide row) price size) bid ask row t.receivedTs .priceChange).2.1 q := by
  rw [applyPriceChange] at hq
  dsimp only at hq
  rw [hlevel] at hq
  dsimp only at hq
  rw [hreports] at hq
  dsimp only at hq
  split at hq
  · cases hq
  · obtain rfl := Except.ok.inj hq
    exact quoteFlags_touch ..

/-- The flags of the quote of a report of the best prices. -/
theorem applyBestBidAsk_flags {s : PolymarketLocalOrderBook} {payload : Json}
    {t : MessageTimes} {q : PolymarketQuote} (hq : (s.applyBestBidAsk payload t).2 = .ok q)
    {bid ask : Option ℚ} (hreports : reportedBests payload = .ok (bid, ask)) :
    let r := s.applyReportedBest (clearFlags (s.bookFor (bestBidAskToken payload) payload)) bid ask
      payload t.receivedTs .bestBidAsk
    QuoteFlags { r.2.1 with
      incomplete := if r.2.1.hasSnapshot then r.2.1.incomplete else true
      invalid := r.1.isMarketInvalid r.2.1 } q := by
  rw [applyBestBidAsk] at hq
  dsimp only at hq
  rw [hreports] at hq
  dsimp only at hq
  split at hq
  · cases hq
  · obtain rfl := Except.ok.inj hq
    exact quoteFlags_touch ..

/-! ### The verdict on both sides -/

/-- A message that reports best prices. -/
inductive ReportMessage
  | priceChange (row parent : Json)
  | bestBidAsk (payload : Json)

namespace ReportMessage

/-- The best prices a message reports. -/
def reports : ReportMessage → Except MessageError (Option ℚ × Option ℚ)
  | .priceChange row _ => reportedBests row
  | .bestBidAsk payload => reportedBests payload

/-- The book the reported prices are held against: that of the token, once the level of a
price change is set. -/
def heldAgainst (s : PolymarketLocalOrderBook) : ReportMessage → Except MessageError TokenBook
  | .priceChange row parent => (changedLevel row).map fun level =>
      s.changeBook (s.bookFor (priceChangeToken row parent) parent) (priceChangeSide row) level.1
        level.2
  | .bestBidAsk payload => .ok (clearFlags (s.bookFor (bestBidAskToken payload) payload))

/-- Apply a message. -/
def apply (s : PolymarketLocalOrderBook) (t : MessageTimes) :
    ReportMessage → PolymarketLocalOrderBook × Except MessageError PolymarketQuote
  | .priceChange row parent => s.applyPriceChange row parent t
  | .bestBidAsk payload => s.applyBestBidAsk payload t

end ReportMessage

/-- The verdict of a quote on its reported prices starts from a good one. -/
theorem reportMessage_ok {s : PolymarketLocalOrderBook} {message : ReportMessage}
    {t : MessageTimes} {q : PolymarketQuote} (hq : (message.apply s t).2 = .ok q)
    {book : TokenBook} (hbook : message.heldAgainst s = .ok book)
    (hsnapshot : book.hasSnapshot = true) {bid ask : Option ℚ}
    (hreports : message.reports = .ok (bid, ask)) :
    q.reportedBestValidationOk = s.sideOk book .ask ask (s.sideOk book .bid bid true) := by
  cases message with
  | priceChange row parent =>
      simp only [ReportMessage.heldAgainst] at hbook
      cases hlevel : changedLevel row with
      | error e =>
          rw [hlevel] at hbook
          cases hbook
      | ok level =>
          rw [hlevel] at hbook
          obtain rfl := Except.ok.inj hbook
          have hflags := applyPriceChange_flags hq hlevel hreports
          exact hflags.ok.trans (applyReportedBest_verdict hsnapshot bid ask row t.receivedTs
            .priceChange).ok
  | bestBidAsk payload =>
      obtain rfl := Except.ok.inj hbook
      have hflags := applyBestBidAsk_flags hq hreports
      exact hflags.ok.trans (applyReportedBest_verdict hsnapshot bid ask payload t.receivedTs
        .bestBidAsk).ok

/-- A message reports both best prices, of a token whose book has a snapshot and two
sides. -/
structure ReportsBoth (s : PolymarketLocalOrderBook) (message : ReportMessage)
    (t : MessageTimes) (q : PolymarketQuote) (book : TokenBook) (bid ask localBid localAsk : ℚ) :
    Prop where
  quoted : (message.apply s t).2 = .ok q
  held : message.heldAgainst s = .ok book
  snapshot : book.hasSnapshot = true
  reported : message.reports = .ok (some bid, some ask)
  bestBid : (book.localBest .bid).1 = some localBid
  bestAsk : (book.localBest .ask).1 = some localAsk

/-- The verdict of a quote is that of both sides: in tolerant mode, that both reported prices
are within the tolerance, in strict mode, that both are the local ones. -/
@[mk_iff] structure JudgesBoth (s : PolymarketLocalOrderBook) (q : PolymarketQuote) (tickSize : ℚ)
    (bid ask localBid localAsk : ℚ) : Prop where
  tolerant : s.bestValidationMode = .tolerant → (q.reportedBestValidationOk = true ↔
    s.withinBestTolerance localBid bid tickSize = true ∧
      s.withinBestTolerance localAsk ask tickSize = true)
  strict : s.bestValidationMode = .strict → (q.reportedBestValidationOk = true ↔
    pricesEqual localBid bid = true ∧ pricesEqual localAsk ask = true)

/-- Equal prices are within every tolerance. -/
theorem withinBestTolerance_of_equal {s : PolymarketLocalOrderBook} {left right : ℚ}
    (h : pricesEqual left right = true) (tickSize : ℚ) :
    s.withinBestTolerance left right tickSize = true := by
  simp only [pricesEqual, decide_eq_true_iff] at h
  simp only [withinBestTolerance, decide_eq_true_iff]
  have hnonneg : 0 ≤ max 0 ((s.bestValidationToleranceTicks : ℚ) * tickSize) := le_max_left _ _
  linarith

/-- **When a quote judges both sides**: unless, in tolerant mode, the bid is off and the ask is
off within the tolerance. -/
theorem reported_best_ok_iff (s : PolymarketLocalOrderBook) (message : ReportMessage)
    (t : MessageTimes) (q : PolymarketQuote) (book : TokenBook) (bid ask localBid localAsk : ℚ)
    (h : ReportsBoth s message t q book bid ask localBid localAsk) :
    JudgesBoth s q book.metadata.tickSize bid ask localBid localAsk ↔
      (s.bestValidationMode = .tolerant →
        ¬ (s.withinBestTolerance localBid bid book.metadata.tickSize = false ∧
          s.withinBestTolerance localAsk ask book.metadata.tickSize = true ∧
          pricesEqual localAsk ask = false)) := by
  have hok := reportMessage_ok h.quoted h.held h.snapshot h.reported
  simp only [sideOk, h.bestBid, h.bestAsk] at hok
  have hbid : pricesEqual localBid bid = true →
      s.withinBestTolerance localBid bid book.metadata.tickSize = true :=
    fun hequal => withinBestTolerance_of_equal hequal _
  have hask : pricesEqual localAsk ask = true →
      s.withinBestTolerance localAsk ask book.metadata.tickSize = true :=
    fun hequal => withinBestTolerance_of_equal hequal _
  rw [judgesBoth_iff]
  generalize pricesEqual localBid bid = equalBid at *
  generalize pricesEqual localAsk ask = equalAsk at *
  generalize s.withinBestTolerance localBid bid book.metadata.tickSize = withinBid at *
  generalize s.withinBestTolerance localAsk ask book.metadata.tickSize = withinAsk at *
  constructor
  · rintro ⟨htolerant, -⟩ hmode ⟨rfl, rfl, rfl⟩
    simp only [hmode] at hok
    exact Bool.false_ne_true ((htolerant hmode).mp hok).1
  · intro hcondition
    refine ⟨fun hmode => ?_, fun hmode => ?_⟩
    · replace hcondition := hcondition hmode
      simp only [hmode] at hok
      rw [hok]
      cases equalAsk with
      | true =>
          -- the ask leaves the verdict on the bid
          have hwithin : withinAsk = true := hask rfl
          cases equalBid with
          | true => simp [hwithin, hbid]
          | false => simp [hwithin]
      | false =>
          cases withinAsk with
          | false => simp
          | true => simpa using hcondition
    · simp only [hmode] at hok
      rw [hok]
      cases equalAsk <;> cases equalBid <;> simp

/-- The quote of a message that raises nothing. -/
theorem exists_ok {r : PolymarketLocalOrderBook × Except MessageError PolymarketQuote}
    {p : PolymarketQuote → Bool} (h : r.2.toOption.any p = true) :
    ∃ q, r.2 = .ok q ∧ p q = true := by
  cases hr : r.2 with
  | error e =>
      rw [hr] at h
      cases h
  | ok q =>
      rw [hr] at h
      exact ⟨q, rfl, h⟩

/-- A report of which the bid is five ticks off and the ask one. -/
def unevenReport : Json := bestBidAskMessage (40 / 100) (56 / 100)

theorem unevenReport_reportsBoth : ∃ (q : PolymarketQuote) (book : TokenBook),
    ReportsBoth oneLadder (.bestBidAsk unevenReport) (timesAt 2) q book (40 / 100) (56 / 100)
      (45 / 100) (55 / 100) ∧
    q.reportedBestValidationOk = true ∧ book.metadata.tickSize = 1 / 100 := by
  have hquote : ((oneLadder.applyBestBidAsk unevenReport (timesAt 2)).2.toOption.any
    PolymarketQuote.reportedBestValidationOk) = true := by decide +kernel
  obtain ⟨q, hq, hok⟩ := exists_ok hquote
  refine ⟨q, clearFlags (oneLadder.bookFor (bestBidAskToken unevenReport) unevenReport),
    ⟨hq, rfl, ?_, ?_, ?_, ?_⟩, hok, ?_⟩
  all_goals decide +kernel

/-- The theorem applied to the uneven report. -/
theorem reported_best_ok_uneven : ∃ (q : PolymarketQuote) (book : TokenBook),
    JudgesBoth oneLadder q book.metadata.tickSize (40 / 100) (56 / 100) (45 / 100) (55 / 100) ↔
      (oneLadder.bestValidationMode = .tolerant →
        ¬ (oneLadder.withinBestTolerance (45 / 100) (40 / 100) book.metadata.tickSize = false ∧
          oneLadder.withinBestTolerance (55 / 100) (56 / 100) book.metadata.tickSize = true ∧
          pricesEqual (55 / 100) (56 / 100) = false)) := by
  obtain ⟨q, book, hreports, -, -⟩ := unevenReport_reportsBoth
  exact ⟨q, book, reported_best_ok_iff oneLadder (.bestBidAsk unevenReport) (timesAt 2) q book
    (40 / 100) (56 / 100) (45 / 100) (55 / 100) hreports⟩

/-- A tolerated ask hides a bid that is off. -/
theorem tolerated_ask_hides_bid :
    ¬ ∀ (s : PolymarketLocalOrderBook) (message : ReportMessage) (t : MessageTimes)
      (q : PolymarketQuote) (book : TokenBook) (bid ask localBid localAsk : ℚ),
      ReportsBoth s message t q book bid ask localBid localAsk →
      JudgesBoth s q book.metadata.tickSize bid ask localBid localAsk := by
  intro h
  obtain ⟨q, book, hreports, hok, htick⟩ := unevenReport_reportsBoth
  have hjudges := h _ _ _ _ _ _ _ _ _ hreports
  have hwithin := (hjudges.tolerant (by decide +kernel)).mp hok
  rw [htick] at hwithin
  exact absurd hwithin.1 (by decide +kernel)

/-! ### What earlier messages leave -/

/-- Two books that a message judges alike: they have the same best prices and metadata, under
the same settings. -/
structure SameView (s s' : PolymarketLocalOrderBook) (book book' : TokenBook) : Prop where
  mode : s'.bestValidationMode = s.bestValidationMode
  ticks : s'.bestValidationToleranceTicks = s.bestValidationToleranceTicks
  localBest : ∀ side, book'.localBest side = book.localBest side
  metadata : book'.metadata = book.metadata
  hasSnapshot : book'.hasSnapshot = book.hasSnapshot
  invalid : book'.invalid = book.invalid

section

variable {s s' : PolymarketLocalOrderBook} {book book' : TokenBook}
  (h : SameView s s' book book') (side : BookSide) (reported : Option ℚ)

include h

theorem SameView.rejects : s'.rejects book' side reported = s.rejects book side reported := by
  simp only [PolymarketLocalOrderBook.rejects, tolerates, withinBestTolerance, h.localBest,
    h.metadata, h.mode, h.ticks]

theorem SameView.sideError : sideError book' side reported = sideError book side reported := by
  simp only [PolymarketLocalOrderBook.sideError, h.localBest, h.hasSnapshot]

theorem SameView.sideOk (before : Bool) :
    s'.sideOk book' side reported before = s.sideOk book side reported before := by
  simp only [PolymarketLocalOrderBook.sideOk, withinBestTolerance, h.localBest, h.metadata, h.mode,
    h.ticks]

omit side reported

theorem SameView.structurallyComplete :
    book'.structurallyComplete = book.structurallyComplete := by
  simp only [TokenBook.structurallyComplete, h.localBest, h.hasSnapshot, h.invalid]

theorem SameView.structuralValidationError :
    book'.structuralValidationError = book.structuralValidationError := by
  simp only [TokenBook.structuralValidationError, h.localBest, h.hasSnapshot]

end

/-- Ladders with the same levels have the same best prices. -/
theorem bestBidLevel_congr {levels levels' : Dict ℚ ℚ}
    (h : ∀ price, levels'.get? price = levels.get? price) :
    bestBidLevel levels' = bestBidLevel levels := by
  have hkeys (k : ℚ) : k ∈ levels'.keys ↔ k ∈ levels.keys := by
    simp only [Dict.mem_keys_iff, h]
  have hmax : levels'.keys.max? = levels.keys.max? := by
    refine Option.ext fun price => ?_
    simp only [List.max?_eq_some_iff, hkeys]
  rw [bestBidLevel, hmax, bestBidLevel]
  cases levels.keys.max? with
  | none => rfl
  | some price => simp only [h]

theorem bestAskLevel_congr {levels levels' : Dict ℚ ℚ}
    (h : ∀ price, levels'.get? price = levels.get? price) :
    bestAskLevel levels' = bestAskLevel levels := by
  have hkeys (k : ℚ) : k ∈ levels'.keys ↔ k ∈ levels.keys := by
    simp only [Dict.mem_keys_iff, h]
  have hmin : levels'.keys.min? = levels.keys.min? := by
    refine Option.ext fun price => ?_
    simp only [List.min?_eq_some_iff, hkeys]
  rw [bestAskLevel, hmin, bestAskLevel]
  cases levels.keys.min? with
  | none => rfl
  | some price => simp only [h]

theorem get?_setLevel_congr {levels levels' : Dict ℚ ℚ}
    (h : ∀ price, levels'.get? price = levels.get? price) (price size : ℚ) (k : ℚ) :
    (setLevel levels' price size).get? k = (setLevel levels price size).get? k := by
  simp only [setLevel]
  split
  · simp only [Dict.get?_pop, h]
  · simp only [Dict.get?_set, h]

/-- The sides of the level changes that are supported. -/
def isBookSide (side : String) : Prop := side = "BUY" ∨ side = "SELL"

/-- A level change keeps the flags and the error of a book with a snapshot. -/
theorem changeBook_flags {s : PolymarketLocalOrderBook} {book : TokenBook} {side : String}
    (hside : isBookSide side) (hsnapshot : book.hasSnapshot = true) (price size : ℚ) :
    let changed := s.changeBook book side price size
    changed.incomplete = book.incomplete ∧ changed.validationError = book.validationError ∧
      changed.reportedBestValidationOk = true ∧ changed.hasSnapshot = true ∧
      changed.metadata = book.metadata ∧ changed.invalid = s.isMarketInvalid book := by
  have hlevel : (book.changeLevel side price size).incomplete = book.incomplete ∧
      (book.changeLevel side price size).validationError = book.validationError ∧
      (book.changeLevel side price size).hasSnapshot = true ∧
      (book.changeLevel side price size).metadata = book.metadata := by
    rcases hside with rfl | rfl <;> exact ⟨rfl, rfl, hsnapshot, rfl⟩
  obtain ⟨hincomplete, herror, hsnapshot', hmetadata⟩ := hlevel
  simp only [changeBook, TokenBook.clearResolvedOverrides, isMarketInvalid, hsnapshot', hmetadata,
    hincomplete, herror, Bool.true_eq_false, false_and, if_true, if_false, and_self]

theorem localBest_changeBook (s : PolymarketLocalOrderBook) (book : TokenBook) {side : String}
    (hside : isBookSide side) (price size : ℚ) (bookSide : BookSide) :
    (s.changeBook book side price size).localBest bookSide =
      ({ book with
        bids := if side = "BUY" then setLevel book.bids price size else book.bids
        asks := if side = "SELL" then setLevel book.asks price size else book.asks
      } : TokenBook).localBest bookSide := by
  rcases hside with rfl | rfl <;> cases bookSide <;> rfl

theorem MessageOutcome.settings {s : PolymarketLocalOrderBook} {Left Done : TokenBook → Prop}
    {updateType : UpdateType}
    {r : PolymarketLocalOrderBook × Except MessageError PolymarketQuote}
    (h : MessageOutcome s Left Done updateType r) :
    r.1.bestValidationMode = s.bestValidationMode ∧
      r.1.bestValidationToleranceTicks = s.bestValidationToleranceTicks := by
  cases h with
  | unread e result =>
      rw [result]
      exact ⟨rfl, rfl⟩
  | raised s' book e same left result =>
      rw [result]
      exact ⟨same.mode, same.ticks⟩
  | quoted s' book t before same done result =>
      rw [result]
      exact ⟨same.mode, same.ticks⟩

theorem settings_setBookMetadata (s : PolymarketLocalOrderBook) (tokenId : String)
    (m : TokenBookMetadata) :
    (s.setBookMetadata tokenId m).bestValidationMode = s.bestValidationMode ∧
      (s.setBookMetadata tokenId m).bestValidationToleranceTicks =
        s.bestValidationToleranceTicks := by
  rw [setBookMetadata]
  cases s.books.get? tokenId <;> exact ⟨rfl, rfl⟩

/-- A loop of steps that keep the settings keeps them. -/
theorem settings_foldl {α : Type*} {step : PolymarketLocalOrderBook → α → PolymarketLocalOrderBook}
    (hstep : ∀ s a, (step s a).bestValidationMode = s.bestValidationMode ∧
      (step s a).bestValidationToleranceTicks = s.bestValidationToleranceTicks) (l : List α)
    (s : PolymarketLocalOrderBook) :
    (l.foldl step s).bestValidationMode = s.bestValidationMode ∧
      (l.foldl step s).bestValidationToleranceTicks = s.bestValidationToleranceTicks := by
  induction l generalizing s with
  | nil => exact ⟨rfl, rfl⟩
  | cons a l ih =>
      obtain ⟨hmode, hticks⟩ := hstep s a
      obtain ⟨hmode', hticks'⟩ := ih (step s a)
      exact ⟨hmode'.trans hmode, hticks'.trans hticks⟩

theorem settings_next (s : PolymarketLocalOrderBook) (call : PolymarketCall) :
    (polymarketMachine.next s call).bestValidationMode = s.bestValidationMode ∧
      (polymarketMachine.next s call).bestValidationToleranceTicks =
        s.bestValidationToleranceTicks := by
  cases call with
  | applyBook payload t => exact (applyBook_outcome s payload t).settings
  | applyPriceChange row parent t => exact (applyPriceChange_outcome s row parent t).settings
  | applyBestBidAsk payload t => exact (applyBestBidAsk_outcome s payload t).settings
  | updateTickSize marketId tokenId tickSize =>
      have hstep (s : PolymarketLocalOrderBook) (token : String) :
          (updateTokenTickSize tickSize s token).bestValidationMode = s.bestValidationMode ∧
            (updateTokenTickSize tickSize s token).bestValidationToleranceTicks =
              s.bestValidationToleranceTicks := by
        rw [updateTokenTickSize]
        cases s.tokenMetadata.get? token with
        | none => exact ⟨rfl, rfl⟩
        | some m => exact settings_setBookMetadata _ token _
      refine updateTickSize_rule (P := fun s' => s'.bestValidationMode = s.bestValidationMode ∧
        s'.bestValidationToleranceTicks = s.bestValidationToleranceTicks) ⟨rfl, rfl⟩ marketId
        tokenId fun s' token hs' => ?_
      exact ⟨(hstep s' token).1.trans hs'.1, (hstep s' token).2.trans hs'.2⟩
  | updateTokenMetadata tokenMetadata active =>
      exact settings_foldl (fun s e => settings_setBookMetadata _ e.1 e.2) _ _
  | markMarketInvalid marketId => exact ⟨rfl, rfl⟩
  | recordReconnect => exact ⟨rfl, rfl⟩
  | tokenReadinessSnapshot => exact ⟨rfl, rfl⟩

theorem settings_exec (c : PolymarketSettings) (calls : List PolymarketCall) :
    (polymarketMachine.exec (.init c) calls).bestValidationMode = c.bestValidationMode ∧
      (polymarketMachine.exec (.init c) calls).bestValidationToleranceTicks =
        c.bestValidationToleranceTicks :=
  settings_foldl settings_next calls (.init c)

/-- One price change in two runs in which the book of its token has the same ladder, a
snapshot and the same metadata, and its market is not over. -/
structure PriceChangeTwice (c : PolymarketSettings) (calls calls' : List PolymarketCall)
    (row parent : Json) (t t' : MessageTimes) (price size : ℚ) (bid ask : Option ℚ)
    (q q' : PolymarketQuote) : Prop where
  level : changedLevel row = .ok (price, size)
  reported : reportedBests row = .ok (bid, ask)
  side : isBookSide (priceChangeSide row)
  snapshot : ((polymarketMachine.exec (.init c) calls).bookFor (priceChangeToken row parent)
    parent).hasSnapshot = true
  snapshot' : ((polymarketMachine.exec (.init c) calls').bookFor (priceChangeToken row parent)
    parent).hasSnapshot = true
  bids : ∀ k, ((polymarketMachine.exec (.init c) calls').bookFor (priceChangeToken row parent)
      parent).bids.get? k =
    ((polymarketMachine.exec (.init c) calls).bookFor (priceChangeToken row parent)
      parent).bids.get? k
  asks : ∀ k, ((polymarketMachine.exec (.init c) calls').bookFor (priceChangeToken row parent)
      parent).asks.get? k =
    ((polymarketMachine.exec (.init c) calls).bookFor (priceChangeToken row parent)
      parent).asks.get? k
  metadata : ((polymarketMachine.exec (.init c) calls').bookFor (priceChangeToken row parent)
      parent).metadata =
    ((polymarketMachine.exec (.init c) calls).bookFor (priceChangeToken row parent)
      parent).metadata
  valid : (polymarketMachine.exec (.init c) calls).isMarketInvalid
    ((polymarketMachine.exec (.init c) calls).bookFor (priceChangeToken row parent) parent) = false
  valid' : (polymarketMachine.exec (.init c) calls').isMarketInvalid
    ((polymarketMachine.exec (.init c) calls').bookFor (priceChangeToken row parent) parent) =
      false
  quoted : ((polymarketMachine.exec (.init c) calls).applyPriceChange row parent t).2 = .ok q
  quoted' : ((polymarketMachine.exec (.init c) calls').applyPriceChange row parent t').2 = .ok q'

/-- The reported prices are the best prices of a ladder with two sides that do not cross. -/
def ReportsLadder (changed : TokenBook) (bid ask : Option ℚ) : Prop :=
  changed.structurallyComplete = true ∧ bid.isSome ∧ bid = (changed.localBest .bid).1 ∧
    ask.isSome ∧ ask = (changed.localBest .ask).1

/-- The verdict of a price change does not depend on earlier messages: two quotes have the
same one, and a report of the ladder itself gives a complete quote without an error. -/
structure IndependentVerdict (changed : TokenBook) (bid ask : Option ℚ)
    (q q' : PolymarketQuote) : Prop where
  complete : q'.bookComplete = q.bookComplete
  error : q'.validationError = q.validationError
  ok : q'.reportedBestValidationOk = q.reportedBestValidationOk
  clean : ReportsLadder changed bid ask →
    (q.bookComplete = true ∧ q.validationError = none) ∧
      (q'.bookComplete = true ∧ q'.validationError = none)

/-- Earlier messages left nothing in two books that shows in the verdict of a price change:
the change itself makes the book incomplete, or the flags agree; it sets an error of its
own, or the errors agree, where that of the ladder stands for none; and when it reports the
ladder, nothing is left. -/
structure NothingCarried (s : PolymarketLocalOrderBook) (changed book book' : TokenBook)
    (bid ask : Option ℚ) : Prop where
  flag : s.rejects changed .bid bid = true ∨ s.rejects changed .ask ask = true ∨
    changed.structurallyComplete = false ∨ book'.incomplete = book.incomplete
  error : sideError changed .bid bid ≠ none ∨ sideError changed .ask ask ≠ none ∨
    (book'.validationError.orElse fun _ => changed.structuralValidationError).map
        ValidationError.text =
      (book.validationError.orElse fun _ => changed.structuralValidationError).map
        ValidationError.text
  clean : ReportsLadder changed bid ask →
    (book.incomplete = false ∧ book.validationError = none) ∧
      (book'.incomplete = false ∧ book'.validationError = none)

/-- The flags of the quote of a price change, from those of the book before it. -/
structure ChangeVerdict (s : PolymarketLocalOrderBook) (changed book : TokenBook)
    (bid ask : Option ℚ) (q : PolymarketQuote) : Prop where
  complete : q.bookComplete = !(book.incomplete || s.rejects changed .bid bid ||
    s.rejects changed .ask ask || !changed.structurallyComplete)
  error : q.validationError = (((sideError changed .ask ask).orElse fun _ =>
      sideError changed .bid bid).orElse fun _ =>
    book.validationError.orElse fun _ => changed.structuralValidationError).map
      ValidationError.text
  ok : q.reportedBestValidationOk =
    s.sideOk changed .ask ask (s.sideOk changed .bid bid true)

theorem applyPriceChange_verdict {s : PolymarketLocalOrderBook} {row parent : Json}
    {t : MessageTimes} {q : PolymarketQuote} (hq : (s.applyPriceChange row parent t).2 = .ok q)
    {price size : ℚ} (hlevel : changedLevel row = .ok (price, size)) {bid ask : Option ℚ}
    (hreports : reportedBests row = .ok (bid, ask)) (hside : isBookSide (priceChangeSide row))
    (hsnapshot : (s.bookFor (priceChangeToken row parent) parent).hasSnapshot = true)
    (hvalid : s.isMarketInvalid (s.bookFor (priceChangeToken row parent) parent) = false) :
    ChangeVerdict s (s.changeBook (s.bookFor (priceChangeToken row parent) parent)
      (priceChangeSide row) price size) (s.bookFor (priceChangeToken row parent) parent) bid ask
      q := by
  obtain ⟨hincomplete, herror, hok, hsnapshot', -, hinvalid⟩ :=
    changeBook_flags (s := s) hside hsnapshot price size
  have hflags := applyPriceChange_flags hq hlevel hreports
  generalize s.bookFor (priceChangeToken row parent) parent = book at *
  generalize s.changeBook book (priceChangeSide row) price size = changed at *
  have hverdict := applyReportedBest_verdict (s := s) hsnapshot' bid ask row t.receivedTs
    .priceChange
  generalize (s.applyReportedBest changed bid ask row t.receivedTs .priceChange).2.1 =
    validated at hflags hverdict
  have hview : SameView s s changed validated :=
    ⟨rfl, rfl, hverdict.ladder.localBest, hverdict.ladder.metadata, hverdict.ladder.hasSnapshot,
      hverdict.ladder.invalid⟩
  refine ⟨?_, ?_, ?_⟩
  · rw [hflags.complete, hverdict.incomplete, hverdict.ladder.invalid, hinvalid, hvalid,
      hview.structurallyComplete, hincomplete, Bool.or_false]
  · rw [hflags.error, hverdict.error, hview.structuralValidationError, herror]
    cases (sideError changed .ask ask).orElse fun _ => sideError changed .bid bid <;> rfl
  · rw [hflags.ok, hverdict.ok, hok]

theorem ChangeVerdict.view {s s' : PolymarketLocalOrderBook} {changed changed' book : TokenBook}
    (hview : SameView s s' changed changed') {bid ask : Option ℚ} {q : PolymarketQuote}
    (h : ChangeVerdict s' changed' book bid ask q) : ChangeVerdict s changed book bid ask q where
  complete := by
    rw [h.complete, hview.rejects, hview.rejects, hview.structurallyComplete]
  error := by
    rw [h.error, hview.sideError, hview.sideError, hview.structuralValidationError]
  ok := by rw [h.ok, hview.sideOk, hview.sideOk]

/-- The same level change shows the same best prices in two runs. -/
theorem PriceChangeTwice.view {c : PolymarketSettings} {calls calls' : List PolymarketCall}
    {row parent : Json} {t t' : MessageTimes} {price size : ℚ} {bid ask : Option ℚ}
    {q q' : PolymarketQuote}
    (h : PriceChangeTwice c calls calls' row parent t t' price size bid ask q q') :
    let s := polymarketMachine.exec (.init c) calls
    let s' := polymarketMachine.exec (.init c) calls'
    SameView s s'
      (s.changeBook (s.bookFor (priceChangeToken row parent) parent) (priceChangeSide row) price
        size)
      (s'.changeBook (s'.bookFor (priceChangeToken row parent) parent) (priceChangeSide row) price
        size) := by
  intro s s'
  obtain ⟨-, -, -, hsnapshot, hmetadata, hinvalid⟩ :=
    changeBook_flags (s := s) h.side h.snapshot price size
  obtain ⟨-, -, -, hsnapshot', hmetadata', hinvalid'⟩ :=
    changeBook_flags (s := s') h.side h.snapshot' price size
  obtain ⟨hmode, hticks⟩ := settings_exec c calls
  obtain ⟨hmode', hticks'⟩ := settings_exec c calls'
  refine ⟨hmode'.trans hmode.symm, hticks'.trans hticks.symm, fun side => ?_, ?_,
    hsnapshot'.trans hsnapshot.symm, ?_⟩
  · rw [localBest_changeBook _ _ h.side, localBest_changeBook _ _ h.side]
    cases side with
    | bid =>
        refine bestBidLevel_congr fun k => ?_
        dsimp only
        split
        · exact get?_setLevel_congr h.bids price size k
        · exact h.bids k
    | ask =>
        refine bestAskLevel_congr fun k => ?_
        dsimp only
        split
        · exact get?_setLevel_congr h.asks price size k
        · exact h.asks k
  · exact hmetadata'.trans (h.metadata.trans hmetadata.symm)
  · exact (hinvalid'.trans h.valid').trans (hinvalid.trans h.valid).symm

/-- A report of the ladder itself is accepted. -/
theorem ReportsLadder.accepted {changed : TokenBook} {bid ask : Option ℚ}
    (h : ReportsLadder changed bid ask) (s : PolymarketLocalOrderBook) :
    s.rejects changed .bid bid = false ∧ s.rejects changed .ask ask = false ∧
      sideError changed .bid bid = none ∧ sideError changed .ask ask = none ∧
      changed.structuralValidationError = none := by
  obtain ⟨hcomplete, hbid, hlocalBid, hask, hlocalAsk⟩ := h
  obtain ⟨bid, rfl⟩ := Option.isSome_iff_exists.mp hbid
  obtain ⟨ask, rfl⟩ := Option.isSome_iff_exists.mp hask
  have hequal (price : ℚ) : pricesEqual price price = true := by
    simp [pricesEqual]
  obtain ⟨hsnapshot, -, bid', bidSize, ask', askSize, hsides⟩ :=
    structurallyComplete_iff.mp hcomplete
  refine ⟨?_, ?_, ?_, ?_, ?_⟩
  · rw [rejects_of_local hlocalBid.symm, hequal]
    rfl
  · rw [rejects_of_local hlocalAsk.symm, hequal]
    rfl
  · simp only [sideError, ← hlocalBid, hequal, if_true]
  · simp only [sideError, ← hlocalAsk, hequal, if_true]
  · simp [TokenBook.structuralValidationError, TokenBook.localBest, hsides.bestBid, hsides.bestAsk,
      hsnapshot, not_le.mpr hsides.uncrossed]

/-- A report of the ladder gives a complete quote without an error exactly when earlier
messages left no flag and no error. -/
theorem ChangeVerdict.clean_iff {s : PolymarketLocalOrderBook} {changed book : TokenBook}
    {bid ask : Option ℚ} {q : PolymarketQuote} (h : ChangeVerdict s changed book bid ask q)
    (hladder : ReportsLadder changed bid ask) :
    (q.bookComplete = true ∧ q.validationError = none) ↔
      (book.incomplete = false ∧ book.validationError = none) := by
  obtain ⟨hbid, hask, hbidError, haskError, hstructural⟩ := hladder.accepted s
  rw [h.complete, h.error, hbid, hask, hladder.1, hbidError, haskError, hstructural]
  cases book.incomplete <;> cases book.validationError <;> simp

/-- A report of the best prices of the ladder gives a complete quote without an error, whatever
earlier messages left. -/
theorem applyBestBidAsk_clean {s : PolymarketLocalOrderBook} {payload : Json} {t : MessageTimes}
    {q : PolymarketQuote} (hq : (s.applyBestBidAsk payload t).2 = .ok q) {bid ask : Option ℚ}
    (hreports : reportedBests payload = .ok (bid, ask))
    (hladder : ReportsLadder (s.bookFor (bestBidAskToken payload) payload) bid ask)
    (hvalid : s.isMarketInvalid (s.bookFor (bestBidAskToken payload) payload) = false) :
    q.bookComplete = true ∧ q.validationError = none := by
  have hflags := applyBestBidAsk_flags hq hreports
  generalize s.bookFor (bestBidAskToken payload) payload = book at *
  obtain ⟨hsnapshot, hinvalid, -⟩ := structurallyComplete_iff.mp hladder.1
  have hcleared : SameLadder book (clearFlags book) := ⟨rfl, rfl, rfl, rfl, rfl, rfl⟩
  obtain ⟨hbid, hask, hbidError, haskError, hstructural⟩ := hladder.accepted s
  obtain ⟨hs, hspec⟩ := applyReportedBest_spec s (clearFlags book) bid ask payload t.receivedTs
    .bestBidAsk
  have hverdict : Verdict s (clearFlags book) bid ask
      (s.applyReportedBest (clearFlags book) bid ask payload t.receivedTs .bestBidAsk).2.1 :=
    applyReportedBest_verdict (hcleared.hasSnapshot.trans hsnapshot) bid ask payload t.receivedTs
      .bestBidAsk
  generalize s.applyReportedBest (clearFlags book) bid ask payload t.receivedTs .bestBidAsk = r
    at hs hspec hverdict hflags
  have hbook := hcleared.trans hverdict.ladder
  have hvalid' : r.1.isMarketInvalid r.2.1 = false := by
    rw [← hvalid]
    simp only [isMarketInvalid, hs.marketInvalid, hbook.metadata]
  have hincomplete : r.2.1.incomplete = false := by
    rw [hverdict.incomplete, rejects_congr (.refl s) hcleared, rejects_congr (.refl s) hcleared,
      hbid, hask]
    simp [clearFlags, hsnapshot]
  have herror : r.2.1.validationError = none := by
    rw [hverdict.error, sideError_congr hcleared, sideError_congr hcleared, hbidError, haskError]
    simp [clearFlags, hsnapshot]
  have hshows : SameView s s book { r.2.1 with
      incomplete := if r.2.1.hasSnapshot then r.2.1.incomplete else true
      invalid := r.1.isMarketInvalid r.2.1 } :=
    ⟨rfl, rfl, hbook.localBest, hbook.metadata, hbook.hasSnapshot, hvalid'.trans hinvalid.symm⟩
  refine ⟨?_, ?_⟩
  · rw [hflags.complete, hshows.structurallyComplete, hladder.1]
    simp [hincomplete, hbook.hasSnapshot, hsnapshot, hvalid']
  · rw [hflags.error, hshows.structuralValidationError, hstructural]
    simp [herror]

/-- **When the verdict of a price change does not depend on earlier messages.** -/
theorem price_change_verdict_iff (c : PolymarketSettings) (calls calls' : List PolymarketCall)
    (row parent : Json) (t t' : MessageTimes) (price size : ℚ) (bid ask : Option ℚ)
    (q q' : PolymarketQuote)
    (h : PriceChangeTwice c calls calls' row parent t t' price size bid ask q q') :
    let s := polymarketMachine.exec (.init c) calls
    let s' := polymarketMachine.exec (.init c) calls'
    let book := s.bookFor (priceChangeToken row parent) parent
    let book' := s'.bookFor (priceChangeToken row parent) parent
    let changed := s.changeBook book (priceChangeSide row) price size
    IndependentVerdict changed bid ask q q' ↔ NothingCarried s changed book book' bid ask := by
  intro s s' book book' changed
  have hverdict : ChangeVerdict s changed book bid ask q :=
    applyPriceChange_verdict h.quoted h.level h.reported h.side h.snapshot h.valid
  have hverdict' : ChangeVerdict s changed book' bid ask q' :=
    (applyPriceChange_verdict h.quoted' h.level h.reported h.side h.snapshot' h.valid').view
      h.view
  have hcomplete : q'.bookComplete = q.bookComplete ↔
      s.rejects changed .bid bid = true ∨ s.rejects changed .ask ask = true ∨
        changed.structurallyComplete = false ∨ book'.incomplete = book.incomplete := by
    rw [hverdict.complete, hverdict'.complete]
    cases s.rejects changed .bid bid <;> cases s.rejects changed .ask ask <;>
      cases changed.structurallyComplete <;> simp
  have herror : q'.validationError = q.validationError ↔
      sideError changed .bid bid ≠ none ∨ sideError changed .ask ask ≠ none ∨
        (book'.validationError.orElse fun _ => changed.structuralValidationError).map
            ValidationError.text =
          (book.validationError.orElse fun _ => changed.structuralValidationError).map
            ValidationError.text := by
    rw [hverdict.error, hverdict'.error]
    cases sideError changed .bid bid <;> cases sideError changed .ask ask <;> simp
  constructor
  · intro hindependent
    refine ⟨hcomplete.mp hindependent.complete, herror.mp hindependent.error, fun hladder => ?_⟩
    obtain ⟨hclean, hclean'⟩ := hindependent.clean hladder
    exact ⟨(hverdict.clean_iff hladder).mp hclean, (hverdict'.clean_iff hladder).mp hclean'⟩
  · intro hcarried
    refine ⟨hcomplete.mpr hcarried.flag, herror.mpr hcarried.error,
      hverdict'.ok.trans hverdict.ok.symm, fun hladder => ?_⟩
    obtain ⟨hclean, hclean'⟩ := hcarried.clean hladder
    exact ⟨(hverdict.clean_iff hladder).mpr hclean, (hverdict'.clean_iff hladder).mpr hclean'⟩

/-! ### A flag that stays -/

/-- A change of the bid level at `price`, and the best prices it reports. -/
def bidChange (price bid ask : ℚ) : Json :=
  .obj [("asset_id", .str "up"), ("side", .str "BUY"), ("price", .float price),
    ("size", .float 10), ("best_bid", .float bid), ("best_ask", .float ask)]

/-- A run that leaves a ladder from `0.45` to `0.55`. -/
def bookRun : List PolymarketCall := [.applyBook (bookMessage (45 / 100) (55 / 100)) (timesAt 1)]

/-- The same run, after which a change of nothing reports a bid of `0.40`. -/
def mismatchRun : List PolymarketCall :=
  bookRun ++ [.applyPriceChange (bidChange (45 / 100) (40 / 100) (55 / 100)) .null (timesAt 2)]

/-- The change of which the report is the ladder. -/
def ladderReport : Json := bidChange (45 / 100) (45 / 100) (55 / 100)

theorem ladderReport_twice : ∃ q q' : PolymarketQuote,
    PriceChangeTwice defaultSettings bookRun mismatchRun ladderReport .null (timesAt 2) (timesAt 3)
      (45 / 100) 10 (some (45 / 100)) (some (55 / 100)) q q' ∧
    q.bookComplete = true ∧ q'.bookComplete = false := by
  have hquote : (((polymarketMachine.exec (.init defaultSettings) bookRun).applyPriceChange
    ladderReport .null (timesAt 2)).2.toOption.any PolymarketQuote.bookComplete) = true := by
    decide +kernel
  have hquote' : (((polymarketMachine.exec (.init defaultSettings) mismatchRun).applyPriceChange
    ladderReport .null (timesAt 3)).2.toOption.any fun q => !q.bookComplete) = true := by
    decide +kernel
  obtain ⟨q, hq, hcomplete⟩ := exists_ok hquote
  obtain ⟨q', hq', hincomplete⟩ := exists_ok hquote'
  have hbids : ((polymarketMachine.exec (.init defaultSettings) mismatchRun).bookFor
      (priceChangeToken ladderReport .null) .null).bids =
    ((polymarketMachine.exec (.init defaultSettings) bookRun).bookFor
      (priceChangeToken ladderReport .null) .null).bids := by decide +kernel
  have hasks : ((polymarketMachine.exec (.init defaultSettings) mismatchRun).bookFor
      (priceChangeToken ladderReport .null) .null).asks =
    ((polymarketMachine.exec (.init defaultSettings) bookRun).bookFor
      (priceChangeToken ladderReport .null) .null).asks := by decide +kernel
  exact ⟨q, q', {
    level := by decide +kernel
    reported := by decide +kernel
    side := Or.inl (by decide +kernel)
    snapshot := by decide +kernel
    snapshot' := by decide +kernel
    bids := fun k => congrArg (fun levels => levels.get? k) hbids
    asks := fun k => congrArg (fun levels => levels.get? k) hasks
    metadata := by decide +kernel
    valid := by decide +kernel
    valid' := by decide +kernel
    quoted := hq
    quoted' := hq' }, hcomplete, by simpa using hincomplete⟩

/-- The theorem applied to the two runs. -/
theorem price_change_verdict_ladderReport : ∃ q q' : PolymarketQuote,
    let s := polymarketMachine.exec (.init defaultSettings) bookRun
    let s' := polymarketMachine.exec (.init defaultSettings) mismatchRun
    let book := s.bookFor (priceChangeToken ladderReport .null) .null
    let book' := s'.bookFor (priceChangeToken ladderReport .null) .null
    let changed := s.changeBook book (priceChangeSide ladderReport) (45 / 100) 10
    IndependentVerdict changed (some (45 / 100)) (some (55 / 100)) q q' ↔
      NothingCarried s changed book book' (some (45 / 100)) (some (55 / 100)) := by
  obtain ⟨q, q', htwice, -, -⟩ := ladderReport_twice
  exact ⟨q, q', price_change_verdict_iff defaultSettings bookRun mismatchRun ladderReport .null
    (timesAt 2) (timesAt 3) (45 / 100) 10 (some (45 / 100)) (some (55 / 100)) q q' htwice⟩

/-- The flag of a rejected report shows in the quote of a later change that reports the
ladder. -/
theorem mismatch_flags_later_change :
    ¬ ∀ (c : PolymarketSettings) (calls calls' : List PolymarketCall) (row parent : Json)
      (t t' : MessageTimes) (price size : ℚ) (bid ask : Option ℚ) (q q' : PolymarketQuote),
      PriceChangeTwice c calls calls' row parent t t' price size bid ask q q' →
      let s := polymarketMachine.exec (.init c) calls
      IndependentVerdict (s.changeBook (s.bookFor (priceChangeToken row parent) parent)
        (priceChangeSide row) price size) bid ask q q' := by
  intro h
  obtain ⟨q, q', htwice, hcomplete, hincomplete⟩ := ladderReport_twice
  have hsame : q'.bookComplete = q.bookComplete :=
    (h _ _ _ _ _ _ _ _ _ _ _ _ _ htwice).complete
  rw [hcomplete, hincomplete] at hsame
  cases hsame

end SomethingTrade
