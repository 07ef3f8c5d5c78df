import SomethingTrade.PolymarketMessages

/-!
# Complete Quotes

A quote called complete is meant to be the local ladder: prices with known sizes. A
reported price that was rejected overrides the ladder, and the flag it sets with the
override keeps the quotes incomplete. A best-prices message clears the flag; it may leave
an override behind that it neither confirms nor rejects, and the quotes that follow are
complete with a price that is not in the ladder and has no size
(`PolymarketLocalOrderBook.stale_override_is_complete`).

## Main results

* `soundBook_iff_clearsSoundly`: when a best-prices message leaves no such override.
* `PolymarketLocalOrderBook.complete_quotes_are_ladder`: in runs whose best-prices
  messages leave none, every complete quote is the ladder.
-/

namespace SomethingTrade

open PolymarketLocalOrderBook

/-- A quote is the ladder of the book of its token: a book with a snapshot in a market
that is not marked invalid, best prices with their sizes, and no crossing. -/
structure LadderQuote (s : PolymarketLocalOrderBook) (q : PolymarketQuote)
    (book : TokenBook) : Prop where
  stored : s.books.get? q.tokenId = some book
  hasSnapshot : book.hasSnapshot = true
  marketValid : s.marketInvalid.get? q.marketId = none
  bestBid : ∃ price size, q.bestBid = some price ∧ q.bestBidSize = some size ∧
    IsGreatest { k | k ∈ book.bids.keys } price ∧ book.bids.get? price = some size
  bestAsk : ∃ price size, q.bestAsk = some price ∧ q.bestAskSize = some size ∧
    IsLeast { k | k ∈ book.asks.keys } price ∧ book.asks.get? price = some size
  uncrossed : ∀ b ∈ q.bestBid, ∀ a ∈ q.bestAsk, b < a

/-- A book that is not flagged incomplete has no override. -/
def OverridesFlagged (book : TokenBook) : Prop :=
  book.incomplete = false → ∀ side, book.override side = none

/-- The invariant of the books. -/
structure SoundBook (token : String) (book : TokenBook) : Prop where
  tokenId : book.tokenId = token
  flagged : OverridesFlagged book

theorem overridesFlagged_of_incomplete {book : TokenBook} (h : book.incomplete = true) :
    OverridesFlagged book := by
  intro hfalse
  rw [h] at hfalse
  cases hfalse

theorem OverridesFlagged.congr {book book' : TokenBook} (h : OverridesFlagged book)
    (hincomplete : book'.incomplete = book.incomplete)
    (hoverride : ∀ side, book'.override side = book.override side) :
    OverridesFlagged book' := by
  intro hfalse side
  rw [hoverride]
  exact h (hincomplete ▸ hfalse) side

theorem soundBook_rule : BookRule SoundBook where
  init token metadata := ⟨rfl, overridesFlagged_of_incomplete rfl⟩
  touch token book t h := ⟨h.tokenId, h.flagged.congr rfl fun side => by cases side <;> rfl⟩
  metadata token book m h := ⟨h.tokenId, h.flagged.congr rfl fun side => by cases side <;> rfl⟩
  marked token book h := ⟨h.tokenId, overridesFlagged_of_incomplete rfl⟩
  token token book h := h.tokenId

/-! ### The condition -/

/-- After a best-prices message a side has no override: it had none, or the reported
price is the ladder's. -/
def settles (book : TokenBook) (side : BookSide) (reported : Option ℚ) : Bool :=
  (book.override side).isNone || agrees book side reported

/-- A best-prices message for a token with a snapshot rejects a price, or settles both
sides. -/
def clearsSoundly (s : PolymarketLocalOrderBook) : PolymarketCall → Bool
  | .applyBestBidAsk payload _ =>
      match reportedBests payload with
      | .ok (bid, ask) =>
          let book := s.bookFor (bestBidAskToken payload) payload
          !book.hasSnapshot ||
            (s.rejects book .bid bid || s.rejects book .ask ask ||
              settles book .bid bid && settles book .ask ask)
      | .error _ => true
  | _ => true

/-- Every step of a run clears soundly. -/
abbrev ClearsSoundly (s : PolymarketLocalOrderBook) (call : PolymarketCall) : Prop :=
  clearsSoundly s call = true

theorem sameLadder_clearFlags (book : TokenBook) : SameLadder book (clearFlags book) :=
  ⟨rfl, rfl, rfl, rfl, rfl, rfl⟩

/-- The override a side keeps when its price is not rejected. -/
theorem overrideAfter_eq_none_iff {s : PolymarketLocalOrderBook} {book : TokenBook}
    {side : BookSide} {reported : Option ℚ} (h : s.rejects book side reported = false) :
    s.overrideAfter book side reported = none ↔ settles book side reported = true := by
  rw [overrideAfter, if_neg (by simp [h]), settles]
  cases agrees book side reported <;> simp

/-- **A best-prices message for a token with a snapshot leaves no unflagged override
exactly when it rejects a price or settles both sides.** -/
theorem soundBook_iff_clearsSoundly {s : PolymarketLocalOrderBook} {book book' : TokenBook}
    {bid ask : Option ℚ} (hsnapshot : book.hasSnapshot = true)
    (h : ReportedBest s (clearFlags book) bid ask book') :
    OverridesFlagged book' ↔
      (s.rejects book .bid bid || s.rejects book .ask ask ||
        settles book .bid bid && settles book .ask ask) = true := by
  have hl := sameLadder_clearFlags book
  have hoverride : ∀ side, book'.override side =
      s.overrideAfter book side (side.pick bid ask) := by
    intro side
    rw [h.override hsnapshot side, overrideAfter, overrideAfter, rejects_congr (.refl s) hl,
      agrees_congr hl]
    cases side <;> rfl
  have hincomplete : book'.incomplete =
      (s.rejects book .bid bid || s.rejects book .ask ask) := by
    rw [h.incomplete, rejects_congr (.refl s) hl, rejects_congr (.refl s) hl, clearFlags,
      hsnapshot]
    rfl
  cases hrejects : s.rejects book .bid bid || s.rejects book .ask ask with
  | true =>
      rw [Bool.true_or]
      exact iff_of_true (overridesFlagged_of_incomplete (hincomplete.trans hrejects)) rfl
  | false =>
      obtain ⟨hbid, hask⟩ := Bool.or_eq_false_iff.mp hrejects
      rw [Bool.false_or, Bool.and_eq_true, ← overrideAfter_eq_none_iff hbid,
        ← overrideAfter_eq_none_iff hask]
      constructor
      · intro hflagged
        have hnone := hflagged (hincomplete.trans hrejects)
        exact ⟨(hoverride .bid).symm.trans (hnone .bid), (hoverride .ask).symm.trans (hnone .ask)⟩
      · rintro ⟨hb, ha⟩ - side
        rw [hoverride]
        cases side
        · exact hb
        · exact ha

/-! ### Messages -/

/-- Without a snapshot, reported best prices leave the book incomplete. -/
theorem ReportedBest.incomplete_of_noSnapshot {s : PolymarketLocalOrderBook}
    {book book' : TokenBook} {bid ask : Option ℚ} (h : ReportedBest s book bid ask book')
    (hsnapshot : book.hasSnapshot = false) : book'.incomplete = true := by
  rw [h.incomplete, hsnapshot]
  rfl

/-- Reported best prices keep a book flagged that was. -/
theorem ReportedBest.flagged {s : PolymarketLocalOrderBook} {book book' : TokenBook}
    {bid ask : Option ℚ} (h : ReportedBest s book bid ask book') (hb : OverridesFlagged book) :
    OverridesFlagged book' := by
  intro hfalse side
  rw [h.incomplete] at hfalse
  simp only [Bool.or_eq_false_iff, Bool.not_eq_false'] at hfalse
  obtain ⟨⟨⟨hsnapshot, hincomplete⟩, hbid⟩, hask⟩ := hfalse
  have hnone := hb hincomplete side
  rw [h.override hsnapshot side]
  cases side with
  | bid => exact (overrideAfter_eq_none_iff hbid).mpr (by rw [settles, hnone]; rfl)
  | ask => exact (overrideAfter_eq_none_iff hask).mpr (by rw [settles, hnone]; rfl)

theorem flagged_changeBook {book : TokenBook} (h : OverridesFlagged book)
    (s : PolymarketLocalOrderBook) (side : String) (price size : ℚ) :
    OverridesFlagged (s.changeBook book side price size) := by
  have hlevel : (book.changeLevel side price size).incomplete = book.incomplete ∧
      (book.changeLevel side price size).bestBidOverride = book.bestBidOverride ∧
      (book.changeLevel side price size).bestAskOverride = book.bestAskOverride := by
    rw [TokenBook.changeLevel]
    split
    · exact ⟨rfl, rfl, rfl⟩
    · split <;> exact ⟨rfl, rfl, rfl⟩
  intro hfalse side'
  simp only [changeBook, TokenBook.clearResolvedOverrides] at hfalse ⊢
  split at hfalse
  · rw [hlevel.1] at hfalse
    have hnone := h hfalse
    have hbid : book.bestBidOverride = none := hnone .bid
    have hask : book.bestAskOverride = none := hnone .ask
    cases side' with
    | bid => simp [TokenBook.override, hlevel.2.1, hbid]
    | ask => simp [TokenBook.override, hlevel.2.2, hask]
  · cases hfalse

theorem flagged_bookDone {s : PolymarketLocalOrderBook} {payload : Json}
    {book : TokenBook} (h : BookDone s payload book) :
    OverridesFlagged book := by
  obtain ⟨token, bids, asks, rfl⟩ := h
  exact fun _ side => by cases side <;> rfl

/-- A best-prices message that clears soundly leaves its book flagged. -/
theorem flagged_reportedBest {s : PolymarketLocalOrderBook} {payload : Json}
    {t : MessageTimes} {bid ask : Option ℚ} {book : TokenBook}
    (hclear : ClearsSoundly s (.applyBestBidAsk payload t))
    (hbests : reportedBests payload = .ok (bid, ask))
    (h : ReportedBest s (clearFlags (s.bookFor (bestBidAskToken payload) payload)) bid ask
      book) : OverridesFlagged book := by
  cases hsnapshot : (s.bookFor (bestBidAskToken payload) payload).hasSnapshot with
  | true =>
      rw [ClearsSoundly, clearsSoundly, hbests] at hclear
      simp only [hsnapshot, Bool.not_true, Bool.false_or] at hclear
      exact (soundBook_iff_clearsSoundly hsnapshot h).mpr hclear
  | false => exact overridesFlagged_of_incomplete (h.incomplete_of_noSnapshot hsnapshot)

theorem flagged_bestBidAskDone {s : PolymarketLocalOrderBook} {payload : Json}
    {t : MessageTimes} {book : TokenBook}
    (hclear : ClearsSoundly s (.applyBestBidAsk payload t))
    (h : BestBidAskDone s payload book) : OverridesFlagged book := by
  obtain ⟨bid, ask, validated, hbests, hreported, rfl⟩ := h
  have hflagged := flagged_reportedBest hclear hbests hreported
  intro hfalse side
  dsimp only at hfalse
  split at hfalse
  · have hnone := hflagged hfalse side
    cases side <;> exact hnone
  · cases hfalse

section

variable {s : PolymarketLocalOrderBook} (hs : EachBook SoundBook s)

include hs

theorem soundBook_bookFor (token : String) (payload : Json) :
    SoundBook token (s.bookFor token payload) := hs.bookFor soundBook_rule token payload

theorem flagged_bookLeft {payload : Json} {book : TokenBook} (h : BookLeft s payload book) :
    OverridesFlagged book := by
  obtain ⟨token, rfl | ⟨bids, rfl⟩⟩ := h
  · exact (soundBook_bookFor hs token payload).flagged
  · exact (soundBook_bookFor hs token payload).flagged.congr rfl
      fun side => by cases side <;> rfl

theorem flagged_priceChangeDone {row parent : Json} {book : TokenBook}
    (h : PriceChangeDone s row parent book) : OverridesFlagged book := by
  obtain ⟨price, size, bid, ask, -, -, hreported⟩ := h
  exact hreported.flagged (flagged_changeBook (soundBook_bookFor hs _ _).flagged _ _ _ _)

theorem flagged_priceChangeLeft {row parent : Json} {book : TokenBook}
    (h : PriceChangeLeft s row parent book) : OverridesFlagged book := by
  rcases h with rfl | ⟨price, size, rfl⟩ | hdone
  · exact (soundBook_bookFor hs _ _).flagged
  · exact flagged_changeBook (soundBook_bookFor hs _ _).flagged _ _ _ _
  · exact flagged_priceChangeDone hs hdone

theorem flagged_bestBidAskLeft {payload : Json} {t : MessageTimes} {book : TokenBook}
    (hclear : ClearsSoundly s (.applyBestBidAsk payload t))
    (h : BestBidAskLeft s payload book) : OverridesFlagged book := by
  rcases h with rfl | ⟨bid, ask, hbests, hreported⟩
  · exact (soundBook_bookFor hs _ _).flagged
  · exact flagged_reportedBest hclear hbests hreported

/-- **Every call whose step clears soundly keeps the books sound.** -/
theorem soundBook_next {call : PolymarketCall} (hclear : ClearsSoundly s call) :
    EachBook SoundBook (polymarketMachine.next s call) := by
  cases call with
  | applyBook payload t =>
      exact (applyBook_outcome s payload t).eachBook soundBook_rule hs
        (fun _ h => ⟨rfl, flagged_bookLeft hs h⟩) fun _ h => ⟨rfl, flagged_bookDone h⟩
  | applyPriceChange row parent t =>
      exact (applyPriceChange_outcome s row parent t).eachBook soundBook_rule hs
        (fun _ h => ⟨rfl, flagged_priceChangeLeft hs h⟩)
        fun _ h => ⟨rfl, flagged_priceChangeDone hs h⟩
  | applyBestBidAsk payload t =>
      exact (applyBestBidAsk_outcome s payload t).eachBook soundBook_rule hs
        (fun _ h => ⟨rfl, flagged_bestBidAskLeft hs hclear h⟩)
        fun _ h => ⟨rfl, flagged_bestBidAskDone hclear h⟩
  | _ => exact hs.quiet soundBook_rule trivial

end

/-! ### Complete quotes -/

/-- The quoted books know whether their market is valid. -/
theorem invalid_bookDone {s : PolymarketLocalOrderBook} {payload : Json} {book : TokenBook}
    (h : BookDone s payload book) : book.invalid = s.isMarketInvalid book := by
  obtain ⟨token, bids, asks, rfl⟩ := h
  rfl

theorem invalid_priceChangeDone {s : PolymarketLocalOrderBook} {row parent : Json}
    {book : TokenBook} (h : PriceChangeDone s row parent book) :
    book.invalid = s.isMarketInvalid book := by
  obtain ⟨price, size, bid, ask, -, -, hreported⟩ := h
  rw [hreported.ladder.invalid, isMarketInvalid, hreported.ladder.metadata]
  rfl

theorem invalid_bestBidAskDone {s : PolymarketLocalOrderBook} {payload : Json}
    {book : TokenBook} (h : BestBidAskDone s payload book) :
    book.invalid = s.isMarketInvalid book := by
  obtain ⟨bid, ask, validated, -, -, rfl⟩ := h
  rfl

/-- A complete quote of a flagged book is the ladder. -/
theorem ladderQuote_of_flagged {s s' r : PolymarketLocalOrderBook} {book : TokenBook}
    {t : MessageTimes} {updateType : UpdateType}
    (hflagged : OverridesFlagged book) (hinvalid : book.invalid = s.isMarketInvalid book)
    (hstored : r.books.get? book.tokenId = some (book.touch t))
    (hmarket : r.marketInvalid = s.marketInvalid)
    (hcomplete : (s'.quote (book.touch t) t updateType).bookComplete = true) :
    LadderQuote r (s'.quote (book.touch t) t updateType) (book.touch t) := by
  obtain ⟨hincomplete, hstructure⟩ := bookComplete_iff.mp hcomplete
  obtain ⟨hsnapshot, hvalid, bid, bidSize, ask, askSize, hladder⟩ :=
    structurallyComplete_iff.mp hstructure
  have hbidOverride : book.bestBidOverride = none := hflagged hincomplete .bid
  have haskOverride : book.bestAskOverride = none := hflagged hincomplete .ask
  have hbid := bestBidLevel_eq_iff.mp hladder.bestBid
  have hask := bestAskLevel_eq_iff.mp hladder.bestAsk
  have hbidBest : bestBidLevel book.bids = (some bid, some bidSize) := hladder.bestBid
  have haskBest : bestAskLevel book.asks = (some ask, some askSize) := hladder.bestAsk
  have hquote : (s'.quote (book.touch t) t updateType).bestBid = some bid ∧
      (s'.quote (book.touch t) t updateType).bestBidSize = some bidSize ∧
      (s'.quote (book.touch t) t updateType).bestAsk = some ask ∧
      (s'.quote (book.touch t) t updateType).bestAskSize = some askSize := by
    simp [PolymarketLocalOrderBook.quote, TokenBook.touch, TokenBook.localBest, hbidOverride,
      haskOverride, hbidBest, haskBest]
  obtain ⟨hqb, hqbs, hqa, hqas⟩ := hquote
  have hmarketValid : s.isMarketInvalid book = false := hinvalid ▸ hvalid
  refine ⟨hstored, hsnapshot, ?_, ⟨bid, bidSize, hqb, hqbs, hbid.1, hbid.2⟩,
    ⟨ask, askSize, hqa, hqas, hask.1, hask.2⟩, ?_⟩
  · rw [isMarketInvalid, Option.isSome_eq_false_iff, Option.isNone_iff_eq_none] at hmarketValid
    rw [hmarket]
    exact hmarketValid
  · intro b hb a ha
    rw [hqb] at hb
    rw [hqa] at ha
    cases hb
    cases ha
    exact hladder.uncrossed

/-- A complete quote after a step that clears soundly is the ladder. -/
theorem ladderQuote_of_sound {s : PolymarketLocalOrderBook} (hs : EachBook SoundBook s)
    {call : PolymarketCall} (hclear : ClearsSoundly s call) {q : PolymarketQuote}
    (hq : polymarketMachine.out s call = .quote q) (hcomplete : q.bookComplete = true) :
    ∃ book, LadderQuote (polymarketMachine.next s call) q book := by
  rcases out_quote hq with ⟨payload, t, rfl, hout⟩ | ⟨row, parent, t, rfl, hout⟩ |
    ⟨payload, t, rfl, hout⟩
  · obtain ⟨s', book, t', -, hdone, rfl, hstored, hmarket⟩ :=
      (applyBook_outcome s payload t).quote hout
    exact ⟨_, ladderQuote_of_flagged (flagged_bookDone hdone) (invalid_bookDone hdone)
      hstored hmarket hcomplete⟩
  · obtain ⟨s', book, t', -, hdone, rfl, hstored, hmarket⟩ :=
      (applyPriceChange_outcome s row parent t).quote hout
    exact ⟨_, ladderQuote_of_flagged (flagged_priceChangeDone hs hdone)
      (invalid_priceChangeDone hdone) hstored hmarket hcomplete⟩
  · obtain ⟨s', book, t', -, hdone, rfl, hstored, hmarket⟩ :=
      (applyBestBidAsk_outcome s payload t).quote hout
    exact ⟨_, ladderQuote_of_flagged (flagged_bestBidAskDone hclear hdone)
      (invalid_bestBidAskDone hdone) hstored hmarket hcomplete⟩

theorem soundBook_init (c : PolymarketSettings) :
    EachBook SoundBook (PolymarketLocalOrderBook.init c) := by
  intro e he
  cases he

/-- **Complete quotes are the ladder**, in every run whose best-prices messages leave no
unflagged override. -/
theorem PolymarketLocalOrderBook.complete_quotes_are_ladder (c : PolymarketSettings)
    (calls : List PolymarketCall)
    (hclear : polymarketMachine.StepsMeet ClearsSoundly (PolymarketLocalOrderBook.init c)
      calls) :
    ∀ pre call post, calls = pre ++ call :: post →
      let s := polymarketMachine.exec (PolymarketLocalOrderBook.init c) pre
      ∀ q, polymarketMachine.out s call = .quote q → q.bookComplete = true →
        ∃ book, LadderQuote (polymarketMachine.next s call) q book := by
  rintro pre call post rfl s q hq hcomplete
  obtain ⟨hpre, hcall, -⟩ := (polymarketMachine.stepsMeet_append _ pre (call :: post)).mp hclear
  have hs : EachBook SoundBook s := polymarketMachine.exec_invariant_while
    (I := EachBook SoundBook) (fun _ _ hs hclear => soundBook_next hs hclear)
    (soundBook_init c) hpre
  exact ladderQuote_of_sound hs hcall hq hcomplete

/-! ### Runs with one token -/

/-- A decoded message of fields. -/
def levelRow (price size : ℚ) : Json := .obj [("price", .float price), ("size", .float size)]

/-- A book of one level on each side. -/
def bookMessage (bid ask : ℚ) : Json :=
  .obj [("asset_id", .str "up"), ("bids", .arr [levelRow bid 10]),
    ("asks", .arr [levelRow ask 10])]

/-- A report of the best prices. -/
def bestBidAskMessage (bid ask : ℚ) : Json :=
  .obj [("asset_id", .str "up"), ("best_bid", .float bid), ("best_ask", .float ask)]

/-- Times of a message at `ts`. -/
def timesAt (ts : ℤ) : MessageTimes where
  tsNs := ts
  receivedTs := ts
  parseDoneTs := ts
  recvMonotonicNs := ts
  parseDoneMonotonicNs := ts
  eventTs := none
  sequence := .null

/-- The default settings, without sampling. -/
def defaultSettings : PolymarketSettings where
  tokenMetadata := .ofList [("up", ⟨none, "market", .up, 1 / 100⟩)]
  staleAfterMs := 1000
  bestValidationMode := .tolerant
  bestValidationToleranceTicks := 1
  mismatchSamplePath := none
  mismatchSamplePerTokenPerMin := 20

/-- The quote of a reply. -/
def PolymarketReply.quote? : PolymarketReply → Option PolymarketQuote
  | .quote q => some q
  | _ => none

theorem exists_quote {r : PolymarketReply} {p : PolymarketQuote → Bool}
    (h : r.quote?.any p = true) : ∃ q, r = .quote q ∧ p q = true := by
  cases r with
  | quote q => exact ⟨q, rfl, h⟩
  | _ => cases h

/-- The order book of one token with a ladder from `0.45` to `0.55`. -/
def oneLadder : PolymarketLocalOrderBook :=
  polymarketMachine.exec (PolymarketLocalOrderBook.init defaultSettings)
    [.applyBook (bookMessage (45 / 100) (55 / 100)) (timesAt 1)]

theorem PolymarketLocalOrderBook.complete_quotes_are_ladder_agreeing :
    let call := PolymarketCall.applyBestBidAsk (bestBidAskMessage (45 / 100) (55 / 100))
      (timesAt 2)
    ∃ q book, polymarketMachine.out oneLadder call = .quote q ∧ q.bookComplete = true ∧
      LadderQuote (polymarketMachine.next oneLadder call) q book := by
  intro call
  have hcomplete : ((polymarketMachine.out oneLadder call).quote?.any
    PolymarketQuote.bookComplete) = true := by decide +kernel
  obtain ⟨q, hq, hc⟩ := exists_quote hcomplete
  obtain ⟨book, hbook⟩ := PolymarketLocalOrderBook.complete_quotes_are_ladder defaultSettings
    [.applyBook (bookMessage (45 / 100) (55 / 100)) (timesAt 1), call]
    ⟨by decide +kernel, by decide +kernel, trivial⟩ [_] call [] rfl q hq hc
  exact ⟨q, book, hq, hc, hbook⟩

/-- **A complete quote that is not the ladder.** The ladder is `0.45` to `0.55`. A
reported bid of `0.48` is rejected and overrides the ladder; a report of `0.46` is within
tolerance, which clears the flag and keeps the override. -/
theorem PolymarketLocalOrderBook.stale_override_is_complete :
    ¬ ∀ (c : PolymarketSettings) (pre : List PolymarketCall) (call : PolymarketCall),
      let s := polymarketMachine.exec (PolymarketLocalOrderBook.init c) pre
      ∀ q, polymarketMachine.out s call = .quote q → q.bookComplete = true →
        ∃ book, LadderQuote (polymarketMachine.next s call) q book := by
  intro h
  have hsizeless : ((polymarketMachine.out (polymarketMachine.exec
      (PolymarketLocalOrderBook.init defaultSettings)
      [.applyBook (bookMessage (45 / 100) (55 / 100)) (timesAt 1),
        .applyBestBidAsk (bestBidAskMessage (48 / 100) (55 / 100)) (timesAt 2)])
      (.applyBestBidAsk (bestBidAskMessage (46 / 100) (55 / 100)) (timesAt 3))).quote?.any
      fun q => q.bookComplete && q.bestBidSize.isNone) = true := by decide +kernel
  obtain ⟨q, hq, hp⟩ := exists_quote hsizeless
  obtain ⟨hcomplete, hsize⟩ := Bool.and_eq_true_iff.mp hp
  obtain ⟨book, hbook⟩ := h _ _ _ q hq hcomplete
  obtain ⟨price, size, -, hsome, -⟩ := hbook.bestBid
  rw [hsome] at hsize
  cases hsize

end SomethingTrade
