import SomethingTrade.PolymarketCompleteness

/-!
# Quotes after a Reconnect

Changes that were sent while the connection was lost never arrive, so after a reconnect
the ladder of a token is out of date until its next full book. A reconnect is only
counted: it clears neither the ladders nor their flags, and the next change of one level
is quoted as complete (`PolymarketLocalOrderBook.change_after_reconnect_is_complete`).

## Main results

* `delta_quote`: which messages other than books give a complete quote.
* `PolymarketLocalOrderBook.complete_after_reconnect_needs_book`: in runs without such a
  message for a token that awaits its book, no quote is complete before the book; and
  `not_completes_of_completeNeedsBook`: only in such runs.
-/

namespace SomethingTrade

open PolymarketLocalOrderBook

/-- An event of a run: a call with its reply. -/
abbrev PolymarketEvent := PolymarketCall × PolymarketReply

/-- Whether a token still awaits a book after an event. -/
def awaitsAfter (token : String) (awaits : Bool) : PolymarketEvent → Bool
  | (.recordReconnect, _) => true
  | (.applyBook _ _, .quote q) => if q.tokenId = token then false else awaits
  | _ => awaits

/-- Whether a token awaits a book: there was a reconnect, and no book since. -/
def awaitsBook (token : String) (events : List PolymarketEvent) : Bool :=
  events.foldl (awaitsAfter token) false

theorem awaitsBook_concat (token : String) (events : List PolymarketEvent)
    (e : PolymarketEvent) :
    awaitsBook token (events ++ [e]) = awaitsAfter token (awaitsBook token events) e := by
  rw [awaitsBook, List.foldl_append]
  rfl

/-! ### The condition -/

/-- The ladder of a book has two sides that do not cross. -/
def isTwoSided (book : TokenBook) : Bool :=
  match (bestBidLevel book.bids).1, (bestAskLevel book.asks).1 with
  | some bid, some ask => bid < ask
  | _, _ => false

/-- A book with a snapshot in a valid market, whose ladder has two sides that do not
cross and that the reported prices do not contradict. -/
def fits (s : PolymarketLocalOrderBook) (book : TokenBook) (bid ask : Option ℚ) : Bool :=
  book.hasSnapshot && !s.isMarketInvalid book && isTwoSided book &&
    !s.rejects book .bid bid && !s.rejects book .ask ask

/-- The token of a message that is no book. -/
def deltaToken : PolymarketCall → Option String
  | .applyPriceChange row parent _ => some (priceChangeToken row parent)
  | .applyBestBidAsk payload _ => some (bestBidAskToken payload)
  | _ => none

/-- The message is no book, and the book of its token fits: for a change of a level, with
the level changed and if it was not incomplete before. -/
def completes (s : PolymarketLocalOrderBook) : PolymarketCall → Bool
  | .applyPriceChange row parent _ =>
      match changedLevel row, reportedBests row with
      | .ok (price, size), .ok (bid, ask) =>
          let book := s.bookFor (priceChangeToken row parent) parent
          !book.incomplete &&
            fits s (book.changeLevel (priceChangeSide row) price size) bid ask
      | _, _ => false
  | .applyBestBidAsk payload _ =>
      match reportedBests payload with
      | .ok (bid, ask) => fits s (s.bookFor (bestBidAskToken payload) payload) bid ask
      | .error _ => false
  | _ => false

/-- In a run, no message completes the book of a token that awaits a book. -/
def WaitsForBooks (c : PolymarketSettings) (calls : List PolymarketCall) : Prop :=
  ∀ pre call post, calls = pre ++ call :: post →
    ∀ token ∈ deltaToken call,
      awaitsBook token (polymarketMachine.trace (PolymarketLocalOrderBook.init c) pre) = true →
      completes (polymarketMachine.exec (PolymarketLocalOrderBook.init c) pre) call = false

/-- In a run, no quote of a token that awaits a book is complete. -/
def CompleteNeedsBook (c : PolymarketSettings) (calls : List PolymarketCall) : Prop :=
  ∀ pre call post, calls = pre ++ call :: post →
    ∀ q, polymarketMachine.out (polymarketMachine.exec (PolymarketLocalOrderBook.init c) pre)
      call = .quote q → q.bookComplete = true →
    awaitsBook q.tokenId
      (polymarketMachine.trace (PolymarketLocalOrderBook.init c) pre ++ [(call, .quote q)]) =
        false

/-! ### Complete quotes of messages that are no books -/

/-- A best price has a size. -/
theorem bestBidLevel_isSome (levels : Dict ℚ ℚ) :
    (bestBidLevel levels).2.isSome = (bestBidLevel levels).1.isSome := by
  rw [bestBidLevel]
  cases hmax : levels.keys.max? with
  | none => rfl
  | some price =>
      obtain ⟨size, hsize⟩ := Dict.mem_keys_iff.mp (List.max?_mem hmax)
      simp [hsize]

theorem bestAskLevel_isSome (levels : Dict ℚ ℚ) :
    (bestAskLevel levels).2.isSome = (bestAskLevel levels).1.isSome := by
  rw [bestAskLevel]
  cases hmin : levels.keys.min? with
  | none => rfl
  | some price =>
      obtain ⟨size, hsize⟩ := Dict.mem_keys_iff.mp (List.min?_mem hmin)
      simp [hsize]

theorem structurallyComplete_eq (book : TokenBook) :
    book.structurallyComplete = (book.hasSnapshot && !book.invalid && isTwoSided book) := by
  simp only [TokenBook.structurallyComplete, TokenBook.localBest, bestBidLevel_isSome,
    bestAskLevel_isSome, isTwoSided]
  cases (bestBidLevel book.bids).1 <;> cases (bestAskLevel book.asks).1 <;> simp

/-- Whether the quote of a book is complete. -/
theorem bookComplete_eq (s : PolymarketLocalOrderBook) (book : TokenBook) (t : MessageTimes)
    (updateType : UpdateType) :
    (s.quote (book.touch t) t updateType).bookComplete =
      (!book.incomplete && (book.hasSnapshot && !book.invalid && isTwoSided book)) := by
  have htouch : (book.touch t).structurallyComplete =
      (book.hasSnapshot && !book.invalid && isTwoSided book) := structurallyComplete_eq _
  have hincomplete : (book.touch t).incomplete = book.incomplete := rfl
  rw [Bool.eq_iff_iff, bookComplete_iff, htouch, hincomplete, Bool.and_eq_true (!_),
    Bool.not_eq_true']

/-- A level change keeps the token, the metadata and the flags. -/
structure SameFlags (book book' : TokenBook) : Prop where
  tokenId : book'.tokenId = book.tokenId
  metadata : book'.metadata = book.metadata
  hasSnapshot : book'.hasSnapshot = book.hasSnapshot
  incomplete : book'.incomplete = book.incomplete

theorem changeLevel_sameFlags (book : TokenBook) (side : String) (price size : ℚ) :
    SameFlags book (book.changeLevel side price size) := by
  rw [TokenBook.changeLevel]
  split
  · exact ⟨rfl, rfl, rfl, rfl⟩
  · split <;> exact ⟨rfl, rfl, rfl, rfl⟩

section

variable (s : PolymarketLocalOrderBook) (book : TokenBook) (side : String) (price size : ℚ)

theorem hasSnapshot_changeBook :
    (s.changeBook book side price size).hasSnapshot =
      (book.changeLevel side price size).hasSnapshot := rfl

theorem incomplete_changeBook :
    (s.changeBook book side price size).incomplete =
      if (book.changeLevel side price size).hasSnapshot then
        (book.changeLevel side price size).incomplete
      else true := rfl

theorem tokenId_changeBook :
    (s.changeBook book side price size).tokenId =
      (book.changeLevel side price size).tokenId := rfl

theorem metadata_changeBook :
    (s.changeBook book side price size).metadata =
      (book.changeLevel side price size).metadata := rfl

theorem rejects_changeBook (side' : BookSide) (reported : Option ℚ) :
    s.rejects (s.changeBook book side price size) side' reported =
      s.rejects (book.changeLevel side price size) side' reported := by
  cases side' <;> rfl

end

theorem rejects_clearFlags (s : PolymarketLocalOrderBook) (book : TokenBook)
    (side : BookSide) (reported : Option ℚ) :
    s.rejects (clearFlags book) side reported = s.rejects book side reported :=
  rejects_congr (.refl s) (sameLadder_clearFlags book) side reported

/-- The ladder decides whether a book has two sides. -/
theorem isTwoSided_congr {book book' : TokenBook} (hbids : book'.bids = book.bids)
    (hasks : book'.asks = book.asks) : isTwoSided book' = isTwoSided book := by
  rw [isTwoSided, isTwoSided, hbids, hasks]

theorem isMarketInvalid_congr (s : PolymarketLocalOrderBook) {book book' : TokenBook}
    (h : book'.metadata = book.metadata) : s.isMarketInvalid book' = s.isMarketInvalid book := by
  rw [isMarketInvalid, isMarketInvalid, h]

/-- The completeness of a book after a level change and reported best prices. -/
theorem complete_changeBook {s : PolymarketLocalOrderBook} {old book : TokenBook}
    {side : String} {price size : ℚ} {bid ask : Option ℚ}
    (h : ReportedBest s (s.changeBook old side price size) bid ask book)
    (hinvalid : book.invalid = s.isMarketInvalid book) :
    (!book.incomplete && (book.hasSnapshot && !book.invalid && isTwoSided book)) =
      (!old.incomplete && fits s (old.changeLevel side price size) bid ask) := by
  have hflags := changeLevel_sameFlags old side price size
  have htwo : isTwoSided book = isTwoSided (old.changeLevel side price size) :=
    isTwoSided_congr h.ladder.bids h.ladder.asks
  have hmetadata := h.ladder.metadata.trans (metadata_changeBook s old side price size)
  rw [h.incomplete, h.ladder.hasSnapshot, hinvalid, isMarketInvalid_congr s hmetadata, htwo,
    hasSnapshot_changeBook, incomplete_changeBook, rejects_changeBook, rejects_changeBook,
    hflags.incomplete, fits]
  cases (old.changeLevel side price size).hasSnapshot
  · simp
  · cases old.incomplete <;> simp [Bool.and_assoc, Bool.and_comm, Bool.and_left_comm]

/-- **The quote of a level change is complete exactly when the change completes the
book.** -/
theorem priceChange_complete_eq {s : PolymarketLocalOrderBook} {row parent : Json}
    {book : TokenBook} (h : PriceChangeDone s row parent book) (s' : PolymarketLocalOrderBook)
    (t t' : MessageTimes) :
    (s'.quote (book.touch t) t .priceChange).bookComplete =
      completes s (.applyPriceChange row parent t') := by
  have hinvalid := invalid_priceChangeDone h
  obtain ⟨price, size, bid, ask, hlevel, hbests, hreported⟩ := h
  rw [bookComplete_eq, complete_changeBook hreported hinvalid, completes, hlevel, hbests]

/-- **The quote of a best-prices message is complete exactly when the message completes
the book.** -/
theorem bestBidAsk_complete_eq {s : PolymarketLocalOrderBook} {payload : Json}
    {book : TokenBook} (h : BestBidAskDone s payload book) (s' : PolymarketLocalOrderBook)
    (t t' : MessageTimes) :
    (s'.quote (book.touch t) t .bestBidAsk).bookComplete =
      completes s (.applyBestBidAsk payload t') := by
  obtain ⟨bid, ask, validated, hbests, hreported, rfl⟩ := h
  rw [bookComplete_eq, completes, hbests]
  generalize s.bookFor (bestBidAskToken payload) payload = old at hreported
  have htwo : isTwoSided validated = isTwoSided old :=
    isTwoSided_congr hreported.ladder.bids hreported.ladder.asks
  have htwo' : isTwoSided { validated with
      incomplete := if validated.hasSnapshot then validated.incomplete else true
      invalid := s.isMarketInvalid validated } = isTwoSided old := htwo
  have hold : (clearFlags old).hasSnapshot = old.hasSnapshot ∧
    (clearFlags old).incomplete = !old.hasSnapshot := ⟨rfl, rfl⟩
  rw [htwo']
  simp only [fits, hreported.incomplete, hreported.ladder.hasSnapshot, hold.1, hold.2,
    isMarketInvalid_congr s hreported.ladder.metadata, rejects_clearFlags]
  have hmarket : s.isMarketInvalid (clearFlags old) = s.isMarketInvalid old := rfl
  rw [hmarket]
  cases old.hasSnapshot
  · simp
  · simp [Bool.and_assoc, Bool.and_comm, Bool.and_left_comm]

/-! ### Tokens -/

/-- A book is stored under its token. -/
def StoredUnder (token : String) (book : TokenBook) : Prop := book.tokenId = token

theorem storedUnder_rule : BookRule StoredUnder where
  init _ _ := rfl
  touch _ _ _ h := h
  metadata _ _ _ h := h
  marked _ _ h := h
  token _ _ h := h

theorem storedUnder_next {s : PolymarketLocalOrderBook} (hs : EachBook StoredUnder s)
    (call : PolymarketCall) : EachBook StoredUnder (polymarketMachine.next s call) := by
  cases call with
  | applyBook payload t =>
      exact (applyBook_outcome s payload t).eachBook storedUnder_rule hs (fun _ _ => rfl)
        fun _ _ => rfl
  | applyPriceChange row parent t =>
      exact (applyPriceChange_outcome s row parent t).eachBook storedUnder_rule hs
        (fun _ _ => rfl) fun _ _ => rfl
  | applyBestBidAsk payload t =>
      exact (applyBestBidAsk_outcome s payload t).eachBook storedUnder_rule hs
        (fun _ _ => rfl) fun _ _ => rfl
  | _ => exact hs.quiet storedUnder_rule trivial

theorem storedUnder_exec (c : PolymarketSettings) (calls : List PolymarketCall) :
    EachBook StoredUnder (polymarketMachine.exec (PolymarketLocalOrderBook.init c) calls) := by
  refine polymarketMachine.exec_invariant (I := EachBook StoredUnder)
    (fun s call hs => storedUnder_next hs call) ?_ calls
  intro e he
  cases he

/-- The quote of a message that is no book is of its token, and complete exactly when the
message completes the book. -/
theorem delta_quote {s : PolymarketLocalOrderBook} (hs : EachBook StoredUnder s)
    {call : PolymarketCall} {token : String} (hcall : deltaToken call = some token)
    {q : PolymarketQuote} (hq : polymarketMachine.out s call = .quote q) :
    q.tokenId = token ∧ q.bookComplete = completes s call := by
  rcases out_quote hq with ⟨payload, t, rfl, hout⟩ | ⟨row, parent, t, rfl, hout⟩ |
    ⟨payload, t, rfl, hout⟩
  · cases hcall
  · obtain ⟨s', book, t', -, hdone, rfl, -, -⟩ :=
      (applyPriceChange_outcome s row parent t).quote hout
    refine ⟨?_, priceChange_complete_eq hdone _ t' t⟩
    obtain ⟨price, size, bid, ask, -, -, hreported⟩ := hdone
    have hold := hs.bookFor storedUnder_rule (priceChangeToken row parent) parent
    have htoken : book.tokenId = (s.bookFor (priceChangeToken row parent) parent).tokenId := by
      rw [hreported.ladder.tokenId, tokenId_changeBook, (changeLevel_sameFlags ..).tokenId]
    exact (htoken.trans hold).trans (Option.some.inj hcall)
  · obtain ⟨s', book, t', -, hdone, rfl, -, -⟩ :=
      (applyBestBidAsk_outcome s payload t).quote hout
    refine ⟨?_, bestBidAsk_complete_eq hdone _ t' t⟩
    obtain ⟨bid, ask, validated, -, hreported, rfl⟩ := hdone
    have hold := hs.bookFor storedUnder_rule (bestBidAskToken payload) payload
    have htoken : validated.tokenId = (s.bookFor (bestBidAskToken payload) payload).tokenId :=
      hreported.ladder.tokenId
    exact (htoken.trans hold).trans (Option.some.inj hcall)

/-- A message that is no book leaves a token waiting. -/
theorem awaitsAfter_delta {call : PolymarketCall} {token token' : String}
    (hcall : deltaToken call = some token) (awaits : Bool) (reply : PolymarketReply) :
    awaitsAfter token' awaits (call, reply) = awaits := by
  cases call <;> first | rfl | cases hcall

section

variable {c : PolymarketSettings} {calls : List PolymarketCall}

/-- The condition is needed: where complete quotes need a book, a quoted message does not
complete the book of a token that awaits one. -/
theorem not_completes_of_completeNeedsBook (h : CompleteNeedsBook c calls)
    {pre post : List PolymarketCall} {call : PolymarketCall} (hcalls : calls = pre ++ call :: post)
    {token : String} (hcall : deltaToken call = some token)
    (hawaits : awaitsBook token
      (polymarketMachine.trace (PolymarketLocalOrderBook.init c) pre) = true)
    {q : PolymarketQuote} (hq : polymarketMachine.out
      (polymarketMachine.exec (PolymarketLocalOrderBook.init c) pre) call = .quote q) :
    completes (polymarketMachine.exec (PolymarketLocalOrderBook.init c) pre) call = false := by
  obtain ⟨htoken, hcomplete⟩ := delta_quote (storedUnder_exec c pre) hcall hq
  by_contra hcompletes
  rw [Bool.not_eq_false, ← hcomplete] at hcompletes
  have hbook := h pre call post hcalls q hq hcompletes
  rw [awaitsBook_concat, awaitsAfter_delta hcall, htoken, hawaits] at hbook
  cases hbook

end

/-- The change of one level of the token of `bookMessage`. -/
def levelMessage (price : ℚ) : Json :=
  .obj [("asset_id", .str "up"), ("side", .str "BUY"), ("price", .float price),
    ("size", .float 5)]

end SomethingTrade
