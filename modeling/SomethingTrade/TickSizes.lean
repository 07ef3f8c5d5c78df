import SomethingTrade.GapEndings
import SomethingTrade.MarketSubscriptions
import SomethingTrade.PolymarketBatches

/-!
# Tick Sizes

The tick size of a market is kept in three places: by the gap detector, in the metadata the
local order books have of the tokens, and in the books themselves. A change of the tick size
that the feed reports reaches all three. A refresh of the markets takes the tick sizes of the
listing, in the detector always, in the order books only when the listing has changed.

## Main results

* `tokenTickSize_updateTickSize`, `tokenTickSize_updateTokenMetadata`: the tick size a message
  of a token finds, after the calls that write it.
-/

namespace SomethingTrade

open PolymarketLocalOrderBook

/-! ### The tick size of a token -/

namespace PolymarketLocalOrderBook

/-- The tick size the next message of a token finds. -/
def tokenTickSize (s : PolymarketLocalOrderBook) (token : String) : ℚ :=
  match s.books.get? token with
  | some book => book.metadata.tickSize
  | none => ((s.tokenMetadata.get? token).map TokenBookMetadata.tickSize).getD (1 / 100)

/-- Whether a change of the tick size reaches a token: its metadata is known, and the change
names the token, or else its market. -/
def tickSizeReaches (s : PolymarketLocalOrderBook) (marketId : String)
    (tokenId : Option String) (token : String) : Bool :=
  match s.tokenMetadata.get? token, tokenId with
  | none, _ => false
  | some _, some named => named = token
  | some metadata, none => metadata.marketId = marketId

end PolymarketLocalOrderBook

section

variable {s s' : PolymarketLocalOrderBook}

theorem tickSize_bookFor (token : String) (payload : Json) :
    (s.bookFor token payload).metadata.tickSize = s.tokenTickSize token := by
  rw [bookFor, tokenTickSize]
  cases s.books.get? token with
  | some book => rfl
  | none => cases s.tokenMetadata.get? token <;> rfl

theorem tokenTickSize_congr (hbooks : s'.books = s.books)
    (hmetadata : s'.tokenMetadata = s.tokenMetadata) (token : String) :
    s'.tokenTickSize token = s.tokenTickSize token := by
  rw [tokenTickSize, hbooks, hmetadata, tokenTickSize]

/-- Storing a book that keeps its token and metadata. -/
theorem tokenTickSize_setBook (hs : EachBook StoredUnder s) (hsame : SameBooks s s')
    {book : TokenBook} (h : KeepsMetadata s book) (token : String) :
    (s'.setBook book).tokenTickSize token = s.tokenTickSize token := by
  obtain ⟨stored, payload, htoken, hmetadata⟩ := h
  have hstored : book.tokenId = stored :=
    htoken.trans (hs.bookFor storedUnder_rule stored payload)
  rw [tokenTickSize, setBook, hsame.books, hsame.tokenMetadata, Dict.get?_set, hstored]
  by_cases heq : stored = token
  · subst heq
    rw [if_pos rfl]
    dsimp only
    rw [hmetadata, tickSize_bookFor]
  · rw [if_neg heq, tokenTickSize]

/-- A message of a book keeps the tick sizes. -/
theorem MessageOutcome.tokenTickSize (hs : EachBook StoredUnder s) {updateType : UpdateType}
    {r : PolymarketLocalOrderBook × Except MessageError PolymarketQuote}
    (h : MessageOutcome s (KeepsMetadata s) (KeepsMetadata s) updateType r) (token : String) :
    r.1.tokenTickSize token = s.tokenTickSize token := by
  cases h with
  | unread e result => rw [result]
  | raised s' book e same left result =>
      rw [result]
      exact tokenTickSize_setBook hs same left token
  | quoted s' book t before same done result =>
      rw [result]
      have touched : KeepsMetadata s (book.touch t) := done
      exact (tokenTickSize_congr rfl rfl token).trans (tokenTickSize_setBook hs same touched token)

theorem tokenTickSize_markMarketInvalid (marketId token : String) :
    (s.markMarketInvalid marketId).tokenTickSize token = s.tokenTickSize token := by
  rw [tokenTickSize, markMarketInvalid, tokenTickSize]
  dsimp only
  rw [Dict.get?_mapValues]
  cases s.books.get? token with
  | none => rfl
  | some book =>
      rw [Option.map_some]
      dsimp only
      split <;> rfl

/-- The new metadata of one token. -/
theorem tokenTickSize_setBookMetadata {metadata : Dict String TokenBookMetadata}
    {token : String} {m : TokenBookMetadata} (hm : metadata.get? token = some m)
    (other : String) :
    ({ s with tokenMetadata := metadata }.setBookMetadata token m).tokenTickSize other =
      if token = other then m.tickSize
      else { s with tokenMetadata := metadata }.tokenTickSize other := by
  rw [tokenTickSize, books_setBookMetadata, (marketInvalid_setBookMetadata token m).2]
  by_cases heq : token = other
  · subst heq
    rw [if_pos rfl, if_pos rfl]
    cases s.books.get? token with
    | some book => rfl
    | none =>
        rw [Option.map_none]
        dsimp only
        rw [hm]
        rfl
  · rw [if_neg heq, if_neg heq]
    rfl

theorem metadata_updateTokenTickSize (tickSize : ℚ) (named token : String) :
    ((updateTokenTickSize tickSize s named).tokenMetadata.get? token).map
        TokenBookMetadata.marketId =
      (s.tokenMetadata.get? token).map TokenBookMetadata.marketId := by
  rw [updateTokenTickSize]
  cases hnamed : s.tokenMetadata.get? named with
  | none => rfl
  | some m =>
      dsimp only
      rw [(marketInvalid_setBookMetadata ..).2, Dict.get?_set]
      by_cases heq : named = token
      · rw [if_pos heq, ← heq, hnamed]
        rfl
      · rw [if_neg heq]

theorem tokenTickSize_updateTokenTickSize (tickSize : ℚ) (named token : String) :
    (updateTokenTickSize tickSize s named).tokenTickSize token =
      if named = token ∧ (s.tokenMetadata.get? token).isSome then tickSize
      else s.tokenTickSize token := by
  rw [updateTokenTickSize]
  cases hnamed : s.tokenMetadata.get? named with
  | none =>
      rw [if_neg]
      rintro ⟨rfl, hknown⟩
      rw [hnamed] at hknown
      cases hknown
  | some m =>
      dsimp only
      rw [tokenTickSize_setBookMetadata (Dict.get?_set_self ..)]
      by_cases heq : named = token
      · subst heq
        rw [if_pos rfl, if_pos ⟨rfl, by rw [hnamed]; rfl⟩]
      · rw [if_neg heq, if_neg fun h => heq h.1, tokenTickSize, Dict.get?_set_of_ne _ _ heq,
          tokenTickSize]

theorem tokenTickSize_foldl_updateTokenTickSize (tickSize : ℚ) (tokens : List String)
    (token : String) :
    (tokens.foldl (updateTokenTickSize tickSize) s).tokenTickSize token =
      if token ∈ tokens ∧ (s.tokenMetadata.get? token).isSome then tickSize
      else s.tokenTickSize token := by
  induction tokens generalizing s with
  | nil => simp
  | cons named tokens ih =>
      have hsame : ((updateTokenTickSize tickSize s named).tokenMetadata.get? token).isSome =
          (s.tokenMetadata.get? token).isSome := by
        rw [← Option.isSome_map, metadata_updateTokenTickSize, Option.isSome_map]
      rw [List.foldl_cons, ih, hsame, tokenTickSize_updateTokenTickSize]
      by_cases hknown : (s.tokenMetadata.get? token).isSome
      · by_cases hmem : token ∈ tokens
        · simp [hknown, hmem]
        · simp [hknown, hmem, eq_comm (a := token)]
      · simp [hknown]

/-- **A change of the tick size** sets it for the tokens it reaches. -/
theorem tokenTickSize_updateTickSize (marketId : String) (tokenId : Option String)
    (tickSize : ℚ) (token : String) :
    (s.updateTickSize marketId tokenId tickSize).tokenTickSize token =
      if 0 < tickSize ∧ s.tickSizeReaches marketId tokenId token = true then tickSize
      else s.tokenTickSize token := by
  simp only [updateTickSize]
  by_cases hpos : tickSize ≤ 0
  · rw [if_pos hpos, if_neg fun h => absurd h.1 (not_lt.mpr hpos)]
  · rw [if_neg hpos, tokenTickSize_foldl_updateTokenTickSize]
    refine if_congr ?_ rfl rfl
    simp only [tickSizeReaches]
    cases hknown : s.tokenMetadata.get? token with
    | none => simp
    | some m =>
        cases tokenId with
        | some named => simp [not_le.mp hpos, eq_comm (a := token)]
        | none =>
            have hkey : token ∈ s.tokenMetadata.keys := Dict.mem_keys_iff.mpr ⟨m, hknown⟩
            simp [not_le.mp hpos, hkey, hknown]

/-- **New metadata** sets the tick size of the tokens it knows; a token it does not know has
that of its book. -/
theorem tokenTickSize_updateTokenMetadata (metadata : Dict String TokenBookMetadata)
    (active : List String) (token : String) :
    (s.updateTokenMetadata metadata active).tokenTickSize token =
      match (metadata.filterKeys fun token => token ∈ active).get? token with
      | some m => m.tickSize
      | none => ((s.books.get? token).map fun book => book.metadata.tickSize).getD (1 / 100) := by
  have hmetadata : (s.updateTokenMetadata metadata active).tokenMetadata =
      metadata.filterKeys fun token => token ∈ active :=
    (marketInvalid_foldl_adoptMetadata _).2
  rw [tokenTickSize, hmetadata]
  cases hknown : (metadata.filterKeys fun token => token ∈ active).get? token with
  | some m =>
      dsimp only
      cases hbook : (s.updateTokenMetadata metadata active).books.get? token with
      | some book =>
          exact congrArg TokenBookMetadata.tickSize (metadata_foldl_adoptMetadata
            (Dict.nodup_keys _) (Dict.mem_entries_iff.mpr hknown) hbook)
      | none => rfl
  | none =>
      have hbooks : (s.updateTokenMetadata metadata active).books.get? token =
          s.books.get? token :=
        books_foldl_adoptMetadata_of_not_mem (Dict.get?_eq_none_iff.mp hknown)
      rw [hbooks]
      cases s.books.get? token <;> rfl

/-! ### The tick sizes of the order books -/

/-- A call about one book. -/
def isBookMessage : PolymarketCall → Bool
  | .applyBook .. | .applyPriceChange .. | .applyBestBidAsk .. => true
  | _ => false

theorem tokenTickSize_message (hs : EachBook StoredUnder s) (call : PolymarketCall)
    (hcall : isBookMessage call = true) (token : String) :
    (polymarketMachine.next s call).tokenTickSize token = s.tokenTickSize token := by
  cases call with
  | applyBook payload t =>
      exact ((applyBook_quotedAs payload t).mono (fun _ hb => hb)
        fun _ hb => hb.1).tokenTickSize hs token
  | applyPriceChange row parent t =>
      exact ((applyPriceChange_quotedAs row parent t).mono (fun _ hb => hb)
        fun _ hb => hb.1).tokenTickSize hs token
  | applyBestBidAsk payload t =>
      exact ((applyBestBidAsk_quotedAs payload t).mono (fun _ hb => hb)
        fun _ hb => hb.1).tokenTickSize hs token
  | _ => cases hcall

theorem tokenTickSize_priceChange (hs : EachBook StoredUnder s) (payload : Json)
    (t : MessageTimes) (token : String) :
    (quotesFromPriceChange s payload t).1.tokenTickSize token = s.tokenTickSize token := by
  obtain ⟨done, rest, -, hexec, -⟩ := quotesFromPriceChange_exec s payload t
  rw [hexec]
  have hrows : ∀ call ∈ rowCalls payload t done, isBookMessage call = true := by
    intro call hcall
    obtain ⟨row, -, rfl⟩ := List.mem_map.mp hcall
    rfl
  exact (polymarketMachine.exec_invariant_while
    (I := fun s' => EachBook StoredUnder s' ∧ s'.tokenTickSize token = s.tokenTickSize token)
    (fun s' call hs' hcall => ⟨storedUnder_next hs'.1 call,
      (tokenTickSize_message hs'.1 call hcall token).trans hs'.2⟩)
    ⟨hs, rfl⟩ (polymarketMachine.stepsMeet_of_forall s hrows)).2

end

/-! ### Changes of the tick size -/

/-- A change of the tick size of a market; it may name a token. -/
structure TickSizeChange where
  marketId : String
  tokenId : Option String
  tickSize : ℚ
  deriving DecidableEq

/-- The change of the tick size an event of the feed is. -/
def PolymarketLifecycle.tickSizeChange (event : PolymarketLifecycle) : Option TickSizeChange :=
  match event.lifecycleType, orValue event.newTickSize none with
  | .tickSizeChange, some tickSize => some ⟨event.marketId, event.tokenId, tickSize⟩
  | _, _ => none

/-- The lifecycle event of a payload. -/
def lifecycleOf (r : MessageReadings) (payload : Json) : Option PolymarketLifecycle :=
  match timestampToNs (payload.get "timestamp"), payloadKind payload with
  | .ok eventTs, .lifecycle lifecycleType =>
      (lifecycleEvent payload lifecycleType (r.times eventTs (payload.get "hash"))).toOption
  | _, _ => none

/-- The change of the tick size a payload reports. -/
def reportedTickSize (r : MessageReadings) (payload : Json) : Option TickSizeChange :=
  (lifecycleOf r payload).bind PolymarketLifecycle.tickSizeChange

/-- Whether an event of the client is a lifecycle event. -/
def PolymarketStreamEvent.lifecycle? : PolymarketStreamEvent → Option PolymarketLifecycle
  | .lifecycle event => some event
  | _ => none

/-- What a payload does that is no lifecycle event: it keeps the tick sizes, and its events
are no lifecycle events. -/
structure KeepsTickSizes (s : PolymarketLocalOrderBook)
    (r : PolymarketLocalOrderBook × Except ClientError (List PolymarketStreamEvent)) : Prop where
  tokens : ∀ token, r.1.tokenTickSize token = s.tokenTickSize token
  events : ∀ events, r.2 = .ok events → ∀ e ∈ events, e.lifecycle? = none

theorem KeepsTickSizes.of_error (s : PolymarketLocalOrderBook) (e : ClientError) :
    KeepsTickSizes s (s, .error e) where
  tokens _ := rfl
  events _ h := by cases h

theorem KeepsTickSizes.quotes {s : PolymarketLocalOrderBook} {α : Type}
    (result : PolymarketLocalOrderBook × Except MessageError α)
    (htokens : ∀ token, result.1.tokenTickSize token = s.tokenTickSize token)
    {f : α → List PolymarketStreamEvent} (hf : ∀ a, ∀ e ∈ f a, e.lifecycle? = none) :
    KeepsTickSizes s (result.1, (result.2.map f).mapError ClientError.message) := by
  refine ⟨htokens, fun events hevents => ?_⟩
  dsimp only at hevents
  cases hresult : result.2 with
  | error e =>
      rw [hresult] at hevents
      cases hevents
  | ok a =>
      rw [hresult] at hevents
      cases hevents
      exact hf a

/-- **A payload** is a lifecycle event, or it keeps the tick sizes. -/
theorem applyPayload_tickSizes {s : PolymarketLocalOrderBook} (hs : EachBook StoredUnder s)
    (r : MessageReadings) (payload : Json) :
    (∃ event, lifecycleOf r payload = some event ∧
      s.applyPayload r payload = (s.applyLifecycle event, .ok [.lifecycle event])) ∨
    lifecycleOf r payload = none ∧ KeepsTickSizes s (s.applyPayload r payload) := by
  rw [lifecycleOf, applyPayload]
  cases timestampToNs (payload.get "timestamp") with
  | error e => exact .inr ⟨rfl, .of_error s _⟩
  | ok eventTs =>
      dsimp only
      cases payloadKind payload with
      | book =>
          exact .inr ⟨rfl, .quotes _ (tokenTickSize_message hs (.applyBook payload _) rfl)
            (by simp [PolymarketStreamEvent.lifecycle?])⟩
      | priceChange =>
          exact .inr ⟨rfl, .quotes _ (tokenTickSize_priceChange hs payload _)
            (by simp [PolymarketStreamEvent.lifecycle?])⟩
      | bestBidAsk =>
          exact .inr ⟨rfl, .quotes _
            (tokenTickSize_message hs (.applyBestBidAsk payload _) rfl)
            (by simp [PolymarketStreamEvent.lifecycle?])⟩
      | trade =>
          exact .inr ⟨rfl, KeepsTickSizes.quotes (s, tickFromTrade payload _)
            (fun _ => rfl) (by simp [PolymarketStreamEvent.lifecycle?])⟩
      | lifecycle lifecycleType =>
          dsimp only
          cases lifecycleEvent payload lifecycleType (r.times eventTs (payload.get "hash")) with
          | error e => exact .inr ⟨rfl, .of_error s _⟩
          | ok event => exact .inl ⟨event, rfl, rfl⟩
      | unsupported => exact .inr ⟨rfl, .of_error s _⟩

/-- **A lifecycle event** sets the tick size of the tokens its change reaches. -/
theorem tokenTickSize_applyLifecycle (s : PolymarketLocalOrderBook) (event : PolymarketLifecycle)
    (token : String) :
    (s.applyLifecycle event).tokenTickSize token =
      match event.tickSizeChange with
      | some change =>
          if 0 < change.tickSize ∧
              s.tickSizeReaches change.marketId change.tokenId token = true then change.tickSize
          else s.tokenTickSize token
      | none => s.tokenTickSize token := by
  rw [applyLifecycle, PolymarketLifecycle.tickSizeChange]
  cases event.lifecycleType with
  | tickSizeChange =>
      cases orValue event.newTickSize none with
      | none => rfl
      | some tickSize => exact tokenTickSize_updateTickSize ..
  | newMarket => rfl
  | marketResolved => exact tokenTickSize_markMarketInvalid ..
  | closed => exact tokenTickSize_markMarketInvalid ..
  | expired => exact tokenTickSize_markMarketInvalid ..

end SomethingTrade
