import SomethingTrade.GapDetector
import SomethingTrade.PolymarketReconnect

/-!
# Dead Markets

Three components keep a set of markets that are over: the market state, the local order
books and the gap detector. In the first two a market stays dead, and no quote of it is
complete again. The gap detector reads the same lifecycle events with a condition of its
own: a change of the tick size that does not say the new one ends the market there, and
only there (`GapDetector.malformed_tick_size_disagrees`).

## Main results

* `dead_markets_stay_dead`: no quote of a dead market is complete again, in the market state
  and in the local order books.
* `GapDetector.agrees_on_dead_markets`: the gap detector and the market state agree on the
  monitored markets throughout a run exactly when every tick size change of the run that
  names a monitored market says the new tick size or names a market that is over.
-/

namespace SomethingTrade

open PolymarketLocalOrderBook

/-! ### What messages keep -/

/-- A book with the token and the metadata of the book a message works on. -/
def KeepsMetadata (s : PolymarketLocalOrderBook) (book : TokenBook) : Prop :=
  ∃ token payload, book.tokenId = (s.bookFor token payload).tokenId ∧
    book.metadata = (s.bookFor token payload).metadata

theorem MessageOutcome.mono {s : PolymarketLocalOrderBook}
    {Left Done Left' Done' : TokenBook → Prop} {updateType : UpdateType}
    {r : PolymarketLocalOrderBook × Except MessageError PolymarketQuote}
    (h : MessageOutcome s Left Done updateType r) (hleft : ∀ book, Left book → Left' book)
    (hdone : ∀ book, Done book → Done' book) : MessageOutcome s Left' Done' updateType r := by
  cases h with
  | unread e result => exact .unread e result
  | raised s' book e same left result => exact .raised s' book e same (hleft book left) result
  | quoted s' book t before same done result =>
      exact .quoted s' book t before same (hdone book done) result

/-- The book a message leaves keeps its token and metadata; a quoted one also has the
invalid mark its market has. -/
def QuotedAs (s : PolymarketLocalOrderBook) (book : TokenBook) : Prop :=
  KeepsMetadata s book ∧ book.invalid = s.isMarketInvalid book

section

variable {s : PolymarketLocalOrderBook}

theorem keepsMetadata_changeBook (token : String) (payload : Json) (side : String)
    (price size : ℚ) :
    KeepsMetadata s (s.changeBook (s.bookFor token payload) side price size) := by
  refine ⟨token, payload, ?_, ?_⟩
  · rw [tokenId_changeBook, (changeLevel_sameFlags ..).tokenId]
  · rw [metadata_changeBook, (changeLevel_sameFlags ..).metadata]

theorem KeepsMetadata.of_sameLadder {book book' : TokenBook} (h : KeepsMetadata s book)
    (hsame : SameLadder book book') : KeepsMetadata s book' := by
  obtain ⟨token, payload, htoken, hmetadata⟩ := h
  exact ⟨token, payload, hsame.tokenId.trans htoken, hsame.metadata.trans hmetadata⟩

theorem applyBook_quotedAs (payload : Json) (t : MessageTimes) :
    MessageOutcome s (KeepsMetadata s) (QuotedAs s) .book (s.applyBook payload t) := by
  refine (applyBook_outcome s payload t).mono ?_ ?_
  · rintro book ⟨token, rfl | ⟨bids, rfl⟩⟩ <;> exact ⟨token, payload, rfl, rfl⟩
  · rintro book ⟨token, bids, asks, rfl⟩
    exact ⟨⟨token, payload, rfl, rfl⟩, rfl⟩

theorem keepsMetadata_priceChangeDone {row parent : Json} {book : TokenBook}
    (h : PriceChangeDone s row parent book) : KeepsMetadata s book := by
  obtain ⟨price, size, bid, ask, -, -, hreported⟩ := h
  exact (keepsMetadata_changeBook _ parent _ price size).of_sameLadder hreported.ladder

theorem applyPriceChange_quotedAs (row parent : Json) (t : MessageTimes) :
    MessageOutcome s (KeepsMetadata s) (QuotedAs s) .priceChange
      (s.applyPriceChange row parent t) := by
  refine (applyPriceChange_outcome s row parent t).mono ?_ ?_
  · rintro book (rfl | ⟨price, size, rfl⟩ | hdone)
    · exact ⟨_, parent, rfl, rfl⟩
    · exact keepsMetadata_changeBook _ parent _ price size
    · exact keepsMetadata_priceChangeDone hdone
  · exact fun book hdone => ⟨keepsMetadata_priceChangeDone hdone, invalid_priceChangeDone hdone⟩

theorem keepsMetadata_clearFlags {payload : Json} {bid ask : Option ℚ} {book : TokenBook}
    (h : ReportedBest s (clearFlags (s.bookFor (bestBidAskToken payload) payload)) bid ask
      book) : KeepsMetadata s book :=
  KeepsMetadata.of_sameLadder ⟨bestBidAskToken payload, payload, rfl, rfl⟩
    ((sameLadder_clearFlags _).trans h.ladder)

theorem applyBestBidAsk_quotedAs (payload : Json) (t : MessageTimes) :
    MessageOutcome s (KeepsMetadata s) (QuotedAs s) .bestBidAsk
      (s.applyBestBidAsk payload t) := by
  refine (applyBestBidAsk_outcome s payload t).mono ?_ ?_
  · rintro book (rfl | ⟨bid, ask, -, hreported⟩)
    · exact ⟨_, payload, rfl, rfl⟩
    · exact keepsMetadata_clearFlags hreported
  · intro book hdone
    refine ⟨?_, invalid_bestBidAskDone hdone⟩
    obtain ⟨bid, ask, validated, -, hreported, rfl⟩ := hdone
    obtain ⟨token, payload', htoken, hmetadata⟩ := keepsMetadata_clearFlags hreported
    exact ⟨token, payload', htoken, hmetadata⟩

theorem MessageOutcome.same {Left Done : TokenBook → Prop} {updateType : UpdateType}
    {r : PolymarketLocalOrderBook × Except MessageError PolymarketQuote}
    (h : MessageOutcome s Left Done updateType r) :
    r.1.tokenMetadata = s.tokenMetadata ∧ r.1.marketInvalid = s.marketInvalid := by
  cases h with
  | unread e result =>
      rw [result]
      exact ⟨rfl, rfl⟩
  | raised s' book e same left result =>
      rw [result]
      exact ⟨same.tokenMetadata, same.marketInvalid⟩
  | quoted s' book t before same done result =>
      rw [result]
      exact ⟨same.tokenMetadata, same.marketInvalid⟩

/-! ### Invalid markets of the order books -/

theorem marketInvalid_setBookMetadata (tokenId : String) (m : TokenBookMetadata) :
    (s.setBookMetadata tokenId m).marketInvalid = s.marketInvalid ∧
      (s.setBookMetadata tokenId m).tokenMetadata = s.tokenMetadata := by
  rw [setBookMetadata]
  cases s.books.get? tokenId <;> exact ⟨rfl, rfl⟩

theorem marketInvalid_updateTokenTickSize (tickSize : ℚ) (tokenId : String) :
    (updateTokenTickSize tickSize s tokenId).marketInvalid = s.marketInvalid := by
  rw [updateTokenTickSize]
  cases s.tokenMetadata.get? tokenId with
  | none => rfl
  | some m => exact (marketInvalid_setBookMetadata ..).1

theorem marketInvalid_updateTickSize (marketId : String) (tokenId : Option String)
    (tickSize : ℚ) : (s.updateTickSize marketId tokenId tickSize).marketInvalid =
      s.marketInvalid := by
  refine updateTickSize_rule (P := fun s' => s'.marketInvalid = s.marketInvalid) rfl marketId
    tokenId ?_
  exact fun s' token hs' => (marketInvalid_updateTokenTickSize ..).trans hs'

theorem marketInvalid_adoptMetadata (e : String × TokenBookMetadata) :
    (adoptMetadata s e).marketInvalid = s.marketInvalid ∧
      (adoptMetadata s e).tokenMetadata = s.tokenMetadata := by
  rw [adoptMetadata]
  exact marketInvalid_setBookMetadata e.1 e.2

theorem marketInvalid_foldl_adoptMetadata (entries : List (String × TokenBookMetadata)) :
    (entries.foldl adoptMetadata s).marketInvalid = s.marketInvalid ∧
      (entries.foldl adoptMetadata s).tokenMetadata = s.tokenMetadata := by
  induction entries generalizing s with
  | nil => exact ⟨rfl, rfl⟩
  | cons e entries ih =>
      obtain ⟨hinvalid, hmetadata⟩ := marketInvalid_adoptMetadata (s := s) e
      obtain ⟨hinvalid', hmetadata'⟩ := ih (s := adoptMetadata s e)
      exact ⟨hinvalid'.trans hinvalid, hmetadata'.trans hmetadata⟩

/-- **A market that is marked invalid stays so.** -/
theorem marketInvalid_next {marketId : String}
    (h : (s.marketInvalid.get? marketId).isSome) (call : PolymarketCall) :
    ((polymarketMachine.next s call).marketInvalid.get? marketId).isSome := by
  have of_eq {s' : PolymarketLocalOrderBook} (hs : s'.marketInvalid = s.marketInvalid) :
      (s'.marketInvalid.get? marketId).isSome := by rwa [hs]
  cases call with
  | applyBook payload t => exact of_eq (applyBook_outcome s payload t).same.2
  | applyPriceChange row parent t => exact of_eq (applyPriceChange_outcome s row parent t).same.2
  | applyBestBidAsk payload t => exact of_eq (applyBestBidAsk_outcome s payload t).same.2
  | markMarketInvalid marked =>
      have hnext : (polymarketMachine.next s (.markMarketInvalid marked)).marketInvalid =
        s.marketInvalid.set marked () := rfl
      rw [hnext, Dict.get?_set]
      split
      · rfl
      · exact h
  | updateTickSize marked tokenId tickSize =>
      exact of_eq (marketInvalid_updateTickSize marked tokenId tickSize)
  | updateTokenMetadata metadata active =>
      exact of_eq (marketInvalid_foldl_adoptMetadata _).1
  | recordReconnect => exact of_eq rfl
  | tokenReadinessSnapshot => exact of_eq rfl

/-- The quote of a market that is marked invalid is incomplete. -/
theorem incomplete_of_marketInvalid {call : PolymarketCall} {q : PolymarketQuote}
    (hq : polymarketMachine.out s call = .quote q)
    (h : (s.marketInvalid.get? q.marketId).isSome) : q.bookComplete = false := by
  have key {Left : TokenBook → Prop} {updateType : UpdateType}
      {r : PolymarketLocalOrderBook × Except MessageError PolymarketQuote}
      (houtcome : MessageOutcome s Left (QuotedAs s) updateType r) (hr : r.2 = .ok q) :
      q.bookComplete = false := by
    obtain ⟨s', book, t, -, ⟨-, hinvalid⟩, rfl, -, -⟩ := houtcome.quote hr
    rw [Bool.eq_false_iff]
    intro hcomplete
    obtain ⟨-, hstructure⟩ := bookComplete_iff.mp hcomplete
    have hvalid : book.invalid = false := (structurallyComplete_iff.mp hstructure).2.1
    have hmarket : s.isMarketInvalid book = true := h
    rw [hinvalid, hmarket] at hvalid
    cases hvalid
  rcases out_quote hq with ⟨payload, t, rfl, hout⟩ | ⟨row, parent, t, rfl, hout⟩ |
    ⟨payload, t, rfl, hout⟩
  · exact key (applyBook_quotedAs payload t) hout
  · exact key (applyPriceChange_quotedAs row parent t) hout
  · exact key (applyBestBidAsk_quotedAs payload t) hout

end

/-! ### Metadata in sync -/

/-- A book of a token whose metadata is known has that metadata. -/
def InSync (s : PolymarketLocalOrderBook) : Prop :=
  EachBook (fun token book => ∀ m, s.tokenMetadata.get? token = some m → book.metadata = m) s

section

variable {s : PolymarketLocalOrderBook}

theorem InSync.bookFor (h : InSync s) (token : String) (payload : Json) {m : TokenBookMetadata}
    (hm : s.tokenMetadata.get? token = some m) : (s.bookFor token payload).metadata = m := by
  rw [PolymarketLocalOrderBook.bookFor]
  cases hbook : s.books.get? token with
  | none => simp [hm, TokenBook.init]
  | some book => exact h (token, book) (Dict.mem_entries_iff.mpr hbook) m hm

theorem inSync_message {updateType : UpdateType}
    {r : PolymarketLocalOrderBook × Except MessageError PolymarketQuote}
    (hs : EachBook StoredUnder s) (h : InSync s)
    (houtcome : MessageOutcome s (KeepsMetadata s) (KeepsMetadata s) updateType r) :
    InSync r.1 := by
  have kept {book : TokenBook} (hbook : KeepsMetadata s book) :
      ∀ m, s.tokenMetadata.get? book.tokenId = some m → book.metadata = m := by
    obtain ⟨token, payload, htoken, hmetadata⟩ := hbook
    have hstored : (s.bookFor token payload).tokenId = token :=
      hs.bookFor storedUnder_rule token payload
    intro m hm
    rw [htoken, hstored] at hm
    rw [hmetadata, h.bookFor token payload hm]
  rw [InSync, houtcome.same.1]
  cases houtcome with
  | unread e result => rwa [result]
  | raised s' book e same left result =>
      rw [result]
      exact (h.congr same.books).setBook (kept left)
  | quoted s' book t before same done result =>
      rw [result]
      have touched : ∀ m, s.tokenMetadata.get? (book.touch t).tokenId = some m →
          (book.touch t).metadata = m := kept done
      exact ((h.congr same.books).setBook touched).congr rfl

/-- Replacing the metadata of a token changes the book of that token only. -/
theorem books_setBookMetadata (tokenId : String) (m : TokenBookMetadata) (token : String) :
    (s.setBookMetadata tokenId m).books.get? token =
      if tokenId = token then (s.books.get? token).map fun book => { book with metadata := m }
      else s.books.get? token := by
  rw [setBookMetadata]
  by_cases htoken : tokenId = token
  · rw [if_pos htoken, ← htoken]
    cases hbook : s.books.get? tokenId with
    | none => exact hbook
    | some book => exact Dict.get?_set_self ..
  · rw [if_neg htoken]
    cases hbook : s.books.get? tokenId with
    | none => rfl
    | some book => exact Dict.get?_set_of_ne _ _ htoken

theorem inSync_setMetadata (h : InSync s) (tokenId : String) (m : TokenBookMetadata) :
    InSync ({ s with tokenMetadata := s.tokenMetadata.set tokenId m
      }.setBookMetadata tokenId m) := by
  rw [InSync, (marketInvalid_setBookMetadata tokenId m).2]
  rintro ⟨token, book'⟩ he m' hm'
  have hmem := Dict.mem_entries_iff.mp he
  have hbooks := books_setBookMetadata
    (s := { s with tokenMetadata := s.tokenMetadata.set tokenId m }) tokenId m token
  rw [hbooks] at hmem
  have hget : (s.tokenMetadata.set tokenId m).get? token = some m' := hm'
  rw [Dict.get?_set] at hget
  by_cases htoken : tokenId = token
  · rw [if_pos htoken] at hmem hget
    obtain ⟨old, -, rfl⟩ := Option.map_eq_some_iff.mp hmem
    exact Option.some.inj hget
  · rw [if_neg htoken] at hmem hget
    exact h (token, book') (Dict.mem_entries_iff.mpr hmem) m' hget

theorem inSync_updateTickSize (h : InSync s) (marketId : String) (tokenId : Option String)
    (tickSize : ℚ) : InSync (s.updateTickSize marketId tokenId tickSize) := by
  refine updateTickSize_rule h marketId tokenId fun s' token hs' => ?_
  rw [updateTokenTickSize]
  cases s'.tokenMetadata.get? token with
  | none => exact hs'
  | some m => exact inSync_setMetadata hs' token { m with tickSize := tickSize }

theorem books_adoptMetadata (e : String × TokenBookMetadata) (token : String) :
    (adoptMetadata s e).books.get? token =
      if e.1 = token then (s.books.get? token).map fun book => { book with metadata := e.2 }
      else s.books.get? token := by
  rw [adoptMetadata]
  exact books_setBookMetadata e.1 e.2 token

theorem books_foldl_adoptMetadata_of_not_mem {entries : List (String × TokenBookMetadata)}
    {token : String} (h : token ∉ entries.map Prod.fst) :
    (entries.foldl adoptMetadata s).books.get? token = s.books.get? token := by
  induction entries generalizing s with
  | nil => rfl
  | cons e entries ih =>
      rw [List.map_cons, List.mem_cons, not_or] at h
      rw [List.foldl_cons, ih h.2, books_adoptMetadata, if_neg (Ne.symm h.1)]

theorem metadata_foldl_adoptMetadata {entries : List (String × TokenBookMetadata)}
    (hnodup : (entries.map Prod.fst).Nodup) {token : String} {m : TokenBookMetadata}
    (hm : (token, m) ∈ entries) {book : TokenBook}
    (hbook : (entries.foldl adoptMetadata s).books.get? token = some book) :
    book.metadata = m := by
  induction entries generalizing s with
  | nil => cases hm
  | cons e entries ih =>
      rw [List.map_cons, List.nodup_cons] at hnodup
      rcases List.mem_cons.mp hm with rfl | hm
      · rw [List.foldl_cons, books_foldl_adoptMetadata_of_not_mem hnodup.1, books_adoptMetadata,
          if_pos rfl] at hbook
        obtain ⟨old, -, rfl⟩ := Option.map_eq_some_iff.mp hbook
        rfl
      · exact ih hnodup.2 hm hbook

theorem inSync_updateTokenMetadata (metadata : Dict String TokenBookMetadata)
    (active : List String) : InSync (s.updateTokenMetadata metadata active) := by
  rintro ⟨token, book⟩ he m hm
  have hkept : (s.updateTokenMetadata metadata active).tokenMetadata =
    metadata.filterKeys fun token => token ∈ active :=
      (marketInvalid_foldl_adoptMetadata _).2
  rw [hkept] at hm
  exact metadata_foldl_adoptMetadata (Dict.nodup_keys _) (Dict.mem_entries_iff.mpr hm)
    (Dict.mem_entries_iff.mp he)

theorem inSync_next (hs : EachBook StoredUnder s) (h : InSync s) (call : PolymarketCall) :
    InSync (polymarketMachine.next s call) := by
  cases call with
  | applyBook payload t =>
      exact inSync_message hs h ((applyBook_quotedAs payload t).mono (fun _ hb => hb)
        fun _ hb => hb.1)
  | applyPriceChange row parent t =>
      exact inSync_message hs h ((applyPriceChange_quotedAs row parent t).mono (fun _ hb => hb)
        fun _ hb => hb.1)
  | applyBestBidAsk payload t =>
      exact inSync_message hs h ((applyBestBidAsk_quotedAs payload t).mono (fun _ hb => hb)
        fun _ hb => hb.1)
  | markMarketInvalid marketId =>
      rintro ⟨token, book'⟩ he m hm
      obtain ⟨⟨_, book⟩, hmem, heq⟩ := List.mem_map.mp he
      obtain ⟨rfl, rfl⟩ := Prod.mk.inj heq
      have hold := h _ hmem m hm
      dsimp only
      split
      · exact hold
      · exact hold
  | updateTickSize marketId tokenId tickSize =>
      exact inSync_updateTickSize h marketId tokenId tickSize
  | updateTokenMetadata metadata active => exact inSync_updateTokenMetadata metadata active
  | recordReconnect => exact h.congr rfl
  | tokenReadinessSnapshot => exact h.congr rfl

end

/-! ### The theorem on quotes -/

/-- What is known of the quotes of dead markets, of a market state and of local order
books. -/
structure StaysDead (maxQuoteAgeMs : ℚ) (c : PolymarketSettings) : Prop where
  /-- After the end of a market, it is over, and its stored quotes are incomplete. -/
  marketState : ∀ pre e now post, e.lifecycleType.endsMarket = true →
    let state := marketStateMachine.exec (.init maxQuoteAgeMs)
      (pre ++ (.marketLifecycle e, now) :: post)
    state.isMarketInvalid e.marketId = true ∧
      ∀ token q, state.polymarketQuotes.get? token = some q → q.marketId = e.marketId →
        q.bookComplete = false
  /-- After a market was marked invalid, every quote of the market, and of a token whose
  metadata names the market, is incomplete. -/
  orderBooks : ∀ pre marketId post call q,
    let s := polymarketMachine.exec (.init c) (pre ++ .markMarketInvalid marketId :: post)
    polymarketMachine.out s call = .quote q →
    q.marketId = marketId ∨
      (s.tokenMetadata.get? q.tokenId).map TokenBookMetadata.marketId = some marketId →
    q.bookComplete = false

theorem inSync_exec (c : PolymarketSettings) (calls : List PolymarketCall) :
    InSync (polymarketMachine.exec (.init c) calls) := by
  have hinit : InSync (PolymarketLocalOrderBook.init c) := by
    intro e he
    cases he
  exact (polymarketMachine.exec_invariant (I := fun s => EachBook StoredUnder s ∧ InSync s)
    (fun s call hs => ⟨storedUnder_next hs.1 call, inSync_next hs.1 hs.2 call⟩)
    ⟨storedUnder_exec c [], hinit⟩ calls).2

/-- The quote of a token whose metadata is known names the market of the metadata. -/
theorem marketId_of_metadata {s : PolymarketLocalOrderBook} (hs : EachBook StoredUnder s)
    (hsync : InSync s) {call : PolymarketCall} {q : PolymarketQuote}
    (hq : polymarketMachine.out s call = .quote q) {m : TokenBookMetadata}
    (hm : s.tokenMetadata.get? q.tokenId = some m) : q.marketId = m.marketId := by
  have key {Left : TokenBook → Prop} {updateType : UpdateType}
      {r : PolymarketLocalOrderBook × Except MessageError PolymarketQuote}
      (houtcome : MessageOutcome s Left (QuotedAs s) updateType r) (hr : r.2 = .ok q) :
      q.marketId = m.marketId := by
    obtain ⟨s', book, t, -, ⟨⟨token, payload, htoken, hmetadata⟩, -⟩, rfl, -, -⟩ :=
      houtcome.quote hr
    have hstored : (s.bookFor token payload).tokenId = token :=
      hs.bookFor storedUnder_rule token payload
    have hknown : s.tokenMetadata.get? book.tokenId = some m := hm
    rw [htoken, hstored] at hknown
    have hmarket : book.metadata.marketId = m.marketId := by
      rw [hmetadata, hsync.bookFor token payload hknown]
    exact hmarket
  rcases out_quote hq with ⟨payload, t, rfl, hout⟩ | ⟨row, parent, t, rfl, hout⟩ |
    ⟨payload, t, rfl, hout⟩
  · exact key (applyBook_quotedAs payload t) hout
  · exact key (applyPriceChange_quotedAs row parent t) hout
  · exact key (applyBestBidAsk_quotedAs payload t) hout

/-- **Dead markets stay dead**, in the market state and in the local order books. -/
theorem dead_markets_stay_dead (maxQuoteAgeMs : ℚ) (c : PolymarketSettings) :
    StaysDead maxQuoteAgeMs c := by
  refine ⟨?_, ?_⟩
  · intro pre e now post hends state
    have hover : (marketStateMachine.exec (.init maxQuoteAgeMs)
        (pre ++ (.marketLifecycle e, now) :: post)).isMarketInvalid e.marketId = true := by
      rw [Machine.exec_append, Machine.exec_cons]
      refine MarketState.exec_stays_over post ?_
      have hended : MarketEvent.endedMarket (.marketLifecycle e) = some e.marketId :=
        if_pos hends
      exact (MarketState.apply_marketInvalid ..).trans (by simp [hended])
    refine ⟨hover, fun token q hq hid => ?_⟩
    exact MarketState.exec_deadQuotes _ (MarketState.init_deadQuotes maxQuoteAgeMs) (token, q)
      (Dict.mem_entries_iff.mpr hq) (hid ▸ hover)
  · intro pre marketId post call q s hq hmarket
    have hinvalid : (s.marketInvalid.get? marketId).isSome := by
      have hmarked (s : PolymarketLocalOrderBook) :
          (polymarketMachine.next s (.markMarketInvalid marketId)).marketInvalid =
            s.marketInvalid.set marketId () := rfl
      have hexec : s = polymarketMachine.exec (polymarketMachine.next
          (polymarketMachine.exec (.init c) pre) (.markMarketInvalid marketId)) post :=
        Machine.exec_append ..
      rw [hexec]
      exact polymarketMachine.exec_invariant
        (I := fun s => (s.marketInvalid.get? marketId).isSome = true)
        (fun s call hs => marketInvalid_next hs call)
        (by rw [hmarked, Dict.get?_set_self]; rfl) post
    have hid : q.marketId = marketId := by
      rcases hmarket with hid | hknown
      · exact hid
      · obtain ⟨m, hm, hid⟩ := Option.map_eq_some_iff.mp hknown
        exact (marketId_of_metadata (storedUnder_exec c _) (inSync_exec c _) hq hm).trans hid
    exact incomplete_of_marketInvalid hq (hid ▸ hinvalid)

/-! ### The markets of the gap detector -/

/-- What a step of the detector leaves alone unless it is about the markets themselves. -/
structure SameMarkets (d d' : GapDetector) : Prop where
  settings : d'.settings = d.settings
  bySymbol : d'.marketsBySymbol = d.marketsBySymbol
  byToken : d'.marketsByToken = d.marketsByToken
  tickSizes : d'.tickSizeByMarket = d.tickSizeByMarket
  invalid : d'.invalidMarkets = d.invalidMarkets

theorem SameMarkets.refl (d : GapDetector) : SameMarkets d d := ⟨rfl, rfl, rfl, rfl, rfl⟩

theorem SameMarkets.trans {d d' d'' : GapDetector} (h : SameMarkets d d')
    (h' : SameMarkets d' d'') : SameMarkets d d'' :=
  ⟨h'.settings.trans h.settings, h'.bySymbol.trans h.bySymbol, h'.byToken.trans h.byToken,
    h'.tickSizes.trans h.tickSizes, h'.invalid.trans h.invalid⟩

namespace GapDetector

variable (d : GapDetector)

theorem sameMarkets_recordObservationDiagnostics (observation : TradableGapObservation) :
    SameMarkets d (d.recordObservationDiagnostics observation) := by
  rw [recordObservationDiagnostics]
  cases observation.rejectStage <;> cases observation.rejectReason <;>
    exact ⟨rfl, rfl, rfl, rfl, rfl⟩

theorem sameMarkets_complete (observation : TradableGapObservation) (stage : RejectStage) :
    SameMarkets d (d.complete observation stage) := by
  rw [complete]
  cases observation.rejectReason with
  | none =>
      obtain ⟨hs, hsymbol, htoken, hticks, hinvalid⟩ :=
        sameMarkets_recordObservationDiagnostics d observation
      exact ⟨hs, hsymbol, htoken, hticks, hinvalid⟩
  | some reason =>
      obtain ⟨hs, hsymbol, htoken, hticks, hinvalid⟩ :=
        sameMarkets_recordObservationDiagnostics (d.recordReject reason stage) observation
      exact ⟨hs, hsymbol, htoken, hticks, hinvalid⟩

theorem sameMarkets_rejectCandidate (m : BinanceMove) (market : PolymarketMarketMetadata)
    (tokenId : String) (quote : Option PolymarketQuote) (reason : String)
    (gate : BookReadinessGate) :
    SameMarkets d (d.rejectCandidate m market tokenId quote reason gate).1 := by
  have key (observation : TradableGapObservation) :
      SameMarkets d (d.recordPreEntryObservation observation).1 := by
    simp only [recordPreEntryObservation]
    split
    · exact ⟨rfl, rfl, rfl, rfl, rfl⟩
    · refine SameMarkets.trans ?_ (sameMarkets_complete _ _ _)
      exact ⟨rfl, rfl, rfl, rfl, rfl⟩
  exact key _

theorem sameMarkets_settleCandidate (m : BinanceMove) (market : PolymarketMarketMetadata)
    (gate : BookReadinessGate) : SameMarkets d (d.settleCandidate m market gate).1 := by
  have h := settleCandidate_settles d m market gate
  generalize d.settleCandidate m market gate = r at h ⊢
  cases h with
  | rejected rejects => exact sameMarkets_rejectCandidate ..
  | duplicate => exact ⟨rfl, rfl, rfl, rfl, rfl⟩
  | opened token free read fills => exact ⟨rfl, rfl, rfl, rfl, rfl⟩

theorem sameMarkets_detectInMarket (m : BinanceMove)
    (acc : GapDetector × List TradableGapObservation) (market : PolymarketMarketMetadata) :
    SameMarkets acc.1 (detectInMarket m acc market).1 := by
  rw [detectInMarket]
  dsimp only
  split
  · exact .refl _
  split
  · exact ⟨rfl, rfl, rfl, rfl, rfl⟩
  · refine SameMarkets.trans ?_
      (sameMarkets_settleCandidate (acc.1.countCandidate m market) m market _)
    exact ⟨rfl, rfl, rfl, rfl, rfl⟩

theorem sameMarkets_detectBinanceMove (symbol : String) (state : MarketState) (now : Moment)
    (binanceEventTs : Option ℤ) :
    SameMarkets d (d.detectBinanceMove symbol state now binanceEventTs).1 := by
  refine detectBinanceMove_rule (P := fun acc => SameMarkets d acc.1) d symbol state now
    binanceEventTs (.refl d) ⟨rfl, rfl, rfl, rfl, rfl⟩ ⟨rfl, rfl, rfl, rfl, rfl⟩ ?_
  exact fun m _ market _ acc hacc => hacc.trans (sameMarkets_detectInMarket m acc market)

theorem sameMarkets_sweepPending (body : GapDetector → PendingTradableGap → GapFate) :
    SameMarkets d (d.sweepPending body).1 := by
  refine List.foldlRecOn (motive := fun (acc : GapDetector × List TradableGapObservation) =>
    SameMarkets d acc.1) _ _ (.refl d) ?_
  intro acc hacc e _
  refine hacc.trans ?_
  rw [visitPending]
  cases body acc.1 e.2 with
  | keep pending => exact ⟨rfl, rfl, rfl, rfl, rfl⟩
  | close pending =>
      exact (sameMarkets_complete acc.1 (acc.1.observationFromPending pending) _).trans
        ⟨rfl, rfl, rfl, rfl, rfl⟩

theorem sameMarkets_recordWarmupQuote (quote : PolymarketQuote) (nowTs : ℤ) :
    SameMarkets d (d.recordWarmupQuote quote nowTs) := by
  rw [recordWarmupQuote]
  split
  · exact .refl d
  split
  · exact ⟨rfl, rfl, rfl, rfl, rfl⟩
  · exact .refl d

/-- Only lifecycle events are about the markets. -/
theorem sameMarkets_handleEvent {event : MarketEvent} (h : isLifecycle event = false)
    (state : MarketState) (now : Moment) : SameMarkets d (d.handleEvent event state now).1 := by
  cases event with
  | marketTick e =>
      rw [handleEvent]
      split
      · exact sameMarkets_detectBinanceMove ..
      · exact .refl d
  | orderBookTop e =>
      rw [handleEvent]
      split
      · exact sameMarkets_detectBinanceMove ..
      · exact .refl d
  | depthUpdate e => exact .refl d
  | polymarketQuote q =>
      exact (sameMarkets_recordWarmupQuote d q now.nowTs).trans
        (sameMarkets_sweepPending _ _)
  | marketLifecycle e => cases h

theorem sameMarkets_onMarketEvent {event : MarketEvent} (h : isLifecycle event = false)
    (state : MarketState) (nowTs : Option ℤ) (clock : ℤ) :
    SameMarkets d (d.onMarketEvent event state nowTs clock).1 := by
  have hrun : (d.onMarketEvent event state nowTs clock).1 =
      ((d.handleEvent event state (momentOf event nowTs clock)).1.closeExpiredPending state
        (momentOf event nowTs clock)).1 := by
    simp only [onMarketEvent, h]
    rfl
  rw [hrun]
  exact (sameMarkets_handleEvent d h state _).trans (sameMarkets_sweepPending _ _)

/-- The market an event ends for the detector: every lifecycle event ends its market but a
new market and a change of the tick size that says the new one. -/
def endedMarket : MarketEvent → Option String
  | .marketLifecycle e =>
      match e.lifecycleType, orValue e.newTickSize none with
      | .newMarket, _ => none
      | .tickSizeChange, some _ => none
      | _, _ => some e.marketId
  | _ => none

/-- **Which markets are over for the detector** after an event. -/
theorem onMarketEvent_invalidMarkets (event : MarketEvent) (state : MarketState)
    (nowTs : Option ℤ) (clock : ℤ) (marketId : String) :
    ((d.onMarketEvent event state nowTs clock).1.invalidMarkets.get? marketId).isSome =
      ((d.invalidMarkets.get? marketId).isSome ||
        decide (endedMarket event = some marketId)) := by
  cases event with
  | marketLifecycle e =>
      have hrun : (d.onMarketEvent (.marketLifecycle e) state nowTs clock).1 =
        (d.handleLifecycle e state (momentOf (.marketLifecycle e) nowTs clock)).1 := rfl
      have lost {s : GapDetector} (hs : SameMarkets
          { d with invalidMarkets := d.invalidMarkets.set e.marketId () } s) :
          (s.invalidMarkets.get? marketId).isSome =
            ((d.invalidMarkets.get? marketId).isSome ||
              decide (some e.marketId = some marketId)) := by
        rw [hs.invalid, Dict.get?_set]
        by_cases hid : e.marketId = marketId <;> simp [hid]
      rw [hrun, handleLifecycle, endedMarket]
      cases htype : e.lifecycleType with
      | newMarket => simp
      | tickSizeChange =>
          cases htick : orValue e.newTickSize none with
          | none => exact lost (sameMarkets_sweepPending _ _)
          | some tickSize =>
              dsimp only
              rw [if_neg (by decide), Bool.or_eq_left_iff_imp.mpr (by simp)]
              split
              · rfl
              · rw [(sameMarkets_sweepPending _ _).invalid]
      | marketResolved => exact lost (sameMarkets_sweepPending _ _)
      | closed => exact lost (sameMarkets_sweepPending _ _)
      | expired => exact lost (sameMarkets_sweepPending _ _)
  | _ =>
      rw [(sameMarkets_onMarketEvent d rfl state nowTs clock).invalid]
      simp [endedMarket]

end GapDetector

/-! ### The market state and the gap detector -/

/-- A call of the feed: an event, the readings of the clocks when the market state applies
it, and the time and the clock the detector is given. -/
structure FeedCall where
  event : MarketEvent
  now : Moment
  nowTs : Option ℤ
  clock : ℤ

/-- The feed: each event is applied to the market state, and what leaves it is handled by
the detector. -/
def feedMachine : Machine (MarketState × GapDetector) FeedCall (List TradableGapObservation) where
  step s call :=
    let applied := s.1.apply call.event call.now
    let handled := s.2.onMarketEvent applied.2 applied.1 call.nowTs call.clock
    ((applied.1, handled.1), handled.2)

/-- A fresh feed. -/
def feedInit (maxQuoteAgeMs : ℚ) (c : GapDetectorSettings)
    (markets : List PolymarketMarketMetadata) (startedNs : ℤ) : MarketState × GapDetector :=
  (.init maxQuoteAgeMs, .init c markets startedNs)

/-- The detector and the market state agree on which of some markets are over. -/
def AgreesOnDead (markets : List PolymarketMarketMetadata) (s : MarketState × GapDetector) :
    Prop :=
  ∀ market ∈ markets, (s.2.invalidMarkets.get? market.marketId).isSome =
    s.1.isMarketInvalid market.marketId

/-- The market of a tick size change that does not say the new tick size, or says zero. -/
def MarketEvent.tickSizeMissing : MarketEvent → Option String
  | .marketLifecycle e =>
      if e.lifecycleType = .tickSizeChange ∧ orValue e.newTickSize none = none then
        some e.marketId
      else none
  | _ => none

/-- A tick size change of one of the markets says the new tick size, or its market is
over. -/
def SaysTickSize (markets : List PolymarketMarketMetadata) (s : MarketState × GapDetector)
    (call : FeedCall) : Prop :=
  ∀ market ∈ markets, call.event.tickSizeMissing = some market.marketId →
    s.1.isMarketInvalid market.marketId = true

/-- The events that end a market for the detector: those that end it for the market state,
and tick size changes that do not say the new tick size. -/
theorem GapDetector.endedMarket_eq_some_iff {event : MarketEvent} {marketId : String} :
    GapDetector.endedMarket event = some marketId ↔
      event.endedMarket = some marketId ∨ event.tickSizeMissing = some marketId := by
  cases event with
  | marketLifecycle e =>
      rw [GapDetector.endedMarket, MarketEvent.endedMarket, MarketEvent.tickSizeMissing]
      cases htype : e.lifecycleType <;> cases htick : orValue e.newTickSize none <;>
        simp [MarketLifecycleType.endsMarket]
  | _ => simp [GapDetector.endedMarket, MarketEvent.endedMarket, MarketEvent.tickSizeMissing]

/-- No event ends a market and misses its tick size. -/
theorem endedMarket_of_tickSizeMissing {event : MarketEvent} {marketId : String}
    (h : event.tickSizeMissing = some marketId) : event.endedMarket = none := by
  cases event with
  | marketLifecycle e =>
      rw [MarketEvent.tickSizeMissing] at h
      rw [MarketEvent.endedMarket]
      split at h
      · rename_i htick
        rw [htick.1]
        rfl
      · cases h
  | _ => rfl

/-- What leaves the market state ends the same market for the detector. -/
theorem endedMarket_updatedEvent (state : MarketState) (event : MarketEvent) (now : Moment) :
    GapDetector.endedMarket (state.updatedEvent event now) = GapDetector.endedMarket event := by
  cases event <;> rfl

section

variable {markets : List PolymarketMarketMetadata}

/-- **One step**: where the two agree, they still do after an event exactly when a tick size
change says the new tick size or names a market that is over. -/
theorem agreesOnDead_next {s : MarketState × GapDetector} (hs : AgreesOnDead markets s)
    (call : FeedCall) :
    AgreesOnDead markets (feedMachine.next s call) ↔ SaysTickSize markets s call := by
  refine forall₂_congr fun market hmarket => ?_
  have hstate : (feedMachine.next s call).1.isMarketInvalid market.marketId =
      (s.1.isMarketInvalid market.marketId ||
        decide (call.event.endedMarket = some market.marketId)) :=
    MarketState.apply_marketInvalid ..
  have hdetector : ((feedMachine.next s call).2.invalidMarkets.get? market.marketId).isSome =
      ((s.2.invalidMarkets.get? market.marketId).isSome ||
        decide (GapDetector.endedMarket (s.1.updatedEvent call.event call.now) =
          some market.marketId)) :=
    GapDetector.onMarketEvent_invalidMarkets ..
  rw [hstate, hdetector, endedMarket_updatedEvent, hs market hmarket]
  simp only [GapDetector.endedMarket_eq_some_iff]
  constructor
  · intro hagree hmissing
    have hended : call.event.endedMarket ≠ some market.marketId := by
      rw [endedMarket_of_tickSizeMissing hmissing]
      exact (Option.some_ne_none _).symm
    simpa [hmissing, hended] using hagree
  · intro hover
    by_cases hmissing : call.event.tickSizeMissing = some market.marketId
    · rw [hover hmissing, Bool.true_or, Bool.true_or]
    · simp [hmissing]

end

/-- **The gap detector and the market state agree on the dead markets**, throughout a run,
exactly when each tick size change of the run says the new tick size or names a market that
is over by then. -/
theorem GapDetector.agrees_on_dead_markets (maxQuoteAgeMs : ℚ) (c : GapDetectorSettings)
    (markets : List PolymarketMarketMetadata) (startedNs : ℤ) (calls : List FeedCall) :
    (∀ pre post, calls = pre ++ post →
      AgreesOnDead markets (feedMachine.exec (feedInit maxQuoteAgeMs c markets startedNs) pre)) ↔
    feedMachine.StepsMeet (SaysTickSize markets) (feedInit maxQuoteAgeMs c markets startedNs)
      calls := by
  have hinit : AgreesOnDead markets (feedInit maxQuoteAgeMs c markets startedNs) :=
    fun _ _ => rfl
  exact feedMachine.prefixes_iff_stepsMeet (I := fun _ => True) (P := AgreesOnDead markets)
    (fun _ _ _ => trivial) (fun s call _ hs => agreesOnDead_next hs call) trivial hinit calls

/-- A market of which nothing but the name is known. -/
def namedMarket (marketId : String) : PolymarketMarketMetadata where
  marketId := marketId
  marketSlug := ""
  question := ""
  endTime := ⟨"", none⟩
  tickSize := 1 / 100
  minOrderSize := 0
  startTime := none
  eventStartTime := none
  active := none
  closed := none
  acceptingOrders := none
  enableOrderBook := none
  classification := none
  selectedForRuntime := true
  signalEnabled := false
  runtimeSelectionReason := none
  upTokenId := none
  downTokenId := none
  yesTokenId := none
  noTokenId := none
  tokenOutcomes := .empty
  baseAsset := none
  durationMinutes := none

/-- A tick size change that does not say the new tick size. -/
def unsizedTickChange (marketId : String) : MarketLifecycleEvent where
  tsNs := 1
  exchangeEventTs := none
  localReceivedTs := some 1
  parseDoneTs := none
  stateUpdatedTs := none
  recvMonotonicNs := some 1
  parseDoneMonotonicNs := none
  stateUpdatedMonotonicNs := none
  latencyMs := none
  sequence := none
  marketId := marketId
  lifecycleType := .tickSizeChange
  newTickSize := none
  receivedTs := some 1

/-- A tick size change that does not say the new tick size ends its market for the detector
only. -/
theorem GapDetector.malformed_tick_size_disagrees :
    ¬ ∀ (maxQuoteAgeMs : ℚ) (c : GapDetectorSettings) (markets : List PolymarketMarketMetadata)
      (startedNs : ℤ) (calls : List FeedCall), AgreesOnDead markets
        (feedMachine.exec (feedInit maxQuoteAgeMs c markets startedNs) calls) := by
  intro h
  have hagree := h 5000
    { minMovePct := 1 / 10, repriceThreshold := 1 / 200, minExitEdge := 0
      maxEntrySpread := 1 / 20, maxEntryPriceMove := 1 / 50, maxPendingGapMs := 5000
      binanceStaleMs := 500, polymarketStaleMs := 1000, preEntryLogCooldownMs := 500
      requireBookReady := true, bookWarmupMaxMs := 3000, validationMode := .tolerant
      validationToleranceTicks := 1, closePendingOnTickSizeChange := false }
    [namedMarket "m"] 1 [⟨.marketLifecycle (unsizedTickChange "m"), ⟨2, 2⟩, none, 2⟩]
    (namedMarket "m") List.mem_cons_self
  revert hagree
  decide +kernel

end SomethingTrade
