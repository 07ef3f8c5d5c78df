import SomethingTrade.PolymarketReconnect

/-!
# The Ladder of a Token

Many tokens share one order book object, but the ladder of a token depends on its own
messages only: its last full book, and the changes of a level since. `Ladder.after` says
what a call does to the ladder of one token; a report of the best prices, a message of
another token and the calls that are no messages do nothing to it.

## Main results

* `ladderOf_next`: what a call does to the ladder of a token.
* `PolymarketLocalOrderBook.ladder_is_own_messages`: in every run, the ladder of a token
  is that of its own messages.
* `quotesFromPriceChange_exec`: a message with many changed levels is the run of its rows.
-/

namespace SomethingTrade

open PolymarketLocalOrderBook

/-! ### Ladders -/

/-- The two sides of a ladder. -/
@[ext] structure Ladder where
  bids : Dict ℚ ℚ
  asks : Dict ℚ ℚ

namespace Ladder

/-- The ladder without levels. -/
def empty : Ladder := ⟨.empty, .empty⟩

/-- The ladder after one level changed: a size that is not positive removes it. -/
def changeLevel (l : Ladder) (side : String) (price size : ℚ) : Ladder :=
  if side = "BUY" then { l with bids := setLevel l.bids price size }
  else if side = "SELL" then { l with asks := setLevel l.asks price size }
  else l

/-- The ladder after a row of a price change; a row that cannot be read changes nothing. -/
def changeRow (l : Ladder) (row : Json) : Ladder :=
  match changedLevel row with
  | .ok (price, size) => l.changeLevel (priceChangeSide row) price size
  | .error _ => l

end Ladder

/-- The ladder of a book. -/
def TokenBook.ladder (book : TokenBook) : Ladder := ⟨book.bids, book.asks⟩

/-- The ladder of a token, without levels when it has no book. -/
def PolymarketLocalOrderBook.ladderOf (s : PolymarketLocalOrderBook) (token : String) :
    Ladder :=
  ((s.books.get? token).map TokenBook.ladder).getD .empty

/-! ### Levels of a book message -/

/-- The price and the size of a row. -/
def levelOf (row : Json) : Except MessageError (ℚ × ℚ) := do
  let price ← floatFrom (← requiredField row "price")
  let size ← floatFrom (← requiredField row "size")
  return (price, size)

/-- The price and the size of a row with a positive size. -/
def positiveLevel (row : Json) : Option (ℚ × ℚ) :=
  match row with
  | .obj _ => (levelOf row).toOption.filter fun level => level.2 > 0
  | _ => none

/-- The levels of positive size of a side of a book message. -/
def positiveLevels : Json → List (ℚ × ℚ)
  | .arr rows => rows.filterMap positiveLevel
  | _ => []

/-- The sides of a book message. -/
def bookRows (payload : Json) (side : String) : Json := (payload.get? side).getD (.arr [])

/-- The token of a book message. -/
def bookToken (payload : Json) : Option String := (payload.get? "asset_id").map Json.text

/-- The ladder of a book message. -/
def bookLadder (payload : Json) : Ladder where
  bids := .ofList (positiveLevels (bookRows payload "bids"))
  asks := .ofList (positiveLevels (bookRows payload "asks"))

/-- Whether the numbers of a side of a book message can be read. -/
def readable (rows : Json) : Bool := (levelsToDict rows).isOk

/-- The ladder after a book message. One that cannot be read ends with an exception, and
leaves the side it was read up to. -/
def Ladder.loadBook (l : Ladder) (payload : Json) : Ladder :=
  if readable (bookRows payload "bids") then
    if readable (bookRows payload "asks") then bookLadder payload
    else { l with bids := (bookLadder payload).bids }
  else l

theorem addLevelRow_obj (levels : Dict ℚ ℚ) (fields : List (String × Json)) :
    addLevelRow levels (.obj fields) =
      (levelOf (.obj fields)).map fun level =>
        if level.2 > 0 then levels.set level.1 level.2 else levels := by
  simp only [addLevelRow, levelOf]
  cases requiredField (.obj fields) "price" with
  | error e => rfl
  | ok price =>
      cases hprice : floatFrom price with
      | error e => simp [bind, Except.bind, hprice, Except.map]
      | ok price =>
          cases requiredField (.obj fields) "size" with
          | error e => simp [bind, Except.bind, hprice, Except.map]
          | ok size =>
              cases hsize : floatFrom size <;>
                simp [bind, Except.bind, hprice, hsize, Except.map, pure, Except.pure]

theorem addLevelRow_eq_ok {levels levels' : Dict ℚ ℚ} {row : Json}
    (h : addLevelRow levels row = .ok levels') :
    levels' = (positiveLevel row).toList.foldl (fun d e => d.set e.1 e.2) levels := by
  cases row with
  | obj fields =>
      rw [addLevelRow_obj] at h
      rw [positiveLevel]
      cases hlevel : levelOf (.obj fields) with
      | error e => rw [hlevel] at h; cases h
      | ok level =>
          rw [hlevel] at h
          cases h
          by_cases hsize : level.2 > 0 <;> simp [Except.toOption, Option.filter, hsize]
  | _ => cases h; rfl

theorem foldlM_addLevelRow {rows : List Json} {levels levels' : Dict ℚ ℚ}
    (h : rows.foldlM addLevelRow levels = .ok levels') :
    levels' = (rows.filterMap positiveLevel).foldl (fun d e => d.set e.1 e.2) levels := by
  induction rows generalizing levels with
  | nil =>
      cases h
      rfl
  | cons row rows ih =>
      rw [List.foldlM_cons] at h
      cases hrow : addLevelRow levels row with
      | error e =>
          rw [hrow] at h
          cases h
      | ok next =>
          rw [hrow] at h
          rw [ih h, addLevelRow_eq_ok hrow]
          cases hlevel : positiveLevel row <;> simp [hlevel]

/-- The levels of a side of a book message are those of positive size; a later row of a
price overwrites an earlier one. -/
theorem levelsToDict_eq_ofList {rows : Json} {levels : Dict ℚ ℚ}
    (h : levelsToDict rows = .ok levels) : levels = .ofList (positiveLevels rows) := by
  cases rows with
  | arr rows => exact foldlM_addLevelRow h
  | _ => cases h; rfl

/-! ### What a call does to a ladder -/

/-- Whether a call is a message that changes the ladder of a token. -/
def concerns (token : String) : PolymarketCall → Bool
  | .applyBook payload _ => bookToken payload = some token
  | .applyPriceChange row parent _ => priceChangeToken row parent = token
  | _ => false

/-- The ladder after a message that changes it. -/
def Ladder.apply (l : Ladder) : PolymarketCall → Ladder
  | .applyBook payload _ => l.loadBook payload
  | .applyPriceChange row _ _ => l.changeRow row
  | _ => l

/-- The ladder of a token after a call. -/
def Ladder.after (token : String) (l : Ladder) (call : PolymarketCall) : Ladder :=
  if concerns token call then l.apply call else l

/-- The ladders of all tokens stay but for one. -/
def ReplacesLadder (s : PolymarketLocalOrderBook) (token : String) (l : Ladder)
    (s' : PolymarketLocalOrderBook) : Prop :=
  ∀ token', s'.ladderOf token' = if token' = token then l else s.ladderOf token'

section

variable {s s' : PolymarketLocalOrderBook}

theorem ladderOf_congr (h : s'.books = s.books) (token : String) :
    s'.ladderOf token = s.ladderOf token := by
  rw [ladderOf, ladderOf, h]

/-- Storing a book replaces the ladder of its token. -/
theorem replacesLadder_setBook (h : s'.books = s.books) (book : TokenBook) :
    ReplacesLadder s book.tokenId book.ladder (s'.setBook book) := by
  intro token'
  have hbooks : (s'.setBook book).books = s.books.set book.tokenId book := by
    rw [setBook, h]
  rw [ladderOf, hbooks, Dict.get?_set]
  by_cases htoken : book.tokenId = token'
  · rw [if_pos htoken, if_pos htoken.symm]
    rfl
  · rw [if_neg htoken, if_neg (Ne.symm htoken), ladderOf]

theorem replacesLadder_finishMessage (h : s'.books = s.books) (book : TokenBook)
    (t : MessageTimes) (updateType : UpdateType) (before : Bool) :
    ReplacesLadder s book.tokenId book.ladder
      (s'.finishMessage book t updateType before).1 := by
  intro token'
  have hbooks : (s'.finishMessage book t updateType before).1.books =
    (s'.setBook (book.touch t)).books := rfl
  rw [ladderOf_congr hbooks]
  exact replacesLadder_setBook h (book.touch t) token'

/-- The ladder of the book a message works on is the ladder of its token. -/
theorem ladder_bookFor (token : String) (payload : Json) :
    (s.bookFor token payload).ladder = s.ladderOf token := by
  rw [bookFor, ladderOf]
  cases s.books.get? token <;> rfl

theorem requiredField_asset (payload : Json) :
    requiredField payload "asset_id" =
      match payload.get? "asset_id" with
      | some value => .ok value
      | none => .error (.keyError "asset_id") := rfl

/-- A book message without a token does nothing. -/
theorem applyBook_of_none {payload : Json} (h : bookToken payload = none) (t : MessageTimes) :
    (s.applyBook payload t).1 = s := by
  have hfield : payload.get? "asset_id" = none := Option.map_eq_none_iff.mp h
  rw [applyBook, requiredField_asset, hfield]

theorem replacesLadder_applyBook (hs : EachBook StoredUnder s) {payload : Json}
    {token : String} (h : bookToken payload = some token) (t : MessageTimes) :
    ReplacesLadder s token ((s.ladderOf token).loadBook payload) (s.applyBook payload t).1 := by
  obtain ⟨assetId, hfield, rfl⟩ := Option.map_eq_some_iff.mp h
  have htoken : (s.bookFor assetId.text payload).tokenId = assetId.text :=
    hs.bookFor storedUnder_rule assetId.text payload
  have hladder : (s.bookFor assetId.text payload).ladder = s.ladderOf assetId.text :=
    ladder_bookFor assetId.text payload
  rw [applyBook, requiredField_asset, hfield]
  dsimp only
  rw [← hladder, Ladder.loadBook, readable, readable, bookRows, bookRows]
  generalize s.bookFor assetId.text payload = book at htoken
  rw [← htoken]
  cases hbids : levelsToDict ((payload.get? "bids").getD (.arr [])) with
  | error e => exact replacesLadder_setBook rfl book
  | ok bids =>
      have hbidsEq : (bookLadder payload).bids = bids := (levelsToDict_eq_ofList hbids).symm
      dsimp only
      cases hasks : levelsToDict ((payload.get? "asks").getD (.arr [])) with
      | error e =>
          have hleft := replacesLadder_setBook (s := s) rfl { book with bids := bids }
          rw [hbidsEq]
          exact hleft
      | ok asks =>
          have hdone : bookLadder payload = (s.loadBook book bids asks).ladder :=
            Ladder.ext hbidsEq (levelsToDict_eq_ofList hasks).symm
          rw [hdone]
          exact replacesLadder_finishMessage rfl (s.loadBook book bids asks) t .book false

/-- A book keeps its ladder, but for the changed level. -/
theorem ladder_changeBook (book : TokenBook) (side : String) (price size : ℚ) :
    (s.changeBook book side price size).ladder = book.ladder.changeLevel side price size := by
  have hchange : (s.changeBook book side price size).ladder =
    (book.changeLevel side price size).ladder := rfl
  rw [hchange, TokenBook.changeLevel, Ladder.changeLevel]
  split
  · rfl
  · split <;> rfl

theorem SameLadder.ladder_eq {book book' : TokenBook} (h : SameLadder book book') :
    book'.ladder = book.ladder := Ladder.ext h.bids h.asks

/-- A message ends by storing a book of the token with the ladder. -/
theorem replacesLadder_of_stored {s' : PolymarketLocalOrderBook} (hs : SameBooks s s')
    {book : TokenBook} {token : String} {l : Ladder} (hladder : book.ladder = l)
    (htoken : book.tokenId = token) :
    ReplacesLadder s token l (s'.setBook book) ∧
      ∀ t updateType before, ReplacesLadder s token l
        (s'.finishMessage book t updateType before).1 := by
  rw [← hladder, ← htoken]
  exact ⟨replacesLadder_setBook hs.books book,
    fun t updateType before => replacesLadder_finishMessage hs.books book t updateType before⟩

/-- A ladder that is replaced by itself stays. -/
theorem ReplacesLadder.eq {s' : PolymarketLocalOrderBook} {token : String}
    (h : ReplacesLadder s token (s.ladderOf token) s') (token' : String) :
    s'.ladderOf token' = s.ladderOf token' := by
  rw [h token']
  split
  · rename_i htoken
    rw [htoken]
  · rfl

theorem replacesLadder_applyPriceChange (hs : EachBook StoredUnder s) (row parent : Json)
    (t : MessageTimes) :
    ReplacesLadder s (priceChangeToken row parent)
      ((s.ladderOf (priceChangeToken row parent)).changeRow row)
      (s.applyPriceChange row parent t).1 := by
  have htoken : (s.bookFor (priceChangeToken row parent) parent).tokenId =
    priceChangeToken row parent := hs.bookFor storedUnder_rule _ parent
  rw [applyPriceChange, ← priceChangeToken, ← priceChangeSide,
    ← ladder_bookFor (s := s) (priceChangeToken row parent) parent, Ladder.changeRow]
  dsimp only
  generalize s.bookFor (priceChangeToken row parent) parent = book at htoken
  cases changedLevel row with
  | error e => exact (replacesLadder_of_stored (.refl s) rfl htoken).1
  | ok level =>
      have hchanged : (s.changeBook book (priceChangeSide row) level.1 level.2).tokenId =
          priceChangeToken row parent := by
        rw [tokenId_changeBook, (changeLevel_sameFlags ..).tokenId, htoken]
      dsimp only
      rw [← ladder_changeBook (s := s)]
      generalize s.changeBook book (priceChangeSide row) level.1 level.2 = changed at hchanged
      cases reportedBests row with
      | error e => exact (replacesLadder_of_stored (.refl s) rfl hchanged).1
      | ok bests =>
          obtain ⟨hsame, hreported⟩ := applyReportedBest_spec s changed bests.1 bests.2 row
            t.receivedTs .priceChange
          obtain ⟨hleft, hdone⟩ := replacesLadder_of_stored hsame hreported.ladder.ladder_eq
            (hreported.ladder.tokenId.trans hchanged)
          dsimp only
          split
          · exact hleft
          · exact hdone _ _ _

/-- A report of the best prices changes no ladder. -/
theorem ladderOf_applyBestBidAsk (hs : EachBook StoredUnder s) (payload : Json)
    (t : MessageTimes) (token : String) :
    (s.applyBestBidAsk payload t).1.ladderOf token = s.ladderOf token := by
  have hold : (s.bookFor (bestBidAskToken payload) payload).tokenId = bestBidAskToken payload :=
    hs.bookFor storedUnder_rule (bestBidAskToken payload) payload
  have hladder := ladder_bookFor (s := s) (bestBidAskToken payload) payload
  have hclear {bid ask : Option ℚ} {book : TokenBook}
      (h : ReportedBest s (clearFlags (s.bookFor (bestBidAskToken payload) payload)) bid ask
        book) : SameLadder (s.bookFor (bestBidAskToken payload) payload) book :=
    (sameLadder_clearFlags _).trans h.ladder
  cases applyBestBidAsk_outcome s payload t with
  | unread e result => rw [result]
  | raised s' book e same left result =>
      rw [result]
      rcases left with rfl | ⟨bid, ask, -, hreported⟩
      · exact (replacesLadder_of_stored same hladder hold).1.eq token
      · have hsame := hclear hreported
        exact (replacesLadder_of_stored same (hsame.ladder_eq.trans hladder)
          (hsame.tokenId.trans hold)).1.eq token
  | quoted s' book t' before same done result =>
      obtain ⟨bid, ask, validated, -, hreported, hbook⟩ := done
      have hsame := hclear hreported
      have hl : book.ladder = s.ladderOf (bestBidAskToken payload) := by
        rw [hbook]
        exact hsame.ladder_eq.trans hladder
      have htoken : book.tokenId = bestBidAskToken payload := by
        rw [hbook]
        exact hsame.tokenId.trans hold
      rw [result]
      exact ((replacesLadder_of_stored same hl htoken).2 t' .bestBidAsk before).eq token

/-! ### Calls that are no messages -/

theorem ladderOf_setBookMetadata (tokenId : String) (m : TokenBookMetadata) (token : String) :
    (s.setBookMetadata tokenId m).ladderOf token = s.ladderOf token := by
  rw [setBookMetadata]
  cases hbook : s.books.get? tokenId with
  | none => rfl
  | some book =>
      rw [ladderOf, ladderOf, Dict.get?_set]
      by_cases htoken : tokenId = token
      · rw [if_pos htoken, ← htoken, hbook]
        rfl
      · rw [if_neg htoken]

theorem ladderOf_updateTokenTickSize (tickSize : ℚ) (tokenId token : String) :
    (updateTokenTickSize tickSize s tokenId).ladderOf token = s.ladderOf token := by
  rw [updateTokenTickSize]
  cases s.tokenMetadata.get? tokenId with
  | none => rfl
  | some m => exact (ladderOf_setBookMetadata ..).trans (ladderOf_congr rfl token)

theorem ladderOf_updateTickSize (marketId : String) (tokenId : Option String) (tickSize : ℚ)
    (token : String) :
    (s.updateTickSize marketId tokenId tickSize).ladderOf token = s.ladderOf token := by
  refine updateTickSize_rule (P := fun s' => s'.ladderOf token = s.ladderOf token) rfl marketId
    tokenId ?_
  exact fun s' changed hs' => (ladderOf_updateTokenTickSize ..).trans hs'

theorem ladderOf_updateTokenMetadata (metadata : Dict String TokenBookMetadata)
    (active : List String) (token : String) :
    (s.updateTokenMetadata metadata active).ladderOf token = s.ladderOf token := by
  refine updateTokenMetadata_rule (P := fun s' => s'.ladderOf token = s.ladderOf token)
    (ladderOf_congr rfl token) fun s' e hs' => ?_
  have hadopt : (adoptMetadata s' e).ladderOf token = s'.ladderOf token := by
    rw [adoptMetadata, ladderOf_setBookMetadata]
    exact ladderOf_congr rfl token
  exact hadopt.trans hs'

theorem ladderOf_markMarketInvalid (marketId : String) (token : String) :
    (s.markMarketInvalid marketId).ladderOf token = s.ladderOf token := by
  have hget : (s.markMarketInvalid marketId).books.get? token =
      (s.books.get? token).map _ := Dict.get?_mapValues ..
  rw [ladderOf, ladderOf, hget, Option.map_map]
  congr 2
  funext book
  dsimp only [Function.comp_apply]
  split <;> rfl

/-- **What a call does to the ladder of a token.** -/
theorem ladderOf_next (hs : EachBook StoredUnder s) (call : PolymarketCall) (token : String) :
    (polymarketMachine.next s call).ladderOf token =
      (s.ladderOf token).after token call := by
  cases call with
  | applyBook payload t =>
      have hnext : polymarketMachine.next s (.applyBook payload t) = (s.applyBook payload t).1 :=
        rfl
      rw [hnext, Ladder.after, concerns]
      cases htoken : bookToken payload with
      | none => rw [applyBook_of_none htoken t]; rfl
      | some token' =>
          rw [replacesLadder_applyBook hs htoken t token]
          by_cases h : token = token'
          · subst h
            simp [Ladder.apply]
          · simp [h, Ne.symm h]
  | applyPriceChange row parent t =>
      have hnext : polymarketMachine.next s (.applyPriceChange row parent t) =
        (s.applyPriceChange row parent t).1 := rfl
      rw [hnext, Ladder.after, concerns, replacesLadder_applyPriceChange hs row parent t token]
      by_cases h : token = priceChangeToken row parent
      · subst h
        simp [Ladder.apply]
      · simp [h, Ne.symm h]
  | applyBestBidAsk payload t => exact ladderOf_applyBestBidAsk hs payload t token
  | markMarketInvalid marketId => exact ladderOf_markMarketInvalid marketId token
  | updateTickSize marketId tokenId tickSize =>
      exact ladderOf_updateTickSize marketId tokenId tickSize token
  | updateTokenMetadata metadata active =>
      exact ladderOf_updateTokenMetadata metadata active token
  | recordReconnect => exact ladderOf_congr rfl token
  | tokenReadinessSnapshot => exact ladderOf_congr rfl token

/-- The ladder of a token after a run is that of the messages that concern it. -/
theorem ladderOf_exec (hs : EachBook StoredUnder s) (calls : List PolymarketCall)
    (token : String) :
    (polymarketMachine.exec s calls).ladderOf token =
      (calls.filter (concerns token)).foldl Ladder.apply (s.ladderOf token) := by
  induction calls generalizing s with
  | nil => rfl
  | cons call calls ih =>
      rw [Machine.exec_cons, ih (storedUnder_next hs call), ladderOf_next hs, Ladder.after]
      by_cases h : concerns token call = true
      · rw [if_pos h, List.filter_cons_of_pos h, List.foldl_cons]
      · rw [if_neg h, List.filter_cons_of_neg h]

end

/-! ### Messages with many changed levels -/

/-- Whether a value is an object. -/
def Json.isObject : Json → Bool
  | .obj _ => true
  | _ => false

/-- The rows of a price change: its list of changes, or the message itself. -/
def priceChangeRows (payload : Json) : List Json :=
  match payload.get "price_changes" with
  | .arr changes => changes.filter Json.isObject
  | _ => [payload]

/-- The times of a row: its sequence value is its hash or that of the message. -/
def rowTimes (payload row : Json) (t : MessageTimes) : MessageTimes :=
  { t with sequence := (row.get "hash").orElse (payload.get "hash") }

/-- Apply rows of a price change one after the other, up to an exception. -/
def applyRows (payload : Json) (t : MessageTimes) :
    PolymarketLocalOrderBook → List Json →
      PolymarketLocalOrderBook × Except MessageError (List PolymarketQuote)
  | s, [] => (s, .ok [])
  | s, row :: rows =>
      match s.applyPriceChange row payload (rowTimes payload row t) with
      | (s, .error e) => (s, .error e)
      | (s, .ok quote) =>
          let (s, quotes) := applyRows payload t s rows
          (s, quotes.map fun quotes => quote :: quotes)

/-- Apply a price change message. -/
def quotesFromPriceChange (s : PolymarketLocalOrderBook) (payload : Json) (t : MessageTimes) :
    PolymarketLocalOrderBook × Except MessageError (List PolymarketQuote) :=
  applyRows payload t s (priceChangeRows payload)

/-- The calls of some rows of a price change. -/
def rowCalls (payload : Json) (t : MessageTimes) (rows : List Json) : List PolymarketCall :=
  rows.map fun row => .applyPriceChange row payload (rowTimes payload row t)

theorem applyRows_exec (payload : Json) (t : MessageTimes) (s : PolymarketLocalOrderBook)
    (rows : List Json) :
    ∃ done rest, rows = done ++ rest ∧
      (applyRows payload t s rows).1 = polymarketMachine.exec s (rowCalls payload t done) ∧
      ((applyRows payload t s rows).2.isOk → rest = []) := by
  induction rows generalizing s with
  | nil => exact ⟨[], [], rfl, rfl, fun _ => rfl⟩
  | cons row rows ih =>
      have hnext : polymarketMachine.next s
          (.applyPriceChange row payload (rowTimes payload row t)) =
        (s.applyPriceChange row payload (rowTimes payload row t)).1 := rfl
      rw [applyRows]
      rcases hrow : s.applyPriceChange row payload (rowTimes payload row t) with ⟨s', e | quote⟩
      · refine ⟨[row], rows, rfl, ?_, fun hok => ?_⟩
        · rw [rowCalls, List.map_singleton, Machine.exec_cons, hnext, hrow]
          rfl
        · cases hok
      · obtain ⟨done, rest, rfl, hexec, hrest⟩ := ih s'
        refine ⟨row :: done, rest, rfl, ?_, fun hok => hrest ?_⟩
        · rw [rowCalls, List.map_cons, Machine.exec_cons, hnext, hrow]
          exact hexec
        · cases hquotes : (applyRows payload t s' (done ++ rest)).2 with
          | ok quotes => rfl
          | error e =>
              have hok' : ((applyRows payload t s' (done ++ rest)).2.map
                fun quotes => quote :: quotes).isOk = true := hok
              rw [hquotes] at hok'
              cases hok'

/-- **A message with many changed levels** is the run of its rows, up to a row that ends it
with an exception. -/
theorem quotesFromPriceChange_exec (s : PolymarketLocalOrderBook) (payload : Json)
    (t : MessageTimes) :
    ∃ done rest, priceChangeRows payload = done ++ rest ∧
      (quotesFromPriceChange s payload t).1 =
        polymarketMachine.exec s (rowCalls payload t done) ∧
      ((quotesFromPriceChange s payload t).2.isOk → rest = []) :=
  applyRows_exec payload t s (priceChangeRows payload)

/-! ### Runs -/

/-- Whether a call is a book message of a token. -/
def isBookOf (token : String) : PolymarketCall → Bool
  | .applyBook payload _ => bookToken payload = some token
  | _ => false

/-- The row of a change of a level of a token. -/
def ownRow (token : String) : PolymarketCall → Option Json
  | .applyPriceChange row parent _ => if priceChangeToken row parent = token then some row else none
  | _ => none

/-- Without a book message, the messages that concern a token are its changes of a
level. -/
theorem foldl_apply_of_no_book {token : String} {calls : List PolymarketCall}
    (h : ∀ call ∈ calls, isBookOf token call = false) (l : Ladder) :
    (calls.filter (concerns token)).foldl Ladder.apply l =
      (calls.filterMap (ownRow token)).foldl Ladder.changeRow l := by
  induction calls generalizing l with
  | nil => rfl
  | cons call calls ih =>
      have hcalls := ih fun c hc => h c (List.mem_cons_of_mem _ hc)
      have hcall := h call List.mem_cons_self
      cases call with
      | applyBook payload t =>
          have hother : concerns token (.applyBook payload t) = false := hcall
          rw [List.filter_cons_of_neg (by simp [hother]), hcalls]
          rfl
      | applyPriceChange row parent t =>
          by_cases hown : priceChangeToken row parent = token
          · simp [concerns, ownRow, hown, hcalls, Ladder.apply]
          · simp [concerns, ownRow, hown, hcalls]
      | _ => exact hcalls l

/-- A run keeps, for a token, the ladder of its own messages: its last book, and its
changes of a level since. -/
structure LadderIsOwn (c : PolymarketSettings) (token : String) : Prop where
  /-- Nothing but the token's books and changes of a level has a part in its ladder. -/
  own : ∀ calls, (polymarketMachine.exec (.init c) calls).ladderOf token =
    (calls.filter (concerns token)).foldl Ladder.apply .empty
  /-- Since its last book, whose numbers can be read. -/
  sinceBook : ∀ pre payload t post, bookToken payload = some token →
    readable (bookRows payload "bids") → readable (bookRows payload "asks") →
    (∀ call ∈ post, isBookOf token call = false) →
    (polymarketMachine.exec (.init c) (pre ++ .applyBook payload t :: post)).ladderOf token =
      (post.filterMap (ownRow token)).foldl Ladder.changeRow (bookLadder payload)
  /-- Before its first book. -/
  beforeBook : ∀ calls, (∀ call ∈ calls, isBookOf token call = false) →
    (polymarketMachine.exec (.init c) calls).ladderOf token =
      (calls.filterMap (ownRow token)).foldl Ladder.changeRow .empty

/-- **The ladder of a token is that of its own messages**, in every run of calls of all
tokens. -/
theorem PolymarketLocalOrderBook.ladder_is_own_messages (c : PolymarketSettings)
    (token : String) : LadderIsOwn c token := by
  have hown : ∀ calls, (polymarketMachine.exec (.init c) calls).ladderOf token =
      (calls.filter (concerns token)).foldl Ladder.apply .empty :=
    fun calls => ladderOf_exec (storedUnder_exec c []) calls token
  refine ⟨hown, fun pre payload t post htoken hbids hasks hpost => ?_, fun calls hcalls => ?_⟩
  · have hconcerns : concerns token (.applyBook payload t) = true := by
      simp [concerns, htoken]
    rw [hown, List.filter_append, List.filter_cons_of_pos hconcerns, List.foldl_append,
      List.foldl_cons, Ladder.apply, Ladder.loadBook, if_pos hbids, if_pos hasks]
    exact foldl_apply_of_no_book hpost _
  · rw [hown]
    exact foldl_apply_of_no_book hcalls _

end SomethingTrade
