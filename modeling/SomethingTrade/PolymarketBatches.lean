import SomethingTrade.PolymarketClient
import SomethingTrade.PolymarketCompleteness

/-!
# Raw Messages That Raise

A raw message is a batch: a list of payloads, and a price change among them a list of rows.
They are applied one after the other, and nothing is taken back when one raises. The message
then has done what its parts up to the one that raises do as messages of their own
(`ownMessages`); the one that raises leaves the other tokens alone, and of its own token the
snapshot flag and the number of updates.

## Main results

* `applyPayload_ownMessages`: a payload is the batch of its own messages.
* `applyPayload_fails`: what a message of one row or book leaves when it raises.
* `normalizeMessage_stops`: what a raw message that raises has done.
-/

namespace SomethingTrade

open PolymarketLocalOrderBook

/-! ### A payload and its parts -/

/-- A price change with one row. -/
def rowMessage (payload row : Json) : Json := payload.setField "price_changes" (.arr [row])

/-- The messages a payload stands for: one for each changed level, or the payload itself. -/
def ownMessages (payload : Json) : List Json :=
  match payloadKind payload, payload.get "price_changes" with
  | .priceChange, .arr changes =>
      match changes.filter Json.isObject with
      | [] => [payload]
      | rows => rows.map (rowMessage payload)
  | _, _ => [payload]

section

variable {payload : Json} (row : Json)

theorem get?_rowMessage {k : String} (h : k ≠ "price_changes") :
    (rowMessage payload row).get? k = payload.get? k :=
  Json.get?_setField_of_ne payload _ h.symm

theorem get_rowMessage {k : String} (h : k ≠ "price_changes") :
    (rowMessage payload row).get k = payload.get k := by
  rw [Json.get, get?_rowMessage row h, Json.get]

theorem payloadKind_rowMessage : payloadKind (rowMessage payload row) = payloadKind payload := by
  have htype : eventType (rowMessage payload row) = eventType payload := by
    rw [eventType, get?_rowMessage row (by decide), eventType]
  simp only [payloadKind, htype]

theorem isObject_rowMessage (h : payload.isObject = true) :
    (rowMessage payload row).isObject = true := by
  cases payload with
  | obj fields => rfl
  | _ => cases h

theorem priceChangeRows_rowMessage (h : payload.isObject = true) (hrow : row.isObject = true) :
    priceChangeRows (rowMessage payload row) = [row] := by
  have hobj : payload.IsObj := by
    cases payload with
    | obj fields => exact ⟨fields, rfl⟩
    | _ => cases h
  have hfield : (rowMessage payload row).get "price_changes" = .arr [row] := by
    rw [Json.get, rowMessage, hobj.get?_setField_self]
    rfl
  rw [priceChangeRows, hfield]
  simp [hrow]

/-- A row is applied alike in its own message. -/
theorem applyPriceChange_rowMessage (s : PolymarketLocalOrderBook) (row' : Json)
    (t : MessageTimes) :
    s.applyPriceChange row' (rowMessage payload row) t = s.applyPriceChange row' payload t := by
  have hbook (token : String) : s.bookFor token (rowMessage payload row) =
      s.bookFor token payload := by
    rw [bookFor, get_rowMessage row (by decide), bookFor]
  simp only [applyPriceChange, get_rowMessage row (show "asset_id" ≠ "price_changes" by decide),
    hbook]

theorem rowTimes_rowMessage (row' : Json) (t : MessageTimes) :
    rowTimes (rowMessage payload row) row' t = rowTimes payload row' t := by
  rw [rowTimes, get_rowMessage row (by decide), rowTimes]

end

/-- Apply a row of a price change as an item of a batch. -/
def rowStep (payload : Json) (t : MessageTimes) (s : PolymarketLocalOrderBook) (row : Json) :
    PolymarketLocalOrderBook × Except ClientError (List PolymarketStreamEvent) :=
  let (s, result) := s.applyPriceChange row payload (rowTimes payload row t)
  (s, (result.map fun q => [.quote q]).mapError .message)

/-- The rows of a price change are a batch. -/
theorem applyRows_batch (payload : Json) (t : MessageTimes) (s : PolymarketLocalOrderBook)
    (rows : List Json) :
    ((applyRows payload t s rows).1, ((applyRows payload t s rows).2.map fun quotes =>
        quotes.map PolymarketStreamEvent.quote).mapError ClientError.message) =
      Batch.run (rowStep payload t) s rows := by
  induction rows generalizing s with
  | nil => rfl
  | cons row rows ih =>
      rw [applyRows]
      rcases hrow : s.applyPriceChange row payload (rowTimes payload row t) with ⟨s', e | q⟩
      · have hstep : rowStep payload t s row = (s', .error (.message e)) := by
          rw [rowStep, hrow]
          rfl
        rw [Batch.run_cons_of_error hstep]
        rfl
      · have hstep : rowStep payload t s row = (s', .ok [.quote q]) := by
          rw [rowStep, hrow]
          rfl
        rw [Batch.run_cons_of_ok hstep, ← ih s']
        dsimp only
        cases (applyRows payload t s' rows).2 <;> rfl

/-- A price change of one row is the row. -/
theorem applyPayload_rows {r : MessageReadings} {payload : Json} {eventTs : Option ℤ}
    (htimestamp : timestampToNs (payload.get "timestamp") = .ok eventTs)
    (hkind : payloadKind payload = .priceChange) (s : PolymarketLocalOrderBook) :
    s.applyPayload r payload =
      Batch.run (rowStep payload (r.times eventTs (payload.get "hash"))) s
        (priceChangeRows payload) := by
  rw [applyPayload, htimestamp]
  dsimp only
  rw [hkind]
  exact applyRows_batch ..

/-- A row is applied alike as a message of its own. -/
theorem applyPayload_rowMessage {r : MessageReadings} {payload row : Json} {eventTs : Option ℤ}
    (hpayload : payload.isObject = true) (hrow : row.isObject = true)
    (htimestamp : timestampToNs (payload.get "timestamp") = .ok eventTs)
    (hkind : payloadKind payload = .priceChange) (s : PolymarketLocalOrderBook) :
    s.applyPayload r (rowMessage payload row) =
      rowStep payload (r.times eventTs (payload.get "hash")) s row := by
  have htimestamp' : timestampToNs ((rowMessage payload row).get "timestamp") = .ok eventTs := by
    rw [get_rowMessage row (by decide), htimestamp]
  rw [applyPayload_rows htimestamp' ((payloadKind_rowMessage row).trans hkind),
    priceChangeRows_rowMessage row hpayload hrow, Batch.run_singleton,
    get_rowMessage row (by decide)]
  simp only [rowStep, applyPriceChange_rowMessage, rowTimes_rowMessage]

/-- **A payload is the batch of its own messages.** -/
theorem applyPayload_ownMessages (r : MessageReadings) {payload : Json}
    (h : payload.isObject = true) (s : PolymarketLocalOrderBook) :
    s.applyPayload r payload = Batch.run (applyPayload r) s (ownMessages payload) := by
  have hself : s.applyPayload r payload = Batch.run (applyPayload r) s [payload] :=
    (Batch.run_singleton s payload).symm
  rw [ownMessages]
  split
  · rename_i changes hkind hchanges
    have hrows : priceChangeRows payload = changes.filter Json.isObject := by
      rw [priceChangeRows, hchanges]
    have hobjects : ∀ row ∈ changes.filter Json.isObject, row.isObject = true :=
      fun row hrow => (List.mem_filter.mp hrow).2
    generalize changes.filter Json.isObject = rows at *
    cases rows with
    | nil => exact hself
    | cons row rows =>
        dsimp only
        cases htimestamp : timestampToNs (payload.get "timestamp") with
        | error e =>
            -- no row is reached, and none of its own message
            have hraises (m : Json) (hm : m.get "timestamp" = payload.get "timestamp") :
                s.applyPayload r m = (s, .error e) := by
              rw [applyPayload, hm, htimestamp]
            rw [hraises payload rfl, List.map_cons]
            exact (Batch.run_cons_of_error
              (hraises _ (get_rowMessage row (by decide))) _).symm
        | ok eventTs =>
            rw [applyPayload_rows htimestamp hkind, hrows, ← List.flatMap_pure_eq_map]
            refine Batch.run_flatMap (fun row' hrow s => ?_) s
            exact ((Batch.run_singleton s (rowMessage payload row')).trans
              (applyPayload_rowMessage h (hobjects row' hrow) htimestamp hkind s)).symm
  · exact hself

/-! ### What a part leaves when it raises -/

/-- What is kept of the book of a token: its ladder, whether it has a snapshot, and its number
of updates. -/
structure TokenState where
  ladder : Ladder
  hasSnapshot : Bool
  updateCount : ℕ

/-- The state of a book. -/
def TokenBook.state (book : TokenBook) : TokenState :=
  ⟨book.ladder, book.hasSnapshot, book.updateCount⟩

/-- The state of a token, empty when it has no book. -/
def PolymarketLocalOrderBook.tokenState (s : PolymarketLocalOrderBook) (token : String) :
    TokenState :=
  ((s.books.get? token).map TokenBook.state).getD ⟨.empty, false, 0⟩

/-- The token a message is about. -/
def messageToken (payload : Json) : Option String :=
  match payloadKind payload with
  | .book => bookToken payload
  | .priceChange => (priceChangeRows payload).head?.map fun row => priceChangeToken row payload
  | .bestBidAsk => some (bestBidAskToken payload)
  | _ => none

/-- The states of all tokens but one are kept, and of that one the snapshot flag and the number
of updates. -/
structure KeepsOthers (token : Option String) (s s' : PolymarketLocalOrderBook) : Prop where
  others : ∀ other, token ≠ some other → s'.tokenState other = s.tokenState other
  hasSnapshot : ∀ any, (s'.tokenState any).hasSnapshot = (s.tokenState any).hasSnapshot
  updateCount : ∀ any, (s'.tokenState any).updateCount = (s.tokenState any).updateCount

theorem KeepsOthers.refl (token : Option String) (s : PolymarketLocalOrderBook) :
    KeepsOthers token s s :=
  ⟨fun _ _ => rfl, fun _ => rfl, fun _ => rfl⟩

/-- The token, the snapshot flag and the number of updates of a book are kept. -/
structure KeepsCounts (book book' : TokenBook) : Prop where
  tokenId : book'.tokenId = book.tokenId
  hasSnapshot : book'.hasSnapshot = book.hasSnapshot
  updateCount : book'.updateCount = book.updateCount

theorem KeepsCounts.trans {b b' b'' : TokenBook} (h : KeepsCounts b b')
    (h' : KeepsCounts b' b'') : KeepsCounts b b'' :=
  ⟨h'.tokenId.trans h.tokenId, h'.hasSnapshot.trans h.hasSnapshot,
    h'.updateCount.trans h.updateCount⟩

section

variable {s s' : PolymarketLocalOrderBook}

theorem state_bookFor (token : String) (payload : Json) :
    (s.bookFor token payload).state = s.tokenState token := by
  rw [bookFor, tokenState]
  cases s.books.get? token <;> rfl

/-- Storing a book of the token that keeps the counts. -/
theorem keepsOthers_setBook (hs : EachBook StoredUnder s) (hsame : SameBooks s s')
    {token : String} {payload : Json} {book : TokenBook}
    (h : KeepsCounts (s.bookFor token payload) book) :
    KeepsOthers (some token) s (s'.setBook book) := by
  have htoken : book.tokenId = token :=
    h.tokenId.trans (hs.bookFor storedUnder_rule token payload)
  have hstate (any : String) : (s'.setBook book).tokenState any =
      if any = token then book.state else s.tokenState any := by
    rw [tokenState, setBook, hsame.books, Dict.get?_set, htoken]
    by_cases hany : token = any
    · rw [if_pos hany, if_pos hany.symm]
      rfl
    · rw [if_neg hany, if_neg (Ne.symm hany), tokenState]
  have hbefore := state_bookFor (s := s) token payload
  refine ⟨fun other hother => ?_, fun any => ?_, fun any => ?_⟩
  · rw [hstate, if_neg fun heq => hother (congrArg some heq.symm)]
  · rw [hstate]
    split
    · rename_i hany
      rw [hany, ← hbefore]
      exact h.hasSnapshot
    · rfl
  · rw [hstate]
    split
    · rename_i hany
      rw [hany, ← hbefore]
      exact h.updateCount
    · rfl

theorem keepsCounts_changeBook (book : TokenBook) (side : String) (price size : ℚ) :
    KeepsCounts book (s.changeBook book side price size) := by
  have hchange : KeepsCounts book (book.changeLevel side price size) := by
    rw [TokenBook.changeLevel]
    split
    · exact ⟨rfl, rfl, rfl⟩
    · split <;> exact ⟨rfl, rfl, rfl⟩
  exact ⟨hchange.tokenId, hchange.hasSnapshot, hchange.updateCount⟩

theorem keepsCounts_applyReportedSide (book : TokenBook) (side : BookSide) (reported : Option ℚ)
    (updateType : UpdateType) :
    KeepsCounts book (s.applyReportedSide book side reported updateType).2 := by
  cases reported with
  | none => exact ⟨rfl, rfl, rfl⟩
  | some price =>
      rw [applyReportedSide, applyOneReportedBest]
      cases (book.localBest side).1 with
      | none => cases side <;> exact ⟨rfl, rfl, rfl⟩
      | some localPrice =>
          dsimp only
          split
          · cases side <;> exact ⟨rfl, rfl, rfl⟩
          · split
            · exact ⟨rfl, rfl, rfl⟩
            · split
              · exact ⟨rfl, rfl, rfl⟩
              · cases side <;> exact ⟨rfl, rfl, rfl⟩

theorem keepsCounts_applyReportedBest (book : TokenBook) (bid ask : Option ℚ) (payload : Json)
    (receivedTs : ℤ) (updateType : UpdateType) :
    KeepsCounts book (s.applyReportedBest book bid ask payload receivedTs updateType).2.1 := by
  simp only [applyReportedBest]
  split
  · exact ⟨rfl, rfl, rfl⟩
  · have hboth := (keepsCounts_applyReportedSide (s := s) book .bid bid updateType).trans
      (keepsCounts_applyReportedSide (s := (s.applyReportedSide book .bid bid updateType).1)
        (s.applyReportedSide book .bid bid updateType).2 .ask ask updateType)
    split <;> exact hboth

/-- A book message that raises. -/
theorem applyBook_fails (hs : EachBook StoredUnder s) {payload : Json} {t : MessageTimes}
    {e : MessageError} (h : (s.applyBook payload t).2 = .error e) :
    KeepsOthers (bookToken payload) s (s.applyBook payload t).1 := by
  cases hfield : payload.get? "asset_id" with
  | none =>
      rw [applyBook, requiredField_asset, hfield]
      exact .refl _ s
  | some assetId =>
      have htoken : bookToken payload = some assetId.text := by
        rw [bookToken, hfield]
        rfl
      rw [applyBook, requiredField_asset, hfield] at h ⊢
      rw [htoken]
      dsimp only at h ⊢
      cases hbids : levelsToDict ((payload.get? "bids").getD (.arr [])) with
      | error e => exact keepsOthers_setBook hs (.refl s) ⟨rfl, rfl, rfl⟩
      | ok bids =>
          rw [hbids] at h
          dsimp only at h ⊢
          cases hasks : levelsToDict ((payload.get? "asks").getD (.arr [])) with
          | error e => exact keepsOthers_setBook hs (.refl s) ⟨rfl, rfl, rfl⟩
          | ok asks =>
              rw [hasks] at h
              cases h

/-- A row of a price change that raises. -/
theorem applyPriceChange_fails (hs : EachBook StoredUnder s) {row parent : Json}
    {t : MessageTimes} {e : MessageError} (h : (s.applyPriceChange row parent t).2 = .error e) :
    KeepsOthers (some (priceChangeToken row parent)) s (s.applyPriceChange row parent t).1 := by
  have hside : upper ((row.get? "side").getD (.str "")).text = priceChangeSide row := rfl
  have htoken : ((row.get "asset_id").orElse (parent.get "asset_id")).text =
    priceChangeToken row parent := rfl
  rw [applyPriceChange] at h ⊢
  dsimp only at h ⊢
  rw [hside, htoken] at h ⊢
  cases hlevel : changedLevel row with
  | error e => exact keepsOthers_setBook hs (.refl s) ⟨rfl, rfl, rfl⟩
  | ok level =>
      rw [hlevel] at h
      dsimp only at h ⊢
      have hchanged := keepsCounts_changeBook (s := s)
        (s.bookFor (priceChangeToken row parent) parent) (priceChangeSide row) level.1 level.2
      generalize s.changeBook (s.bookFor (priceChangeToken row parent) parent)
        (priceChangeSide row) level.1 level.2 = changed at *
      cases hbests : reportedBests row with
      | error e => exact keepsOthers_setBook hs (.refl s) hchanged
      | ok bests =>
          rw [hbests] at h
          dsimp only at h ⊢
          have hspec := applyReportedBest_spec s changed bests.1 bests.2 row t.receivedTs
            .priceChange
          have hvalidated := hchanged.trans (keepsCounts_applyReportedBest (s := s) changed
            bests.1 bests.2 row t.receivedTs .priceChange)
          generalize s.applyReportedBest changed bests.1 bests.2 row t.receivedTs .priceChange =
            validated at *
          cases hsampled : validated.2.2 with
          | error e => exact keepsOthers_setBook hs hspec.1 hvalidated
          | ok done =>
              rw [hsampled] at h
              cases h

/-- A report of the best prices that raises. -/
theorem applyBestBidAsk_fails (hs : EachBook StoredUnder s) {payload : Json} {t : MessageTimes}
    {e : MessageError} (h : (s.applyBestBidAsk payload t).2 = .error e) :
    KeepsOthers (some (bestBidAskToken payload)) s (s.applyBestBidAsk payload t).1 := by
  rw [applyBestBidAsk] at h ⊢
  dsimp only at h ⊢
  cases hbests : reportedBests payload with
  | error e => exact keepsOthers_setBook hs (.refl s) ⟨rfl, rfl, rfl⟩
  | ok bests =>
      rw [hbests] at h
      dsimp only at h ⊢
      have hspec := applyReportedBest_spec s
        (clearFlags (s.bookFor (bestBidAskToken payload) payload)) bests.1 bests.2 payload
        t.receivedTs .bestBidAsk
      have hcleared : KeepsCounts (s.bookFor (bestBidAskToken payload) payload)
          (clearFlags (s.bookFor (bestBidAskToken payload) payload)) := ⟨rfl, rfl, rfl⟩
      have hvalidated := hcleared.trans (keepsCounts_applyReportedBest (s := s)
        (clearFlags (s.bookFor (bestBidAskToken payload) payload)) bests.1 bests.2 payload
        t.receivedTs .bestBidAsk)
      generalize s.applyReportedBest (clearFlags (s.bookFor (bestBidAskToken payload) payload))
        bests.1 bests.2 payload t.receivedTs .bestBidAsk = validated at *
      cases hsampled : validated.2.2 with
      | error e => exact keepsOthers_setBook hs hspec.1 hvalidated
      | ok done =>
          rw [hsampled] at h
          cases h

/-- A message has at most one row. -/
def SingleMessage (payload : Json) : Prop :=
  payloadKind payload = .priceChange → (priceChangeRows payload).length ≤ 1

theorem singleMessage_of_mem {payload m : Json} (hpayload : payload.isObject = true)
    (h : m ∈ ownMessages payload) : SingleMessage m ∧ m.isObject = true := by
  rw [ownMessages] at h
  split at h
  · rename_i changes hkind hchanges
    have hrows : priceChangeRows payload = changes.filter Json.isObject := by
      rw [priceChangeRows, hchanges]
    have hobjects : ∀ row ∈ changes.filter Json.isObject, row.isObject = true :=
      fun row hrow => (List.mem_filter.mp hrow).2
    generalize changes.filter Json.isObject = rows at *
    cases rows with
    | nil =>
        obtain rfl := List.mem_singleton.mp h
        exact ⟨fun _ => by simp [hrows], hpayload⟩
    | cons row rows =>
        obtain ⟨row', hrow, rfl⟩ := List.mem_map.mp h
        exact ⟨fun _ => by rw [priceChangeRows_rowMessage row' hpayload (hobjects row' hrow)]; rfl,
          isObject_rowMessage row' hpayload⟩
  · rename_i hother
    obtain rfl := List.mem_singleton.mp h
    refine ⟨fun hkind => ?_, hpayload⟩
    rw [priceChangeRows]
    split
    · rename_i changes hchanges
      exact absurd hchanges (hother changes hkind)
    · rfl

/-- **What a message of one part leaves when it raises.** -/
theorem applyPayload_fails (hs : EachBook StoredUnder s) {r : MessageReadings} {payload : Json}
    (hsingle : SingleMessage payload) {e : ClientError}
    (h : (s.applyPayload r payload).2 = .error e) :
    KeepsOthers (messageToken payload) s (s.applyPayload r payload).1 := by
  have hraised {α : Type} {result : Except MessageError α} {f : α → List PolymarketStreamEvent}
      (h : (result.map f).mapError ClientError.message = .error e) : ∃ e, result = .error e := by
    cases result with
    | error e' => exact ⟨e', rfl⟩
    | ok a => cases h
  cases htimestamp : timestampToNs (payload.get "timestamp") with
  | error e =>
      rw [applyPayload, htimestamp]
      exact .refl _ s
  | ok eventTs =>
      rw [applyPayload, htimestamp] at h ⊢
      rw [messageToken]
      dsimp only at h ⊢
      cases hkind : payloadKind payload with
      | book =>
          rw [hkind] at h
          obtain ⟨e', herror⟩ := hraised h
          exact applyBook_fails hs herror
      | priceChange =>
          rw [hkind] at h
          have hlen := hsingle hkind
          obtain ⟨e', herror⟩ := hraised h
          dsimp only
          rw [quotesFromPriceChange] at herror ⊢
          match hrows : priceChangeRows payload, hlen with
          | [], _ =>
              rw [hrows] at herror
              cases herror
          | [row], _ =>
              rw [hrows, applyRows] at herror
              rw [applyRows]
              rcases hrow : s.applyPriceChange row payload (rowTimes payload row
                (r.times eventTs (payload.get "hash"))) with ⟨s', e | q⟩
              · have hfails := applyPriceChange_fails hs (congrArg Prod.snd hrow)
                rw [hrow] at hfails
                exact hfails
              · rw [hrow] at herror
                cases herror
      | bestBidAsk =>
          rw [hkind] at h
          obtain ⟨e', herror⟩ := hraised h
          exact applyBestBidAsk_fails hs herror
      | trade => exact .refl _ s
      | lifecycle lifecycleType =>
          rw [hkind] at h
          dsimp only at h ⊢
          cases hevent : lifecycleEvent payload lifecycleType
              (r.times eventTs (payload.get "hash")) with
          | error e' => exact .refl _ s
          | ok event =>
              rw [hevent] at h
              cases h
      | unsupported => exact .refl _ s

end

/-! ### Raw messages that raise -/

/-- A payload as a message of its own. -/
def ownMessage (r : MessageReadings) (s : PolymarketLocalOrderBook) (payload : Json) :
    PolymarketLocalOrderBook × Except ClientError (List PolymarketStreamEvent) :=
  s.normalizeMessage r (some payload)

theorem storedUnder_applyPayload {s : PolymarketLocalOrderBook} (hs : EachBook StoredUnder s)
    (r : MessageReadings) (payload : Json) :
    EachBook StoredUnder (s.applyPayload r payload).1 := by
  rw [applyPayload]
  split
  · exact hs
  · rename_i eventTs htimestamp
    dsimp only
    cases payloadKind payload with
    | book => exact storedUnder_next hs (.applyBook payload _)
    | priceChange =>
        obtain ⟨done, rest, -, hexec, -⟩ := quotesFromPriceChange_exec s payload
          (r.times eventTs (payload.get "hash"))
        dsimp only
        rw [hexec]
        exact polymarketMachine.exec_invariant (I := EachBook StoredUnder)
          (fun s call hs => storedUnder_next hs call) hs _
    | bestBidAsk => exact storedUnder_next hs (.applyBestBidAsk payload _)
    | trade => exact hs
    | lifecycle lifecycleType =>
        dsimp only
        split
        · exact hs
        · rename_i event hevent
          dsimp only
          rw [applyLifecycle]
          split
          · exact storedUnder_next hs (.updateTickSize event.marketId event.tokenId _)
          · exact hs
          · exact hs
          · exact storedUnder_next hs (.markMarketInvalid event.marketId)
          · exact storedUnder_next hs (.markMarketInvalid event.marketId)
          · exact storedUnder_next hs (.markMarketInvalid event.marketId)
    | unsupported => exact hs

theorem isObject_of_decodePayloads {decoded : Option Json} {payloads : List Json}
    (h : decodePayloads decoded = .ok payloads) : ∀ payload ∈ payloads, payload.isObject = true := by
  intro payload hpayload
  match decoded, h with
  | some (.arr items), h =>
      obtain rfl := Except.ok.inj h
      exact (List.mem_filter.mp hpayload).2
  | some (.obj fields), h =>
      obtain rfl := Except.ok.inj h
      obtain rfl := List.mem_singleton.mp hpayload
      rfl

/-- **What a raw message that raises has done.** It cannot be decoded, and nothing happened;
or its parts before one of them are applied as messages of their own, that one raises, and
leaves the other tokens alone, and of its own the snapshot flag and the number of updates. -/
theorem normalizeMessage_stops (c : PolymarketSettings) (calls : List PolymarketCall)
    (r : MessageReadings) (decoded : Option Json) (e : ClientError) :
    let s := polymarketMachine.exec (.init c) calls
    (s.normalizeMessage r decoded).2 = .error e →
      decodePayloads decoded = .error e ∧ (s.normalizeMessage r decoded).1 = s ∨
      ∃ payloads done m rest before events, decodePayloads decoded = .ok payloads ∧
        payloads.flatMap ownMessages = done ++ m :: rest ∧
        Batch.run (ownMessage r) s done = (before, .ok events) ∧
        ownMessage r before m = ((s.normalizeMessage r decoded).1, .error e) ∧
        KeepsOthers (messageToken m) before (s.normalizeMessage r decoded).1 := by
  intro s h
  have hs : EachBook StoredUnder s := storedUnder_exec c calls
  rw [normalizeMessage] at h ⊢
  cases hpayloads : decodePayloads decoded with
  | error e' =>
      rw [hpayloads] at h
      obtain rfl := Except.error.inj h
      exact Or.inl ⟨rfl, rfl⟩
  | ok payloads =>
      rw [hpayloads] at h
      have hobjects := isObject_of_decodePayloads hpayloads
      have hparts : Batch.run (applyPayload r) s payloads =
          Batch.run (applyPayload r) s (payloads.flatMap ownMessages) :=
        Batch.run_flatMap (fun payload hpayload s =>
          applyPayload_ownMessages r (hobjects payload hpayload) s) s
      have hsingles : ∀ m ∈ payloads.flatMap ownMessages,
          SingleMessage m ∧ m.isObject = true := by
        intro m hm
        obtain ⟨payload, hpayload, hown⟩ := List.mem_flatMap.mp hm
        exact singleMessage_of_mem (hobjects payload hpayload) hown
      dsimp only at h ⊢
      rw [hparts] at h ⊢
      obtain ⟨done, m, rest, before, events, hsplit, hdone, hstop⟩ := Batch.run_stops h
      rw [hsplit] at hsingles
      have hbefore : EachBook StoredUnder before := by
        have hinvariant : EachBook StoredUnder (Batch.run (applyPayload r) s done).1 :=
          Batch.run_invariant (I := EachBook StoredUnder)
            (fun s payload hs => storedUnder_applyPayload hs r payload) hs done
        rwa [hdone] at hinvariant
      obtain ⟨hsingle, hobject⟩ := hsingles m (by simp)
      refine Or.inr ⟨payloads, done, m, rest, before, events, rfl, hsplit, ?_, ?_, ?_⟩
      · rw [← hdone]
        refine Batch.run_congr (fun m' hm' s => ?_) s
        exact normalizeMessage_payload r s (hsingles m' (by simp [hm'])).2
      · exact (normalizeMessage_payload r before hobject).trans hstop
      · have hfails := applyPayload_fails hbefore hsingle (congrArg Prod.snd hstop)
        rw [hstop] at hfails
        exact hfails

/-! ### A raw message of two payloads -/

/-- Readings of a message, all at `ts`. -/
def readingsAt (ts : ℤ) : MessageReadings where
  receivedTs := some ts
  recvMonotonicNs := some ts
  utcNow := ts
  monotonicNow := ts
  parseDoneTs := ts
  parseDoneMonotonicNs := ts
  tsNs := ts

/-- A book, followed by a payload of a type that is not supported. -/
def bookThenUnsupported : Option Json :=
  some (.arr [(bookMessage (45 / 100) (55 / 100)).setField "event_type" (.str "book"),
    .obj [("event_type", .str "nonsense")]])

theorem bookThenUnsupported_raises :
    ((PolymarketLocalOrderBook.init defaultSettings).normalizeMessage (readingsAt 1)
      bookThenUnsupported).2.toOption.isNone = true ∧
    (((PolymarketLocalOrderBook.init defaultSettings).normalizeMessage (readingsAt 1)
      bookThenUnsupported).1.tokenState "up").hasSnapshot = true := by
  decide +kernel

theorem exists_error {ε α : Type*} {result : Except ε α} (h : result.toOption.isNone = true) :
    ∃ e, result = .error e := by
  cases result with
  | error e => exact ⟨e, rfl⟩
  | ok a => cases h

theorem normalizeMessage_stops_bookThenUnsupported :
    let s := PolymarketLocalOrderBook.init defaultSettings
    let after := s.normalizeMessage (readingsAt 1) bookThenUnsupported
    ∃ e, decodePayloads bookThenUnsupported = .error e ∧ after.1 = s ∨
      ∃ payloads done m rest before events, decodePayloads bookThenUnsupported = .ok payloads ∧
        payloads.flatMap ownMessages = done ++ m :: rest ∧
        Batch.run (ownMessage (readingsAt 1)) s done = (before, .ok events) ∧
        ownMessage (readingsAt 1) before m = (after.1, .error e) ∧
        KeepsOthers (messageToken m) before after.1 := by
  obtain ⟨e, h⟩ := exists_error bookThenUnsupported_raises.1
  exact ⟨e, normalizeMessage_stops defaultSettings [] (readingsAt 1) bookThenUnsupported e h⟩

/-- **A raw message that raises and changes a book**: the book before the unsupported payload
stays applied. -/
theorem normalizeMessage_not_atomic :
    ¬ ∀ (c : PolymarketSettings) (calls : List PolymarketCall) (r : MessageReadings)
      (decoded : Option Json) (e : ClientError),
      let s := polymarketMachine.exec (.init c) calls
      (s.normalizeMessage r decoded).2 = .error e →
        ∀ token, (s.normalizeMessage r decoded).1.tokenState token = s.tokenState token := by
  intro h
  obtain ⟨hraises, hsnapshot⟩ := bookThenUnsupported_raises
  obtain ⟨e, he⟩ := exists_error hraises
  have hkept := h defaultSettings [] (readingsAt 1) bookThenUnsupported e he "up"
  rw [show (polymarketMachine.exec (PolymarketLocalOrderBook.init defaultSettings) []) =
    PolymarketLocalOrderBook.init defaultSettings from rfl] at hkept
  rw [hkept] at hsnapshot
  cases hsnapshot

end SomethingTrade
