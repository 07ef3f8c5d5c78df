import SomethingTrade.PolymarketReconnect

/-!
# Readiness Statistics

The order book counts, for each token, its complete and its incomplete quotes and the
validation errors by their reason, and attaches rates of these counts to every quote. Only
the end of a message counts, and it counts one quote: once as complete or incomplete, and at
most once under a reason `reported_best_*`, though it may count other reasons too. The
rates of a market are taken over the statistics of all its tokens.

## Main results

* `TokenBookReadiness.Accounts.recordQuote`: what counting one quote preserves.
* `statsStep_next`: what a call does to the statistics.
* `PolymarketLocalOrderBook.readiness_accounts`: the statistics account for the quotes of
  every run, and the rates of its quotes are between zero and one.
-/

namespace SomethingTrade

open PolymarketLocalOrderBook

/-- The quotes a run produced for a token. -/
def quotesFor (token : String) (events : List (PolymarketCall × PolymarketReply)) :
    List PolymarketQuote :=
  (events.filterMap fun e => e.2.quote?).filter fun q => q.tokenId = token

/-- The time of the first quote of a kind. -/
def firstTime (p : PolymarketQuote → Bool) (quotes : List PolymarketQuote) : Option ℤ :=
  quotes.findSome? fun q => if p q then q.receivedTs else none

/-- The statistics of a token account for its quotes. -/
structure TokenBookReadiness.Accounts (r : TokenBookReadiness)
    (quotes : List PolymarketQuote) : Prop where
  quoted : r.bookCompleteTrueCount + r.bookCompleteFalseCount = quotes.length
  mismatches : r.mismatchCount ≤ quotes.length
  firstSnapshot : r.firstBookSnapshotTsNs =
    firstTime (fun q => q.bookUpdateType = some .book) quotes
  firstComplete : r.firstCompleteQuoteTsNs = firstTime PolymarketQuote.bookComplete quotes
  snapshotFirst : r.firstCompleteQuoteTsNs.isSome → r.firstBookSnapshotTsNs.isSome
  /-- Under a clock that does not go back, the first times are in order too. -/
  ordered : (quotes.filterMap PolymarketQuote.receivedTs).Pairwise (· ≤ ·) →
    ∀ a ∈ r.firstBookSnapshotTsNs, ∀ b ∈ r.firstCompleteQuoteTsNs, a ≤ b

/-- A rate that may be missing is between zero and one. -/
def IsRate (rate : Option ℚ) : Prop := ∀ x ∈ rate, 0 ≤ x ∧ x ≤ 1

/-- The rates attached to a quote. -/
structure QuoteRates (q : PolymarketQuote) : Prop where
  marketMismatch : IsRate q.marketMismatchRate
  tokenMismatch : IsRate q.tokenMismatchRate
  marketComplete : IsRate q.marketQuoteCompleteRate
  tokenComplete : IsRate q.tokenQuoteCompleteRate

/-! ### Rates -/

theorem isRate_div {a b : ℕ} (h : a ≤ b) : IsRate (some ((a : ℚ) / b)) := by
  intro x hx
  cases hx
  have hab : (a : ℚ) ≤ b := by exact_mod_cast h
  exact ⟨by positivity, div_le_one_of_le₀ hab (by positivity)⟩

/-- **Rates of statistics with at most one disagreement a quote.** -/
theorem isRate_qualityRates (stats : List TokenBookReadiness)
    (h : ∀ r ∈ stats,
      r.mismatchCount ≤ r.bookCompleteTrueCount + r.bookCompleteFalseCount) :
    IsRate (qualityRates stats).1 ∧ IsRate (qualityRates stats).2 := by
  have hsum : (stats.map TokenBookReadiness.mismatchCount).sum ≤
      (stats.map TokenBookReadiness.bookCompleteTrueCount).sum +
        (stats.map TokenBookReadiness.bookCompleteFalseCount).sum := by
    induction stats with
    | nil => exact le_rfl
    | cons r stats ih =>
        have hr := h r List.mem_cons_self
        have hrest := ih fun r' hr' => h r' (List.mem_cons_of_mem r hr')
        simp only [List.map_cons, List.sum_cons]
        omega
  simp only [qualityRates]
  split
  · exact ⟨(fun _ hx => by cases hx), (fun _ hx => by cases hx)⟩
  · exact ⟨isRate_div hsum, isRate_div (Nat.le_add_right _ _)⟩

/-! ### Counting one quote -/

/-- Two statistics agree on what the rates and the first times are about. -/
structure SameTally (r r' : TokenBookReadiness) : Prop where
  complete : r'.bookCompleteTrueCount = r.bookCompleteTrueCount
  incomplete : r'.bookCompleteFalseCount = r.bookCompleteFalseCount
  mismatches : r'.mismatchCount = r.mismatchCount
  firstSnapshot : r'.firstBookSnapshotTsNs = r.firstBookSnapshotTsNs
  firstComplete : r'.firstCompleteQuoteTsNs = r.firstCompleteQuoteTsNs

theorem SameTally.refl (r : TokenBookReadiness) : SameTally r r := ⟨rfl, rfl, rfl, rfl, rfl⟩

theorem SameTally.trans {r r' r'' : TokenBookReadiness} (h : SameTally r r')
    (h' : SameTally r' r'') : SameTally r r'' :=
  ⟨h'.complete.trans h.complete, h'.incomplete.trans h.incomplete,
    h'.mismatches.trans h.mismatches, h'.firstSnapshot.trans h.firstSnapshot,
    h'.firstComplete.trans h.firstComplete⟩

theorem mismatchCount_incrementError (r : TokenBookReadiness) (reason : String)
    (updateType : UpdateType) :
    (r.incrementError reason updateType).mismatchCount =
      r.mismatchCount + if startsWith reason "reported_best_" then 1 else 0 :=
  Dict.sum_filter_increment (fun reason => startsWith reason "reported_best_")
    r.validationErrorCountByReason reason

/-- An error under another reason is counted elsewhere. -/
theorem sameTally_incrementError {r r' : TokenBookReadiness} (h : SameTally r r')
    (reason : String) (hreason : startsWith reason "reported_best_" = false)
    (updateType : UpdateType) : SameTally r (r'.incrementError reason updateType) :=
  h.trans
    { complete := rfl
      incomplete := rfl
      mismatches := by
        rw [mismatchCount_incrementError, hreason]
        rfl
      firstSnapshot := rfl
      firstComplete := rfl }

/-- What counting a quote does. -/
structure Recorded (r r' : TokenBookReadiness) (q : PolymarketQuote) (receivedTs : ℤ)
    (updateType : UpdateType) : Prop where
  complete : r'.bookCompleteTrueCount =
    r.bookCompleteTrueCount + if q.bookComplete then 1 else 0
  incomplete : r'.bookCompleteFalseCount =
    r.bookCompleteFalseCount + if q.bookComplete then 0 else 1
  mismatches : r'.mismatchCount =
    r.mismatchCount +
      if q.validationError.any fun error => startsWith error "reported_best_" then 1 else 0
  firstSnapshot : r'.firstBookSnapshotTsNs =
    if updateType = .book then some (r.firstBookSnapshotTsNs.getD receivedTs)
    else r.firstBookSnapshotTsNs
  firstComplete : r'.firstCompleteQuoteTsNs =
    if q.bookComplete then some (r.firstCompleteQuoteTsNs.getD receivedTs)
    else r.firstCompleteQuoteTsNs

theorem recordQuote_spec (r : TokenBookReadiness) (q : PolymarketQuote) (receivedTs : ℤ)
    (updateType : UpdateType) (before : Bool) :
    Recorded r (r.recordQuote q receivedTs updateType before) q receivedTs updateType := by
  rw [TokenBookReadiness.recordQuote.eq_def]
  extract_lets seen delta kind counted stale bidSized askSized
  have hkind : SameTally
      { r with
        firstBookSnapshotTsNs :=
          if updateType = .book then some (r.firstBookSnapshotTsNs.getD receivedTs)
          else r.firstBookSnapshotTsNs } kind := by
    cases updateType with
    | book => exact ⟨rfl, rfl, rfl, rfl, rfl⟩
    | priceChange =>
        simp only [kind, reduceCtorEq, if_false]
        split
        · refine sameTally_incrementError ?_ _ (by decide) _
          exact ⟨rfl, rfl, rfl, rfl, rfl⟩
        · exact ⟨rfl, rfl, rfl, rfl, rfl⟩
    | bestBidAsk =>
        simp only [kind, reduceCtorEq, if_false]
        split
        · refine sameTally_incrementError ?_ _ (by decide) _
          exact ⟨rfl, rfl, rfl, rfl, rfl⟩
        · exact ⟨rfl, rfl, rfl, rfl, rfl⟩
  have hcounted : SameTally
      { kind with
        bookCompleteTrueCount := kind.bookCompleteTrueCount + if q.bookComplete then 1 else 0
        bookCompleteFalseCount := kind.bookCompleteFalseCount + if q.bookComplete then 0 else 1
        firstCompleteQuoteTsNs :=
          if q.bookComplete then some (kind.firstCompleteQuoteTsNs.getD receivedTs)
          else kind.firstCompleteQuoteTsNs } counted := by
    simp only [counted]
    cases q.bookComplete <;> exact ⟨rfl, rfl, rfl, rfl, rfl⟩
  -- the other counts of a quote are under other reasons
  have hothers : SameTally counted askSized := by
    have hstale : SameTally counted stale := by
      simp only [stale]
      split <;> exact ⟨rfl, rfl, rfl, rfl, rfl⟩
    have hbid : SameTally counted bidSized := by
      simp only [bidSized]
      split
      · exact sameTally_incrementError hstale _ (by decide) _
      · exact hstale
    simp only [askSized]
    split
    · exact sameTally_incrementError hbid _ (by decide) _
    · exact hbid
  have herror : askSized.mismatchCount = r.mismatchCount :=
    hothers.mismatches.trans (hcounted.mismatches.trans hkind.mismatches)
  have hfields : ∀ r', r'.bookCompleteTrueCount = askSized.bookCompleteTrueCount →
      r'.bookCompleteFalseCount = askSized.bookCompleteFalseCount →
      r'.firstBookSnapshotTsNs = askSized.firstBookSnapshotTsNs →
      r'.firstCompleteQuoteTsNs = askSized.firstCompleteQuoteTsNs →
      r'.mismatchCount = askSized.mismatchCount +
        (if q.validationError.any fun error => startsWith error "reported_best_" then 1 else 0) →
      Recorded r r' q receivedTs updateType := by
    intro r' htrue hfalse hsnapshot hfirst hmismatches
    refine ⟨?_, ?_, hmismatches.trans (by rw [herror]), ?_, ?_⟩
    · rw [htrue, hothers.complete, hcounted.complete, hkind.complete]
    · rw [hfalse, hothers.incomplete, hcounted.incomplete, hkind.incomplete]
    · rw [hsnapshot, hothers.firstSnapshot, hcounted.firstSnapshot, hkind.firstSnapshot]
    · rw [hfirst, hothers.firstComplete, hcounted.firstComplete, hkind.firstComplete]
  cases hvalidation : q.validationError with
  | none =>
      refine hfields askSized rfl rfl rfl rfl ?_
      rw [hvalidation]
      rfl
  | some error =>
      refine hfields _ rfl rfl rfl rfl ?_
      rw [mismatchCount_incrementError, hvalidation]
      rfl

/-! ### Statistics and quotes -/

theorem firstTime_concat (p : PolymarketQuote → Bool) (quotes : List PolymarketQuote)
    {q : PolymarketQuote} {receivedTs : ℤ} (h : q.receivedTs = some receivedTs) :
    firstTime p (quotes ++ [q]) =
      if p q then some ((firstTime p quotes).getD receivedTs) else firstTime p quotes := by
  rw [firstTime, List.findSome?_append, ← firstTime]
  cases hp : p q with
  | true => cases firstTime p quotes <;> simp [hp, h]
  | false => cases firstTime p quotes <;> simp [hp]

theorem mem_of_firstTime {p : PolymarketQuote → Bool} {quotes : List PolymarketQuote} {t : ℤ}
    (h : t ∈ firstTime p quotes) : t ∈ quotes.filterMap PolymarketQuote.receivedTs := by
  obtain ⟨q, hq, ht⟩ := List.exists_of_findSome?_eq_some h
  refine List.mem_filterMap.mpr ⟨q, hq, ?_⟩
  split at ht
  · exact ht
  · cases ht

theorem accounts_init (tokenId marketId : String) :
    (TokenBookReadiness.init tokenId marketId).Accounts [] where
  quoted := rfl
  mismatches := le_rfl
  firstSnapshot := rfl
  firstComplete := rfl
  snapshotFirst h := by cases h
  ordered _ a ha := by cases ha

theorem SameTally.accounts {r r' : TokenBookReadiness} (h : SameTally r r')
    {quotes : List PolymarketQuote} (hr : r.Accounts quotes) : r'.Accounts quotes where
  quoted := by rw [h.complete, h.incomplete, hr.quoted]
  mismatches := h.mismatches ▸ hr.mismatches
  firstSnapshot := h.firstSnapshot.trans hr.firstSnapshot
  firstComplete := h.firstComplete.trans hr.firstComplete
  snapshotFirst := by
    rw [h.firstComplete, h.firstSnapshot]
    exact hr.snapshotFirst
  ordered := by
    rw [h.firstComplete, h.firstSnapshot]
    exact hr.ordered

/-- **Counting a quote** keeps the statistics of its token in account, when a complete quote
is that of a book message or comes after one. -/
theorem TokenBookReadiness.Accounts.recordQuote {r r' : TokenBookReadiness}
    {quotes : List PolymarketQuote} (h : r.Accounts quotes) {q : PolymarketQuote}
    {receivedTs : ℤ} {updateType : UpdateType} (hr : Recorded r r' q receivedTs updateType)
    (htime : q.receivedTs = some receivedTs) (hkind : q.bookUpdateType = some updateType)
    (hknown : q.bookComplete = true → updateType = .book ∨ r.firstBookSnapshotTsNs.isSome) :
    r'.Accounts (quotes ++ [q]) where
  quoted := by
    have := h.quoted
    rw [hr.complete, hr.incomplete, List.length_append, List.length_singleton]
    cases q.bookComplete
    · simp only [Bool.false_eq_true, if_false]
      omega
    · simp only [if_true]
      omega
  mismatches := by
    have := h.mismatches
    rw [hr.mismatches, List.length_append, List.length_singleton]
    split <;> omega
  firstSnapshot := by
    rw [hr.firstSnapshot, firstTime_concat _ _ htime, ← h.firstSnapshot, hkind]
    cases updateType <;> rfl
  firstComplete := by
    rw [hr.firstComplete, firstTime_concat _ _ htime, ← h.firstComplete]
  snapshotFirst hcomplete := by
    rw [hr.firstComplete] at hcomplete
    rw [hr.firstSnapshot]
    split
    · rfl
    · rename_i hupdate
      split at hcomplete
      · rename_i hq
        exact (hknown hq).resolve_left hupdate
      · exact h.snapshotFirst hcomplete
  ordered hclock a ha b hb := by
    rw [List.filterMap_append, List.pairwise_append] at hclock
    obtain ⟨hbefore, -, hacross⟩ := hclock
    have hlast : receivedTs ∈ [q].filterMap PolymarketQuote.receivedTs := by simp [htime]
    have hearlier : ∀ t ∈ r.firstBookSnapshotTsNs, t ≤ receivedTs := fun t ht =>
      hacross t (mem_of_firstTime (h.firstSnapshot ▸ ht)) receivedTs hlast
    rw [hr.firstSnapshot] at ha
    rw [hr.firstComplete] at hb
    cases hfirst : r.firstCompleteQuoteTsNs with
    | some t =>
        obtain ⟨t', ht'⟩ := Option.isSome_iff_exists.mp
          (h.snapshotFirst (Option.isSome_iff_exists.mpr ⟨t, hfirst⟩))
        have hb' : b = t := by
          rw [hfirst] at hb
          split at hb <;> exact (Option.some.inj hb).symm
        have ha' : a = t' := by
          rw [ht'] at ha
          split at ha <;> exact (Option.some.inj ha).symm
        rw [ha', hb']
        exact h.ordered hbefore t' ht' t hfirst
    | none =>
        have hb' : b = receivedTs := by
          rw [hfirst] at hb
          split at hb
          · exact (Option.some.inj hb).symm
          · cases hb
        rw [hb']
        split at ha
        · cases hsnapshot : r.firstBookSnapshotTsNs with
          | some t =>
              rw [hsnapshot] at ha
              obtain rfl := Option.some.inj ha
              exact hearlier _ hsnapshot
          | none =>
              rw [hsnapshot] at ha
              exact (Option.some.inj ha).symm.le
        · exact hearlier a ha

/-! ### What a call does to the statistics -/

/-- The statistics of a token, fresh ones when there are none. -/
def tallyOf (readiness : Dict String TokenBookReadiness) (token : String) :
    TokenBookReadiness := (readiness.get? token).getD (.init token "")

/-- Statistics that agree on every token; fresh ones may be added. -/
def StatsKept (readiness readiness' : Dict String TokenBookReadiness) : Prop :=
  ∀ token, SameTally (tallyOf readiness token) (tallyOf readiness' token)

/-- A quote is counted in the statistics of its token, and has the rates of the statistics
before it. -/
structure QuoteCounted (s s' : PolymarketLocalOrderBook) (q : PolymarketQuote)
    (receivedTs : ℤ) (updateType : UpdateType) (before : Bool) : Prop where
  time : q.receivedTs = some receivedTs
  kind : q.bookUpdateType = some updateType
  tokenRates : (q.tokenMismatchRate, q.tokenQuoteCompleteRate) =
    qualityRates (s.readiness.get? q.tokenId).toList
  marketRates : (q.marketMismatchRate, q.marketQuoteCompleteRate) =
    qualityRates (s.readiness.values.filter fun r => r.marketId = q.marketId)
  stored : s'.readiness = s.readiness.set q.tokenId
    (((s.readiness.get? q.tokenId).getD (.init q.tokenId q.marketId)).recordQuote q receivedTs
      updateType before)

/-- What a message does to the statistics. -/
inductive MessageStats (s : PolymarketLocalOrderBook) (updateType : UpdateType)
    (r : PolymarketLocalOrderBook × Except MessageError PolymarketQuote) : Prop
  | raised (e : MessageError) (reply : r.2 = .error e) (kept : r.1.readiness = s.readiness)
  | counted (q : PolymarketQuote) (receivedTs : ℤ) (before : Bool) (reply : r.2 = .ok q)
      (counted : QuoteCounted s r.1 q receivedTs updateType before)

theorem finishMessage_counted {s s' : PolymarketLocalOrderBook}
    (h : s'.readiness = s.readiness) (book : TokenBook) (t : MessageTimes)
    (updateType : UpdateType) (before : Bool) :
    MessageStats s updateType (s'.finishMessage book t updateType before) :=
  .counted _ t.receivedTs before rfl
    { time := rfl
      kind := rfl
      tokenRates := by
        rw [← h]
        rfl
      marketRates := by
        rw [← h]
        rfl
      stored := by
        rw [← h]
        rfl }

theorem setBook_readiness (s : PolymarketLocalOrderBook) (book : TokenBook) :
    (s.setBook book).readiness = s.readiness := rfl

theorem sampleValidationError_readiness (s : PolymarketLocalOrderBook) (book : TokenBook)
    (payload : Json) (receivedTs : ℤ) :
    (s.sampleValidationError book payload receivedTs).1.readiness = s.readiness := by
  simp only [sampleValidationError]
  split
  · rfl
  · split <;> rfl

theorem applyReportedSide_readiness (s : PolymarketLocalOrderBook) (book : TokenBook)
    (side : BookSide) (reported : Option ℚ) (updateType : UpdateType) :
    (s.applyReportedSide book side reported updateType).1.readiness = s.readiness := by
  cases reported with
  | none => rfl
  | some price =>
      rw [applyReportedSide, applyOneReportedBest]
      cases (book.localBest side).1 with
      | none => rfl
      | some localPrice =>
          dsimp only
          split
          · rfl
          · split
            · rfl
            · split <;> rfl

theorem applyReportedBest_readiness (s : PolymarketLocalOrderBook) (book : TokenBook)
    (bid ask : Option ℚ) (payload : Json) (receivedTs : ℤ) (updateType : UpdateType) :
    (s.applyReportedBest book bid ask payload receivedTs updateType).1.readiness =
      s.readiness := by
  simp only [applyReportedBest]
  split
  · exact sampleValidationError_readiness ..
  · split
    · rw [sampleValidationError_readiness, applyReportedSide_readiness,
        applyReportedSide_readiness]
    · rw [applyReportedSide_readiness, applyReportedSide_readiness]

theorem applyBook_stats (s : PolymarketLocalOrderBook) (payload : Json) (t : MessageTimes) :
    MessageStats s .book (s.applyBook payload t) := by
  rw [applyBook]
  cases requiredField payload "asset_id" with
  | error e => exact .raised e rfl rfl
  | ok assetId =>
      dsimp only
      cases levelsToDict ((payload.get? "bids").getD (.arr [])) with
      | error e => exact .raised e rfl rfl
      | ok bids =>
          cases levelsToDict ((payload.get? "asks").getD (.arr [])) with
          | error e => exact .raised e rfl rfl
          | ok asks => exact finishMessage_counted rfl ..

theorem applyPriceChange_stats (s : PolymarketLocalOrderBook) (row parent : Json)
    (t : MessageTimes) : MessageStats s .priceChange (s.applyPriceChange row parent t) := by
  rw [applyPriceChange]
  dsimp only
  cases changedLevel row with
  | error e => exact .raised e rfl rfl
  | ok level =>
      cases reportedBests row with
      | error e => exact .raised e rfl rfl
      | ok bests =>
          dsimp only
          split
          · rename_i e _
            exact .raised e rfl ((setBook_readiness ..).trans (applyReportedBest_readiness ..))
          · exact finishMessage_counted (applyReportedBest_readiness ..) ..

theorem applyBestBidAsk_stats (s : PolymarketLocalOrderBook) (payload : Json)
    (t : MessageTimes) : MessageStats s .bestBidAsk (s.applyBestBidAsk payload t) := by
  rw [applyBestBidAsk]
  dsimp only
  cases reportedBests payload with
  | error e => exact .raised e rfl rfl
  | ok bests =>
      dsimp only
      split
      · rename_i e _
        exact .raised e rfl ((setBook_readiness ..).trans (applyReportedBest_readiness ..))
      · exact finishMessage_counted (applyReportedBest_readiness ..) ..

section

variable {readiness readiness' : Dict String TokenBookReadiness}

theorem statsKept_setDefault (h : StatsKept readiness readiness') (tokenId marketId : String) :
    StatsKept readiness (readiness'.setDefault tokenId (.init tokenId marketId)) := by
  intro token
  refine (h token).trans ?_
  rw [tallyOf, tallyOf, Dict.get?_setDefault]
  split
  · rename_i htoken
    rw [← htoken]
    cases readiness'.get? tokenId <;> exact ⟨rfl, rfl, rfl, rfl, rfl⟩
  · exact .refl _

theorem statsKept_reconnect (readiness : Dict String TokenBookReadiness) :
    StatsKept readiness
      (readiness.mapValues fun r => { r with reconnectCount := r.reconnectCount + 1 }) := by
  intro token
  rw [tallyOf, tallyOf, Dict.get?_mapValues]
  cases readiness.get? token <;> exact ⟨rfl, rfl, rfl, rfl, rfl⟩

end

theorem setBookMetadata_readiness (s : PolymarketLocalOrderBook) (token : String)
    (m : TokenBookMetadata) : (s.setBookMetadata token m).readiness = s.readiness := by
  rw [PolymarketLocalOrderBook.setBookMetadata]
  split <;> rfl

theorem updateTokenTickSize_readiness (tickSize : ℚ) (s : PolymarketLocalOrderBook)
    (token : String) : (updateTokenTickSize tickSize s token).readiness = s.readiness := by
  rw [updateTokenTickSize]
  split
  · rfl
  · exact setBookMetadata_readiness ..

/-- What a call does to the statistics: it produces no quote and keeps them, or it counts its
quote. -/
inductive StatsStep (s s' : PolymarketLocalOrderBook) (reply : PolymarketReply) : Prop
  | quiet (noQuote : reply.quote? = none) (kept : StatsKept s.readiness s'.readiness)
  | counted (q : PolymarketQuote) (receivedTs : ℤ) (updateType : UpdateType) (before : Bool)
      (quote : reply = .quote q) (counted : QuoteCounted s s' q receivedTs updateType before)

theorem MessageStats.step {s : PolymarketLocalOrderBook} {updateType : UpdateType}
    {r : PolymarketLocalOrderBook × Except MessageError PolymarketQuote}
    (h : MessageStats s updateType r) :
    StatsStep s (r.map id PolymarketReply.ofExcept).1 (r.map id PolymarketReply.ofExcept).2 := by
  obtain ⟨s', result⟩ := r
  cases h with
  | raised e reply kept =>
      obtain rfl : result = .error e := reply
      refine .quiet rfl fun token => ?_
      have hkept : s'.readiness = s.readiness := kept
      rw [Prod.map_fst, id, hkept]
      exact .refl _
  | counted q receivedTs before reply counted =>
      obtain rfl : result = .ok q := reply
      exact .counted q receivedTs updateType before rfl counted

theorem statsStep_next (s : PolymarketLocalOrderBook) (call : PolymarketCall) :
    StatsStep s (polymarketMachine.next s call) (polymarketMachine.out s call) := by
  cases call with
  | applyBook payload t => exact (applyBook_stats s payload t).step
  | applyPriceChange row parent t => exact (applyPriceChange_stats s row parent t).step
  | applyBestBidAsk payload t => exact (applyBestBidAsk_stats s payload t).step
  | markMarketInvalid marketId => exact .quiet rfl fun _ => .refl _
  | updateTickSize marketId tokenId tickSize =>
      refine .quiet rfl ?_
      refine updateTickSize_rule (P := fun s' => StatsKept s.readiness s'.readiness)
        (fun _ => .refl _) marketId tokenId fun s' token hs' => ?_
      rwa [updateTokenTickSize_readiness]
  | updateTokenMetadata tokenMetadata active =>
      refine .quiet rfl ?_
      refine updateTokenMetadata_rule (P := fun s' => StatsKept s.readiness s'.readiness)
        (fun _ => .refl _) fun s' e hs' => ?_
      rw [adoptMetadata, setBookMetadata_readiness]
      exact statsKept_setDefault hs' e.1 e.2.marketId
  | recordReconnect => exact .quiet rfl (statsKept_reconnect s.readiness)
  | tokenReadinessSnapshot =>
      refine .quiet rfl ?_
      exact List.foldlRecOn (motive := StatsKept s.readiness) _ _ (fun _ => .refl _)
        fun readiness' hkept e _ => statsKept_setDefault hkept _ _

/-! ### Books with a snapshot -/

/-- A book is stored under its token, which is one of `T` when the book has a snapshot. -/
def SnapshotIn (T : String → Prop) (token : String) (book : TokenBook) : Prop :=
  book.tokenId = token ∧ (book.hasSnapshot = true → T token)

theorem snapshotIn_rule (T : String → Prop) : BookRule (SnapshotIn T) where
  init _ _ := ⟨rfl, fun h => by cases h⟩
  touch _ _ _ h := h
  metadata _ _ _ h := h
  marked _ _ h := h
  token _ _ h := h.1

theorem SnapshotIn.congr {T : String → Prop} {token : String} {book book' : TokenBook}
    (h : SnapshotIn T token book) (htoken : book'.tokenId = book.tokenId)
    (hsnapshot : book'.hasSnapshot = book.hasSnapshot) :
    SnapshotIn T book'.tokenId book' := by
  refine ⟨rfl, fun hbook' => ?_⟩
  rw [htoken, h.1]
  exact h.2 (hsnapshot ▸ hbook')

section

variable {T : String → Prop} {s : PolymarketLocalOrderBook} (hs : EachBook (SnapshotIn T) s)

include hs

theorem snapshotIn_bookFor (token : String) (payload : Json) :
    SnapshotIn T token (s.bookFor token payload) :=
  hs.bookFor (snapshotIn_rule T) token payload

theorem snapshotIn_changeBook (row parent : Json) (price size : ℚ) :
    SnapshotIn T (priceChangeToken row parent)
      (s.changeBook (s.bookFor (priceChangeToken row parent) parent) (priceChangeSide row) price
        size) := by
  obtain ⟨htoken, hsnapshot⟩ := snapshotIn_bookFor hs (priceChangeToken row parent) parent
  have hflags := changeLevel_sameFlags (s.bookFor (priceChangeToken row parent) parent)
    (priceChangeSide row) price size
  refine ⟨?_, fun h => hsnapshot ?_⟩
  · rw [tokenId_changeBook, hflags.tokenId, htoken]
  · rwa [hasSnapshot_changeBook, hflags.hasSnapshot] at h

theorem snapshotIn_priceChangeDone {row parent : Json} {book : TokenBook}
    (h : PriceChangeDone s row parent book) : SnapshotIn T book.tokenId book := by
  obtain ⟨price, size, bid, ask, -, -, hreported⟩ := h
  exact (snapshotIn_changeBook hs row parent price size).congr hreported.ladder.tokenId
    hreported.ladder.hasSnapshot

theorem snapshotIn_priceChangeLeft {row parent : Json} {book : TokenBook}
    (h : PriceChangeLeft s row parent book) : SnapshotIn T book.tokenId book := by
  rcases h with rfl | ⟨price, size, rfl⟩ | hdone
  · exact (snapshotIn_bookFor hs _ _).congr rfl rfl
  · exact (snapshotIn_changeBook hs row parent price size).congr rfl rfl
  · exact snapshotIn_priceChangeDone hs hdone

theorem snapshotIn_bestBidAskDone {payload : Json} {book : TokenBook}
    (h : BestBidAskDone s payload book) : SnapshotIn T book.tokenId book := by
  obtain ⟨bid, ask, validated, -, hreported, rfl⟩ := h
  exact (snapshotIn_bookFor hs _ _).congr hreported.ladder.tokenId hreported.ladder.hasSnapshot

theorem snapshotIn_bestBidAskLeft {payload : Json} {book : TokenBook}
    (h : BestBidAskLeft s payload book) : SnapshotIn T book.tokenId book := by
  rcases h with rfl | ⟨bid, ask, -, hreported⟩
  · exact (snapshotIn_bookFor hs _ _).congr rfl rfl
  · exact (snapshotIn_bookFor hs _ _).congr hreported.ladder.tokenId hreported.ladder.hasSnapshot

theorem snapshotIn_bookLeft {payload : Json} {book : TokenBook} (h : BookLeft s payload book) :
    SnapshotIn T book.tokenId book := by
  obtain ⟨token, rfl | ⟨bids, rfl⟩⟩ := h
  · exact (snapshotIn_bookFor hs _ _).congr rfl rfl
  · exact (snapshotIn_bookFor hs _ _).congr rfl rfl

/-- Only a book message gives a token its first snapshot. -/
theorem snapshotIn_next {call : PolymarketCall}
    (hT : ∀ q, polymarketMachine.out s call = .quote q → q.bookUpdateType = some .book →
      T q.tokenId) : EachBook (SnapshotIn T) (polymarketMachine.next s call) := by
  cases call with
  | applyBook payload t =>
      have hnext : polymarketMachine.next s (.applyBook payload t) =
          (s.applyBook payload t).1 := rfl
      have hout : polymarketMachine.out s (.applyBook payload t) =
          .ofExcept (s.applyBook payload t).2 := rfl
      rw [hout] at hT
      rw [hnext]
      cases applyBook_outcome s payload t with
      | unread e result => rwa [result]
      | raised s' book e same left result =>
          rw [result]
          exact (hs.congr same.books).setBook (snapshotIn_bookLeft hs left)
      | quoted s' book t' before same done result =>
          rw [result] at hT ⊢
          have hbook : SnapshotIn T (book.touch t').tokenId (book.touch t') :=
            ⟨rfl, fun _ => hT _ rfl rfl⟩
          exact ((hs.congr same.books).setBook hbook).congr rfl
  | applyPriceChange row parent t =>
      exact (applyPriceChange_outcome s row parent t).eachBook (snapshotIn_rule T) hs
        (fun _ h => snapshotIn_priceChangeLeft hs h) fun _ h => snapshotIn_priceChangeDone hs h
  | applyBestBidAsk payload t =>
      exact (applyBestBidAsk_outcome s payload t).eachBook (snapshotIn_rule T) hs
        (fun _ h => snapshotIn_bestBidAskLeft hs h) fun _ h => snapshotIn_bestBidAskDone hs h
  | _ => exact hs.quiet (snapshotIn_rule T) trivial

/-- A complete quote is that of a book message, or its token had a snapshot before. -/
theorem complete_quote_known {call : PolymarketCall} {q : PolymarketQuote}
    (hq : polymarketMachine.out s call = .quote q) (hcomplete : q.bookComplete = true) :
    q.bookUpdateType = some .book ∨ T q.tokenId := by
  rcases out_quote hq with ⟨payload, t, rfl, hout⟩ | ⟨row, parent, t, rfl, hout⟩ |
    ⟨payload, t, rfl, hout⟩
  · obtain ⟨s', book, t', -, -, rfl, -, -⟩ := (applyBook_outcome s payload t).quote hout
    exact Or.inl rfl
  · obtain ⟨s', book, t', -, hdone, rfl, -, -⟩ :=
      (applyPriceChange_outcome s row parent t).quote hout
    have hstructure := (bookComplete_iff.mp hcomplete).2
    exact Or.inr ((snapshotIn_priceChangeDone hs hdone).2 (structurallyComplete_iff.mp hstructure).1)
  · obtain ⟨s', book, t', -, hdone, rfl, -, -⟩ :=
      (applyBestBidAsk_outcome s payload t).quote hout
    have hstructure := (bookComplete_iff.mp hcomplete).2
    exact Or.inr ((snapshotIn_bestBidAskDone hs hdone).2 (structurallyComplete_iff.mp hstructure).1)

end

/-! ### Runs -/

/-- The statistics of a token have seen a snapshot. -/
def SnapshotSeen (s : PolymarketLocalOrderBook) (token : String) : Prop :=
  (tallyOf s.readiness token).firstBookSnapshotTsNs.isSome = true

/-- The invariant of runs. -/
structure ReadinessAccounted (events : List (PolymarketCall × PolymarketReply))
    (s : PolymarketLocalOrderBook) : Prop where
  accounts : ∀ token, (tallyOf s.readiness token).Accounts (quotesFor token events)
  books : EachBook (SnapshotIn (SnapshotSeen s)) s
  rates : ∀ e ∈ events, ∀ q, e.2 = .quote q → QuoteRates q

theorem quotesFor_quiet (token : String) (events : List (PolymarketCall × PolymarketReply))
    {call : PolymarketCall} {reply : PolymarketReply} (h : reply.quote? = none) :
    quotesFor token (events ++ [(call, reply)]) = quotesFor token events := by
  simp [quotesFor, h]

theorem quotesFor_quote (token : String) (events : List (PolymarketCall × PolymarketReply))
    (call : PolymarketCall) (q : PolymarketQuote) :
    quotesFor token (events ++ [(call, .quote q)]) =
      if q.tokenId = token then quotesFor token events ++ [q] else quotesFor token events := by
  by_cases h : q.tokenId = token <;> simp [quotesFor, PolymarketReply.quote?, h]

theorem EachBook.mono {P Q : String → TokenBook → Prop} {s : PolymarketLocalOrderBook}
    (h : EachBook P s) (hPQ : ∀ token book, P token book → Q token book) : EachBook Q s :=
  fun e he => hPQ _ _ (h e he)

/-- Fresh statistics are the same for every market. -/
theorem sameTally_fresh (readiness : Dict String TokenBookReadiness) (token marketId : String) :
    SameTally (tallyOf readiness token)
      ((readiness.get? token).getD (.init token marketId)) := by
  rw [tallyOf]
  cases readiness.get? token <;> exact ⟨rfl, rfl, rfl, rfl, rfl⟩

section

variable {events : List (PolymarketCall × PolymarketReply)} {s : PolymarketLocalOrderBook}
  (h : ReadinessAccounted events s)

include h

theorem accounts_of_get? {token : String} {r : TokenBookReadiness}
    (hr : s.readiness.get? token = some r) : r.Accounts (quotesFor token events) := by
  have htoken := h.accounts token
  rwa [tallyOf, hr] at htoken

theorem mismatchCount_le {r : TokenBookReadiness} (hr : r ∈ s.readiness.values) :
    r.mismatchCount ≤ r.bookCompleteTrueCount + r.bookCompleteFalseCount := by
  obtain ⟨⟨token, r⟩, he, rfl⟩ := List.mem_map.mp hr
  have haccounts := accounts_of_get? h (Dict.mem_entries_iff.mp he)
  calc r.mismatchCount ≤ (quotesFor token events).length := haccounts.mismatches
    _ = r.bookCompleteTrueCount + r.bookCompleteFalseCount := haccounts.quoted.symm

theorem quoteRates_of_counted {s' : PolymarketLocalOrderBook} {q : PolymarketQuote}
    {receivedTs : ℤ} {updateType : UpdateType} {before : Bool}
    (hq : QuoteCounted s s' q receivedTs updateType before) : QuoteRates q := by
  have htoken := isRate_qualityRates (s.readiness.get? q.tokenId).toList
    fun r hr => mismatchCount_le h (List.mem_map.mpr
      ⟨(q.tokenId, r), Dict.mem_entries_iff.mpr (Option.mem_toList.mp hr), rfl⟩)
  have hmarket := isRate_qualityRates
    (s.readiness.values.filter fun r => r.marketId = q.marketId)
    fun r hr => mismatchCount_le h (List.mem_filter.mp hr).1
  rw [← hq.tokenRates] at htoken
  rw [← hq.marketRates] at hmarket
  exact ⟨hmarket.1, htoken.1, hmarket.2, htoken.2⟩

/-- A call without a quote keeps the statistics in account. -/
theorem readinessAccounted_quiet {call : PolymarketCall}
    (hquote : (polymarketMachine.out s call).quote? = none)
    (hkept : StatsKept s.readiness (polymarketMachine.next s call).readiness) :
    ReadinessAccounted (events ++ [(call, polymarketMachine.out s call)])
      (polymarketMachine.next s call) where
  accounts token := by
    rw [quotesFor_quiet _ _ hquote]
    exact (hkept token).accounts (h.accounts token)
  books := by
    refine (snapshotIn_next h.books fun q hq => ?_).mono fun token book hbook =>
      ⟨hbook.1, fun hsnapshot => ?_⟩
    · rw [hq] at hquote
      cases hquote
    · rw [SnapshotSeen, (hkept token).firstSnapshot]
      exact hbook.2 hsnapshot
  rates e he q hq := by
    rcases List.mem_append.mp he with he | he
    · exact h.rates e he q hq
    · obtain rfl := List.mem_singleton.mp he
      have hreply : polymarketMachine.out s call = .quote q := hq
      rw [hreply] at hquote
      cases hquote

/-- A call that counts its quote keeps the statistics in account. -/
theorem readinessAccounted_counted {call : PolymarketCall} {q : PolymarketQuote}
    {receivedTs : ℤ} {updateType : UpdateType} {before : Bool}
    (hquote : polymarketMachine.out s call = .quote q)
    (hcounted : QuoteCounted s (polymarketMachine.next s call) q receivedTs updateType before) :
    ReadinessAccounted (events ++ [(call, polymarketMachine.out s call)])
      (polymarketMachine.next s call) := by
  have hfresh := sameTally_fresh s.readiness q.tokenId q.marketId
  have hrecorded := recordQuote_spec
    ((s.readiness.get? q.tokenId).getD (.init q.tokenId q.marketId)) q receivedTs updateType before
  have htally : ∀ token, tallyOf (polymarketMachine.next s call).readiness token =
      if q.tokenId = token then
        ((s.readiness.get? q.tokenId).getD (.init q.tokenId q.marketId)).recordQuote q receivedTs
          updateType before
      else tallyOf s.readiness token := by
    intro token
    rw [tallyOf, hcounted.stored, Dict.get?_set]
    split <;> rfl
  refine ⟨fun token => ?_, ?_, fun e he q' hq' => ?_⟩
  · rw [hquote, quotesFor_quote, htally]
    by_cases htoken : q.tokenId = token
    · subst htoken
      rw [if_pos rfl, if_pos rfl]
      refine (hfresh.accounts (h.accounts _)).recordQuote hrecorded hcounted.time hcounted.kind
        fun hcomplete => ?_
      rcases complete_quote_known h.books hquote hcomplete with hbook | hseen
      · exact Or.inl (Option.some.inj (hcounted.kind.symm.trans hbook))
      · rw [hfresh.firstSnapshot]
        exact Or.inr hseen
    · rw [if_neg htoken, if_neg htoken]
      exact h.accounts token
  · -- statistics that have seen a snapshot still have
    have hmono : ∀ token, SnapshotSeen s token →
        SnapshotSeen (polymarketMachine.next s call) token := by
      intro token hseen
      rw [SnapshotSeen, htally]
      split
      · rename_i htoken
        rw [hrecorded.firstSnapshot, hfresh.firstSnapshot, htoken]
        split
        · rfl
        · exact hseen
      · exact hseen
    refine snapshotIn_next (h.books.mono fun token book hbook =>
      ⟨hbook.1, fun hsnapshot => hmono token (hbook.2 hsnapshot)⟩) fun q' hq' hbook => ?_
    obtain rfl : q = q' := by
      rw [hquote] at hq'
      cases hq'
      rfl
    have hupdate : updateType = .book := Option.some.inj (hcounted.kind.symm.trans hbook)
    rw [SnapshotSeen, htally, if_pos rfl, hrecorded.firstSnapshot, if_pos hupdate]
    rfl
  · rcases List.mem_append.mp he with he | he
    · exact h.rates e he q' hq'
    · obtain rfl := List.mem_singleton.mp he
      rw [hquote] at hq'
      cases hq'
      exact quoteRates_of_counted h hcounted

end

theorem readinessAccounted_init (c : PolymarketSettings) :
    ReadinessAccounted [] (PolymarketLocalOrderBook.init c) := by
  have hfresh : ∀ e ∈ (PolymarketLocalOrderBook.init c).readiness.entries,
      ∃ marketId, e.2 = TokenBookReadiness.init e.1 marketId := by
    refine Dict.forall_entries_ofList
      (P := fun token r => ∃ marketId, r = TokenBookReadiness.init token marketId) ?_
    intro _ he
    obtain ⟨e, -, rfl⟩ := List.mem_map.mp he
    exact ⟨e.2.marketId, rfl⟩
  refine ⟨fun token => ?_, (fun _ he => by cases he), fun _ he => by cases he⟩
  rw [tallyOf]
  cases hr : (PolymarketLocalOrderBook.init c).readiness.get? token with
  | none => exact accounts_init token ""
  | some r =>
      obtain ⟨marketId, hinit⟩ := hfresh (token, r) (Dict.mem_entries_iff.mpr hr)
      obtain rfl : r = TokenBookReadiness.init token marketId := hinit
      exact accounts_init token marketId

theorem readinessAccounted_run (c : PolymarketSettings) (calls : List PolymarketCall) :
    ReadinessAccounted (polymarketMachine.trace (PolymarketLocalOrderBook.init c) calls)
      (polymarketMachine.exec (PolymarketLocalOrderBook.init c) calls) := by
  refine polymarketMachine.trace_invariant (I := ReadinessAccounted) (fun events s call h => ?_)
    (readinessAccounted_init c) calls
  cases statsStep_next s call with
  | quiet noQuote kept => exact readinessAccounted_quiet h noQuote kept
  | counted q receivedTs updateType before quote counted =>
      exact readinessAccounted_counted h quote counted

/-- **The statistics account for the quotes of every run**: the complete and the incomplete
ones of a token are the quotes produced for it, at most one reported best price a quote is
counted as a disagreement, no complete quote comes before the first snapshot, and all rates
attached to quotes are between zero and one. -/
theorem PolymarketLocalOrderBook.readiness_accounts (c : PolymarketSettings)
    (calls : List PolymarketCall) :
    let s := polymarketMachine.exec (PolymarketLocalOrderBook.init c) calls
    let events := polymarketMachine.trace (PolymarketLocalOrderBook.init c) calls
    (∀ token r, s.readiness.get? token = some r → r.Accounts (quotesFor token events)) ∧
      (∀ token, s.readiness.get? token = none → quotesFor token events = []) ∧
      ∀ e ∈ events, ∀ q, e.2 = .quote q → QuoteRates q := by
  intro s events
  have h : ReadinessAccounted events s := readinessAccounted_run c calls
  refine ⟨fun token r hr => accounts_of_get? h hr, fun token hnone => ?_, h.rates⟩
  have haccounts := (h.accounts token).quoted
  rw [tallyOf, hnone] at haccounts
  exact List.length_eq_zero_iff.mp haccounts.symm

end SomethingTrade
