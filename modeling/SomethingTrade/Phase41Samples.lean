import SomethingTrade.Phase41Accounting

/-!
# The Samples the Processor Emits

A sample is emitted when the copy of the book passes the validator and its row passes
the schema check. The copy is made right after an accepted delta, from a state with the
book invariant, and a copy that the validator passes then has everything the schema check
and the later input check ask for (`sampleReady_of_isValid`). So the schema check never
blocks a valid sample, and the emitted ones are valid input of the labeled dataset.

## Main results

* `processDepthUpdate_emitted`: the state and the copy an emitted sample comes from.
* `OrderbookPhase41Processor.emits_clean_samples`: every emitted sample is a clean view
  of a ready book, the two gates agree, and under a clock that never goes back the
  samples are valid input in the order of their times.
-/

namespace SomethingTrade

open OrderbookPhase41Processor

/-! ### Copies that pass the validator -/

/-- A book without errors has two sides and is not crossed. -/
theorem validate_eq_nil {s : OrderbookState} (h : s.validate = []) :
    s.bids.size ≠ 0 ∧ s.asks.size ≠ 0 ∧ ∀ b ∈ s.bestBid, ∀ a ∈ s.bestAsk, b < a := by
  simp only [OrderbookState.validate, BookError.sortedSet_eq_nil,
    List.append_eq_nil_iff] at h
  obtain ⟨⟨⟨⟨-, hside⟩, -⟩, -⟩, hcross⟩ := h
  have hsides : ¬ (s.bids.size = 0 ∨ s.asks.size = 0) := by
    intro hzero
    rw [if_pos hzero] at hside
    cases hside
  refine ⟨fun h => hsides (Or.inl h), fun h => hsides (Or.inr h), fun b hb a ha => ?_⟩
  rw [Option.mem_def] at hb ha
  rw [hb, ha] at hcross
  by_contra hle
  simp only [ge_iff_le, if_pos (not_lt.mp hle), reduceCtorEq] at hcross

/-- A default that is not empty makes the text not empty. -/
theorem orText_isEmpty {x : Option String} {default : String}
    (h : default.isEmpty = false) : (orText x default).isEmpty = false := by
  cases x with
  | none => exact h
  | some s =>
      rw [orText]
      cases hs : s.isEmpty with
      | true => exact h
      | false => exact hs

/-- The top of a side: at least one level, all stored, in the order of the side. -/
theorem orderedLevels_take {r : ℚ → ℚ → Prop} {book : Dict ℚ ℚ} {es : List (ℚ × ℚ)}
    (hstored : ∀ e ∈ book.entries, StoredLevel e.1 e.2)
    (hmem : ∀ e, e ∈ es ↔ e ∈ book.entries) (hordered : es.Pairwise fun a b => r a.1 b.1)
    (hsize : book.size ≠ 0) {n : ℕ} (hn : 1 ≤ n) : OrderedLevels r (es.take n) where
  nonempty := by
    intro hnil
    rcases List.take_eq_nil_iff.mp hnil with hzero | hnil
    · omega
    · refine hsize (List.length_eq_zero_iff.mpr (List.eq_nil_iff_forall_not_mem.mpr ?_))
      intro e he
      rw [← hmem, hnil] at he
      cases he
  stored e he := hstored e ((hmem e).mp (List.mem_of_mem_take he))
  ordered := hordered.sublist (List.take_sublist n es)

/-- The first of at least one top level is the first level. -/
theorem head?_take_pos {α : Type*} (es : List α) {n : ℕ} (hn : 1 ≤ n) :
    (es.take n).head? = es.head? := by
  rw [List.head?_take, if_neg (by omega)]

/-- What is known of a state a delta was just applied to. -/
structure JustApplied (s : OrderbookState) (recv : ℤ) : Prop where
  lastUpdateId : ∃ id, s.lastUpdateId = some id
  lastBookUpdate : s.lastBookUpdateMonotonicNs = some recv
  lastLocalRecv : s.lastLocalRecvMonotonicNs = some recv

theorem justApplied_of_accepted {s : OrderbookState} {a : DeltaArgs}
    (h : (s.applyDelta a).2.accepted = true) :
    JustApplied (s.applyDelta a).1 a.localRecvMonotonicNs := by
  cases applyDelta_outcome s a with
  | skipped accepted => rw [h] at accepted; cases accepted
  | failed _ _ accepted => rw [h] at accepted; cases accepted
  | applied _ _ _ _ _ _ _ state =>
      have hc := commitDelta_committed (s.recordMessageRecv a.localRecvMonotonicNs) a
        (parseLevels true a.bids).1 (parseLevels true a.asks).1
      rw [← state] at hc
      exact ⟨⟨_, hc.lastUpdateId⟩, hc.lastBookUpdate, hc.lastLocalRecv⟩

/-- A time difference in milliseconds is a decimal fraction. -/
theorem isDecimal_ageMs (now t : ℤ) : IsDecimal ((now - t : ℚ) / 1000000) :=
  ⟨now - t, 6, by push_cast; ring⟩

/-- **A copy that passes the validator is ready to be a sample.** -/
theorem sampleReady_of_isValid {v : OrderbookQualityValidator} {s : OrderbookState}
    {a : OrderbookState.CopyArgs} {now recv : ℤ} {lag : Option ℚ} (hs : BookInv s)
    (happlied : JustApplied s recv) (hdepth : 1 ≤ a.topN) (hnow : recv ≤ now)
    (hwall : a.utcIsoNow.isEmpty = false) {snapshot : OrderbookSnapshot}
    (hcopy : snapshot = s.copyOf a (s.bids.descending.take a.topN.toNat)
      (s.asks.ascending.take a.topN.toNat))
    (hvalid : (v.validate snapshot (some s) (some now) none none lag).isValid = true) :
    SampleReady snapshot (v.validate snapshot (some s) (some now) none none lag) := by
  have hchecks := OrderbookQualityValidator.isValid_iff.mp hvalid
  obtain ⟨hbids, hasks, hcross⟩ := validate_eq_nil hchecks.bookValid
  have hn : 1 ≤ a.topN.toNat := by omega
  have hensure := ensurePriceIndexes_eq_self hs
  have hbest : snapshot.bestBid = s.bestBid := by
    rw [hcopy, OrderbookState.bestBid, hensure, ← hs.bids.indexed.head?_descending]
    exact congrArg (Option.map Prod.fst) (head?_take_pos _ hn)
  have hbestAsk : snapshot.bestAsk = s.bestAsk := by
    rw [hcopy, OrderbookState.bestAsk, hensure, ← hs.asks.indexed.head?_ascending]
    exact congrArg (Option.map Prod.fst) (head?_take_pos _ hn)
  refine
    { lastUpdateId := by rw [hcopy]; exact happlied.lastUpdateId
      wallTs := by rw [hcopy]; exact orText_isEmpty (orText_isEmpty hwall)
      bids := by
        rw [hcopy]
        exact orderedLevels_take hs.bids.stored (fun _ => Dict.mem_descending)
          s.bids.descending_pairwise hbids hn
      asks := by
        rw [hcopy]
        exact orderedLevels_take hs.asks.stored (fun _ => Dict.mem_ascending)
          s.asks.ascending_pairwise hasks hn
      bestBid := by rw [hcopy]; rfl
      bestAsk := by rw [hcopy]; rfl
      notCrossed := by rw [hbest, hbestAsk]; exact hcross
      bookAge := ⟨(now - recv : ℚ) / 1000000, ?_, ?_, isDecimal_ageMs now recv⟩
      noErrors := by
        rw [OrderbookQualityValidator.validate_isValid] at hvalid
        exact List.isEmpty_iff.mp hvalid
      isValid := hvalid
      snapshotReady := by
        rw [OrderbookQualityValidator.validate_lifecycleFlags]
        exact hchecks.snapshotReady
      readyToEmit := by
        rw [OrderbookQualityValidator.validate_lifecycleFlags]
        exact hchecks.readyToEmit
      sequenceContinuous := by
        rw [OrderbookQualityValidator.validate_lifecycleFlags]
        exact hchecks.sequenceContinuous }
  · have hupdated : snapshot.lastBookUpdateMonotonicNs = some recv := by
      rw [hcopy]
      exact happlied.lastBookUpdate
    rw [OrderbookQualityValidator.validate_bookAgeMs, snapshotBookAgeMs, hupdated]
    rfl
  · have hcast : (recv : ℚ) ≤ now := by exact_mod_cast hnow
    have hdiff : 0 ≤ (now - recv : ℚ) := sub_nonneg.mpr hcast
    positivity

/-! ### The depth updates that emit -/

/-- The sample a reply carries. -/
def ProcessorReply.emitted? : ProcessorReply → Option Json
  | .applied _ emitted => emitted
  | _ => none

/-- The copy depends on the settings of the processor only. -/
theorem depthCopy_congr {p q : OrderbookPhase41Processor}
    (h : sampleSettings q = sampleSettings p) (s : OrderbookState) (event : DepthUpdate)
    (r : DepthReadings) : depthCopy q s event r = depthCopy p s event r := by
  have hdepth : q.depthN = p.depthN := congrArg Prod.fst h
  rw [depthCopy, depthCopy, copyArgs, copyArgs, hdepth]

/-- So does the quality of a copy. -/
theorem depthQuality_congr {p q : OrderbookPhase41Processor}
    (h : sampleSettings q = sampleSettings p) (s : OrderbookState)
    (snapshot : OrderbookSnapshot) (event : DepthUpdate) (lag : Option ℚ)
    (r : DepthReadings) :
    q.depthQuality s snapshot event lag r = p.depthQuality s snapshot event lag r := by
  have hvalidator : q.validator = p.validator := congrArg Prod.snd h
  rw [depthQuality, depthQuality, hvalidator]

/-- A valid copy made right after a delta was accepted is ready to be a sample. -/
theorem sampleReady_depthCopy {p : OrderbookPhase41Processor} {s : OrderbookState}
    {event : DepthUpdate} {lag : Option ℚ} {r : DepthReadings} (hs : BookInv s)
    (happlied : JustApplied s (recvTime event r)) (hdepth : 1 ≤ p.depthN)
    (hvalid : (p.depthQuality s (depthCopy p s event r) event lag r).isValid = true) :
    SampleReady (depthCopy p s event r)
      (p.depthQuality s (depthCopy p s event r) event lag r) :=
  sampleReady_of_isValid (a := p.copyArgs s (eventWallTs event) r) hs happlied hdepth
    (le_max_right _ _) (utcIso_isEmpty _) rfl hvalid

/-- An emitted sample is the row of its snapshot, which is valid. -/
theorem maybeEmitOrBlockSample_emitted {p : OrderbookPhase41Processor}
    {snapshot : OrderbookSnapshot} {quality : OrderbookQualityResult} {ts : Option ℤ}
    {sample : Json} (h : (p.maybeEmitOrBlockSample snapshot quality ts).2 = some sample) :
    quality.isValid = true ∧ sample = cleanSampleFromSnapshot snapshot quality p.depthN ts := by
  simp only [maybeEmitOrBlockSample] at h
  split at h
  · cases h
  · rename_i hvalid
    split at h
    · cases h
    · exact ⟨not_not.mp hvalid, (Option.some.inj h).symm⟩

/-- The copy a depth update makes of that state. -/
def emissionCopy (p : OrderbookPhase41Processor) (event : DepthUpdate) (r : DepthReadings) :
    OrderbookSnapshot := depthCopy p (appliedState p event r).1 event r

/-- The quality of that copy. -/
def emissionQuality (p : OrderbookPhase41Processor) (event : DepthUpdate) (lag : Option ℚ)
    (r : DepthReadings) : OrderbookQualityResult :=
  p.depthQuality (appliedState p event r).1 (emissionCopy p event r) event lag r

/-- **Where an emitted sample comes from.** The delta was accepted, the state it left is
stored, and the sample is the row of the valid copy of that state. -/
theorem processDepthUpdate_emitted {p : OrderbookPhase41Processor} (hp : EachState BookInv p)
    {event : DepthUpdate} {lag : Option ℚ} {r : DepthReadings} {sample : Json}
    (h : (p.processDepthUpdate event lag r).2.emitted? = some sample) :
    (appliedState p event r).2.accepted = true ∧
    (p.processDepthUpdate event lag r).1.states.get? (upper event.symbol) =
      some (appliedState p event r).1 ∧
    (emissionQuality p event lag r).isValid = true ∧
    sample = cleanSampleFromSnapshot (emissionCopy p event r) (emissionQuality p event lag r)
      p.depthN event.exchangeEventTs := by
  have hs := bookInv_appliedState hp event r
  have hsettings : sampleSettings (acceptedUpdate p event r) = sampleSettings p :=
    (keeps_receive bookInv_stateInv hp event r fun s hs => hs.congr rfl rfl rfl rfl).settings
  cases haccepted : (appliedState p event r).2.accepted with
  | false =>
      rw [(processDepthUpdate_of_rejected lag hs haccepted).1] at h
      cases h
  | true =>
      rw [processDepthUpdate_of_accepted lag hs haccepted] at h ⊢
      obtain ⟨hvalid, hsample⟩ := maybeEmitOrBlockSample_emitted h
      rw [depthQuality_congr hsettings, depthCopy_congr hsettings] at hvalid hsample
      refine ⟨rfl, ?_, hvalid, ?_⟩
      · rw [finishUpdate_states, (maybeEmitOrBlockSample_counts _ _ _ _).2.2]
        exact Dict.get?_set_self _ _ _
      · have hdepth : (acceptedUpdate p event r).depthN = p.depthN := congrArg Prod.fst hsettings
        rw [hsample, hdepth, emissionQuality, emissionCopy]

/-! ### The properties of emitted samples -/

/-- A sample is a clean view of the state `s`: its rows are the top of the sorted book. -/
structure CleanView (c : Phase41Settings) (s : OrderbookState) (lag : Option ℚ)
    (sample : Json) : Prop where
  snapshotReady : s.snapshotReady = true
  sequenceContinuous : s.sequenceContinuous = true
  readyToEmit : s.readyToEmit = true
  bids : sample.get "bids" = levelsToJson (s.bids.descending.take c.depthN.toNat)
  asks : sample.get "asks" = levelsToJson (s.asks.ascending.take c.depthN.toNat)
  bidsOrdered : OrderedLevels (· > ·) (s.bids.descending.take c.depthN.toNat)
  asksOrdered : OrderedLevels (· < ·) (s.asks.ascending.take c.depthN.toNat)
  best : ∃ bid ask, sample.get "best_bid" = .str (Decimal.formatF bid) ∧
    sample.get "best_ask" = .str (Decimal.formatF ask) ∧
    IsGreatest { k | k ∈ s.bids.keys } bid ∧ IsLeast { k | k ∈ s.asks.keys } ask ∧ bid < ask
  bookAge : ∃ age, sample.get "book_age_ms" = .float age ∧ age ≤ c.staleAfterMs
  queueLag : ∀ l ∈ lag, l ≤ c.queueLagSevereMs

/-- The two gates agree on a depth update: when its delta is accepted and the validator
passes the copy, the row of the copy has no schema violation. -/
def GatesAgree (p : OrderbookPhase41Processor) (event : DepthUpdate) (lag : Option ℚ)
    (r : DepthReadings) : Prop :=
  (appliedState p event r).2.accepted = true → ∀ snapshot,
    (appliedState p event r).1.copySnapshot
      (p.copyArgs (appliedState p event r).1 (eventWallTs event) r) = some snapshot →
    (p.depthQuality (appliedState p event r).1 snapshot event lag r).isValid = true →
    validateCleanSampleSchema (cleanSampleFromSnapshot snapshot
      (p.depthQuality (appliedState p event r).1 snapshot event lag r) p.depthN
      event.exchangeEventTs) = []

/-- What every reached processor has: its updates are accounted for, and its settings are
those it was created with. -/
structure Reached (c : Phase41Settings) (p : OrderbookPhase41Processor) : Prop
    extends Accounted 0 p where
  settings : sampleSettings p = sampleSettings (OrderbookPhase41Processor.init c)

theorem Reached.depthN {c : Phase41Settings} {p : OrderbookPhase41Processor}
    (h : Reached c p) : p.depthN = c.depthN := congrArg Prod.fst h.settings

theorem Reached.validator {c : Phase41Settings} {p : OrderbookPhase41Processor}
    (h : Reached c p) : p.validator = (OrderbookPhase41Processor.init c).validator :=
  congrArg Prod.snd h.settings

theorem gatesAgree_of_reached {c : Phase41Settings} (hdepth : 1 ≤ c.depthN)
    {p : OrderbookPhase41Processor} (h : Reached c p) (event : DepthUpdate)
    (lag : Option ℚ) (r : DepthReadings) : GatesAgree p event lag r := by
  intro haccepted snapshot hcopy hvalid
  have hs := bookInv_appliedState h.books event r
  rw [copySnapshot_eq hs, Option.some.injEq] at hcopy
  subst hcopy
  exact (sampleReady_depthCopy hs (justApplied_of_accepted haccepted)
    (h.depthN.symm ▸ hdepth) hvalid).validateCleanSampleSchema_eq_nil _ _

/-- An emitted sample is a clean view of the state its update left. -/
theorem cleanView_of_reached {c : Phase41Settings} (hdepth : 1 ≤ c.depthN)
    {p : OrderbookPhase41Processor} (h : Reached c p) {event : DepthUpdate}
    {lag : Option ℚ} {r : DepthReadings} {sample : Json}
    (hsample : (p.processDepthUpdate event lag r).2.emitted? = some sample) :
    CleanView c (appliedState p event r).1 lag sample := by
  obtain ⟨haccepted, -, hvalid, rfl⟩ := processDepthUpdate_emitted h.books hsample
  have hs := bookInv_appliedState h.books event r
  have hready := sampleReady_depthCopy hs (justApplied_of_accepted haccepted)
    (h.depthN.symm ▸ hdepth) hvalid
  have hchecks := OrderbookQualityValidator.isValid_iff.mp hvalid
  have hbids : (emissionCopy p event r).bidsTopN =
      (appliedState p event r).1.bids.descending.take c.depthN.toNat := by
    rw [← h.depthN]
    rfl
  have hasks : (emissionCopy p event r).asksTopN =
      (appliedState p event r).1.asks.ascending.take c.depthN.toNat := by
    rw [← h.depthN]
    rfl
  have hn : 1 ≤ c.depthN.toNat := by omega
  obtain ⟨bid, hbid, -⟩ := hready.bids.head
  obtain ⟨ask, hask, -⟩ := hready.asks.head
  obtain ⟨age, hage, -⟩ := hready.bookAge
  have hbest : (emissionCopy p event r).bestBid = some bid.1 := hready.bestBid.trans hbid
  have hbestAsk : (emissionCopy p event r).bestAsk = some ask.1 := hready.bestAsk.trans hask
  refine
    { snapshotReady := hchecks.snapshotReady
      sequenceContinuous := hchecks.sequenceContinuous
      readyToEmit := hchecks.readyToEmit
      bids := by rw [← hbids]; simp [cleanSampleFromSnapshot]
      asks := by rw [← hasks]; simp [cleanSampleFromSnapshot]
      bidsOrdered := hbids ▸ hready.bids
      asksOrdered := hasks ▸ hready.asks
      best := ⟨bid.1, ask.1, ?_, ?_, ?_, ?_, hready.notCrossed _ hbest _ hbestAsk⟩
      bookAge := ⟨age, ?_, ?_⟩
      queueLag := fun l hl => (hchecks.prompt l hl).trans_eq (by rw [h.validator]; rfl) }
  · simp [cleanSampleFromSnapshot, hbest, decimalToStr]
  · simp [cleanSampleFromSnapshot, hbestAsk, decimalToStr]
  · rw [← hs.bids.indexed.getLast?_eq_some_iff, ← hs.bids.indexed.head?_descending,
      ← head?_take_pos _ hn, ← hbids]
    exact hbid
  · rw [← hs.asks.indexed.head?_eq_some_iff, ← hs.asks.indexed.head?_ascending,
      ← head?_take_pos _ hn, ← hasks]
    exact hask
  · have hage' : (emissionQuality p event lag r).bookAgeMs = some age := hage
    simp [cleanSampleFromSnapshot, hage', Json.ofFloat?]
  · rw [depthQuality, OrderbookQualityValidator.validate_bookAgeMs] at hage
    exact (hchecks.fresh age hage).trans_eq (by rw [h.validator]; rfl)

/-! ### Times -/

/-- The clock readings a call may take, in the order it takes them. -/
def ProcessorCall.clockReadings : ProcessorCall → List ℤ
  | .loadSnapshot a => [a.monotonicNow]
  | .processDepthUpdate _ _ r | .validateReportedBest _ _ _ r =>
      [r.received, r.copied, r.copiedAgain, r.validated]
  | .bridgeMissing _ now => [now]
  | .checkStalePeriods _ _ _ _ clock => [clock]
  | .cleanupSymbol _ | .recordWsMessageRecv _ _ | .markSnapshotRecoveryActive _ _
  | .setCaptureActive _ => []

/-- The receive times a call is given. -/
def ProcessorCall.receiveTimes : ProcessorCall → List ℤ
  | .loadSnapshot a => a.localRecvMonotonicNs.toList ++ a.snapshotApplyMonotonicNs.toList
  | .processDepthUpdate event _ _ => event.recvMonotonicNs.toList
  | .recordWsMessageRecv _ ns => [ns]
  | _ => []

/-- No receive time of a call is after its clock readings. -/
def ProcessorCall.WellTimed (call : ProcessorCall) : Prop :=
  ∀ t ∈ call.receiveTimes, ∀ now ∈ call.clockReadings, t ≤ now

theorem sampleTime?_cleanSample (snapshot : OrderbookSnapshot)
    (quality : OrderbookQualityResult) (depthN : ℤ) (ts : Option ℤ) :
    sampleTime? (cleanSampleFromSnapshot snapshot quality depthN ts) =
      some snapshot.localRecvMonotonicNs := by
  simp [sampleTime?, cleanSampleFromSnapshot]

/-- A receive time that is not after the clock makes the copy as old as the clock. -/
theorem emissionCopy_time {p : OrderbookPhase41Processor} {event : DepthUpdate}
    {lag : Option ℚ} {r : DepthReadings}
    (haccepted : (appliedState p event r).2.accepted = true)
    (htimed : (ProcessorCall.processDepthUpdate event lag r).WellTimed)
    (hclock : (ProcessorCall.processDepthUpdate event lag r).clockReadings.Pairwise (· ≤ ·)) :
    r.copied ≤ (emissionCopy p event r).localRecvMonotonicNs ∧
      (emissionCopy p event r).localRecvMonotonicNs ≤ r.copiedAgain := by
  have hcopied : r.received ≤ r.copied ∧ r.copied ≤ r.copiedAgain := by
    simp only [ProcessorCall.clockReadings, List.pairwise_cons] at hclock
    exact ⟨hclock.1 _ (by simp), hclock.2.1 _ (by simp)⟩
  have hrecv : recvTime event r ≤ r.copied := by
    cases hevent : event.recvMonotonicNs with
    | none => simp [recvTime, hevent, orNumber, hcopied.1]
    | some t =>
        have ht := htimed t (by simp [ProcessorCall.receiveTimes, hevent]) r.copied
          (by simp [ProcessorCall.clockReadings])
        rw [recvTime, hevent, orNumber]
        split
        · exact hcopied.1
        · exact ht
  have hlast := (justApplied_of_accepted haccepted).lastLocalRecv
  have htime : (emissionCopy p event r).localRecvMonotonicNs =
      orNumber (some (max r.copied (recvTime event r))) r.copiedAgain := by
    have hlast' : (appliedState p event r).1.lastLocalRecvMonotonicNs =
      some (recvTime event r) := hlast
    rw [emissionCopy, depthCopy, OrderbookState.copyOf, copyArgs, hlast']
  rw [htime, max_eq_left hrecv, orNumber]
  split <;> omega

/-! ### Runs -/

theorem countRejected_settings (p : OrderbookPhase41Processor) (status : ApplyStatus) :
    sampleSettings (p.countRejected status) = sampleSettings p := by
  cases status <;> rfl

/-- A depth update keeps the settings. -/
theorem processDepthUpdate_settings {p : OrderbookPhase41Processor} (hp : EachState BookInv p)
    (event : DepthUpdate) (lag : Option ℚ) (r : DepthReadings) :
    sampleSettings (p.processDepthUpdate event lag r).1 = sampleSettings p := by
  have hs := bookInv_appliedState hp event r
  have hreceive : sampleSettings (p.receive event r) = sampleSettings p :=
    (keeps_receive bookInv_stateInv hp event r fun s hs => hs.congr rfl rfl rfl rfl).settings
  have hfinish : ∀ q symbol state,
      sampleSettings (OrderbookPhase41Processor.finishUpdate q symbol state) =
        sampleSettings q := fun q symbol state => (keeps_finishUpdate (P := BookInv) ..).settings
  cases haccepted : (appliedState p event r).2.accepted with
  | true =>
      rw [processDepthUpdate_of_accepted lag hs haccepted, hfinish,
        (maybeEmitOrBlockSample_counts _ _ _ _).2.1]
      exact hreceive
  | false =>
      have hcount : sampleSettings (rejectedUpdate p event r) = sampleSettings p := by
        rw [rejectedUpdate, countRejected_settings]
        exact hreceive
      rcases (processDepthUpdate_of_rejected lag hs haccepted).2 with hq | hq
      · rw [hq, hfinish, hcount]
      · rw [hq, hfinish]
        exact hcount

theorem next_settings {p : OrderbookPhase41Processor} (hp : EachState BookInv p)
    (call : ProcessorCall) :
    sampleSettings (phase41Machine.next p call) = sampleSettings p := by
  cases hd : call.isDepthUpdate with
  | false => exact (keeps_next bookInv_stateInv hp (keptBy_bookInv call) hd).settings
  | true =>
      cases call with
      | processDepthUpdate event lag r => exact processDepthUpdate_settings hp event lag r
      | _ => cases hd

theorem Reached.next {c : Phase41Settings} {p : OrderbookPhase41Processor} (h : Reached c p)
    (call : ProcessorCall) : Reached c (phase41Machine.next p call) :=
  ⟨h.toAccounted.next call, (next_settings h.books call).trans h.settings⟩

theorem reached_init (c : Phase41Settings) : Reached c (OrderbookPhase41Processor.init c) :=
  ⟨accounted_exec c [], rfl⟩

/-- A call that emits a sample is a depth update. -/
theorem emitted_call {p : OrderbookPhase41Processor} {call : ProcessorCall} {sample : Json}
    (h : (phase41Machine.out p call).emitted? = some sample) :
    ∃ event lag r, call = .processDepthUpdate event lag r ∧
      phase41Machine.next p call = (p.processDepthUpdate event lag r).1 ∧
      (p.processDepthUpdate event lag r).2.emitted? = some sample := by
  cases call with
  | processDepthUpdate event lag r => exact ⟨event, lag, r, rfl, rfl, h⟩
  | validateReportedBest symbol bid ask r =>
      simp only [Machine.out, phase41Machine, validateReportedBest] at h
      split at h <;> cases h
  | _ => cases h

/-- The samples of a run, in the order they are emitted. -/
def emittedSamples (c : Phase41Settings) (calls : List ProcessorCall) : List Json :=
  (phase41Machine.trace (OrderbookPhase41Processor.init c) calls).filterMap
    fun e => e.2.emitted?

/-- Every emitted sample passes the input check of the labeled dataset. -/
theorem cleanSampleErrors_eq_nil_of_reached {c : Phase41Settings} (hdepth : 1 ≤ c.depthN)
    {p : OrderbookPhase41Processor} (h : Reached c p) {call : ProcessorCall} {sample : Json}
    (hsample : (phase41Machine.out p call).emitted? = some sample) :
    cleanSampleErrors sample = [] := by
  obtain ⟨event, lag, r, -, -, hemitted⟩ := emitted_call hsample
  obtain ⟨haccepted, -, hvalid, rfl⟩ := processDepthUpdate_emitted h.books hemitted
  exact (sampleReady_depthCopy (bookInv_appliedState h.books event r)
    (justApplied_of_accepted haccepted) (h.depthN.symm ▸ hdepth)
    hvalid).cleanSampleErrors_eq_nil _ _

/-- The time of an emitted sample lies between two clock readings of its call. -/
theorem sampleTime_of_reached {c : Phase41Settings} {p : OrderbookPhase41Processor}
    (h : Reached c p) {call : ProcessorCall} (htimed : call.WellTimed)
    (hclock : call.clockReadings.Pairwise (· ≤ ·)) :
    ∀ t ∈ (phase41Machine.out p call).emitted?.bind sampleTime?,
      (∃ a ∈ call.clockReadings, a ≤ t) ∧ ∃ b ∈ call.clockReadings, t ≤ b := by
  intro t ht
  obtain ⟨sample, hsample, htime⟩ := Option.bind_eq_some_iff.mp ht
  obtain ⟨event, lag, r, rfl, -, hemitted⟩ := emitted_call hsample
  obtain ⟨haccepted, -, -, rfl⟩ := processDepthUpdate_emitted h.books hemitted
  rw [sampleTime?_cleanSample, Option.some.injEq] at htime
  obtain ⟨hlo, hhi⟩ := emissionCopy_time haccepted htimed hclock
  subst htime
  exact ⟨⟨r.copied, by simp [ProcessorCall.clockReadings], hlo⟩,
    r.copiedAgain, by simp [ProcessorCall.clockReadings], hhi⟩

/-- **The emitted samples are clean, the gates agree, and the samples are valid input.**
Every emitted sample is a clean view of the state its update left; no valid copy has a
schema violation; and when the clock never goes back and no receive time is after it, the
samples of a run pass the input check and are in the order of their times. -/
theorem OrderbookPhase41Processor.emits_clean_samples (c : Phase41Settings)
    (hdepth : 1 ≤ c.depthN) (calls : List ProcessorCall) :
    let p := phase41Machine.exec (OrderbookPhase41Processor.init c) calls
    (∀ call sample, (phase41Machine.out p call).emitted? = some sample →
      ∃ event lag r s, call = .processDepthUpdate event lag r ∧
        (phase41Machine.next p call).states.get? (upper event.symbol) = some s ∧
        CleanView c s lag sample) ∧
    (∀ event lag r, GatesAgree p event lag r) ∧
    ((calls.flatMap ProcessorCall.clockReadings).Pairwise (· ≤ ·) →
      (∀ call ∈ calls, call.WellTimed) →
      (∀ sample ∈ emittedSamples c calls, cleanSampleErrors sample = []) ∧
      ∃ times : List ℤ,
        (emittedSamples c calls).map (fun sample => sample.get "local_recv_monotonic_ns") =
          times.map Json.int ∧
        times.Pairwise (· ≤ ·)) := by
  intro p
  have hreached : Reached c p :=
    phase41Machine.exec_invariant (fun _ call h => h.next call) (reached_init c) calls
  have herrors : ∀ sample ∈ emittedSamples c calls, cleanSampleErrors sample = [] := by
    intro sample hsample
    obtain ⟨e, he, hemitted⟩ := List.mem_filterMap.mp hsample
    exact phase41Machine.forall_trace (C := fun _ _ => True)
      (Q := fun _ reply => ∀ sample, reply.emitted? = some sample → cleanSampleErrors sample = [])
      (fun _ call h _ => h.next call)
      (fun _ call h _ _ hs => cleanSampleErrors_eq_nil_of_reached hdepth h hs)
      (reached_init c)
      (phase41Machine.stepsMeet_of_forall (P := fun _ => True) _ fun _ _ => trivial)
      e he sample hemitted
  refine ⟨fun call sample hsample => ?_, gatesAgree_of_reached hdepth hreached,
    fun hclock htimed => ⟨herrors, (emittedSamples c calls).filterMap sampleTime?, ?_, ?_⟩⟩
  · obtain ⟨event, lag, r, rfl, hnext, hemitted⟩ := emitted_call hsample
    rw [hnext]
    exact ⟨event, lag, r, _, rfl, (processDepthUpdate_emitted hreached.books hemitted).2.1,
      cleanView_of_reached hdepth hreached hemitted⟩
  · exact map_time_eq herrors
  · rw [emittedSamples, List.filterMap_filterMap]
    exact phase41Machine.stamps_pairwise (I := Reached c)
      (T := fun reply => reply.emitted?.bind sampleTime?) (fun _ call h => h.next call)
      (fun _ _ h ht hr => sampleTime_of_reached h ht hr) (reached_init c) htimed hclock

/-- A snapshot and the delta that bridges it. -/
def bridgedUpdate : List ProcessorCall :=
  [.loadSnapshot
    { symbol := "BTCUSDT", bids := [.seq ["100", "1"], .seq ["99.5", "2"]],
      asks := [.seq ["101", "1.5"]], lastUpdateId := 10, localRecvMonotonicNs := some 1000,
      generation := none, snapshotApplyMonotonicNs := none, monotonicNow := 1500,
      utcNowNs := 0 },
   .processDepthUpdate
    { symbol := "btcusdt", firstUpdateId := 11, finalUpdateId := 12,
      previousFinalUpdateId := none, bids := [("100.5", "3.0")], asks := [],
      tsNs := 2000, exchangeEventTs := none, localReceivedTs := none, parseDoneTs := none,
      stateUpdatedTs := none, recvMonotonicNs := some 2000, parseDoneMonotonicNs := none,
      stateUpdatedMonotonicNs := none, latencyMs := none, sequence := none }
    (some 4)
    { received := 2100, copied := 2200, copiedAgain := 2200, validated := 2300,
      utcNowNs := 0 }]

/-- Settings for one symbol and two levels. -/
def twoLevels : Phase41Settings where
  symbols := ["BTCUSDT"]
  depthN := 2
  staleAfterMs := 3000
  feedReceiveStaleAfterMs := none
  queueLagWarningMs := 50
  queueLagSevereMs := 500
  monotonicNow := 0

theorem OrderbookPhase41Processor.emits_clean_samples_bridgedUpdate :
    (emittedSamples twoLevels bridgedUpdate).length = 1 ∧
      ∀ sample ∈ emittedSamples twoLevels bridgedUpdate, cleanSampleErrors sample = [] := by
  have htimed : ∀ call ∈ bridgedUpdate, call.WellTimed := by
    simp [bridgedUpdate, ProcessorCall.WellTimed, ProcessorCall.receiveTimes,
      ProcessorCall.clockReadings]
  refine ⟨by decide +kernel, ?_⟩
  exact ((OrderbookPhase41Processor.emits_clean_samples twoLevels (by decide)
    bridgedUpdate).2.2 (by decide) htimed).1

end SomethingTrade
