import Mathlib.Algebra.Order.Group.Multiset
import SomethingTrade.GapDetector

/-!
# Accounting for Candidates

Every candidate ends in exactly one way: it is written or suppressed at its detection,
dropped because its gap is pending already, or opened as a pending gap, which ends in one
observation. The counters of the detector and the gaps it holds are a ledger
(`GapLedger`), each call is a list of bookings, and the books balance.

## Main results

* `sweepPending_swept`: what a walk over the pending gaps does to the ledger.
* `detectBinanceMove_detected`: what a detection does to the ledger.
* `GapDetector.candidates_accounted`: in every run the counters balance, no gap is pending
  twice, and every opened gap is pending or has one observation, which was returned or
  waits to be drained.
-/

namespace SomethingTrade

/-! ### The ledger -/

/-- The numbers of candidates by what became of them. -/
structure GapTally where
  detected : ℕ
  fillable : ℕ
  nonFillable : ℕ
  duplicates : ℕ
  written : ℕ
  suppressed : ℕ

/-- The ledger of a detector: its counts, the observations it completed, the gaps it
watches, and the observations that wait to be drained. -/
structure GapLedger where
  tally : GapTally
  completed : List TradableGapObservation
  pending : Dict GapKey PendingTradableGap
  waiting : List TradableGapObservation

/-- The ledger of a detector. -/
def GapDetector.ledger (d : GapDetector) : GapLedger where
  tally :=
    { detected := d.detectedGaps
      fillable := d.fillableAtDetectionCount
      nonFillable := d.nonFillableAtDetectionCount
      duplicates := d.candidateDuplicateSuppressedCount
      written := d.preEntryObservationsWritten
      suppressed := d.preEntryObservationsSuppressed }
  completed := d.completed
  pending := d.pending
  waiting := d.marketUpdateObservations

/-- The candidates of some observations. -/
def identities (observations : List TradableGapObservation) : Multiset GapIdentity :=
  (observations.map TradableGapObservation.identity : List GapIdentity)

/-- The candidates of some observations that were opened before. -/
def closedIdentities (observations : List TradableGapObservation) : Multiset GapIdentity :=
  identities (observations.filter TradableGapObservation.quoteWasFillable)

namespace GapLedger

/-- Book a new candidate. -/
def count (l : GapLedger) : GapLedger :=
  { l with tally := { l.tally with detected := l.tally.detected + 1 } }

/-- Book a candidate that is written at its detection. -/
def write (l : GapLedger) (observation : TradableGapObservation) : GapLedger :=
  { l with
    tally := { l.tally with
      nonFillable := l.tally.nonFillable + 1
      written := l.tally.written + 1 }
    completed := l.completed ++ [observation] }

/-- Book a candidate that is suppressed at its detection. -/
def suppress (l : GapLedger) : GapLedger :=
  { l with
    tally := { l.tally with
      nonFillable := l.tally.nonFillable + 1
      suppressed := l.tally.suppressed + 1 } }

/-- Book a candidate whose gap is pending already. -/
def duplicate (l : GapLedger) : GapLedger :=
  { l with tally := { l.tally with duplicates := l.tally.duplicates + 1 } }

/-- Book a candidate that is opened. -/
def openGap (l : GapLedger) (key : GapKey) (pending : PendingTradableGap) : GapLedger :=
  { l with
    tally := { l.tally with fillable := l.tally.fillable + 1 }
    pending := l.pending.set key pending }

/-- Book a change of a pending gap. -/
def changeGap (l : GapLedger) (key : GapKey) (pending : PendingTradableGap) : GapLedger :=
  { l with pending := l.pending.set key pending }

/-- Book the end of a pending gap. -/
def closeGap (l : GapLedger) (key : GapKey) (observation : TradableGapObservation) :
    GapLedger :=
  { l with
    completed := l.completed ++ [observation]
    pending := l.pending.pop key }

/-- The candidates that are pending. -/
def candidates (l : GapLedger) : Multiset GapIdentity :=
  (l.pending.entries.map fun e => e.2.identity : List GapIdentity)

/-- Every pending gap is stored under its own key. -/
def Keyed (l : GapLedger) : Prop := ∀ e ∈ l.pending.entries, e.2.key = e.1

/-- The books balance. -/
structure Accounted (l : GapLedger) : Prop where
  detected : l.tally.detected = l.tally.fillable + l.tally.nonFillable + l.tally.duplicates
  nonFillable : l.tally.nonFillable = l.tally.written + l.tally.suppressed
  completed : l.completed.length + l.pending.size = l.tally.written + l.tally.fillable
  keyed : l.Keyed

theorem card_candidates (l : GapLedger) : l.candidates.card = l.pending.size := by
  simp [candidates, Dict.size]

/-- Up to order, the candidates are that of one pending gap and the others. -/
theorem candidates_eq_cons {l : GapLedger} {key : GapKey} {pending : PendingTradableGap}
    (h : l.pending.get? key = some pending) :
    l.candidates = pending.identity ::ₘ
      ((l.pending.pop key).entries.map fun e => e.2.identity : List GapIdentity) := by
  rw [candidates, Multiset.cons_coe, Multiset.coe_eq_coe]
  exact (Dict.perm_cons_pop h).map fun e => e.2.identity

end GapLedger

/-! ### Walks over the pending gaps -/

/-- What a walk does to the ledger: gaps change without becoming another candidate, or are
closed with their observations. -/
structure Swept (l l' : GapLedger) (closed : List TradableGapObservation) : Prop where
  tally : l'.tally = l.tally
  waiting : l'.waiting = l.waiting
  completed : l'.completed = l.completed ++ closed
  keyed : l.Keyed → l'.Keyed
  keys : ∀ k ∈ l'.pending.keys, k ∈ l.pending.keys
  flow : l.candidates = l'.candidates + identities closed
  fillable : ∀ o ∈ closed, o.quoteWasFillable = true

theorem identities_nil : identities [] = 0 := rfl

theorem Swept.refl (l : GapLedger) : Swept l l [] where
  tally := rfl
  waiting := rfl
  completed := (List.append_nil _).symm
  keyed := id
  keys _ := id
  flow := by rw [identities_nil, add_zero]
  fillable := by simp

theorem identities_append (a b : List TradableGapObservation) :
    identities (a ++ b) = identities a + identities b := by
  rw [identities, List.map_append, ← Multiset.coe_add]
  rfl

theorem Swept.trans {l l' l'' : GapLedger} {a b : List TradableGapObservation}
    (h : Swept l l' a) (h' : Swept l' l'' b) : Swept l l'' (a ++ b) where
  tally := h'.tally.trans h.tally
  waiting := h'.waiting.trans h.waiting
  completed := by rw [h'.completed, h.completed, List.append_assoc]
  keyed hl := h'.keyed (h.keyed hl)
  keys k hk := h.keys k (h'.keys k hk)
  flow := by rw [h.flow, h'.flow, identities_append, add_assoc, add_comm (identities a)]
  fillable o ho := (List.mem_append.mp ho).elim (h.fillable o) (h'.fillable o)

section

variable {l : GapLedger} {key : GapKey} {pending : PendingTradableGap}
  (hpending : l.pending.get? key = some pending)

include hpending

theorem swept_changeGap {pending' : PendingTradableGap}
    (hid : pending'.identity = pending.identity) :
    Swept l (l.changeGap key pending') [] where
  tally := rfl
  waiting := rfl
  completed := (List.append_nil _).symm
  keyed hl := by
    refine Dict.forall_entries_set
      (P := fun (k : GapKey) (p : PendingTradableGap) => p.key = k) hl ?_
    have hkey : pending'.key = pending.key := congrArg GapIdentity.key hid
    exact hkey.trans (hl (key, pending) (Dict.mem_entries_iff.mpr hpending))
  keys k hk := by
    rcases Dict.mem_keys_set.mp hk with rfl | hk
    · exact Dict.mem_keys_iff.mpr ⟨pending, hpending⟩
    · exact hk
  flow := by
    have hset : (l.changeGap key pending').candidates = pending'.identity ::ₘ
        ((l.pending.pop key).entries.map fun e => e.2.identity : List GapIdentity) := by
      rw [GapLedger.candidates, Multiset.cons_coe, Multiset.coe_eq_coe]
      exact (Dict.perm_set l.pending key pending').map fun e => e.2.identity
    rw [hset, hid, ← GapLedger.candidates_eq_cons hpending, identities_nil, add_zero]
  fillable := by simp

theorem swept_closeGap {observation : TradableGapObservation}
    (hid : observation.identity = pending.identity)
    (hfillable : observation.quoteWasFillable = true) :
    Swept l (l.closeGap key observation) [observation] where
  tally := rfl
  waiting := rfl
  completed := rfl
  keyed hl := Dict.forall_entries_pop
    (P := fun (k : GapKey) (p : PendingTradableGap) => p.key = k) key hl
  keys k hk := (Dict.mem_keys_pop.mp hk).2
  flow := by
    rw [GapLedger.candidates_eq_cons hpending, ← hid, ← Multiset.singleton_add]
    exact add_comm _ _
  fillable o ho := by
    obtain rfl := List.mem_singleton.mp ho
    exact hfillable

end

/-! ### Bookings of the detector -/

theorem recordObservationDiagnostics_ledger (d : GapDetector)
    (observation : TradableGapObservation) :
    (d.recordObservationDiagnostics observation).ledger = d.ledger := by
  rw [GapDetector.recordObservationDiagnostics]
  cases observation.rejectStage <;> cases observation.rejectReason <;> rfl

theorem complete_ledger (d : GapDetector) (observation : TradableGapObservation)
    (stage : RejectStage) :
    (d.complete observation stage).ledger =
      { d.ledger with completed := d.ledger.completed ++ [observation] } := by
  have key : ∀ d' : GapDetector, d'.ledger = d.ledger →
      { d'.recordObservationDiagnostics observation with
        completed := (d'.recordObservationDiagnostics observation).completed ++ [observation]
      }.ledger = { d.ledger with completed := d.ledger.completed ++ [observation] } := by
    intro d' hd'
    have h := (recordObservationDiagnostics_ledger d' observation).trans hd'
    rw [← h]
    rfl
  rw [GapDetector.complete]
  cases observation.rejectReason with
  | none => exact key d rfl
  | some reason => exact key (d.recordReject reason stage) rfl

theorem closePending_ledger (d : GapDetector) (key : GapKey) (pending : PendingTradableGap) :
    (d.closePending key pending).1.ledger =
      d.ledger.closeGap key (d.observationFromPending pending) := by
  have h := complete_ledger d (d.observationFromPending pending)
    (d.observationFromPending pending).rejectStage
  have hclose : (d.closePending key pending).1.ledger =
      { (d.complete (d.observationFromPending pending)
          (d.observationFromPending pending).rejectStage).ledger with
        pending := (d.complete (d.observationFromPending pending)
          (d.observationFromPending pending).rejectStage).ledger.pending.pop key } := rfl
  rw [hclose, h]
  rfl

/-! ### The bodies of the walks -/

/-- The gap a fate is about. -/
def GapDetector.GapFate.pending : GapDetector.GapFate → PendingTradableGap
  | .keep pending => pending
  | .close pending => pending

/-- A body never makes a gap another candidate. -/
def KeepsIdentity (body : GapDetector → PendingTradableGap → GapDetector.GapFate) : Prop :=
  ∀ d pending, (body d pending).pending.identity = pending.identity

theorem markMidRepricing_identity (d : GapDetector) (pending : PendingTradableGap)
    (quote : PolymarketQuote) (quoteTs quoteMono : ℤ) :
    (d.markMidRepricing pending quote quoteTs quoteMono).identity = pending.identity := by
  rw [GapDetector.markMidRepricing]
  split
  · rfl
  split
  · split <;> rfl
  · rfl

theorem quoteFate_keepsIdentity (quote : PolymarketQuote) (state : MarketState)
    (now : Moment) : KeepsIdentity (GapDetector.quoteFate quote state now) := by
  intro d pending
  rw [GapDetector.quoteFate]
  split
  · rfl
  dsimp only
  generalize hp : d.markMidRepricing _ quote _ _ = marked
  have hid : marked.identity = pending.identity := by
    rw [← hp, markMidRepricing_identity]
    rfl
  split
  · exact hid
  split
  · exact hid
  split
  · exact hid
  split <;> exact hid

theorem lifecycleFate_keepsIdentity (event : MarketLifecycleEvent) (state : MarketState)
    (now : Moment) : KeepsIdentity (GapDetector.lifecycleFate event state now) := by
  intro d pending
  rw [GapDetector.lifecycleFate]
  split
  · rfl
  · cases state.polymarketQuotes.get? pending.tokenId <;> rfl

theorem expiryFate_keepsIdentity (state : MarketState) (now : Moment) :
    KeepsIdentity (GapDetector.expiryFate state now) := by
  intro d pending
  rw [GapDetector.expiryFate]
  split
  · rfl
  · cases state.polymarketQuotes.get? pending.tokenId <;> rfl

/-- A market is only replaced by one of the same id. -/
theorem refreshFate_keepsIdentity {activeById : Dict String PolymarketMarketMetadata}
    (hactive : ∀ e ∈ activeById.entries, e.2.marketId = e.1) (now : Moment) :
    KeepsIdentity (GapDetector.refreshFate activeById now) := by
  intro d pending
  rw [GapDetector.refreshFate]
  split
  · rename_i replacement hget
    have hid : replacement.marketId = pending.market.marketId :=
      hactive (_, replacement) (Dict.mem_entries_iff.mpr hget)
    simp only [GapDetector.GapFate.pending, PendingTradableGap.identity,
      PendingTradableGap.key, hid]
  · rfl

/-- **A walk over the pending gaps** closes gaps with their observations, and changes
nothing else in the ledger. -/
theorem sweepPending_swept {body : GapDetector → PendingTradableGap → GapDetector.GapFate}
    (hbody : KeepsIdentity body) (d : GapDetector) :
    Swept d.ledger (d.sweepPending body).1.ledger (d.sweepPending body).2 := by
  refine Dict.walk (V := fun acc : GapDetector × List TradableGapObservation =>
    acc.1.ledger.pending) (I := fun acc => Swept d.ledger acc.1.ledger acc.2)
    (s := (d, [])) ?_ ?_ (.refl _)
  · intro acc e k hk
    rw [GapDetector.visitPending]
    split
    · exact Dict.get?_set_of_ne _ _ (Ne.symm hk)
    · simp only [Prod.map, id, closePending_ledger, GapLedger.closeGap, Dict.get?_pop,
        if_neg (Ne.symm hk)]
  · intro acc e hacc hget
    have hid := hbody acc.1 e.2
    rw [GapDetector.visitPending]
    split
    · rename_i pending hfate
      rw [hfate] at hid
      have h := hacc.trans (swept_changeGap hget hid)
      rwa [List.append_nil] at h
    · rename_i pending hfate
      rw [hfate] at hid
      simp only [Prod.map, id, closePending_ledger]
      exact hacc.trans (swept_closeGap hget hid rfl)

/-! ### Detection -/

/-- How a candidate is settled. -/
inductive Settled (l l' : GapLedger) : List TradableGapObservation → Prop
  | written (observation : TradableGapObservation)
      (unfillable : observation.quoteWasFillable = false)
      (booked : l' = l.write observation) : Settled l l' [observation]
  | suppressed (booked : l' = l.suppress) : Settled l l' []
  | duplicate (booked : l' = l.duplicate) : Settled l l' []
  | opened (pending : PendingTradableGap) (fresh : l.pending.get? pending.key = none)
      (booked : l' = l.openGap pending.key pending) : Settled l l' []

theorem rejectCandidate_settled (d : GapDetector) (m : BinanceMove)
    (market : PolymarketMarketMetadata) (tokenId : String) (quote : Option PolymarketQuote)
    (reason : String) (gate : BookReadinessGate) :
    Settled d.ledger (d.rejectCandidate m market tokenId quote reason gate).1.ledger
      (d.rejectCandidate m market tokenId quote reason gate).2 := by
  have hfillable : (d.preEntryObservation m market tokenId quote reason gate).quoteWasFillable =
    false := rfl
  rw [GapDetector.rejectCandidate]
  generalize d.preEntryObservation m market tokenId quote reason gate = observation at hfillable
  rw [GapDetector.recordPreEntryObservation]
  dsimp only
  split
  · exact .suppressed rfl
  · refine .written observation hfillable ?_
    simp only [Prod.map, id, complete_ledger]
    rfl

/-- **Every candidate is settled once.** -/
theorem settleCandidate_settled (d : GapDetector) (m : BinanceMove)
    (market : PolymarketMarketMetadata) (gate : BookReadinessGate) :
    Settled d.ledger (d.settleCandidate m market gate).1.ledger
      (d.settleCandidate m market gate).2 := by
  have h := GapDetector.settleCandidate_settles d m market gate
  generalize d.settleCandidate m market gate = r at h ⊢
  cases h with
  | rejected rejects => exact rejectCandidate_settled ..
  | duplicate => exact .duplicate rfl
  | opened token free read fills =>
      rename_i tokenId quote ask askSize
      exact .opened (d.pendingGap m market tokenId quote ask askSize gate) free rfl

/-- What a detection does to the ledger: it opens gaps, and writes observations of other
candidates. -/
structure Detected (l l' : GapLedger) (written : List TradableGapObservation)
    (opened : List (GapKey × PendingTradableGap)) : Prop where
  accounted : l.Accounted → l'.Accounted
  waiting : l'.waiting = l.waiting
  pending : l'.pending.entries = l.pending.entries ++ opened
  unfillable : ∀ o ∈ written, o.quoteWasFillable = false

theorem Detected.refl (l : GapLedger) : Detected l l [] [] where
  accounted := id
  waiting := rfl
  pending := (List.append_nil _).symm
  unfillable := by simp

theorem Detected.trans {l l' l'' : GapLedger} {a b : List TradableGapObservation}
    {o o' : List (GapKey × PendingTradableGap)} (h : Detected l l' a o)
    (h' : Detected l' l'' b o') : Detected l l'' (a ++ b) (o ++ o') where
  accounted hl := h'.accounted (h.accounted hl)
  waiting := h'.waiting.trans h.waiting
  pending := by rw [h'.pending, h.pending, List.append_assoc]
  unfillable x hx := (List.mem_append.mp hx).elim (h.unfillable x) (h'.unfillable x)

/-- A candidate that is counted and settled keeps the books balanced. -/
theorem Settled.detected {l l' : GapLedger} {written : List TradableGapObservation}
    (h : Settled l.count l' written) : ∃ opened, Detected l l' written opened := by
  cases h with
  | written observation unfillable booked =>
      subst booked
      refine ⟨[], fun hl => ?_, rfl, (List.append_nil _).symm, by simpa using unfillable⟩
      obtain ⟨hdetected, hnon, hcompleted, hkeyed⟩ := hl
      constructor
      · simp only [GapLedger.write, GapLedger.count]
        omega
      · simp only [GapLedger.write, GapLedger.count]
        omega
      · simp only [GapLedger.write, GapLedger.count, List.length_append, List.length_singleton]
        omega
      · exact hkeyed
  | suppressed booked =>
      subst booked
      refine ⟨[], fun hl => ?_, rfl, (List.append_nil _).symm, by simp⟩
      obtain ⟨hdetected, hnon, hcompleted, hkeyed⟩ := hl
      constructor
      · simp only [GapLedger.suppress, GapLedger.count]
        omega
      · simp only [GapLedger.suppress, GapLedger.count]
        omega
      · exact hcompleted
      · exact hkeyed
  | duplicate booked =>
      subst booked
      refine ⟨[], fun hl => ?_, rfl, (List.append_nil _).symm, by simp⟩
      obtain ⟨hdetected, hnon, hcompleted, hkeyed⟩ := hl
      constructor
      · simp only [GapLedger.duplicate, GapLedger.count]
        omega
      · exact hnon
      · exact hcompleted
      · exact hkeyed
  | opened pending fresh booked =>
      subst booked
      have hentries : (l.pending.set pending.key pending).entries =
          l.pending.entries ++ [(pending.key, pending)] :=
        Dict.entries_set_of_get?_none pending fresh
      refine ⟨[(pending.key, pending)], fun hl => ?_, rfl, hentries, by simp⟩
      obtain ⟨hdetected, hnon, hcompleted, hkeyed⟩ := hl
      have hsize : (l.pending.set pending.key pending).size = l.pending.size + 1 := by
        rw [Dict.size, hentries, List.length_append, Dict.size, List.length_singleton]
      constructor
      · simp only [GapLedger.openGap, GapLedger.count]
        omega
      · exact hnon
      · simp only [GapLedger.openGap, GapLedger.count, hsize]
        omega
      · exact Dict.forall_entries_set
          (P := fun (k : GapKey) (p : PendingTradableGap) => p.key = k) hkeyed rfl

theorem detectInMarket_detected (m : BinanceMove)
    (acc : GapDetector × List TradableGapObservation) (market : PolymarketMarketMetadata) :
    ∃ written opened, (GapDetector.detectInMarket m acc market).2 = acc.2 ++ written ∧
      Detected acc.1.ledger (GapDetector.detectInMarket m acc market).1.ledger written
        opened := by
  rw [GapDetector.detectInMarket]
  dsimp only
  split
  · exact ⟨[], [], (List.append_nil _).symm, .refl _⟩
  split
  · exact ⟨[], [], (List.append_nil _).symm, .refl _⟩
  · have h := settleCandidate_settled (acc.1.countCandidate m market) m market
      (acc.1.bookReadinessGate market m.state m.now.nowTs)
    obtain ⟨opened, hopened⟩ :=
      Settled.detected (l := acc.1.ledger) (h : Settled acc.1.ledger.count _ _)
    exact ⟨_, opened, rfl, hopened⟩

/-- **A detection** opens gaps and writes observations, and the books stay balanced. -/
theorem detectBinanceMove_detected (d : GapDetector) (symbol : String) (state : MarketState)
    (now : Moment) (binanceEventTs : Option ℤ) :
    ∃ opened, Detected d.ledger
      (d.detectBinanceMove symbol state now binanceEventTs).1.ledger
      (d.detectBinanceMove symbol state now binanceEventTs).2 opened := by
  refine GapDetector.detectBinanceMove_rule
    (P := fun acc => ∃ opened, Detected d.ledger acc.1.ledger acc.2 opened)
    d symbol state now binanceEventTs ⟨[], .refl _⟩ ⟨[], .refl _⟩ ⟨[], .refl _⟩ ?_
  rintro m - market - acc ⟨opened, hacc⟩
  obtain ⟨written, opened', heq, hstep⟩ := detectInMarket_detected m acc market
  rw [heq]
  exact ⟨opened ++ opened', hacc.trans hstep⟩

/-! ### Calls -/

/-- The candidates that are pending in a ledger and were not in an earlier one. -/
def openedSince (l l' : GapLedger) : Multiset GapIdentity :=
  ((l'.pending.entries.filter fun e => e.1 ∉ l.pending.keys).map fun e =>
    e.2.identity : List GapIdentity)

/-- What a part of a call does to the ledger: the books stay balanced, nothing is put
aside, and the candidates held and opened are those observed and held then. -/
structure Handled (l l' : GapLedger) (observations : List TradableGapObservation)
    (opened : Multiset GapIdentity) : Prop where
  accounted : l.Accounted → l'.Accounted
  waiting : l'.waiting = l.waiting
  flow : l.candidates + opened = closedIdentities observations + l'.candidates

theorem closedIdentities_append (a b : List TradableGapObservation) :
    closedIdentities (a ++ b) = closedIdentities a + closedIdentities b := by
  rw [closedIdentities, List.filter_append, identities_append]
  rfl

theorem closedIdentities_of_fillable {observations : List TradableGapObservation}
    (h : ∀ o ∈ observations, o.quoteWasFillable = true) :
    closedIdentities observations = identities observations := by
  rw [closedIdentities, List.filter_eq_self.mpr h]

theorem closedIdentities_of_unfillable {observations : List TradableGapObservation}
    (h : ∀ o ∈ observations, o.quoteWasFillable = false) :
    closedIdentities observations = 0 := by
  rw [closedIdentities, List.filter_eq_nil_iff.mpr fun o ho => by rw [h o ho]; decide]
  rfl

theorem Swept.accounted {l l' : GapLedger} {closed : List TradableGapObservation}
    (h : Swept l l' closed) (hl : l.Accounted) : l'.Accounted := by
  have hcard := congrArg Multiset.card h.flow
  rw [Multiset.card_add, GapLedger.card_candidates, GapLedger.card_candidates, identities,
    Multiset.coe_card, List.length_map] at hcard
  obtain ⟨hdetected, hnon, hcompleted, hkeyed⟩ := hl
  refine ⟨?_, ?_, ?_, h.keyed hkeyed⟩
  · rw [h.tally, hdetected]
  · rw [h.tally, hnon]
  · rw [h.tally, h.completed, List.length_append]
    omega

theorem Swept.handled {l l' : GapLedger} {closed : List TradableGapObservation}
    (h : Swept l l' closed) : Handled l l' closed (openedSince l l') where
  accounted := h.accounted
  waiting := h.waiting
  flow := by
    have hnone : openedSince l l' = 0 := by
      rw [openedSince, List.filter_eq_nil_iff.mpr fun e he => ?_]
      · rfl
      · simp [h.keys e.1 (List.mem_map_of_mem he)]
    rw [hnone, add_zero, h.flow, closedIdentities_of_fillable h.fillable, add_comm]

theorem Detected.handled {l l' : GapLedger} {written : List TradableGapObservation}
    {opened : List (GapKey × PendingTradableGap)} (h : Detected l l' written opened) :
    Handled l l' written (openedSince l l') where
  accounted := h.accounted
  waiting := h.waiting
  flow := by
    -- the new entries are those behind the old ones, as no key is stored twice
    have hnodup := l'.pending.nodup
    rw [h.pending, List.map_append, List.nodup_append] at hnodup
    have hold : (l.pending.entries.filter fun e => e.1 ∉ l.pending.keys) = [] := by
      refine List.filter_eq_nil_iff.mpr fun e he => ?_
      simp [Dict.keys, List.mem_map_of_mem he]
    have hnew : (opened.filter fun e => e.1 ∉ l.pending.keys) = opened := by
      refine List.filter_eq_self.mpr fun e he => ?_
      have hfresh : e.1 ∉ l.pending.keys := fun hk =>
        hnodup.2.2 e.1 hk e.1 (List.mem_map_of_mem he) rfl
      simp [hfresh]
    rw [openedSince, h.pending, List.filter_append, hold, hnew, List.nil_append,
      closedIdentities_of_unfillable h.unfillable, zero_add, GapLedger.candidates,
      GapLedger.candidates, h.pending, List.map_append, Multiset.coe_add]

/-- A walk after a part of a call. -/
theorem Handled.swept {l l' l'' : GapLedger} {a b : List TradableGapObservation}
    {opened : Multiset GapIdentity} (h : Handled l l' a opened) (h' : Swept l' l'' b) :
    Handled l l'' (a ++ b) opened where
  accounted hl := h'.accounted (h.accounted hl)
  waiting := h'.waiting.trans h.waiting
  flow := by
    rw [h.flow, h'.flow, closedIdentities_append, closedIdentities_of_fillable h'.fillable,
      add_comm l''.candidates, add_assoc]

theorem recordWarmupQuote_ledger (d : GapDetector) (quote : PolymarketQuote) (nowTs : ℤ) :
    (d.recordWarmupQuote quote nowTs).ledger = d.ledger := by
  rw [GapDetector.recordWarmupQuote]
  split
  · rfl
  · split <;> rfl

theorem handleLifecycle_swept (d : GapDetector) (event : MarketLifecycleEvent)
    (state : MarketState) (now : Moment) :
    Swept d.ledger (d.handleLifecycle event state now).1.ledger
      (d.handleLifecycle event state now).2 := by
  -- the walk starts after the tick size or the market was noted
  have hwalk : ∀ d' : GapDetector, d'.ledger = d.ledger →
      Swept d.ledger (d'.sweepPending (GapDetector.lifecycleFate event state now)).1.ledger
        (d'.sweepPending (GapDetector.lifecycleFate event state now)).2 := by
    intro d' hd'
    rw [← hd']
    exact sweepPending_swept (lifecycleFate_keepsIdentity event state now) d'
  rw [GapDetector.handleLifecycle]
  split
  · exact .refl _
  split
  · dsimp only
    split
    · exact .refl _
    · exact hwalk _ rfl
  · exact hwalk _ rfl

/-- **Handling an event** before the time limits are looked at. -/
theorem handleEvent_handled (d : GapDetector) (event : MarketEvent) (state : MarketState)
    (now : Moment) :
    Handled d.ledger (d.handleEvent event state now).1.ledger
      (d.handleEvent event state now).2
      (openedSince d.ledger (d.handleEvent event state now).1.ledger) := by
  have hdetect : ∀ symbol ts, Handled d.ledger
      (d.detectBinanceMove symbol state now ts).1.ledger
      (d.detectBinanceMove symbol state now ts).2
      (openedSince d.ledger (d.detectBinanceMove symbol state now ts).1.ledger) := by
    intro symbol ts
    obtain ⟨opened, h⟩ := detectBinanceMove_detected d symbol state now ts
    exact h.handled
  cases event with
  | marketTick e =>
      rw [GapDetector.handleEvent]
      split
      · exact hdetect _ _
      · exact (Swept.refl _).handled
  | orderBookTop e =>
      rw [GapDetector.handleEvent]
      split
      · exact hdetect _ _
      · exact (Swept.refl _).handled
  | depthUpdate e => exact (Swept.refl _).handled
  | polymarketQuote quote =>
      have h := sweepPending_swept (quoteFate_keepsIdentity quote state now)
        (d.recordWarmupQuote quote now.nowTs)
      rw [recordWarmupQuote_ledger] at h
      exact h.handled
  | marketLifecycle e => exact (handleLifecycle_swept d e state now).handled

/-! ### Runs -/

/-- The candidates a call opens: those that are pending once its event is handled, before
the time limits are looked at, and were not before. -/
def GapDetector.opened (d : GapDetector) : GapCall → Multiset GapIdentity
  | .onMarketEvent event state nowTs clock =>
      openedSince d.ledger (d.handleEvent event state (momentOf event nowTs clock)).1.ledger
  | _ => 0

/-- The candidates opened before whose observations a call returns. -/
def GapDetector.returned (d : GapDetector) (call : GapCall) : Multiset GapIdentity :=
  closedIdentities (gapMachine.out d call)

/-- The opened candidates that have not been returned: those that are pending, and those
whose observations wait to be drained. -/
def GapLedger.held (l : GapLedger) : Multiset GapIdentity :=
  l.candidates + identities l.waiting

/-- The books balance, and only observations of opened candidates wait. -/
structure GapLedger.Inv (l : GapLedger) : Prop where
  accounted : l.Accounted
  fillable : ∀ o ∈ l.waiting, o.quoteWasFillable = true

/-- What a call may do to the ledger. -/
structure Booked (l l' : GapLedger) (opened returned : Multiset GapIdentity) : Prop where
  inv : l'.Inv
  flow : l.held + opened = returned + l'.held

theorem Handled.booked {l l' : GapLedger} {observations : List TradableGapObservation}
    {opened : Multiset GapIdentity} (h : Handled l l' observations opened) (hl : l.Inv) :
    Booked l l' opened (closedIdentities observations) where
  inv := ⟨h.accounted hl.accounted, by rw [h.waiting]; exact hl.fillable⟩
  flow := by rw [GapLedger.held, GapLedger.held, add_right_comm, h.flow, h.waiting, add_assoc]

theorem onMarketEvent_booked {d : GapDetector} (hd : d.ledger.Inv) (event : MarketEvent)
    (state : MarketState) (nowTs : Option ℤ) (clock : ℤ) :
    Booked d.ledger (d.onMarketEvent event state nowTs clock).1.ledger
      (d.opened (.onMarketEvent event state nowTs clock))
      (closedIdentities (d.onMarketEvent event state nowTs clock).2) := by
  have hhandled := handleEvent_handled d event state (GapDetector.momentOf event nowTs clock)
  rw [GapDetector.onMarketEvent]
  split
  · exact hhandled.booked hd
  · exact (hhandled.swept (sweepPending_swept (expiryFate_keepsIdentity state _) _)).booked hd

/-- The gaps of markets that are gone are put aside. -/
theorem updateMarkets_booked {d : GapDetector} (hd : d.ledger.Inv)
    (markets : List PolymarketMarketMetadata) (now : Moment) :
    Booked d.ledger (d.updateMarkets markets now).ledger 0 0 := by
  have hactive : ∀ e ∈ (Dict.ofList (markets.map fun market =>
      (market.marketId, market))).entries, e.2.marketId = e.1 := by
    refine Dict.forall_entries_ofList
      (P := fun (k : String) (m : PolymarketMarketMetadata) => m.marketId = k) ?_
    intro e he
    obtain ⟨market, -, rfl⟩ := List.mem_map.mp he
    rfl
  have hswept := sweepPending_swept (refreshFate_keepsIdentity hactive now) d
  have hwaiting : (d.updateMarkets markets now).ledger.waiting =
      d.ledger.waiting ++ (d.sweepPending (GapDetector.refreshFate (Dict.ofList
        (markets.map fun market => (market.marketId, market))) now)).2 :=
    congrArg (· ++ _) hswept.waiting
  obtain ⟨hdetected, hnon, hcompleted, hkeyed⟩ := hswept.accounted hd.accounted
  refine ⟨⟨⟨hdetected, hnon, hcompleted, hkeyed⟩, fun o ho => ?_⟩, ?_⟩
  · rw [hwaiting] at ho
    exact (List.mem_append.mp ho).elim (hd.fillable o) (hswept.fillable o)
  · rw [GapLedger.held, GapLedger.held, hwaiting, identities_append, hswept.flow, add_zero,
      zero_add, add_assoc, add_comm (identities _)]
    rfl

theorem drain_booked {d : GapDetector} (hd : d.ledger.Inv) :
    Booked d.ledger d.drainMarketUpdateObservations.1.ledger 0
      (closedIdentities d.drainMarketUpdateObservations.2) := by
  obtain ⟨⟨hdetected, hnon, hcompleted, hkeyed⟩, hfillable⟩ := hd
  refine ⟨⟨⟨hdetected, hnon, hcompleted, hkeyed⟩, fun o ho => nomatch ho⟩, ?_⟩
  have hreturned : closedIdentities d.drainMarketUpdateObservations.2 =
    identities d.ledger.waiting := closedIdentities_of_fillable hfillable
  have hheld : d.drainMarketUpdateObservations.1.ledger.held = d.ledger.candidates :=
    add_zero _
  rw [hreturned, hheld, add_zero, GapLedger.held, add_comm]

/-- **One call** keeps the books balanced, and loses and doubles no candidate. -/
theorem gapMachine_booked {d : GapDetector} (hd : d.ledger.Inv) (call : GapCall) :
    Booked d.ledger (gapMachine.next d call).ledger (d.opened call) (d.returned call) := by
  cases call with
  | onMarketEvent event state nowTs clock => exact onMarketEvent_booked hd event state nowTs clock
  | updateMarkets markets now => exact updateMarkets_booked hd markets now
  | drainMarketUpdateObservations => exact drain_booked hd

/-- The account of a run of the detector: the counters balance, no gap is pending twice,
and the opened candidates are those whose observations were returned, those that wait to be
drained, and those that are pending. -/
structure CandidatesAccounted (start : GapDetector) (calls : List GapCall)
    (d : GapDetector) : Prop where
  detected : d.detectedGaps = d.fillableAtDetectionCount + d.nonFillableAtDetectionCount +
    d.candidateDuplicateSuppressedCount
  nonFillable : d.nonFillableAtDetectionCount =
    d.preEntryObservationsWritten + d.preEntryObservationsSuppressed
  completed : d.completed.length + d.pending.size =
    d.preEntryObservationsWritten + d.fillableAtDetectionCount
  pendingOnce : ∀ e ∈ d.pending.entries, ∀ e' ∈ d.pending.entries, e.2.key = e'.2.key → e = e'
  opened : gapMachine.total GapDetector.opened start calls =
    gapMachine.total GapDetector.returned start calls +
      (identities d.marketUpdateObservations + d.ledger.candidates)

/-- **No candidate is lost or counted twice**, in any run. -/
theorem GapDetector.candidates_accounted (c : GapDetectorSettings)
    (markets : List PolymarketMarketMetadata) (startedNs : ℤ) (calls : List GapCall) :
    CandidatesAccounted (.init c markets startedNs) calls
      (gapMachine.exec (.init c markets startedNs) calls) := by
  have hstart : (GapDetector.init c markets startedNs).ledger.Inv := by
    refine ⟨⟨rfl, rfl, rfl, fun e he => nomatch he⟩, fun o ho => nomatch ho⟩
  have hend := gapMachine.exec_invariant (I := fun d => d.ledger.Inv)
    (fun d call hd => (gapMachine_booked hd call).inv) hstart calls
  have hflow := gapMachine.conserved (I := fun d => d.ledger.Inv)
    (H := fun d => d.ledger.held) (F := GapDetector.opened) (G := GapDetector.returned)
    (fun d call hd => (gapMachine_booked hd call).inv)
    (fun d call hd => (gapMachine_booked hd call).flow) hstart calls
  obtain ⟨⟨hdetected, hnon, hcompleted, hkeyed⟩, -⟩ := hend
  refine ⟨hdetected, hnon, hcompleted, fun e he e' he' hkey => ?_, ?_⟩
  · have hsame : e.1 = e'.1 := (hkeyed e he).symm.trans (hkey.trans (hkeyed e' he'))
    exact List.inj_on_of_nodup_map (Dict.nodup _) he he' hsame
  · have hempty : (GapDetector.init c markets startedNs).ledger.held = 0 := rfl
    rw [hempty, zero_add] at hflow
    rw [hflow, GapLedger.held, add_comm (GapLedger.candidates _)]
    rfl

end SomethingTrade
