import SomethingTrade.ControlledCapture
import SomethingTrade.Dict
import SomethingTrade.Machine

/-!
# Auto Collections

A collection works through a plan of sessions, run after run. A run reads the manifest that an
earlier run saved, passes over the sessions it finds completed there, captures the others and
saves a manifest of its own at the end. That manifest lists the sessions the run has visited,
and nothing else: a run that is cut short drops what the earlier manifest said of the sessions
behind the cut, and a run that is killed saves nothing.

## Representation

* The manifest file is the state; a run is an input with everything that happens to it: what
  each capture returns, whether the stop file is there after a session, and before which session
  the run is killed.
* The status file, the report and the bundle of all sessions, which no run reads, are left out.

## Main results

* `CollectionLedger.run`: a run that keeps the record carries on the count of every session.
* `resumes_safely`: runs that keep the record neither repeat nor forget a completed session,
  and capture none too often.
-/

namespace SomethingTrade

/-- A session of a plan. -/
structure PlanItem where
  sessionId : String
  requestedDurationSec : ℚ
  cooldownAfterSec : ℤ
  deriving DecidableEq

/-- What a manifest says of a session. -/
structure SessionEntry where
  sessionId : String
  index : ℕ
  requestedDurationSec : ℚ
  cooldownAfterSec : ℤ
  status : Json
  researchEligible : Bool
  runtimeStatus : Json
  primaryFailure : Json
  actualDurationSec : ℚ
  retryCount : ℤ
  bundle : String
  resumeAction : Option String

/-- A session was captured as completed, for research, with a bundle. -/
def SessionEntry.completedResearchEligible (entry : SessionEntry) : Bool :=
  entry.status.isText "pass" && entry.researchEligible && entry.bundle ≠ ""

/-- The manifest of a collection. -/
structure AutoCollectionManifest where
  planName : String
  startedAtUtc : String
  endedAtUtc : String
  totalBudgetHours : ℚ
  totalRequestedCaptureSec : ℚ
  totalPlannedWallClockSec : ℚ
  totalActualCaptureSec : ℚ
  sessionCount : ℕ
  plannedSessionCount : ℕ
  passedSessionCount : ℕ
  failedSessionCount : ℕ
  researchEligibleSessionCount : ℕ
  sessions : List SessionEntry
  stoppedEarly : Bool
  stopReason : String

/-- What the runs of a collection share. -/
structure CollectionSettings where
  planName : String
  plan : List PlanItem
  maxSessionRetries : ℤ

/-- A run, with everything that happens to it. -/
structure CollectionRun where
  totalBudgetHours : ℚ
  resume : Bool
  failSessionOnQualityGate : Bool
  cooldownSec : Option ℤ
  /-- What the capture of the session at a place returns, if there is one. -/
  capture : ℕ → CaptureResult
  /-- Whether the stop file is there after the session at a place. -/
  stopFileSeen : ℕ → Bool
  /-- The place before which the run is killed. -/
  killedBefore : Option ℕ
  startedAtUtc : String
  endedAtUtc : String

/-- How the loop over the plan ends. -/
inductive LoopEnd
  | done
  | stopped (reason : String)
  | killed
  deriving DecidableEq

/-- The sessions a run has visited, those of them it captured, and how it ended. -/
structure Visits where
  sessions : List SessionEntry
  captured : List SessionEntry
  ending : LoopEnd

/-- Visit a session that is passed over. -/
def Visits.passOver (entry : SessionEntry) (rest : Visits) : Visits :=
  { rest with sessions := entry :: rest.sessions }

/-- Visit a session that is captured. -/
def Visits.capture (entry : SessionEntry) (rest : Visits) : Visits :=
  { rest with sessions := entry :: rest.sessions, captured := entry :: rest.captured }

/-- The sessions of a manifest by their names; a later one overwrites an earlier one. -/
def existingById (sessions : List SessionEntry) : Dict String SessionEntry :=
  .ofList (sessions.map fun entry => (entry.sessionId, entry))

/-- The entry of a session that is passed over: it is completed, or was tried often enough. -/
def passedOver (settings : CollectionSettings) (run : CollectionRun)
    (existing : Option SessionEntry) : Option SessionEntry :=
  match existing with
  | none => none
  | some entry =>
      if run.resume && entry.completedResearchEligible then
        some { entry with resumeAction := some "skipped_completed_research_eligible" }
      else if run.resume && entry.retryCount ≥ settings.maxSessionRetries then
        some { entry with resumeAction := some "retry_limit_reached" }
      else none

/-- How often a session was tried. -/
def retryCountOf (existing : Option SessionEntry) : ℤ :=
  match existing with
  | some entry => entry.retryCount
  | none => 0

/-- The entry of a session that is captured. -/
def capturedEntry (run : CollectionRun) (index : ℕ) (item : PlanItem)
    (existing : Option SessionEntry) : SessionEntry :=
  let result := run.capture index
  { sessionId := item.sessionId
    index := index
    requestedDurationSec := item.requestedDurationSec
    cooldownAfterSec := run.cooldownSec.getD item.cooldownAfterSec
    status := result.status
    researchEligible := result.researchEligible
    runtimeStatus := result.runtimeStatus
    primaryFailure := result.primaryFailure
    actualDurationSec := result.actualDurationSec
    retryCount := retryCountOf existing + 1
    bundle := result.bundle
    resumeAction := none }

/-- Why a run stops after the session at a place, if it does. -/
def stopReasonAfter (run : CollectionRun) (index : ℕ) (item : PlanItem) : Option String :=
  if run.failSessionOnQualityGate && !(run.capture index).researchEligible then
    some ("quality gate failed for " ++ item.sessionId ++
      "; fail-session-on-quality-gate stopped auto collection")
  else if run.stopFileSeen index then
    some ("stop-after-current-session file observed after " ++ item.sessionId)
  else none

/-- Visit the sessions of a plan from a place on. -/
def visitSessions (settings : CollectionSettings) (run : CollectionRun)
    (existing : Dict String SessionEntry) (index : ℕ) : List PlanItem → Visits
  | [] => ⟨[], [], if run.killedBefore = some index then .killed else .done⟩
  | item :: items =>
      if run.killedBefore = some index then ⟨[], [], .killed⟩
      else
        let old := existing.get? item.sessionId
        match passedOver settings run old with
        | some entry => (visitSessions settings run existing (index + 1) items).passOver entry
        | none =>
            let entry := capturedEntry run index item old
            match stopReasonAfter run index item with
            | some reason => ⟨[entry], [entry], .stopped reason⟩
            | none => (visitSessions settings run existing (index + 1) items).capture entry

/-- The manifest of some sessions. -/
def buildAutoCollectionManifest (settings : CollectionSettings) (run : CollectionRun)
    (startedAtUtc : String) (sessions : List SessionEntry) (stopReason : Option String) :
    AutoCollectionManifest where
  planName := settings.planName
  startedAtUtc := startedAtUtc
  endedAtUtc := run.endedAtUtc
  totalBudgetHours := run.totalBudgetHours
  totalRequestedCaptureSec := (settings.plan.map PlanItem.requestedDurationSec).sum
  totalPlannedWallClockSec := (settings.plan.map PlanItem.requestedDurationSec).sum +
    (settings.plan.map fun item => (item.cooldownAfterSec : ℚ)).sum
  totalActualCaptureSec := (sessions.map SessionEntry.actualDurationSec).sum
  sessionCount := sessions.length
  plannedSessionCount := settings.plan.length
  passedSessionCount := sessions.countP fun entry => entry.status.isText "pass"
  failedSessionCount := sessions.countP fun entry => !entry.status.isText "pass"
  researchEligibleSessionCount := sessions.countP SessionEntry.researchEligible
  sessions := sessions
  stoppedEarly := stopReason.isSome
  stopReason := stopReason.getD ""

/-- What a run does that lasts: its captures and the manifest it saves, if it saves one. -/
structure CollectionEvents where
  captured : List SessionEntry
  saved : Option AutoCollectionManifest

/-- The sessions of the manifest file; there are none without one. -/
def savedSessions (saved : Option AutoCollectionManifest) : Dict String SessionEntry :=
  match saved with
  | some manifest => existingById manifest.sessions
  | none => .empty

/-- The sessions that a run reads: none unless it resumes. -/
def existingSessions (saved : Option AutoCollectionManifest) (run : CollectionRun) :
    Dict String SessionEntry :=
  if run.resume then savedSessions saved else .empty

/-- When a collection was started: what the manifest says, if the run resumes. -/
def startedAt (saved : Option AutoCollectionManifest) (run : CollectionRun) : String :=
  if run.resume then
    orText (saved.map AutoCollectionManifest.startedAtUtc) run.startedAtUtc
  else run.startedAtUtc

/-- One run of a collection. -/
def runAutoCollection (settings : CollectionSettings) (saved : Option AutoCollectionManifest)
    (run : CollectionRun) : Option AutoCollectionManifest × CollectionEvents :=
  let visits := visitSessions settings run (existingSessions saved run) 1 settings.plan
  let conclude (stopReason : Option String) :
      Option AutoCollectionManifest × CollectionEvents :=
    let manifest := buildAutoCollectionManifest settings run (startedAt saved run)
      visits.sessions stopReason
    (some manifest, ⟨visits.captured, some manifest⟩)
  match visits.ending with
  | .killed => (saved, ⟨visits.captured, none⟩)
  | .stopped reason => conclude (some reason)
  | .done => conclude none

/-- A collection as a machine: the manifest file is the state. -/
def collectionMachine (settings : CollectionSettings) :
    Machine (Option AutoCollectionManifest) CollectionRun CollectionEvents where
  step := runAutoCollection settings

/-! ### Safe resumption -/

/-- The manifest that a run saves, if it saves one, lists a session as completed. -/
def CollectionEvents.listsCompleted (events : CollectionEvents) (sessionId : String) : Bool :=
  events.saved.all fun manifest => manifest.sessions.any fun entry =>
    entry.sessionId = sessionId && entry.completedResearchEligible

/-- A later run respects what an earlier one completed: it captures none of it again, and the
manifest it saves still lists it. -/
def CollectionEvents.Respects (earlier later : CollectionEvents) : Prop :=
  ∀ entry ∈ earlier.captured, entry.completedResearchEligible = true →
    (∀ again ∈ later.captured, again.sessionId ≠ entry.sessionId) ∧
      later.listsCompleted entry.sessionId = true

instance : DecidableRel CollectionEvents.Respects := fun earlier _ =>
  inferInstanceAs (Decidable (∀ entry ∈ earlier.captured, _ → _ ∧ _))

/-- How often some runs captured a session. -/
def captureCount (history : List CollectionEvents) (sessionId : String) : ℕ :=
  ((history.flatMap CollectionEvents.captured).map SessionEntry.sessionId).count sessionId

/-- Some runs neither repeated nor forgot a completed session, and captured none too often. -/
structure ResumesSafely (maxSessionRetries : ℤ) (history : List CollectionEvents) : Prop where
  /-- No run captures a session twice. -/
  once : ∀ events ∈ history, (events.captured.map SessionEntry.sessionId).Nodup
  /-- The manifest of a run lists what the run completed. -/
  lists : ∀ events ∈ history, ∀ entry ∈ events.captured,
    entry.completedResearchEligible = true → events.listsCompleted entry.sessionId = true
  /-- Later runs respect what earlier ones completed. -/
  respects : history.Pairwise CollectionEvents.Respects
  /-- No session is captured too often. -/
  bounded : ∀ sessionId, (captureCount history sessionId : ℤ) ≤ max 1 maxSessionRetries

/-- A run keeps the record from a place on: it is not killed once it has captured something, and
no session behind the one it stops at is in the manifest it has read. -/
def KeepsRecordFrom (settings : CollectionSettings) (run : CollectionRun)
    (existing : Dict String SessionEntry) (index : ℕ) (captured : Bool) : List PlanItem → Prop
  | [] => run.killedBefore = some index → captured = false
  | item :: items =>
      if run.killedBefore = some index then captured = false
      else if (passedOver settings run (existing.get? item.sessionId)).isSome then
        KeepsRecordFrom settings run existing (index + 1) captured items
      else if (stopReasonAfter run index item).isSome then
        ∀ later ∈ items, existing.get? later.sessionId = none
      else KeepsRecordFrom settings run existing (index + 1) true items

/-- A run keeps the record of the manifest that it reads. -/
def KeepsRecord (settings : CollectionSettings) (saved : Option AutoCollectionManifest)
    (run : CollectionRun) : Prop :=
  KeepsRecordFrom settings run (existingSessions saved run) 1 false settings.plan

/-- A run that ends normally keeps the record. -/
theorem keepsRecord_of_normal (settings : CollectionSettings)
    (saved : Option AutoCollectionManifest) {run : CollectionRun}
    (hlives : run.killedBefore = none)
    (hgoes : ∀ index item, stopReasonAfter run index item = none) :
    KeepsRecord settings saved run := by
  suffices key : ∀ items index captured,
      KeepsRecordFrom settings run (existingSessions saved run) index captured items from
    key _ _ _
  intro items
  induction items with
  | nil => exact fun index captured hkilled => by rw [hlives] at hkilled; cases hkilled
  | cons item items ih =>
      intro index captured
      rw [KeepsRecordFrom, hlives, if_neg nofun, hgoes]
      split
      · exact ih _ _
      · exact ih _ _

/-! ### One run -/

/-- What the visits of a run record, against the manifest it has read. -/
structure VisitsRecord (settings : CollectionSettings) (existing : Dict String SessionEntry)
    (items : List PlanItem) (visits : Visits) : Prop where
  /-- The sessions visited are the first ones of the plan. -/
  planned : visits.sessions.map SessionEntry.sessionId <+: items.map PlanItem.sessionId
  captured : visits.captured.Sublist visits.sessions
  /-- A session that is captured was not completed, and not tried too often. -/
  fresh : ∀ entry ∈ visits.captured,
    entry.retryCount = retryCountOf (existing.get? entry.sessionId) + 1 ∧
      ∀ old, existing.get? entry.sessionId = some old →
        old.completedResearchEligible = false ∧ old.retryCount < settings.maxSessionRetries
  /-- A session that is not captured is recorded as before. -/
  carried : ∀ entry ∈ visits.sessions, entry ∈ visits.captured ∨
    ∃ old, existing.get? entry.sessionId = some old ∧ entry.retryCount = old.retryCount ∧
      entry.completedResearchEligible = old.completedResearchEligible

section

variable {settings : CollectionSettings} {run : CollectionRun}
  {existing : Dict String SessionEntry}

/-- A session that is passed over keeps its record. -/
theorem passedOver_some {old : Option SessionEntry} {entry : SessionEntry}
    (h : passedOver settings run old = some entry) :
    ∃ before, old = some before ∧ entry.sessionId = before.sessionId ∧
      entry.retryCount = before.retryCount ∧
      entry.completedResearchEligible = before.completedResearchEligible := by
  cases old with
  | none => cases h
  | some before =>
      rw [passedOver] at h
      split at h
      · obtain rfl := Option.some.inj h
        exact ⟨before, rfl, rfl, rfl, rfl⟩
      · split at h
        · obtain rfl := Option.some.inj h
          exact ⟨before, rfl, rfl, rfl, rfl⟩
        · cases h

/-- A session that a resumed run does not pass over is not completed, and not tried too
often. -/
theorem passedOver_none {before : SessionEntry} (hresume : run.resume = true)
    (h : passedOver settings run (some before) = none) :
    before.completedResearchEligible = false ∧
      before.retryCount < settings.maxSessionRetries := by
  rw [passedOver, hresume, Bool.true_and, Bool.true_and] at h
  split at h
  · cases h
  · split at h
    · cases h
    · rename_i hcompleted hlimit
      refine ⟨Bool.eq_false_iff.mpr hcompleted, ?_⟩
      simpa using hlimit

/-- What the visits of a run record. -/
theorem visitSessions_record (hresume : run.resume = true ∨ existing = .empty)
    (hkeyed : ∀ id entry, existing.get? id = some entry → entry.sessionId = id) (index : ℕ)
    (items : List PlanItem) :
    VisitsRecord settings existing items (visitSessions settings run existing index items) := by
  have fresh (item : PlanItem)
      (hnone : passedOver settings run (existing.get? item.sessionId) = none) :
      ∀ old, existing.get? item.sessionId = some old →
        old.completedResearchEligible = false ∧ old.retryCount < settings.maxSessionRetries := by
    intro old hold
    rcases hresume with hresume | rfl
    · rw [hold] at hnone
      exact passedOver_none hresume hnone
    · cases hold
  induction items generalizing index with
  | nil => exact ⟨List.nil_prefix, .slnil, by simp [visitSessions], by simp [visitSessions]⟩
  | cons item items ih =>
      rw [visitSessions]
      split
      · exact ⟨List.nil_prefix, .slnil, nofun, nofun⟩
      · dsimp only
        split
        · rename_i entry hpassed
          obtain ⟨old, hold, hid, hretry, hcompleted⟩ := passedOver_some hpassed
          have hname : entry.sessionId = item.sessionId := hid.trans (hkeyed _ _ hold)
          obtain ⟨planned, captured, hfresh, carried⟩ := ih (index + 1)
          refine ⟨?_, captured.cons _, hfresh, ?_⟩
          · exact List.cons_prefix_cons.mpr ⟨hname, planned⟩
          · intro e he
            rcases List.mem_cons.mp he with rfl | he
            · exact .inr ⟨old, hname ▸ hold, hretry, hcompleted⟩
            · exact carried e he
        · rename_i hnone
          split
          · refine ⟨List.cons_prefix_cons.mpr ⟨rfl, List.nil_prefix⟩, .refl _, ?_, ?_⟩
            · intro e he
              obtain rfl := List.mem_singleton.mp he
              exact ⟨rfl, fresh item hnone⟩
            · exact fun e he => .inl he
          · obtain ⟨planned, captured, hfresh, carried⟩ := ih (index + 1)
            refine ⟨List.cons_prefix_cons.mpr ⟨rfl, planned⟩, captured.cons_cons _, ?_, ?_⟩
            · intro e he
              rcases List.mem_cons.mp he with rfl | he
              · exact ⟨rfl, fresh item hnone⟩
              · exact hfresh e he
            · intro e he
              rcases List.mem_cons.mp he with rfl | he
              · exact .inl List.mem_cons_self
              · exact (carried e he).imp_left (List.mem_cons_of_mem _)

/-- A run that keeps the record captured nothing when it is killed, and otherwise leaves out no
session that the manifest lists. -/
theorem visitSessions_keeps
    (hkeyed : ∀ id entry, existing.get? id = some entry → entry.sessionId = id) {index : ℕ}
    {captured : Bool} {items : List PlanItem}
    (h : KeepsRecordFrom settings run existing index captured items) :
    ((visitSessions settings run existing index items).ending = .killed →
      captured = false ∧ (visitSessions settings run existing index items).captured = []) ∧
    ((visitSessions settings run existing index items).ending ≠ .killed → ∀ item ∈ items,
      item.sessionId ∈
          (visitSessions settings run existing index items).sessions.map SessionEntry.sessionId ∨
        existing.get? item.sessionId = none) := by
  induction items generalizing index captured with
  | nil =>
      rw [visitSessions]
      refine ⟨fun hkilled => ⟨h ?_, rfl⟩, fun _ => nofun⟩
      by_contra hother
      rw [if_neg hother] at hkilled
      cases hkilled
  | cons item items ih =>
      rw [KeepsRecordFrom] at h
      rw [visitSessions]
      split
      · rename_i hkilled
        rw [if_pos hkilled] at h
        exact ⟨fun _ => ⟨h, rfl⟩, fun hne => absurd rfl hne⟩
      · rename_i hgoes
        rw [if_neg hgoes] at h
        dsimp only
        split
        · rename_i entry hpassed
          rw [hpassed, Option.isSome_some, if_pos rfl] at h
          obtain ⟨hkilled, hothers⟩ := ih h
          obtain ⟨old, hold, hid, -⟩ := passedOver_some hpassed
          refine ⟨hkilled, fun hne other hother => ?_⟩
          rcases List.mem_cons.mp hother with rfl | hother
          · have hname : entry.sessionId = other.sessionId := hid.trans (hkeyed _ _ hold)
            exact .inl (hname ▸ List.mem_cons_self)
          · exact (hothers hne other hother).imp_left (List.mem_cons_of_mem _)
        · rename_i hnone
          rw [hnone, Option.isSome_none, if_neg Bool.false_ne_true] at h
          split
          · rename_i reason hstop
            rw [hstop, Option.isSome_some, if_pos rfl] at h
            refine ⟨nofun, fun _ other hother => ?_⟩
            rcases List.mem_cons.mp hother with rfl | hother
            · exact .inl List.mem_cons_self
            · exact .inr (h other hother)
          · rename_i hstop
            rw [hstop, Option.isSome_none, if_neg Bool.false_ne_true] at h
            obtain ⟨hkilled, hothers⟩ := ih h
            refine ⟨fun hdead => absurd (hkilled hdead).1 (by decide), fun hne other hother => ?_⟩
            rcases List.mem_cons.mp hother with rfl | hother
            · exact .inl List.mem_cons_self
            · exact (hothers hne other hother).imp_left (List.mem_cons_of_mem _)

end

/-! ### The manifest read back -/

/-- The entries of a manifest have the names they are stored under. -/
theorem sessionId_existingById {sessions : List SessionEntry} {id : String}
    {entry : SessionEntry} (h : (existingById sessions).get? id = some entry) :
    entry ∈ sessions ∧ entry.sessionId = id := by
  obtain ⟨e, he, heq⟩ := List.mem_map.mp (Dict.mem_of_get?_ofList h)
  obtain ⟨rfl, rfl⟩ := Prod.mk.inj heq
  exact ⟨he, rfl⟩

/-- Among entries with distinct names, each is found under its own. -/
theorem get?_existingById {sessions : List SessionEntry}
    (hids : (sessions.map SessionEntry.sessionId).Nodup) {entry : SessionEntry}
    (h : entry ∈ sessions) : (existingById sessions).get? entry.sessionId = some entry := by
  obtain ⟨found, hfound⟩ := Dict.exists_get?_ofList
    (List.mem_map_of_mem (f := fun e : SessionEntry => (e.sessionId, e)) h)
  obtain ⟨hmem, hname⟩ := sessionId_existingById hfound
  have hsame : found = entry := List.inj_on_of_nodup_map hids hmem h hname
  exact hsame ▸ hfound

/-- A name that no entry has is not found. -/
theorem get?_existingById_none {sessions : List SessionEntry} {id : String}
    (h : id ∉ sessions.map SessionEntry.sessionId) : (existingById sessions).get? id = none := by
  rw [Option.eq_none_iff_forall_ne_some]
  rintro entry hfound
  obtain ⟨hmem, hname⟩ := sessionId_existingById hfound
  exact h (hname ▸ List.mem_map_of_mem hmem)

/-- A run that resumes, or that finds no manifest, reads what is saved. -/
theorem existingSessions_eq {saved : Option AutoCollectionManifest} {run : CollectionRun}
    (h : run.resume = true ∨ saved = none) : existingSessions saved run = savedSessions saved := by
  rcases h with h | rfl
  · exact if_pos h
  · rw [existingSessions]
    split <;> rfl

theorem sessionId_savedSessions {saved : Option AutoCollectionManifest} {id : String}
    {entry : SessionEntry} (h : (savedSessions saved).get? id = some entry) :
    entry.sessionId = id := by
  cases saved with
  | none => cases h
  | some manifest => exact (sessionId_existingById h).2

/-- **What a run does** when it keeps the record: it is killed before it captures anything, or
it saves the sessions it has visited, and leaves out none that it had read. -/
inductive Ran (settings : CollectionSettings) (saved : Option AutoCollectionManifest)
    (r : Option AutoCollectionManifest × CollectionEvents) : Prop
  | killed (result : r = (saved, ⟨[], none⟩))
  | concluded (manifest : AutoCollectionManifest) (visits : Visits)
      (result : r = (some manifest, ⟨visits.captured, some manifest⟩))
      (sessions : manifest.sessions = visits.sessions)
      (record : VisitsRecord settings (savedSessions saved) settings.plan visits)
      (kept : ∀ item ∈ settings.plan,
        item.sessionId ∈ visits.sessions.map SessionEntry.sessionId ∨
          (savedSessions saved).get? item.sessionId = none)

theorem run_ran {settings : CollectionSettings} {saved : Option AutoCollectionManifest}
    {run : CollectionRun} (hresume : run.resume = true ∨ saved = none)
    (hkeeps : KeepsRecord settings saved run) :
    Ran settings saved (runAutoCollection settings saved run) := by
  rw [KeepsRecord, existingSessions_eq hresume] at hkeeps
  rw [runAutoCollection, existingSessions_eq hresume]
  have hkeyed (id : String) (entry : SessionEntry)
      (h : (savedSessions saved).get? id = some entry) : entry.sessionId = id :=
    sessionId_savedSessions h
  have hrecord : VisitsRecord settings (savedSessions saved) settings.plan
      (visitSessions settings run (savedSessions saved) 1 settings.plan) :=
    visitSessions_record (hresume.imp_right fun h => h ▸ rfl) hkeyed 1 settings.plan
  obtain ⟨hkilled, hkept⟩ := visitSessions_keeps hkeyed hkeeps
  generalize visitSessions settings run (savedSessions saved) 1 settings.plan = visits
    at hrecord hkilled hkept ⊢
  obtain ⟨sessions, captured, ending⟩ := visits
  cases ending with
  | killed =>
      obtain ⟨-, rfl⟩ := hkilled rfl
      exact .killed rfl
  | done => exact .concluded _ _ rfl rfl hrecord (hkept nofun)
  | stopped reason => exact .concluded _ _ rfl rfl hrecord (hkept nofun)

/-! ### The ledger -/

/-- What the manifest file knows of a history: how often each session was captured, and which
ones were completed. -/
structure CollectionLedger (settings : CollectionSettings) (history : List CollectionEvents)
    (saved : Option AutoCollectionManifest) : Prop where
  tally : ∀ id, (captureCount history id : ℤ) = retryCountOf ((savedSessions saved).get? id)
  finished : ∀ events ∈ history, ∀ entry ∈ events.captured,
    entry.completedResearchEligible = true → ∃ old,
      (savedSessions saved).get? entry.sessionId = some old ∧
        old.completedResearchEligible = true
  planned : ∀ id entry, (savedSessions saved).get? id = some entry →
    id ∈ settings.plan.map PlanItem.sessionId
  safe : ResumesSafely settings.maxSessionRetries history

theorem captureCount_append (history : List CollectionEvents) (events : CollectionEvents)
    (id : String) :
    captureCount (history ++ [events]) id =
      captureCount history id + (events.captured.map SessionEntry.sessionId).count id := by
  simp [captureCount]

/-- A manifest lists the completed sessions that are found in it. -/
theorem listsCompleted_of_get? {captured : List SessionEntry} {manifest : AutoCollectionManifest}
    {id : String} {entry : SessionEntry}
    (h : (existingById manifest.sessions).get? id = some entry)
    (hcompleted : entry.completedResearchEligible = true) :
    CollectionEvents.listsCompleted ⟨captured, some manifest⟩ id = true := by
  obtain ⟨hmem, hname⟩ := sessionId_existingById h
  simp only [CollectionEvents.listsCompleted, Option.all_some, List.any_eq_true]
  exact ⟨entry, hmem, by simp [hname, hcompleted]⟩

section

variable {settings : CollectionSettings} {history : List CollectionEvents}
  {saved : Option AutoCollectionManifest}

/-- A history without runs. -/
theorem CollectionLedger.init : CollectionLedger settings [] none where
  tally _ := rfl
  finished := nofun
  planned := nofun
  safe := ⟨nofun, nofun, .nil, fun _ => le_max_of_le_left zero_le_one⟩

/-- A run that is killed before it captures anything changes nothing. -/
theorem CollectionLedger.killed (h : CollectionLedger settings history saved) :
    CollectionLedger settings (history ++ [⟨[], none⟩]) saved := by
  have hcount (id : String) : captureCount (history ++ [⟨[], none⟩]) id =
      captureCount history id := captureCount_append history _ id
  have hold {P : CollectionEvents → Prop} (hP : ∀ events ∈ history, P events)
      (hnew : P ⟨[], none⟩) : ∀ events ∈ history ++ [⟨[], none⟩], P events := by
    rintro events hevents
    rcases List.mem_append.mp hevents with hevents | hevents
    · exact hP events hevents
    · obtain rfl := List.mem_singleton.mp hevents
      exact hnew
  refine ⟨fun id => hcount id ▸ h.tally id, hold h.finished nofun, h.planned, ?_⟩
  refine ⟨hold h.safe.once .nil, hold h.safe.lists nofun, ?_, fun id => hcount id ▸ h.safe.bounded id⟩
  refine List.pairwise_append.mpr ⟨h.safe.respects, List.pairwise_singleton _ _, ?_⟩
  rintro earlier - later hlater
  obtain rfl := List.mem_singleton.mp hlater
  exact fun entry _ _ => ⟨nofun, rfl⟩

/-- What becomes of a session in a run that concludes: it is captured, or recorded as before, or
unknown before and after. -/
inductive SessionFate (settings : CollectionSettings) (before after : Option SessionEntry)
    (captured : List SessionEntry) (id : String) : Prop
  | captured (entry : SessionEntry) (mem : entry ∈ captured) (name : entry.sessionId = id)
      (found : after = some entry) (retryCount : entry.retryCount = retryCountOf before + 1)
      (fresh : ∀ old, before = some old → old.completedResearchEligible = false ∧
        old.retryCount < settings.maxSessionRetries)
  | carried (absent : id ∉ captured.map SessionEntry.sessionId) (old new : SessionEntry)
      (known : before = some old) (found : after = some new)
      (retryCount : new.retryCount = old.retryCount)
      (completed : new.completedResearchEligible = old.completedResearchEligible)
  | unknown (absent : id ∉ captured.map SessionEntry.sessionId) (unseen : before = none)
      (found : after = none)

section

variable {before after : Option SessionEntry} {captured : List SessionEntry} {id : String}

/-- A completed session stays so, and is not captured. -/
theorem SessionFate.stays (fate : SessionFate settings before after captured id)
    {old : SessionEntry} (hold : before = some old)
    (hcompleted : old.completedResearchEligible = true) :
    id ∉ captured.map SessionEntry.sessionId ∧
      ∃ new, after = some new ∧ new.completedResearchEligible = true := by
  cases fate with
  | captured entry mem name found retryCount fresh =>
      rw [(fresh old hold).1] at hcompleted
      cases hcompleted
  | carried absent other new known found retryCount completed =>
      obtain rfl := Option.some.inj (hold.symm.trans known)
      exact ⟨absent, new, found, completed.trans hcompleted⟩
  | unknown absent unseen found =>
      rw [hold] at unseen
      cases unseen

/-- The count of a session grows by its captures. -/
theorem SessionFate.tally (fate : SessionFate settings before after captured id)
    (hdistinct : (captured.map SessionEntry.sessionId).Nodup) :
    retryCountOf before + ((captured.map SessionEntry.sessionId).count id : ℤ) =
      retryCountOf after := by
  cases fate with
  | captured entry mem name found retryCount fresh =>
      rw [found, List.count_eq_one_of_mem hdistinct (name ▸ List.mem_map_of_mem mem)]
      exact retryCount.symm
  | carried absent old new known found retryCount completed =>
      rw [known, found, List.count_eq_zero_of_not_mem absent]
      simpa [retryCountOf] using retryCount.symm
  | unknown absent unseen found =>
      rw [unseen, found, List.count_eq_zero_of_not_mem absent]
      rfl

/-- A session is captured for the first time, or was tried less often than it may be. -/
theorem SessionFate.bounded (fate : SessionFate settings before after captured id)
    (hbefore : retryCountOf before ≤ max 1 settings.maxSessionRetries) :
    retryCountOf after ≤ max 1 settings.maxSessionRetries := by
  cases fate with
  | captured entry mem name found retryCount fresh =>
      rw [found, retryCountOf, retryCount]
      cases before with
      | none => exact le_max_left _ _
      | some old =>
          have hlimit := (fresh old rfl).2
          exact le_max_of_le_right hlimit
  | carried absent old new known found retryCount completed =>
      rw [known, retryCountOf] at hbefore
      rw [found, retryCountOf, retryCount]
      exact hbefore
  | unknown absent unseen found =>
      rw [found]
      exact le_max_of_le_left zero_le_one

end

theorem VisitsRecord.fate {visits : Visits} {existing : Dict String SessionEntry}
    (hplan : (settings.plan.map PlanItem.sessionId).Nodup)
    (record : VisitsRecord settings existing settings.plan visits)
    (kept : ∀ item ∈ settings.plan,
      item.sessionId ∈ visits.sessions.map SessionEntry.sessionId ∨
        existing.get? item.sessionId = none)
    (hplanned : ∀ id entry, existing.get? id = some entry →
      id ∈ settings.plan.map PlanItem.sessionId) (id : String) :
    SessionFate settings (existing.get? id) ((existingById visits.sessions).get? id) visits.captured
      id := by
  have hids : (visits.sessions.map SessionEntry.sessionId).Nodup :=
    hplan.sublist record.planned.sublist
  by_cases hcaptured : id ∈ visits.captured.map SessionEntry.sessionId
  · obtain ⟨entry, hmem, rfl⟩ := List.mem_map.mp hcaptured
    obtain ⟨hretry, hfresh⟩ := record.fresh entry hmem
    exact .captured entry hmem rfl
      (get?_existingById hids (record.captured.subset hmem)) hretry hfresh
  · by_cases hvisited : id ∈ visits.sessions.map SessionEntry.sessionId
    · obtain ⟨entry, hmem, rfl⟩ := List.mem_map.mp hvisited
      rcases record.carried entry hmem with hin | ⟨old, hold, hretry, hcompleted⟩
      · exact absurd (List.mem_map_of_mem hin) hcaptured
      · exact .carried hcaptured old entry hold (get?_existingById hids hmem) hretry hcompleted
    · refine .unknown hcaptured ?_ (get?_existingById_none hvisited)
      rw [Option.eq_none_iff_forall_ne_some]
      intro entry hfound
      obtain ⟨item, hitem, rfl⟩ := List.mem_map.mp (hplanned id entry hfound)
      rcases kept item hitem with hin | hnone
      · exact hvisited hin
      · rw [hnone] at hfound
        cases hfound

/-- **A run that concludes carries on the ledger.** -/
theorem CollectionLedger.concluded (hplan : (settings.plan.map PlanItem.sessionId).Nodup)
    (h : CollectionLedger settings history saved) {manifest : AutoCollectionManifest} {visits : Visits}
    (sessions : manifest.sessions = visits.sessions)
    (record : VisitsRecord settings (savedSessions saved) settings.plan visits)
    (kept : ∀ item ∈ settings.plan,
      item.sessionId ∈ visits.sessions.map SessionEntry.sessionId ∨
        (savedSessions saved).get? item.sessionId = none) :
    CollectionLedger settings (history ++ [⟨visits.captured, some manifest⟩]) (some manifest) := by
  have fate (id : String) : SessionFate settings ((savedSessions saved).get? id)
      ((savedSessions (some manifest)).get? id) visits.captured id := by
    rw [savedSessions, sessions]
    exact record.fate hplan kept h.planned id
  have hids : (visits.sessions.map SessionEntry.sessionId).Nodup :=
    hplan.sublist record.planned.sublist
  have hdistinct : (visits.captured.map SessionEntry.sessionId).Nodup :=
    hids.sublist (record.captured.map _)
  have hold {P : CollectionEvents → Prop} (hP : ∀ events ∈ history, P events)
      (hnew : P ⟨visits.captured, some manifest⟩) :
      ∀ events ∈ history ++ [⟨visits.captured, some manifest⟩], P events := by
    rintro events hevents
    rcases List.mem_append.mp hevents with hevents | hevents
    · exact hP events hevents
    · obtain rfl := List.mem_singleton.mp hevents
      exact hnew
  -- what the run itself captured is in its manifest
  have hown : ∀ entry ∈ visits.captured,
      (existingById manifest.sessions).get? entry.sessionId = some entry := fun entry hmem => by
    rw [sessions]
    exact get?_existingById hids (record.captured.subset hmem)
  have htally (id : String) :
      (captureCount (history ++ [⟨visits.captured, some manifest⟩]) id : ℤ) =
        retryCountOf ((savedSessions (some manifest)).get? id) := by
    rw [captureCount_append, Nat.cast_add, h.tally id]
    exact (fate id).tally hdistinct
  refine ⟨htally, hold ?_ ?_, ?_, hold h.safe.once hdistinct, hold h.safe.lists ?_, ?_, ?_⟩
  · intro events hevents entry hentry hcompleted
    obtain ⟨old, hfound, holdCompleted⟩ := h.finished events hevents entry hentry hcompleted
    exact ((fate _).stays hfound holdCompleted).2
  · exact fun entry hentry hcompleted => ⟨entry, hown entry hentry, hcompleted⟩
  · intro id entry hfound
    obtain ⟨hmem, rfl⟩ := sessionId_existingById hfound
    rw [sessions] at hmem
    exact record.planned.subset (List.mem_map_of_mem hmem)
  · exact fun entry hentry hcompleted => listsCompleted_of_get? (hown entry hentry) hcompleted
  · refine List.pairwise_append.mpr ⟨h.safe.respects, List.pairwise_singleton _ _, ?_⟩
    intro earlier hearlier later hlater entry hentry hcompleted
    obtain rfl := List.mem_singleton.mp hlater
    obtain ⟨old, hfound, holdCompleted⟩ := h.finished earlier hearlier entry hentry hcompleted
    obtain ⟨habsent, new, hnew, hnewCompleted⟩ := (fate _).stays hfound holdCompleted
    refine ⟨fun again hagain hname => habsent ?_, listsCompleted_of_get? hnew hnewCompleted⟩
    exact hname ▸ List.mem_map_of_mem hagain
  · intro id
    rw [htally]
    refine (fate id).bounded ?_
    rw [← h.tally id]
    exact h.safe.bounded id

/-- **A run that keeps the record carries on the ledger.** -/
theorem CollectionLedger.run (hplan : (settings.plan.map PlanItem.sessionId).Nodup)
    (h : CollectionLedger settings history saved) {run : CollectionRun}
    (hresume : run.resume = true ∨ saved = none) (hkeeps : KeepsRecord settings saved run) :
    CollectionLedger settings (history ++ [(runAutoCollection settings saved run).2])
      (runAutoCollection settings saved run).1 := by
  cases run_ran hresume hkeeps with
  | killed result =>
      rw [result]
      exact h.killed
  | concluded manifest visits result sessions record kept =>
      rw [result]
      exact h.concluded hplan sessions record kept

/-- Runs that resume and keep the record carry on the ledger. -/
theorem CollectionLedger.runs (hplan : (settings.plan.map PlanItem.sessionId).Nodup)
    (h : CollectionLedger settings history saved) {runs : List CollectionRun}
    (hresume : ∀ run ∈ runs, run.resume = true)
    (hkeeps : (collectionMachine settings).StepsMeet (KeepsRecord settings) saved runs) :
    CollectionLedger settings (history ++ ((collectionMachine settings).trace saved runs).map Prod.snd)
      ((collectionMachine settings).exec saved runs) := by
  have hsteps : (collectionMachine settings).StepsMeet
      (fun s run => run.resume = true ∧ KeepsRecord settings s run) saved runs :=
    ((collectionMachine settings).stepsMeet_and saved runs).mpr
      ⟨(collectionMachine settings).stepsMeet_of_forall saved hresume, hkeeps⟩
  have hall := (collectionMachine settings).trace_invariant_while (t := [])
    (I := fun t s => CollectionLedger settings (history ++ t.map Prod.snd) s) ?_
    (by simpa using h) hsteps
  · simpa using hall
  · rintro t s run hledger ⟨hresumes, hkeep⟩
    have hnext : CollectionLedger settings _ ((collectionMachine settings).next s run) :=
      hledger.run hplan (.inl hresumes) hkeep
    rw [List.map_append, ← List.append_assoc]
    exact hnext

end

/-- **A collection resumes safely** when every run of it keeps the record: no completed session
is captured again or dropped from a manifest, and none is captured too often. -/
theorem resumes_safely (settings : CollectionSettings)
    (hplan : (settings.plan.map PlanItem.sessionId).Nodup) (runs : List CollectionRun)
    (hresume : ∀ run ∈ runs.tail, run.resume = true)
    (hkeeps : (collectionMachine settings).StepsMeet (KeepsRecord settings) none runs) :
    ResumesSafely settings.maxSessionRetries
      (((collectionMachine settings).trace none runs).map Prod.snd) := by
  have hinit : CollectionLedger settings [] none := .init
  cases runs with
  | nil => exact hinit.safe
  | cons run runs =>
      obtain ⟨hfirst, hrest⟩ := hkeeps
      exact ((hinit.run hplan (.inr rfl) hfirst).runs hplan hresume hrest).safe

/-! ### Runs -/

/-- A capture that passes, or one that fails. -/
def captureResultOf (passes : Bool) : CaptureResult where
  sessionId := ""
  status := .str (if passes then "pass" else "fail")
  researchEligible := passes
  exitCode := if passes then 0 else 1
  bundle := "bundle.zip"
  quality := evaluateSessionQuality (.obj []) passes
  runtimeStatus := .str (if passes then "pass" else "fail")
  primaryFailure := .null
  actualDurationSec := 1800

/-- A plan of two sessions, each of which may be captured twice. -/
def twoSessions : CollectionSettings where
  planName := "phase52"
  plan := [⟨"session_001", 1800, 0⟩, ⟨"session_002", 1800, 0⟩]
  maxSessionRetries := 2

/-- A run whose captures pass or fail by place, and that stops after some place. -/
def runOf (passes stops : ℕ → Bool) : CollectionRun where
  totalBudgetHours := 24
  resume := true
  failSessionOnQualityGate := false
  cooldownSec := some 0
  capture index := captureResultOf (passes index)
  stopFileSeen := stops
  killedBefore := none
  startedAtUtc := "2026-05-01T00:00:00Z"
  endedAtUtc := "2026-05-01T01:00:00Z"

/-- The first session fails at first and is captured again; the second one is passed over. -/
theorem resumes_safely_retry :
    ResumesSafely 2 (((collectionMachine twoSessions).trace none
      [runOf (fun index => index = 2) fun _ => false, runOf (fun _ => true) fun _ => false]).map
        Prod.snd) :=
  resumes_safely twoSessions (by decide) _ (by simp [runOf])
    ⟨keepsRecord_of_normal _ _ rfl fun _ _ => rfl, keepsRecord_of_normal _ _ rfl fun _ _ => rfl,
      trivial⟩

/-- The stop file after the first session, when it is captured again, makes the manifest drop
the second one, which is then captured again. -/
theorem forgets_completed_session :
    ¬ ∀ (settings : CollectionSettings), (settings.plan.map PlanItem.sessionId).Nodup →
      ∀ runs : List CollectionRun, (∀ run ∈ runs.tail, run.resume = true) →
        ResumesSafely settings.maxSessionRetries
          (((collectionMachine settings).trace none runs).map Prod.snd) := by
  intro h
  have hsafe := h twoSessions (by decide)
    [runOf (fun index => index = 2) fun _ => false, runOf (fun _ => false) fun _ => true,
      runOf (fun _ => true) fun _ => false] (by simp [runOf])
  exact absurd hsafe.respects (by decide +kernel)

end SomethingTrade
