import SomethingTrade.Json

/-!
# Controlled Captures

One attempt at a session: a child process captures into the directory of the session and
writes a report; the attempt reads the report that lies there when the child has ended,
bundles it, and passes it through a quality gate. The directory outlives attempts, and a child
may die before it has deleted what an earlier one left.

## Representation

* The files of a session are the ones that are read: the report, the two bundles of a child
  and the bundle of the attempt. A report is the value its text decodes to.
* A child is the list of what it did to these files and its exit code; it may end anywhere.
* Clock readings, the evidence of the kernel log, the digest and the archive are given. Floats
  that are not finite count as no number.

## Main results

* `processFailureReport_rejected`: the report made up for a child that left none is rejected.
* `counts_only_own_capture_iff`: exactly when a session that is counted was captured by the
  attempt that counts it.
-/

namespace SomethingTrade

/-! ### Stage timing -/

/-- The longest requested duration with a guard. -/
def captureDurationGuardRequestedMaxSec : ℚ := 14400

/-- How much longer than requested a capture may take. -/
def captureDurationGuardGraceSec : ℚ := 120

/-- A finalization longer than this is slow. -/
def finalizationSlowWarningSec : ℚ := 600

/-- Bundling longer than this is slow. -/
def bundleSlowWarningSec : ℚ := 300

/-- The times of the stages of a child. -/
def phase42hStageTimes : List String :=
  ["child_started_at_utc", "capture_started_at_utc", "capture_ended_at_utc",
    "finalization_started_at_utc", "finalization_ended_at_utc", "bundle_started_at_utc",
    "bundle_ended_at_utc", "child_ended_at_utc"]

/-- The durations of the stages of a child. -/
def phase42hStageDurations : List String :=
  ["capture_duration_sec", "finalization_duration_sec", "bundle_duration_sec",
    "total_child_duration_sec"]

/-- The number of a value; a truth value is none. -/
def floatOrNone : Json → Option ℚ
  | .bool _ => none
  | value =>
      match value.toFloat? with
      | some (.finite q) => some q
      | _ => none

/-- How long a capture of a requested duration may take. -/
def phase42hCaptureDurationGuardLimitSec (requested : Option ℚ) : Option ℚ :=
  match requested with
  | none => none
  | some requested =>
      if requested ≤ 0 ∨ requested > captureDurationGuardRequestedMaxSec then none
      else some (max 0 requested + max 0 captureDurationGuardGraceSec)

/-- A field of the report itself, else of its stages, else of its capture, else of the stages
of that. -/
def combinedField (report : Json) (field : String) : Json :=
  let nested := (report.get "stage_timing").asDict
  let capture := (report.get "capture").asDict
  let captureNested := (capture.get "stage_timing").asDict
  ((((report.get? field).or (nested.get? field)).or (capture.get? field)).or
    (captureNested.get? field)).getD .null

/-- The duration of a stage. -/
def stageDuration (report : Json) (field : String) : Option ℚ :=
  floatOrNone (combinedField report field)

/-- The times and the durations of the stages of a report. -/
def phase42hStageTiming (report : Json) : Json :=
  .obj ((phase42hStageTimes.map fun field => (field, combinedField report field)) ++
    phase42hStageDurations.map fun field => (field, .ofFloat? (stageDuration report field)))

/-! ### The quality gate -/

/-- What the durations of a report come to. -/
structure DurationQuality where
  requestedDurationSec : Option ℚ
  guardLimitSec : Option ℚ
  captureDurationSec : Option ℚ
  finalizationDurationSec : Option ℚ
  bundleDurationSec : Option ℚ
  totalChildDurationSec : Option ℚ
  checks : List (String × Bool)
  warnings : List String

/-- Whether the report itself says that its capture took too long. -/
def guardFailed (report : Json) : Bool :=
  let capture := (report.get "capture").asDict
  let diagnostics := (capture.get "capture_diagnostics").asDict
  (capture.get "capture_duration_within_guard").isFalse ||
    (diagnostics.get "duration_guard_failure").isTrue

/-- Whether a capture kept to its guard, as far as its durations tell. -/
def captureWithinGuard (report : Json) (limit : ℚ) (capture total : Option ℚ) : Bool :=
  match capture with
  | some capture => !guardFailed report && capture ≤ limit
  | none => !guardFailed report && !total.any fun total => total > limit

/-- Whether the stages explain how long the child took. -/
def durationExplained (total : ℚ) : Option ℚ → Option ℚ → Option ℚ → Bool
  | some capture, some finalization, some bundle =>
      total - (capture + finalization + bundle) ≤ max captureDurationGuardGraceSec (total / 20)
  | _, _, _ => false

/-- The checks of the durations of a report. -/
def phase42hDurationQuality (report : Json) : DurationQuality :=
  let requested := floatOrNone (report.get "duration_sec")
  let capture := stageDuration report "capture_duration_sec"
  let finalization := stageDuration report "finalization_duration_sec"
  let bundle := stageDuration report "bundle_duration_sec"
  let total := stageDuration report "total_child_duration_sec"
  let guardLimit := phase42hCaptureDurationGuardLimitSec requested
  -- a child past its guard has to account for every stage
  let overLimit := guardLimit.any fun limit => total.any fun total => total > limit
  let present := capture.isSome && finalization.isSome && bundle.isSome
  { requestedDurationSec := requested
    guardLimitSec := guardLimit
    captureDurationSec := capture
    finalizationDurationSec := finalization
    bundleDurationSec := bundle
    totalChildDurationSec := total
    checks :=
      [("capture_duration_within_guard",
          guardLimit.all fun limit => captureWithinGuard report limit capture total),
        ("child_stage_timing_present", !overLimit || present),
        ("child_duration_explained",
          !overLimit || total.all fun total => durationExplained total capture finalization bundle)]
    warnings :=
      (if finalization.any fun sec => sec > finalizationSlowWarningSec then
        ["finalization_duration_sec_slow"] else []) ++
      if bundle.any fun sec => sec > bundleSlowWarningSec then
        ["bundle_duration_sec_slow"] else [] }

/-- What the quality gate finds. -/
structure SessionQuality where
  checks : List (String × Bool)
  failureReasons : List String
  durationGuard : DurationQuality

/-- A session counts for research when no check failed. -/
def SessionQuality.researchEligible (quality : SessionQuality) : Bool :=
  quality.failureReasons = []

/-- The checks of a report before those of its durations. -/
def reportChecks (report : Json) (bundleShaValid : Bool) : List (String × Bool) :=
  let phase41 := (report.get "phase41_runtime_report").asDict
  let clock := (report.get "clock_offset_summary").asDict
  let latencyArtifact := (report.get "latency_stage_profile_artifact").asDict
  let phase41Status :=
    (phase41.get "phase_4_1_status").orElse (report.get "phase41_runtime_report_status")
  [("status_pass", (report.get "status").isText "pass"),
    ("primary_failure_none", (report.get "primary_failure").isNull),
    ("latency_profile_status_pass",
      (report.getD "latency_profile_status" (.str "pass")).isText "pass"),
    ("latency_stage_profile_artifact_valid", (latencyArtifact.getD "valid" (.bool true)).isTrue),
    ("phase41_status_pass", phase41Status.isText "pass"),
    ("clock_sync_status_pass", (report.get "clock_sync_status").isText "pass"),
    ("clock_offset_drift_valid", (clock.get "clock_offset_drift_valid").isTrue),
    ("clock_offset_sample_quality_valid", (clock.get "clock_offset_sample_quality_valid").isTrue),
    ("strict_100ms_observability_ready",
      (report.get "strict_100ms_observability_ready").isTrue),
    ("low_latency_ready", (report.get "low_latency_ready").isTrue),
    ("bundle_sha256_valid", bundleShaValid)]

/-- Pass a report through the quality gate. -/
def evaluateSessionQuality (report : Json) (bundleShaValid : Bool) : SessionQuality :=
  let durationQuality := phase42hDurationQuality report
  let checks := reportChecks report bundleShaValid ++ durationQuality.checks
  { checks := checks
    failureReasons := (checks.filter fun check => !check.2).map Prod.fst
    durationGuard := durationQuality }

/-! ### Session directories -/

/-- The files of a session that an attempt reads. A report is nothing when it is missing, and
holds nothing when its text is not JSON. -/
structure SessionFiles where
  report : Option (Option Json)
  passBundle : Option String
  failBundle : Option String
  captureBundle : Option String

/-- What a child does to the files of its session. -/
inductive ChildAct
  | unlinkReport
  | writeReport (text : Option Json)
  | unlinkPassBundle
  | writePassBundle (content : String)
  | unlinkFailBundle
  | writeFailBundle (content : String)

/-- One act of a child. -/
def SessionFiles.act (files : SessionFiles) : ChildAct → SessionFiles
  | .unlinkReport => { files with report := none }
  | .writeReport text => { files with report := some text }
  | .unlinkPassBundle => { files with passBundle := none }
  | .writePassBundle content => { files with passBundle := some content }
  | .unlinkFailBundle => { files with failBundle := none }
  | .writeFailBundle content => { files with failBundle := some content }

/-- The files when a child has ended. -/
def SessionFiles.afterChild (files : SessionFiles) (acts : List ChildAct) : SessionFiles :=
  acts.foldl SessionFiles.act files

/-- The bundle of the child that belongs to a report. -/
def SessionFiles.findPhase42hBundle (files : SessionFiles) (report : Json) : Option String :=
  if (report.get "status").isText "pass" && files.passBundle.isSome then files.passBundle
  else if files.failBundle.isSome then files.failBundle
  else files.passBundle

/-! ### Reports made up -/

/-- What a simulated failure changes in a report. -/
def simulatedFailure : Option String → List (String × Json)
  | some "strict_100ms_false" =>
      [("strict_100ms_observability_ready", .bool false), ("status", .str "fail"),
        ("primary_failure", .str "STRICT_100MS_OBSERVABILITY_FAILURE")]
  | some "low_latency_false" =>
      [("low_latency_ready", .bool false), ("status", .str "fail"),
        ("primary_failure", .str "LOW_LATENCY_FAILURE")]
  | some "clock_sync_fail" =>
      [("clock_sync_status", .str "fail"), ("status", .str "fail"),
        ("primary_failure", .str "CLOCK_SYNC_FAILURE")]
  | some "primary_failure" =>
      [("status", .str "fail"), ("primary_failure", .str "SYNTHETIC_FAILURE")]
  | _ => []

/-- Set some fields of an object. -/
def setFields (report : Json) (fields : List (String × Json)) : Json :=
  fields.foldl (fun report e => report.setField e.1 e.2) report

/-- The report of a capture that is only simulated. -/
def syntheticPhase42hRuntimeReport (now : String) (requestedDurationSec : ℚ)
    (simulateFailure : Option String) : Json :=
  let requested : Json := .float requestedDurationSec
  let report : Json := .obj
    ([("phase", .str "4.2H"), ("status", .str "pass"), ("primary_failure", .null),
        ("clock_sync_status", .str "pass"), ("strict_100ms_observability_ready", .bool true),
        ("low_latency_ready", .bool true), ("duration_sec", requested)] ++
      phase42hStageTimes.map (fun field => (field, .str now)) ++
      [("capture_duration_sec", requested), ("finalization_duration_sec", .float 0),
        ("bundle_duration_sec", .float 0), ("total_child_duration_sec", requested),
        ("clock_offset_summary", .obj
          [("clock_offset_drift_valid", .bool true),
            ("clock_offset_sample_quality_valid", .bool true),
            ("accepted_clock_sample_count", .int 8), ("discarded_clock_sample_count", .int 0)]),
        ("phase41_runtime_report_status", .str "pass"),
        ("phase41_runtime_report", .obj
          [("phase_4_1_status", .str "pass"), ("phase_4_1_pass", .bool true),
            ("snapshot_copy_budget_met", .bool true), ("snapshot_copy_p99_us", .float 75)]),
        ("hot_path_latency_summary", .obj
          [("metrics", .obj [("end_to_end_local_hot_path_ms", .obj [("p99", .float 5)])])]),
        ("hard_fail_reasons", .arr []), ("warning_reasons", .arr [])])
  let capture : Json := .obj
    [("duration_sec", requested), ("capture_duration_sec", requested),
      ("capture_duration_guard_limit_sec",
        .ofFloat? (phase42hCaptureDurationGuardLimitSec (some requestedDurationSec))),
      ("capture_duration_guard_grace_sec", .float captureDurationGuardGraceSec),
      ("capture_duration_within_guard", .bool true),
      ("stage_timing", phase42hStageTiming report)]
  let report := setFields (report.setField "capture" capture) (simulatedFailure simulateFailure)
  if (report.get "primary_failure").truthy then
    report.setField "hard_fail_reasons" (.arr [.str (report.get "primary_failure").text])
  else report

/-- Why a child left no report. -/
structure ChildFailure where
  primaryFailure : String
  reason : String

/-- Name the failure of a child that left no report: the kernel killed it when the log says so. -/
def classifyChildProcessFailure (exitCode : ℤ) (oomEvidence : Json) : ChildFailure :=
  if exitCode = -9 ∧ (oomEvidence.get "oom_detected").isTrue then
    ⟨"OOM_KILLED",
      "Phase 4.2H child exited -9 and kernel logs show OOM kill in the session window"⟩
  else if exitCode = -9 then
    ⟨"PROCESS_SIGKILL", "Phase 4.2H child exited -9 without kernel OOM evidence"⟩
  else ⟨"REPORT_MISSING", "Phase 4.2H report missing after child process returned"⟩

/-- What happens outside the program during an attempt: what the child did and how it ended,
the clock readings and the evidence of the kernel log. -/
structure CaptureAttempt where
  acts : List ChildAct
  exitCode : ℤ
  startedAtUtc : String
  endedAtUtc : String
  durationSec : ℚ
  oomEvidence : Json
  now : String
  actualDurationSec : ℚ

/-- The signal that ended a child. -/
def childSignal (exitCode : ℤ) : Json := if exitCode = -9 then .str "SIGKILL" else .null

/-- The report of an attempt whose child left none. -/
def phase42hProcessFailureReport (requestedDurationSec : ℚ) (attempt : CaptureAttempt) :
    Json :=
  let failure := classifyChildProcessFailure attempt.exitCode attempt.oomEvidence
  let primary : Json := .str failure.primaryFailure
  setFields (syntheticPhase42hRuntimeReport attempt.now requestedDurationSec none)
    ([("status", .str "fail"), ("primary_failure", primary),
        ("failure_classifications", .arr [primary]),
        ("hard_fail_reasons", .arr [.str failure.reason]), ("exit_code", .int attempt.exitCode),
        ("child_exit_code", .int attempt.exitCode),
        ("child_signal", childSignal attempt.exitCode), ("dry_run", .bool false),
        ("fallback_reason", .str "child_exited_before_hotpath_report"),
        ("started_at_utc", .str attempt.startedAtUtc), ("ended_at_utc", .str attempt.endedAtUtc),
        ("child_started_at_utc", .str attempt.startedAtUtc),
        ("child_ended_at_utc", .str attempt.endedAtUtc),
        ("total_child_duration_sec", .float attempt.durationSec)] ++
      (["capture_started_at_utc", "capture_ended_at_utc", "finalization_started_at_utc",
          "finalization_ended_at_utc", "bundle_started_at_utc", "bundle_ended_at_utc",
          "capture_duration_sec", "finalization_duration_sec", "bundle_duration_sec"].map
        fun field => (field, .null)) ++
      [("oom_evidence", attempt.oomEvidence),
        ("process_failure_evidence", .obj
          [("exit_code", .int attempt.exitCode), ("child_exit_code", .int attempt.exitCode),
            ("child_signal", childSignal attempt.exitCode), ("report_missing", .bool true),
            ("primary_failure", primary),
            ("fallback_reason", .str "child_exited_before_hotpath_report"),
            ("session_started_at_utc", .str attempt.startedAtUtc),
            ("session_ended_at_utc", .str attempt.endedAtUtc)]),
        ("memory_telemetry", .obj [])])

/-! ### Digest files -/

/-- Whether a character ends a line. -/
def isLineBreak (c : Char) : Bool :=
  c.toNat ∈ [0xa, 0xb, 0xc, 0xd, 0x1c, 0x1d, 0x1e, 0x85, 0x2028, 0x2029]

/-- The lines of a text. -/
def splitLines : List Char → List (List Char)
  | [] => []
  | '\r' :: '\n' :: cs => [] :: splitLines cs
  | c :: cs =>
      if isLineBreak c then [] :: splitLines cs
      else
        match splitLines cs with
        | [] => [[c]]
        | line :: lines => (c :: line) :: lines

/-- The digest that a text names. -/
def parseSha256 (text : String) : String :=
  match (splitLines text.toList).find? fun line =>
      "sha256:".toList.isPrefixOf (Decimal.strip line) with
  | some line => String.ofList (Decimal.strip ((line.dropWhile fun c => c ≠ ':').drop 1))
  | none => ""

/-! ### Attempts -/

/-- What an attempt uses to make files: the digest of a file as hexadecimal text, and the
archive of a report with a note. -/
structure BundleTools where
  sha256 : String → String
  archive : Json → String → String

/-- What is asked of an attempt. -/
structure CaptureRequest where
  outputDir : String
  sessionId : String
  requestedDurationSec : ℚ
  createBundle : Bool
  failSessionOnQualityGate : Bool
  dryRun : Bool
  simulateFailure : Option String

/-- Why an attempt raises: its report is not JSON, or not an object. -/
inductive CaptureError
  | reportNotJson
  | reportNotObject
  deriving DecidableEq

/-- What an attempt returns. -/
structure CaptureResult where
  sessionId : String
  status : Json
  researchEligible : Bool
  exitCode : ℤ
  bundle : String
  quality : SessionQuality
  runtimeStatus : Json
  primaryFailure : Json
  actualDurationSec : ℚ

/-- The name of the bundle of a session. -/
def captureBundleName (sessionId : String) : String :=
  "phase_5_2_" ++ sessionId ++ "_capture_bundle.zip"

/-- The path of the bundle of a session of a collection. -/
def captureBundlePath (outputDir sessionId : String) : String :=
  outputDir ++ "/sessions/" ++ sessionId ++ "/" ++ captureBundleName sessionId

/-- The text beside a bundle. -/
def shaFileText (name sha : String) (size : ℕ) (utc : String) : String :=
  "filename: " ++ name ++ "\nsha256: " ++ sha ++ "\nfile_size_bytes: " ++ toString size ++
    "\nutc_timestamp: " ++ utc ++ "\n"

/-- The note beside a synthetic report. -/
def syntheticNote (dryRun : Bool) : String :=
  if dryRun then "# Synthetic Phase 4.2H report for Phase 5.2 dry-run\n"
  else "# Fallback Phase 4.2H report generated because child process exited before " ++
    "producing hotpath report.\n"

/-- What bundling writes into a report that has no bundle of its own. -/
def markSynthetic (report : Json) (dryRun : Bool) : Json :=
  if dryRun then report.setDefault "dry_run" (.bool true)
  else
    (report.setField "dry_run" (.bool false)).setDefault "fallback_reason"
      (.str "child_exited_before_hotpath_report")

/-- What an attempt adds to the report that it read. -/
def CaptureAttempt.stamp (attempt : CaptureAttempt) (report : Json) : Json :=
  (((report.setDefault "exit_code" (.int attempt.exitCode)).setMissingOrNone
    "child_started_at_utc" (.str attempt.startedAtUtc)).setMissingOrNone
    "child_ended_at_utc" (.str attempt.endedAtUtc)).setMissingOrNone
    "total_child_duration_sec" (.float attempt.durationSec)

/-- The report that an attempt evaluates, given the files that its child left. -/
def runRealPhase42hCapture (request : CaptureRequest) (attempt : CaptureAttempt)
    (files : SessionFiles) : Except CaptureError Json :=
  match files.report with
  | none => .ok (phase42hProcessFailureReport request.requestedDurationSec attempt)
  | some none => .error .reportNotJson
  | some (some (.obj fields)) => .ok (attempt.stamp (.obj fields))
  | some (some _) => .error .reportNotObject

/-- Whether the text beside a bundle names its digest. -/
def bundleShaValid (tools : BundleTools) (request : CaptureRequest) (attempt : CaptureAttempt)
    (bundle : Option String) : Bool :=
  bundle.any fun content =>
    parseSha256 (shaFileText (captureBundleName request.sessionId) (tools.sha256 content)
      content.length attempt.now) = tools.sha256 content

/-- Whether an attempt has to make a bundle up. -/
def SessionFiles.lacksBundle (files : SessionFiles) (request : CaptureRequest) : Bool :=
  request.createBundle && files.captureBundle.isNone

/-- The bundle of a session, made up when there has to be one. -/
def SessionFiles.bundleFor (files : SessionFiles) (tools : BundleTools)
    (request : CaptureRequest) (report : Json) : Option String :=
  if files.lacksBundle request then
    some (tools.archive (markSynthetic report request.dryRun) (syntheticNote request.dryRun))
  else files.captureBundle

/-- Bundle a session, pass its report through the quality gate and say what came of it. -/
def concludeCapture (tools : BundleTools) (request : CaptureRequest) (attempt : CaptureAttempt)
    (files : SessionFiles) (report : Json) (exitCode : ℤ) : SessionFiles × CaptureResult :=
  let bundle := files.bundleFor tools request report
  let report :=
    if files.lacksBundle request then markSynthetic report request.dryRun else report
  let quality := evaluateSessionQuality report (bundleShaValid tools request attempt bundle)
  ({ files with captureBundle := bundle },
    { sessionId := request.sessionId
      status := report.getD "status" (.str "fail")
      researchEligible := quality.researchEligible
      exitCode :=
        if request.failSessionOnQualityGate && !quality.researchEligible then 1 else exitCode
      bundle := captureBundlePath request.outputDir request.sessionId
      quality := quality
      runtimeStatus := report.get "status"
      primaryFailure := report.get "primary_failure"
      actualDurationSec :=
        if request.dryRun then min request.requestedDurationSec attempt.actualDurationSec
        else attempt.actualDurationSec })

/-- The bundle an attempt copies, if it makes one and the child left one. -/
def SessionFiles.copyBundle (files : SessionFiles) (request : CaptureRequest) (report : Json) :
    SessionFiles :=
  match request.createBundle, files.findPhase42hBundle report with
  | true, some content => { files with captureBundle := some content }
  | _, _ => files

/-- One attempt at a session. -/
def runControlledCapture (tools : BundleTools) (request : CaptureRequest) (files : SessionFiles)
    (attempt : CaptureAttempt) : SessionFiles × Except CaptureError CaptureResult :=
  if request.dryRun then
    let report := syntheticPhase42hRuntimeReport attempt.now request.requestedDurationSec
      request.simulateFailure
    let exitCode : ℤ := if (report.get "status").isText "pass" then 0 else 1
    let bundled := markSynthetic report true
    let (files, report) :=
      if request.createBundle then
        ({ files with captureBundle := some (tools.archive bundled (syntheticNote true)) },
          bundled)
      else (files, report)
    (concludeCapture tools request attempt files report exitCode).map id .ok
  else
    let files := files.afterChild attempt.acts
    match runRealPhase42hCapture request attempt files with
    | .error e => (files, .error e)
    | .ok report =>
        (concludeCapture tools request attempt (files.copyBundle request report) report
          attempt.exitCode).map id .ok

/-! ### Captures of their own -/

/-- What an act does to the report, if anything: remove it or write it. -/
def ChildAct.onReport : ChildAct → Option (Option (Option Json))
  | .unlinkReport => some none
  | .writeReport text => some (some text)
  | _ => none

/-- The last thing a child did to the report. -/
def lastOnReport (acts : List ChildAct) : Option (Option (Option Json)) :=
  acts.reverse.findSome? ChildAct.onReport

/-- The child of an attempt exited with code 0, and the report it left is one that it wrote. -/
structure OwnCapture (attempt : CaptureAttempt) : Prop where
  exitCode : attempt.exitCode = 0
  wrote : ∃ text, lastOnReport attempt.acts = some (some text)

/-- An attempt counts its session only when it captured it. -/
def CountsOnlyOwnCapture (tools : BundleTools) (request : CaptureRequest) (files : SessionFiles)
    (attempt : CaptureAttempt) : Prop :=
  ∀ result, (runControlledCapture tools request files attempt).2 = .ok result →
    result.researchEligible = true → OwnCapture attempt

/-- A report passes the gate, and the bundle beside it is in order. -/
structure PassesGate (tools : BundleTools) (request : CaptureRequest) (files : SessionFiles)
    (attempt : CaptureAttempt) (report : Json) : Prop where
  passes : (evaluateSessionQuality report true).researchEligible = true
  bundle : bundleShaValid tools request attempt
    ((files.copyBundle request report).bundleFor tools request report) = true

/-- The report that lies in the directory when the child has ended, whoever wrote it, passes
the gate. -/
def LeavesPassingReport (tools : BundleTools) (request : CaptureRequest) (files : SessionFiles)
    (attempt : CaptureAttempt) : Prop :=
  ∃ fields, (lastOnReport attempt.acts).getD files.report = some (some (.obj fields)) ∧
    PassesGate tools request (files.afterChild attempt.acts) attempt
      (attempt.stamp (.obj fields))

/-- The report after a child is what its last act on it left, else the one of before. -/
theorem report_afterChild (files : SessionFiles) (acts : List ChildAct) :
    (files.afterChild acts).report = (lastOnReport acts).getD files.report := by
  induction acts using List.reverseRecOn with
  | nil => rfl
  | append_singleton acts act ih =>
      rw [SessionFiles.afterChild, List.foldl_append, List.foldl_cons, List.foldl_nil,
        lastOnReport, List.reverse_append, List.reverse_singleton, List.singleton_append,
        List.findSome?_cons]
      cases act with
      | unlinkReport => rfl
      | writeReport text => rfl
      | unlinkPassBundle => exact ih
      | writePassBundle content => exact ih
      | unlinkFailBundle => exact ih
      | writeFailBundle content => exact ih

/-! ### The gate -/

/-- A session counts exactly when every check passed. -/
theorem researchEligible_iff {report : Json} {bundleValid : Bool} :
    (evaluateSessionQuality report bundleValid).researchEligible = true ↔
      ∀ check ∈ reportChecks report bundleValid ++ (phase42hDurationQuality report).checks,
        check.2 = true := by
  rw [SessionQuality.researchEligible, decide_eq_true_iff]
  change List.map _ _ = [] ↔ _
  rw [List.map_eq_nil_iff, List.filter_eq_nil_iff]
  simp

/-- The gate needs a bundle in order, and a report that passes with one. -/
theorem researchEligible_bundle {report : Json} {bundleValid : Bool} :
    (evaluateSessionQuality report bundleValid).researchEligible = true ↔
      (evaluateSessionQuality report true).researchEligible = true ∧ bundleValid = true := by
  rw [researchEligible_iff, researchEligible_iff]
  cases bundleValid with
  | true => simp
  | false => simp [reportChecks]

/-- A report that does not say pass is rejected. -/
theorem rejected_of_status {report : Json} {bundleValid : Bool}
    (h : (report.get "status").isText "pass" = false) :
    (evaluateSessionQuality report bundleValid).researchEligible = false := by
  rw [← Bool.not_eq_true, researchEligible_iff]
  intro hall
  have hstatus := hall ("status_pass", (report.get "status").isText "pass")
    (List.mem_append_left _ List.mem_cons_self)
  rw [h] at hstatus
  cases hstatus

section

variable {report : Json}

theorem get?_setFields_of_not_mem {fields : List (String × Json)} {k : String}
    (h : k ∉ fields.map Prod.fst) : (setFields report fields).get? k = report.get? k := by
  induction fields generalizing report with
  | nil => rfl
  | cons e fields ih =>
      rw [List.map_cons, List.mem_cons, not_or] at h
      exact (ih h.2).trans (Json.get?_setField_of_ne report e.2 (Ne.symm h.1))

theorem get?_markSynthetic {k : String} (hdry : k ≠ "dry_run") (hreason : k ≠ "fallback_reason") :
    (markSynthetic report false).get? k = report.get? k := by
  change ((report.setField "dry_run" (.bool false)).setDefault "fallback_reason" _).get? k = _
  rw [Json.get?_setDefault_of_ne _ _ (Ne.symm hreason),
    Json.get?_setField_of_ne _ _ (Ne.symm hdry)]

theorem combinedField_markSynthetic {field : String} (hdry : field ≠ "dry_run")
    (hreason : field ≠ "fallback_reason") :
    combinedField (markSynthetic report false) field = combinedField report field := by
  simp (disch := first | assumption | decide) only [combinedField, Json.get, get?_markSynthetic]

theorem captureWithinGuard_markSynthetic (limit : ℚ) (capture total : Option ℚ) :
    captureWithinGuard (markSynthetic report false) limit capture total =
      captureWithinGuard report limit capture total := by
  have hfailed : guardFailed (markSynthetic report false) = guardFailed report := by
    simp (disch := decide) only [guardFailed, Json.get, get?_markSynthetic]
  cases capture <;> simp only [captureWithinGuard, hfailed]

/-- What bundling writes into a report is nothing that the gate reads. -/
theorem evaluate_markSynthetic (bundleValid : Bool) :
    evaluateSessionQuality (markSynthetic report false) bundleValid =
      evaluateSessionQuality report bundleValid := by
  have hchecks : reportChecks (markSynthetic report false) bundleValid =
      reportChecks report bundleValid := by
    simp (disch := decide) only [reportChecks, Json.get, Json.getD, get?_markSynthetic]
  have hdurations : phase42hDurationQuality (markSynthetic report false) =
      phase42hDurationQuality report := by
    simp (disch := decide) only [phase42hDurationQuality, stageDuration, Json.get,
      combinedField_markSynthetic, captureWithinGuard_markSynthetic, get?_markSynthetic]
    rfl
  simp only [evaluateSessionQuality, hchecks, hdurations]

theorem setFields_isObj (h : report.IsObj) (fields : List (String × Json)) :
    (setFields report fields).IsObj := by
  induction fields generalizing report with
  | nil => exact h
  | cons e fields ih => exact ih (h.setField e.1 e.2)

theorem syntheticPhase42hRuntimeReport_isObj (now : String) (requestedDurationSec : ℚ)
    (simulateFailure : Option String) :
    (syntheticPhase42hRuntimeReport now requestedDurationSec simulateFailure).IsObj := by
  rw [syntheticPhase42hRuntimeReport]
  split
  · exact (setFields_isObj (Json.IsObj.setField ⟨_, rfl⟩ _ _) _).setField _ _
  · exact setFields_isObj (Json.IsObj.setField ⟨_, rfl⟩ _ _) _

/-- **The report made up for a child that left none is rejected.** -/
theorem processFailureReport_rejected (requestedDurationSec : ℚ) (attempt : CaptureAttempt)
    (bundleValid : Bool) :
    (evaluateSessionQuality (phase42hProcessFailureReport requestedDurationSec attempt)
      bundleValid).researchEligible = false := by
  refine rejected_of_status ?_
  -- the status is set first, and nothing that is set later is a status
  have hstatus : (phase42hProcessFailureReport requestedDurationSec attempt).get? "status" =
      some (.str "fail") := by
    rw [phase42hProcessFailureReport, List.append_assoc, List.cons_append, setFields,
      List.foldl_cons]
    refine Eq.trans (get?_setFields_of_not_mem ?_)
      ((syntheticPhase42hRuntimeReport_isObj _ _ _).get?_setField_self "status" _)
    simp
  rw [Json.get, hstatus]
  rfl

/-- A conclusion counts the session exactly when the report passes the gate and the bundle is
in order. -/
theorem researchEligible_concludeCapture {tools : BundleTools} {request : CaptureRequest}
    {attempt : CaptureAttempt} {files : SessionFiles} {exitCode : ℤ}
    (hreal : request.dryRun = false) :
    (concludeCapture tools request attempt files report exitCode).2.researchEligible = true ↔
      (evaluateSessionQuality report true).researchEligible = true ∧
        bundleShaValid tools request attempt (files.bundleFor tools request report) = true := by
  rw [← researchEligible_bundle]
  simp only [concludeCapture, hreal]
  split
  · rw [evaluate_markSynthetic]
  · rfl

end

/-! ### Fresh and stale reports -/

section

variable {tools : BundleTools} {request : CaptureRequest} {files : SessionFiles}
  {attempt : CaptureAttempt}

/-- A capture that is not simulated returns what the report after its child comes to. -/
theorem runControlledCapture_real (hreal : request.dryRun = false) :
    (runControlledCapture tools request files attempt).2 =
      match runRealPhase42hCapture request attempt (files.afterChild attempt.acts) with
      | .error e => .error e
      | .ok report => .ok (concludeCapture tools request attempt
          ((files.afterChild attempt.acts).copyBundle request report) report
          attempt.exitCode).2 := by
  rw [runControlledCapture, if_neg (by simp [hreal])]
  dsimp only
  split <;> rfl

/-- **A session is counted exactly when a passing report lies in its directory**, whoever wrote
it. -/
theorem counted_iff (hreal : request.dryRun = false) :
    (∃ result, (runControlledCapture tools request files attempt).2 = .ok result ∧
      result.researchEligible = true) ↔ LeavesPassingReport tools request files attempt := by
  rw [runControlledCapture_real hreal, LeavesPassingReport, ← report_afterChild,
    runRealPhase42hCapture]
  generalize files.afterChild attempt.acts = left
  constructor
  · rintro ⟨result, hrun, helig⟩
    split at hrun
    · cases hrun
    · rename_i report hreport
      obtain rfl := Except.ok.inj hrun
      rw [researchEligible_concludeCapture hreal] at helig
      split at hreport
      · obtain rfl := Except.ok.inj hreport
        rw [processFailureReport_rejected] at helig
        cases helig.1
      · cases hreport
      · rename_i fields hleft
        obtain rfl := Except.ok.inj hreport
        exact ⟨fields, hleft, helig.1, helig.2⟩
      · cases hreport
  · rintro ⟨fields, hleft, hpasses, hbundle⟩
    rw [hleft]
    exact ⟨_, rfl, (researchEligible_concludeCapture hreal).mpr ⟨hpasses, hbundle⟩⟩

/-- **An attempt counts its session through its own capture alone** exactly when its child
exited with code 0 and wrote the report, or no passing report lies in the directory. -/
theorem counts_only_own_capture_iff (hreal : request.dryRun = false) :
    CountsOnlyOwnCapture tools request files attempt ↔
      OwnCapture attempt ∨ ¬ LeavesPassingReport tools request files attempt := by
  rw [← counted_iff hreal]
  constructor
  · intro h
    by_cases hown : OwnCapture attempt
    · exact .inl hown
    · exact .inr fun ⟨result, hrun, helig⟩ => hown (h result hrun helig)
  · rintro (hown | hnone) result hrun helig
    · exact hown
    · exact absurd ⟨result, hrun, helig⟩ hnone

end

/-- A session of half an hour. -/
def sanityRequest : CaptureRequest where
  outputDir := "data/phase_5_2"
  sessionId := "session_001_sanity_30m"
  requestedDurationSec := 1800
  createBundle := true
  failSessionOnQualityGate := false
  dryRun := false
  simulateFailure := none

/-- Tools whose digests and archives are plain. -/
def plainTools : BundleTools where
  sha256 _ := "e3b0c442"
  archive _ note := note

/-- What an earlier attempt left: its passing report and its bundle. -/
def staleFiles : SessionFiles where
  report := some (some (syntheticPhase42hRuntimeReport "2026-05-01T00:00:00Z" 1800 none))
  passBundle := some "zip"
  failBundle := none
  captureBundle := some "zip"

/-- A child that is killed before it deletes anything. -/
def killedAttempt : CaptureAttempt where
  acts := []
  exitCode := -9
  startedAtUtc := "2026-05-02T00:00:00Z"
  endedAtUtc := "2026-05-02T00:00:01Z"
  durationSec := 1
  oomEvidence := .obj []
  now := "2026-05-02T00:00:01Z"
  actualDurationSec := 1

theorem counts_only_own_capture_killed :
    CountsOnlyOwnCapture plainTools sanityRequest staleFiles killedAttempt ↔
      OwnCapture killedAttempt ∨
        ¬ LeavesPassingReport plainTools sanityRequest staleFiles killedAttempt :=
  counts_only_own_capture_iff rfl

/-- A killed child is counted through the report of an earlier attempt. -/
theorem counts_stale_report :
    ¬ ∀ (tools : BundleTools) (request : CaptureRequest) (files : SessionFiles)
      (attempt : CaptureAttempt), request.dryRun = false →
        CountsOnlyOwnCapture tools request files attempt := by
  intro h
  have hown := h plainTools sanityRequest staleFiles killedAttempt rfl
  have hcounted : ((runControlledCapture plainTools sanityRequest staleFiles killedAttempt).2.map
      CaptureResult.researchEligible).toOption = some true := by decide +kernel
  rw [CountsOnlyOwnCapture] at hown
  generalize (runControlledCapture plainTools sanityRequest staleFiles killedAttempt).2 = outcome
    at hown hcounted
  cases outcome with
  | error e => cases hcounted
  | ok result =>
      have hexit : killedAttempt.exitCode = 0 :=
        (hown result rfl (Option.some.inj hcounted)).exitCode
      exact absurd hexit (by decide)

end SomethingTrade
