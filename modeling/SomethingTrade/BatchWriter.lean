import Mathlib.Data.List.Forall2
import SomethingTrade.Dict
import SomethingTrade.Json
import SomethingTrade.Machine

/-!
# The Batch Writer

Rows are written to files by a thread of their own. The producer puts rows on a bounded
queue and never waits: a row that finds the queue full is dropped. The thread takes a row
when one comes, drains more into a batch, and writes the batch; it ends when it is told to
stop and the queue is empty. Closing tells it to stop and waits for it for a while.

The two threads run in steps, and a run is any interleaving of them: each turn names the
thread that moves, with the readings and the accidents of its step. A thread that waits for
the other stays where it is.

## Representation

* One step is what the lock or the queue makes atomic, or what only one thread can see.
* A file is the list of the rows written to it since the writer was made; the text of a row
  is left out, and so are samples of durations and depths. A row is a value: a caller that
  changes a row after giving it away is not modelled.
* A flush may raise before any of its rows is written or after the last one; the rows
  before stay written.

## Main results

* `BatchWriterSystem.flows_threadStep`: without an error, the rows put on the queue are those
  written, those in the batch and those still queued, in this order.
* `JsonlBatchWriter.loses_nothing`: a writer that was closed and finished has written the
  rows it accepted.
-/

namespace SomethingTrade

/-! ### Rows -/

/-- Note in the stages of a row, if it has them, when it was enqueued. -/
def annotateWriterEnqueue (row : Json) (enqueueNs : ℤ) : Json :=
  match row.get "stages" with
  | .obj stages =>
      row.setField "stages"
        ((Json.obj stages).setField "writer_enqueue_monotonic_ns" (.int enqueueNs))
  | _ => row

/-- Note in the stages and the metrics of a row, if it has them, when it was written. -/
def withFileWriteTimestamps (row : Json) (startNs endNs : ℤ) : Json :=
  let stages := row.get "stages"
  let row :=
    match stages with
    | .obj _ =>
        row.setField "stages"
          ((stages.setField "file_write_start_monotonic_ns" (.int startNs)).setField
            "file_write_end_monotonic_ns" (.int endNs))
    | _ => row
  match row.get "metrics" with
  | .obj metrics =>
      let metrics := (Json.obj metrics).setField "file_write_duration_ms"
        (.float (((endNs - startNs : ℤ) : ℚ) / 1000000))
      let metrics :=
        match stages.get "writer_enqueue_monotonic_ns" with
        | .int enqueueNs =>
            metrics.setField "writer_wait_ms"
              (.float (((startNs - enqueueNs : ℤ) : ℚ) / 1000000))
        | _ => metrics
      row.setField "metrics" metrics
  | _ => row

/-- A row on the queue. -/
structure QueuedJsonlRecord where
  path : String
  row : Json
  writerEnqueueMonotonicNs : ℤ

/-- What enqueuing a row returns. -/
structure WriterEnqueueResult where
  writerEnqueueStartMonotonicNs : ℤ
  writerEnqueueEndMonotonicNs : ℤ
  enqueued : Bool
  dropped : Bool

/-! ### The writer and its two threads -/

/-- The writer. -/
structure JsonlBatchWriter where
  batchSize : ℕ
  queueMaxSize : ℕ
  queue : List QueuedJsonlRecord
  stop : Bool
  started : Bool
  closed : Bool
  shutdownFlushCompleted : Bool
  droppedRecords : ℕ
  errorCount : ℕ
  recordsEnqueued : ℕ
  recordsWritten : ℕ
  flushCount : ℕ

/-- Where the producer is. -/
inductive ProducerPhase
  /-- Between two calls. -/
  | ready
  /-- About to put a record on the queue. -/
  | putting (record : QueuedJsonlRecord)
  /-- About to count a record that found the queue full. -/
  | dropping (record : QueuedJsonlRecord)
  /-- About to count a record that is on the queue. -/
  | counting (record : QueuedJsonlRecord)
  /-- Closing: about to tell the thread to stop. -/
  | stopping
  /-- Waiting for the thread to end. -/
  | joining
  /-- About to look whether the thread is alive. -/
  | checkingThread
  /-- The thread has ended: about to look whether the queue is empty. -/
  | checkingQueue
  /-- Closed; whether the thread was found alive. -/
  | done (alive : Bool)

/-- Where the writer thread is. -/
inductive ThreadPhase
  | notStarted
  /-- The first half of the loop condition. -/
  | testingStop
  /-- The second half. -/
  | testingEmpty
  /-- Waiting for the first record of a batch. -/
  | getting
  /-- Draining the queue into a batch. -/
  | filling (batch : List QueuedJsonlRecord)
  /-- Writing the rest of a batch, of which some rows are written. -/
  | flushing (rest : List QueuedJsonlRecord) (written : ℕ)
  /-- About to count a flush. -/
  | recording (written : ℕ)
  | finished

/-- Whether the thread has ended. -/
def ThreadPhase.isFinished : ThreadPhase → Bool
  | .finished => true
  | _ => false

/-- The writer with the threads that use it: the calls the producer still has to make, the
results of those it made, and the files. -/
structure BatchWriterSystem where
  writer : JsonlBatchWriter
  producer : ProducerPhase
  thread : ThreadPhase
  todo : List (String × Json)
  results : List (QueuedJsonlRecord × WriterEnqueueResult)
  files : Dict String (List Json)

/-- A fresh writer. -/
def JsonlBatchWriter.init (batchSize queueMaxSize : ℤ) : JsonlBatchWriter where
  batchSize := (max 1 batchSize).toNat
  queueMaxSize := (max 1 queueMaxSize).toNat
  queue := []
  stop := false
  started := false
  closed := false
  shutdownFlushCompleted := false
  droppedRecords := 0
  errorCount := 0
  recordsEnqueued := 0
  recordsWritten := 0
  flushCount := 0

/-- A fresh writer, and a producer that is going to enqueue some rows and then close. -/
def BatchWriterSystem.init (batchSize queueMaxSize : ℤ) (rows : List (String × Json)) :
    BatchWriterSystem where
  writer := .init batchSize queueMaxSize
  producer := .ready
  thread := .notStarted
  todo := rows
  results := []
  files := .empty

namespace BatchWriterSystem

/-- Start the thread, unless it was started. -/
def start (s : BatchWriterSystem) : BatchWriterSystem :=
  if s.writer.started then s
  else { s with writer := { s.writer with started := true }, thread := .testingStop }

/-- The result of an enqueued record. -/
def enqueueResult (record : QueuedJsonlRecord) (endNs : ℤ) (enqueued : Bool) :
    WriterEnqueueResult where
  writerEnqueueStartMonotonicNs := record.writerEnqueueMonotonicNs
  writerEnqueueEndMonotonicNs := endNs
  enqueued := enqueued
  dropped := !enqueued

/-- A step of the producer. -/
def producerStep (s : BatchWriterSystem) (clock : ℤ) (timeout : Bool) : BatchWriterSystem :=
  let w := s.writer
  match s.producer with
  | .ready =>
      match s.todo with
      | (path, row) :: todo =>
          { s.start with
            producer := .putting ⟨path, annotateWriterEnqueue row clock, clock⟩
            todo := todo }
      | [] =>
          if w.closed then { s with producer := .done false }
          else if w.started = false then
            { s with
              writer := { w with closed := true, shutdownFlushCompleted := true }
              producer := .done false }
          else { s with writer := { w with closed := true }, producer := .stopping }
  | .putting record =>
      if w.queue.length ≥ w.queueMaxSize then { s with producer := .dropping record }
      else
        { s with
          writer := { w with queue := w.queue ++ [record] }
          producer := .counting record }
  | .dropping record =>
      { s with
        writer := { w with droppedRecords := w.droppedRecords + 1 }
        producer := .ready
        results := s.results ++ [(record, enqueueResult record clock false)] }
  | .counting record =>
      { s with
        writer := { w with recordsEnqueued := w.recordsEnqueued + 1 }
        producer := .ready
        results := s.results ++ [(record, enqueueResult record clock true)] }
  | .stopping => { s with writer := { w with stop := true }, producer := .joining }
  | .joining =>
      if s.thread.isFinished || timeout then { s with producer := .checkingThread } else s
  | .checkingThread =>
      if s.thread.isFinished then { s with producer := .checkingQueue }
      else
        { s with writer := { w with shutdownFlushCompleted := false }, producer := .done true }
  | .checkingQueue =>
      { s with
        writer := { w with shutdownFlushCompleted := w.queue.isEmpty }
        producer := .done false }
  | .done _ => s

/-- Append a row to a file. -/
def writeRow (s : BatchWriterSystem) (record : QueuedJsonlRecord) (clock : ℤ) :
    BatchWriterSystem :=
  { s with
    files := s.files.set record.path ((s.files.get? record.path).getD [] ++
      [withFileWriteTimestamps record.row clock clock]) }

/-- A step of the writer thread. -/
def threadStep (s : BatchWriterSystem) (clock : ℤ) (timeout raises : Bool) :
    BatchWriterSystem :=
  let w := s.writer
  match s.thread with
  | .notStarted => s
  | .testingStop => { s with thread := if w.stop then .testingEmpty else .getting }
  | .testingEmpty => { s with thread := if w.queue.isEmpty then .finished else .getting }
  | .getting =>
      match w.queue with
      | record :: queue =>
          { s with writer := { w with queue := queue }, thread := .filling [record] }
      | [] => if timeout then { s with thread := .testingStop } else s
  | .filling batch =>
      if batch.length < w.batchSize then
        match w.queue with
        | record :: queue =>
            { s with writer := { w with queue := queue }, thread := .filling (batch ++ [record]) }
        | [] => { s with thread := .flushing batch 0 }
      else { s with thread := .flushing batch 0 }
  | .flushing rest written =>
      if raises then
        { s with
          writer := { w with errorCount := w.errorCount + 1 }
          thread := .recording written }
      else
        match rest with
        | record :: rest => { s.writeRow record clock with thread := .flushing rest (written + 1) }
        | [] => { s with thread := .recording written }
  | .recording written =>
      { s with
        writer := { w with
          recordsWritten := w.recordsWritten + written
          flushCount := w.flushCount + 1 }
        thread := .testingStop }
  | .finished => s

end BatchWriterSystem

/-- A turn: the thread that moves, what its clock reads, whether a time limit it waits under
is up, and whether a write raises. -/
inductive BatchWriterTurn
  | producer (clock : ℤ) (timeout : Bool)
  | thread (clock : ℤ) (timeout raises : Bool)

/-- The writer and its threads as a machine. -/
def batchWriterMachine : Machine BatchWriterSystem BatchWriterTurn Unit where
  step s
    | .producer clock timeout => (s.producerStep clock timeout, ())
    | .thread clock timeout raises => (s.threadStep clock timeout raises, ())

/-! ### The books of the calls -/

/-- A record is that of a call. -/
def Names (call : String × Json) (record : QueuedJsonlRecord) : Prop :=
  record.path = call.1 ∧
    record.row = annotateWriterEnqueue call.2 record.writerEnqueueMonotonicNs

/-- The record the producer works on. -/
def ProducerPhase.inHand : ProducerPhase → List QueuedJsonlRecord
  | .putting record | .dropping record | .counting record => [record]
  | _ => []

/-- The record that is on the queue before its call returns. -/
def ProducerPhase.justPut : ProducerPhase → List QueuedJsonlRecord
  | .counting record => [record]
  | _ => []

/-- Whether the producer closes or has closed the writer. -/
def ProducerPhase.isClosing : ProducerPhase → Bool
  | .stopping | .joining | .checkingThread | .checkingQueue | .done _ => true
  | _ => false

/-- Whether the thread was told to stop by then. -/
def ProducerPhase.hasStopped : ProducerPhase → Bool
  | .joining | .checkingThread | .checkingQueue | .done _ => true
  | _ => false

namespace BatchWriterSystem

/-- The records whose enqueue returned that they were enqueued. -/
def accepted (s : BatchWriterSystem) : List QueuedJsonlRecord :=
  (s.results.filter fun r => r.2.enqueued).map Prod.fst

/-- The records whose enqueue returned that they were dropped. -/
def refused (s : BatchWriterSystem) : List QueuedJsonlRecord :=
  (s.results.filter fun r => r.2.dropped).map Prod.fst

/-- The records put on the queue so far. -/
def put (s : BatchWriterSystem) : List QueuedJsonlRecord := s.accepted ++ s.producer.justPut

/-- The calls begun are the first of the rows, their records are those of the results and
the one in hand, and the counters count the results. -/
structure Answered (rows : List (String × Json)) (s : BatchWriterSystem) : Prop where
  calls : ∃ begun, rows = begun ++ s.todo ∧
    List.Forall₂ Names begun (s.results.map Prod.fst ++ s.producer.inHand)
  enqueued : s.writer.recordsEnqueued = s.accepted.length
  dropped : s.writer.droppedRecords = s.refused.length

theorem accepted_concat (s : BatchWriterSystem) (record : QueuedJsonlRecord) (endNs : ℤ)
    (enqueued : Bool) :
    ((s.results ++ [(record, enqueueResult record endNs enqueued)]).filter
      fun r => r.2.enqueued).map Prod.fst =
      s.accepted ++ if enqueued then [record] else [] := by
  cases enqueued <;> simp [accepted, enqueueResult]

theorem refused_concat (s : BatchWriterSystem) (record : QueuedJsonlRecord) (endNs : ℤ)
    (enqueued : Bool) :
    ((s.results ++ [(record, enqueueResult record endNs enqueued)]).filter
      fun r => r.2.dropped).map Prod.fst =
      s.refused ++ if enqueued then [] else [record] := by
  cases enqueued <;> simp [refused, enqueueResult]

theorem start_same (s : BatchWriterSystem) :
    s.start.results = s.results ∧ s.start.files = s.files ∧ s.start.producer = s.producer ∧
      s.start.todo = s.todo ∧ s.start.writer = { s.writer with started := true } := by
  rw [start]
  split
  · rename_i h
    refine ⟨rfl, rfl, rfl, rfl, ?_⟩
    rw [← h]
  · exact ⟨rfl, rfl, rfl, rfl, rfl⟩

theorem answered_producerStep {rows : List (String × Json)} {s : BatchWriterSystem}
    (h : Answered rows s) (clock : ℤ) (timeout : Bool) :
    Answered rows (s.producerStep clock timeout) := by
  obtain ⟨⟨begun, hrows, hnames⟩, henqueued, hdropped⟩ := h
  rw [producerStep]
  cases hphase : s.producer with
  | ready =>
      rw [hphase] at hnames
      dsimp only
      split
      · rename_i path row todo htodo
        obtain ⟨hresults, -, -, -, hwriter⟩ := start_same s
        refine ⟨⟨begun ++ [(path, row)], ?_, ?_⟩, ?_, ?_⟩
        · rw [hrows, htodo, List.append_assoc]
          rfl
        · have hresults' : List.Forall₂ Names begun (s.results.map Prod.fst) := by
            simpa [ProducerPhase.inHand] using hnames
          rw [hresults]
          exact List.rel_append hresults' (.cons ⟨rfl, rfl⟩ .nil)
        · have haccepted : s.start.accepted = s.accepted := by rw [accepted, hresults, accepted]
          rw [accepted, hwriter]
          exact henqueued.trans (congrArg List.length haccepted.symm)
        · have hrefused : s.start.refused = s.refused := by rw [refused, hresults, refused]
          rw [refused, hwriter]
          exact hdropped.trans (congrArg List.length hrefused.symm)
      · split
        · exact ⟨⟨begun, hrows, hnames⟩, henqueued, hdropped⟩
        split <;> exact ⟨⟨begun, hrows, hnames⟩, henqueued, hdropped⟩
  | putting record =>
      rw [hphase] at hnames
      dsimp only
      split <;> exact ⟨⟨begun, hrows, hnames⟩, henqueued, hdropped⟩
  | dropping record =>
      rw [hphase] at hnames
      refine ⟨⟨begun, hrows, ?_⟩, ?_, ?_⟩
      · simpa [ProducerPhase.inHand] using hnames
      · rw [accepted, accepted_concat]
        simpa using henqueued
      · rw [refused, refused_concat]
        simpa using hdropped
  | counting record =>
      rw [hphase] at hnames
      refine ⟨⟨begun, hrows, ?_⟩, ?_, ?_⟩
      · simpa [ProducerPhase.inHand] using hnames
      · rw [accepted, accepted_concat]
        simpa using henqueued
      · rw [refused, refused_concat]
        simpa using hdropped
  | stopping =>
      rw [hphase] at hnames
      exact ⟨⟨begun, hrows, hnames⟩, henqueued, hdropped⟩
  | joining =>
      rw [hphase] at hnames
      dsimp only
      split
      · exact ⟨⟨begun, hrows, hnames⟩, henqueued, hdropped⟩
      · exact ⟨⟨begun, hrows, by rwa [hphase]⟩, henqueued, hdropped⟩
  | checkingThread =>
      rw [hphase] at hnames
      dsimp only
      split <;> exact ⟨⟨begun, hrows, hnames⟩, henqueued, hdropped⟩
  | checkingQueue =>
      rw [hphase] at hnames
      exact ⟨⟨begun, hrows, hnames⟩, henqueued, hdropped⟩
  | done alive =>
      rw [hphase] at hnames
      exact ⟨⟨begun, hrows, by rwa [hphase]⟩, henqueued, hdropped⟩

/-- What a step of the thread leaves alone. -/
structure SameProducer (s s' : BatchWriterSystem) : Prop where
  producer : s'.producer = s.producer
  todo : s'.todo = s.todo
  results : s'.results = s.results
  enqueued : s'.writer.recordsEnqueued = s.writer.recordsEnqueued
  dropped : s'.writer.droppedRecords = s.writer.droppedRecords
  stop : s'.writer.stop = s.writer.stop
  started : s'.writer.started = s.writer.started
  closed : s'.writer.closed = s.writer.closed
  completed : s'.writer.shutdownFlushCompleted = s.writer.shutdownFlushCompleted

theorem threadStep_same (s : BatchWriterSystem) (clock : ℤ) (timeout raises : Bool) :
    SameProducer s (s.threadStep clock timeout raises) := by
  have refl : SameProducer s s := ⟨rfl, rfl, rfl, rfl, rfl, rfl, rfl, rfl, rfl⟩
  rw [threadStep]
  cases s.thread with
  | notStarted => exact refl
  | testingStop => exact ⟨rfl, rfl, rfl, rfl, rfl, rfl, rfl, rfl, rfl⟩
  | testingEmpty => exact ⟨rfl, rfl, rfl, rfl, rfl, rfl, rfl, rfl, rfl⟩
  | getting =>
      dsimp only
      split
      · exact ⟨rfl, rfl, rfl, rfl, rfl, rfl, rfl, rfl, rfl⟩
      · split
        · exact ⟨rfl, rfl, rfl, rfl, rfl, rfl, rfl, rfl, rfl⟩
        · exact refl
  | filling batch =>
      dsimp only
      split
      · split <;> exact ⟨rfl, rfl, rfl, rfl, rfl, rfl, rfl, rfl, rfl⟩
      · exact ⟨rfl, rfl, rfl, rfl, rfl, rfl, rfl, rfl, rfl⟩
  | flushing rest written =>
      dsimp only
      split
      · exact ⟨rfl, rfl, rfl, rfl, rfl, rfl, rfl, rfl, rfl⟩
      · split <;> exact ⟨rfl, rfl, rfl, rfl, rfl, rfl, rfl, rfl, rfl⟩
  | recording written => exact ⟨rfl, rfl, rfl, rfl, rfl, rfl, rfl, rfl, rfl⟩
  | finished => exact refl

theorem answered_threadStep {rows : List (String × Json)} {s : BatchWriterSystem}
    (h : Answered rows s) (clock : ℤ) (timeout raises : Bool) :
    Answered rows (s.threadStep clock timeout raises) := by
  have hsame := threadStep_same s clock timeout raises
  obtain ⟨⟨begun, hrows, hnames⟩, henqueued, hdropped⟩ := h
  refine ⟨⟨begun, ?_, ?_⟩, ?_, ?_⟩
  · rw [hsame.todo]
    exact hrows
  · rw [hsame.results, hsame.producer]
    exact hnames
  · rw [hsame.enqueued, accepted, hsame.results]
    exact henqueued
  · rw [hsame.dropped, refused, hsame.results]
    exact hdropped

/-! ### What is written -/

/-- A line of a file carries a record. -/
def Carries (record : QueuedJsonlRecord) (line : Json) : Prop :=
  ∃ ns, line = withFileWriteTimestamps record.row ns ns

/-- The records of a path. -/
def ofPath (path : String) (records : List QueuedJsonlRecord) : List QueuedJsonlRecord :=
  records.filter fun record => record.path = path

/-- The rows a path has received. -/
def received (s : BatchWriterSystem) (path : String) : List Json :=
  (s.files.get? path).getD []

theorem ofPath_concat (path : String) (records : List QueuedJsonlRecord)
    (record : QueuedJsonlRecord) :
    ofPath path (records ++ [record]) =
      ofPath path records ++ if record.path = path then [record] else [] := by
  rw [ofPath, List.filter_append]
  by_cases hpath : record.path = path <;> simp [ofPath, hpath]

end BatchWriterSystem

/-- The records the thread has taken and not written. -/
def ThreadPhase.held : ThreadPhase → List QueuedJsonlRecord
  | .filling batch => batch
  | .flushing rest _ => rest
  | _ => []

/-- The records the thread has written and not counted. -/
def ThreadPhase.uncounted : ThreadPhase → ℕ
  | .flushing _ written | .recording written => written
  | _ => 0

namespace BatchWriterSystem

/-- The records put on the queue are some that are written, in this order, those the thread
holds and those on the queue. -/
structure Flows (s : BatchWriterSystem) (written : List QueuedJsonlRecord) : Prop where
  put : s.put = written ++ s.thread.held ++ s.writer.queue
  files : ∀ path, List.Forall₂ Carries (ofPath path written) (s.received path)
  counted : s.writer.recordsWritten + s.thread.uncounted = written.length

/-- Without an error, everything flows. -/
def FlowsUnlessError (s : BatchWriterSystem) : Prop :=
  s.writer.errorCount = 0 → ∃ written, Flows s written

/-- Records that move from the queue to the thread, and rows that are counted, flow on. -/
theorem FlowsUnlessError.move {s s' : BatchWriterSystem} (h : FlowsUnlessError s)
    (herror : s'.writer.errorCount = s.writer.errorCount) (hput : s'.put = s.put)
    (hfiles : s'.files = s.files)
    (hheld : s'.thread.held ++ s'.writer.queue = s.thread.held ++ s.writer.queue)
    (hcounted : s'.writer.recordsWritten + s'.thread.uncounted =
      s.writer.recordsWritten + s.thread.uncounted) : FlowsUnlessError s' := by
  intro hzero
  obtain ⟨written, hflows⟩ := h (herror ▸ hzero)
  refine ⟨written, ?_, fun path => ?_, hcounted.trans hflows.counted⟩
  · rw [hput, hflows.put, List.append_assoc, List.append_assoc, hheld]
  · rw [received, hfiles]
    exact hflows.files path

theorem flows_writeRow {s : BatchWriterSystem} {written rest : List QueuedJsonlRecord}
    {record : QueuedJsonlRecord} {n : ℕ} (hthread : s.thread = .flushing (record :: rest) n)
    (h : Flows s written) (clock : ℤ) :
    Flows { s.writeRow record clock with thread := .flushing rest (n + 1) }
      (written ++ [record]) := by
  obtain ⟨hput, hfiles, hcounted⟩ := h
  rw [hthread] at hput hcounted
  refine ⟨?_, fun path => ?_, ?_⟩
  · have hsame : s.put = written ++ (record :: rest) ++ s.writer.queue := hput
    rw [List.append_assoc written, List.singleton_append]
    exact hsame
  · have hfile : received { s.writeRow record clock with
        thread := .flushing rest (n + 1) } path =
      ((s.files.set record.path (s.received record.path ++
        [withFileWriteTimestamps record.row clock clock])).get? path).getD [] := rfl
    rw [hfile, Dict.get?_set, ofPath_concat]
    by_cases hpath : record.path = path
    · rw [if_pos hpath, if_pos hpath, hpath]
      exact List.rel_append (hfiles path) (.cons ⟨clock, rfl⟩ .nil)
    · rw [if_neg hpath, if_neg hpath, List.append_nil]
      exact hfiles path
  · have hlength : s.writer.recordsWritten + n = written.length := hcounted
    rw [List.length_append, List.length_singleton, ← hlength]
    exact (Nat.add_assoc ..).symm

/-- **A step of the thread moves records** from the queue to the batch and from the batch to
the files. -/
theorem flows_threadStep {s : BatchWriterSystem} (h : FlowsUnlessError s) (clock : ℤ)
    (timeout raises : Bool) : FlowsUnlessError (s.threadStep clock timeout raises) := by
  rw [threadStep]
  cases hthread : s.thread with
  | notStarted => exact h
  | testingStop =>
      refine h.move rfl rfl rfl ?_ ?_ <;> dsimp only <;> rw [hthread] <;> split <;> rfl
  | testingEmpty =>
      refine h.move rfl rfl rfl ?_ ?_ <;> dsimp only <;> rw [hthread] <;> split <;> rfl
  | getting =>
      dsimp only
      split
      · rename_i record queue hqueue
        refine h.move rfl rfl rfl ?_ ?_
        · rw [hthread, hqueue]
          rfl
        · rw [hthread]
          rfl
      · split
        · refine h.move rfl rfl rfl ?_ ?_ <;> rw [hthread] <;> rfl
        · exact h
  | filling batch =>
      dsimp only
      split
      · split
        · rename_i record queue hqueue
          refine h.move rfl rfl rfl ?_ ?_
          · rw [hthread, hqueue]
            exact List.append_assoc batch [record] queue
          · rw [hthread]
            rfl
        · refine h.move rfl rfl rfl ?_ ?_ <;> rw [hthread] <;> rfl
      · refine h.move rfl rfl rfl ?_ ?_ <;> rw [hthread] <;> rfl
  | flushing rest n =>
      dsimp only
      split
      · intro herror
        exact absurd herror (Nat.succ_ne_zero _)
      · split
        · rename_i record rest
          intro herror
          obtain ⟨written, hflows⟩ := h herror
          exact ⟨written ++ [record], flows_writeRow hthread hflows clock⟩
        · refine h.move rfl rfl rfl ?_ ?_ <;> rw [hthread] <;> rfl
  | recording n => refine h.move rfl rfl rfl ?_ ?_ <;> rw [hthread] <;> rfl
  | finished => exact h

theorem put_congr {s s' : BatchWriterSystem} (hresults : s'.results = s.results)
    (hjustPut : s'.producer.justPut = s.producer.justPut) : s'.put = s.put := by
  rw [put, put, accepted, accepted, hresults, hjustPut]

/-- A thread that is only started holds what it held: nothing. -/
theorem start_holds {s : BatchWriterSystem}
    (hstart : s.writer.started = false → s.thread.held = [] ∧ s.thread.uncounted = 0) :
    s.start.thread.held = s.thread.held ∧ s.start.thread.uncounted = s.thread.uncounted := by
  rw [start]
  by_cases hstarted : s.writer.started = true
  · rw [if_pos hstarted]
    exact ⟨rfl, rfl⟩
  · obtain ⟨hheld, huncounted⟩ := hstart (Bool.not_eq_true _ ▸ hstarted)
    rw [if_neg hstarted, hheld, huncounted]
    exact ⟨rfl, rfl⟩

/-- **A step of the producer** at most puts a record on the queue. -/
theorem flows_producerStep {s : BatchWriterSystem} (h : FlowsUnlessError s)
    (hstart : s.writer.started = false → s.thread.held = [] ∧ s.thread.uncounted = 0)
    (clock : ℤ) (timeout : Bool) : FlowsUnlessError (s.producerStep clock timeout) := by
  -- outside the putting of a record, a step only moves the producer on
  have moved {s' : BatchWriterSystem} (herror : s'.writer.errorCount = s.writer.errorCount)
      (hput : s'.put = s.put) (hfiles : s'.files = s.files) (hthread : s'.thread = s.thread)
      (hqueue : s'.writer.queue = s.writer.queue)
      (hwritten : s'.writer.recordsWritten = s.writer.recordsWritten) : FlowsUnlessError s' :=
    h.move herror hput hfiles (by rw [hthread, hqueue]) (by rw [hthread, hwritten])
  rw [producerStep]
  cases hphase : s.producer with
  | ready =>
      have hready {phase : ProducerPhase} (hphase' : phase.justPut = []) :
          phase.justPut = s.producer.justPut := by rwa [hphase]
      dsimp only
      split
      · obtain ⟨hresults, hfiles, -, -, hwriter⟩ := start_same s
        obtain ⟨hheld, huncounted⟩ := start_holds hstart
        refine h.move ?_ (put_congr hresults (hready rfl)) hfiles ?_ ?_
        · rw [hwriter]
        · rw [hwriter]
          exact congrArg (· ++ s.writer.queue) hheld
        · rw [hwriter]
          exact congrArg (s.writer.recordsWritten + ·) huncounted
      split
      · exact moved rfl (put_congr rfl (hready rfl)) rfl rfl rfl rfl
      split
      · exact moved rfl (put_congr rfl (hready rfl)) rfl rfl rfl rfl
      · exact moved rfl (put_congr rfl (hready rfl)) rfl rfl rfl rfl
  | putting record =>
      dsimp only
      split
      · exact moved rfl (put_congr rfl (by rw [hphase]; rfl)) rfl rfl rfl rfl
      · intro herror
        obtain ⟨written, hput, hfiles, hcounted⟩ := h herror
        refine ⟨written, ?_, hfiles, hcounted⟩
        rw [put, hphase] at hput
        have haccepted : s.accepted = written ++ s.thread.held ++ s.writer.queue := by
          simpa [ProducerPhase.justPut] using hput
        have hafter : s.accepted ++ [record] =
            written ++ s.thread.held ++ (s.writer.queue ++ [record]) := by
          rw [haccepted, List.append_assoc _ s.writer.queue]
        exact hafter
  | dropping record =>
      refine moved rfl ?_ rfl rfl rfl rfl
      rw [put, put, accepted, accepted_concat, hphase]
      simp [ProducerPhase.justPut]
  | counting record =>
      refine moved rfl ?_ rfl rfl rfl rfl
      rw [put, put, accepted, accepted_concat, hphase]
      simp [ProducerPhase.justPut]
  | stopping => exact moved rfl (put_congr rfl (by rw [hphase]; rfl)) rfl rfl rfl rfl
  | joining =>
      dsimp only
      split
      · exact moved rfl (put_congr rfl (by rw [hphase]; rfl)) rfl rfl rfl rfl
      · exact h
  | checkingThread =>
      dsimp only
      split
      · exact moved rfl (put_congr rfl (by rw [hphase]; rfl)) rfl rfl rfl rfl
      · exact moved rfl (put_congr rfl (by rw [hphase]; rfl)) rfl rfl rfl rfl
  | checkingQueue => exact moved rfl (put_congr rfl (by rw [hphase]; rfl)) rfl rfl rfl rfl
  | done alive => exact h

end BatchWriterSystem

/-! ### How the threads are placed -/

/-- Whether the thread saw that it was told to stop. -/
def ThreadPhase.sawStop : ThreadPhase → Bool
  | .testingEmpty | .finished => true
  | _ => false

namespace BatchWriterSystem

/-- Where the two threads can be: nothing happens before the start, nothing is put on the
queue after the stop, and the thread ends after the stop with an empty queue. -/
structure Phased (s : BatchWriterSystem) : Prop where
  notStarted : s.writer.started = false →
    s.thread = .notStarted ∧ s.results = [] ∧ s.writer.queue = [] ∧ s.producer.inHand = []
  stopped : s.writer.stop = true → s.producer.hasStopped = true
  sawStop : s.thread.sawStop = true → s.writer.stop = true
  drained : s.thread.isFinished = true → s.writer.queue = []
  called : s.producer.isClosing = true → s.todo = []
  closed : s.writer.closed = true → s.producer.isClosing = true
  checked : s.producer = .checkingQueue → s.thread.isFinished = true
  done : s.producer = .done false → s.writer.shutdownFlushCompleted = true ∧
    (s.writer.started = false ∨ s.thread.isFinished = true)

theorem phased_init (batchSize queueMaxSize : ℤ) (rows : List (String × Json)) :
    Phased (.init batchSize queueMaxSize rows) where
  notStarted _ := ⟨rfl, rfl, rfl, rfl⟩
  stopped h := nomatch h
  sawStop h := nomatch h
  drained h := nomatch h
  called h := nomatch h
  closed h := nomatch h
  checked h := nomatch h
  done h := nomatch h

/-- The thread sees the stop only when there is one, and ends only with an empty queue. -/
theorem threadStep_sawStop {s : BatchWriterSystem}
    (hsaw : s.thread.sawStop = true → s.writer.stop = true)
    (hdrained : s.thread.isFinished = true → s.writer.queue = []) (clock : ℤ)
    (timeout raises : Bool) :
    ((s.threadStep clock timeout raises).thread.sawStop = true → s.writer.stop = true) ∧
      ((s.threadStep clock timeout raises).thread.isFinished = true →
        (s.threadStep clock timeout raises).writer.queue = []) := by
  rw [threadStep]
  cases hthread : s.thread with
  | notStarted => exact ⟨hsaw, hdrained⟩
  | testingStop =>
      by_cases hstop : s.writer.stop = true
      · exact ⟨fun _ => hstop, fun h => by simp [hstop, ThreadPhase.isFinished] at h⟩
      · exact ⟨fun h => by simp [hstop, ThreadPhase.sawStop] at h,
          fun h => by simp [hstop, ThreadPhase.isFinished] at h⟩
  | testingEmpty =>
      refine ⟨fun _ => hsaw (by rw [hthread]; rfl), fun h => ?_⟩
      by_cases hqueue : s.writer.queue.isEmpty = true
      · exact List.isEmpty_iff.mp hqueue
      · simp [hqueue, ThreadPhase.isFinished] at h
  | getting =>
      dsimp only
      split
      · exact ⟨nofun, nofun⟩
      · split
        · exact ⟨nofun, nofun⟩
        · exact ⟨hsaw, hdrained⟩
  | filling batch =>
      dsimp only
      split
      · split <;> exact ⟨nofun, nofun⟩
      · exact ⟨nofun, nofun⟩
  | flushing rest n =>
      dsimp only
      split
      · exact ⟨nofun, nofun⟩
      · split <;> exact ⟨nofun, nofun⟩
  | recording n => exact ⟨nofun, nofun⟩
  | finished => exact ⟨hsaw, hdrained⟩

theorem phased_threadStep {s : BatchWriterSystem} (h : Phased s) (clock : ℤ)
    (timeout raises : Bool) : Phased (s.threadStep clock timeout raises) := by
  have hsame := threadStep_same s clock timeout raises
  obtain ⟨hsaw, hdrained⟩ := threadStep_sawStop h.sawStop h.drained clock timeout raises
  have hended : s.thread.isFinished = true →
      (s.threadStep clock timeout raises).thread.isFinished = true := by
    intro hfinished
    cases hthread : s.thread with
    | finished =>
        have hfixed : s.threadStep clock timeout raises = s := by rw [threadStep, hthread]
        rw [hfixed, hthread]
        rfl
    | _ =>
        rw [hthread] at hfinished
        cases hfinished
  refine ⟨fun hstarted => ?_, fun hstop => ?_, fun hs => ?_, hdrained, fun hclosing => ?_,
    fun hclosed => ?_, fun hchecked => ?_, fun hdone => ?_⟩
  · rw [hsame.started] at hstarted
    have hnot := h.notStarted hstarted
    have hfixed : s.threadStep clock timeout raises = s := by rw [threadStep, hnot.1]
    rwa [hfixed]
  · rw [hsame.stop] at hstop
    rw [hsame.producer]
    exact h.stopped hstop
  · rw [hsame.stop]
    exact hsaw hs
  · rw [hsame.producer] at hclosing
    rw [hsame.todo]
    exact h.called hclosing
  · rw [hsame.closed] at hclosed
    rw [hsame.producer]
    exact h.closed hclosed
  · rw [hsame.producer] at hchecked
    exact hended (h.checked hchecked)
  · rw [hsame.producer] at hdone
    obtain ⟨hcompleted, hthread⟩ := h.done hdone
    rw [hsame.completed, hsame.started]
    exact ⟨hcompleted, hthread.imp id hended⟩

theorem start_sawStop {s : BatchWriterSystem} :
    (s.start.thread.sawStop = true → s.thread.sawStop = true) ∧
      (s.start.thread.isFinished = true → s.thread.isFinished = true) := by
  rw [start]
  split
  · exact ⟨id, id⟩
  · exact ⟨nofun, nofun⟩

theorem phased_producerStep {s : BatchWriterSystem} (h : Phased s) (clock : ℤ)
    (timeout : Bool) : Phased (s.producerStep clock timeout) := by
  obtain ⟨hnot, hstopped, hsaw, hdrained, hcalled, hclosed, hchecked, hdone⟩ := h
  -- before it has stopped the thread, the producer may assume that it runs
  have running (hphase : s.producer.hasStopped = false) : s.writer.stop = false := by
    rw [← Bool.not_eq_true]
    intro hstop
    rw [hstopped hstop] at hphase
    cases hphase
  rw [producerStep]
  cases hphase : s.producer with
  | ready =>
      rw [hphase] at hclosed hnot running
      dsimp only
      split
      · obtain ⟨-, -, -, -, hwriter⟩ := start_same s
        obtain ⟨hsaw', hended⟩ := start_sawStop (s := s)
        have hrun := running rfl
        refine ⟨?_, ?_, ?_, ?_, nofun, ?_, nofun, nofun⟩
        · rw [hwriter]
          exact nofun
        · rw [hwriter]
          intro hstop
          rw [show s.writer.stop = true from hstop] at hrun
          cases hrun
        · rw [hwriter]
          exact fun hs => hsaw (hsaw' hs)
        · rw [hwriter]
          exact fun hs => hdrained (hended hs)
        · rw [hwriter]
          exact hclosed
      · rename_i htodo
        split
        · rename_i h
          cases hclosed h
        have hrun := running rfl
        have notStop : s.writer.stop = true → ProducerPhase.hasStopped .stopping = true := by
          rw [hrun]
          exact nofun
        split
        · rename_i hstarted
          exact ⟨hnot, fun _ => rfl, hsaw, hdrained, fun _ => htodo, fun _ => rfl, nofun,
            fun _ => ⟨rfl, .inl hstarted⟩⟩
        · exact ⟨hnot, notStop, hsaw, hdrained, fun _ => htodo, fun _ => rfl, nofun, nofun⟩
  | putting record =>
      rw [hphase] at hstopped hclosed hnot running
      dsimp only
      split
      · exact ⟨hnot, hstopped, hsaw, hdrained, nofun, hclosed, nofun, nofun⟩
      · have hrun := running rfl
        refine ⟨fun hstarted => ?_, hstopped, hsaw, fun hended => ?_, nofun, hclosed, nofun,
          nofun⟩
        · cases (hnot hstarted).2.2.2
        · have hstop : s.writer.stop = true := hsaw (by
            cases hthread : s.thread <;> rw [hthread] at hended <;>
              first | rfl | cases hended)
          rw [hstop] at hrun
          cases hrun
  | dropping record =>
      rw [hphase] at hstopped hclosed hnot
      exact ⟨fun hstarted => (nomatch (hnot hstarted).2.2.2), hstopped, hsaw, hdrained, nofun,
        hclosed, nofun, nofun⟩
  | counting record =>
      rw [hphase] at hstopped hclosed hnot
      exact ⟨fun hstarted => (nomatch (hnot hstarted).2.2.2), hstopped, hsaw, hdrained, nofun,
        hclosed, nofun, nofun⟩
  | stopping =>
      rw [hphase] at hcalled hnot
      exact ⟨hnot, fun _ => rfl, fun _ => rfl, hdrained, hcalled, fun _ => rfl, nofun, nofun⟩
  | joining =>
      dsimp only
      split
      · rw [hphase] at hcalled hnot
        exact ⟨hnot, fun _ => rfl, hsaw, hdrained, hcalled, fun _ => rfl, nofun, nofun⟩
      · exact ⟨hnot, hstopped, hsaw, hdrained, hcalled, hclosed, hchecked, hdone⟩
  | checkingThread =>
      rw [hphase] at hcalled hnot
      dsimp only
      split
      · rename_i hended
        exact ⟨hnot, fun _ => rfl, hsaw, hdrained, hcalled, fun _ => rfl, fun _ => hended, nofun⟩
      · exact ⟨hnot, fun _ => rfl, hsaw, hdrained, hcalled, fun _ => rfl, nofun, nofun⟩
  | checkingQueue =>
      have hended := hchecked hphase
      rw [hphase] at hcalled hnot
      refine ⟨hnot, fun _ => rfl, hsaw, hdrained, hcalled, fun _ => rfl, nofun,
        fun _ => ⟨?_, .inr hended⟩⟩
      rw [hdrained hended]
      rfl
  | done alive => exact ⟨hnot, hstopped, hsaw, hdrained, hcalled, hclosed, hchecked, hdone⟩

/-! ### Runs -/

/-- The invariant of the writer and its threads. -/
structure Sound (rows : List (String × Json)) (s : BatchWriterSystem) : Prop where
  answered : Answered rows s
  flows : FlowsUnlessError s
  phased : Phased s

theorem sound_init (batchSize queueMaxSize : ℤ) (rows : List (String × Json)) :
    Sound rows (.init batchSize queueMaxSize rows) where
  answered := ⟨⟨[], rfl, .nil⟩, rfl, rfl⟩
  flows := fun _ => ⟨[], rfl, fun _ => .nil, rfl⟩
  phased := phased_init batchSize queueMaxSize rows

theorem sound_next {rows : List (String × Json)} {s : BatchWriterSystem} (h : Sound rows s)
    (turn : BatchWriterTurn) : Sound rows (batchWriterMachine.next s turn) := by
  cases turn with
  | producer clock timeout =>
      refine ⟨answered_producerStep h.answered clock timeout,
        flows_producerStep h.flows (fun hstarted => ?_) clock timeout,
        phased_producerStep h.phased clock timeout⟩
      rw [(h.phased.notStarted hstarted).1]
      exact ⟨rfl, rfl⟩
  | thread clock timeout raises =>
      exact ⟨answered_threadStep h.answered clock timeout raises,
        flows_threadStep h.flows clock timeout raises,
        phased_threadStep h.phased clock timeout raises⟩

theorem sound_exec (batchSize queueMaxSize : ℤ) (rows : List (String × Json))
    (turns : List BatchWriterTurn) :
    Sound rows (batchWriterMachine.exec (.init batchSize queueMaxSize rows) turns) :=
  batchWriterMachine.exec_invariant (I := Sound rows) (fun _ turn hs => sound_next hs turn)
    (sound_init batchSize queueMaxSize rows) turns

/-- What is known of a writer after it was closed and has ended without an error. -/
structure Delivered (rows : List (String × Json)) (s : BatchWriterSystem) : Prop where
  completed : s.writer.shutdownFlushCompleted = true
  /-- The results are those of the rows, in order. -/
  answered : List.Forall₂ Names rows (s.results.map Prod.fst)
  /-- Each path has received the accepted rows for it, once each and in order. -/
  received : ∀ path, List.Forall₂ Carries (ofPath path s.accepted) (s.received path)
  written : s.writer.recordsWritten = s.writer.recordsEnqueued
  enqueued : s.writer.recordsEnqueued = s.accepted.length
  dropped : s.writer.droppedRecords = s.refused.length

end BatchWriterSystem

open BatchWriterSystem

/-- **The batch writer loses and duplicates nothing**: in every interleaving of a producer
that enqueues rows and closes with the thread, when no flush has raised and closing found the
thread ended, the rows that were accepted are those that are written. -/
theorem JsonlBatchWriter.loses_nothing (batchSize queueMaxSize : ℤ)
    (rows : List (String × Json)) (turns : List BatchWriterTurn)
    (hclosed : (batchWriterMachine.exec (.init batchSize queueMaxSize rows) turns).producer =
      .done false)
    (hraised : (batchWriterMachine.exec (.init batchSize queueMaxSize rows)
      turns).writer.errorCount = 0) :
    Delivered rows (batchWriterMachine.exec (.init batchSize queueMaxSize rows) turns) := by
  have hsound := sound_exec batchSize queueMaxSize rows turns
  generalize batchWriterMachine.exec (.init batchSize queueMaxSize rows) turns = s at *
  obtain ⟨⟨⟨begun, hrows, hnames⟩, henqueued, hdropped⟩, hflows, hphased⟩ := hsound
  obtain ⟨written, hput, hfiles, hcounted⟩ := hflows hraised
  obtain ⟨hcompleted, hthread⟩ := hphased.done hclosed
  have htodo : s.todo = [] := hphased.called (by rw [hclosed]; rfl)
  -- the thread holds nothing, and nothing is queued
  have hempty : s.thread.held = [] ∧ s.thread.uncounted = 0 ∧ s.writer.queue = [] := by
    rcases hthread with hstarted | hended
    · obtain ⟨hnot, -, hqueue, -⟩ := hphased.notStarted hstarted
      rw [hnot]
      exact ⟨rfl, rfl, hqueue⟩
    · refine ⟨?_, ?_, hphased.drained hended⟩ <;> cases hphase : s.thread <;>
        rw [hphase] at hended <;> first | rfl | cases hended
  obtain ⟨hheld, huncounted, hqueue⟩ := hempty
  have hwritten : s.accepted = written := by
    rw [put, hclosed, hheld, hqueue, List.append_nil, List.append_nil] at hput
    simpa [ProducerPhase.justPut] using hput
  rw [htodo, List.append_nil] at hrows
  refine ⟨hcompleted, ?_, ?_, ?_, henqueued, hdropped⟩
  · rw [hclosed] at hnames
    rw [hrows]
    simpa [ProducerPhase.inHand] using hnames
  · rw [hwritten]
    exact hfiles
  · rw [henqueued, hwritten, ← hcounted, huncounted, Nat.add_zero]

/-- A run in which the thread finds the row only after it was told to stop. -/
def lateTurns : List BatchWriterTurn :=
  List.replicate 5 (.producer 1 false) ++ List.replicate 9 (.thread 2 false false) ++
    List.replicate 3 (.producer 3 false)

theorem JsonlBatchWriter.loses_nothing_lateTurns :
    Delivered [("rows.jsonl", .obj [("value", .int 1)])]
      (batchWriterMachine.exec (.init 1 1 [("rows.jsonl", .obj [("value", .int 1)])])
        lateTurns) :=
  loses_nothing 1 1 _ lateTurns rfl rfl

end SomethingTrade
