import SomethingTrade.Dict

/-!
# The Event Logger

Observations are logged through a queue: whoever logs one puts it on the queue and goes on, and
a worker takes them off and appends the line of each to the file of its day, in a thread that it
awaits. Closing puts an end mark on the queue and awaits the worker, which ends at the mark. An
append that fails ends the worker too, but not the logger: what is logged later still goes on
the queue, where nothing takes it.

## Representation

* The logger is generic in the events. The file of an event, by the day of its time, is a
  parameter, and a line is the event it is the text of.
* The queue is unbounded, so that putting an event on it never waits. Closing has two steps,
  before and after the worker is awaited.
* An append may raise after a part of its line was written; such a line is torn.

## Main results

* `Logs`: the events written, in flight and queued are those logged, in order, and each file has
  the lines of its events.
* `AsyncJsonlEventLogger.Standing`: where the end mark is, as long as nothing is logged after it.
-/

namespace SomethingTrade

/-- A line of a log file. -/
inductive LogLine (α : Type)
  /-- The line of an event. -/
  | whole (event : α)
  /-- A part of it. -/
  | torn (event : α)
  deriving DecidableEq

/-- What the worker of a logger does. -/
inductive LogWorker (α : Type)
  /-- There is no worker. -/
  | absent
  /-- It awaits the queue. -/
  | waiting
  /-- It awaits the thread that appends an event. -/
  | appending (event : α)
  /-- It has taken the end mark. -/
  | returned
  /-- The append of an event has raised; its line may be torn. -/
  | raised (event : α) (torn : Bool)
  deriving DecidableEq

/-- A worker was started and has not ended at the mark. -/
def LogWorker.serves {α : Type} : LogWorker α → Bool
  | .absent | .returned => false
  | _ => true

/-- A logger. The end mark is `none`. -/
structure AsyncJsonlEventLogger (α : Type) where
  queue : List (Option α)
  worker : LogWorker α
  files : Dict String (List (LogLine α))
  deriving DecidableEq

/-- A step of the worker. -/
inductive LogStep
  /-- It takes the front of the queue. -/
  | takes
  /-- The thread has appended the line. -/
  | appends
  /-- The thread raises. -/
  | raises (torn : Bool)

namespace AsyncJsonlEventLogger

variable {α : Type}

/-- A logger without a worker. -/
def init : AsyncJsonlEventLogger α := ⟨[], .absent, .empty⟩

/-- Start the worker, unless there is one. -/
def start (l : AsyncJsonlEventLogger α) : AsyncJsonlEventLogger α :=
  match l.worker with
  | .absent => { l with worker := .waiting }
  | _ => l

/-- Log an event. -/
def log (l : AsyncJsonlEventLogger α) (event : α) : AsyncJsonlEventLogger α :=
  { l.start with queue := l.start.queue ++ [some event] }

/-- Close the logger, up to where the worker is awaited. -/
def close (l : AsyncJsonlEventLogger α) : AsyncJsonlEventLogger α :=
  match l.worker with
  | .absent => l
  | _ => { l with queue := l.queue ++ [none] }

/-- The rest of closing, once the worker has ended. It raises what the worker raised. -/
def joined (l : AsyncJsonlEventLogger α) : AsyncJsonlEventLogger α :=
  match l.worker with
  | .returned => { l with worker := .absent }
  | _ => l

/-- Append a line to a file. -/
def append (l : AsyncJsonlEventLogger α) (path : String) (line : LogLine α) :
    AsyncJsonlEventLogger α :=
  { l with files := l.files.set path ((l.files.get? path).getD [] ++ [line]) }

/-- The worker takes the front of the queue. -/
def takes (l : AsyncJsonlEventLogger α) : AsyncJsonlEventLogger α :=
  match l.worker, l.queue with
  | .waiting, some event :: queue => { l with queue := queue, worker := .appending event }
  | .waiting, none :: queue => { l with queue := queue, worker := .returned }
  | _, _ => l

/-- A step of the worker, and the event it has written. A step that the worker cannot take leaves
everything where it is. -/
def run (pathForEvent : α → String) (l : AsyncJsonlEventLogger α) (step : LogStep) :
    AsyncJsonlEventLogger α × Option α :=
  match step, l.worker with
  | .takes, _ => (l.takes, none)
  | .appends, .appending event =>
      ({ l.append (pathForEvent event) (.whole event) with worker := .waiting }, some event)
  | .raises true, .appending event =>
      ({ l.append (pathForEvent event) (.torn event) with worker := .raised event true }, none)
  | .raises false, .appending event => ({ l with worker := .raised event false }, none)
  | _, _ => (l, none)

/-! ### What a logger holds -/

/-- The event that was taken off the queue and is not written. -/
def inFlight (l : AsyncJsonlEventLogger α) : List α :=
  match l.worker with
  | .appending event | .raised event _ => [event]
  | _ => []

/-- The events that were logged and are not written. -/
def held (l : AsyncJsonlEventLogger α) : List α := l.inFlight ++ l.queue.filterMap id

/-- The torn line at the end of a file. -/
def tornLine (pathForEvent : α → String) (l : AsyncJsonlEventLogger α) (path : String) :
    List (LogLine α) :=
  match l.worker with
  | .raised event true => if pathForEvent event = path then [.torn event] else []
  | _ => []

/-- The lines of a file. -/
def lines (l : AsyncJsonlEventLogger α) (path : String) : List (LogLine α) :=
  (l.files.get? path).getD []

theorem lines_append (l : AsyncJsonlEventLogger α) (path : String) (line : LogLine α)
    (other : String) :
    (l.append path line).lines other =
      l.lines other ++ if path = other then [line] else [] := by
  rw [append, lines, lines, Dict.get?_set]
  split
  · rename_i h
    rw [h]
    rfl
  · exact (List.append_nil _).symm

end AsyncJsonlEventLogger

open AsyncJsonlEventLogger

/-! ### Nothing is lost -/

/-- The events logged are those written, and then those held, in order; and each file has the
lines of the events that were written to it, in order. -/
structure Logs {α : Type} (pathForEvent : α → String) (logged written : List α)
    (l : AsyncJsonlEventLogger α) : Prop where
  order : logged = written ++ l.held
  files : ∀ path, l.lines path =
    (written.filter fun event => pathForEvent event = path).map .whole ++
      l.tornLine pathForEvent path

namespace Logs

variable {α : Type} {pathForEvent : α → String} {logged written : List α}
  {l : AsyncJsonlEventLogger α}

theorem init : Logs pathForEvent [] [] (AsyncJsonlEventLogger.init : AsyncJsonlEventLogger α) :=
  ⟨rfl, fun _ => rfl⟩

/-- A logger that holds the same, and has the same lines. -/
theorem of_same (h : Logs pathForEvent logged written l) {l' : AsyncJsonlEventLogger α}
    (hheld : l'.held = l.held) (hfiles : l'.files = l.files)
    (htorn : l'.tornLine pathForEvent = l.tornLine pathForEvent) :
    Logs pathForEvent logged written l' where
  order := by rw [hheld, h.order]
  files path := by rw [lines, hfiles, htorn, ← lines, h.files]

theorem start (h : Logs pathForEvent logged written l) :
    Logs pathForEvent logged written l.start := by
  obtain ⟨queue, worker, files⟩ := l
  cases worker with
  | absent => exact h.of_same rfl rfl rfl
  | _ => exact h

/-- **Logging an event** puts it behind those held. -/
theorem log (h : Logs pathForEvent logged written l) (event : α) :
    Logs pathForEvent (logged ++ [event]) written (l.log event) := by
  obtain ⟨horder, hfiles⟩ := h.start
  refine ⟨?_, hfiles⟩
  have hheld : (l.log event).held = l.start.held ++ [event] := by
    have hqueue : (l.log event).queue.filterMap id = l.start.queue.filterMap id ++ [event] :=
      List.filterMap_append
    rw [held, hqueue, ← List.append_assoc]
    rfl
  rw [hheld, horder, List.append_assoc]

theorem logAll (h : Logs pathForEvent logged written l) (events : List α) :
    Logs pathForEvent (logged ++ events) written (events.foldl AsyncJsonlEventLogger.log l) := by
  induction events generalizing logged l with
  | nil => rwa [List.append_nil]
  | cons event events ih =>
      have hrest := ih (h.log event)
      rwa [List.append_assoc] at hrest

theorem close (h : Logs pathForEvent logged written l) :
    Logs pathForEvent logged written l.close := by
  rw [AsyncJsonlEventLogger.close]
  split
  · exact h
  · refine h.of_same ?_ rfl rfl
    rw [held, held, List.filterMap_append]
    exact congrArg _ (List.append_nil _)

theorem joined (h : Logs pathForEvent logged written l) :
    Logs pathForEvent logged written l.joined := by
  obtain ⟨queue, worker, files⟩ := l
  cases worker with
  | returned => exact h.of_same rfl rfl rfl
  | _ => exact h

theorem takes (h : Logs pathForEvent logged written l) :
    Logs pathForEvent logged written l.takes := by
  obtain ⟨queue, worker, files⟩ := l
  cases worker with
  | waiting =>
      rcases queue with - | ⟨- | event, queue⟩
      · exact h
      · exact h.of_same rfl rfl rfl
      · exact h.of_same rfl rfl rfl
  | _ => exact h

/-- **A step of the worker** writes the event it says. -/
theorem run (h : Logs pathForEvent logged written l) (step : LogStep) :
    Logs pathForEvent logged (written ++ (l.run pathForEvent step).2.toList)
      (l.run pathForEvent step).1 := by
  have hnone : Logs pathForEvent logged (written ++ []) l := by rwa [List.append_nil]
  obtain ⟨queue, worker, files⟩ := l
  cases step with
  | takes =>
      have htakes := h.takes
      rwa [← List.append_nil written] at htakes
  | appends =>
      cases worker with
      | appending event =>
          obtain ⟨horder, hfiles⟩ := h
          refine ⟨?_, fun path => ?_⟩
          · rw [horder, List.append_assoc]
            rfl
          · have hline := lines_append ⟨queue, .appending event, files⟩ (pathForEvent event)
              (.whole event) path
            rw [hfiles path] at hline
            refine hline.trans ?_
            by_cases hpath : pathForEvent event = path
            · simp [AsyncJsonlEventLogger.run, tornLine, hpath]
            · simp [AsyncJsonlEventLogger.run, tornLine, hpath]
      | _ => exact hnone
  | raises torn =>
      cases worker with
      | appending event =>
          obtain ⟨horder, hfiles⟩ := hnone
          cases torn with
          | false => exact ⟨horder, hfiles⟩
          | true =>
              refine ⟨horder, fun path => ?_⟩
              have hline := lines_append ⟨queue, .appending event, files⟩ (pathForEvent event)
                (.torn event) path
              rw [hfiles path] at hline
              refine hline.trans ?_
              simp [AsyncJsonlEventLogger.run, tornLine]
      | _ => cases torn <;> exact hnone

end Logs

/-! ### The end mark -/

namespace AsyncJsonlEventLogger

variable {α : Type} {l : AsyncJsonlEventLogger α}

/-- Where the end mark of a logger is, before and after the logger is closed. -/
inductive Standing (l : AsyncJsonlEventLogger α) : Bool → Prop
  /-- There is none. -/
  | running (serves : l.worker.serves = true) (noMark : none ∉ l.queue) :
      Standing l false
  /-- It is at the end of the queue. -/
  | marked (serves : l.worker.serves = true) (events : List α)
      (mark : l.queue = events.map some ++ [none]) : Standing l true
  /-- The worker has taken it, and the queue is empty. -/
  | ended (ended : l.worker.serves = false) (empty : l.queue = []) : Standing l true

theorem start_of_serves (h : l.worker.serves = true) : l.start = l := by
  obtain ⟨queue, worker, files⟩ := l
  cases worker with
  | absent => cases h
  | _ => rfl

theorem close_of_serves (h : l.worker.serves = true) :
    l.close = { l with queue := l.queue ++ [none] } := by
  obtain ⟨queue, worker, files⟩ := l
  cases worker with
  | absent => cases h
  | _ => rfl

/-- A queue without the mark holds events only. -/
theorem eq_map_filterMap {queue : List (Option α)} (h : none ∉ queue) :
    queue = (queue.filterMap id).map some := by
  induction queue with
  | nil => rfl
  | cons front queue ih =>
      rw [List.mem_cons, not_or] at h
      cases front with
      | none => exact absurd rfl h.1
      | some event => exact congrArg (some event :: ·) (ih h.2)

namespace Standing

theorem init : Standing (AsyncJsonlEventLogger.init : AsyncJsonlEventLogger α).start false :=
  .running rfl List.not_mem_nil

theorem log (h : Standing l false) (event : α) : Standing (l.log event) false := by
  cases h with
  | running serves noMark =>
      rw [AsyncJsonlEventLogger.log, start_of_serves serves]
      exact .running serves (by simpa using noMark)

theorem logAll (h : Standing l false) (events : List α) :
    Standing (events.foldl AsyncJsonlEventLogger.log l) false := by
  induction events generalizing l with
  | nil => exact h
  | cons event events ih => exact ih (h.log event)

/-- Closing puts the mark behind what was logged. -/
theorem close (h : Standing l false) : Standing l.close true := by
  cases h with
  | running serves noMark =>
      rw [close_of_serves serves]
      exact .marked serves (l.queue.filterMap id) (congrArg (· ++ [none]) (eq_map_filterMap noMark))

theorem joined (h : Standing l true) : Standing l.joined true := by
  obtain ⟨queue, worker, files⟩ := l
  cases worker with
  | returned =>
      cases h with
      | marked serves events mark => cases serves
      | ended ended empty => exact .ended rfl empty
  | _ => exact h

/-- The worker goes on. -/
theorem of_serves {closed : Bool} (h : Standing l closed) (hserves : l.worker.serves = true)
    {l' : AsyncJsonlEventLogger α} (hqueue : l'.queue = l.queue)
    (hserves' : l'.worker.serves = true) : Standing l' closed := by
  cases h with
  | running serves noMark => exact .running hserves' (hqueue ▸ noMark)
  | marked serves events mark => exact .marked hserves' events (hqueue.trans mark)
  | ended ended empty =>
      rw [hserves] at ended
      cases ended

/-- The worker comes to the mark when everything before it was taken. -/
theorem takes {closed : Bool} (h : Standing l closed) : Standing l.takes closed := by
  obtain ⟨queue, worker, files⟩ := l
  cases worker with
  | waiting =>
      cases h with
      | running serves noMark =>
          rcases queue with - | ⟨- | event, queue⟩
          · exact .running serves noMark
          · exact absurd List.mem_cons_self noMark
          · exact .running rfl fun hmem => noMark (List.mem_cons_of_mem _ hmem)
      | marked serves events mark =>
          obtain rfl : queue = events.map some ++ [none] := mark
          cases events with
          | nil => exact .ended rfl rfl
          | cons event events => exact .marked rfl events rfl
      | ended ended empty => cases ended
  | _ => exact h

theorem run {closed : Bool} (h : Standing l closed) (pathForEvent : α → String)
    (step : LogStep) : Standing (l.run pathForEvent step).1 closed := by
  obtain ⟨queue, worker, files⟩ := l
  cases step with
  | takes => exact h.takes
  | appends =>
      cases worker with
      | appending event => exact h.of_serves rfl rfl rfl
      | _ => exact h
  | raises torn =>
      cases worker with
      | appending event => cases torn <;> exact h.of_serves rfl rfl rfl
      | _ => cases torn <;> exact h

/-- **A logger whose worker is gone holds nothing.** -/
theorem held_eq_nil (h : Standing l true) (hended : l.worker.serves = false) :
    l.held = [] := by
  obtain ⟨queue, worker, files⟩ := l
  cases h with
  | marked serves events mark =>
      rw [hended] at serves
      cases serves
  | ended _ empty =>
      obtain rfl : queue = [] := empty
      cases worker with
      | absent => rfl
      | returned => rfl
      | _ => cases hended

end Standing

end AsyncJsonlEventLogger

end SomethingTrade
