import SomethingTrade.Machine
import SomethingTrade.PolymarketCompleteness
import SomethingTrade.MarketSubscriptions

/-!
# The Subscription of the Stream

The stream connects, sends the subscription message and records the tokens, and then yields
the events of the messages it receives, until the markets change or the connection fails;
then it connects again. Between two awaits it runs undisturbed; at an await or a yield the
markets can be updated and the connection can be lost. The message is built before the await
of its sending, the tokens are recorded after it, and no end of a connection takes the record
back.

## Representation

* A `StreamPc` is the await or the yield the stream stands at. A step that does not fit it
  changes nothing.
* The pings of the heartbeat belong to the await of a raw message; one that fails closes the
  connection and raises.
* A connection is open from its context's entry to its loss, its close, or the end of the exit
  of the context, whichever comes first.
* One stream runs at a time; after its end another can be started.

## Main results

* `next_effect`: what a step does to the subscription; `Effect.truthful_iff`: which steps keep
  the diagnostics truthful.
* `diagnostics_truthful_iff`: the runs on which the diagnostics tell the truth throughout.
-/

namespace SomethingTrade

/-! ### States -/

/-- A connection, with the message sent on it last. -/
structure Connection where
  id : ℕ
  isOpen : Bool
  lastSent : Option SubscriptionMessage

/-- Why the context of a connection is left: to connect again after a change of the markets,
with an exception, or for good (a return, a cancellation, a close by the consumer). -/
inductive StreamExit
  | again | failed | ended
  deriving DecidableEq

/-- Where the stream stands. -/
inductive StreamPc
  /-- No stream runs. -/
  | idle
  /-- Awaits the entry of the context of a connection. -/
  | connecting
  /-- Awaits the sending of a message. -/
  | sending (message : SubscriptionMessage)
  /-- Awaits a raw message. -/
  | receiving
  /-- Has yielded an event; these are left of the message. -/
  | yielding (rest : List PolymarketStreamEvent)
  /-- Awaits the close of the connection after a change of the markets. -/
  | closing
  /-- Awaits the exit of the context. -/
  | exiting (why : StreamExit)
  /-- Awaits the end of the backoff. -/
  | sleeping

/-- Whether the stream is inside the context of a connection. -/
def StreamPc.inContext : StreamPc → Bool
  | .idle | .connecting | .sleeping => false
  | .sending _ | .receiving | .yielding _ | .closing | .exiting _ => true

/-- The client, its stream, its connection and the closes it has asked for. -/
structure StreamState where
  client : PolymarketWSClient
  pc : StreamPc
  maxEvents : Option ℕ
  maxReconnectAttempts : Option ℕ
  yielded : ℕ
  reconnectAttempt : ℕ
  connection : Option Connection
  connections : ℕ
  closeTasks : List ℕ

/-- A step of the stream, of the client or of its surroundings. -/
inductive StreamStep
  /-- The stream is called. -/
  | start (maxEvents maxReconnectAttempts : Option ℕ)
  /-- The await of the connection, of the sending, of the close, of the exit or of the
  backoff ends. -/
  | connected | sent | closed | exited | slept
  /-- The await of a raw message ends with one. -/
  | received (decoded : Option Json) (r : MessageReadings)
  /-- The consumer asks for the next event. -/
  | resumed
  /-- The consumer closes the stream. -/
  | consumerClosed
  /-- The await ends with an exception. -/
  | raised
  /-- The await is cancelled. -/
  | cancelled
  /-- The markets are updated; whether an event loop runs that can close the connection. -/
  | update (markets : List ListedMarket) (tokenIds : List String) (loopRuns : Bool)
  /-- A close that was asked for takes place. -/
  | closeTask (connection : ℕ)
  /-- The connection is lost. -/
  | lost

namespace StreamState

/-- A client whose stream has not been called. -/
def init (client : PolymarketWSClient) : StreamState where
  client := client
  pc := .idle
  maxEvents := none
  maxReconnectAttempts := none
  yielded := 0
  reconnectAttempt := 0
  connection := none
  connections := 0
  closeTasks := []

/-! ### What the stream does between two awaits -/

/-- The head of the loop over the messages: a change of the markets ends it. -/
def loopHead (s : StreamState) : StreamState :=
  if s.client.activeSubscriptionVersion ≠ s.client.subscriptionVersion then
    { s with
      client := { s.client with subscriptionTransitionActive := true }
      pc := .closing }
  else { s with pc := .receiving }

/-- Yield the events that are left of a message. -/
def yieldNext (s : StreamState) :
    List PolymarketStreamEvent → StreamState × Option PolymarketStreamEvent
  | [] => (s.loopHead, none)
  | event :: rest => ({ s with pc := .yielding rest }, some event)

/-- Forget the websocket and go on at an await, or end. -/
def finish (s : StreamState) (pc : StreamPc) : StreamState :=
  { s with
    client := { s.client with activeWebsocket := none }
    pc := pc }

/-- Handle an exception: give up, or back off. -/
def handleException (s : StreamState) : StreamState :=
  if s.maxReconnectAttempts.any fun limit => s.reconnectAttempt ≥ limit then s.finish .idle
  else { s.finish .sleeping with reconnectAttempt := s.reconnectAttempt + 1 }

/-- Go on after the exit of the context of a connection. -/
def leave (s : StreamState) (why : StreamExit) : StreamState :=
  let s := { s with connection := none }
  match why with
  | .again => s.finish .connecting
  | .failed => s.handleException
  | .ended => s.finish .idle

/-- Close the connection. -/
def closeConnection (s : StreamState) : StreamState :=
  { s with connection := s.connection.map fun conn => { conn with isOpen := false } }

/-! ### Steps -/

/-- Call the stream. -/
def start (s : StreamState) (maxEvents maxReconnectAttempts : Option ℕ) : StreamState :=
  match s.pc with
  | .idle =>
      if s.client.tokenIds = [] then s
      else
        { s with
          pc := .connecting
          maxEvents := maxEvents
          maxReconnectAttempts := maxReconnectAttempts
          yielded := 0
          reconnectAttempt := 0 }
  | _ => s

/-- Enter the context of a connection, and start to send the subscription message. -/
def connected (s : StreamState) : StreamState :=
  match s.pc with
  | .connecting =>
      let client := { s.client with activeWebsocket := some s.connections }
      let client :=
        if s.reconnectAttempt > 0 then
          { client with
            orderbooks := client.orderbooks.recordReconnect
            subscriptionReconnectCount := client.subscriptionReconnectCount + 1 }
        else client
      { s with
        client := client
        pc := .sending client.subscriptionMessage
        connection := some ⟨s.connections, true, none⟩
        connections := s.connections + 1 }
  | _ => s

/-- Record the tokens and the version of the subscription after a message was sent. -/
def record (s : StreamState) (message : SubscriptionMessage) : StreamState :=
  { s with
    client := { s.client with
      activeSubscriptionTokenIds := s.client.tokenIds
      activeSubscriptionVersion := s.client.subscriptionVersion
      subscriptionTransitionActive := false }
    reconnectAttempt := 0
    connection := s.connection.map fun conn => { conn with lastSent := some message } }

/-- The message is sent. -/
def sent (s : StreamState) : StreamState :=
  match s.pc with
  | .sending message => (s.record message).loopHead
  | _ => s

/-- Take a raw message. -/
def received (s : StreamState) (decoded : Option Json) (r : MessageReadings) :
    StreamState × Option PolymarketStreamEvent :=
  match s.pc with
  | .receiving =>
      let (client, result) := s.client.normalizeMessage r decoded
      match result with
      | .error _ => ({ s with client := client, pc := .exiting .failed }, none)
      | .ok events => { s with client := client }.yieldNext events
  | _ => (s, none)

/-- Go on after a yield. -/
def resumed (s : StreamState) : StreamState × Option PolymarketStreamEvent :=
  match s.pc with
  | .yielding rest =>
      let s := { s with yielded := s.yielded + 1 }
      if s.maxEvents.any fun limit => s.yielded ≥ limit then
        ({ s with pc := .exiting .ended }, none)
      else s.yieldNext rest
  | _ => (s, none)

/-- The consumer closes the stream at a yield. -/
def consumerClosed (s : StreamState) : StreamState :=
  match s.pc with
  | .yielding _ => { s with pc := .exiting .ended }
  | _ => s

/-- The await ends with an exception. -/
def raised (s : StreamState) : StreamState :=
  match s.pc with
  | .connecting => s.handleException
  | .sending _ | .receiving | .closing => { s with pc := .exiting .failed }
  | .exiting _ => s.leave .failed
  | .idle | .yielding _ | .sleeping => s

/-- The await is cancelled. -/
def cancelled (s : StreamState) : StreamState :=
  match s.pc with
  | .connecting | .sleeping => s.finish .idle
  | .sending _ | .receiving | .closing => { s with pc := .exiting .ended }
  | .exiting _ => s.leave .ended
  | .idle | .yielding _ => s

/-- The close after a change of the markets is done. -/
def closed (s : StreamState) : StreamState :=
  match s.pc with
  | .closing => { s.closeConnection with pc := .exiting .again }
  | _ => s

/-- The exit of the context is done. -/
def exited (s : StreamState) : StreamState :=
  match s.pc with
  | .exiting why => s.leave why
  | _ => s

/-- The backoff is over. -/
def slept (s : StreamState) : StreamState :=
  match s.pc with
  | .sleeping => s.finish .connecting
  | _ => s

/-- Update the markets. -/
def update (s : StreamState) (markets : List ListedMarket) (tokenIds : List String)
    (loopRuns : Bool) : StreamState :=
  let (client, closes) := s.client.updateMarkets markets tokenIds
  { s with
    client := client
    closeTasks := s.closeTasks ++ if loopRuns then closes.toList else [] }

/-- A close that was asked for takes place. -/
def closeTask (s : StreamState) (id : ℕ) : StreamState :=
  if id ∈ s.closeTasks then
    let s := { s with closeTasks := s.closeTasks.erase id }
    if s.connection.map Connection.id = some id then s.closeConnection else s
  else s

end StreamState

/-- The stream as a machine; the output of a step is the event it yields. -/
def streamMachine : Machine StreamState StreamStep (Option PolymarketStreamEvent) where
  step s
    | .start maxEvents maxReconnectAttempts => (s.start maxEvents maxReconnectAttempts, none)
    | .connected => (s.connected, none)
    | .sent => (s.sent, none)
    | .closed => (s.closed, none)
    | .exited => (s.exited, none)
    | .slept => (s.slept, none)
    | .received decoded r => s.received decoded r
    | .resumed => s.resumed
    | .consumerClosed => (s.consumerClosed, none)
    | .raised => (s.raised, none)
    | .cancelled => (s.cancelled, none)
    | .update markets tokenIds loopRuns => (s.update markets tokenIds loopRuns, none)
    | .closeTask id => (s.closeTask id, none)
    | .lost => (s.closeConnection, none)

/-! ### What the diagnostics say -/

/-- The fields the status of the subscription is made of are the same. -/
structure SameSubscription (c c' : PolymarketWSClient) : Prop where
  tokenIds : c'.tokenIds = c.tokenIds
  activeTokens : c'.activeSubscriptionTokenIds = c.activeSubscriptionTokenIds
  activeVersion : c'.activeSubscriptionVersion = c.activeSubscriptionVersion
  transition : c'.subscriptionTransitionActive = c.subscriptionTransitionActive

theorem SameSubscription.refl (c : PolymarketWSClient) : SameSubscription c c :=
  ⟨rfl, rfl, rfl, rfl⟩

theorem status_eq_active_iff {c : PolymarketWSClient} :
    c.subscriptionDiagnostics.subscriptionStatus = .active ↔
      0 ≤ c.activeSubscriptionVersion ∧ c.subscriptionTransitionActive = false ∧
        sameTokens c.tokenIds c.activeSubscriptionTokenIds = true := by
  simp only [PolymarketWSClient.subscriptionDiagnostics, decide_eq_false_iff_not, ge_iff_le]
  by_cases hversion : 0 ≤ c.activeSubscriptionVersion
  · cases c.subscriptionTransitionActive <;>
      cases sameTokens c.tokenIds c.activeSubscriptionTokenIds <;> simp [hversion]
  · simp [hversion]

namespace StreamState

/-- The diagnostics report an active subscription. -/
def ReportsActive (s : StreamState) : Prop :=
  s.client.subscriptionDiagnostics.subscriptionStatus = .active

/-- There is an open connection, and the message sent on it last lists exactly the tokens of
the client. -/
def Subscribed (s : StreamState) : Prop :=
  ∃ conn message, s.connection = some conn ∧ conn.isOpen = true ∧
    conn.lastSent = some message ∧ ∀ token, token ∈ message.assetsIds ↔ token ∈ s.client.tokenIds

/-- **The diagnostics tell the truth.** -/
def Truthful (s : StreamState) : Prop := s.ReportsActive → s.Subscribed

/-- Outside the context of a connection there is none. -/
structure Consistent (s : StreamState) : Prop where
  version : 0 ≤ s.client.subscriptionVersion
  context : s.pc.inContext = false → s.connection = none

theorem reportsActive_congr {s s' : StreamState} (h : SameSubscription s.client s'.client) :
    s'.ReportsActive ↔ s.ReportsActive := by
  rw [ReportsActive, ReportsActive, status_eq_active_iff, status_eq_active_iff, h.tokenIds,
    h.activeTokens, h.activeVersion, h.transition]

theorem truthful_congr {s s' : StreamState} (h : SameSubscription s.client s'.client)
    (hconnection : s'.connection = s.connection) : s'.Truthful ↔ s.Truthful := by
  rw [Truthful, Truthful, reportsActive_congr h, Subscribed, Subscribed, hconnection, h.tokenIds]

/-- The message that a step is the end of sending. -/
def sends (s : StreamState) : StreamStep → Option SubscriptionMessage
  | .sent =>
      match s.pc with
      | .sending message => some message
      | _ => none
  | _ => none

/-- Whether a step ends the connection: it is lost, a close of it takes place, or the exit of
its context ends. -/
def endsConnection (s : StreamState) : StreamStep → Bool
  | .lost => s.connection.isSome
  | .closeTask id => id ∈ s.closeTasks && s.connection.map Connection.id = some id
  | .closed =>
      match s.pc with
      | .closing => true
      | _ => false
  | .exited | .raised | .cancelled =>
      match s.pc with
      | .exiting _ => true
      | _ => false
  | _ => false

/-- What a step does to the subscription. -/
inductive Effect (s : StreamState) (step : StreamStep) (s' : StreamState) : Prop
  | kept (noEnd : s.endsConnection step = false) (noSend : s.sends step = none)
      (same : SameSubscription s.client s'.client) (connection : s'.connection = s.connection)
  | opened (noEnd : s.endsConnection step = false) (noSend : s.sends step = none)
      (same : SameSubscription s.client s'.client) (before : s.connection = none)
  | changing (noEnd : s.endsConnection step = false) (noSend : s.sends step = none)
      (transition : s'.client.subscriptionTransitionActive = true)
  | ended (ends : s.endsConnection step = true) (noSend : s.sends step = none)
      (same : SameSubscription s.client s'.client) (gone : ¬ s'.Subscribed)
  | recorded (message : SubscriptionMessage) (noEnd : s.endsConnection step = false)
      (sends : s.sends step = some message) (active : s'.ReportsActive)
      (tokenIds : s'.client.tokenIds = s.client.tokenIds)
      (connection : s'.connection =
        s.connection.map fun conn => { conn with lastSent := some message })

/-- A step that leaves the diagnostics truthful: it ends no connection they report active, and
when it is the end of sending a message, the connection is open and the message lists the
tokens the client has by then. -/
def KeepsTruth (s : StreamState) (step : StreamStep) : Prop :=
  (s.endsConnection step = true → ¬ s.ReportsActive) ∧
    ∀ message, s.sends step = some message →
      s.connection.any Connection.isOpen = true ∧
        ∀ token, token ∈ message.assetsIds ↔ token ∈ s.client.tokenIds

/-- **One step**, by its effect. -/
theorem Effect.truthful_iff {s s' : StreamState} {step : StreamStep} (h : Effect s step s')
    (hs : s.Truthful) : s'.Truthful ↔ s.KeepsTruth step := by
  cases h with
  | kept noEnd noSend same connection =>
      rw [truthful_congr same connection, KeepsTruth, noEnd, noSend]
      simp [hs]
  | opened noEnd noSend same before =>
      have hinactive : ¬ s.ReportsActive := by
        intro hactive
        obtain ⟨conn, -, hconn, -⟩ := hs hactive
        rw [before] at hconn
        cases hconn
      rw [Truthful, reportsActive_congr same, KeepsTruth, noEnd, noSend]
      simp [hinactive]
  | changing noEnd noSend transition =>
      have hinactive : ¬ s'.ReportsActive := by
        rw [ReportsActive, status_eq_active_iff, transition]
        simp
      rw [Truthful, KeepsTruth, noEnd, noSend]
      simp [hinactive]
  | ended ends noSend same gone =>
      rw [Truthful, reportsActive_congr same, KeepsTruth, ends, noSend]
      simp [gone]
  | recorded message noEnd sends active tokenIds connection =>
      rw [Truthful, KeepsTruth, noEnd, sends, Subscribed, connection, tokenIds]
      cases hconn : s.connection with
      | none => simp [active]
      | some conn => simp [active]

/-! ### The effects of the steps -/

section

variable (s : StreamState)

/-- The same subscription and the same connection, or a change of the markets is under way. -/
def KeepsOrChanges (s' : StreamState) : Prop :=
  SameSubscription s.client s'.client ∧ s'.connection = s.connection ∨
    s'.client.subscriptionTransitionActive = true

theorem loopHead_keepsOrChanges : s.KeepsOrChanges s.loopHead := by
  rw [loopHead]
  split
  · exact .inr rfl
  · exact .inl ⟨.refl _, rfl⟩

theorem yieldNext_keepsOrChanges (events : List PolymarketStreamEvent) :
    s.KeepsOrChanges (s.yieldNext events).1 := by
  cases events with
  | nil => exact s.loopHead_keepsOrChanges
  | cons event rest => exact .inl ⟨.refl _, rfl⟩

theorem handleException_same : SameSubscription s.client s.handleException.client ∧
    s.handleException.connection = s.connection := by
  rw [handleException]
  split <;> exact ⟨⟨rfl, rfl, rfl, rfl⟩, rfl⟩

/-- After the exit of its context there is no connection. -/
theorem leave_same (why : StreamExit) : SameSubscription s.client (s.leave why).client ∧
    (s.leave why).connection = none := by
  cases why with
  | again => exact ⟨⟨rfl, rfl, rfl, rfl⟩, rfl⟩
  | failed => exact handleException_same { s with connection := none }
  | ended => exact ⟨⟨rfl, rfl, rfl, rfl⟩, rfl⟩

variable {s}

theorem not_subscribed_of_none {s' : StreamState} (h : s'.connection = none) :
    ¬ s'.Subscribed := by
  rintro ⟨conn, -, hconn, -⟩
  rw [h] at hconn
  cases hconn

theorem not_subscribed_closeConnection {s' : StreamState}
    (h : s'.connection = s.closeConnection.connection) : ¬ s'.Subscribed := by
  rintro ⟨conn, -, hconn, hopen, -⟩
  rw [h, closeConnection, Option.map_eq_some_iff] at hconn
  obtain ⟨before, -, rfl⟩ := hconn
  cases hopen

theorem KeepsOrChanges.after {s s₁ s' : StreamState} (h : s₁.KeepsOrChanges s')
    (hsame : SameSubscription s.client s₁.client) (hconnection : s₁.connection = s.connection) :
    s.KeepsOrChanges s' := by
  rcases h with ⟨same, connection⟩ | transition
  · exact .inl ⟨⟨same.tokenIds.trans hsame.tokenIds, same.activeTokens.trans hsame.activeTokens,
      same.activeVersion.trans hsame.activeVersion, same.transition.trans hsame.transition⟩,
      connection.trans hconnection⟩
  · exact .inr transition

theorem KeepsOrChanges.effect {s s' : StreamState} {step : StreamStep} (h : s.KeepsOrChanges s')
    (noEnd : s.endsConnection step = false) (noSend : s.sends step = none) :
    Effect s step s' := by
  rcases h with ⟨same, connection⟩ | transition
  · exact .kept noEnd noSend same connection
  · exact .changing noEnd noSend transition

theorem effect_leave {step : StreamStep} (ends : s.endsConnection step = true)
    (noSend : s.sends step = none) (why : StreamExit) : Effect s step (s.leave why) :=
  .ended ends noSend (s.leave_same why).1 (not_subscribed_of_none (s.leave_same why).2)

theorem effect_connected (h : s.Consistent) : Effect s .connected s.connected := by
  rw [connected]
  cases hpc : s.pc with
  | connecting =>
      refine .opened rfl rfl ?_ (h.context (by rw [hpc]; rfl))
      dsimp only
      split <;> exact ⟨rfl, rfl, rfl, rfl⟩
  | _ => exact .kept rfl rfl (.refl _) rfl

theorem effect_sent (h : s.Consistent) : Effect s .sent s.sent := by
  rw [sent]
  cases hpc : s.pc with
  | sending message =>
      have hrecorded : (s.record message).loopHead =
          { s.record message with pc := .receiving } := if_neg fun h => h rfl
      dsimp only
      rw [hrecorded]
      refine .recorded message rfl (by simp only [sends, hpc]) ?_ rfl rfl
      exact status_eq_active_iff.mpr ⟨h.version, rfl, sameTokens_iff.mpr fun _ => Iff.rfl⟩
  | _ => exact .kept rfl (by simp only [sends, hpc]) (.refl _) rfl

theorem effect_received (decoded : Option Json) (r : MessageReadings) :
    Effect s (.received decoded r) (s.received decoded r).1 := by
  rw [received]
  cases s.pc with
  | receiving =>
      dsimp only
      cases (s.client.normalizeMessage r decoded).2 with
      | error e => exact .kept rfl rfl ⟨rfl, rfl, rfl, rfl⟩ rfl
      | ok events =>
          refine KeepsOrChanges.effect ?_ rfl rfl
          exact (yieldNext_keepsOrChanges _ events).after ⟨rfl, rfl, rfl, rfl⟩ rfl
  | _ => exact .kept rfl rfl (.refl _) rfl

theorem effect_resumed : Effect s .resumed s.resumed.1 := by
  rw [resumed]
  cases s.pc with
  | yielding rest =>
      dsimp only
      split
      · exact .kept rfl rfl (.refl _) rfl
      · refine KeepsOrChanges.effect ?_ rfl rfl
        exact (yieldNext_keepsOrChanges _ rest).after (.refl _) rfl
  | _ => exact .kept rfl rfl (.refl _) rfl

theorem effect_raised : Effect s .raised s.raised := by
  rw [raised]
  cases hpc : s.pc with
  | connecting =>
      exact .kept (by simp only [endsConnection, hpc]) rfl s.handleException_same.1
        s.handleException_same.2
  | exiting why => exact effect_leave (by simp only [endsConnection, hpc]) rfl .failed
  | _ => exact .kept (by simp only [endsConnection, hpc]) rfl (.refl _) rfl

theorem effect_cancelled : Effect s .cancelled s.cancelled := by
  rw [cancelled]
  cases hpc : s.pc with
  | connecting => exact .kept (by simp only [endsConnection, hpc]) rfl ⟨rfl, rfl, rfl, rfl⟩ rfl
  | sleeping => exact .kept (by simp only [endsConnection, hpc]) rfl ⟨rfl, rfl, rfl, rfl⟩ rfl
  | exiting why => exact effect_leave (by simp only [endsConnection, hpc]) rfl .ended
  | _ => exact .kept (by simp only [endsConnection, hpc]) rfl (.refl _) rfl

theorem effect_closeTask (id : ℕ) : Effect s (.closeTask id) (s.closeTask id) := by
  rw [closeTask]
  split
  · rename_i htask
    dsimp only
    split
    · rename_i hid
      exact .ended (by simp [endsConnection, htask, hid]) rfl ⟨rfl, rfl, rfl, rfl⟩
        (not_subscribed_closeConnection rfl)
    · rename_i hid
      exact .kept (by simp [endsConnection, hid]) rfl (.refl _) rfl
  · rename_i htask
    exact .kept (by simp [endsConnection, htask]) rfl (.refl _) rfl

theorem effect_lost : Effect s .lost s.closeConnection := by
  cases hconnection : s.connection with
  | none =>
      refine .kept (by simp only [endsConnection, hconnection]; rfl) rfl (.refl _) ?_
      rw [closeConnection, hconnection]
      rfl
  | some conn =>
      exact .ended (by simp only [endsConnection, hconnection]; rfl) rfl (.refl _)
        (not_subscribed_closeConnection rfl)

theorem effect_update (markets : List ListedMarket) (tokenIds : List String) (loopRuns : Bool) :
    Effect s (.update markets tokenIds loopRuns) (s.update markets tokenIds loopRuns) := by
  have hclient : (s.update markets tokenIds loopRuns).client =
      (s.client.updateMarkets markets tokenIds).1 := rfl
  by_cases hupToDate : s.client.upToDate markets tokenIds = true
  · rw [PolymarketWSClient.updateMarkets, if_pos hupToDate] at hclient
    exact .kept rfl rfl (hclient ▸ .refl _) rfl
  · rw [PolymarketWSClient.updateMarkets, if_neg hupToDate] at hclient
    exact .changing rfl rfl (by rw [hclient])

/-- **What a step does.** -/
theorem next_effect (h : s.Consistent) (step : StreamStep) :
    Effect s step (streamMachine.next s step) := by
  cases step with
  | start maxEvents maxReconnectAttempts =>
      change Effect s _ (s.start maxEvents maxReconnectAttempts)
      rw [start]
      cases s.pc with
      | idle =>
          dsimp only
          split <;> exact .kept rfl rfl (.refl _) rfl
      | _ => exact .kept rfl rfl (.refl _) rfl
  | connected => exact effect_connected h
  | sent => exact effect_sent h
  | closed =>
      change Effect s .closed s.closed
      rw [closed]
      cases hpc : s.pc with
      | closing =>
          exact .ended (by simp only [endsConnection, hpc]) rfl (.refl _)
            (not_subscribed_closeConnection rfl)
      | _ => exact .kept (by simp only [endsConnection, hpc]) rfl (.refl _) rfl
  | exited =>
      change Effect s .exited s.exited
      rw [exited]
      cases hpc : s.pc with
      | exiting why => exact effect_leave (by simp only [endsConnection, hpc]) rfl why
      | _ => exact .kept (by simp only [endsConnection, hpc]) rfl (.refl _) rfl
  | slept =>
      change Effect s .slept s.slept
      rw [slept]
      cases s.pc with
      | sleeping => exact .kept rfl rfl ⟨rfl, rfl, rfl, rfl⟩ rfl
      | _ => exact .kept rfl rfl (.refl _) rfl
  | received decoded r => exact effect_received decoded r
  | resumed => exact effect_resumed
  | consumerClosed =>
      change Effect s .consumerClosed s.consumerClosed
      rw [consumerClosed]
      cases s.pc <;> exact .kept rfl rfl (.refl _) rfl
  | raised => exact effect_raised
  | cancelled => exact effect_cancelled
  | update markets tokenIds loopRuns => exact effect_update markets tokenIds loopRuns
  | closeTask id => exact effect_closeTask id
  | lost => exact effect_lost

/-! ### Consistency -/

/-- A step into the context of a connection. -/
theorem consistent_of_inContext (hversion : 0 ≤ s.client.subscriptionVersion)
    (hcontext : s.pc.inContext = true) : s.Consistent :=
  ⟨hversion, fun h => by rw [hcontext] at h; cases h⟩

theorem consistent_loopHead (hversion : 0 ≤ s.client.subscriptionVersion) :
    s.loopHead.Consistent := by
  rw [loopHead]
  split <;> exact consistent_of_inContext hversion rfl

theorem consistent_yieldNext (hversion : 0 ≤ s.client.subscriptionVersion)
    (events : List PolymarketStreamEvent) : (s.yieldNext events).1.Consistent := by
  cases events with
  | nil => exact consistent_loopHead hversion
  | cons event rest => exact consistent_of_inContext hversion rfl

theorem consistent_handleException (hversion : 0 ≤ s.client.subscriptionVersion)
    (hconnection : s.connection = none) : s.handleException.Consistent := by
  rw [handleException]
  split <;> exact ⟨hversion, fun _ => hconnection⟩

theorem consistent_leave (hversion : 0 ≤ s.client.subscriptionVersion) (why : StreamExit) :
    (s.leave why).Consistent := by
  cases why with
  | failed => exact consistent_handleException (s := { s with connection := none }) hversion rfl
  | _ => exact ⟨hversion, fun _ => rfl⟩

theorem consistent_closeConnection (h : s.Consistent) : s.closeConnection.Consistent :=
  ⟨h.version, fun hcontext => by rw [closeConnection, h.context hcontext]; rfl⟩

theorem consistent_raised (h : s.Consistent) : s.raised.Consistent := by
  rw [raised]
  cases hpc : s.pc with
  | connecting => exact consistent_handleException h.version (h.context (by rw [hpc]; rfl))
  | exiting why => exact consistent_leave h.version .failed
  | idle => exact h
  | yielding rest => exact h
  | sleeping => exact h
  | _ => exact consistent_of_inContext h.version rfl

theorem consistent_cancelled (h : s.Consistent) : s.cancelled.Consistent := by
  rw [cancelled]
  cases hpc : s.pc with
  | connecting => exact ⟨h.version, fun _ => h.context (by rw [hpc]; rfl)⟩
  | sleeping => exact ⟨h.version, fun _ => h.context (by rw [hpc]; rfl)⟩
  | exiting why => exact consistent_leave h.version .ended
  | idle => exact h
  | yielding rest => exact h
  | _ => exact consistent_of_inContext h.version rfl

theorem consistent_received (h : s.Consistent) (decoded : Option Json) (r : MessageReadings) :
    (s.received decoded r).1.Consistent := by
  rw [received]
  cases s.pc with
  | receiving =>
      dsimp only
      cases (s.client.normalizeMessage r decoded).2 with
      | error e => exact consistent_of_inContext h.version rfl
      | ok events => exact consistent_yieldNext (by exact h.version) events
  | _ => exact h

theorem consistent_update (h : s.Consistent) (markets : List ListedMarket)
    (tokenIds : List String) (loopRuns : Bool) :
    (s.update markets tokenIds loopRuns).Consistent := by
  refine ⟨?_, h.context⟩
  change 0 ≤ (s.client.updateMarkets markets tokenIds).1.subscriptionVersion
  rw [PolymarketWSClient.updateMarkets]
  split
  · exact h.version
  · exact add_nonneg h.version zero_le_one

/-- **Every step keeps the stream consistent.** -/
theorem Consistent.next (h : s.Consistent) (step : StreamStep) :
    (streamMachine.next s step).Consistent := by
  cases step with
  | start maxEvents maxReconnectAttempts =>
      change (s.start maxEvents maxReconnectAttempts).Consistent
      rw [start]
      cases hpc : s.pc with
      | idle =>
          dsimp only
          split
          · exact h
          · exact ⟨h.version, fun _ => h.context (by rw [hpc]; rfl)⟩
      | _ => exact h
  | connected =>
      change s.connected.Consistent
      rw [connected]
      cases s.pc with
      | connecting =>
          refine consistent_of_inContext ?_ rfl
          dsimp only
          split <;> exact h.version
      | _ => exact h
  | sent =>
      change s.sent.Consistent
      rw [sent]
      cases s.pc with
      | sending message => exact consistent_loopHead h.version
      | _ => exact h
  | closed =>
      change s.closed.Consistent
      rw [closed]
      cases s.pc with
      | closing => exact consistent_of_inContext h.version rfl
      | _ => exact h
  | exited =>
      change s.exited.Consistent
      rw [exited]
      cases s.pc with
      | exiting why => exact consistent_leave h.version why
      | _ => exact h
  | slept =>
      change s.slept.Consistent
      rw [slept]
      cases hpc : s.pc with
      | sleeping => exact ⟨h.version, fun _ => h.context (by rw [hpc]; rfl)⟩
      | _ => exact h
  | received decoded r => exact consistent_received h decoded r
  | resumed =>
      change s.resumed.1.Consistent
      rw [resumed]
      cases s.pc with
      | yielding rest =>
          dsimp only
          split
          · exact consistent_of_inContext h.version rfl
          · exact consistent_yieldNext (by exact h.version) rest
      | _ => exact h
  | consumerClosed =>
      change s.consumerClosed.Consistent
      rw [consumerClosed]
      cases s.pc with
      | yielding rest => exact consistent_of_inContext h.version rfl
      | _ => exact h
  | raised => exact consistent_raised h
  | cancelled => exact consistent_cancelled h
  | update markets tokenIds loopRuns => exact consistent_update h markets tokenIds loopRuns
  | closeTask id =>
      change (s.closeTask id).Consistent
      rw [closeTask]
      split
      · have herased : { s with closeTasks := s.closeTasks.erase id }.Consistent :=
          ⟨h.version, h.context⟩
        dsimp only
        split
        · exact consistent_closeConnection herased
        · exact herased
      · exact h
  | lost => exact consistent_closeConnection h

end

end StreamState

/-- **The diagnostics tell the truth** throughout a run of the stream, its client and their
surroundings, exactly when no step of it ends a connection that they report active, and every
subscription message is sent to its end on an open connection with the tokens the client has
by then. -/
theorem diagnostics_truthful_iff (c : PolymarketSettings)
    (overrides : Dict String PolymarketSideLabel) (markets : List ListedMarket)
    (tokenIds : List String) (steps : List StreamStep) :
    (∀ pre post, steps = pre ++ post →
      (streamMachine.exec (.init (.init c overrides markets tokenIds)) pre).Truthful) ↔
    streamMachine.StepsMeet StreamState.KeepsTruth (.init (.init c overrides markets tokenIds))
      steps := by
  have hconsistent : (StreamState.init (.init c overrides markets tokenIds)).Consistent :=
    ⟨le_refl 0, fun _ => rfl⟩
  have hstart : (StreamState.init (.init c overrides markets tokenIds)).Truthful := by
    intro hactive
    have hversion : (0 : ℤ) ≤ -1 := (status_eq_active_iff.mp hactive).1
    exact absurd hversion (by decide)
  exact streamMachine.prefixes_iff_stepsMeet (I := StreamState.Consistent)
    (fun s step hs => hs.next step)
    (fun s step hs htruth => (StreamState.next_effect hs step).truthful_iff htruth)
    hconsistent hstart steps

/-! ### A lost connection -/

/-- A client that subscribes to one token. -/
def oneTokenClient : PolymarketWSClient := .init defaultSettings .empty [] ["up"]

/-- **A lost connection stays reported active.** The stream is connected and subscribed; the
connection is lost, the await of the next message raises and the context is left. While the
stream backs off there is no connection, and the status is active. -/
theorem lost_connection_reports_active :
    ¬ ∀ (c : PolymarketSettings) (overrides : Dict String PolymarketSideLabel)
      (markets : List ListedMarket) (tokenIds : List String) (steps : List StreamStep),
      (streamMachine.exec (.init (.init c overrides markets tokenIds)) steps).Truthful := by
  intro h
  have htruthful := h defaultSettings .empty [] ["up"]
    [.start none none, .connected, .sent, .lost, .raised, .exited]
  have hactive : (streamMachine.exec (.init oneTokenClient) [.start none none, .connected,
      .sent, .lost, .raised, .exited]).client.subscriptionDiagnostics.subscriptionStatus =
    .active := by decide +kernel
  have hnone : (streamMachine.exec (.init oneTokenClient) [.start none none, .connected,
      .sent, .lost, .raised, .exited]).connection.isNone = true := by decide +kernel
  exact StreamState.not_subscribed_of_none (Option.isNone_iff_eq_none.mp hnone)
    (htruthful hactive)

/-- The tokens of an update during the sending are recorded, and were not sent. -/
example :
    let s := streamMachine.exec (.init oneTokenClient)
      [.start none none, .connected, .update [] ["down"] true, .sent]
    s.client.subscriptionDiagnostics.subscriptionStatus = .active ∧
      (s.connection.bind Connection.lastSent).map SubscriptionMessage.assetsIds = some ["up"] := by
  decide +kernel

end SomethingTrade
