import GpsInformer.Lib.DeadlineTimer
import GpsInformer.TcpClientAccounting
import GpsInformer.Transmitter

/-!
# The upstream connection

`_transmitter` with the outstanding operations of its socket, `_transmitterTimer` with its
waits, and the handlers of ApplicationTransmitter.cpp between them.  A handler is run to its
end, and what it has done to the client, the timer and the tracker's session is then
performed in order, before the client goes on; no handler looks at any of these.

Next to them a record is kept of what is sent and received on each connection, of the losses
of a connection, and of the timer handlers that connected or sent something.
-/

namespace GpsInformer

open Lib

namespace Upstream

/-- What a wait of `_transmitterTimer` is started for. -/
inductive Cause where
  | heartbeat
  | reconnect (loss : Nat)
  deriving DecidableEq, Repr

/-- A peer disconnect or a connect error. -/
structure Loss where
  number : Nat
  time : Int
  deriving DecidableEq, Repr

/-- A call of `handleTransmitterTimer`. -/
structure TimerCall where
  wait : Wait Cause
  /-- with `operation_aborted` -/
  cancelled : Bool
  time : Int
  /-- how the last connection, or attempt, was lost -/
  loss : Option Loss
  deriving DecidableEq, Repr

structure Connection where
  received : Str := []
  /-- the strings queued for writing, each with what had been received before -/
  queued : List (Str × Str) := []
  /-- the commands passed to the tracker's session, each with what had been received -/
  forwarded : List (Str × Str) := []
  deriving DecidableEq, Repr

end Upstream

structure Upstream where
  client : TcpClient := {}
  transmitter : Transmitter := {}
  timer : DeadlineTimer Upstream.Cause := {}
  /-- the connections so far, the last one first -/
  connections : List Upstream.Connection := []
  /-- the number of losses so far -/
  losses : Nat := 0
  /-- the last loss, unless the connection after it was closed by `disconnect` -/
  loss : Option Upstream.Loss := none
  /-- the timer handlers that have started a connection attempt -/
  attempts : List Upstream.TimerCall := []
  /-- the timer handlers that have queued a heartbeat -/
  heartbeats : List Upstream.TimerCall := []
  deriving DecidableEq, Repr

namespace Upstream

open Transmitter (handleTcpClientConnect handleTcpClientDisconnect handleTcpClientError
  handleTcpClientReceivedData handleTransmitterTimer handleDeviceCommand startTransmitter)

/-- The last connection. -/
def onCurrent (change : Connection → Connection) (u : Upstream) : Upstream :=
  { u with connections := u.connections.modifyHead change }

/-- What a handler of the transmitter does, `cause` being what it starts waits for. -/
def perform (cause : Cause) (u : Upstream) : Transmitter.Action → Upstream
  | .connect => { u with client := u.client.connect }
  | .send data =>
      let sent := { u with client := u.client.send data }
      if u.client.status = .connected then
        sent.onCurrent fun c => { c with queued := c.queued ++ [(data, c.received)] }
      else sent
  | .disconnect => { u with client := u.client.disconnect }
  | .expiresFromNow milliseconds => { u with timer := u.timer.expiresFromNow milliseconds }
  | .asyncWait => { u with timer := u.timer.asyncWait cause }
  | .processClientData data =>
      u.onCurrent fun c => { c with forwarded := c.forwarded ++ [(data, c.received)] }

/-- A handler is run. -/
def react (cause : Cause) (handler : Transmitter → Transmitter) (u : Upstream) : Upstream :=
  let t := handler { u.transmitter with trace := [] }
  t.trace.foldl (perform cause) { u with transmitter := { t with trace := [] } }

/-- The connection, or the attempt, is lost. -/
def lose (u : Upstream) : Upstream :=
  { u with loss := some ⟨u.losses, u.timer.now⟩, losses := u.losses + 1 }

variable (settings : TransmitterSettings)

/-- `_transmitter` calls its handler. -/
def notified (tracker : Bool) (notification : Notification) (u : Upstream) : Upstream :=
  match notification with
  | .connect =>
      { u with connections := {} :: u.connections }.react .heartbeat
        (handleTcpClientConnect settings)
  | .disconnect .closedByUser =>
      { u with loss := none }.react .heartbeat
        (handleTcpClientDisconnect settings false .closedByUser)
  | .disconnect .closedByPeer =>
      u.lose.react (.reconnect u.losses) (handleTcpClientDisconnect settings false .closedByPeer)
  | .error _ => u.lose.react (.reconnect u.losses) (handleTcpClientError settings false)
  | .receivedData data =>
      (u.onCurrent fun c => { c with received := c.received ++ data }).react .heartbeat
        (handleTcpClientReceivedData settings tracker data)

/-- A completion handler of `_transmitter`. -/
def resume (tracker : Bool) (turn : TcpClient.Turn) (u : Upstream) : Upstream :=
  let u := match turn.notification with
    | none => { u with client := turn.client }
    | some notification => { u with client := turn.client.record (.notify notification) }.notified
        settings tracker notification
  if turn.thenRead then { u with client := u.client.asyncRead } else u

/-- What the client has done since `u`. -/
def clientActions (u v : Upstream) : List TcpClient.Action :=
  v.client.trace.drop u.client.trace.length

/-- A call of `handleTransmitterTimer`, which is kept if it connects or sends. -/
def fire (call : TimerCall) (u : Upstream) : Upstream :=
  let v := u.react .heartbeat (handleTransmitterTimer settings)
  { v with
    attempts := if .connect ∈ clientActions u v then v.attempts ++ [call] else v.attempts
    heartbeats :=
      if clientActions u v ≠ [] ∧ .connect ∉ clientActions u v then v.heartbeats ++ [call]
      else v.heartbeats }

inductive Event where
  /-- an outstanding operation of `_transmitter` finishes -/
  | finish (index : Nat) (result : TcpClient.Completion)
  /-- the handler of a finished operation is called; `tracker` tells whether there is a
  session to pass commands to -/
  | complete (index : Nat) (tracker : Bool)
  /-- a tracker's frame is relayed -/
  | deviceCommand (arguments : List Str)
  /-- time passes -/
  | elapse (milliseconds : Nat)
  /-- the pending waits expire -/
  | expire
  /-- the handler of a wait is called -/
  | fire (index : Nat)
  deriving DecidableEq, Repr

def step (u : Upstream) : Event → Option Upstream
  | .finish index result =>
      (u.client.step (.finish index result)).map fun client => { u with client }
  | .complete index tracker =>
      match u.client.pending[index]? with
      | some { operation, result := some result } =>
          let client := { u.client with pending := u.client.pending.eraseIdx index }
          some (u.resume settings tracker (client.handle operation result))
      | _ => none
  | .deviceCommand arguments => some (u.react .heartbeat (handleDeviceCommand arguments))
  | .elapse milliseconds => some { u with timer := u.timer.elapse milliseconds }
  | .expire => u.timer.expire.map fun timer => { u with timer }
  | .fire index =>
      (u.timer.dequeue index).map fun (call, timer) =>
        { u with timer }.fire settings
          { wait := call.1, cancelled := call.2, time := u.timer.now, loss := u.loss }

/-- The state after `startTransmitter` in `Application::main`. -/
def initial : Upstream := ({} : Upstream).react .heartbeat (startTransmitter settings)

/-- What an event can do. -/
inductive StepCase (u : Upstream) : Event → Upstream → Prop
  | finished (index : Nat) (result : TcpClient.Completion) (client : TcpClient) :
    u.client.step (.finish index result) = some client →
    StepCase u (.finish index result) { u with client }
  | completed (index : Nat) (tracker : Bool) (operation : TcpClient.Operation)
    (result : TcpClient.Completion) :
    u.client.pending[index]? = some { operation, result := some result } →
    StepCase u (.complete index tracker) (u.resume settings tracker
      ({ u.client with pending := u.client.pending.eraseIdx index }.handle operation result))
  | relayed (arguments : List Str) :
    StepCase u (.deviceCommand arguments)
      (u.react .heartbeat (Transmitter.handleDeviceCommand arguments))
  | elapsed (milliseconds : Nat) :
    StepCase u (.elapse milliseconds) { u with timer := u.timer.elapse milliseconds }
  | expired (timer : DeadlineTimer Cause) : u.timer.expire = some timer →
    StepCase u .expire { u with timer }
  | fired (index : Nat) (wait : Wait Cause) (cancelled : Bool) (timer : DeadlineTimer Cause) :
    u.timer.dequeue index = some ((wait, cancelled), timer) →
    StepCase u (.fire index) ({ u with timer }.fire settings
      { wait, cancelled, time := u.timer.now, loss := u.loss })

theorem step_cases {settings : TransmitterSettings} {u v : Upstream} {e : Event}
    (taken : step settings u e = some v) : StepCase settings u e v := by
  cases e with
  | finish index result =>
      obtain ⟨client, finished, rfl⟩ := Option.map_eq_some_iff.mp taken
      exact .finished index result client finished
  | complete index tracker =>
      unfold step at taken
      dsimp only at taken
      split at taken
      · rename_i operation result found
        cases taken
        exact .completed index tracker operation result found
      · cases taken
  | deviceCommand arguments =>
      cases taken
      exact .relayed arguments
  | elapse milliseconds =>
      cases taken
      exact .elapsed milliseconds
  | expire =>
      obtain ⟨timer, expired, rfl⟩ := Option.map_eq_some_iff.mp taken
      exact .expired timer expired
  | fire index =>
      obtain ⟨⟨⟨wait, cancelled⟩, timer⟩, dequeued, rfl⟩ := Option.map_eq_some_iff.mp taken
      exact .fired index wait cancelled timer dequeued

/-! ## What the client is asked to do -/

/-- What a handler does to the client, the timer and the session. -/
def actionsOf (handler : Transmitter → Transmitter) (u : Upstream) : List Transmitter.Action :=
  (handler { u.transmitter with trace := [] }).trace

/-- The call of the client an action is. -/
def clientCall : Transmitter.Action → Option TcpClient.Call
  | .connect => some .connect
  | .send data => some (.send data)
  | .disconnect => some .disconnect
  | _ => none

theorem client_perform (cause : Cause) (u : Upstream) (action : Transmitter.Action) :
    (u.perform cause action).client =
      (clientCall action).toList.foldl TcpClient.call u.client := by
  cases action with
  | send data =>
      unfold perform
      dsimp only
      split <;> rfl
  | connect => rfl
  | disconnect => rfl
  | expiresFromNow milliseconds => rfl
  | asyncWait => rfl
  | processClientData data => rfl

theorem client_performAll (cause : Cause) (actions : List Transmitter.Action) (u : Upstream) :
    (actions.foldl (perform cause) u).client =
      (actions.filterMap clientCall).foldl TcpClient.call u.client := by
  induction actions generalizing u with
  | nil => rfl
  | cons action actions ih =>
      rw [List.foldl_cons, ih, client_perform]
      cases called : clientCall action with
      | none => rw [List.filterMap_cons_none called]; rfl
      | some call => rw [List.filterMap_cons_some called]; rfl

/-- A connected client takes the data, and starts a write unless one is in progress. -/
theorem trace_send (c : TcpClient) (data : Str) (connected : c.status = .connected) :
    ∃ written : List Str, (c.send data).trace = c.trace ++ .send data :: written.map .write := by
  unfold TcpClient.send
  rw [if_neg (not_not.mpr connected)]
  dsimp only
  split
  · refine ⟨[(c.writeBuffer ++ [data]).headD []], ?_⟩
    unfold TcpClient.asyncWrite TcpClient.startOnSocket TcpClient.record
    dsimp only
    split
    · exact List.append_assoc _ _ _
    · exact List.append_assoc _ _ _
  · exact ⟨[], rfl⟩

/-- The client sees the calls of the handler only. -/
theorem client_react (cause : Cause) (handler : Transmitter → Transmitter) (u : Upstream) :
    (u.react cause handler).client =
      ((actionsOf handler u).filterMap clientCall).foldl TcpClient.call u.client :=
  client_performAll cause _ _

/-- Five seconds until a reconnect. -/
def sampleSettings : TransmitterSettings :=
  { imei := "123456789012345".toList, enabled := true, reconnectDelay := 5000 }

/-- The connection is made and the logon is written. -/
def logsOn : List Event :=
  [.finish 0 {}, .complete 0 false, .finish 0 {}, .complete 0 false,
    .finish 0 { bytes := "##,imei:123456789012345,A;\r\n".toList }, .complete 0 false]

end Upstream

end GpsInformer
