import GpsInformer.PropertyTree

/-!
# `HttpsClient` (HttpsClient.cpp)

The request queue, over an `SslClient` of which it sees the phase of its connection
(`SslPhase`) and what has been sent on it.  `HttpsClient` and the owner it notifies
call each other, so the functions work on both (`Owned`); the owner's handlers are a
parameter.  A failing `expires_from_now` is an oracle over the calls of `pushQueue`.
`SslClient` is shown to keep to the phases in `SslClient.sslClient_reaches`.
-/

namespace GpsInformer

/-- An argument; the last three fields are about a file. -/
structure HttpReqArg where
  name : Str
  value : Str
  isFile : Bool := false
  mimeType : Str := "text/plain".toList
  fileName : Str := []
  deriving DecidableEq, Repr

/-- A request.  Its data is what `generateRequest` makes of the URL and the
arguments. -/
structure HttpRequest where
  url : Str
  arguments : List HttpReqArg
  longPoll : Bool
  tag : Nat
  deriving DecidableEq, Repr

/-- How far `_client` is with a connection.  `SslClient` has called `disconnect` when it
is `disconnecting`, and is waiting for the end of a connection that has failed when it
is `failed`; both remember whether it was connected. -/
inductive SslPhase where
  | disconnected
  | connecting
  | connected
  | disconnecting (wasConnected : Bool)
  | failed (wasConnected : Bool)
  deriving DecidableEq, Repr

/-- A connection of `_client`. -/
structure Connection where
  /-- the places in `Journal.queued` of the requests whose data has been passed to
  `_client.send` -/
  sent : List Nat := []
  received : Str := []
  deriving DecidableEq, Repr

/-- A call of `handleHttpClientResponse`. -/
structure Answer where
  request : HttpRequest
  /-- the place in `Journal.queued` of the request -/
  place : Nat
  /-- the place in `Journal.connections` of the connection that has ended -/
  connection : Nat
  response : Str
  deriving DecidableEq, Repr

/-- A `pop_front`. -/
structure Departure where
  request : HttpRequest
  connection : Nat
  /-- whether the connection was closed by the peer -/
  byPeer : Bool
  deriving DecidableEq, Repr

/-- What has happened to an `HttpsClient` so far. -/
structure Journal where
  queued : List HttpRequest := []
  departed : List Departure := []
  connections : List Connection := []
  answers : List Answer := []
  deriving DecidableEq, Repr

/-- The connection that has been opened last. -/
def Journal.current (j : Journal) : Nat := j.connections.length - 1

structure HttpsClient where
  requestQueue : List HttpRequest := []
  response : Str := []
  /-- the waits of `_timer` whose handler has not been called yet -/
  waits : Nat := 0
  /-- the number of calls of `expires_from_now` -/
  armings : Nat := 0
  ssl : SslPhase := .disconnected
  journal : Journal := {}
  deriving DecidableEq, Repr

/-- `HttpsClient` and the object its `_handler` points to. -/
structure Owned (β : Type) where
  client : HttpsClient
  owner : β

/-- The handler of an `HttpsClient`. -/
structure HttpClientHandler (β : Type) where
  handleHttpClientError : Owned β → Owned β
  handleHttpClientIdle : Owned β → Owned β
  handleHttpClientResponse : HttpRequest → Str → Owned β → Except Failure (Owned β)

namespace HttpsClient

/-- `SslClient::isConnecting` -/
def isConnecting (c : HttpsClient) : Bool := c.ssl = .connecting

def isConnected (c : HttpsClient) : Bool := c.ssl = .connected

def isDisconnecting (c : HttpsClient) : Bool :=
  match c.ssl with
  | .disconnecting _ | .failed _ => true
  | _ => false

/-- `_client.disconnect()` -/
def disconnect (c : HttpsClient) : HttpsClient :=
  match c.ssl with
  | .connecting => { c with ssl := .disconnecting false }
  | .connected => { c with ssl := .disconnecting true }
  | _ => c

/-- `_client.connect(...)`; `accepted` if the setup of TLS succeeds. -/
def connect (accepted : Bool) (c : HttpsClient) : HttpsClient :=
  if c.ssl = .disconnected ∧ accepted then
    let connections := c.journal.connections ++ [({} : Connection)]
    { c with ssl := .connecting, journal := { c.journal with connections } }
  else c

/-- Something happens on the current connection. -/
def modifyConnection (f : Connection → Connection) (c : HttpsClient) : HttpsClient :=
  let connections := c.journal.connections.modify c.journal.current f
  { c with journal := { c.journal with connections } }

/-- `_client.send(_requestQueue.front().getData())` -/
def sendFront (c : HttpsClient) : HttpsClient :=
  if c.ssl = .connected then
    c.modifyConnection fun connection =>
      { connection with sent := connection.sent ++ [c.journal.departed.length] }
  else c

variable (timerFails : Nat → Bool)

def pushQueue (c : HttpsClient) : HttpsClient :=
  let errorCode := timerFails c.armings
  let c := { c with armings := c.armings + 1 }
  if !errorCode then { c with waits := c.waits + 1 } else c

def sendRequest (request : HttpRequest) (c : HttpsClient) : HttpsClient :=
  let queued := c.journal.queued ++ [request]
  pushQueue timerFails
    { c with requestQueue := c.requestQueue ++ [request], journal := { c.journal with queued } }

/-- `_requestQueue.front()` -/
def front (c : HttpsClient) : Except Failure HttpRequest :=
  match c.requestQueue with
  | [] => .error .emptyDeque
  | request :: _ => .ok request

/-- `_requestQueue.pop_front()`, at the end of a connection. -/
def popFront (byPeer : Bool) (c : HttpsClient) : Except Failure HttpsClient :=
  match c.requestQueue with
  | [] => .error .emptyDeque
  | request :: rest =>
      let departure : Departure := { request, connection := c.journal.current, byPeer }
      let departed := c.journal.departed ++ [departure]
      .ok { c with requestQueue := rest, journal := { c.journal with departed } }

/-- `_handler->handleHttpClientResponse(_requestQueue.front(), _response)` is called. -/
def answer (request : HttpRequest) (c : HttpsClient) : HttpsClient :=
  let place := c.journal.departed.length
  let answer : Answer :=
    { request, place, connection := c.journal.current, response := c.response }
  { c with journal := { c.journal with answers := c.journal.answers ++ [answer] } }

end HttpsClient

namespace Owned

open HttpsClient

variable {β : Type} (timerFails : Nat → Bool) (handler : HttpClientHandler β)

/-! ## The handlers of the SSL client's notifications -/

def handleTcpClientConnect (s : Owned β) : Owned β :=
  let c := { s.client with ssl := .connected, response := [] }
  if !c.requestQueue.isEmpty then { s with client := c.sendFront } else { s with client := c }

def handleTcpClientDisconnect (closedByUser : Bool) (s : Owned β) : Except Failure (Owned β) := do
  let s := { s with client := { s.client with ssl := .disconnected } }
  let s ←
    if !closedByUser then
      let request ← s.client.front
      handler.handleHttpClientResponse request s.client.response
        { s with client := s.client.answer request }
    else .ok s
  let c ← s.client.popFront (!closedByUser)
  return { s with client := { c with response := [] }.pushQueue timerFails }

def handleTcpClientError (operationAborted : Bool) (s : Owned β) : Except Failure (Owned β) := do
  let c := { s.client with ssl := .disconnected, response := [] }
  if operationAborted then
    let c ← c.popFront false
    return { s with client := c.pushQueue timerFails }
  else return handler.handleHttpClientError { s with client := c }

def handleTcpClientReceivedData (data : Str) (s : Owned β) : Owned β :=
  let c := { s.client with response := s.client.response ++ data }
  { s with client := c.modifyConnection fun connection =>
    { connection with received := connection.received ++ data } }

/-- A wait of `_timer` ends; `accepted` if a call of `SslClient::connect` made here is. -/
def handleTimerEvent (accepted : Bool) (s : Owned β) : Except Failure (Owned β) :=
  let s := { s with client := { s.client with waits := s.client.waits - 1 } }
  if s.client.isDisconnecting then .ok s
  else if s.client.isConnecting ∨ s.client.isConnected then do
    let request ← s.client.front
    -- Waiting for current request to finish
    return if request.longPoll ∧ s.client.response.length = 0 then
      { s with client := s.client.disconnect }
    else s
  else if s.client.requestQueue.isEmpty then .ok (handler.handleHttpClientIdle s)
  else .ok { s with client := s.client.connect accepted }

/-! ## Runs -/

/-- A call of a public function. -/
inductive Call where
  | sendRequest (request : HttpRequest)
  | pushQueue
  deriving DecidableEq, Repr

/-- What can happen to an `HttpsClient` between its handlers. -/
inductive Event where
  | call (call : Call)
  /-- a wait of `_timer` ends; `accepted` if TLS could be set up for a connection -/
  | timer (accepted : Bool)
  /-- `_client` has connected, `_client` notices a failure, data arrives, and the connection
  is over -/
  | connected
  | breaks
  | data (data : Str)
  | ends
  deriving DecidableEq, Repr

def perform (call : Call) (c : HttpsClient) : HttpsClient :=
  match call with
  | .sendRequest request => c.sendRequest timerFails request
  | .pushQueue => c.pushQueue timerFails

/-- Data may arrive until the connection is over. -/
def receives : SslPhase → Bool
  | .connected | .disconnecting true | .failed true => true
  | _ => false

/-- The end of a connection: `SslClient` reports `ClosedByUser` or `operation_aborted` iff
`disconnect` has been called, and an error iff it has not reported a connection. -/
def handleEnd (s : Owned β) : Option (Owned β) :=
  match s.client.ssl with
  | .disconnecting true => (handleTcpClientDisconnect timerFails handler true s).toOption
  | .disconnecting false => (handleTcpClientError timerFails handler true s).toOption
  | .failed true => (handleTcpClientDisconnect timerFails handler false s).toOption
  | .failed false => (handleTcpClientError timerFails handler false s).toOption
  | _ => none

/-- One event; an exception that leaves a handler ends the run. -/
def step (s : Owned β) : Event → Option (Owned β)
  | .call call => some { s with client := perform timerFails call s.client }
  | .timer accepted =>
      if s.client.waits = 0 then none else (handleTimerEvent handler accepted s).toOption
  | .connected => if s.client.ssl = .connecting then some (handleTcpClientConnect s) else none
  | .breaks =>
      match s.client.ssl with
      | .connecting => some { s with client := { s.client with ssl := .failed false } }
      | .connected => some { s with client := { s.client with ssl := .failed true } }
      | _ => none
  | .data data =>
      if receives s.client.ssl then some (handleTcpClientReceivedData data s) else none
  | .ends => handleEnd timerFails handler s

end Owned

end GpsInformer
