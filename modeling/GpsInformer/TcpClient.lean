import GpsInformer.TcpClientHandler

/-!
# `TcpClient` (TcpClient.h, TcpClient.cpp)

The client object together with the part of Boost.Asio it leans on: the
asynchronous operations it has started and whose handlers have not been called.
An operation first finishes, which queues its completion with the result it then
has, and is later completed by a call of its handler.  Closing the socket
finishes every socket operation that has not finished yet with
`operation_aborted` and leaves the queued results alone; an operation started on
a closed socket finishes at once with `bad_descriptor`.

A completion handler is cut at the one place where it calls `_handler`: `Turn`
holds the state reached there, the notification, and whether `async_read` is
started once the owner returns.  The owner's reaction is any list of calls.
`_handler` is set in the constructor of the owner and never null afterwards.
-/

namespace GpsInformer

namespace TcpClient

/-- `TcpClient::Status`. -/
inductive Status where
  | disconnected
  | resolve
  | connecting
  | connected
  | disconnecting
  deriving DecidableEq, Repr

/-- The asynchronous operations the client starts, named by their handlers. -/
inductive Operation where
  | resolve
  | connect
  | read
  | write
  deriving DecidableEq, Repr

/-- What a completion handler is called with: the error, and the transferred
bytes (`bytes_transferred` is their number). -/
structure Completion where
  error : Option ErrorCode := none
  bytes : Str := []
  deriving DecidableEq, Repr

/-- A started operation whose handler has not been called.  `result` is present
once the operation has finished and its completion is queued. -/
structure Pending where
  operation : Operation
  result : Option Completion := none
  deriving DecidableEq, Repr

/-- What the client did, in order. -/
inductive Action where
  | connect
  | disconnect
  | send (data : Str)
  | write (data : Str)
  | notify (notification : Notification)
  deriving DecidableEq, Repr

end TcpClient

structure TcpClient where
  status : TcpClient.Status := .disconnected
  ioCount : Int := 0
  writeBuffer : List Str := []
  /-- `_socket.is_open()` -/
  isOpen : Bool := false
  /-- the outstanding operations of `_resolver` and `_socket` -/
  pending : List TcpClient.Pending := []
  /-- the trace of the run so far -/
  trace : List TcpClient.Action := []
  deriving DecidableEq, Repr

namespace TcpClient

def record (action : Action) (c : TcpClient) : TcpClient :=
  { c with trace := c.trace ++ [action] }

/-! ## Boost.Asio -/

/-- Start an asynchronous operation. -/
def start (operation : Operation) (c : TcpClient) : TcpClient :=
  { c with pending := c.pending ++ [{ operation }] }

/-- Start an asynchronous operation of `_socket`; on a closed one it finishes
at once. -/
def startOnSocket (operation : Operation) (c : TcpClient) : TcpClient :=
  if c.isOpen then c.start operation
  else { c with
    pending := c.pending ++ [{ operation, result := some { error := some .badDescriptor } }] }

/-- The completion an unfinished operation is given when it is cancelled. -/
def Pending.abort (p : Pending) : Pending :=
  { p with result := some (p.result.getD { error := some .operationAborted }) }

/-- `_socket.close(error)` -/
def closeSocket (c : TcpClient) : TcpClient :=
  { c with
    isOpen := false
    pending := c.pending.map fun p => if p.operation = .resolve then p else p.abort }

/-- `_resolver.cancel()` -/
def cancelResolver (c : TcpClient) : TcpClient :=
  { c with pending := c.pending.map fun p => if p.operation = .resolve then p.abort else p }

/-- `_ioCount++; asio::async_read(_socket, ...)` -/
def asyncRead (c : TcpClient) : TcpClient :=
  { c with ioCount := c.ioCount + 1 }.startOnSocket .read

/-- `_ioCount++; asio::async_write(_socket, ... _writeBuffer.front() ...)` -/
def asyncWrite (c : TcpClient) : TcpClient :=
  ({ c with ioCount := c.ioCount + 1 }.startOnSocket .write).record
    (.write (c.writeBuffer.headD []))

/-- `_ioCount++; asio::async_connect(_socket, endpoint, ...)`, which opens the
socket. -/
def asyncConnect (c : TcpClient) : TcpClient :=
  { c with ioCount := c.ioCount + 1, isOpen := true }.start .connect

/-! ## The public functions -/

def connect (c : TcpClient) : TcpClient :=
  if c.status ≠ .disconnected then c
  else ({ c with status := .resolve, ioCount := c.ioCount + 1 }.start .resolve).record .connect

def disconnect (c : TcpClient) : TcpClient :=
  match c.status with
  | .disconnected | .disconnecting => c
  | .resolve => ({ c with status := .disconnecting }.cancelResolver).record .disconnect
  | .connecting | .connected =>
      ({ c with status := .disconnecting }.closeSocket).record .disconnect

def send (data : Str) (c : TcpClient) : TcpClient :=
  if c.status ≠ .connected then c
  else
    let inProgress := !c.writeBuffer.isEmpty
    let c := { c with writeBuffer := c.writeBuffer ++ [data] }.record (.send data)
    if !inProgress then c.asyncWrite else c

/-! ## The completion handlers -/

/-- A completion handler up to its call of `_handler`. -/
structure Turn where
  client : TcpClient
  notification : Option Notification := none
  /-- the handler goes on to `async_read` -/
  thenRead : Bool := false

/-- `TcpClient::handleAnything`: the notification it sent, if any, and what it
returns. -/
def handleAnything (handleStatus : Status) (error : Option ErrorCode) (c : TcpClient) :
    TcpClient × Option Notification × Bool :=
  let c := { c with ioCount := c.ioCount - 1 }
  if c.status = .disconnected then (c, none, false)
  else if c.status = .disconnecting ∨ error.isSome then
    let c := c.closeSocket
    -- Waiting for all IO operations to complete
    if c.ioCount > 0 then (c, none, false)
    else
      let status := c.status
      let c := { c with writeBuffer := [], status := .disconnected, ioCount := 0 }
      if handleStatus = .connected then
        (c, some (.disconnect (if status = .disconnecting then .closedByUser else .closedByPeer)),
          false)
      else
        (c, some (.error (if status = .disconnecting then .operationAborted
          else error.getD .operationAborted)), false)
  else (c, none, true)

def handleResolve (error : Option ErrorCode) (c : TcpClient) : Turn :=
  match c.handleAnything .resolve error with
  | (c, notification, false) => { client := c, notification }
  | (c, _, true) => { client := { c with status := .connecting }.asyncConnect }

def handleConnect (error : Option ErrorCode) (c : TcpClient) : Turn :=
  match c.handleAnything .connecting error with
  | (c, notification, false) => { client := c, notification }
  | (c, _, true) =>
      { client := { c with status := .connected }, notification := some .connect, thenRead := true }

/-- `if (!errorCode && size == 0) errorCode = eof` -/
def eofIfEmpty (size : Nat) (error : Option ErrorCode) : Option ErrorCode :=
  if error.isNone ∧ size = 0 then some .eof else error

def handleRead (data : Str) (error : Option ErrorCode) (c : TcpClient) : Turn :=
  match c.handleAnything .connected (eofIfEmpty data.length error) with
  | (c, notification, false) => { client := c, notification }
  | (c, _, true) =>
      { client := c, notification := some (.receivedData data), thenRead := true }

def handleWrite (size : Nat) (error : Option ErrorCode) (c : TcpClient) : Turn :=
  match c.handleAnything .connected (eofIfEmpty size error) with
  | (c, notification, false) => { client := c, notification }
  | (c, _, true) =>
      let c := { c with writeBuffer := c.writeBuffer.tail }
      { client := if !c.writeBuffer.isEmpty then c.asyncWrite else c }

/-- The handler of a finished operation. -/
def handle (operation : Operation) (result : Completion) (c : TcpClient) : Turn :=
  match operation with
  | .resolve => c.handleResolve result.error
  | .connect => c.handleConnect result.error
  | .read => c.handleRead result.bytes result.error
  | .write => c.handleWrite result.bytes.length result.error

/-- The rest of a completion handler, `react` being the owner's reaction. -/
def Turn.resume (react : TcpClient → TcpClient) (turn : Turn) : TcpClient :=
  let c := match turn.notification with
    | none => turn.client
    | some notification => react (turn.client.record (.notify notification))
  if turn.thenRead then c.asyncRead else c

/-! ## Runs -/

inductive Call where
  | connect
  | disconnect
  | send (data : Str)
  deriving DecidableEq, Repr

def call (c : TcpClient) : Call → TcpClient
  | .connect => c.connect
  | .disconnect => c.disconnect
  | .send data => c.send data

inductive Event where
  /-- a call of the owner between two handlers -/
  | call (call : Call)
  /-- an outstanding operation finishes -/
  | finish (index : Nat) (result : Completion)
  /-- the handler of a finished operation is called; `calls` is what the owner
  does when it is notified -/
  | complete (index : Nat) (calls : List Call)
  deriving DecidableEq, Repr

def step (c : TcpClient) : Event → Option TcpClient
  | .call request => some (c.call request)
  | .finish index result =>
      match c.pending[index]? with
      | some { operation, result := none } =>
          some { c with pending := c.pending.set index { operation, result := some result } }
      | _ => none
  | .complete index calls =>
      match c.pending[index]? with
      | some { operation, result := some result } =>
          some (({ c with pending := c.pending.eraseIdx index }.handle operation result).resume
            fun c => calls.foldl call c)
      | _ => none

end TcpClient

end GpsInformer
