import GpsInformer.TcpClientHandler

/-!
# `SslClient` (SslClient.h, SslClient.cpp)

The object on top of a TCP client and of mbedtls.  The TCP client is any
`TcpLayer`; a call into mbedtls is its result together with the traffic it
causes through `sslReadCallback` and `sslWriteCallback` (`Tls`), chosen by the
event.

The owner is notified from the middle of most functions and may call back.  Such
a function takes the owner's reaction as its first argument; a reaction is a list
of calls, and a `send` among them carries the reaction to the notification it may
cause itself (`Call`).  `_handler` is set in the constructor of the owner and never
null afterwards.
-/

namespace GpsInformer

/-- What a `SslClient` uses of its `_tcpClient`: the public functions, and when
the client is in the `Disconnected` status. -/
class TcpLayer (τ : Type) where
  down : τ → Prop
  connect : τ → τ
  disconnect : τ → τ
  send : Str → τ → τ
  not_down_connect : ∀ t, ¬ down (connect t)
  down_disconnect : ∀ t, down (disconnect t) ↔ down t
  down_send : ∀ data t, down (send data t) ↔ down t

namespace SslClient

/-- `SslClient::Status`. -/
inductive Status where
  | disconnected
  | connecting
  | handshake
  | connected
  | disconnecting
  | error
  deriving DecidableEq, Repr

/-- `MBEDTLS_ERR_SSL_WANT_READ` -/
def wantRead : Int := -0x6900

/-- `MBEDTLS_ERR_SSL_WANT_WRITE` -/
def wantWrite : Int := -0x6880

/-- One call of `mbedtls_ssl_handshake`, `mbedtls_ssl_read` or `mbedtls_ssl_write`:
its result, the number of bytes it takes from `_sslBuffer`, the strings it passes
to `_tcpClient.send`, and the plain text a read leaves in its buffer. -/
structure Tls where
  result : Int
  consumed : Nat := 0
  written : List Str := []
  plain : Str := []
  deriving DecidableEq, Repr

/-- Whether the mbedtls calls of `connect` succeed. -/
structure TlsSetup where
  initialized : Bool := true
  sessionReset : Bool := true
  setHostname : Bool := true
  deriving DecidableEq, Repr

/-- What the client did, in order. -/
inductive Action where
  | connect
  | disconnect
  | send (data : Str)
  | write (data : Str) (result : Int)
  | notify (notification : Notification)
  deriving DecidableEq, Repr

/-- A call of the owner.  A `send` may call `mbedtls_ssl_write` (`tls`), re-arm the
timer (which fails if `timerError`) and end the connection, to which the owner
reacts with `calls`. -/
inductive Call where
  | connect (setup : TlsSetup)
  | disconnect
  | send (data : Str) (tls : Tls) (timerError : Bool) (calls : List Call)

/-- One mbedtls call made by a handler, and the owner's reaction if it is notified
there. -/
structure Reply where
  tls : Tls
  calls : List Call := []

end SslClient

structure SslClient (τ : Type) where
  tcpClient : τ
  /-- the pending waits of `_timer` -/
  waits : Nat := 0
  sslBuffer : Str := []
  writeBuffer : List Str := []
  status : SslClient.Status := .disconnected
  ioCount : Int := 0
  sslInitialized : Bool := false
  wasConnected : Bool := false
  /-- the trace of the run so far -/
  trace : List SslClient.Action := []
  deriving DecidableEq, Repr

namespace SslClient

variable {τ : Type} [TcpLayer τ]

def record (action : Action) (s : SslClient τ) : SslClient τ :=
  { s with trace := s.trace ++ [action] }

/-- The traffic of a call into mbedtls.  The callbacks refuse unless the client is
in the handshake or connected. -/
def callTls (tls : Tls) (s : SslClient τ) : SslClient τ :=
  if s.status = .handshake ∨ s.status = .connected then
    { s with
      sslBuffer := s.sslBuffer.drop tls.consumed
      tcpClient := tls.written.foldl (fun t data => TcpLayer.send data t) s.tcpClient }
  else s

def connect (setup : TlsSetup) (s : SslClient τ) : SslClient τ :=
  if !(s.sslInitialized || setup.initialized) then s
  else
    let s := { s with sslInitialized := true }
    if s.status ≠ .disconnected then s
    else if !setup.sessionReset then s
    else if !setup.setHostname then s
    else { s with
      sslBuffer := []
      writeBuffer := []
      status := .connecting
      tcpClient := TcpLayer.connect s.tcpClient }.record .connect

def disconnect (s : SslClient τ) : SslClient τ :=
  if s.status ≠ .disconnected ∧ s.status ≠ .disconnecting ∧ s.status ≠ .error then
    { s with
      status := .disconnecting
      tcpClient := TcpLayer.disconnect s.tcpClient }.record .disconnect
  else s

/-- `SslClient::handleAnything` and what it returns. -/
def handleAnything (react : SslClient τ → SslClient τ) (handleStatus : Status)
    (error : Option ErrorCode) (s : SslClient τ) : SslClient τ × Bool :=
  let s := { s with ioCount := s.ioCount - 1 }
  if s.status = .disconnected then (s, false)
  else if s.status = .disconnecting ∨ s.status = .error ∨ error.isSome then
    let s := { s with status := if s.status ≠ Status.disconnecting then .error else s.status }
    let s := { s with tcpClient := TcpLayer.disconnect s.tcpClient }
    -- Waiting for all IO operations to complete
    if s.ioCount > 0 then (s, false)
    else
      let status := s.status
      let s := { s with
        writeBuffer := [], status := .disconnected, ioCount := 0, wasConnected := false }
      if handleStatus = .connected then
        (react (s.record (.notify (.disconnect
          (if status = .disconnecting then .closedByUser else .closedByPeer)))), false)
      else
        (react (s.record (.notify (.error (if status = .disconnecting then .operationAborted
          else error.getD .operationAborted)))), false)
  else (s, true)

/-- `mbedtls` asks to be called again. -/
def wants (result : Int) : Prop := result = wantRead ∨ result = wantWrite

instance (result : Int) : Decidable (wants result) :=
  inferInstanceAs (Decidable (_ ∨ _))

/-- The error of a read or write result. -/
def ioError (result : Int) : Option ErrorCode :=
  if result ≤ 0 ∧ ¬ wants result then some (if result ≠ 0 then .other result else .eof) else none

def handleHandshake (react : SslClient τ → SslClient τ) (tls : Tls) (s : SslClient τ) :
    SslClient τ :=
  let s := s.callTls tls
  let error : Option ErrorCode :=
    if tls.result ≠ 0 ∧ ¬ wants tls.result then some (.other tls.result) else none
  match s.handleAnything react .handshake error with
  | (s, false) => s
  | (s, true) =>
      if wants tls.result then s
      else
        let s := { s with status := .connected, wasConnected := true }
        react (s.record (.notify .connect))

def handleRead (react : SslClient τ → SslClient τ) (tls : Tls) (s : SslClient τ) :
    SslClient τ × Bool :=
  let s := s.callTls tls
  match s.handleAnything react .connected (ioError tls.result) with
  | (s, false) => (s, false)
  | (s, true) =>
      let s :=
        if 0 < tls.result then
          react (s.record (.notify (.receivedData (tls.plain.take tls.result.toNat))))
        else s
      (s, decide (0 < tls.result))

/-- `SslClient::handleWrite`; `timerError` is the error of `expires_from_now`. -/
def handleWrite (react : SslClient τ → SslClient τ) (tls : Tls) (timerError : Bool)
    (s : SslClient τ) : SslClient τ :=
  match s.writeBuffer with
  | [] => { s with ioCount := s.ioCount - 1 }
  | data :: _ =>
      let s := (s.callTls tls).record (.write data tls.result)
      match s.handleAnything react .connected (ioError tls.result) with
      | (s, false) => s
      | (s, true) =>
          let s := if ¬ wants tls.result then { s with writeBuffer := s.writeBuffer.tail } else s
          if timerError then s
          else { s with ioCount := s.ioCount + 1, waits := s.waits + 1 }

def send (react : SslClient τ → SslClient τ) (data : Str) (tls : Tls) (timerError : Bool)
    (s : SslClient τ) : SslClient τ :=
  if s.status ≠ .connected then s
  else
    let inProgress := !s.writeBuffer.isEmpty
    let s := { s with writeBuffer := s.writeBuffer ++ [data] }.record (.send data)
    if !inProgress then { s with ioCount := s.ioCount + 1 }.handleWrite react tls timerError else s

mutual

def call (s : SslClient τ) : Call → SslClient τ
  | .connect setup => s.connect setup
  | .disconnect => s.disconnect
  | .send data tls timerError inner => s.send (fun s => calls s inner) data tls timerError

/-- The owner's reaction to a notification. -/
def calls (s : SslClient τ) : List Call → SslClient τ
  | [] => s
  | first :: rest => calls (call s first) rest

end

/-! ## The handlers of the TCP client's notifications -/

def handleTcpClientConnect (reply : Reply) (s : SslClient τ) : SslClient τ :=
  { s with status := .handshake, ioCount := s.ioCount + 1 }.handleHandshake
    (fun s => s.calls reply.calls) reply.tls

def handleTcpClientDisconnect (reaction : List Call) (s : SslClient τ) : SslClient τ :=
  ({ s with ioCount := s.ioCount + 1 }.handleAnything (fun s => s.calls reaction)
    (if s.wasConnected then .connected else .handshake) (some .eof)).1

def handleTcpClientError (code : ErrorCode) (reaction : List Call) (s : SslClient τ) :
    SslClient τ :=
  ({ s with ioCount := s.ioCount + 1 }.handleAnything (fun s => s.calls reaction)
    .connecting (some code)).1

/-- `while (_status == Connected) { _ioCount++; if (!handleRead()) break; }`, or
`none` if there are fewer mbedtls calls in `replies` than the loop makes. -/
def readLoop : List Reply → SslClient τ → Option (SslClient τ)
  | [], s => if s.status = .connected then none else some s
  | reply :: replies, s =>
      if s.status = .connected then
        match { s with ioCount := s.ioCount + 1 }.handleRead
            (fun s => s.calls reply.calls) reply.tls with
        | (s, true) => readLoop replies s
        | (s, false) => some s
      else some s

def handleTcpClientReceivedData (data : Str) (replies : List Reply) (s : SslClient τ) :
    Option (SslClient τ) :=
  let s := { s with sslBuffer := s.sslBuffer ++ data }
  if s.status = .handshake then
    match replies with
    | [] => none
    | reply :: _ =>
        some ({ s with ioCount := s.ioCount + 1 }.handleHandshake
          (fun s => s.calls reply.calls) reply.tls)
  else s.readLoop replies

/-- A wait of the timer fires, by expiry or because it was cancelled. -/
def handleTimer (reply : Reply) (timerError : Bool) (s : SslClient τ) : SslClient τ :=
  { s with waits := s.waits - 1 }.handleWrite (fun s => s.calls reply.calls) reply.tls timerError

end SslClient

end GpsInformer
