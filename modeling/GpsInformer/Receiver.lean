import Mathlib.Data.Rat.Defs
import Mathlib.Logic.Function.Basic
import GpsInformer.StdString

/-!
# The receiver's sessions and devices

`TcpSession` (TcpSession.cpp), the session handlers of `Application`
(ApplicationReceiver.cpp) and the life of a `Device` (Device.cpp): one state holds
`TcpServer::_sessions`, `Application::_devices` and `Device::_authorizedSession`.
A session is named by a number that is never used twice, as its `shared_ptr` is.

What the receiver does to the rest of the program is recorded in order.  Coordinates
and speed are exact rationals.
-/

namespace GpsInformer

open Function (update)

abbrev SessionId := Nat

structure GpsMessage where
  imei : Str := []
  keyword : Str := []
  phone : Str := []
  /-- `none` is `not_a_date_time` -/
  trackerTime : Option Int := none
  hostTime : Option Int := none
  latitude : ℚ := 0
  longitude : ℚ := 0
  speed : ℚ := 0
  valid : Bool := false
  deriving DecidableEq, Repr

/-- What a `Device` needs from outside: the configured IMEI, the clock (its `n`-th
reading), and the two Boost conversions, which raise where they are `none`. -/
structure DeviceEnv where
  imei : Str := []
  clock : Nat → Int
  fromIsoString : Str → Option Int
  lexicalCast : Str → Option ℚ

structure Device where
  buffer : Str := []
  imei : Str := []
  deriving DecidableEq, Repr

structure TcpSession where
  active : Bool := false
  /-- `_socket.is_open()` -/
  isOpen : Bool := false
  /-- whether the session is in `TcpServer::_sessions` -/
  registered : Bool := false
  writeQueue : List Str := []
  /-- the outstanding `async_read`s and `async_write`s -/
  reads : Nat := 0
  writes : Nat := 0
  deriving DecidableEq, Repr

/-- Where a tracker event comes from. -/
inductive Origin where
  | logon
  | data
  | destruction
  deriving DecidableEq, Repr

/-- What the receiver did. -/
inductive Effect where
  /-- `Application::handleTrackerEvent(message)` -/
  | trackerEvent (origin : Origin) (message : GpsMessage)
  /-- a string accepted by `TcpSession::send` -/
  | send (session : SessionId) (data : Str)
  | asyncWrite (session : SessionId) (data : Str)
  /-- `Application::handleDeviceCommand(arguments)` -/
  | deviceCommand (arguments : List Str)
  /-- `TcpSession::close()` -/
  | close (session : SessionId)
  /-- a session is ended, by a close or by an error -/
  | hangUp (session : SessionId)
  /-- `Device::Device(session)` -/
  | construct (session : SessionId)
  /-- `Device::~Device()` -/
  | destroy (session : SessionId)
  deriving DecidableEq, Repr

/-- What the devices of all sessions share. -/
structure Shared where
  sessions : SessionId → TcpSession := fun _ => {}
  /-- the number of sessions created so far -/
  created : Nat := 0
  /-- `Device::_authorizedSession` -/
  authorizedSession : Option SessionId := none
  /-- the number of times the clock has been read -/
  ticks : Nat := 0
  /-- the trace of the run so far -/
  log : List Effect := []

/-- The receiver: the above and `Application::_devices`. -/
structure Receiver where
  shared : Shared := {}
  devices : SessionId → Option Device := fun _ => none

namespace Shared

variable (env : DeviceEnv) (session : SessionId)

def record (effect : Effect) (s : Shared) : Shared :=
  { s with log := s.log ++ [effect] }

@[simp] theorem sessions_record (effect : Effect) (s : Shared) :
    (s.record effect).sessions = s.sessions := rfl

@[simp] theorem authorizedSession_record (effect : Effect) (s : Shared) :
    (s.record effect).authorizedSession = s.authorizedSession := rfl

@[simp] theorem log_record (effect : Effect) (s : Shared) :
    (s.record effect).log = s.log ++ [effect] := rfl

/-- `second_clock::universal_time()` -/
def universalTime (s : Shared) : Int × Shared :=
  (env.clock s.ticks, { s with ticks := s.ticks + 1 })

def modifySession (f : TcpSession → TcpSession) (s : Shared) : Shared :=
  { s with sessions := update s.sessions session (f (s.sessions session)) }

/-! ## `TcpSession` -/

def write (s : Shared) : Shared :=
  (s.modifySession session fun t => { t with writes := t.writes + 1 }).record
    (.asyncWrite session ((s.sessions session).writeQueue.headD []))

def send (data : Str) (s : Shared) : Shared :=
  if !(s.sessions session).isOpen then s
  else
    let inProgress := !(s.sessions session).writeQueue.isEmpty
    let s := s.modifySession session fun t => { t with writeQueue := t.writeQueue ++ [data] }
    let s := s.record (.send session data)
    if !inProgress then s.write session else s

def read (s : Shared) : Shared :=
  s.modifySession session fun t => { t with reads := t.reads + 1 }

def cleanup (s : Shared) : Shared :=
  s.modifySession session fun t => { t with registered := false, isOpen := false, active := false }

/-- `Device::~Device` -/
def destroyDevice (d : Device) (s : Shared) : Shared :=
  let s := s.record (.destroy session)
  if s.authorizedSession = some session then
    let s := { s with authorizedSession := none }
    let (hostTime, s) := s.universalTime env
    s.record (.trackerEvent .destruction
      { imei := d.imei, keyword := "disconnect".toList, hostTime })
  else s

/-- The event a device reports when it is destroyed at some time. -/
def disconnection (d : Device) (time : Int) : GpsMessage :=
  { imei := d.imei, keyword := "disconnect".toList, hostTime := some time }

variable {env session}

theorem destroyDevice_of_ne {d : Device} {s : Shared} (other : s.authorizedSession ≠ some session) :
    s.destroyDevice env session d = s.record (.destroy session) := by
  unfold destroyDevice
  exact if_neg other

theorem destroyDevice_of_owner {d : Device} {s : Shared}
    (owner : s.authorizedSession = some session) :
    s.destroyDevice env session d =
      { s with
        authorizedSession := none
        ticks := s.ticks + 1
        log := s.log ++
          [.destroy session,
            .trackerEvent .destruction (disconnection d (env.clock s.ticks))] } := by
  unfold destroyDevice
  refine (if_pos owner).trans ?_
  simp [record, universalTime, disconnection]

end Shared

namespace Receiver

variable (env : DeviceEnv) (session : SessionId)

def putDevice (d : Device) (r : Receiver) : Receiver :=
  { r with devices := update r.devices session (some d) }

/-! ## The session handlers -/

/-- `_devices.erase(session)` -/
def eraseDevice (r : Receiver) : Receiver :=
  match r.devices session with
  | none => r
  | some d =>
      { shared := r.shared.destroyDevice env session d, devices := update r.devices session none }

def handleTcpSessionConnect (r : Receiver) : Receiver :=
  { r with shared := r.shared.record (.construct session) }.putDevice session {}

def handleTcpSessionDisconnect (r : Receiver) : Receiver :=
  if !(r.shared.sessions session).active then r else r.eraseDevice env session

/-- `handleTcpSessionDisconnect` and `TcpSession::cleanup`, the end of a session. -/
def hangUp (r : Receiver) : Receiver :=
  let r := { r with shared := r.shared.record (.hangUp session) }
  let r := r.handleTcpSessionDisconnect env session
  { r with shared := r.shared.cleanup session }

/-- `TcpSession::close` -/
def close (r : Receiver) : Receiver :=
  { r with shared := r.shared.record (.close session) }.hangUp env session

/-- `TcpSession::start` -/
def start (r : Receiver) : Receiver :=
  let r := { r with shared := r.shared.modifySession session fun t =>
    { t with active := true, registered := true } }
  let r := r.handleTcpSessionConnect session
  { r with shared := r.shared.read session }

end Receiver

end GpsInformer
