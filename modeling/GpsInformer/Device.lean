import GpsInformer.Lib.Loop
import GpsInformer.Receiver

/-!
# `Device` (Device.cpp)

The tracker protocol on one session.  The functions work on `this` (its `_imei`
and its `_buffer`) and on what all devices share; `processData` puts `this` back into
`_devices` when it lets go of it.  What can leave the function as an exception, or is
undefined behaviour, is a `Fault`; the receiver's state then is the one at that point
(`Crash`).
-/

namespace GpsInformer

open Lib

/-- What can go wrong in a handler. -/
inductive Fault where
  /-- `operator[]` beyond the end of a vector -/
  | badIndex
  /-- `std::out_of_range` of a string function -/
  | outOfRange
  /-- the exception of `from_iso_string` -/
  | badDate
  deriving DecidableEq, Repr

/-- A handler left by an exception, and the state it leaves. -/
structure Crash where
  fault : Fault
  receiver : Receiver

/-- `arguments[i]` -/
def argument (arguments : List Str) (i : Nat) : Except Fault Str :=
  match arguments[i]? with
  | none => .error .badIndex
  | some text => .ok text

/-- `s.substr(pos)` -/
def substrFrom (s : Str) (pos : Nat) : Except Fault Str :=
  if pos > s.length then .error .outOfRange else .ok (s.drop pos)

/-- `s.erase(pos)` -/
def eraseFrom (s : Str) (pos : Nat) : Except Fault Str :=
  if pos > s.length then .error .outOfRange else .ok (s.take pos)

namespace Device

variable (env : DeviceEnv) (session : SessionId)

/-- `"##"` -/
def logonMark : Str := ['#', '#']

/-- `"imei:"` -/
def imeiMark : Str := ['i', 'm', 'e', 'i', ':']

/-- `split(arguments, command, is_any_of(","), token_compress_off)` -/
def split (command : Str) : List Str := command.splitOn ','

/-- `Device::commandLogon`: the `_imei` it leaves, what is shared, and its result. -/
def commandLogon (arguments : List Str) (imei : Str) (s : Shared) : Str × Shared × Bool :=
  match arguments with
  | [_, name, flag] =>
      if flag ≠ ['A'] then (imei, s, false)
      else if name.length ≠ 20 ∨ name.find imeiMark ≠ some 0 then ([], s, false)
      else
        let imei := name.drop 5
        if imei = env.imei then
          let s := { s with authorizedSession := some session }
          let (hostTime, s) := s.universalTime env
          let s := s.record (.trackerEvent .logon { imei, keyword := "connect".toList, hostTime })
          (imei, s.send session ['L', 'O', 'A', 'D'], true)
        else (imei, s, true)
  | _ => (imei, s, false)

/-- `Device::commandHeartbeat` -/
def commandHeartbeat (arguments : List Str) (imei : Str) (s : Shared) :
    Except Fault (Shared × Bool) := do
  let first ← argument arguments 0
  if first ≠ imei then return (s, false)
  return (s.send session ['O', 'N'], true)

/-- The tracker's `YYMMDDHHMMSS` as an ISO time string. -/
def isoTime (trackerTime : Str) : Str :=
  ['2', '0'] ++ trackerTime.take 6 ++ ['T'] ++ trackerTime.drop 6

def isDigits (s : Str) : Bool := s.all fun c => decide (c ∈ "0123456789".toList)

/-- `message.trackerTime` -/
def trackerTime (text : Str) : Except Fault (Option Int) :=
  if text.length = 12 ∧ isDigits text then
    match env.fromIsoString (isoTime text) with
    | none => .error .badDate
    | some time => .ok (some time)
  else .ok none

/-- The degrees and the minutes of a coordinate, cut two digits before its point, or
`none` if `commandGpsData` gives up. -/
def cutDegrees (coordinate : Str) : Except Fault (Option (Str × Str)) :=
  match coordinate.findFirstOf '.' with
  | none => .ok none
  | some position =>
      if position < 2 then .ok none
      else do
        let minutes ← substrFrom coordinate (position - 2)
        let degrees ← eraseFrom coordinate (position - 2)
        return some (degrees, minutes)

/-- A coordinate in degrees; `none` if one of the conversions raises. -/
def degrees (whole minutes : Str) : Option ℚ := do
  let d ← if whole = [] then some 0 else env.lexicalCast whole
  let m ← env.lexicalCast minutes
  return d + m / 60

/-- The `if (message.valid)` block: the position, or `none` if `commandGpsData` gives
up. -/
def position (arguments : List Str) (message : GpsMessage) :
    Except Fault (Option GpsMessage) := do
  match ← cutDegrees (← argument arguments 7) with
  | none => return none
  | some (latitude, latitudeMinutes) =>
      match ← cutDegrees (← argument arguments 9) with
      | none => return none
      | some (longitude, longitudeMinutes) =>
          let speed ← argument arguments 11
          match degrees env latitude latitudeMinutes, degrees env longitude longitudeMinutes,
              env.lexicalCast speed with
          | some latitude, some longitude, some speed =>
              let north ← argument arguments 8
              let east ← argument arguments 10
              return some { message with
                latitude := if north ≠ ['N'] then -latitude else latitude
                longitude := if east ≠ ['E'] then -longitude else longitude
                speed }
          | _, _, _ => return none

/-- `(arguments.size() > 11) && (arguments[4] == "F")` -/
def isValid (arguments : List Str) : Except Fault Bool :=
  if arguments.length > 11 then (· == ['F']) <$> argument arguments 4 else .ok false

/-- `Device::commandGpsData`, whose result nothing uses. -/
def commandGpsData (arguments : List Str) (s : Shared) : Except Fault Shared := do
  let imei ← argument arguments 0
  if imei.length ≠ 20 ∨ imei.find imeiMark ≠ some 0 then return s
  let keyword ← argument arguments 1
  let phone ← argument arguments 3
  let trackerTime ← trackerTime env (← argument arguments 2)
  let (hostTime, s) := s.universalTime env
  let valid ← isValid arguments
  let message : GpsMessage := { imei := imei.drop 5, keyword, phone, trackerTime, hostTime, valid }
  if valid then
    match ← position env arguments message with
    | none => return s
    | some message => return s.record (.trackerEvent .data message)
  else return s.record (.trackerEvent .data message)

/-- The dispatch of one command in `processData`: `_imei`, what is shared, `result` and
`transmit`. -/
def dispatch (arguments : List Str) (imei : Str) (s : Shared) :
    Except Fault (Str × Shared × Bool × Bool) := do
  let first ← argument arguments 0
  if first = logonMark then
    let (imei, s, result) := commandLogon env session arguments imei s
    return (imei, s, result, false)
  else if imei.length ≠ 0 ∧ s.authorizedSession = some session then
    if arguments.length = 1 then
      let (s, result) ← commandHeartbeat session arguments imei s
      return (imei, s, result, false)
    else if arguments.length = 6 ∨ arguments.length > 11 then
      let s ← commandGpsData env arguments s
      return (imei, s, true, true)
    else return (imei, s, true, true)
  else return (imei, s, true, true)

/-- How a session stands after a command: it goes on, it is to be closed, or an
exception has left the handler. -/
inductive Verdict where
  | goOn (imei : Str) (s : Shared)
  | close (imei : Str) (s : Shared)
  | fault (fault : Fault) (s : Shared)

/-- One command of `processData`, cut off the buffer. -/
def processCommand (command imei : Str) (s : Shared) : Verdict :=
  if command.length = 0 then .goOn imei s
  else
    let arguments := split command
    if arguments.length = 0 ∨ (arguments.headD []).length = 0 then .goOn imei s
    else
      match dispatch env session arguments imei s with
      | .error fault => .fault fault s
      | .ok (imei, s, result, transmit) =>
          if !result ∨ imei.length = 0 ∨ s.authorizedSession ≠ some session then .close imei s
          else .goOn imei (if transmit then s.record (.deviceCommand arguments) else s)

/-- How `processData` is left from within its loop. -/
inductive Ending where
  | close (d : Device) (s : Shared)
  | fault (fault : Fault) (d : Device) (s : Shared)

/-- The body of the loop of `processData`. -/
def processBody (state : Device × Shared) : Flow (Device × Shared) Ending :=
  let (d, s) := state
  match d.buffer.findFirstOf ';' with
  | none => .leave (d, s)
  | some offset =>
      let command := d.buffer.front (some offset)
      let buffer := d.buffer.drop (offset + 1)
      match processCommand env session command d.imei s with
      | .goOn imei s => .again ({ buffer, imei }, s)
      | .close imei s => .quit (.close { buffer, imei } s)
      | .fault fault s => .quit (.fault fault { buffer, imei := d.imei } s)

/-- The `while` of `processData`: every iteration erases a command from the buffer. -/
def processLoop : Loop (Device × Shared) Ending where
  body := processBody env session
  measure state := state.1.buffer.length
  decreases {state next} eq := by
    obtain ⟨d, s⟩ := state
    unfold processBody at eq
    dsimp only at eq
    split at eq
    · cases eq
    · rename_i offset found
      have within := (Str.of_findFirstOf found).2.2
      split at eq
      · cases eq
        rw [List.length_drop]
        exact Nat.sub_lt (Nat.zero_lt_of_lt within) (Nat.succ_pos offset)
      · cases eq
      · cases eq

/-- `Device::processData` -/
def processData (data : Str) (d : Device) (r : Receiver) : Except Crash Receiver :=
  let d := { d with buffer := (d.buffer ++ data).strip }
  match (processLoop env session).exec (d, r.shared) with
  | .left (d, s) =>
      let r := { r with shared := s }.putDevice session d
      .ok (if d.buffer.length > 32768 then r.close env session else r)
  | .returned (.close d s) => .ok (({ r with shared := s }.putDevice session d).close env session)
  | .returned (.fault fault d s) =>
      .error { fault, receiver := { r with shared := s }.putDevice session d }

end Device

namespace Receiver

variable (env : DeviceEnv) (session : SessionId)

def handleTcpSessionReceivedData (data : Str) (r : Receiver) : Except Crash Receiver :=
  match r.devices session with
  | none => .ok r
  | some d => d.processData env session data r

/-- `TcpSession::handleRead`; `failed` if there is an error. -/
def handleRead (data : Str) (failed : Bool) (r : Receiver) : Except Crash Receiver := do
  if failed ∨ data.length = 0 then return r.hangUp env session
  let r ← r.handleTcpSessionReceivedData env session data
  return { r with shared := r.shared.read session }

/-- `TcpSession::handleWrite`; `failed` if there is an error. -/
def handleWrite (failed : Bool) (r : Receiver) : Receiver :=
  if failed then r.hangUp env session
  else
    let s := r.shared.modifySession session fun t => { t with writeQueue := t.writeQueue.tail }
    { r with shared := if !(s.sessions session).writeQueue.isEmpty then s.write session else s }

/-- What `Application::handleTcpClientReceivedData` does with a downlink command: the
device of `Device::authorizedSession` sends it. -/
def processClientData (data : Str) (r : Receiver) : Receiver :=
  match r.shared.authorizedSession with
  | none => r
  | some session =>
      if (r.devices session).isSome then { r with shared := r.shared.send session data } else r

/-! ## Runs -/

inductive Event where
  /-- a connection is accepted -/
  | accept
  /-- an outstanding `async_read` completes -/
  | read (session : SessionId) (data : Str) (failed : Bool)
  /-- an outstanding `async_write` completes -/
  | write (session : SessionId) (failed : Bool)
  /-- the server closes one of its sessions -/
  | close (session : SessionId)
  /-- a downlink command is passed on -/
  | processClientData (data : Str)
  deriving DecidableEq, Repr

/-- One event; an exception that leaves the handler ends the run, as nothing catches
it. -/
def step (r : Receiver) : Event → Option Receiver
  | .accept =>
      let session := r.shared.created
      let s := { r.shared with created := session + 1 }
      some ({ r with shared := s.modifySession session fun _ => { isOpen := true } }.start session)
  | .read session data failed =>
      if (r.shared.sessions session).reads = 0 then none
      else
        let s := r.shared.modifySession session fun t => { t with reads := t.reads - 1 }
        ({ r with shared := s }.handleRead env session data failed).toOption
  | .write session failed =>
      if (r.shared.sessions session).writes = 0 then none
      else
        let s := r.shared.modifySession session fun t => { t with writes := t.writes - 1 }
        some ({ r with shared := s }.handleWrite env session failed)
  | .close session =>
      if (r.shared.sessions session).registered then some (r.close env session) else none
  | .processClientData data => some (r.processClientData data)

end Receiver

end GpsInformer
