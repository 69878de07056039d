import GpsInformer.Lib.Loop
import GpsInformer.TcpClientHandler

/-!
# The transmitter (ApplicationTransmitter.cpp)

The part of `Application` that keeps the upstream connection, as the handler of
`_transmitter`.  What it does to `_transmitter`, `_transmitterTimer` and the
tracker's session is recorded in order.  `tracker` says whether the session
`Device::authorizedSession` is one of `_devices`; no statement of these functions
changes that.
-/

namespace GpsInformer

open Lib

/-- The settings the transmitter reads. -/
structure TransmitterSettings where
  imei : Str := []
  heartbeat : Int := 30000
  enabled : Bool := false
  reconnectDelay : Int := 0
  deriving DecidableEq, Repr

/-- The heartbeat interval, at least ten seconds. -/
def TransmitterSettings.heartbeatDelay (settings : TransmitterSettings) : Int :=
  if settings.heartbeat < 10000 then 10000 else settings.heartbeat

namespace Transmitter

/-- What the transmitter did. -/
inductive Action where
  /-- `_transmitter.connect(...)` -/
  | connect
  /-- `_transmitter.send(data)` -/
  | send (data : Str)
  /-- `_transmitter.disconnect()` -/
  | disconnect
  /-- `_transmitterTimer.expires_from_now(...)` -/
  | expiresFromNow (milliseconds : Int)
  /-- `_transmitterTimer.async_wait(...)` -/
  | asyncWait
  /-- `_devices[session]->processClientData(data)` -/
  | processClientData (data : Str)
  deriving DecidableEq, Repr

end Transmitter

structure Transmitter where
  authorized : Bool := false
  buffer : Str := []
  /-- the trace of the run so far -/
  trace : List Transmitter.Action := []
  deriving DecidableEq, Repr

namespace Transmitter

def record (action : Action) (t : Transmitter) : Transmitter :=
  { t with trace := t.trace ++ [action] }

/-- The answer that grants access. -/
def load : Str := ['L', 'O', 'A', 'D']

/-- The answer to a heartbeat. -/
def on : Str := ['O', 'N']

/-- The end of every message. -/
def terminator : Str := [';', '\r', '\n']

def startTransmitter (settings : TransmitterSettings) (t : Transmitter) : Transmitter :=
  if !settings.enabled then t else t.record .connect

def handleTcpClientConnect (settings : TransmitterSettings) (t : Transmitter) : Transmitter :=
  let t := { t with authorized := false, buffer := [] }
  if settings.imei.length ≠ 0 then
    t.record (.send ("##,imei:".toList ++ settings.imei ++ ",A".toList ++ terminator))
  else t

/-- `timerFails` is the error code of `expires_from_now`. -/
def handleTcpClientError (settings : TransmitterSettings) (timerFails : Bool) (t : Transmitter) :
    Transmitter :=
  let t := { t with authorized := false, buffer := [] }
  let t := t.record (.expiresFromNow settings.reconnectDelay)
  if timerFails ∨ settings.reconnectDelay < 1 then t else t.record .asyncWait

def handleTcpClientDisconnect (settings : TransmitterSettings) (timerFails : Bool)
    (reason : Reason) (t : Transmitter) : Transmitter :=
  let t := { t with authorized := false, buffer := [] }
  if reason = .closedByUser then t else t.handleTcpClientError settings timerFails

/-- The body of the loop of `handleTcpClientReceivedData`. -/
def receive (tracker : Bool) (t : Transmitter) : Flow Transmitter Transmitter :=
  match t.buffer.findFirstOf ';' with
  | none =>
      if t.buffer.length < 2 then .leave t
      else if !t.authorized then
        if t.buffer.length < 4 then .leave t
        else if t.buffer.find load ≠ some 0 then
          -- Access denied or protocol error
          .quit (t.record .disconnect)
        else
          .again ({ t with authorized := true, buffer := t.buffer.drop 4 }.record .asyncWait)
      else if t.buffer.find on = some 0 then
        .again ({ t with buffer := t.buffer.drop 2 }.record .asyncWait)
      else .leave t
  | some offset =>
      if !t.authorized then
        -- Access denied or protocol error
        .quit (t.record .disconnect)
      else
        let command := t.buffer.front (some offset)
        let t := { t with buffer := t.buffer.drop (offset + 1) }
        if command.length < 2 then .again t
        else
          let answer := command.find on = some 0
          let command := if answer then command.drop 2 else command
          let t := if answer then t.record .asyncWait else t
          if command.length = 0 then .again t
          else if tracker then .again (t.record (.processClientData (command ++ terminator)))
          else .again t

/-- `processClientData`, if there is a session to pass the command to. -/
def forward (tracker : Bool) (command : Str) : List Action :=
  if tracker then [.processClientData (command ++ terminator)] else []

/-- What one command, cut off its `;`, makes the transmitter do. -/
def perform (tracker : Bool) (command : Str) : List Action :=
  if command.length < 2 then []
  else if on <+: command then
    .asyncWait :: (if command.length = 2 then [] else forward tracker (command.drop 2))
  else forward tracker command

/-- What one iteration does, by what the buffer starts with. -/
inductive ReceiveCase (tracker : Bool) (t : Transmitter) : Flow Transmitter Transmitter → Prop
  | unfinished : ';' ∉ t.buffer →
    (t.authorized = false → t.buffer.length < 4) →
    (t.authorized = true → ¬ on <+: t.buffer) → ReceiveCase tracker t (.leave t)
  | denied : t.authorized = false → ';' ∈ t.buffer ∨ 4 ≤ t.buffer.length ∧ ¬ load <+: t.buffer →
    ReceiveCase tracker t (.quit (t.record .disconnect))
  | granted (rest : Str) : t.authorized = false → ';' ∉ t.buffer → t.buffer = load ++ rest →
    ReceiveCase tracker t
      (.again { authorized := true, buffer := rest, trace := t.trace ++ [.asyncWait] })
  | answered (rest : Str) : t.authorized = true → ';' ∉ t.buffer → t.buffer = on ++ rest →
    ReceiveCase tracker t
      (.again { authorized := true, buffer := rest, trace := t.trace ++ [.asyncWait] })
  | command (command rest : Str) : t.authorized = true → ';' ∉ command →
    t.buffer = command ++ ';' :: rest →
    ReceiveCase tracker t
      (.again { authorized := true, buffer := rest, trace := t.trace ++ perform tracker command })

theorem receive_cases (tracker : Bool) (t : Transmitter) :
    ReceiveCase tracker t (receive tracker t) := by
  unfold receive
  split
  · rename_i noneFound
    have noCommand : ';' ∉ t.buffer := Str.findFirstOf_eq_none_iff.mp noneFound
    split
    · rename_i short
      refine .unfinished noCommand (fun _ => by omega) fun _ isPrefix => ?_
      have := isPrefix.length_le
      simp [on] at this
      omega
    · split
      · rename_i unauthorized
        have unauthorized : t.authorized = false := by simpa using unauthorized
        split
        · rename_i short
          refine .unfinished noCommand (fun _ => short) fun authorized => ?_
          cases unauthorized.symm.trans authorized
        · split
          · rename_i long other
            exact .denied unauthorized (Or.inr ⟨Nat.le_of_not_lt long,
              fun isPrefix => other (Str.find_eq_zero_iff.mpr isPrefix)⟩)
          · rename_i found
            obtain ⟨rest, eq⟩ := Str.find_eq_zero_iff.mp (not_not.mp found)
            have next : ReceiveCase tracker t _ := .granted rest unauthorized noCommand eq.symm
            simpa [record, ← eq, load] using next
      · rename_i authorized
        have authorized : t.authorized = true := by simpa using authorized
        split
        · rename_i found
          obtain ⟨rest, eq⟩ := Str.find_eq_zero_iff.mp found
          have next : ReceiveCase tracker t _ := .answered rest authorized noCommand eq.symm
          simpa [record, ← eq, on, authorized] using next
        · rename_i other
          refine .unfinished noCommand (fun unauthorized => ?_)
            fun _ isPrefix => other (Str.find_eq_zero_iff.mpr isPrefix)
          cases unauthorized.symm.trans authorized
  · rename_i offset found
    obtain ⟨split', noSeparator, _⟩ := Str.of_findFirstOf found
    split
    · rename_i unauthorized
      refine .denied (by simpa using unauthorized) (Or.inl ?_)
      rw [split']
      simp
    · rename_i authorized
      have authorized : t.authorized = true := by simpa using authorized
      have next : ReceiveCase tracker t _ := .command _ _ authorized noSeparator split'
      simp only [Str.front, Str.find_eq_zero_iff]
      simp only [perform, forward] at next
      generalize t.buffer.take offset = command at next ⊢
      -- the branches of the source are those of `perform`
      split
      · rename_i short
        simpa [short, authorized] using next
      · rename_i long
        by_cases answer : on <+: command
        · by_cases empty : command.length = 2
          · simpa [long, answer, empty, record, authorized] using next
          · have nonempty : ¬ command.length - 2 = 0 := by omega
            simp only [long, answer, empty, if_true, if_false] at next
            simp only [answer, if_true, List.length_drop, nonempty, if_false, record, authorized]
            cases tracker <;> simpa using next
        · have nonempty : ¬ command.length = 0 := by omega
          simp only [long, answer, if_false] at next
          simp only [answer, nonempty, if_false, record, authorized]
          cases tracker <;> simpa [authorized] using next

section

variable (tracker : Bool) {t : Transmitter} {rest : Str}

theorem receive_unfinished (noSeparator : ';' ∉ t.buffer)
    (short : t.authorized = false → t.buffer.length < 4)
    (other : t.authorized = true → ¬ on <+: t.buffer) : receive tracker t = .leave t := by
  have effect := receive_cases tracker t
  generalize receive tracker t = flow at effect ⊢
  cases effect with
  | unfinished => rfl
  | denied unauthorized why =>
      rcases why with separator | ⟨long, _⟩
      · exact absurd separator noSeparator
      · exact absurd long (Nat.not_le_of_lt (short unauthorized))
  | granted rest unauthorized _ eq =>
      have := short unauthorized
      rw [eq] at this
      simp [load] at this
      omega
  | answered rest authorized _ eq => exact absurd ⟨rest, eq.symm⟩ (other authorized)
  | command command rest _ _ eq => exact absurd (by simp [eq]) noSeparator

theorem receive_denied (unauthorized : t.authorized = false) (separator : ';' ∈ t.buffer) :
    receive tracker t = .quit (t.record .disconnect) := by
  have effect := receive_cases tracker t
  generalize receive tracker t = flow at effect ⊢
  cases effect with
  | unfinished noSeparator _ _ => exact absurd separator noSeparator
  | denied => rfl
  | granted _ _ noSeparator _ => exact absurd separator noSeparator
  | answered _ _ noSeparator _ => exact absurd separator noSeparator
  | command _ _ authorized _ _ => cases authorized.symm.trans unauthorized

theorem receive_granted (unauthorized : t.authorized = false) (noSeparator : ';' ∉ t.buffer)
    (eq : t.buffer = load ++ rest) :
    receive tracker t =
      .again { authorized := true, buffer := rest, trace := t.trace ++ [.asyncWait] } := by
  have effect := receive_cases tracker t
  generalize receive tracker t = flow at effect ⊢
  cases effect with
  | unfinished _ short _ =>
      have := short unauthorized
      rw [eq] at this
      simp [load] at this
      omega
  | denied _ why =>
      rcases why with separator | ⟨_, other⟩
      · exact absurd separator noSeparator
      · exact absurd ⟨rest, eq.symm⟩ other
  | granted rest' _ _ eq' => rw [List.append_cancel_left (eq.symm.trans eq')]
  | answered _ authorized _ _ => cases authorized.symm.trans unauthorized
  | command _ _ authorized _ _ => cases authorized.symm.trans unauthorized

theorem receive_answered (authorized : t.authorized = true) (noSeparator : ';' ∉ t.buffer)
    (eq : t.buffer = on ++ rest) :
    receive tracker t =
      .again { authorized := true, buffer := rest, trace := t.trace ++ [.asyncWait] } := by
  have effect := receive_cases tracker t
  generalize receive tracker t = flow at effect ⊢
  cases effect with
  | unfinished _ _ other => exact absurd ⟨rest, eq.symm⟩ (other authorized)
  | denied unauthorized _ => cases authorized.symm.trans unauthorized
  | granted _ unauthorized _ _ => cases authorized.symm.trans unauthorized
  | answered rest' _ _ eq' => rw [List.append_cancel_left (eq.symm.trans eq')]
  | command command rest _ _ eq => exact absurd (by simp [eq]) noSeparator

theorem receive_command {command : Str} (authorized : t.authorized = true)
    (noSeparator : ';' ∉ command) (eq : t.buffer = command ++ ';' :: rest) :
    receive tracker t =
      .again { authorized := true, buffer := rest,
               trace := t.trace ++ perform tracker command } := by
  have separator : ';' ∈ t.buffer := by simp [eq]
  have effect := receive_cases tracker t
  generalize receive tracker t = flow at effect ⊢
  cases effect with
  | unfinished noSeparator _ _ => exact absurd separator noSeparator
  | denied unauthorized _ => cases authorized.symm.trans unauthorized
  | granted _ _ noSeparator _ => exact absurd separator noSeparator
  | answered _ _ noSeparator _ => exact absurd separator noSeparator
  | command command' rest' _ noSeparator' eq' =>
      obtain ⟨rfl, rfl⟩ := Str.append_cons_inj noSeparator noSeparator' (eq.symm.trans eq')
      rfl

end

/-- The `while (true)` of `handleTcpClientReceivedData`: every further iteration
has erased something from the buffer. -/
def receiveLoop (tracker : Bool) : Loop Transmitter Transmitter where
  body := receive tracker
  measure t := t.buffer.length
  decreases {t u} next := by
    have effect := receive_cases tracker t
    rw [next] at effect
    cases effect with
    | granted rest _ _ eq =>
        rw [eq, List.length_append]
        exact Nat.lt_add_of_pos_left (by decide)
    | answered rest _ _ eq =>
        rw [eq, List.length_append]
        exact Nat.lt_add_of_pos_left (by decide)
    | command command rest _ _ eq =>
        rw [eq, List.length_append, List.length_cons]
        exact Nat.lt_of_lt_of_le (Nat.lt_succ_self _) (Nat.le_add_left _ _)

def handleTcpClientReceivedData (settings : TransmitterSettings) (tracker : Bool) (data : Str)
    (t : Transmitter) : Transmitter :=
  let t := { t with buffer := (t.buffer ++ data).strip }
  let t := t.record (.expiresFromNow settings.heartbeatDelay)
  match (receiveLoop tracker).exec t with
  | .left t => if t.buffer.length > 32768 then t.record .disconnect else t
  | .returned t => t

/-- `handleTransmitterTimer(error)`, which does not look at its error code. -/
def handleTransmitterTimer (settings : TransmitterSettings) (t : Transmitter) : Transmitter :=
  if t.authorized then
    if settings.imei.length ≠ 0 then t.record (.send (settings.imei ++ terminator)) else t
  else t.startTransmitter settings

/-- `Application::handleDeviceCommand` -/
def handleDeviceCommand (arguments : List Str) (t : Transmitter) : Transmitter :=
  let command := [','].intercalate arguments
  if t.authorized then t.record (.send (command ++ terminator)) else t

end Transmitter

end GpsInformer
