import GpsInformer.Lib.Channel
import GpsInformer.SilentSessions
import GpsInformer.UpstreamSegmentation

/-!
# A transmitter and the receiver it has connected to

The transmitter of one `Application` and the receiver of another, with a channel in each
direction.  The connection has been made and is one of the receiver's sessions; what is
sent on either side is delivered in order, in chunks of any size.  The receiver goes on with
its other sessions meanwhile.
-/

namespace GpsInformer

open Lib

open Device (deviceCommands logonFrame)

structure Link where
  transmitter : Transmitter := {}
  receiver : Receiver := {}
  /-- from the transmitter to the receiver -/
  up : Channel Char := {}
  /-- from the receiver to the transmitter -/
  down : Channel Char := {}
  /-- the frames passed to `handleDeviceCommand` while the transmitter was authorized -/
  relayed : List (List Str) := []

namespace Link

/-- The bytes a transmitter has passed to `send`. -/
def written (trace : List Transmitter.Action) : Str :=
  trace.flatMap fun
    | .send data => data
    | _ => []

/-- A handler of the transmitter. -/
def transmit (handler : Transmitter → Transmitter) (l : Link) : Link :=
  let t := handler { l.transmitter with trace := [] }
  { l with
    transmitter := { t with trace := l.transmitter.trace ++ t.trace }
    up := l.up.send (written t.trace) }

/-- A handler of the receiver has led to `r`. -/
def answer (session : SessionId) (r : Receiver) (l : Link) : Link :=
  { l with
    receiver := r
    down := l.down.send
      (sentTo session (r.shared.log.drop l.receiver.shared.log.length)).flatten }

inductive Event where
  /-- a frame of a tracker is passed to `handleDeviceCommand` -/
  | deviceCommand (arguments : List Str)
  /-- the handler of `_transmitterTimer` is called -/
  | timer
  /-- the transmitter receives a chunk; `tracker` tells whether there is a session to pass
  commands to -/
  | receive (size : Nat) (tracker : Bool)
  /-- the receiver's session reads a chunk -/
  | read (size : Nat)
  /-- something else happens at the receiver -/
  | receiver (event : Receiver.Event)
  deriving DecidableEq, Repr

variable (settings : TransmitterSettings) (env : DeviceEnv) (session : SessionId)

def step (l : Link) : Event → Option Link
  | .deviceCommand arguments =>
      let l' := l.transmit (Transmitter.handleDeviceCommand arguments)
      some { l' with
        relayed := if l.transmitter.authorized then l.relayed ++ [arguments] else l.relayed }
  | .timer => some (l.transmit (Transmitter.handleTransmitterTimer settings))
  | .receive size tracker =>
      if l.down.chunk size = [] then none
      else
        let l' := l.transmit
          (Transmitter.handleTcpClientReceivedData settings tracker (l.down.chunk size))
        some { l' with down := l.down.deliver size }
  | .read size =>
      if l.up.chunk size = [] then none
      else
        (l.receiver.step env (.read session (l.up.chunk size) false)).map fun r =>
          { l.answer session r with up := l.up.deliver size }
  | .receiver event => (l.receiver.step env event).map fun r => l.answer session r

/-- The connection has just been made, and the transmitter has been told so. -/
def start (t : Transmitter) (r : Receiver) : Link :=
  { transmitter := { t with trace := [] }, receiver := r : Link }.transmit
    (Transmitter.handleTcpClientConnect settings)

/-- Some receiver can pass the arguments to `handleDeviceCommand`. -/
def HandedOver (tracker : DeviceEnv) (arguments : List Str) : Prop :=
  ∃ es r, Run (Receiver.step tracker) {} es r ∧ arguments ∈ deviceCommands r.shared.log

/-- An event of the receiver that is none of `session`, but for the end of a write, is no
downlink command, and does not bring the logon of the configured tracker. -/
def Elsewhere (r : Receiver) : Receiver.Event → Prop
  | .accept => True
  | .read id data _ => id ≠ session ∧ ∀ d, r.devices id = some d →
      logonFrame env ∉ (cut ';' (d.buffer ++ data).strip).1
  | .write id failed => id = session → failed = false
  | .close id => id ≠ session
  | .processClientData _ => False

/-- What can happen on the two sides of the link. -/
def Permitted (tracker : DeviceEnv) (l : Link) : Event → Prop
  | .deviceCommand arguments => HandedOver tracker arguments ∧
      ([','].intercalate arguments).length ≤ 32768
  | .receiver event => Elsewhere env session l.receiver event
  | .timer | .receive _ _ | .read _ => True

/-- The frames the receiver has read from the session. -/
def interpreted (l : Link) : List Str := (cut ';' (Str.strip l.up.delivered)).1

end Link

/-! ## What the transmitter makes of the answers -/

namespace Transmitter

variable {settings : TransmitterSettings} {t : Transmitter} {heard chunk : Str} {m : Nat}

/-- The transmitter when it has received this part of `LOAD` and heartbeat answers. -/
inductive Listening (t : Transmitter) (heard : Str) : Prop
  | waiting : t.authorized = false → heard <+: load → heard.length < 4 → t.buffer = heard →
    Listening t heard
  | granted (k : Nat) (tail : Str) : t.authorized = true → heard = load ++ answers k ++ tail →
    Unfinished tail → t.buffer = tail → Listening t heard

theorem Listening.congr (listening : Listening t heard) {u : Transmitter}
    (authorized : u.authorized = t.authorized) (buffer : u.buffer = t.buffer) :
    Listening u heard := by
  cases listening with
  | waiting unauthorized isPrefix short eq =>
      exact .waiting (authorized.trans unauthorized) isPrefix short (buffer.trans eq)
  | granted k tail granted eq unfinished eq' =>
      exact .granted k tail (authorized.trans granted) eq unfinished (buffer.trans eq')

/-- An action on the timer. -/
def Waits : Action → Prop
  | .expiresFromNow _ | .asyncWait => True
  | _ => False

theorem mem_answers {c : Char} {k : Nat} (member : c ∈ answers k) : c = 'O' ∨ c = 'N' := by
  induction k with
  | zero => cases member
  | succ k ih =>
      rw [answers_succ] at member
      rcases List.mem_append.mp member with here | later
      · simpa [on] using here
      · exact ih later

theorem answers_add (k j : Nat) : answers (k + j) = answers k ++ answers j := by
  unfold answers
  rw [List.replicate_add, List.flatten_append]

/-- The first bytes of some answers are whole answers and what is left of one. -/
theorem prefix_answers {heard : Str} (isPrefix : heard <+: answers m) :
    ∃ k tail, heard = answers k ++ tail ∧ Unfinished tail ∧ tail.length < 2 := by
  induction m generalizing heard with
  | zero =>
      rw [List.prefix_nil.mp isPrefix]
      exact ⟨0, [], rfl, ⟨List.not_mem_nil, by decide⟩, by decide⟩
  | succ m ih =>
      rw [answers_succ] at isPrefix
      rcases heard with _ | ⟨first, _ | ⟨second, rest⟩⟩
      · exact ⟨0, [], rfl, ⟨List.not_mem_nil, by decide⟩, by decide⟩
      · obtain ⟨rfl, _⟩ := List.cons_prefix_cons.mp isPrefix
        exact ⟨0, ['O'], rfl, ⟨by decide, by decide⟩, by decide⟩
      · obtain ⟨rfl, later⟩ := List.cons_prefix_cons.mp isPrefix
        obtain ⟨rfl, others⟩ := List.cons_prefix_cons.mp later
        obtain ⟨k, tail, rfl, unfinished⟩ := ih others
        exact ⟨k + 1, tail, rfl, unfinished⟩

theorem prefix_of_answers {k : Nat} (isPrefix : answers k ++ heard <+: answers m) :
    ∃ j, heard <+: answers j := by
  induction k generalizing m with
  | zero => exact ⟨m, isPrefix⟩
  | succ k ih =>
      cases m with
      | zero => cases List.prefix_nil.mp isPrefix
      | succ m =>
          rw [answers_succ, answers_succ, List.append_assoc] at isPrefix
          exact ih ((List.prefix_append_right_inj on).mp isPrefix)

/-- Nothing is stripped off the answers. -/
theorem plain_answers {s : Str} (part : s ⊆ load ++ answers m) : s.strip = s ∧ ';' ∉ s := by
  have plain : ∀ c ∈ s, c ≠ '\r' ∧ c ≠ '\n' ∧ c ≠ ';' := by
    intro c member
    rcases List.mem_append.mp (part member) with first | later
    · rcases (by simpa [load] using first : c = 'L' ∨ c = 'O' ∨ c = 'A' ∨ c = 'D') with
        rfl | rfl | rfl | rfl
      all_goals decide
    · rcases mem_answers later with rfl | rfl
      · decide
      · decide
  exact ⟨Str.strip_eq_self (fun present => (plain _ present).1 rfl)
    fun present => (plain _ present).2.1 rfl, fun present => (plain _ present).2.2 rfl⟩

/-- The wait for a heartbeat is armed anew, and again with every answer. -/
theorem waits_answers (milliseconds : Int) (k : Nat) :
    ∀ action ∈ ([.expiresFromNow milliseconds] : List Action) ++ List.replicate k .asyncWait,
      Waits action := by
  intro action member
  rcases List.mem_append.mp member with first | later
  · rw [List.mem_singleton.mp first]
    trivial
  · rw [List.eq_of_mem_replicate later]
    trivial

/-- Some more bytes before the end of `LOAD`, or with it. -/
theorem Listening.receive_waiting (settings : TransmitterSettings)
    (unauthorized : t.authorized = false) (buffer : t.buffer = heard) (start : t.trace = [])
    (expected : heard ++ chunk <+: load ++ answers m) (tracker : Bool) :
    Listening (t.handleTcpClientReceivedData settings tracker chunk) (heard ++ chunk) ∧
      ∀ action ∈ (t.handleTcpClientReceivedData settings tracker chunk).trace, Waits action := by
  obtain ⟨plain, noSeparator⟩ := plain_answers expected.subset
  rw [← buffer] at plain noSeparator
  by_cases few : (heard ++ chunk).length < 4
  · have left : (receiveLoop tracker).exec
        { authorized := t.authorized, buffer := (t.buffer ++ chunk).strip,
          trace := t.trace ++ [.expiresFromNow settings.heartbeatDelay] } =
        .left { authorized := t.authorized, buffer := t.buffer ++ chunk,
                trace := [.expiresFromNow settings.heartbeatDelay] ++
                  List.replicate 0 .asyncWait } := by
      rw [plain, start]
      apply Loop.exec_leave
      refine receive_unfinished tracker noSeparator (fun _ => buffer ▸ few) fun authorized => ?_
      cases unauthorized.symm.trans authorized
    have size : (t.buffer ++ chunk).length ≤ 32768 := by
      rw [buffer]
      omega
    rw [handleTcpClientReceivedData_left chunk left size]
    refine ⟨.waiting unauthorized ?_ few (by rw [buffer]), waits_answers _ 0⟩
    exact List.prefix_of_prefix_length_le expected (List.prefix_append load _)
      (Nat.le_of_lt few)
  · obtain ⟨rest, eq⟩ : load <+: heard ++ chunk :=
      List.prefix_of_prefix_length_le (List.prefix_append load _) expected
        (Nat.le_of_not_lt few)
    rw [← eq] at expected
    obtain ⟨k, tail, rfl, unfinished, bound⟩ :=
      prefix_answers ((List.prefix_append_right_inj load).mp expected)
    have next := receive_granted tracker
      (t := { authorized := t.authorized, buffer := t.buffer ++ chunk,
              trace := [.expiresFromNow settings.heartbeatDelay] })
      unauthorized noSeparator (by rw [buffer, eq])
    have left : (receiveLoop tracker).exec
        { authorized := t.authorized, buffer := (t.buffer ++ chunk).strip,
          trace := t.trace ++ [.expiresFromNow settings.heartbeatDelay] } =
        .left { authorized := true, buffer := tail,
                trace := [.expiresFromNow settings.heartbeatDelay] ++
                  List.replicate (k + 1) .asyncWait } := by
      rw [plain, start]
      exact (Loop.exec_again _ next).trans (exec_answers unfinished k _)
    have size : tail.length ≤ 32768 := by omega
    rw [handleTcpClientReceivedData_left chunk left size]
    exact ⟨.granted k tail rfl (by rw [← eq, List.append_assoc]) unfinished rfl,
      waits_answers _ (k + 1)⟩

theorem Listening.receive (settings : TransmitterSettings) (listening : Listening t heard)
    (start : t.trace = [])
    (expected : heard ++ chunk <+: load ++ answers m) (tracker : Bool) :
    Listening (t.handleTcpClientReceivedData settings tracker chunk) (heard ++ chunk) ∧
      ∀ action ∈ (t.handleTcpClientReceivedData settings tracker chunk).trace, Waits action := by
  cases listening with
  | waiting unauthorized isPrefix short buffer =>
      exact Listening.receive_waiting settings unauthorized buffer start expected tracker
  | granted k tail authorized eq unfinished buffer =>
      rw [eq, List.append_assoc, List.append_assoc] at expected
      obtain ⟨j, isPrefix⟩ := prefix_of_answers ((List.prefix_append_right_inj load).mp expected)
      obtain ⟨k', tail', eq', unfinished', bound⟩ := prefix_answers isPrefix
      have part : tail ++ chunk ⊆ load ++ answers j :=
        fun c member => List.mem_append_right _ (isPrefix.subset member)
      obtain ⟨plain, -⟩ := plain_answers part
      have left : (receiveLoop tracker).exec
          { authorized := t.authorized, buffer := (t.buffer ++ chunk).strip,
            trace := t.trace ++ [.expiresFromNow settings.heartbeatDelay] } =
          .left { authorized := true, buffer := tail',
                  trace := [.expiresFromNow settings.heartbeatDelay] ++
                    List.replicate k' .asyncWait } := by
        rw [buffer, plain, start, authorized, eq']
        exact exec_answers unfinished' k' _
      have size : tail'.length ≤ 32768 := by omega
      rw [handleTcpClientReceivedData_left chunk left size]
      refine ⟨.granted (k + k') tail' rfl ?_ unfinished' rfl, waits_answers _ k'⟩
      rw [eq, List.append_assoc, eq', answers_add]
      simp only [List.append_assoc]

end Transmitter

end GpsInformer
