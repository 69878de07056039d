import GpsInformer.Upstream

/-!
# Access to the upstream server

`_transmitterAuthorized` is kept apart from the status of `_transmitter`, and the same client
is used for one connection after the other.  Still, whatever is queued on a connection after
the logon is queued when `LOAD` has been received on that connection (`legit_of_run`): the
flag is only ever set for the connection that is open, and `_transmitterBuffer` holds what has
been received on it.
-/

namespace GpsInformer.Upstream

open Lib

open Transmitter (load terminator receive receive_cases receiveLoop handleTcpClientConnect
  handleTcpClientReceivedData handleTransmitterTimer handleDeviceCommand)

variable {settings : TransmitterSettings} {u v : Upstream} {cause : Cause}

/-- The first four characters received were `LOAD`, line ends aside. -/
def Granted (received : Str) : Prop := load <+: received.strip

/-- The first four were others, or there is a `;` among fewer. -/
def Refused (received : Str) : Prop :=
  ¬ Granted received ∧ (4 ≤ received.strip.length ∨ ';' ∈ received.strip)

instance (received : Str) : Decidable (Granted received) :=
  inferInstanceAs (Decidable (_ <+: _))

instance (received : Str) : Decidable (Refused received) :=
  inferInstanceAs (Decidable (_ ∧ _))

/-- The logon message of an IMEI. -/
def logon (imei : Str) : Str := "##,imei:".toList ++ imei ++ ",A".toList ++ terminator

/-- What is queued on a connection as soon as it is made. -/
def greeting (settings : TransmitterSettings) : List (Str × Str) :=
  if settings.imei = [] then [] else [(logon settings.imei, [])]

/-- What is queued and what is forwarded on a connection. -/
structure Legit (settings : TransmitterSettings) (c : Connection) : Prop where
  queued : ∃ later, c.queued = greeting settings ++ later ∧ ∀ entry ∈ later, Granted entry.2
  forwarded : ∀ entry ∈ c.forwarded, Granted entry.2

/-- The strings the client has taken for writing. -/
def sent (trace : List TcpClient.Action) : List Str :=
  trace.filterMap fun
    | .send data => some data
    | _ => none

/-- The strings queued on the connections, the first one first. -/
def recorded (connections : List Connection) : List Str :=
  connections.reverse.flatMap fun c => c.queued.map (·.1)

/-- What has been received on the last connection. -/
def received (u : Upstream) : Str := (u.connections.headD {}).received

/-- What every action of a handler keeps. -/
structure Lawful (settings : TransmitterSettings) (u : Upstream) : Prop where
  legit : ∀ c ∈ u.connections, Legit settings c
  sent : sent u.client.trace = recorded u.connections
  opened : u.client.status = .connected → u.connections ≠ []

/-- What holds between two handlers. -/
structure Access (settings : TransmitterSettings) (u : Upstream) : Prop
    extends Lawful settings u where
  granted : u.transmitter.authorized = true → Granted u.received
  waiting : u.transmitter.authorized = false → u.client.status = .connected →
    u.transmitter.buffer = u.received.strip

/-! ## What the client does -/

theorem sent_append (front back : List TcpClient.Action) :
    sent (front ++ back) = sent front ++ sent back :=
  List.filterMap_append

theorem sent_asyncWrite (c : TcpClient) : sent c.asyncWrite.trace = sent c.trace := by
  unfold TcpClient.asyncWrite TcpClient.startOnSocket TcpClient.record
  dsimp only
  split
  · exact (sent_append _ _).trans (List.append_nil _)
  · exact (sent_append _ _).trans (List.append_nil _)

theorem sent_asyncRead (c : TcpClient) : sent c.asyncRead.trace = sent c.trace := by
  unfold TcpClient.asyncRead TcpClient.startOnSocket
  dsimp only
  split
  · rfl
  · rfl

theorem sent_map_write (written : List Str) : sent (written.map .write) = [] := by
  induction written with
  | nil => rfl
  | cons data written ih => exact ih

theorem sent_call (c : TcpClient) (call : TcpClient.Call) :
    sent (c.call call).trace = sent c.trace ++
      match call with
      | .send data => if c.status = .connected then [data] else []
      | _ => [] := by
  cases call with
  | connect =>
      change sent (c.connect).trace = _
      unfold TcpClient.connect
      split
      · exact (List.append_nil _).symm
      · exact sent_append _ _
  | disconnect =>
      change sent (c.disconnect).trace = _
      unfold TcpClient.disconnect
      split
      · exact (List.append_nil _).symm
      · exact (List.append_nil _).symm
      · exact sent_append _ _
      · exact sent_append _ _
      · exact sent_append _ _
  | send data =>
      dsimp only
      by_cases connected : c.status = .connected
      · obtain ⟨written, trace⟩ := trace_send c data connected
        change sent (c.send data).trace = _
        rw [if_pos connected, trace, sent_append]
        change sent c.trace ++ data :: sent (written.map .write) = _
        rw [sent_map_write]
      · rw [if_neg connected, List.append_nil]
        exact congrArg (fun t : TcpClient => sent t.trace) (if_pos connected)

/-- No public function makes the client connected. -/
theorem connected_of_calls {c : TcpClient} (calls : List TcpClient.Call)
    (connected : (calls.foldl TcpClient.call c).status = .connected) : c.status = .connected := by
  induction calls generalizing c with
  | nil => exact connected
  | cons request rest ih =>
      have before := ih connected
      have effect := TcpClient.call_cases c request
      generalize c.call request = t at effect before
      cases effect with
      | ignored => exact before
      | resolving _ _ status _ _ => cases status.symm.trans before
      | closing _ _ status _ _ => cases status.symm.trans before
      | queued _ was _ _ _ _ => exact was
      | writing _ was _ _ _ _ => exact was

theorem notification_handleAnything {handleStatus : TcpClient.Status} {error : Option ErrorCode}
    {c : TcpClient} (notification : Notification)
    (notified : (c.handleAnything handleStatus error).2.1 = some notification) :
    (∃ reason, notification = .disconnect reason) ∨ ∃ code, notification = .error code := by
  unfold TcpClient.handleAnything at notified
  dsimp only at notified
  split at notified
  · cases notified
  · split at notified
    · split at notified
      · cases notified
      · split at notified
        · cases notified
          exact Or.inl ⟨_, rfl⟩
        · cases notified
          exact Or.inr ⟨_, rfl⟩
    · cases notified

/-- What a completion handler of the client comes to. -/
inductive HandleCase (c : TcpClient) : TcpClient.Turn → Prop
  | silent (t : TcpClient) : (t.status = .connected → c.status = .connected) →
    sent t.trace = sent c.trace → HandleCase c { client := t }
  | ended (t : TcpClient) (notification : Notification) :
    ((∃ reason, notification = .disconnect reason) ∨ ∃ code, notification = .error code) →
    t.status = .disconnected → sent t.trace = sent c.trace →
    HandleCase c { client := t, notification := some notification }
  | connected (t : TcpClient) : t.status = .connected → sent t.trace = sent c.trace →
    HandleCase c { client := t, notification := some .connect, thenRead := true }
  | received (t : TcpClient) (data : Str) : c.status = .connected → t.status = .connected →
    sent t.trace = sent c.trace →
    HandleCase c { client := t, notification := some (.receivedData data), thenRead := true }

theorem handle_cases {operation : TcpClient.Operation} {c : TcpClient}
    (taken : TcpClient.Taken operation c) (result : TcpClient.Completion) :
    HandleCase c (c.handle operation result) := by
  rw [TcpClient.handle_eq]
  have ending := @notification_handleAnything operation.awaited
    (TcpClient.failure operation result) c
  have effect := TcpClient.handleAnything_cases operation.awaited
    (TcpClient.failure operation result) c
  generalize c.handleAnything operation.awaited (TcpClient.failure operation result) = outcome
    at effect ending
  cases effect with
  | ignored free => exact (taken.live free).elim
  | waiting _ _ _ => exact .silent _ id rfl
  | ended notification _ _ _ => exact .ended _ notification (ending _ rfl) rfl rfl
  | alive _ open' _ =>
      rcases taken.alive open' with ⟨rfl, _⟩ | ⟨rfl, _⟩ | ⟨status, rfl | rfl, _⟩
      · exact .silent _ (fun impossible => by cases impossible) rfl
      · exact .connected _ rfl rfl
      · exact .received _ result.bytes status status rfl
      · dsimp only [TcpClient.goOn]
        split
        · exact .silent _ (fun _ => status) (sent_asyncWrite _)
        · exact .silent _ (fun _ => status) rfl

/-! ## The actions of a handler -/

/-- An action that neither queues nor forwards anything. -/
def Harmless : Transmitter.Action → Prop
  | .send _ | .processClientData _ => False
  | _ => True

theorem received_onCurrent (change : Connection → Connection)
    (same : ∀ c, (change c).received = c.received) :
    (u.onCurrent change).received = u.received := by
  unfold received onCurrent
  cases u.connections with
  | nil => rfl
  | cons c rest => exact same c

theorem received_perform (action : Transmitter.Action) :
    (u.perform cause action).received = u.received := by
  cases action with
  | send data =>
      unfold perform
      dsimp only
      split
      · exact received_onCurrent (u := { u with client := _ }) _ fun _ => rfl
      · rfl
  | processClientData data => exact received_onCurrent _ fun _ => rfl
  | connect => rfl
  | disconnect => rfl
  | expiresFromNow milliseconds => rfl
  | asyncWait => rfl

theorem transmitter_perform (action : Transmitter.Action) :
    (u.perform cause action).transmitter = u.transmitter := by
  cases action with
  | send data =>
      unfold perform
      dsimp only
      split
      · rfl
      · rfl
  | processClientData data => rfl
  | connect => rfl
  | disconnect => rfl
  | expiresFromNow milliseconds => rfl
  | asyncWait => rfl

theorem recorded_cons (c : Connection) (rest : List Connection) :
    recorded (c :: rest) = recorded rest ++ c.queued.map (·.1) := by
  unfold recorded
  rw [List.reverse_cons, List.flatMap_append, List.flatMap_singleton]

theorem Legit.queue {c : Connection} (legit : Legit settings c) (granted : Granted c.received)
    (data : Str) : Legit settings { c with queued := c.queued ++ [(data, c.received)] } := by
  obtain ⟨later, eq, good⟩ := legit.queued
  refine ⟨⟨later ++ [(data, c.received)], ?_, fun entry member => ?_⟩, legit.forwarded⟩
  · change c.queued ++ _ = _
    rw [eq, List.append_assoc]
  · rcases List.mem_append.mp member with old | new
    · exact good entry old
    · rw [List.mem_singleton.mp new]
      exact granted

theorem Legit.forward {c : Connection} (legit : Legit settings c) (granted : Granted c.received)
    (data : Str) : Legit settings { c with forwarded := c.forwarded ++ [(data, c.received)] } := by
  refine ⟨legit.queued, fun entry member => ?_⟩
  rcases List.mem_append.mp member with old | new
  · exact legit.forwarded entry old
  · rw [List.mem_singleton.mp new]
    exact granted

theorem legit_onCurrent (legit : ∀ c ∈ u.connections, Legit settings c)
    {change : Connection → Connection}
    (good : ∀ c, Legit settings c → c.received = u.received → Legit settings (change c)) :
    ∀ c ∈ (u.onCurrent change).connections, Legit settings c := by
  intro c member
  unfold received at good
  unfold onCurrent at member
  cases connections : u.connections with
  | nil =>
      rw [connections] at member
      cases member
  | cons last rest =>
      rw [connections] at member legit good
      rcases List.mem_cons.mp member with rfl | old
      · exact good last (legit last List.mem_cons_self) rfl
      · exact legit c (List.mem_cons_of_mem _ old)

theorem Lawful.call (lawful : Lawful settings u) (call : TcpClient.Call)
    (quiet : ∀ data, call ≠ .send data) :
    Lawful settings { u with client := u.client.call call } where
  legit := lawful.legit
  sent := by
    have same := sent_call u.client call
    cases call with
    | send data => exact absurd rfl (quiet data)
    | connect => exact same.trans ((List.append_nil _).trans lawful.sent)
    | disconnect => exact same.trans ((List.append_nil _).trans lawful.sent)
  opened connected := lawful.opened (connected_of_calls [call] connected)

theorem Lawful.perform (lawful : Lawful settings u) {action : Transmitter.Action}
    (fine : Harmless action ∨ Granted u.received) :
    Lawful settings (u.perform cause action) := by
  cases action with
  | connect => exact lawful.call .connect nofun
  | disconnect => exact lawful.call .disconnect nofun
  | expiresFromNow milliseconds => exact ⟨lawful.legit, lawful.sent, lawful.opened⟩
  | asyncWait => exact ⟨lawful.legit, lawful.sent, lawful.opened⟩
  | processClientData data =>
      have granted := fine.resolve_left id
      refine ⟨legit_onCurrent lawful.legit fun c legit same => ?_, ?_, fun connected => ?_⟩
      · exact legit.forward (same ▸ granted) data
      · refine lawful.sent.trans ?_
        unfold Upstream.perform onCurrent
        dsimp only
        cases u.connections with
        | nil => rfl
        | cons c rest =>
            refine (recorded_cons c rest).trans (Eq.trans ?_ (recorded_cons _ _).symm)
            rfl
      · have opened := lawful.opened connected
        unfold Upstream.perform onCurrent
        cases connections : u.connections with
        | nil => exact absurd connections opened
        | cons c rest => exact List.cons_ne_nil _ _
  | send data =>
      have granted := fine.resolve_left id
      have trace := sent_call u.client (.send data)
      unfold Upstream.perform
      dsimp only at trace ⊢
      split
      · rename_i connected
        rw [if_pos connected] at trace
        refine ⟨legit_onCurrent (u := { u with client := _ }) lawful.legit
          fun c legit same => legit.queue (same ▸ granted) data, ?_, fun _ => ?_⟩
        · refine trace.trans ?_
          rw [lawful.sent]
          unfold onCurrent
          dsimp only
          cases connections : u.connections with
          | nil => exact absurd connections (lawful.opened connected)
          | cons c rest =>
              refine Eq.trans ?_ (recorded_cons _ _).symm
              rw [recorded_cons, List.map_append, List.append_assoc]
              rfl
        · unfold onCurrent
          dsimp only
          cases connections : u.connections with
          | nil => exact absurd connections (lawful.opened connected)
          | cons c rest => exact List.cons_ne_nil _ _
      · rename_i other
        rw [if_neg other, List.append_nil] at trace
        exact ⟨lawful.legit, trace.trans lawful.sent, fun connected =>
          lawful.opened (connected_of_calls [.send data] connected)⟩

theorem Lawful.performAll (lawful : Lawful settings u) (cause : Cause)
    {actions : List Transmitter.Action}
    (fine : (∀ action ∈ actions, Harmless action) ∨ Granted u.received) :
    Lawful settings (actions.foldl (Upstream.perform cause) u) ∧
      (actions.foldl (Upstream.perform cause) u).received = u.received ∧
      (actions.foldl (Upstream.perform cause) u).transmitter = u.transmitter := by
  induction actions generalizing u with
  | nil => exact ⟨lawful, rfl, rfl⟩
  | cons action actions ih =>
      have first : Harmless action ∨ Granted u.received :=
        fine.imp_left fun harmless => harmless action List.mem_cons_self
      have others : (∀ other ∈ actions, Harmless other) ∨
          Granted (u.perform cause action).received := by
        rw [received_perform]
        exact fine.imp_left fun harmless other member =>
          harmless other (List.mem_cons_of_mem _ member)
      have performed : Lawful settings (u.perform cause action) := lawful.perform first
      obtain ⟨next, same, unchanged⟩ := ih performed others
      exact ⟨next, same.trans (received_perform action),
        unchanged.trans (transmitter_perform action)⟩

/-- A handler keeps the access rules if it queues and forwards nothing unless access is
granted, and only then leaves the transmitter authorized. -/
theorem Lawful.react (lawful : Lawful settings u) {handler : Transmitter → Transmitter}
    {t : Transmitter} (result : handler { u.transmitter with trace := [] } = t)
    (fine : (∀ action ∈ t.trace, Harmless action) ∨ Granted u.received)
    (granted : t.authorized = true → Granted u.received)
    (waiting : t.authorized = false → u.client.status = .connected →
      t.buffer = u.received.strip) : Access settings (u.react cause handler) := by
  have client := client_react cause handler u
  have start : Lawful settings { u with transmitter := { t with trace := [] } } :=
    ⟨lawful.legit, lawful.sent, lawful.opened⟩
  have performed := start.performAll cause fine
  unfold Upstream.react at client ⊢
  rw [result] at client ⊢
  dsimp only at client ⊢
  obtain ⟨next, same, unchanged⟩ := performed
  refine ⟨next, fun authorized => ?_, fun unauthorized connected => ?_⟩
  · rw [unchanged] at authorized
    rw [same]
    exact granted authorized
  · rw [unchanged] at unauthorized ⊢
    rw [same]
    rw [client] at connected
    exact waiting unauthorized (connected_of_calls _ connected)

/-! ## What has been received -/

/-- What an iteration of the loop, or the whole of it, makes of a buffer. -/
structure Receipt (s v : Transmitter) : Prop where
  kept : s.authorized = true → v.authorized = true
  granted : s.authorized = false → v.authorized = true → load <+: s.buffer
  waiting : v.authorized = false → v.buffer = s.buffer ∧
    ∀ action ∈ v.trace, action ∈ s.trace ∨ Harmless action

theorem Receipt.refl (s : Transmitter) : Receipt s s where
  kept := id
  granted unauthorized authorized := by cases unauthorized.symm.trans authorized
  waiting _ := ⟨rfl, fun _ member => Or.inl member⟩

theorem Receipt.disconnect {s v : Transmitter} (receipt : Receipt s v) :
    Receipt s (v.record .disconnect) where
  kept := receipt.kept
  granted := receipt.granted
  waiting unauthorized := by
    refine ⟨(receipt.waiting unauthorized).1, fun action member => ?_⟩
    rcases List.mem_append.mp member with old | new
    · exact (receipt.waiting unauthorized).2 action old
    · rw [List.mem_singleton.mp new]
      exact Or.inr trivial

/-- The state in which the loop ends. -/
def stateOf : Exit Transmitter Transmitter → Transmitter
  | .left t => t
  | .returned t => t

theorem receipt_exec (tracker : Bool) (s : Transmitter) :
    Receipt s (stateOf ((receiveLoop tracker).exec s)) := by
  apply (receiveLoop tracker).exec_induct (P := fun s exit => Receipt s (stateOf exit))
  · intro s t exit next later
    have effect := receive_cases tracker s
    rw [show receive tracker s = .again t from next] at effect
    have authorized : t.authorized = true ∧ (s.authorized = false → load <+: s.buffer) := by
      cases effect with
      | granted rest _ _ eq => exact ⟨rfl, fun _ => ⟨rest, eq.symm⟩⟩
      | answered rest was _ _ =>
          exact ⟨rfl, fun unauthorized => by cases was.symm.trans unauthorized⟩
      | command command rest was _ _ =>
          exact ⟨rfl, fun unauthorized => by cases was.symm.trans unauthorized⟩
    have kept := later.kept authorized.1
    exact ⟨fun _ => kept, fun unauthorized _ => authorized.2 unauthorized,
      fun unauthorized => by cases kept.symm.trans unauthorized⟩
  · intro s t last
    have effect := receive_cases tracker s
    rw [show receive tracker s = .leave t from last] at effect
    cases effect
    exact .refl s
  · intro s t last
    have effect := receive_cases tracker s
    rw [show receive tracker s = .quit t from last] at effect
    cases effect
    exact (Receipt.refl s).disconnect

/-- The handler, from what the buffer holds with the new data. -/
theorem receipt_handle (settings : TransmitterSettings) (tracker : Bool) (data : Str)
    (t : Transmitter) :
    Receipt (Transmitter.record (.expiresFromNow settings.heartbeatDelay)
        { t with buffer := (t.buffer ++ data).strip })
      (t.handleTcpClientReceivedData settings tracker data) := by
  have receipt := receipt_exec tracker (Transmitter.record
    (.expiresFromNow settings.heartbeatDelay) { t with buffer := (t.buffer ++ data).strip })
  unfold handleTcpClientReceivedData
  dsimp only
  cases ended : (receiveLoop tracker).exec (Transmitter.record
    (.expiresFromNow settings.heartbeatDelay) { t with buffer := (t.buffer ++ data).strip }) with
  | left v =>
      rw [ended] at receipt
      dsimp only
      split
      · exact receipt.disconnect
      · exact receipt
  | returned v =>
      rw [ended] at receipt
      exact receipt

/-! ## The handlers -/

theorem handleTcpClientError_result (settings : TransmitterSettings) {t : Transmitter}
    (start : t.trace = []) :
    (t.handleTcpClientError settings false).authorized = false ∧
      ∀ action ∈ (t.handleTcpClientError settings false).trace, Harmless action := by
  unfold Transmitter.handleTcpClientError
  dsimp only [Transmitter.record]
  rw [start]
  split
  · refine ⟨rfl, fun action member => ?_⟩
    rw [List.mem_singleton.mp member]
    trivial
  · refine ⟨rfl, fun action member => ?_⟩
    rcases List.mem_cons.mp member with rfl | member
    · trivial
    · rw [List.mem_singleton.mp member]
      trivial

/-- A loss, or the end of a connection, revokes the access. -/
theorem Lawful.ended (lawful : Lawful settings u) (free : u.client.status = .disconnected)
    {notification : Notification} (end' : (∃ reason, notification = .disconnect reason) ∨
      ∃ code, notification = .error code) (tracker : Bool) :
    Access settings (u.notified settings tracker notification) := by
  have start : ({ u.transmitter with trace := [] } : Transmitter).trace = [] := rfl
  have revokes : ∀ {w : Upstream} {cause : Cause} {handler : Transmitter → Transmitter},
      Lawful settings w → w.client.status = .disconnected →
      (handler { w.transmitter with trace := [] }).authorized = false →
      (∀ action ∈ (handler { w.transmitter with trace := [] }).trace, Harmless action) →
      Access settings (w.react cause handler) := by
    intro w cause handler lawful free unauthorized harmless
    refine lawful.react rfl (Or.inl harmless) (fun authorized => ?_) fun _ connected => ?_
    · cases unauthorized.symm.trans authorized
    · cases free.symm.trans connected
  have lost : Lawful settings u.lose := ⟨lawful.legit, lawful.sent, lawful.opened⟩
  rcases end' with ⟨reason, rfl⟩ | ⟨code, rfl⟩
  · cases reason with
    | closedByUser =>
        exact revokes (w := { u with loss := none })
          ⟨lawful.legit, lawful.sent, lawful.opened⟩ free rfl nofun
    | closedByPeer =>
        obtain ⟨unauthorized, harmless⟩ := @handleTcpClientError_result settings
          { u.transmitter with trace := [], authorized := false, buffer := [] } rfl
        exact revokes lost free unauthorized harmless
  · obtain ⟨unauthorized, harmless⟩ := handleTcpClientError_result settings start
    exact revokes lost free unauthorized harmless

/-- A new connection starts with the logon, and without access. -/
theorem access_connect (legit : ∀ c ∈ u.connections, Legit settings c)
    (recorded_eq : sent u.client.trace = recorded u.connections)
    (connected : u.client.status = .connected) (tracker : Bool) :
    Access settings (u.notified settings tracker .connect) := by
  unfold notified
  dsimp only
  by_cases anonymous : settings.imei = []
  · have fresh : Legit settings {} := by
      refine ⟨⟨[], ?_, nofun⟩, nofun⟩
      unfold greeting
      rw [if_pos anonymous]
      rfl
    have opened : Lawful settings { u with connections := {} :: u.connections } := by
      refine ⟨fun c member => ?_, ?_, fun _ => List.cons_ne_nil _ _⟩
      · rcases List.mem_cons.mp member with rfl | old
        · exact fresh
        · exact legit c old
      · refine recorded_eq.trans (Eq.trans ?_ (recorded_cons _ _).symm)
        exact (List.append_nil _).symm
    refine opened.react (t := { authorized := false, buffer := [], trace := [] }) ?_
      (Or.inl nofun) nofun fun _ _ => rfl
    exact if_neg (not_not.mpr (congrArg List.length anonymous))
  · have named : settings.imei.length ≠ 0 := fun empty =>
      anonymous (List.eq_nil_of_length_eq_zero empty)
    have handler : handleTcpClientConnect settings { u.transmitter with trace := [] } =
        { authorized := false, buffer := [], trace := [.send (logon settings.imei)] } := by
      unfold handleTcpClientConnect
      rw [if_pos named]
      rfl
    have trace := sent_call u.client (.send (logon settings.imei))
    dsimp only at trace
    rw [if_pos connected] at trace
    unfold Upstream.react
    dsimp only
    rw [handler, List.foldl_cons, List.foldl_nil]
    unfold Upstream.perform
    dsimp only
    rw [if_pos connected]
    refine ⟨⟨fun c member => ?_, ?_, fun _ => List.cons_ne_nil _ _⟩, nofun, fun _ _ => rfl⟩
    · rcases List.mem_cons.mp member with rfl | old
      · refine ⟨⟨[], ?_, nofun⟩, nofun⟩
        unfold greeting
        rw [if_neg anonymous]
        rfl
      · exact legit c old
    · refine trace.trans (Eq.trans ?_ (recorded_cons _ _).symm)
      rw [recorded_eq]
      rfl

theorem strip_strip (s : Str) : s.strip.strip = s.strip :=
  Str.strip_eq_self (fun present => (Str.mem_strip.mp present).2.1 rfl)
    fun present => (Str.mem_strip.mp present).2.2 rfl

/-- Data on an open connection grant access if they complete `LOAD`. -/
theorem Access.received (access : Access settings u) (connected : u.client.status = .connected)
    (tracker : Bool) (data : Str) :
    Access settings (u.notified settings tracker (.receivedData data)) := by
  have grown : (u.onCurrent fun c => { c with received := c.received ++ data }).received =
      u.received ++ data := by
    unfold Upstream.received onCurrent
    dsimp only
    cases connections : u.connections with
    | nil => exact absurd connections (access.opened connected)
    | cons c rest => rfl
  have lawful : Lawful settings
      (u.onCurrent fun c => { c with received := c.received ++ data }) := by
    refine ⟨legit_onCurrent access.legit fun c legit _ => ⟨legit.queued, legit.forwarded⟩,
      access.sent.trans ?_, fun _ => ?_⟩
    · unfold onCurrent
      dsimp only
      cases u.connections with
      | nil => rfl
      | cons c rest =>
          refine (recorded_cons c rest).trans (Eq.trans ?_ (recorded_cons _ _).symm)
          rfl
    · unfold onCurrent
      dsimp only
      cases connections : u.connections with
      | nil => exact absurd connections (access.opened connected)
      | cons c rest => exact List.cons_ne_nil _ _
  have receipt := receipt_handle settings tracker data
    { u.transmitter with trace := [] }
  have still : ∀ {v : Transmitter}, Receipt (Transmitter.record
      (.expiresFromNow settings.heartbeatDelay)
      { u.transmitter with trace := [], buffer := (u.transmitter.buffer ++ data).strip }) v →
      v.authorized = true → Granted (u.received ++ data) := by
    intro v receipt authorized
    unfold Granted
    rw [Str.strip_append]
    cases was : u.transmitter.authorized with
    | true => exact (access.granted was).trans (List.prefix_append _ _)
    | false =>
        have granted := receipt.granted was authorized
        change load <+: (u.transmitter.buffer ++ data).strip at granted
        rw [Str.strip_append, access.waiting was connected, strip_strip] at granted
        exact granted
  unfold notified
  dsimp only
  refine lawful.react rfl ?_ (fun authorized => ?_) fun unauthorized _ => ?_
  · cases authorized : (handleTcpClientReceivedData settings tracker data
        { u.transmitter with trace := [] }).authorized with
    | true =>
        rw [grown]
        exact Or.inr (still receipt authorized)
    | false =>
        refine Or.inl fun action member => ?_
        rcases (receipt.waiting authorized).2 action member with old | harmless
        · rw [List.mem_singleton.mp old]
          trivial
        · exact harmless
  · rw [grown]
    exact still receipt authorized
  · have was : u.transmitter.authorized = false := by
      cases was : u.transmitter.authorized with
      | false => rfl
      | true => exact absurd (receipt.kept was) (Bool.eq_false_iff.mp unauthorized)
    rw [grown]
    refine (receipt.waiting unauthorized).1.trans ?_
    change (u.transmitter.buffer ++ data).strip = _
    rw [Str.strip_append, access.waiting was connected, strip_strip, Str.strip_append]

theorem Access.asyncRead (access : Access settings u) :
    Access settings { u with client := u.client.asyncRead } where
  legit := access.legit
  sent := (sent_asyncRead u.client).trans access.sent
  opened connected := access.opened (TcpClient.status_asyncRead.symm.trans connected)
  granted := access.granted
  waiting unauthorized connected :=
    access.waiting unauthorized (TcpClient.status_asyncRead.symm.trans connected)

theorem Access.resume (access : Access settings u) {pending : List TcpClient.Pending}
    {turn : TcpClient.Turn} (effect : HandleCase { u.client with pending } turn)
    (tracker : Bool) : Access settings (u.resume settings tracker turn) := by
  have noted : ∀ {t : TcpClient} (notification : Notification),
      (t.status = .connected → u.client.status = .connected) → sent t.trace = sent u.client.trace →
      Access settings { u with client := t.record (.notify notification) } := by
    intro t notification was same
    have silent : sent (t.record (.notify notification)).trace = sent t.trace :=
      (sent_append _ _).trans (List.append_nil _)
    exact ⟨⟨access.legit, silent.trans (same.trans access.sent),
      fun connected => access.opened (was connected)⟩, access.granted,
      fun unauthorized connected => access.waiting unauthorized (was connected)⟩
  cases effect with
  | silent t was same =>
      exact ⟨⟨access.legit, same.trans access.sent, fun connected => access.opened (was connected)⟩,
        access.granted, fun unauthorized connected => access.waiting unauthorized (was connected)⟩
  | ended t notification end' free same =>
      have noted := noted notification (fun connected => by cases free.symm.trans connected) same
      exact noted.toLawful.ended free end' tracker
  | connected t status same =>
      have silent : sent (t.record (.notify .connect)).trace = sent t.trace :=
        (sent_append _ _).trans (List.append_nil _)
      exact Access.asyncRead (access_connect (u := { u with client := t.record (.notify .connect) })
        access.legit (silent.trans (same.trans access.sent)) status tracker)
  | received t data was status same =>
      have noted := noted (.receivedData data) (fun _ => was) same
      exact (noted.received status tracker data).asyncRead

theorem Access.relay (access : Access settings u) (arguments : List Str) :
    Access settings (u.react .heartbeat (handleDeviceCommand arguments)) := by
  cases authorized : u.transmitter.authorized with
  | true =>
      refine access.react (t := _) rfl (Or.inr (access.granted authorized)) ?_ ?_
      · exact fun _ => access.granted authorized
      · intro unauthorized
        unfold handleDeviceCommand at unauthorized
        rw [if_pos authorized] at unauthorized
        cases authorized.symm.trans unauthorized
  | false =>
      have idle : handleDeviceCommand arguments { u.transmitter with trace := [] } =
          { u.transmitter with trace := [] } := if_neg (by rw [authorized]; nofun)
      exact access.react idle (Or.inl nofun) access.granted access.waiting

theorem Access.start (access : Access settings u) :
    Access settings (u.react .heartbeat (Transmitter.startTransmitter settings)) := by
  cases enabled : settings.enabled with
  | true =>
      have tries : Transmitter.startTransmitter settings { u.transmitter with trace := [] } =
          { u.transmitter with trace := [.connect] } := by
        unfold Transmitter.startTransmitter
        rw [enabled]
        rfl
      refine access.react tries (Or.inl fun action member => ?_) access.granted access.waiting
      rw [List.mem_singleton.mp member]
      trivial
  | false =>
      have idle : Transmitter.startTransmitter settings { u.transmitter with trace := [] } =
          { u.transmitter with trace := [] } := by
        unfold Transmitter.startTransmitter
        rw [enabled]
        rfl
      exact access.react idle (Or.inl nofun) access.granted access.waiting

theorem Access.fire (access : Access settings u) (call : TimerCall) :
    Access settings (u.fire settings call) := by
  have reacted : Access settings (u.react .heartbeat (handleTransmitterTimer settings)) := by
    cases authorized : u.transmitter.authorized with
    | true =>
        have same : (handleTransmitterTimer settings
            { u.transmitter with trace := [] }).authorized = true := by
          unfold handleTransmitterTimer
          rw [if_pos authorized]
          split
          · exact authorized
          · exact authorized
        refine access.react (t := _) rfl (Or.inr (access.granted authorized)) ?_ ?_
        · exact fun _ => access.granted authorized
        · intro unauthorized
          cases same.symm.trans unauthorized
    | false =>
        have retries : handleTransmitterTimer settings { u.transmitter with trace := [] } =
            Transmitter.startTransmitter settings { u.transmitter with trace := [] } :=
          if_neg (by rw [authorized]; nofun)
        have started := access.start
        unfold Upstream.react at started ⊢
        rw [retries]
        exact started
  exact ⟨⟨reacted.legit, reacted.sent, reacted.opened⟩, reacted.granted, reacted.waiting⟩

/-! ## Every run -/

theorem client_notified (tracker : Bool) (notification : Notification) :
    ∃ calls : List TcpClient.Call,
      (u.notified settings tracker notification).client = calls.foldl TcpClient.call u.client := by
  unfold notified
  split
  · exact ⟨_, client_react _ _ _⟩
  · exact ⟨_, client_react _ _ _⟩
  · exact ⟨_, client_react _ _ _⟩
  · exact ⟨_, client_react _ _ _⟩
  · exact ⟨_, client_react _ _ _⟩

/-- For the client, a completion handler of `_transmitter` is one of its own. -/
theorem client_resume (tracker : Bool) (turn : TcpClient.Turn) :
    ∃ calls : List TcpClient.Call, (u.resume settings tracker turn).client =
      turn.resume fun c => calls.foldl TcpClient.call c := by
  unfold resume TcpClient.Turn.resume
  cases turn.notification with
  | none =>
      refine ⟨[], ?_⟩
      dsimp only
      split
      · rfl
      · rfl
  | some notification =>
      obtain ⟨calls, same⟩ := @client_notified settings
        { u with client := turn.client.record (.notify notification) } tracker notification
      refine ⟨calls, ?_⟩
      dsimp only at same ⊢
      split
      · exact congrArg TcpClient.asyncRead same
      · exact same

theorem Access.step (sound : u.client.Sound) (access : Access settings u) {e : Event}
    (taken : step settings u e = some v) : v.client.Sound ∧ Access settings v := by
  have effect := step_cases taken
  cases effect with
  | finished index result client finished =>
      refine ⟨sound.step finished, ?_⟩
      obtain ⟨request, impossible, _⟩ | ⟨_, _, _, _, _, rfl⟩ | ⟨_, _, _, _, impossible, _⟩ :=
        TcpClient.step_cases finished
      · cases impossible
      · exact ⟨⟨access.legit, access.sent, access.opened⟩, access.granted, access.waiting⟩
      · cases impossible
  | completed index tracker operation result found =>
      have took := sound.taken found
      refine ⟨?_, access.resume (handle_cases took result) tracker⟩
      obtain ⟨calls, same⟩ := @client_resume settings u tracker
        ({ u.client with pending := u.client.pending.eraseIdx index }.handle operation result)
      rw [same]
      exact (TcpClient.handle_sound took result).resume calls
  | relayed arguments =>
      refine ⟨?_, access.relay arguments⟩
      rw [client_react]
      exact sound.calls _
  | elapsed milliseconds =>
      exact ⟨sound, ⟨access.legit, access.sent, access.opened⟩, access.granted, access.waiting⟩
  | expired timer =>
      exact ⟨sound, ⟨access.legit, access.sent, access.opened⟩, access.granted, access.waiting⟩
  | fired index wait cancelled timer =>
      refine ⟨?_, Access.fire (u := { u with timer })
        ⟨⟨access.legit, access.sent, access.opened⟩, access.granted, access.waiting⟩ _⟩
      change (Upstream.react _ _ _).client.Sound
      rw [client_react]
      exact TcpClient.Sound.calls (c := u.client) sound _

theorem access_initial : (initial settings).client.Sound ∧ Access settings (initial settings) := by
  have nothing : Access settings {} := ⟨⟨nofun, rfl, nofun⟩, nofun, fun _ => nofun⟩
  refine ⟨?_, nothing.start⟩
  change (Upstream.react _ _ _).client.Sound
  rw [client_react]
  exact TcpClient.sound_init.calls _

theorem access_of_run {events : List Event}
    (run : Run (step settings) (initial settings) events u) : Access settings u := by
  let Inv (u : Upstream) : Prop := u.client.Sound ∧ Access settings u
  have keeps : ∀ {s : Upstream} {e : Event} {t : Upstream}, Inv s → step settings s e = some t →
      Inv t := fun kept taken => kept.2.step kept.1 taken
  exact (run.invariant keeps access_initial).2

/-- In every run, and on every connection: the first string queued is the logon, and whatever
else is queued or forwarded comes after `LOAD`; so nothing is queued after a refusal.  The
strings queued on the connections are those the client has taken. -/
theorem legit_of_run {events : List Event}
    (run : Run (step settings) (initial settings) events u) :
    sent u.client.trace = recorded u.connections ∧
      ∀ c ∈ u.connections,
        (settings.imei ≠ [] → c.queued.head? = some (logon settings.imei, [])) ∧
        (∀ entry ∈ c.queued.drop (greeting settings).length, Granted entry.2) ∧
        (∀ entry ∈ c.forwarded, Granted entry.2) ∧
        ∀ entry ∈ c.queued, ¬ Refused entry.2 := by
  have access := access_of_run run
  refine ⟨access.sent, fun c member => ?_⟩
  have legit := access.legit c member
  obtain ⟨later, queued, good⟩ := legit.queued
  rw [queued]
  refine ⟨fun named => ?_, fun entry member => ?_, legit.forwarded, fun entry member refused => ?_⟩
  · unfold greeting
    rw [if_neg named]
    rfl
  · rw [List.drop_left] at member
    exact good entry member
  · rcases List.mem_append.mp member with first | other
    · unfold greeting at first
      split at first
      · cases first
      · rw [List.mem_singleton.mp first] at refused
        rcases refused.2 with impossible | impossible
        · exact absurd impossible (show ¬ 4 ≤ 0 by decide)
        · exact absurd impossible List.not_mem_nil
    · exact refused.1 (good entry other)

/-- Access is granted, and a frame is relayed. -/
def relaysFrame : List Event :=
  logsOn ++ [.finish 0 { bytes := load }, .complete 0 true, .deviceCommand ["tracker".toList]]

theorem relaysFrame_legit :
    ∃ u c, Run (step sampleSettings) (initial sampleSettings) relaysFrame u ∧
      c ∈ u.connections ∧
      c.queued = [(logon sampleSettings.imei, []), ("tracker;\r\n".toList, load)] ∧
      c.queued.head? = some (logon sampleSettings.imei, []) ∧
      ∀ entry ∈ c.queued.drop 1, Granted entry.2 := by
  have executed : (relaysFrame.foldlM (step sampleSettings)
      (initial sampleSettings)).map (·.connections) =
      some [{ received := load,
              queued := [(logon sampleSettings.imei, []), ("tracker;\r\n".toList, load)] }] := by
    decide +kernel
  obtain ⟨u, folded, connections⟩ := Option.map_eq_some_iff.mp executed
  have run := Run.of_foldlM folded
  have only := (legit_of_run run).2
  rw [connections] at only
  obtain ⟨first, others, _, _⟩ := only _ (List.mem_singleton_self _)
  refine ⟨u, _, run, ?_, rfl, first nofun, others⟩
  rw [connections]
  exact List.mem_singleton_self _

end GpsInformer.Upstream
