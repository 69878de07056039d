import GpsInformer.Upstream

/-!
# Waits that have been cancelled

`handleTransmitterTimer` does not look at its error code, so the handler of a wait that has
been cancelled connects or sends a heartbeat all the same, and so does one that was queued
before the connection was lost.  `prompt_iff_live` says that this is the only way in which an
attempt can come too early, or a heartbeat from a wait that has not expired.
-/

namespace GpsInformer.Upstream

open Lib

open Transmitter (handleTransmitterTimer)

variable {settings : TransmitterSettings} {u v : Upstream} {call : TimerCall} {cause : Cause}

/-! ## What a handler leaves as it is -/

/-- `perform` and `react` keep no record of losses and of timer calls. -/
structure SameRecord (u v : Upstream) : Prop where
  losses : v.losses = u.losses
  loss : v.loss = u.loss
  attempts : v.attempts = u.attempts
  heartbeats : v.heartbeats = u.heartbeats
  now : v.timer.now = u.timer.now

theorem SameRecord.refl (u : Upstream) : SameRecord u u := ⟨rfl, rfl, rfl, rfl, rfl⟩

theorem SameRecord.trans {w : Upstream} (first : SameRecord u v) (second : SameRecord v w) :
    SameRecord u w :=
  ⟨second.losses.trans first.losses, second.loss.trans first.loss,
    second.attempts.trans first.attempts, second.heartbeats.trans first.heartbeats,
    second.now.trans first.now⟩

theorem sameRecord_perform (action : Transmitter.Action) :
    SameRecord u (u.perform cause action) := by
  cases action with
  | send data =>
      unfold perform
      dsimp only
      split
      · exact ⟨rfl, rfl, rfl, rfl, rfl⟩
      · exact ⟨rfl, rfl, rfl, rfl, rfl⟩
  | connect => exact ⟨rfl, rfl, rfl, rfl, rfl⟩
  | disconnect => exact ⟨rfl, rfl, rfl, rfl, rfl⟩
  | expiresFromNow milliseconds => exact ⟨rfl, rfl, rfl, rfl, rfl⟩
  | asyncWait => exact ⟨rfl, rfl, rfl, rfl, rfl⟩
  | processClientData data => exact ⟨rfl, rfl, rfl, rfl, rfl⟩

theorem sameRecord_performAll (actions : List Transmitter.Action) :
    SameRecord u (actions.foldl (perform cause) u) := by
  induction actions generalizing u with
  | nil => exact .refl u
  | cons action actions ih => exact (sameRecord_perform action).trans ih

theorem sameRecord_react (handler : Transmitter → Transmitter) :
    SameRecord u (u.react cause handler) := by
  have start : SameRecord u { u with
      transmitter := { handler { u.transmitter with trace := [] } with trace := [] } } :=
    ⟨rfl, rfl, rfl, rfl, rfl⟩
  exact start.trans (sameRecord_performAll _)

/-! ## The waits -/

/-- A wait for a reconnect was started at its loss, with a delay. -/
def Armed (settings : TransmitterSettings) (losses : Nat) (loss : Option Loss)
    (wait : Wait Cause) : Prop :=
  match wait.cause with
  | .heartbeat => True
  | .reconnect number => number < losses ∧ 1 ≤ settings.reconnectDelay ∧
      ∀ last, loss = some last → last.number = number →
        wait.deadline = last.time + settings.reconnectDelay

/-- What holds of the timer between two handlers. -/
structure Timed (settings : TransmitterSettings) (u : Upstream) : Prop where
  timely : u.timer.Timely
  armed : u.timer.Each (Armed settings u.losses u.loss)
  numbered : ∀ last, u.loss = some last → last.number < u.losses

theorem Timed.perform (timed : Timed settings u) (action : Transmitter.Action) :
    Timed settings (u.perform .heartbeat action) := by
  cases action with
  | send data =>
      unfold Upstream.perform
      dsimp only
      split
      · exact ⟨timed.timely, timed.armed, timed.numbered⟩
      · exact ⟨timed.timely, timed.armed, timed.numbered⟩
  | connect => exact ⟨timed.timely, timed.armed, timed.numbered⟩
  | disconnect => exact ⟨timed.timely, timed.armed, timed.numbered⟩
  | expiresFromNow milliseconds =>
      exact ⟨timed.timely.expiresFromNow _, timed.armed.expiresFromNow _, timed.numbered⟩
  | asyncWait => exact ⟨timed.timely.asyncWait _, timed.armed.asyncWait trivial, timed.numbered⟩
  | processClientData data => exact ⟨timed.timely, timed.armed, timed.numbered⟩

theorem Timed.performAll (timed : Timed settings u) (actions : List Transmitter.Action) :
    Timed settings (actions.foldl (Upstream.perform .heartbeat) u) := by
  induction actions generalizing u with
  | nil => exact timed
  | cons action actions ih => exact ih (timed.perform action)

theorem Timed.react (timed : Timed settings u) (handler : Transmitter → Transmitter) :
    Timed settings (u.react .heartbeat handler) :=
  Timed.performAll (u := { u with
    transmitter := { handler { u.transmitter with trace := [] } with trace := [] } })
    ⟨timed.timely, timed.armed, timed.numbered⟩ _

/-- What `handleTcpClientError` does. -/
def lossActions (settings : TransmitterSettings) : List Transmitter.Action :=
  .expiresFromNow settings.reconnectDelay ::
    if settings.reconnectDelay < 1 then [] else [.asyncWait]

theorem actionsOf_handleTcpClientError :
    actionsOf (Transmitter.handleTcpClientError settings false) u = lossActions settings := by
  unfold actionsOf Transmitter.handleTcpClientError lossActions
  dsimp only [Transmitter.record]
  split
  · rename_i short
    rw [if_pos (short.resolve_left Bool.false_ne_true)]
    rfl
  · rename_i armed
    rw [if_neg fun short => armed (Or.inr short)]
    rfl

theorem actionsOf_handleTcpClientDisconnect :
    actionsOf (Transmitter.handleTcpClientDisconnect settings false .closedByPeer) u =
      lossActions settings :=
  actionsOf_handleTcpClientError

/-- A loss starts at most one wait, for the delay after it. -/
theorem Timed.lost (timed : Timed settings u) {handler : Transmitter → Transmitter}
    (does : actionsOf handler u = lossActions settings) :
    Timed settings (u.lose.react (.reconnect u.losses) handler) := by
  have older : u.timer.Each (Armed settings (u.losses + 1) (some ⟨u.losses, u.timer.now⟩)) := by
    refine timed.armed.mono fun wait armed => ?_
    unfold Armed at armed ⊢
    split at armed
    · trivial
    · refine ⟨by omega, armed.2.1, fun last same number => ?_⟩
      cases same
      dsimp only at number
      omega
  have numbered : ∀ last, (some ⟨u.losses, u.timer.now⟩ : Option Loss) = some last →
      last.number < u.losses + 1 := by
    rintro _ same
    cases same
    exact Nat.lt_succ_self _
  unfold Upstream.react
  dsimp only [lose]
  change (handler { u.transmitter with trace := [] }).trace = _ at does
  rw [does]
  unfold lossActions
  have cancelled := timed.timely.expiresFromNow settings.reconnectDelay
  have each := older.expiresFromNow settings.reconnectDelay
  split
  · exact ⟨cancelled, each, numbered⟩
  · rename_i delayed
    refine ⟨cancelled.asyncWait _, each.asyncWait ?_, numbered⟩
    refine ⟨Nat.lt_succ_self _, by omega, fun last same _ => ?_⟩
    cases same
    rfl

/-! ## Every step keeps the waits timed -/

theorem Timed.notified (timed : Timed settings u) (tracker : Bool) (notification : Notification) :
    Timed settings (u.notified settings tracker notification) := by
  cases notification with
  | connect =>
      exact Timed.react (u := { u with connections := {} :: u.connections })
        ⟨timed.timely, timed.armed, timed.numbered⟩ _
  | disconnect reason =>
      cases reason with
      | closedByUser =>
          refine Timed.react (u := { u with loss := none }) ⟨timed.timely, ?_, nofun⟩ _
          refine timed.armed.mono fun wait armed => ?_
          unfold Armed at armed ⊢
          split at armed
          · trivial
          · exact ⟨armed.1, armed.2.1, nofun⟩
      | closedByPeer => exact timed.lost actionsOf_handleTcpClientDisconnect
  | error code => exact timed.lost actionsOf_handleTcpClientError
  | receivedData data =>
      exact Timed.react (u := u.onCurrent fun c => { c with received := c.received ++ data })
        ⟨timed.timely, timed.armed, timed.numbered⟩ _

theorem Timed.resume (timed : Timed settings u) (tracker : Bool) (turn : TcpClient.Turn) :
    Timed settings (u.resume settings tracker turn) := by
  unfold Upstream.resume
  cases turn.notification with
  | none =>
      dsimp only
      split
      · exact ⟨timed.timely, timed.armed, timed.numbered⟩
      · exact ⟨timed.timely, timed.armed, timed.numbered⟩
  | some notification =>
      have told := Timed.notified
        (u := { u with client := turn.client.record (.notify notification) })
        ⟨timed.timely, timed.armed, timed.numbered⟩ tracker notification
      dsimp only
      split
      · exact ⟨told.timely, told.armed, told.numbered⟩
      · exact told

theorem Timed.fire (timed : Timed settings u) (call : TimerCall) :
    Timed settings (u.fire settings call) := by
  have reacted := timed.react (handleTransmitterTimer settings)
  exact ⟨reacted.timely, reacted.armed, reacted.numbered⟩

theorem Timed.step (timed : Timed settings u) {e : Event} (taken : step settings u e = some v) :
    Timed settings v := by
  have effect := step_cases taken
  cases effect with
  | finished => exact ⟨timed.timely, timed.armed, timed.numbered⟩
  | completed => exact timed.resume _ _
  | relayed => exact timed.react _
  | elapsed milliseconds =>
      exact ⟨timed.timely.elapse _, ⟨timed.armed.pending, timed.armed.queued⟩, timed.numbered⟩
  | expired timer expired =>
      exact ⟨timed.timely.expire expired, timed.armed.expire expired, timed.numbered⟩
  | fired index wait cancelled timer dequeued =>
      exact Timed.fire (u := { u with timer }) ⟨timed.timely.dequeue dequeued,
        (timed.armed.dequeue dequeued).2, timed.numbered⟩ _

/-! ## The timer's handler -/

/-- The handler sends a heartbeat. -/
def Beats (settings : TransmitterSettings) (u : Upstream) : Prop :=
  u.transmitter.authorized = true ∧ settings.imei.length ≠ 0 ∧ u.client.status = .connected

/-- The handler starts a connection attempt. -/
def Connects (settings : TransmitterSettings) (u : Upstream) : Prop :=
  u.transmitter.authorized = false ∧ settings.enabled = true ∧ u.client.status = .disconnected

/-- What the client does in the timer's handler. -/
inductive TimerCase (settings : TransmitterSettings) (u : Upstream) :
    List TcpClient.Action → Prop
  | beats (data : Str) (rest : List TcpClient.Action) : Beats settings u → .connect ∉ rest →
    TimerCase settings u (.send data :: rest)
  | connects : Connects settings u → TimerCase settings u [.connect]
  | idle : ¬ Beats settings u → ¬ Connects settings u → TimerCase settings u []

theorem clientActions_eq {actions : List TcpClient.Action}
    (grown : v.client.trace = u.client.trace ++ actions) : clientActions u v = actions := by
  unfold clientActions
  rw [grown, List.drop_left]

theorem timer_cases (settings : TransmitterSettings) (u : Upstream) :
    TimerCase settings u
      (clientActions u (u.react .heartbeat (handleTransmitterTimer settings))) := by
  have client := client_react .heartbeat (handleTransmitterTimer settings) u
  generalize u.react .heartbeat (handleTransmitterTimer settings) = v at client ⊢
  unfold actionsOf handleTransmitterTimer at client
  dsimp only at client
  cases authorized : u.transmitter.authorized with
  | true =>
      have silent : ¬ Connects settings u := fun connects => by
        cases authorized.symm.trans connects.1
      rw [authorized, if_pos rfl] at client
      by_cases beats : Beats settings u
      · rw [if_pos beats.2.1] at client
        obtain ⟨written, trace⟩ := trace_send u.client
          (settings.imei ++ Transmitter.terminator) beats.2.2
        have same : v.client = u.client.send (settings.imei ++ Transmitter.terminator) := client
        rw [clientActions_eq (by rw [same, trace])]
        exact .beats _ _ beats (by simp)
      · have unchanged : v.client = u.client := by
          by_cases named : settings.imei.length ≠ 0
          · rw [if_pos named] at client
            have status : u.client.status ≠ .connected := fun connected =>
              beats ⟨authorized, named, connected⟩
            exact client.trans (if_pos status)
          · rw [if_neg named] at client
            exact client
        rw [clientActions_eq (by rw [unchanged, List.append_nil])]
        exact .idle beats silent
  | false =>
      have silent : ¬ Beats settings u := fun beats => by
        cases authorized.symm.trans beats.1
      rw [authorized, if_neg Bool.false_ne_true] at client
      unfold Transmitter.startTransmitter at client
      by_cases connects : Connects settings u
      · have same : v.client = u.client.connect := by
          rw [connects.2.1] at client
          exact client
        have trace : u.client.connect.trace = u.client.trace ++ [.connect] := by
          unfold TcpClient.connect
          rw [if_neg (not_not.mpr connects.2.2)]
          rfl
        rw [clientActions_eq (by rw [same, trace])]
        exact .connects connects
      · have unchanged : v.client = u.client := by
          cases enabled : settings.enabled with
          | false =>
              rw [enabled] at client
              exact client
          | true =>
              rw [enabled] at client
              have status : u.client.status ≠ .disconnected := fun free =>
                connects ⟨authorized, enabled, free⟩
              exact client.trans (if_pos status)
        rw [clientActions_eq (by rw [unchanged, List.append_nil])]
        exact .idle silent connects

instance : Decidable (Beats settings u) :=
  inferInstanceAs (Decidable (_ ∧ _ ∧ _))

instance : Decidable (Connects settings u) :=
  inferInstanceAs (Decidable (_ ∧ _ ∧ _))

theorem attempts_fire (call : TimerCall) :
    (u.fire settings call).attempts =
      if Connects settings u then u.attempts ++ [call] else u.attempts := by
  have record : SameRecord u (u.react .heartbeat (handleTransmitterTimer settings)) :=
    sameRecord_react _
  unfold fire
  dsimp only
  rw [record.attempts]
  have cases := timer_cases settings u
  generalize clientActions u _ = actions at cases ⊢
  rcases cases with ⟨data, rest, beats, others⟩ | connects | ⟨_, silent⟩
  · rw [if_neg (by simp [others]), if_neg fun connects => by cases beats.1.symm.trans connects.1]
  · rw [if_pos (List.mem_singleton_self _), if_pos connects]
  · rw [if_neg List.not_mem_nil, if_neg silent]

theorem heartbeats_fire (call : TimerCall) :
    (u.fire settings call).heartbeats =
      if Beats settings u then u.heartbeats ++ [call] else u.heartbeats := by
  have record : SameRecord u (u.react .heartbeat (handleTransmitterTimer settings)) :=
    sameRecord_react _
  unfold fire
  dsimp only
  rw [record.heartbeats]
  have cases := timer_cases settings u
  generalize clientActions u _ = actions at cases ⊢
  rcases cases with ⟨data, rest, beats, others⟩ | connects | ⟨silent, _⟩
  · rw [if_pos ⟨List.cons_ne_nil _ _, by simp [others]⟩, if_pos beats]
  · rw [if_neg fun sends => sends.2 (List.mem_singleton_self _),
      if_neg fun beats => by cases beats.1.symm.trans connects.1]
  · rw [if_neg fun sends => sends.1 rfl, if_neg silent]

theorem calls_notified (tracker : Bool) (notification : Notification) :
    (u.notified settings tracker notification).attempts = u.attempts ∧
      (u.notified settings tracker notification).heartbeats = u.heartbeats := by
  unfold notified
  split
  · exact ⟨(sameRecord_react _).attempts, (sameRecord_react _).heartbeats⟩
  · exact ⟨(sameRecord_react _).attempts, (sameRecord_react _).heartbeats⟩
  · exact ⟨(sameRecord_react (u := u.lose) _).attempts,
      (sameRecord_react (u := u.lose) _).heartbeats⟩
  · exact ⟨(sameRecord_react (u := u.lose) _).attempts,
      (sameRecord_react (u := u.lose) _).heartbeats⟩
  · exact ⟨(sameRecord_react (u := u.onCurrent _) _).attempts,
      (sameRecord_react (u := u.onCurrent _) _).heartbeats⟩

theorem calls_resume (tracker : Bool) (turn : TcpClient.Turn) :
    (u.resume settings tracker turn).attempts = u.attempts ∧
      (u.resume settings tracker turn).heartbeats = u.heartbeats := by
  unfold resume
  cases turn.notification with
  | none =>
      dsimp only
      split
      · exact ⟨rfl, rfl⟩
      · exact ⟨rfl, rfl⟩
  | some notification =>
      have told := @calls_notified settings
        { u with client := turn.client.record (.notify notification) } tracker notification
      dsimp only
      split
      · exact told
      · exact told

/-! ## What has to be the case when the timer's handler is called -/

/-- An attempt after a loss is made by the wait for it, which has expired. -/
def DueAttempt (settings : TransmitterSettings) (call : TimerCall) : Prop :=
  ∀ loss, call.loss = some loss →
    call.cancelled = false ∧ call.wait.cause = .reconnect loss.number ∧
      1 ≤ settings.reconnectDelay ∧ loss.time + settings.reconnectDelay ≤ call.time

/-- A heartbeat is sent by a wait that has expired. -/
def DueHeartbeat (call : TimerCall) : Prop :=
  call.cancelled = false ∧ call.wait.deadline ≤ call.time

structure Prompt (settings : TransmitterSettings) (u : Upstream) : Prop where
  attempts : ∀ call ∈ u.attempts, DueAttempt settings call
  heartbeats : ∀ call ∈ u.heartbeats, DueHeartbeat call

/-- The timer's handler connects, after a loss, only for the wait of that loss and only when
it has expired, and beats only for a wait that has expired. -/
def Live (settings : TransmitterSettings) (u : Upstream) : Event → Prop
  | .fire index => ∀ call, u.timer.queued[index]? = some call →
      (Beats settings u → call.2 = false) ∧
      (Connects settings u → ∀ loss, u.loss = some loss →
        call.2 = false ∧ call.1.cause = .reconnect loss.number)
  | _ => True

instance : ∀ (u : Upstream) (e : Event), Decidable (Live settings u e)
  | u, .fire index => inferInstanceAs (Decidable (∀ call, u.timer.queued[index]? = some call → _))
  | _, .finish _ _ | _, .complete _ _ | _, .deviceCommand _ | _, .elapse _ | _, .expire =>
      inferInstanceAs (Decidable True)

/-- Only the timer's handler adds to the record. -/
theorem Prompt.of_calls (prompt : Prompt settings u)
    (calls : v.attempts = u.attempts ∧ v.heartbeats = u.heartbeats) : Prompt settings v :=
  ⟨calls.1 ▸ prompt.attempts, calls.2 ▸ prompt.heartbeats⟩

theorem Prompt.fire (prompt : Prompt settings u)
    (attempt : Connects settings u → DueAttempt settings call)
    (beat : Beats settings u → DueHeartbeat call) : Prompt settings (u.fire settings call) where
  attempts other member := by
    rw [attempts_fire] at member
    split at member
    · rename_i connects
      rcases List.mem_append.mp member with old | new
      · exact prompt.attempts other old
      · rw [List.mem_singleton.mp new]
        exact attempt connects
    · exact prompt.attempts other member
  heartbeats other member := by
    rw [heartbeats_fire] at member
    split at member
    · rename_i beats
      rcases List.mem_append.mp member with old | new
      · exact prompt.heartbeats other old
      · rw [List.mem_singleton.mp new]
        exact beat beats
    · exact prompt.heartbeats other member

theorem Prompt.of_fire (prompt : Prompt settings (u.fire settings call)) :
    (Connects settings u → DueAttempt settings call) ∧
      (Beats settings u → DueHeartbeat call) := by
  refine ⟨fun connects => prompt.attempts call ?_, fun beats => prompt.heartbeats call ?_⟩
  · rw [attempts_fire, if_pos connects]
    exact List.mem_append_right _ (List.mem_singleton_self call)
  · rw [heartbeats_fire, if_pos beats]
    exact List.mem_append_right _ (List.mem_singleton_self call)

/-- A handler called with the wait of the last loss is called when it is due. -/
theorem Timed.due (timed : Timed settings u) {index : Nat} {wait : Wait Cause}
    (queued : u.timer.queued[index]? = some (wait, false)) {loss : Loss}
    (last : u.loss = some loss) (own : wait.cause = .reconnect loss.number) :
    1 ≤ settings.reconnectDelay ∧ loss.time + settings.reconnectDelay ≤ u.timer.now := by
  have member := List.mem_of_getElem? queued
  have armed := timed.armed.queued _ member
  have past := timed.timely.expired _ member
  unfold Armed at armed
  rw [own] at armed
  dsimp only at armed
  rw [armed.2.2 loss last rfl] at past
  exact ⟨armed.2.1, past⟩

theorem Prompt.step (timed : Timed settings u) (prompt : Prompt settings u) {e : Event}
    (live : Live settings u e) (taken : step settings u e = some v) : Prompt settings v := by
  have effect := step_cases taken
  cases effect with
  | finished => exact prompt.of_calls ⟨rfl, rfl⟩
  | completed index tracker operation result => exact prompt.of_calls (calls_resume _ _)
  | relayed =>
      exact prompt.of_calls ⟨(sameRecord_react _).attempts, (sameRecord_react _).heartbeats⟩
  | elapsed milliseconds => exact prompt.of_calls ⟨rfl, rfl⟩
  | expired timer expired => exact prompt.of_calls ⟨rfl, rfl⟩
  | fired index wait cancelled timer dequeued =>
      have queued := (DeadlineTimer.dequeue_eq_some dequeued).1
      obtain ⟨beating, connecting⟩ := live _ queued
      refine Prompt.fire (u := { u with timer }) ⟨prompt.attempts, prompt.heartbeats⟩ ?_ ?_
      · intro connects loss last
        obtain ⟨rfl, own⟩ := connecting connects loss last
        have due := timed.due queued last own
        exact ⟨rfl, own, due.1, due.2⟩
      · intro beats
        obtain rfl := beating beats
        exact ⟨rfl, timed.timely.expired _ (List.mem_of_getElem? queued)⟩

theorem Live.of_prompt {e : Event} (taken : step settings u e = some v)
    (prompt : Prompt settings v) : Live settings u e := by
  have effect := step_cases taken
  cases effect with
  | fired index wait cancelled timer dequeued =>
      have queued := (DeadlineTimer.dequeue_eq_some dequeued).1
      rintro call found
      cases queued.symm.trans found
      have due := Prompt.of_fire (u := { u with timer }) prompt
      refine ⟨fun beats => (due.2 beats).1, fun connects loss last => ?_⟩
      have attempt := due.1 connects loss last
      exact ⟨attempt.1, attempt.2.1⟩
  | finished | completed | relayed | elapsed | expired => trivial

/-! ## Attempts and heartbeats in whole runs -/

/-- From the start of `main`, every attempt and every heartbeat is due iff the handlers that
connect or beat all are of waits that have expired, and after a loss of the one for it. -/
theorem prompt_iff_live {events : List Event}
    (run : Run (step settings) (initial settings) events u) :
    (∀ v, Visits (step settings) (initial settings) events v → Prompt settings v) ↔
      Guarded (step settings) (Live settings) (initial settings) events := by
  have timed : Timed settings (initial settings) :=
    Timed.react (u := {}) ⟨⟨nofun, nofun⟩, ⟨nofun, nofun⟩, nofun⟩ _
  have calls : SameRecord {} (initial settings) := sameRecord_react _
  have prompt : Prompt settings (initial settings) :=
    Prompt.of_calls (u := {}) ⟨nofun, nofun⟩ ⟨calls.attempts, calls.heartbeats⟩
  refine forall_visits_iff_guarded ?_ ?_ run timed prompt
  · intro s e t timed prompt live taken
    exact ⟨timed.step taken, Prompt.step timed prompt live taken⟩
  · intro s e t _ _ missed taken prompt
    exact missed (Live.of_prompt taken prompt)

/-- `LOAD` is received, the connection is closed by the peer, and the handler of the wait for
the heartbeat is called. -/
def losesHeartbeat : List Event :=
  logsOn ++ [.finish 0 { bytes := Transmitter.load }, .complete 0 false,
    .finish 0 { error := some .eof }, .complete 0 false, .fire 0]

/-- The heartbeat's wait is cancelled by the loss, and its handler connects at once. -/
theorem losesHeartbeat_connects :
    ∃ u, Run (step sampleSettings) (initial sampleSettings) losesHeartbeat u ∧
      (∃ call ∈ u.attempts, call.cancelled = true ∧ call.wait.cause = .heartbeat ∧
        call.loss = some ⟨0, call.time⟩) ∧
      ¬ Prompt sampleSettings u := by
  have executed : (losesHeartbeat.foldlM (step sampleSettings)
      (initial sampleSettings)).map (·.attempts) =
      some [⟨⟨.heartbeat, 30000⟩, true, 0, some ⟨0, 0⟩⟩] := by
    decide +kernel
  obtain ⟨u, run, attempts⟩ := Option.map_eq_some_iff.mp executed
  have member : (⟨⟨.heartbeat, 30000⟩, true, 0, some ⟨0, 0⟩⟩ : TimerCall) ∈ u.attempts := by
    rw [attempts]
    exact List.mem_singleton_self _
  refine ⟨u, .of_foldlM run, ⟨_, member, rfl, rfl, rfl⟩, fun prompt => ?_⟩
  cases (prompt.attempts _ member ⟨0, 0⟩ rfl).1

/-- The connection is closed by the peer, and the wait for that expires. -/
def reconnectsLater : List Event :=
  logsOn ++ [.finish 0 { error := some .eof }, .complete 0 false, .elapse 5000, .expire, .fire 0]

theorem reconnectsLater_prompt :
    ∃ u, Run (step sampleSettings) (initial sampleSettings) reconnectsLater u ∧
      u.attempts = [⟨⟨.reconnect 0, 5000⟩, false, 5000, some ⟨0, 0⟩⟩] ∧
      Prompt sampleSettings u := by
  have executed : (reconnectsLater.foldlM (step sampleSettings)
      (initial sampleSettings)).map (·.attempts) =
      some [⟨⟨.reconnect 0, 5000⟩, false, 5000, some ⟨0, 0⟩⟩] := by
    decide +kernel
  obtain ⟨u, folded, attempts⟩ := Option.map_eq_some_iff.mp executed
  have run := Run.of_foldlM folded
  refine ⟨u, run, attempts, (prompt_iff_live run).mpr ?_ u (.of_run run)⟩
  decide +kernel

end GpsInformer.Upstream
