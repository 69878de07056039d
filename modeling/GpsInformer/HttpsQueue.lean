import GpsInformer.HttpsClient
import GpsInformer.Lib.Outcome
import GpsInformer.Lib.Run

/-!
# The request queue loses no message

The front of the queue doubles as the request in flight.  `Sound` says what each phase of
the connection promises about it: from the attempt to connect to the end of the connection
the queue is not empty, once connected the data of its front, and of nothing else, has been
passed to `_client.send`, and a connection that is being closed by the client belongs to a
long poll.  Every event keeps this (`sound_step`), for any owner that only calls
`sendRequest` and `pushQueue`.

`queue_loses_nothing` reads the promises off the journal.
-/

namespace GpsInformer

open Lib

/-- `d` is `c` after some calls of `pushQueue`, and of `sendRequest` with requests meeting
`p`. -/
inductive Queues (timerFails : Nat → Bool) (p : HttpRequest → Prop) (c : HttpsClient) :
    HttpsClient → Prop
  | refl : Queues timerFails p c c
  | sendRequest {d : HttpsClient} (request : HttpRequest) :
    Queues timerFails p c d → p request → Queues timerFails p c (d.sendRequest timerFails request)
  | pushQueue {d : HttpsClient} :
    Queues timerFails p c d → Queues timerFails p c (d.pushQueue timerFails)

/-- The handlers of an owner only queue requests. -/
structure Polite {β : Type} (timerFails : Nat → Bool) (handler : HttpClientHandler β) : Prop where
  error : ∀ s, Queues timerFails (fun _ => True) s.client (handler.handleHttpClientError s).client
  idle : ∀ s, Queues timerFails (fun _ => True) s.client (handler.handleHttpClientIdle s).client
  response : ∀ {request response s t}, handler.handleHttpClientResponse request response s = .ok t →
    Queues timerFails (fun _ => True) s.client t.client

namespace HttpsClient

variable {timerFails : Nat → Bool} {p : HttpRequest → Prop} {c d : HttpsClient}

@[simp] theorem pushQueue_requestQueue :
    (c.pushQueue timerFails).requestQueue = c.requestQueue := by
  unfold pushQueue
  dsimp only
  split <;> rfl

@[simp] theorem pushQueue_journal : (c.pushQueue timerFails).journal = c.journal := by
  unfold pushQueue
  dsimp only
  split <;> rfl

@[simp] theorem pushQueue_response : (c.pushQueue timerFails).response = c.response := by
  unfold pushQueue
  dsimp only
  split <;> rfl

@[simp] theorem pushQueue_ssl : (c.pushQueue timerFails).ssl = c.ssl := by
  unfold pushQueue
  dsimp only
  split <;> rfl

/-- What calls of the public functions change: requests are queued behind the others. -/
structure Extended (p : HttpRequest → Prop) (c d : HttpsClient) (extra : List HttpRequest) :
    Prop where
  requestQueue : d.requestQueue = c.requestQueue ++ extra
  journal : d.journal = { c.journal with queued := c.journal.queued ++ extra }
  response : d.response = c.response
  ssl : d.ssl = c.ssl
  meets : ∀ request ∈ extra, p request

theorem exists_extended (queues : Queues timerFails p c d) : ∃ extra, Extended p c d extra := by
  induction queues with
  | refl => exact ⟨[], by simp, by simp, rfl, rfl, nofun⟩
  | sendRequest request _ meets ih =>
      obtain ⟨extra, extended⟩ := ih
      refine ⟨extra ++ [request], ?_, ?_, ?_, ?_, ?_⟩
      · simp [sendRequest, extended.requestQueue]
      · simp [sendRequest, extended.journal]
      · simp [sendRequest, extended.response]
      · simp [sendRequest, extended.ssl]
      · intro other member
        rcases List.mem_append.mp member with old | new
        · exact extended.meets other old
        · exact List.mem_singleton.mp new ▸ meets
  | pushQueue _ ih =>
      obtain ⟨extra, extended⟩ := ih
      exact ⟨extra, by simp [extended.requestQueue], by simp [extended.journal],
        by simp [extended.response], by simp [extended.ssl], extended.meets⟩

/-! ## What the journal promises -/

/-- What has left the queue, and which of the requests before the place `next` have been
answered, in view of the connections that are over. -/
structure Recorded (connections : List Connection) (next : Nat) (j : Journal) : Prop where
  departed : ∀ (i : Nat) (d : Departure), j.departed[i]? = some d → d.request.longPoll = false →
    d.byPeer = true ∧ ∃ connection : Connection, connections[d.connection]? = some connection ∧
      i ∈ connection.sent
  answered : ∀ a ∈ j.answers, ∃ connection : Connection,
    connections[a.connection]? = some connection ∧ connection.sent = [a.place] ∧
      connection.received = a.response
  asked : ∀ a ∈ j.answers, j.queued[a.place]? = some a.request
  past : ∀ a ∈ j.answers, a.place < next
  once : (j.answers.map Answer.place).Nodup

theorem getElem?_append_of_some {α : Type} {xs ys : List α} {i : Nat} {a : α}
    (found : xs[i]? = some a) : (xs ++ ys)[i]? = some a :=
  (List.getElem?_append_left (List.getElem?_eq_some_iff.mp found).1).trans found

theorem Recorded.append {connections : List Connection} {next : Nat} {j : Journal}
    (recorded : Recorded connections next j) (more : List Connection) :
    Recorded (connections ++ more) next j := by
  refine { recorded with departed := fun i d at_i message => ?_, answered := fun a member => ?_ }
  · obtain ⟨byPeer, connection, found, sent⟩ := recorded.departed i d at_i message
    exact ⟨byPeer, connection, getElem?_append_of_some found, sent⟩
  · obtain ⟨connection, found, facts⟩ := recorded.answered a member
    exact ⟨connection, getElem?_append_of_some found, facts⟩

theorem Recorded.queued {connections : List Connection} {next : Nat} {j : Journal}
    (recorded : Recorded connections next j) (extra : List HttpRequest) :
    Recorded connections next { j with queued := j.queued ++ extra } := by
  exact { recorded with asked := fun a member => getElem?_append_of_some (recorded.asked a member) }

/-- The state of the current connection: nothing has happened on it before it is
connected, and then only the front has been sent and `_response` has been received. -/
def Carries (c : HttpsClient) (current : Connection) : (connected : Bool) → Prop
  | false => current = {}
  | true => current.sent = [c.journal.departed.length] ∧ current.received = c.response

/-- A connection is open, or is being opened or closed. -/
structure Busy (c : HttpsClient) (connected : Bool) : Prop where
  queue : c.requestQueue ≠ []
  connection : ∃ old current, c.journal.connections = old ++ [current] ∧
    Recorded old c.journal.departed.length c.journal ∧ Carries c current connected

/-- The front of the queue is a long poll. -/
def Polling (c : HttpsClient) : Prop :=
  ∃ request rest, c.requestQueue = request :: rest ∧ request.longPoll = true

/-- What each phase of the connection promises. -/
def Promises (c : HttpsClient) : SslPhase → Prop
  | .disconnected => Recorded c.journal.connections c.journal.departed.length c.journal
  | .connecting => Busy c false
  | .connected => Busy c true
  | .disconnecting connected => Busy c connected ∧ Polling c
  | .failed connected => Busy c connected

structure Sound (c : HttpsClient) : Prop where
  fifo : c.journal.queued = c.journal.departed.map Departure.request ++ c.requestQueue
  promises : Promises c c.ssl

theorem Busy.extended {connected : Bool} {extra : List HttpRequest} (busy : Busy c connected)
    (extended : Extended p c d extra) : Busy d connected := by
  obtain ⟨old, current, connections, recorded, carries⟩ := busy.connection
  refine ⟨?_, old, current, ?_, ?_, ?_⟩
  · rw [extended.requestQueue]
    exact List.append_ne_nil_of_left_ne_nil busy.queue extra
  · rw [extended.journal]
    exact connections
  · rw [extended.journal]
    exact recorded.queued extra
  · cases connected with
    | false => exact carries
    | true =>
        rw [Carries, extended.journal, extended.response]
        exact carries

theorem Polling.extended {extra : List HttpRequest} (polling : Polling c)
    (extended : Extended p c d extra) : Polling d := by
  obtain ⟨request, rest, queue, longPoll⟩ := polling
  refine ⟨request, rest ++ extra, ?_, longPoll⟩
  rw [extended.requestQueue, queue, List.cons_append]

theorem Promises.extended {extra : List HttpRequest} {ssl : SslPhase} (promises : Promises c ssl)
    (extended : Extended p c d extra) : Promises d ssl := by
  cases ssl with
  | disconnected =>
      rw [Promises, extended.journal]
      exact Recorded.queued promises extra
  | connecting => exact Busy.extended promises extended
  | connected => exact Busy.extended promises extended
  | disconnecting connected => exact ⟨promises.1.extended extended, promises.2.extended extended⟩
  | failed connected => exact Busy.extended promises extended

theorem Sound.extended {extra : List HttpRequest} (sound : Sound c)
    (extended : Extended p c d extra) : Sound d := by
  constructor
  · rw [extended.journal, extended.requestQueue, ← List.append_assoc, ← sound.fifo]
  · rw [extended.ssl]
    exact sound.promises.extended extended

theorem Sound.queues (sound : Sound c) (queues : Queues timerFails p c d) : Sound d := by
  obtain ⟨extra, extended⟩ := exists_extended queues
  exact sound.extended extended

theorem Sound.waits (sound : Sound c) (waits : Nat) : Sound { c with waits } := by
  have same : Extended (fun _ => True) c { c with waits } [] :=
    ⟨(List.append_nil _).symm, by simp, rfl, rfl, nofun⟩
  exact sound.extended same

theorem Sound.pushQueue (sound : Sound c) : Sound (c.pushQueue timerFails) :=
  sound.queues (p := fun _ => True) (.pushQueue .refl)

/-! ## The operations -/

/-- Changing the last of the connections. -/
theorem modifyConnection_eq (c : HttpsClient) {old : List Connection} {current : Connection}
    (connections : c.journal.connections = old ++ [current]) (f : Connection → Connection) :
    c.modifyConnection f =
      { c with journal := { c.journal with connections := old ++ [f current] } } := by
  have last : c.journal.current = old.length := by simp [Journal.current, connections]
  have changed : (old ++ [current]).modify old.length f = old ++ [f current] := by
    rw [List.modify_eq_take_cons_drop (by simp)]
    simp
  unfold modifyConnection
  rw [last, connections, changed]

section Events

variable {β : Type} {s t : Owned β} {handler : HttpClientHandler β}

theorem sound_handleTcpClientConnect (sound : Sound s.client)
    (connecting : s.client.ssl = .connecting) : Sound (Owned.handleTcpClientConnect s).client := by
  have busy : Busy s.client false := by
    have promises := sound.promises
    rwa [connecting] at promises
  obtain ⟨old, current, connections, recorded, rfl⟩ := busy.connection
  have queue : s.client.requestQueue.isEmpty = false := by simpa using busy.queue
  have after : (Owned.handleTcpClientConnect s).client =
      { s.client with
        ssl := .connected
        response := []
        journal := { s.client.journal with
          connections := old ++ [{ sent := [s.client.journal.departed.length] }] } } := by
    unfold Owned.handleTcpClientConnect sendFront
    simp only [queue, Bool.not_false, if_true]
    exact modifyConnection_eq { s.client with ssl := .connected, response := [] } connections _
  rw [after]
  exact ⟨sound.fifo, busy.queue, old, _, rfl, { recorded with }, rfl, rfl⟩

theorem sound_handleTcpClientReceivedData (sound : Sound s.client) (data : Str)
    (receives : Owned.receives s.client.ssl = true) :
    Sound (Owned.handleTcpClientReceivedData data s).client := by
  have busy : Busy s.client true := by
    have promises := sound.promises
    revert receives promises
    cases s.client.ssl with
    | disconnected => nofun
    | connecting => nofun
    | connected => exact fun _ busy => busy
    | disconnecting connected => cases connected <;> [nofun; exact fun _ both => both.1]
    | failed connected => cases connected <;> [nofun; exact fun _ busy => busy]
  obtain ⟨old, current, connections, recorded, sent, received⟩ := busy.connection
  have after : (Owned.handleTcpClientReceivedData data s).client =
      { s.client with
        response := s.client.response ++ data
        journal := { s.client.journal with
          connections :=
            old ++ [{ current with received := current.received ++ data }] } } :=
    modifyConnection_eq { s.client with response := s.client.response ++ data } connections _
  have busy' : Busy (Owned.handleTcpClientReceivedData data s).client true := by
    rw [after]
    exact ⟨busy.queue, old, _, rfl, { recorded with }, sent, congrArg (· ++ data) received⟩
  have same : (Owned.handleTcpClientReceivedData data s).client.ssl = s.client.ssl := by rw [after]
  refine ⟨by rw [after]; exact sound.fifo, ?_⟩
  rw [same]
  have promises := sound.promises
  revert receives promises
  cases s.client.ssl with
  | disconnected => nofun
  | connecting => nofun
  | connected => exact fun _ _ => busy'
  | disconnecting connected =>
      cases connected with
      | false => nofun
      | true =>
          intro _ promises
          refine ⟨busy', ?_⟩
          rw [after]
          exact promises.2
  | failed connected => cases connected <;> [nofun; exact fun _ _ => busy']

/-- What is left once the front has been popped. -/
theorem sound_popFront (next : Nat) {byPeer : Bool}
    (recorded : Recorded c.journal.connections next c.journal)
    (within : next ≤ c.journal.departed.length + 1)
    (fifo : c.journal.queued = c.journal.departed.map Departure.request ++ c.requestQueue)
    (disconnected : c.ssl = .disconnected)
    (allowed : ∀ request rest, c.requestQueue = request :: rest → request.longPoll = false →
      byPeer = true ∧ ∃ connection, c.journal.connections[c.journal.current]? = some connection ∧
        c.journal.departed.length ∈ connection.sent)
    (popped : c.popFront byPeer = .ok d) (response : Str) : Sound { d with response } := by
  unfold popFront at popped
  split at popped
  · cases popped
  · rename_i request rest queue
    cases popped
    constructor
    · simp [fifo, queue]
    · simp only [disconnected]
      refine { recorded with departed := fun i d at_i message => ?_, past := fun a member => ?_ }
      · rcases Nat.lt_or_ge i c.journal.departed.length with old | new
        · rw [List.getElem?_append_left old] at at_i
          exact recorded.departed i d at_i message
        · rw [List.getElem?_append_right new, List.getElem?_singleton] at at_i
          split at at_i
          · rename_i first
            cases at_i
            have here : i = c.journal.departed.length := by omega
            subst here
            exact allowed request rest queue message
          · cases at_i
      · have before := recorded.past a member
        simp only [List.length_append, List.length_singleton]
        omega

/-- What is left once the front has been answered. -/
theorem recorded_answer {old : List Connection} {current : Connection} {request : HttpRequest}
    {rest : List HttpRequest} (connections : c.journal.connections = old ++ [current])
    (recorded : Recorded old c.journal.departed.length c.journal)
    (fifo : c.journal.queued = c.journal.departed.map Departure.request ++ c.requestQueue)
    (queue : c.requestQueue = request :: rest) (carries : Carries c current true) :
    Recorded (c.answer request).journal.connections (c.journal.departed.length + 1)
      (c.answer request).journal := by
  have here : c.journal.connections[c.journal.current]? = some current := by
    simp [Journal.current, connections]
  have recordedAll := recorded.append [current]
  rw [← connections] at recordedAll
  constructor
  · exact recordedAll.departed
  · intro a member
    rcases List.mem_append.mp member with before | now
    · exact recordedAll.answered a before
    · obtain rfl := List.mem_singleton.mp now
      exact ⟨current, here, carries⟩
  · intro a member
    rcases List.mem_append.mp member with before | now
    · exact recordedAll.asked a before
    · obtain rfl := List.mem_singleton.mp now
      simp [answer, fifo, queue]
  · intro a member
    rcases List.mem_append.mp member with before | now
    · exact Nat.lt_succ_of_lt (recordedAll.past a before)
    · obtain rfl := List.mem_singleton.mp now
      exact Nat.lt_succ_self _
  · simp only [answer, List.map_append, List.map_cons, List.map_nil]
    refine List.nodup_append.mpr ⟨recordedAll.once, by simp, fun i before j now => ?_⟩
    obtain ⟨a, member, rfl⟩ := List.mem_map.mp before
    obtain rfl := List.mem_singleton.mp now
    exact Nat.ne_of_lt (recordedAll.past a member)

theorem sound_handleTcpClientDisconnect (polite : Polite timerFails handler)
    {closedByUser : Bool} (busy : Busy s.client true)
    (fifo : s.client.journal.queued =
      s.client.journal.departed.map Departure.request ++ s.client.requestQueue)
    (polling : closedByUser = true → Polling s.client)
    (returned : Owned.handleTcpClientDisconnect timerFails handler closedByUser s = .ok t) :
    Sound t.client := by
  obtain ⟨old, current, connections, recorded, carries⟩ := busy.connection
  unfold Owned.handleTcpClientDisconnect at returned
  dsimp only at returned
  cases closedByUser with
  | true =>
      obtain ⟨_, same, returned⟩ := bind_eq_ok.mp returned
      obtain ⟨c, popped, pushed⟩ := bind_eq_ok.mp returned
      cases pushed
      cases same
      have recordedAll := recorded.append [current]
      rw [← connections] at recordedAll
      refine Sound.pushQueue (sound_popFront (c := { s.client with ssl := .disconnected }) _
        recordedAll (Nat.le_succ _) fifo rfl ?_ popped [])
      intro request rest queue message
      obtain ⟨_, _, queue', longPoll⟩ := polling rfl
      cases queue.symm.trans queue'
      cases message.symm.trans longPoll
  | false =>
      obtain ⟨request, rest, queue⟩ := List.exists_cons_of_ne_nil busy.queue
      obtain ⟨_, asked, returned⟩ := bind_eq_ok.mp returned
      obtain ⟨answered, handled, returned⟩ := bind_eq_ok.mp returned
      obtain ⟨c, popped, pushed⟩ := bind_eq_ok.mp returned
      cases pushed
      simp only [front, queue] at asked
      cases asked
      obtain ⟨extra, extended⟩ := exists_extended (polite.response handled)
      have recordedAll := (recorded_answer connections recorded fifo queue carries).queued extra
      have journal : answered.client.journal =
          { (s.client.answer request).journal with queued := s.client.journal.queued ++ extra } :=
        extended.journal
      have front : answered.client.requestQueue = s.client.requestQueue ++ extra :=
        extended.requestQueue
      refine Sound.pushQueue (sound_popFront (s.client.journal.departed.length + 1) ?_ ?_ ?_
        extended.ssl ?_ popped [])
      · rw [journal]
        exact recordedAll
      · rw [journal]
        exact Nat.le_refl _
      · rw [journal, front, ← List.append_assoc]
        exact congrArg (· ++ extra) fifo
      · intro _ _ _ _
        refine ⟨rfl, current, ?_, ?_⟩
        · rw [journal]
          simp [answer, Journal.current, connections]
        · rw [journal]
          have sent := carries.1
          simp [answer, sent]

theorem sound_handleTcpClientError (polite : Polite timerFails handler)
    {operationAborted : Bool} (busy : Busy s.client false)
    (fifo : s.client.journal.queued =
      s.client.journal.departed.map Departure.request ++ s.client.requestQueue)
    (polling : operationAborted = true → Polling s.client)
    (returned : Owned.handleTcpClientError timerFails handler operationAborted s = .ok t) :
    Sound t.client := by
  obtain ⟨old, current, connections, recorded, _⟩ := busy.connection
  have recordedAll := recorded.append [current]
  rw [← connections] at recordedAll
  unfold Owned.handleTcpClientError at returned
  dsimp only at returned
  split at returned
  · rename_i aborted
    obtain ⟨c, popped, pushed⟩ := bind_eq_ok.mp returned
    cases pushed
    refine Sound.pushQueue (sound_popFront
      (c := { s.client with ssl := .disconnected, response := [] }) _ recordedAll
      (Nat.le_succ _) fifo rfl ?_ popped c.response)
    intro request rest queue message
    obtain ⟨_, _, queue', longPoll⟩ := polling aborted
    cases queue.symm.trans queue'
    cases message.symm.trans longPoll
  · cases returned
    have sound : Sound { s.client with ssl := .disconnected, response := [] } := ⟨fifo, recordedAll⟩
    exact sound.queues
      (polite.error ⟨{ s.client with ssl := .disconnected, response := [] }, s.owner⟩)

/-- A connection is given up only for a long poll. -/
theorem Sound.disconnect (sound : Sound c) (polling : Polling c) : Sound c.disconnect := by
  have promises := sound.promises
  unfold HttpsClient.disconnect
  split
  · rename_i connecting
    rw [connecting] at promises
    exact ⟨sound.fifo, ⟨promises.queue, promises.connection⟩, polling⟩
  · rename_i connected
    rw [connected] at promises
    exact ⟨sound.fifo, ⟨promises.queue, promises.connection⟩, polling⟩
  · exact sound

theorem Sound.connect (sound : Sound c) (accepted : Bool) (nonempty : c.requestQueue ≠ []) :
    Sound (c.connect accepted) := by
  have promises := sound.promises
  unfold HttpsClient.connect
  split
  · rename_i idle
    rw [idle.1] at promises
    exact ⟨sound.fifo, nonempty, c.journal.connections, {}, rfl, { promises with }, rfl⟩
  · exact sound

theorem sound_handleTimerEvent (polite : Polite timerFails handler) (sound : Sound s.client)
    {accepted : Bool} (returned : Owned.handleTimerEvent handler accepted s = .ok t) :
    Sound t.client := by
  have waited := sound.waits (s.client.waits - 1)
  unfold Owned.handleTimerEvent at returned
  dsimp only at returned
  split at returned
  · cases returned
    exact waited
  · split at returned
    · obtain ⟨request, asked, returned⟩ := bind_eq_ok.mp returned
      cases returned
      split
      · rename_i silent
        refine waited.disconnect ?_
        unfold front at asked
        split at asked
        · cases asked
        · rename_i queue
          cases asked
          exact ⟨_, _, queue, silent.1⟩
      · exact waited
    · split at returned
      · cases returned
        exact waited.queues
          (polite.idle ⟨{ s.client with waits := s.client.waits - 1 }, s.owner⟩)
      · rename_i nonempty
        cases returned
        exact waited.connect accepted fun empty => nonempty (List.isEmpty_iff.mpr empty)

theorem ok_of_toOption {x : Except Failure (Owned β)} (returned : x.toOption = some t) :
    x = .ok t := by
  cases x with
  | error e => cases returned
  | ok u => exact congrArg Except.ok (Option.some.inj returned)

theorem sound_handleEnd (polite : Polite timerFails handler) (sound : Sound s.client)
    (returned : Owned.handleEnd timerFails handler s = some t) : Sound t.client := by
  have promises := sound.promises
  unfold Owned.handleEnd at returned
  split at returned
  · rename_i ssl
    rw [ssl] at promises
    exact sound_handleTcpClientDisconnect polite promises.1 sound.fifo (fun _ => promises.2)
      (ok_of_toOption returned)
  · rename_i ssl
    rw [ssl] at promises
    exact sound_handleTcpClientError polite promises.1 sound.fifo (fun _ => promises.2)
      (ok_of_toOption returned)
  · rename_i ssl
    rw [ssl] at promises
    have returned := ok_of_toOption returned
    exact sound_handleTcpClientDisconnect polite promises sound.fifo
      (fun impossible => by cases impossible) returned
  · rename_i ssl
    rw [ssl] at promises
    have returned := ok_of_toOption returned
    exact sound_handleTcpClientError polite promises sound.fifo
      (fun impossible => by cases impossible) returned
  · cases returned

theorem sound_step (polite : Polite timerFails handler) {e : Owned.Event} (sound : Sound s.client)
    (returned : Owned.step timerFails handler s e = some t) : Sound t.client := by
  cases e with
  | call call =>
      cases returned
      cases call with
      | sendRequest request =>
          exact sound.queues (p := fun _ => True) (.sendRequest _ .refl trivial)
      | pushQueue => exact sound.pushQueue
  | timer accepted =>
      simp only [Owned.step] at returned
      split at returned
      · cases returned
      · exact sound_handleTimerEvent polite sound (ok_of_toOption returned)
  | connected =>
      simp only [Owned.step] at returned
      split at returned
      · rename_i connecting
        cases returned
        exact sound_handleTcpClientConnect sound connecting
      · cases returned
  | breaks =>
      have promises := sound.promises
      simp only [Owned.step] at returned
      split at returned
      · rename_i connecting
        rw [connecting] at promises
        cases returned
        exact ⟨sound.fifo, promises.queue, promises.connection⟩
      · rename_i connected
        rw [connected] at promises
        cases returned
        exact ⟨sound.fifo, promises.queue, promises.connection⟩
      · cases returned
  | data data =>
      simp only [Owned.step] at returned
      split at returned
      · rename_i receives
        cases returned
        exact sound_handleTcpClientReceivedData sound data receives
      · cases returned
  | ends => exact sound_handleEnd polite sound returned

theorem sound_run (polite : Polite timerFails handler) {es : List Owned.Event}
    (run : Run (Owned.step timerFails handler) s es t) (sound : Sound s.client) :
    Sound t.client := by
  induction run with
  | nil => exact sound
  | cons first _ ih => exact ih (sound_step polite sound first)

theorem sound_init : Sound ({} : HttpsClient) :=
  ⟨rfl, nofun, nofun, nofun, nofun, List.nodup_nil⟩

end Events

theorem Busy.recorded {connected : Bool} (busy : Busy c connected) :
    Recorded c.journal.connections c.journal.departed.length c.journal := by
  obtain ⟨old, current, connections, recorded, _⟩ := busy.connection
  have recordedAll := recorded.append [current]
  rwa [← connections] at recordedAll

theorem Sound.recorded (sound : Sound c) :
    Recorded c.journal.connections c.journal.departed.length c.journal := by
  have promises := sound.promises
  revert promises
  cases c.ssl with
  | disconnected => exact id
  | connecting => exact Busy.recorded
  | connected => exact Busy.recorded
  | disconnecting connected => exact fun promises => promises.1.recorded
  | failed connected => exact Busy.recorded

/-- Requests leave the queue in the order they were queued, all but long polls only at the end
by the peer of a connection on which they have been sent; a response is what has been
received on the one connection on which its request has been sent, and each request is
answered at most once. -/
theorem queue_loses_nothing {β : Type} {timerFails : Nat → Bool} {handler : HttpClientHandler β}
    (polite : Polite timerFails handler) {owner : β} {es : List Owned.Event} {t : Owned β}
    (run : Run (Owned.step timerFails handler) ⟨{}, owner⟩ es t) :
    t.client.journal.queued =
        t.client.journal.departed.map Departure.request ++ t.client.requestQueue ∧
      (∀ (i : Nat) (d : Departure), t.client.journal.departed[i]? = some d →
        d.request.longPoll = false →
        d.byPeer = true ∧ ∃ connection : Connection,
          t.client.journal.connections[d.connection]? = some connection ∧ i ∈ connection.sent) ∧
      (∀ a ∈ t.client.journal.answers, t.client.journal.queued[a.place]? = some a.request ∧
        ∃ connection : Connection, t.client.journal.connections[a.connection]? = some connection ∧
          connection.sent = [a.place] ∧ connection.received = a.response) ∧
      (t.client.journal.answers.map Answer.place).Nodup := by
  have sound := sound_run polite run sound_init
  have recorded := sound.recorded
  refine ⟨sound.fifo, recorded.departed, fun a member => ?_, recorded.once⟩
  exact ⟨recorded.asked a member, recorded.answered a member⟩

/-- An owner that does nothing. -/
def idleHandler : HttpClientHandler Unit where
  handleHttpClientError s := s
  handleHttpClientIdle s := s
  handleHttpClientResponse _ _ s := .ok s

theorem polite_idleHandler {timerFails : Nat → Bool} : Polite timerFails idleHandler where
  error _ := .refl
  idle _ := .refl
  response returned := by
    cases returned
    exact .refl

/-- A request that is queued, sent and answered. -/
theorem queue_loses_nothing_answered :
    ∃ t : Owned Unit,
      t.client.journal.queued =
          t.client.journal.departed.map Departure.request ++ t.client.requestQueue ∧
        (∀ (i : Nat) (d : Departure), t.client.journal.departed[i]? = some d →
          d.request.longPoll = false →
          d.byPeer = true ∧ ∃ connection : Connection,
            t.client.journal.connections[d.connection]? = some connection ∧
              i ∈ connection.sent) ∧
        (∀ a ∈ t.client.journal.answers, t.client.journal.queued[a.place]? = some a.request ∧
          ∃ connection : Connection, t.client.journal.connections[a.connection]? = some connection ∧
            connection.sent = [a.place] ∧ connection.received = a.response) ∧
        (t.client.journal.answers.map Answer.place).Nodup := by
  have exists_run : ∃ t, Run (Owned.step (fun _ => false) idleHandler) ⟨{}, ()⟩
      [.call (.sendRequest ⟨[], [], false, 0⟩), .timer true, .connected, .data ['x'], .breaks,
        .ends] t :=
    ⟨_, .of_foldlM rfl⟩
  obtain ⟨t, run⟩ := exists_run
  exact ⟨t, queue_loses_nothing polite_idleHandler run⟩

end HttpsClient

end GpsInformer
