import GpsInformer.HttpsQueue

/-!
# `HttpsClient::stop`

From the attempt to connect to the end of the connection the front of the queue is the request
in flight, and the handlers of the end take it off unasked.  `stop` may empty the queue in
between: the end of the connection it closes is reported later.

`never_touches_iff` says when that goes wrong.  The owner may call any public function at any
time, and reacts to a notification by a list of such calls, chosen by the event.
-/

namespace GpsInformer

open Lib

namespace HttpsClient

/-- `stop`; `_handler` is null only during `_client.disconnect()`, which notifies nobody. -/
def stop (clear : Bool) (c : HttpsClient) : HttpsClient :=
  let c := c.disconnect
  if clear then { c with requestQueue := [], response := [] } else c

/-- A call of a public function. -/
inductive Operation where
  | sendRequest (request : HttpRequest)
  | pushQueue
  | stop (clear : Bool)
  deriving DecidableEq, Repr

variable (timerFails : Nat → Bool)

def operate (c : HttpsClient) : Operation → HttpsClient
  | .sendRequest request => c.sendRequest timerFails request
  | .pushQueue => c.pushQueue timerFails
  | .stop clear => c.stop clear

/-- An owner that reacts to the next notification by some calls. -/
def reacting : HttpClientHandler (List Operation) where
  handleHttpClientError s := { s with client := s.owner.foldl (operate timerFails) s.client }
  handleHttpClientIdle s := { s with client := s.owner.foldl (operate timerFails) s.client }
  handleHttpClientResponse _ _ s :=
    .ok { s with client := s.owner.foldl (operate timerFails) s.client }

/-- A client, and what has been called since the connection in progress was opened. -/
structure Watched where
  client : HttpsClient := {}
  since : List Operation := []

namespace Watched

inductive Event where
  | operate (operation : Operation)
  /-- a wait of `_timer` ends; `accepted` if TLS could be set up for a connection -/
  | timer (accepted : Bool) (reaction : List Operation)
  | connected
  /-- `_client` notices a failure -/
  | breaks
  | data (data : Str)
  /-- the connection is over -/
  | ends (reaction : List Operation)
  deriving DecidableEq, Repr

/-- What a handler returns or raises; `none` if the event cannot happen. -/
def handle (c : HttpsClient) : Event → Option (Except Failure HttpsClient)
  | .operate operation => some (.ok (c.operate timerFails operation))
  | .timer accepted reaction =>
      if c.waits = 0 then none
      else some ((Owned.handleTimerEvent (reacting timerFails) accepted ⟨c, reaction⟩).map
        Owned.client)
  | .connected =>
      if c.ssl = .connecting then some (.ok (Owned.handleTcpClientConnect ⟨c, ()⟩).client) else none
  | .breaks =>
      match c.ssl with
      | .connecting => some (.ok { c with ssl := .failed false })
      | .connected => some (.ok { c with ssl := .failed true })
      | _ => none
  | .data data =>
      if Owned.receives c.ssl then
        some (.ok (Owned.handleTcpClientReceivedData data ⟨c, ()⟩).client)
      else none
  | .ends reaction =>
      let s : Owned (List Operation) := ⟨c, reaction⟩
      let handler := reacting timerFails
      match c.ssl with
      | .disconnecting true =>
          some ((Owned.handleTcpClientDisconnect timerFails handler true s).map Owned.client)
      | .disconnecting false =>
          some ((Owned.handleTcpClientError timerFails handler true s).map Owned.client)
      | .failed true =>
          some ((Owned.handleTcpClientDisconnect timerFails handler false s).map Owned.client)
      | .failed false =>
          some ((Owned.handleTcpClientError timerFails handler false s).map Owned.client)
      | _ => none

/-- The calls during a connection in progress, after an event. -/
def called (s : Watched) : Event → List Operation
  | .operate operation => if s.client.ssl = .disconnected then [] else s.since ++ [operation]
  | .ends _ => []
  | .timer _ _ | .connected | .breaks | .data _ => s.since

/-- One event; an exception that leaves a handler ends the run. -/
def step (s : Watched) (e : Event) : Option Watched :=
  match handle timerFails s.client e with
  | some (.ok c) => some { client := c, since := s.called e }
  | _ => none

/-- A handler calls `front` or `pop_front` while the queue is empty. -/
def Touches (s : Watched) (e : Event) : Prop :=
  handle timerFails s.client e = some (.error .emptyDeque)

end Watched

/-- The calls empty the queue and queue nothing after that. -/
def clears (calls : List Operation) : Bool :=
  calls.foldl (fun cleared call =>
    match call with
    | .sendRequest _ => false
    | .stop true => true
    | .pushQueue | .stop false => cleared) false

/-- The end of a connection is reported by a handler that takes the front off, but the queue
has been cleared since the connection was opened, or by the owner when it is given the
response. -/
def Watched.Bereft (s : Watched) : Watched.Event → Prop
  | .ends reaction =>
      match s.client.ssl with
      | .disconnecting _ => clears s.since = true
      | .failed true => clears s.since = true ∨ clears reaction = true
      | _ => False
  | _ => False

/-! ## The queue of a connection in progress -/

variable {timerFails : Nat → Bool} {c d : HttpsClient}

theorem clears_concat (calls : List Operation) (call : Operation) :
    clears (calls ++ [call]) =
      match call with
      | .sendRequest _ => false
      | .stop true => true
      | .pushQueue | .stop false => clears calls := by
  unfold clears
  rw [List.foldl_append]
  rfl

@[simp] theorem requestQueue_disconnect : c.disconnect.requestQueue = c.requestQueue := by
  unfold disconnect
  split <;> rfl

theorem ssl_disconnect_eq_disconnected_iff :
    c.disconnect.ssl = .disconnected ↔ c.ssl = .disconnected := by
  unfold disconnect
  split
  · rename_i connecting
    exact iff_of_false nofun (by rw [connecting]; exact nofun)
  · rename_i connected
    exact iff_of_false nofun (by rw [connected]; exact nofun)
  · exact Iff.rfl

/-- A client that has called `disconnect` is not connecting or connected. -/
theorem ssl_disconnect_closed :
    ¬ (c.disconnect.ssl = .connecting ∨ c.disconnect.ssl = .connected) := by
  unfold disconnect
  split
  · exact not_or.mpr ⟨nofun, nofun⟩
  · exact not_or.mpr ⟨nofun, nofun⟩
  · rename_i notConnecting notConnected
    exact not_or.mpr ⟨notConnecting, notConnected⟩

theorem stop_ssl (clear : Bool) : (c.stop clear).ssl = c.disconnect.ssl := by
  unfold stop
  dsimp only
  split <;> rfl

theorem operate_ssl_eq_disconnected_iff (call : Operation) :
    (c.operate timerFails call).ssl = .disconnected ↔ c.ssl = .disconnected := by
  cases call with
  | sendRequest request => simp [operate, sendRequest]
  | pushQueue => simp [operate]
  | stop clear =>
      show (c.stop clear).ssl = _ ↔ _
      rw [stop_ssl]
      exact ssl_disconnect_eq_disconnected_iff

/-- The reaction to a notification does not open a connection. -/
theorem foldl_operate_ssl (free : c.ssl = .disconnected) (calls : List Operation) :
    (calls.foldl (operate timerFails) c).ssl = .disconnected := by
  induction calls generalizing c with
  | nil => exact free
  | cons call calls ih => exact ih ((operate_ssl_eq_disconnected_iff call).mpr free)

/-- One more call. -/
theorem operate_requestQueue_eq_nil_iff {calls : List Operation} (call : Operation)
    (before : c.requestQueue = [] ↔ clears calls = true) :
    (c.operate timerFails call).requestQueue = [] ↔ clears (calls ++ [call]) = true := by
  rw [clears_concat]
  cases call with
  | sendRequest request => simp [operate, sendRequest]
  | pushQueue => simp [operate, before]
  | stop clear =>
      cases clear with
      | true => exact iff_of_true rfl rfl
      | false => simp [operate, stop, before]

/-- The calls of a reaction leave the queue empty exactly if they clear it. -/
theorem foldl_operate_requestQueue_eq_nil_iff (nonempty : c.requestQueue ≠ [])
    (calls : List Operation) :
    (calls.foldl (operate timerFails) c).requestQueue = [] ↔ clears calls = true := by
  induction calls using List.reverseRecOn with
  | nil => exact iff_of_false nonempty nofun
  | append_singleton calls call ih =>
      rw [List.foldl_append]
      exact operate_requestQueue_eq_nil_iff call ih

namespace Watched

variable {s t : Watched} {e : Event}

/-- What the calls during a connection in progress say about the queue. -/
structure InFlight (s : Watched) : Prop where
  since : s.client.ssl = .disconnected → s.since = []
  live : s.client.ssl = .connecting ∨ s.client.ssl = .connected → s.client.requestQueue ≠ []
  flight : s.client.ssl ≠ .disconnected →
    (s.client.requestQueue = [] ↔ clears s.since = true)

theorem InFlight.operate (inFlight : InFlight s) (operation : Operation) :
    InFlight ⟨s.client.operate timerFails operation, s.called (.operate operation)⟩ := by
  have kept := @operate_ssl_eq_disconnected_iff timerFails s.client operation
  constructor
  · intro free
    exact if_pos (kept.mp free)
  · intro live
    cases operation with
    | sendRequest request =>
        show (HttpsClient.sendRequest timerFails request s.client).requestQueue ≠ []
        simp [sendRequest]
    | pushQueue =>
        simp only [HttpsClient.operate, pushQueue_ssl, pushQueue_requestQueue] at live ⊢
        exact inFlight.live live
    | stop clear =>
        simp only [HttpsClient.operate, stop_ssl] at live
        exact absurd live ssl_disconnect_closed
  · intro busy
    have busy' : s.client.ssl ≠ .disconnected := fun free => busy (kept.mpr free)
    simp only [called, if_neg busy']
    exact operate_requestQueue_eq_nil_iff operation (inFlight.flight busy')

/-- A client without a connection. -/
theorem InFlight.idle (free : c.ssl = .disconnected) : InFlight ⟨c, []⟩ := by
  refine ⟨fun _ => rfl, fun live => ?_, fun busy => absurd free busy⟩
  rw [show c.ssl = _ from free] at live
  rcases live with connecting | connected
  · cases connecting
  · cases connected

/-! ## The end of a connection -/

/-- What a handler that takes the front off comes to. -/
inductive Popped (empty : Prop) : Except Failure HttpsClient → Prop
  | touched : empty → Popped empty (.error .emptyDeque)
  | popped (d : HttpsClient) : ¬ empty → d.ssl = .disconnected → Popped empty (.ok d)

theorem Popped.touches_iff {empty : Prop} {result : Except Failure HttpsClient}
    (outcome : Popped empty result) : result = .error .emptyDeque ↔ empty := by
  cases outcome with
  | touched met => exact iff_of_true rfl met
  | popped _ not _ => exact iff_of_false nofun not

theorem Popped.congr {empty empty' : Prop} {result : Except Failure HttpsClient}
    (outcome : Popped empty result) (same : empty ↔ empty') : Popped empty' result := by
  cases outcome with
  | touched met => exact .touched (same.mp met)
  | popped d not free => exact .popped d (fun met => not (same.mpr met)) free

/-- `pop_front` and what follows it. -/
theorem popped_popFront (byPeer : Bool) (owner : List Operation) (free : c.ssl = .disconnected)
    {f : HttpsClient → HttpsClient} (kept : ∀ d, (f d).ssl = d.ssl) :
    Popped (c.requestQueue = []) ((do
      let d ← c.popFront byPeer
      return Owned.mk (f d) owner).map Owned.client) := by
  unfold popFront
  cases queue : c.requestQueue with
  | nil => exact .touched rfl
  | cons request rest =>
      refine .popped _ nofun ?_
      rw [kept]
      exact free

/-- The user has closed the connection. -/
theorem popped_byUser (reaction : List Operation) :
    Popped (c.requestQueue = []) ((Owned.handleTcpClientDisconnect timerFails
      (reacting timerFails) true ⟨c, reaction⟩).map Owned.client) := by
  have kept : ∀ d : HttpsClient, ({ d with response := [] }.pushQueue timerFails).ssl = d.ssl :=
    fun d => pushQueue_ssl
  exact @popped_popFront { c with ssl := .disconnected } false reaction rfl _ kept

/-- The user has closed the connection before it was up. -/
theorem popped_aborted (reaction : List Operation) :
    Popped (c.requestQueue = []) ((Owned.handleTcpClientError timerFails
      (reacting timerFails) true ⟨c, reaction⟩).map Owned.client) := by
  have kept : ∀ d : HttpsClient, (d.pushQueue timerFails).ssl = d.ssl := fun d => pushQueue_ssl
  exact @popped_popFront { c with ssl := .disconnected, response := [] } false reaction rfl _ kept

/-- The peer has closed the connection: the owner is given the front before it is taken off. -/
theorem popped_byPeer (reaction : List Operation) :
    Popped (c.requestQueue = [] ∨ clears reaction = true) ((Owned.handleTcpClientDisconnect
      timerFails (reacting timerFails) false ⟨c, reaction⟩).map Owned.client) := by
  have kept : ∀ d : HttpsClient, ({ d with response := [] }.pushQueue timerFails).ssl = d.ssl :=
    fun d => pushQueue_ssl
  unfold Owned.handleTcpClientDisconnect front
  cases queue : c.requestQueue with
  | nil =>
      simp only [queue]
      exact .touched (Or.inl trivial)
  | cons request rest =>
      have nonempty : ({ c with ssl := .disconnected }.answer request).requestQueue ≠ [] := by
        simp [answer, queue]
      have answered := @foldl_operate_requestQueue_eq_nil_iff timerFails _ nonempty reaction
      have free := @foldl_operate_ssl timerFails
        ({ c with ssl := .disconnected }.answer request) rfl reaction
      have never : request :: rest ≠ [] := List.cons_ne_nil request rest
      have popped := (popped_popFront true reaction free kept).congr
        (answered.trans (or_iff_right never).symm)
      simp only [queue] at popped ⊢
      exact popped

theorem InFlight.popped_ends (inFlight : InFlight s) {reaction : List Operation}
    {result : Except Failure HttpsClient}
    (handled : handle timerFails s.client (.ends reaction) = some result) :
    Popped (s.Bereft (.ends reaction)) result := by
  have flight := inFlight.flight
  unfold handle at handled
  unfold Bereft
  dsimp only at handled ⊢
  split at handled
  · rename_i closing
    rw [closing] at flight ⊢
    cases handled
    exact (popped_byUser reaction).congr (flight nofun)
  · rename_i closing
    rw [closing] at flight ⊢
    cases handled
    exact (popped_aborted reaction).congr (flight nofun)
  · rename_i failed
    rw [failed] at flight ⊢
    cases handled
    exact (popped_byPeer reaction).congr (or_congr_left (flight nofun))
  · rename_i failed
    rw [failed]
    cases handled
    exact .popped _ id (foldl_operate_ssl rfl reaction)
  · cases handled

/-! ## Steps and runs -/

theorem InFlight.waits (inFlight : InFlight s) (waits : Nat) :
    InFlight ⟨{ s.client with waits }, s.since⟩ :=
  ⟨inFlight.since, inFlight.live, inFlight.flight⟩

/-- The client closes the connection. -/
theorem InFlight.disconnect (inFlight : InFlight s) : InFlight ⟨s.client.disconnect, s.since⟩ := by
  refine ⟨fun free => ?_, fun live => absurd live ssl_disconnect_closed, fun busy => ?_⟩
  · exact inFlight.since (ssl_disconnect_eq_disconnected_iff.mp free)
  · rw [requestQueue_disconnect]
    exact inFlight.flight fun free => busy (ssl_disconnect_eq_disconnected_iff.mpr free)

theorem InFlight.connect (inFlight : InFlight s) (accepted : Bool)
    (nonempty : s.client.requestQueue ≠ []) : InFlight ⟨s.client.connect accepted, s.since⟩ := by
  unfold HttpsClient.connect
  split
  · rename_i opened
    refine ⟨nofun, fun _ => nonempty, fun _ => ?_⟩
    show _ ↔ clears s.since = true
    rw [inFlight.since opened.1]
    exact iff_of_false nonempty nofun
  · exact inFlight

/-- The timer finds the queue empty only between two connections. -/
theorem InFlight.timer (inFlight : InFlight s) (accepted : Bool) (reaction : List Operation) :
    ∃ t, Owned.handleTimerEvent (reacting timerFails) accepted ⟨s.client, reaction⟩ = .ok t ∧
      InFlight ⟨t.client, s.since⟩ := by
  have waited := inFlight.waits (s.client.waits - 1)
  unfold Owned.handleTimerEvent
  dsimp only
  split
  · exact ⟨_, rfl, waited⟩
  · rename_i open'
    split
    · rename_i busy
      have live : s.client.ssl = .connecting ∨ s.client.ssl = .connected := by
        simpa [isConnecting, isConnected] using busy
      obtain ⟨request, rest, queue⟩ := List.exists_cons_of_ne_nil (inFlight.live live)
      simp only [front, queue]
      refine ⟨_, rfl, ?_⟩
      split
      · rw [← queue]
        exact waited.disconnect
      · rw [← queue]
        exact waited
    · rename_i idle
      have free : s.client.ssl = .disconnected := by
        cases ssl : s.client.ssl <;> simp_all [isDisconnecting, isConnecting, isConnected]
      split
      · refine ⟨_, rfl, ?_⟩
        rw [inFlight.since free]
        exact .idle (@foldl_operate_ssl timerFails
          { s.client with waits := s.client.waits - 1 } free reaction)
      · rename_i nonempty
        exact ⟨_, rfl, waited.connect accepted fun empty => nonempty (List.isEmpty_iff.mpr empty)⟩

theorem InFlight.connected (inFlight : InFlight s) (connecting : s.client.ssl = .connecting) :
    InFlight ⟨(Owned.handleTcpClientConnect ⟨s.client, ()⟩).client, s.since⟩ := by
  have nonempty := inFlight.live (Or.inl connecting)
  have flight := inFlight.flight (by rw [connecting]; exact nofun)
  have kept : (Owned.handleTcpClientConnect ⟨s.client, ()⟩).client.ssl = .connected ∧
      (Owned.handleTcpClientConnect ⟨s.client, ()⟩).client.requestQueue =
        s.client.requestQueue := by
    unfold Owned.handleTcpClientConnect
    dsimp only
    split
    · exact ⟨rfl, rfl⟩
    · exact ⟨rfl, rfl⟩
  refine ⟨fun free => ?_, fun _ => ?_, fun _ => ?_⟩
  · cases kept.1.symm.trans free
  · rw [kept.2]
    exact nonempty
  · rw [kept.2]
    exact flight

/-- The connection fails, which the client is not told yet. -/
theorem InFlight.breaks (inFlight : InFlight s) (busy : s.client.ssl ≠ .disconnected)
    (connected : Bool) : InFlight ⟨{ s.client with ssl := .failed connected }, s.since⟩ := by
  refine ⟨nofun, fun live => ?_, fun _ => inFlight.flight busy⟩
  rcases live with connecting | connected
  · cases connecting
  · cases connected

theorem InFlight.step (inFlight : InFlight s) (taken : s.step timerFails e = some t) :
    InFlight t := by
  unfold Watched.step at taken
  split at taken
  · rename_i d handled
    cases taken
    cases e with
    | operate operation =>
        cases handled
        exact inFlight.operate operation
    | timer accepted reaction =>
        obtain ⟨u, returned, after⟩ := @InFlight.timer timerFails s inFlight accepted reaction
        simp only [handle] at handled
        split at handled
        · cases handled
        · rw [returned] at handled
          cases handled
          exact after
    | connected =>
        simp only [handle] at handled
        split at handled
        · rename_i connecting
          cases handled
          exact inFlight.connected connecting
        · cases handled
    | breaks =>
        simp only [handle] at handled
        split at handled
        · rename_i connecting
          cases handled
          exact inFlight.breaks (by rw [connecting]; exact nofun) false
        · rename_i connected
          cases handled
          exact inFlight.breaks (by rw [connected]; exact nofun) true
        · cases handled
    | data data =>
        simp only [handle] at handled
        split at handled
        · cases handled
          exact ⟨inFlight.since, inFlight.live, inFlight.flight⟩
        · cases handled
    | ends reaction =>
        cases inFlight.popped_ends handled with
        | popped d _ free => exact .idle free
  · cases taken

/-- An event that no handler reports is not the end of a connection. -/
theorem not_bereft {reaction : List Operation}
    (ignored : handle timerFails s.client (.ends reaction) = none) :
    ¬ s.Bereft (.ends reaction) := by
  unfold handle at ignored
  unfold Bereft
  dsimp only at ignored ⊢
  split at ignored
  · cases ignored
  · cases ignored
  · cases ignored
  · cases ignored
  · rename_i notByUser notAborted notByPeer _
    split
    · rename_i wasConnected closing
      cases wasConnected with
      | false => exact absurd closing notAborted
      | true => exact absurd closing notByUser
    · rename_i failed
      exact absurd failed notByPeer
    · exact id

theorem InFlight.touches_iff (inFlight : InFlight s) : s.Touches timerFails e ↔ s.Bereft e := by
  unfold Touches
  cases e with
  | operate operation => exact iff_of_false nofun id
  | timer accepted reaction =>
      obtain ⟨t, returned, _⟩ := @InFlight.timer timerFails s inFlight accepted reaction
      refine iff_of_false ?_ id
      simp only [handle]
      split
      · exact nofun
      · rw [returned]
        exact nofun
  | connected =>
      refine iff_of_false ?_ id
      simp only [handle]
      split <;> exact nofun
  | breaks =>
      refine iff_of_false ?_ id
      simp only [handle]
      split <;> exact nofun
  | data data =>
      refine iff_of_false ?_ id
      simp only [handle]
      split <;> exact nofun
  | ends reaction =>
      cases handled : handle timerFails s.client (.ends reaction) with
      | none => exact iff_of_false nofun (not_bereft handled)
      | some result =>
          exact Option.some_inj.trans (inFlight.popped_ends handled).touches_iff

theorem inFlight_init : InFlight {} := .idle rfl

/-- Whatever the owner calls, no handler touches an empty queue exactly if no connection whose
end takes the front off is over while the queue is cleared. -/
theorem never_touches_iff (timerFails : Nat → Bool) (events : List Event) :
    Guarded (step timerFails) (fun s e => ¬ s.Touches timerFails e) {} events ↔
      Guarded (step timerFails) (fun s e => ¬ s.Bereft e) {} events := by
  have same : ∀ s e, InFlight s → (¬ s.Touches timerFails e ↔ ¬ s.Bereft e) :=
    fun _ _ inFlight => not_congr inFlight.touches_iff
  exact Guarded.congr (fun inFlight taken => InFlight.step inFlight taken) same inFlight_init

def aRequest : HttpRequest := { url := [], arguments := [], longPoll := false, tag := 0 }

/-- The client is stopped while it connects. -/
def stopped : List Event :=
  [.operate (.sendRequest aRequest), .timer true [], .operate (.stop true), .ends []]

theorem not_never_touches :
    ¬ ∀ (timerFails : Nat → Bool) (events : List Event),
      Guarded (step timerFails) (fun s e => ¬ s.Touches timerFails e) {} events := by
  intro claim
  have connecting := (claim (fun _ => false) stopped).2 _ rfl |>.2 _ rfl
  have closing := connecting.2 _ rfl
  exact closing.1 rfl

end Watched

end HttpsClient

end GpsInformer
