import GpsInformer.ConnectionGrammar
import GpsInformer.HttpsClient
import GpsInformer.Lib.Run

/-!
# What `HttpsClient` takes its SSL client to do

`HttpsClient` sees of its SSL client the phase of the connection.  `SslPhase.next` says how the
phases follow one another with what passes between the two; a connection may also fail before
`HttpsClient` is told.  The events of an `HttpsClient` are the notifications these phases allow
(`step_iff`).  That `SslClient` keeps to the phases is shown where its notifications are
(`sslClient_reaches`).
-/

namespace GpsInformer

open Lib

namespace SslPhase

/-- The phase after a notification. -/
def told : SslPhase → Notification → Option SslPhase
  | .connecting, .connect => some .connected
  | .connected, .receivedData _ => some .connected
  | .disconnecting true, .receivedData _ => some (.disconnecting true)
  | .failed true, .receivedData _ => some (.failed true)
  | .disconnecting true, .disconnect .closedByUser => some .disconnected
  | .disconnecting false, .error .operationAborted => some .disconnected
  | .failed true, .disconnect .closedByPeer => some .disconnected
  | .failed false, .error code => if code = .operationAborted then none else some .disconnected
  | _, _ => none

/-- The phase after a call, a notification, or a failure that is not reported yet (`none`). -/
def next : SslPhase → Option OwnerEvent → Option SslPhase
  | .disconnected, some .connect => some .connecting
  | .connecting, some .disconnect => some (.disconnecting false)
  | .connected, some .disconnect => some (.disconnecting true)
  | .connecting, none => some (.failed false)
  | .connected, none => some (.failed true)
  | phase, some (.notify notification) => phase.told notification
  | _, _ => none

/-- The phases lead from a client that has never been used to this one, while this passes between
the client and its owner. -/
def Reaches (history : List OwnerEvent) (phase : SslPhase) : Prop :=
  ∃ labels, Run next .disconnected labels phase ∧ labels.filterMap id = history

variable {history : List OwnerEvent} {phase phase' : SslPhase}

theorem reaches_nil : Reaches [] .disconnected := ⟨[], .nil _, rfl⟩

theorem Reaches.fails (reaches : Reaches history phase) (next : phase.next none = some phase') :
    Reaches history phase' := by
  obtain ⟨labels, run, same⟩ := reaches
  refine ⟨labels ++ [none], run.append (.cons next (.nil _)), ?_⟩
  rw [List.filterMap_append, same]
  exact List.append_nil _

theorem Reaches.passes {event : OwnerEvent} (reaches : Reaches history phase)
    (next : phase.next (some event) = some phase') : Reaches (history ++ [event]) phase' := by
  obtain ⟨labels, run, same⟩ := reaches
  refine ⟨labels ++ [some event], run.append (.cons next (.nil _)), ?_⟩
  rw [List.filterMap_append, same]
  rfl

end SslPhase

/-! ## The events of an `HttpsClient` -/

namespace HttpsClient

theorem ssl_disconnect (c : HttpsClient) :
    c.disconnect.ssl = (c.ssl.next (some .disconnect)).getD c.ssl := by
  unfold disconnect
  cases phase : c.ssl with
  | connecting => rfl
  | connected => rfl
  | disconnected => exact phase
  | disconnecting => exact phase
  | failed => exact phase

theorem ssl_connect (accepted : Bool) (c : HttpsClient) :
    (c.connect accepted).ssl =
      if accepted then (c.ssl.next (some .connect)).getD c.ssl else c.ssl := by
  unfold connect
  cases accepted with
  | false => rw [if_neg fun both => Bool.false_ne_true both.2, if_neg Bool.false_ne_true]
  | true =>
      rw [if_pos rfl]
      cases phase : c.ssl with
      | disconnected => rfl
      | connecting => exact phase
      | connected => exact phase
      | disconnecting => exact phase
      | failed => exact phase

end HttpsClient

namespace Owned

variable {β : Type} (timerFails : Nat → Bool) (handler : HttpClientHandler β) {s t : Owned β}
  {n : Notification} {phase : SslPhase}

/-- The event of an `HttpsClient` that is told so. -/
def Event.ofNotification : Notification → Event
  | .connect => .connected
  | .receivedData text => .data text
  | .disconnect _ | .error _ => .ends

/-- `HttpsClient` is told so. -/
def handleNotification (s : Owned β) : Notification → Option (Owned β)
  | .connect => some (handleTcpClientConnect s)
  | .receivedData data => some (handleTcpClientReceivedData data s)
  | .disconnect reason =>
      (handleTcpClientDisconnect timerFails handler (reason = .closedByUser) s).toOption
  | .error code =>
      (handleTcpClientError timerFails handler (code = .operationAborted) s).toOption

/-- A notification that the phase allows is an event. -/
theorem step_ofNotification (allowed : s.client.ssl.told n = some phase) :
    step timerFails handler s (.ofNotification n) = handleNotification timerFails handler s n := by
  unfold SslPhase.told at allowed
  unfold step Event.ofNotification handleNotification
  split at allowed
  · rename_i connecting
    exact if_pos connecting
  · rename_i connected
    dsimp only
    rw [connected]
    rfl
  · rename_i disconnecting
    dsimp only
    rw [disconnecting]
    rfl
  · rename_i failed
    dsimp only
    rw [failed]
    rfl
  · rename_i disconnecting
    unfold handleEnd
    dsimp only
    rw [disconnecting]
    rfl
  · rename_i disconnecting
    unfold handleEnd
    dsimp only
    rw [disconnecting]
    rfl
  · rename_i failed
    unfold handleEnd
    dsimp only
    rw [failed]
    rfl
  · rename_i failed
    split at allowed
    · cases allowed
    · rename_i other
      unfold handleEnd
      dsimp only
      rw [failed, decide_eq_false other]
  · cases allowed

/-- An event that comes from the SSL client is a notification the phase allows. -/
theorem told_of_step {e : Event} (fromSsl : e = .connected ∨ (∃ text, e = .data text) ∨ e = .ends)
    (taken : step timerFails handler s e = some t) :
    ∃ n phase, e = .ofNotification n ∧ s.client.ssl.told n = some phase := by
  unfold step at taken
  rcases fromSsl with rfl | ⟨text, rfl⟩ | rfl
  · dsimp only at taken
    split at taken
    · rename_i connecting
      exact ⟨.connect, .connected, rfl, by rw [connecting]; rfl⟩
    · cases taken
  · dsimp only at taken
    split at taken
    · rename_i receiving
      refine ⟨.receivedData text, s.client.ssl, rfl, ?_⟩
      unfold receives at receiving
      split at receiving
      · rename_i connected
        rw [connected]
        rfl
      · rename_i disconnecting
        rw [disconnecting]
        rfl
      · rename_i failed
        rw [failed]
        rfl
      · cases receiving
    · cases taken
  · dsimp only [handleEnd] at taken
    split at taken
    · rename_i disconnecting
      exact ⟨.disconnect .closedByUser, .disconnected, rfl, by rw [disconnecting]; rfl⟩
    · rename_i disconnecting
      exact ⟨.error .operationAborted, .disconnected, rfl, by rw [disconnecting]; rfl⟩
    · rename_i failed
      exact ⟨.disconnect .closedByPeer, .disconnected, rfl, by rw [failed]; rfl⟩
    · rename_i failed
      exact ⟨.error .eof, .disconnected, rfl, by rw [failed]; rfl⟩
    · cases taken

/-- What comes from the SSL client are the notifications its phase allows. -/
theorem step_iff {e : Event} (fromSsl : e = .connected ∨ (∃ text, e = .data text) ∨ e = .ends) :
    step timerFails handler s e = some t ↔
      ∃ n phase, e = .ofNotification n ∧ s.client.ssl.told n = some phase ∧
        handleNotification timerFails handler s n = some t := by
  constructor
  · intro taken
    obtain ⟨n, phase, rfl, allowed⟩ := told_of_step timerFails handler fromSsl taken
    refine ⟨n, phase, rfl, allowed, ?_⟩
    rw [← step_ofNotification timerFails handler allowed]
    exact taken
  · intro told
    rcases told with ⟨n, phase, rfl, allowed, handled⟩
    rw [step_ofNotification timerFails handler allowed]
    exact handled

/-- A failure that is not reported yet. -/
theorem step_breaks : step timerFails handler s .breaks =
    (s.client.ssl.next none).map fun ssl => { s with client := { s.client with ssl } } := by
  unfold step
  dsimp only
  cases s.client.ssl with
  | disconnected => rfl
  | connecting => rfl
  | connected => rfl
  | disconnecting => rfl
  | failed => rfl

end Owned

end GpsInformer
