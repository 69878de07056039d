import GpsInformer.SslClientMoves
import GpsInformer.SslPhases

/-!
# `SslClient` obeys the grammar of a connection

The TCP client is again taken as its phase.  An end can come from mbedtls, from a wait of the
timer or from the TCP client, and this client does not wait for the TCP client to be
disconnected: the TCP connection of one attempt may end in the middle of the next (`Agree`).

`_wasConnected` says whether the owner has been told of the connection, and only an attempt
of which it says so can have something to write or a wait pending.

The phase `HttpsClient` has of its SSL client is the one this client is in (`sslClient_reaches`).
-/

namespace GpsInformer.SslClient

open Lib ConnectionGrammar

variable {s t : SslClient TcpPhase} {e : Event} {strict : Prop}
  {react : SslClient TcpPhase → SslClient TcpPhase} {error : Option ErrorCode}

def Action.ownerEvent : Action → Option OwnerEvent
  | .connect => some .connect
  | .disconnect => some .disconnect
  | .notify notification => some (.notify notification)
  | .send _ | .write _ _ => none

/-- What has passed between the client and its owner. -/
def history {τ : Type} (s : SslClient τ) : List OwnerEvent :=
  s.trace.filterMap Action.ownerEvent

theorem history_record {τ : Type} (s : SslClient τ) (action : Action) :
    (s.record action).history = s.history ++ action.ownerEvent.toList :=
  filterMap_concat _ _ _

/-- The phase the owner sees. -/
def phase (s : SslClient TcpPhase) : SslPhase :=
  match s.status with
  | .disconnected => .disconnected
  | .connecting | .handshake => .connecting
  | .connected => .connected
  | .disconnecting => .disconnecting s.wasConnected
  | .error => .failed s.wasConnected

theorem phase_opening (opening : s.status = .connecting ∨ s.status = .handshake) :
    s.phase = .connecting := by
  unfold phase
  rcases opening with status | status
  · rw [status]
  · rw [status]

theorem phase_connected (status : s.status = .connected) : s.phase = .connected := by
  unfold phase
  rw [status]

/-! ## The invariant -/

/-- What the owner has been told of the attempt in progress. -/
def told (s : SslClient TcpPhase) : Progress := if s.wasConnected then .connected else .started

/-- The phases of the TCP client in a status of this one. -/
def Agree (status : Status) (wasConnected : Bool) : TcpPhase → Prop
  | .disconnected => ¬ status.Live
  | .connecting => status = .connecting
  | .connected => status = .handshake ∨ status = .connected
  | .disconnecting false => status = .disconnecting ∧ wasConnected = false
  -- the connection of the attempt in progress, or of the one before
  | .disconnecting true => status ≠ .handshake ∧ status ≠ .connected

/-- What is known whatever the TCP client does. -/
structure Knows (strict : Prop) (s : SslClient TcpPhase) : Prop where
  obeys : ∃ reached asked, Obeys strict reached asked s.history ∧
    (s.status ≠ .disconnected → reached = s.told ∧ (asked ↔ s.status = .disconnecting))
  free : s.status = .disconnected → s.wasConnected = false
  fresh : s.status = .connecting ∨ s.status = .handshake → s.wasConnected = false
  live : s.status = .connected → s.wasConnected = true
  failed : s.status = .error → s.wasConnected = true
  writing : s.writeBuffer ≠ [] → s.wasConnected = true
  waiting : s.wasConnected = false → s.waits = 0
  phased : strict → SslPhase.Reaches s.history s.phase

/-- What holds between two handlers and whenever `_handler` is called. -/
structure Follows (strict : Prop) (s : SslClient TcpPhase) : Prop extends Knows strict s where
  counted : s.ioCount = s.waits
  agree : Agree s.status s.wasConnected s.tcpClient

/-- A handler is about to call `handleAnything`. -/
structure Ready (strict : Prop) (handleStatus : Status) (error : Option ErrorCode)
    (s : SslClient TcpPhase) : Prop extends Knows strict s where
  counted : s.ioCount = s.waits + 1
  fits : s.status ≠ .disconnected → (handleStatus = .connected ↔ s.wasConnected = true)
  opened : s.tcpClient ≠ .connecting ∧ s.tcpClient ≠ .disconnecting false
  agree : Agree s.status s.wasConnected s.tcpClient ∨
    s.tcpClient = .disconnected ∧ error.isSome
  honest : strict → s.status ≠ .disconnecting → error ≠ some .operationAborted

/-! ## `handleAnything` -/

/-- The history and the status are what `Knows` is about. -/
theorem Knows.busy (knows : Knows strict s) (busy : s.status ≠ .disconnected) :
    Obeys strict s.told (s.status = .disconnecting) s.history := by
  obtain ⟨reached, asked, obeys, same⟩ := knows.obeys
  obtain ⟨rfl, asked'⟩ := same busy
  exact obeys.congr asked'

/-- The phase of a connection that has failed or is being closed. -/
theorem Knows.fails (knows : Knows strict s) (busy : s.status ≠ .disconnected) (met : strict) :
    SslPhase.Reaches s.history (if s.status = .disconnecting then .disconnecting s.wasConnected
      else .failed s.wasConnected) := by
  have phased := knows.phased met
  cases status : s.status with
  | disconnected => exact absurd status busy
  | connecting =>
      rw [phase_opening (Or.inl status)] at phased
      rw [knows.fresh (Or.inl status)]
      exact phased.fails rfl
  | handshake =>
      rw [phase_opening (Or.inr status)] at phased
      rw [knows.fresh (Or.inr status)]
      exact phased.fails rfl
  | connected =>
      rw [phase_connected status] at phased
      rw [knows.live status]
      exact phased.fails rfl
  | disconnecting =>
      unfold phase at phased
      rwa [status] at phased
  | error =>
      unfold phase at phased
      rwa [status] at phased

theorem told_ne_ended : s.told ≠ .ended := by
  unfold told
  split <;> exact nofun

/-- The TCP client after it has been told to disconnect. -/
theorem Ready.closed {handleStatus : Status} (ready : Ready strict handleStatus error s) :
    TcpPhase.disconnect s.tcpClient = .disconnecting true ∨
      TcpPhase.disconnect s.tcpClient = .disconnected := by
  obtain ⟨notConnecting, notDisconnecting⟩ := ready.opened
  cases phase : s.tcpClient with
  | disconnected => exact Or.inr rfl
  | connecting => exact absurd phase notConnecting
  | connected => exact Or.inl rfl
  | disconnecting wasConnected =>
      cases wasConnected with
      | false => exact absurd phase notDisconnecting
      | true => exact Or.inl rfl

/-- During the handshake and after it the TCP client is connected. -/
theorem Agree.connected {status : Status} {wasConnected : Bool} {phase : TcpPhase}
    (agree : Agree status wasConnected phase)
    (opened : status = .handshake ∨ status = .connected) : phase = .connected := by
  cases phase with
  | connected => rfl
  | disconnected =>
      refine absurd ?_ agree
      rcases opened with rfl | rfl <;> exact ⟨nofun, nofun, nofun⟩
  | connecting =>
      rw [show status = .connecting from agree] at opened
      exact opened.elim nofun nofun
  | disconnecting wasConnected =>
      cases wasConnected with
      | false =>
          rw [agree.1] at opened
          exact opened.elim nofun nofun
      | true => exact opened.elim (absurd · agree.1) (absurd · agree.2)

/-- A status in which nothing is left of the connection agrees with a closed TCP client. -/
theorem Agree.of_closed {status : Status} {wasConnected : Bool} {phase : TcpPhase}
    (closed : phase = .disconnecting true ∨ phase = .disconnected) (over' : ¬ status.Live) :
    Agree status wasConnected phase := by
  rcases closed with rfl | rfl
  · refine ⟨fun handshake => over' ?_, fun connected => over' ?_⟩
    · rw [handshake]
      exact ⟨nofun, nofun, nofun⟩
    · rw [connected]
      exact ⟨nofun, nofun, nofun⟩
  · exact over'

/-- A connection that waits for its timer before it ends. -/
theorem Ready.waits {handleStatus : Status} (ready : Ready strict handleStatus error s)
    (busy : s.status ≠ .disconnected) (others : s.ioCount - 1 > 0) :
    Follows strict { s with
      ioCount := s.ioCount - 1
      status := s.status.fail
      tcpClient := TcpPhase.disconnect s.tcpClient } := by
  have counted : s.ioCount - 1 = s.waits := by
    rw [ready.counted]
    omega
  have wasConnected : s.wasConnected = true := by
    by_contra early
    have idle := ready.waiting (Bool.eq_false_iff.mpr early)
    omega
  have dead : ∀ status : Status, status ≠ .error → status ≠ .disconnecting →
      s.status.fail ≠ status := by
    intro status notError notDisconnecting same
    rcases s.status.fail_cases with eq | eq
    · exact notError (same.symm.trans eq)
    · exact notDisconnecting (same.symm.trans eq)
  have phased : strict → SslPhase.Reaches s.history (phase { s with
      ioCount := s.ioCount - 1
      status := s.status.fail
      tcpClient := TcpPhase.disconnect s.tcpClient }) := by
    intro met
    have reaches := ready.fails busy met
    unfold phase Status.fail
    by_cases asked : s.status = .disconnecting
    · rw [if_neg (not_not.mpr asked), asked]
      rwa [if_pos asked] at reaches
    · rw [if_pos asked]
      rwa [if_neg asked] at reaches
  refine ⟨⟨⟨s.told, _, ready.busy busy, fun _ => ⟨rfl, s.status.fail_eq_disconnecting.symm⟩⟩,
    fun free => ?_, fun opening => ?_, fun _ => wasConnected, fun _ => wasConnected,
    ready.writing, ready.waiting, phased⟩, counted, .of_closed ready.closed ?_⟩
  · exact absurd free (dead _ nofun nofun)
  · rcases opening with opening | opening
    · exact absurd opening (dead _ nofun nofun)
    · exact absurd opening (dead _ nofun nofun)
  · intro live
    rcases s.status.fail_cases with eq | eq
    · exact live.2.2 eq
    · exact live.2.1 eq

/-- The end is one the phase allows. -/
theorem Ready.phased_end {handleStatus : Status} (ready : Ready strict handleStatus error s)
    (busy : s.status ≠ .disconnected)
    (failed : s.status = .disconnecting ∨ s.status = .error ∨ error.isSome) (met : strict) :
    SslPhase.Reaches (s.history ++ [.notify (ending s.told (s.status = .disconnecting) error)])
      .disconnected := by
  refine (ready.fails busy met).passes ?_
  unfold ending told
  by_cases asked : s.status = .disconnecting
  · simp only [if_pos asked]
    cases s.wasConnected with
    | false => rfl
    | true => rfl
  · simp only [if_neg asked]
    cases wasConnected : s.wasConnected with
    | true => rfl
    | false =>
        have early : s.status ≠ .error := fun isError =>
          Bool.false_ne_true (wasConnected.symm.trans (ready.failed isError))
        have code := getD_ne_aborted ((failed.resolve_left asked).resolve_left early)
          (ready.honest met asked)
        exact if_neg code

/-- A connection that ends. -/
theorem Ready.ends {handleStatus : Status} (ready : Ready strict handleStatus error s)
    (busy : s.status ≠ .disconnected) (last : ¬ s.ioCount - 1 > 0)
    (failed : s.status = .disconnecting ∨ s.status = .error ∨ error.isSome) :
    Follows strict (SslClient.record
      (.notify (ending s.told (s.status = .disconnecting) error))
      { s with
        ioCount := 0
        status := .disconnected
        tcpClient := TcpPhase.disconnect s.tcpClient
        writeBuffer := []
        wasConnected := false }) := by
  have idle : s.waits = 0 := by
    have counted := ready.counted
    omega
  have obeys : Obeys strict .ended (s.status = .disconnecting)
      (s.history ++ [.notify (ending s.told (s.status = .disconnecting) error)]) := by
    refine (ready.busy busy).notify (next_ending told_ne_ended _ _) fun met _ => ?_
    refine byUser_ending fun open' early => ?_
    have notError : s.status ≠ .error := by
      intro isError
      refine early ?_
      rw [told, ready.failed isError]
      rfl
    exact getD_ne_aborted ((failed.resolve_left open').resolve_left notError)
      (ready.honest met open')
  refine ⟨⟨⟨.ended, s.status = .disconnecting, ?_, fun busy => absurd rfl busy⟩, fun _ => rfl,
    fun _ => rfl, nofun, nofun, fun some' => absurd rfl some', fun _ => idle, fun met => ?_⟩, ?_,
    .of_closed ready.closed fun live => live.1 rfl⟩
  · rw [history_record]
    exact obeys
  · rw [history_record]
    exact ready.phased_end busy failed met
  · show (0 : Int) = s.waits
    rw [idle]
    rfl

/-- What `handleAnything` reports is the end of the attempt. -/
theorem Ready.ending_eq {handleStatus : Status} (ready : Ready strict handleStatus error s)
    (busy : s.status ≠ .disconnected) {status : Status}
    (same : status = .disconnecting ↔ s.status = .disconnecting) :
    (if handleStatus = .connected then
      Notification.disconnect (if status = .disconnecting then .closedByUser else .closedByPeer)
    else .error (if status = .disconnecting then .operationAborted
      else error.getD .operationAborted)) =
    ending s.told (s.status = .disconnecting) error := by
  unfold ending told
  by_cases wasConnected : s.wasConnected = true
  · rw [if_pos ((ready.fits busy).mpr wasConnected), if_pos wasConnected, if_pos rfl]
    simp only [same]
  · rw [if_neg (mt (ready.fits busy).mp wasConnected), if_neg wasConnected]
    simp only [same]
    rfl

/-- The spec of `handleAnything`: the connection has failed or ended, or it is alive and the
caller goes on. -/
theorem Ready.handleAnything {handleStatus : Status} (ready : Ready strict handleStatus error s)
    (reacts : ∀ {s}, Follows strict s → Follows strict (react s)) :
    ((s.handleAnything react handleStatus error).2 = false ∧
      Follows strict (s.handleAnything react handleStatus error).1) ∨
    (s.handleAnything react handleStatus error = ({ s with ioCount := s.ioCount - 1 }, true) ∧
      s.status.Live ∧ Follows strict { s with ioCount := s.ioCount - 1 }) := by
  have counted : s.ioCount - 1 = s.waits := by
    rw [ready.counted]
    omega
  unfold SslClient.handleAnything
  dsimp only
  split
  · rename_i free
    refine Or.inl ⟨rfl, ⟨⟨ready.obeys, ready.free, ready.fresh, ready.live, ready.failed,
      ready.writing, ready.waiting, ready.phased⟩, counted, ?_⟩⟩
    rcases ready.agree with agree | ⟨phase, _⟩
    · exact agree
    · show Agree s.status s.wasConnected s.tcpClient
      rw [phase]
      exact fun live => live.1 free
  · rename_i busy
    split
    · rename_i failed
      refine Or.inl ?_
      split
      · rename_i others
        exact ⟨rfl, ready.waits busy others⟩
      · rename_i last
        have ended := ready.ends busy last failed
        have said := ready.ending_eq busy s.status.fail_eq_disconnecting
        split
        · rename_i connected
          rw [if_pos connected] at said
          rw [← said] at ended
          exact ⟨rfl, reacts ended⟩
        · rename_i early
          rw [if_neg early] at said
          rw [← said] at ended
          exact ⟨rfl, reacts ended⟩
    · rename_i fine
      obtain ⟨notDisconnecting, fine⟩ := not_or.mp fine
      obtain ⟨notError, noError⟩ := not_or.mp fine
      refine Or.inr ⟨rfl, ⟨busy, notDisconnecting, notError⟩, ⟨⟨ready.obeys, ready.free,
        ready.fresh, ready.live, ready.failed, ready.writing, ready.waiting, ready.phased⟩,
        counted, ?_⟩⟩
      exact ready.agree.resolve_right fun terminal => noError terminal.2

/-! ## The public functions -/

/-- What `sslInitialize` changes does not matter. -/
theorem Follows.initialized (follows : Follows strict s) (sslInitialized : Bool) :
    Follows strict { s with sslInitialized } :=
  ⟨⟨follows.obeys, follows.free, follows.fresh, follows.live, follows.failed, follows.writing,
    follows.waiting, follows.phased⟩, follows.counted, follows.agree⟩

theorem Follows.connect (follows : Follows strict s) (setup : TlsSetup) :
    Follows strict (s.connect setup) := by
  unfold SslClient.connect
  dsimp only
  split
  · exact follows
  · split
    · exact follows.initialized true
    · rename_i idle
      have free : s.status = .disconnected := not_not.mp idle
      have early := follows.free free
      split
      · exact follows.initialized true
      · split
        · exact follows.initialized true
        · obtain ⟨reached, asked, obeys, _⟩ := follows.obeys
          refine ⟨⟨⟨.started, False, ?_, fun _ => ⟨?_, iff_of_false id nofun⟩⟩, nofun,
            fun _ => early,
            nofun, nofun, fun some' => absurd rfl some', follows.waiting, fun met => ?_⟩,
            follows.counted, ?_⟩
          · rw [history_record]
            exact obeys.connect
          · show Progress.started = if s.wasConnected then .connected else .started
            rw [early]
            rfl
          · have phased := follows.phased met
            unfold phase at phased
            rw [free] at phased
            rw [history_record]
            exact phased.passes rfl
          · have agree := follows.agree
            rw [free] at agree
            show Agree .connecting s.wasConnected (TcpPhase.connect s.tcpClient)
            cases phase : s.tcpClient with
            | disconnected => rfl
            | connecting =>
                rw [phase] at agree
                cases agree
            | connected =>
                rw [phase] at agree
                rcases agree with impossible | impossible <;> cases impossible
            | disconnecting wasConnected =>
                rw [phase] at agree
                cases wasConnected with
                | false => cases agree.1
                | true => exact ⟨nofun, nofun⟩

/-- The owner may ask for the end of a connection that has not failed. -/
theorem Follows.phased_disconnect (follows : Follows strict s) (live : s.status.Live)
    (met : strict) :
    SslPhase.Reaches (s.history ++ [.disconnect]) (.disconnecting s.wasConnected) := by
  have phased := follows.phased met
  cases status : s.status with
  | disconnected => exact absurd status live.1
  | connecting =>
      rw [phase_opening (Or.inl status)] at phased
      rw [follows.fresh (Or.inl status)]
      exact phased.passes rfl
  | handshake =>
      rw [phase_opening (Or.inr status)] at phased
      rw [follows.fresh (Or.inr status)]
      exact phased.passes rfl
  | connected =>
      rw [phase_connected status] at phased
      rw [follows.live status]
      exact phased.passes rfl
  | disconnecting => exact absurd status live.2.1
  | error => exact absurd status live.2.2

theorem Follows.disconnect (follows : Follows strict s) : Follows strict s.disconnect := by
  unfold SslClient.disconnect
  split
  · rename_i live
    have obeys := follows.toKnows.busy live.1
    refine ⟨⟨⟨s.told, True, ?_, fun _ => ⟨rfl, iff_of_true trivial rfl⟩⟩, nofun, ?_, nofun, nofun,
      follows.writing, follows.waiting, fun met => ?_⟩, follows.counted, ?_⟩
    · rw [history_record]
      exact obeys.disconnect
    · exact fun opening => opening.elim nofun nofun
    · rw [history_record]
      exact follows.phased_disconnect live met
    · have agree := follows.agree
      show Agree .disconnecting s.wasConnected (TcpPhase.disconnect s.tcpClient)
      cases phase : s.tcpClient with
      | disconnected =>
          rw [phase] at agree
          exact absurd live agree
      | connecting =>
          rw [phase] at agree
          exact ⟨rfl, follows.fresh (Or.inl agree)⟩
      | connected => exact ⟨nofun, nofun⟩
      | disconnecting wasConnected =>
          rw [phase] at agree
          cases wasConnected with
          | false => exact absurd agree.1 live.2.1
          | true => exact ⟨nofun, nofun⟩
  · exact follows

/-- A handler that has been called, or is called by `send`. -/
structure Begun (strict : Prop) (s : SslClient TcpPhase) : Prop extends Knows strict s where
  counted : s.ioCount = s.waits + 1
  opened : s.tcpClient ≠ .connecting ∧ s.tcpClient ≠ .disconnecting false
  agree : Agree s.status s.wasConnected s.tcpClient

theorem Follows.begin (follows : Follows strict s)
    (opened : s.status = .handshake ∨ s.status = .connected) :
    Begun strict { s with ioCount := s.ioCount + 1 } := by
  refine ⟨⟨follows.obeys, follows.free, follows.fresh, follows.live, follows.failed,
    follows.writing, follows.waiting, follows.phased⟩, congrArg (· + 1) follows.counted, ?_,
    follows.agree⟩
  have phase := follows.agree.connected opened
  show s.tcpClient ≠ .connecting ∧ s.tcpClient ≠ .disconnecting false
  rw [phase]
  exact ⟨nofun, nofun⟩

theorem Begun.ready {handleStatus : Status} (begun : Begun strict s)
    (fits : s.status ≠ .disconnected → (handleStatus = .connected ↔ s.wasConnected = true))
    (honest : error ≠ some .operationAborted) : Ready strict handleStatus error s :=
  ⟨begun.toKnows, begun.counted, fits, begun.opened, Or.inl begun.agree, fun _ _ => honest⟩

theorem Begun.callTls (begun : Begun strict s) (tls : Tls) : Begun strict (s.callTls tls) := by
  obtain ⟨sslBuffer, eq⟩ := callTls_eq tls s
  rw [eq]
  exact ⟨⟨begun.obeys, begun.free, begun.fresh, begun.live, begun.failed, begun.writing,
    begun.waiting, begun.phased⟩, begun.counted, begun.opened, begun.agree⟩

theorem ioError_ne_aborted (result : Int) : ioError result ≠ some .operationAborted := by
  unfold ioError
  split
  · split <;> nofun
  · exact nofun

/-- What has been written leaves the queue. -/
theorem Follows.write (follows : Follows strict s) (connected : s.wasConnected = true)
    (writeBuffer : List Str) : Follows strict { s with writeBuffer } :=
  ⟨⟨follows.obeys, follows.free, follows.fresh, follows.live, follows.failed, fun _ => connected,
    follows.waiting, follows.phased⟩, follows.counted, follows.agree⟩

/-- The timer is armed. -/
theorem Follows.wait (follows : Follows strict s) (connected : s.wasConnected = true) :
    Follows strict { s with ioCount := s.ioCount + 1, waits := s.waits + 1 } :=
  ⟨⟨follows.obeys, follows.free, follows.fresh, follows.live, follows.failed, follows.writing,
    fun early => absurd (early.symm.trans connected) Bool.false_ne_true, follows.phased⟩,
    congrArg (· + 1) follows.counted, follows.agree⟩

/-- `handleWrite` with a string to write. -/
theorem Begun.handleWrite (begun : Begun strict s)
    (reacts : ∀ {s}, Follows strict s → Follows strict (react s)) (busy : s.writeBuffer ≠ [])
    (tls : Tls) (timerError : Bool) : Follows strict (s.handleWrite react tls timerError) := by
  have wasConnected := begun.writing busy
  unfold SslClient.handleWrite
  split
  · rename_i empty
    exact absurd empty busy
  · rename_i data rest _
    have called : Begun strict ((s.callTls tls).record (.write data tls.result)) := by
      have called := begun.callTls tls
      have same : ((s.callTls tls).record (.write data tls.result)).history =
          (s.callTls tls).history := (history_record _ _).trans (List.append_nil _)
      refine ⟨⟨?_, called.free, called.fresh, called.live, called.failed, called.writing,
        called.waiting, ?_⟩, called.counted, called.opened, called.agree⟩
      · rw [same]
        exact called.obeys
      · rw [same]
        exact called.phased
    have connected : ((s.callTls tls).record (.write data tls.result)).wasConnected = true := by
      obtain ⟨sslBuffer, eq⟩ := callTls_eq tls s
      rw [eq]
      exact wasConnected
    have ready : Ready strict .connected (ioError tls.result)
        ((s.callTls tls).record (.write data tls.result)) :=
      called.ready (fun _ => iff_of_true rfl connected) (ioError_ne_aborted _)
    dsimp only
    rcases ready.handleAnything reacts with ⟨stopped, follows⟩ | ⟨alive, _, follows⟩
    · split
      · rename_i eq
        rwa [eq] at follows
      · rename_i eq
        rw [eq] at stopped
        cases stopped
    · rw [alive]
      dsimp only
      by_cases accepted : ¬ wants tls.result
      · simp only [if_pos accepted]
        split
        · exact follows.write connected _
        · exact (follows.write connected _).wait connected
      · simp only [if_neg accepted]
        split
        · exact follows
        · exact follows.wait connected

theorem Follows.send (follows : Follows strict s)
    (reacts : ∀ {s}, Follows strict s → Follows strict (react s)) (data : Str) (tls : Tls)
    (timerError : Bool) : Follows strict (s.send react data tls timerError) := by
  unfold SslClient.send
  split
  · exact follows
  · rename_i connected
    have status : s.status = .connected := not_not.mp connected
    have wasConnected := follows.live status
    have queued : Follows strict
        ({ s with writeBuffer := s.writeBuffer ++ [data] }.record (.send data)) := by
      have written := follows.write wasConnected (s.writeBuffer ++ [data])
      refine ⟨⟨?_, written.free, written.fresh, written.live, written.failed, written.writing,
        written.waiting, ?_⟩, written.counted, written.agree⟩
      · rw [history_record]
        exact (List.append_nil s.history).symm ▸ written.obeys
      · rw [history_record]
        exact (List.append_nil s.history).symm ▸ written.phased
    dsimp only
    split
    · exact (queued.begin (Or.inr status)).handleWrite reacts (by simp [SslClient.record]) tls
        timerError
    · exact queued

mutual

theorem Follows.call {s : SslClient TcpPhase} (follows : Follows strict s) :
    ∀ request : Call, Follows strict (s.call request)
  | .connect setup => follows.connect setup
  | .disconnect => follows.disconnect
  | .send data tls timerError inner =>
      follows.send (fun follows => follows.calls inner) data tls timerError

/-- Whatever the owner does when it is notified. -/
theorem Follows.calls {s : SslClient TcpPhase} (follows : Follows strict s) :
    ∀ requests : List Call, Follows strict (s.calls requests)
  | [] => follows
  | first :: rest => (follows.call first).calls rest

end

/-! ## The handlers -/

theorem Begun.handleHandshake (begun : Begun strict s)
    (reacts : ∀ {s}, Follows strict s → Follows strict (react s)) (status : s.status = .handshake)
    (tls : Tls) : Follows strict (s.handleHandshake react tls) := by
  unfold SslClient.handleHandshake
  dsimp only
  generalize errorEq : (if tls.result ≠ 0 ∧ ¬ wants tls.result then
    some (ErrorCode.other tls.result) else none) = error
  have honest : error ≠ some .operationAborted := by
    rw [← errorEq]
    split <;> nofun
  have called := begun.callTls tls
  have status' : (s.callTls tls).status = .handshake := (status_callTls tls).trans status
  have early : (s.callTls tls).wasConnected = false := called.fresh (Or.inr status')
  have ready : Ready strict .handshake error (s.callTls tls) :=
    called.ready (fun _ => iff_of_false (by decide) (by simp [early])) honest
  rcases ready.handleAnything reacts with ⟨stopped, follows⟩ | ⟨alive, live, follows⟩
  · split
    · rename_i eq
      rwa [eq] at follows
    · rename_i eq
      rw [eq] at stopped
      cases stopped
  · rw [alive]
    dsimp only
    split
    · exact follows
    · apply reacts
      have phase := follows.agree.connected (Or.inl status')
      have opening := phase_opening (Or.inr status')
      have obeys : Obeys strict .started False (s.callTls tls).history := by
        have told : (s.callTls tls).told = .started := if_neg (by simp [early])
        exact told ▸ (follows.toKnows.busy live.1).congr (iff_of_false live.2.1 id)
      refine ⟨⟨⟨.connected, False, ?_, fun _ => ⟨rfl, iff_of_false id nofun⟩⟩, nofun,
        fun opening => opening.elim nofun nofun, fun _ => rfl, nofun, fun _ => rfl, nofun,
        fun met => ?_⟩, follows.counted, ?_⟩
      · rw [history_record]
        exact obeys.notify rfl fun _ => False.elim
      · have phased := called.phased met
        rw [opening] at phased
        rw [history_record]
        exact phased.passes rfl
      · show Agree .connected true (s.callTls tls).tcpClient
        rw [show (s.callTls tls).tcpClient = .connected from phase]
        exact Or.inr rfl

theorem Begun.handleRead (begun : Begun strict s)
    (reacts : ∀ {s}, Follows strict s → Follows strict (react s)) (status : s.status = .connected)
    (tls : Tls) : Follows strict (s.handleRead react tls).1 := by
  unfold SslClient.handleRead
  have called := begun.callTls tls
  have status' : (s.callTls tls).status = .connected := (status_callTls tls).trans status
  have ready : Ready strict .connected (ioError tls.result) (s.callTls tls) :=
    called.ready (fun _ => iff_of_true rfl (called.live status')) (ioError_ne_aborted _)
  dsimp only
  rcases ready.handleAnything reacts with ⟨stopped, follows⟩ | ⟨alive, live, follows⟩
  · split
    · rename_i eq
      rwa [eq] at follows
    · rename_i eq
      rw [eq] at stopped
      cases stopped
  · rw [alive]
    dsimp only
    split
    · apply reacts
      have obeys : Obeys strict .connected False (s.callTls tls).history := by
        have told : (s.callTls tls).told = .connected := if_pos (called.live status')
        exact told ▸ (follows.toKnows.busy live.1).congr (iff_of_false live.2.1 id)
      refine ⟨⟨⟨.connected, False, ?_, fun _ => ⟨?_, iff_of_false id live.2.1⟩⟩, follows.free,
        follows.fresh, follows.live, follows.failed, follows.writing, follows.waiting,
        fun met => ?_⟩, follows.counted, follows.agree⟩
      · rw [history_record]
        exact obeys.notify rfl fun _ => False.elim
      · exact (if_pos (called.live status')).symm
      · have phased := called.phased met
        have going := phase_connected status'
        change SslPhase.Reaches _ (s.callTls tls).phase
        rw [going] at phased ⊢
        rw [history_record]
        exact phased.passes rfl
    · exact follows

theorem Follows.readLoop (follows : Follows strict s) {replies : List Reply}
    (taken : s.readLoop replies = some t) : Follows strict t := by
  induction replies generalizing s with
  | nil =>
      simp only [SslClient.readLoop] at taken
      split at taken
      · cases taken
      · cases taken
        exact follows
  | cons reply replies ih =>
      simp only [SslClient.readLoop] at taken
      split at taken
      · rename_i status
        have next := (follows.begin (Or.inr status)).handleRead
          (fun follows => follows.calls reply.calls) status reply.tls
        split at taken
        · rename_i eq
          rw [eq] at next
          exact ih next taken
        · rename_i eq
          rw [eq] at next
          cases taken
          exact next
      · cases taken
        exact follows

theorem Follows.handleTcpClientReceivedData (follows : Follows strict s) {data : Str}
    {replies : List Reply} (taken : s.handleTcpClientReceivedData data replies = some t) :
    Follows strict t := by
  have filled : Follows strict { s with sslBuffer := s.sslBuffer ++ data } :=
    ⟨⟨follows.obeys, follows.free, follows.fresh, follows.live, follows.failed, follows.writing,
      follows.waiting, follows.phased⟩, follows.counted, follows.agree⟩
  unfold SslClient.handleTcpClientReceivedData at taken
  dsimp only at taken
  split at taken
  · rename_i status
    split at taken
    · cases taken
    · rename_i reply _
      cases taken
      exact (filled.begin (Or.inl status)).handleHandshake
        (fun follows => follows.calls reply.calls) status reply.tls
  · exact filled.readLoop taken

/-- A terminal notification of the TCP client. -/
theorem Follows.terminal (follows : Follows strict s) (handleStatus : Status) (code : ErrorCode)
    (fits : s.status ≠ .disconnected → (handleStatus = .connected ↔ s.wasConnected = true))
    (honest : strict → s.status ≠ .disconnecting → code ≠ .operationAborted)
    (reaction : List Call) :
    Follows strict ({ s with tcpClient := TcpPhase.disconnected, ioCount := s.ioCount + 1 }
      |>.handleAnything (fun s => s.calls reaction) handleStatus (some code)).1 := by
  have ready : Ready strict handleStatus (some code)
      { s with tcpClient := TcpPhase.disconnected, ioCount := s.ioCount + 1 } :=
    ⟨⟨follows.obeys, follows.free, follows.fresh, follows.live, follows.failed, follows.writing,
      follows.waiting, follows.phased⟩, congrArg (· + 1) follows.counted, fits, ⟨nofun, nofun⟩,
      Or.inr ⟨rfl, rfl⟩,
      fun met open' same => honest met open' (Option.some.inj same)⟩
  rcases ready.handleAnything fun follows => follows.calls reaction with
    ⟨_, follows'⟩ | ⟨alive, _, follows'⟩
  · exact follows'
  · rw [alive]
    exact follows'

/-! ## Runs -/

/-- The TCP client does not report an end that was not asked for as the user's. -/
def TcpTruthful (s : SslClient TcpPhase) : Event → Prop
  | .tcpError code _ => s.tcpClient = .connecting → code ≠ .operationAborted
  | .call _ | .timer _ _ | .tcpConnect _ | .tcpReceivedData _ _ | .tcpDisconnect _ => True

instance : ∀ s e, Decidable (TcpTruthful s e)
  | s, .tcpError code _ =>
      inferInstanceAs (Decidable (s.tcpClient = .connecting → code ≠ .operationAborted))
  | _, .call _ | _, .timer _ _ | _, .tcpConnect _ | _, .tcpReceivedData _ _
  | _, .tcpDisconnect _ => .isTrue trivial

theorem Follows.timer (follows : Follows strict s) (pending : s.waits ≠ 0) (reply : Reply)
    (timerError : Bool) : Follows strict (s.handleTimer reply timerError) := by
  have wasConnected : s.wasConnected = true := by
    by_contra early
    exact pending (follows.waiting (Bool.eq_false_iff.mpr early))
  have knows : Knows strict { s with waits := s.waits - 1 } :=
    ⟨follows.obeys, follows.free, follows.fresh, follows.live, follows.failed, follows.writing,
      fun early => absurd (early.symm.trans wasConnected) Bool.false_ne_true, follows.phased⟩
  have counted : s.ioCount = ((s.waits - 1 : Nat) : Int) + 1 := by
    rw [follows.counted]
    omega
  have agree := follows.agree
  unfold handleTimer
  by_cases empty : s.writeBuffer = []
  · have fired : SslClient.handleWrite (fun s => s.calls reply.calls) reply.tls timerError
        { s with waits := s.waits - 1 } =
        { s with waits := s.waits - 1, ioCount := s.ioCount - 1 } := by
      simp [handleWrite, empty]
    rw [fired]
    refine ⟨⟨knows.obeys, knows.free, knows.fresh, knows.live, knows.failed, knows.writing,
      knows.waiting, knows.phased⟩, ?_, agree⟩
    dsimp only
    omega
  · refine Begun.handleWrite ⟨knows, counted, ⟨fun phase => ?_, fun phase => ?_⟩, agree⟩
      (fun follows => follows.calls reply.calls) empty reply.tls timerError
    · rw [show s.tcpClient = .connecting from phase] at agree
      cases (follows.fresh (Or.inl agree)).symm.trans wasConnected
    · rw [show s.tcpClient = .disconnecting false from phase] at agree
      cases agree.2.symm.trans wasConnected

/-- The TCP connection is up. -/
theorem Follows.tcpConnect (follows : Follows strict s) (status : s.status = .connecting)
    (reply : Reply) :
    Follows strict ({ s with tcpClient := TcpPhase.connected }.handleTcpClientConnect reply) := by
  have early := follows.fresh (Or.inl status)
  have obeys := follows.toKnows.busy (by rw [status]; exact nofun)
  have notAsked : ¬ s.status = .disconnecting := by
    rw [status]
    exact nofun
  have opening : strict → SslPhase.Reaches s.history .connecting := fun met =>
    phase_opening (Or.inl status) ▸ follows.phased met
  have begun : Begun strict { s with
      tcpClient := TcpPhase.connected, status := .handshake, ioCount := s.ioCount + 1 } :=
    ⟨⟨⟨s.told, False, obeys.congr (iff_of_false notAsked id),
      fun _ => ⟨rfl, iff_of_false id nofun⟩⟩, nofun, fun _ => early, nofun, nofun,
      follows.writing, follows.waiting, opening⟩, congrArg (· + 1) follows.counted,
      ⟨nofun, nofun⟩, Or.inl rfl⟩
  exact begun.handleHandshake (fun follows => follows.calls reply.calls) rfl reply.tls

theorem Follows.step (follows : Follows strict s) (honest : strict → TcpTruthful s e)
    (taken : SslClient.step s e = some t) : Follows strict t := by
  have agree := follows.agree
  cases e with
  | call request =>
      cases taken
      exact follows.call request
  | timer reply timerError =>
      simp only [SslClient.step] at taken
      split at taken
      · cases taken
      · rename_i pending
        cases taken
        exact follows.timer pending reply timerError
  | tcpConnect reply =>
      simp only [SslClient.step] at taken
      split at taken
      · rename_i phase
        cases taken
        rw [phase] at agree
        exact follows.tcpConnect agree reply
      · cases taken
  | tcpReceivedData data replies =>
      simp only [SslClient.step] at taken
      split at taken
      · exact follows.handleTcpClientReceivedData taken
      · cases taken
  | tcpDisconnect calls =>
      have fits : s.status ≠ .disconnected →
          ((if s.wasConnected then Status.connected else .handshake) = .connected ↔
            s.wasConnected = true) := by
        intro _
        split
        · rename_i connected
          exact iff_of_true rfl connected
        · rename_i early
          exact iff_of_false (by decide) early
      simp only [SslClient.step] at taken
      split at taken
      · cases taken
        exact follows.terminal _ .eof fits (fun _ _ => by decide) calls
      · cases taken
        exact follows.terminal _ .eof fits (fun _ _ => by decide) calls
      · cases taken
  | tcpError code calls =>
      simp only [SslClient.step] at taken
      split at taken
      · rename_i phase
        cases taken
        rw [phase] at agree
        have early := follows.fresh (Or.inl agree)
        exact follows.terminal .connecting code
          (fun _ => iff_of_false (by decide) (by simp [early]))
          (fun met _ => honest met phase) calls
      · rename_i phase
        cases taken
        rw [phase] at agree
        exact follows.terminal .connecting code
          (fun _ => iff_of_false (by decide) (by simp [agree.2]))
          (fun _ open' => absurd agree.1 open') calls
      · cases taken

theorem Follows.init : Follows strict initial := by
  refine ⟨⟨⟨.started, False, .nil, fun busy => absurd rfl busy⟩, fun _ => rfl, fun _ => rfl, nofun,
    nofun, fun some' => absurd rfl some', fun _ => rfl, fun _ => SslPhase.reaches_nil⟩, rfl,
    fun live => live.1 rfl⟩

/-- A wait is pending only while the owner believes to be connected. -/
theorem Follows.waits_eq_zero (follows : Follows strict s)
    (unconnected : progress (notifications (attempt s.history)) ≠ some .connected) :
    s.waits = 0 := by
  apply follows.waiting
  by_contra connected
  have wasConnected : s.wasConnected = true := by simpa using connected
  have busy : s.status ≠ .disconnected := fun free => connected (follows.free free)
  refine unconnected ?_
  rw [(follows.toKnows.busy busy).reached, told, wasConnected]
  rfl

/-- What a client tells its owner obeys the grammar of a connection; no wait is left over
when the owner is not connected; and if the TCP client tells the truth about who ended its
connections, so does this one. -/
theorem sslClient_obeys_grammar {es : List Event} (run : Run step initial es s) :
    (∀ front, front <+: s.history → Grammatical (notifications (attempt front))) ∧
      (progress (notifications (attempt s.history)) ≠ some .connected → s.waits = 0) ∧
      (Guarded step TcpTruthful initial es → Truthful s.history) := by
  have follows : Follows False s :=
    run.invariant (fun follows taken => follows.step False.elim taken) .init
  obtain ⟨_, _, obeys, _⟩ := follows.obeys
  refine ⟨obeys.grammatically, follows.waits_eq_zero, fun guarded => ?_⟩
  have truthful : Follows True s :=
    run.guarded (fun follows honest taken => follows.step (fun _ => honest) taken) guarded .init
  obtain ⟨_, _, obeys', _⟩ := truthful.obeys
  exact obeys'.truthful trivial

/-- If the TCP client tells the truth, what passes between a client and its owner is what
`HttpsClient` takes it to be, and the phase it then has of this client is the one this client
is in. -/
theorem sslClient_reaches {es : List Event} (run : Run step initial es s)
    (guarded : Guarded step TcpTruthful initial es) : SslPhase.Reaches s.history s.phase := by
  have truthful : Follows True s :=
    run.guarded (fun follows honest taken => follows.step (fun _ => honest) taken) guarded .init
  exact truthful.phased trivial

/-- An attempt that fails in the handshake, from whose end the owner starts another one; that
one is ended by what is left of the first. -/
def overlap : List Event :=
  [.call (.connect {}), .tcpConnect ⟨{ result := -1 }, [.connect {}]⟩, .tcpDisconnect []]

theorem sslClient_obeys_grammar_overlap :
    ∃ s, Run step initial overlap s ∧
      notifications s.history = [.error (.other (-1)), .error .eof] ∧
      (∀ front, front <+: s.history → Grammatical (notifications (attempt front))) ∧
      s.waits = 0 ∧ Truthful s.history := by
  have executed : (overlap.foldlM step initial).map (fun s => notifications s.history) =
      some [.error (.other (-1)), .error .eof] := by
    decide +kernel
  obtain ⟨s, folded, told⟩ := Option.map_eq_some_iff.mp executed
  have run : Run step initial overlap s := .of_foldlM folded
  obtain ⟨grammatical, waits, truthful⟩ := sslClient_obeys_grammar run
  have guarded : Guarded step TcpTruthful initial overlap := by decide +kernel
  have executed' : (overlap.foldlM step initial).map
      (fun s => progress (notifications (attempt s.history))) = some (some .ended) := by
    decide +kernel
  rw [folded] at executed'
  have ended : progress (notifications (attempt s.history)) = some .ended :=
    Option.some.inj executed'
  refine ⟨s, run, told, grammatical, waits ?_, truthful guarded⟩
  rw [ended]
  exact nofun

end GpsInformer.SslClient
