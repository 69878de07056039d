import GpsInformer.Lib.Run
import GpsInformer.SslClient

/-!
# `SslClient`: timer waits and stranding

The TCP client is taken as its phase (`TcpPhase`): it reports a connection at
most once and its end exactly once.  `_ioCount` is then the number of pending
timer waits in every state between two handlers (`Sound`).  That a client with
nothing left to wait for is disconnected (`NotStranded`) fails: the wait that
follows a completed write finds `_writeBuffer` empty, and `handleWrite` returns
without the end-of-connection processing the earlier TCP notification has left to
it (`StaleWait`).  `forall_visits_sslNotStranded_iff` shows that this is the only way
to strand the client.
-/

namespace GpsInformer

/-- The phases of a connection, as the owner of a TCP client sees them. -/
inductive TcpPhase where
  | disconnected
  | connecting
  | connected
  | disconnecting (wasConnected : Bool)
  deriving DecidableEq, Repr

namespace TcpPhase

def connect : TcpPhase → TcpPhase
  | .disconnected => .connecting
  | phase => phase

def disconnect : TcpPhase → TcpPhase
  | .connecting => .disconnecting false
  | .connected => .disconnecting true
  | phase => phase

instance : TcpLayer TcpPhase where
  down phase := phase = .disconnected
  connect := connect
  disconnect := disconnect
  send _ phase := phase
  not_down_connect phase := by cases phase <;> simp [connect]
  down_disconnect phase := by cases phase <;> simp [disconnect]
  down_send _ _ := Iff.rfl

end TcpPhase

namespace SslClient

open Lib

/-! ## Runs -/

inductive Event where
  /-- a call of the owner between two handlers -/
  | call (call : Call)
  /-- a pending wait of the timer fires -/
  | timer (reply : Reply) (timerError : Bool)
  | tcpConnect (reply : Reply)
  | tcpReceivedData (data : Str) (replies : List Reply)
  | tcpDisconnect (calls : List Call)
  | tcpError (code : ErrorCode) (calls : List Call)

def step (s : SslClient TcpPhase) : Event → Option (SslClient TcpPhase)
  | .call request => some (s.call request)
  | .timer reply timerError => if s.waits = 0 then none else some (s.handleTimer reply timerError)
  | .tcpConnect reply =>
      match s.tcpClient with
      | .connecting =>
          some ({ s with tcpClient := TcpPhase.connected }.handleTcpClientConnect reply)
      | _ => none
  | .tcpReceivedData data replies =>
      match s.tcpClient with
      | .connected => s.handleTcpClientReceivedData data replies
      | _ => none
  | .tcpDisconnect calls =>
      match s.tcpClient with
      | .connected | .disconnecting true =>
          some ({ s with tcpClient := TcpPhase.disconnected }.handleTcpClientDisconnect calls)
      | _ => none
  | .tcpError code calls =>
      match s.tcpClient with
      | .connecting | .disconnecting false =>
          some ({ s with tcpClient := TcpPhase.disconnected }.handleTcpClientError code calls)
      | _ => none

/-! ## The invariant -/

section Layer

variable {τ : Type} [TcpLayer τ] {s : SslClient τ}

/-- The TCP client is disconnected. -/
def Down (s : SslClient τ) : Prop := TcpLayer.down s.tcpClient

/-- The statuses of a connection nothing has gone wrong with yet. -/
def Status.Live (status : Status) : Prop :=
  status ≠ .disconnected ∧ status ≠ .disconnecting ∧ status ≠ .error

/-- What holds between two handlers and whenever `_handler` is called: every
counted operation is a pending wait, and no connection outlives the TCP one. -/
structure Sound (s : SslClient τ) : Prop where
  counted : s.ioCount = s.waits
  live : Down s → ¬ s.status.Live

/-- With the TCP client disconnected and no wait pending, so is this client. -/
def NotStranded (s : SslClient τ) : Prop :=
  Down s → s.waits = 0 → s.status = .disconnected

/-- What the owner's calls keep. -/
structure Settled (s : SslClient τ) : Prop extends Sound s where
  notStranded : NotStranded s

theorem Settled.of_not_down (counted : s.ioCount = s.waits) (up : ¬ Down s) : Settled s :=
  ⟨⟨counted, fun down => absurd down up⟩, fun down => absurd down up⟩

theorem Settled.of_free (counted : s.ioCount = s.waits) (free : s.status = .disconnected) :
    Settled s :=
  ⟨⟨counted, fun _ live => live.1 free⟩, fun _ _ => free⟩

theorem Settled.record (settled : Settled s) (action : Action) : Settled (s.record action) :=
  ⟨⟨settled.counted, settled.live⟩, settled.notStranded⟩

theorem down_foldl_send (t : τ) (written : List Str) :
    TcpLayer.down (written.foldl (fun t data => TcpLayer.send data t) t) ↔ TcpLayer.down t := by
  induction written generalizing t with
  | nil => exact Iff.rfl
  | cons data rest ih => exact (ih _).trans (TcpLayer.down_send data t)

@[simp] theorem down_callTls (tls : Tls) : Down (s.callTls tls) ↔ Down s := by
  unfold callTls
  split
  · exact down_foldl_send _ _
  · exact Iff.rfl

@[simp] theorem status_callTls (tls : Tls) : (s.callTls tls).status = s.status := by
  unfold callTls
  split <;> rfl

@[simp] theorem ioCount_callTls (tls : Tls) : (s.callTls tls).ioCount = s.ioCount := by
  unfold callTls
  split <;> rfl

@[simp] theorem waits_callTls (tls : Tls) : (s.callTls tls).waits = s.waits := by
  unfold callTls
  split <;> rfl

@[simp] theorem writeBuffer_callTls (tls : Tls) :
    (s.callTls tls).writeBuffer = s.writeBuffer := by
  unfold callTls
  split <;> rfl

/-- A handler has raised `_ioCount`, or its wait has fired; if the TCP client is
gone, the connection has failed or the handler brings an error. -/
structure Raised (error : Option ErrorCode) (s : SslClient τ) : Prop where
  counted : s.ioCount = s.waits + 1
  live : Down s → error = none → ¬ s.status.Live

theorem Raised.of_settled (settled : Settled s) :
    Raised none { s with ioCount := s.ioCount + 1 } :=
  ⟨congrArg (· + 1) settled.counted, fun down _ => settled.live down⟩

/-- The traffic of an mbedtls call, and the error it brings. -/
theorem Raised.callTls (raised : Raised none s) (tls : Tls) (error : Option ErrorCode) :
    Raised error (s.callTls tls) := by
  refine ⟨by simp [raised.counted], fun down _ => ?_⟩
  rw [status_callTls]
  exact raised.live ((down_callTls tls).mp down) rfl

/-- The spec of `handleAnything`: the connection is settled, or it is alive and
the caller goes on. -/
theorem Raised.handleAnything {error : Option ErrorCode} (raised : Raised error s)
    {react : SslClient τ → SslClient τ} (reacts : ∀ {s}, Settled s → Settled (react s))
    (handleStatus : Status) :
    ((s.handleAnything react handleStatus error).2 = false ∧
      Settled (s.handleAnything react handleStatus error).1) ∨
    (s.handleAnything react handleStatus error = ({ s with ioCount := s.ioCount - 1 }, true) ∧
      ¬ Down s ∧ s.status.Live) := by
  have counted : s.ioCount - 1 = s.waits := by
    rw [raised.counted]
    omega
  unfold SslClient.handleAnything
  dsimp only
  split
  · rename_i free
    exact Or.inl ⟨rfl, .of_free counted free⟩
  · rename_i busy
    split
    · rename_i failed
      refine Or.inl ?_
      split
      · rename_i others
        refine ⟨rfl, ⟨counted, fun _ live => ?_⟩, fun _ none' => ?_⟩
        · -- the connection is now disconnecting or failed
          obtain ⟨-, notDisconnecting, notError⟩ := live
          dsimp only at notDisconnecting notError
          split at notError
          · exact notError rfl
          · rename_i disconnecting
            rw [if_neg disconnecting] at notDisconnecting
            exact disconnecting notDisconnecting
        · rw [counted, show s.waits = 0 from none'] at others
          exact absurd others (Int.lt_irrefl 0)
      · rename_i last
        have idle : (0 : Int) = s.waits := by
          omega
        split
        · exact ⟨rfl, reacts (Settled.record (.of_free idle (by rfl)) _)⟩
        · exact ⟨rfl, reacts (Settled.record (.of_free idle (by rfl)) _)⟩
    · rename_i fine
      obtain ⟨notDisconnecting, fine⟩ := not_or.mp fine
      obtain ⟨notError, noError⟩ := not_or.mp fine
      have live : s.status.Live := ⟨busy, notDisconnecting, notError⟩
      exact Or.inr ⟨rfl, fun down => raised.live down (by simpa using noError) live, live⟩

/-! ## The public functions -/

variable {react : SslClient τ → SslClient τ}

theorem Settled.connect (settled : Settled s) (setup : TlsSetup) : Settled (s.connect setup) := by
  unfold SslClient.connect
  dsimp only
  split
  · exact settled
  · split
    · exact ⟨⟨settled.counted, settled.live⟩, settled.notStranded⟩
    · split
      · exact ⟨⟨settled.counted, settled.live⟩, settled.notStranded⟩
      · split
        · exact ⟨⟨settled.counted, settled.live⟩, settled.notStranded⟩
        · exact .of_not_down settled.counted (TcpLayer.not_down_connect _)

theorem Settled.disconnect (settled : Settled s) : Settled s.disconnect := by
  unfold SslClient.disconnect
  split
  · rename_i live
    refine .of_not_down settled.counted fun down => ?_
    exact settled.live ((TcpLayer.down_disconnect _).mp down) live
  · exact settled

/-- `handleWrite` with a string to write. -/
theorem Raised.handleWrite (raised : Raised none s)
    (reacts : ∀ {s}, Settled s → Settled (react s)) (busy : s.writeBuffer ≠ [])
    (tls : Tls) (timerError : Bool) : Settled (s.handleWrite react tls timerError) := by
  unfold SslClient.handleWrite
  split
  · rename_i empty
    exact absurd empty busy
  · rename_i data rest _
    have called := raised.callTls tls (ioError tls.result)
    have raised' : Raised (ioError tls.result)
        ((s.callTls tls).record (.write data tls.result)) := ⟨called.counted, called.live⟩
    dsimp only
    rcases raised'.handleAnything reacts .connected with ⟨stopped, settled⟩ | ⟨alive, up, _⟩
    · split
      · rename_i eq
        rwa [eq] at settled
      · rename_i eq
        rw [eq] at stopped
        cases stopped
    · rw [alive]
      dsimp only
      have counted := raised'.counted
      split <;> split
      all_goals
        refine .of_not_down ?_ up
        dsimp only
        push_cast
        omega

theorem Settled.send (settled : Settled s) (reacts : ∀ {s}, Settled s → Settled (react s))
    (data : Str) (tls : Tls) (timerError : Bool) :
    Settled (s.send react data tls timerError) := by
  unfold SslClient.send
  dsimp only
  split
  · exact settled
  · split
    · apply Raised.handleWrite
      · exact ⟨congrArg (· + 1) settled.counted, fun down _ => settled.live down⟩
      · exact reacts
      · simp [SslClient.record]
    · exact ⟨⟨settled.counted, settled.live⟩, settled.notStranded⟩

mutual

theorem Settled.call {s : SslClient τ} (settled : Settled s) :
    ∀ request : Call, Settled (s.call request)
  | .connect setup => settled.connect setup
  | .disconnect => settled.disconnect
  | .send data tls timerError inner =>
      settled.send (fun settled => settled.calls inner) data tls timerError

/-- Whatever the owner does when it is notified, the client stays settled. -/
theorem Settled.calls {s : SslClient τ} (settled : Settled s) :
    ∀ requests : List Call, Settled (s.calls requests)
  | [] => settled
  | first :: rest => (settled.call first).calls rest

end

/-! ## The handlers -/

theorem Raised.handleHandshake (raised : Raised none s)
    (reacts : ∀ {s}, Settled s → Settled (react s)) (tls : Tls) :
    Settled (s.handleHandshake react tls) := by
  unfold SslClient.handleHandshake
  dsimp only
  generalize errorEq : (if tls.result ≠ 0 ∧ ¬ wants tls.result then
    some (ErrorCode.other tls.result) else none) = error
  have called := raised.callTls tls error
  rcases called.handleAnything reacts .handshake with ⟨stopped, settled⟩ | ⟨alive, up, _⟩
  · split
    · rename_i eq
      rwa [eq] at settled
    · rename_i eq
      rw [eq] at stopped
      cases stopped
  · rw [alive]
    have counted : ((s.callTls tls).ioCount - 1 : Int) = (s.callTls tls).waits := by
      have := called.counted
      omega
    dsimp only
    split
    · exact .of_not_down counted up
    · apply reacts
      apply Settled.record
      exact .of_not_down counted up

theorem Raised.handleRead (raised : Raised none s)
    (reacts : ∀ {s}, Settled s → Settled (react s)) (tls : Tls) :
    Settled (s.handleRead react tls).1 := by
  unfold SslClient.handleRead
  have called := raised.callTls tls (ioError tls.result)
  dsimp only
  rcases called.handleAnything reacts .connected with ⟨stopped, settled⟩ | ⟨alive, up, _⟩
  · split
    · rename_i eq
      rwa [eq] at settled
    · rename_i eq
      rw [eq] at stopped
      cases stopped
  · rw [alive]
    have counted : ((s.callTls tls).ioCount - 1 : Int) = (s.callTls tls).waits := by
      have := called.counted
      omega
    dsimp only
    split
    · apply reacts
      apply Settled.record
      exact .of_not_down counted up
    · exact .of_not_down counted up

theorem Settled.readLoop {t : SslClient τ} (settled : Settled s) {replies : List Reply}
    (taken : s.readLoop replies = some t) : Settled t := by
  induction replies generalizing s with
  | nil =>
      simp only [SslClient.readLoop] at taken
      split at taken
      · cases taken
      · cases taken
        exact settled
  | cons reply replies ih =>
      simp only [SslClient.readLoop] at taken
      split at taken
      · have next := (Raised.of_settled settled).handleRead
          (fun settled => settled.calls reply.calls) reply.tls
        split at taken
        · rename_i eq
          rw [eq] at next
          exact ih next taken
        · rename_i eq
          rw [eq] at next
          cases taken
          exact next
      · cases taken
        exact settled

theorem Settled.handleTcpClientReceivedData {t : SslClient τ} (settled : Settled s) {data : Str}
    {replies : List Reply} (taken : s.handleTcpClientReceivedData data replies = some t) :
    Settled t := by
  have filled : Settled { s with sslBuffer := s.sslBuffer ++ data } :=
    ⟨⟨settled.counted, settled.live⟩, settled.notStranded⟩
  unfold SslClient.handleTcpClientReceivedData at taken
  dsimp only at taken
  split at taken
  · split at taken
    · cases taken
    · rename_i reply _
      cases taken
      exact (Raised.of_settled filled).handleHandshake
        (fun settled => settled.calls reply.calls) reply.tls
  · exact filled.readLoop taken

/-- A terminal notification of the TCP client. -/
theorem settled_terminal (counted : s.ioCount = s.waits) (handleStatus : Status)
    (code : ErrorCode) (reaction : List Call) :
    Settled ({ s with ioCount := s.ioCount + 1 }.handleAnything
      (fun s => s.calls reaction) handleStatus (some code)).1 := by
  have raised : Raised (some code) { s with ioCount := s.ioCount + 1 } :=
    ⟨congrArg (· + 1) counted, fun _ noError => nomatch noError⟩
  rcases raised.handleAnything (fun settled => settled.calls reaction) handleStatus with
    ⟨_, settled⟩ | ⟨alive, up, _⟩
  · exact settled
  · rw [alive]
    refine .of_not_down ?_ up
    dsimp only
    omega

end Layer

/-! ## Runs -/

variable {s t : SslClient TcpPhase} {e : Event}

/-- The last wait fires with nothing to write, after the TCP client is gone but
before this client has reported its end. -/
def StaleWait (s : SslClient TcpPhase) : Event → Prop
  | .timer _ _ =>
      s.tcpClient = .disconnected ∧ s.waits = 1 ∧ s.writeBuffer = [] ∧ s.status ≠ .disconnected
  | _ => False

instance : ∀ e, Decidable (StaleWait s e)
  | .timer _ _ => inferInstanceAs (Decidable (_ ∧ _))
  | .call _ | .tcpConnect _ | .tcpReceivedData _ _ | .tcpDisconnect _ | .tcpError _ _ =>
      .isFalse id

/-- The timer's wait ends. -/
theorem Settled.timer (settled : Settled s) {reply : Reply} {timerError : Bool}
    (guard : ¬ StaleWait s (.timer reply timerError)) (pending : s.waits ≠ 0) :
    Settled (handleTimer reply timerError s) := by
  have counted : s.ioCount = ((s.waits - 1 : Nat) : Int) + 1 := by
    rw [settled.counted]
    omega
  unfold handleTimer
  by_cases empty : s.writeBuffer = []
  · have fired : SslClient.handleWrite (fun s => s.calls reply.calls) reply.tls timerError
        { s with waits := s.waits - 1 } =
        { s with waits := s.waits - 1, ioCount := s.ioCount - 1 } := by
      simp [handleWrite, empty]
    rw [fired]
    refine ⟨⟨?_, settled.live⟩, fun down last => ?_⟩
    · dsimp only
      omega
    · by_contra busy
      refine guard ⟨down, ?_, empty, busy⟩
      dsimp only at last
      omega
  · apply Raised.handleWrite
    · exact ⟨counted, fun down _ => settled.live down⟩
    · exact fun settled => settled.calls reply.calls
    · exact empty

theorem Settled.step (settled : Settled s) (guard : ¬ StaleWait s e)
    (taken : step s e = some t) : Settled t := by
  cases e with
  | call request =>
      cases taken
      exact settled.call request
  | timer reply timerError =>
      simp only [SslClient.step] at taken
      split at taken
      · cases taken
      · rename_i pending
        cases taken
        exact settled.timer guard pending
  | tcpConnect reply =>
      simp only [SslClient.step] at taken
      split at taken
      · cases taken
        apply Raised.handleHandshake
        · exact ⟨congrArg (· + 1) settled.counted, fun down => nomatch down⟩
        · exact fun settled => settled.calls reply.calls
      · cases taken
  | tcpReceivedData data replies =>
      simp only [SslClient.step] at taken
      split at taken
      · exact settled.handleTcpClientReceivedData taken
      · cases taken
  | tcpDisconnect calls =>
      simp only [SslClient.step] at taken
      split at taken
      · cases taken
        apply settled_terminal
        exact settled.counted
      · cases taken
        apply settled_terminal
        exact settled.counted
      · cases taken
  | tcpError code calls =>
      simp only [SslClient.step] at taken
      split at taken
      · cases taken
        apply settled_terminal
        exact settled.counted
      · cases taken
        apply settled_terminal
        exact settled.counted
      · cases taken

theorem StaleWait.strands (stale : StaleWait s e) (taken : SslClient.step s e = some t) :
    ¬ NotStranded t := by
  cases e with
  | timer reply timerError =>
      obtain ⟨down, last, empty, busy⟩ := stale
      simp [SslClient.step, handleTimer, handleWrite, last, empty] at taken
      subst taken
      exact fun fine => busy (fine down rfl)
  | call _ => exact stale.elim
  | tcpConnect _ => exact stale.elim
  | tcpReceivedData _ _ => exact stale.elim
  | tcpDisconnect _ => exact stale.elim
  | tcpError _ _ => exact stale.elim

/-- The client as constructed, on a TCP client that is not connected. -/
def initial : SslClient TcpPhase := { tcpClient := .disconnected }

/-- A run never strands the client iff its last pending wait never fires, with
nothing to write, between the end of the TCP connection and the end of this one. -/
theorem forall_visits_sslNotStranded_iff {es : List Event} (run : Run step initial es t) :
    (∀ s, Visits step initial es s → NotStranded s) ↔
      Guarded step (fun s e => ¬ StaleWait s e) initial es :=
  forall_visits_iff_guarded
    (fun sound fine guard taken =>
      have next := Settled.step ⟨sound, fine⟩ guard taken
      ⟨next.toSound, next.notStranded⟩)
    (fun _ _ stale taken => (not_not.mp stale).strands taken) run
    ⟨rfl, fun _ live => live.1 rfl⟩ (fun _ _ => rfl)

/-- The peer closes within the millisecond that follows a write: connect, send one
string when the handshake is done, lose the TCP connection, and let the wait fire. -/
def strandingRun : List Event :=
  [.call (.connect {}),
    .tcpConnect ⟨{ result := 0 }, [.send ['G'] { result := 1 } false []]⟩,
    .tcpDisconnect [],
    .timer ⟨{ result := 0 }, []⟩ false]

theorem not_forall_visits_sslNotStranded :
    ¬ ∀ es t, Run step initial es t → ∀ s, Visits step initial es s → NotStranded s := by
  intro claim
  have run : Run step initial strandingRun _ := Run.of_foldlM rfl
  cases claim _ _ run _ (.of_run run) rfl rfl

/-- The same events with the wait firing before the connection is lost. -/
def orderlyRun : List Event :=
  [.call (.connect {}),
    .tcpConnect ⟨{ result := 0 }, [.send ['G'] { result := 1 } false []]⟩,
    .timer ⟨{ result := 0 }, []⟩ false,
    .tcpDisconnect []]

theorem forall_visits_sslNotStranded_orderly :
    Guarded step (fun s e => ¬ StaleWait s e) initial orderlyRun ∧
      ∀ s, Visits step initial orderlyRun s → NotStranded s :=
  have guarded : Guarded step (fun s e => ¬ StaleWait s e) initial orderlyRun := by decide
  ⟨guarded, (forall_visits_sslNotStranded_iff (Run.of_foldlM rfl)).mpr guarded⟩

end SslClient

end GpsInformer
