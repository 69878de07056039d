import GpsInformer.SslClientMoves
import GpsInformer.TcpClientGrammar

/-!
# `SslClient` on its `TcpClient`

The two clients as one machine.  An event is a call of the owner, a wait that fires, or the
completion of an operation of the TCP client, whose handler notifies the upper client; the
rest of such a handler (the loop of `SslClient::handleTcpClientReceivedData`, the `async_read`
of `TcpClient`) is cut into events of its own, so that the owner may call in between.

The upper client counts its own operations only.  When the last of them fails it is
disconnected at once, while the TCP client still waits for its operations to end, and ignores
a new `connect` (`EndsEarly`).
-/

namespace GpsInformer

open Lib

instance : TcpLayer TcpClient where
  down c := c.status = .disconnected
  connect := TcpClient.connect
  disconnect := TcpClient.disconnect
  send := TcpClient.send
  not_down_connect c := by
    unfold TcpClient.connect
    split
    · assumption
    · exact nofun
  down_disconnect c := by
    by_cases free : c.status = .disconnected
    · have same : c.disconnect = c := by
        unfold TcpClient.disconnect
        rw [free]
      rw [same]
    · refine iff_of_false (fun down => ?_) free
      cases (TcpClient.status_disconnect free).symm.trans down
  down_send data c := by
    unfold TcpClient.send
    split
    · exact Iff.rfl
    · dsimp only
      split
      · rw [TcpClient.status_asyncWrite]
        exact Iff.rfl
      · exact Iff.rfl

structure SslStack where
  ssl : SslClient TcpClient := { tcpClient := {} }
  /-- the loop of `SslClient::handleTcpClientReceivedData` is running -/
  reading : Bool := false
  /-- the handler of the TCP client goes on to `async_read` -/
  thenRead : Bool := false

namespace SslStack

def tcp (s : SslStack) : TcpClient := s.ssl.tcpClient

/-- The handlers of the TCP client's notifications, up to the loop. -/
def notified (notification : Notification) (tls : SslClient.Tls) (c : SslClient TcpClient) :
    SslClient.Session TcpClient :=
  match notification with
  | .connect => { client := c.handleTcpClientConnect { tls } }
  | .receivedData data => .receive data tls c
  | .disconnect _ => { client := c.handleTcpClientDisconnect [] }
  | .error code => { client := c.handleTcpClientError code [] }

/-- The rest of a completion handler of the TCP client. -/
def resume (turn : TcpClient.Turn) (tls : SslClient.Tls) (s : SslStack) : SslStack :=
  match turn.notification with
  | none => { s with ssl := { s.ssl with tcpClient := turn.client }, thenRead := turn.thenRead }
  | some notification =>
      let session := notified notification tls
        { s.ssl with tcpClient := turn.client.record (.notify notification) }
      { ssl := session.client, reading := session.reading, thenRead := turn.thenRead }

inductive Event where
  | connect (setup : SslClient.TlsSetup)
  | disconnect
  | send (data : Str) (tls : SslClient.Tls) (timerError : Bool)
  /-- a pending wait of the timer fires -/
  | timer (tls : SslClient.Tls) (timerError : Bool)
  /-- an outstanding operation of the TCP client finishes -/
  | finish (index : Nat) (result : TcpClient.Completion)
  /-- the handler of a finished operation of the TCP client is called -/
  | complete (index : Nat) (tls : SslClient.Tls)
  /-- the next round of the loop -/
  | read (tls : SslClient.Tls)
  /-- the loop ends because the client is no longer connected -/
  | leave
  /-- the TCP client starts its next `async_read` -/
  | asyncRead
  deriving DecidableEq, Repr

def step (s : SslStack) : Event → Option SslStack
  | .connect setup => some { s with ssl := s.ssl.connect setup }
  | .disconnect => some { s with ssl := s.ssl.disconnect }
  | .send data tls timerError => some { s with ssl := s.ssl.send id data tls timerError }
  | .timer tls timerError =>
      if s.reading ∨ s.thenRead ∨ s.ssl.waits = 0 then none
      else some { s with ssl :=
        { s.ssl with waits := s.ssl.waits - 1 }.handleWrite id tls timerError }
  | .finish index result =>
      match s.tcp.pending[index]? with
      | some { operation, result := none } => some { s with ssl := { s.ssl with tcpClient :=
          { s.tcp with pending := s.tcp.pending.set index { operation, result := some result } } } }
      | _ => none
  | .complete index tls =>
      if s.reading ∨ s.thenRead then none
      else
        match s.tcp.pending[index]? with
        | some { operation, result := some result } =>
            some (s.resume
              ({ s.tcp with pending := s.tcp.pending.eraseIdx index }.handle operation result) tls)
        | _ => none
  | .read tls =>
      if s.reading ∧ s.ssl.status = .connected then
        let session := SslClient.Session.read tls s.ssl
        some { s with ssl := session.client, reading := session.reading }
      else none
  | .leave =>
      if s.reading ∧ s.ssl.status ≠ .connected then some { s with reading := false } else none
  | .asyncRead =>
      if s.thenRead ∧ ¬ s.reading then some { s with
        ssl := { s.ssl with tcpClient := s.tcp.asyncRead }, thenRead := false }
      else none

/-! ## In step -/

/-- The connections the upper client has started. -/
def sslConnects (c : SslClient TcpClient) : Nat := c.trace.count .connect

/-- The connections the TCP client has started. -/
def tcpConnects (c : TcpClient) : Nat := c.trace.count .connect

/-- The TCP client is not left behind in a connection that is over for the owner, and each
connection of the one is a connection of the other; so whatever the TCP client reports belongs
to the attempt in progress. -/
structure InStep (s : SslStack) : Prop where
  disconnected : s.ssl.status = .disconnected → s.tcp.status = .disconnected
  connects : sslConnects s.ssl = tcpConnects s.tcp

/-- A connection in the handshake is handed to mbedtls by this completion. -/
def Handshakes (s : SslStack) (index : Nat) : Prop :=
  match s.tcp.pending[index]? with
  | some { operation, result := some result } =>
      s.tcp.status ≠ .disconnecting ∧ TcpClient.failure operation result = none ∧
        (operation = .connect ∨ operation = .read ∧ s.ssl.status = .handshake)
  | _ => False

/-- The upper client ends its connection in the event, by itself. -/
def Ends (s : SslStack) : Event → Prop
  | .send _ tls _ => s.ssl.status = .connected ∧ s.ssl.writeBuffer = [] ∧
      SslClient.ioError tls.result ≠ none ∧ s.ssl.ioCount ≤ 0
  | .timer tls _ => s.ssl.status ≠ .disconnected ∧ s.ssl.writeBuffer ≠ [] ∧
      (s.ssl.status = .disconnecting ∨ s.ssl.status = .error ∨
        SslClient.ioError tls.result ≠ none) ∧ s.ssl.ioCount ≤ 1
  | .read tls => SslClient.ioError tls.result ≠ none ∧ s.ssl.ioCount ≤ 0
  | .complete index tls => s.Handshakes index ∧ tls.result ≠ 0 ∧ ¬ SslClient.wants tls.result ∧
      s.ssl.ioCount ≤ 0
  | .connect _ | .disconnect | .finish _ _ | .leave | .asyncRead => False

/-- It does so before the TCP client is disconnected. -/
def EndsEarly (s : SslStack) (e : Event) : Prop := s.tcp.status ≠ .disconnected ∧ s.Ends e

instance (s : SslStack) (index : Nat) : Decidable (s.Handshakes index) := by
  unfold Handshakes
  split <;> infer_instance

instance (s : SslStack) : ∀ e, Decidable (s.Ends e)
  | .send _ _ _ | .timer _ _ | .read _ | .complete _ _ => inferInstanceAs (Decidable (_ ∧ _))
  | .connect _ | .disconnect | .finish _ _ | .leave | .asyncRead =>
      inferInstanceAs (Decidable False)

instance (s : SslStack) (e : Event) : Decidable (s.EndsEarly e) :=
  inferInstanceAs (Decidable (_ ∧ _))

/-! ## The upper client -/

open SslClient (Tls Status ioError wants)

variable {c d : SslClient TcpClient} {ends : Prop}

theorem tcpConnects_record (action : TcpClient.Action) (t : TcpClient) :
    tcpConnects (t.record action) = tcpConnects t + if action = .connect then 1 else 0 := by
  show (t.trace ++ [action]).count .connect = _
  rw [List.count_append, List.count_singleton]
  simp [tcpConnects]

theorem sslConnects_record (action : SslClient.Action) (c : SslClient TcpClient) :
    sslConnects (c.record action) = sslConnects c + if action = .connect then 1 else 0 := by
  show (c.trace ++ [action]).count .connect = _
  rw [List.count_append, List.count_singleton]
  simp [sslConnects]

theorem tcpConnects_startOnSocket (operation : TcpClient.Operation) (t : TcpClient) :
    tcpConnects (t.startOnSocket operation) = tcpConnects t := by
  unfold TcpClient.startOnSocket
  split <;> rfl

theorem tcpConnects_asyncWrite (t : TcpClient) : tcpConnects t.asyncWrite = tcpConnects t := by
  unfold TcpClient.asyncWrite
  rw [tcpConnects_record, tcpConnects_startOnSocket]
  rfl

theorem tcpConnects_disconnect (t : TcpClient) : tcpConnects t.disconnect = tcpConnects t := by
  unfold TcpClient.disconnect
  split
  · rfl
  · rfl
  all_goals
    rw [tcpConnects_record]
    rfl

theorem tcpConnects_send (data : Str) (t : TcpClient) :
    tcpConnects (t.send data) = tcpConnects t := by
  unfold TcpClient.send
  split
  · rfl
  · dsimp only
    split
    · rw [tcpConnects_asyncWrite, tcpConnects_record]
      rfl
    · rw [tcpConnects_record]
      rfl

/-- From `c` to `d` no connection is started, and the TCP client is disconnected or not as
before. -/
structure Keeps (c d : SslClient TcpClient) : Prop where
  down : d.tcpClient.status = .disconnected ↔ c.tcpClient.status = .disconnected
  ssl : sslConnects d = sslConnects c
  tcp : tcpConnects d.tcpClient = tcpConnects c.tcpClient

theorem Keeps.refl (c : SslClient TcpClient) : Keeps c c := ⟨Iff.rfl, rfl, rfl⟩

theorem Keeps.trans {e : SslClient TcpClient} (first : Keeps c d) (later : Keeps d e) :
    Keeps c e :=
  ⟨later.down.trans first.down, later.ssl.trans first.ssl, later.tcp.trans first.tcp⟩

theorem Keeps.record (keeps : Keeps c d) (action : SslClient.Action) (later : action ≠ .connect) :
    Keeps c (d.record action) := by
  refine ⟨keeps.down, ?_, keeps.tcp⟩
  rw [sslConnects_record, if_neg later]
  exact keeps.ssl

/-- What is kept, and whether the upper client is disconnected afterwards: if it was, or if
`ends`. -/
structure Outcome (ends : Prop) (c d : SslClient TcpClient) : Prop extends Keeps c d where
  status : d.status = .disconnected ↔ c.status = .disconnected ∨ ends

theorem keeps_disconnect : Keeps c { c with tcpClient := TcpLayer.disconnect c.tcpClient } :=
  ⟨TcpLayer.down_disconnect c.tcpClient, rfl, tcpConnects_disconnect c.tcpClient⟩

theorem keeps_callTls (tls : Tls) : Keeps c (c.callTls tls) := by
  have written : ∀ t : TcpClient,
      tcpConnects (tls.written.foldl (fun t data => TcpLayer.send data t) t) = tcpConnects t := by
    induction tls.written with
    | nil => exact fun _ => rfl
    | cons data rest ih => exact fun t => (ih _).trans (tcpConnects_send data t)
  refine ⟨@SslClient.down_callTls TcpClient _ c tls, ?_, ?_⟩
  · unfold SslClient.callTls
    split <;> rfl
  · unfold SslClient.callTls
    split
    · exact written _
    · rfl

theorem outcome_handleAnything (handleStatus : Status) (error : Option ErrorCode) :
    Outcome (c.status ≠ .disconnected ∧
      (c.status = .disconnecting ∨ c.status = .error ∨ error.isSome) ∧ c.ioCount - 1 ≤ 0)
      c (c.handleAnything id handleStatus error).1 := by
  have effect := SslClient.handleAnything_cases handleStatus error c
  generalize c.handleAnything id handleStatus error = outcome at effect
  have kept := @keeps_disconnect c
  cases effect with
  | ignored free => exact ⟨⟨Iff.rfl, rfl, rfl⟩, iff_of_true free (Or.inl free)⟩
  | waiting busy failed others =>
      refine ⟨⟨kept.down, kept.ssl, kept.tcp⟩, iff_of_false (fun free => ?_) ?_⟩
      · rcases c.status.fail_cases with eq | eq
        · cases eq.symm.trans free
        · cases eq.symm.trans free
      · exact not_or.mpr ⟨busy, fun ended => Int.not_lt.mpr ended.2.2 others⟩
  | ended notification busy failed last =>
      have ended : Keeps c { c with
          ioCount := 0
          status := .disconnected
          tcpClient := TcpLayer.disconnect c.tcpClient
          writeBuffer := []
          wasConnected := false } := ⟨kept.down, kept.ssl, kept.tcp⟩
      exact ⟨ended.record _ nofun, iff_of_true rfl (Or.inr ⟨busy, failed, last⟩)⟩
  | alive live noError =>
      refine ⟨⟨Iff.rfl, rfl, rfl⟩, iff_of_false live.1 (not_or.mpr ⟨live.1, fun ended => ?_⟩)⟩
      rcases ended.2.1 with disconnecting | isError | isSome
      · exact live.2.1 disconnecting
      · exact live.2.2 isError
      · rw [noError] at isSome
        cases isSome

/-- What `handleAnything` and the call into mbedtls before it do to a client, and to its caller
if it goes on. -/
structure Judged (ends : Prop) (error : Option ErrorCode) (c : SslClient TcpClient)
    (judged : SslClient TcpClient × Bool) : Prop where
  outcome : Outcome ends c judged.1
  alive : judged.2 = true → judged.1.status.Live ∧ error = none

theorem Judged.of_called {u : SslClient TcpClient} (called : Keeps c u)
    (status : u.status = c.status) (ioCount : u.ioCount = c.ioCount) (handleStatus : Status)
    (error : Option ErrorCode) :
    Judged (c.status ≠ .disconnected ∧
      (c.status = .disconnecting ∨ c.status = .error ∨ error.isSome) ∧ c.ioCount - 1 ≤ 0)
      error c (u.handleAnything id handleStatus error) := by
  have outcome := @outcome_handleAnything u handleStatus error
  have effect := SslClient.handleAnything_cases handleStatus error u
  rw [status, ioCount] at outcome
  refine ⟨⟨called.trans outcome.toKeeps, outcome.status.trans (by rw [status])⟩, fun alive => ?_⟩
  generalize u.handleAnything id handleStatus error = judged at effect alive
  cases effect with
  | alive live noError => exact ⟨live, noError⟩
  | _ => cases alive

/-- The same for another way to say when the connection ends. -/
theorem Judged.congr {ends' : Prop} {error : Option ErrorCode}
    {judged : SslClient TcpClient × Bool} (judgement : Judged ends error c judged)
    (same : ends ↔ ends') : Judged ends' error c judged :=
  ⟨⟨judgement.outcome.toKeeps, judgement.outcome.status.trans (or_congr_right same)⟩,
    judgement.alive⟩

/-- A caller that goes on and changes nothing that matters. -/
theorem Judged.goOn {error : Option ErrorCode} (judged : Judged ends error c (d, true))
    {e : SslClient TcpClient} (keeps : Keeps d e) (live : e.status ≠ .disconnected) :
    Outcome ends c e := by
  have alive := (judged.alive rfl).1
  refine ⟨judged.outcome.toKeeps.trans keeps, iff_of_false live fun either => ?_⟩
  exact alive.1 (judged.outcome.status.mpr either)

theorem handshakeError_isSome (tls : Tls) :
    (if tls.result ≠ 0 ∧ ¬ wants tls.result then some (ErrorCode.other tls.result)
      else none).isSome ↔ tls.result ≠ 0 ∧ ¬ wants tls.result := by
  split
  · rename_i failed
    exact iff_of_true rfl failed
  · rename_i fine
    exact iff_of_false nofun fine

theorem outcome_handleHandshake (status : c.status = .handshake) (tls : Tls) :
    Outcome (tls.result ≠ 0 ∧ ¬ wants tls.result ∧ c.ioCount - 1 ≤ 0) c
      (c.handleHandshake id tls) := by
  unfold SslClient.handleHandshake
  dsimp only
  have judged := (Judged.of_called (keeps_callTls tls) (SslClient.status_callTls tls)
    (@SslClient.ioCount_callTls TcpClient _ c tls) .handshake
    (if tls.result ≠ 0 ∧ ¬ wants tls.result then some (.other tls.result) else none)).congr
    (by rw [status, handshakeError_isSome]; simp [and_assoc] :
      _ ↔ tls.result ≠ 0 ∧ ¬ wants tls.result ∧ c.ioCount - 1 ≤ 0)
  generalize (c.callTls tls).handleAnything id .handshake _ = result at judged ⊢
  obtain ⟨d, going⟩ := result
  cases going with
  | false => exact judged.outcome
  | true =>
      dsimp only
      split
      · exact judged.outcome
      · have connected : Keeps d { d with status := .connected, wasConnected := true } :=
          ⟨Iff.rfl, rfl, rfl⟩
        exact judged.goOn (connected.record (.notify .connect) nofun) nofun

theorem outcome_handleRead (status : c.status = .connected) (tls : Tls) :
    Outcome (ioError tls.result ≠ none ∧ c.ioCount - 1 ≤ 0) c (c.handleRead id tls).1 := by
  unfold SslClient.handleRead
  dsimp only
  have judged := (Judged.of_called (keeps_callTls tls) (SslClient.status_callTls tls)
    (@SslClient.ioCount_callTls TcpClient _ c tls) .connected (ioError tls.result)).congr
    (by rw [status, Option.isSome_iff_ne_none]; simp :
      _ ↔ ioError tls.result ≠ none ∧ c.ioCount - 1 ≤ 0)
  generalize (c.callTls tls).handleAnything id .connected _ = result at judged ⊢
  obtain ⟨d, going⟩ := result
  cases going with
  | false => exact judged.outcome
  | true =>
      dsimp only
      split
      · exact judged.goOn ((Keeps.refl d).record (.notify _) nofun) (judged.alive rfl).1.1
      · exact judged.outcome

/-- `handleWrite` with a string to write. -/
theorem outcome_handleWrite (busy : c.writeBuffer ≠ []) (tls : Tls) (timerError : Bool) :
    Outcome (c.status ≠ .disconnected ∧
      (c.status = .disconnecting ∨ c.status = .error ∨ ioError tls.result ≠ none) ∧
      c.ioCount - 1 ≤ 0) c (c.handleWrite id tls timerError) := by
  unfold SslClient.handleWrite
  split
  · rename_i empty
    exact absurd empty busy
  · rename_i data rest _
    dsimp only
    have called : Keeps c ((c.callTls tls).record (.write data tls.result)) :=
      (keeps_callTls tls).record _ nofun
    have judged := (Judged.of_called called (SslClient.status_callTls tls)
      (@SslClient.ioCount_callTls TcpClient _ c tls) .connected (ioError tls.result)).congr
      (by rw [Option.isSome_iff_ne_none] : _ ↔ c.status ≠ .disconnected ∧
        (c.status = .disconnecting ∨ c.status = .error ∨ ioError tls.result ≠ none) ∧
        c.ioCount - 1 ≤ 0)
    generalize SslClient.handleAnything id .connected (ioError tls.result)
      ((c.callTls tls).record (.write data tls.result)) = result at judged ⊢
    obtain ⟨d, going⟩ := result
    cases going with
    | false => exact judged.outcome
    | true =>
        have live := (judged.alive rfl).1.1
        dsimp only
        split <;> split
        · exact judged.goOn ⟨Iff.rfl, rfl, rfl⟩ live
        · exact judged.goOn ⟨Iff.rfl, rfl, rfl⟩ live
        · exact judged.goOn ⟨Iff.rfl, rfl, rfl⟩ live
        · exact judged.goOn ⟨Iff.rfl, rfl, rfl⟩ live

/-- Nothing that matters has been changed before. -/
theorem Outcome.after {b : SslClient TcpClient} (outcome : Outcome ends c d) (keeps : Keeps b c)
    (status : c.status = .disconnected ↔ b.status = .disconnected) : Outcome ends b d :=
  ⟨keeps.trans outcome.toKeeps, outcome.status.trans (or_congr_left status)⟩

theorem Outcome.congr {ends' : Prop} (outcome : Outcome ends c d) (same : ends ↔ ends') :
    Outcome ends' c d :=
  ⟨outcome.toKeeps, outcome.status.trans (or_congr_right same)⟩

theorem Outcome.same (keeps : Keeps c d) (status : d.status = c.status) (never : ¬ ends) :
    Outcome ends c d :=
  ⟨keeps, by rw [status, or_iff_left never]⟩

theorem outcome_send (data : Str) (tls : Tls) (timerError : Bool) :
    Outcome (c.status = .connected ∧ c.writeBuffer = [] ∧ ioError tls.result ≠ none ∧
      c.ioCount ≤ 0) c (c.send id data tls timerError) := by
  unfold SslClient.send
  split
  · rename_i other
    exact .same (.refl c) rfl fun ended => other ended.1
  · rename_i connected
    have status : c.status = .connected := not_not.mp connected
    have queued : Keeps c { c with writeBuffer := c.writeBuffer ++ [data] } :=
      ⟨Iff.rfl, rfl, rfl⟩
    have pushed := queued.record (.send data) nofun
    dsimp only
    split
    · rename_i idle
      have empty : c.writeBuffer = [] := by simpa using idle
      have raised : Keeps c ({ { c with writeBuffer := c.writeBuffer ++ [data] }.record
          (.send data) with ioCount := c.ioCount + 1 }) := ⟨pushed.down, pushed.ssl, pushed.tcp⟩
      have queue : c.writeBuffer ++ [data] ≠ [] := by simp
      have written := @outcome_handleWrite
        { { c with writeBuffer := c.writeBuffer ++ [data] }.record (.send data) with
          ioCount := c.ioCount + 1 } queue tls timerError
      refine (Outcome.after written raised Iff.rfl).congr ?_
      show (c.status ≠ .disconnected ∧ (c.status = .disconnecting ∨ c.status = .error ∨ _) ∧
        c.ioCount + 1 - 1 ≤ 0) ↔ _
      rw [status, empty, Int.add_sub_cancel]
      simp
    · rename_i busy
      have waiting : c.writeBuffer ≠ [] := by simpa using busy
      exact .same pushed rfl fun ended => waiting ended.2.1

theorem outcome_disconnect : Outcome False c c.disconnect := by
  unfold SslClient.disconnect
  split
  · rename_i live
    have kept := @keeps_disconnect c
    have closing : Keeps c { c with
        status := .disconnecting, tcpClient := TcpLayer.disconnect c.tcpClient } :=
      ⟨kept.down, kept.ssl, kept.tcp⟩
    exact ⟨closing.record _ nofun, iff_of_false nofun (not_or.mpr ⟨live.1, id⟩)⟩
  · exact .same (.refl c) rfl id

/-! ## Steps -/

variable {s t : SslStack} {e : Event}

/-- What becomes of being in step depends on whether the upper client ends early. -/
theorem Outcome.inStep_iff {reading thenRead : Bool} (outcome : Outcome ends s.ssl d)
    (inStep : InStep s) :
    InStep ⟨d, reading, thenRead⟩ ↔ ¬ (s.tcp.status ≠ .disconnected ∧ ends) := by
  have connects : sslConnects d = tcpConnects d.tcpClient :=
    outcome.ssl.trans (inStep.connects.trans outcome.tcp.symm)
  constructor
  · intro inStep' early
    exact early.1 (outcome.down.mp (inStep'.disconnected (outcome.status.mpr (Or.inr early.2))))
  · intro fine
    refine ⟨fun free => ?_, connects⟩
    refine outcome.down.mpr ?_
    rcases outcome.status.mp free with before | ended
    · exact inStep.disconnected before
    · exact by_contra fun up => fine ⟨up, ended⟩

/-- A call of `connect` that is accepted by the one client is accepted by the other. -/
theorem InStep.connect (inStep : InStep s) (setup : SslClient.TlsSetup) :
    InStep { s with ssl := s.ssl.connect setup } := by
  have initialized : InStep { s with ssl := { s.ssl with sslInitialized := true } } :=
    ⟨inStep.disconnected, inStep.connects⟩
  unfold SslClient.connect
  dsimp only
  split
  · exact inStep
  · split
    · exact initialized
    · rename_i idle
      split
      · exact initialized
      · split
        · exact initialized
        · have free : s.ssl.tcpClient.status = .disconnected :=
            inStep.disconnected (not_not.mp idle)
          have started : tcpConnects s.ssl.tcpClient.connect = tcpConnects s.ssl.tcpClient + 1 := by
            unfold TcpClient.connect
            rw [if_neg (not_not.mpr free), tcpConnects_record]
            rfl
          have connects : sslConnects s.ssl = tcpConnects s.ssl.tcpClient := inStep.connects
          refine ⟨nofun, ?_⟩
          show sslConnects (SslClient.record .connect _) = tcpConnects s.ssl.tcpClient.connect
          rw [sslConnects_record, started, ← connects]
          rfl

/-- The handler of the operation says that a connection is open or that data has come. -/
def Tells (operation : TcpClient.Operation) (result : TcpClient.Completion) (c : TcpClient) :
    Prop :=
  c.status ≠ .disconnected ∧ c.status ≠ .disconnecting ∧
    TcpClient.failure operation result = none ∧ (operation = .connect ∨ operation = .read)

/-- What the handler of an operation of the TCP client does before it notifies anybody. -/
inductive TurnCase (operation : TcpClient.Operation) (result : TcpClient.Completion)
    (c : TcpClient) : TcpClient.Turn → Prop
  | silent (t : TcpClient) : ¬ Tells operation result c →
    (t.status = .disconnected ↔ c.status = .disconnected) → tcpConnects t = tcpConnects c →
    TurnCase operation result c { client := t }
  | terminal (t : TcpClient) (notification : Notification) : ¬ Tells operation result c →
    notification.Terminal → t.status = .disconnected → tcpConnects t = tcpConnects c →
    TurnCase operation result c { client := t, notification := some notification }
  | opened (t : TcpClient) : c.status ≠ .disconnected → c.status ≠ .disconnecting →
    TcpClient.failure operation result = none → operation = .connect →
    t.status ≠ .disconnected → tcpConnects t = tcpConnects c →
    TurnCase operation result c { client := t, notification := some .connect, thenRead := true }
  | received (t : TcpClient) : c.status ≠ .disconnected → c.status ≠ .disconnecting →
    TcpClient.failure operation result = none → operation = .read →
    t.status ≠ .disconnected → tcpConnects t = tcpConnects c →
    TurnCase operation result c
      { client := t, notification := some (.receivedData result.bytes), thenRead := true }

theorem turn_cases (operation : TcpClient.Operation) (result : TcpClient.Completion)
    (c : TcpClient) : TurnCase operation result c (c.handle operation result) := by
  rw [TcpClient.handle_eq]
  have effect := TcpClient.handleAnything_cases operation.awaited
    (TcpClient.failure operation result) c
  have told : ∀ notification, (c.handleAnything operation.awaited
      (TcpClient.failure operation result)).2.1 = some notification → notification.Terminal := by
    intro notification same
    rw [TcpClient.handleAnything_ending same]
    unfold ConnectionGrammar.ending
    split <;> trivial
  generalize c.handleAnything operation.awaited (TcpClient.failure operation result) = outcome
    at effect told
  have quiet : c.status = .disconnecting ∨ (TcpClient.failure operation result).isSome →
      ¬ Tells operation result c := by
    rintro (closing | failed) tells
    · exact tells.2.1 closing
    · rw [tells.2.2.1] at failed
      cases failed
  cases effect with
  | ignored free => exact .silent _ (fun tells => tells.1 free) Iff.rfl rfl
  | waiting busy failed _ => exact .silent _ (quiet failed) Iff.rfl rfl
  | ended notification busy failed _ =>
      exact .terminal _ _ (quiet failed) (told notification rfl) rfl rfl
  | alive busy open' noError =>
      cases operation with
      | resolve => exact .silent _ (by simp [Tells]) (iff_of_false nofun busy) rfl
      | connect => exact .opened _ busy open' noError rfl nofun rfl
      | read => exact .received _ busy open' noError rfl busy rfl
      | write =>
          dsimp only [TcpClient.goOn]
          split
          · refine .silent _ (by simp [Tells]) ?_ (tcpConnects_asyncWrite _)
            rw [TcpClient.status_asyncWrite]
          · exact .silent _ (by simp [Tells]) Iff.rfl rfl

/-- A wait that fires. -/
theorem outcome_timer (tls : Tls) (timerError : Bool) :
    Outcome (c.status ≠ .disconnected ∧ c.writeBuffer ≠ [] ∧
      (c.status = .disconnecting ∨ c.status = .error ∨ ioError tls.result ≠ none) ∧
      c.ioCount ≤ 1) c ({ c with waits := c.waits - 1 }.handleWrite id tls timerError) := by
  have fired : Keeps c { c with waits := c.waits - 1 } := ⟨Iff.rfl, rfl, rfl⟩
  by_cases empty : c.writeBuffer = []
  · have idle : { c with waits := c.waits - 1 }.handleWrite id tls timerError =
        { c with waits := c.waits - 1, ioCount := c.ioCount - 1 } := by
      unfold SslClient.handleWrite
      simp only [empty]
    rw [idle]
    exact .same ⟨Iff.rfl, rfl, rfl⟩ rfl fun ended => ended.2.1 empty
  · have written := @outcome_handleWrite { c with waits := c.waits - 1 } empty tls timerError
    refine (Outcome.after written fired Iff.rfl).congr ?_
    have last : c.ioCount - 1 ≤ 0 ↔ c.ioCount ≤ 1 := by omega
    simp only [last, ne_eq, empty, not_false_eq_true, true_and]

/-- One round of the loop. -/
theorem outcome_read (status : c.status = .connected) (tls : Tls) :
    Outcome (ioError tls.result ≠ none ∧ c.ioCount ≤ 0) c
      (SslClient.Session.read tls c).client := by
  have raised : Keeps c { c with ioCount := c.ioCount + 1 } := ⟨Iff.rfl, rfl, rfl⟩
  have handled := @outcome_handleRead { c with ioCount := c.ioCount + 1 } status tls
  refine (Outcome.after handled raised Iff.rfl).congr ?_
  rw [Int.add_sub_cancel]

/-- A connection of the TCP client that is up, or data on one in the handshake. -/
theorem outcome_shake (t : TcpClient) (tls : Tls) (buffer : Str)
    (keeps : Keeps c { c with tcpClient := t }) (live : c.status ≠ .disconnected) :
    Outcome (tls.result ≠ 0 ∧ ¬ wants tls.result ∧ c.ioCount ≤ 0) c
      ({ c with
        tcpClient := t, sslBuffer := buffer, status := .handshake,
        ioCount := c.ioCount + 1 }.handleHandshake id tls) := by
  have raised : Keeps c { c with
      tcpClient := t, sslBuffer := buffer, status := .handshake, ioCount := c.ioCount + 1 } :=
    ⟨keeps.down, keeps.ssl, keeps.tcp⟩
  have handled := @outcome_handleHandshake { c with
    tcpClient := t, sslBuffer := buffer, status := .handshake, ioCount := c.ioCount + 1 } rfl tls
  refine (Outcome.after handled raised (iff_of_false nofun live)).congr ?_
  rw [Int.add_sub_cancel]

/-- A handler told that the TCP client is disconnected. -/
theorem keeps_terminal {notification : Notification} (terminal : notification.Terminal)
    (tls : Tls) : Keeps c (notified notification tls c).client := by
  have raised : Keeps c { c with ioCount := c.ioCount + 1 } := ⟨Iff.rfl, rfl, rfl⟩
  have silent : (fun s : SslClient TcpClient => s.calls []) = id := rfl
  cases notification with
  | connect => exact terminal.elim
  | receivedData data => exact terminal.elim
  | disconnect reason =>
      show Keeps c (SslClient.handleAnything _ _ _ _).1
      rw [silent]
      exact raised.trans (outcome_handleAnything _ _).toKeeps
  | error code =>
      show Keeps c (SslClient.handleAnything _ _ _ _).1
      rw [silent]
      exact raised.trans (outcome_handleAnything _ _).toKeeps

theorem handshakes_iff {index : Nat} {operation : TcpClient.Operation}
    {result : TcpClient.Completion}
    (found : s.tcp.pending[index]? = some ⟨operation, some result⟩) :
    s.Handshakes index ↔ s.tcp.status ≠ .disconnecting ∧
      TcpClient.failure operation result = none ∧
        (operation = .connect ∨ operation = .read ∧ s.ssl.status = .handshake) := by
  unfold Handshakes
  rw [found]

/-- A completion that hands nothing to mbedtls. -/
theorem not_endsEarly {index : Nat} {operation : TcpClient.Operation}
    {result : TcpClient.Completion} {tls : Tls}
    (found : s.tcp.pending[index]? = some ⟨operation, some result⟩)
    (quiet : ¬ Tells operation result s.tcp) : ¬ EndsEarly s (.complete index tls) := by
  intro early
  obtain ⟨open', noError, told⟩ := (handshakes_iff found).mp early.2.1
  exact quiet ⟨early.1, open', noError, told.imp_right And.left⟩

/-- The TCP client has noted a notification. -/
theorem keeps_notified {t : TcpClient} (notification : Notification)
    (down : t.status = .disconnected ↔ c.tcpClient.status = .disconnected)
    (connects : tcpConnects t = tcpConnects c.tcpClient) :
    Keeps c { c with tcpClient := t.record (.notify notification) } := by
  refine ⟨down, rfl, ?_⟩
  rw [tcpConnects_record]
  exact connects

/-- The TCP client says that data has come. -/
theorem InStep.receive_iff {t : TcpClient} {data : Str} {index : Nat} {tls : Tls}
    (inStep : InStep s) (up : s.ssl.status ≠ .disconnected)
    (kept : Keeps s.ssl { s.ssl with tcpClient := t.record (.notify (.receivedData data)) })
    (handshakes : s.Handshakes index ↔ s.ssl.status = .handshake) :
    InStep (s.resume
      { client := t, notification := some (.receivedData data), thenRead := true } tls) ↔
      ¬ EndsEarly s (.complete index tls) := by
  show InStep (SslStack.mk (SslClient.Session.receive _ _ _).client
    (SslClient.Session.receive _ _ _).reading true) ↔ _
  unfold SslClient.Session.receive
  dsimp only
  split
  · rename_i shaking
    have handled := outcome_shake _ tls (s.ssl.sslBuffer ++ data) kept up
    rw [← shaking] at handled
    apply (handled.inStep_iff inStep).trans
    refine not_congr (and_congr_right fun _ => ?_)
    exact (and_iff_right (handshakes.mpr shaking)).symm
  · rename_i other
    refine iff_of_true ⟨fun free => absurd free up, ?_⟩ fun early =>
      other (handshakes.mp early.2.1)
    exact kept.ssl.trans (inStep.connects.trans kept.tcp.symm)

/-- The handler of a finished operation of the TCP client. -/
theorem InStep.complete_iff {index : Nat} {operation : TcpClient.Operation}
    {result : TcpClient.Completion} (inStep : InStep s)
    (found : s.tcp.pending[index]? = some ⟨operation, some result⟩) (tls : Tls) :
    InStep (s.resume
      ({ s.tcp with pending := s.tcp.pending.eraseIdx index }.handle operation result) tls) ↔
      ¬ EndsEarly s (.complete index tls) := by
  have effect := turn_cases operation result
    { s.tcp with pending := s.tcp.pending.eraseIdx index }
  generalize TcpClient.handle operation result
    { s.tcp with pending := s.tcp.pending.eraseIdx index } = turn at effect ⊢
  have up : s.tcp.status ≠ .disconnected → s.ssl.status ≠ .disconnected :=
    fun busy free => busy (inStep.disconnected free)
  cases effect with
  | silent t quiet down connects =>
      refine iff_of_true ⟨fun free => down.mpr (inStep.disconnected free), ?_⟩
        (not_endsEarly found quiet)
      exact inStep.connects.trans connects.symm
  | terminal t notification quiet terminal down connects =>
      have kept := @keeps_terminal
        { s.ssl with tcpClient := t.record (.notify notification) } notification terminal tls
      refine iff_of_true ⟨fun _ => kept.down.mpr down, ?_⟩ (not_endsEarly found quiet)
      refine kept.ssl.trans (Eq.trans ?_ kept.tcp.symm)
      rw [tcpConnects_record]
      exact inStep.connects.trans connects.symm
  | opened t busy open' noError isConnect live connects =>
      have kept := @keeps_notified s.ssl t .connect (iff_of_false live busy) connects
      have handled := outcome_shake _ tls s.ssl.sslBuffer kept (up busy)
      have shakes : s.Handshakes index :=
        (handshakes_iff found).mpr ⟨open', noError, Or.inl isConnect⟩
      apply (handled.inStep_iff inStep).trans
      exact not_congr (and_congr_right fun _ => (and_iff_right shakes).symm)
  | received t busy open' noError isRead live connects =>
      have kept := @keeps_notified s.ssl t (.receivedData result.bytes)
        (iff_of_false live busy) connects
      apply inStep.receive_iff (up busy) kept
      constructor
      · intro shakes
        rcases ((handshakes_iff found).mp shakes).2.2 with opening | ⟨_, shaking⟩
        · cases isRead.symm.trans opening
        · exact shaking
      · exact fun shaking =>
          (handshakes_iff found).mpr ⟨open', noError, Or.inr ⟨isRead, shaking⟩⟩

/-- An event keeps the clients in step exactly if the upper one does not end early. -/
theorem InStep.step_iff (inStep : InStep s) (taken : s.step e = some t) :
    InStep t ↔ ¬ EndsEarly s e := by
  cases e with
  | connect setup =>
      cases taken
      exact iff_of_true (inStep.connect setup) And.right
  | disconnect =>
      cases taken
      exact outcome_disconnect.inStep_iff inStep
  | send data tls timerError =>
      cases taken
      exact (outcome_send data tls timerError).inStep_iff inStep
  | timer tls timerError =>
      dsimp only [step] at taken
      split at taken
      · cases taken
      · cases taken
        exact (outcome_timer tls timerError).inStep_iff inStep
  | finish index result =>
      dsimp only [step] at taken
      split at taken
      · cases taken
        exact iff_of_true ⟨inStep.disconnected, inStep.connects⟩ And.right
      · cases taken
  | complete index tls =>
      dsimp only [step] at taken
      split at taken
      · cases taken
      · split at taken
        · rename_i found
          cases taken
          exact inStep.complete_iff found tls
        · cases taken
  | read tls =>
      dsimp only [step] at taken
      split at taken
      · rename_i enabled
        cases taken
        exact (outcome_read enabled.2 tls).inStep_iff inStep
      · cases taken
  | leave =>
      dsimp only [step] at taken
      split at taken
      · cases taken
        exact iff_of_true ⟨inStep.disconnected, inStep.connects⟩ And.right
      · cases taken
  | asyncRead =>
      dsimp only [step] at taken
      split at taken
      · cases taken
        refine iff_of_true ⟨fun free => ?_, ?_⟩ And.right
        · exact (@TcpClient.status_asyncRead s.tcp).trans (inStep.disconnected free)
        · have started : tcpConnects s.tcp.asyncRead = tcpConnects s.tcp :=
            tcpConnects_startOnSocket _ _
          exact inStep.connects.trans started.symm
      · cases taken

/-! ## Runs -/

/-- The clients are in step in all states of a run exactly if the upper client never ends a
connection before the TCP client is disconnected. -/
theorem forall_visits_inStep_iff {events : List Event} (run : Run step {} events t) :
    (∀ s, Visits step {} events s → InStep s) ↔
      Guarded step (fun s e => ¬ EndsEarly s e) {} events := by
  have keeps : ∀ {s e t}, True → InStep s → ¬ EndsEarly s e → s.step e = some t →
      True ∧ InStep t := fun _ inStep inTime taken => ⟨trivial, (inStep.step_iff taken).mpr inTime⟩
  have breaks : ∀ {s e t}, True → InStep s → ¬ ¬ EndsEarly s e → s.step e = some t →
      ¬ InStep t := fun _ inStep early taken inStep' => early ((inStep.step_iff taken).mp inStep')
  exact forall_visits_iff_guarded keeps breaks run trivial ⟨fun _ => rfl, rfl⟩

/-- The peer says goodbye on a connection, and the owner connects once more. -/
def reconnects : List Event :=
  [.connect {}, .finish 0 {}, .complete 0 { result := 0 }, .finish 0 {},
    .complete 0 { result := SslClient.wantRead }, .asyncRead,
    .finish 0 { bytes := ['S'] }, .complete 0 { result := 0 }, .asyncRead,
    .finish 0 { error := some .eof }, .complete 0 { result := 0 }, .connect {}]

theorem forall_visits_inStep_iff_reconnects :
    ∃ t, Run step {} reconnects t ∧ sslConnects t.ssl = 2 ∧ tcpConnects t.tcp = 2 ∧
      ((∀ s, Visits step {} reconnects s → InStep s) ↔
        Guarded step (fun s e => ¬ EndsEarly s e) {} reconnects) ∧
      Guarded step (fun s e => ¬ EndsEarly s e) {} reconnects := by
  have executed : (reconnects.foldlM step {}).map
      (fun t => (sslConnects t.ssl, tcpConnects t.tcp)) = some (2, 2) := by
    decide +kernel
  have inTime : Guarded step (fun s e => ¬ EndsEarly s e) {} reconnects := by
    decide +kernel
  obtain ⟨t, folded, counts⟩ := Option.map_eq_some_iff.mp executed
  have run : Run step {} reconnects t := .of_foldlM folded
  exact ⟨t, run, (Prod.ext_iff.mp counts).1, (Prod.ext_iff.mp counts).2,
    forall_visits_inStep_iff run, inTime⟩

/-- The handshake fails. -/
def handshakeFails : List Event :=
  [.connect {}, .finish 0 {}, .complete 0 { result := 0 }, .finish 0 {},
    .complete 0 { result := -1 }, .asyncRead]

/-- The owner has been told of the end while the TCP client is still closing, and if it connects
again the new connection of the upper client is none of the TCP client. -/
theorem not_forall_visits_inStep :
    (¬ ∀ events t, Run step {} events t → t.reading = false → t.thenRead = false →
      t.ssl.status = .disconnected → t.tcp.status = .disconnected) ∧
    ¬ ∀ events t, Run step {} events t → sslConnects t.ssl = tcpConnects t.tcp := by
  constructor
  · intro claim
    have executed : (handshakeFails.foldlM step {}).map
        (fun t => (t.reading, t.thenRead, t.ssl.status, t.tcp.status)) =
          some (false, false, .disconnected, .disconnecting) := by
      decide +kernel
    obtain ⟨t, folded, now⟩ := Option.map_eq_some_iff.mp executed
    simp only [Prod.mk.injEq] at now
    obtain ⟨notReading, handled, free, closing⟩ := now
    have down := claim handshakeFails t (.of_foldlM folded) notReading handled free
    cases closing.symm.trans down
  · intro claim
    have executed : ((handshakeFails ++ [Event.connect {}]).foldlM step {}).map
        (fun t => (sslConnects t.ssl, tcpConnects t.tcp)) = some (2, 1) := by
      decide +kernel
    obtain ⟨t, folded, counts⟩ := Option.map_eq_some_iff.mp executed
    simp only [Prod.mk.injEq] at counts
    have connects := claim _ t (.of_foldlM folded)
    rw [counts.1, counts.2] at connects
    cases connects

end SslStack

end GpsInformer
