import GpsInformer.Lib.Segments
import GpsInformer.SslClientMoves

/-!
# `SslClient`: what mbedtls is given to write

`mbedtls_ssl_write` may take a part of a string only; its result says how much.
`handleWrite` drops the string from the queue whatever the result is, as long as it is
positive, and so loses the rest of it.  If each string is taken as a whole, everything that is
sent on a connection is taken in order, and nothing is left in the queue when no wait is
pending.

Once the connection is being closed the head of the queue stays where it is, even if it is
taken; it must not be taken twice (`Untouched`).
-/

namespace GpsInformer.SslClient

open Lib

namespace Action

/-- A connection starts when `connect` is accepted. -/
def starts : Action → Bool
  | .connect => true
  | _ => false

def sent : Action → Option Str
  | .send data => some data
  | _ => none

/-- The part of a string that `mbedtls_ssl_write` has taken. -/
def accepted : Action → Option Str
  | .write data result => some (data.take result.toNat)
  | _ => none

end Action

/-- What has been done on the connection since it was started. -/
def connection (trace : List Action) : List Action := segment Action.starts trace

/-- The bytes passed to `send`. -/
def sent (actions : List Action) : Str := (actions.filterMap Action.sent).flatten

/-- The bytes taken by `mbedtls_ssl_write`. -/
def accepted (actions : List Action) : Str := (actions.filterMap Action.accepted).flatten

variable {τ : Type} {s t : SslClient TcpPhase} {error : Option ErrorCode}

/-- The bytes mbedtls takes on a connection are the first ones sent on it, and all of them if
the client is still connected and no wait is pending. -/
structure Delivers (s : SslClient τ) : Prop where
  inOrder : ∀ front, front <+: s.trace → accepted (connection front) <+: sent (connection front)
  whole : s.status = .connected → s.waits = 0 →
    accepted (connection s.trace) = sent (connection s.trace)

/-- Nothing in the queue has been taken by mbedtls. -/
def Untouched (s : SslClient τ) : Prop :=
  (accepted (connection s.trace)).length + s.writeBuffer.flatten.length =
    (sent (connection s.trace)).length

instance (s : SslClient τ) : Decidable (Untouched s) := inferInstanceAs (Decidable (_ = _))

/-- `mbedtls_ssl_write` takes the head of `queue` as a whole, if at all, and not again; and
while something is left a wait is pending. -/
structure TakesAll (s : SslClient τ) (queue : List Str) (waits : Nat) (tls : Tls)
    (timerError : Bool) : Prop where
  whole : s.status = .connected → 0 < tls.result → tls.result = (queue.headD []).length
  once : s.status ≠ .connected → 0 < tls.result → Untouched s
  armed : s.status = .connected → timerError = true →
    ¬ wants tls.result ∧ queue.tail = [] ∨ waits ≠ 0

instance (s : SslClient τ) (queue : List Str) (waits : Nat) (tls : Tls) (timerError : Bool) :
    Decidable (TakesAll s queue waits tls timerError) :=
  decidable_of_iff
    ((s.status = .connected → 0 < tls.result → tls.result = (queue.headD []).length) ∧
      (s.status ≠ .connected → 0 < tls.result → Untouched s) ∧
      (s.status = .connected → timerError = true →
        ¬ wants tls.result ∧ queue.tail = [] ∨ waits ≠ 0))
    ⟨fun all => ⟨all.1, all.2.1, all.2.2⟩, fun takes => ⟨takes.whole, takes.once, takes.armed⟩⟩

/-- The condition on the moves that write something. -/
def TakesAllOf (s : Session TcpPhase) : Move → Prop
  | .send data tls timerError => s.client.status = .connected → s.client.writeBuffer = [] →
      TakesAll s.client [data] s.client.waits tls timerError
  | .timer tls timerError => s.client.writeBuffer ≠ [] →
      TakesAll s.client s.client.writeBuffer (s.client.waits - 1) tls timerError
  | _ => True

instance : ∀ s move, Decidable (TakesAllOf s move)
  | s, .send _ _ _ => inferInstanceAs (Decidable (s.client.status = .connected → _))
  | s, .timer _ _ => inferInstanceAs (Decidable (s.client.writeBuffer ≠ [] → _))
  | _, .connect _ | _, .disconnect | _, .read _ | _, .leave | _, .tcpConnect _
  | _, .tcpReceivedData _ _ | _, .tcpDisconnect | _, .tcpError _ => .isTrue trivial

/-! ## The invariant -/

/-- What is known of the queue in a status, of what has been sent and taken. -/
def Queue (buffer : List Str) (sent accepted : Str) : Status → Prop
  | .disconnected => buffer = []
  | .connecting | .handshake => buffer = [] ∧ sent = [] ∧ accepted = []
  | .connected => sent = accepted ++ buffer.flatten
  | .disconnecting | .error =>
      accepted.length + buffer.flatten.length = sent.length → sent = accepted ++ buffer.flatten

/-- The invariant but for the timer. -/
structure Kept (s : SslClient TcpPhase) : Prop where
  inOrder : InSegments Action.starts (fun here => accepted here <+: sent here) s.trace
  queue : Queue s.writeBuffer (sent (connection s.trace)) (accepted (connection s.trace)) s.status
  opening : s.tcpClient = .connecting → s.status = .connecting

structure Delivering (s : SslClient TcpPhase) : Prop extends Kept s where
  armed : s.status = .connected → s.writeBuffer ≠ [] → s.waits ≠ 0

theorem Delivering.delivers (delivering : Delivering s) : Delivers s := by
  refine ⟨delivering.inOrder, fun connected idle => ?_⟩
  have queue := delivering.queue
  rw [connected] at queue
  have empty : s.writeBuffer = [] := by
    by_contra some'
    exact delivering.armed connected some' idle
  rw [empty] at queue
  exact (queue.trans (List.append_nil _)).symm

/-- A connection that fails or is closed. -/
theorem Queue.fail {buffer : List Str} {sent accepted : Str} {status status' : Status}
    (queue : Queue buffer sent accepted status) (busy : status ≠ .disconnected)
    (failed : status' = .error ∨ status' = .disconnecting) :
    Queue buffer sent accepted status' := by
  have goal : accepted.length + buffer.flatten.length = sent.length →
      sent = accepted ++ buffer.flatten := by
    cases status with
    | disconnected => exact absurd rfl busy
    | connecting | handshake =>
        obtain ⟨rfl, rfl, rfl⟩ := queue
        exact fun _ => rfl
    | connected => exact fun _ => queue
    | disconnecting | error => exact queue
  rcases failed with rfl | rfl
  · exact goal
  · exact goal

/-- Actions that send and write nothing do not matter. -/
theorem connection_record {action : Action} (later : action.starts = false) :
    connection (s.record action).trace = connection s.trace ++ [action] :=
  segment_concat later

theorem sent_concat (actions : List Action) (action : Action) :
    sent (actions ++ [action]) = sent actions ++ action.sent.getD [] := by
  unfold sent
  rw [filterMap_concat, List.flatten_append]
  cases action.sent <;> simp

theorem accepted_concat (actions : List Action) (action : Action) :
    accepted (actions ++ [action]) = accepted actions ++ action.accepted.getD [] := by
  unfold accepted
  rw [filterMap_concat, List.flatten_append]
  cases action.accepted <;> simp

theorem Kept.record (kept : Kept s) {action : Action} (later : action.starts = false)
    (noSend : action.sent = none) (noWrite : action.accepted = none) : Kept (s.record action) := by
  have sent_eq : sent (connection (s.record action).trace) = sent (connection s.trace) := by
    rw [connection_record later, sent_concat, noSend]
    exact List.append_nil _
  have accepted_eq : accepted (connection (s.record action).trace) =
      accepted (connection s.trace) := by
    rw [connection_record later, accepted_concat, noWrite]
    exact List.append_nil _
  refine ⟨kept.inOrder.concat ?_, ?_, kept.opening⟩
  · show accepted (connection (s.record action).trace) <+: sent (connection (s.record action).trace)
    rw [sent_eq, accepted_eq]
    exact kept.inOrder.now
  · rw [sent_eq, accepted_eq]
    exact kept.queue

theorem disconnect_ne_connecting (phase : TcpPhase) :
    TcpPhase.disconnect phase ≠ .connecting := by
  cases phase <;> exact nofun

/-- The spec of `handleAnything`. -/
theorem Kept.handleAnything (kept : Kept s) (handleStatus : Status) (error : Option ErrorCode) :
    ((s.handleAnything id handleStatus error).2 = false ∧
      Delivering (s.handleAnything id handleStatus error).1) ∨
    (s.handleAnything id handleStatus error = ({ s with ioCount := s.ioCount - 1 }, true) ∧
      s.status.Live ∧ error = none) := by
  have effect := handleAnything_cases handleStatus error s
  generalize s.handleAnything id handleStatus error = outcome at effect ⊢
  cases effect with
  | ignored free =>
      refine Or.inl ⟨rfl, ⟨⟨kept.inOrder, kept.queue, kept.opening⟩, fun connected => ?_⟩⟩
      cases free.symm.trans connected
  | waiting busy _ _ =>
      have failed := s.status.fail_cases
      refine Or.inl ⟨rfl, ⟨⟨kept.inOrder, kept.queue.fail busy failed, fun phase => ?_⟩,
        fun connected => ?_⟩⟩
      · exact absurd phase (disconnect_ne_connecting _)
      · have connected' : s.status.fail = .connected := connected
        rw [connected'] at failed
        exact failed.elim nofun nofun
  | ended notification _ _ _ =>
      have closed : Kept { s with
          ioCount := 0
          status := .disconnected
          tcpClient := TcpPhase.disconnect s.tcpClient
          writeBuffer := []
          wasConnected := false } :=
        ⟨kept.inOrder, rfl, fun phase => absurd phase (disconnect_ne_connecting _)⟩
      exact Or.inl ⟨rfl, ⟨closed.record rfl rfl rfl, nofun⟩⟩
  | alive live noError => exact Or.inr ⟨rfl, live, noError⟩

/-! ## Writing -/

theorem sent_write (data : Str) (result : Int) :
    sent (connection (s.record (.write data result)).trace) = sent (connection s.trace) := by
  rw [connection_record rfl, sent_concat]
  exact List.append_nil _

theorem accepted_write (data : Str) (result : Int) :
    accepted (connection (s.record (.write data result)).trace) =
      accepted (connection s.trace) ++ data.take result.toNat := by
  rw [connection_record rfl, accepted_concat]
  rfl

theorem take_toNat {result : Int} (nothing : ¬ 0 < result) (data : Str) :
    data.take result.toNat = [] := by
  rw [Int.toNat_eq_zero.mpr (Int.not_lt.mp nothing)]
  rfl

/-- What is in the queue is what is left to be taken. -/
theorem Kept.left (kept : Kept s) (busy : s.writeBuffer ≠ [])
    (once : s.status ≠ .connected → Untouched s) :
    sent (connection s.trace) = accepted (connection s.trace) ++ s.writeBuffer.flatten := by
  have queue := kept.queue
  cases status : s.status with
  | disconnected =>
      rw [status] at queue
      exact absurd queue busy
  | connecting | handshake =>
      rw [status] at queue
      exact absurd queue.1 busy
  | connected =>
      rw [status] at queue
      exact queue
  | disconnecting | error =>
      rw [status] at queue once
      exact queue (once nofun)

/-- What mbedtls takes comes next. -/
theorem Kept.inOrder_write (kept : Kept s) {data : Str} {rest : List Str} {result : Int}
    (head : s.writeBuffer = data :: rest)
    (once : s.status ≠ .connected → 0 < result → Untouched s) :
    InSegments Action.starts (fun here => accepted here <+: sent here)
      (s.record (.write data result)).trace := by
  refine kept.inOrder.concat ?_
  show accepted (connection (s.record (.write data result)).trace) <+:
    sent (connection (s.record (.write data result)).trace)
  rw [sent_write, accepted_write]
  by_cases takes : 0 < result
  · have left := kept.left (by rw [head]; exact nofun) fun closing => once closing takes
    rw [left, head, List.flatten_cons]
    exact (List.prefix_append_right_inj _).mpr
      ((List.take_prefix _ _).trans (List.prefix_append _ _))
  · rw [take_toNat takes, List.append_nil]
    exact kept.inOrder.now

/-- A write on a connection that is being closed, or one that takes nothing. -/
theorem Kept.write (kept : Kept s) {data : Str} {rest : List Str} {result : Int}
    (head : s.writeBuffer = data :: rest)
    (once : s.status ≠ .connected → 0 < result → Untouched s)
    (stays : s.status = .connected → ¬ 0 < result) : Kept (s.record (.write data result)) := by
  refine ⟨kept.inOrder_write head once, ?_, kept.opening⟩
  rw [sent_write, accepted_write]
  have queue := kept.queue
  show Queue s.writeBuffer _ _ s.status
  by_cases takes : 0 < result
  · have closing : s.status ≠ .connected := fun connected => stays connected takes
    have untouched := once closing takes
    have left := kept.left (by rw [head]; exact nofun) fun _ => untouched
    have goal : (accepted (connection s.trace) ++ data.take result.toNat).length +
        s.writeBuffer.flatten.length = (sent (connection s.trace)).length →
        sent (connection s.trace) =
          accepted (connection s.trace) ++ data.take result.toNat ++ s.writeBuffer.flatten := by
      intro again
      have nothing : data.take result.toNat = [] := by
        rw [← List.length_eq_zero_iff]
        unfold Untouched at untouched
        rw [List.length_append] at again
        omega
      rw [nothing, List.append_nil]
      exact left
    cases status : s.status with
    | disconnected =>
        rw [status] at queue
        exact queue
    | connecting | handshake =>
        rw [status] at queue
        rw [queue.1] at head
        cases head
    | connected => exact absurd status closing
    | disconnecting | error => exact goal
  · rw [take_toNat takes, List.append_nil]
    exact queue

/-- A handler that fails needs no timer. -/
theorem ioError_eq_none {result : Int} : ioError result = none ↔ 0 < result ∨ wants result := by
  unfold ioError
  split
  · rename_i failed
    refine iff_of_false nofun fun either => ?_
    rcases either with positive | wants'
    · omega
    · exact failed.2 wants'
  · rename_i fine
    refine iff_of_true rfl ?_
    by_cases positive : 0 < result
    · exact Or.inl positive
    · exact Or.inr (by_contra fun other => fine ⟨Int.not_lt.mp positive, other⟩)

theorem not_wants {result : Int} (positive : 0 < result) : ¬ wants result := by
  unfold wants wantRead wantWrite
  omega

theorem Kept.callTls (kept : Kept s) (tls : Tls) : Kept (s.callTls tls) := by
  obtain ⟨sslBuffer, eq⟩ := callTls_eq tls s
  rw [eq]
  exact ⟨kept.inOrder, kept.queue, kept.opening⟩

/-- A string that mbedtls takes as a whole leaves the queue. -/
theorem Kept.pop (kept : Kept s) {data : Str} {rest : List Str} {result : Int}
    (head : s.writeBuffer = data :: rest) (connected : s.status = .connected)
    (whole : result = data.length) :
    Kept { s.record (.write data result) with writeBuffer := rest } := by
  have left := kept.left (by rw [head]; exact nofun) fun closing => absurd connected closing
  refine ⟨kept.inOrder_write head fun closing => absurd connected closing, ?_, kept.opening⟩
  show Queue rest (sent (connection (s.record (.write data result)).trace))
    (accepted (connection (s.record (.write data result)).trace)) s.status
  rw [sent_write, accepted_write, connected, whole, Int.toNat_natCast, List.take_length, left, head]
  show _ = _
  rw [List.flatten_cons, List.append_assoc]

/-- The timer is armed, or need not be. -/
theorem Kept.arm (kept : Kept s) (timerError : Bool)
    (armed : timerError = true → s.writeBuffer ≠ [] → s.waits ≠ 0) :
    Delivering (if timerError then s
      else { s with ioCount := s.ioCount + 1, waits := s.waits + 1 }) := by
  cases timerError with
  | true => exact ⟨kept, fun _ => armed rfl⟩
  | false => exact ⟨⟨kept.inOrder, kept.queue, kept.opening⟩, fun _ _ => Nat.succ_ne_zero _⟩

/-- A string that mbedtls takes as a whole, or not at all, while the client is connected. -/
theorem Kept.handleWrite_alive (kept : Kept s) {data : Str} {rest : List Str} {tls : Tls}
    {timerError : Bool} (head : s.writeBuffer = data :: rest) (connected : s.status = .connected)
    (takes : TakesAll s s.writeBuffer s.waits tls timerError)
    (fine : 0 < tls.result ∨ wants tls.result) :
    Delivering (s.handleWrite id tls timerError) := by
  obtain ⟨sslBuffer, eq⟩ := callTls_eq tls s
  have noError : ioError tls.result = none := ioError_eq_none.mpr fine
  have notFailed : ¬ (s.status = .disconnecting ∨ s.status = .error ∨
      (ioError tls.result).isSome) := by
    rw [connected, noError]
    exact fun failed => failed.elim nofun fun failed => failed.elim nofun nofun
  have effect := handleAnything_cases .connected (ioError tls.result)
    ((s.callTls tls).record (.write data tls.result))
  unfold SslClient.handleWrite
  rw [head] at takes ⊢
  dsimp only
  generalize SslClient.handleAnything id .connected (ioError tls.result)
    ((s.callTls tls).record (.write data tls.result)) = outcome at effect ⊢
  rw [eq] at effect
  cases effect with
  | ignored free => cases connected.symm.trans free
  | waiting _ failed _ => exact absurd failed notFailed
  | ended _ _ failed _ => exact absurd failed notFailed
  | alive _ _ =>
      dsimp only
      by_cases asks : wants tls.result
      · have negative : ¬ 0 < tls.result := fun positive => not_wants positive asks
        have written : Kept (s.record (.write data tls.result)) :=
          kept.write head (fun closing => absurd connected closing) fun _ => negative
        rw [if_neg (not_not.mpr asks)]
        refine Kept.arm (s := { { s with sslBuffer }.record (.write data tls.result) with
          ioCount := s.ioCount - 1 })
          ⟨written.inOrder, written.queue, written.opening⟩ timerError ?_
        intro noTimer _
        exact (takes.armed connected noTimer).resolve_left fun done => done.1 asks
      · have positive := fine.resolve_right asks
        have popped := kept.pop head connected (takes.whole connected positive)
        rw [if_pos asks]
        have tail : s.writeBuffer.tail = rest := by
          rw [head]
          rfl
        refine Kept.arm (s := { { s with sslBuffer }.record (.write data tls.result) with
          ioCount := s.ioCount - 1
          writeBuffer := s.writeBuffer.tail })
          ⟨popped.inOrder, ?_, popped.opening⟩ timerError fun noTimer more => ?_
        · show Queue s.writeBuffer.tail _ _ _
          rw [tail]
          exact popped.queue
        · have more' : s.writeBuffer.tail ≠ [] := more
          rw [tail] at more'
          exact (takes.armed connected noTimer).resolve_left fun done => more' done.2

/-- The spec of `handleWrite`. -/
theorem Kept.handleWrite (kept : Kept s) (busy : s.writeBuffer ≠ []) {tls : Tls}
    {timerError : Bool} (takes : TakesAll s s.writeBuffer s.waits tls timerError) :
    Delivering (s.handleWrite id tls timerError) := by
  obtain ⟨data, rest, head⟩ := List.exists_cons_of_ne_nil busy
  by_cases alive : s.status = .connected ∧ (0 < tls.result ∨ wants tls.result)
  · exact kept.handleWrite_alive head alive.1 takes alive.2
  · have stays : s.status = .connected → ¬ 0 < tls.result :=
      fun connected positive => alive ⟨connected, Or.inl positive⟩
    have written : Kept ((s.callTls tls).record (.write data tls.result)) := by
      obtain ⟨sslBuffer, eq⟩ := callTls_eq tls s
      have written := kept.write head takes.once stays
      rw [eq]
      exact ⟨written.inOrder, written.queue, written.opening⟩
    unfold SslClient.handleWrite
    rw [head]
    dsimp only
    rcases written.handleAnything .connected (ioError tls.result) with
      ⟨stopped, delivering⟩ | ⟨_, live, noError⟩
    · split
      · rename_i eq
        rwa [eq] at delivering
      · rename_i eq
        rw [eq] at stopped
        cases stopped
    · -- a connection that is alive has nothing to write before it is connected
      have live' : (s.callTls tls).status.Live := live
      rw [status_callTls] at live'
      have queue := kept.queue
      cases status : s.status with
      | disconnected => exact absurd status live'.1
      | connecting | handshake =>
          rw [status] at queue
          exact absurd queue.1 busy
      | connected => exact absurd ⟨status, ioError_eq_none.mp noError⟩ alive
      | disconnecting => exact absurd status live'.2.1
      | error => exact absurd status live'.2.2

/-! ## Moves -/

theorem Delivering.connect (delivering : Delivering s) (setup : TlsSetup) :
    Delivering (s.connect setup) := by
  have initialized : Delivering { s with sslInitialized := true } :=
    ⟨⟨delivering.inOrder, delivering.queue, delivering.opening⟩, delivering.armed⟩
  unfold SslClient.connect
  dsimp only
  split
  · exact delivering
  · split
    · exact initialized
    · split
      · exact initialized
      · split
        · exact initialized
        · refine ⟨⟨delivering.inOrder.start rfl List.nil_prefix, ?_, fun _ => rfl⟩, nofun⟩
          show Queue [] (sent (connection (s.trace ++ [.connect])))
            (accepted (connection (s.trace ++ [.connect]))) .connecting
          rw [connection, segment_start rfl]
          exact ⟨rfl, rfl, rfl⟩

theorem Delivering.disconnect (delivering : Delivering s) : Delivering s.disconnect := by
  unfold SslClient.disconnect
  split
  · rename_i live
    have closing : Kept { s with
        status := .disconnecting, tcpClient := TcpPhase.disconnect s.tcpClient } :=
      ⟨delivering.inOrder, delivering.queue.fail live.1 (Or.inr rfl),
        fun phase => absurd phase (disconnect_ne_connecting _)⟩
    exact ⟨closing.record rfl rfl rfl, nofun⟩
  · exact delivering

theorem Delivering.send (delivering : Delivering s) {data : Str} {tls : Tls} {timerError : Bool}
    (takes : s.status = .connected → s.writeBuffer = [] →
      TakesAll s [data] s.waits tls timerError) : Delivering (s.send id data tls timerError) := by
  unfold SslClient.send
  split
  · exact delivering
  · rename_i connected
    have status : s.status = .connected := not_not.mp connected
    have queue := delivering.queue
    rw [status] at queue
    have sent_eq : sent (connection (s.trace ++ [.send data])) =
        sent (connection s.trace) ++ data := by
      rw [connection, segment_concat rfl, sent_concat]
      rfl
    have accepted_eq : accepted (connection (s.trace ++ [.send data])) =
        accepted (connection s.trace) := by
      rw [connection, segment_concat rfl, accepted_concat]
      exact List.append_nil _
    have pushed : Kept ({ s with writeBuffer := s.writeBuffer ++ [data] }.record (.send data)) := by
      refine ⟨delivering.inOrder.concat ?_, ?_, delivering.opening⟩
      · show accepted (connection (s.trace ++ [.send data])) <+:
          sent (connection (s.trace ++ [.send data]))
        rw [sent_eq, accepted_eq]
        exact delivering.inOrder.now.trans (List.prefix_append _ _)
      · show Queue (s.writeBuffer ++ [data]) (sent (connection (s.trace ++ [.send data])))
          (accepted (connection (s.trace ++ [.send data]))) s.status
        rw [sent_eq, accepted_eq, status, show sent (connection s.trace) = _ from queue]
        show _ = _
        rw [List.flatten_append, List.append_assoc]
        simp
    dsimp only
    split
    · rename_i idle
      have empty : s.writeBuffer = [] := by simpa using idle
      have takes' := takes status empty
      refine Kept.handleWrite (s := { { s with writeBuffer := s.writeBuffer ++ [data] }.record
        (.send data) with ioCount := s.ioCount + 1 }) ⟨pushed.inOrder, pushed.queue, pushed.opening⟩
        (by simp [SslClient.record])
        ⟨fun _ => ?_, fun closing => absurd status closing, fun _ => ?_⟩
      · show _ → _ = (((s.writeBuffer ++ [data]).headD []).length : Int)
        rw [empty]
        exact takes'.whole status
      · show _ → _ ∧ (s.writeBuffer ++ [data]).tail = [] ∨ _
        rw [empty]
        exact takes'.armed status
    · rename_i busy
      exact ⟨pushed, fun _ _ => delivering.armed status (by simpa using busy)⟩

theorem Delivering.timer (delivering : Delivering s) {tls : Tls} {timerError : Bool}
    (takes : s.writeBuffer ≠ [] → TakesAll s s.writeBuffer (s.waits - 1) tls timerError) :
    Delivering ({ s with waits := s.waits - 1 }.handleWrite id tls timerError) := by
  by_cases busy : s.writeBuffer = []
  · have fired : SslClient.handleWrite id tls timerError { s with waits := s.waits - 1 } =
        { s with waits := s.waits - 1, ioCount := s.ioCount - 1 } := by
      simp [SslClient.handleWrite, busy]
    rw [fired]
    exact ⟨⟨delivering.inOrder, delivering.queue, delivering.opening⟩,
      fun _ some' => absurd busy some'⟩
  · have takes' := takes busy
    exact Kept.handleWrite (s := { s with waits := s.waits - 1 })
      ⟨delivering.inOrder, delivering.queue, delivering.opening⟩ busy
      ⟨takes'.whole, takes'.once, takes'.armed⟩

/-- A handshake has nothing to write yet. -/
theorem Delivering.handleHandshake (delivering : Delivering s) (status : s.status = .handshake)
    (tls : Tls) : Delivering (s.handleHandshake id tls) := by
  have called := delivering.toKept.callTls tls
  have status' : (s.callTls tls).status = .handshake := (status_callTls tls).trans status
  unfold SslClient.handleHandshake
  dsimp only
  generalize (if tls.result ≠ 0 ∧ ¬ wants tls.result then
    some (ErrorCode.other tls.result) else none) = error
  rcases called.handleAnything .handshake error with ⟨stopped, delivering'⟩ | ⟨alive, _, _⟩
  · split
    · rename_i eq
      rwa [eq] at delivering'
    · rename_i eq
      rw [eq] at stopped
      cases stopped
  · rw [alive]
    dsimp only
    have queue := called.queue
    rw [status'] at queue
    obtain ⟨empty, sent_nil, accepted_nil⟩ := queue
    split
    · refine ⟨⟨called.inOrder, called.queue, called.opening⟩, fun connected => ?_⟩
      cases status'.symm.trans connected
    · have connected : Kept { s.callTls tls with
          ioCount := (s.callTls tls).ioCount - 1, status := .connected, wasConnected := true } := by
        refine ⟨called.inOrder, ?_, fun phase => ?_⟩
        · show sent (connection (s.callTls tls).trace) = _ ++ (s.callTls tls).writeBuffer.flatten
          rw [sent_nil, accepted_nil, empty]
          rfl
        · cases status'.symm.trans (called.opening phase)
      exact ⟨connected.record rfl rfl rfl, fun _ some' => absurd empty some'⟩

theorem Delivering.read (delivering : Delivering s) (tls : Tls) :
    Delivering (Session.read tls s).client := by
  have begun : Kept { s with ioCount := s.ioCount + 1 } :=
    ⟨delivering.inOrder, delivering.queue, delivering.opening⟩
  have called := begun.callTls tls
  have armed : (SslClient.callTls tls { s with ioCount := s.ioCount + 1 }).status = .connected →
      (SslClient.callTls tls { s with ioCount := s.ioCount + 1 }).writeBuffer ≠ [] →
      (SslClient.callTls tls { s with ioCount := s.ioCount + 1 }).waits ≠ 0 := by
    rw [status_callTls, writeBuffer_callTls, waits_callTls]
    exact delivering.armed
  unfold Session.read handleRead
  dsimp only
  rcases called.handleAnything .connected (ioError tls.result) with
    ⟨stopped, delivering'⟩ | ⟨alive, _, _⟩
  · generalize SslClient.handleAnything id .connected (ioError tls.result)
      (SslClient.callTls tls { s with ioCount := s.ioCount + 1 }) = outcome at stopped delivering' ⊢
    obtain ⟨t, going⟩ := outcome
    cases stopped
    exact delivering'
  · rw [alive]
    dsimp only
    have going : Kept { SslClient.callTls tls { s with ioCount := s.ioCount + 1 } with
        ioCount := (SslClient.callTls tls { s with ioCount := s.ioCount + 1 }).ioCount - 1 } :=
      ⟨called.inOrder, called.queue, called.opening⟩
    split
    · exact ⟨going.record rfl rfl rfl, armed⟩
    · exact ⟨going, armed⟩

/-- The end of the TCP connection. -/
theorem Delivering.terminal (delivering : Delivering s) (handleStatus : Status)
    (code : ErrorCode) :
    Delivering ({ s with tcpClient := TcpPhase.disconnected, ioCount := s.ioCount + 1 }
      |>.handleAnything id handleStatus (some code)).1 := by
  have kept : Kept { s with tcpClient := TcpPhase.disconnected, ioCount := s.ioCount + 1 } :=
    ⟨delivering.inOrder, delivering.queue, nofun⟩
  rcases kept.handleAnything handleStatus (some code) with ⟨_, delivering'⟩ | ⟨_, _, noError⟩
  · exact delivering'
  · cases noError

/-- The TCP connection is up. -/
theorem Delivering.tcpConnect (delivering : Delivering s) (phase : s.tcpClient = .connecting)
    (tls : Tls) :
    Delivering ({ s with tcpClient := TcpPhase.connected }.handleTcpClientConnect { tls }) := by
  have status := delivering.opening phase
  have queue := delivering.queue
  rw [status] at queue
  exact Delivering.handleHandshake (s := { s with
    tcpClient := TcpPhase.connected
    status := .handshake
    ioCount := s.ioCount + 1 }) ⟨⟨delivering.inOrder, queue, nofun⟩, nofun⟩ rfl tls

/-- Data on the TCP connection. -/
theorem Delivering.receive (delivering : Delivering s) (data : Str) (tls : Tls) :
    Delivering (Session.receive data tls s).client := by
  unfold Session.receive
  dsimp only
  split
  · rename_i status
    exact Delivering.handleHandshake (s := { s with
      sslBuffer := s.sslBuffer ++ data, ioCount := s.ioCount + 1 })
      ⟨⟨delivering.inOrder, delivering.queue, delivering.opening⟩, delivering.armed⟩ status tls
  · exact ⟨⟨delivering.inOrder, delivering.queue, delivering.opening⟩, delivering.armed⟩

theorem Delivering.step {s : Session TcpPhase} {move : Move} {t : Session TcpPhase}
    (delivering : Delivering s.client) (takes : TakesAllOf s move) (taken : s.step move = some t) :
    Delivering t.client := by
  cases move with
  | connect setup =>
      cases taken
      exact delivering.connect setup
  | disconnect =>
      cases taken
      exact delivering.disconnect
  | send data tls timerError =>
      cases taken
      exact delivering.send takes
  | timer tls timerError =>
      simp only [Session.step] at taken
      split at taken
      · cases taken
      · cases taken
        exact delivering.timer takes
  | read tls =>
      simp only [Session.step] at taken
      split at taken
      · cases taken
        exact delivering.read tls
      · cases taken
  | leave =>
      simp only [Session.step] at taken
      split at taken
      · cases taken
        exact delivering
      · cases taken
  | tcpConnect tls =>
      simp only [Session.step] at taken
      split at taken
      · cases taken
      · split at taken
        · rename_i phase
          cases taken
          exact delivering.tcpConnect phase tls
        · cases taken
  | tcpReceivedData data tls =>
      simp only [Session.step] at taken
      split at taken
      · cases taken
      · split at taken
        · cases taken
          exact delivering.receive data tls
        · cases taken
  | tcpDisconnect =>
      simp only [Session.step] at taken
      split at taken
      · cases taken
      · split at taken
        · cases taken
          exact delivering.terminal _ _
        · cases taken
          exact delivering.terminal _ _
        · cases taken
  | tcpError code =>
      simp only [Session.step] at taken
      split at taken
      · cases taken
      · split at taken
        · cases taken
          exact delivering.terminal _ _
        · cases taken
          exact delivering.terminal _ _
        · cases taken

theorem Delivering.init : Delivering initial :=
  ⟨⟨.nil List.prefix_rfl, rfl, nofun⟩, nofun⟩

theorem Delivering.run {s t : Session TcpPhase} {moves : List Move}
    (delivering : Delivering s.client)
    (takes : Guarded Session.step TakesAllOf s moves) (run : Run Session.step s moves t) :
    Delivering t.client := by
  have keeps : ∀ {s move t}, Delivering (Session.client s) → TakesAllOf s move →
      s.step move = some t → Delivering t.client := Delivering.step
  have delivered := run.guarded keeps takes delivering
  exact delivered

/-- Everything sent on a connection is taken by mbedtls in order, in every state of every run
in which mbedtls takes each string as a whole and once, and the timer can be armed. -/
theorem forall_visits_delivers {moves : List Move}
    (takes : Guarded Session.step TakesAllOf ⟨initial, false⟩ moves) :
    ∀ s, Visits Session.step ⟨initial, false⟩ moves s → Delivers s.client := by
  rintro s ⟨front, isPrefix, run⟩
  exact (Delivering.run .init (takes.of_prefix isPrefix) run).delivers

/-- A string that mbedtls takes as a whole after asking to be called again, and another one
sent in the meantime. -/
def wholeWrite : List Move :=
  [.connect {}, .tcpConnect { result := 0 }, .send ['G', 'E', 'T'] { result := wantWrite } false,
    .send ['/'] { result := 0 } false, .timer { result := 3 } false, .timer { result := 1 } false,
    .timer { result := 0 } false]

theorem forall_visits_delivers_wholeWrite :
    ∃ s, Visits Session.step ⟨initial, false⟩ wholeWrite s ∧
      accepted s.client.trace = ['G', 'E', 'T', '/'] ∧ Delivers s.client := by
  have executed : (wholeWrite.foldlM Session.step ⟨initial, false⟩).map
      (fun s => accepted s.client.trace) = some ['G', 'E', 'T', '/'] := by
    decide +kernel
  obtain ⟨s, folded, taken⟩ := Option.map_eq_some_iff.mp executed
  have visits : Visits Session.step ⟨initial, false⟩ wholeWrite s := .of_run (.of_foldlM folded)
  have takes : Guarded Session.step TakesAllOf ⟨initial, false⟩ wholeWrite := by
    decide +kernel
  exact ⟨s, visits, taken, forall_visits_delivers takes s visits⟩

/-- So it is in a run of the events of the client, which is one of moves. -/
theorem exists_moves_delivers {es : List Event} (run : Run SslClient.step initial es t) :
    ∃ moves, Run Session.step ⟨initial, false⟩ moves ⟨t, false⟩ ∧
      (Guarded Session.step TakesAllOf ⟨initial, false⟩ moves → Delivers t) := by
  obtain ⟨moves, run⟩ := run_moves run
  refine ⟨moves, run, fun takes => ?_⟩
  exact (Delivering.run .init takes run).delivers

/-- `mbedtls_ssl_write` has returned something its header allows. -/
def Allowed : Action → Prop
  | .write data result => 0 < result ∧ result ≤ data.length ∨ wants result
  | _ => True

instance : ∀ action, Decidable (Allowed action)
  | .write data result =>
      inferInstanceAs (Decidable (0 < result ∧ result ≤ data.length ∨ wants result))
  | .connect | .disconnect | .send _ | .notify _ => .isTrue trivial

/-- A string of which mbedtls takes one byte, and the wait that follows. -/
def partialWrite : List Move :=
  [.connect {}, .tcpConnect { result := 0 }, .send ['G', 'E', 'T'] { result := 1 } false,
    .timer { result := 0 } false]

theorem not_forall_delivers :
    ¬ ∀ moves s, Run Session.step ⟨initial, false⟩ moves s →
      (∀ action ∈ s.client.trace, Allowed action) → Delivers s.client := by
  intro claim
  have run : Run Session.step ⟨initial, false⟩ partialWrite _ := .of_foldlM rfl
  have delivers := claim _ _ run (by decide)
  have whole := delivers.whole rfl rfl
  revert whole
  decide

end GpsInformer.SslClient
