import GpsInformer.Lib.Segments
import GpsInformer.Lib.WriteQueue
import GpsInformer.TcpClientAccounting

/-!
# `TcpClient`: what is written on a connection

The trace is cut at the calls of `connect` that were accepted.  On each connection the
strings `async_write` was started for are the first ones of those accepted by `send`, in
their order, and a write is outstanding at most once.

The queue stays non-empty after a write has failed, so what is known of it depends on the
status (`Window`): the client may be waiting for other operations, and the owner may go on
sending.
-/

namespace GpsInformer.TcpClient

open Lib

variable {c t : TcpClient} {e : Event} {n m : Nat}

namespace Action

/-- A connection starts when `connect` is accepted. -/
def starts : Action → Bool
  | .connect => true
  | _ => false

def sent : Action → Option Str
  | .send data => some data
  | _ => none

def written : Action → Option Str
  | .write data => some data
  | _ => none

end Action

/-- What has been done on the connection since it was started. -/
def connection (trace : List Action) : List Action := segment Action.starts trace

/-- The strings accepted by `send`. -/
def sent (actions : List Action) : List Str := actions.filterMap Action.sent

/-- The strings `async_write` was started for. -/
def written (actions : List Action) : List Str := actions.filterMap Action.written

/-- The outstanding `async_write`s. -/
def writes (c : TcpClient) : Nat := c.operations.count .write

/-- What has been written on each connection is the beginning of what has been sent on it,
and at most one write is outstanding.  A handler starts writes only after its own operation
is off the list, so no more are outstanding in the middle of it than at its end. -/
structure WritesInOrder (c : TcpClient) : Prop where
  single : c.writes ≤ 1
  inOrder : ∀ front, front <+: c.trace → written (connection front) <+: sent (connection front)

/-! ## The invariant -/

/-- What is known of `_writeBuffer` in a status, of `n` outstanding writes and of what has
been sent and written on the connection. -/
def Window (buffer sent written : List Str) (n : Nat) : Status → Prop
  | .disconnected => buffer = [] ∧ n = 0
  | .resolve | .connecting | .connected => Queued sent written buffer n
  | .disconnecting => n ≤ 1

/-- The invariant, where `n` counts the outstanding writes. -/
structure Buffered (n : Nat) (c : TcpClient) : Prop where
  inOrder : InSegments Action.starts (fun here => written here <+: sent here) c.trace
  window : Window c.writeBuffer (sent (connection c.trace)) (written (connection c.trace)) n
    c.status

theorem Window.single {buffer sent written : List Str} {status : Status}
    (window : Window buffer sent written n status) : n ≤ 1 := by
  cases status with
  | disconnected =>
      have none' : n = 0 := window.2
      omega
  | resolve | connecting | connected => exact Queued.single window
  | disconnecting => exact window

/-- Outstanding writes may fail. -/
theorem Window.fail {buffer sent written : List Str} {status : Status}
    (window : Window buffer sent written n status) (le : m ≤ n) :
    Window buffer sent written m status := by
  cases status with
  | disconnected =>
      obtain ⟨empty, none'⟩ := window
      exact ⟨empty, by omega⟩
  | resolve | connecting | connected => exact Queued.fail window le
  | disconnecting => exact Nat.le_trans le window

theorem Buffered.fail (buffered : Buffered n c) (le : m ≤ n) : Buffered m c :=
  ⟨buffered.inOrder, buffered.window.fail le⟩

theorem Buffered.writesInOrder (buffered : Buffered c.writes c) : c.WritesInOrder :=
  ⟨buffered.window.single, buffered.inOrder⟩

/-! ## The trace -/

theorem connection_concat {action : Action} (later : action.starts = false)
    (trace : List Action) : connection (trace ++ [action]) = connection trace ++ [action] :=
  segment_concat later

theorem sent_concat (actions : List Action) (action : Action) :
    sent (actions ++ [action]) = sent actions ++ action.sent.toList :=
  filterMap_concat _ _ _

theorem written_concat (actions : List Action) (action : Action) :
    written (actions ++ [action]) = written actions ++ action.written.toList :=
  filterMap_concat _ _ _

/-- Actions that write and send nothing do not matter. -/
theorem Buffered.record (buffered : Buffered n c) {action : Action}
    (later : action.starts = false) (noSend : action.sent = none)
    (noWrite : action.written = none) : Buffered n (c.record action) := by
  have same : sent (connection (c.trace ++ [action])) = sent (connection c.trace) := by
    rw [connection_concat later, sent_concat, noSend]
    exact List.append_nil _
  have same' : written (connection (c.trace ++ [action])) = written (connection c.trace) := by
    rw [connection_concat later, written_concat, noWrite]
    exact List.append_nil _
  refine ⟨buffered.inOrder.concat ?_, ?_⟩
  · show written (connection (c.trace ++ [action])) <+: sent (connection (c.trace ++ [action]))
    rw [same, same']
    exact buffered.inOrder.now
  · show Window c.writeBuffer (sent (connection (c.trace ++ [action])))
      (written (connection (c.trace ++ [action]))) n c.status
    rw [same, same']
    exact buffered.window

/-! ## The public functions -/

@[simp] theorem writes_record (action : Action) : (c.record action).writes = c.writes := rfl

@[simp] theorem writes_closeSocket : c.closeSocket.writes = c.writes := by
  simp [writes]

@[simp] theorem writes_cancelResolver : c.cancelResolver.writes = c.writes := by
  simp [writes]

@[simp] theorem writes_asyncRead : c.asyncRead.writes = c.writes := by
  simp [writes]

@[simp] theorem writes_asyncWrite : c.asyncWrite.writes = c.writes + 1 := by
  simp [writes]

@[simp] theorem writeBuffer_startOnSocket (operation : Operation) :
    (c.startOnSocket operation).writeBuffer = c.writeBuffer := by
  unfold startOnSocket
  split <;> rfl

@[simp] theorem trace_startOnSocket (operation : Operation) :
    (c.startOnSocket operation).trace = c.trace := by
  unfold startOnSocket
  split <;> rfl

theorem trace_asyncWrite :
    c.asyncWrite.trace = c.trace ++ [.write (c.writeBuffer.headD [])] := by
  simp [asyncWrite, record]

theorem writeBuffer_asyncWrite : c.asyncWrite.writeBuffer = c.writeBuffer := by
  simp [asyncWrite, record]

/-- Writing the head of the queue. -/
theorem Buffered.asyncWrite (status : c.status = .connected)
    (inOrder : InSegments Action.starts (fun here => written here <+: sent here) c.trace)
    (queued : Queued (sent (connection c.trace))
      (written (connection c.trace) ++ [c.writeBuffer.headD []]) c.writeBuffer m) :
    Buffered m c.asyncWrite := by
  have connection_eq : connection c.asyncWrite.trace =
      connection c.trace ++ [.write (c.writeBuffer.headD [])] := by
    rw [trace_asyncWrite]
    exact connection_concat rfl _
  have sent_eq : sent (connection c.asyncWrite.trace) = sent (connection c.trace) := by
    rw [connection_eq, sent_concat]
    exact List.append_nil _
  have written_eq : written (connection c.asyncWrite.trace) =
      written (connection c.trace) ++ [c.writeBuffer.headD []] := by
    rw [connection_eq, written_concat]
    rfl
  have queued' : Queued (sent (connection c.asyncWrite.trace))
      (written (connection c.asyncWrite.trace)) c.writeBuffer m := by
    rw [sent_eq, written_eq]
    exact queued
  refine ⟨?_, ?_⟩
  · rw [trace_asyncWrite] at queued' ⊢
    exact inOrder.concat queued'.isPrefix
  · rw [writeBuffer_asyncWrite, status_asyncWrite, status]
    exact queued'

theorem writes_connect : c.connect.writes = c.writes := by
  unfold TcpClient.connect
  split
  · rfl
  · simp only [writes, operations_record, operations_start, List.count_append]
    rfl

theorem Buffered.connect (buffered : Buffered c.writes c) :
    Buffered c.connect.writes c.connect := by
  rw [writes_connect]
  unfold TcpClient.connect
  split
  · exact buffered
  · rename_i free
    have window := buffered.window
    rw [not_not.mp free] at window
    obtain ⟨empty, none'⟩ := window
    refine ⟨buffered.inOrder.start rfl List.nil_prefix, ?_⟩
    show Queued (sent (connection (c.trace ++ [.connect])))
      (written (connection (c.trace ++ [.connect]))) c.writeBuffer _
    rw [connection, segment_start rfl, empty, none']
    exact Queued.nil

theorem Buffered.disconnect (buffered : Buffered c.writes c) :
    Buffered c.disconnect.writes c.disconnect := by
  have single := buffered.window.single
  unfold TcpClient.disconnect
  split
  · exact buffered
  · exact buffered
  · have closing : Buffered c.writes ({ c with status := .disconnecting }.cancelResolver) :=
      ⟨buffered.inOrder, single⟩
    rw [writes_record, writes_cancelResolver]
    exact closing.record rfl rfl rfl
  all_goals
    have closing : Buffered c.writes ({ c with status := .disconnecting }.closeSocket) :=
      ⟨buffered.inOrder, single⟩
    rw [writes_record, writes_closeSocket]
    exact closing.record rfl rfl rfl

theorem Buffered.send (buffered : Buffered c.writes c) (data : Str) :
    Buffered (c.send data).writes (c.send data) := by
  unfold TcpClient.send
  split
  · exact buffered
  · rename_i connected
    have status : c.status = .connected := not_not.mp connected
    have queued := buffered.window
    rw [status] at queued
    have connection_eq : connection (c.trace ++ [.send data]) =
        connection c.trace ++ [.send data] := connection_concat rfl _
    have sent_eq : sent (connection (c.trace ++ [.send data])) =
        sent (connection c.trace) ++ [data] := by
      rw [connection_eq, sent_concat]
      rfl
    have written_eq : written (connection (c.trace ++ [.send data])) =
        written (connection c.trace) := by
      rw [connection_eq, written_concat]
      exact List.append_nil _
    have inOrder : InSegments Action.starts (fun here => written here <+: sent here)
        (c.trace ++ [.send data]) := by
      refine buffered.inOrder.concat ?_
      show written (connection (c.trace ++ [.send data])) <+:
        sent (connection (c.trace ++ [.send data]))
      rw [sent_eq, written_eq]
      exact (Queued.isPrefix queued).trans (List.prefix_append _ _)
    dsimp only
    split
    · rename_i idle
      have empty : c.writeBuffer = [] := by simpa using idle
      rw [writes_asyncWrite]
      refine .asyncWrite status inOrder ?_
      show Queued (sent (connection (c.trace ++ [.send data])))
        (written (connection (c.trace ++ [.send data])) ++ [(c.writeBuffer ++ [data]).headD []])
        (c.writeBuffer ++ [data]) (c.writes + 1)
      rw [empty] at queued ⊢
      rw [sent_eq, written_eq]
      exact Queued.push_first queued data
    · rename_i busy
      have waiting : c.writeBuffer ≠ [] := by simpa using busy
      refine ⟨inOrder, ?_⟩
      show Window (c.writeBuffer ++ [data]) (sent (connection (c.trace ++ [.send data])))
        (written (connection (c.trace ++ [.send data]))) c.writes c.status
      rw [sent_eq, written_eq, status]
      exact Queued.push_later queued waiting data

theorem Buffered.call (buffered : Buffered c.writes c) (request : Call) :
    Buffered (c.call request).writes (c.call request) := by
  cases request with
  | connect => exact buffered.connect
  | disconnect => exact buffered.disconnect
  | send data => exact buffered.send data

/-- Whatever the owner does when it is notified. -/
theorem Buffered.calls (buffered : Buffered c.writes c) (calls : List Call) :
    Buffered (calls.foldl TcpClient.call c).writes (calls.foldl TcpClient.call c) := by
  induction calls generalizing c with
  | nil => exact buffered
  | cons request rest ih => exact ih (buffered.call request)

/-! ## The completion handlers -/

/-- On a connection that is not being closed, an operation completes in the status its
handler awaits. -/
theorem Taken.awaits {operation : Operation} (taken : Taken operation c)
    (open' : c.status ≠ .disconnecting) : c.status = operation.awaited := by
  obtain ⟨front, back, _, shape⟩ := taken.shape
  have member : operation ∈ front ++ operation :: back := by simp
  cases status : c.status with
  | disconnected => exact absurd status taken.live
  | resolve =>
      rw [status] at shape
      rw [show front ++ operation :: back = [.resolve] from shape] at member
      rw [List.mem_singleton.mp member]
      rfl
  | connecting =>
      rw [status] at shape
      rw [show front ++ operation :: back = [.connect] from shape] at member
      rw [List.mem_singleton.mp member]
      rfl
  | connected =>
      rw [status] at shape
      rcases shape operation member with rfl | rfl
      · rfl
      · rfl
  | disconnecting => exact absurd status open'

/-- An operation that has succeeded on an open connection. -/
theorem Buffered.goOn {operation : Operation} (taken : Taken operation c)
    (buffered : Buffered (c.writes + if operation = .write then 1 else 0) c)
    (open' : c.status ≠ .disconnecting) (result : Completion) :
    Buffered (TcpClient.goOn operation result { c with ioCount := c.ioCount - 1 }).client.writes
      (TcpClient.goOn operation result { c with ioCount := c.ioCount - 1 }).client := by
  have awaits := taken.awaits open'
  have window := buffered.window
  rw [awaits] at window
  cases operation with
  | resolve =>
      refine ⟨buffered.inOrder, ?_⟩
      have none' : (TcpClient.goOn .resolve result
          { c with ioCount := c.ioCount - 1 }).client.writes = c.writes := by
        simp only [TcpClient.goOn, writes, operations_asyncConnect, List.count_append]
        rfl
      show Queued _ _ _ (TcpClient.goOn .resolve result _).client.writes
      rw [none']
      exact window
  | connect => exact ⟨buffered.inOrder, window⟩
  | read =>
      refine ⟨buffered.inOrder, ?_⟩
      show Window _ _ _ _ c.status
      rw [awaits]
      exact window
  | write =>
      dsimp only [TcpClient.goOn]
      split
      · rename_i more
        obtain ⟨next, rest, split⟩ := List.exists_cons_of_ne_nil (by simpa using more)
        rw [writes_asyncWrite]
        refine .asyncWrite awaits buffered.inOrder ?_
        have head : c.writeBuffer.tail.headD [] = next := by
          rw [split]
          rfl
        show Queued _ (written (connection c.trace) ++ [c.writeBuffer.tail.headD []])
          c.writeBuffer.tail (c.writes + 1)
        rw [head]
        exact Queued.next window split
      · rename_i last
        refine ⟨buffered.inOrder, ?_⟩
        show Window _ _ _ _ c.status
        rw [awaits]
        exact Queued.done window (by simpa using last)

/-- The handler of an operation that has been taken off the outstanding ones. -/
theorem Buffered.handle {operation : Operation} (taken : Taken operation c)
    (buffered : Buffered (c.writes + if operation = .write then 1 else 0) c)
    (result : Completion) :
    Buffered (c.handle operation result).client.writes (c.handle operation result).client := by
  rw [handle_eq]
  have effect := handleAnything_cases operation.awaited (failure operation result) c
  generalize c.handleAnything operation.awaited (failure operation result) = outcome at effect
  cases effect with
  | ignored free => exact absurd free taken.live
  | waiting _ _ _ =>
      have closed : Buffered c.writes { c with ioCount := c.ioCount - 1 }.closeSocket :=
        ⟨buffered.inOrder, buffered.window.fail (Nat.le_add_right _ _)⟩
      have same : { c with ioCount := c.ioCount - 1 }.closeSocket.writes = c.writes :=
        writes_closeSocket
      show Buffered { c with ioCount := c.ioCount - 1 }.closeSocket.writes _
      rw [same]
      exact closed
  | ended notification _ _ last =>
      refine ⟨buffered.inOrder, rfl, ?_⟩
      show c.closeSocket.operations.count .write = 0
      rw [taken.operations_closeSocket last]
      rfl
  | alive _ open' _ => exact buffered.goOn taken open' result

theorem Buffered.asyncRead (buffered : Buffered c.writes c) :
    Buffered c.asyncRead.writes c.asyncRead := by
  rw [writes_asyncRead]
  refine ⟨?_, ?_⟩
  · rw [TcpClient.asyncRead, trace_startOnSocket]
    exact buffered.inOrder
  · rw [status_asyncRead, TcpClient.asyncRead, trace_startOnSocket, writeBuffer_startOnSocket]
    exact buffered.window

theorem Buffered.resume {turn : Turn} (buffered : Buffered turn.client.writes turn.client)
    (calls : List Call) :
    Buffered (turn.resume fun c => calls.foldl TcpClient.call c).writes
      (turn.resume fun c => calls.foldl TcpClient.call c) := by
  obtain ⟨client, notification, thenRead⟩ := turn
  have told : ∀ notification,
      Buffered (client.record (.notify notification)).writes
        (client.record (.notify notification)) :=
    fun notification => buffered.record rfl rfl rfl
  unfold Turn.resume
  cases notification with
  | none =>
      cases thenRead with
      | false => exact buffered
      | true => exact Buffered.asyncRead buffered
  | some notification =>
      cases thenRead with
      | false => exact (told notification).calls calls
      | true => exact ((told notification).calls calls).asyncRead

/-! ## Runs -/

/-- A completed operation is taken off the outstanding ones. -/
theorem writes_eraseIdx {index : Nat} {operation : Operation} {result : Option Completion}
    (at' : c.pending[index]? = some { operation, result }) :
    c.writes = writes { c with pending := c.pending.eraseIdx index } +
      if operation = .write then 1 else 0 := by
  obtain ⟨bound, eq⟩ := List.getElem?_eq_some_iff.mp at'
  have split : c.pending =
      c.pending.take index ++ { operation, result } :: c.pending.drop (index + 1) := by
    rw [← eq, ← List.drop_eq_getElem_cons bound, List.take_append_drop]
  have whole : c.writes = ((c.pending.take index ++
      { operation, result } :: c.pending.drop (index + 1)).map (·.operation)).count .write := by
    rw [← split]
    rfl
  rw [whole]
  simp only [writes, operations, List.eraseIdx_eq_take_drop_succ, List.map_append, List.map_cons,
    List.count_append, List.count_cons, beq_iff_eq]
  omega

/-- What holds between two handlers. -/
structure Orderly (c : TcpClient) : Prop extends Sound c where
  buffered : Buffered c.writes c

theorem Orderly.step (orderly : Orderly c) (taken : TcpClient.step c e = some t) : Orderly t := by
  refine ⟨orderly.toSound.step taken, ?_⟩
  have buffered := orderly.buffered
  rcases step_cases taken with ⟨request, rfl, rfl⟩ | ⟨index, result, operation, rfl, at', rfl⟩ |
    ⟨index, calls, operation, result, rfl, at', rfl⟩
  · exact buffered.call request
  · have same : TcpClient.writes
        { c with pending := c.pending.set index { operation, result := some result } } =
          c.writes := by
      unfold TcpClient.writes
      rw [operations_finish at' (some result)]
    rw [same]
    exact ⟨buffered.inOrder, buffered.window⟩
  · have rest : Buffered (writes { c with pending := c.pending.eraseIdx index } +
        if operation = .write then 1 else 0) { c with pending := c.pending.eraseIdx index } := by
      rw [← writes_eraseIdx at']
      exact ⟨buffered.inOrder, buffered.window⟩
    exact (rest.handle (orderly.toSound.taken at') result).resume calls

/-- On every connection of every run, `async_write` is started for the first strings sent. -/
theorem WritesInOrder.of_run {es : List Event} (run : Run TcpClient.step {} es c) :
    c.WritesInOrder :=
  have start : Orderly {} := ⟨sound_init, .nil List.prefix_rfl, rfl, rfl⟩
  (run.invariant Orderly.step start).buffered.writesInOrder

end GpsInformer.TcpClient
