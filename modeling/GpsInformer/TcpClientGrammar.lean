import GpsInformer.ConnectionGrammar
import GpsInformer.TcpClientWrites

/-!
# `TcpClient` obeys the grammar of a connection

The outstanding operations tell how far an attempt has come: as long as there is a
`resolve` or a `connect` among them the owner knows nothing yet, and afterwards it has been
told of the connection.  The last of them to complete sends the terminal.
-/

namespace GpsInformer.TcpClient

open Lib ConnectionGrammar

variable {c t : TcpClient} {e : Event} {strict asked : Prop} {reached : Progress}

def Action.ownerEvent : Action → Option OwnerEvent
  | .connect => some .connect
  | .disconnect => some .disconnect
  | .notify notification => some (.notify notification)
  | .send _ | .write _ => none

/-- What has passed between the client and its owner. -/
def history (c : TcpClient) : List OwnerEvent := c.trace.filterMap Action.ownerEvent

theorem history_record (action : Action) :
    (c.record action).history = c.history ++ action.ownerEvent.toList :=
  filterMap_concat _ _ _

/-! ## The invariant -/

/-- How far an attempt has come when the operation completes. -/
def Operation.progress : Operation → Progress
  | .resolve | .connect => .started
  | .read | .write => .connected

/-- Nothing that has finished so far was cut short without the user asking for it. -/
def Unforced (c : TcpClient) : Prop :=
  c.status = .resolve ∨ c.status = .connecting → ∀ p ∈ c.pending, ∀ result : Completion,
    p.result = some result → result.error ≠ some .operationAborted

/-- What has been told to the owner agrees with the status and with what is outstanding. -/
structure Follows (strict : Prop) (reached : Progress) (asked : Prop) (c : TcpClient) : Prop where
  obeys : Obeys strict reached asked c.history
  closing : c.status ≠ .disconnected → (asked ↔ c.status = .disconnecting)
  connected : c.status = .connected → reached = .connected
  operations : ∀ operation ∈ c.operations, operation.progress = reached
  unforced : strict → Unforced c

/-- In a status that is not one of these nothing can be forced. -/
theorem Unforced.of_status (resolved : c.status ≠ .resolve) (connected : c.status ≠ .connecting) :
    Unforced c :=
  fun either => absurd either (not_or.mpr ⟨resolved, connected⟩)

theorem Follows.disconnect (follows : Follows strict reached asked c) :
    ∃ asked', Follows strict reached asked' c.disconnect := by
  have kept := follows.operations
  unfold TcpClient.disconnect
  split
  · exact ⟨asked, follows⟩
  · exact ⟨asked, follows⟩
  · refine ⟨True, ?_, fun _ => iff_of_true trivial rfl, nofun, ?_, fun _ => ?_⟩
    · rw [history_record]
      exact follows.obeys.disconnect
    · rw [operations_record, operations_cancelResolver]
      exact kept
    · exact .of_status nofun nofun
  all_goals
    refine ⟨True, ?_, fun _ => iff_of_true trivial rfl, nofun, ?_, fun _ => ?_⟩
    · rw [history_record]
      exact follows.obeys.disconnect
    · rw [operations_record, operations_closeSocket]
      exact kept
    · exact .of_status nofun nofun

/-- A disconnected client has nothing outstanding. -/
theorem Follows.connect (balanced : Balanced c) (follows : Follows strict reached asked c) :
    ∃ reached' asked', Follows strict reached' asked' c.connect ∧
      (c.status ≠ .disconnected → reached' = reached) := by
  unfold TcpClient.connect
  split
  · exact ⟨reached, asked, follows, fun _ => rfl⟩
  · rename_i free
    have none' : c.operations = [] := by
      have shape := balanced.shape
      rw [not_not.mp free] at shape
      exact shape
    refine ⟨.started, False, ⟨?_, fun _ => iff_of_false id nofun, nofun, ?_, fun _ => ?_⟩,
      fun live => absurd (not_not.mp free) live⟩
    · rw [history_record]
      exact follows.obeys.connect
    · rw [operations_record, operations_start]
      show ∀ operation ∈ c.operations ++ [Operation.resolve], _
      rw [none']
      intro operation member
      rw [List.mem_singleton.mp member]
      rfl
    · intro _ p member result finished
      have only : p ∈ c.pending ++ [{ operation := .resolve }] := member
      rw [operations_eq_nil.mp none'] at only
      rw [List.mem_singleton.mp only] at finished
      cases finished

theorem Follows.asyncWrite (follows : Follows strict reached asked c)
    (status : c.status = .connected) : Follows strict reached asked c.asyncWrite := by
  have history_eq : c.asyncWrite.history = c.history := by
    unfold history
    rw [trace_asyncWrite]
    exact (filterMap_concat _ _ _).trans (List.append_nil _)
  refine ⟨?_, ?_, ?_, ?_, fun _ => ?_⟩
  · rw [history_eq]
    exact follows.obeys
  · rw [status_asyncWrite]
    exact follows.closing
  · rw [status_asyncWrite]
    exact follows.connected
  · rw [operations_asyncWrite]
    intro operation member
    rcases List.mem_append.mp member with old | new
    · exact follows.operations operation old
    · rw [List.mem_singleton.mp new]
      exact (follows.connected status).symm
  · have status' := status_asyncWrite.trans status
    exact .of_status (fun other => by cases status'.symm.trans other)
      (fun other => by cases status'.symm.trans other)

theorem Follows.send (follows : Follows strict reached asked c) (data : Str) :
    Follows strict reached asked (c.send data) := by
  unfold TcpClient.send
  split
  · exact follows
  · rename_i connected
    have queued : Follows strict reached asked
        ({ c with writeBuffer := c.writeBuffer ++ [data] }.record (.send data)) := by
      refine ⟨?_, follows.closing, follows.connected, follows.operations, follows.unforced⟩
      rw [history_record]
      exact (List.append_nil c.history).symm ▸ follows.obeys
    dsimp only
    split
    · exact queued.asyncWrite (not_not.mp connected)
    · exact queued

/-- A call of the owner starts a new attempt only if there is none. -/
theorem Follows.call (balanced : Balanced c) (follows : Follows strict reached asked c)
    (request : Call) :
    ∃ reached' asked', Follows strict reached' asked' (c.call request) ∧
      (c.status ≠ .disconnected → reached' = reached) := by
  cases request with
  | connect => exact follows.connect balanced
  | disconnect =>
      obtain ⟨asked', follows'⟩ := follows.disconnect
      exact ⟨reached, asked', follows', fun _ => rfl⟩
  | send data => exact ⟨reached, asked, follows.send data, fun _ => rfl⟩

theorem Follows.calls (balanced : Balanced c) (follows : Follows strict reached asked c)
    (calls : List Call) :
    ∃ reached' asked', Follows strict reached' asked' (calls.foldl TcpClient.call c) ∧
      (c.status = .connected ∨ c.status = .disconnecting → reached' = reached) := by
  induction calls generalizing c reached asked with
  | nil => exact ⟨reached, asked, follows, fun _ => rfl⟩
  | cons request rest ih =>
      obtain ⟨reached', asked', follows', same⟩ := follows.call balanced request
      obtain ⟨reached'', asked'', follows'', same'⟩ := ih (balanced.call request) follows'
      refine ⟨reached'', asked'', follows'', fun status => ?_⟩
      rw [same' (call_connected request status), same]
      rcases status with status | status
      · simp [status]
      · simp [status]

/-! ## The completion handlers -/

/-- What `handleAnything` reports is the end of the attempt. -/
theorem handleAnything_ending {handleStatus : Status} {error : Option ErrorCode}
    {notification : Notification}
    (told : (c.handleAnything handleStatus error).2.1 = some notification) :
    notification = ending (if handleStatus = .connected then .connected else .started)
      (c.status = .disconnecting) error := by
  unfold handleAnything at told
  dsimp only at told
  split at told
  · cases told
  · split at told
    · split at told
      · cases told
      · split at told
        · rename_i kind
          rw [if_pos kind]
          exact (Option.some.inj told).symm
        · rename_i kind
          rw [if_neg kind]
          exact (Option.some.inj told).symm
    · cases told

theorem Operation.progress_awaited (operation : Operation) :
    (if operation.awaited = .connected then Progress.connected else .started) =
      operation.progress := by
  cases operation <;> rfl

theorem Operation.progress_ne_ended (operation : Operation) : operation.progress ≠ .ended := by
  cases operation <;> exact nofun

/-- The same, with the operation `operation` just taken off the outstanding ones. -/
structure FollowsTaken (strict : Prop) (reached : Progress) (asked : Prop)
    (operation : Operation) (result : Completion) (c : TcpClient) : Prop extends
    Follows strict reached asked c where
  taken : operation.progress = reached
  honest : strict → c.status ≠ .disconnecting → operation.progress ≠ .connected →
    failure operation result ≠ some .operationAborted

/-- Until the client is connected there is one operation at a time. -/
theorem Taken.alone {operation : Operation} (off : Taken operation c)
    (opening : c.status = .resolve ∨ c.status = .connecting) : c.operations = [] := by
  have open' : c.status ≠ .disconnecting := by
    intro closing
    rcases opening with status | status
    · cases status.symm.trans closing
    · cases status.symm.trans closing
  rcases off.alive open' with ⟨_, none'⟩ | ⟨_, none'⟩ | ⟨connected, _⟩
  · exact none'
  · exact none'
  · rcases opening with status | status
    · cases status.symm.trans connected
    · cases status.symm.trans connected

/-- What a completion handler leaves to the owner. -/
structure Turn.Follows (strict : Prop) (reached : Progress) (asked : Prop) (turn : Turn) :
    Prop where
  client : match turn.notification with
    | none => turn.client.Follows strict reached asked
    | some notification => (turn.client.record (.notify notification)).Follows strict reached asked
  reading : turn.thenRead = true → reached = .connected

/-- The last operation of an attempt that ends. -/
theorem FollowsTaken.ended {operation : Operation} {result : Completion} (off : Taken operation c)
    (follows : FollowsTaken strict reached asked operation result c)
    (live : c.status ≠ .disconnected)
    (failed : c.status = .disconnecting ∨ (failure operation result).isSome)
    (last : c.ioCount - 1 ≤ 0) :
    Follows strict .ended asked (TcpClient.record
      (.notify (ending operation.progress (c.status = .disconnecting) (failure operation result)))
      { pending := c.closeSocket.pending, trace := c.trace }) := by
  have closing := follows.closing live
  have none' := off.operations_closeSocket last
  refine ⟨?_, fun busy => absurd rfl busy, nofun, ?_, fun _ => .of_status nofun nofun⟩
  · rw [history_record]
    refine follows.obeys.notify (follows.taken ▸ next_ending operation.progress_ne_ended _ _) ?_
    intro met _
    refine (byUser_ending fun open' early => ?_).trans closing.symm
    exact getD_ne_aborted (failed.resolve_left open') (follows.honest met open' early)
  · show ∀ operation ∈ c.closeSocket.operations, _
    rw [none']
    exact fun _ member => (List.not_mem_nil member).elim

/-- An operation that has succeeded on an open connection. -/
theorem FollowsTaken.goOn {operation : Operation} {result : Completion} (off : Taken operation c)
    (follows : FollowsTaken strict reached asked operation result c)
    (live : c.status ≠ .disconnected) (open' : c.status ≠ .disconnecting) :
    ∃ reached', (TcpClient.goOn operation result { c with ioCount := c.ioCount - 1 }).Follows
      strict reached' asked := by
  have awaits := off.awaits open'
  have notAsked : ¬ asked := fun asked => open' ((follows.closing live).mp asked)
  cases operation with
  | resolve =>
      have none' : c.operations = [] := off.alone (Or.inl awaits)
      refine ⟨reached, ⟨follows.obeys, fun _ => iff_of_false notAsked nofun, nofun, ?_, ?_⟩, nofun⟩
      · show ∀ operation ∈ (asyncConnect _).operations, _
        rw [operations_asyncConnect]
        show ∀ operation ∈ c.operations ++ [Operation.connect], _
        rw [none']
        intro operation member
        rw [List.mem_singleton.mp member]
        exact follows.taken
      · intro _ _ p member result finished
        have only : p ∈ c.pending ++ [{ operation := .connect }] := member
        rw [operations_eq_nil.mp none'] at only
        rw [List.mem_singleton.mp only] at finished
        cases finished
  | connect =>
      have none' : c.operations = [] := off.alone (Or.inr awaits)
      refine ⟨.connected, ⟨?_, fun _ => iff_of_false notAsked nofun, fun _ => rfl, ?_,
        fun _ => .of_status nofun nofun⟩, fun _ => rfl⟩
      · rw [history_record]
        exact follows.obeys.notify (follows.taken ▸ rfl) fun _ => False.elim
      · show ∀ operation ∈ c.operations, _
        rw [none']
        exact fun _ member => (List.not_mem_nil member).elim
  | read =>
      refine ⟨reached, ⟨?_, follows.closing, follows.connected, follows.operations,
        follows.unforced⟩, fun _ => follows.taken.symm⟩
      rw [history_record]
      exact follows.obeys.notify (follows.taken ▸ rfl) fun _ => False.elim
  | write =>
      have popped : Follows strict reached asked
          { c with ioCount := c.ioCount - 1, writeBuffer := c.writeBuffer.tail } :=
        ⟨follows.obeys, follows.closing, follows.connected, follows.operations, follows.unforced⟩
      refine ⟨reached, ?_, nofun⟩
      dsimp only [TcpClient.goOn]
      split
      · exact popped.asyncWrite awaits
      · exact popped

theorem FollowsTaken.handle {operation : Operation} {result : Completion}
    (off : Taken operation c) (follows : FollowsTaken strict reached asked operation result c) :
    ∃ reached' asked', (c.handle operation result).Follows strict reached' asked' := by
  have counted := off.counted
  rw [handle_eq]
  have effect := handleAnything_cases operation.awaited (failure operation result) c
  have told : ∀ notification, (c.handleAnything operation.awaited (failure operation result)).2.1 =
      some notification → notification = ending operation.progress (c.status = .disconnecting)
        (failure operation result) := fun notification same =>
    operation.progress_awaited ▸ handleAnything_ending same
  generalize c.handleAnything operation.awaited (failure operation result) = outcome
    at effect told
  cases effect with
  | ignored free => exact absurd free off.live
  | waiting live _ others =>
      refine ⟨reached, asked, ⟨⟨follows.obeys, follows.closing, follows.connected, ?_, ?_⟩, nofun⟩⟩
      · rw [operations_closeSocket]
        exact follows.operations
      · intro _ opening
        rw [off.alone opening] at counted
        simp at counted
        omega
  | ended notification live failed last =>
      rw [told notification rfl]
      exact ⟨.ended, asked, follows.ended off live failed last, nofun⟩
  | alive live open' noError =>
      obtain ⟨reached', follows'⟩ := follows.goOn off live open'
      exact ⟨reached', asked, follows'⟩

theorem Follows.asyncRead (follows : Follows strict reached asked c)
    (status : c.status = .connected ∨ c.status = .disconnecting)
    (connected : reached = .connected) :
    Follows strict reached asked c.asyncRead := by
  have history_eq : c.asyncRead.history = c.history := by
    unfold history
    rw [TcpClient.asyncRead, trace_startOnSocket]
  refine ⟨?_, ?_, fun _ => connected, ?_, fun _ => ?_⟩
  · rw [history_eq]
    exact follows.obeys
  · rw [status_asyncRead]
    exact follows.closing
  · rw [operations_asyncRead]
    intro operation member
    rcases List.mem_append.mp member with old | new
    · exact follows.operations operation old
    · rw [List.mem_singleton.mp new]
      exact connected.symm
  · have status' : c.asyncRead.status = .connected ∨ c.asyncRead.status = .disconnecting := by
      rw [status_asyncRead]
      exact status
    refine .of_status (fun other => ?_) fun other => ?_
    · rw [other] at status'
      rcases status' with impossible | impossible <;> cases impossible
    · rw [other] at status'
      rcases status' with impossible | impossible <;> cases impossible

theorem Turn.Follows.resume {turn : Turn} (sound : turn.Sound)
    (follows : turn.Follows strict reached asked) (calls : List Call) :
    ∃ reached' asked', TcpClient.Follows strict reached' asked'
      (turn.resume fun c => calls.foldl call c) := by
  obtain ⟨client, notification, thenRead⟩ := turn
  obtain ⟨told, reading⟩ := follows
  have balanced : Balanced client := sound.balanced
  unfold Turn.resume
  cases notification with
  | none =>
      cases thenRead with
      | false => exact ⟨reached, asked, told⟩
      | true => exact ⟨reached, asked, told.asyncRead (Or.inl (sound.alive rfl)) (reading rfl)⟩
  | some notification =>
      have balanced' : Balanced (client.record (.notify notification)) :=
        ⟨balanced.counted, balanced.shape⟩
      obtain ⟨reached', asked', follows', same⟩ := TcpClient.Follows.calls balanced' told calls
      refine ⟨reached', asked', ?_⟩
      cases thenRead with
      | false => exact follows'
      | true =>
          have alive : (client.record (.notify notification)).status = .connected ∨
              (client.record (.notify notification)).status = .disconnecting :=
            Or.inl (sound.alive rfl)
          exact follows'.asyncRead (calls_connected calls alive)
            ((same alive).trans (reading rfl))

/-! ## Runs -/

/-- No operation comes to an end with `operation_aborted` on its own: cancelling the
resolver and closing the socket have seen to those they put an end to. -/
def NotAborted (_ : TcpClient) : Event → Prop
  | .finish _ result => result.error ≠ some .operationAborted
  | .call _ | .complete _ _ => True

instance : ∀ c e, Decidable (NotAborted c e)
  | _, .finish _ result => inferInstanceAs (Decidable (result.error ≠ some .operationAborted))
  | _, .call _ | _, .complete _ _ => .isTrue trivial

theorem mem_operations {index : Nat} {operation : Operation} {result : Option Completion}
    (at' : c.pending[index]? = some { operation, result }) : operation ∈ c.operations :=
  List.mem_map.mpr ⟨_, List.mem_of_getElem? at', rfl⟩

/-- A completed operation is taken off the outstanding ones. -/
theorem Follows.takenOff (follows : Follows strict reached asked c) {index : Nat}
    {operation : Operation} {result : Completion} (off : Taken operation
      { c with pending := c.pending.eraseIdx index })
    (at' : c.pending[index]? = some { operation, result := some result }) :
    FollowsTaken strict reached asked operation result
      { c with pending := c.pending.eraseIdx index } := by
  have fewer : ∀ p ∈ c.pending.eraseIdx index, p ∈ c.pending := fun _ => List.mem_of_mem_eraseIdx
  refine ⟨⟨follows.obeys, follows.closing, follows.connected, fun other member => ?_,
    fun met opening p member => ?_⟩, ?_, fun met open' early => ?_⟩
  · obtain ⟨p, member', rfl⟩ := List.mem_map.mp member
    exact follows.operations _ (List.mem_map.mpr ⟨p, fewer p member', rfl⟩)
  · exact follows.unforced met opening p (fewer p member)
  · exact follows.operations operation (mem_operations at')
  · have awaits : c.status = operation.awaited := off.awaits open'
    have honest := fun opening =>
      follows.unforced met opening _ (List.mem_of_getElem? at') result rfl
    cases operation with
    | resolve => exact honest (Or.inl awaits)
    | connect => exact honest (Or.inr awaits)
    | read | write => exact absurd rfl early

theorem Follows.finish (follows : Follows strict reached asked c) {index : Nat}
    {operation : Operation} {result : Completion}
    (at' : c.pending[index]? = some { operation, result := none })
    (honest : strict → result.error ≠ some .operationAborted) :
    Follows strict reached asked
      { c with pending := c.pending.set index { operation, result := some result } } := by
  refine ⟨follows.obeys, follows.closing, follows.connected, ?_, fun met opening p member => ?_⟩
  · rw [operations_finish at' (some result)]
    exact follows.operations
  · rcases List.mem_or_eq_of_mem_set member with old | new
    · exact follows.unforced met opening p old
    · intro other finished
      rw [new] at finished
      cases finished
      exact honest met

theorem Follows.step (sound : Sound c) (follows : Follows strict reached asked c)
    (honest : strict → NotAborted c e) (taken : step c e = some t) :
    ∃ reached' asked', Follows strict reached' asked' t := by
  rcases step_cases taken with ⟨request, rfl, rfl⟩ | ⟨index, result, operation, rfl, at', rfl⟩ |
    ⟨index, calls, operation, result, rfl, at', rfl⟩
  · obtain ⟨reached', asked', follows', _⟩ := follows.call sound.toBalanced request
    exact ⟨reached', asked', follows'⟩
  · exact ⟨reached, asked, follows.finish at' honest⟩
  · have off := sound.taken at'
    obtain ⟨reached', asked', follows'⟩ := (follows.takenOff off at').handle off
    exact follows'.resume (handle_sound off result) calls

/-- What holds between two handlers. -/
structure Grammar (strict : Prop) (c : TcpClient) : Prop extends Sound c where
  follows : ∃ reached asked, Follows strict reached asked c

theorem Grammar.step (grammar : Grammar strict c) (honest : strict → NotAborted c e)
    (taken : TcpClient.step c e = some t) : Grammar strict t := by
  obtain ⟨reached, asked, follows⟩ := grammar.follows
  exact ⟨grammar.toSound.step taken, follows.step grammar.toSound honest taken⟩

theorem Grammar.init : Grammar strict {} :=
  ⟨sound_init, .started, False, .nil, fun busy => absurd rfl busy, nofun,
    fun _ member => (List.not_mem_nil member).elim, fun _ => .of_status nofun nofun⟩

theorem Grammar.of_run {es : List Event} (run : Run TcpClient.step {} es c) : Grammar False c :=
  run.invariant (fun grammar taken => grammar.step False.elim taken) .init

theorem status_disconnect (busy : c.status ≠ .disconnected) :
    c.disconnect.status = .disconnecting := by
  unfold TcpClient.disconnect
  split
  · rename_i free
    exact absurd free busy
  · assumption
  · rfl
  · rfl
  · rfl

/-- What a client tells its owner obeys the grammar of a connection, and if no operation
ends with `operation_aborted` on its own, it tells the truth about who ended it. -/
theorem obeys_grammar {es : List Event} (run : Run TcpClient.step {} es c) :
    (∀ front, front <+: c.history → Grammatical (notifications (attempt front))) ∧
      (Guarded TcpClient.step NotAborted {} es → Truthful c.history) := by
  refine ⟨?_, fun guarded => ?_⟩
  · obtain ⟨_, _, follows⟩ := (Grammar.of_run run).follows
    exact follows.obeys.grammatically
  · have grammar : Grammar True c :=
      run.guarded (fun grammar honest taken => grammar.step (fun _ => honest) taken) guarded .init
    obtain ⟨_, _, follows⟩ := grammar.follows
    exact follows.obeys.truthful trivial

/-- A client that connects, is sent something, and is then disconnected by its owner. -/
def visit : List Event :=
  [.call .connect, .finish 0 {}, .complete 0 [], .finish 0 {}, .complete 0 [],
    .finish 0 { bytes := ['O', 'K'] }, .complete 0 [.disconnect], .complete 0 []]

theorem obeys_grammar_visit :
    ∃ c, Run TcpClient.step {} visit c ∧
      notifications c.history =
        [.connect, .receivedData ['O', 'K'], .disconnect .closedByUser] ∧
      (∀ front, front <+: c.history → Grammatical (notifications (attempt front))) ∧
      Truthful c.history := by
  have executed : (visit.foldlM TcpClient.step {}).map (fun c => notifications c.history) =
      some [.connect, .receivedData ['O', 'K'], .disconnect .closedByUser] := by
    decide +kernel
  obtain ⟨c, folded, told⟩ := Option.map_eq_some_iff.mp executed
  have run : Run TcpClient.step {} visit c := .of_foldlM folded
  obtain ⟨grammatical, truthful⟩ := obeys_grammar run
  have guarded : Guarded TcpClient.step NotAborted {} visit := by
    decide +kernel
  exact ⟨c, run, told, grammatical, truthful guarded⟩

end GpsInformer.TcpClient
