import GpsInformer.Lib.Run
import GpsInformer.TcpClient

/-!
# `TcpClient`: outstanding operations and stranding

`_ioCount` is the number of outstanding operations in every state between two
handlers, whatever the owner does and in whatever order the operations finish
and complete (`Sound`).  That a client with nothing outstanding is disconnected
(`NotStranded`) is not: after a read error has closed the socket without changing
`_status`, a queued successful completion of the last write is handled as if the
connection were alive (`LastWriteAfterClose`).  `forall_visits_notStranded_iff`
shows that this is the only way to strand the client.
-/

namespace GpsInformer.TcpClient

open Lib

variable {c t : TcpClient} {e : Event}

/-! ## Outstanding operations, results aside -/

/-- The outstanding operations. -/
def operations (c : TcpClient) : List Operation := c.pending.map (·.operation)

theorem length_operations : c.operations.length = c.pending.length := by
  simp [operations]

theorem operations_eq_nil : c.operations = [] ↔ c.pending = [] := by
  simp [operations]

@[simp] theorem operations_record (action : Action) :
    (c.record action).operations = c.operations := rfl

@[simp] theorem operations_closeSocket : c.closeSocket.operations = c.operations := by
  simp only [operations, closeSocket, List.map_map]
  refine List.map_congr_left fun p _ => ?_
  simp only [Function.comp_apply]
  split <;> rfl

@[simp] theorem operations_cancelResolver : c.cancelResolver.operations = c.operations := by
  simp only [operations, cancelResolver, List.map_map]
  refine List.map_congr_left fun p _ => ?_
  simp only [Function.comp_apply]
  split <;> rfl

@[simp] theorem operations_start (operation : Operation) :
    (c.start operation).operations = c.operations ++ [operation] := by
  simp [operations, start]

@[simp] theorem operations_startOnSocket (operation : Operation) :
    (c.startOnSocket operation).operations = c.operations ++ [operation] := by
  unfold startOnSocket
  split <;> simp [operations, start]

@[simp] theorem status_startOnSocket (operation : Operation) :
    (c.startOnSocket operation).status = c.status := by
  unfold startOnSocket
  split <;> rfl

@[simp] theorem ioCount_startOnSocket (operation : Operation) :
    (c.startOnSocket operation).ioCount = c.ioCount := by
  unfold startOnSocket
  split <;> rfl

@[simp] theorem isOpen_startOnSocket (operation : Operation) :
    (c.startOnSocket operation).isOpen = c.isOpen := by
  unfold startOnSocket
  split <;> rfl

@[simp] theorem operations_asyncRead : c.asyncRead.operations = c.operations ++ [.read] :=
  operations_startOnSocket _

@[simp] theorem operations_asyncWrite : c.asyncWrite.operations = c.operations ++ [.write] :=
  operations_startOnSocket _

@[simp] theorem operations_asyncConnect :
    c.asyncConnect.operations = c.operations ++ [.connect] :=
  operations_start _

@[simp] theorem status_asyncRead : c.asyncRead.status = c.status := by
  simp [asyncRead]

@[simp] theorem status_asyncWrite : c.asyncWrite.status = c.status := by
  simp [asyncWrite, record]

@[simp] theorem ioCount_asyncRead : c.asyncRead.ioCount = c.ioCount + 1 := by
  simp [asyncRead]

@[simp] theorem ioCount_asyncWrite : c.asyncWrite.ioCount = c.ioCount + 1 := by
  simp [asyncWrite, record]

@[simp] theorem isOpen_asyncWrite : c.asyncWrite.isOpen = c.isOpen := by
  simp [asyncWrite, record]

/-! ## The invariant -/

/-- The operations that can be outstanding in a status. -/
def Shape : Status → List Operation → Prop
  | .disconnected, operations => operations = []
  | .resolve, operations => operations = [.resolve]
  | .connecting, operations => operations = [.connect]
  | .connected, operations => ∀ operation ∈ operations, operation = .read ∨ operation = .write
  | .disconnecting, _ => True

/-- What holds at every call of `_handler` and between two handlers. -/
structure Balanced (c : TcpClient) : Prop where
  counted : c.ioCount = c.operations.length
  shape : Shape c.status c.operations

/-- What holds between two handlers: moreover a connected client whose socket is
open is reading. -/
structure Sound (c : TcpClient) : Prop extends Balanced c where
  reading : c.status = .connected → c.isOpen = true → .read ∈ c.operations

theorem Sound.record (sound : Sound c) (action : Action) : Sound (c.record action) :=
  ⟨⟨sound.counted, sound.shape⟩, sound.reading⟩

/-- What a public function can do. -/
inductive CallCase (c : TcpClient) : TcpClient → Prop
  | ignored : CallCase c c
  | resolving (t : TcpClient) : c.status = .disconnected → t.status = .resolve →
    t.ioCount = c.ioCount + 1 → t.operations = c.operations ++ [.resolve] → CallCase c t
  | closing (t : TcpClient) : c.status ≠ .disconnected → t.status = .disconnecting →
    t.ioCount = c.ioCount → t.operations = c.operations → CallCase c t
  | queued (t : TcpClient) : c.status = .connected → t.status = .connected →
    t.ioCount = c.ioCount → t.isOpen = c.isOpen → t.operations = c.operations → CallCase c t
  | writing (t : TcpClient) : c.status = .connected → t.status = .connected →
    t.ioCount = c.ioCount + 1 → t.isOpen = c.isOpen → t.operations = c.operations ++ [.write] →
    CallCase c t

theorem call_cases (c : TcpClient) (request : Call) : CallCase c (c.call request) := by
  cases request with
  | connect =>
      simp only [call, connect]
      split
      · exact .ignored
      · rename_i free
        exact .resolving _ (not_not.mp free) rfl rfl (operations_start _)
  | disconnect =>
      simp only [call, disconnect]
      split
      · exact .ignored
      · exact .ignored
      · rename_i status
        exact .closing _ (by simp [status]) rfl rfl operations_cancelResolver
      all_goals
        rename_i status
        exact .closing _ (by simp [status]) rfl rfl operations_closeSocket
  | send data =>
      simp only [call, send]
      split
      · exact .ignored
      · rename_i status
        have connected : c.status = .connected := not_not.mp status
        split
        · exact .writing _ connected (status_asyncWrite.trans connected) ioCount_asyncWrite
            isOpen_asyncWrite operations_asyncWrite
        · exact .queued _ connected connected rfl rfl rfl

theorem Balanced.call (balanced : Balanced c) (request : Call) : Balanced (c.call request) := by
  obtain ⟨counted, shape⟩ := balanced
  have effect := call_cases c request
  generalize c.call request = t at effect ⊢
  cases effect with
  | ignored => exact ⟨counted, shape⟩
  | resolving _ free status ioCount operations =>
      rw [free] at shape
      refine ⟨by simp [ioCount, operations, counted], ?_⟩
      rw [status, operations, show c.operations = [] from shape]
      rfl
  | closing _ _ status ioCount operations =>
      refine ⟨by rw [ioCount, operations, counted], ?_⟩
      rw [status]
      trivial
  | queued _ was status ioCount _ operations =>
      rw [was] at shape
      refine ⟨by rw [ioCount, operations, counted], ?_⟩
      rw [status, operations]
      exact shape
  | writing _ was status ioCount _ operations =>
      rw [was] at shape
      refine ⟨by simp [ioCount, operations, counted], ?_⟩
      rw [status, operations]
      intro operation member
      rcases List.mem_append.mp member with old | new
      · exact shape operation old
      · exact Or.inr (List.mem_singleton.mp new)

theorem Sound.call (sound : Sound c) (request : Call) : Sound (c.call request) := by
  refine ⟨sound.toBalanced.call request, ?_⟩
  have effect := call_cases c request
  generalize c.call request = t at effect ⊢
  cases effect with
  | ignored => exact sound.reading
  | resolving _ _ status _ _ =>
      intro connected
      cases status.symm.trans connected
  | closing _ _ status _ _ =>
      intro connected
      cases status.symm.trans connected
  | queued _ was _ _ isOpen operations =>
      intro _ opened
      rw [operations]
      exact sound.reading was (isOpen.symm.trans opened)
  | writing _ was _ _ isOpen operations =>
      intro _ opened
      rw [operations]
      exact List.mem_append_left _ (sound.reading was (isOpen.symm.trans opened))

theorem Balanced.asyncRead (balanced : Balanced c)
    (status : c.status = .connected ∨ c.status = .disconnecting) : Sound c.asyncRead := by
  refine ⟨⟨?_, ?_⟩, fun _ _ => by simp⟩
  · simp [balanced.counted]
  · rw [status_asyncRead, operations_asyncRead]
    have shape := balanced.shape
    rcases status with status | status <;> rw [status] at shape ⊢
    · intro operation member
      rcases List.mem_append.mp member with old | new
      · exact shape operation old
      · exact Or.inl (List.mem_singleton.mp new)
    · trivial

theorem Sound.asyncWrite (sound : Sound c) (status : c.status = .connected) :
    Sound c.asyncWrite := by
  have shape := sound.shape
  rw [status] at shape
  refine ⟨⟨?_, ?_⟩, fun _ opened => ?_⟩
  · simp [sound.counted]
  · rw [status_asyncWrite, operations_asyncWrite, status]
    intro operation member
    rcases List.mem_append.mp member with old | new
    · exact shape operation old
    · exact Or.inr (List.mem_singleton.mp new)
  · rw [operations_asyncWrite]
    exact List.mem_append_left _ (sound.reading status (isOpen_asyncWrite.symm.trans opened))

/-- No public function leaves the connected or the disconnecting status for
another one. -/
theorem call_connected (request : Call)
    (status : c.status = .connected ∨ c.status = .disconnecting) :
    (c.call request).status = .connected ∨ (c.call request).status = .disconnecting := by
  have effect := call_cases c request
  generalize c.call request = t at effect ⊢
  cases effect with
  | ignored => exact status
  | resolving _ free _ _ _ =>
      rw [free] at status
      rcases status with impossible | impossible <;> cases impossible
  | closing _ _ status _ _ => exact Or.inr status
  | queued _ _ status _ _ _ => exact Or.inl status
  | writing _ _ status _ _ _ => exact Or.inl status

theorem Balanced.calls (balanced : Balanced c) (calls : List Call) :
    Balanced (calls.foldl TcpClient.call c) := by
  induction calls generalizing c with
  | nil => exact balanced
  | cons request rest ih => exact ih (balanced.call request)

theorem Sound.calls (sound : Sound c) (calls : List Call) :
    Sound (calls.foldl TcpClient.call c) := by
  induction calls generalizing c with
  | nil => exact sound
  | cons request rest ih => exact ih (sound.call request)

theorem calls_connected (calls : List Call)
    (status : c.status = .connected ∨ c.status = .disconnecting) :
    (calls.foldl TcpClient.call c).status = .connected ∨
      (calls.foldl TcpClient.call c).status = .disconnecting := by
  induction calls generalizing c with
  | nil => exact status
  | cons request rest ih => exact ih (call_connected request status)

/-! ## The completion handlers -/

/-- What `handleAnything` does: nothing on a disconnected client, close and wait
for the other operations, close and report the end, or let its caller go on. -/
inductive AnythingCase (handleStatus : Status) (error : Option ErrorCode) (c : TcpClient) :
    TcpClient × Option Notification × Bool → Prop
  | ignored : c.status = .disconnected →
    AnythingCase handleStatus error c ({ c with ioCount := c.ioCount - 1 }, none, false)
  | waiting : c.status ≠ .disconnected → c.status = .disconnecting ∨ error.isSome →
    0 < c.ioCount - 1 →
    AnythingCase handleStatus error c
      ({ c with ioCount := c.ioCount - 1 }.closeSocket, none, false)
  | ended (notification : Notification) : c.status ≠ .disconnected →
    c.status = .disconnecting ∨ error.isSome → c.ioCount - 1 ≤ 0 →
    AnythingCase handleStatus error c
      ({ pending := c.closeSocket.pending, trace := c.trace }, some notification, false)
  | alive : c.status ≠ .disconnected → c.status ≠ .disconnecting → error = none →
    AnythingCase handleStatus error c ({ c with ioCount := c.ioCount - 1 }, none, true)

theorem handleAnything_cases (handleStatus : Status) (error : Option ErrorCode) (c : TcpClient) :
    AnythingCase handleStatus error c (c.handleAnything handleStatus error) := by
  unfold handleAnything
  dsimp only
  split
  · rename_i free
    exact .ignored free
  · rename_i live
    split
    · rename_i failed
      split
      · rename_i others
        exact .waiting live failed others
      · rename_i last
        split
        · exact .ended _ live failed (Int.not_lt.mp last)
        · exact .ended _ live failed (Int.not_lt.mp last)
    · rename_i fine
      obtain ⟨open', noError⟩ := not_or.mp fine
      exact .alive live open' (by simpa using noError)

/-- The `handleStatus` the handler of an operation passes on. -/
def Operation.awaited : Operation → Status
  | .resolve => .resolve
  | .connect => .connecting
  | .read | .write => .connected

/-- The error the handler of an operation passes on. -/
def failure (operation : Operation) (result : Completion) : Option ErrorCode :=
  match operation with
  | .resolve | .connect => result.error
  | .read | .write => eofIfEmpty result.bytes.length result.error

/-- How the handler of an operation goes on with a live connection. -/
def goOn (operation : Operation) (result : Completion) (c : TcpClient) : Turn :=
  match operation with
  | .resolve => { client := { c with status := .connecting }.asyncConnect }
  | .connect =>
      { client := { c with status := .connected }, notification := some .connect, thenRead := true }
  | .read => { client := c, notification := some (.receivedData result.bytes), thenRead := true }
  | .write =>
      let c := { c with writeBuffer := c.writeBuffer.tail }
      { client := if !c.writeBuffer.isEmpty then c.asyncWrite else c }

/-- The four completion handlers share their first half. -/
theorem handle_eq (operation : Operation) (result : Completion) (c : TcpClient) :
    c.handle operation result =
      match c.handleAnything operation.awaited (failure operation result) with
      | (c, notification, false) => { client := c, notification }
      | (c, _, true) => goOn operation result c := by
  cases operation <;> rfl

/-- A client whose operation `operation` has just been taken off the outstanding
ones, its handler not yet run. -/
structure Taken (operation : Operation) (c : TcpClient) : Prop where
  counted : c.ioCount = c.operations.length + 1
  shape : ∃ front back, c.operations = front ++ back ∧
    Shape c.status (front ++ operation :: back)
  reading : c.status = .connected → c.isOpen = true →
    operation = .read ∨ .read ∈ c.operations

/-- What a completion handler leaves to the owner. -/
structure Turn.Sound (turn : Turn) : Prop where
  balanced : turn.client.Balanced
  silent : turn.thenRead = false → turn.client.Sound
  alive : turn.thenRead = true → turn.client.status = .connected

theorem Taken.live {operation : Operation} (taken : Taken operation c) :
    c.status ≠ .disconnected := by
  intro free
  obtain ⟨front, back, _, shape⟩ := taken.shape
  rw [free] at shape
  cases front <;> cases shape

/-- Nothing is left when the last operation has been taken off. -/
theorem Taken.operations_closeSocket {operation : Operation} (taken : Taken operation c)
    (last : c.ioCount - 1 ≤ 0) : c.closeSocket.operations = [] := by
  have counted := taken.counted
  rw [TcpClient.operations_closeSocket, ← List.length_eq_zero_iff]
  omega

/-- On a live connection the status tells which operation has completed and
which others are outstanding. -/
theorem Taken.alive {operation : Operation} (taken : Taken operation c)
    (open' : c.status ≠ .disconnecting) :
    (operation = .resolve ∧ c.operations = []) ∨ (operation = .connect ∧ c.operations = []) ∨
      (c.status = .connected ∧ (operation = .read ∨ operation = .write) ∧
        ∀ other ∈ c.operations, other = .read ∨ other = .write) := by
  obtain ⟨front, back, eq, shape⟩ := taken.shape
  rw [eq]
  cases status : c.status with
  | disconnected => exact (taken.live status).elim
  | resolve =>
      rw [status] at shape
      obtain ⟨rfl, rfl, rfl⟩ : front = [] ∧ operation = .resolve ∧ back = [] := by
        cases front <;> simp [Shape] at shape
        exact ⟨rfl, shape⟩
      exact Or.inl ⟨rfl, rfl⟩
  | connecting =>
      rw [status] at shape
      obtain ⟨rfl, rfl, rfl⟩ : front = [] ∧ operation = .connect ∧ back = [] := by
        cases front <;> simp [Shape] at shape
        exact ⟨rfl, shape⟩
      exact Or.inr (Or.inl ⟨rfl, rfl⟩)
  | connected =>
      rw [status] at shape
      refine Or.inr (Or.inr ⟨rfl, shape operation (by simp), fun other member => ?_⟩)
      refine shape other ?_
      rcases List.mem_append.mp member with left | right
      · exact List.mem_append_left _ left
      · exact List.mem_append_right _ (List.mem_cons_of_mem _ right)
  | disconnecting => exact (open' status).elim

/-- Whatever a completion handler waits for can still be outstanding. -/
theorem Taken.shape_rest {operation : Operation} (taken : Taken operation c)
    (others : 0 < c.ioCount - 1) : Shape c.status c.operations := by
  have counted := taken.counted
  by_cases closing : c.status = .disconnecting
  · rw [closing]
    trivial
  · rcases taken.alive closing with ⟨_, none'⟩ | ⟨_, none'⟩ | ⟨status, _, rest⟩
    · rw [none'] at counted
      simp at counted
      omega
    · rw [none'] at counted
      simp at counted
      omega
    · rw [status]
      exact rest

theorem handle_sound {operation : Operation} (taken : Taken operation c) (result : Completion) :
    (c.handle operation result).Sound := by
  have counted := taken.counted
  rw [handle_eq]
  have effect := handleAnything_cases operation.awaited (failure operation result) c
  generalize c.handleAnything operation.awaited (failure operation result) = outcome at effect
  cases effect with
  | ignored free => exact (taken.live free).elim
  | waiting _ _ others =>
      have closed : Sound ({ c with ioCount := c.ioCount - 1 }.closeSocket) := by
        refine ⟨⟨?_, ?_⟩, fun _ opened => by cases opened⟩
        · rw [operations_closeSocket]
          show c.ioCount - 1 = c.operations.length
          omega
        · rw [operations_closeSocket]
          exact taken.shape_rest others
      exact ⟨closed.toBalanced, fun _ => closed, fun goesOn => by cases goesOn⟩
  | ended notification _ _ last =>
      have none' := taken.operations_closeSocket last
      have ended : Sound { pending := c.closeSocket.pending, trace := c.trace } := by
        refine ⟨⟨?_, none'⟩, fun _ opened => by cases opened⟩
        show (0 : Int) = c.closeSocket.operations.length
        rw [none']
        rfl
      exact ⟨ended.toBalanced, fun _ => ended, fun goesOn => by cases goesOn⟩
  | alive _ open' _ =>
      have remaining : c.ioCount - 1 = c.operations.length := by omega
      rcases taken.alive open' with ⟨rfl, none'⟩ | ⟨rfl, none'⟩ | ⟨status, kind, others⟩
      · have connecting : Sound (asyncConnect
            { c with ioCount := c.ioCount - 1, status := .connecting }) := by
          refine ⟨⟨?_, ?_⟩, fun status => by cases status⟩
          · rw [operations_asyncConnect, List.length_append]
            show c.ioCount - 1 + 1 = ((c.operations.length + 1 : Nat) : Int)
            omega
          · rw [operations_asyncConnect]
            show c.operations ++ [Operation.connect] = [.connect]
            rw [none', List.nil_append]
        exact ⟨connecting.toBalanced, fun _ => connecting, fun goesOn => by cases goesOn⟩
      · refine ⟨⟨remaining, ?_⟩, fun silent => (by cases silent), fun _ => rfl⟩
        show ∀ operation ∈ c.operations, _
        rw [none']
        exact fun _ member => by cases member
      · have balanced : Balanced { c with ioCount := c.ioCount - 1 } :=
          ⟨remaining, by rw [show TcpClient.status _ = .connected from status]; exact others⟩
        rcases kind with rfl | rfl
        · exact ⟨balanced, fun silent => (by cases silent), fun _ => status⟩
        · have still : Sound
              { c with ioCount := c.ioCount - 1, writeBuffer := c.writeBuffer.tail } := by
            refine ⟨⟨balanced.counted, balanced.shape⟩, fun connected opened => ?_⟩
            exact (taken.reading connected opened).resolve_left (by simp)
          have written := still.asyncWrite status
          dsimp only [goOn]
          split
          · exact ⟨written.toBalanced, fun _ => written, fun goesOn => by cases goesOn⟩
          · exact ⟨still.toBalanced, fun _ => still, fun goesOn => by cases goesOn⟩

theorem Turn.Sound.resume {turn : Turn} (sound : turn.Sound) (calls : List Call) :
    (turn.resume fun c => calls.foldl call c).Sound := by
  obtain ⟨client, notification, thenRead⟩ := turn
  unfold Turn.resume
  cases thenRead with
  | false =>
      have silent : client.Sound := sound.silent rfl
      cases notification with
      | none => exact silent
      | some notification => exact (silent.record _).calls calls
  | true =>
      have balanced : client.Balanced := sound.balanced
      have alive : client.status = .connected := sound.alive rfl
      cases notification with
      | none => exact balanced.asyncRead (Or.inl alive)
      | some notification =>
          exact Balanced.asyncRead
            (Balanced.calls (c := client.record (.notify notification))
              ⟨balanced.counted, balanced.shape⟩ calls)
            (calls_connected (c := client.record (.notify notification)) calls (Or.inl alive))

/-! ## Every run is sound -/

/-- Taking a completed operation off the outstanding ones. -/
theorem Sound.taken (sound : Sound c) {index : Nat} {operation : Operation}
    {result : Option Completion} (at' : c.pending[index]? = some { operation, result }) :
    Taken operation { c with pending := c.pending.eraseIdx index } := by
  obtain ⟨bound, eq⟩ := List.getElem?_eq_some_iff.mp at'
  have split : c.pending =
      c.pending.take index ++ { operation, result } :: c.pending.drop (index + 1) := by
    rw [← eq, ← List.drop_eq_getElem_cons bound, List.take_append_drop]
  have operations : c.operations = (c.pending.take index).map (·.operation) ++
      operation :: (c.pending.drop (index + 1)).map (·.operation) := by
    conv_lhs => rw [TcpClient.operations, split]
    rw [List.map_append, List.map_cons]
  have rest : TcpClient.operations { c with pending := c.pending.eraseIdx index } =
      (c.pending.take index).map (·.operation) ++
        (c.pending.drop (index + 1)).map (·.operation) := by
    simp [TcpClient.operations, List.eraseIdx_eq_take_drop_succ]
  refine ⟨?_, ⟨_, _, rest, ?_⟩, fun status opened => ?_⟩
  · rw [rest]
    have counted := sound.counted
    rw [operations] at counted
    simp only [List.length_append, List.length_cons] at counted ⊢
    show c.ioCount = _
    omega
  · rw [← operations]
    exact sound.shape
  · have reading := sound.reading status opened
    rw [operations] at reading
    rw [rest]
    rcases List.mem_append.mp reading with left | right
    · exact Or.inr (List.mem_append_left _ left)
    · rcases List.mem_cons.mp right with same | later
      · exact Or.inl same.symm
      · exact Or.inr (List.mem_append_right _ later)

theorem operations_finish {index : Nat} {operation : Operation} {old : Option Completion}
    (at' : c.pending[index]? = some { operation, result := old }) (new : Option Completion) :
    TcpClient.operations
      { c with pending := c.pending.set index { operation, result := new } } = c.operations := by
  obtain ⟨bound, eq⟩ := List.getElem?_eq_some_iff.mp at'
  simp only [TcpClient.operations, List.map_set]
  refine List.ext_getElem (by simp) fun i _ _ => ?_
  rw [List.getElem_set]
  split
  · rename_i same
    subst same
    simp [eq]
  · rfl

/-- What an event can do: call a public function, finish an operation, or run
the handler of a finished one. -/
theorem step_cases (taken : step c e = some t) :
    (∃ request, e = .call request ∧ t = c.call request) ∨
    (∃ index result operation, e = .finish index result ∧
      c.pending[index]? = some { operation, result := none } ∧
      t = { c with pending := c.pending.set index { operation, result := some result } }) ∨
    (∃ index calls operation result, e = .complete index calls ∧
      c.pending[index]? = some { operation, result := some result } ∧
      t = ({ c with pending := c.pending.eraseIdx index }.handle operation result).resume
        fun c => calls.foldl call c) := by
  cases e with
  | call request => exact Or.inl ⟨request, rfl, (Option.some.inj taken).symm⟩
  | finish index result =>
      simp only [step] at taken
      split at taken
      · rename_i operation at'
        exact Or.inr (Or.inl ⟨index, result, operation, rfl, at', (Option.some.inj taken).symm⟩)
      · cases taken
  | complete index calls =>
      simp only [step] at taken
      split at taken
      · rename_i operation result at'
        exact Or.inr (Or.inr
          ⟨index, calls, operation, result, rfl, at', (Option.some.inj taken).symm⟩)
      · cases taken

theorem Sound.step (sound : Sound c) (taken : step c e = some t) : Sound t := by
  rcases step_cases taken with ⟨request, rfl, rfl⟩ | ⟨index, result, operation, rfl, at', rfl⟩ |
    ⟨index, calls, operation, result, rfl, at', rfl⟩
  · exact sound.call request
  · have operations := operations_finish at' (some result)
    refine ⟨⟨?_, ?_⟩, fun status opened => ?_⟩
    · rw [operations]
      exact sound.counted
    · rw [operations]
      exact sound.shape
    · rw [operations]
      exact sound.reading status opened
  · exact (handle_sound (sound.taken at') result).resume calls

/-- A fresh client is sound, so every run only meets sound ones. -/
theorem sound_init : Sound {} :=
  ⟨⟨rfl, rfl⟩, fun connected => by cases connected⟩

theorem Sound.of_run {es : List Event} (run : Run TcpClient.step {} es t) : Sound t :=
  run.invariant Sound.step sound_init

/-! ## Stranding -/

/-- The client has not been left behind: its counter is that of its outstanding
operations, and with none of them it is disconnected (hence its owner has had the
terminal notification and `connect` is accepted). -/
def NotStranded (c : TcpClient) : Prop :=
  c.ioCount = c.pending.length ∧ 0 ≤ c.ioCount ∧ (c.pending = [] → c.status = .disconnected)

/-- The only outstanding operation is a write that has succeeded. -/
def onlyWriteSucceeded : List Pending → Bool
  | [{ operation := .write, result := some result }] =>
      result.error.isNone && !result.bytes.isEmpty
  | _ => false

/-- The event handles the successful completion of the last queued write as the
only outstanding operation, on a connection whose socket an earlier error has
closed. -/
def LastWriteAfterClose (c : TcpClient) : Event → Prop
  | .complete 0 _ =>
      c.status = .connected ∧ c.isOpen = false ∧ c.writeBuffer.length ≤ 1 ∧
        onlyWriteSucceeded c.pending = true
  | _ => False

instance : ∀ c e, Decidable (LastWriteAfterClose c e)
  | c, .complete 0 _ =>
      inferInstanceAs (Decidable (c.status = .connected ∧ c.isOpen = false ∧
        c.writeBuffer.length ≤ 1 ∧ onlyWriteSucceeded c.pending = true))
  | _, .complete (_ + 1) _ | _, .call _ | _, .finish _ _ => .isFalse id

theorem onlyWriteSucceeded_iff {pending : List Pending} :
    onlyWriteSucceeded pending = true ↔
      ∃ result : Completion, pending = [{ operation := .write, result := some result }] ∧
        result.error = none ∧ result.bytes ≠ [] := by
  constructor
  · intro only
    unfold onlyWriteSucceeded at only
    split at only
    · rename_i result
      exact ⟨result, rfl, by simpa using only⟩
    · cases only
  · rintro ⟨result, rfl, noError, nonempty⟩
    simp [onlyWriteSucceeded, noError, nonempty]

/-- With nothing outstanding the client is disconnected. -/
def Idle (c : TcpClient) : Prop := c.operations = [] → c.status = .disconnected

theorem Idle.call (idle : Idle c) (request : Call) : Idle (c.call request) := by
  have effect := call_cases c request
  generalize c.call request = t at effect ⊢
  intro none'
  cases effect with
  | ignored => exact idle none'
  | resolving _ _ _ _ operations => simp [operations] at none'
  | closing _ live _ _ operations => exact (live (idle (operations.symm.trans none'))).elim
  | queued _ was _ _ _ operations =>
      cases was.symm.trans (idle (operations.symm.trans none'))
  | writing _ _ _ _ _ operations => simp [operations] at none'

theorem Idle.calls (idle : Idle c) (calls : List Call) : Idle (calls.foldl TcpClient.call c) := by
  induction calls generalizing c with
  | nil => exact idle
  | cons request rest ih => exact ih (idle.call request)

/-- The handler of a write that succeeded on a live connection strands the client
when nothing else is outstanding or queued; no other handler does. -/
theorem handle_idle {operation : Operation} {result : Completion} (taken : Taken operation c)
    (more : operation = .write → c.status = .connected → failure .write result = none →
      c.operations = [] → c.writeBuffer.tail ≠ []) :
    (c.handle operation result).thenRead = false →
      Idle (c.handle operation result).client := by
  have counted := taken.counted
  rw [handle_eq]
  have effect := handleAnything_cases operation.awaited (failure operation result) c
  generalize c.handleAnything operation.awaited (failure operation result) = outcome at effect
  cases effect with
  | ignored free => exact fun _ _ => free
  | waiting _ _ others =>
      intro _ none'
      rw [operations_closeSocket] at none'
      rw [show c.operations = [] from none'] at counted
      simp at counted
      omega
  | ended notification _ _ _ => exact fun _ _ => rfl
  | alive _ open' noError =>
      rcases taken.alive open' with ⟨rfl, _⟩ | ⟨rfl, _⟩ | ⟨status, rfl | rfl, _⟩
      · intro _ none'
        simp [goOn] at none'
      · intro silent
        cases silent
      · intro silent
        cases silent
      · intro _ none'
        dsimp only [goOn] at none' ⊢
        split at none'
        · simp at none'
        · rename_i drained
          exact (more rfl status noError none' (by simpa using drained)).elim

theorem Turn.Sound.resume_idle {turn : Turn} (sound : turn.Sound)
    (idle : turn.thenRead = false → Idle turn.client) (calls : List Call) :
    Idle (turn.resume fun c => calls.foldl call c) := by
  obtain ⟨client, notification, thenRead⟩ := turn
  unfold Turn.resume
  cases thenRead with
  | true =>
      intro none'
      simp at none'
  | false =>
      cases notification with
      | none => exact idle rfl
      | some notification =>
          exact Idle.calls (c := client.record (.notify notification)) (idle rfl) calls

theorem LastWriteAfterClose.of_handle {index : Nat} {calls : List Call} {result : Completion}
    (sound : Sound c) (at' : c.pending[index]? = some ⟨.write, some result⟩)
    (status : c.status = .connected) (noError : failure .write result = none)
    (alone : TcpClient.operations { c with pending := c.pending.eraseIdx index } = [])
    (drained : c.writeBuffer.tail = []) : LastWriteAfterClose c (.complete index calls) := by
  obtain ⟨bound, eq⟩ := List.getElem?_eq_some_iff.mp at'
  have erased : c.pending.eraseIdx index = [] := operations_eq_nil.mp alone
  have length : c.pending.length = 1 := by
    have := List.length_eraseIdx_of_lt bound
    rw [erased] at this
    simp at this
    omega
  obtain ⟨p, only⟩ := List.length_eq_one_iff.mp length
  have first : index = 0 := by omega
  subst first
  have p_eq : p = ⟨.write, some result⟩ := by simpa [only] using eq
  subst p_eq
  have closed : c.isOpen = false := by
    by_contra opened
    have reading := sound.reading status (by simpa using opened)
    simp [TcpClient.operations, only] at reading
  have size : c.writeBuffer.length ≤ 1 := by
    have := congrArg List.length drained
    simp at this
    omega
  refine ⟨status, closed, size, onlyWriteSucceeded_iff.mpr ⟨result, only, ?_⟩⟩
  simp only [failure, eofIfEmpty] at noError
  split at noError
  · cases noError
  · rename_i nonempty
    refine ⟨noError, fun empty => nonempty ?_⟩
    simp [noError, empty]

theorem Sound.notStranded (sound : Sound c) (idle : Idle c) : NotStranded c := by
  refine ⟨?_, ?_, fun none' => idle (operations_eq_nil.mpr none')⟩
  · rw [sound.counted, length_operations]
  · rw [sound.counted]
    exact Int.natCast_nonneg _

theorem NotStranded.step (sound : Sound c) (fine : NotStranded c)
    (guard : ¬ LastWriteAfterClose c e) (taken : step c e = some t) : NotStranded t := by
  refine (sound.step taken).notStranded ?_
  have idle : Idle c := fun none' => fine.2.2 (operations_eq_nil.mp none')
  rcases step_cases taken with ⟨request, rfl, rfl⟩ | ⟨index, result, operation, rfl, at', rfl⟩ |
    ⟨index, calls, operation, result, rfl, at', rfl⟩
  · exact idle.call request
  · intro none'
    rw [operations_finish at'] at none'
    exact idle none'
  · have takenOff := sound.taken at'
    refine (handle_sound takenOff result).resume_idle (handle_idle takenOff ?_) calls
    rintro rfl status noError alone drained
    exact guard (.of_handle sound at' status noError alone drained)

theorem LastWriteAfterClose.strands (last : LastWriteAfterClose c e)
    (taken : TcpClient.step c e = some t) : ¬ NotStranded t := by
  unfold LastWriteAfterClose at last
  split at last
  · rename_i calls
    obtain ⟨status, closed, size, only⟩ := last
    obtain ⟨result, only, noError, nonempty⟩ := onlyWriteSucceeded_iff.mp only
    have drained : c.writeBuffer.tail.isEmpty = true := by
      rw [List.isEmpty_iff, ← List.length_eq_zero_iff, List.length_tail]
      omega
    have length : (result.bytes.length = 0) = False := by simpa using nonempty
    simp [TcpClient.step, only, TcpClient.handle, handleWrite, handleAnything, eofIfEmpty,
      noError, length, status, drained, Turn.resume] at taken
    subst taken
    rintro ⟨-, -, idle⟩
    exact Status.noConfusion (idle rfl)
  · exact last.elim

/-- A run leaves the client counted and never stranded, at every state between
two handlers, iff it never handles a successful completion of the last queued
write as the only outstanding operation after an error has closed the socket. -/
theorem forall_visits_notStranded_iff {es : List Event} (run : Run TcpClient.step {} es t) :
    (∀ c, Visits TcpClient.step {} es c → NotStranded c) ↔
      Guarded TcpClient.step (fun c e => ¬ LastWriteAfterClose c e) {} es :=
  forall_visits_iff_guarded
    (fun sound fine guard taken => ⟨sound.step taken, fine.step sound guard taken⟩)
    (fun _ _ bad taken => (not_not.mp bad).strands taken) run sound_init
    ⟨rfl, Int.le_refl _, fun _ => rfl⟩

/-- The peer's end of stream overtakes a queued write completion: connect, send
one string when notified, let the write succeed and the read fail, and handle the
read first. -/
def strandingRun : List Event :=
  [.call .connect, .finish 0 {}, .complete 0 [], .finish 0 {}, .complete 0 [.send ['O', 'N']],
    .finish 0 { bytes := ['O', 'N'] }, .finish 1 { error := some .eof }, .complete 1 [],
    .complete 0 []]

theorem not_forall_visits_notStranded :
    ¬ ∀ es t, Run TcpClient.step {} es t → ∀ c, Visits TcpClient.step {} es c → NotStranded c := by
  intro claim
  have run : Run TcpClient.step {} strandingRun _ := Run.of_foldlM rfl
  have fine := claim _ _ run _ (.of_run run)
  cases fine.2.2 rfl

/-- The same events with the queued completions handled in the other order. -/
def orderlyRun : List Event :=
  [.call .connect, .finish 0 {}, .complete 0 [], .finish 0 {}, .complete 0 [.send ['O', 'N']],
    .finish 0 { bytes := ['O', 'N'] }, .finish 1 { error := some .eof }, .complete 0 [],
    .complete 0 []]

theorem forall_visits_notStranded_orderly :
    Guarded TcpClient.step (fun c e => ¬ LastWriteAfterClose c e) {} orderlyRun ∧
      ∀ c, Visits TcpClient.step {} orderlyRun c → NotStranded c :=
  have guarded : Guarded TcpClient.step (fun c e => ¬ LastWriteAfterClose c e) {} orderlyRun := by
    decide
  ⟨guarded, (forall_visits_notStranded_iff (Run.of_foldlM rfl)).mpr guarded⟩

end GpsInformer.TcpClient
