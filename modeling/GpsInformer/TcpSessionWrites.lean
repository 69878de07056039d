import GpsInformer.DeviceFraming
import GpsInformer.Lib.WriteQueue
import GpsInformer.TcpClientWrites

/-!
# `TcpSession` on its own (TcpSession.cpp)

A session and any owner of it.  The owner may call back whenever it is notified, which is
also in the middle of `close` and `disconnect`, before `cleanup`.  The session is used for
one connection and its queue is never cleared.

The receiver is such an owner: what it does to one of its sessions is a run of the session on
its own (`ofShared_of_run`), so whatever holds of these runs holds of its sessions.
-/

namespace GpsInformer

open Lib

namespace TcpSession

/-- What a session did, in order. -/
inductive Action where
  /-- a string accepted by `send` -/
  | send (data : Str)
  | asyncWrite (data : Str)
  deriving DecidableEq, Repr

/-- Calls of the owner, one after another.  The calls it makes on being told of the end of
the session belong to the call that ends it. -/
inductive Calls where
  | done
  | send (data : Str) (later : Calls)
  | close (reaction later : Calls)
  | disconnect (reaction later : Calls)
  deriving DecidableEq, Repr

end TcpSession

/-- A session with the trace of its run. -/
structure OwnedSession where
  session : TcpSession := {}
  trace : List TcpSession.Action := []
  deriving DecidableEq, Repr

namespace OwnedSession

open TcpSession

def record (action : Action) (s : OwnedSession) : OwnedSession :=
  { s with trace := s.trace ++ [action] }

def read (s : OwnedSession) : OwnedSession :=
  { s with session := { s.session with reads := s.session.reads + 1 } }

def write (s : OwnedSession) : OwnedSession :=
  { s with session := { s.session with writes := s.session.writes + 1 } }.record
    (.asyncWrite (s.session.writeQueue.headD []))

def cleanup (s : OwnedSession) : OwnedSession :=
  { s with session := { s.session with registered := false, isOpen := false, active := false } }

def send (data : Str) (s : OwnedSession) : OwnedSession :=
  if !s.session.isOpen then s
  else
    let inProgress := !s.session.writeQueue.isEmpty
    let s := { s with session :=
      { s.session with writeQueue := s.session.writeQueue ++ [data] } }.record (.send data)
    if !inProgress then s.write else s

/-- `close` and `disconnect` differ in what they tell the owner. -/
def close (react : OwnedSession → OwnedSession) (s : OwnedSession) : OwnedSession :=
  (react s).cleanup

def disconnect (react : OwnedSession → OwnedSession) (s : OwnedSession) : OwnedSession :=
  (react s).cleanup

def start (react : OwnedSession → OwnedSession) (s : OwnedSession) : OwnedSession :=
  (react { s with session := { s.session with active := true, registered := true } }).read

/-- `failed` if there is an error. -/
def handleRead (react : OwnedSession → OwnedSession) (size : Nat) (failed : Bool)
    (s : OwnedSession) : OwnedSession :=
  if failed ∨ size = 0 then (react s).cleanup else (react s).read

def handleWrite (react : OwnedSession → OwnedSession) (failed : Bool) (s : OwnedSession) :
    OwnedSession :=
  if failed then (react s).cleanup
  else
    let s := { s with session := { s.session with writeQueue := s.session.writeQueue.tail } }
    if !s.session.writeQueue.isEmpty then s.write else s

def calls (s : OwnedSession) : Calls → OwnedSession
  | .done => s
  | .send data later => (s.send data).calls later
  | .close reaction later => (s.close fun s => s.calls reaction).calls later
  | .disconnect reaction later => (s.disconnect fun s => s.calls reaction).calls later

/-! ## Runs -/

/-- A connection has been accepted, and the owner has been told. -/
def accepted (reaction : Calls) : OwnedSession :=
  { session := { isOpen := true } : OwnedSession }.start fun s => s.calls reaction

inductive Event where
  /-- calls of the owner between two handlers -/
  | call (requests : Calls)
  /-- an outstanding `async_read` completes -/
  | read (size : Nat) (failed : Bool) (reaction : Calls)
  /-- an outstanding `async_write` completes -/
  | write (failed : Bool) (reaction : Calls)
  deriving DecidableEq, Repr

def step (s : OwnedSession) : Event → Option OwnedSession
  | .call requests => some (s.calls requests)
  | .read size failed reaction =>
      if s.session.reads = 0 then none
      else
        let s := { s with session := { s.session with reads := s.session.reads - 1 } }
        some (s.handleRead (fun s => s.calls reaction) size failed)
  | .write failed reaction =>
      if s.session.writes = 0 then none
      else
        let s := { s with session := { s.session with writes := s.session.writes - 1 } }
        some (s.handleWrite (fun s => s.calls reaction) failed)

end OwnedSession

/-! ## What is written -/

namespace TcpSession

def Action.sent : Action → Option Str
  | .send data => some data
  | .asyncWrite _ => none

def Action.written : Action → Option Str
  | .asyncWrite data => some data
  | .send _ => none

/-- The strings accepted by `send`. -/
def sent (trace : List Action) : List Str := trace.filterMap Action.sent

/-- The strings `async_write` was started for. -/
def written (trace : List Action) : List Str := trace.filterMap Action.written

theorem sent_concat (trace : List Action) (action : Action) :
    sent (trace ++ [action]) = sent trace ++ action.sent.toList :=
  filterMap_concat _ _ _

theorem written_concat (trace : List Action) (action : Action) :
    written (trace ++ [action]) = written trace ++ action.written.toList :=
  filterMap_concat _ _ _

end TcpSession

namespace OwnedSession

open TcpSession

variable {s t : OwnedSession} {e : Event}

/-- What has been written is the beginning of what has been sent, and at most one write is
outstanding. -/
structure WritesInOrder (s : OwnedSession) : Prop where
  single : s.session.writes ≤ 1
  inOrder : written s.trace <+: sent s.trace

/-- `n` of the outstanding writes have not been handled. -/
def Writing (n : Nat) (s : OwnedSession) : Prop :=
  Queued (sent s.trace) (written s.trace) s.session.writeQueue n

/-- The invariant. -/
def Orderly (s : OwnedSession) : Prop := Writing s.session.writes s

/-- Writing the head of the queue. -/
theorem Orderly.write
    (queued : Queued (sent s.trace) (written s.trace ++ [s.session.writeQueue.headD []])
      s.session.writeQueue (s.session.writes + 1)) :
    Orderly s.write := by
  have sent_eq : sent (s.trace ++ [.asyncWrite (s.session.writeQueue.headD [])]) = sent s.trace :=
    (sent_concat _ _).trans (List.append_nil _)
  have written_eq : written (s.trace ++ [.asyncWrite (s.session.writeQueue.headD [])]) =
      written s.trace ++ [s.session.writeQueue.headD []] := written_concat _ _
  show Queued (sent (s.trace ++ [.asyncWrite (s.session.writeQueue.headD [])]))
    (written (s.trace ++ [.asyncWrite (s.session.writeQueue.headD [])])) s.session.writeQueue
    (s.session.writes + 1)
  rw [sent_eq, written_eq]
  exact queued

theorem Orderly.send (orderly : Orderly s) (data : Str) :
    Orderly (s.send data) := by
  unfold OwnedSession.send
  split
  · exact orderly
  · have sent_eq : sent (s.trace ++ [.send data]) = sent s.trace ++ [data] := sent_concat _ _
    have written_eq : written (s.trace ++ [.send data]) = written s.trace :=
      (written_concat _ _).trans (List.append_nil _)
    dsimp only
    split
    · rename_i idle
      have empty : s.session.writeQueue = [] := by simpa using idle
      apply Orderly.write
      show Queued (sent (s.trace ++ [.send data]))
        (written (s.trace ++ [.send data]) ++ [(s.session.writeQueue ++ [data]).headD []])
        (s.session.writeQueue ++ [data]) (s.session.writes + 1)
      unfold Orderly Writing at orderly
      rw [empty] at orderly ⊢
      rw [sent_eq, written_eq]
      exact orderly.push_first data
    · rename_i busy
      have waiting : s.session.writeQueue ≠ [] := by simpa using busy
      show Queued (sent (s.trace ++ [.send data])) (written (s.trace ++ [.send data]))
        (s.session.writeQueue ++ [data]) s.session.writes
      rw [sent_eq, written_eq]
      exact Queued.push_later orderly waiting data

theorem Orderly.cleanup (orderly : Orderly s) :
    Orderly s.cleanup := orderly

/-- Whatever the owner does. -/
theorem Orderly.calls (orderly : Orderly s) (requests : Calls) :
    Orderly (s.calls requests) := by
  induction requests generalizing s with
  | done => exact orderly
  | send data later ih => exact ih (orderly.send data)
  | close reaction later inner ih => exact ih (Orderly.cleanup (inner orderly))
  | disconnect reaction later inner ih => exact ih (Orderly.cleanup (inner orderly))

theorem Orderly.accepted (reaction : Calls) :
    Orderly (accepted reaction) :=
  Orderly.calls (s := { session := { isOpen := true, active := true, registered := true } })
    Queued.nil reaction

theorem Orderly.step (orderly : Orderly s)
    (taken : OwnedSession.step s e = some t) : Orderly t := by
  cases e with
  | call requests =>
      cases taken
      exact orderly.calls requests
  | read size failed reaction =>
      unfold OwnedSession.step at taken
      dsimp only at taken
      split at taken
      · cases taken
      · cases taken
        have told := Orderly.calls (s := { s with session :=
          { s.session with reads := s.session.reads - 1 } }) orderly reaction
        unfold handleRead
        split
        · exact told
        · exact told
  | write failed reaction =>
      unfold OwnedSession.step at taken
      dsimp only at taken
      split at taken
      · cases taken
      · rename_i outstanding
        cases taken
        have one : s.session.writes = s.session.writes - 1 + 1 := by omega
        unfold handleWrite
        split
        · exact Orderly.calls (s := { s with session :=
            { s.session with writes := s.session.writes - 1 } })
            (Queued.fail orderly (Nat.sub_le _ _)) reaction
        · unfold Orderly Writing at orderly
          rw [one] at orderly
          dsimp only
          split
          · rename_i more
            obtain ⟨next, rest, split⟩ := List.exists_cons_of_ne_nil (by simpa using more)
            have head : s.session.writeQueue.tail.headD [] = next := by
              rw [split]
              rfl
            apply Orderly.write
            show Queued _ (written s.trace ++ [s.session.writeQueue.tail.headD []])
              s.session.writeQueue.tail (s.session.writes - 1 + 1)
            rw [head]
            exact Queued.next orderly split
          · rename_i last
            exact Queued.done orderly (by simpa using last)

theorem WritesInOrder.of_run {reaction : Calls} {es : List Event}
    (run : Run OwnedSession.step (accepted reaction) es s) : s.WritesInOrder :=
  have orderly : Orderly s := run.invariant Orderly.step (.accepted reaction)
  ⟨Queued.single orderly, Queued.isPrefix orderly⟩

end OwnedSession

/-! ## The sessions of the receiver -/

namespace TcpSession

/-- Some calls, and others after them. -/
def Calls.andThen : Calls → Calls → Calls
  | .done, others => others
  | .send data later, others => .send data (later.andThen others)
  | .close reaction later, others => .close reaction (later.andThen others)
  | .disconnect reaction later, others => .disconnect reaction (later.andThen others)

end TcpSession

namespace OwnedSession

open TcpSession Receiver Device

theorem calls_andThen (s : OwnedSession) (requests others : Calls) :
    s.calls (requests.andThen others) = (s.calls requests).calls others := by
  induction requests generalizing s with
  | done => rfl
  | send data later ih => exact ih _
  | close reaction later _ ih => exact ih _
  | disconnect reaction later _ ih => exact ih _

variable {env : DeviceEnv} {session id : SessionId} {r r' : Receiver} {a b c : Shared}

/-- What the session `id` of the receiver does. -/
def action (id : SessionId) : Effect → Option TcpSession.Action
  | .send session data => if session = id then some (.send data) else none
  | .asyncWrite session data => if session = id then some (.asyncWrite data) else none
  | _ => none

/-- A session of the receiver, on its own. -/
def ofShared (id : SessionId) (a : Shared) : OwnedSession where
  session := a.sessions id
  trace := a.log.filterMap (action id)

theorem ofShared_congr (same : b.sessions id = a.sessions id)
    (quiet : b.log.filterMap (action id) = a.log.filterMap (action id)) :
    ofShared id b = ofShared id a := by
  unfold ofShared
  rw [same, quiet]

theorem ofShared_record {effect : Effect} (quiet : action id effect = none) (a : Shared) :
    ofShared id (a.record effect) = ofShared id a :=
  ofShared_congr rfl (filterMap_record quiet a)

def modify (f : TcpSession → TcpSession) (s : OwnedSession) : OwnedSession :=
  { s with session := f s.session }

theorem ofShared_modifySession (id : SessionId) (f : TcpSession → TcpSession) (a : Shared) :
    ofShared id (a.modifySession id f) = (ofShared id a).modify f := by
  unfold ofShared
  rw [modifySession_self]
  rfl

theorem ofShared_modifySession_of_ne (differs : id ≠ session) (f : TcpSession → TcpSession)
    (a : Shared) : ofShared id (a.modifySession session f) = ofShared id a :=
  ofShared_congr (modifySession_of_ne differs a) rfl

/-! ### The functions of a session -/

theorem ofShared_write (id : SessionId) (a : Shared) :
    ofShared id (a.write id) = (ofShared id a).write := by
  have own : action id (.asyncWrite id ((a.sessions id).writeQueue.headD [])) =
      some (.asyncWrite ((a.sessions id).writeQueue.headD [])) := if_pos rfl
  unfold Shared.write Shared.record ofShared
  dsimp only
  rw [modifySession_self, List.filterMap_append, List.filterMap_cons_some own]
  rfl

theorem ofShared_write_of_ne (differs : id ≠ session) (a : Shared) :
    ofShared id (a.write session) = ofShared id a := by
  have quiet : ∀ data, action id (.asyncWrite session data) = none := fun data =>
    if_neg (Ne.symm differs)
  exact (ofShared_record (quiet _) _).trans (ofShared_modifySession_of_ne differs _ a)

theorem ofShared_send (id : SessionId) (data : Str) (a : Shared) :
    ofShared id (a.send id data) = (ofShared id a).send data := by
  have own : action id (.send id data) = some (.send data) := if_pos rfl
  have queued : ofShared id ((a.modifySession id fun t =>
      { t with writeQueue := t.writeQueue ++ [data] }).record (.send id data)) =
      { ofShared id a with session :=
        { a.sessions id with writeQueue := (a.sessions id).writeQueue ++ [data] } }.record
        (.send data) := by
    unfold Shared.record ofShared
    dsimp only
    rw [modifySession_self, List.filterMap_append, List.filterMap_cons_some own]
    rfl
  unfold Shared.send OwnedSession.send
  by_cases isOpen : (a.sessions id).isOpen = true
  · have isOpen' : ¬ (!(ofShared id a).session.isOpen) = true := by
      change ¬ (!(a.sessions id).isOpen) = true
      rw [isOpen]
      decide
    rw [if_neg isOpen', if_neg (by rw [isOpen]; decide)]
    dsimp only
    change ofShared id (if _ then _ else _) =
      if !(!(a.sessions id).writeQueue.isEmpty) then _ else _
    split
    · rw [ofShared_write, queued]
      rfl
    · exact queued
  · have isOpen' : (!(ofShared id a).session.isOpen) = true := by
      change (!(a.sessions id).isOpen) = true
      rw [eq_false_of_ne_true isOpen]
      rfl
    rw [if_pos isOpen', if_pos (by rw [eq_false_of_ne_true isOpen]; rfl)]

theorem ofShared_send_of_ne (differs : id ≠ session) (data : Str) (a : Shared) :
    ofShared id (a.send session data) = ofShared id a := by
  have quiet : action id (.send session data) = none := if_neg (Ne.symm differs)
  have queued : ∀ f, ofShared id ((a.modifySession session f).record (.send session data)) =
      ofShared id a := fun f =>
    (ofShared_record quiet _).trans (ofShared_modifySession_of_ne differs f a)
  unfold Shared.send
  split
  · rfl
  · dsimp only
    split
    · exact (ofShared_write_of_ne differs _).trans (queued _)
    · exact queued _

theorem ofShared_read (id : SessionId) (a : Shared) :
    ofShared id (a.read id) = (ofShared id a).read :=
  ofShared_modifySession id _ a

theorem ofShared_cleanup (id : SessionId) (a : Shared) :
    ofShared id (a.cleanup id) = (ofShared id a).cleanup :=
  ofShared_modifySession id _ a

theorem ignoresEnd_action (id : SessionId) : IgnoresEnd (action id) :=
  ⟨fun _ => rfl, fun _ => rfl, fun _ => rfl, fun _ => rfl⟩

theorem ofShared_ended {imei : Str} :
    ofShared id (ended env session imei a r).shared = ofShared id (a.cleanup session) := by
  refine ofShared_congr ?_ ((ignoresEnd_action id).ended imei)
  unfold ended Shared.cleanup Shared.modifySession
  dsimp only
  rw [sessions_destroyDevice]
  rfl

theorem ofShared_hangUp (sound : Sound r) (id session : SessionId) :
    ofShared id (r.hangUp env session).shared = ofShared id (r.shared.cleanup session) := by
  refine ofShared_congr ?_ ((ignoresEnd_action id).ofHangUp sound session)
  cases device : r.devices session with
  | none =>
      rw [hangUp_of_none device]
      rfl
  | some d =>
      rw [hangUp_of_some (sound.live device) device]
      unfold Shared.cleanup Shared.modifySession
      dsimp only
      rw [sessions_destroyDevice]
      rfl

/-! ### The receiver as an owner -/

/-- The receiver has called one of its sessions. -/
structure Called (session : SessionId) (a b : Shared) : Prop where
  own : ∃ requests : Calls, ofShared session b = (ofShared session a).calls requests
  others : ∀ id, id ≠ session → ofShared id b = ofShared id a

theorem Called.of_eq (same : ∀ id, ofShared id b = ofShared id a) : Called session a b :=
  ⟨⟨.done, same session⟩, fun id _ => same id⟩

theorem Called.trans (first : Called session a b) (second : Called session b c) :
    Called session a c := by
  obtain ⟨requests, own⟩ := first.own
  obtain ⟨requests', own'⟩ := second.own
  refine ⟨⟨requests.andThen requests', ?_⟩, fun id differs => ?_⟩
  · rw [own', own, calls_andThen]
  · rw [second.others id differs, first.others id differs]

theorem called_send (session : SessionId) (data : Str) (a : Shared) :
    Called session a (a.send session data) :=
  ⟨⟨.send data .done, ofShared_send session data a⟩,
    fun _ differs => ofShared_send_of_ne differs data a⟩

theorem called_cleanup (session : SessionId) (a : Shared) :
    Called session a (a.cleanup session) :=
  ⟨⟨.close .done .done, ofShared_cleanup session a⟩,
    fun _ differs => ofShared_modifySession_of_ne differs _ a⟩

theorem Called.of_acts (acts : Acts env session a b) : Called session a b := by
  induction acts with
  | refl => exact .of_eq fun _ => rfl
  | tick _ ih => exact ih.trans (.of_eq fun _ => rfl)
  | report m _ ih => exact ih.trans (.of_eq fun _ => ofShared_record rfl _)
  | relay arguments _ ih => exact ih.trans (.of_eq fun _ => ofShared_record rfl _)
  | send data _ ih => exact ih.trans (called_send session data _)
  | logon m _ _ ih => exact ih.trans (.of_eq fun _ => ofShared_record rfl _)

/-- What a device does with what its session has received. -/
theorem Called.of_received (sound : Sound r) {data : Str}
    (ok : r.handleTcpSessionReceivedData env session data = .ok r') :
    Called session r.shared r'.shared := by
  unfold handleTcpSessionReceivedData at ok
  split at ok
  · cases ok
    exact .of_eq fun _ => rfl
  · rename_i d device
    obtain ⟨imei, a, _, outcome⟩ := processData_cases (sound.live device) ok
    have acts : Acts env session r.shared (interpret env session
        (cut ';' (d.buffer ++ data).strip).1 d.imei r.shared).shared := .interpret _ _ _
    rcases outcome with ⟨verdict, rfl⟩ | ⟨verdict | verdict, rfl⟩
    · rw [verdict] at acts
      exact .of_acts acts
    · rw [verdict] at acts
      exact (Called.of_acts acts).trans
        ((called_cleanup session _).trans (.of_eq fun _ => ofShared_ended))
    · rw [verdict] at acts
      exact (Called.of_acts acts).trans
        ((called_cleanup session _).trans (.of_eq fun _ => ofShared_ended))

/-- A session goes on from what it was to what it is, on its own. -/
def Goes (id : SessionId) (a b : Shared) : Prop :=
  ∃ es, Run OwnedSession.step (ofShared id a) es (ofShared id b)

theorem Goes.of_eq (same : ofShared id b = ofShared id a) : Goes id a b :=
  ⟨[], same ▸ .nil _⟩

theorem Goes.of_step {e : Event} (taken : (ofShared id a).step e = some (ofShared id b)) :
    Goes id a b :=
  ⟨[e], .cons taken (.nil _)⟩

theorem Called.goes (called : Called session a b) (id : SessionId) : Goes id a b := by
  by_cases same : id = session
  · subst same
    obtain ⟨requests, own⟩ := called.own
    exact .of_step (e := .call requests) (congrArg some own.symm)
  · exact .of_eq (called.others id same)

theorem step_read {s : OwnedSession} (reading : s.session.reads ≠ 0) (size : Nat) (failed : Bool)
    (reaction : Calls) :
    s.step (.read size failed reaction) =
      some ((s.modify unread).handleRead (fun s => s.calls reaction) size failed) :=
  if_neg reading

theorem step_write {s : OwnedSession} (writing : s.session.writes ≠ 0) (failed : Bool)
    (reaction : Calls) :
    s.step (.write failed reaction) =
      some ((s.modify unwritten).handleWrite (fun s => s.calls reaction) failed) :=
  if_neg writing

theorem goes_readEnd (sound : Sound r) (reading : (r.shared.sessions session).reads ≠ 0)
    {data : Str} {failed : Bool} (ends : failed = true ∨ data.length = 0) (id : SessionId) :
    Goes id r.shared ((r.modifySession session unread).hangUp env session).shared := by
  have sound' : Sound (r.modifySession session unread) :=
    sound.modifySession session unread fun _ => rfl
  by_cases same : id = session
  · subst same
    have counted : ofShared id (r.modifySession id unread).shared =
        (ofShared id r.shared).modify unread := ofShared_modifySession _ _ _
    refine .of_step ((step_read reading data.length failed .done).trans ?_)
    unfold handleRead
    rw [if_pos ends, ofShared_hangUp sound', ofShared_cleanup, counted]
    rfl
  · apply Goes.of_eq
    rw [ofShared_hangUp sound']
    exact (ofShared_modifySession_of_ne same _ _).trans (ofShared_modifySession_of_ne same _ _)

theorem goes_read (sound : Sound r) (reading : (r.shared.sessions session).reads ≠ 0)
    {data : Str} (arrived : data.length ≠ 0)
    (received : (r.modifySession session unread).handleTcpSessionReceivedData env session data =
      .ok r') (id : SessionId) :
    Goes id r.shared
      (r'.modifySession session fun t => { t with reads := t.reads + 1 }).shared := by
  have sound' : Sound (r.modifySession session unread) :=
    sound.modifySession session unread fun _ => rfl
  have called := Called.of_received sound' received
  change Goes id r.shared (r'.shared.read session)
  by_cases same : id = session
  · subst same
    have counted : ofShared id (r.modifySession id unread).shared =
        (ofShared id r.shared).modify unread := ofShared_modifySession _ _ _
    obtain ⟨requests, own⟩ := called.own
    refine .of_step ((step_read reading data.length false requests).trans ?_)
    unfold handleRead
    rw [if_neg (not_or.mpr ⟨Bool.false_ne_true, arrived⟩), ofShared_read, own, counted]
  · apply Goes.of_eq
    exact (ofShared_modifySession_of_ne same _ _).trans
      ((called.others id same).trans (ofShared_modifySession_of_ne same _ _))

theorem ofShared_handleWrite (sound : Sound r) (id : SessionId) (failed : Bool) :
    ofShared id (r.handleWrite env id failed).shared =
      (ofShared id r.shared).handleWrite (fun s => s.calls .done) failed := by
  unfold Receiver.handleWrite OwnedSession.handleWrite
  cases failed with
  | true =>
      rw [if_pos rfl, if_pos rfl, ofShared_hangUp sound, ofShared_cleanup]
      rfl
  | false =>
      have queue : ((r.shared.modifySession id popped).sessions id).writeQueue =
          (r.shared.sessions id).writeQueue.tail :=
        congrArg TcpSession.writeQueue (modifySession_self _)
      rw [if_neg Bool.false_ne_true, if_neg Bool.false_ne_true]
      change ofShared id (if !((r.shared.modifySession id popped).sessions id).writeQueue.isEmpty
        then _ else r.shared.modifySession id popped) =
          if !(r.shared.sessions id).writeQueue.tail.isEmpty then _ else _
      rw [queue]
      split
      · exact (ofShared_write id _).trans (congrArg write (ofShared_modifySession id popped _))
      · exact ofShared_modifySession id popped _

theorem goes_write (sound : Sound r) {failed : Bool}
    (taken : Receiver.step env r (.write session failed) = some r') (id : SessionId) :
    Goes id r.shared r'.shared := by
  simp only [Receiver.step] at taken
  split at taken
  · cases taken
  · rename_i writing
    cases taken
    have sound' : Sound (r.modifySession session unwritten) :=
      sound.modifySession session unwritten fun _ => rfl
    change Goes id r.shared
      ((r.modifySession session unwritten).handleWrite env session failed).shared
    by_cases same : id = session
    · subst same
      have counted : ofShared id (r.modifySession id unwritten).shared =
          (ofShared id r.shared).modify unwritten := ofShared_modifySession _ _ _
      refine .of_step ((step_write writing failed .done).trans ?_)
      rw [ofShared_handleWrite sound', counted]
    · have others : ofShared id (r.modifySession session unwritten).shared =
          ofShared id r.shared := ofShared_modifySession_of_ne same _ _
      apply Goes.of_eq
      unfold Receiver.handleWrite
      split
      · rw [ofShared_hangUp sound', ← others]
        exact ofShared_modifySession_of_ne same _ _
      · dsimp only
        split
        · rw [ofShared_write_of_ne same, ofShared_modifySession_of_ne same, others]
        · rw [ofShared_modifySession_of_ne same, others]

theorem ofShared_accepting (other : id ≠ r.shared.created) :
    ofShared id r.accepting.shared = ofShared id r.shared := by
  refine ofShared_congr (Function.update_of_ne other _ _) ?_
  exact List.filterMap_append.trans (List.append_nil _)

/-- What the receiver does to a session is what an owner can do to it. -/
theorem goes_step (sound : Sound r) {e : Receiver.Event} (taken : Receiver.step env r e = some r')
    (id : SessionId) (old : e = .accept → id ≠ r.shared.created) :
    Goes id r.shared r'.shared := by
  have direct := taken
  cases step_cases taken with
  | accept => exact .of_eq (ofShared_accepting (old rfl))
  | readEnd session data failed reading ends => exact goes_readEnd sound reading ends id
  | read session data reading arrived received => exact goes_read sound reading arrived received id
  | writeEnd session _ => exact goes_write sound direct id
  | written session _ => exact goes_write sound direct id
  | writtenNext session _ => exact goes_write sound direct id
  | close session _ =>
      have recorded : Sound { r with shared := r.shared.record (.close session) } :=
        sound.with_shared fun _ => rfl
      have noted : Called session r.shared (r.shared.record (.close session)) :=
        .of_eq fun _ => ofShared_record rfl r.shared
      exact (noted.trans ((called_cleanup session _).trans
        (.of_eq fun id => ofShared_hangUp recorded id session))).goes id
  | noDownlink data => exact .of_eq rfl
  | downlink data session _ => exact (called_send session data _).goes id

/-- A session that has not been started does nothing. -/
theorem run_unstarted {es : List Event} {s t : OwnedSession} (run : Run OwnedSession.step s es t)
    (unstarted : s = {}) : t = {} := by
  have called : ∀ requests : Calls, OwnedSession.calls {} requests = {} := by
    intro requests
    induction requests with
    | done => rfl
    | send data later ih => exact ih
    | close reaction later inner ih =>
        exact (congrArg (fun s => s.cleanup.calls later) inner).trans ih
    | disconnect reaction later inner ih =>
        exact (congrArg (fun s => s.cleanup.calls later) inner).trans ih
  have idle : ∀ {e : Event} {s t : OwnedSession}, s = {} → s.step e = some t → t = {} := by
    rintro e s t rfl taken
    cases e with
    | call requests =>
        cases taken
        exact called requests
    | read => cases taken
    | write => cases taken
  induction run with
  | nil => exact unstarted
  | cons taken _ ih => exact ih (idle unstarted taken)

/-- Every session of the receiver is a session on its own, from the moment it is accepted. -/
structure Started (r : Receiver) : Prop where
  sound : Sound r
  started : ∀ id, id < r.shared.created →
    ∃ es, Run OwnedSession.step (accepted .done) es (ofShared id r.shared)
  unstarted : ∀ id, r.shared.created ≤ id → ofShared id r.shared = {}

theorem Started.step (started : Started r) {e : Receiver.Event}
    (taken : Receiver.step env r e = some r') : Started r' := by
  have created := created_step started.sound taken
  have goes := goes_step started.sound taken
  refine ⟨started.sound.step taken, fun id below => ?_, fun id above => ?_⟩
  · by_cases new : e = .accept ∧ id = r.shared.created
    · obtain ⟨rfl, rfl⟩ := new
      have unstarted := started.unstarted _ (Nat.le_refl _)
      rw [step_accept] at taken
      cases taken
      refine ⟨[], ?_⟩
      have first : ofShared r.shared.created r.accepting.shared = accepted .done := by
        unfold ofShared accepting
        dsimp only
        rw [Function.update_self, List.filterMap_append]
        have quiet : r.shared.log.filterMap (action r.shared.created) = [] :=
          congrArg OwnedSession.trace unstarted
        rw [quiet]
        rfl
      rw [first]
      exact .nil _
    · have old : id < r.shared.created := by
        rw [created] at below
        split at below
        · rename_i accepts
          have differs : id ≠ r.shared.created := fun same => new ⟨accepts, same⟩
          omega
        · exact below
      obtain ⟨es, run⟩ := started.started id old
      obtain ⟨later, run'⟩ := goes id fun accepts same => new ⟨accepts, same⟩
      exact ⟨es ++ later, run.append run'⟩
  · have old : r.shared.created ≤ id ∧ (e = .accept → id ≠ r.shared.created) := by
      rw [created] at above
      split at above
      · omega
      · rename_i other
        exact ⟨above, fun accepts => absurd accepts other⟩
    obtain ⟨later, run⟩ := goes id old.2
    exact run_unstarted run (started.unstarted id old.1)

/-- In every run of the receiver, each of its sessions has done what a session on its own can do,
so its strings are written in order, one at a time. -/
theorem ofShared_of_run {es : List Receiver.Event} (run : Run (Receiver.step env) {} es r)
    {id : SessionId} (created : id < r.shared.created) :
    (∃ es, Run OwnedSession.step (accepted .done) es (ofShared id r.shared)) ∧
      (ofShared id r.shared).WritesInOrder := by
  have begun : Started {} := ⟨sound_init, fun _ below => absurd below (Nat.not_lt_zero _),
    fun _ _ => rfl⟩
  have started : Started r := run.invariant (fun started taken => started.step taken) begun
  obtain ⟨es, own⟩ := started.started id created
  exact ⟨⟨es, own⟩, .of_run own⟩

end OwnedSession

/-- On a connection of a client or of a session, the strings written are the first ones
sent, in their order, and at most one write is outstanding. -/
theorem written_in_order {es : List TcpClient.Event} {c : TcpClient}
    (client : Run TcpClient.step {} es c) {reaction : TcpSession.Calls}
    {fs : List OwnedSession.Event} {s : OwnedSession}
    (session : Run OwnedSession.step (.accepted reaction) fs s) :
    c.WritesInOrder ∧ s.WritesInOrder :=
  ⟨.of_run client, .of_run session⟩

/-- Two connections of a client.  The first one is lost with a string left to write, the
second writes what is sent on it. -/
def lostAndFound : List TcpClient.Event :=
  [.call .connect, .finish 0 {}, .complete 0 [], .finish 0 {},
    .complete 0 [.send ['O', 'N'], .send ['A']], .finish 0 { error := some .eof }, .complete 0 [],
    .complete 0 [.connect], .finish 0 {}, .complete 0 [], .finish 0 {}, .complete 0 [.send ['B']]]

/-- A session that is sent two strings and is closed in the middle of the first write. -/
def closedEarly : List OwnedSession.Event :=
  [.call (.send ['1'] (.send ['2'] .done)), .call (.close .done .done), .write false .done,
    .write true .done]

theorem written_in_order_lostAndFound :
    ∃ c s, Run TcpClient.step {} lostAndFound c ∧
      Run OwnedSession.step (.accepted .done) closedEarly s ∧
      TcpClient.written c.trace = [['O', 'N'], ['B']] ∧ c.WritesInOrder ∧ s.WritesInOrder := by
  have client : (lostAndFound.foldlM TcpClient.step {}).map (TcpClient.written ·.trace) =
      some [['O', 'N'], ['B']] := by
    decide +kernel
  have session : (closedEarly.foldlM OwnedSession.step (.accepted .done)).isSome := by
    decide +kernel
  obtain ⟨c, executed, written⟩ := Option.map_eq_some_iff.mp client
  obtain ⟨s, executed'⟩ := Option.isSome_iff_exists.mp session
  have run : Run TcpClient.step {} lostAndFound c := .of_foldlM executed
  have run' : Run OwnedSession.step (.accepted .done) closedEarly s := .of_foldlM executed'
  exact ⟨c, s, run, run', written, written_in_order run run'⟩

end GpsInformer
