import GpsInformer.SslClientAccounting

/-!
# `SslClient`, one move at a time

The functions of the client notify the owner in their last step, but for the loop of
`handleTcpClientReceivedData`.  A run can therefore be cut at the owner's calls.  A move is
one of these calls, a wait that fires, a notification of the TCP client or one round of the
loop, each with an owner that does nothing when it is told.

An event of `step` is a sequence of moves (`step_moves`): what holds after every move holds
whenever the owner is notified, and a condition on a move is about one mbedtls call.
-/

namespace GpsInformer.SslClient

open Lib

/-- A client, and whether the loop of `handleTcpClientReceivedData` is running. -/
structure Session (τ : Type) where
  client : SslClient τ
  reading : Bool := false

namespace Session

variable {τ : Type} [TcpLayer τ]

/-- One round of the loop. -/
def read (tls : Tls) (c : SslClient τ) : Session τ :=
  match { c with ioCount := c.ioCount + 1 }.handleRead id tls with
  | (client, reading) => { client, reading }

/-- `handleTcpClientReceivedData` up to the loop. -/
def receive (data : Str) (tls : Tls) (c : SslClient τ) : Session τ :=
  let c := { c with sslBuffer := c.sslBuffer ++ data }
  if c.status = .handshake then
    { client := { c with ioCount := c.ioCount + 1 }.handleHandshake id tls }
  else { client := c, reading := true }

end Session

inductive Move where
  | connect (setup : TlsSetup)
  | disconnect
  | send (data : Str) (tls : Tls) (timerError : Bool)
  /-- a pending wait of the timer fires -/
  | timer (tls : Tls) (timerError : Bool)
  /-- the next round of the loop -/
  | read (tls : Tls)
  /-- the loop ends because the client is no longer connected -/
  | leave
  | tcpConnect (tls : Tls)
  | tcpReceivedData (data : Str) (tls : Tls)
  | tcpDisconnect
  | tcpError (code : ErrorCode)
  deriving DecidableEq, Repr

namespace Session

def step (s : Session TcpPhase) : Move → Option (Session TcpPhase)
  | .connect setup => some { s with client := s.client.connect setup }
  | .disconnect => some { s with client := s.client.disconnect }
  | .send data tls timerError => some { s with client := s.client.send id data tls timerError }
  | .timer tls timerError =>
      if s.reading ∨ s.client.waits = 0 then none
      else some { s with client :=
        { s.client with waits := s.client.waits - 1 }.handleWrite id tls timerError }
  | .read tls =>
      if s.reading ∧ s.client.status = .connected then some (read tls s.client) else none
  | .leave =>
      if s.reading ∧ s.client.status ≠ .connected then some { s with reading := false } else none
  | .tcpConnect tls =>
      if s.reading then none
      else
        match s.client.tcpClient with
        | .connecting => some { s with client :=
            { s.client with tcpClient := TcpPhase.connected }.handleTcpClientConnect { tls } }
        | _ => none
  | .tcpReceivedData data tls =>
      if s.reading then none
      else
        match s.client.tcpClient with
        | .connected => some (receive data tls s.client)
        | _ => none
  | .tcpDisconnect =>
      if s.reading then none
      else
        match s.client.tcpClient with
        | .connected | .disconnecting true => some { s with client :=
            { s.client with tcpClient := TcpPhase.disconnected }.handleTcpClientDisconnect [] }
        | _ => none
  | .tcpError code =>
      if s.reading then none
      else
        match s.client.tcpClient with
        | .connecting | .disconnecting false => some { s with client :=
            { s.client with tcpClient := TcpPhase.disconnected }.handleTcpClientError code [] }
        | _ => none

end Session

/-! ## The owner comes last -/

section Layer

variable {τ : Type} [TcpLayer τ] {s : SslClient τ}

/-- A function that notifies its owner in the last step, if it does at all. -/
def Last (f : (SslClient τ → SslClient τ) → SslClient τ) : Prop :=
  ∀ react, f react = f id ∨ f react = react (f id)

theorem handleAnything_last (handleStatus : Status) (error : Option ErrorCode)
    (react : SslClient τ → SslClient τ) :
    s.handleAnything react handleStatus error = s.handleAnything id handleStatus error ∨
      ((s.handleAnything id handleStatus error).2 = false ∧
        s.handleAnything react handleStatus error =
          (react (s.handleAnything id handleStatus error).1, false)) := by
  unfold handleAnything
  dsimp only
  split
  · exact Or.inl rfl
  · split
    · split
      · exact Or.inl rfl
      · split
        · exact Or.inr ⟨rfl, rfl⟩
        · exact Or.inr ⟨rfl, rfl⟩
    · exact Or.inl rfl

theorem handleHandshake_last (tls : Tls) : Last fun react => s.handleHandshake react tls := by
  intro react
  unfold handleHandshake
  dsimp only
  have last := handleAnything_last (s := s.callTls tls) .handshake
    (if tls.result ≠ 0 ∧ ¬ wants tls.result then some (.other tls.result) else none) react
  generalize handleAnything id .handshake _ (s.callTls tls) = outcome at last ⊢
  obtain ⟨t, going⟩ := outcome
  rcases last with same | ⟨stopped, told⟩
  · rw [same]
    cases going with
    | false => exact Or.inl rfl
    | true =>
        dsimp only
        split
        · exact Or.inl rfl
        · exact Or.inr rfl
  · cases stopped
    rw [told]
    exact Or.inr rfl

theorem handleWrite_last (tls : Tls) (timerError : Bool) :
    Last fun react => s.handleWrite react tls timerError := by
  intro react
  unfold handleWrite
  dsimp only
  split
  · exact Or.inl rfl
  · rename_i data rest _
    have last := handleAnything_last (s := (s.callTls tls).record (.write data tls.result))
      .connected (ioError tls.result) react
    generalize handleAnything id .connected _ ((s.callTls tls).record _) = outcome at last ⊢
    obtain ⟨t, going⟩ := outcome
    rcases last with same | ⟨stopped, told⟩
    · rw [same]
      exact Or.inl rfl
    · cases stopped
      rw [told]
      exact Or.inr rfl

theorem send_last (data : Str) (tls : Tls) (timerError : Bool) :
    Last fun react => s.send react data tls timerError := by
  intro react
  unfold send
  dsimp only
  split
  · exact Or.inl rfl
  · split
    · exact handleWrite_last tls timerError react
    · exact Or.inl rfl

/-- The loop goes on if the owner has been told of data, and not after the end. -/
theorem handleRead_last (tls : Tls) (react : SslClient τ → SslClient τ) :
    s.handleRead react tls = s.handleRead id tls ∨
      s.handleRead react tls = (react (s.handleRead id tls).1, (s.handleRead id tls).2) := by
  unfold handleRead
  dsimp only
  have last := handleAnything_last (s := s.callTls tls) .connected (ioError tls.result) react
  generalize handleAnything id .connected _ (s.callTls tls) = outcome at last ⊢
  obtain ⟨t, going⟩ := outcome
  rcases last with same | ⟨stopped, told⟩
  · rw [same]
    cases going with
    | false => exact Or.inl rfl
    | true =>
        dsimp only
        split
        · exact Or.inr rfl
        · exact Or.inl rfl
  · cases stopped
    rw [told]
    exact Or.inr rfl

theorem handleAnything_fst_last (handleStatus : Status) (error : Option ErrorCode) :
    Last fun react => (s.handleAnything react handleStatus error).1 := by
  intro react
  rcases @handleAnything_last τ _ s handleStatus error react with same | ⟨_, told⟩
  · exact Or.inl (congrArg Prod.fst same)
  · exact Or.inr (congrArg Prod.fst told)

end Layer

/-! ## `handleAnything` with an owner that does nothing -/

/-- The status of a connection that has failed or is being closed. -/
def Status.fail (status : Status) : Status := if status ≠ .disconnecting then .error else status

theorem Status.fail_cases (status : Status) :
    status.fail = .error ∨ status.fail = .disconnecting := by
  unfold Status.fail
  split
  · exact Or.inl rfl
  · rename_i disconnecting
    exact Or.inr (not_not.mp disconnecting)

theorem Status.fail_eq_disconnecting (status : Status) :
    status.fail = .disconnecting ↔ status = .disconnecting := by
  unfold Status.fail
  split
  · rename_i other
    exact iff_of_false nofun other
  · exact Iff.rfl

section Layer

variable {τ : Type} [TcpLayer τ]

/-- What `handleAnything` does: nothing on a disconnected client, fail and wait for the timer,
report the end, or let its caller go on. -/
inductive AnythingCase (error : Option ErrorCode) (s : SslClient τ) : SslClient τ × Bool → Prop
  | ignored : s.status = .disconnected →
    AnythingCase error s ({ s with ioCount := s.ioCount - 1 }, false)
  | waiting : s.status ≠ .disconnected →
    s.status = .disconnecting ∨ s.status = .error ∨ error.isSome → 0 < s.ioCount - 1 →
    AnythingCase error s
      ({ s with
        ioCount := s.ioCount - 1
        status := s.status.fail
        tcpClient := TcpLayer.disconnect s.tcpClient }, false)
  | ended (notification : Notification) : s.status ≠ .disconnected →
    s.status = .disconnecting ∨ s.status = .error ∨ error.isSome → s.ioCount - 1 ≤ 0 →
    AnythingCase error s
      (SslClient.record (.notify notification)
        { s with
          ioCount := 0
          status := .disconnected
          tcpClient := TcpLayer.disconnect s.tcpClient
          writeBuffer := []
          wasConnected := false }, false)
  | alive : s.status.Live → error = none →
    AnythingCase error s ({ s with ioCount := s.ioCount - 1 }, true)

theorem handleAnything_cases (handleStatus : Status) (error : Option ErrorCode) (s : SslClient τ) :
    AnythingCase error s (s.handleAnything id handleStatus error) := by
  unfold handleAnything
  dsimp only
  split
  · rename_i free
    exact .ignored free
  · rename_i busy
    split
    · rename_i failed
      split
      · rename_i others
        exact .waiting busy failed others
      · rename_i last
        split
        · exact .ended _ busy failed (Int.not_lt.mp last)
        · exact .ended _ busy failed (Int.not_lt.mp last)
    · rename_i fine
      obtain ⟨notDisconnecting, fine⟩ := not_or.mp fine
      obtain ⟨notError, noError⟩ := not_or.mp fine
      exact .alive ⟨busy, notDisconnecting, notError⟩ (by simpa using noError)

end Layer

/-- A call into mbedtls leaves the phase of the TCP client and whatever else matters. -/
theorem callTls_eq (tls : Tls) (s : SslClient TcpPhase) :
    ∃ sslBuffer, s.callTls tls = { s with sslBuffer } := by
  have phase : ∀ written : List Str,
      written.foldl (fun t data => TcpLayer.send data t) s.tcpClient = s.tcpClient := by
    intro written
    induction written with
    | nil => rfl
    | cons data rest ih => exact ih
  unfold callTls
  split
  · exact ⟨_, by rw [phase]⟩
  · exact ⟨s.sslBuffer, rfl⟩

/-! ## Events are sequences of moves -/

variable {s t : SslClient TcpPhase} {e : Event}

/-- `t` is reached from `s` by moves, the loop going on or not. -/
def Moves (s : Session TcpPhase) (t : Session TcpPhase) : Prop :=
  ∃ moves, Run Session.step s moves t

theorem Moves.refl (s : Session TcpPhase) : Moves s s := ⟨[], .nil s⟩

theorem Moves.trans {s t u : Session TcpPhase} (first : Moves s t) (later : Moves t u) :
    Moves s u := by
  obtain ⟨moves, run⟩ := first
  obtain ⟨moves', run'⟩ := later
  exact ⟨moves ++ moves', run.append run'⟩

theorem Moves.single {s t : Session TcpPhase} (move : Move) (taken : s.step move = some t) :
    Moves s t :=
  ⟨[move], .cons taken (.nil t)⟩

/-- A move, and what the owner does on being told. -/
theorem Moves.told {start : Session TcpPhase}
    {f : (SslClient TcpPhase → SslClient TcpPhase) → SslClient TcpPhase} (last : Last f)
    {react : SslClient TcpPhase → SslClient TcpPhase} {reading : Bool}
    (move : Moves start ⟨f id, reading⟩)
    (reacts : ∀ s, Moves ⟨s, reading⟩ ⟨react s, reading⟩) : Moves start ⟨f react, reading⟩ := by
  rcases last react with same | told
  · rw [same]
    exact move
  · rw [told]
    exact move.trans (reacts (f id))

mutual

theorem call_moves (s : SslClient TcpPhase) (reading : Bool) :
    ∀ request : Call, Moves ⟨s, reading⟩ ⟨s.call request, reading⟩
  | .connect setup => .single (.connect setup) rfl
  | .disconnect => .single .disconnect rfl
  | .send data tls timerError inner =>
      .told (send_last data tls timerError) (.single (.send data tls timerError) rfl)
        fun s => calls_moves s reading inner

theorem calls_moves (s : SslClient TcpPhase) (reading : Bool) :
    ∀ requests : List Call, Moves ⟨s, reading⟩ ⟨s.calls requests, reading⟩
  | [] => .refl _
  | first :: rest => (call_moves s reading first).trans (calls_moves (s.call first) reading rest)

end

/-- A move that ends with telling the owner, and what it does then. -/
theorem Moves.handled {f : (SslClient TcpPhase → SslClient TcpPhase) → SslClient TcpPhase}
    (last : Last f) (move : Move) (calls : List Call)
    (taken : Session.step ⟨s, false⟩ move = some ⟨f id, false⟩) :
    Moves ⟨s, false⟩ ⟨f fun s => s.calls calls, false⟩ :=
  .told last (.single move taken) fun s => calls_moves s false calls

/-- One round of the loop, and what the owner does on being told. -/
theorem handleRead_moves (status : s.status = .connected) (reply : Reply) {going : Bool}
    (read :
      { s with ioCount := s.ioCount + 1 }.handleRead (fun s => s.calls reply.calls) reply.tls =
      (t, going)) : Moves ⟨s, true⟩ ⟨t, going⟩ := by
  have move : Moves ⟨s, true⟩ (Session.read reply.tls s) :=
    .single (.read reply.tls) (if_pos ⟨rfl, status⟩)
  unfold Session.read at move
  rcases handleRead_last (s := { s with ioCount := s.ioCount + 1 }) reply.tls
    (fun s => s.calls reply.calls) with same | told
  · rw [← same, read] at move
    exact move
  · rw [told] at read
    obtain ⟨rfl, rfl⟩ := Prod.mk.inj read
    exact move.trans (calls_moves _ _ reply.calls)

theorem leave_moves (status : s.status ≠ .connected) : Moves ⟨s, true⟩ ⟨s, false⟩ :=
  .single .leave (if_pos ⟨rfl, status⟩)

theorem readLoop_moves {replies : List Reply} (taken : s.readLoop replies = some t) :
    Moves ⟨s, true⟩ ⟨t, false⟩ := by
  induction replies generalizing s with
  | nil =>
      simp only [readLoop] at taken
      split at taken
      · cases taken
      · rename_i status
        cases taken
        exact leave_moves status
  | cons reply replies ih =>
      simp only [readLoop] at taken
      split at taken
      · rename_i status
        split at taken
        · rename_i eq
          exact (handleRead_moves status reply eq).trans (ih taken)
        · rename_i eq
          cases taken
          exact handleRead_moves status reply eq
      · rename_i status
        cases taken
        exact leave_moves status

/-- A notification of the TCP client in which mbedtls or the end of the connection has
this client notify its owner. -/
theorem tcpReceivedData_moves (phase : s.tcpClient = .connected) {data : Str}
    {replies : List Reply} (taken : s.handleTcpClientReceivedData data replies = some t) :
    Moves ⟨s, false⟩ ⟨t, false⟩ := by
  have received : ∀ tls, Moves ⟨s, false⟩ (Session.receive data tls s) := fun tls =>
    .single (.tcpReceivedData data tls) (by simp [Session.step, phase])
  unfold handleTcpClientReceivedData at taken
  unfold Session.receive at received
  dsimp only at taken received
  split at taken
  · rename_i status
    split at taken
    · cases taken
    · rename_i reply _
      cases taken
      refine .told (handleHandshake_last reply.tls) ?_ fun s => calls_moves s false reply.calls
      have move := received reply.tls
      rw [if_pos status] at move
      exact move
  · rename_i status
    have move := received { result := 0 }
    rw [if_neg status] at move
    exact move.trans (readLoop_moves taken)

/-- Whatever the client does in an event, it does in moves. -/
theorem step_moves (taken : step s e = some t) : Moves ⟨s, false⟩ ⟨t, false⟩ := by
  cases e with
  | call request =>
      cases taken
      exact call_moves s false request
  | timer reply timerError =>
      simp only [step] at taken
      split at taken
      · cases taken
      · rename_i pending
        cases taken
        apply Moves.handled (handleWrite_last reply.tls timerError) (.timer reply.tls timerError)
        simp [Session.step, pending]
  | tcpConnect reply =>
      simp only [step] at taken
      split at taken
      · rename_i phase
        cases taken
        apply Moves.handled (handleHandshake_last reply.tls) (.tcpConnect reply.tls)
        simp only [Session.step, phase, Bool.false_eq_true, if_false]
        rfl
      · cases taken
  | tcpReceivedData data replies =>
      simp only [step] at taken
      split at taken
      · rename_i phase
        exact tcpReceivedData_moves phase taken
      · cases taken
  | tcpDisconnect calls =>
      simp only [step] at taken
      split at taken
      · rename_i phase
        cases taken
        apply Moves.handled (handleAnything_fst_last _ _) .tcpDisconnect
        simp only [Session.step, phase, Bool.false_eq_true, if_false]
        rfl
      · rename_i phase
        cases taken
        apply Moves.handled (handleAnything_fst_last _ _) .tcpDisconnect
        simp only [Session.step, phase, Bool.false_eq_true, if_false]
        rfl
      · cases taken
  | tcpError code calls =>
      simp only [step] at taken
      split at taken
      · rename_i phase
        cases taken
        apply Moves.handled (handleAnything_fst_last _ _) (.tcpError code)
        simp only [Session.step, phase, Bool.false_eq_true, if_false]
        rfl
      · rename_i phase
        cases taken
        apply Moves.handled (handleAnything_fst_last _ _) (.tcpError code)
        simp only [Session.step, phase, Bool.false_eq_true, if_false]
        rfl
      · cases taken

theorem run_moves {es : List Event} (run : Run step s es t) : Moves ⟨s, false⟩ ⟨t, false⟩ := by
  induction run with
  | nil s => exact .refl _
  | cons first _ ih => exact (step_moves first).trans ih

end GpsInformer.SslClient
