import GpsInformer.Lib.Run

/-!
# The receiver's port (TcpServer.cpp, ApplicationReceiver.cpp)

`TcpServer::listen` takes the acceptor through five steps, each of which can fail, and the
application's timer has it tried again.  What the operating system says to the steps of an
attempt is given by the attempt; opening an acceptor that is open fails in any case.

An attempt that gets past `open` leaves the acceptor open, whatever becomes of it, and
after that no attempt succeeds (`opened_iff`).
-/

namespace GpsInformer

open Lib

/-- What the system says to the steps of an attempt to listen: an error, or nothing. -/
structure Attempt where
  resolve : Option Int := none
  openFails : Option Int := none
  setOption : Option Int := none
  bind : Option Int := none
  listen : Option Int := none
  deriving DecidableEq, Repr

inductive ListenError where
  | alreadyOpen
  | system (value : Int)
  deriving DecidableEq, Repr

/-- `TcpServer` without its sessions. -/
structure TcpServer where
  /-- `_acceptor.is_open()` -/
  isOpen : Bool := false
  /-- whether `_acceptor` has an endpoint -/
  bound : Bool := false
  listening : Bool := false
  /-- the outstanding `async_accept`s -/
  accepts : Nat := 0
  deriving DecidableEq, Repr

namespace TcpServer

def accept (s : TcpServer) : TcpServer :=
  if !s.isOpen then s else { s with accepts := s.accepts + 1 }

/-- `_acceptor.open(..., error)` -/
def openAcceptor (fails : Option Int) (s : TcpServer) : TcpServer × Option ListenError :=
  if s.isOpen then (s, some .alreadyOpen)
  else
    match fails with
    | some error => (s, some (.system error))
    | none => ({ s with isOpen := true }, none)

/-- `TcpServer::listen`, and the error it passes to `handleTcpServerError`. -/
def listen (attempt : Attempt) (s : TcpServer) : TcpServer × Option ListenError :=
  match attempt.resolve with
  | some error => (s, some (.system error))
  | none =>
      match s.openAcceptor attempt.openFails with
      | (s, some error) => (s, some error)
      | (s, none) =>
          match attempt.setOption with
          | some error => (s, some (.system error))
          | none =>
              match attempt.bind with
              | some error => (s, some (.system error))
              | none =>
                  let s := { s with bound := true }
                  match attempt.listen with
                  | some error => (s, some (.system error))
                  | none => ({ s with listening := true }.accept, none)

/-- `TcpServer::handleAccept`, apart from what it does with the session. -/
def handleAccept (s : TcpServer) : TcpServer := { s with accepts := s.accepts - 1 }.accept

end TcpServer

/-- The settings of the receiver. -/
structure ReceiverSettings where
  enabled : Bool := false
  rebindDelay : Int := 0
  deriving DecidableEq, Repr

/-- The server, and what `Application` does to have it listen. -/
structure ReceiverPort where
  server : TcpServer := {}
  /-- whether the application has been started -/
  started : Bool := false
  /-- the pending waits of `_receiverTimer` -/
  waits : Nat := 0
  /-- what `handleTcpServerError` has been called with -/
  errors : List ListenError := []
  deriving DecidableEq, Repr

namespace ReceiverPort

variable (settings : ReceiverSettings)

/-- `timerFails` is the error code of `expires_from_now`. -/
def handleTcpServerError (error : ListenError) (timerFails : Bool) (p : ReceiverPort) :
    ReceiverPort :=
  let p := { p with errors := p.errors ++ [error] }
  if timerFails ∨ settings.rebindDelay < 1 then p else { p with waits := p.waits + 1 }

def startReceiver (attempt : Attempt) (timerFails : Bool) (p : ReceiverPort) : ReceiverPort :=
  if !settings.enabled then p
  else
    match p.server.listen attempt with
    | (server, none) => { p with server }
    | (server, some error) => { p with server }.handleTcpServerError settings error timerFails

/-- What the error of the wait is does not matter. -/
def handleReceiverTimer (attempt : Attempt) (timerFails : Bool) (p : ReceiverPort) : ReceiverPort :=
  p.startReceiver settings attempt timerFails

inductive Event where
  /-- the application is started -/
  | start (attempt : Attempt) (timerFails : Bool)
  /-- a wait of `_receiverTimer` ends -/
  | timer (attempt : Attempt) (timerFails : Bool)
  /-- an outstanding `async_accept` completes -/
  | accepted
  deriving DecidableEq, Repr

def step (p : ReceiverPort) : Event → Option ReceiverPort
  | .start attempt timerFails =>
      if p.started then none
      else some ({ p with started := true }.startReceiver settings attempt timerFails)
  | .timer attempt timerFails =>
      if p.waits = 0 then none
      else some ({ p with waits := p.waits - 1 }.handleReceiverTimer settings attempt timerFails)
  | .accepted =>
      if p.server.accepts = 0 then none else some { p with server := p.server.handleAccept }

/-- The attempt an event makes. -/
def Event.attempt : Event → Option Attempt
  | .start attempt _ | .timer attempt _ => some attempt
  | .accepted => none

end ReceiverPort

/-! ## One attempt -/

/-- The attempt gets past `open`, if the acceptor is closed. -/
def Attempt.Opens (attempt : Attempt) : Prop := attempt.resolve = none ∧ attempt.openFails = none

/-- What an attempt to listen can come to. -/
inductive ListenCase (attempt : Attempt) (s : TcpServer) : TcpServer × Option ListenError → Prop
  | unresolved (error : ListenError) : attempt.resolve ≠ none → ListenCase attempt s (s, some error)
  | unopened (error : ListenError) : s.isOpen = true ∨ attempt.openFails ≠ none →
    ListenCase attempt s (s, some error)
  | stopped (t : TcpServer) (error : ListenError) : s.isOpen = false → attempt.Opens →
    attempt ≠ {} → t.isOpen = true → t.accepts = s.accepts → ListenCase attempt s (t, some error)
  | listens : s.isOpen = false → attempt = {} → ListenCase attempt s
    ({ isOpen := true, bound := true, listening := true, accepts := s.accepts + 1 }, none)

theorem listen_cases (attempt : Attempt) (s : TcpServer) :
    ListenCase attempt s (s.listen attempt) := by
  obtain ⟨resolve, openFails, setOption, bind, listen⟩ := attempt
  unfold TcpServer.listen TcpServer.openAcceptor
  rcases resolve with _ | error
  · cases isOpen : s.isOpen with
    | true => exact .unopened _ (Or.inl isOpen)
    | false =>
        rcases openFails with _ | error
        · rcases setOption with _ | error
          · rcases bind with _ | error
            · rcases listen with _ | error
              · exact .listens isOpen rfl
              · exact .stopped _ _ isOpen ⟨rfl, rfl⟩ (by simp) rfl rfl
            · exact .stopped _ _ isOpen ⟨rfl, rfl⟩ (by simp) rfl rfl
          · exact .stopped _ _ isOpen ⟨rfl, rfl⟩ (by simp) rfl rfl
        · exact .unopened _ (Or.inr nofun)
  · exact .unresolved _ nofun

namespace ReceiverPort

variable {settings : ReceiverSettings} {p q : ReceiverPort} {e : Event} {es : List Event}

@[simp] theorem server_handleTcpServerError (error : ListenError) (timerFails : Bool) :
    (p.handleTcpServerError settings error timerFails).server = p.server := by
  unfold handleTcpServerError
  dsimp only
  split <;> rfl

@[simp] theorem errors_handleTcpServerError (error : ListenError) (timerFails : Bool) :
    (p.handleTcpServerError settings error timerFails).errors = p.errors ++ [error] := by
  unfold handleTcpServerError
  dsimp only
  split <;> rfl

theorem startReceiver_listen (enabled : settings.enabled = true) (attempt : Attempt)
    (timerFails : Bool) (p : ReceiverPort) :
    (p.startReceiver settings attempt timerFails).server = (p.server.listen attempt).1 ∧
      (p.startReceiver settings attempt timerFails).errors =
        p.errors ++ (p.server.listen attempt).2.toList := by
  unfold startReceiver
  rw [enabled]
  rcases p.server.listen attempt with ⟨server, _ | error⟩
  · exact ⟨rfl, (List.append_nil _).symm⟩
  · exact ⟨server_handleTcpServerError .., errors_handleTcpServerError ..⟩

/-- An event makes its attempt, or it is the end of an `async_accept`. -/
theorem step_server (enabled : settings.enabled = true) (taken : step settings p e = some q) :
    (∃ attempt, e.attempt = some attempt ∧ q.server = (p.server.listen attempt).1 ∧
      q.errors = p.errors ++ (p.server.listen attempt).2.toList) ∨
    (e.attempt = none ∧ q.server = p.server.handleAccept) := by
  cases e with
  | start attempt timerFails =>
      unfold step at taken
      dsimp only at taken
      split at taken
      · cases taken
      · cases taken
        exact Or.inl ⟨attempt, rfl, startReceiver_listen enabled _ _ _⟩
  | timer attempt timerFails =>
      unfold step at taken
      dsimp only at taken
      split at taken
      · cases taken
      · cases taken
        exact Or.inl ⟨attempt, rfl, startReceiver_listen enabled _ _ _⟩
  | accepted =>
      unfold step at taken
      dsimp only at taken
      split at taken
      · cases taken
      · cases taken
        exact Or.inr ⟨rfl, rfl⟩

theorem isOpen_listen (attempt : Attempt) (s : TcpServer) :
    (s.listen attempt).1.isOpen = true ↔ s.isOpen = true ∨ attempt.Opens := by
  have cases' := listen_cases attempt s
  generalize s.listen attempt = outcome at cases' ⊢
  cases cases' with
  | unresolved error fails =>
      exact ⟨Or.inl, fun either => either.resolve_right fun opens => fails opens.1⟩
  | unopened error either =>
      refine ⟨Or.inl, fun either' => either'.elim id fun opens => ?_⟩
      exact either.resolve_right fun fails => fails opens.2
  | stopped t error closed opens _ isOpen _ => exact iff_of_true isOpen (Or.inr opens)
  | listens closed good => exact iff_of_true rfl (Or.inr (good ▸ ⟨rfl, rfl⟩))

theorem isOpen_handleAccept (s : TcpServer) : s.handleAccept.isOpen = s.isOpen := by
  unfold TcpServer.handleAccept TcpServer.accept
  dsimp only
  split <;> rfl

/-- The acceptor is open as soon as an attempt has got past `open`. -/
theorem isOpen_run (enabled : settings.enabled = true) (run : Run (step settings) p es q) :
    q.server.isOpen = true ↔
      p.server.isOpen = true ∨ ∃ attempt ∈ es.filterMap Event.attempt, attempt.Opens := by
  induction run with
  | nil p => simp
  | @cons p t q e es taken _ ih =>
      rw [ih]
      rcases step_server enabled taken with ⟨attempt, made, server, _⟩ | ⟨made, server⟩
      · rw [server, isOpen_listen, List.filterMap_cons_some made, or_assoc]
        simp only [List.mem_cons, exists_eq_or_imp]
      · rw [server, isOpen_handleAccept, List.filterMap_cons_none made]

/-- From `p` to `q` the port has been opened: connections will be accepted, and no error has
been reported. -/
structure Opened (p q : ReceiverPort) : Prop where
  isOpen : q.server.isOpen = true
  listening : q.server.listening = true
  accepts : q.server.accepts ≠ 0
  silent : q.errors = p.errors

/-- An attempt that nothing stands in the way of succeeds iff all earlier ones failed in
`resolve` or in `open`. -/
theorem opened_iff (enabled : settings.enabled = true) (run : Run (step settings) {} es p)
    (good : e.attempt = some {}) (taken : step settings p e = some q) :
    Opened p q ↔ ∀ attempt ∈ es.filterMap Event.attempt, ¬ attempt.Opens := by
  have isOpen : p.server.isOpen = true ↔ ∃ attempt ∈ es.filterMap Event.attempt, attempt.Opens := by
    rw [isOpen_run enabled run]
    exact or_iff_right nofun
  have closed : (∀ attempt ∈ es.filterMap Event.attempt, ¬ attempt.Opens) ↔
      p.server.isOpen = false := by
    rw [← Bool.not_eq_true, isOpen]
    push Not
    exact Iff.rfl
  rw [closed]
  rcases step_server enabled taken with ⟨attempt, made, server, errors⟩ | ⟨none', _⟩
  · cases good.symm.trans made
    have cases' := listen_cases {} p.server
    generalize p.server.listen {} = outcome at cases' server errors
    cases cases' with
    | unresolved error fails => exact absurd rfl fails
    | unopened error either =>
        refine iff_of_false (fun opened => ?_) fun closed => ?_
        · have silent := errors.symm.trans opened.silent
          simp at silent
        · rcases either with isOpen | fails
          · cases closed.symm.trans isOpen
          · exact fails rfl
    | stopped t error closed opens bad _ _ => exact absurd rfl bad
    | listens closed _ =>
        refine iff_of_true ⟨?_, ?_, ?_, ?_⟩ closed
        · rw [server]
        · rw [server]
        · rw [server]
          exact Nat.succ_ne_zero _
        · rw [errors]
          exact List.append_nil _
  · cases good.symm.trans none'

/-- A receiver that tries again every ten seconds. -/
def retrying : ReceiverSettings := { enabled := true, rebindDelay := 10000 }

/-- The name of the host cannot be resolved at first. -/
def resolvedLater : List Event :=
  [.start { resolve := some 1 } false, .timer { resolve := some 1 } false]

theorem opened_resolvedLater :
    ∃ p q, Run (step retrying) {} resolvedLater p ∧
      step retrying p (Event.timer {} false) = some q ∧ Opened p q := by
  have executed : ((resolvedLater ++ [Event.timer {} false]).foldlM (step retrying) {}).isSome := by
    decide
  obtain ⟨q, folded⟩ := Option.isSome_iff_exists.mp executed
  obtain ⟨p, run, last⟩ := (Run.of_foldlM folded).of_append
  refine ⟨p, q, run, last.of_singleton, (opened_iff rfl run rfl last.of_singleton).mpr ?_⟩
  rintro attempt member ⟨resolved, _⟩
  have failed : attempt.resolve = some 1 := by
    simp only [resolvedLater, List.filterMap_cons, Event.attempt, List.filterMap_nil,
      List.mem_cons, List.not_mem_nil, or_false, or_self] at member
    rw [member]
  cases failed.symm.trans resolved

/-- The address is in use for a while. -/
theorem not_forall_opened :
    ¬ ∀ settings es p e q, settings.enabled = true → Run (step settings) {} es p →
      e.attempt = some {} → step settings p e = some q → Opened p q := by
  intro claim
  have run : Run (step retrying) {} [Event.start { bind := some 98 } false] _ := .of_foldlM rfl
  have opened := claim retrying _ _ (Event.timer {} false) _ rfl run rfl rfl
  have silent := opened.silent
  revert silent
  decide

end ReceiverPort

end GpsInformer
