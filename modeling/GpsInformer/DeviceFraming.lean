import GpsInformer.Lib.Framing
import GpsInformer.Lib.Run
import GpsInformer.Device

/-!
# The tracker's frames

`processData` strips, splits and interprets in one loop over a buffer it changes.
Here it is taken apart: the loop interprets the frames of the stripped stream one
after another (`exec_processLoop`), and a device keeps between two chunks exactly the
unterminated rest.  So what a session does depends on its byte stream, not on the
chunks (`receiveAll_eq`, `receiveAll_congr`), as long as no segment is so long that the
buffer overflows.
-/

namespace GpsInformer

open Lib Function

namespace Device

variable {env : DeviceEnv} {session : SessionId}

/-- The commands of a stream, one after another. -/
def interpret (env : DeviceEnv) (session : SessionId) : List Str → Str → Shared → Verdict
  | [], imei, s => .goOn imei s
  | command :: rest, imei, s =>
      match processCommand env session command imei s with
      | .goOn imei s => interpret env session rest imei s
      | verdict => verdict

theorem interpret_append (front back : List Str) (imei : Str) (s : Shared) :
    interpret env session (front ++ back) imei s =
      match interpret env session front imei s with
      | .goOn imei s => interpret env session back imei s
      | verdict => verdict := by
  induction front generalizing imei s with
  | nil => rfl
  | cons command rest ih =>
      rw [List.cons_append, interpret, interpret]
      cases processCommand env session command imei s with
      | goOn imei s => exact ih imei s
      | close imei s => rfl
      | fault fault s => rfl

/-- The loop ends as the interpretation of the frames does.  What is then left of the
buffer of a session that goes on is the rest of the stream. -/
def Ends (verdict : Verdict) (rest : Str) : Exit (Device × Shared) Ending → Prop
  | .left (d, s) => verdict = .goOn d.imei s ∧ d.buffer = rest
  | .returned (.close d s) => verdict = .close d.imei s
  | .returned (.fault fault _ s) => verdict = .fault fault s

theorem body_of_not_mem {d : Device} (absent : ';' ∉ d.buffer) (s : Shared) :
    (processLoop env session).body (d, s) = .leave (d, s) := by
  unfold processLoop processBody
  dsimp only
  rw [Str.findFirstOf_eq_none_iff.mpr absent]

theorem body_of_frame {command rest : Str} (absent : ';' ∉ command) (imei : Str) (s : Shared) :
    (processLoop env session).body ({ buffer := command ++ ';' :: rest, imei }, s) =
      match processCommand env session command imei s with
      | .goOn imei s => .again ({ buffer := rest, imei }, s)
      | .close imei s => .quit (.close { buffer := rest, imei } s)
      | .fault fault s => .quit (.fault fault { buffer := rest, imei } s) := by
  have dropped : (command ++ ';' :: rest).drop (command.length + 1) = rest := by
    rw [← List.drop_drop, List.drop_left, List.drop_succ_cons, List.drop_zero]
  unfold processLoop processBody
  dsimp only
  rw [Str.findFirstOf_append absent]
  dsimp only [Str.front]
  rewrite [List.take_left, dropped]
  rfl

theorem exec_processLoop (buffer imei : Str) (s : Shared) :
    Ends (interpret env session (cut ';' buffer).1 imei s) (cut ';' buffer).2
      ((processLoop env session).exec ({ buffer, imei }, s)) := by
  induction size : buffer.length using Nat.strongRecOn generalizing buffer imei s with
  | ind n ih =>
      by_cases present : ';' ∈ buffer
      · obtain ⟨command, rest, rfl, absent⟩ := List.eq_append_cons_of_mem present
        have shorter : rest.length < n := by
          rw [← size, List.length_append, List.length_cons]
          exact Nat.lt_of_lt_of_le (Nat.lt_succ_self _) (Nat.le_add_left _ _)
        have body : (processLoop env session).body
            ({ buffer := command ++ ';' :: rest, imei }, s) = _ := body_of_frame absent imei s
        rw [cut_append_cons absent, interpret]
        cases verdict : processCommand env session command imei s with
        | goOn imei' s' =>
            rw [verdict] at body
            rw [(processLoop env session).exec_again body]
            exact ih rest.length shorter rest imei' s' rfl
        | close imei' s' =>
            rw [verdict] at body
            rw [(processLoop env session).exec_quit body]
            rfl
        | fault fault s' =>
            rw [verdict] at body
            rw [(processLoop env session).exec_quit body]
            rfl
      · have body : (processLoop env session).body ({ buffer, imei }, s) = _ :=
          body_of_not_mem present s
        rw [(processLoop env session).exec_leave body, cut_of_not_mem present]
        exact ⟨rfl, rfl⟩

/-! ## What the commands do to what is shared -/

theorem ok_of_bind {ε α β : Type} {x : Except ε α} {f : α → Except ε β} {b : β}
    (ok : x >>= f = .ok b) : ∃ a, x = .ok a ∧ f a = .ok b := by
  cases x with
  | error e => cases ok
  | ok a => exact ⟨a, rfl, ok⟩

/-- What the commands of `session` do, one act after another. -/
inductive Acts (env : DeviceEnv) (session : SessionId) (s : Shared) : Shared → Prop
  | refl : Acts env session s s
  | tick {t : Shared} : Acts env session s t → Acts env session s (t.universalTime env).2
  | report {t : Shared} (m : GpsMessage) :
    Acts env session s t → Acts env session s (t.record (.trackerEvent .data m))
  | relay {t : Shared} (arguments : List Str) :
    Acts env session s t → Acts env session s (t.record (.deviceCommand arguments))
  | send {t : Shared} (data : Str) :
    Acts env session s t → Acts env session s (t.send session data)
  | logon {t : Shared} (m : GpsMessage) : m.keyword = "connect".toList → Acts env session s t →
    Acts env session s
      (({ t with authorizedSession := some session }.universalTime env).2.record
        (.trackerEvent .logon m))

variable {s t u : Shared}

theorem Acts.trans (first : Acts env session s t) (second : Acts env session t u) :
    Acts env session s u := by
  induction second with
  | refl => exact first
  | tick _ ih => exact .tick ih
  | report m _ ih => exact .report m ih
  | relay arguments _ ih => exact .relay arguments ih
  | send data _ ih => exact .send data ih
  | logon m connect _ ih => exact .logon m connect ih

theorem Acts.commandLogon (arguments : List Str) (imei : Str) (s : Shared) :
    Acts env session s (commandLogon env session arguments imei s).2.1 := by
  unfold Device.commandLogon
  split
  · split
    · exact .refl
    · split
      · exact .refl
      · dsimp only
        split
        · exact .send _ (.logon _ rfl .refl)
        · exact .refl
  · exact .refl

/-- What `commandGpsData` can do. -/
theorem commandGpsData_cases {arguments : List Str}
    (ok : commandGpsData env arguments s = .ok t) :
    t = s ∨ t = (s.universalTime env).2 ∨
      ∃ message, t = (s.universalTime env).2.record (.trackerEvent .data message) := by
  obtain ⟨imei, _, ok⟩ := ok_of_bind ok
  split at ok
  · exact Or.inl (Except.ok.inj ok).symm
  · refine Or.inr ?_
    obtain ⟨keyword, _, ok⟩ := ok_of_bind ok
    obtain ⟨phone, _, ok⟩ := ok_of_bind ok
    obtain ⟨text, _, ok⟩ := ok_of_bind ok
    obtain ⟨time, _, ok⟩ := ok_of_bind ok
    obtain ⟨valid, _, ok⟩ := ok_of_bind ok
    split at ok
    · obtain ⟨result, _, ok⟩ := ok_of_bind ok
      split at ok
      · exact Or.inl (Except.ok.inj ok).symm
      · exact Or.inr ⟨_, (Except.ok.inj ok).symm⟩
    · exact Or.inr ⟨_, (Except.ok.inj ok).symm⟩

theorem Acts.commandGpsData {arguments : List Str}
    (ok : commandGpsData env arguments s = .ok t) : Acts env session s t := by
  rcases commandGpsData_cases ok with rfl | rfl | ⟨message, rfl⟩
  · exact .refl
  · exact .tick .refl
  · exact .report message (.tick .refl)

theorem Acts.dispatch {arguments : List Str} {imei imei' : Str} {result transmit : Bool}
    (ok : dispatch env session arguments imei s = .ok (imei', t, result, transmit)) :
    Acts env session s t := by
  obtain ⟨first, _, ok⟩ := ok_of_bind ok
  split at ok
  · cases ok
    exact .commandLogon _ _ _
  · split at ok
    · split at ok
      · obtain ⟨⟨t', result'⟩, heartbeat, ok⟩ := ok_of_bind ok
        cases ok
        obtain ⟨_, _, heartbeat⟩ := ok_of_bind heartbeat
        split at heartbeat
        · cases heartbeat
          exact .refl
        · cases heartbeat
          exact .send _ .refl
      · split at ok
        · obtain ⟨t', data, ok⟩ := ok_of_bind ok
          cases ok
          exact .commandGpsData data
        · cases ok
          exact .refl
    · cases ok
      exact .refl

/-- The receiver's side of a verdict. -/
def Verdict.shared : Verdict → Shared
  | .goOn _ s | .close _ s | .fault _ s => s

theorem Acts.processCommand (command imei : Str) (s : Shared) :
    Acts env session s (processCommand env session command imei s).shared := by
  unfold Device.processCommand
  split
  · exact .refl
  · dsimp only
    split
    · exact .refl
    · split
      · exact .refl
      · rename_i ok
        have acts := Acts.dispatch ok
        split
        · exact acts
        · dsimp only [Verdict.shared]
          split
          · exact .relay _ acts
          · exact acts

theorem Acts.interpret (commands : List Str) (imei : Str) (s : Shared) :
    Acts env session s (interpret env session commands imei s).shared := by
  induction commands generalizing imei s with
  | nil => exact .refl
  | cons command rest ih =>
      have first : Acts env session s (Device.processCommand env session command imei s).shared :=
        .processCommand command imei s
      rw [Device.interpret]
      split
      · rename_i eq
        rw [eq] at first
        exact first.trans (ih _ _)
      · exact first

/-! ## What they leave alone -/

/-- The commands of `session` only queue and write on the sessions, may authorize
theirs, and report no disconnection. -/
structure Keeps (session : SessionId) (s t : Shared) : Prop where
  created : t.created = s.created
  active : ∀ id, (t.sessions id).active = (s.sessions id).active
  authorized : t.authorizedSession = s.authorizedSession ∨ t.authorizedSession = some session
  log : ∃ effects, t.log = s.log ++ effects ∧ ∀ m, .trackerEvent .destruction m ∉ effects

theorem Keeps.refl (session : SessionId) (s : Shared) : Keeps session s s :=
  ⟨rfl, fun _ => rfl, Or.inl rfl, [], (List.append_nil _).symm, fun _ => List.not_mem_nil⟩

theorem Keeps.trans (first : Keeps session s t) (second : Keeps session t u) :
    Keeps session s u := by
  obtain ⟨effects, eq, quiet⟩ := first.log
  obtain ⟨effects', eq', quiet'⟩ := second.log
  refine ⟨second.created.trans first.created,
    fun id => (second.active id).trans (first.active id), ?_, effects ++ effects', ?_, ?_⟩
  · rcases second.authorized with same | authorized
    · rw [same]
      exact first.authorized
    · exact Or.inr authorized
  · rw [eq', eq, List.append_assoc]
  · intro m member
    rcases List.mem_append.mp member with old | new
    · exact quiet m old
    · exact quiet' m new

theorem Keeps.record {e : Effect} (quiet : ∀ m, e ≠ .trackerEvent .destruction m) :
    Keeps session s (s.record e) := by
  refine ⟨rfl, fun _ => rfl, Or.inl rfl, [e], rfl, fun m member => ?_⟩
  exact quiet m (List.mem_singleton.mp member).symm

theorem Keeps.universalTime : Keeps session s (s.universalTime env).2 :=
  ⟨rfl, fun _ => rfl, Or.inl rfl, [], (List.append_nil _).symm, fun _ => List.not_mem_nil⟩

theorem Keeps.modifySession {id : SessionId} {f : TcpSession → TcpSession}
    (active : ∀ t, (f t).active = t.active) : Keeps session s (s.modifySession id f) := by
  refine ⟨rfl, fun other => ?_, Or.inl rfl, [], (List.append_nil _).symm,
    fun _ => List.not_mem_nil⟩
  unfold Shared.modifySession
  dsimp only
  by_cases same : other = id
  · subst same
    rw [update_self]
    exact active _
  · rw [update_of_ne same]

theorem Keeps.write (id : SessionId) : Keeps session s (s.write id) := by
  have counted : Keeps session s
      (s.modifySession id fun t => { t with writes := t.writes + 1 }) := .modifySession fun _ => rfl
  apply counted.trans
  exact .record fun _ => nofun

theorem Keeps.send (id : SessionId) (data : Str) : Keeps session s (s.send id data) := by
  unfold Shared.send
  split
  · exact .refl session s
  · dsimp only
    have queued : Keeps session s
        (s.modifySession id fun t => { t with writeQueue := t.writeQueue ++ [data] }) :=
      .modifySession fun _ => rfl
    have recorded := queued.trans (.record (e := .send id data) fun _ => nofun)
    split
    · exact recorded.trans (.write id)
    · exact recorded

theorem Acts.keeps (acts : Acts env session s t) : Keeps session s t := by
  induction acts with
  | refl => exact .refl session s
  | tick _ ih => exact ih.trans .universalTime
  | report m _ ih => exact ih.trans (.record fun _ => nofun)
  | relay arguments _ ih => exact ih.trans (.record fun _ => nofun)
  | send data _ ih => exact ih.trans (.send session data)
  | @logon t m _ _ ih =>
      have authorized : Keeps session t { t with authorizedSession := some session } :=
        ⟨rfl, fun _ => rfl, Or.inr rfl, [], (List.append_nil _).symm, fun _ => List.not_mem_nil⟩
      exact ((ih.trans authorized).trans .universalTime).trans (.record fun _ => nofun)

theorem Keeps.interpret (commands : List Str) (imei : Str) (s : Shared) :
    Keeps session s (interpret env session commands imei s).shared :=
  (Acts.interpret commands imei s).keeps

end Device

/-- The exception and the effects before it. -/
def Crash.summary (c : Crash) : Fault × List Effect := (c.fault, c.receiver.shared.log)

namespace Receiver

open Device

variable {env : DeviceEnv} {session : SessionId} {d : Device} {r : Receiver} {s : Shared}

/-! ## One chunk -/

/-- The receiver after a session with this `_imei` has been closed. -/
def ended (env : DeviceEnv) (session : SessionId) (imei : Str) (s : Shared) (r : Receiver) :
    Receiver where
  shared := (((s.record (.close session)).record (.hangUp session)).destroyDevice env session
    { imei }).cleanup session
  devices := update r.devices session none

theorem close_putDevice (active : (s.sessions session).active = true) :
    ({ r with shared := s }.putDevice session d).close env session =
      ended env session d.imei s r := by
  have open' : (((s.record (.close session)).record (.hangUp session)).sessions session).active =
      true := active
  unfold close hangUp handleTcpSessionDisconnect
  simp only [putDevice, open', Bool.not_true, Bool.false_eq_true, if_false, eraseDevice,
    update_self, update_idem]
  rfl

/-- How `processData` leaves the receiver, from the verdict on the frames and the rest of
the stream. -/
def settle (env : DeviceEnv) (session : SessionId) (rest : Str) (r : Receiver) :
    Verdict → Except (Fault × List Effect) Receiver
  | .goOn imei s =>
      .ok (if rest.length > 32768 then ended env session imei s r
        else { r with shared := s }.putDevice session { buffer := rest, imei })
  | .close imei s => .ok (ended env session imei s r)
  | .fault fault s => .error (fault, s.log)

theorem processData_eq (active : (r.shared.sessions session).active = true) (data : Str) :
    (d.processData env session data r).mapError Crash.summary =
      settle env session (cut ';' (d.buffer ++ data).strip).2 r
        (interpret env session (cut ';' (d.buffer ++ data).strip).1 d.imei r.shared) := by
  have ends : Ends _ _ ((processLoop env session).exec
      ({ buffer := (d.buffer ++ data).strip, imei := d.imei }, r.shared)) := exec_processLoop _ _ _
  have kept : Keeps session r.shared (interpret env session
      (cut ';' (d.buffer ++ data).strip).1 d.imei r.shared).shared := .interpret _ _ _
  unfold processData
  dsimp only
  generalize (processLoop env session).exec _ = exit at ends ⊢
  rcases exit with ⟨d', s⟩ | ending
  · obtain ⟨verdict, buffer⟩ := ends
    rw [verdict] at kept ⊢
    rw [← buffer]
    have active' : (s.sessions session).active = true := (kept.active session).trans active
    simp only [close_putDevice active']
    rfl
  · cases ending with
    | close d' s =>
        have verdict : _ = Verdict.close d'.imei s := ends
        rw [verdict] at kept ⊢
        have active' : (s.sessions session).active = true := (kept.active session).trans active
        simp only [close_putDevice active']
        rfl
    | fault fault d' s =>
        have verdict : _ = Verdict.fault fault s := ends
        rw [verdict]
        rfl

/-! ## All chunks -/

/-- A buffer between two chunks. -/
structure Clean (buffer : Str) : Prop where
  noSeparator : ';' ∉ buffer
  noCR : '\r' ∉ buffer
  noLF : '\n' ∉ buffer

theorem clean_rest (stream : Str) : Clean (cut ';' stream.strip).2 := by
  have part : (cut ';' stream.strip).2 ⊆ stream.strip := by
    intro c member
    rw [← flatten_cut (s := stream.strip)]
    exact List.mem_append_right _ member
  refine ⟨sep_not_mem_rest, fun present => ?_, fun present => ?_⟩
  · exact (Str.mem_strip.mp (part present)).2.1 rfl
  · exact (Str.mem_strip.mp (part present)).2.2 rfl

/-- What is left of a stream is not stripped again. -/
theorem Clean.strip_append {buffer : Str} (clean : Clean buffer) (more : Str) :
    Str.strip (buffer ++ more) = buffer ++ Str.strip more := by
  rw [Str.strip_append, Str.strip_eq_self clean.noCR clean.noLF]

theorem strip_chunks (buffer chunk : Str) (rest : List Str) :
    Str.strip (buffer ++ (chunk :: rest).flatten) =
      Str.strip (buffer ++ chunk) ++ Str.strip rest.flatten := by
  rw [List.flatten_cons, ← List.append_assoc, Str.strip_append]

/-- The chunks of one session, delivered one after another. -/
def receiveAll (env : DeviceEnv) (session : SessionId) (chunks : List Str) (r : Receiver) :
    Except Crash Receiver :=
  chunks.foldlM (fun r chunk => r.handleTcpSessionReceivedData env session chunk) r

/-- A session whose device is left has gone on to the end of its stream. -/
theorem device_of_settle {rest : Str} {verdict : Verdict} {t : Receiver} {d' : Device}
    (settled : settle env session rest r verdict = .ok t) (device : t.devices session = some d') :
    d'.buffer = rest := by
  have gone : ∀ imei s, (ended env session imei s r).devices session = none :=
    fun _ _ => update_self _ _ _
  cases verdict with
  | goOn imei s =>
      dsimp only [settle] at settled
      split at settled
      · cases settled
        cases (gone imei s).symm.trans device
      · cases settled
        cases (update_self _ _ _).symm.trans device
        rfl
  | close imei s =>
      cases settled
      cases (gone imei s).symm.trans device
  | fault fault s => cases settled

theorem receiveAll_of_none (none' : r.devices session = none) (chunks : List Str) :
    receiveAll env session chunks r = .ok r := by
  induction chunks with
  | nil => rfl
  | cons chunk rest ih =>
      have first : r.handleTcpSessionReceivedData env session chunk = .ok r := by
        unfold handleTcpSessionReceivedData
        rw [none']
      rw [receiveAll, List.foldlM_cons, first]
      exact ih

theorem mapError_eq_ok {ε ε' α : Type} {f : ε → ε'} {x : Except ε α} {a : α}
    (eq : x.mapError f = .ok a) : x = .ok a := by
  cases x with
  | error e => cases eq
  | ok b =>
      cases eq
      rfl

theorem mapError_eq_error {ε ε' α : Type} {f : ε → ε'} {x : Except ε α} {e' : ε'}
    (eq : x.mapError f = .error e') : ∃ e, x = .error e ∧ f e = e' := by
  cases x with
  | error e =>
      cases eq
      exact ⟨e, rfl, rfl⟩
  | ok b => cases eq

theorem putDevice_self (device : r.devices session = some d) : r.putDevice session d = r := by
  unfold putDevice
  rw [← device, update_eq_self]

/-- What a session makes of its further stream does not depend on what it has left in
`_devices` before. -/
theorem settle_putDevice (rest : Str) (verdict : Verdict) :
    settle env session rest ({ r with shared := s }.putDevice session d) verdict =
      settle env session rest r verdict := by
  cases verdict with
  | goOn imei t =>
      dsimp only [settle, ended, putDevice]
      rw [update_idem, update_idem]
  | close imei t =>
      dsimp only [settle, ended, putDevice]
      rw [update_idem]
  | fault fault t => rfl

/-- A session's chunks are dealt with as the frames of its byte stream. -/
theorem receiveAll_eq {chunks : List Str} (device : r.devices session = some d)
    (active : (r.shared.sessions session).active = true) (clean : Clean d.buffer)
    (bounded : ∀ g ∈ segments ';' (d.buffer ++ chunks.flatten).strip, g.length ≤ 32768) :
    (receiveAll env session chunks r).mapError Crash.summary =
      settle env session (cut ';' (d.buffer ++ chunks.flatten).strip).2 r
        (interpret env session (cut ';' (d.buffer ++ chunks.flatten).strip).1 d.imei r.shared) := by
  induction chunks generalizing r d with
  | nil =>
      rw [List.flatten_nil, List.append_nil, Str.strip_eq_self clean.noCR clean.noLF] at bounded ⊢
      rw [segments, cut_of_not_mem clean.noSeparator] at bounded
      have short : ¬ d.buffer.length > 32768 := Nat.not_lt.mpr (bounded _ List.mem_cons_self)
      rw [cut_of_not_mem clean.noSeparator, interpret]
      dsimp only [settle]
      rw [if_neg short, show ({ r with shared := r.shared } : Receiver) = r from rfl,
        putDevice_self device]
      rfl
  | cons chunk rest ih =>
      rw [strip_chunks] at bounded ⊢
      have short : ¬ (cut ';' (d.buffer ++ chunk).strip).2.length > 32768 :=
        Nat.not_lt.mpr (length_rest_le bounded)
      have first : r.handleTcpSessionReceivedData env session chunk =
          d.processData env session chunk r := by
        unfold handleTcpSessionReceivedData
        rw [device]
      have eq : (d.processData env session chunk r).mapError Crash.summary = _ :=
        processData_eq active chunk
      have kept : Keeps session r.shared (interpret env session
          (cut ';' (d.buffer ++ chunk).strip).1 d.imei r.shared).shared := .interpret _ _ _
      have rest_clean := clean_rest (d.buffer ++ chunk)
      rw [segments_append] at bounded
      rw [receiveAll, List.foldlM_cons, first, cut_append, interpret_append]
      generalize interpret env session (cut ';' (d.buffer ++ chunk).strip).1 d.imei r.shared =
        verdict at eq kept ⊢
      generalize (cut ';' (d.buffer ++ chunk).strip).2 = buffer at eq short rest_clean bounded ⊢
      cases verdict with
      | goOn imei s =>
          dsimp only [settle] at eq
          rw [if_neg short] at eq
          rw [mapError_eq_ok eq]
          have device' :
              ({ r with shared := s }.putDevice session { buffer, imei }).devices session =
                some { buffer, imei } := update_self _ _ _
          have next := ih device' ((kept.active session).trans active) rest_clean (by
            rw [rest_clean.strip_append]
            exact fun g member => bounded g (List.mem_append_right _ member))
          rw [rest_clean.strip_append, settle_putDevice] at next
          exact next
      | close imei s =>
          rw [mapError_eq_ok eq]
          have gone : (ended env session imei s r).devices session = none := update_self _ _ _
          exact congrArg (Except.mapError Crash.summary) (receiveAll_of_none gone rest)
      | fault fault s =>
          obtain ⟨crash, crashed, summary⟩ := mapError_eq_error eq
          rw [crashed]
          exact congrArg Except.error summary

/-! ## Runs -/

/-- What holds between two handlers: a device belongs to an active session, and keeps
an unterminated rest. -/
structure Sound (r : Receiver) : Prop where
  live : ∀ {id d}, r.devices id = some d → (r.shared.sessions id).active = true
  clean : ∀ {id d}, r.devices id = some d → Clean d.buffer

/-- One session has changed, and the rest of `Sound` is as before. -/
theorem Sound.of_update {t : Receiver} (sound : Sound r) (id : SessionId)
    (devices : ∀ other, other ≠ id → t.devices other = r.devices other)
    (active : ∀ other, other ≠ id →
      (t.shared.sessions other).active = (r.shared.sessions other).active)
    (here : ∀ d, t.devices id = some d → (t.shared.sessions id).active = true ∧ Clean d.buffer) :
    Sound t := by
  constructor
  · intro other d device
    by_cases same : other = id
    · subst same
      exact (here d device).1
    · rw [active other same]
      exact sound.live ((devices other same).symm.trans device)
  · intro other d device
    by_cases same : other = id
    · subst same
      exact (here d device).2
    · exact sound.clean ((devices other same).symm.trans device)

@[simp] theorem sessions_destroyDevice (d : Device) (s : Shared) :
    (s.destroyDevice env session d).sessions = s.sessions := by
  by_cases owner : s.authorizedSession = some session
  · rw [Shared.destroyDevice_of_owner owner]
  · rw [Shared.destroyDevice_of_ne owner]
    rfl

theorem created_destroyDevice (d : Device) :
    (s.destroyDevice env session d).created = s.created := by
  by_cases owner : s.authorizedSession = some session
  · rw [Shared.destroyDevice_of_owner owner]
  · rw [Shared.destroyDevice_of_ne owner]
    rfl

theorem device_of_update {devices : SessionId → Option Device} {id : SessionId}
    (device : update devices session none id = some d) : devices id = some d := by
  by_cases same : id = session
  · rw [same] at device
    cases (update_self _ _ _).symm.trans device
  · exact (update_of_ne same _ _).symm.trans device

theorem modifySession_of_ne {f : TcpSession → TcpSession} {id : SessionId}
    (differs : id ≠ session) (s : Shared) :
    (s.modifySession session f).sessions id = s.sessions id :=
  update_of_ne differs _ _

theorem cleanup_of_ne {id : SessionId} (differs : id ≠ session) (s : Shared) :
    (s.cleanup session).sessions id = s.sessions id :=
  modifySession_of_ne differs s

theorem modifySession_self {f : TcpSession → TcpSession} (s : Shared) :
    (s.modifySession session f).sessions session = f (s.sessions session) :=
  update_self _ _ _

/-- Changes of the shared state that leave the sessions' activity alone. -/
theorem Sound.with_shared (sound : Sound r)
    (active : ∀ id, (s.sessions id).active = (r.shared.sessions id).active) :
    Sound { r with shared := s } :=
  ⟨fun device => (active _).trans (sound.live device), fun device => sound.clean device⟩

/-- The end of a session that has no device (any more). -/
theorem hangUp_of_none (gone : r.devices session = none) :
    r.hangUp env session =
      { r with shared := (r.shared.record (.hangUp session)).cleanup session } := by
  unfold hangUp handleTcpSessionDisconnect
  dsimp only
  split
  · rfl
  · unfold eraseDevice
    dsimp only
    rw [gone]

/-- The end of a session that has one. -/
theorem hangUp_of_some (active : (r.shared.sessions session).active = true)
    (device : r.devices session = some d) :
    r.hangUp env session =
      { shared := ((r.shared.record (.hangUp session)).destroyDevice env session d).cleanup session
        devices := update r.devices session none } := by
  unfold hangUp handleTcpSessionDisconnect
  dsimp only
  rw [if_neg (by simp [active])]
  unfold eraseDevice
  dsimp only
  rw [device]

theorem created_hangUp : (r.hangUp env session).shared.created = r.shared.created := by
  unfold hangUp handleTcpSessionDisconnect
  dsimp only
  split
  · rfl
  · unfold eraseDevice
    split
    · rfl
    · exact created_destroyDevice _

theorem devices_hangUp {id : SessionId} (device : (r.hangUp env session).devices id = some d) :
    r.devices id = some d := by
  unfold hangUp handleTcpSessionDisconnect at device
  dsimp only at device
  split at device
  · exact device
  · unfold eraseDevice at device
    split at device
    · exact device
    · exact device_of_update device

theorem Sound.hangUp (sound : Sound r) (id : SessionId) : Sound (r.hangUp env id) := by
  cases device : r.devices id with
  | none =>
      rw [hangUp_of_none device]
      refine sound.of_update id (fun _ _ => rfl) (fun other differs => ?_) fun d device' => ?_
      · dsimp only
        rw [cleanup_of_ne differs, Shared.sessions_record]
      · cases device.symm.trans device'
  | some d =>
      rw [hangUp_of_some (sound.live device) device]
      refine sound.of_update id (fun other differs => update_of_ne differs _ _)
        (fun other differs => ?_) fun d' device' => ?_
      · dsimp only
        rw [cleanup_of_ne differs, sessions_destroyDevice, Shared.sessions_record]
      · cases (update_self _ _ _).symm.trans device'

/-- None of the effects at the end of a session is selected. -/
structure IgnoresEnd {α : Type} (select : Effect → Option α) : Prop where
  close : ∀ id, select (.close id) = none
  hangUp : ∀ id, select (.hangUp id) = none
  destroy : ∀ id, select (.destroy id) = none
  destruction : ∀ message, select (.trackerEvent .destruction message) = none

section IgnoresEnd

variable {α : Type} {select : Effect → Option α}

theorem filterMap_record {effect : Effect} (quiet : select effect = none) (s : Shared) :
    (s.record effect).log.filterMap select = s.log.filterMap select := by
  show (s.log ++ [effect]).filterMap select = _
  rw [List.filterMap_append, List.filterMap_cons_none quiet, List.filterMap_nil, List.append_nil]

theorem IgnoresEnd.destroyDevice (ignores : IgnoresEnd select) (d : Device) :
    (s.destroyDevice env session d).log.filterMap select = s.log.filterMap select := by
  by_cases owner : s.authorizedSession = some session
  · rw [Shared.destroyDevice_of_owner owner]
    show (s.log ++ _).filterMap select = _
    rw [List.filterMap_append, List.filterMap_cons_none (ignores.destroy session),
      List.filterMap_cons_none (ignores.destruction _), List.filterMap_nil, List.append_nil]
  · rw [Shared.destroyDevice_of_ne owner]
    exact filterMap_record (ignores.destroy session) s

theorem IgnoresEnd.ofHangUp (ignores : IgnoresEnd select) (sound : Sound r) (id : SessionId) :
    (r.hangUp env id).shared.log.filterMap select = r.shared.log.filterMap select := by
  have hung := filterMap_record (ignores.hangUp id) r.shared
  cases device : r.devices id with
  | none =>
      rw [hangUp_of_none device]
      exact hung
  | some d =>
      rw [hangUp_of_some (sound.live device) device]
      exact (ignores.destroyDevice d).trans hung

theorem IgnoresEnd.ended (ignores : IgnoresEnd select) (imei : Str) :
    (ended env session imei s r).shared.log.filterMap select = s.log.filterMap select :=
  (ignores.destroyDevice _).trans ((filterMap_record (ignores.hangUp session) _).trans
    (filterMap_record (ignores.close session) s))

end IgnoresEnd

/-- The receiver after a connection has been accepted. -/
def accepting (r : Receiver) : Receiver where
  shared := { r.shared with
    sessions := update r.shared.sessions r.shared.created
      { active := true, isOpen := true, registered := true, reads := 1 }
    created := r.shared.created + 1
    log := r.shared.log ++ [.construct r.shared.created] }
  devices := update r.devices r.shared.created (some {})

theorem step_accept (r : Receiver) : step env r .accept = some r.accepting := by
  simp [step, start, handleTcpSessionConnect, putDevice, Shared.read, Shared.modifySession,
    Shared.record, accepting]

/-- What `processData` leaves is the session with a new rest, or without its device. -/
theorem processData_cases {data : Str} {t : Receiver}
    (active : (r.shared.sessions session).active = true)
    (ok : d.processData env session data r = .ok t) :
    ∃ imei s, Keeps session r.shared s ∧
      ((interpret env session (cut ';' (d.buffer ++ data).strip).1 d.imei r.shared = .goOn imei s ∧
        t = { r with shared := s }.putDevice session
          { buffer := (cut ';' (d.buffer ++ data).strip).2, imei }) ∨
      ((interpret env session (cut ';' (d.buffer ++ data).strip).1 d.imei r.shared = .goOn imei s ∨
        interpret env session (cut ';' (d.buffer ++ data).strip).1 d.imei r.shared =
          .close imei s) ∧ t = ended env session imei s r)) := by
  have eq : (d.processData env session data r).mapError Crash.summary = _ :=
    processData_eq active data
  have kept : Keeps session r.shared (interpret env session
      (cut ';' (d.buffer ++ data).strip).1 d.imei r.shared).shared := .interpret _ _ _
  rw [ok] at eq
  generalize interpret env session (cut ';' (d.buffer ++ data).strip).1 d.imei r.shared =
    verdict at eq kept ⊢
  cases verdict with
  | goOn imei s =>
      refine ⟨imei, s, kept, ?_⟩
      dsimp only [settle] at eq
      split at eq
      · exact Or.inr ⟨Or.inl rfl, Except.ok.inj eq⟩
      · exact Or.inl ⟨rfl, Except.ok.inj eq⟩
  | close imei s => exact ⟨imei, s, kept, Or.inr ⟨Or.inr rfl, Except.ok.inj eq⟩⟩
  | fault fault s => cases eq

theorem Sound.receive (sound : Sound r) {data : Str} {t : Receiver}
    (ok : r.handleTcpSessionReceivedData env session data = .ok t) : Sound t := by
  unfold handleTcpSessionReceivedData at ok
  split at ok
  · cases ok
    exact sound
  · rename_i d device
    have active := sound.live device
    obtain ⟨imei, s, kept, ⟨_, rfl⟩ | ⟨_, rfl⟩⟩ := processData_cases active ok
    · refine sound.of_update session (fun other differs => update_of_ne differs _ _)
        (fun other _ => kept.active other) fun d' device' => ?_
      cases (update_self _ _ _).symm.trans device'
      exact ⟨(kept.active session).trans active, clean_rest _⟩
    · refine sound.of_update session (fun other differs => update_of_ne differs _ _)
        (fun other differs => ?_) fun d' device' => ?_
      · unfold ended
        rw [cleanup_of_ne differs, sessions_destroyDevice]
        exact kept.active other
      · cases (update_self _ _ _).symm.trans device'

/-- What a chunk leaves of the devices, and of the number of sessions. -/
theorem devices_receive (sound : Sound r) {data : Str} {t : Receiver}
    (ok : r.handleTcpSessionReceivedData env session data = .ok t) :
    t.shared.created = r.shared.created ∧ (∀ id, id ≠ session → t.devices id = r.devices id) ∧
      ∀ d', t.devices session = some d' → ∃ d, r.devices session = some d ∧
        d'.buffer = (cut ';' (d.buffer ++ data).strip).2 := by
  unfold handleTcpSessionReceivedData at ok
  split at ok
  · rename_i gone
    cases ok
    exact ⟨rfl, fun _ _ => rfl, fun d' device => nomatch gone.symm.trans device⟩
  · rename_i d device
    obtain ⟨imei, s, kept, ⟨_, rfl⟩ | ⟨_, rfl⟩⟩ := processData_cases (sound.live device) ok
    · refine ⟨kept.created, fun id differs => update_of_ne differs _ _, fun d' device' => ?_⟩
      cases (update_self _ _ _).symm.trans device'
      exact ⟨d, device, rfl⟩
    · refine ⟨(created_destroyDevice _).trans kept.created,
        fun id differs => update_of_ne differs _ _, fun d' device' => ?_⟩
      cases (update_self _ _ _).symm.trans device'

theorem Sound.modifySession (sound : Sound r) (id : SessionId) (f : TcpSession → TcpSession)
    (active : ∀ t, (f t).active = t.active) :
    Sound { r with shared := r.shared.modifySession id f } := by
  have kept : Keeps id r.shared (r.shared.modifySession id f) := .modifySession active
  exact sound.with_shared kept.active

def modifySession (session : SessionId) (f : TcpSession → TcpSession) (r : Receiver) : Receiver :=
  { r with shared := r.shared.modifySession session f }

/-- A completion is no longer outstanding. -/
def unread (t : TcpSession) : TcpSession := { t with reads := t.reads - 1 }

def unwritten (t : TcpSession) : TcpSession := { t with writes := t.writes - 1 }

/-- `_writeQueue.pop_front()` -/
def popped (t : TcpSession) : TcpSession := { t with writeQueue := t.writeQueue.tail }

/-- What the events can do. -/
inductive StepCase (env : DeviceEnv) (r : Receiver) : Event → Receiver → Prop
  | accept : StepCase env r .accept r.accepting
  | readEnd (session : SessionId) (data : Str) (failed : Bool) :
    (r.shared.sessions session).reads ≠ 0 → (failed = true ∨ data.length = 0) →
    StepCase env r (.read session data failed)
      ((r.modifySession session unread).hangUp env session)
  | read (session : SessionId) (data : Str) {t : Receiver} :
    (r.shared.sessions session).reads ≠ 0 → data.length ≠ 0 →
    (r.modifySession session unread).handleTcpSessionReceivedData env session data = .ok t →
    StepCase env r (.read session data false)
      (t.modifySession session fun t => { t with reads := t.reads + 1 })
  | writeEnd (session : SessionId) : (r.shared.sessions session).writes ≠ 0 →
    StepCase env r (.write session true) ((r.modifySession session unwritten).hangUp env session)
  | written (session : SessionId) : (r.shared.sessions session).writes ≠ 0 →
    StepCase env r (.write session false)
      ((r.modifySession session unwritten).modifySession session popped)
  | writtenNext (session : SessionId) : (r.shared.sessions session).writes ≠ 0 →
    StepCase env r (.write session false)
      { r with shared := ((r.shared.modifySession session unwritten).modifySession session
          popped).write session }
  | close (session : SessionId) : (r.shared.sessions session).registered = true →
    StepCase env r (.close session)
      ({ r with shared := r.shared.record (.close session) }.hangUp env session)
  | noDownlink (data : Str) : StepCase env r (.processClientData data) r
  | downlink (data : Str) (session : SessionId) : r.shared.authorizedSession = some session →
    StepCase env r (.processClientData data) { r with shared := r.shared.send session data }

theorem step_cases {e : Event} {t : Receiver} (taken : step env r e = some t) :
    StepCase env r e t := by
  cases e with
  | accept =>
      rw [step_accept] at taken
      cases taken
      exact .accept
  | read session data failed =>
      simp only [Receiver.step] at taken
      split at taken
      · cases taken
      · rename_i pending
        cases handled : handleRead env session data failed (r.modifySession session unread) with
        | error crash =>
            cases (congrArg Except.toOption handled).symm.trans taken
        | ok t' =>
            cases (congrArg Except.toOption handled).symm.trans taken
            unfold handleRead at handled
            split at handled
            · rename_i ends
              cases handled
              exact .readEnd session data failed pending ends
            · rename_i arrived
              obtain ⟨t', received, handled⟩ := ok_of_bind handled
              cases handled
              rw [not_or] at arrived
              obtain rfl := Bool.eq_false_iff.mpr arrived.1
              exact .read session data pending arrived.2 received
  | write session failed =>
      simp only [Receiver.step] at taken
      split at taken
      · cases taken
      · rename_i pending
        cases taken
        unfold handleWrite
        dsimp only
        cases failed with
        | true => exact .writeEnd session pending
        | false =>
            rw [if_neg (by decide)]
            split
            · exact .writtenNext session pending
            · exact .written session pending
  | close session =>
      simp only [Receiver.step] at taken
      split at taken
      · rename_i registered
        cases taken
        exact .close session registered
      · cases taken
  | processClientData data =>
      cases taken
      unfold Receiver.processClientData
      split
      · exact .noDownlink data
      · rename_i session owner
        split
        · exact .downlink data session owner
        · exact .noDownlink data

theorem keeps_writtenNext (id : SessionId) (s : Shared) :
    Keeps id s (((s.modifySession id unwritten).modifySession id popped).write id) := by
  have written : Keeps id s (s.modifySession id unwritten) := .modifySession fun _ => rfl
  have popped : Keeps id (s.modifySession id unwritten)
      ((s.modifySession id unwritten).modifySession id popped) := .modifySession fun _ => rfl
  exact (written.trans popped).trans (.write id)

theorem Sound.accepting (sound : Sound r) : Sound r.accepting := by
  refine sound.of_update r.shared.created (fun other differs => update_of_ne differs _ _)
    (fun other differs => ?_) fun d device => ?_
  · exact congrArg TcpSession.active (update_of_ne differs _ _)
  · cases (update_self _ _ _).symm.trans device
    have started : r.accepting.shared.sessions r.shared.created =
        { active := true, isOpen := true, registered := true, reads := 1 } := update_self _ _ _
    rw [started]
    exact ⟨rfl, List.not_mem_nil, List.not_mem_nil, List.not_mem_nil⟩

theorem Sound.step {e : Event} {t : Receiver} (sound : Sound r) (taken : step env r e = some t) :
    Sound t := by
  cases step_cases taken with
  | accept => exact sound.accepting
  | readEnd id _ _ _ _ => exact (sound.modifySession id unread fun _ => rfl).hangUp id
  | read id _ _ _ received =>
      exact ((sound.modifySession id unread fun _ => rfl).receive received).modifySession id _
        fun _ => rfl
  | writeEnd id _ => exact (sound.modifySession id unwritten fun _ => rfl).hangUp id
  | written id _ =>
      exact (sound.modifySession id unwritten fun _ => rfl).modifySession id popped fun _ => rfl
  | writtenNext id _ =>
      exact sound.with_shared (keeps_writtenNext id r.shared).active
  | close id _ =>
      have recorded : Sound { r with shared := r.shared.record (.close id) } :=
        sound.with_shared fun _ => rfl
      exact recorded.hangUp id
  | noDownlink _ => exact sound
  | downlink data id _ =>
      have kept : Keeps id r.shared (r.shared.send id data) := .send id data
      exact sound.with_shared kept.active

/-- Only an accepted connection is a new session. -/
theorem created_step {e : Event} {t : Receiver} (sound : Sound r) (taken : step env r e = some t) :
    t.shared.created = if e = .accept then r.shared.created + 1 else r.shared.created := by
  cases step_cases taken with
  | accept => rfl
  | readEnd session _ _ _ _ => exact created_hangUp (r := r.modifySession session unread)
  | read session data _ _ received =>
      have unread : Sound (r.modifySession session unread) :=
        sound.modifySession session unread fun _ => rfl
      exact (devices_receive unread received).1
  | writeEnd session _ => exact created_hangUp (r := r.modifySession session unwritten)
  | written session _ => rfl
  | writtenNext session _ => rfl
  | close session _ =>
      have closed : ({ r with shared := r.shared.record (.close session) }.hangUp env
          session).shared.created = r.shared.created := created_hangUp
      exact closed
  | noDownlink data => rfl
  | downlink data session _ =>
      have kept : Keeps session r.shared (r.shared.send session data) := .send session data
      exact kept.created

theorem sound_init : Sound {} := by
  constructor
  · intro id d device
    cases device
  · intro id d device
    cases device

/-- A tracker's byte stream is dealt with in the same way however it is cut into chunks:
from every reachable state the runs leave the same receiver, or fail in the same way
after the same effects, and a session that is still open keeps exactly the unterminated
rest of its stripped stream. -/
theorem receiveAll_congr {es : List Event} (run : Run (step env) {} es r) {session : SessionId}
    {stream : Str} {chunks chunks' : List Str} (cut₁ : chunks.flatten = stream)
    (cut₂ : chunks'.flatten = stream)
    (bounded : ∀ d, r.devices session = some d →
      ∀ g ∈ segments ';' (d.buffer ++ stream).strip, g.length ≤ 32768) :
    (receiveAll env session chunks r).mapError Crash.summary =
        (receiveAll env session chunks' r).mapError Crash.summary ∧
      ∀ d t d', r.devices session = some d → receiveAll env session chunks r = .ok t →
        t.devices session = some d' →
        d'.buffer = (cut ';' (d.buffer ++ stream).strip).2 ∧ Clean d'.buffer := by
  have sound : Sound r := run.invariant Sound.step sound_init
  cases device : r.devices session with
  | none =>
      rw [receiveAll_of_none device, receiveAll_of_none device]
      exact ⟨rfl, fun _ _ _ impossible => nomatch impossible⟩
  | some d =>
      have clean := sound.clean device
      have active := sound.live device
      have short := bounded d device
      have eq : (receiveAll env session chunks r).mapError Crash.summary = _ :=
        receiveAll_eq device active clean (by rw [cut₁]; exact short)
      have eq' : (receiveAll env session chunks' r).mapError Crash.summary = _ :=
        receiveAll_eq device active clean (by rw [cut₂]; exact short)
      rw [cut₁] at eq
      rw [cut₂] at eq'
      refine ⟨eq.trans eq'.symm, ?_⟩
      intro d₁ t d' same ok device'
      cases same
      rw [ok] at eq
      have kept := device_of_settle eq.symm device'
      exact ⟨kept, kept ▸ clean_rest _⟩

/-- A tracker that logs on and reports once. -/
def sampleEnv : DeviceEnv where
  imei := "123456789012345".toList
  clock n := n
  fromIsoString _ := none
  lexicalCast _ := none

def sampleStream : Str := "##,imei:123456789012345,A;\r\n123456789012345;\r\n12".toList

/-- The receiver after its first session has been accepted. -/
def accepted : Receiver := (step sampleEnv {} .accept).getD {}

theorem receiveAll_congr_sample :
    (receiveAll sampleEnv 0 [sampleStream.take 11, sampleStream.drop 11] accepted).mapError
        Crash.summary =
      (receiveAll sampleEnv 0 [sampleStream] accepted).mapError Crash.summary := by
  have run : Run (step sampleEnv) {} [.accept] accepted := Run.of_foldlM rfl
  have bounded : ∀ d, accepted.devices 0 = some d →
      ∀ g ∈ segments ';' (d.buffer ++ sampleStream).strip, g.length ≤ 32768 := by
    intro d device
    cases device
    decide
  have pieces : [sampleStream.take 11, sampleStream.drop 11].flatten = sampleStream := by
    decide
  have whole : [sampleStream].flatten = sampleStream := List.append_nil sampleStream
  exact (receiveAll_congr run pieces whole bounded).1

end Receiver

end GpsInformer
