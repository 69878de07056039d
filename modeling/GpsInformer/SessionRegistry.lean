import GpsInformer.DeviceFraming

/-!
# The registry of the sessions

`TcpServer::_sessions`, `TcpSession::_active` and `Application::_devices` are kept by
three classes, and the paths that end a session can run several times and from inside
`processData`.  Between two handlers the three agree (`Registry`): a session is started
with one `Device`, which the first of these paths destroys, and `_authorizedSession` and
the connection events follow the devices.
-/

namespace GpsInformer

open Lib Function

/-- Whether an effect belongs to the life of a session. -/
def ofLife (session : SessionId) : Effect → Bool
  | .hangUp id | .construct id | .destroy id => decide (id = session)
  | _ => false

def lifecycle (session : SessionId) (log : List Effect) : List Effect :=
  log.filter (ofLife session)

/-- The life of a session that has been started: its one `Device` is destroyed by the first
path that ends the session, and the later ones find none. -/
inductive Life (session : SessionId) : List Effect → Prop
  | started : Life session [.construct session]
  | ended (again : Nat) : Life session
    (.construct session :: .hangUp session :: .destroy session ::
      List.replicate again (.hangUp session))

/-- The keyword of an event that a logon or the end of a device generates. -/
def connectionKeyword : Effect → Option Str
  | .trackerEvent .logon m | .trackerEvent .destruction m => some m.keyword
  | _ => none

/-- The keyword of the latest of these events. -/
def latestConnection (log : List Effect) : Option Str := (log.filterMap connectionKeyword).getLast?

def connect : Str := "connect".toList

variable {env : DeviceEnv} {session : SessionId} {s t u : Shared} {log : List Effect}

theorem lifecycle_concat (e : Effect) :
    lifecycle session (log ++ [e]) =
      if ofLife session e then lifecycle session log ++ [e] else lifecycle session log := by
  unfold lifecycle
  rw [List.filter_append]
  cases mine : ofLife session e <;> simp [mine]

theorem lifecycle_concat_of_other {e : Effect} (other : ofLife session e = false) :
    lifecycle session (log ++ [e]) = lifecycle session log := by
  rw [lifecycle_concat, other]
  rfl

theorem lifecycle_concat_of_mine {e : Effect} (mine : ofLife session e = true) :
    lifecycle session (log ++ [e]) = lifecycle session log ++ [e] := by
  rw [lifecycle_concat, mine]
  rfl

theorem latestConnection_concat (e : Effect) :
    latestConnection (log ++ [e]) = (connectionKeyword e).or (latestConnection log) := by
  unfold latestConnection
  rw [List.filterMap_append, List.getLast?_append]
  cases keyword : connectionKeyword e <;> simp [keyword]

/-! ## What the commands leave of it -/

/-- What happens on one session leaves its registration alone, and the connection events
follow `_authorizedSession`. -/
structure Calm (session : SessionId) (s t : Shared) : Prop where
  created : t.created = s.created
  elsewhere : ∀ id, id ≠ session → t.sessions id = s.sessions id
  active : (t.sessions session).active = (s.sessions session).active
  registered : (t.sessions session).registered = (s.sessions session).registered
  life : ∀ id, lifecycle id t.log = lifecycle id s.log
  connection : t.authorizedSession = s.authorizedSession ∧
      latestConnection t.log = latestConnection s.log ∨
    t.authorizedSession = some session ∧ latestConnection t.log = some connect

namespace Calm

theorem refl : Calm session s s :=
  ⟨rfl, fun _ _ => rfl, rfl, rfl, fun _ => rfl, Or.inl ⟨rfl, rfl⟩⟩

theorem trans (first : Calm session s t) (second : Calm session t u) : Calm session s u := by
  refine ⟨second.created.trans first.created,
    fun id differs => (second.elsewhere id differs).trans (first.elsewhere id differs),
    second.active.trans first.active, second.registered.trans first.registered,
    fun id => (second.life id).trans (first.life id), ?_⟩
  rcases second.connection with ⟨owner, latest⟩ | taken
  · rw [owner, latest]
    exact first.connection
  · exact Or.inr taken

theorem record {e : Effect} (other : ∀ id, ofLife id e = false)
    (quiet : connectionKeyword e = none) : Calm session s (s.record e) := by
  refine ⟨rfl, fun _ _ => rfl, rfl, rfl, fun id => lifecycle_concat_of_other (other id), ?_⟩
  refine Or.inl ⟨rfl, ?_⟩
  rw [Shared.log_record, latestConnection_concat, quiet]
  rfl

theorem tick : Calm session s (s.universalTime env).2 :=
  ⟨rfl, fun _ _ => rfl, rfl, rfl, fun _ => rfl, Or.inl ⟨rfl, rfl⟩⟩

theorem modifySession {f : TcpSession → TcpSession} (active : ∀ t, (f t).active = t.active)
    (registered : ∀ t, (f t).registered = t.registered) :
    Calm session s (s.modifySession session f) := by
  refine ⟨rfl, fun id differs => update_of_ne differs _ _, ?_, ?_, fun _ => rfl, Or.inl ⟨rfl, rfl⟩⟩
  · rw [Receiver.modifySession_self]
    exact active _
  · rw [Receiver.modifySession_self]
    exact registered _

theorem write : Calm session s (s.write session) := by
  have counted : Calm session s
      (s.modifySession session fun t => { t with writes := t.writes + 1 }) :=
    .modifySession (fun _ => rfl) fun _ => rfl
  exact counted.trans (.record (fun _ => rfl) rfl)

theorem send (data : Str) : Calm session s (s.send session data) := by
  unfold Shared.send
  split
  · exact .refl
  · dsimp only
    have queued : Calm session s
        (s.modifySession session fun t => { t with writeQueue := t.writeQueue ++ [data] }) :=
      .modifySession (fun _ => rfl) fun _ => rfl
    have recorded := queued.trans (.record (e := .send session data) (fun _ => rfl) rfl)
    split
    · exact recorded.trans .write
    · exact recorded

theorem logon {m : GpsMessage} (keyword : m.keyword = connect) :
    Calm session s (({ s with authorizedSession := some session }.universalTime env).2.record
      (.trackerEvent .logon m)) := by
  refine ⟨rfl, fun _ _ => rfl, rfl, rfl, fun id => lifecycle_concat_of_other rfl, ?_⟩
  refine Or.inr ⟨rfl, ?_⟩
  rw [Shared.log_record, latestConnection_concat]
  exact congrArg some keyword

theorem of_acts (acts : Device.Acts env session s t) : Calm session s t := by
  induction acts with
  | refl => exact .refl
  | tick _ ih => exact ih.trans .tick
  | report m _ ih => exact ih.trans (.record (fun _ => rfl) rfl)
  | relay arguments _ ih => exact ih.trans (.record (fun _ => rfl) rfl)
  | send data _ ih => exact ih.trans (.send data)
  | logon m keyword _ ih => exact ih.trans (.logon keyword)

end Calm

namespace Receiver

open Device

variable {d : Device} {r r' : Receiver}

/-- What holds between two handlers. -/
structure Registry (r : Receiver) : Prop where
  registered : ∀ id, (r.shared.sessions id).registered = (r.shared.sessions id).active
  active : ∀ id, (r.shared.sessions id).active = (r.devices id).isSome
  /-- a session with a device has been started and not ended -/
  alive : ∀ id, (r.devices id).isSome →
    id < r.shared.created ∧ lifecycle id r.shared.log = [.construct id]
  /-- one that has been started and has no device any more has been ended -/
  dead : ∀ id, id < r.shared.created → r.devices id = none →
    ∃ again, lifecycle id r.shared.log = .construct id :: .hangUp id :: .destroy id ::
      List.replicate again (.hangUp id)
  unborn : ∀ id, r.shared.created ≤ id →
    r.shared.sessions id = {} ∧ lifecycle id r.shared.log = []
  owner : ∀ id, r.shared.authorizedSession = some id → (r.devices id).isSome
  connection : latestConnection r.shared.log = some connect ↔ r.shared.authorizedSession ≠ none

theorem ne_of_started {id created : Nat} (started : session < created) (future : created ≤ id) :
    id ≠ session :=
  Nat.ne_of_gt (Nat.lt_of_lt_of_le started future)

theorem Registry.live (registry : Registry r) (device : r.devices session = some d) :
    (r.shared.sessions session).active = true := by
  rw [registry.active, device]
  rfl

/-- Something happens on a session that has been started. -/
theorem Registry.calm (registry : Registry r) (calm : Calm session r.shared s)
    (started : session < r.shared.created)
    (owner : s.authorizedSession = r.shared.authorizedSession ∨ (r.devices session).isSome) :
    Registry { r with shared := s } := by
  have active : ∀ id, (s.sessions id).active = (r.shared.sessions id).active := by
    intro id
    by_cases same : id = session
    · rw [same]
      exact calm.active
    · rw [calm.elsewhere id same]
  constructor
  · intro id
    rw [active id]
    by_cases same : id = session
    · rw [same]
      exact calm.registered.trans (registry.registered session)
    · rw [calm.elsewhere id same]
      exact registry.registered id
  · intro id
    exact (active id).trans (registry.active id)
  · intro id device
    rw [calm.life, calm.created]
    exact registry.alive id device
  · intro id old gone
    rw [calm.life]
    exact registry.dead id (calm.created ▸ old) gone
  · intro id future
    have future : r.shared.created ≤ id := calm.created ▸ future
    rw [calm.life, calm.elsewhere id (ne_of_started started future)]
    exact registry.unborn id future
  · intro id authorized
    rcases calm.connection with ⟨same, _⟩ | ⟨taken, _⟩
    · exact registry.owner id (same.symm.trans authorized)
    · cases taken.symm.trans authorized
      rcases owner with same | device
      · exact registry.owner session (same.symm.trans authorized)
      · exact device
  · rcases calm.connection with ⟨same, latest⟩ | ⟨taken, latest⟩
    · rw [same, latest]
      exact registry.connection
    · rw [taken, latest]
      exact iff_of_true rfl nofun

theorem Registry.putDevice (registry : Registry r) (device : (r.devices session).isSome) :
    Registry (r.putDevice session d) := by
  have same : ∀ id, ((r.putDevice session d).devices id).isSome = (r.devices id).isSome := by
    intro id
    change (update r.devices session (some d) id).isSome = _
    by_cases here : id = session
    · rw [here, update_self, device]
      rfl
    · rw [update_of_ne here]
  constructor
  · exact registry.registered
  · exact fun id => (registry.active id).trans (same id).symm
  · exact fun id device => registry.alive id ((same id).symm.trans device)
  · intro id old gone
    refine registry.dead id old (Option.isNone_iff_eq_none.mp ?_)
    rw [← Option.not_isSome, ← same id, gone]
    rfl
  · exact registry.unborn
  · exact fun id authorized => (same id).trans (registry.owner id authorized)
  · exact registry.connection

theorem cleanup_self (s : Shared) :
    (s.cleanup session).sessions session =
      { s.sessions session with registered := false, isOpen := false, active := false } :=
  update_self _ _ _

/-- A session that has no device any more is ended once more. -/
theorem Registry.hangUp_again (registry : Registry r) (started : session < r.shared.created)
    (gone : r.devices session = none) : Registry (r.hangUp env session) := by
  rw [hangUp_of_none gone]
  have others : ∀ id, id ≠ session →
      lifecycle id (r.shared.log ++ [.hangUp session]) = lifecycle id r.shared.log :=
    fun id differs => lifecycle_concat_of_other (decide_eq_false (Ne.symm differs))
  constructor
  · intro id
    dsimp only
    by_cases same : id = session
    · rw [same, cleanup_self]
    · rw [cleanup_of_ne same]
      exact registry.registered id
  · intro id
    dsimp only
    by_cases same : id = session
    · rw [same, cleanup_self, gone]
      rfl
    · rw [cleanup_of_ne same]
      exact registry.active id
  · intro id device
    have differs : id ≠ session := by
      rintro rfl
      rw [gone] at device
      cases device
    exact ⟨(registry.alive id device).1, (others id differs).trans (registry.alive id device).2⟩
  · intro id old none'
    by_cases same : id = session
    · subst same
      obtain ⟨again, life⟩ := registry.dead id old none'
      refine ⟨again + 1, ?_⟩
      have here : lifecycle id (r.shared.log ++ [.hangUp id]) =
          lifecycle id r.shared.log ++ [.hangUp id] := lifecycle_concat_of_mine (by simp [ofLife])
      refine here.trans ?_
      rw [life, List.replicate_succ']
      rfl
    · obtain ⟨again, life⟩ := registry.dead id old none'
      exact ⟨again, (others id same).trans life⟩
  · intro id future
    have future : r.shared.created ≤ id := future
    have differs : id ≠ session := ne_of_started started future
    dsimp only
    rw [cleanup_of_ne differs]
    exact ⟨(registry.unborn id future).1, (others id differs).trans (registry.unborn id future).2⟩
  · exact registry.owner
  · change latestConnection (r.shared.log ++ [.hangUp session]) = _ ↔ _
    rw [latestConnection_concat]
    exact registry.connection

/-- What is reported of a device that is destroyed. -/
theorem destroyDevice_log (env : DeviceEnv) (session : SessionId) (d : Device) (s : Shared) :
    (∀ id, lifecycle id (s.destroyDevice env session d).log =
      lifecycle id (s.log ++ [.destroy session])) ∧
    (s.destroyDevice env session d).created = s.created ∧
    (s.authorizedSession = some session ∧
        (s.destroyDevice env session d).authorizedSession = none ∧
        latestConnection (s.destroyDevice env session d).log = some "disconnect".toList ∨
      s.authorizedSession ≠ some session ∧
        (s.destroyDevice env session d).authorizedSession = s.authorizedSession ∧
        latestConnection (s.destroyDevice env session d).log = latestConnection s.log) := by
  by_cases owner : s.authorizedSession = some session
  · rw [Shared.destroyDevice_of_owner owner]
    dsimp only
    rw [List.append_cons]
    refine ⟨fun id => lifecycle_concat_of_other rfl, rfl, Or.inl ⟨owner, rfl, ?_⟩⟩
    rw [latestConnection_concat]
    rfl
  · rw [Shared.destroyDevice_of_ne owner]
    refine ⟨fun id => rfl, rfl, Or.inr ⟨owner, rfl, ?_⟩⟩
    rw [Shared.log_record, latestConnection_concat]
    rfl

/-- What a hang-up adds to the lives of the sessions. -/
theorem lifecycle_hangUp {s : Shared} (constructed : lifecycle session s.log = [.construct session])
    (d : Device) :
    (∀ id, id ≠ session →
      lifecycle id ((s.record (.hangUp session)).destroyDevice env session d).log =
        lifecycle id s.log) ∧
    lifecycle session ((s.record (.hangUp session)).destroyDevice env session d).log =
      [.construct session, .hangUp session, .destroy session] := by
  obtain ⟨life, _⟩ := destroyDevice_log env session d (s.record (.hangUp session))
  constructor
  · intro id differs
    have other : ofLife id (.destroy session) = false := decide_eq_false (Ne.symm differs)
    have other' : ofLife id (.hangUp session) = false := decide_eq_false (Ne.symm differs)
    rw [life, lifecycle_concat_of_other other]
    exact lifecycle_concat_of_other other'
  · rw [life, lifecycle_concat_of_mine (by simp [ofLife]), Shared.log_record,
      lifecycle_concat_of_mine (by simp [ofLife]), constructed]
    rfl

/-- The first path that ends a session destroys its device. -/
theorem Registry.hangUp_first (registry : Registry r) (device : r.devices session = some d) :
    Registry (r.hangUp env session) := by
  rw [hangUp_of_some (registry.live device) device]
  obtain ⟨_, created, outcome⟩ :=
    destroyDevice_log env session d (r.shared.record (.hangUp session))
  obtain ⟨started, constructed⟩ := registry.alive session (by rw [device]; rfl)
  obtain ⟨others, here⟩ := @lifecycle_hangUp env session r.shared constructed d
  have elsewhere : ∀ id, id ≠ session → update r.devices session none id = r.devices id :=
    fun id differs => update_of_ne differs _ _
  constructor
  · intro id
    dsimp only
    by_cases same : id = session
    · rw [same, cleanup_self]
    · rw [cleanup_of_ne same, sessions_destroyDevice]
      exact registry.registered id
  · intro id
    dsimp only
    by_cases same : id = session
    · rw [same, cleanup_self, update_self]
      rfl
    · rw [cleanup_of_ne same, sessions_destroyDevice, elsewhere id same]
      exact registry.active id
  · intro id device'
    have differs : id ≠ session := by
      rintro rfl
      cases (congrArg Option.isSome (update_self id none r.devices)).symm.trans device'
    have device' : (r.devices id).isSome := elsewhere id differs ▸ device'
    exact ⟨created ▸ (registry.alive id device').1,
      (others id differs).trans (registry.alive id device').2⟩
  · intro id old gone
    by_cases same : id = session
    · subst same
      exact ⟨0, here⟩
    · have gone : r.devices id = none := (elsewhere id same).symm.trans gone
      obtain ⟨again, dead⟩ := registry.dead id (created ▸ old) gone
      exact ⟨again, (others id same).trans dead⟩
  · intro id future
    have future : r.shared.created ≤ id := created ▸ future
    have differs : id ≠ session := ne_of_started started future
    dsimp only
    rw [cleanup_of_ne differs, sessions_destroyDevice]
    exact ⟨(registry.unborn id future).1, (others id differs).trans (registry.unborn id future).2⟩
  · intro id authorized
    rcases outcome with ⟨_, none', _⟩ | ⟨other, same, _⟩
    · cases none'.symm.trans authorized
    · have owned : r.shared.authorizedSession = some id := same.symm.trans authorized
      have differs : id ≠ session := by
        rintro rfl
        exact other owned
      dsimp only
      rw [elsewhere id differs]
      exact registry.owner id owned
  · change latestConnection ((r.shared.record (.hangUp session)).destroyDevice env session d).log =
      some connect ↔ ((r.shared.record (.hangUp session)).destroyDevice env session
        d).authorizedSession ≠ none
    rcases outcome with ⟨_, none', latest⟩ | ⟨_, same, latest⟩
    · rw [none', latest]
      exact iff_of_false (by decide) fun absurd' => absurd' rfl
    · rw [same, latest, Shared.log_record, latestConnection_concat]
      exact registry.connection

theorem Registry.hangUp (registry : Registry r) (started : session < r.shared.created) :
    Registry (r.hangUp env session) := by
  cases device : r.devices session with
  | none => exact registry.hangUp_again started device
  | some d => exact registry.hangUp_first device

theorem Registry.closing (registry : Registry r) (started : session < r.shared.created) :
    Registry { r with shared := r.shared.record (.close session) } := by
  have calm : Calm session r.shared (r.shared.record (.close session)) :=
    .record (fun _ => rfl) rfl
  exact registry.calm calm started (Or.inl rfl)

theorem Registry.close (registry : Registry r) (started : session < r.shared.created) :
    Registry (r.close env session) := by
  have recorded : Registry { r with shared := r.shared.record (.close session) } :=
    registry.closing started
  exact recorded.hangUp started

/-! ## The events -/

theorem Registry.receive (registry : Registry r) {data : Str}
    (ok : r.handleTcpSessionReceivedData env session data = .ok r') :
    Registry r' ∧ r'.shared.created = r.shared.created := by
  unfold handleTcpSessionReceivedData at ok
  split at ok
  · cases ok
    exact ⟨registry, rfl⟩
  · rename_i d device
    have present : (r.devices session).isSome := by
      rw [device]
      rfl
    have started := (registry.alive session present).1
    have active := registry.live device
    have acts : Acts env session r.shared (interpret env session
      (cut ';' (d.buffer ++ data).strip).1 d.imei r.shared).shared := .interpret _ _ _
    obtain ⟨imei, s, kept, outcome⟩ := processData_cases active ok
    have acted : Acts env session r.shared s := by
      rcases outcome with ⟨verdict, _⟩ | ⟨verdict | verdict, _⟩
      · rwa [verdict] at acts
      · rwa [verdict] at acts
      · rwa [verdict] at acts
    have calm : Registry { r with shared := s } :=
      registry.calm (.of_acts acted) started (Or.inr present)
    rcases outcome with ⟨_, rfl⟩ | ⟨_, rfl⟩
    · exact ⟨calm.putDevice present, kept.created⟩
    · have started : session < s.created := kept.created ▸ started
      have whole : ({ r with shared := s }.putDevice session { imei }).close env session =
          ended env session imei s r := close_putDevice ((kept.active session).trans active)
      rw [← whole]
      have left : Registry ({ r with shared := s }.putDevice session { imei }) :=
        calm.putDevice present
      have recorded : Registry { { r with shared := s }.putDevice session { imei } with
          shared := s.record (.close session) } :=
        left.closing started
      exact ⟨recorded.hangUp started, created_hangUp.trans kept.created⟩

theorem Registry.accepting (registry : Registry r) : Registry r.accepting := by
  have others : ∀ id, id ≠ r.shared.created →
      r.accepting.shared.sessions id = r.shared.sessions id ∧
        r.accepting.devices id = r.devices id ∧
        lifecycle id r.accepting.shared.log = lifecycle id r.shared.log := by
    intro id differs
    refine ⟨update_of_ne differs _ _, update_of_ne differs _ _, ?_⟩
    exact lifecycle_concat_of_other (decide_eq_false (Ne.symm differs))
  have session : r.accepting.shared.sessions r.shared.created =
      { active := true, isOpen := true, registered := true, reads := 1 } := update_self _ _ _
  have device : r.accepting.devices r.shared.created = some {} := update_self _ _ _
  have life : lifecycle r.shared.created r.accepting.shared.log =
      [.construct r.shared.created] := by
    change lifecycle _ (r.shared.log ++ [.construct r.shared.created]) = _
    rw [lifecycle_concat_of_mine (by simp [ofLife]), (registry.unborn _ (Nat.le_refl _)).2]
    rfl
  constructor
  · intro id
    by_cases same : id = r.shared.created
    · rw [same, session]
    · rw [(others id same).1]
      exact registry.registered id
  · intro id
    by_cases same : id = r.shared.created
    · rw [same, session, device]
      rfl
    · rw [(others id same).1, (others id same).2.1]
      exact registry.active id
  · intro id present
    by_cases same : id = r.shared.created
    · rw [same]
      exact ⟨Nat.lt_succ_self _, life⟩
    · rw [(others id same).2.1] at present
      rw [(others id same).2.2]
      exact ⟨Nat.lt_succ_of_lt (registry.alive id present).1, (registry.alive id present).2⟩
  · intro id old gone
    have differs : id ≠ r.shared.created := by
      rintro rfl
      cases device.symm.trans gone
    have old : id < r.shared.created + 1 := old
    rw [(others id differs).2.1] at gone
    rw [(others id differs).2.2]
    exact registry.dead id (by omega) gone
  · intro id future
    have future : r.shared.created + 1 ≤ id := future
    have differs : id ≠ r.shared.created := by omega
    rw [(others id differs).1, (others id differs).2.2]
    exact registry.unborn id (by omega)
  · intro id authorized
    have present := registry.owner id authorized
    have differs : id ≠ r.shared.created := by
      rintro rfl
      exact Nat.lt_irrefl _ (registry.alive _ present).1
    rw [(others id differs).2.1]
    exact present
  · change latestConnection (r.shared.log ++ [.construct r.shared.created]) = _ ↔ _
    rw [latestConnection_concat]
    exact registry.connection

/-- A session of which something is outstanding has been started. -/
theorem Registry.started (registry : Registry r) (some' : r.shared.sessions session ≠ {}) :
    session < r.shared.created := by
  by_contra future
  exact some' (registry.unborn session (Nat.le_of_not_lt future)).1

theorem Registry.modifySession (registry : Registry r) {f : TcpSession → TcpSession}
    (started : session < r.shared.created) (active : ∀ t, (f t).active = t.active)
    (registered : ∀ t, (f t).registered = t.registered) :
    Registry (r.modifySession session f) :=
  registry.calm (.modifySession active registered) started (Or.inl rfl)

theorem Registry.step {e : Event} (registry : Registry r) (taken : step env r e = some r') :
    Registry r' := by
  have ofReads : ∀ {id}, (r.shared.sessions id).reads ≠ 0 → id < r.shared.created :=
    fun pending => registry.started fun none' => pending (by rw [none'])
  have ofWrites : ∀ {id}, (r.shared.sessions id).writes ≠ 0 → id < r.shared.created :=
    fun pending => registry.started fun none' => pending (by rw [none'])
  cases step_cases taken with
  | accept => exact registry.accepting
  | readEnd id _ _ pending _ =>
      have started := ofReads pending
      have read := registry.modifySession started (f := unread) (fun _ => rfl) fun _ => rfl
      exact read.hangUp started
  | @read id _ r'' pending _ received =>
      have started := ofReads pending
      have read := registry.modifySession started (f := unread) (fun _ => rfl) fun _ => rfl
      obtain ⟨registry'', created⟩ := read.receive received
      have started : id < r''.shared.created := created ▸ started
      exact registry''.modifySession started (fun _ => rfl) fun _ => rfl
  | writeEnd id pending =>
      have started := ofWrites pending
      have written := registry.modifySession started (f := unwritten) (fun _ => rfl) fun _ => rfl
      exact written.hangUp started
  | written id pending =>
      have started := ofWrites pending
      have written := registry.modifySession started (f := unwritten) (fun _ => rfl) fun _ => rfl
      exact written.modifySession started (fun _ => rfl) fun _ => rfl
  | writtenNext id pending =>
      have written : Calm id r.shared (r.shared.modifySession id unwritten) :=
        .modifySession (fun _ => rfl) fun _ => rfl
      have next : Calm id (r.shared.modifySession id unwritten)
          ((r.shared.modifySession id unwritten).modifySession id popped) :=
        .modifySession (fun _ => rfl) fun _ => rfl
      exact registry.calm ((written.trans next).trans .write) (ofWrites pending) (Or.inl rfl)
  | close id registered =>
      refine registry.close (registry.alive id ?_).1
      rw [← registry.active, ← registry.registered]
      exact registered
  | noDownlink _ => exact registry
  | downlink data id owner =>
      have present := registry.owner id owner
      exact registry.calm (.send data) (registry.alive id present).1 (Or.inr present)

theorem registry_init : Registry {} := by
  refine ⟨fun _ => rfl, fun _ => rfl, fun _ => nofun, fun _ => nofun, fun _ _ => ⟨rfl, rfl⟩,
    fun _ => nofun, ?_⟩
  exact iff_of_false nofun fun absurd' => absurd' rfl

/-- Sessions, devices and their lives, between two handlers. -/
structure Consistent (r : Receiver) : Prop where
  registered : ∀ id,
    (r.shared.sessions id).registered = true ↔ (r.shared.sessions id).active = true
  device : ∀ id, (r.shared.sessions id).active = true ↔ (r.devices id).isSome
  life : ∀ id, id < r.shared.created → Life id (lifecycle id r.shared.log)
  destroyed : ∀ id, id < r.shared.created →
    (Effect.destroy id ∈ r.shared.log ↔ r.devices id = none)
  unborn : ∀ id, r.shared.created ≤ id → lifecycle id r.shared.log = []
  owner : ∀ id, r.shared.authorizedSession = some id → (r.devices id).isSome
  connection : latestConnection r.shared.log = some connect ↔ r.shared.authorizedSession ≠ none

theorem mem_lifecycle_destroy :
    Effect.destroy session ∈ lifecycle session log ↔ Effect.destroy session ∈ log := by
  unfold lifecycle
  rw [List.mem_filter]
  exact and_iff_left (by simp [ofLife])

theorem Registry.consistent (registry : Registry r) : Consistent r := by
  constructor
  · exact fun id => by rw [registry.registered]
  · exact fun id => by rw [registry.active]
  · intro id old
    cases device : r.devices id with
    | none =>
        obtain ⟨again, life⟩ := registry.dead id old device
        rw [life]
        exact .ended again
    | some d =>
        rw [(registry.alive id (by rw [device]; rfl)).2]
        exact .started
  · intro id old
    rw [← mem_lifecycle_destroy]
    cases device : r.devices id with
    | none =>
        obtain ⟨again, life⟩ := registry.dead id old device
        rw [life]
        exact iff_of_true (by simp) rfl
    | some d =>
        rw [(registry.alive id (by rw [device]; rfl)).2]
        exact iff_of_false (by simp) nofun
  · exact fun id future => (registry.unborn id future).2
  · exact registry.owner
  · exact registry.connection

/-- In every reachable state the containers agree, every session has had its one device
destroyed by the first path that ended it, and the latest connection event tells whether
there is an authorized session. -/
theorem reachable_consistent {es : List Event} (run : Run (step env) {} es r) : Consistent r :=
  (run.invariant Registry.step registry_init).consistent

/-- The second tracker takes over, the first one is ended three times. -/
theorem reachable_consistent_takeover :
    ∃ r, Run (step sampleEnv) {}
        [.accept, .accept, .read 0 sampleStream false, .read 1 sampleStream false, .write 0 true,
          .read 0 [] true, .write 1 true] r ∧
      Consistent r := by
  have exists_run : ∃ r, Run (step sampleEnv) {}
      [.accept, .accept, .read 0 sampleStream false, .read 1 sampleStream false, .write 0 true,
        .read 0 [] true, .write 1 true] r := ⟨_, .of_foldlM rfl⟩
  obtain ⟨r, run⟩ := exists_run
  exact ⟨r, run, reachable_consistent run⟩

end Receiver

end GpsInformer
