import GpsInformer.DeviceScan

/-!
# Who is authorized

`_imei` and `_authorizedSession` are written separately, and a session that has been
authorized may log on again: `commandLogon` then overwrites or clears `_imei` and leaves
the session authorized.  As long as no authorized session sends such a logon
(`SafeRead`), the authorized device is the configured one in every state of a run, and
so is the one a disconnection is reported for (`forall_visits_authorizedIdentity`).
-/

namespace GpsInformer

open Lib Function

namespace Device

variable {env : DeviceEnv} {session : SessionId} {s t : Shared} {configured : Str}
  {st st' : Standing}

/-- None of the frames that are dealt with is a foreign logon on an authorized session. -/
def LogonSafe (configured : Str) : Standing → List Str → Prop
  | _, [] => True
  | st, command :: rest =>
      (st.authorized = true → ¬ ForeignLogon configured command) ∧
        match advance configured st command with
        | none => True
        | some st => LogonSafe configured st rest

instance LogonSafe.decidable (configured : Str) :
    ∀ st frames, Decidable (LogonSafe configured st frames)
  | _, [] => .isTrue trivial
  | st, command :: rest =>
      have : Decidable (match advance configured st command with
          | none => True
          | some st => LogonSafe configured st rest) :=
        match advance configured st command with
        | none => .isTrue trivial
        | some st => LogonSafe.decidable configured st rest
      inferInstanceAs (Decidable (_ ∧ _))

/-- A session that goes on and is authorized has the configured IMEI. -/
theorem imei_of_advance {command : Str}
    (safe : st.authorized = true → ¬ ForeignLogon configured command)
    (start : st.authorized = true → st.imei = configured)
    (advanced : advance configured st command = some st') :
    st'.authorized = true → st'.imei = configured := by
  unfold advance at advanced
  dsimp only at advanced
  split at advanced
  · cases advanced
    exact start
  · split at advanced
    · rename_i logon
      split at advanced
      · cases advanced
      · rename_i name wellFormed
        split at advanced
        · rename_i granted
          cases advanced
          intro _
          rcases granted with authorized | same
          · by_contra foreign
            obtain ⟨size, flag, _⟩ := of_logonImei wellFormed
            refine safe authorized ⟨logon, size, flag, ?_⟩
            rw [wellFormed]
            exact fun same => foreign (Option.some.inj same)
          · exact same
        · cases advanced
    · split at advanced
      · split at advanced
        · cases advanced
        · cases advanced
          exact start
      · cases advanced

/-- An authorized session ends as the configured one, too. -/
def Verdict.Identified (configured : Str) (session : SessionId) : Verdict → Prop
  | .goOn imei t | .close imei t => t.authorizedSession = some session → imei = configured
  | .fault _ _ => True

theorem interpret_identified {frames : List Str} {imei : Str}
    (safe : LogonSafe env.imei (standing session imei s) frames)
    (start : s.authorizedSession = some session → imei = env.imei) :
    (interpret env session frames imei s).Identified env.imei session := by
  induction frames generalizing imei s with
  | nil => exact start
  | cons command rest ih =>
      have first : CommandCase env session command imei s
          (processCommand env session command imei s) := processCommand_cases command imei s
      obtain ⟨here, later⟩ := safe
      rw [interpret]
      generalize processCommand env session command imei s = verdict at first ⊢
      cases first with
      | @goOn imei' t advanced _ _ =>
          rw [advanced] at later
          apply ih later
          intro authorized
          exact imei_of_advance here (fun owner => start (of_decide_eq_true owner)) advanced
            (decide_eq_true authorized)
      | close _ same kept _ =>
          intro authorized
          have owner := same.symm.trans authorized
          rcases kept with rfl | foreign
          · exact start owner
          · exact absurd foreign (here (decide_eq_true owner))
      | fault => trivial

end Device

namespace Receiver

open Device

variable {env : DeviceEnv} {session : SessionId} {d : Device} {r t : Receiver}
  {s s' : Shared}

/-- The authorized device is the configured one, and so was every device whose disconnection
has been reported. -/
structure AuthorizedIdentity (env : DeviceEnv) (r : Receiver) : Prop where
  device : ∀ {id d}, r.devices id = some d → r.shared.authorizedSession = some id →
    d.imei = env.imei
  event : ∀ {m}, .trackerEvent .destruction m ∈ r.shared.log → m.imei = env.imei

/-- What a step relies on besides: sessions are not reused. -/
structure Identified (env : DeviceEnv) (r : Receiver) : Prop extends
    Sound r, AuthorizedIdentity env r where
  created : ∀ {id d}, r.devices id = some d → id < r.shared.created
  fresh : ∀ {id}, r.shared.authorizedSession = some id → id < r.shared.created

/-- A tracker's bytes hold no foreign logon while its session is authorized. -/
def SafeRead (env : DeviceEnv) (r : Receiver) : Event → Prop
  | .read session data failed => failed = false → ∀ d ∈ r.devices session,
      LogonSafe env.imei (standing session d.imei r.shared) (cut ';' (d.buffer ++ data).strip).1
  | _ => True

instance (env : DeviceEnv) (r : Receiver) : ∀ e, Decidable (SafeRead env r e)
  | .read session data failed => inferInstanceAs (Decidable (failed = false →
      ∀ d ∈ r.devices session, LogonSafe env.imei (standing session d.imei r.shared)
        (cut ';' (d.buffer ++ data).strip).1))
  | .accept | .write _ _ | .close _ | .processClientData _ => .isTrue trivial

/-- No device and no owner is new, and no disconnection of another one is. -/
theorem Identified.mono (identified : Identified env r) (sound : Sound t)
    (devices : ∀ {id d}, t.devices id = some d → r.devices id = some d)
    (owner : ∀ {id}, t.shared.authorizedSession = some id → r.shared.authorizedSession = some id)
    (created : t.shared.created = r.shared.created)
    (event : ∀ {m}, .trackerEvent .destruction m ∈ t.shared.log →
      .trackerEvent .destruction m ∈ r.shared.log ∨ m.imei = env.imei) : Identified env t := by
  refine
    { sound with
      device := ?_
      event := ?_
      created := ?_
      fresh := ?_ }
  · intro id d device authorized
    exact identified.device (devices device) (owner authorized)
  · intro m member
    rcases event member with old | new
    · exact identified.event old
    · exact new
  · intro id d device
    rw [created]
    exact identified.created (devices device)
  · intro id authorized
    rw [created]
    exact identified.fresh (owner authorized)

theorem event_of_keeps {id : SessionId} {m : GpsMessage} (kept : Keeps id s s')
    (member : .trackerEvent .destruction m ∈ s'.log) : .trackerEvent .destruction m ∈ s.log := by
  obtain ⟨effects, log, quiet⟩ := kept.log
  rw [log] at member
  rcases List.mem_append.mp member with old | new
  · exact old
  · exact absurd new (quiet m)

/-- What a command does to the shared state, apart from authorizing a session, keeps
the invariant. -/
theorem Identified.with_shared (identified : Identified env r) {id : SessionId}
    (kept : Keeps id r.shared s) (same : s.authorizedSession = r.shared.authorizedSession) :
    Identified env { r with shared := s } := by
  apply identified.mono (identified.toSound.with_shared kept.active)
  · exact fun device => device
  · exact fun owner => same.symm.trans owner
  · exact kept.created
  · exact fun member => Or.inl (event_of_keeps kept member)

theorem Identified.modifySession (identified : Identified env r) (id : SessionId)
    (f : TcpSession → TcpSession) (active : ∀ t, (f t).active = t.active) :
    Identified env { r with shared := r.shared.modifySession id f } := by
  have kept : Keeps id r.shared (r.shared.modifySession id f) := .modifySession active
  exact identified.with_shared kept rfl

/-- The end of an authorized device is reported with its IMEI. -/
theorem event_of_destroyDevice {m : GpsMessage}
    (member : .trackerEvent .destruction m ∈ (s.destroyDevice env session d).log) :
    .trackerEvent .destruction m ∈ s.log ∨
      s.authorizedSession = some session ∧ m.imei = d.imei := by
  by_cases owner : s.authorizedSession = some session
  · rw [Shared.destroyDevice_of_owner owner] at member
    rcases List.mem_append.mp member with old | new
    · exact Or.inl old
    · rcases List.mem_pair.mp new with impossible | same
      · cases impossible
      · cases same
        exact Or.inr ⟨owner, rfl⟩
  · rw [Shared.destroyDevice_of_ne owner] at member
    rcases List.mem_append.mp member with old | new
    · exact Or.inl old
    · cases List.mem_singleton.mp new

theorem authorizedSession_destroyDevice (d : Device) :
    (s.destroyDevice env session d).authorizedSession =
      if s.authorizedSession = some session then none else s.authorizedSession := by
  split
  · rename_i owner
    rw [Shared.destroyDevice_of_owner owner]
  · rename_i other
    rw [Shared.destroyDevice_of_ne other]
    rfl

theorem owner_of_destroyDevice {id : SessionId}
    (owner : (s.destroyDevice env session d).authorizedSession = some id) :
    s.authorizedSession = some id ∧ id ≠ session := by
  rw [authorizedSession_destroyDevice] at owner
  split at owner
  · cases owner
  · rename_i other
    exact ⟨owner, fun same => other (same ▸ owner)⟩

theorem Identified.hangUp (identified : Identified env r) (id : SessionId) :
    Identified env (r.hangUp env id) := by
  have sound : Sound (r.hangUp env id) := identified.toSound.hangUp id
  have recorded : ∀ {m}, .trackerEvent .destruction m ∈ (r.shared.record (.hangUp id)).log →
      .trackerEvent .destruction m ∈ r.shared.log := by
    intro m member
    rcases List.mem_append.mp member with old | new
    · exact old
    · cases List.mem_singleton.mp new
  cases device : r.devices id with
  | none =>
      rw [hangUp_of_none device] at sound ⊢
      exact identified.mono sound (fun device => device) (fun owner => owner) rfl
        fun member => Or.inl (recorded member)
  | some d =>
      rw [hangUp_of_some (identified.live device) device] at sound ⊢
      apply identified.mono sound
      · exact device_of_update
      · exact fun owner => (owner_of_destroyDevice owner).1
      · exact created_destroyDevice d
      · intro m member
        rcases event_of_destroyDevice member with old | ⟨owner, same⟩
        · exact Or.inl (recorded old)
        · exact Or.inr (same.trans (identified.device device owner))

/-- The commands of one session do not authorize another one. -/
theorem owner_of_keeps {id : SessionId} (kept : Keeps session s s')
    (owner : s'.authorizedSession = some id) : s.authorizedSession = some id ∨ id = session := by
  rcases kept.authorized with same | authorized
  · exact Or.inl (same.symm.trans owner)
  · exact Or.inr (Option.some.inj (owner.symm.trans authorized))

theorem Identified.receive (identified : Identified env r) {data : Str}
    (safe : ∀ d, r.devices session = some d →
      LogonSafe env.imei (standing session d.imei r.shared) (cut ';' (d.buffer ++ data).strip).1)
    (ok : r.handleTcpSessionReceivedData env session data = .ok t) : Identified env t := by
  have sound : Sound t := identified.toSound.receive ok
  unfold handleTcpSessionReceivedData at ok
  split at ok
  · cases ok
    exact identified
  · rename_i d device
    have named : Verdict.Identified env.imei session (interpret env session
        (cut ';' (d.buffer ++ data).strip).1 d.imei r.shared) :=
      interpret_identified (safe d device) (identified.device device)
    obtain ⟨imei, s, kept, outcome⟩ := processData_cases (identified.live device) ok
    have session_created : session < r.shared.created := identified.created device
    have owned : s.authorizedSession = some session → imei = env.imei := by
      rcases outcome with ⟨verdict, _⟩ | ⟨verdict | verdict, _⟩
      · rw [verdict] at named
        exact named
      · rw [verdict] at named
        exact named
      · rw [verdict] at named
        exact named
    rcases outcome with ⟨_, rfl⟩ | ⟨_, rfl⟩
    · refine
        { sound with
          device := ?_
          event := ?_
          created := ?_
          fresh := ?_ }
      · intro id d' device' owner
        by_cases same : id = session
        · subst same
          cases (update_self _ _ _).symm.trans device'
          exact owned owner
        · have before := (update_of_ne same _ _).symm.trans device'
          exact identified.device before ((owner_of_keeps kept owner).resolve_right same)
      · exact fun member => identified.event (event_of_keeps kept member)
      · intro id d' device'
        rw [show (({ r with shared := s } : Receiver).putDevice session _).shared.created =
          r.shared.created from kept.created]
        by_cases same : id = session
        · exact same ▸ session_created
        · exact identified.created ((update_of_ne same _ _).symm.trans device')
      · intro id owner
        rw [show (({ r with shared := s } : Receiver).putDevice session _).shared.created =
          r.shared.created from kept.created]
        rcases owner_of_keeps kept owner with before | rfl
        · exact identified.fresh before
        · exact session_created
    · apply identified.mono sound
      · exact device_of_update
      · intro id owner
        obtain ⟨owner, other⟩ := owner_of_destroyDevice owner
        exact (owner_of_keeps kept owner).resolve_right other
      · exact (created_destroyDevice _).trans kept.created
      · intro m member
        have closed : Keeps session s (s.record (.close session)) := .record fun _ => nofun
        have ended : Keeps session _ ((s.record (.close session)).record (.hangUp session)) :=
          .record fun _ => nofun
        rcases event_of_destroyDevice member with old | ⟨owner, same⟩
        · exact Or.inl (event_of_keeps ((kept.trans closed).trans ended) old)
        · exact Or.inr (same.trans (owned owner))

theorem Identified.accept (identified : Identified env r) : Identified env r.accepting := by
  have sound : Sound r.accepting := identified.toSound.accepting
  have new : r.shared.authorizedSession ≠ some r.shared.created :=
    fun owner => Nat.lt_irrefl _ (identified.fresh owner)
  refine
    { sound with
      device := ?_
      event := ?_
      created := ?_
      fresh := ?_ }
  · intro id d device owner
    by_cases same : id = r.shared.created
    · rw [same] at owner
      exact absurd owner new
    · exact identified.device ((update_of_ne same _ _).symm.trans device) owner
  · intro m member
    rcases List.mem_append.mp member with old | new
    · exact identified.event old
    · cases List.mem_singleton.mp new
  · intro id d device
    apply Nat.lt_succ_of_le
    by_cases same : id = r.shared.created
    · exact same.le
    · exact (identified.created ((update_of_ne same _ _).symm.trans device)).le
  · exact fun owner => Nat.lt_succ_of_lt (identified.fresh owner)

theorem Identified.step {e : Event} (identified : Identified env r) (safe : SafeRead env r e)
    (taken : step env r e = some t) : Identified env t := by
  cases step_cases taken with
  | accept => exact identified.accept
  | readEnd id _ _ _ _ => exact (identified.modifySession id unread fun _ => rfl).hangUp id
  | read id data _ _ received =>
      have pending := identified.modifySession id unread fun _ => rfl
      exact (pending.receive (safe rfl) received).modifySession id _ fun _ => rfl
  | writeEnd id _ => exact (identified.modifySession id unwritten fun _ => rfl).hangUp id
  | written id _ =>
      exact (identified.modifySession id unwritten fun _ => rfl).modifySession id popped
        fun _ => rfl
  | writtenNext id _ =>
      exact identified.with_shared (keeps_writtenNext id r.shared) rfl
  | close id _ =>
      have closed : Keeps id r.shared (r.shared.record (.close id)) := .record fun _ => nofun
      have recorded : Identified env { r with shared := r.shared.record (.close id) } :=
        identified.with_shared closed rfl
      exact recorded.hangUp id
  | noDownlink _ => exact identified
  | downlink data id _ =>
      have kept : Keeps id r.shared (r.shared.send id data) := .send id data
      exact identified.with_shared kept (authorizedSession_send id data)

theorem identified_init : Identified env {} :=
  { sound_init with
    device := fun impossible => nomatch impossible
    event := fun impossible => nomatch impossible
    created := fun impossible => nomatch impossible
    fresh := fun impossible => nomatch impossible }

/-- In a run that brings no foreign logon on an authorized session, the authorized device
is the configured one between any two handlers, and every disconnection is reported with
the configured IMEI. -/
theorem forall_visits_authorizedIdentity {es : List Event}
    (safe : Guarded (step env) (SafeRead env) {} es) :
    ∀ t, Visits (step env) {} es t → AuthorizedIdentity env t := by
  intro t visits
  obtain ⟨front, isPrefix, reaches⟩ := visits
  have identified := reaches.guarded Identified.step (safe.of_prefix isPrefix) identified_init
  exact identified.toAuthorizedIdentity

/-- Two trackers: the first one logs on, the second one takes over and is closed. -/
def takeoverRun : List Event :=
  [.accept, .read 0 "##,imei:123456789012345,A;123456789012345;".toList false, .accept,
    .read 1 "##,imei:123456789012345,A;".toList false, .read 0 [] true, .close 1]

theorem forall_visits_authorizedIdentity_takeover :
    AuthorizedIdentity sampleEnv ((takeoverRun.foldlM (step sampleEnv) {}).getD {}) ∧
      ((takeoverRun.foldlM (step sampleEnv) {}).getD {}).shared.authorizedSession = none := by
  have safe : Guarded (step sampleEnv) (SafeRead sampleEnv) {} takeoverRun := by decide
  refine ⟨forall_visits_authorizedIdentity safe _ ?_, by rfl⟩
  exact .of_run (Run.of_foldlM rfl)

/-- A tracker that logs on a second time, with another name. -/
def renamingRun : List Event :=
  [.accept, .read 0 "##,imei:123456789012345,A;".toList false,
    .read 0 "##,imei:543210987654321,A;".toList false]

theorem not_forall_visits_authorizedIdentity :
    ¬ ∀ env es t, Visits (step env) {} es t → AuthorizedIdentity env t := by
  intro identity
  have run : Run (step sampleEnv) {} renamingRun
      ((renamingRun.foldlM (step sampleEnv) {}).getD {}) := Run.of_foldlM rfl
  have claimed := identity sampleEnv renamingRun _ (.of_run run)
  have device : ((renamingRun.foldlM (step sampleEnv) {}).getD {}).devices 0 =
      some { imei := "543210987654321".toList } := by rfl
  have other := claimed.device device (by rfl)
  exact absurd other (by decide)

end Receiver

end GpsInformer
