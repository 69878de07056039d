import GpsInformer.SessionRegistry
import GpsInformer.SilentSessions
import GpsInformer.UplinkRelay
import GpsInformer.UpstreamSegmentation

/-!
# Sessions that never present the configured IMEI

The receiver and the transmitter of one application (`Relay`), run once with all events
and once without those of a set `U` of sessions that never present the configured IMEI.
An event of such a session changes nothing of what `Mirrors` shows
(`Reflects.step_hidden`), since its first frame closes it; every other event has its
counterpart in the second run (`Reflects.step_seen`).
-/

namespace GpsInformer

open Lib Function

variable {U : SessionId → Prop} [DecidablePred U] {env : DeviceEnv} {session : SessionId}

namespace Receiver

open Device

variable {r r' q : Receiver} {s p : Shared} {d : Device} {e : Event} {es : List Event}

/-! ## The sessions of `U` -/

theorem unowned {s q : Shared} (mirrors : Mirrors U s q) (inside : U session) :
    s.authorizedSession ≠ some session :=
  fun owner => mirrors.outside session owner inside

theorem mirrors_destroyDevice_hidden {s q : Shared} (mirrors : Mirrors U s q)
    (inside : U session) (d : Device) : Mirrors U (s.destroyDevice env session d) q := by
  rw [Shared.destroyDevice_of_ne (unowned mirrors inside)]
  exact mirrors.record_hidden (if_pos inside) fun _ _ => nofun

theorem mirrors_cleanup_hidden {s q : Shared} (mirrors : Mirrors U s q) (inside : U session) :
    Mirrors U (s.cleanup session) q :=
  mirrors.modifySession_hidden inside fun _ => rfl

theorem Reflects.modifySession_hidden (reflects : Reflects U r q) (inside : U session)
    {f : TcpSession → TcpSession} (idle : ∀ t, (f t).writes = t.writes)
    (active : ∀ t, (f t).active = t.active) : Reflects U (r.modifySession session f) q :=
  ⟨reflects.shared.modifySession_hidden inside idle, reflects.devices,
    reflects.sound.modifySession session f active, reflects.sound'⟩

theorem Reflects.hangUp_hidden (reflects : Reflects U r q) (inside : U session) :
    Reflects U (r.hangUp env session) q := by
  have recorded : Mirrors U (r.shared.record (.hangUp session)) q.shared :=
    reflects.shared.record_hidden (if_pos inside) fun _ _ => nofun
  have sound : Sound (r.hangUp env session) := reflects.sound.hangUp session
  cases device : r.devices session with
  | none =>
      rw [hangUp_of_none device] at sound ⊢
      exact ⟨mirrors_cleanup_hidden recorded inside, reflects.devices, sound, reflects.sound'⟩
  | some d =>
      rw [hangUp_of_some (reflects.sound.live device) device] at sound ⊢
      have destroyed : Mirrors U
          ((r.shared.record (.hangUp session)).destroyDevice env session d) q.shared :=
        mirrors_destroyDevice_hidden recorded inside d
      refine ⟨mirrors_cleanup_hidden destroyed inside, fun id outside => ?_, sound,
        reflects.sound'⟩
      have differs : id ≠ session := fun same => outside (same ▸ inside)
      exact (reflects.devices id outside).trans (update_of_ne differs _ _).symm

theorem Reflects.close_hidden (reflects : Reflects U r q) (inside : U session) :
    Reflects U (r.close env session) q := by
  have recorded : Reflects U { r with shared := r.shared.record (.close session) } q :=
    ⟨reflects.shared.record_hidden (if_pos inside) fun _ _ => nofun, reflects.devices,
      reflects.sound.with_shared fun _ => rfl, reflects.sound'⟩
  exact recorded.hangUp_hidden inside

/-- What a session of `U` sends is not seen as long as it is not the configured logon. -/
theorem Reflects.receive_hidden (reflects : Reflects U r q) (inside : U session) {data : Str}
    (silent : ∀ d, r.devices session = some d →
      logonFrame env ∉ (cut ';' (d.buffer ++ data).strip).1)
    (ok : r.handleTcpSessionReceivedData env session data = .ok r') : Reflects U r' q := by
  have sound : Sound r' := reflects.sound.receive ok
  unfold handleTcpSessionReceivedData at ok
  split at ok
  · cases ok
    exact reflects
  · rename_i d device
    have active := reflects.sound.live device
    have elsewhere : ∀ {d'}, ∀ id, ¬ U id → q.devices (rank U id) =
        update r.devices session d' id := by
      intro d' id outside
      have differs : id ≠ session := fun same => outside (same ▸ inside)
      exact (reflects.devices id outside).trans (update_of_ne differs _ _).symm
    have unauthorized : interpret env session (cut ';' (d.buffer ++ data).strip).1 d.imei r.shared =
        .goOn d.imei r.shared ∨ ∃ imei', interpret env session
          (cut ';' (d.buffer ++ data).strip).1 d.imei r.shared = .close imei' r.shared :=
      interpret_unauthorized (unowned reflects.shared inside) (silent d device)
    obtain ⟨imei, s, _, outcome⟩ := processData_cases active ok
    have same : s = r.shared := by
      rcases outcome with ⟨verdict, _⟩ | ⟨verdict | verdict, _⟩ <;>
        rcases unauthorized with goesOn | ⟨imei', closes⟩
      · cases verdict.symm.trans goesOn
        rfl
      · cases verdict.symm.trans closes
      · cases verdict.symm.trans goesOn
        rfl
      · cases verdict.symm.trans closes
      · cases verdict.symm.trans goesOn
      · cases verdict.symm.trans closes
        rfl
    subst same
    rcases outcome with ⟨_, rfl⟩ | ⟨_, rfl⟩
    · exact ⟨reflects.shared, elsewhere, sound, reflects.sound'⟩
    · have closed : Mirrors U (r.shared.record (.close session)) q.shared :=
        reflects.shared.record_hidden (if_pos inside) fun _ _ => nofun
      have ended : Mirrors U ((r.shared.record (.close session)).record (.hangUp session))
          q.shared := closed.record_hidden (if_pos inside) fun _ _ => nofun
      exact ⟨mirrors_cleanup_hidden (mirrors_destroyDevice_hidden ended inside _) inside, elsewhere,
        sound, reflects.sound'⟩

theorem Reflects.accept_hidden (reflects : Reflects U r q) (inside : U r.shared.created) :
    Reflects U r.accepting q := by
  have differs : ∀ {id}, ¬ U id → id ≠ r.shared.created := fun outside same =>
    outside (same ▸ inside)
  have shared := reflects.shared
  refine ⟨⟨fun id outside => ?_, ?_, shared.authorized, shared.outside, shared.ticks, ?_,
    fun id inside' => ?_⟩, fun id outside => ?_, reflects.sound.accepting, reflects.sound'⟩
  · exact (shared.sessions id outside).trans (update_of_ne (differs outside) _ _).symm
  · exact shared.created.trans (rank_succ_of_mem inside).symm
  · change _ = (r.shared.log ++ [Effect.construct r.shared.created]).filterMap (visible U)
    rw [List.filterMap_append, ← shared.log]
    simp [visible, inside]
  · refine ⟨?_, ?_⟩
    · change (update r.shared.sessions r.shared.created _ id).writes = 0
      by_cases same : id = r.shared.created
      · rw [same, update_self]
      · rw [update_of_ne same]
        exact (shared.unsent id inside').1
    · change sentTo id (r.shared.log ++ [Effect.construct r.shared.created]) = []
      rw [sentTo_concat_of_other (by simp)]
      exact (shared.unsent id inside').2
  · exact (reflects.devices id outside).trans (update_of_ne (differs outside) _ _).symm

/-! ## The others -/

theorem rank_ne {id : SessionId} (outside : ¬ U id) (outside' : ¬ U session)
    (differs : id ≠ session) : rank U id ≠ rank U session :=
  fun same => differs (rank_injective outside outside' same)

theorem devices_update (reflects : Reflects U r q) (outside : ¬ U session) (d : Option Device) :
    ∀ id, ¬ U id → update q.devices (rank U session) d (rank U id) =
      update r.devices session d id := by
  intro id outside'
  by_cases same : id = session
  · rw [same, update_self, update_self]
  · rw [update_of_ne same, update_of_ne (rank_ne outside' outside same)]
    exact reflects.devices id outside'

theorem Reflects.modifySession (reflects : Reflects U r q) (outside : ¬ U session)
    {f : TcpSession → TcpSession} (active : ∀ t, (f t).active = t.active) :
    Reflects U (r.modifySession session f) (q.modifySession (rank U session) f) :=
  ⟨reflects.shared.modifySession outside f, reflects.devices,
    reflects.sound.modifySession session f active,
    reflects.sound'.modifySession (rank U session) f active⟩

theorem Reflects.hangUp (reflects : Reflects U r q) (outside : ¬ U session) :
    Reflects U (r.hangUp env session) (q.hangUp env (rank U session)) := by
  have recorded : Mirrors U (r.shared.record (.hangUp session))
      (q.shared.record (.hangUp (rank U session))) := reflects.shared.record (if_neg outside)
  have sound : Sound (r.hangUp env session) := reflects.sound.hangUp session
  have sound' : Sound (q.hangUp env (rank U session)) := reflects.sound'.hangUp _
  have same := reflects.devices session outside
  cases device : r.devices session with
  | none =>
      rw [device] at same
      rw [hangUp_of_none device] at sound ⊢
      rw [hangUp_of_none same] at sound' ⊢
      exact ⟨recorded.cleanup outside, reflects.devices, sound, sound'⟩
  | some d =>
      rw [device] at same
      rw [hangUp_of_some (reflects.sound.live device) device] at sound ⊢
      rw [hangUp_of_some (reflects.sound'.live same) same] at sound' ⊢
      exact ⟨(recorded.destroyDevice outside d).cleanup outside,
        devices_update reflects outside none, sound, sound'⟩

/-- The session is closed in both receivers. -/
theorem Reflects.ended (reflects : Reflects U r q) (outside : ¬ U session) (imei : Str)
    {s p : Shared} (mirrors : Mirrors U s p) :
    Mirrors U (Receiver.ended env session imei s r).shared
        (Receiver.ended env (rank U session) imei p q).shared ∧
      ∀ id, ¬ U id → (Receiver.ended env (rank U session) imei p q).devices (rank U id) =
        (Receiver.ended env session imei s r).devices id := by
  have closed := (mirrors.record (e := .close session) (if_neg outside)).record
    (e := .hangUp session) (if_neg outside)
  exact ⟨(closed.destroyDevice outside _).cleanup outside, devices_update reflects outside none⟩

/-- The other receiver deals with the same bytes in the same way. -/
theorem Reflects.receive (reflects : Reflects U r q) (outside : ¬ U session) {data : Str}
    (ok : r.handleTcpSessionReceivedData env session data = .ok r') :
    ∃ q', q.handleTcpSessionReceivedData env (rank U session) data = .ok q' ∧
      Reflects U r' q' := by
  have sound : Sound r' := reflects.sound.receive ok
  have same := reflects.devices session outside
  have sound' : ∀ {q'}, q.handleTcpSessionReceivedData env (rank U session) data = .ok q' →
      Sound q' := reflects.sound'.receive
  unfold handleTcpSessionReceivedData at ok sound' ⊢
  rw [same] at sound' ⊢
  cases device : r.devices session with
  | none =>
      rw [device] at ok
      cases ok
      exact ⟨q, rfl, reflects⟩
  | some d =>
      rw [device] at ok same
      simp only [device] at sound' ⊢
      have eq : (d.processData env session data r).mapError Crash.summary = _ :=
        processData_eq (reflects.sound.live device) data
      have eq' : (d.processData env (rank U session) data q).mapError Crash.summary = _ :=
        processData_eq (reflects.sound'.live same) data
      have verdicts : Verdict.Mirrors U
          (interpret env session (cut ';' (d.buffer ++ data).strip).1 d.imei r.shared)
          (interpret env (rank U session) (cut ';' (d.buffer ++ data).strip).1 d.imei q.shared) :=
        mirrors_interpret reflects.shared outside _ _
      have done : d.processData env session data r = .ok r' := ok
      rw [done] at eq
      generalize interpret env session (cut ';' (d.buffer ++ data).strip).1 d.imei r.shared =
        verdict at eq verdicts
      generalize interpret env (rank U session) (cut ';' (d.buffer ++ data).strip).1 d.imei
        q.shared = verdict' at eq' verdicts
      cases verdict with
      | goOn imei s =>
          cases verdict' with
          | goOn imei' p =>
              obtain ⟨rfl, mirrors⟩ := verdicts
              dsimp only [settle] at eq eq'
              have finished := mapError_eq_ok eq'
              refine ⟨_, finished, ?_⟩
              have sound'' := sound' finished
              have left := Except.ok.inj eq
              split at left
              · rename_i long
                rw [if_pos long] at sound'' ⊢
                subst left
                obtain ⟨shared, devices⟩ := reflects.ended outside imei' mirrors
                exact ⟨shared, devices, sound, sound''⟩
              · rename_i short
                rw [if_neg short] at sound'' ⊢
                subst left
                exact ⟨mirrors, devices_update reflects outside _, sound, sound''⟩
          | close _ _ => exact verdicts.elim
          | fault _ _ => exact verdicts.elim
      | close imei s =>
          cases verdict' with
          | goOn _ _ => exact verdicts.elim
          | close imei' p =>
              obtain ⟨rfl, mirrors⟩ := verdicts
              have finished := mapError_eq_ok eq'
              refine ⟨_, finished, ?_⟩
              have sound'' := sound' finished
              have left := Except.ok.inj eq
              subst left
              obtain ⟨shared, devices⟩ := reflects.ended outside imei' mirrors
              exact ⟨shared, devices, sound, sound''⟩
          | fault _ _ => exact verdicts.elim
      | fault f s => cases eq

theorem Reflects.accept (reflects : Reflects U r q) (outside : ¬ U r.shared.created) :
    Reflects U r.accepting q.accepting := by
  have shared := reflects.shared
  have created : q.shared.created = rank U r.shared.created := shared.created
  refine ⟨⟨fun id outside' => ?_, ?_, shared.authorized, shared.outside, shared.ticks, ?_,
    fun id inside => ?_⟩, fun id outside' => ?_, reflects.sound.accepting,
    reflects.sound'.accepting⟩
  · change update q.shared.sessions q.shared.created _ _ = update r.shared.sessions _ _ _
    rw [created]
    by_cases same : id = r.shared.created
    · rw [same, update_self, update_self]
    · rw [update_of_ne same, update_of_ne (rank_ne outside' outside same)]
      exact shared.sessions id outside'
  · change q.shared.created + 1 = _
    rw [created]
    exact (rank_succ_of_outside outside).symm
  · change q.shared.log ++ [Effect.construct q.shared.created] =
      (r.shared.log ++ [Effect.construct r.shared.created]).filterMap (visible U)
    rw [List.filterMap_append, ← shared.log, created]
    simp [visible, outside]
  · have differs : id ≠ r.shared.created := fun same => outside (same ▸ inside)
    refine ⟨?_, ?_⟩
    · change (update r.shared.sessions r.shared.created _ id).writes = 0
      rw [update_of_ne differs]
      exact (shared.unsent id inside).1
    · change sentTo id (r.shared.log ++ [Effect.construct r.shared.created]) = []
      rw [sentTo_concat_of_other (by simp)]
      exact (shared.unsent id inside).2
  · change update q.devices q.shared.created _ _ = update r.devices _ _ _
    rw [created]
    exact devices_update reflects outside _ id outside'

theorem Reflects.downlink (reflects : Reflects U r q) (data : Str) :
    Reflects U (r.processClientData data) (q.processClientData data) := by
  unfold processClientData
  rw [reflects.shared.authorized]
  cases owner : r.shared.authorizedSession with
  | none => exact reflects
  | some session =>
      have outside := reflects.shared.outside session owner
      simp only [Option.map_some]
      rw [reflects.devices session outside]
      split
      · have kept : Keeps session r.shared (r.shared.send session data) := .send session data
        have kept' : Keeps session q.shared (q.shared.send (rank U session) data) :=
          .send (rank U session) data
        exact ⟨reflects.shared.send outside data, reflects.devices,
          reflects.sound.with_shared kept.active, reflects.sound'.with_shared kept'.active⟩
      · exact reflects

/-! ## Events -/

/-- What is left of an event without the sessions of `U`, when `created` sessions have been
accepted. -/
def leave (U : SessionId → Prop) [DecidablePred U] (created : Nat) : Event → Option Event
  | .accept => if U created then none else some .accept
  | .read id data failed => if U id then none else some (.read (rank U id) data failed)
  | .write id failed => if U id then none else some (.write (rank U id) failed)
  | .close id => if U id then none else some (.close (rank U id))
  | .processClientData data => some (.processClientData data)

/-- The bytes that an event brings on a session. -/
def brings (session : SessionId) : Event → Str
  | .read id data false => if id = session then data else []
  | _ => []

/-- None of what the sessions of `U` have left, and will bring, holds the logon frame of the
configured tracker. -/
structure Quiet (U : SessionId → Prop) (env : DeviceEnv) (r : Receiver)
    (coming : SessionId → Str) : Prop where
  present : ∀ id d, U id → r.devices id = some d →
    logonFrame env ∉ (cut ';' (d.buffer ++ coming id).strip).1
  later : ∀ id, U id → r.shared.created ≤ id → logonFrame env ∉ (cut ';' (coming id).strip).1

theorem cut_strip_append (buffer data later : Str) :
    (cut ';' (buffer ++ (data ++ later)).strip).1 =
      (cut ';' (buffer ++ data).strip).1 ++
        (cut ';' (Str.strip ((cut ';' (buffer ++ data).strip).2 ++ later))).1 := by
  rw [← List.append_assoc, Str.strip_append, cut_append, (clean_rest _).strip_append]

/-- What a step leaves of the devices: they are older, or new, or have taken in a chunk. -/
theorem devices_step (sound : Sound r) (taken : step env r e = some r') :
    r.shared.created ≤ r'.shared.created ∧ ∀ id d', r'.devices id = some d' →
      r.shared.created ≤ id ∧ d'.buffer = [] ∧ brings id e = [] ∨
        ∃ d, r.devices id = some d ∧ (d' = d ∧ brings id e = [] ∨
          d'.buffer = (cut ';' (d.buffer ++ brings id e).strip).2) := by
  cases step_cases taken with
  | accept =>
      refine ⟨Nat.le_succ _, fun id d' device => ?_⟩
      by_cases same : id = r.shared.created
      · subst same
        cases (update_self _ _ _).symm.trans device
        exact Or.inl ⟨Nat.le_refl _, rfl, rfl⟩
      · exact Or.inr ⟨d', (update_of_ne same _ _).symm.trans device, Or.inl ⟨rfl, rfl⟩⟩
  | readEnd session data failed _ ends =>
      refine ⟨Nat.le_of_eq (created_hangUp (r := r.modifySession session unread)).symm,
        fun id d' device => ?_⟩
      have older : (r.modifySession session unread).devices id = some d' := devices_hangUp device
      refine Or.inr ⟨d', older, Or.inl ⟨rfl, ?_⟩⟩
      rcases ends with rfl | empty
      · rfl
      · cases failed with
        | true => rfl
        | false =>
            rw [List.length_eq_zero_iff.mp empty]
            exact ite_self _
  | read session data _ _ received =>
      have unread : Sound (r.modifySession session unread) :=
        sound.modifySession session unread fun _ => rfl
      obtain ⟨created, others, here⟩ := devices_receive unread received
      refine ⟨created.ge, fun id d' device => ?_⟩
      by_cases same : id = session
      · subst same
        obtain ⟨d, device, buffer⟩ := here d' device
        refine Or.inr ⟨d, device, Or.inr ?_⟩
        rw [buffer, brings, if_pos rfl]
      · refine Or.inr ⟨d', (others id same).symm.trans device, Or.inl ⟨rfl, ?_⟩⟩
        exact if_neg (Ne.symm same)
  | writeEnd session _ =>
      refine ⟨Nat.le_of_eq (created_hangUp (r := r.modifySession session unwritten)).symm,
        fun id d' device => ?_⟩
      have older : (r.modifySession session unwritten).devices id = some d' := devices_hangUp device
      exact Or.inr ⟨d', older, Or.inl ⟨rfl, rfl⟩⟩
  | written session _ =>
      exact ⟨Nat.le_refl _, fun id d' device => Or.inr ⟨d', device, Or.inl ⟨rfl, rfl⟩⟩⟩
  | writtenNext session _ =>
      exact ⟨Nat.le_refl _, fun id d' device => Or.inr ⟨d', device, Or.inl ⟨rfl, rfl⟩⟩⟩
  | close session _ =>
      have closed : ({ r with shared := r.shared.record (.close session) }.hangUp env
          session).shared.created = r.shared.created := created_hangUp
      refine ⟨Nat.le_of_eq closed.symm, fun id d' device => ?_⟩
      have older : ({ r with shared := r.shared.record (.close session) } : Receiver).devices id =
          some d' := devices_hangUp device
      exact Or.inr ⟨d', older, Or.inl ⟨rfl, rfl⟩⟩
  | noDownlink data =>
      exact ⟨Nat.le_refl _, fun id d' device => Or.inr ⟨d', device, Or.inl ⟨rfl, rfl⟩⟩⟩
  | downlink data session _ =>
      have kept : Keeps session r.shared (r.shared.send session data) := .send session data
      exact ⟨kept.created.ge, fun id d' device => Or.inr ⟨d', device, Or.inl ⟨rfl, rfl⟩⟩⟩

/-- Nothing is brought on a session that has not been started. -/
theorem brings_future (registry : Registry r) (taken : step env r e = some r') {id : SessionId}
    (future : r.shared.created ≤ id) : brings id e = [] := by
  cases step_cases taken with
  | readEnd session data failed pending _ =>
      have started : session < r.shared.created :=
        registry.started fun none' => pending (by rw [none'])
      cases failed with
      | true => rfl
      | false => exact if_neg (Ne.symm (ne_of_started started future))
  | read session data pending _ _ =>
      have started : session < r.shared.created :=
        registry.started fun none' => pending (by rw [none'])
      exact if_neg (Ne.symm (ne_of_started started future))
  | _ => rfl

omit [DecidablePred U] in
theorem Quiet.step {coming : SessionId → Str}
    (quiet : Quiet U env r fun id => brings id e ++ coming id) (sound : Sound r)
    (registry : Registry r) (taken : step env r e = some r') : Quiet U env r' coming := by
  obtain ⟨created, devices⟩ := devices_step sound taken
  constructor
  · intro id d' inside device
    rcases devices id d' device with ⟨new, empty, nothing⟩ | ⟨d, device, ⟨rfl, nothing⟩ | buffer⟩
    · have later := quiet.later id inside new
      rw [nothing] at later
      rwa [empty]
    · have present := quiet.present id d' inside device
      rwa [nothing] at present
    · have present := quiet.present id d inside device
      rw [cut_strip_append, List.mem_append, not_or] at present
      rw [buffer]
      exact present.2
  · intro id inside future
    have future := created.trans future
    have later := quiet.later id inside future
    rwa [brings_future registry taken future] at later

/-- An event of a session of `U` changes nothing that is seen. -/
theorem Reflects.step_hidden {coming : SessionId → Str} (reflects : Reflects U r q)
    (quiet : Quiet U env r fun id => brings id e ++ coming id)
    (hidden : leave U r.shared.created e = none) (taken : step env r e = some r') :
    Reflects U r' q := by
  have hides : ∀ {id} {x : Event}, (if U id then none else some x) = none → U id := by
    intro id x none'
    by_contra outside
    cases (if_neg outside).symm.trans none'
  cases step_cases taken with
  | accept => exact reflects.accept_hidden (hides hidden)
  | readEnd session _ _ _ _ =>
      have inside : U session := hides hidden
      have unread : Reflects U (r.modifySession session unread) q :=
        reflects.modifySession_hidden inside (fun _ => rfl) fun _ => rfl
      exact unread.hangUp_hidden inside
  | @read session data r'' _ _ received =>
      have inside : U session := hides hidden
      have unread : Reflects U (r.modifySession session unread) q :=
        reflects.modifySession_hidden inside (fun _ => rfl) fun _ => rfl
      have silent : ∀ d, r.devices session = some d →
          logonFrame env ∉ (cut ';' (d.buffer ++ data).strip).1 := by
        intro d device
        have present := quiet.present session d inside device
        rw [cut_strip_append, List.mem_append, not_or, brings, if_pos rfl] at present
        exact present.1
      have read : Reflects U r'' q := unread.receive_hidden inside silent received
      exact read.modifySession_hidden inside (fun _ => rfl) fun _ => rfl
  | writeEnd session pending =>
      exact absurd (reflects.shared.unsent session (hides hidden)).1 pending
  | written session pending =>
      exact absurd (reflects.shared.unsent session (hides hidden)).1 pending
  | writtenNext session pending =>
      exact absurd (reflects.shared.unsent session (hides hidden)).1 pending
  | close session _ => exact reflects.close_hidden (hides hidden)
  | noDownlink data => cases hidden
  | downlink data session _ => cases hidden

/-- A write completion is handled in the same way. -/
theorem Reflects.handleWrite (reflects : Reflects U r q) (outside : ¬ U session) (failed : Bool) :
    Reflects U (r.handleWrite env session failed) (q.handleWrite env (rank U session) failed) := by
  unfold Receiver.handleWrite
  split
  · exact reflects.hangUp outside
  · have popped : Reflects U (r.modifySession session popped)
        (q.modifySession (rank U session) popped) := reflects.modifySession outside fun _ => rfl
    have same : (q.modifySession (rank U session) Receiver.popped).shared.sessions
        (rank U session) = (r.modifySession session Receiver.popped).shared.sessions session :=
      popped.shared.sessions session outside
    change Reflects U
      { r with shared :=
          if !((r.modifySession session Receiver.popped).shared.sessions session).writeQueue.isEmpty
          then (r.modifySession session Receiver.popped).shared.write session
          else (r.modifySession session Receiver.popped).shared }
      { q with shared :=
          if !((q.modifySession (rank U session) Receiver.popped).shared.sessions
            (rank U session)).writeQueue.isEmpty
          then (q.modifySession (rank U session) Receiver.popped).shared.write (rank U session)
          else (q.modifySession (rank U session) Receiver.popped).shared }
    rw [same]
    split
    · have kept : Keeps session _
          ((r.modifySession session Receiver.popped).shared.write session) :=
        .write session
      have kept' : Keeps (rank U session) _
          ((q.modifySession (rank U session) Receiver.popped).shared.write (rank U session)) :=
        .write (rank U session)
      exact ⟨popped.shared.write outside, popped.devices, popped.sound.with_shared kept.active,
        popped.sound'.with_shared kept'.active⟩
    · exact popped

/-- Every other event has its counterpart. -/
theorem Reflects.step_seen {e' : Event} (reflects : Reflects U r q)
    (seen : leave U r.shared.created e = some e') (taken : step env r e = some r') :
    ∃ q', step env q e' = some q' ∧ Reflects U r' q' := by
  have shows : ∀ {id} {x : Event}, (if U id then none else some x) = some e' → ¬ U id ∧ x = e' := by
    intro id x some'
    by_cases inside : U id
    · cases (if_pos inside).symm.trans some'
    · exact ⟨inside, Option.some.inj ((if_neg inside).symm.trans some')⟩
  cases e with
  | accept =>
      obtain ⟨outside, rfl⟩ := shows seen
      rw [step_accept] at taken
      cases taken
      exact ⟨q.accepting, step_accept q, reflects.accept outside⟩
  | read session data failed =>
      obtain ⟨outside, rfl⟩ := shows seen
      have same := reflects.shared.sessions session outside
      have unread : Reflects U (r.modifySession session unread)
          (q.modifySession (rank U session) unread) :=
        reflects.modifySession outside fun _ => rfl
      cases step_cases taken with
      | readEnd _ _ _ pending ends =>
          refine ⟨_, ?_, unread.hangUp outside⟩
          simp only [step]
          rw [same, if_neg pending]
          unfold handleRead
          rw [if_pos ends]
          rfl
      | @read _ _ r'' pending nonempty received =>
          obtain ⟨q'', received', read⟩ := unread.receive outside received
          have read : Reflects U _ (q''.modifySession (rank U session) _) :=
            read.modifySession (f := fun t => { t with reads := t.reads + 1 }) outside fun _ => rfl
          refine ⟨_, ?_, read⟩
          simp only [step]
          rw [same, if_neg pending]
          unfold handleRead
          rw [if_neg (not_or.mpr ⟨Bool.false_ne_true, nonempty⟩)]
          have received'' : handleTcpSessionReceivedData env (rank U session) data
              { q with shared := q.shared.modifySession (rank U session) fun t =>
                { t with reads := t.reads - 1 } } = .ok q'' := received'
          rw [received'']
          rfl
  | write session failed =>
      obtain ⟨outside, rfl⟩ := shows seen
      have same := reflects.shared.sessions session outside
      have unwritten : Reflects U (r.modifySession session unwritten)
          (q.modifySession (rank U session) unwritten) :=
        reflects.modifySession outside fun _ => rfl
      simp only [step] at taken ⊢
      rw [same]
      split at taken
      · cases taken
      · rename_i pending
        cases taken
        rw [if_neg pending]
        exact ⟨_, rfl, unwritten.handleWrite outside failed⟩
  | close session =>
      obtain ⟨outside, rfl⟩ := shows seen
      have same := reflects.shared.sessions session outside
      cases step_cases taken with
      | close _ registered =>
          have recorded : Reflects U { r with shared := r.shared.record (.close session) }
              { q with shared := q.shared.record (.close (rank U session)) } :=
            ⟨reflects.shared.record (if_neg outside), reflects.devices,
              reflects.sound.with_shared fun _ => rfl, reflects.sound'.with_shared fun _ => rfl⟩
          refine ⟨_, ?_, recorded.hangUp outside⟩
          simp only [step]
          rw [same, if_pos registered]
          rfl
  | processClientData data =>
      cases seen
      cases taken
      exact ⟨_, rfl, reflects.downlink data⟩

end Receiver

/-! ## The application between its sessions and the upstream server -/

/-- The receiver and the transmitter of one application. -/
structure Relay where
  receiver : Receiver := {}
  transmitter : Transmitter := {}

namespace Relay

open Receiver Device

inductive Event where
  | receiver (event : Receiver.Event)
  /-- `_transmitter` notifies the application -/
  | connect
  | disconnect (reason : Reason) (timerFails : Bool)
  | error (timerFails : Bool)
  | data (data : Str)
  /-- a wait of `_transmitterTimer` ends -/
  | timer
  deriving DecidableEq, Repr

/-- The calls of `handleDeviceCommand` since a log. -/
def newCommands (before after : List Effect) : List (List Str) :=
  (deviceCommands after).drop (deviceCommands before).length

/-- The commands passed to the tracker since a trace. -/
def newDownlinks (before after : List Transmitter.Action) : List Str :=
  (Transmitter.forwarded after).drop (Transmitter.forwarded before).length

/-- `session && _devices.count(session)` for `Device::authorizedSession()` -/
def tracker (r : Receiver) : Bool :=
  match r.shared.authorizedSession with
  | none => false
  | some session => (r.devices session).isSome

/-- An event of the receiver, which may pass commands of the tracker to the transmitter. -/
def receive (env : DeviceEnv) (a : Relay) (event : Receiver.Event) : Option Relay :=
  (Receiver.step env a.receiver event).map fun receiver =>
    { receiver
      transmitter :=
        uplink (newCommands a.receiver.shared.log receiver.shared.log) a.transmitter }

/-- One event; downlink commands come from the transmitter only. -/
def step (env : DeviceEnv) (settings : TransmitterSettings) (a : Relay) : Event → Option Relay
  | .receiver (.processClientData _) => none
  | .receiver event => receive env a event
  | .connect => some { a with transmitter := a.transmitter.handleTcpClientConnect settings }
  | .disconnect reason timerFails =>
      some { a with
        transmitter := a.transmitter.handleTcpClientDisconnect settings timerFails reason }
  | .error timerFails =>
      some { a with transmitter := a.transmitter.handleTcpClientError settings timerFails }
  | .timer => some { a with transmitter := a.transmitter.handleTransmitterTimer settings }
  | .data data =>
      let transmitter :=
        a.transmitter.handleTcpClientReceivedData settings (tracker a.receiver) data
      let downlinks := newDownlinks a.transmitter.trace transmitter.trace
      some { receiver := downlinks.foldl (fun r data => r.processClientData data) a.receiver
             transmitter }

/-- The bytes that an event brings on a session. -/
def brings (session : SessionId) : Event → Str
  | .receiver event => Receiver.brings session event
  | _ => []

/-- The bytes delivered on a session. -/
def stream (session : SessionId) (es : List Event) : Str := es.flatMap (brings session)

/-- What is left of an event without the sessions of `U`, when `created` sessions have been
accepted. -/
def kept (U : SessionId → Prop) [DecidablePred U] (created : Nat) : Event → List Event
  | .receiver event => ((leave U created event).map .receiver).toList
  | event => [event]

/-- The number of sessions after an event. -/
def following (created : Nat) : Event → Nat
  | .receiver .accept => created + 1
  | _ => created

/-- The events without those of the sessions of `U`. -/
def remaining (U : SessionId → Prop) [DecidablePred U] : Nat → List Event → List Event
  | _, [] => []
  | created, e :: es => kept U created e ++ remaining U (following created e) es

variable {settings : TransmitterSettings} {a a' b : Relay} {e : Event} {es : List Event}

/-- What is selected from a log does not depend on the sessions left out if no effect on a
session is selected. -/
theorem filterMap_visible {α : Type} {select : Effect → Option α}
    (blind : ∀ effect, (∀ origin message, effect ≠ .trackerEvent origin message) →
      (∀ arguments, effect ≠ .deviceCommand arguments) → select effect = none)
    (log : List Effect) :
    (log.filterMap (visible U)).filterMap select = log.filterMap select := by
  rw [List.filterMap_filterMap]
  refine List.filterMap_congr fun effect _ => ?_
  cases effect with
  | trackerEvent _ _ => rfl
  | deviceCommand _ => rfl
  | _ =>
      simp only [visible]
      split
      · exact (blind _ (fun _ _ same => by cases same) fun _ same => by cases same).symm
      · exact (blind _ (fun _ _ same => by cases same) fun _ same => by cases same).trans
          (blind _ (fun _ _ same => by cases same) fun _ same => by cases same).symm

theorem deviceCommands_visible (log : List Effect) :
    deviceCommands (log.filterMap (visible U)) = deviceCommands log := by
  apply filterMap_visible
  intro effect _ other
  cases effect with
  | deviceCommand arguments => exact absurd rfl (other arguments)
  | _ => rfl

/-- `b` is `a` without the sessions of `U`. -/
structure Twin (U : SessionId → Prop) [DecidablePred U] (a b : Relay) : Prop where
  receiver : Reflects U a.receiver b.receiver
  transmitter : b.transmitter = a.transmitter
  registry : Registry a.receiver

theorem deviceCommands_twin {r q : Receiver} (reflects : Reflects U r q) :
    deviceCommands q.shared.log = deviceCommands r.shared.log := by
  rw [reflects.shared.log, deviceCommands_visible]

theorem tracker_twin {r q : Receiver} (reflects : Reflects U r q) : tracker q = tracker r := by
  unfold tracker
  rw [reflects.shared.authorized]
  cases owner : r.shared.authorizedSession with
  | none => rfl
  | some session =>
      have outside := reflects.shared.outside session owner
      exact congrArg Option.isSome (reflects.devices session outside)

/-- Downlink commands keep the two receivers together. -/
theorem downlinks_twin {coming : SessionId → Str} {r q : Receiver} (downlinks : List Str)
    (reflects : Reflects U r q) (registry : Registry r) (quiet : Quiet U env r coming) :
    Reflects U (downlinks.foldl (fun r data => r.processClientData data) r)
        (downlinks.foldl (fun r data => r.processClientData data) q) ∧
      Registry (downlinks.foldl (fun r data => r.processClientData data) r) ∧
      Quiet U env (downlinks.foldl (fun r data => r.processClientData data) r) coming ∧
      (downlinks.foldl (fun r data => r.processClientData data) r).shared.created =
        r.shared.created := by
  induction downlinks generalizing r q with
  | nil => exact ⟨reflects, registry, quiet, rfl⟩
  | cons data rest ih =>
      have taken : Receiver.step env r (.processClientData data) =
          some (r.processClientData data) := rfl
      obtain ⟨reflects', registry', quiet', created⟩ := ih (reflects.downlink data)
        (registry.step taken) (quiet.step reflects.sound registry taken)
      exact ⟨reflects', registry', quiet', created.trans (created_step reflects.sound taken)⟩

theorem step_receiver {event : Receiver.Event} (forward : ∀ data, event ≠ .processClientData data) :
    step env settings a (.receiver event) = receive env a event := by
  cases event with
  | processClientData data => exact absurd rfl (forward data)
  | _ => rfl

/-- What one event does with the sessions of `U`, what is left of it does without them. -/
theorem twin_step {coming : SessionId → Str} (twin : Twin U a b)
    (quiet : Quiet U env a.receiver fun session => brings session e ++ coming session)
    (taken : step env settings a e = some a') :
    (∃ b', Run (step env settings) b (kept U a.receiver.shared.created e) b' ∧ Twin U a' b') ∧
      Quiet U env a'.receiver coming ∧
      a'.receiver.shared.created = following a.receiver.shared.created e := by
  obtain ⟨reflects, same, registry⟩ := twin
  have once : ∀ {b'}, step env settings b e = some b' → Run (step env settings) b [e] b' :=
    fun taken => .cons taken (.nil _)
  cases e with
  | receiver event =>
      have forward : ∀ data, event ≠ .processClientData data := by
        rintro data rfl
        cases taken
      obtain ⟨r, stepped, left⟩ : ∃ r, Receiver.step env a.receiver event = some r ∧
          a' = ⟨r, uplink (newCommands a.receiver.shared.log r.shared.log) a.transmitter⟩ := by
        rw [step_receiver forward] at taken
        obtain ⟨r, stepped, left⟩ := Option.map_eq_some_iff.mp taken
        exact ⟨r, stepped, left.symm⟩
      subst left
      have created := created_step reflects.sound stepped
      have registry' : Registry r := registry.step stepped
      have quiet' : Quiet U env r coming := quiet.step reflects.sound registry stepped
      have next : r.shared.created = following a.receiver.shared.created (.receiver event) := by
        cases event <;> exact created
      refine ⟨?_, quiet', next⟩
      cases leaves : leave U a.receiver.shared.created event with
      | none =>
          have reflects' : Reflects U r b.receiver := reflects.step_hidden quiet leaves stepped
          have nothing : newCommands a.receiver.shared.log r.shared.log = [] := by
            unfold newCommands
            rw [← deviceCommands_twin reflects', ← deviceCommands_twin reflects, List.drop_length]
          rw [kept, leaves, nothing]
          exact ⟨b, .nil b, reflects', same, registry'⟩
      | some event' =>
          obtain ⟨q, stepped', reflects'⟩ := reflects.step_seen leaves stepped
          have commands : newCommands b.receiver.shared.log q.shared.log =
              newCommands a.receiver.shared.log r.shared.log := by
            unfold newCommands
            rw [deviceCommands_twin reflects', deviceCommands_twin reflects]
          rw [kept, leaves]
          refine ⟨⟨q, uplink (newCommands b.receiver.shared.log q.shared.log) b.transmitter⟩,
            .cons ?_ (.nil _), reflects', ?_, registry'⟩
          · have forward' : ∀ data, event' ≠ .processClientData data := by
              rintro data rfl
              cases event with
              | processClientData data => exact absurd rfl (forward data)
              | accept => simp [leave] at leaves
              | read id data failed => simp [leave] at leaves
              | write id failed => simp [leave] at leaves
              | close id => simp [leave] at leaves
            rw [step_receiver forward']
            exact Option.map_eq_some_iff.mpr ⟨q, stepped', rfl⟩
          · rw [commands, same]
  | connect =>
      cases taken
      exact ⟨⟨_, once rfl, reflects, by rw [same], registry⟩, quiet, rfl⟩
  | disconnect reason timerFails =>
      cases taken
      exact ⟨⟨_, once rfl, reflects, by rw [same], registry⟩, quiet, rfl⟩
  | error timerFails =>
      cases taken
      exact ⟨⟨_, once rfl, reflects, by rw [same], registry⟩, quiet, rfl⟩
  | timer =>
      cases taken
      exact ⟨⟨_, once rfl, reflects, by rw [same], registry⟩, quiet, rfl⟩
  | data data =>
      cases taken
      obtain ⟨reflects', registry', quiet', created⟩ := downlinks_twin
        (newDownlinks a.transmitter.trace (a.transmitter.handleTcpClientReceivedData settings
          (tracker a.receiver) data).trace) reflects registry quiet
      refine ⟨⟨_, once rfl, ?_, ?_, registry'⟩, quiet', created⟩
      · dsimp only
        rw [same, tracker_twin reflects]
        exact reflects'
      · dsimp only
        rw [same, tracker_twin reflects]

/-- A run with the sessions of `U` has its counterpart without them. -/
theorem twin_run (run : Run (step env settings) a es a') (twin : Twin U a b)
    (quiet : Quiet U env a.receiver fun session => stream session es) :
    ∃ b', Run (step env settings) b (remaining U a.receiver.shared.created es) b' ∧
      Twin U a' b' := by
  induction run generalizing b with
  | nil a => exact ⟨b, .nil b, twin⟩
  | cons first _ ih =>
      obtain ⟨⟨b', stepped, twin'⟩, quiet', created⟩ := twin_step twin quiet first
      obtain ⟨b'', rest, twin''⟩ := ih twin' quiet'
      refine ⟨b'', ?_, twin''⟩
      rw [remaining, ← created]
      exact stepped.append rest

theorem twin_init : Twin U {} {} := by
  refine ⟨⟨⟨fun _ _ => rfl, (Nat.count_zero _).symm, rfl, fun _ => nofun, rfl, rfl,
    fun _ _ => ⟨rfl, rfl⟩⟩, fun _ _ => rfl, sound_init, sound_init⟩, rfl, registry_init⟩

/-! ## What can be told apart -/

/-- Nothing tells the application from one without the sessions of `U`: the events it records
and notifies its users of, what it sends, and who is authorized. -/
structure Indistinguishable (U : SessionId → Prop) [DecidablePred U] (a b : Relay) : Prop where
  trackerEvents : trackerEvents b.receiver.shared.log = trackerEvents a.receiver.shared.log
  upstream : b.transmitter = a.transmitter
  sent : ∀ id, ¬ U id →
    sentTo (rank U id) b.receiver.shared.log = sentTo id a.receiver.shared.log
  authorized : b.receiver.shared.authorizedSession =
    a.receiver.shared.authorizedSession.map (rank U)
  unsent : ∀ id, U id → sentTo id a.receiver.shared.log = []

theorem trackerEvents_visible (log : List Effect) :
    trackerEvents (log.filterMap (visible U)) = trackerEvents log := by
  apply filterMap_visible
  intro effect other _
  cases effect with
  | trackerEvent origin message => exact absurd rfl (other origin message)
  | _ => rfl

theorem sentTo_visible (outside : ¬ U session) (log : List Effect) :
    sentTo (rank U session) (log.filterMap (visible U)) = sentTo session log := by
  unfold sentTo
  rw [List.filterMap_filterMap]
  refine List.filterMap_congr fun effect _ => ?_
  cases effect with
  | send id data =>
      simp only [visible]
      by_cases inside : U id
      · have differs : id ≠ session := fun same => outside (same ▸ inside)
        simp [inside, differs]
      · by_cases same : id = session
        · simp [same, outside]
        · simp [inside, same, rank_ne inside outside same]
  | trackerEvent _ _ => rfl
  | deviceCommand _ => rfl
  | _ =>
      simp only [visible]
      split <;> rfl

theorem Twin.indistinguishable (twin : Twin U a b) : Indistinguishable U a b := by
  have log := twin.receiver.shared.log
  refine ⟨?_, twin.transmitter, fun id outside => ?_, twin.receiver.shared.authorized,
    fun id inside => (twin.receiver.shared.unsent id inside).2⟩
  · rw [log, trackerEvents_visible]
  · rw [log, sentTo_visible outside]

/-- A session presents the configured IMEI if its stream holds the logon frame. -/
def Presents (env : DeviceEnv) (session : SessionId) (es : List Event) : Prop :=
  logonFrame env ∈ (cut ';' (stream session es).strip).1

instance (env : DeviceEnv) (session : SessionId) (es : List Event) :
    Decidable (Presents env session es) :=
  inferInstanceAs (Decidable (_ ∈ _))

theorem presents_mono {front : List Event} (isPrefix : front <+: es)
    (presents : Presents env session front) : Presents env session es := by
  obtain ⟨later, rfl⟩ := isPrefix
  unfold Presents stream at presents ⊢
  rw [List.flatMap_append, Str.strip_append, cut_append]
  exact List.mem_append_left _ presents

/-- The sessions of a set none of which presents the configured IMEI might as well not be
there: at every point of every run, and they are never sent anything. -/
theorem silent_sessions_isolated (U : SessionId → Prop) [DecidablePred U]
    (silent : ∀ session, U session → ¬ Presents env session es) {front : List Event}
    (isPrefix : front <+: es) (run : Run (step env settings) {} front a) :
    ∃ b, Run (step env settings) {} (remaining U 0 front) b ∧ Indistinguishable U a b := by
  have quiet : Quiet U env ({} : Relay).receiver fun session => stream session front := by
    refine ⟨fun _ _ _ => nofun, fun session inside _ presents => ?_⟩
    exact silent session inside (presents_mono isPrefix presents)
  obtain ⟨b, run', twin⟩ := twin_run run twin_init quiet
  exact ⟨b, run', twin.indistinguishable⟩

/-- A foreign tracker beside the configured one. -/
def intruderRun : List Event :=
  [.receiver .accept, .receiver .accept,
    .receiver (.read 0 "##,imei:543210987654321,A;".toList false),
    .receiver (.read 1 sampleStream false), .data "LOAD".toList]

theorem silent_sessions_isolated_intruder :
    ∃ a b, Run (step sampleEnv {}) {} intruderRun a ∧
      Run (step sampleEnv {}) {} (remaining (· = 0) 0 intruderRun) b ∧
      Indistinguishable (· = 0) a b := by
  have exists_run : ∃ a, Run (step sampleEnv {}) {} intruderRun a := ⟨_, .of_foldlM rfl⟩
  obtain ⟨a, run⟩ := exists_run
  have silent : ∀ session, session = 0 → ¬ Presents sampleEnv session intruderRun := by
    rintro session rfl
    decide
  obtain ⟨b, run', same⟩ := silent_sessions_isolated (· = 0) silent (List.prefix_refl _) run
  exact ⟨a, b, run, run', same⟩

end Relay

end GpsInformer
