import Mathlib.Data.Nat.Count
import GpsInformer.DeviceScan

/-!
# Leaving sessions out

A receiver beside one that has never seen the sessions of a set `U`: the other sessions
are numbered anew, in their order (`rank`), and what concerns a session of `U` is not in
the log (`visible`).  `Mirrors` ties the two, and every function of `Device` keeps it on a
session outside `U`, since it gets to the shared state only through its own session, the
clock and `_authorizedSession`.
-/

namespace GpsInformer

open Lib Function

/-- The number of a session when those of `U` are left out. -/
def rank (U : SessionId → Prop) [DecidablePred U] (id : SessionId) : SessionId :=
  Nat.count (fun i => ¬ U i) id

/-- What is left of an effect when the sessions of `U` are left out. -/
def visible (U : SessionId → Prop) [DecidablePred U] : Effect → Option Effect
  | .trackerEvent origin m => some (.trackerEvent origin m)
  | .deviceCommand arguments => some (.deviceCommand arguments)
  | .send id data => if U id then none else some (.send (rank U id) data)
  | .asyncWrite id data => if U id then none else some (.asyncWrite (rank U id) data)
  | .close id => if U id then none else some (.close (rank U id))
  | .hangUp id => if U id then none else some (.hangUp (rank U id))
  | .construct id => if U id then none else some (.construct (rank U id))
  | .destroy id => if U id then none else some (.destroy (rank U id))

/-- The strings sent to a session. -/
def sentTo (session : SessionId) (log : List Effect) : List Str :=
  log.filterMap fun
    | .send id data => if id = session then some data else none
    | _ => none

/-- `q` is `s` without the sessions of `U`, none of which is the authorized one or has been
sent anything. -/
structure Mirrors (U : SessionId → Prop) [DecidablePred U] (s q : Shared) : Prop where
  sessions : ∀ id, ¬ U id → q.sessions (rank U id) = s.sessions id
  created : q.created = rank U s.created
  authorized : q.authorizedSession = s.authorizedSession.map (rank U)
  outside : ∀ id, s.authorizedSession = some id → ¬ U id
  ticks : q.ticks = s.ticks
  log : q.log = s.log.filterMap (visible U)
  unsent : ∀ id, U id → (s.sessions id).writes = 0 ∧ sentTo id s.log = []

variable {U : SessionId → Prop} [DecidablePred U] {env : DeviceEnv} {session : SessionId}
  {s t q p : Shared}

theorem rank_injective {i j : SessionId} (outside : ¬ U i) (outside' : ¬ U j)
    (same : rank U i = rank U j) : i = j :=
  Nat.count_injective outside outside' same

theorem rank_succ_of_outside {n : Nat} (outside : ¬ U n) : rank U (n + 1) = rank U n + 1 :=
  Nat.count_succ_eq_succ_count outside

theorem rank_succ_of_mem {n : Nat} (inside : U n) : rank U (n + 1) = rank U n :=
  Nat.count_succ_eq_count (not_not.mpr inside)

theorem sentTo_concat_of_other {log : List Effect} {e : Effect}
    (other : ∀ data, e ≠ .send session data) :
    sentTo session (log ++ [e]) = sentTo session log := by
  unfold sentTo
  rw [List.filterMap_append]
  cases e with
  | send id data =>
      have differs : id ≠ session := by
        rintro rfl
        exact other data rfl
      simp [differs]
  | _ => simp

namespace Mirrors

theorem owner_iff (mirrors : Mirrors U s q) (outside : ¬ U session) :
    q.authorizedSession = some (rank U session) ↔ s.authorizedSession = some session := by
  rw [mirrors.authorized]
  constructor
  · intro owner
    obtain ⟨id, authorized, same⟩ := Option.map_eq_some_iff.mp owner
    rw [authorized, rank_injective (mirrors.outside id authorized) outside same]
  · intro owner
    rw [owner]
    rfl

theorem record (mirrors : Mirrors U s q) {e e' : Effect} (seen : visible U e = some e') :
    Mirrors U (s.record e) (q.record e') := by
  refine { mirrors with log := ?_, unsent := fun id inside => ⟨(mirrors.unsent id inside).1, ?_⟩ }
  · rw [Shared.log_record, Shared.log_record, List.filterMap_append, mirrors.log]
    simp [seen]
  · rw [Shared.log_record, sentTo_concat_of_other, (mirrors.unsent id inside).2]
    rintro data rfl
    cases (if_pos inside).symm.trans seen

/-- An effect on a session of `U` is not seen. -/
theorem record_hidden (mirrors : Mirrors U s q) {e : Effect} (hidden : visible U e = none)
    (unsent : ∀ id data, e ≠ .send id data) : Mirrors U (s.record e) q := by
  refine { mirrors with log := ?_, unsent := fun id inside => ⟨(mirrors.unsent id inside).1, ?_⟩ }
  · rw [Shared.log_record, List.filterMap_append, mirrors.log]
    simp [hidden]
  · rw [Shared.log_record, sentTo_concat_of_other (unsent id), (mirrors.unsent id inside).2]

theorem universalTime (mirrors : Mirrors U s q) :
    Mirrors U (s.universalTime env).2 (q.universalTime env).2 :=
  { mirrors with ticks := congrArg (· + 1) mirrors.ticks }

theorem time (mirrors : Mirrors U s q) :
    (q.universalTime env).1 = (s.universalTime env).1 :=
  congrArg env.clock mirrors.ticks

theorem modifySession (mirrors : Mirrors U s q) (outside : ¬ U session)
    (f : TcpSession → TcpSession) :
    Mirrors U (s.modifySession session f) (q.modifySession (rank U session) f) := by
  refine
    { mirrors with
      sessions := ?_
      unsent := fun id inside => ⟨?_, (mirrors.unsent id inside).2⟩ }
  · intro id outside'
    unfold Shared.modifySession
    dsimp only
    by_cases same : id = session
    · rw [same, update_self, update_self, mirrors.sessions session outside]
    · rw [update_of_ne same, update_of_ne fun eq => same (rank_injective outside' outside eq)]
      exact mirrors.sessions id outside'
  · have differs : id ≠ session := fun same => outside (same ▸ inside)
    rw [Receiver.modifySession_of_ne differs]
    exact (mirrors.unsent id inside).1

/-- A change of a session of `U` is not seen. -/
theorem modifySession_hidden (mirrors : Mirrors U s q) (inside : U session)
    {f : TcpSession → TcpSession} (idle : ∀ t, (f t).writes = t.writes) :
    Mirrors U (s.modifySession session f) q := by
  refine
    { mirrors with
      sessions := ?_
      unsent := fun id inside' => ⟨?_, (mirrors.unsent id inside').2⟩ }
  · intro id outside
    have differs : id ≠ session := fun same => outside (same ▸ inside)
    exact (mirrors.sessions id outside).trans (update_of_ne differs _ _).symm
  · by_cases same : id = session
    · rw [same, Receiver.modifySession_self, idle]
      exact (mirrors.unsent session inside).1
    · rw [Receiver.modifySession_of_ne same]
      exact (mirrors.unsent id inside').1

theorem write (mirrors : Mirrors U s q) (outside : ¬ U session) :
    Mirrors U (s.write session) (q.write (rank U session)) := by
  unfold Shared.write
  rw [mirrors.sessions session outside]
  exact (mirrors.modifySession outside _).record (if_neg outside)

theorem send (mirrors : Mirrors U s q) (outside : ¬ U session) (data : Str) :
    Mirrors U (s.send session data) (q.send (rank U session) data) := by
  unfold Shared.send
  rw [mirrors.sessions session outside]
  dsimp only
  have queued := (mirrors.modifySession outside fun t =>
    { t with writeQueue := t.writeQueue ++ [data] }).record
      (e := .send session data) (if_neg outside)
  split
  · exact mirrors
  · split
    · exact queued.write outside
    · exact queued

theorem authorize (mirrors : Mirrors U s q) (outside : ¬ U session) :
    Mirrors U { s with authorizedSession := some session }
      { q with authorizedSession := some (rank U session) } := by
  refine { mirrors with authorized := rfl, outside := ?_ }
  intro id same
  cases same
  exact outside

theorem destroyDevice (mirrors : Mirrors U s q) (outside : ¬ U session) (d : Device) :
    Mirrors U (s.destroyDevice env session d) (q.destroyDevice env (rank U session) d) := by
  have owner := mirrors.owner_iff outside
  by_cases authorized : s.authorizedSession = some session
  · rw [Shared.destroyDevice_of_owner authorized,
      Shared.destroyDevice_of_owner (owner.mpr authorized)]
    refine ⟨mirrors.sessions, mirrors.created, rfl, fun _ => nofun, ?_, ?_, fun id inside => ?_⟩
    · exact congrArg (· + 1) mirrors.ticks
    · dsimp only
      rw [List.filterMap_append, mirrors.log, mirrors.ticks]
      simp [visible, outside]
    · refine ⟨(mirrors.unsent id inside).1, ?_⟩
      dsimp only
      rw [List.append_cons, sentTo_concat_of_other (by simp), sentTo_concat_of_other (by simp),
        (mirrors.unsent id inside).2]
  · rw [Shared.destroyDevice_of_ne authorized,
      Shared.destroyDevice_of_ne fun taken => authorized (owner.mp taken)]
    exact mirrors.record (if_neg outside)

theorem cleanup (mirrors : Mirrors U s q) (outside : ¬ U session) :
    Mirrors U (s.cleanup session) (q.cleanup (rank U session)) :=
  mirrors.modifySession outside _

end Mirrors

namespace Device

/-- Two runs of a function: both succeed with related results, or both raise the same. -/
def Parallel {α β : Type} (R : α → β → Prop) : Except Fault α → Except Fault β → Prop
  | .ok a, .ok b => R a b
  | .error e, .error e' => e = e'
  | _, _ => False

theorem parallel_bind {α β γ : Type} {R : α → β → Prop} (x : Except Fault γ)
    {f : γ → Except Fault α} {g : γ → Except Fault β} (both : ∀ c, Parallel R (f c) (g c)) :
    Parallel R (x >>= f) (x >>= g) := by
  cases x with
  | error e => rfl
  | ok c => exact both c

theorem parallel_commandGpsData (mirrors : Mirrors U s q) (arguments : List Str) :
    Parallel (Mirrors U) (commandGpsData env arguments s) (commandGpsData env arguments q) := by
  have ticked : Mirrors U (s.universalTime env).2 (q.universalTime env).2 := mirrors.universalTime
  have time : (q.universalTime env).1 = (s.universalTime env).1 := mirrors.time
  unfold commandGpsData
  refine parallel_bind _ fun imei => ?_
  split
  · exact mirrors
  · refine parallel_bind _ fun keyword => parallel_bind _ fun phone => ?_
    refine parallel_bind _ fun text => parallel_bind _ fun trackerTime => ?_
    dsimp only
    rw [time]
    refine parallel_bind _ fun valid => ?_
    split
    · refine parallel_bind _ fun found => ?_
      cases found with
      | none => exact ticked
      | some message => exact ticked.record rfl
    · exact ticked.record rfl

/-- `commandLogon` looks at the shared state only to send its answer, which it does when
the frame names the configured IMEI. -/
theorem commandLogon_cases (env : DeviceEnv) (arguments : List Str) (imei : Str) :
    (∃ imei' result, ∀ session s,
      commandLogon env session arguments imei s = (imei', s, result)) ∨
    (∃ mark, arguments = [mark, imeiMark ++ env.imei, ['A']]) ∧
      ∀ session s, commandLogon env session arguments imei s =
        (env.imei, (({ s with authorizedSession := some session }.universalTime env).2.record
          (.trackerEvent .logon { imei := env.imei, keyword := "connect".toList,
                                  hostTime := some (env.clock s.ticks) })).send session
          ['L', 'O', 'A', 'D'], true) := by
  rcases arguments with _ | ⟨mark, _ | ⟨name, _ | ⟨flag, _ | ⟨more, rest⟩⟩⟩⟩
  · exact Or.inl ⟨imei, false, fun _ _ => rfl⟩
  · exact Or.inl ⟨imei, false, fun _ _ => rfl⟩
  · exact Or.inl ⟨imei, false, fun _ _ => rfl⟩
  · unfold commandLogon
    dsimp only
    by_cases flagged : flag ≠ ['A']
    · exact Or.inl ⟨imei, false, fun _ _ => if_pos flagged⟩
    · simp only [if_neg flagged]
      by_cases named : name.length ≠ 20 ∨ name.find imeiMark ≠ some 0
      · exact Or.inl ⟨[], false, fun _ _ => if_pos named⟩
      · simp only [if_neg named]
        by_cases configured : name.drop 5 = env.imei
        · rw [not_or, not_not, not_not, Str.find_eq_zero_iff] at named
          obtain ⟨rest, rfl⟩ := named.2
          have rest_eq : rest = env.imei := configured
          obtain rfl := not_not.mp flagged
          refine Or.inr ⟨⟨mark, by rw [rest_eq]⟩, fun _ _ => ?_⟩
          rw [if_pos configured, configured]
          rfl
        · exact Or.inl ⟨name.drop 5, true, fun _ _ => if_neg configured⟩
  · exact Or.inl ⟨imei, false, fun _ _ => rfl⟩

/-- The verdicts of the two receivers on a frame. -/
def Verdict.Mirrors (U : SessionId → Prop) [DecidablePred U] : Verdict → Verdict → Prop
  | .goOn imei s, .goOn imei' q | .close imei s, .close imei' q =>
      imei' = imei ∧ GpsInformer.Mirrors U s q
  | .fault f s, .fault f' q => f' = f ∧ GpsInformer.Mirrors U s q
  | _, _ => False

/-- The end of `processCommand`. -/
theorem mirrors_verdict (mirrors : Mirrors U s q) (outside : ¬ U session) (imei : Str)
    (result transmit : Bool) (arguments : List Str) :
    Verdict.Mirrors U
      (if !result ∨ imei.length = 0 ∨ s.authorizedSession ≠ some session then .close imei s
        else .goOn imei (if transmit then s.record (.deviceCommand arguments) else s))
      (if !result ∨ imei.length = 0 ∨ q.authorizedSession ≠ some (rank U session) then
          .close imei q
        else .goOn imei (if transmit then q.record (.deviceCommand arguments) else q)) := by
  have owner := mirrors.owner_iff outside
  have same : (!result ∨ imei.length = 0 ∨ q.authorizedSession ≠ some (rank U session)) ↔
      (!result ∨ imei.length = 0 ∨ s.authorizedSession ≠ some session) := by
    rw [ne_eq, ne_eq, owner]
  by_cases closes : !result ∨ imei.length = 0 ∨ s.authorizedSession ≠ some session
  · rw [if_pos closes, if_pos (same.mpr closes)]
    exact ⟨rfl, mirrors⟩
  · rw [if_neg closes, if_neg fun closes' => closes (same.mp closes')]
    refine ⟨rfl, ?_⟩
    split
    · exact mirrors.record rfl
    · exact mirrors

theorem mirrors_processCommand (mirrors : Mirrors U s q) (outside : ¬ U session)
    (command imei : Str) :
    Verdict.Mirrors U (processCommand env session command imei s)
      (processCommand env (rank U session) command imei q) := by
  have owner := mirrors.owner_iff outside
  by_cases skip : (split command).headD [] = []
  · rw [processCommand_of_skip skip, processCommand_of_skip skip]
    exact ⟨rfl, mirrors⟩
  rw [processCommand_of_first skip, processCommand_of_first skip]
  by_cases logon : (split command).headD [] = logonMark
  · rw [dispatch_logon logon, dispatch_logon logon]
    rcases commandLogon_cases env (split command) imei with
      ⟨imei', result, same⟩ | ⟨_, granted⟩
    · rw [same, same]
      exact mirrors_verdict mirrors outside imei' result false _
    · rw [granted, granted]
      refine mirrors_verdict (.send ?_ outside _) outside env.imei true false _
      have authorized : Mirrors U ({ s with authorizedSession := some session }.universalTime env).2
          ({ q with authorizedSession := some (rank U session) }.universalTime env).2 :=
        (mirrors.authorize outside).universalTime
      have time : env.clock q.ticks = env.clock s.ticks := congrArg env.clock mirrors.ticks
      rw [time]
      refine authorized.record ?_
      rfl
  by_cases known : imei ≠ [] ∧ s.authorizedSession = some session
  · rw [dispatch_data logon known, dispatch_data logon ⟨known.1, owner.mpr known.2⟩]
    by_cases single : (split command).length = 1
    · rw [if_pos single, if_pos single]
      by_cases differs : (split command).headD [] ≠ imei
      · rw [if_pos differs, if_pos differs]
        exact mirrors_verdict mirrors outside imei false false _
      · rw [if_neg differs, if_neg differs]
        exact mirrors_verdict (mirrors.send outside _) outside imei true false _
    · rw [if_neg single, if_neg single]
      by_cases size : (split command).length = 6 ∨ (split command).length > 11
      · rw [if_pos size, if_pos size]
        have parallel : Parallel (Mirrors U) (commandGpsData env (split command) s)
          (commandGpsData env (split command) q) := parallel_commandGpsData mirrors _
        generalize commandGpsData env (split command) s = outcome at parallel ⊢
        generalize commandGpsData env (split command) q = outcome' at parallel ⊢
        rcases outcome with fault | s' <;> rcases outcome' with fault' | q'
        · exact ⟨parallel.symm, mirrors⟩
        · exact parallel.elim
        · exact parallel.elim
        · exact mirrors_verdict parallel outside imei true true _
      · rw [if_neg size, if_neg size]
        exact mirrors_verdict mirrors outside imei true true _
  · rw [dispatch_closed logon known,
      dispatch_closed logon fun taken => known ⟨taken.1, owner.mp taken.2⟩]
    exact mirrors_verdict mirrors outside imei true true _

theorem mirrors_interpret (mirrors : Mirrors U s q) (outside : ¬ U session) (commands : List Str)
    (imei : Str) :
    Verdict.Mirrors U (interpret env session commands imei s)
      (interpret env (rank U session) commands imei q) := by
  induction commands generalizing imei s q with
  | nil => exact ⟨rfl, mirrors⟩
  | cons command rest ih =>
      have first : Verdict.Mirrors U (processCommand env session command imei s)
          (processCommand env (rank U session) command imei q) :=
        mirrors_processCommand mirrors outside command imei
      rw [interpret, interpret]
      generalize processCommand env session command imei s = verdict at first ⊢
      generalize processCommand env (rank U session) command imei q = verdict' at first ⊢
      cases verdict with
      | goOn imei' t =>
          cases verdict' with
          | goOn imei'' p =>
              obtain ⟨rfl, next⟩ := first
              exact ih next _
          | close _ _ => exact first.elim
          | fault _ _ => exact first.elim
      | close imei' t =>
          cases verdict' with
          | goOn _ _ => exact first.elim
          | close imei'' p => exact first
          | fault _ _ => exact first.elim
      | fault f t =>
          cases verdict' with
          | goOn _ _ => exact first.elim
          | close _ _ => exact first.elim
          | fault f' p => exact first

/-! ## A session that does not present the configured IMEI -/

/-- The logon frame of the configured tracker. -/
def logonFrame (env : DeviceEnv) : Str :=
  logonMark ++ ',' :: imeiMark ++ env.imei ++ [',', 'A']

theorem splitOn_inj {command : Str} {a b c : Str} (fields : split command = [a, b, c]) :
    command = a ++ ',' :: b ++ ',' :: c := by
  have joined : [','].intercalate (split command) = command := by
    unfold split
    rw [List.intercalate_splitOn]
  rw [← joined, fields]
  simp [List.intercalate]

/-- A frame that is not the logon of the configured tracker does nothing on a session that
is not authorized, or closes it. -/
theorem processCommand_unauthorized {command imei : Str}
    (other : s.authorizedSession ≠ some session) (silent : command ≠ logonFrame env) :
    processCommand env session command imei s = .goOn imei s ∨
      ∃ imei', processCommand env session command imei s = .close imei' s := by
  by_cases skip : (split command).headD [] = []
  · exact Or.inl (processCommand_of_skip skip)
  rw [processCommand_of_first skip]
  by_cases logon : (split command).headD [] = logonMark
  · rw [dispatch_logon logon]
    rcases commandLogon_cases env (split command) imei with
      ⟨imei', result, same⟩ | ⟨⟨mark, fields⟩, _⟩
    · rw [same]
      exact Or.inr ⟨imei', if_pos (Or.inr (Or.inr other))⟩
    · -- only the logon of the configured tracker would authorize the session
      obtain rfl : mark = logonMark := by rwa [fields] at logon
      exact absurd ((splitOn_inj fields).trans (by simp [logonFrame])) silent
  · rw [dispatch_closed logon fun known => other known.2]
    exact Or.inr ⟨imei, if_pos (Or.inr (Or.inr other))⟩

theorem interpret_unauthorized {commands : List Str} {imei : Str}
    (other : s.authorizedSession ≠ some session) (silent : logonFrame env ∉ commands) :
    interpret env session commands imei s = .goOn imei s ∨
      ∃ imei', interpret env session commands imei s = .close imei' s := by
  induction commands with
  | nil => exact Or.inl rfl
  | cons command rest ih =>
      rw [List.mem_cons, not_or] at silent
      rw [interpret]
      have first : processCommand env session command imei s = .goOn imei s ∨
          ∃ imei', processCommand env session command imei s = .close imei' s :=
        processCommand_unauthorized other (Ne.symm silent.1)
      rcases first with same | ⟨imei', closed⟩
      · rw [same]
        exact ih silent.2
      · rw [closed]
        exact Or.inr ⟨imei', rfl⟩

end Device

namespace Receiver

open Device

variable {r r' r'' t' : Receiver} {d : Device}

/-- `q` is the receiver `r` without the sessions of `U`. -/
structure Reflects (U : SessionId → Prop) [DecidablePred U] (r q : Receiver) : Prop where
  shared : Mirrors U r.shared q.shared
  devices : ∀ id, ¬ U id → q.devices (rank U id) = r.devices id
  sound : Sound r
  sound' : Sound q

end Receiver

end GpsInformer
