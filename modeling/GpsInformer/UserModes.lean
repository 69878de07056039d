import GpsInformer.GpsRecipients
import GpsInformer.SettingsTable

/-!
# The modes of the users

`_userSettings` and the settings table as maps from the ids of users to their statuses.
Each `/arm` or `/disarm` command changes the map at the id of its sender, and the table is
what a process that starts reads back (`modes_survive`).
-/

namespace GpsInformer.Application

open Lib Function

open TgBot (Message)

variable {env : AppEnv} {a b : Application} {userId : Int} {status : Nat}
  {rows rows' : List UserSettings}

/-- The statuses the rows give. -/
def modes (rows : List UserSettings) (id : Int) : Nat :=
  ((rows.find? fun row => row.id = id).map UserSettings.status).getD UserSettings.default

theorem modes_cons (row : UserSettings) (rows : List UserSettings) :
    modes (row :: rows) = update (modes rows) row.id row.status := by
  funext id
  by_cases same : row.id = id
  · rw [← same, update_self]
    simp [modes]
  · rw [update_of_ne (Ne.symm same)]
    simp [modes, same]

theorem modes_of_absent (absent : userId ∉ rows.map UserSettings.id) :
    modes rows userId = UserSettings.default := by
  have none' : rows.find? (fun row => row.id = userId) = none := by
    refine List.find?_eq_none.mpr fun row member same => absent ?_
    rw [← of_decide_eq_true same]
    exact List.mem_map_of_mem member
  unfold modes
  rw [none']
  rfl

/-- A new row does not change what the rows give the others. -/
theorem modes_append (absent : userId ∉ rows.map UserSettings.id) :
    modes (rows ++ [⟨userId, status⟩]) = update (modes rows) userId status := by
  induction rows with
  | nil => exact modes_cons ⟨userId, status⟩ []
  | cons row rows ih =>
      obtain ⟨other, later⟩ := not_or.mp (List.mem_cons.not.mp absent)
      rw [List.cons_append, modes_cons, ih later, modes_cons, update_comm other]

theorem modes_setStatus (found : setStatus userId status rows = some rows') :
    modes rows' = update (modes rows) userId status := by
  induction rows generalizing rows' with
  | nil => cases found
  | cons row rows ih =>
      unfold setStatus at found
      split at found
      · rename_i same
        cases found
        rw [modes_cons, modes_cons, ← same, update_idem]
      · rename_i other
        obtain ⟨rest, found', rfl⟩ := Option.map_eq_some_iff.mp found
        rw [modes_cons, ih found', modes_cons, update_comm (Ne.symm other)]

theorem setStatus_eq_none :
    setStatus userId status rows = none ↔ userId ∉ rows.map UserSettings.id := by
  induction rows with
  | nil => exact iff_of_true rfl List.not_mem_nil
  | cons row rows ih =>
      unfold setStatus
      rw [List.map_cons, List.mem_cons, not_or]
      by_cases same : row.id = userId
      · rw [if_pos same]
        exact iff_of_false (Option.some_ne_none _) fun absent => absent.1 same.symm
      · rw [if_neg same, Option.map_eq_none_iff, ih]
        exact ⟨fun absent => ⟨Ne.symm same, absent⟩, And.right⟩

/-- What `handleArmCommand` makes of the settings. -/
theorem settings_arm (unique : (rows.map UserSettings.id).Nodup) :
    let armed := (setStatus userId status rows).getD (rows ++ [⟨userId, status⟩])
    (armed.map UserSettings.id).Nodup ∧ modes armed = update (modes rows) userId status := by
  cases found : setStatus userId status rows with
  | some rows' =>
      refine ⟨?_, modes_setStatus found⟩
      rw [Option.getD_some, setStatus_id found]
      exact unique
  | none =>
      have absent := setStatus_eq_none.mp found
      refine ⟨?_, modes_append absent⟩
      rw [Option.getD_none, List.map_append]
      exact List.nodup_append.mpr ⟨unique, List.nodup_singleton _,
        fun id member other single same =>
        absent (by
          rw [same, List.mem_singleton.mp single] at member
          exact member)⟩

/-- What `handleDisarmCommand` makes of the settings. -/
theorem settings_disarm (unique : (rows.map UserSettings.id).Nodup) :
    let disarmed := (setStatus userId UserSettings.default rows).getD rows
    (disarmed.map UserSettings.id).Nodup ∧
      modes disarmed = update (modes rows) userId UserSettings.default := by
  cases found : setStatus userId UserSettings.default rows with
  | some rows' =>
      refine ⟨?_, modes_setStatus found⟩
      rw [Option.getD_some, setStatus_id found]
      exact unique
  | none =>
      refine ⟨unique, ?_⟩
      have absent := modes_of_absent (setStatus_eq_none.mp found)
      rw [Option.getD_none, ← absent, update_eq_self]

/-! ## Saving -/

/-- Settings without two rows of one id are saved whole. -/
theorem dbSaveSettings_saves (reliable : Reliable env)
    (unique : (a.userSettings.map UserSettings.id).Nodup) :
    Query (· = a) (dbSaveSettings env) fun result b =>
      result = some () ∧ WritesSettings a a.userSettings b := by
  refine (dbSaveSettings_leaves env a).weaken fun result b outcome => ?_
  rcases outcome with ⟨done, _, _, written⟩ | ⟨_, fails, _⟩ |
    ⟨_, _, front, row, back, split, unsaved, _⟩
  · exact ⟨done, written⟩
  · cases (reliable _).symm.trans fails
  · rcases unsaved with ⟨k, _, fails⟩ | taken
    · cases (reliable _).symm.trans fails
    · rw [split, List.map_append, List.map_cons] at unique
      exact absurd rfl ((List.nodup_append.mp unique).2.2 _ taken _ List.mem_cons_self)

/-- `_userSettings` and the table hold these rows. -/
structure Holds (rows : List UserSettings) (a : Application) : Prop where
  settings : a.userSettings = rows
  table : a.database.settings = rows

theorem holds_telegram (call : TelegramCall) :
    Triple (Holds rows) (telegram call) fun _ => Holds rows :=
  Triple.of_modify fun _ holds => ⟨holds.settings, holds.table⟩

theorem holds_saveSettings (reliable : Reliable env) (unique : (rows.map UserSettings.id).Nodup)
    (id : Int) :
    Triple (fun a => a.userSettings = rows) (saveSettings env id) fun _ => Holds rows := by
  have saves : Triple (fun a => a.userSettings = rows) (sql (dbSaveSettings env))
      fun _ => Holds rows := by
    refine triple_sql (Query.of_forall fun a settings => ?_)
    cases settings
    refine (dbSaveSettings_saves reliable unique).weaken fun _ b outcome => ?_
    obtain ⟨_, _, rfl⟩ := outcome
    exact ⟨rfl, rfl⟩
  refine saves.bind fun saved => ?_
  split
  · exact holds_telegram _
  · exact Triple.of_pure fun _ holds => holds

/-- The end of both commands. -/
theorem holds_stored (reliable : Reliable env) (unique : (rows.map UserSettings.id).Nodup)
    (a : Application) (call : TelegramCall) (id : Int) :
    Triple (· = a)
      (do
        set { a with userSettings := rows }
        telegram call
        saveSettings env id)
      fun _ => Holds rows := by
  have sets : Triple (· = a) (set { a with userSettings := rows } : App Unit)
      fun _ b => b.userSettings = rows := Triple.of_set fun _ _ => rfl
  have tells : Triple (fun b => b.userSettings = rows) (telegram call)
      fun _ b => b.userSettings = rows := Triple.of_modify fun _ same => same
  exact sets.bind fun _ => tells.bind fun _ => holds_saveSettings reliable unique id

/-! ## The commands -/

/-- The sender of a command and the status it gives him. -/
def ordered (command : List Str) (message : Message) : Option (Int × Nat) :=
  match message.from, requestedStatus command with
  | some sender, some status => some (sender.id, status)
  | _, _ => none

theorem handleArmCommand_run (reliable : Reliable env) (command : List Str) (message : Message)
    (unique : (rows.map UserSettings.id).Nodup) :
    Triple (Holds rows) (handleArmCommand env command message) fun _ b =>
      ∃ armed : List UserSettings, Holds armed b ∧ (armed.map UserSettings.id).Nodup ∧
        modes armed = match ordered command message with
          | some (id, status) => update (modes rows) id status
          | none => modes rows := by
  unfold handleArmCommand ordered
  cases sender : message.from with
  | none =>
      intro a _ _ _ returned
      cases returned
  | some tg =>
      refine (triple_deref tg).bind fun user => Triple.of_fact fun same => ?_
      cases same
      cases requestedStatus command with
      | none => exact (holds_telegram _).weaken fun _ b holds => ⟨rows, holds, unique, rfl⟩
      | some status =>
          refine Triple.get_bind fun a holds => ?_
          obtain ⟨unique', changed⟩ := @settings_arm tg.id status _ unique
          cases holds.settings
          exact (holds_stored reliable unique' a _ _).weaken fun _ b holds' =>
            ⟨_, holds', unique', changed⟩

theorem handleDisarmCommand_run (reliable : Reliable env) (message : Message)
    (unique : (rows.map UserSettings.id).Nodup) :
    Triple (Holds rows) (handleDisarmCommand env message) fun _ b =>
      ∃ disarmed : List UserSettings, Holds disarmed b ∧ (disarmed.map UserSettings.id).Nodup ∧
        modes disarmed = match message.from with
          | some sender => update (modes rows) sender.id UserSettings.default
          | none => modes rows := by
  unfold handleDisarmCommand
  cases sender : message.from with
  | none =>
      intro a _ _ _ returned
      cases returned
  | some tg =>
      refine (triple_deref tg).bind fun user => Triple.of_fact fun same => ?_
      cases same
      refine Triple.get_bind fun a holds => ?_
      obtain ⟨unique', changed⟩ := @settings_disarm tg.id _ unique
      cases holds.settings
      cases found : setStatus tg.id UserSettings.default a.userSettings with
      | some disarmed =>
          rw [found] at unique' changed
          exact (holds_stored reliable unique' a _ _).weaken fun _ b holds' =>
            ⟨_, holds', unique', changed⟩
      | none =>
          rw [found] at unique' changed
          have sets : Triple (· = a) (set a : App Unit) fun _ => Holds a.userSettings :=
            Triple.of_set fun _ _ => holds
          exact sets.bind fun _ => (holds_telegram _).bind fun _ => Triple.of_pure fun b holds' =>
            ⟨_, holds', unique', changed⟩

/-! ## Runs -/

inductive ModeEvent where
  | arm (command : List Str) (message : Message)
  | disarm (message : Message)
  /-- the process ends and another one starts, which finds the rows in this order -/
  | restart (rows : List UserSettings)

def modeStep (env : AppEnv) (a : Application) : ModeEvent → Option Application
  | .arm command message =>
      (reaction (handleArmCommand env command message) a).toOption.map Prod.fst
  | .disarm message => (reaction (handleDisarmCommand env message) a).toOption.map Prod.fst
  | .restart rows => restart env rows a

/-- Whose status the event sets, and to what. -/
def ModeEvent.sets : ModeEvent → Option (Int × Nat)
  | .arm command message => ordered command message
  | .disarm message => message.from.map fun sender => (sender.id, UserSettings.default)
  | .restart _ => none

/-- The status an id has after the event. -/
def ModeEvent.next (id : Int) (status : Nat) (e : ModeEvent) : Nat :=
  match e.sets with
  | some (sender, new) => if id = sender then new else status
  | none => status

/-- The status that the last well-formed command of an id sets. -/
def lastStatus (events : List ModeEvent) (id : Int) : Nat :=
  events.foldl (ModeEvent.next id) UserSettings.default

/-- What a handler leaves. -/
theorem reaction_run {handler : App Unit} {post : Application → Prop}
    (triple : Triple (Holds rows) handler fun _ => post) (holds : Holds rows a)
    (outbox : ∀ s, post s → post { s with outbox := [] })
    (taken : (reaction handler a).toOption.map Prod.fst = some b) : post b := by
  obtain ⟨result, returned, rfl⟩ := Option.map_eq_some_iff.mp taken
  unfold reaction at returned
  cases ran : handler.run { a with outbox := [] } with
  | error e =>
      rw [ran] at returned
      cases returned
  | ok result =>
      obtain ⟨⟨⟩, s⟩ := result
      rw [ran] at returned
      cases returned
      exact outbox s (triple { a with outbox := [] } ⟨holds.settings, holds.table⟩ () s ran)

/-- Between two events `_userSettings` and the table hold the same rows, one for an id, with
these statuses. -/
def Agree (status : Int → Nat) (a : Application) : Prop :=
  ∃ rows, Holds rows a ∧ (rows.map UserSettings.id).Nodup ∧ modes rows = status

theorem modes_perm (perm : rows'.Perm rows) (unique : (rows.map UserSettings.id).Nodup) :
    modes rows' = modes rows := by
  induction perm with
  | nil => rfl
  | cons row _ ih =>
      rw [modes_cons, modes_cons, ih (List.nodup_cons.mp unique).2]
  | swap row row' rows =>
      have other : row'.id ≠ row.id := fun same =>
        (List.nodup_cons.mp unique).1 (by simp [same])
      rw [modes_cons, modes_cons, modes_cons, modes_cons, update_comm other]
  | trans first second ih ih' =>
      exact (ih ((second.map UserSettings.id).nodup_iff.mpr unique)).trans (ih' unique)

theorem Agree.step (reliable : Reliable env) {status : Int → Nat} (agree : Agree status a)
    {e : ModeEvent} (taken : modeStep env a e = some b) :
    Agree (fun id => e.next id (status id)) b := by
  obtain ⟨rows, holds, unique, rfl⟩ := agree
  cases e with
  | arm command message =>
      obtain ⟨armed, holds', unique', changed⟩ := reaction_run
        (handleArmCommand_run reliable command message unique) holds
        (fun s outcome => by
          obtain ⟨armed, holds', rest⟩ := outcome
          exact ⟨armed, ⟨holds'.settings, holds'.table⟩, rest⟩) taken
      refine ⟨armed, holds', unique', ?_⟩
      rw [changed]
      funext id
      unfold ModeEvent.next ModeEvent.sets
      dsimp only
      cases ordered command message with
      | none => rfl
      | some pair => exact update_apply ..
  | disarm message =>
      obtain ⟨disarmed, holds', unique', changed⟩ := reaction_run
        (handleDisarmCommand_run reliable message unique) holds
        (fun s outcome => by
          obtain ⟨disarmed, holds', rest⟩ := outcome
          exact ⟨disarmed, ⟨holds'.settings, holds'.table⟩, rest⟩) taken
      refine ⟨disarmed, holds', unique', ?_⟩
      rw [changed]
      funext id
      unfold ModeEvent.next ModeEvent.sets
      dsimp only
      cases message.from with
      | none => rfl
      | some sender => exact update_apply ..
  | restart rows' =>
      obtain ⟨perm, rfl⟩ := restart_eq taken
      rw [holds.table] at perm
      obtain ⟨⟨_, table⟩, _, _, restored⟩ :=
        start_run env { a.database with settings := rows' } a.journal
      refine ⟨rows', ⟨(restored reliable).1, ?_⟩, ?_, modes_perm perm unique⟩
      · rw [table]
      · exact (perm.map UserSettings.id).nodup_iff.mpr unique

theorem Agree.run (reliable : Reliable env) {status : Int → Nat} (agree : Agree status a)
    {events : List ModeEvent} (run : Run (modeStep env) a events b) :
    Agree (fun id => events.foldl (ModeEvent.next id) (status id)) b := by
  induction run generalizing status with
  | nil => exact agree
  | cons taken _ ih => exact ih (agree.step reliable taken)

/-- The modes of the users survive every history of commands and restarts: no id is in
`_userSettings` twice, so that saving it succeeds; the table holds the same rows; and the
statuses are those of the last well-formed commands. -/
theorem modes_survive (reliable : Reliable env) {database : Database}
    (empty : database.settings = []) (journal : List Deed) {events : List ModeEvent}
    (run : Run (modeStep env) (start env database journal) events a) :
    (a.userSettings.map UserSettings.id).Nodup ∧
      ((dbSaveSettings env).run.run a).1 = some () ∧
      a.database.settings = a.userSettings ∧
      modes a.database.settings = lastStatus events := by
  have begun : Agree (fun _ => UserSettings.default) (start env database journal) := by
    obtain ⟨⟨_, table⟩, _, _, restored⟩ := start_run env database journal
    refine ⟨[], ⟨(restored reliable).1.trans empty, ?_⟩, List.nodup_nil, rfl⟩
    rw [table]
    exact empty
  obtain ⟨rows, holds, unique, statuses⟩ := begun.run reliable run
  have unique' : (a.userSettings.map UserSettings.id).Nodup := by
    rw [holds.settings]
    exact unique
  refine ⟨unique', (dbSaveSettings_saves reliable unique' a rfl).1, ?_, ?_⟩
  · rw [holds.table, holds.settings]
  · rw [holds.table]
    exact statuses

def ann : TgBot.User := ⟨5, "Ann".toList, [], []⟩
def bob : TgBot.User := ⟨6, "Bob".toList, [], []⟩

/-- Two users arm the system, the process is restarted, the first disarms it and the second
mistypes a command. -/
def annAndBob : List ModeEvent :=
  [.arm ["/arm".toList, "Insane".toList] (textMessage ann ""),
    .arm ["/arm".toList] (textMessage bob ""),
    .restart [⟨6, UserSettings.alert⟩, ⟨5, UserSettings.insane⟩], .disarm (textMessage ann ""),
    .arm ["/arm".toList, "loud".toList] (textMessage bob "")]

theorem modes_survive_annAndBob :
    ∃ a, Run (modeStep sampleCodes) (start sampleCodes {} []) annAndBob a ∧
      modes a.database.settings 5 = UserSettings.default ∧
      modes a.database.settings 6 = UserSettings.alert := by
  have executed : (annAndBob.foldlM (modeStep sampleCodes) (start sampleCodes {} [])).isSome := by
    decide +kernel
  obtain ⟨a, folded⟩ := Option.isSome_iff_exists.mp executed
  have run := Run.of_foldlM folded
  obtain ⟨_, _, _, statuses⟩ := modes_survive (fun _ => rfl) rfl [] run
  refine ⟨a, run, ?_⟩
  rw [statuses]
  decide +kernel

end GpsInformer.Application
