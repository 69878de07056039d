import GpsInformer.Lib.Run
import GpsInformer.MessageHandling
import GpsInformer.PresentedCodes

/-!
# Access levels come from presented codes

Each handler keeps what the levels allow (`During`), for the command lines handled so far
and with the users table as it is; only `/password` changes that table, and
`checkCode_settles` says that it does so as the code demands.
-/

namespace GpsInformer

open Lib

open TgBot (Message)

namespace Application

/-- The user was in the settings from the start, or has presented the owner's code. -/
def Armed (env : AppEnv) (old : List Int) (commands : List SentCommand) (id : Int) : Prop :=
  id ∈ old ∨ Access.owner ≤ presentedLevel env commands id

/-- The application while it does something for a sender: what it has been told, the users
table, and what these allow. -/
structure During (env : AppEnv) (old : List Int) (commands : List SentCommand)
    (table : List (Int × Nat))
    (a : Application) : Prop where
  told : told a.journal = commands
  grants : grants a.database.users = table
  justified : Justified env a.journal
  armed : ∀ row ∈ a.userSettings, Armed env old commands row.id
  saved : ∀ row ∈ a.database.settings, Armed env old commands row.id

variable {env : AppEnv} {old : List Int} {commands : List SentCommand} {table : List (Int × Nat)}
  {message : Message} {α : Type}

theorem Armed.later {id : Int} {sent : SentCommand} (armed : Armed env old commands id) :
    Armed env old (commands ++ [sent]) id :=
  armed.imp_right fun level => level.trans presentedLevel_le_append

/-- An action keeps what the levels allow. -/
abbrev Keeps (env : AppEnv) (old : List Int) (commands : List SentCommand)
    (table : List (Int × Nat))
    (x : App α) : Prop :=
  Triple (During env old commands table) x fun _ => During env old commands table

theorem During.counted {a : Application} (during : During env old commands table a) (calls : Nat) :
    During env old commands table (a.counted calls) :=
  ⟨during.told, during.grants, during.justified, during.armed, during.saved⟩

theorem keeps_pure (result : α) : Keeps env old commands table (pure result : App α) :=
  Triple.of_pure fun _ during => during

theorem keeps_telegram (call : TelegramCall) : Keeps env old commands table (telegram call) :=
  Triple.of_modify fun _ during =>
    ⟨during.told, during.grants, during.justified, during.armed, during.saved⟩

theorem keeps_deref (pointer : Option α) : Keeps env old commands table (deref pointer) := by
  cases pointer with
  | none => exact Triple.of_throw _
  | some object => exact keeps_pure object

theorem triple_deref {pre : Application → Prop} (object : α) :
    Triple pre (deref (some object)) fun result a => result = object ∧ pre a :=
  Triple.of_pure fun _ met => ⟨rfl, met⟩

theorem keeps_answer (text : Str) (parseMode : ParseMode) :
    Keeps env old commands table (answer message text parseMode) :=
  (keeps_deref _).bind fun _ => keeps_telegram _

theorem keeps_record {deed : Deed} (untold : Application.told [deed] = [])
    (permitted : Permitted env commands deed) : Keeps env old commands table (record deed) := by
  refine Triple.of_modify fun a during => ?_
  refine ⟨?_, during.grants, during.justified.record (during.told ▸ permitted), during.armed,
    during.saved⟩
  rw [told_append, untold, List.append_nil]
  exact during.told

theorem triple_sql {x : Sql α} {pre : Application → Prop} {post : Option α → Application → Prop}
    (query : Query pre x post) : Triple pre (sql x) post := by
  intro a met result b returned
  have same : x.run.run a = (result, b) := Except.ok.inj returned
  have holds := query a met
  rw [same] at holds
  exact holds

/-- A database function that only reads. -/
theorem keeps_reads {x : Sql α} {value : Application → α} (reads : Reads env x value) :
    Keeps env old commands table (sql x) := by
  refine triple_sql (Query.of_forall fun a during => (reads a).weaken fun result b outcome => ?_)
  obtain ⟨⟨calls, rfl⟩, _⟩ := outcome
  exact during.counted calls

theorem keeps_sendGpsStatus (gpsMessage : GpsMessage) {userId : Int}
    (level : Access.user ≤ presentedLevel env commands userId) :
    Keeps env old commands table (sendGpsStatus env gpsMessage userId) := by
  unfold sendGpsStatus
  have permitted : Permitted env commands (.sentGpsStatus userId) := level
  refine (keeps_record rfl permitted).bind fun _ => ?_
  split
  · exact (keeps_telegram _).bind fun _ => keeps_telegram _
  · exact keeps_telegram _

theorem keeps_dbSaveSettings : Keeps env old commands table (sql (dbSaveSettings env)) := by
  refine triple_sql (Query.of_forall fun a during =>
    (dbSaveSettings_run a).weaken fun result b outcome => ?_)
  obtain ⟨settings, ⟨calls, rfl⟩, listed⟩ := outcome
  refine ⟨during.told, during.grants, during.justified, during.armed, fun row member => ?_⟩
  rcases listed row member with current | old
  · exact during.armed row current
  · exact during.saved row old

theorem keeps_saveSettings (userId : Int) :
    Keeps env old commands table (saveSettings env userId) := by
  refine keeps_dbSaveSettings.bind fun saved => ?_
  split
  · exact keeps_telegram _
  · exact keeps_pure _

/-! ## The commands -/

theorem keeps_handleStartCommand (user : User) :
    Keeps env old commands table (handleStartCommand user message) := by
  unfold handleStartCommand
  split
  · exact (keeps_deref _).bind fun _ => keeps_answer _ _
  · exact keeps_answer _ _

theorem keeps_sendLast {tg : TgBot.User} (sender : message.from = some tg)
    (level : Access.user ≤ presentedLevel env commands tg.id) (validOnly : Bool)
    (missing : String) : Keeps env old commands table (sendLast env validOnly missing message) := by
  refine (keeps_reads (reads_dbGetGpsData 1 validOnly)).bind fun rows => ?_
  split
  · exact keeps_answer _ _
  · exact keeps_answer _ _
  · rw [sender]
    exact (triple_deref tg).bind fun user => Triple.of_fact fun same => by
      rw [same]
      exact keeps_sendGpsStatus _ level

theorem setStatus_id {userId : Int} {status : Nat} {rows rows' : List UserSettings}
    (found : setStatus userId status rows = some rows') :
    rows'.map UserSettings.id = rows.map UserSettings.id := by
  induction rows generalizing rows' with
  | nil => cases found
  | cons row rows ih =>
      unfold setStatus at found
      split at found
      · cases found
        rfl
      · obtain ⟨rest, found', rfl⟩ := Option.map_eq_some_iff.mp found
        rw [List.map_cons, List.map_cons, ih found']

/-- The settings after a status has been set are about the same users. -/
theorem armed_setStatus {userId : Int} {status : Nat} {rows : List UserSettings}
    (armed : ∀ row ∈ rows, Armed env old commands row.id) :
    ∀ row ∈ (setStatus userId status rows).getD rows,
      Armed env old commands row.id := by
  intro row member
  cases found : setStatus userId status rows with
  | none =>
      rw [found] at member
      exact armed row member
  | some rows' =>
      rw [found] at member
      have among : row.id ∈ rows.map UserSettings.id := by
        rw [← setStatus_id found]
        exact List.mem_map_of_mem member
      obtain ⟨old, listed, same⟩ := List.mem_map.mp among
      rw [← same]
      exact armed old listed

theorem keeps_handleArmCommand {tg : TgBot.User} (sender : message.from = some tg)
    (level : Access.owner ≤ presentedLevel env commands tg.id) (command : List Str) :
    Keeps env old commands table (handleArmCommand env command message) := by
  unfold handleArmCommand
  rw [sender]
  refine (triple_deref tg).bind fun user => Triple.of_fact fun same => ?_
  rw [same]
  split
  · exact keeps_telegram _
  · rename_i status _
    refine Triple.get_bind fun a during => ?_
    let settingsRow : UserSettings := { id := tg.id, status }
    let rows := (setStatus tg.id status a.userSettings).getD (a.userSettings ++ [settingsRow])
    have sets : Triple (· = a) (set { a with userSettings := rows } : App Unit)
        fun _ => During env old commands table := by
      refine Triple.of_set fun _ _ => ?_
      refine ⟨during.told, during.grants, during.justified, fun row member => ?_, during.saved⟩
      change row ∈ (setStatus tg.id status a.userSettings).getD _ at member
      cases found : setStatus tg.id status a.userSettings with
      | some rows =>
          apply armed_setStatus during.armed row
          rw [found] at member ⊢
          exact member
      | none =>
          rw [found] at member
          rcases List.mem_append.mp member with old | new
          · exact during.armed row old
          · rw [List.mem_singleton.mp new]
            exact Or.inr level
    exact sets.bind fun _ => (keeps_telegram _).bind fun _ => keeps_saveSettings _

theorem keeps_handleDisarmCommand :
    Keeps env old commands table (handleDisarmCommand env message) := by
  refine (keeps_deref _).bind fun tg => Triple.get_bind fun a during => ?_
  have sets : Triple (· = a) (set { a with userSettings :=
      (setStatus tg.id UserSettings.default a.userSettings).getD a.userSettings } : App Unit)
        fun _ => During env old commands table :=
    Triple.of_set fun _ _ => ⟨during.told, during.grants, during.justified,
      armed_setStatus during.armed, during.saved⟩
  refine sets.bind fun _ => (keeps_telegram _).bind fun _ => ?_
  split
  · exact keeps_saveSettings _
  · exact keeps_pure _

/-- The level a handler asks for. -/
def requiredLevel : CommandHandler → Nat
  | .handleStartCommand | .handleHelpCommand | .handlePasswordCommand => Access.default
  | .handleWhereCommand | .handleStatusCommand => Access.user
  | .handleArmCommand | .handleDisarmCommand => Access.owner

theorem access_chatCommands :
    ∀ c ∈ chatCommands, c.access = requiredLevel c.handler := by
  decide

/-- The handlers other than that of `/password`. -/
theorem keeps_invoke {tg : TgBot.User} (sender : message.from = some tg) {handler : CommandHandler}
    (other : handler ≠ .handlePasswordCommand)
    (level : requiredLevel handler ≤ presentedLevel env commands tg.id) (command : List Str)
    (user : User) : Keeps env old commands table (invoke env handler command user message) := by
  cases handler with
  | handleStartCommand => exact (keeps_handleStartCommand user).bind fun _ => keeps_pure user
  | handleHelpCommand => exact (keeps_answer _ _).bind fun _ => keeps_pure user
  | handlePasswordCommand => exact absurd rfl other
  | handleWhereCommand => exact (keeps_sendLast sender level _ _).bind fun _ => keeps_pure user
  | handleStatusCommand => exact (keeps_sendLast sender level _ _).bind fun _ => keeps_pure user
  | handleArmCommand =>
      exact (keeps_handleArmCommand sender level command).bind fun _ => keeps_pure user
  | handleDisarmCommand => exact keeps_handleDisarmCommand.bind fun _ => keeps_pure user

/-! ## `/password` -/

/-- Between command lines the users table is that of the codes presented so far. -/
structure Settled (env : AppEnv) (old : List Int) (commands : List SentCommand)
    (a : Application) : Prop where
  during : During env old commands (grants a.database.users) a
  table : UsersTable env commands (grants a.database.users)

theorem Settled.of_during {a : Application} (during : During env old commands table a)
    (exact : UsersTable env commands table) : Settled env old commands a := by
  have same := during.grants
  subst same
  exact ⟨during, exact⟩

theorem settled_of_keeps {x : App α} (keeps : ∀ table, Keeps env old commands table x) :
    Triple (Settled env old commands) x fun _ => Settled env old commands :=
  fun a settled result b returned =>
    .of_during (keeps _ a settled.during result b returned) settled.table

/-- Another users table is written. -/
theorem during_writesUsers {a b : Application} {users : List UserRow}
    (during : During env old commands table a) (written : WritesUsers a users b) :
    During env old commands (grants users) b := by
  obtain ⟨calls, rfl⟩ := written
  exact ⟨during.told, rfl, during.justified, during.armed, during.saved⟩

theorem grants_update {users : List UserRow} {user : User} {tg : TgBot.User} :
    grants (users.map fun old => if old.id = tg.id then userRow user tg else old) =
      (grants users).map fun grant => if grant.1 = tg.id then (tg.id, user.access) else grant := by
  unfold grants
  rw [List.map_map, List.map_map]
  refine List.map_congr_left fun old _ => ?_
  dsimp only [Function.comp]
  split <;> rfl

/-- What `handleChatCommand` knows of the sender, from a table of users. -/
structure Sender (table : List (Int × Nat)) (tg : TgBot.User) (user : User) : Prop where
  known : user.tg = some tg
  listed : user.valid = true → (tg.id, user.access) ∈ table
  missing : user.valid = false → tg.id ∉ table.map Prod.fst

theorem Found.sender {a : Application} {tg : TgBot.User} {user : User} (found : Found a tg user) :
    Sender (grants a.database.users) tg user where
  known := found.known
  listed valid := by
    obtain ⟨row, member, id, access⟩ := found.listed valid
    rw [← id, ← access]
    exact List.mem_map_of_mem member
  missing invalid member := by
    obtain ⟨grant, among, same⟩ := List.mem_map.mp member
    obtain ⟨row, listed, rfl⟩ := List.mem_map.mp among
    exact found.missing invalid row listed same

section Password

variable {before : List SentCommand} {sent : SentCommand} {code : Str} {tg : TgBot.User}
  {user : User}

/-- The level of a listed user is raised to that of the code he presents. -/
theorem dbUpdateUser_settles (exact : UsersTable env before table)
    (presents : presentedCode sent.2 = some code) (mine : sent.1 = some tg.id)
    (sender : Sender table tg user) (valid : user.valid = true)
    (better : user.access < codeAccess env code) :
    Triple (During env old (before ++ [sent]) table)
      (sql (dbUpdateUser env { user with access := codeAccess env code }))
      fun _ => Settled env old (before ++ [sent]) := by
  have listed := sender.listed valid
  have known : ({ user with access := codeAccess env code } : User).tg = some tg := sender.known
  have still : ({ user with access := codeAccess env code } : User).valid = true := valid
  refine triple_sql (Query.of_forall fun a during =>
    (dbUpdateUser_run still known a).weaken fun result b outcome => ?_)
  rcases outcome with ⟨_, written⟩ | ⟨_, unreliable, unwritten⟩
  · have raised := during_writesUsers during written
    rw [grants_update, during.grants] at raised
    exact .of_during raised (exact.raise mine presents listed better)
  · have kept := during_writesUsers during unwritten
    rw [during.grants] at kept
    exact .of_during kept (exact.behind unreliable)

/-- A sender who is not listed is entered with the level of the code he presents. -/
theorem dbCreateUser_settles (exact : UsersTable env before table)
    (presents : presentedCode sent.2 = some code) (mine : sent.1 = some tg.id)
    (from_sender : message.from = some tg) (sender : Sender table tg user)
    (invalid : user.valid = false) (good : Access.default < codeAccess env code) :
    Triple (During env old (before ++ [sent]) table)
      (sql (dbCreateUser env
        { access := codeAccess env code, tg := message.from, valid := true }))
      fun _ => Settled env old (before ++ [sent]) := by
  have missing := sender.missing invalid
  refine triple_sql (Query.of_forall fun a during => ?_)
  have unknown : ∀ row ∈ a.database.users, row.id ≠ tg.id := by
    intro row member same
    apply missing
    rw [← during.grants, ← same]
    exact List.mem_map_of_mem (List.mem_map_of_mem member)
  refine (dbCreateUser_run rfl from_sender a unknown).weaken fun result b outcome => ?_
  rcases outcome with ⟨_, written⟩ | ⟨_, unreliable, unwritten⟩
  · have added := during_writesUsers during written
    have grown : grants (a.database.users ++ [userRow
        { access := codeAccess env code, tg := message.from, valid := true } tg]) =
          table ++ [(tg.id, codeAccess env code)] := by
      rw [← during.grants]
      exact List.map_append
    rw [grown] at added
    exact .of_during added (exact.insert mine presents missing good)
  · have kept := during_writesUsers during unwritten
    rw [during.grants] at kept
    exact .of_during kept (exact.behind unreliable)

/-- The sender presents a code. -/
theorem checkCode_settles (exact : UsersTable env before table)
    (presents : presentedCode sent.2 = some code) (mine : sent.1 = some tg.id)
    (from_sender : message.from = some tg) (sender : Sender table tg user) :
    Triple (During env old (before ++ [sent]) table) (checkCode env code user message)
      fun _ => Settled env old (before ++ [sent]) := by
  have unchanged : ∀ (result : User × Str), UsersTable env (before ++ [sent]) table →
      Triple (During env old (before ++ [sent]) table) (pure result : App (User × Str))
        fun _ => Settled env old (before ++ [sent]) :=
    fun result exact => Triple.of_pure fun _ during => .of_during during exact
  unfold checkCode
  dsimp only
  split
  · rename_i valid
    have listed := sender.listed valid
    split
    · rename_i better
      have updates := @dbUpdateUser_settles env old table before sent code tg user exact presents
        mine sender valid better
      refine updates.bind fun updated => ?_
      cases updated with
      | none => exact Triple.of_pure fun _ settled => settled
      | some _ => exact Triple.of_pure fun _ settled => settled
    · rename_i worse
      have kept := exact.keep mine presents listed (Nat.le_of_not_lt worse)
      split
      · exact unchanged _ kept
      · exact unchanged _ kept
  · rename_i invalid
    have missing := sender.missing (Bool.eq_false_iff.mpr invalid)
    split
    · rename_i good
      have creates := @dbCreateUser_settles env old table message before sent code tg user exact
        presents mine from_sender sender (Bool.eq_false_iff.mpr invalid) good
      refine creates.bind fun created => ?_
      cases created with
      | none => exact Triple.of_pure fun _ settled => settled
      | some _ => exact Triple.of_pure fun _ settled => settled
    · rename_i wrong
      exact unchanged _ (exact.deny mine presents (Nat.le_of_not_lt wrong))

theorem handlePasswordCommand_settles {name : Str} (exact : UsersTable env before table)
    (presents : presentedCode [name, code] = some code)
    (from_sender : message.from = some tg) (sender : Sender table tg user) :
    Triple (During env old (before ++ [(some tg.id, [name, code])]) table)
      (handlePasswordCommand env [name, code] user message)
      fun _ => Settled env old (before ++ [(some tg.id, [name, code])]) := by
  refine (checkCode_settles exact presents rfl from_sender sender).bind fun result => ?_
  refine (settled_of_keeps fun _ => keeps_answer _ _).bind fun _ => ?_
  exact Triple.of_pure fun _ settled => settled

end Password

/-- `/password` with no code, or with more than one argument. -/
theorem keeps_usage {command : List Str} (other : ∀ name code, command ≠ [name, code])
    (user : User) :
    Keeps env old commands table (handlePasswordCommand env command user message) := by
  unfold handlePasswordCommand
  split
  · exact absurd rfl (other _ _)
  · exact (keeps_answer _ _).bind fun _ => keeps_pure user

/-! ## A command line -/

/-- The commands before `/password` and those after it. -/
theorem chatCommands_split : ∃ front back, chatCommands =
    front ++ ⟨"/password".toList, "verify identity".toList, Access.default,
      .handlePasswordCommand⟩ :: back ∧
    ∀ c ∈ front ++ back, c.handler ≠ .handlePasswordCommand ∧
      ¬ iequals c.command "/password".toList := by
  refine ⟨chatCommands.take 2, chatCommands.drop 3, rfl, ?_⟩
  decide

theorem handler_of_command : ∀ c ∈ chatCommands, c.handler = .handlePasswordCommand →
    c.command = "/password".toList := by
  decide

variable {before : List SentCommand} {tg : TgBot.User}

theorem level_sender {user : User} (exact : UsersTable env before table)
    (sender : Sender table tg user) :
    (if user.valid then user.access else Access.default) ≤ presentedLevel env before tg.id := by
  split
  · rename_i valid
    exact exact.presented _ (sender.listed valid)
  · exact Nat.zero_le _

/-- A command line that presents no code. -/
theorem keeps_tryCommand (from_sender : message.from = some tg) {name : Str} {rest : List Str}
    (silent : presentedCode (name :: rest) = none) {access : Nat}
    (level : access ≤ presentedLevel env commands tg.id) {c : ChatCommand}
    (member : c ∈ chatCommands) (user : User) :
    Keeps env old commands table (tryCommand env name (name :: rest) access message user c) := by
  unfold tryCommand
  split
  · rename_i runs
    obtain ⟨_, called, allowed⟩ := runs
    have permitted : Permitted env commands (.ran (message.from.map TgBot.User.id) c.access) := by
      rw [from_sender]
      exact allowed.trans level
    refine (keeps_record rfl permitted).bind fun _ => ?_
    by_cases password : c.handler = .handlePasswordCommand
    · rw [password]
      refine keeps_usage (fun name' code same => ?_) user
      cases same
      rw [handler_of_command c member password] at called
      simp only [presentedCode, called, if_true] at silent
      cases silent
    · refine keeps_invoke from_sender password ?_ _ user
      rw [← access_chatCommands c member]
      exact allowed.trans level
  · exact keeps_pure user

theorem tryCommand_skip {name : Str} {command : List Str} {access : Nat} {c : ChatCommand}
    (other : ¬ iequals name c.command) (user : User) :
    tryCommand env name command access message user c = pure user :=
  if_neg fun runs => other runs.2.1

theorem foldlM_skip {step : β → α → App β} {b : β} {xs : List α}
    (skip : ∀ x ∈ xs, step b x = pure b) : xs.foldlM step b = pure b := by
  induction xs with
  | nil => rfl
  | cons x xs ih =>
      rw [List.foldlM_cons, skip x (List.mem_cons_self ..), pure_bind]
      exact ih fun y member => skip y (List.mem_cons_of_mem _ member)

theorem iequals_trans {s t u : Str} (first : iequals s t) (second : iequals s u) :
    iequals t u := by
  unfold iequals at *
  rw [decide_eq_true_eq] at *
  exact first.symm.trans second

/-- A command line that presents a code: only `/password` is run. -/
theorem password_settles (from_sender : message.from = some tg) {name code : Str}
    (called : iequals name "/password".toList) (exact : UsersTable env before table) {user : User}
    (sender : Sender table tg user) (access : Nat) :
    Triple (During env old (before ++ [(some tg.id, [name, code])]) table)
      (chatCommands.foldlM (tryCommand env name [name, code] access message) user)
      fun _ => Settled env old (before ++ [(some tg.id, [name, code])]) := by
  obtain ⟨front, back, split, others⟩ := chatCommands_split
  have skip : ∀ c ∈ front ++ back, ∀ user,
      tryCommand env name [name, code] access message user c = pure user := by
    intro c member user
    refine tryCommand_skip (fun called' => (others c member).2 ?_) user
    exact iequals_trans called' called
  have presents : presentedCode [name, code] = some code := if_pos called
  rw [split, List.foldlM_append, foldlM_skip fun c member =>
    skip c (List.mem_append_left _ member) user, pure_bind, List.foldlM_cons]
  have runs : Triple (During env old (before ++ [(some tg.id, [name, code])]) table)
      (tryCommand env name [name, code] access message user
        ⟨"/password".toList, "verify identity".toList, Access.default, .handlePasswordCommand⟩)
      fun _ => Settled env old (before ++ [(some tg.id, [name, code])]) := by
    unfold tryCommand
    rw [if_pos ⟨rfl, called, Nat.zero_le _⟩]
    have permitted : Permitted env (before ++ [(some tg.id, [name, code])])
        (.ran (message.from.map TgBot.User.id) Access.default) := by
      rw [from_sender]
      exact Nat.zero_le _
    refine (keeps_record rfl permitted).bind fun _ => ?_
    exact handlePasswordCommand_settles exact presents from_sender sender
  refine runs.bind fun user' => ?_
  rw [foldlM_skip fun c member => skip c (List.mem_append_right _ member) user']
  exact Triple.of_pure fun _ settled => settled

theorem during_searched {a b : Application} (during : During env old commands table a)
    (written : ∃ users, WritesUsers a users b ∧ grants users = grants a.database.users) :
    During env old commands table b := by
  obtain ⟨users, written, same⟩ := written
  have kept := during_writesUsers during written
  rwa [same, during.grants] at kept

theorem record_tells {sender : Option Int} {command : List Str} {a : Application}
    (settled : Settled env old before a) :
    During env old (before ++ [(sender, command)]) (grants a.database.users)
      { a with journal := a.journal ++ [.told sender command] } where
  told := by
    rw [told_append, settled.during.told]
    rfl
  grants := rfl
  justified := settled.during.justified.record trivial
  armed row member := (settled.during.armed row member).later
  saved row member := (settled.during.saved row member).later

/-- What a command line leaves. -/
theorem handleChatCommand_settles (command : List Str) (nonempty : command ≠ []) :
    Triple (Settled env old before) (handleChatCommand env command message)
      fun _ => Settled env old (before ++ [(message.from.map TgBot.User.id, command)]) := by
  cases from_sender : message.from with
  | none =>
      intro a _ _ b returned
      exact absurd ⟨_, returned⟩ (fails_handleChatCommand from_sender nonempty a)
  | some tg =>
      unfold handleChatCommand
      split
      · exact absurd rfl nonempty
      · rename_i name rest
        rw [from_sender]
        refine Triple.of_forall fun a settled => ?_
        have tells : Triple (· = a) (record (.told (some tg.id) (name :: rest)))
            fun _ => During env old (before ++ [(some tg.id, name :: rest)])
              (grants a.database.users) :=
          Triple.of_modify fun b same => by
            rw [same]
            exact record_tells settled
        refine tells.bind fun _ => Triple.of_forall fun b during => ?_
        have unique : (b.database.users.map UserRow.id).Nodup := by
          have ids : (grants b.database.users).map Prod.fst = b.database.users.map UserRow.id :=
            List.map_map
          rw [← ids, during.grants]
          exact settled.table.unique
        have known : ({ tg := some tg } : User).tg = some tg := rfl
        refine (triple_sql (dbSearchUser_run known b unique)).bind fun result =>
          Triple.of_forall fun c outcome => ?_
        obtain ⟨searched, unreliable, found⟩ := outcome
        have same_table := during.grants
        have during := during_searched during searched
        cases result with
        | none =>
            have settled := Settled.of_during during (settled.table.behind (unreliable rfl))
            exact (settled_of_keeps fun _ => keeps_answer _ _).strengthen
              fun s same => by rw [same]; exact settled
        | some user =>
            have sender := (found user rfl).sender
            rw [same_table] at sender
            have level := level_sender settled.table sender
            refine Triple.discarded (Triple.strengthen ?_ fun s same => same ▸ during)
            cases presents : presentedCode (name :: rest) with
            | none =>
                refine (Triple.foldlM chatCommands (fun c member user' =>
                  keeps_tryCommand from_sender presents (level.trans presentedLevel_le_append)
                    member user') user).weaken
                    fun _ _ during => .of_during during (settled.table.of_level_eq fun _ => ?_)
                exact presentedLevel_other (Or.inr presents)
            | some code =>
                unfold presentedCode at presents
                split at presents
                · rename_i name' code' same
                  cases same
                  split at presents
                  · rename_i called
                    exact password_settles from_sender called settled.table sender _
                  · cases presents
                · cases presents

theorem scanChar_eq (t : Tokens) (c : Char) :
    scanChar env message t c = do
      (t.next c).2.toList.forM fun line => handleChatCommand env line message
      return (t.next c).1 := by
  unfold scanChar Tokens.next
  split
  · split
    · simp
    · split <;> simp
  · split <;> simp

theorem foldlM_scanChar (body : Str) (t : Tokens) :
    (do
      let t ← body.foldlM (scanChar env message) t
      handleChatCommand env
        (if !t.argument.isEmpty ∨ t.quoted then t.command ++ [t.argument] else t.command) message) =
      (t.lines body).forM fun line => handleChatCommand env line message := by
  induction body generalizing t with
  | nil => simp [Tokens.lines]
  | cons c body ih =>
      rw [List.foldlM_cons, Tokens.lines, List.forM_eq_forM, List.forM_append, scanChar_eq]
      rw [bind_assoc, bind_assoc]
      simp only [pure_bind]
      rw [← List.forM_eq_forM, ih]

/-- Handling a message is handling its command lines, one after the other. -/
theorem handleMessage_eq :
    handleMessage env message =
      (commandLines message.text).forM fun line => handleChatCommand env line message := by
  unfold handleMessage commandLines
  dsimp only
  split
  · rfl
  · exact foldlM_scanChar _ _

/-! ## Messages -/

theorem lines_settle (lines : List (List Str)) (before : List SentCommand) :
    Triple (Settled env old before) (lines.forM fun line => handleChatCommand env line message)
      fun _ => Settled env old (before ++ (lines.filter (· ≠ [])).map fun line =>
        (message.from.map TgBot.User.id, line)) := by
  induction lines generalizing before with
  | nil =>
      refine Triple.of_pure fun _ settled => ?_
      rw [List.filter_nil, List.map_nil, List.append_nil]
      exact settled
  | cons line lines ih =>
      by_cases nonempty : line = []
      · subst nonempty
        rw [List.filter_cons_of_neg (by simp)]
        exact (Triple.of_pure fun _ settled => settled).bind fun _ => ih before
      · rw [List.filter_cons_of_pos (by simpa using nonempty), List.map_cons, List.append_cons]
        exact (handleChatCommand_settles line nonempty).bind fun _ => ih _

theorem handleMessage_settles :
    Triple (Settled env old before) (handleMessage env message)
      fun _ => Settled env old (before ++ sentCommands message) := by
  rw [handleMessage_eq]
  exact lines_settle _ before

theorem Settled.clear {a : Application} (settled : Settled env old commands a) :
    Settled env old commands { a with outbox := [] } :=
  ⟨⟨settled.during.told, settled.during.grants, settled.during.justified, settled.during.armed,
    settled.during.saved⟩, settled.table⟩

/-- What a reaction leaves is what its handler leaves. -/
theorem reaction_fst {handler : App Unit} {a b : Application}
    (stepped : (reaction handler a).toOption.map Prod.fst = some b) :
    ∃ c, handler.run { a with outbox := [] } = .ok ((), c) ∧ b = { c with outbox := [] } := by
  unfold reaction at stepped
  cases handled : handler.run { a with outbox := [] } with
  | error e =>
      rw [handled] at stepped
      cases stepped
  | ok result =>
      rw [handled] at stepped
      cases stepped
      exact ⟨result.2, rfl, rfl⟩

theorem settled_message {a b : Application} (settled : Settled env old before a)
    (stepped : step env a (.message message) = some b) :
    Settled env old (before ++ sentCommands message) b := by
  obtain ⟨c, handled, rfl⟩ := reaction_fst stepped
  exact (handleMessage_settles _ settled.clear () c handled).clear

/-- A message with a sender is handled to its end. -/
theorem step_message (sender : message.from.isSome) (a : Application) :
    ∃ b, step env a (.message message) = some b := by
  have total : Total (handleMessage env message) := yields_handleMessage sender
  obtain ⟨_, c, handled, _⟩ := total { a with outbox := [] }
  refine ⟨{ c with outbox := [] }, ?_⟩
  change (reaction (handleMessage env message) a).toOption.map Prod.fst = _
  unfold reaction
  rw [handled]
  rfl

theorem settled_messages {messages : List Message} {a b : Application}
    (run : Run (step env) a (messages.map Event.message) b) (settled : Settled env old before a) :
    Settled env old (before ++ messages.flatMap sentCommands) b := by
  induction messages generalizing a before with
  | nil =>
      cases run
      rw [List.flatMap_nil, List.append_nil]
      exact settled
  | cons message messages ih =>
      cases run with
      | cons stepped rest =>
          rw [List.flatMap_cons, ← List.append_assoc]
          exact ih rest (settled_message settled stepped)

theorem settled_start {a : Application} (users : a.database.users = []) (fresh : a.journal = []) :
    Settled env ((a.userSettings ++ a.database.settings).map UserSettings.id) [] a where
  during := {
    told := by rw [fresh]; rfl
    grants := rfl
    justified := fun before deed isPrefix => by
      rw [fresh] at isPrefix
      exact absurd (List.prefix_nil.mp isPrefix) (by simp)
    armed := fun row member => Or.inl (List.mem_map_of_mem (List.mem_append_left _ member))
    saved := fun row member => Or.inl (List.mem_map_of_mem (List.mem_append_right _ member)) }
  table := by
    rw [users]
    exact ⟨List.nodup_nil, nofun, nofun, nofun, fun _ _ => nofun⟩

theorem mem_grants {users : List UserRow} {row : UserRow} (member : row ∈ users) :
    (row.id, row.access) ∈ grants users :=
  List.mem_map_of_mem member

theorem Settled.access_eq {a : Application} (settled : Settled env old commands a)
    (reliable : Reliable env) {row : UserRow} (member : row ∈ a.database.users) :
    row.access = presentedLevel env commands row.id :=
  Nat.le_antisymm (settled.table.presented _ (mem_grants member))
    (settled.table.exact reliable _ (mem_grants member))

theorem Settled.listed_iff {a : Application} (settled : Settled env old commands a)
    (reliable : Reliable env) (id : Int) :
    (∃ row ∈ a.database.users, row.id = id) ↔
      Access.default < presentedLevel env commands id := by
  constructor
  · rintro ⟨row, member, rfl⟩
    rw [← settled.access_eq reliable member]
    exact settled.table.privileged _ (mem_grants member)
  · intro high
    obtain ⟨grant, among, same⟩ := List.mem_map.mp (settled.table.complete reliable id high)
    obtain ⟨row, member, rfl⟩ := List.mem_map.mp among
    exact ⟨row, member, same⟩

/-- After any messages from any senders, the users table has one row for each id that has
presented a good code, with the greatest level of its codes.  Privileged handlers run only
for those who have reached their level, and a message that presents no better code leaves
every level as it is. -/
theorem access_from_presented_codes (reliable : Reliable env) {a b : Application}
    {messages : List Message} (empty : a.database.users = []) (fresh : a.journal = [])
    (run : Run (step env) a (messages.map Event.message) b) :
    (b.database.users.map UserRow.id).Nodup ∧
    (∀ id, (∃ row ∈ b.database.users, row.id = id) ↔
      ∃ code ∈ presentedCodes (messages.flatMap sentCommands) id,
        Access.default < codeAccess env code) ∧
    (∀ row ∈ b.database.users,
      row.access = presentedLevel env (messages.flatMap sentCommands) row.id) ∧
    told b.journal = messages.flatMap sentCommands ∧
    (∀ before sender required, before ++ [.ran sender required] <+: b.journal →
      Access.default < required →
        ∃ id, sender = some id ∧ required ≤ presentedLevel env (told before) id) ∧
    ∀ message : Message, message.from.isSome →
      ∃ c, step env b (.message message) = some c ∧
        ∀ row ∈ b.database.users,
          (∀ code ∈ presentedCodes (sentCommands message) row.id,
            codeAccess env code ≤ row.access) →
          ∃ row' ∈ c.database.users, row'.id = row.id ∧ row'.access = row.access := by
  have settled := settled_messages run (settled_start empty fresh)
  rw [List.nil_append] at settled
  refine ⟨?_, fun id => ?_, fun row => settled.access_eq reliable, settled.during.told, ?_, ?_⟩
  · have ids : (grants b.database.users).map Prod.fst = b.database.users.map UserRow.id :=
      List.map_map
    rw [← ids]
    exact settled.table.unique
  · rw [settled.listed_iff reliable, lt_presentedLevel_iff]
  · intro before sender required isPrefix privileged
    have permitted := settled.during.justified before _ isPrefix
    cases sender with
    | none => exact absurd permitted (Nat.not_le_of_lt privileged)
    | some id => exact ⟨id, rfl, permitted⟩
  · intro message sender
    obtain ⟨c, stepped⟩ := step_message sender b
    refine ⟨c, stepped, fun row member lower => ?_⟩
    have after := settled_message settled stepped
    have same : presentedLevel env (messages.flatMap sentCommands ++ sentCommands message) row.id =
        row.access := by
      rw [presentedLevel_append, ← settled.access_eq reliable member]
      exact Nat.max_eq_left (presentedLevel_le_iff.mpr lower)
    have high : Access.default < row.access :=
      settled.table.privileged _ (mem_grants member)
    rw [← same] at high
    obtain ⟨row', member', id⟩ := (after.listed_iff reliable row.id).mpr high
    refine ⟨row', member', id, ?_⟩
    rw [after.access_eq reliable member', id, same]

/-- A message in a private chat. -/
def textMessage (sender : TgBot.User) (text : String) : Message where
  messageId := 1
  «from» := some sender
  date := 1500000000
  chat := ⟨sender.id, some .private, [], [], [], [], false⟩
  forwardFrom := none
  forwardFromChat := none
  forwardFromMessageId := 0
  forwardDate := 0
  replyToMessage := none
  editDate := 0
  text := text.toList
  entities := []
  audio := none
  document := none
  photo := []
  sticker := none
  video := none
  contact := none
  location := none
  newChatMember := none
  leftChatMember := none
  newChatTitle := []
  newChatPhoto := []
  deleteChatPhoto := false
  groupChatCreated := false
  caption := []
  supergroupChatCreated := false
  channelChatCreated := false
  migrateToChatId := 0
  migrateFromChatId := 0

/-- Two codes, and a database that works. -/
def sampleCodes : AppEnv where
  ownerCode := "k1".toList
  userCode := "k2".toList
  sqlFails _ := false
  orderBy rows := rows
  formatDouble _ := []
  formatTime _ := []
  formatLocalTime _ := []

/-- A user who tries `/arm`, presents the user's code and then the owner's. -/
def annsMessages : List Message :=
  [textMessage ⟨5, "Ann".toList, [], []⟩ "/arm\n/Password k2",
    textMessage ⟨5, "Anna".toList, [], []⟩ "/password \"k1\"\n/arm"]

theorem access_from_presented_codes_ann :
    ∃ b, Run (step sampleCodes) {} (annsMessages.map Event.message) b ∧
      b.database.users.map UserRow.access = [Access.owner] ∧
      ∀ row ∈ b.database.users,
        row.access = presentedLevel sampleCodes (annsMessages.flatMap sentCommands) row.id := by
  have executed : ((annsMessages.map Event.message).foldlM (step sampleCodes) {}).map
      (fun b => b.database.users.map UserRow.access) = some [Access.owner] := by
    decide +kernel
  obtain ⟨b, run, access⟩ := Option.map_eq_some_iff.mp executed
  refine ⟨b, .of_foldlM run, access, ?_⟩
  exact (access_from_presented_codes (fun _ => rfl) rfl rfl (.of_foldlM run)).2.2.1

end Application

end GpsInformer
