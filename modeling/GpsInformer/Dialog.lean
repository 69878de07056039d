import GpsInformer.UserModes

/-!
# What the bot says (an abstract model)

The application as the people who talk to it know it: who is registered and with which level,
who has chosen which mode, what has been reported and what has been saved.

* `Replies` says what a command line of somebody is answered and what becomes of the world.
  It knows no rows of users and no list of handlers that are tried one after the other, and a
  call of SQLite that fails is a choice of it.
* `Talks` says the same of a whole history, with the calls on the bot.

Levels only grow (`Talks.grows`) and come from codes (`Talks.earned`); whoever is not
registered hears nothing but the four answers of `strangerReply` (`Talks.stranger`).
-/

namespace GpsInformer

open Function Application

open TgBot (Message)

structure World where
  /-- the levels of those who are registered -/
  level : Int → Option Nat
  /-- the modes, in the order in which they were chosen first -/
  modes : List UserSettings
  /-- the modes a process that starts finds -/
  saved : List UserSettings
  reports : List DataRow
  last : GpsMessage

namespace World

variable (env : AppEnv) (w : World) (tg : TgBot.User)

def access (id : Int) : Nat := (w.level id).getD Access.default

def register (id : Int) (level : Nat) : World := { w with level := update w.level id (some level) }

/-- A user chooses a mode. -/
def choose (id : Int) (status : Nat) : World :=
  { w with modes :=
      if id ∈ w.modes.map UserSettings.id then
        w.modes.map fun row => if row.id = id then ⟨id, status⟩ else row
      else w.modes ++ [⟨id, status⟩] }

/-- The last report, or the last one with a valid position. -/
def latest (validOnly : Bool) : Option GpsMessage :=
  (storedData env 1 validOnly w.reports).head?

/-! ## Answers -/

def say (id : Int) (text : Str) (parseMode : ParseMode) : TelegramCall :=
  .sendMessage id text parseMode

def introduction : Str :=
  ("Sorry, but I don't know you.\nBefore we proceed further, could you please verify your " ++
    "identity with /password command.").toList

def greeting : Str :=
  match w.level tg.id with
  | some level =>
      "Hey ".toList ++ tg.firstName ++
        "!\nI'm at your service.\nYour access level is *".toList ++
        getAccessString level ++ "*.".toList
  | none => introduction

def help (access : Nat) : Str :=
  "You can control me by sending these commands:\n\n".toList ++
    (chatCommands.filter fun c => !c.command.isEmpty ∧ c.access ≤ access).flatMap fun c =>
      c.command ++ " - ".toList ++ c.description ++ "\n".toList

/-- A code is presented: the answer, and the world after it. -/
inductive Presents (code : Str) : Str → World → Prop
  | raised {level : Nat} : w.level tg.id = some level → level < codeAccess env code →
    Presents code
      ("Congratulations!\nYour access level has been increased from *".toList ++
        getAccessString level ++ "* to *".toList ++ getAccessString (codeAccess env code) ++
        "*.".toList)
      (w.register tg.id (codeAccess env code))
  | registered : w.level tg.id = none → Access.default < codeAccess env code →
    Presents code
      ("Congratulations!\nYou've successfully registered as *".toList ++
        getAccessString (codeAccess env code) ++ "*.".toList)
      (w.register tg.id (codeAccess env code))
  | failed : w.access tg.id < codeAccess env code → ¬ Reliable env →
    Presents code databaseTrouble w
  | reached {level : Nat} : w.level tg.id = some level → Access.default < codeAccess env code →
    codeAccess env code ≤ level →
    Presents code
      ("Your current access level is *".toList ++ getAccessString level ++
        "* which is higher or equal than *".toList ++ getAccessString (codeAccess env code) ++
        "*.".toList)
      w
  | wrong {level : Nat} : w.level tg.id = some level → codeAccess env code ≤ Access.default →
    Presents code
      ("You've entered wrong code.\nYour current access level is *".toList ++
        getAccessString level ++ "*.".toList)
      w
  | denied : w.level tg.id = none → codeAccess env code ≤ Access.default →
    Presents code "Access denied.".toList w

/-- The modes are saved, or the user is told that they are not: then the old ones stay, or the
first of the new ones. -/
inductive Saves : List TelegramCall → World → Prop
  | saved : Saves [] { w with saved := w.modes }
  | failed {rows : List UserSettings} : ¬ Reliable env → rows = w.saved ∨ rows <+: w.modes →
    Saves [say tg.id "I have troubles with database connection.".toList .none]
      { w with saved := rows }

/-- Somebody asks for the last report. -/
inductive Reports (validOnly : Bool) (missing : String) : List TelegramCall → Prop
  | failed : ¬ Reliable env → Reports validOnly missing [say tg.id databaseTrouble .none]
  | missing : w.latest env validOnly = none →
    Reports validOnly missing [say tg.id missing.toList .none]
  | sent {data : GpsMessage} : w.latest env validOnly = some data →
    Reports validOnly missing (statusCalls env data tg.id)

/-- What a command does for someone who may use it. -/
inductive Does : CommandHandler → List Str → List TelegramCall → World → Prop
  | start (line : List Str) : Does .handleStartCommand line [say tg.id (w.greeting tg) .markdown] w
  | help (line : List Str) :
    Does .handleHelpCommand line [say tg.id (help (w.access tg.id)) .none] w
  | usage {line : List Str} : (∀ name code, line ≠ [name, code]) →
    Does .handlePasswordCommand line [say tg.id "Usage: /password *code*".toList .markdown] w
  | password {name code text : Str} {w' : World} : Presents env w tg code text w' →
    Does .handlePasswordCommand [name, code] [say tg.id text .markdown] w'
  | locates (line : List Str) {calls : List TelegramCall} :
    Reports env w tg true "Unfortunately there's no valid location received from tracker." calls →
    Does .handleWhereCommand line calls w
  | reports (line : List Str) {calls : List TelegramCall} :
    Reports env w tg false "Unfortunately there's no data received from tracker." calls →
    Does .handleStatusCommand line calls w
  | unknownMode {line : List Str} : requestedStatus line = none →
    Does .handleArmCommand line [say tg.id "Usage: /arm [paranoid | insane]".toList .none] w
  | arms {line : List Str} {status : Nat} {calls : List TelegramCall} {w' : World} :
    requestedStatus line = some status → Saves env (w.choose tg.id status) tg calls w' →
    Does .handleArmCommand line
      (say tg.id ("The system is in *".toList ++ modeName status ++ "* mode now.".toList)
        .markdown :: calls) w'
  | disarms (line : List Str) {calls : List TelegramCall} {w' : World} :
    tg.id ∈ w.modes.map UserSettings.id →
    Saves env (w.choose tg.id UserSettings.default) tg calls w' →
    Does .handleDisarmCommand line
      (say tg.id "The system is in *disarm* mode now.".toList .markdown :: calls) w'
  | idle (line : List Str) : tg.id ∉ w.modes.map UserSettings.id →
    Does .handleDisarmCommand line
      [say tg.id "The system is in *disarm* mode now.".toList .markdown] w

/-- What a command line is answered. -/
inductive Replies : List Str → List TelegramCall → World → Prop
  | empty : Replies [] [] w
  | failed {line : List Str} : line ≠ [] → ¬ Reliable env →
    Replies line [say tg.id
      "Sorry. I have troubles with database connection. Please try again later.".toList .none] w
  /-- there is no such command, or not for this user -/
  | ignored {name : Str} {rest : List Str} :
    (∀ c ∈ chatCommands, iequals name c.command → w.access tg.id < c.access) →
    Replies (name :: rest) [] w
  | runs {name : Str} {rest : List Str} {c : ChatCommand} {calls : List TelegramCall} {w' : World} :
    c ∈ chatCommands → iequals name c.command → c.access ≤ w.access tg.id →
    Does env w tg c.handler (name :: rest) calls w' → Replies (name :: rest) calls w'

end World

open World

variable (env : AppEnv)

/-- What the lines of a message are answered, one after the other. -/
inductive Chats (tg : TgBot.User) : World → List (List Str) → List TelegramCall → World → Prop
  | nil (w : World) : Chats tg w [] [] w
  | cons {w w' w'' : World} {line : List Str} {lines : List (List Str)}
    {calls more : List TelegramCall} :
    Replies env w tg line calls w' → Chats tg w' lines more w'' →
    Chats tg w (line :: lines) (calls ++ more) w''

/-- What an event brings about. -/
inductive Hears (w : World) : Event → List TelegramCall → World → Prop
  | message {message : Message} {tg : TgBot.User} {calls : List TelegramCall} {w' : World} :
    message.from = some tg → Chats env tg w (commandLines message.text) calls w' →
    Hears w (.message message) calls w'
  /-- who sends no name sends no command -/
  | anonymous {message : Message} : message.from = none → commandLines message.text = [] →
    Hears w (.message message) [] w
  | trackerEvent {data : GpsMessage} {reports : List DataRow} :
    reports = w.reports ++ [dataRow data] ∨ ¬ Reliable env ∧ reports = w.reports →
    Hears w (.trackerEvent data)
      ((recipients data w.last w.modes).flatMap (statusCalls env data))
      { w with reports, last := data }
  /-- the modes that were saved are found in any order -/
  | restart {rows modes : List UserSettings} {last : GpsMessage} : rows.Perm w.saved →
    modes <+: rows → (Reliable env → modes = rows ∧ last = (w.latest env false).getD {}) →
    Hears w (.restart rows) [] { w with modes, saved := rows, last }

inductive Talks : World → List Event → List TelegramCall → World → Prop
  | nil (w : World) : Talks w [] [] w
  | cons {w w' w'' : World} {e : Event} {es : List Event} {calls more : List TelegramCall} :
    Hears env w e calls w' → Talks w' es more w'' → Talks w (e :: es) (calls ++ more) w''

/-! ## What a line changes -/

/-- The chat a call is made for. -/
def TelegramCall.recipient : TelegramCall → Int
  | .sendMessage chatId _ _ => chatId
  | .sendLocation chatId _ _ => chatId

namespace World

variable {env} {w w' w'' : World} {tg : TgBot.User} {line : List Str} {calls : List TelegramCall}

/-- Nobody is registered with less than before. -/
def Grows (w w' : World) : Prop :=
  ∀ id level, w.level id = some level → ∃ level', w'.level id = some level' ∧ level ≤ level'

theorem Grows.refl (w : World) : w.Grows w := fun _ level same => ⟨level, same, Nat.le_refl level⟩

theorem Grows.trans (first : w.Grows w') (second : w'.Grows w'') : w.Grows w'' := by
  intro id level same
  obtain ⟨level', same', le⟩ := first id level same
  obtain ⟨level'', same'', le'⟩ := second id level' same'
  exact ⟨level'', same'', Nat.le_trans le le'⟩

/-- The modes and the saved modes are those of owners. -/
def Owned (w : World) : Prop :=
  ∀ row ∈ w.modes ++ w.saved, ∃ level, w.level row.id = some level ∧ Access.owner ≤ level

/-- What a line of a user can change, and whom it can be answered to. -/
structure Effect (env : AppEnv) (w : World) (tg : TgBot.User) (line : List Str)
    (calls : List TelegramCall) (w' : World) : Prop where
  addressed : ∀ call ∈ calls, call.recipient = tg.id
  level : w'.level = w.level ∨ ∃ code, presentedCode line = some code ∧
    w.access tg.id < codeAccess env code ∧
    w'.level = update w.level tg.id (some (codeAccess env code))
  modes : ∀ row ∈ w'.modes ++ w'.saved, row.id ∈ (w.modes ++ w.saved).map UserSettings.id ∨
    row.id = tg.id ∧ Access.owner ≤ w.access tg.id
  reports : w'.reports = w.reports
  last : w'.last = w.last

theorem Effect.answers (line : List Str) (addressed : ∀ call ∈ calls, call.recipient = tg.id) :
    Effect env w tg line calls w where
  addressed := addressed
  level := Or.inl rfl
  modes _ member := Or.inl (List.mem_map_of_mem member)
  reports := rfl
  last := rfl

theorem addressed_say (id : Int) (text : Str) (parseMode : ParseMode) :
    ∀ call ∈ [say id text parseMode], call.recipient = id := by
  intro call member
  rw [List.mem_singleton.mp member]
  rfl

theorem addressed_statusCalls (env : AppEnv) (data : GpsMessage) (id : Int) :
    ∀ call ∈ statusCalls env data id, call.recipient = id := by
  unfold statusCalls
  intro call member
  rcases List.mem_append.mp member with location | message
  · split at location
    · rw [List.mem_singleton.mp location]
      rfl
    · cases location
  · rw [List.mem_singleton.mp message]
    rfl

theorem Reports.addressed {validOnly : Bool} {missing : String}
    (reports : Reports env w tg validOnly missing calls) :
    ∀ call ∈ calls, call.recipient = tg.id := by
  cases reports with
  | failed => exact addressed_say _ _ _
  | missing => exact addressed_say _ _ _
  | sent => exact addressed_statusCalls _ _ _

theorem Presents.effect {name code text : Str} (called : iequals name "/password".toList)
    (presents : Presents env w tg code text w') :
    Effect env w tg [name, code] [say tg.id text .markdown] w' := by
  have answered := addressed_say tg.id text .markdown
  have presented : presentedCode [name, code] = some code := if_pos called
  have registers : w.access tg.id < codeAccess env code →
      Effect env w tg [name, code] [say tg.id text .markdown]
        (w.register tg.id (codeAccess env code)) := fun better =>
    { addressed := answered
      level := Or.inr ⟨code, presented, better, rfl⟩
      modes := fun _ member => Or.inl (List.mem_map_of_mem member)
      reports := rfl
      last := rfl }
  cases presents with
  | raised known better =>
      apply registers
      unfold access
      rw [known]
      exact better
  | registered unknown good =>
      apply registers
      unfold access
      rw [unknown]
      exact good
  | failed => exact .answers _ answered
  | reached => exact .answers _ answered
  | wrong => exact .answers _ answered
  | denied => exact .answers _ answered

theorem mem_choose {id : Int} {status : Nat} {row : UserSettings}
    (member : row ∈ (w.choose id status).modes) :
    row.id ∈ w.modes.map UserSettings.id ∨ row.id = id := by
  unfold choose at member
  dsimp only at member
  split at member
  · obtain ⟨old, among, rfl⟩ := List.mem_map.mp member
    split
    · exact Or.inr rfl
    · exact Or.inl (List.mem_map_of_mem among)
  · rcases List.mem_append.mp member with old | new
    · exact Or.inl (List.mem_map_of_mem old)
    · rw [List.mem_singleton.mp new]
      exact Or.inr rfl

/-- A mode is chosen, the user is told, and the modes are saved. -/
theorem Saves.effect {status : Nat} {text : Str} (owner : Access.owner ≤ w.access tg.id)
    (saves : Saves env (w.choose tg.id status) tg calls w') :
    Effect env w tg line (say tg.id text .markdown :: calls) w' := by
  have chosen : ∀ row ∈ (w.choose tg.id status).modes,
      row.id ∈ (w.modes ++ w.saved).map UserSettings.id ∨
        row.id = tg.id ∧ Access.owner ≤ w.access tg.id := by
    intro row member
    rw [List.map_append, List.mem_append]
    rcases mem_choose member with old | mine
    · exact Or.inl (Or.inl old)
    · exact Or.inr ⟨mine, owner⟩
  have told := addressed_say tg.id text .markdown
  cases saves with
  | saved =>
      refine ⟨told, Or.inl rfl, fun row member => ?_, rfl, rfl⟩
      rcases List.mem_append.mp member with new | new
      · exact chosen row new
      · exact chosen row new
  | failed _ kept =>
      refine ⟨fun call member => ?_, Or.inl rfl, fun row member => ?_, rfl, rfl⟩
      · rcases List.mem_cons.mp member with rfl | trouble
        · rfl
        · exact addressed_say _ _ _ call trouble
      · rcases List.mem_append.mp member with new | stored
        · exact chosen row new
        · rcases kept with rfl | isPrefix
          · exact Or.inl (List.mem_map_of_mem (List.mem_append_right _ stored))
          · exact chosen row (isPrefix.subset stored)

theorem Does.effect {handler : CommandHandler} (does : Does env w tg handler line calls w')
    (level : requiredLevel handler ≤ w.access tg.id)
    (called : handler = .handlePasswordCommand →
      ∀ name rest, line = name :: rest → iequals name "/password".toList) :
    Effect env w tg line calls w' := by
  cases does with
  | start => exact .answers _ (addressed_say _ _ _)
  | help => exact .answers _ (addressed_say _ _ _)
  | usage => exact .answers _ (addressed_say _ _ _)
  | password presents => exact presents.effect (called rfl _ _ rfl)
  | locates _ reports => exact .answers _ reports.addressed
  | reports _ reports => exact .answers _ reports.addressed
  | unknownMode => exact .answers _ (addressed_say _ _ _)
  | arms _ saves => exact saves.effect level
  | disarms _ _ saves => exact saves.effect level
  | idle => exact .answers _ (addressed_say _ _ _)

theorem Replies.effect (replies : Replies env w tg line calls w') :
    Effect env w tg line calls w' := by
  cases replies with
  | empty => exact .answers _ (List.forall_mem_nil _)
  | failed => exact .answers _ (addressed_say _ _ _)
  | ignored => exact .answers _ (List.forall_mem_nil _)
  | @runs name rest c _ _ member called allowed does =>
      refine does.effect ?_ fun password name' rest' same => ?_
      · rw [← access_chatCommands c member]
        exact allowed
      · cases same
        rw [handler_of_command c member password] at called
        exact called

/-! ## Levels -/

theorem level_le_access {id : Int} {level : Nat} (known : w.level id = some level) :
    w.access id = level := by
  unfold access
  rw [known]
  rfl

theorem Effect.grows (effect : Effect env w tg line calls w') : w.Grows w' := by
  rcases effect.level with same | ⟨code, _, better, changed⟩
  · intro id level known
    rw [same]
    exact ⟨level, known, Nat.le_refl level⟩
  · intro id level known
    rw [changed]
    by_cases mine : id = tg.id
    · subst mine
      rw [update_self]
      rw [level_le_access known] at better
      exact ⟨_, rfl, Nat.le_of_lt better⟩
    · rw [update_of_ne mine]
      exact ⟨level, known, Nat.le_refl level⟩

theorem Effect.owned (effect : Effect env w tg line calls w') (owned : w.Owned) : w'.Owned := by
  intro row member
  have before : ∃ level, w.level row.id = some level ∧ Access.owner ≤ level := by
    rcases effect.modes row member with old | ⟨mine, owner⟩
    · obtain ⟨row', among, same⟩ := List.mem_map.mp old
      rw [← same]
      exact owned row' among
    · rw [mine]
      cases known : w.level tg.id with
      | none =>
          unfold access at owner
          rw [known] at owner
          cases owner
      | some level =>
          rw [level_le_access known] at owner
          exact ⟨level, rfl, owner⟩
  obtain ⟨level, known, owner⟩ := before
  obtain ⟨level', known', le⟩ := effect.grows _ _ known
  exact ⟨level', known', Nat.le_trans owner le⟩

/-- Every level is that of a good code its user has presented. -/
def Earned (env : AppEnv) (commands : List SentCommand) (w : World) : Prop :=
  ∀ id level, w.level id = some level → Access.default < level ∧
    ∃ code ∈ presentedCodes commands id, codeAccess env code = level

theorem Earned.later {commands : List SentCommand} (earned : Earned env commands w)
    (more : List SentCommand) : Earned env (commands ++ more) w := by
  intro id level known
  obtain ⟨good, code, member, same⟩ := earned id level known
  rw [presentedCodes_append]
  exact ⟨good, code, List.mem_append_left _ member, same⟩

theorem Effect.earned {commands : List SentCommand} (effect : Effect env w tg line calls w')
    (earned : Earned env commands w) : Earned env (commands ++ [(some tg.id, line)]) w' := by
  rcases effect.level with same | ⟨code, presents, better, changed⟩
  · intro id level known
    rw [same] at known
    exact earned.later _ id level known
  · intro id level known
    rw [changed] at known
    by_cases mine : id = tg.id
    · subst mine
      rw [update_self] at known
      cases known
      refine ⟨Nat.lt_of_le_of_lt (Nat.zero_le _) better, code, ?_, rfl⟩
      rw [presentedCodes_append, presentedCodes_singleton, if_pos rfl, presents]
      exact List.mem_append_right _ (List.mem_singleton.mpr rfl)
    · rw [update_of_ne mine] at known
      exact earned.later _ id level known

/-! ## Strangers -/

/-- What somebody who is not registered is answered, unless he presents a good code. -/
def strangerReply (id : Int) : List Str → List TelegramCall
  | [] => []
  | name :: rest =>
      if iequals name "/start".toList then [say id introduction .markdown]
      else if iequals name "/help".toList then [say id (help Access.default) .none]
      else if iequals name "/password".toList then
        [say id (if rest.length = 1 then "Access denied.".toList
          else "Usage: /password *code*".toList) .markdown]
      else []

/-- The line presents no good code. -/
def Bare (env : AppEnv) (line : List Str) : Prop :=
  ∀ code, presentedCode line = some code → codeAccess env code ≤ Access.default

theorem commands_for_all : ∀ c ∈ chatCommands, c.access ≤ Access.default →
    c.handler = .handleStartCommand ∧ c.command = "/start".toList ∨
      c.handler = .handleHelpCommand ∧ c.command = "/help".toList ∨
      c.handler = .handlePasswordCommand ∧ c.command = "/password".toList := by
  decide

theorem commands_of_all : ∀ command ∈ ["/start".toList, "/help".toList, "/password".toList],
    ∃ c ∈ chatCommands, c.command = command ∧ c.access ≤ Access.default := by
  decide

theorem access_stranger {id : Int} (unknown : w.level id = none) :
    w.access id = Access.default := by
  unfold access
  rw [unknown]
  rfl

theorem other_command {name first second : Str} (called : iequals name second)
    (differ : ¬ iequals second first) : ¬ iequals name first := fun also =>
  differ (iequals_trans called also)

theorem Presents.stranger {code text : Str} (presents : Presents env w tg code text w')
    (unknown : w.level tg.id = none) (wrong : codeAccess env code ≤ Access.default) :
    text = "Access denied.".toList := by
  have absent : ∀ level, w.level tg.id ≠ some level := fun level known => by
    rw [unknown] at known
    cases known
  cases presents with
  | raised known => exact absurd known (absent _)
  | registered _ good => exact absurd good (Nat.not_lt_of_le wrong)
  | failed better =>
      rw [access_stranger unknown] at better
      exact absurd better (Nat.not_lt_of_le wrong)
  | reached known => exact absurd known (absent _)
  | wrong known => exact absurd known (absent _)
  | denied => rfl

theorem Replies.stranger (reliable : Reliable env) (replies : Replies env w tg line calls w')
    (unknown : w.level tg.id = none) (bare : Bare env line) : calls = strangerReply tg.id line := by
  cases replies with
  | empty => rfl
  | failed _ unreliable => exact absurd reliable unreliable
  | @ignored name rest other =>
      rw [access_stranger unknown] at other
      have silent : ∀ command ∈ ["/start".toList, "/help".toList, "/password".toList],
          ¬ iequals name command := by
        intro command among called
        obtain ⟨c, member, rfl, all⟩ := commands_of_all command among
        exact Nat.not_lt_of_le all (other c member called)
      simp only [List.forall_mem_cons] at silent
      obtain ⟨start, help, password, -⟩ := silent
      dsimp only [strangerReply]
      rw [if_neg start, if_neg help, if_neg password]
  | @runs name rest c _ _ member called allowed does =>
      rw [access_stranger unknown] at allowed
      rcases commands_for_all c member allowed with
        ⟨handler, command⟩ | ⟨handler, command⟩ | ⟨handler, command⟩
      · rw [handler] at does
        rw [command] at called
        dsimp only [strangerReply]
        rw [if_pos called]
        cases does
        unfold greeting
        rw [unknown]
      · rw [handler] at does
        rw [command] at called
        dsimp only [strangerReply]
        rw [if_neg (other_command called (by decide)), if_pos called]
        cases does
        rw [access_stranger unknown]
      · rw [handler] at does
        rw [command] at called
        dsimp only [strangerReply]
        rw [if_neg (other_command called (by decide)), if_neg (other_command called (by decide)),
          if_pos called]
        cases does with
        | usage other =>
            have long : rest.length ≠ 1 := fun one => by
              obtain ⟨code, rfl⟩ := List.length_eq_one_iff.mp one
              exact other _ _ rfl
            rw [if_neg long]
        | password presents =>
            rw [presents.stranger unknown (bare _ (if_pos called))]
            rfl

/-- Who presents no good code does not get registered. -/
theorem Effect.stranger {id : Int} (effect : Effect env w tg line calls w')
    (unknown : w.level id = none) (bare : tg.id = id → Bare env line) : w'.level id = none := by
  rcases effect.level with same | ⟨code, presents, better, changed⟩
  · rw [same]
    exact unknown
  · rw [changed, update_of_ne]
    · exact unknown
    · rintro rfl
      rw [access_stranger unknown] at better
      exact Nat.not_lt_of_le (bare rfl code presents) better

end World

/-! ## Whole histories -/

variable {env} {w w' : World} {tg : TgBot.User} {lines : List (List Str)}
  {calls : List TelegramCall} {id : Int}

/-- The calls made for a chat. -/
def callsFor (id : Int) (calls : List TelegramCall) : List TelegramCall :=
  calls.filter fun call => call.recipient = id

theorem callsFor_append (id : Int) (calls more : List TelegramCall) :
    callsFor id (calls ++ more) = callsFor id calls ++ callsFor id more :=
  List.filter_append ..

theorem callsFor_own (own : ∀ call ∈ calls, call.recipient = id) : callsFor id calls = calls :=
  List.filter_eq_self.mpr fun call member => decide_eq_true (own call member)

theorem callsFor_other {other : Int} (theirs : ∀ call ∈ calls, call.recipient = other)
    (differ : other ≠ id) : callsFor id calls = [] :=
  List.filter_eq_nil_iff.mpr fun call member same =>
    differ ((theirs call member).symm.trans (of_decide_eq_true same))

/-- What is known at the end of the lines of a message. -/
theorem Chats.effect (chats : Chats env tg w lines calls w') :
    (∀ call ∈ calls, call.recipient = tg.id) ∧ w.Grows w' ∧ (w.Owned → w'.Owned) ∧
      ∀ commands, World.Earned env commands w →
        World.Earned env (commands ++ lines.map fun line => (some tg.id, line)) w' := by
  induction chats with
  | nil w =>
      refine ⟨List.forall_mem_nil _, Grows.refl w, id, fun commands earned => ?_⟩
      rw [List.map_nil, List.append_nil]
      exact earned
  | cons replies _ ih =>
      obtain ⟨addressed, grows, owned, earned⟩ := ih
      have effect := replies.effect
      refine ⟨fun call member => ?_, effect.grows.trans grows,
        fun before => owned (effect.owned before), fun commands before => ?_⟩
      · rcases List.mem_append.mp member with first | later
        · exact effect.addressed call first
        · exact addressed call later
      · rw [List.map_cons, List.append_cons]
        exact earned _ (effect.earned before)

theorem Chats.stranger (reliable : Reliable env) (chats : Chats env tg w lines calls w')
    (unknown : w.level tg.id = none) (bare : ∀ line ∈ lines, Bare env line) :
    calls = lines.flatMap (strangerReply tg.id) ∧ w'.level tg.id = none := by
  induction chats with
  | nil => exact ⟨rfl, unknown⟩
  | cons replies _ ih =>
      rw [List.forall_mem_cons] at bare
      have still := replies.effect.stranger unknown fun _ => bare.1
      obtain ⟨rest, last⟩ := ih still bare.2
      refine ⟨?_, last⟩
      rw [List.flatMap_cons, replies.stranger reliable unknown bare.1, rest]

theorem Chats.level_other (chats : Chats env tg w lines calls w') (other : tg.id ≠ id)
    (unknown : w.level id = none) : w'.level id = none := by
  induction chats with
  | nil => exact unknown
  | cons replies _ ih => exact ih (replies.effect.stranger unknown fun same => absurd same other)

theorem presentedCodes_nonempty (sender : Option Int) (lines : List (List Str)) (id : Int) :
    presentedCodes ((lines.filter (· ≠ [])).map fun line => (sender, line)) id =
      presentedCodes (lines.map fun line => (sender, line)) id := by
  induction lines with
  | nil => rfl
  | cons line lines ih =>
      by_cases nonempty : line = []
      · subst nonempty
        rw [List.filter_cons_of_neg (by simp), ih, List.map_cons]
        have silent : presentedCodes [(sender, ([] : List Str))] id = [] := by
          rw [presentedCodes_singleton]
          exact congrArg Option.toList (ite_self none)
        rw [← List.singleton_append, presentedCodes_append, silent, List.nil_append]
      · rw [List.filter_cons_of_pos (by simpa using nonempty), List.map_cons, List.map_cons]
        unfold presentedCodes at ih ⊢
        rw [List.filterMap_cons, List.filterMap_cons, ih]

namespace World

theorem Earned.congr {commands more : List SentCommand}
    (same : ∀ id, presentedCodes commands id = presentedCodes more id)
    (earned : Earned env commands w) : Earned env more w := by
  intro id level known
  rw [← same]
  exact earned id level known

end World

variable {event : Event} {events : List Event} {commands : List SentCommand}

theorem Hears.grows (hears : Hears env w event calls w') : w.Grows w' := by
  cases hears with
  | message _ chats => exact chats.effect.2.1
  | anonymous => exact Grows.refl w
  | trackerEvent => exact Grows.refl w
  | restart => exact Grows.refl w

theorem Hears.owned (hears : Hears env w event calls w') (owned : w.Owned) : w'.Owned := by
  cases hears with
  | message _ chats => exact chats.effect.2.2.1 owned
  | anonymous => exact owned
  | trackerEvent => exact owned
  | restart perm isPrefix =>
      intro row member
      apply owned row
      rcases List.mem_append.mp member with read | stored
      · exact List.mem_append_right _ (perm.subset (isPrefix.subset read))
      · exact List.mem_append_right _ (perm.subset stored)

theorem Hears.earned (hears : Hears env w event calls w') (earned : Earned env commands w) :
    Earned env (commands ++ toldBy event) w' := by
  cases hears with
  | message sender chats =>
      refine (chats.effect.2.2.2 commands earned).congr fun id => ?_
      dsimp only [toldBy, sentCommands]
      rw [presentedCodes_append, presentedCodes_append, sender, presentedCodes_nonempty]
      rfl
  | anonymous => exact earned.later _
  | trackerEvent => exact earned.later _
  | restart => exact earned.later _

theorem Talks.grows (talks : Talks env w events calls w') : w.Grows w' := by
  induction talks with
  | nil w => exact Grows.refl w
  | cons hears _ ih => exact hears.grows.trans ih

theorem Talks.owned (talks : Talks env w events calls w') (owned : w.Owned) : w'.Owned := by
  induction talks with
  | nil => exact owned
  | cons hears _ ih => exact ih (hears.owned owned)

/-- However often SQLite fails, every level is that of a code its user has presented. -/
theorem Talks.earned (talks : Talks env w events calls w') (earned : Earned env commands w) :
    Earned env (commands ++ events.flatMap toldBy) w' := by
  induction talks generalizing commands with
  | nil =>
      rw [List.flatMap_nil, List.append_nil]
      exact earned
  | cons hears _ ih =>
      rw [List.flatMap_cons, ← List.append_assoc]
      exact ih (hears.earned earned)

/-! ## Strangers in whole histories -/

/-- What an event makes the bot say to somebody who is not registered. -/
def strangerCalls (id : Int) : Event → List TelegramCall
  | .message message =>
      if message.from.map TgBot.User.id = some id then
        (commandLines message.text).flatMap (strangerReply id)
      else []
  | .trackerEvent _ => []
  | .restart _ => []

theorem bare_of_told {message : Message} (sender : message.from = some tg)
    (wrong : ∀ code ∈ presentedCodes (toldBy (.message message)) tg.id,
      codeAccess env code ≤ Access.default) :
    ∀ line ∈ commandLines message.text, Bare env line := by
  intro line member code presents
  apply wrong
  dsimp only [toldBy, sentCommands]
  rw [presentedCodes_nonempty, sender]
  unfold presentedCodes
  rw [List.mem_filterMap]
  exact ⟨_, List.mem_map_of_mem member, (if_pos rfl).trans presents⟩

theorem Hears.stranger (reliable : Reliable env) (hears : Hears env w event calls w')
    (unknown : w.level id = none) (owned : w.Owned)
    (wrong : ∀ code ∈ presentedCodes (toldBy event) id, codeAccess env code ≤ Access.default) :
    callsFor id calls = strangerCalls id event ∧ w'.level id = none := by
  cases hears with
  | @message message tg _ _ sender chats =>
      unfold strangerCalls
      dsimp only
      rw [sender, Option.map_some]
      by_cases mine : tg.id = id
      · subst mine
        obtain ⟨said, still⟩ := chats.stranger reliable unknown (bare_of_told sender wrong)
        rw [if_pos rfl, ← said]
        exact ⟨callsFor_own chats.effect.1, still⟩
      · have other : some tg.id ≠ some id := mt Option.some.inj mine
        rw [if_neg other]
        exact ⟨callsFor_other chats.effect.1 mine, chats.level_other mine unknown⟩
  | anonymous sender silent =>
      unfold strangerCalls
      dsimp only
      rw [silent, List.flatMap_nil, ite_self]
      exact ⟨rfl, unknown⟩
  | trackerEvent =>
      refine ⟨List.filter_eq_nil_iff.mpr fun call member same => ?_, unknown⟩
      obtain ⟨other, notified, said⟩ := List.mem_flatMap.mp member
      obtain ⟨row, listed, rfl⟩ := recipients_subset notified
      obtain ⟨level, known, _⟩ := owned row (List.mem_append_left _ listed)
      have mine := (addressed_statusCalls env _ _ call said).symm.trans (of_decide_eq_true same)
      rw [mine, unknown] at known
      cases known
  | restart => exact ⟨rfl, unknown⟩

/-- Somebody who presents no good code hears what he would hear alone: the answers to his own
lines, in order, and nothing of what the trackers report or what others do. -/
theorem Talks.stranger (reliable : Reliable env) (talks : Talks env w events calls w')
    (unknown : w.level id = none) (owned : w.Owned)
    (wrong : ∀ code ∈ presentedCodes (events.flatMap toldBy) id,
      codeAccess env code ≤ Access.default) :
    callsFor id calls = events.flatMap (strangerCalls id) := by
  induction talks with
  | nil => rfl
  | @cons w w₁ w₂ event events calls more hears _ ih =>
      have both : ∀ code ∈ presentedCodes (toldBy event) id ++
          presentedCodes (events.flatMap toldBy) id, codeAccess env code ≤ Access.default := by
        rw [← presentedCodes_append]
        exact wrong
      rw [List.forall_mem_append] at both
      obtain ⟨said, still⟩ := hears.stranger reliable unknown owned both.1
      rw [callsFor_append, said, ih still (hears.owned owned) both.2, List.flatMap_cons]

end GpsInformer
