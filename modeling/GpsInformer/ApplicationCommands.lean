import GpsInformer.ApplicationDatabase

/-!
# The application as the bot's handler (ApplicationTelegram.cpp, ApplicationCommands.cpp)

A message is cut into command lines, and each line is run for the sender of the message
if his access level allows it.  The commands `fillCommandList` leaves out are left out.
-/

namespace GpsInformer

open TgBot (Message)

/-- A handler of `Application`: it may be left by an exception. -/
abbrev App := StateT Application (Except Failure)

/-- The member functions that `ChatCommand::handler` points to. -/
inductive CommandHandler where
  | handleStartCommand
  | handleHelpCommand
  | handlePasswordCommand
  | handleWhereCommand
  | handleStatusCommand
  | handleArmCommand
  | handleDisarmCommand
  deriving DecidableEq, Repr

structure ChatCommand where
  command : Str
  description : Str
  access : Nat
  handler : CommandHandler
  deriving DecidableEq, Repr

/-- `UserSettings::Status` -/
def UserSettings.default : Nat := 0
def UserSettings.alert : Nat := 1
def UserSettings.paranoid : Nat := 2
def UserSettings.insane : Nat := 3

/-- `ChatCommand::getAccessString` -/
def getAccessString (level : Nat) : Str :=
  if level = Access.owner then "owner".toList
  else if level = Access.user then "user".toList
  else "unprivileged".toList

/-- `iequals`, in the classic locale -/
def iequals (s t : Str) : Bool := s.map Char.toUpper = t.map Char.toUpper

/-- What `fillCommandList` fills `chatCommands` with. -/
def chatCommands : List ChatCommand :=
  [ ⟨"/start".toList, "begin interaction with me".toList, Access.default, .handleStartCommand⟩,
    ⟨"/help".toList, "show the list of commands available for you".toList, Access.default,
      .handleHelpCommand⟩,
    ⟨"/password".toList, "verify identity".toList, Access.default, .handlePasswordCommand⟩,
    ⟨"/where".toList, "send last valid location".toList, Access.user, .handleWhereCommand⟩,
    ⟨"/status".toList, "send last status of tracking device".toList, Access.user,
      .handleStatusCommand⟩,
    ⟨"/arm".toList, "set the system in armed, paranoid or insane mode".toList, Access.owner,
      .handleArmCommand⟩,
    ⟨"/disarm".toList, "disable armed, paranoid or insane mode".toList, Access.owner,
      .handleDisarmCommand⟩ ]

namespace Application

variable (env : AppEnv)

/-- `*pointer` -/
def deref {α : Type} (pointer : Option α) : App α :=
  match pointer with
  | none => throw .nullPointer
  | some object => return object

/-- A function of the database; `none` if it returns `false`. -/
def sql {α : Type} (action : Sql α) : App (Option α) := fun a => .ok (action.run.run a)

/-- A call on `_telegram`. -/
def telegram (call : TelegramCall) : App Unit :=
  modify fun a => { a with outbox := a.outbox ++ [call] }

/-- The application does something that is remembered. -/
def record (deed : Deed) : App Unit :=
  modify fun a => { a with journal := a.journal ++ [deed] }

/-- `_telegram.sendMessage(originalMessage->from->id, text, parseMode)` -/
def answer (originalMessage : Message) (text : Str) (parseMode : ParseMode) : App Unit := do
  let sender ← deref originalMessage.from
  telegram (.sendMessage sender.id text parseMode)

/-- The text `sendGpsStatus` makes of a message. -/
def gpsStatus (gpsMessage : GpsMessage) : Str :=
  let hostTime := match gpsMessage.hostTime with
    | some time => "Host Time: *".toList ++ env.formatLocalTime time ++ "*\n".toList
    | none => []
  let trackerTime := match gpsMessage.trackerTime with
    | some time => "Tracker Time: ".toList ++ env.formatTime time ++ "\n".toList
    | none => []
  let speed := "Speed: ".toList ++ env.formatDouble gpsMessage.speed ++ "\n".toList
  let phone :=
    if gpsMessage.phone.isEmpty then [] else "Phone: *".toList ++ gpsMessage.phone ++ "*\n".toList
  let status := "Status: ".toList ++ gpsMessage.keyword ++ "\n".toList
  hostTime ++ trackerTime ++ speed ++ phone ++ status

def sendGpsStatus (gpsMessage : GpsMessage) (userId : Int) : App Unit := do
  record (.sentGpsStatus userId)
  if gpsMessage.valid then
    telegram (.sendLocation userId gpsMessage.latitude gpsMessage.longitude)
  telegram (.sendMessage userId (gpsStatus env gpsMessage) .markdown)

/-! ## The commands -/

def handleStartCommand (user : User) (originalMessage : Message) : App Unit := do
  if user.valid then
    let tg ← deref user.tg
    answer originalMessage
      ("Hey ".toList ++ tg.firstName ++
        "!\nI'm at your service.\nYour access level is *".toList ++
        getAccessString user.access ++ "*.".toList)
      .markdown
  else
    answer originalMessage
      ("Sorry, but I don't know you.\nBefore we proceed further, could you please verify your " ++
        "identity with /password command.").toList
      .markdown

def handleHelpCommand (user : User) (originalMessage : Message) : App Unit := do
  let access := if user.valid then user.access else Access.default
  let available := chatCommands.filter fun c => !c.command.isEmpty ∧ c.access ≤ access
  let lines := available.flatMap fun c =>
    c.command ++ " - ".toList ++ c.description ++ "\n".toList
  answer originalMessage
    ("You can control me by sending these commands:\n\n".toList ++ lines) .none

/-- The access level a code gives. -/
def codeAccess (code : Str) : Nat :=
  if !env.ownerCode.isEmpty ∧ code = env.ownerCode then Access.owner
  else if !env.userCode.isEmpty ∧ code = env.userCode then Access.user
  else Access.default

/-- What `handlePasswordCommand` says when the database fails. -/
def databaseTrouble : Str :=
  "I have troubles with database connection. Please try again later.".toList

/-- `handlePasswordCommand` on a line of two tokens: the user it leaves and its answer. -/
def checkCode (code : Str) (user : User) (originalMessage : Message) : App (User × Str) := do
  let access := codeAccess env code
  if user.valid then
    if access > user.access then
      let raised := { user with access }
      match ← sql (dbUpdateUser env raised) with
      | none => return (raised, databaseTrouble)
      | some _ => return (raised,
          "Congratulations!\nYour access level has been increased from *".toList ++
            getAccessString user.access ++ "* to *".toList ++ getAccessString access ++
            "*.".toList)
    else if access > Access.default then
      return (user, "Your current access level is *".toList ++ getAccessString user.access ++
        "* which is higher or equal than *".toList ++ getAccessString access ++ "*.".toList)
    else
      return (user, "You've entered wrong code.\nYour current access level is *".toList ++
        getAccessString user.access ++ "*.".toList)
  else if access > Access.default then
    let registered : User := { access, tg := originalMessage.from, valid := true }
    match ← sql (dbCreateUser env registered) with
    | none => return (registered, databaseTrouble)
    | some _ => return (registered,
        "Congratulations!\nYou've successfully registered as *".toList ++
          getAccessString access ++ "*.".toList)
  else return (user, "Access denied.".toList)

def handlePasswordCommand (command : List Str) (user : User) (originalMessage : Message) :
    App User := do
  match command with
  | [_, code] =>
      let (user, output) ← checkCode env code user originalMessage
      answer originalMessage output .markdown
      return user
  | _ =>
      answer originalMessage "Usage: /password *code*".toList .markdown
      return user

/-- `handleWhereCommand` and `handleStatusCommand`, which differ in the rows they look at and
the answer if there are none. -/
def sendLast (validOnly : Bool) (missing : String) (originalMessage : Message) : App Unit := do
  match ← sql (dbGetGpsData env 1 validOnly) with
  | none => answer originalMessage databaseTrouble .none
  | some [] => answer originalMessage missing.toList .none
  | some (message :: _) =>
      let sender ← deref originalMessage.from
      sendGpsStatus env message sender.id

def handleWhereCommand (originalMessage : Message) : App Unit :=
  sendLast env true "Unfortunately there's no valid location received from tracker."
    originalMessage

def handleStatusCommand (originalMessage : Message) : App Unit :=
  sendLast env false "Unfortunately there's no data received from tracker." originalMessage

/-- The settings after the first row of `userId` has been given `status`; `none` if there is
no such row. -/
def setStatus (userId : Int) (status : Nat) : List UserSettings → Option (List UserSettings)
  | [] => none
  | row :: rows =>
      if row.id = userId then some ({ row with status } :: rows)
      else (setStatus userId status rows).map (row :: ·)

def saveSettings (userId : Int) : App Unit := do
  if (← sql (dbSaveSettings env)).isNone then
    telegram (.sendMessage userId "I have troubles with database connection.".toList .none)

/-- The status an `/arm` command asks for. -/
def requestedStatus (command : List Str) : Option Nat :=
  match command with
  | _ :: mode :: _ =>
      if iequals mode "paranoid".toList then some UserSettings.paranoid
      else if iequals mode "insane".toList then some UserSettings.insane
      else none
  | _ => some UserSettings.alert

def modeName (status : Nat) : Str :=
  if status = UserSettings.paranoid then "paranoid".toList
  else if status = UserSettings.insane then "insane".toList
  else "armed".toList

def handleArmCommand (command : List Str) (originalMessage : Message) : App Unit := do
  let sender ← deref originalMessage.from
  match requestedStatus command with
  | none => telegram (.sendMessage sender.id "Usage: /arm [paranoid | insane]".toList .none)
  | some status =>
      let a ← get
      let found := setStatus sender.id status a.userSettings
      let settingsRow : UserSettings := { id := sender.id, status }
      set { a with userSettings := found.getD (a.userSettings ++ [settingsRow]) }
      telegram (.sendMessage sender.id
        ("The system is in *".toList ++ modeName status ++ "* mode now.".toList) .markdown)
      saveSettings env sender.id

def handleDisarmCommand (originalMessage : Message) : App Unit := do
  let sender ← deref originalMessage.from
  let a ← get
  let found := setStatus sender.id UserSettings.default a.userSettings
  set { a with userSettings := found.getD a.userSettings }
  telegram (.sendMessage sender.id "The system is in *disarm* mode now.".toList .markdown)
  if found.isSome then saveSettings env sender.id

/-- The call of a handler, which gets `user` by reference. -/
def invoke (handler : CommandHandler) (command : List Str) (user : User)
    (originalMessage : Message) : App User :=
  match handler with
  | .handleStartCommand => do handleStartCommand user originalMessage; return user
  | .handleHelpCommand => do handleHelpCommand user originalMessage; return user
  | .handlePasswordCommand => handlePasswordCommand env command user originalMessage
  | .handleWhereCommand => do handleWhereCommand env originalMessage; return user
  | .handleStatusCommand => do handleStatusCommand env originalMessage; return user
  | .handleArmCommand => do handleArmCommand env command originalMessage; return user
  | .handleDisarmCommand => do handleDisarmCommand env originalMessage; return user

/-- The body of the loop of `handleChatCommand`. -/
def tryCommand (name : Str) (command : List Str) (access : Nat) (originalMessage : Message)
    (user : User) (c : ChatCommand) : App User :=
  if !c.command.isEmpty ∧ iequals name c.command ∧ c.access ≤ access then do
    record (.ran (originalMessage.from.map TgBot.User.id) c.access)
    invoke env c.handler command user originalMessage
  else return user

def handleChatCommand (command : List Str) (originalMessage : Message) : App Unit := do
  match command with
  | [] => return
  | name :: _ =>
      record (.told (originalMessage.from.map TgBot.User.id) command)
      match ← sql (dbSearchUser env { tg := originalMessage.from }) with
      | none =>
          answer originalMessage
            "Sorry. I have troubles with database connection. Please try again later.".toList .none
      | some user =>
          let access := if user.valid then user.access else Access.default
          discard (chatCommands.foldlM (tryCommand env name command access originalMessage) user)

/-! ## `handleMessage` -/

/-- The variables of the loop of `handleMessage`. -/
structure Tokens where
  argument : Str := []
  command : List Str := []
  quoted : Bool := false
  deriving DecidableEq, Repr

/-- `if (argument.size()) command.push_back(argument); argument.clear();` -/
def Tokens.push (t : Tokens) : Tokens :=
  if t.argument.isEmpty then t
  else { t with argument := [], command := t.command ++ [t.argument] }

/-- The body of the loop of `handleMessage`. -/
def scanChar (message : Message) (t : Tokens) (c : Char) : App Tokens := do
  if !t.quoted then
    if c = '\r' ∨ c = '\n' then
      handleChatCommand env t.push.command message
      return { t.push with command := [] }
    else if c = ' ' ∨ c = '"' then return { t.push with quoted := c = '"' }
    else return { t with argument := t.argument ++ [c] }
  else if c = '"' then
    return { argument := [], command := t.command ++ [t.argument], quoted := false }
  else return { t with argument := t.argument ++ [c] }

def handleMessage (message : Message) : App Unit := do
  let body := message.text
  if body.head? ≠ some '/' then return
  else
    let t ← body.foldlM (scanChar env message) {}
    let command :=
      if !t.argument.isEmpty ∨ t.quoted then t.command ++ [t.argument] else t.command
    handleChatCommand env command message

/-- A member function as a reaction of the bot's handler. -/
def reaction (handler : App Unit) : Reaction Application := fun a => do
  let ((), a) ← handler.run { a with outbox := [] }
  return ({ a with outbox := [] }, a.outbox)

/-- `Application` as the handler of `_telegram`. -/
def telegramBotHandler : TelegramBotHandler Application where
  handleInlineQuery _ := reaction (pure ())
  handleChosenInlineResult _ := reaction (pure ())
  handleCallbackQuery _ := reaction (pure ())
  handleMessage message := reaction (handleMessage env message)
  handleOwnMessage _ := reaction (pure ())
  handleGetMe _ := reaction (pure ())

end Application

end GpsInformer
