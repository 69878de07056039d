import GpsInformer.Receiver
import GpsInformer.TelegramBot

/-!
# The application's database (ApplicationDatabase.cpp)

The tables are lists of rows.  Every call of SQLite that a function looks at the result
of is counted, and an oracle over the count says which of them fail; a statement that
fails changes no table.  A function that can `goto error` is a `Sql` action: it is `none`
where the source returns `false`, and what it did to the application before stays.
-/

namespace GpsInformer

/-- The levels of `ChatCommand::Access`. -/
def Access.default : Nat := 0
def Access.user : Nat := 1
def Access.owner : Nat := 2

/-- `User`: a Telegram user and the access level it has here. -/
structure User where
  access : Nat := 0
  tg : Option TgBot.User := none
  valid : Bool := false
  deriving DecidableEq, Repr

structure UserSettings where
  id : Int := 0
  status : Nat := 0
  deriving DecidableEq, Repr

/-- A row of `users`. -/
structure UserRow where
  id : Int
  firstName : Str
  lastName : Str
  nickname : Str
  access : Nat
  deriving DecidableEq, Repr

/-- A row of `data`. -/
structure DataRow where
  imei : Str
  keyword : Str
  phone : Str
  trackerTime : Int
  hostTime : Int
  latitude : ℚ
  longitude : ℚ
  speed : ℚ
  valid : Int
  deriving DecidableEq, Repr

structure Database where
  users : List UserRow := []
  data : List DataRow := []
  settings : List UserSettings := []
  /-- the number of calls so far whose result is looked at -/
  calls : Nat := 0
  deriving DecidableEq, Repr

/-- What `Application` does about the users it hears of. -/
inductive Deed where
  /-- `handleChatCommand` was called with a command line of the sender -/
  | told (sender : Option Int) (command : List Str)
  /-- the handler of a command of the `required` level was called for the sender -/
  | ran (sender : Option Int) (required : Nat)
  /-- `sendGpsStatus` was called -/
  | sentGpsStatus (userId : Int)
  deriving DecidableEq, Repr

/-- The part of `Application` behind the Telegram bot. -/
structure Application where
  database : Database := {}
  lastMessage : GpsMessage := {}
  userSettings : List UserSettings := []
  /-- the calls on `_telegram` the handler that is running has made -/
  outbox : List TelegramCall := []
  /-- what has been done so far, in order -/
  journal : List Deed := []
  deriving DecidableEq, Repr

/-- What the application needs from outside: its two codes, the calls of SQLite that
fail, the order `ORDER BY host_time DESC` puts rows in, and the texts of numbers and
times. -/
structure AppEnv where
  ownerCode : Str := []
  userCode : Str := []
  sqlFails : Nat → Bool
  orderBy : List DataRow → List DataRow
  formatDouble : ℚ → Str
  formatTime : Int → Str
  formatLocalTime : Int → Str

abbrev Sql := OptionT (StateM Application)

/-- Microseconds in a second; times are in microseconds since 1970-01-01. -/
def second : Int := 1000000

def fromUnixTime (t : Int) : Int := t * second

def toUnixTime (time : Int) : Int := time.tdiv second

/-- A column read through a `const char*`. -/
def columnText (text : Str) : Str := text.takeWhile (· ≠ Char.ofNat 0)

namespace Application

variable (env : AppEnv)

/-- A call that changes the tables, unless it fails. -/
def execute (statement : Database → Option Database) : Sql Unit := fun a =>
  let counted := { a.database with calls := a.database.calls + 1 }
  match statement counted with
  | none => (none, { a with database := counted })
  | some database =>
      if env.sqlFails a.database.calls then (none, { a with database := counted })
      else (some (), { a with database })

/-- A call that changes no table. -/
def call : Sql Unit := execute env some

/-- `sqlite3_prepare_v2` and then `count` calls of `sqlite3_bind_...` -/
def prepare : (count : Nat) → Sql Unit
  | 0 => call env
  | count + 1 => do
      prepare count
      call env

/-- `sqlite3_step` until it is done with the rows, and `sqlite3_finalize`. -/
def fetch {α ρ : Type} (read : α → ρ → Sql α) : α → List ρ → Sql α
  | result, [] => do
      call env
      call env
      return result
  | result, row :: rows => do
      call env
      let result ← read result row
      fetch read result rows

def insertUser (row : UserRow) (db : Database) : Option Database :=
  if db.users.any (·.id = row.id) then none else some { db with users := db.users ++ [row] }

def updateUser (row : UserRow) (db : Database) : Option Database :=
  some { db with users := db.users.map fun old => if old.id = row.id then row else old }

def insertSettings (row : UserSettings) (db : Database) : Option Database :=
  if db.settings.any (·.id = row.id) then none
  else some { db with settings := db.settings ++ [row] }

def deleteSettings (db : Database) : Option Database := some { db with settings := [] }

def insertData (row : DataRow) (db : Database) : Option Database :=
  some { db with data := db.data ++ [row] }

def userRow (user : User) (tg : TgBot.User) : UserRow :=
  { id := tg.id
    firstName := tg.firstName
    lastName := tg.lastName
    nickname := tg.username
    access := user.access }

def dbUpdateUser (user : User) : Sql Unit :=
  match user.valid, user.tg with
  | true, some tg => do
      prepare env 5
      execute env (updateUser (userRow user tg))
  | _, _ => failure

def dbCreateUser (user : User) : Sql Unit :=
  match user.valid, user.tg with
  | true, some tg => do
      prepare env 5
      execute env (insertUser (userRow user tg))
  | _, _ => failure

/-- The names in a row are not those of `tg`. -/
def namesDiffer (tg : TgBot.User) (row : UserRow) : Bool :=
  columnText row.firstName ≠ tg.firstName ∨ columnText row.lastName ≠ tg.lastName ∨
    columnText row.nickname ≠ tg.username

/-- What `dbSearchUser` does with a row: the user, and whether it needs an update. -/
def readUser (tg : TgBot.User) (result : User × Bool) (row : UserRow) : Sql (User × Bool) :=
  return ({ result.1 with access := row.access, valid := true }, result.2 || namesDiffer tg row)

def dbSearchUser (user : User) : Sql User :=
  match user.tg with
  | none => failure
  | some tg => do
      prepare env 1
      let a ← get
      let rows := (a.database.users.filter (·.id = tg.id)).take 1
      let user := { user with access := Access.default, valid := false }
      let (user, needUpdate) ← fetch env (readUser tg) (user, false) rows
      if needUpdate then dbUpdateUser env user <|> pure ()
      return user

def dataRow (data : GpsMessage) : DataRow :=
  { imei := data.imei
    keyword := data.keyword
    phone := data.phone
    trackerTime := (data.trackerTime.map toUnixTime).getD 0
    hostTime := (data.hostTime.map toUnixTime).getD 0
    latitude := data.latitude
    longitude := data.longitude
    speed := data.speed
    valid := if data.valid then 1 else 0 }

def dbAddGpsData (data : GpsMessage) : Sql Unit := do
  prepare env 9
  execute env (insertData (dataRow data))

/-- `gpsMessage` after a row has been read into it. -/
def rowMessage (gpsMessage : GpsMessage) (row : DataRow) : GpsMessage :=
  { imei := columnText row.imei
    keyword := columnText row.keyword
    phone := columnText row.phone
    trackerTime :=
      if row.trackerTime ≠ 0 then some (fromUnixTime row.trackerTime) else gpsMessage.trackerTime
    hostTime := if row.hostTime ≠ 0 then some (fromUnixTime row.hostTime) else gpsMessage.hostTime
    latitude := row.latitude
    longitude := row.longitude
    speed := row.speed
    valid := row.valid ≠ 0 }

/-- What `dbGetGpsData` does with a row: the vector, and the one `gpsMessage` that all rows
are read into. -/
def readData (result : List GpsMessage × GpsMessage) (row : DataRow) :
    Sql (List GpsMessage × GpsMessage) :=
  let gpsMessage := rowMessage result.2 row
  return (result.1 ++ [gpsMessage], gpsMessage)

/-- `LIMIT ?` with an `unsigned int` that is bound as an `int`; a negative limit is none. -/
def limitRows (limit : Nat) (rows : List DataRow) : List DataRow :=
  if int32 limit < 0 then rows else rows.take limit

def dbGetGpsData (limit : Nat) (validOnly : Bool) : Sql (List GpsMessage) := do
  prepare env (if limit ≠ 0 then 1 else 0)
  let a ← get
  let rows := if validOnly then a.database.data.filter (·.valid = 1) else a.database.data
  let rows := env.orderBy rows
  let rows := if limit ≠ 0 then limitRows limit rows else rows
  let result ← fetch env readData ([], {}) rows
  return result.1

def dbSaveSettings : Sql Unit := do
  execute env deleteSettings
  let a ← get
  a.userSettings.forM fun settings => do
    prepare env 2
    execute env (insertSettings settings)

/-- What `dbRestoreSettings` does with a row. -/
def readSettings (_ : Unit) (row : UserSettings) : Sql Unit :=
  modify fun a => { a with userSettings := a.userSettings ++ [row] }

def dbRestoreSettings : Sql Unit := do
  let data ← dbGetGpsData env 1 false <|> pure []
  match data with
  | [] => pure ()
  | message :: _ => modify fun a => { a with lastMessage := message }
  modify fun a => { a with userSettings := [] }
  prepare env 0
  let a ← get
  fetch env readSettings () a.database.settings

end Application

end GpsInformer
