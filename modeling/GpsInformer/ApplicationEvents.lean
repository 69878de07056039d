import GpsInformer.ApplicationCommands

/-!
# Tracker events and restarts (ApplicationEvents.cpp, Application.cpp)

What `Application` does with the events of the trackers, and its whole life: messages of
Telegram users, tracker events and restarts, each handled to its end before the next.
-/

namespace GpsInformer

open TgBot (Message)

namespace Application

variable (env : AppEnv)

/-- The `switch` of `handleTrackerEvent`: whether a user in mode `status` hears of `data`
after the event `last`. -/
def notifies (data last : GpsMessage) (status : Nat) : Bool :=
  if status = UserSettings.insane then true
  else if status = UserSettings.paranoid then data.keyword ≠ last.keyword
  else if status = UserSettings.alert then
    data.keyword ≠ last.keyword ∧ !iequals data.keyword "connect".toList ∧
      !iequals data.keyword "disconnect".toList
  else false

/-- The body of the loop of `handleTrackerEvent`. -/
def notify (data : GpsMessage) (settings : UserSettings) : App Unit := do
  let a ← get
  if notifies data a.lastMessage settings.status then sendGpsStatus env data settings.id

def handleTrackerEvent (data : GpsMessage) : App Unit := do
  let a ← get
  a.userSettings.forM (notify env data)
  discard (sql (dbAddGpsData env data))
  modify fun a => { a with lastMessage := data }

/-- A process starts on a database. -/
def start (database : Database) (journal : List Deed) : Application :=
  ((dbRestoreSettings env).run.run { database, journal }).2

/-- Another process starts.  `SELECT * FROM settings` names no order: it finds the rows in the
order `rows`. -/
def restart (rows : List UserSettings) (a : Application) : Option Application :=
  if rows.Perm a.database.settings then
    some (start env { a.database with settings := rows } a.journal)
  else none

inductive Event where
  /-- `_telegram` has received a message -/
  | message (message : Message)
  /-- a tracker has sent a report, or has connected or disconnected -/
  | trackerEvent (data : GpsMessage)
  /-- the process ends and another one starts, which finds the rows in this order -/
  | restart (rows : List UserSettings)

/-- `none` if the handler is left by an exception. -/
def step (a : Application) : Event → Option Application
  | .message message => (reaction (handleMessage env message) a).toOption.map Prod.fst
  | .trackerEvent data => (reaction (handleTrackerEvent env data) a).toOption.map Prod.fst
  | .restart rows => restart env rows a

variable {env} {a b : Application} {rows : List UserSettings}

/-- The table a new process finds holds the rows that were stored. -/
theorem restart_eq (restarted : restart env rows a = some b) :
    rows.Perm a.database.settings ∧
      b = start env { a.database with settings := rows } a.journal := by
  unfold restart at restarted
  split at restarted
  · rename_i perm
    cases restarted
    exact ⟨perm, rfl⟩
  · cases restarted

end Application

end GpsInformer
