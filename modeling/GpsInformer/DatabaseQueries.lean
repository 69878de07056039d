import GpsInformer.ApplicationDatabase
import GpsInformer.Lib.Triple
import Mathlib.Data.List.Nodup

/-!
# What the database functions do

`Reads` says of an action that it changes nothing and what it gives.  An action that
writes has one lemma, with the table it leaves whether or not a call of it fails.
-/

namespace GpsInformer

open Lib

/-- No call of SQLite fails. -/
def Reliable (env : AppEnv) : Prop := ∀ n, env.sqlFails n = false

namespace Application

variable {env : AppEnv} {α β ρ : Type}

/-- Some calls later. -/
def counted (a : Application) (calls : Nat) : Application :=
  { a with database := { a.database with calls } }

@[simp] theorem counted_counted (a : Application) (m n : Nat) :
    (a.counted m).counted n = a.counted n := rfl

/-- What a statement does, by whether its call fails. -/
theorem execute_exact (statement : Database → Option Database) (a : Application) :
    Query (· = a) (execute env statement) fun result b =>
      (result = some () ∧ env.sqlFails a.database.calls = false ∧
        ∃ database, statement (a.counted (a.database.calls + 1)).database = some database ∧
          b = { a with database }) ∨
      (result = none ∧ (env.sqlFails a.database.calls = true ∨
        statement (a.counted (a.database.calls + 1)).database = none) ∧
          b = a.counted (a.database.calls + 1)) := by
  rintro _ rfl
  unfold execute
  dsimp only [OptionT.run, StateT.run]
  split
  · rename_i refused
    exact Or.inr ⟨rfl, Or.inr refused, rfl⟩
  · rename_i database changed
    split
    · rename_i fails
      exact Or.inr ⟨rfl, Or.inl fails, rfl⟩
    · rename_i fine
      exact Or.inl ⟨rfl, eq_false_of_ne_true fine, database, changed, rfl⟩

/-- A statement changes the tables, or it is refused or fails and changes nothing. -/
theorem execute_run (statement : Database → Option Database) (a : Application) :
    Query (· = a) (execute env statement) fun result b =>
      (result = some () ∧
        ∃ database, statement (a.counted (a.database.calls + 1)).database = some database ∧
          b = { a with database }) ∨
      (result = none ∧
        (¬ Reliable env ∨ statement (a.counted (a.database.calls + 1)).database = none) ∧
          b = a.counted (a.database.calls + 1)) := by
  refine (execute_exact statement a).weaken fun result b outcome => ?_
  rcases outcome with ⟨done, _, changed⟩ | ⟨failed, reason, same⟩
  · exact Or.inl ⟨done, changed⟩
  · refine Or.inr ⟨failed, reason.imp_left fun fails reliable => ?_, same⟩
    rw [reliable] at fails
    cases fails

/-- An action changes no table and no variable, and gives `value` unless a call fails. -/
def Reads (env : AppEnv) (x : Sql α) (value : Application → α) : Prop :=
  ∀ a, Query (· = a) x fun result b =>
    (∃ calls, b = a.counted calls) ∧
      (result = some (value a) ∨ result = none ∧ ¬ Reliable env)

/-- A value that does not depend on how many calls there were. -/
abbrev Uncounted (value : Application → α) : Prop := ∀ a calls, value (a.counted calls) = value a

theorem reads_pure (v : α) : Reads env (pure v) fun _ => v :=
  fun a => Query.of_pure fun _ same => ⟨⟨a.database.calls, same⟩, Or.inl rfl⟩

theorem reads_get : Reads env get id :=
  fun a => Query.of_get fun _ same => ⟨⟨a.database.calls, same⟩, Or.inl (congrArg some same)⟩

theorem Reads.bind {x : Sql α} {f : α → Sql β} {value : Application → α}
    {g : α → Application → β} (first : Reads env x value)
    (rest : ∀ v, Reads env (f v) (g v)) (uncounted : ∀ v, Uncounted (g v)) :
    Reads env (x >>= f) fun a => g (value a) a := by
  intro a
  refine (first a).bind ?_ ?_
  · intro s failed
    obtain ⟨calls, absurd | ⟨_, unreliable⟩⟩ := failed
    · cases absurd
    · exact ⟨calls, Or.inr ⟨rfl, unreliable⟩⟩
  · intro v s given
    obtain ⟨⟨calls, rfl⟩, same | ⟨absurd, _⟩⟩ := given
    · cases same
      obtain ⟨⟨calls', later⟩, outcome⟩ := rest (value a) _ (a.counted calls) rfl
      rw [uncounted] at outcome
      exact ⟨⟨calls', later⟩, outcome⟩
    · cases absurd

/-- An action that reads first. -/
theorem Reads.query {x : Sql α} {f : α → Sql β} {value : Application → α}
    {last : Option β → Application → Prop} {a : Application} (first : Reads env x value)
    (fails : ∀ calls, ¬ Reliable env → last none (a.counted calls))
    (rest : ∀ calls, Query (· = a.counted calls) (f (value a)) last) :
    Query (· = a) (x >>= f) last := by
  refine (first a).bind ?_ ?_
  · rintro s ⟨⟨calls, rfl⟩, absurd | ⟨_, unreliable⟩⟩
    · cases absurd
    · exact fails calls unreliable
  · rintro v s ⟨⟨calls, rfl⟩, same | ⟨absurd, _⟩⟩
    · cases same
      exact rest calls _ rfl
    · cases absurd

/-- What follows gives the same whatever was read. -/
theorem Reads.followed {x : Sql α} {f : α → Sql β} {value : Application → α} {w : β}
    (first : Reads env x value) (rest : ∀ v, Reads env (f v) fun _ => w) :
    Reads env (x >>= f) fun _ => w :=
  Reads.bind (g := fun _ _ => w) first rest fun _ _ _ => rfl

theorem reads_call : Reads env (call env) fun _ => () := by
  intro a
  refine (execute_run some a).weaken fun result b outcome => ?_
  rcases outcome with ⟨same, database, kept, rfl⟩ | ⟨same, refused, rfl⟩
  · cases kept
    exact ⟨⟨_, rfl⟩, Or.inl same⟩
  · exact ⟨⟨_, rfl⟩, Or.inr ⟨same, refused.resolve_right nofun⟩⟩

theorem reads_prepare (count : Nat) : Reads env (prepare env count) fun _ => () := by
  induction count with
  | zero => exact reads_call
  | succ count ih => exact ih.followed fun _ => reads_call

theorem reads_fetch {read : α → ρ → Sql α} {next : α → ρ → α}
    (step : ∀ result row, read result row = pure (next result row)) (rows : List ρ) (result : α) :
    Reads env (fetch env read result rows) fun _ => rows.foldl next result := by
  induction rows generalizing result with
  | nil => exact reads_call.followed fun _ => reads_call.followed fun _ => reads_pure result
  | cons row rows ih =>
      refine reads_call.followed fun _ => ?_
      rw [step, pure_bind]
      exact ih (next result row)

/-! ## The users table -/

/-- `b` is `a` with another users table, and some calls later. -/
def WritesUsers (a : Application) (users : List UserRow) (b : Application) : Prop :=
  ∃ calls, b = { a with database := { a.database with users, calls } }

theorem dbUpdateUser_run {user : User} {tg : TgBot.User} (valid : user.valid = true)
    (known : user.tg = some tg) (a : Application) :
    Query (· = a) (dbUpdateUser env user) fun result b =>
      (result = some () ∧ WritesUsers a
        (a.database.users.map fun old => if old.id = tg.id then userRow user tg else old) b) ∨
      (result = none ∧ ¬ Reliable env ∧ WritesUsers a a.database.users b) := by
  unfold dbUpdateUser
  rw [valid, known]
  refine (reads_prepare 5).query (fun calls unreliable => ?_) fun calls => ?_
  · exact Or.inr ⟨rfl, unreliable, calls, rfl⟩
  · rintro _ rfl
    rcases execute_run (updateUser (userRow user tg)) (a.counted calls) _ rfl with
      ⟨done, _, updated, same⟩ | ⟨failed, refused, same⟩
    · cases updated
      exact Or.inl ⟨done, _, same⟩
    · exact Or.inr ⟨failed, refused.resolve_right nofun, _, same⟩

theorem dbCreateUser_run {user : User} {tg : TgBot.User} (valid : user.valid = true)
    (known : user.tg = some tg) (a : Application)
    (unknown : ∀ row ∈ a.database.users, row.id ≠ tg.id) :
    Query (· = a) (dbCreateUser env user) fun result b =>
      (result = some () ∧ WritesUsers a (a.database.users ++ [userRow user tg]) b) ∨
      (result = none ∧ ¬ Reliable env ∧ WritesUsers a a.database.users b) := by
  unfold dbCreateUser
  rw [valid, known]
  refine (reads_prepare 5).query (fun calls unreliable => ?_) fun calls => ?_
  · exact Or.inr ⟨rfl, unreliable, calls, rfl⟩
  · rintro _ rfl
    have inserted : insertUser (userRow user tg)
        ((a.counted calls).counted ((a.counted calls).database.calls + 1)).database =
          some { a.database with
            users := a.database.users ++ [userRow user tg], calls := calls + 1 } := by
      refine if_neg fun taken => ?_
      obtain ⟨row, member, same⟩ := List.any_eq_true.mp taken
      exact unknown row member (of_decide_eq_true same)
    rcases execute_run (insertUser (userRow user tg)) (a.counted calls) _ rfl with
      ⟨done, _, inserted', same⟩ | ⟨failed, refused, same⟩
    · cases inserted.symm.trans inserted'
      exact Or.inl ⟨done, _, same⟩
    · rw [inserted] at refused
      exact Or.inr ⟨failed, refused.resolve_right nofun, _, same⟩

/-- What `dbSearchUser` finds of a Telegram user. -/
structure Found (a : Application) (tg : TgBot.User) (user : User) : Prop where
  known : user.tg = some tg
  listed : user.valid = true →
    ∃ row ∈ a.database.users, row.id = tg.id ∧ row.access = user.access
  missing : user.valid = false → ∀ row ∈ a.database.users, row.id ≠ tg.id

/-- What `readUser` returns. -/
def nextUser (tg : TgBot.User) (result : User × Bool) (row : UserRow) : User × Bool :=
  ({ result.1 with access := row.access, valid := true }, result.2 || namesDiffer tg row)

theorem found_rows {user : User} {tg : TgBot.User} (known : user.tg = some tg)
    (a : Application) :
    Found a tg (((a.database.users.filter (·.id = tg.id)).take 1).foldl (nextUser tg)
      ({ user with access := Access.default, valid := false }, false)).1 := by
  cases rows : a.database.users.filter (·.id = tg.id) with
  | nil =>
      refine ⟨known, nofun, fun _ row member same => ?_⟩
      have kept : row ∈ a.database.users.filter (·.id = tg.id) :=
        List.mem_filter.mpr ⟨member, decide_eq_true same⟩
      rw [rows] at kept
      cases kept
  | cons row rest =>
      have kept : row ∈ a.database.users.filter (·.id = tg.id) := by
        rw [rows]
        exact List.mem_cons_self ..
      obtain ⟨member, same⟩ := List.mem_filter.mp kept
      exact ⟨known, fun _ => ⟨row, member, of_decide_eq_true same, rfl⟩, nofun⟩

/-- The ids and the access levels of the users. -/
def grants (users : List UserRow) : List (Int × Nat) := users.map fun row => (row.id, row.access)

/-- New names change no access level. -/
theorem grants_rename {users : List UserRow} (unique : (users.map UserRow.id).Nodup)
    {row new : UserRow} (member : row ∈ users) (id : new.id = row.id)
    (access : new.access = row.access) :
    grants (users.map fun old => if old.id = new.id then new else old) = grants users := by
  unfold grants
  rw [List.map_map]
  refine List.map_congr_left fun old among => ?_
  dsimp only [Function.comp]
  split
  · rename_i same
    obtain rfl : old = row := List.inj_on_of_nodup_map unique among member (same.trans id)
    rw [id, access]
  · rfl

/-- The update `dbSearchUser` makes when the names differ. -/
theorem updateNames_run {found : User} {tg : TgBot.User} (a : Application)
    (unique : (a.database.users.map UserRow.id).Nodup) (finds : Found a tg found) :
    Query (· = a) (dbUpdateUser env found <|> pure ()) fun result b =>
      result = some () ∧
        ∃ users, WritesUsers a users b ∧ grants users = grants a.database.users := by
  have unchanged : ∃ users, WritesUsers a users a ∧ grants users = grants a.database.users :=
    ⟨a.database.users, ⟨_, rfl⟩, rfl⟩
  cases valid : found.valid with
  | false =>
      have fails : dbUpdateUser env found = failure := by
        unfold dbUpdateUser
        rw [valid]
      rw [fails]
      rintro _ rfl
      exact ⟨rfl, unchanged⟩
  | true =>
      obtain ⟨row, member, id, access⟩ := finds.listed valid
      refine (dbUpdateUser_run valid finds.known a).orElse ?_ ?_
      · refine Query.of_pure fun s outcome => ?_
        rcases outcome with ⟨impossible, _⟩ | ⟨_, _, unwritten⟩
        · cases impossible
        · exact ⟨rfl, _, unwritten, rfl⟩
      · intro _ s outcome
        rcases outcome with ⟨_, written⟩ | ⟨impossible, _⟩
        · refine ⟨rfl, _, written, ?_⟩
          have same : (userRow found tg).access = row.access := access.symm
          exact grants_rename unique member id.symm same
        · cases impossible

theorem dbSearchUser_run {user : User} {tg : TgBot.User} (known : user.tg = some tg)
    (a : Application) (unique : (a.database.users.map UserRow.id).Nodup) :
    Query (· = a) (dbSearchUser env user) fun result b =>
      (∃ users, WritesUsers a users b ∧ grants users = grants a.database.users) ∧
        (result = none → ¬ Reliable env) ∧ ∀ found, result = some found → Found a tg found := by
  let post (result : Option User) (b : Application) : Prop :=
    (∃ users, WritesUsers a users b ∧ grants users = grants a.database.users) ∧
      (result = none → ¬ Reliable env) ∧ ∀ found, result = some found → Found a tg found
  have fails : ∀ calls, ¬ Reliable env → post none (a.counted calls) :=
    fun calls unreliable => ⟨⟨_, ⟨calls, rfl⟩, rfl⟩, fun _ => unreliable, nofun⟩
  change Query (· = a) (dbSearchUser env user) post
  unfold dbSearchUser
  rw [known]
  refine (reads_prepare 1).query fails fun calls => reads_get.query fails fun calls => ?_
  have rows : ∀ rows result, Reads env (fetch env (readUser tg) result rows) fun _ =>
      rows.foldl (nextUser tg) result := reads_fetch fun _ _ => rfl
  refine (rows _ _).query fails fun calls => ?_
  generalize same : List.foldl (nextUser tg) _ _ = result
  have finds : Found a tg result.1 := by
    rw [← same]
    exact found_rows (rfl : ({ tg := some tg } : User).tg = some tg) a
  obtain ⟨found, needUpdate⟩ := result
  dsimp only at finds ⊢
  split
  · refine (updateNames_run (a.counted calls) unique
      ⟨finds.known, finds.listed, finds.missing⟩).bind
      ?_ fun _ => ?_
    · rintro s ⟨impossible, _⟩
      cases impossible
    · refine Query.of_pure fun s outcome => ?_
      obtain ⟨_, users, ⟨calls', rfl⟩, same⟩ := outcome
      refine ⟨⟨users, ⟨calls', rfl⟩, same⟩, nofun, fun found' given => ?_⟩
      cases given
      exact finds
  · refine Query.of_pure fun s same => ⟨⟨_, ⟨calls, same⟩, rfl⟩, nofun, fun found' given => ?_⟩
    cases given
    exact finds

/-! ## The settings table -/

/-- `b` is `a` with another settings table, and some calls later. -/
def WritesSettings (a : Application) (settings : List UserSettings) (b : Application) : Prop :=
  ∃ calls, b = { a with database := { a.database with settings, calls } }

/-- `b` is `a` with a settings table that has no row from elsewhere. -/
def SavesSettings (a b : Application) : Prop :=
  ∃ settings, WritesSettings a settings b ∧
    ∀ row ∈ settings, row ∈ a.userSettings ∨ row ∈ a.database.settings

theorem insertSettings_run (a : Application) {row : UserSettings} (member : row ∈ a.userSettings) :
    Query (SavesSettings a) (do prepare env 2; execute env (insertSettings row))
      fun _ => SavesSettings a := by
  refine Query.of_forall fun s saves => ?_
  obtain ⟨settings, ⟨calls, rfl⟩, listed⟩ := saves
  refine (reads_prepare 2).query
    (fun calls' _ => ⟨settings, ⟨calls', rfl⟩, listed⟩) fun calls' => ?_
  refine (execute_run (insertSettings row) _).weaken fun result b outcome => ?_
  rcases outcome with ⟨_, database, inserted, rfl⟩ | ⟨_, _, rfl⟩
  · unfold insertSettings at inserted
    split at inserted
    · cases inserted
    · cases inserted
      refine ⟨settings ++ [row], ⟨_, rfl⟩, fun other among => ?_⟩
      rcases List.mem_append.mp among with old | new
      · exact listed other old
      · rw [List.mem_singleton.mp new]
        exact Or.inl member
  · exact ⟨settings, ⟨_, rfl⟩, listed⟩

theorem dbSaveSettings_run (a : Application) :
    Query (· = a) (dbSaveSettings env) fun _ => SavesSettings a := by
  unfold dbSaveSettings
  refine (execute_run deleteSettings a).bind ?_ fun _ => Query.of_forall fun b outcome => ?_
  · rintro s (⟨impossible, _⟩ | ⟨_, _, rfl⟩)
    · cases impossible
    · exact ⟨a.database.settings, ⟨_, rfl⟩, fun _ => Or.inr⟩
  · rcases outcome with ⟨_, database, deleted, rfl⟩ | ⟨impossible, _⟩
    · cases deleted
      refine Reads.query (reads_get : Reads env get id)
        (fun calls _ => ⟨[], ⟨calls, rfl⟩, nofun⟩) fun calls => ?_
      refine (Query.forM _ fun row member => insertSettings_run a member).mono ?_ fun _ _ => id
      rintro _ rfl
      exact ⟨[], ⟨calls, rfl⟩, nofun⟩
    · cases impossible

/-- What `fetch` reads into `_userSettings`: all rows, or the first ones if a call fails. -/
theorem fetchSettings_run (rows : List UserSettings) (a : Application) :
    Query (· = a) (fetch env readSettings () rows) fun _ b =>
      ∃ read, read <+: rows ∧ (Reliable env → read = rows) ∧
        ∃ calls, b = { a.counted calls with userSettings := a.userSettings ++ read } := by
  induction rows generalizing a with
  | nil =>
      have none_read : ∀ calls, ∃ read, read <+: ([] : List UserSettings) ∧
          (Reliable env → read = []) ∧ ∃ calls', a.counted calls =
            { a.counted calls' with userSettings := a.userSettings ++ read } :=
        fun calls => ⟨[], List.prefix_refl _, fun _ => rfl, calls, by rw [List.append_nil]; rfl⟩
      refine reads_call.query (fun calls _ => none_read calls) fun calls => ?_
      refine reads_call.query (fun calls _ => none_read calls) fun calls' => ?_
      refine Query.of_pure fun s same => ?_
      cases same
      exact none_read calls'
  | cons row rows ih =>
      refine reads_call.query (fun calls unreliable => ?_) fun calls => ?_
      · exact ⟨[], List.nil_prefix, fun reliable => absurd reliable unreliable, calls, by
          rw [List.append_nil]; rfl⟩
      · have reads : Query (· = a.counted calls) (readSettings () row) fun result b =>
            result = some () ∧
              b = { a.counted calls with userSettings := a.userSettings ++ [row] } :=
          Query.of_modify fun s same => ⟨rfl, by rw [same]; rfl⟩
        refine reads.bind (fun s impossible => nomatch impossible.1) fun _ => ?_
        refine Query.of_forall fun s later => ?_
        rw [later.2]
        refine (ih _).weaken fun _ b outcome => ?_
        · obtain ⟨read, isPrefix, all, calls', same⟩ := outcome
          refine ⟨row :: read, List.cons_prefix_cons.mpr ⟨rfl, isPrefix⟩, ?_, calls', ?_⟩
          · exact fun reliable => by rw [all reliable]
          · rw [same]
            simp [counted]

/-! ## The data table -/

/-- The rows `dbGetGpsData` reads. -/
def selectedRows (env : AppEnv) (limit : Nat) (validOnly : Bool) (data : List DataRow) :
    List DataRow :=
  let rows := env.orderBy (if validOnly then data.filter (·.valid = 1) else data)
  if limit ≠ 0 then limitRows limit rows else rows

/-- The messages that are read from some rows, all into one `gpsMessage`. -/
def readRows (gpsMessage : GpsMessage) : List DataRow → List GpsMessage
  | [] => []
  | row :: rows => rowMessage gpsMessage row :: readRows (rowMessage gpsMessage row) rows

/-- The vector `dbGetGpsData` fills. -/
def storedData (env : AppEnv) (limit : Nat) (validOnly : Bool) (data : List DataRow) :
    List GpsMessage :=
  readRows {} (selectedRows env limit validOnly data)

theorem reads_rows (rows : List DataRow) :
    Reads env (do
      let result ← fetch env readData ([], {}) rows
      return result.1) fun _ => readRows {} rows := by
  let next (result : List GpsMessage × GpsMessage) (row : DataRow) :=
    (result.1 ++ [rowMessage result.2 row], rowMessage result.2 row)
  have collected : ∀ rows result, (List.foldl next result rows).1 =
      result.1 ++ readRows result.2 rows := by
    intro rows
    induction rows with
    | nil => exact fun result => (List.append_nil _).symm
    | cons row rows ih =>
        intro result
        rw [List.foldl_cons, ih, List.append_assoc]
        rfl
  have fetched : Reads env (fetch env readData ([], {}) rows) fun _ =>
      List.foldl next ([], {}) rows := reads_fetch (fun _ _ => rfl) rows _
  have all := fetched.bind (fun result => reads_pure result.1) fun _ _ _ => rfl
  rw [collected] at all
  exact all

theorem reads_dbGetGpsData (limit : Nat) (validOnly : Bool) :
    Reads env (dbGetGpsData env limit validOnly) fun a =>
      storedData env limit validOnly a.database.data := by
  have selects : ∀ select : List DataRow → List DataRow, Reads env (do
      let a ← get
      let result ← fetch env readData ([], {}) (select a.database.data)
      return result.1) fun a => readRows {} (select a.database.data) := fun select =>
    Reads.bind (g := fun a _ => readRows {} (select a.database.data)) reads_get
      (fun a => reads_rows (select a.database.data)) fun _ _ _ => rfl
  have whole := Reads.bind (reads_prepare (if limit ≠ 0 then 1 else 0))
    (fun _ => selects (selectedRows env limit validOnly)) fun _ _ _ => rfl
  exact whole

/-- `b` is `a` with another data table, and some calls later. -/
def WritesData (a : Application) (data : List DataRow) (b : Application) : Prop :=
  ∃ calls, b = { a with database := { a.database with data, calls } }

theorem dbAddGpsData_run (data : GpsMessage) (a : Application) :
    Query (· = a) (dbAddGpsData env data) fun result b =>
      (result = some () ∧ WritesData a (a.database.data ++ [dataRow data]) b) ∨
        (result = none ∧ ¬ Reliable env ∧ WritesData a a.database.data b) := by
  unfold dbAddGpsData
  refine (reads_prepare 9).query (fun calls unreliable => ?_) fun calls => ?_
  · exact Or.inr ⟨rfl, unreliable, calls, rfl⟩
  · refine (execute_run (insertData (dataRow data)) _).weaken fun result b outcome => ?_
    rcases outcome with ⟨done, _, inserted, same⟩ | ⟨failed, refused, same⟩
    · cases inserted
      exact Or.inl ⟨done, _, same⟩
    · exact Or.inr ⟨failed, refused.resolve_right nofun, _, same⟩

/-- What `dbRestoreSettings` does after it has asked for the last event. -/
theorem restoreRows_run (a : Application) :
    Query (· = a)
      (do
        modify fun a => { a with userSettings := [] }
        prepare env 0
        let a ← get
        fetch env readSettings () a.database.settings)
      fun _ b => ∃ read, read <+: a.database.settings ∧
        (Reliable env → read = a.database.settings) ∧
        ∃ calls, b = { a.counted calls with userSettings := read } := by
  have clears : Query (· = a)
      (modify fun a => { a with userSettings := [] } : Sql Unit) fun result b =>
        result = some () ∧ b = { a with userSettings := [] } :=
    Query.of_modify fun s same => ⟨rfl, by rw [same]⟩
  refine clears.bind (fun s impossible => nomatch impossible.1) fun _ => ?_
  refine Query.of_forall fun s cleared => ?_
  obtain ⟨_, rfl⟩ := cleared
  have fails : ∀ calls, ¬ Reliable env → ∃ read, read <+: a.database.settings ∧
      (Reliable env → read = a.database.settings) ∧
      ∃ calls', ({ a with userSettings := [] } : Application).counted calls =
        { a.counted calls' with userSettings := read } :=
    fun calls unreliable =>
      ⟨[], List.nil_prefix, fun reliable => absurd reliable unreliable, calls, rfl⟩
  refine (reads_prepare 0).query fails fun calls => reads_get.query fails fun calls => ?_
  exact fetchSettings_run _ _

theorem dbRestoreSettings_run (a : Application) :
    Query (· = a) (dbRestoreSettings env) fun _ b =>
      (∃ calls, b = { a.counted calls with
        lastMessage := b.lastMessage, userSettings := b.userSettings }) ∧
      (∀ row ∈ b.userSettings, row ∈ a.database.settings) ∧
      (Reliable env → b.userSettings = a.database.settings ∧
        b.lastMessage = ((storedData env 1 false a.database.data).head?).getD a.lastMessage) := by
  have asks : Query (· = a) (dbGetGpsData env 1 false <|> pure []) fun result b =>
      (∃ calls, b = a.counted calls) ∧ ∃ data, result = some data ∧
        (Reliable env → data = storedData env 1 false a.database.data) := by
    refine (reads_dbGetGpsData 1 false a).orElse ?_ ?_
    · refine Query.of_pure fun s outcome => ?_
      obtain ⟨counted, absurd | ⟨_, unreliable⟩⟩ := outcome
      · cases absurd
      · exact ⟨counted, [], rfl, fun reliable => absurd reliable unreliable⟩
    · rintro data s ⟨counted, same | ⟨absurd, _⟩⟩
      · cases same
        exact ⟨counted, _, rfl, fun _ => rfl⟩
      · cases absurd
  unfold dbRestoreSettings
  refine asks.bind ?_ fun data => Query.of_forall fun s outcome => ?_
  · rintro s ⟨_, data, impossible, _⟩
    cases impossible
  · obtain ⟨⟨calls, rfl⟩, _, same, all⟩ := outcome
    cases same
    cases data with
    | nil =>
        dsimp only
        refine (restoreRows_run _).weaken fun _ b outcome => ?_
        obtain ⟨read, isPrefix, complete, calls', rfl⟩ := outcome
        refine ⟨⟨calls', rfl⟩, fun row member => isPrefix.subset member, fun reliable => ?_⟩
        rw [← all reliable]
        exact ⟨complete reliable, rfl⟩
    | cons message rest =>
        have sets : Query (· = a.counted calls)
            (modify fun a => { a with lastMessage := message } : Sql Unit) fun result b =>
              result = some () ∧ b = { a.counted calls with lastMessage := message } :=
          Query.of_modify fun s same => ⟨rfl, by rw [same]⟩
        refine sets.bind (fun s impossible => nomatch impossible.1) fun _ => ?_
        refine Query.of_forall fun s set => ?_
        obtain ⟨_, rfl⟩ := set
        refine (restoreRows_run _).weaken fun _ b outcome => ?_
        obtain ⟨read, isPrefix, complete, calls', rfl⟩ := outcome
        refine ⟨⟨calls', rfl⟩, fun row member => isPrefix.subset member, fun reliable => ?_⟩
        rw [← all reliable]
        exact ⟨complete reliable, rfl⟩

end Application

end GpsInformer
