import GpsInformer.Dialog

/-!
# The application refines the dialog

`Represents` ties an application to a world: the rows of the users table to levels, and the
rest as it is.  Each handler is one of the cases of `Does`, a command line is one of `Replies`
(`handleChatCommand_refines`: of all the handlers that are tried at most one runs), and so on
up to the events, whatever calls of SQLite fail.  With the calls on the bot written down
(`speak`), every run of the application is a history of the dialog (`talks_of_run`).
-/

namespace GpsInformer

open Lib Function

open TgBot (Message)

/-! ## Levels in the users table -/

section Lookup

variable {β : Type} {xs : List (Int × β)} {k id : Int} {v : β}

theorem lookup_cons (x : Int × β) (xs : List (Int × β)) :
    (fun id => (x :: xs).lookup id) = update (fun id => xs.lookup id) x.1 (some x.2) := by
  funext id
  obtain ⟨k, v⟩ := x
  by_cases same : id = k
  · subst same
    rw [update_self]
    exact List.lookup_cons_self
  · rw [update_of_ne same]
    have differ : (id == k) = false := beq_eq_false_iff_ne.mpr same
    rw [List.lookup_cons, differ]

theorem lookup_eq_none_iff : xs.lookup k = none ↔ k ∉ xs.map Prod.fst := by
  induction xs with
  | nil => exact iff_of_true rfl List.not_mem_nil
  | cons x xs ih =>
      have first := congrFun (lookup_cons x xs) k
      rw [List.map_cons, List.mem_cons, not_or, ← ih]
      rw [first]
      by_cases same : k = x.1
      · rw [← same, update_self]
        exact iff_of_false (Option.some_ne_none _) fun both => both.1 rfl
      · rw [update_of_ne same]
        exact ⟨fun rest => ⟨same, rest⟩, And.right⟩

theorem mem_of_lookup (found : xs.lookup k = some v) : (k, v) ∈ xs := by
  induction xs with
  | nil => cases found
  | cons x xs ih =>
      have first := congrFun (lookup_cons x xs) k
      rw [first] at found
      by_cases same : k = x.1
      · subst same
        rw [update_self] at found
        cases found
        exact List.mem_cons_self ..
      · rw [update_of_ne same] at found
        exact List.mem_cons_of_mem _ (ih found)

theorem lookup_of_mem (unique : (xs.map Prod.fst).Nodup) (member : (k, v) ∈ xs) :
    xs.lookup k = some v := by
  cases found : xs.lookup k with
  | none => exact absurd (List.mem_map_of_mem member) (lookup_eq_none_iff.mp found)
  | some v' =>
      have same := List.inj_on_of_nodup_map unique member (mem_of_lookup found) rfl
      cases same
      rfl

theorem lookup_concat (absent : k ∉ xs.map Prod.fst) :
    (fun id => (xs ++ [(k, v)]).lookup id) = update (fun id => xs.lookup id) k (some v) := by
  induction xs with
  | nil => exact lookup_cons (k, v) []
  | cons x xs ih =>
      rw [List.map_cons, List.mem_cons, not_or] at absent
      rw [List.cons_append, lookup_cons, ih absent.2, lookup_cons, update_comm (Ne.symm absent.1)]

theorem lookup_replace (present : k ∈ xs.map Prod.fst) :
    (fun id => (xs.map fun x => if x.1 = k then (k, v) else x).lookup id) =
      update (fun id => xs.lookup id) k (some v) := by
  funext id
  by_cases mine : id = k
  · subst mine
    rw [update_self]
    induction xs with
    | nil => cases present
    | cons x xs ih =>
        rw [List.map_cons]
        refine (congrFun (lookup_cons _ _) id).trans ?_
        by_cases same : x.1 = id
        · rw [if_pos same, update_self]
        · rw [if_neg same, update_of_ne (Ne.symm same)]
          rcases List.mem_cons.mp present with here | later
          · exact absurd here.symm same
          · exact ih later
  · rw [update_of_ne mine]
    clear present
    induction xs with
    | nil => rfl
    | cons x xs ih =>
        rw [List.map_cons]
        refine (congrFun (lookup_cons _ _) id).trans
          (Eq.trans ?_ (congrFun (lookup_cons x xs) id).symm)
        by_cases same : x.1 = k
        · rw [if_pos same, update_of_ne mine, update_of_ne (same ▸ mine)]
          exact ih
        · rw [if_neg same]
          by_cases own : id = x.1
          · rw [own, update_self, update_self]
          · rw [update_of_ne own, update_of_ne own]
            exact ih

end Lookup

namespace Application

/-- The world in which an application lives. -/
structure Represents (a : Application) (w : World) : Prop where
  level : w.level = fun id => (grants a.database.users).lookup id
  users : (a.database.users.map UserRow.id).Nodup
  modes : w.modes = a.userSettings
  chosen : (a.userSettings.map UserSettings.id).Nodup
  saved : w.saved = a.database.settings
  stored : (a.database.settings.map UserSettings.id).Nodup
  reports : w.reports = a.database.data
  last : w.last = a.lastMessage

/-- What an action says, and the world it leaves. -/
def Outcome (a : Application) (allowed : List TelegramCall → World → Prop) (b : Application) :
    Prop :=
  ∃ calls w', allowed calls w' ∧ b.outbox = a.outbox ++ calls ∧ Represents b w'

variable {env : AppEnv} {a b : Application} {w w' : World} {tg : TgBot.User} {message : Message}
  {user : User} {line : List Str} {allowed : List TelegramCall → World → Prop}

theorem map_fst_grants (users : List UserRow) :
    (grants users).map Prod.fst = users.map UserRow.id := by
  unfold grants
  rw [List.map_map]
  rfl

/-- Neither what is said nor what is written down is part of the world. -/
theorem Represents.said (represents : Represents a w) (outbox : List TelegramCall)
    (journal : List Deed) : Represents { a with outbox, journal } w :=
  ⟨represents.level, represents.users, represents.modes, represents.chosen, represents.saved,
    represents.stored, represents.reports, represents.last⟩

theorem Represents.counted (represents : Represents a w) (calls : Nat) :
    Represents (a.counted calls) w :=
  ⟨represents.level, represents.users, represents.modes, represents.chosen, represents.saved,
    represents.stored, represents.reports, represents.last⟩

theorem Represents.writes (represents : Represents a w) {users : List UserRow}
    {level : Int → Option Nat} (written : WritesUsers a users b)
    (unique : (users.map UserRow.id).Nodup)
    (levels : level = fun id => (grants users).lookup id) : Represents b { w with level } := by
  obtain ⟨calls, rfl⟩ := written
  exact ⟨levels, unique, represents.modes, represents.chosen, represents.saved,
    represents.stored, represents.reports, represents.last⟩

theorem Represents.renamed (represents : Represents a w)
    (written : ∃ users, WritesUsers a users b ∧ grants users = grants a.database.users) :
    Represents b w ∧ b.outbox = a.outbox := by
  obtain ⟨users, written, same⟩ := written
  have unique : (users.map UserRow.id).Nodup := by
    rw [← map_fst_grants, same, map_fst_grants]
    exact represents.users
  refine ⟨represents.writes written unique ?_, ?_⟩
  · rw [same]
    exact represents.level
  · obtain ⟨calls, rfl⟩ := written
    rfl

/-! ## Answers -/

theorem telegram_outcome (represents : Represents a w) {call : TelegramCall}
    (allows : allowed [call] w) :
    Triple (· = a) (telegram call) fun _ => Outcome a allowed := by
  refine Triple.of_modify fun b same => ?_
  rw [same]
  exact ⟨[call], w, allows, rfl, represents.said _ a.journal⟩

theorem answer_outcome (represents : Represents a w) (sender : message.from = some tg) {text : Str}
    {parseMode : ParseMode} (allows : allowed [World.say tg.id text parseMode] w) :
    Triple (· = a) (answer message text parseMode) fun _ => Outcome a allowed := by
  unfold answer
  rw [sender]
  exact (triple_deref tg).bind fun user => Triple.of_fact fun same => by
    rw [same]
    exact telegram_outcome represents allows

/-- A handler that gives its user back. -/
theorem gives_back {x : App Unit} {post : Application → Prop}
    (triple : Triple (· = a) x fun _ => post) (user : User) :
    Triple (· = a) (do x; return user) fun _ => post :=
  triple.bind fun _ => Triple.of_pure fun _ holds => holds

/-- What `dbSearchUser` has found out about the sender. -/
structure Knows (w : World) (tg : TgBot.User) (user : User) : Prop where
  known : user.tg = some tg
  level : w.level tg.id = if user.valid then some user.access else none

theorem Found.knows (represents : Represents a w) (found : Found a tg user) : Knows w tg user where
  known := found.known
  level := by
    have unique : ((grants a.database.users).map Prod.fst).Nodup := by
      rw [map_fst_grants]
      exact represents.users
    rw [represents.level]
    split
    · rename_i valid
      obtain ⟨row, member, id, access⟩ := found.listed valid
      apply lookup_of_mem unique
      rw [← id, ← access]
      exact mem_grants member
    · rename_i invalid
      refine lookup_eq_none_iff.mpr fun member => ?_
      rw [map_fst_grants] at member
      obtain ⟨row, among, same⟩ := List.mem_map.mp member
      exact found.missing (eq_false_of_ne_true invalid) row among same

theorem Knows.access (knows : Knows w tg user) :
    w.access tg.id = if user.valid then user.access else Access.default := by
  unfold World.access
  rw [knows.level]
  split
  · rfl
  · rfl

/-! ## The commands -/

theorem handleStartCommand_refines (represents : Represents a w) (sender : message.from = some tg)
    (knows : Knows w tg user) (line : List Str) :
    Triple (· = a) (handleStartCommand user message) fun _ =>
      Outcome a (World.Does env w tg .handleStartCommand line) := by
  have said : ∀ text, w.greeting tg = text →
      World.Does env w tg .handleStartCommand line [World.say tg.id text .markdown] w :=
    fun text same => same ▸ .start line
  have level := knows.level
  unfold handleStartCommand
  split
  · rename_i valid
    rw [if_pos valid] at level
    rw [knows.known]
    refine (triple_deref tg).bind fun tg' => Triple.of_fact fun same => ?_
    rw [same]
    refine answer_outcome represents sender (said _ ?_)
    unfold World.greeting
    rw [level]
  · rename_i invalid
    rw [if_neg invalid] at level
    refine answer_outcome represents sender (said _ ?_)
    unfold World.greeting
    rw [level]
    rfl

theorem handleHelpCommand_refines (represents : Represents a w) (sender : message.from = some tg)
    (knows : Knows w tg user) (line : List Str) :
    Triple (· = a) (handleHelpCommand user message) fun _ =>
      Outcome a (World.Does env w tg .handleHelpCommand line) := by
  have said : ∀ access, w.access tg.id = access →
      World.Does env w tg .handleHelpCommand line [World.say tg.id (World.help access) .none] w :=
    fun access same => same ▸ .help line
  exact answer_outcome represents sender (said _ knows.access)

/-- The users table holds the sender with a level. -/
theorem Represents.raised (represents : Represents a w) (knows : Knows w tg user)
    (valid : user.valid = true) {raised : User}
    (written : WritesUsers a
      (a.database.users.map fun old => if old.id = tg.id then userRow raised tg else old) b) :
    Represents b (w.register tg.id raised.access) := by
  have listed : w.level tg.id = some user.access := by
    rw [knows.level, if_pos valid]
  have present : tg.id ∈ (grants a.database.users).map Prod.fst := by
    rw [represents.level] at listed
    exact List.mem_map_of_mem (mem_of_lookup listed)
  have ids : (a.database.users.map fun old =>
      if old.id = tg.id then userRow raised tg else old).map UserRow.id =
        a.database.users.map UserRow.id := by
    rw [List.map_map]
    refine List.map_congr_left fun old _ => ?_
    dsimp only [Function.comp]
    split
    · rename_i same
      exact same.symm
    · rfl
  refine represents.writes written ?_ ?_
  · rw [ids]
    exact represents.users
  · rw [grants_update, lookup_replace present, represents.level]

theorem Represents.registered (represents : Represents a w)
    (absent : tg.id ∉ a.database.users.map UserRow.id) {registered : User}
    (written : WritesUsers a (a.database.users ++ [userRow registered tg]) b) :
    Represents b (w.register tg.id registered.access) := by
  refine represents.writes written ?_ ?_
  · rw [List.map_append]
    refine List.nodup_append.mpr ⟨represents.users, List.nodup_singleton _,
      fun id member id' single same => absent ?_⟩
    have own : id' = tg.id := List.mem_singleton.mp single
    rw [← own, ← same]
    exact member
  · have grown : grants (a.database.users ++ [userRow registered tg]) =
        grants a.database.users ++ [(tg.id, registered.access)] := List.map_append
    rw [← map_fst_grants] at absent
    rw [grown, lookup_concat absent, represents.level]

theorem Represents.unwritten (represents : Represents a w)
    (written : WritesUsers a a.database.users b) : Represents b w :=
  represents.writes written represents.users represents.level

theorem WritesUsers.outbox {users : List UserRow} (written : WritesUsers a users b) :
    b.outbox = a.outbox := by
  obtain ⟨calls, rfl⟩ := written
  rfl

theorem checkCode_refines (represents : Represents a w) (sender : message.from = some tg)
    (knows : Knows w tg user) (code : Str) :
    Triple (· = a) (checkCode env code user message) fun result b =>
      ∃ w', World.Presents env w tg code result.2 w' ∧ b.outbox = a.outbox ∧ Represents b w' := by
  have access := knows.access
  have level := knows.level
  have unchanged : ∀ (result : User × Str), World.Presents env w tg code result.2 w →
      Triple (· = a) (pure result : App (User × Str)) fun result b =>
        ∃ w', World.Presents env w tg code result.2 w' ∧ b.outbox = a.outbox ∧ Represents b w' := by
    intro result presents
    refine Triple.of_pure fun b same => ?_
    rw [same]
    exact ⟨w, presents, rfl, represents⟩
  unfold checkCode
  dsimp only
  split
  · rename_i valid
    rw [if_pos valid] at level access
    split
    · rename_i better
      have better' : w.access tg.id < codeAccess env code := access ▸ better
      have updates := triple_sql (@dbUpdateUser_run env
        { user with access := codeAccess env code } tg valid knows.known a)
      refine updates.bind fun updated => ?_
      cases updated with
      | none =>
          refine Triple.of_pure fun b outcome => ?_
          rcases outcome with ⟨impossible, _⟩ | ⟨_, unreliable, written⟩
          · cases impossible
          · exact ⟨w, .failed better' unreliable, written.outbox, represents.unwritten written⟩
      | some _ =>
          refine Triple.of_pure fun b outcome => ?_
          rcases outcome with ⟨_, written⟩ | ⟨impossible, _⟩
          · exact ⟨_, .raised level better, written.outbox,
              represents.raised knows valid written⟩
          · cases impossible
    · rename_i worse
      split
      · rename_i good
        exact unchanged _ (.reached level good (Nat.le_of_not_lt worse))
      · rename_i bad
        exact unchanged _ (.wrong level (Nat.le_of_not_lt bad))
  · rename_i invalid
    rw [if_neg invalid] at level access
    split
    · rename_i good
      have good' : w.access tg.id < codeAccess env code := access ▸ good
      have absent : tg.id ∉ a.database.users.map UserRow.id := by
        rw [← map_fst_grants, ← lookup_eq_none_iff]
        rw [represents.level] at level
        exact level
      have creates := triple_sql (@dbCreateUser_run env
        { access := codeAccess env code, tg := message.from, valid := true } tg rfl sender a
        fun row member same => absent (same ▸ List.mem_map_of_mem member))
      refine creates.bind fun created => ?_
      cases created with
      | none =>
          refine Triple.of_pure fun b outcome => ?_
          rcases outcome with ⟨impossible, _⟩ | ⟨_, unreliable, written⟩
          · cases impossible
          · exact ⟨w, .failed good' unreliable, written.outbox, represents.unwritten written⟩
      | some _ =>
          refine Triple.of_pure fun b outcome => ?_
          rcases outcome with ⟨_, written⟩ | ⟨impossible, _⟩
          · exact ⟨_, .registered level good, written.outbox,
              represents.registered absent written⟩
          · cases impossible
    · rename_i bad
      exact unchanged _ (.denied level (Nat.le_of_not_lt bad))

theorem handlePasswordCommand_refines (represents : Represents a w)
    (sender : message.from = some tg) (knows : Knows w tg user) (line : List Str) :
    Triple (· = a) (handlePasswordCommand env line user message) fun _ =>
      Outcome a (World.Does env w tg .handlePasswordCommand line) := by
  unfold handlePasswordCommand
  split
  · rename_i name code
    refine (checkCode_refines represents sender knows code).bind fun result => ?_
    refine Triple.of_forall fun b checked => ?_
    obtain ⟨w', presents, outbox, represents'⟩ := checked
    have answers : Triple (· = b) (answer message result.2 .markdown) fun _ =>
        Outcome b fun calls w'' => w'' = w' ∧ calls = [World.say tg.id result.2 .markdown] :=
      answer_outcome represents' sender ⟨rfl, rfl⟩
    refine answers.bind fun _ => Triple.of_pure fun c outcome => ?_
    obtain ⟨calls, w'', ⟨rfl, rfl⟩, said, represents''⟩ := outcome
    rw [outbox] at said
    exact ⟨_, _, .password presents, said, represents''⟩
  · rename_i other
    refine gives_back (answer_outcome represents sender (.usage fun name code same => ?_)) user
    exact other name code same

theorem sendLast_refines (represents : Represents a w) (sender : message.from = some tg)
    (validOnly : Bool) (missing : String) :
    Triple (· = a) (sendLast env validOnly missing message) fun _ =>
      Outcome a fun calls w' => World.Reports env w tg validOnly missing calls ∧ w' = w := by
  have latest : w.latest env validOnly = (storedData env 1 validOnly a.database.data).head? := by
    unfold World.latest
    rw [represents.reports]
  refine (triple_sql (reads_dbGetGpsData 1 validOnly a)).bind fun rows => ?_
  refine Triple.of_forall fun b outcome => ?_
  obtain ⟨⟨calls, rfl⟩, given | ⟨rfl, unreliable⟩⟩ := outcome
  · subst given
    dsimp only
    revert latest
    generalize storedData env 1 validOnly a.database.data = rows
    intro latest
    cases rows with
    | nil => exact answer_outcome (represents.counted calls) sender ⟨.missing latest, rfl⟩
    | cons data rest =>
        dsimp only
        rw [sender]
        refine (triple_deref tg).bind fun tg' => Triple.of_fact fun same => ?_
        rw [same]
        refine (sendGpsStatus_run data tg.id (a.counted calls)).weaken fun _ c sent => ?_
        unfold SendsTo at sent
        rw [List.flatMap_cons, List.flatMap_nil, List.append_nil] at sent
        rw [sent]
        exact ⟨_, w, ⟨.sent latest, rfl⟩, rfl, (represents.counted calls).said _ _⟩
  · exact answer_outcome (represents.counted calls) sender ⟨.failed unreliable, rfl⟩

theorem Outcome.imp {allowed' : List TelegramCall → World → Prop} (outcome : Outcome a allowed b)
    (weaker : ∀ calls w', allowed calls w' → allowed' calls w') : Outcome a allowed' b := by
  obtain ⟨calls, w', allows, said, represents⟩ := outcome
  exact ⟨calls, w', weaker _ _ allows, said, represents⟩

/-- Settings are saved whole, unless a call fails. -/
theorem saveSettings_refines (represents : Represents a w) :
    Triple (· = a) (saveSettings env tg.id) fun _ => Outcome a (World.Saves env w tg) := by
  have writes : ∀ (b : Application) (rows : List UserSettings), WritesSettings a rows b →
      rows = w.saved ∨ rows <+: w.modes →
      b.outbox = a.outbox ∧ Represents b { w with saved := rows } := by
    rintro b rows ⟨calls, rfl⟩ kept
    have unique : (rows.map UserSettings.id).Nodup := by
      rcases kept with rfl | isPrefix
      · rw [represents.saved]
        exact represents.stored
      · rw [represents.modes] at isPrefix
        exact represents.chosen.sublist (isPrefix.sublist.map _)
    exact ⟨rfl, represents.level, represents.users, represents.modes, represents.chosen, rfl,
      unique, represents.reports, represents.last⟩
  have fails' : ∀ (b : Application) (rows : List UserSettings), WritesSettings a rows b →
      ¬ Reliable env → rows = w.saved ∨ rows <+: w.modes →
      Triple (· = b) (telegram (.sendMessage tg.id
        "I have troubles with database connection.".toList .none))
        fun _ => Outcome a (World.Saves env w tg) := by
    intro b rows written unreliable kept
    obtain ⟨outbox, represents'⟩ := writes b rows written kept
    have same : Outcome b (World.Saves env w tg) = Outcome a (World.Saves env w tg) := by
      unfold Outcome
      rw [outbox]
    rw [← same]
    exact telegram_outcome represents' (.failed unreliable kept)
  unfold saveSettings
  refine (triple_sql (dbSaveSettings_leaves env a)).bind fun saved => ?_
  refine Triple.of_forall fun b outcome => ?_
  rcases outcome with ⟨rfl, _, _, written⟩ | ⟨rfl, fails, written⟩ |
    ⟨rfl, _, front, row, back, split, unsaved, written⟩
  · refine Triple.of_pure fun c same => ?_
    obtain ⟨outbox, represents'⟩ :=
      writes b _ written (Or.inr (represents.modes ▸ List.prefix_refl _))
    rw [same]
    refine ⟨[], _, ?_, by rw [outbox, List.append_nil], represents'⟩
    rw [← represents.modes]
    exact .saved
  · refine fails' b _ written (fun reliable => ?_) (Or.inl represents.saved.symm)
    cases (reliable _).symm.trans fails
  · refine fails' b _ written (fun reliable => ?_) (Or.inr ?_)
    · rcases unsaved with ⟨k, _, fails⟩ | taken
      · cases (reliable _).symm.trans fails
      · have unique := represents.chosen
        rw [split, List.map_append, List.map_cons] at unique
        exact (List.nodup_append.mp unique).2.2 _ taken _ List.mem_cons_self rfl
    · rw [represents.modes, split]
      exact List.prefix_append ..

theorem setStatus_eq_some {rows rows' : List UserSettings} {id : Int} {status : Nat}
    (unique : (rows.map UserSettings.id).Nodup) (found : setStatus id status rows = some rows') :
    id ∈ rows.map UserSettings.id ∧
      rows' = rows.map fun row => if row.id = id then ⟨id, status⟩ else row := by
  induction rows generalizing rows' with
  | nil => cases found
  | cons row rows ih =>
      rw [List.map_cons, List.nodup_cons] at unique
      unfold setStatus at found
      split at found
      · rename_i same
        cases found
        refine ⟨List.mem_cons.mpr (Or.inl same.symm), ?_⟩
        rw [List.map_cons, if_pos same]
        refine congrArg₂ List.cons (by rw [← same]) ?_
        refine (List.map_id rows).symm.trans (List.map_congr_left fun other among => ?_)
        have differs : other.id ≠ id := fun mine =>
          unique.1 (by rw [same, ← mine]; exact List.mem_map_of_mem among)
        rw [if_neg differs]
        rfl
      · rename_i other
        obtain ⟨rest, found', rfl⟩ := Option.map_eq_some_iff.mp found
        obtain ⟨listed, same⟩ := ih unique.2 found'
        refine ⟨List.mem_cons_of_mem _ listed, ?_⟩
        rw [List.map_cons, if_neg other, ← same]

/-- What both commands make of the settings. -/
theorem Represents.chooses (represents : Represents a w) {rows : List UserSettings} {id : Int}
    {status : Nat}
    (chosen : rows = (setStatus id status a.userSettings).getD (a.userSettings ++ [⟨id, status⟩])) :
    Represents { a with userSettings := rows } (w.choose id status) := by
  have settings := @settings_arm id status _ represents.chosen
  refine ⟨represents.level, represents.users, ?_, chosen ▸ settings.1, represents.saved,
    represents.stored, represents.reports, represents.last⟩
  unfold World.choose
  dsimp only
  rw [chosen, represents.modes]
  cases found : setStatus id status a.userSettings with
  | none => rw [if_neg (setStatus_eq_none.mp found), Option.getD_none]
  | some rows =>
      obtain ⟨listed, rfl⟩ := setStatus_eq_some represents.chosen found
      rw [if_pos listed, Option.getD_some]

/-- The mode is set, the user is told, and the settings are saved. -/
theorem choose_refines (represents : Represents a w) {rows : List UserSettings} {status : Nat}
    (chosen : rows = (setStatus tg.id status a.userSettings).getD
      (a.userSettings ++ [⟨tg.id, status⟩])) {call : TelegramCall}
    (allows : ∀ calls w', World.Saves env (w.choose tg.id status) tg calls w' →
      allowed (call :: calls) w') :
    Triple (· = a)
      (do
        set { a with userSettings := rows }
        telegram call
        saveSettings env tg.id)
      fun _ => Outcome a allowed := by
  have chooses := represents.chooses chosen
  have sets : Triple (· = a) (set { a with userSettings := rows } : App Unit) fun _ b =>
      b = { a with userSettings := rows } := Triple.of_set fun _ _ => rfl
  refine sets.bind fun _ => ?_
  have tells : Triple (· = { a with userSettings := rows }) (telegram call) fun _ =>
      Outcome { a with userSettings := rows } fun calls w' =>
        calls = [call] ∧ w' = w.choose tg.id status :=
    telegram_outcome chooses ⟨rfl, rfl⟩
  refine tells.bind fun _ => ?_
  refine Triple.of_forall fun b outcome => ?_
  obtain ⟨calls, w', ⟨rfl, rfl⟩, said, represents'⟩ := outcome
  refine (saveSettings_refines represents').weaken fun _ c outcome => ?_
  obtain ⟨more, w'', saves, said', represents''⟩ := outcome
  refine ⟨call :: more, w'', allows more w'' saves, ?_, represents''⟩
  rw [said', said, List.append_assoc]
  rfl

theorem handleArmCommand_refines (represents : Represents a w) (sender : message.from = some tg)
    (line : List Str) :
    Triple (· = a) (handleArmCommand env line message) fun _ =>
      Outcome a (World.Does env w tg .handleArmCommand line) := by
  unfold handleArmCommand
  rw [sender]
  refine (triple_deref tg).bind fun tg' => Triple.of_fact fun same => ?_
  rw [same]
  cases requested : requestedStatus line with
  | none => exact telegram_outcome represents (.unknownMode requested)
  | some status =>
      refine Triple.get_bind fun b same => ?_
      subst same
      exact choose_refines represents rfl fun calls w' saves => .arms requested saves

theorem handleDisarmCommand_refines (represents : Represents a w)
    (sender : message.from = some tg) (line : List Str) :
    Triple (· = a) (handleDisarmCommand env message) fun _ =>
      Outcome a (World.Does env w tg .handleDisarmCommand line) := by
  unfold handleDisarmCommand
  rw [sender]
  refine (triple_deref tg).bind fun tg' => Triple.of_fact fun same => ?_
  rw [same]
  refine Triple.get_bind fun b same => ?_
  subst same
  cases found : setStatus tg.id UserSettings.default b.userSettings with
  | some rows =>
      have listed : tg.id ∈ w.modes.map UserSettings.id := by
        rw [represents.modes]
        exact (setStatus_eq_some represents.chosen found).1
      refine choose_refines represents ?_ fun calls w' saves => .disarms line listed saves
      rw [found]
      rfl
  | none =>
      have absent : tg.id ∉ w.modes.map UserSettings.id := by
        rw [represents.modes]
        exact setStatus_eq_none.mp found
      have sets : Triple (· = b) (set b : App Unit) fun _ c => c = b :=
        Triple.of_set fun _ _ => rfl
      refine sets.bind fun _ => ?_
      exact (telegram_outcome represents (.idle line absent)).bind fun _ =>
        Triple.of_pure fun _ outcome => outcome

theorem invoke_refines (represents : Represents a w) (sender : message.from = some tg)
    (knows : Knows w tg user) (handler : CommandHandler) (line : List Str) :
    Triple (· = a) (invoke env handler line user message) fun _ =>
      Outcome a (World.Does env w tg handler line) := by
  cases handler with
  | handleStartCommand =>
      exact gives_back (handleStartCommand_refines represents sender knows line) user
  | handleHelpCommand =>
      exact gives_back (handleHelpCommand_refines represents sender knows line) user
  | handlePasswordCommand => exact handlePasswordCommand_refines represents sender knows line
  | handleWhereCommand =>
      refine gives_back ((sendLast_refines represents sender _ _).weaken fun _ b outcome =>
        outcome.imp ?_) user
      rintro calls w' ⟨reports, rfl⟩
      exact .locates line reports
  | handleStatusCommand =>
      refine gives_back ((sendLast_refines represents sender _ _).weaken fun _ b outcome =>
        outcome.imp ?_) user
      rintro calls w' ⟨reports, rfl⟩
      exact .reports line reports
  | handleArmCommand => exact gives_back (handleArmCommand_refines represents sender line) user
  | handleDisarmCommand =>
      exact gives_back (handleDisarmCommand_refines represents sender line) user

/-! ## Command lines -/

/-- No two commands have the same name. -/
theorem commands_distinct :
    chatCommands.Pairwise fun c d => ¬ iequals c.command d.command := by
  decide

theorem commands_named : ∀ c ∈ chatCommands, (!c.command.isEmpty) = true := by
  decide

theorem iequals_symm {s t : Str} (same : iequals s t) : iequals t s := by
  unfold iequals at *
  rw [decide_eq_true_eq] at *
  exact same.symm

/-- The commands around the one that is called. -/
theorem commands_around {c : ChatCommand} (member : c ∈ chatCommands) :
    ∃ front back, chatCommands = front ++ c :: back ∧
      ∀ d ∈ front ++ back, ¬ iequals d.command c.command := by
  obtain ⟨front, back, split⟩ := List.append_of_mem member
  have distinct := commands_distinct
  rw [split, List.pairwise_append, List.pairwise_cons] at distinct
  obtain ⟨_, ⟨after, _⟩, before⟩ := distinct
  refine ⟨front, back, split, fun d among same => ?_⟩
  rcases List.mem_append.mp among with earlier | later
  · exact before d earlier c (List.mem_cons_self ..) same
  · exact after d later (iequals_symm same)

/-- At most one of the commands runs. -/
theorem commands_refine (represents : Represents a w) (sender : message.from = some tg)
    (knows : Knows w tg user) (name : Str) (rest : List Str) :
    Triple (· = a)
      (chatCommands.foldlM (tryCommand env name (name :: rest) (w.access tg.id) message) user)
      fun _ => Outcome a (World.Replies env w tg (name :: rest)) := by
  by_cases runs : ∃ c ∈ chatCommands, iequals name c.command ∧ c.access ≤ w.access tg.id
  · obtain ⟨c, member, called, allowed⟩ := runs
    obtain ⟨front, back, split, others⟩ := commands_around member
    have skip : ∀ d ∈ front ++ back, ∀ user,
        tryCommand env name (name :: rest) (w.access tg.id) message user d = pure user :=
      fun d among user => tryCommand_skip (fun also =>
        others d among (iequals_trans also called)) user
    rw [split, List.foldlM_append, foldlM_skip fun d among =>
      skip d (List.mem_append_left _ among) user, pure_bind, List.foldlM_cons]
    have once : Triple (· = a)
        (tryCommand env name (name :: rest) (w.access tg.id) message user c)
        fun _ => Outcome a (World.Replies env w tg (name :: rest)) := by
      unfold tryCommand
      rw [if_pos ⟨commands_named c member, called, allowed⟩]
      have records : Triple (· = a) (record (.ran (message.from.map TgBot.User.id) c.access))
          fun _ b => b = { a with journal := a.journal ++
            [.ran (message.from.map TgBot.User.id) c.access] } :=
        Triple.of_modify fun b same => by rw [same]
      refine records.bind fun _ => ?_
      refine (invoke_refines (represents.said a.outbox _) sender knows c.handler _).weaken
        fun _ b outcome => ?_
      exact Outcome.imp (a := a) outcome fun calls w' does => .runs member called allowed does
    refine once.bind fun user' => ?_
    rw [foldlM_skip fun d among => skip d (List.mem_append_right _ among) user']
    exact Triple.of_pure fun _ outcome => outcome
  · have skip : ∀ c ∈ chatCommands,
        tryCommand env name (name :: rest) (w.access tg.id) message user c = pure user :=
      fun c member => if_neg fun met => runs ⟨c, member, met.2.1, met.2.2⟩
    rw [foldlM_skip skip]
    refine Triple.of_pure fun b same => ?_
    rw [same]
    refine ⟨[], w, .ignored fun c member called => ?_, (List.append_nil _).symm, represents⟩
    exact Nat.lt_of_not_le fun allowed => runs ⟨c, member, called, allowed⟩

theorem handleChatCommand_refines (represents : Represents a w) (sender : message.from = some tg)
    (line : List Str) :
    Triple (· = a) (handleChatCommand env line message) fun _ =>
      Outcome a (World.Replies env w tg line) := by
  unfold handleChatCommand
  split
  · refine Triple.of_pure fun b same => ?_
    rw [same]
    exact ⟨[], w, .empty, (List.append_nil _).symm, represents⟩
  · rename_i name rest
    have records : Triple (· = a)
        (record (.told (message.from.map TgBot.User.id) (name :: rest)))
        fun _ b => b = { a with journal := a.journal ++
          [.told (message.from.map TgBot.User.id) (name :: rest)] } :=
      Triple.of_modify fun b same => by rw [same]
    refine records.bind fun _ => ?_
    have told := represents.said a.outbox
      (a.journal ++ [.told (message.from.map TgBot.User.id) (name :: rest)])
    have asked : ({ tg := message.from } : User).tg = some tg := sender
    refine (triple_sql (dbSearchUser_run asked _ told.users)).bind fun result => ?_
    refine Triple.of_forall fun b outcome => ?_
    obtain ⟨written, unreliable, found⟩ := outcome
    obtain ⟨represents', outbox⟩ := told.renamed written
    have same : ∀ allowed, Outcome b allowed = Outcome a allowed := fun allowed => by
      unfold Outcome
      rw [outbox]
    rw [← same]
    cases result with
    | none =>
        exact answer_outcome represents' sender
          (.failed (List.cons_ne_nil _ _) (unreliable rfl))
    | some user =>
        have knows := Found.knows told (found user rfl)
        have access := knows.access
        dsimp only
        rw [← access]
        exact Triple.discarded (commands_refine represents' sender knows name rest)

theorem lines_refine (represents : Represents a w) (sender : message.from = some tg)
    (lines : List (List Str)) :
    Triple (· = a) (lines.forM fun line => handleChatCommand env line message) fun _ =>
      Outcome a (Chats env tg w lines) := by
  induction lines generalizing a w with
  | nil =>
      refine Triple.of_pure fun b same => ?_
      rw [same]
      exact ⟨[], w, .nil w, (List.append_nil _).symm, represents⟩
  | cons line lines ih =>
      refine (handleChatCommand_refines represents sender line).bind fun _ => ?_
      refine Triple.of_forall fun b outcome => ?_
      obtain ⟨calls, w', replies, said, represents'⟩ := outcome
      refine (ih represents').weaken fun _ c outcome => ?_
      obtain ⟨more, w'', chats, said', represents''⟩ := outcome
      refine ⟨calls ++ more, w'', .cons replies chats, ?_, represents''⟩
      rw [said', said, List.append_assoc]

theorem handleMessage_refines (represents : Represents a w) (sender : message.from = some tg) :
    Triple (· = a) (handleMessage env message) fun _ =>
      Outcome a (Chats env tg w (commandLines message.text)) := by
  rw [handleMessage_eq]
  exact lines_refine represents sender _

/-! ## Events -/

/-- A step of the application, with the calls on the bot it makes. -/
def converse (env : AppEnv) (a : Application) : Event → Option (Application × List TelegramCall)
  | .message message => (reaction (handleMessage env message) a).toOption
  | .trackerEvent data => (reaction (handleTrackerEvent env data) a).toOption
  | .restart rows => (restart env rows a).map (·, [])

theorem converse_fst (env : AppEnv) (a : Application) (event : Event) :
    (converse env a event).map Prod.fst = step env a event := by
  cases event with
  | message => rfl
  | trackerEvent => rfl
  | restart rows =>
      unfold converse step
      dsimp only
      rw [Option.map_map]
      exact Option.map_id'

/-- What a reaction returns is what its handler leaves. -/
theorem reaction_eq {handler : App Unit} {calls : List TelegramCall}
    (reacted : (reaction handler a).toOption = some (b, calls)) :
    ∃ c, handler.run { a with outbox := [] } = .ok ((), c) ∧ b = { c with outbox := [] } ∧
      calls = c.outbox := by
  unfold reaction at reacted
  cases handled : handler.run { a with outbox := [] } with
  | error e =>
      rw [handled] at reacted
      cases reacted
  | ok result =>
      rw [handled] at reacted
      cases reacted
      exact ⟨result.2, rfl, rfl, rfl⟩

theorem reaction_refines {handler : App Unit} {calls : List TelegramCall}
    (represents : Represents a w)
    (refines : ∀ a, Represents a w → Triple (· = a) handler fun _ => Outcome a allowed)
    (reacted : (reaction handler a).toOption = some (b, calls)) :
    ∃ w', allowed calls w' ∧ Represents b w' := by
  obtain ⟨c, handled, rfl, rfl⟩ := reaction_eq reacted
  obtain ⟨calls, w', allows, said, represents'⟩ :=
    refines _ (represents.said [] a.journal) _ rfl () c handled
  have said : c.outbox = calls := said
  refine ⟨w', said ▸ allows, represents'.said [] c.journal⟩

theorem commandLines_plain (returns : Returns ((handleMessage env message).run a))
    (anonymous : message.from = none) : commandLines message.text = [] := by
  rcases (returns_handleMessage_iff a).mp returns with sender | plain
  · rw [anonymous] at sender
    cases sender
  · exact if_pos plain

/-- `dbRestoreSettings` reads all rows of the table, or the first ones if a call fails. -/
theorem dbRestoreSettings_isPrefix (env : AppEnv) (a : Application) :
    Query (· = a) (dbRestoreSettings env) fun _ b =>
      b.userSettings <+: a.database.settings := by
  have asks : Query (· = a) (dbGetGpsData env 1 false <|> pure []) fun result b =>
      result ≠ none ∧ b.database.settings = a.database.settings := by
    refine (reads_dbGetGpsData 1 false a).orElse (Query.of_pure fun s outcome => ?_) ?_
    · obtain ⟨⟨calls, rfl⟩, _⟩ := outcome
      exact ⟨Option.some_ne_none _, rfl⟩
    · rintro data s ⟨⟨calls, rfl⟩, _⟩
      exact ⟨Option.some_ne_none _, rfl⟩
  have restores : ∀ s : Application, s.database.settings = a.database.settings →
      Query (· = s) (do
        modify fun a => { a with userSettings := [] }
        prepare env 0
        let a ← get
        fetch env readSettings () a.database.settings) fun _ b =>
          b.userSettings <+: a.database.settings := by
    intro s same
    refine (restoreRows_run s).weaken fun _ b outcome => ?_
    obtain ⟨read, isPrefix, _, calls, rfl⟩ := outcome
    rw [← same]
    exact isPrefix
  unfold dbRestoreSettings
  refine asks.bind (fun s impossible => absurd rfl impossible.1) fun data => ?_
  refine Query.of_forall fun s outcome => ?_
  cases data with
  | nil => exact restores s outcome.2
  | cons message rest =>
      have sets : Query (· = s)
          (modify fun a => { a with lastMessage := message } : Sql Unit) fun result b =>
            result = some () ∧ b.database.settings = s.database.settings :=
        Query.of_modify fun b same => ⟨rfl, by rw [same]⟩
      refine sets.bind (fun s impossible => absurd impossible.1.symm (Option.some_ne_none _))
        fun _ => Query.of_forall fun b later => ?_
      exact restores b (later.2.trans outcome.2)

/-- The rows of a table have no order of their own. -/
theorem Represents.reordered (represents : Represents a w) {rows : List UserSettings}
    (perm : rows.Perm w.saved) :
    Represents { a with database := { a.database with settings := rows } }
      { w with saved := rows } := by
  rw [represents.saved] at perm
  exact ⟨represents.level, represents.users, represents.modes, represents.chosen, rfl,
    (perm.map UserSettings.id).nodup_iff.mpr represents.stored, represents.reports,
    represents.last⟩

/-- What a process that starts finds. -/
theorem start_represents (env : AppEnv) (represents : Represents a w) (journal : List Deed) :
    ∃ modes last, modes <+: w.saved ∧
      (Reliable env → modes = w.saved ∧ last = (w.latest env false).getD {}) ∧
      Represents (start env a.database journal) { w with modes, last } := by
  obtain ⟨⟨calls, database⟩, _, _, restored⟩ := start_run env a.database journal
  have isPrefix : (start env a.database journal).userSettings <+: a.database.settings :=
    dbRestoreSettings_isPrefix env { database := a.database, journal } _ rfl
  refine ⟨(start env a.database journal).userSettings, (start env a.database journal).lastMessage,
    represents.saved ▸ isPrefix, fun reliable => ?_, ?_⟩
  · obtain ⟨settings, last⟩ := restored reliable
    refine ⟨settings.trans represents.saved.symm, last.trans ?_⟩
    unfold World.latest
    rw [represents.reports]
  · refine ⟨?_, ?_, rfl, represents.stored.sublist (isPrefix.sublist.map _), ?_, ?_, ?_, rfl⟩
    · rw [database]
      exact represents.level
    · rw [database]
      exact represents.users
    · rw [database]
      exact represents.saved
    · rw [database]
      exact represents.stored
    · rw [database]
      exact represents.reports

theorem converse_hears (represents : Represents a w) {event : Event} {calls : List TelegramCall}
    (conversed : converse env a event = some (b, calls)) :
    ∃ w', Hears env w event calls w' ∧ Represents b w' := by
  cases event with
  | message message =>
      cases sender : message.from with
      | some tg =>
          obtain ⟨w', chats, represents'⟩ := reaction_refines represents
            (fun a represents => handleMessage_refines represents sender) conversed
          exact ⟨w', .message sender chats, represents'⟩
      | none =>
          obtain ⟨c, handled, rfl, rfl⟩ := reaction_eq conversed
          have silent := commandLines_plain ⟨_, handled⟩ sender
          rw [handleMessage_eq, silent] at handled
          cases handled
          exact ⟨w, .anonymous sender silent, represents.said _ _⟩
  | trackerEvent data =>
      obtain ⟨c, handled, rfl, rfl⟩ := reaction_eq conversed
      obtain ⟨calls, rows, added, rfl⟩ := handleTrackerEvent_run data _ _ rfl () c handled
      refine ⟨{ w with reports := rows, last := data }, ?_, represents.level, represents.users,
        represents.modes, represents.chosen, represents.saved, represents.stored, rfl, rfl⟩
      have notified : recipients data w.last w.modes =
          recipients data a.lastMessage a.userSettings := by
        rw [represents.last, represents.modes]
      have hears : Hears env w (.trackerEvent data) _ { w with reports := rows, last := data } :=
        .trackerEvent (by rw [represents.reports]; exact added)
      rw [notified] at hears
      exact hears
  | restart rows =>
      obtain ⟨b', restarted, same⟩ := Option.map_eq_some_iff.mp conversed
      cases same
      obtain ⟨perm, rfl⟩ := restart_eq restarted
      rw [← represents.saved] at perm
      obtain ⟨modes, last, isPrefix, restored, represents'⟩ :=
        start_represents env (represents.reordered perm) a.journal
      exact ⟨_, .restart perm isPrefix restored, represents'⟩

/-- The application and what it has said since the run began. -/
abbrev Conversation := Application × List TelegramCall

def speak (env : AppEnv) (c : Conversation) (event : Event) : Option Conversation :=
  (converse env c.1 event).map fun result => (result.1, c.2 ++ result.2)

variable {events later : List Event} {said : List TelegramCall}

/-- Nobody is registered, and no mode has been chosen. -/
structure Fresh (w : World) : Prop where
  level : ∀ id, w.level id = none
  modes : w.modes = []
  saved : w.saved = []

theorem Fresh.owned (fresh : Fresh w) : w.Owned := by
  intro row member
  rw [fresh.modes, fresh.saved] at member
  cases member

theorem Fresh.earned (fresh : Fresh w) : w.Earned env [] := by
  intro id level known
  rw [fresh.level] at known
  cases known

/-- A process that starts on empty tables. -/
theorem fresh_start (env : AppEnv) {database : Database} (noUsers : database.users = [])
    (noSettings : database.settings = []) :
    ∃ w, Fresh w ∧ Represents (start env database []) w := by
  let before : World :=
    { level := fun _ => none, modes := [], saved := [], reports := database.data, last := {} }
  have represents : Represents { database } before := by
    refine ⟨?_, ?_, rfl, List.nodup_nil, noSettings.symm, ?_, rfl, rfl⟩
    · rw [noUsers]
      rfl
    · rw [noUsers]
      exact List.nodup_nil
    · rw [noSettings]
      exact List.nodup_nil
  obtain ⟨modes, last, isPrefix, _, represents'⟩ := start_represents env represents []
  exact ⟨_, ⟨fun _ => rfl, List.prefix_nil.mp isPrefix, rfl⟩, represents'⟩

theorem talks_of_speaks {c c' : Conversation} (run : Run (speak env) c events c')
    (represents : Represents c.1 w) :
    ∃ calls w', Talks env w events calls w' ∧ c'.2 = c.2 ++ calls ∧ Represents c'.1 w' := by
  induction run generalizing w with
  | nil c => exact ⟨[], w, .nil w, (List.append_nil _).symm, represents⟩
  | cons spoke _ ih =>
      obtain ⟨result, conversed, rfl⟩ := Option.map_eq_some_iff.mp spoke
      obtain ⟨w', hears, represents'⟩ := converse_hears represents conversed
      obtain ⟨more, w'', talks, said, represents''⟩ := ih represents'
      refine ⟨result.2 ++ more, w'', .cons hears talks, ?_, represents''⟩
      rw [said, List.append_assoc]

/-- Every run of the application, call for call, is a history of the dialog, whatever calls of
SQLite fail. -/
theorem talks_of_run (represents : Represents a w)
    (run : Run (speak env) (a, []) events (b, said)) :
    ∃ w', Talks env w events said w' ∧ Represents b w' := by
  obtain ⟨calls, w', talks, same, represents'⟩ := talks_of_speaks run represents
  have same : said = calls := same
  exact ⟨w', same ▸ talks, represents'⟩

/-- A conversation that is executed. -/
theorem speaks_of_foldlM (executed : (events.foldlM (speak env) (a, [])).isSome) :
    ∃ b said, Run (speak env) (a, []) events (b, said) := by
  obtain ⟨⟨b, said⟩, folded⟩ := Option.isSome_iff_exists.mp executed
  exact ⟨b, said, .of_foldlM folded⟩

theorem talks_of_run_ann :
    ∃ w w' b said, Represents (start sampleCodes {} []) w ∧
      Run (speak sampleCodes) (start sampleCodes {} [], []) annArms (b, said) ∧
      Talks sampleCodes w annArms said w' ∧ Represents b w' := by
  have executed : (annArms.foldlM (speak sampleCodes) (start sampleCodes {} [], [])).isSome := by
    decide +kernel
  obtain ⟨b, said, run⟩ := speaks_of_foldlM executed
  obtain ⟨w, _, represents⟩ := @fresh_start sampleCodes {} rfl rfl
  obtain ⟨w', talks, represents'⟩ := talks_of_run represents run
  exact ⟨w, w', b, said, represents, run, talks, represents'⟩

/-- A run is a run of conversations. -/
theorem speaks_of_run (run : Run (step env) a events b) (said : List TelegramCall) :
    ∃ said', Run (speak env) (a, said) events (b, said') := by
  induction run generalizing said with
  | nil a => exact ⟨said, .nil _⟩
  | @cons a b c event events stepped _ ih =>
      rw [← converse_fst] at stepped
      obtain ⟨result, conversed, rfl⟩ := Option.map_eq_some_iff.mp stepped
      obtain ⟨said', run⟩ := ih (said ++ result.2)
      refine ⟨said', .cons ?_ run⟩
      unfold speak
      rw [conversed]
      rfl

theorem Represents.mem_users (represents : Represents a w) {id : Int} {level : Nat} :
    w.level id = some level ↔ ∃ row ∈ a.database.users, row.id = id ∧ row.access = level := by
  have unique : ((grants a.database.users).map Prod.fst).Nodup := by
    rw [map_fst_grants]
    exact represents.users
  rw [represents.level]
  constructor
  · intro found
    obtain ⟨row, member, same⟩ := List.mem_map.mp (mem_of_lookup found)
    cases same
    exact ⟨row, member, rfl, rfl⟩
  · rintro ⟨row, member, rfl, rfl⟩
    exact lookup_of_mem unique (mem_grants member)

/-- Whatever calls of SQLite fail, from empty tables: the users table has no id twice, every
level in it is that of a good code its user has presented, and no later event removes a user
or lowers a level. -/
theorem levels_kept {database : Database} (noUsers : database.users = [])
    (noSettings : database.settings = [])
    (run : Run (step env) (start env database []) events a)
    (run' : Run (step env) a later b) :
    (a.database.users.map UserRow.id).Nodup ∧
      ∀ row ∈ a.database.users, Access.default < row.access ∧
        (∃ code ∈ presentedCodes (events.flatMap toldBy) row.id,
          codeAccess env code = row.access) ∧
        ∃ row' ∈ b.database.users, row'.id = row.id ∧ row.access ≤ row'.access := by
  obtain ⟨w, fresh, represents⟩ := fresh_start env noUsers noSettings
  obtain ⟨said, spoken⟩ := speaks_of_run run []
  obtain ⟨w', talks, represents'⟩ := talks_of_run represents spoken
  obtain ⟨said', spoken'⟩ := speaks_of_run run' []
  obtain ⟨w'', talks', represents''⟩ := talks_of_run represents' spoken'
  have earned := talks.earned fresh.earned
  refine ⟨represents'.users, fun row member => ?_⟩
  have known := represents'.mem_users.mpr ⟨row, member, rfl, rfl⟩
  obtain ⟨good, code, presented, same⟩ := earned _ _ known
  obtain ⟨level, known', le⟩ := talks'.grows _ _ known
  obtain ⟨row', member', id, access⟩ := represents''.mem_users.mp known'
  exact ⟨good, ⟨code, presented, same⟩, row', member', id, access ▸ le⟩

/-- The database of a process fails after a few calls. -/
def failingCodes : AppEnv := { sampleCodes with sqlFails := fun calls => decide (22 ≤ calls) }

/-- Ann presents the user's code while the database works, and the owner's when it does not. -/
def annPresents : List Event := [.message (textMessage ann "/password k2")]

def annRetries : List Event :=
  [.message (textMessage ann "/start\n/password k1"), .restart []]

theorem levels_kept_ann :
    ∃ a b, Run (step failingCodes) (start failingCodes {} []) annPresents a ∧
      Run (step failingCodes) a annRetries b ∧ a.database.users ≠ [] ∧
      ∀ row ∈ a.database.users,
        ∃ row' ∈ b.database.users, row'.id = row.id ∧ row.access ≤ row'.access := by
  have executed : ((annPresents ++ annRetries).foldlM (step failingCodes)
      (start failingCodes {} [])).isSome := by
    decide +kernel
  have listed : (annPresents.foldlM (step failingCodes) (start failingCodes {} [])).all
      (fun a => a.database.users ≠ []) = true := by
    decide +kernel
  obtain ⟨b, folded⟩ := Option.isSome_iff_exists.mp executed
  rw [List.foldlM_append] at folded
  obtain ⟨a, first, rest⟩ := Option.bind_eq_some_iff.mp folded
  rw [first] at listed
  refine ⟨a, b, .of_foldlM first, .of_foldlM rest, of_decide_eq_true listed, fun row member => ?_⟩
  exact ((levels_kept rfl rfl (.of_foldlM first) (.of_foldlM rest)).2 row member).2.2

/-- From empty tables, whatever others do and the trackers report: somebody who presents no good
code is sent the answers to the lines of his own messages, in order, and nothing else. -/
theorem strangers_isolated (reliable : Reliable env) {database : Database}
    (noUsers : database.users = []) (noSettings : database.settings = [])
    (run : Run (speak env) (start env database [], []) events (a, said)) {id : Int}
    (stranger : ∀ code ∈ presentedCodes (events.flatMap toldBy) id,
      codeAccess env code ≤ Access.default) :
    callsFor id said = events.flatMap (strangerCalls id) := by
  obtain ⟨w, fresh, represents⟩ := fresh_start env noUsers noSettings
  obtain ⟨w', talks, _⟩ := talks_of_run represents run
  exact talks.stranger reliable (fresh.level id) fresh.owned stranger

/-- Ann arms the system, Bob asks about it, and the tracker moves. -/
def bobAsks : List Event :=
  [.message (textMessage ann "/password k1\n/arm"),
    .message (textMessage bob "/start\n/status\n/password k3"),
    .trackerEvent { keyword := "move".toList }]

theorem strangers_isolated_bob :
    ∃ a said, Run (speak sampleCodes) (start sampleCodes {} [], []) bobAsks (a, said) ∧
      callsFor 6 said = bobAsks.flatMap (strangerCalls 6) := by
  have executed : (bobAsks.foldlM (speak sampleCodes) (start sampleCodes {} [], [])).isSome := by
    decide +kernel
  have wrong : ∀ code ∈ presentedCodes (bobAsks.flatMap toldBy) 6,
      codeAccess sampleCodes code ≤ Access.default := by
    decide +kernel
  obtain ⟨a, said, run⟩ := speaks_of_foldlM executed
  exact ⟨a, said, run, strangers_isolated (fun _ => rfl) rfl rfl run wrong⟩

end Application

end GpsInformer
