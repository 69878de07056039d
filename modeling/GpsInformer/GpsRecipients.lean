import GpsInformer.AccessLevels

/-!
# Who is sent GPS data

A tracker event is sent to those whose settings ask for it (`handleTrackerEvent_run`), and
the settings, in memory and in the database, are those of users who have presented the
owner's code (`Settled`, kept by every step from empty tables).
-/

namespace GpsInformer

open Lib

open TgBot (Message)

namespace Application

variable {env : AppEnv} {commands : List SentCommand}

/-- Whom `handleTrackerEvent` sends `data` after the event `last`. -/
def recipients (data last : GpsMessage) (rows : List UserSettings) : List Int :=
  (rows.filter fun row => notifies data last row.status).map UserSettings.id

theorem recipients_append (data last : GpsMessage) (rows later : List UserSettings) :
    recipients data last (rows ++ later) =
      recipients data last rows ++ recipients data last later := by
  unfold recipients
  rw [List.filter_append, List.map_append]

/-- The calls on the bot `sendGpsStatus` makes. -/
def statusCalls (env : AppEnv) (data : GpsMessage) (userId : Int) : List TelegramCall :=
  (if data.valid then [.sendLocation userId data.latitude data.longitude] else []) ++
    [.sendMessage userId (gpsStatus env data) .markdown]

/-- `b` is `a` after the status of `data` has been sent to some users. -/
def SendsTo (env : AppEnv) (data : GpsMessage) (a : Application) (ids : List Int)
    (b : Application) : Prop :=
  b = { a with
    outbox := a.outbox ++ ids.flatMap (statusCalls env data)
    journal := a.journal ++ ids.map Deed.sentGpsStatus }

theorem SendsTo.refl (data : GpsMessage) (a : Application) : SendsTo env data a [] a := by
  unfold SendsTo
  rw [List.flatMap_nil, List.map_nil, List.append_nil, List.append_nil]

theorem SendsTo.trans {data : GpsMessage} {a b c : Application} {ids later : List Int}
    (first : SendsTo env data a ids b) (second : SendsTo env data b later c) :
    SendsTo env data a (ids ++ later) c := by
  unfold SendsTo at first second ⊢
  rw [second, first, List.flatMap_append, List.map_append, List.append_assoc, List.append_assoc]

theorem sendGpsStatus_run (data : GpsMessage) (userId : Int) (a : Application) :
    Triple (· = a) (sendGpsStatus env data userId) fun _ => SendsTo env data a [userId] := by
  let recorded : Application := { a with journal := a.journal ++ [.sentGpsStatus userId] }
  have records : Triple (· = a) (record (.sentGpsStatus userId)) fun _ => (· = recorded) :=
    Triple.of_modify fun _ same => by rw [same]
  have calls : ∀ (call : TelegramCall) (b : Application),
      Triple (· = b) (telegram call) fun _ => (· = { b with outbox := b.outbox ++ [call] }) :=
    fun call b => Triple.of_modify fun _ same => by rw [same]
  unfold sendGpsStatus
  refine records.bind fun _ => ?_
  split
  · rename_i valid
    refine (calls _ recorded).bind fun _ => (calls _ _).weaken fun _ b sent => ?_
    have both : [userId].flatMap (statusCalls env data) =
        [.sendLocation userId data.latitude data.longitude] ++
          [.sendMessage userId (gpsStatus env data) .markdown] := by
      simp [statusCalls, valid]
    unfold SendsTo
    rw [sent, both, ← List.append_assoc]
    rfl
  · rename_i invalid
    refine (calls _ recorded).weaken fun _ b sent => ?_
    have one : [userId].flatMap (statusCalls env data) =
        [.sendMessage userId (gpsStatus env data) .markdown] := by
      simp [statusCalls, invalid]
    unfold SendsTo
    rw [sent, one]
    rfl

/-- The loop of `handleTrackerEvent`. -/
theorem notify_run (data : GpsMessage) (rows : List UserSettings) (a : Application) :
    Triple (· = a) (rows.forM (notify env data)) fun _ =>
      SendsTo env data a (recipients data a.lastMessage rows) := by
  induction rows generalizing a with
  | nil =>
      refine Triple.of_pure fun s same => ?_
      rw [same]
      exact SendsTo.refl data a
  | cons row rows ih =>
      have first : Triple (· = a) (notify env data row) fun _ =>
          SendsTo env data a (recipients data a.lastMessage [row]) := by
        refine Triple.get_bind fun s same => ?_
        subst same
        unfold recipients
        split
        · rename_i notified
          rw [List.filter_cons, if_pos notified]
          exact sendGpsStatus_run data row.id s
        · rename_i silent
          rw [List.filter_cons, if_neg silent]
          refine Triple.of_pure fun b same => ?_
          rw [same]
          exact SendsTo.refl data s
      refine first.bind fun _ => Triple.of_forall fun b sent => (ih b).weaken fun _ c more => ?_
      have all := sent.trans more
      have last : b.lastMessage = a.lastMessage := by rw [sent]
      rw [last, ← recipients_append] at all
      exact all

theorem handleTrackerEvent_run (data : GpsMessage) (a : Application) :
    Triple (· = a) (handleTrackerEvent env data) fun _ b =>
      ∃ calls rows,
        (rows = a.database.data ++ [dataRow data] ∨ ¬ Reliable env ∧ rows = a.database.data) ∧
        b = { a with
          outbox := a.outbox ++
            (recipients data a.lastMessage a.userSettings).flatMap (statusCalls env data)
          journal := a.journal ++
            (recipients data a.lastMessage a.userSettings).map Deed.sentGpsStatus
          lastMessage := data
          database := { a.database with calls, data := rows } } := by
  unfold handleTrackerEvent
  refine Triple.get_bind fun s same => ?_
  subst same
  refine (notify_run data s.userSettings s).bind fun _ => Triple.of_forall fun noted sent => ?_
  have adds : Triple (· = noted) (discard (sql (dbAddGpsData env data))) fun _ c =>
      WritesData noted (noted.database.data ++ [dataRow data]) c ∨
        ¬ Reliable env ∧ WritesData noted noted.database.data c :=
    Triple.discarded ((triple_sql (dbAddGpsData_run data noted)).weaken fun _ _ added =>
      added.imp (fun done => done.2) fun failed => failed.2)
  refine adds.bind fun _ => Triple.of_modify fun c added => ?_
  unfold SendsTo at sent
  rcases added with ⟨calls, rfl⟩ | ⟨unreliable, calls, rfl⟩
  · rw [sent]
    exact ⟨calls, _, Or.inl rfl, rfl⟩
  · rw [sent]
    exact ⟨calls, _, Or.inr ⟨unreliable, rfl⟩, rfl⟩

theorem total_forM {α : Type} {body : α → App Unit} (each : ∀ x, Total (body x)) (xs : List α) :
    Total (xs.forM body) := by
  induction xs with
  | nil => exact yields_pure trivial
  | cons x xs ih => exact (each x).bind fun _ _ => ih

/-- A tracker event is handled to its end. -/
theorem total_handleTrackerEvent (data : GpsMessage) : Total (handleTrackerEvent env data) := by
  refine total_get.bind fun a _ => (total_forM (fun row => ?_) _).bind fun _ _ => ?_
  · refine total_get.bind fun a _ => ?_
    split
    · exact total_sendGpsStatus _ _
    · exact yields_pure trivial
  · exact fun a => ⟨(), _, rfl, trivial⟩

/-- What a tracker event leaves. -/
theorem step_trackerEvent {data : GpsMessage} {a b : Application}
    (stepped : step env a (.trackerEvent data) = some b) :
    ∃ calls rows,
      (rows = a.database.data ++ [dataRow data] ∨ ¬ Reliable env ∧ rows = a.database.data) ∧
      b = { a with
        outbox := []
        journal := a.journal ++
          (recipients data a.lastMessage a.userSettings).map Deed.sentGpsStatus
        lastMessage := data
        database := { a.database with calls, data := rows } } := by
  obtain ⟨c, handled, rfl⟩ := reaction_fst stepped
  obtain ⟨calls, rows, added, rfl⟩ := handleTrackerEvent_run data _ _ rfl () c handled
  exact ⟨calls, rows, added, rfl⟩

/-- What a process starts with. -/
theorem start_run (env : AppEnv) (database : Database) (journal : List Deed) :
    (∃ calls, (start env database journal).database = { database with calls }) ∧
      (start env database journal).journal = journal ∧
      (∀ row ∈ (start env database journal).userSettings, row ∈ database.settings) ∧
      (Reliable env → (start env database journal).userSettings = database.settings ∧
        (start env database journal).lastMessage =
          ((storedData env 1 false database.data).head?).getD {}) := by
  obtain ⟨⟨calls, same⟩, listed, complete⟩ :=
    (dbRestoreSettings_run { database, journal } : Query _ (dbRestoreSettings env) _) _ rfl
  exact ⟨⟨calls, congrArg Application.database same⟩, congrArg Application.journal same, listed,
    complete⟩

/-- The user has presented a code of the level, or of a greater one. -/
def Verified (env : AppEnv) (commands : List SentCommand) (id : Int) (level : Nat) : Prop :=
  ∃ code ∈ presentedCodes commands id, level ≤ codeAccess env code

theorem verified_of_level {id : Int} {level : Nat}
    (reached : level + 1 ≤ presentedLevel env commands id) : Verified env commands id (level + 1) :=
  lt_presentedLevel_iff.mp reached

/-- What the application is told by an event. -/
def toldBy : Event → List SentCommand
  | .message message => sentCommands message
  | .trackerEvent _ => []
  | .restart _ => []

theorem recipients_subset {data last : GpsMessage} {rows : List UserSettings} {id : Int}
    (member : id ∈ recipients data last rows) : ∃ row ∈ rows, row.id = id := by
  obtain ⟨row, kept, same⟩ := List.mem_map.mp member
  exact ⟨row, (List.mem_filter.mp kept).1, same⟩

theorem told_notifications (ids : List Int) : told (ids.map Deed.sentGpsStatus) = [] := by
  unfold told
  rw [List.filterMap_map]
  exact List.filterMap_eq_nil_iff.mpr fun _ _ => rfl

/-- Users who are armed may be notified. -/
theorem Justified.notifications {journal : List Deed} {ids : List Int}
    (justified : Justified env journal)
    (armed : ∀ id ∈ ids, Access.user ≤ presentedLevel env (told journal) id) :
    Justified env (journal ++ ids.map Deed.sentGpsStatus) := by
  induction ids generalizing journal with
  | nil =>
      rw [List.map_nil, List.append_nil]
      exact justified
  | cons id ids ih =>
      rw [List.map_cons, List.append_cons]
      refine ih (justified.record (armed id (List.mem_cons_self ..))) fun other member => ?_
      have same : told (journal ++ [.sentGpsStatus id]) = told journal := by
        rw [told_append]
        exact List.append_nil _
      rw [same]
      exact armed other (List.mem_cons_of_mem _ member)

/-- Every event keeps the settings those of users who have presented the owner's code. -/
theorem settled_step {a b : Application} {event : Event} (settled : Settled env [] commands a)
    (stepped : step env a event = some b) : Settled env [] (commands ++ toldBy event) b := by
  cases event with
  | message message => exact settled_message settled stepped
  | trackerEvent data =>
      obtain ⟨calls, rows, _, rfl⟩ := step_trackerEvent stepped
      rw [toldBy, List.append_nil]
      refine ⟨⟨?_, rfl, ?_, settled.during.armed, settled.during.saved⟩, settled.table⟩
      · rw [told_append, told_notifications, List.append_nil]
        exact settled.during.told
      · refine settled.during.justified.notifications fun id member => ?_
        obtain ⟨row, listed, rfl⟩ := recipients_subset member
        rw [settled.during.told]
        have owner := (settled.during.armed row listed).resolve_left nofun
        exact Nat.le_trans (Nat.le_succ _) owner
  | restart rows =>
      obtain ⟨perm, rfl⟩ := restart_eq stepped
      obtain ⟨⟨calls, database⟩, journal, listed, _⟩ :=
        start_run env { a.database with settings := rows } a.journal
      rw [toldBy, List.append_nil]
      have saved : ∀ row ∈ rows, Armed env [] commands row.id := fun row member =>
        settled.during.saved row (perm.subset member)
      refine ⟨⟨?_, rfl, ?_, ?_, ?_⟩, ?_⟩
      · rw [journal]
        exact settled.during.told
      · rw [journal]
        exact settled.during.justified
      · exact fun row member => saved row (listed row member)
      · rw [database]
        exact saved
      · rw [database]
        exact settled.table

theorem settled_run {a b : Application} {events : List Event} (settled : Settled env [] commands a)
    (run : Run (step env) a events b) : Settled env [] (commands ++ events.flatMap toldBy) b := by
  induction run generalizing commands with
  | nil =>
      rw [List.flatMap_nil, List.append_nil]
      exact settled
  | cons stepped _ ih =>
      rw [List.flatMap_cons, ← List.append_assoc]
      exact ih (settled_step settled stepped)

theorem settled_empty {database : Database} (noUsers : database.users = [])
    (noSettings : database.settings = []) : Settled env [] [] (start env database []) := by
  obtain ⟨⟨calls, same⟩, journal, listed, _⟩ := start_run env database []
  have users : (start env database []).database.users = [] := by
    rw [same]
    exact noUsers
  have settings : (start env database []).database.settings = [] := by
    rw [same]
    exact noSettings
  have userSettings : (start env database []).userSettings = [] := by
    refine List.eq_nil_iff_forall_not_mem.mpr fun row member => ?_
    have listed := listed row member
    rw [noSettings] at listed
    cases listed
  have settled : Settled env (([] ++ []).map UserSettings.id) [] (start env database []) := by
    have settled : Settled env _ [] _ := settled_start users journal
    rwa [userSettings, settings] at settled
  exact settled

theorem step_trackerEvent_returns (env : AppEnv) (data : GpsMessage) (a : Application) :
    ∃ b, step env a (.trackerEvent data) = some b := by
  have total : Total (handleTrackerEvent env data) := total_handleTrackerEvent data
  obtain ⟨_, c, handled, _⟩ := total { a with outbox := [] }
  refine ⟨{ c with outbox := [] }, ?_⟩
  change (reaction (handleTrackerEvent env data) a).toOption.map Prod.fst = _
  unfold reaction
  rw [handled]
  rfl

/-- From empty tables, whatever messages, tracker events and restarts there have been:
whoever has been sent GPS data had presented a good code before, and whomever a tracker event
is sent to has presented the owner's. -/
theorem recipients_verified {database : Database} (noUsers : database.users = [])
    (noSettings : database.settings = []) {events : List Event} {a : Application}
    (run : Run (step env) (start env database []) events a) :
    told a.journal = events.flatMap toldBy ∧
    (∀ before id, before ++ [.sentGpsStatus id] <+: a.journal →
      Verified env (told before) id Access.user) ∧
    ∀ data, ∃ b, ∃ ids : List Int, step env a (.trackerEvent data) = some b ∧
      b.journal = a.journal ++ ids.map Deed.sentGpsStatus ∧
      ∀ id ∈ ids, Verified env (told a.journal) id Access.owner := by
  have settled := settled_run (settled_empty noUsers noSettings) run
  rw [List.nil_append] at settled
  refine ⟨settled.during.told, fun before id isPrefix => ?_, fun data => ?_⟩
  · have permitted := settled.during.justified before _ isPrefix
    exact verified_of_level permitted
  · obtain ⟨b, stepped⟩ := step_trackerEvent_returns env data a
    refine ⟨b, recipients data a.lastMessage a.userSettings, stepped, ?_, fun id member => ?_⟩
    · obtain ⟨calls, rows, _, rfl⟩ := step_trackerEvent stepped
      rfl
    · obtain ⟨row, listed, rfl⟩ := recipients_subset member
      have owner := (settled.during.armed row listed).resolve_left nofun
      rw [settled.during.told]
      exact verified_of_level owner

/-- Ann presents the owner's code and arms the system, and the process restarts. -/
def annArms : List Event :=
  [.message (textMessage ⟨5, "Ann".toList, [], []⟩ "/password k1\n/arm insane\n/status"),
    .restart [⟨5, UserSettings.insane⟩], .trackerEvent {}]

theorem recipients_verified_ann :
    ∃ a, Run (step sampleCodes) (start sampleCodes {} []) annArms a ∧
      a.journal.getLast? = some (.sentGpsStatus 5) ∧
      ∀ before id, before ++ [.sentGpsStatus id] <+: a.journal →
        Verified sampleCodes (told before) id Access.user := by
  have executed : (annArms.foldlM (step sampleCodes) (start sampleCodes {} [])).map
      (fun a => a.journal.getLast?) = some (some (.sentGpsStatus 5)) := by
    decide +kernel
  obtain ⟨a, run, sent⟩ := Option.map_eq_some_iff.mp executed
  exact ⟨a, .of_foldlM run, sent, (recipients_verified rfl rfl (.of_foldlM run)).2.1⟩

end Application

end GpsInformer
