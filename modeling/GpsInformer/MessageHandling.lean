import GpsInformer.ApplicationCommands
import GpsInformer.Lib.Outcome

/-!
# When the handling of a message returns

A message with a sender is always handled to its end (`yields_handleMessage`), whatever
the database does.  One without a sender is, iff it is no command
(`returns_handleMessage_iff`): its first command line asks for the sender.
-/

namespace GpsInformer

open Lib

open TgBot (Message)

namespace Application

variable {env : AppEnv} {message : Message} {α : Type}

/-- An action always returns. -/
abbrev Total (x : App α) : Prop := Yields x fun _ => True

theorem total_sql (action : Sql α) : Total (sql action) :=
  fun _ => ⟨_, _, rfl, trivial⟩

theorem total_get : Total (get : App Application) :=
  fun a => ⟨a, a, rfl, trivial⟩

theorem total_set (a : Application) : Total (set a : App Unit) :=
  fun _ => ⟨(), a, rfl, trivial⟩

theorem total_telegram (call : TelegramCall) : Total (telegram call) :=
  fun _ => ⟨(), _, rfl, trivial⟩

theorem total_record (deed : Deed) : Total (record deed) :=
  fun _ => ⟨(), _, rfl, trivial⟩

theorem yields_deref {pointer : Option α} {object : α} (present : pointer = some object) :
    Yields (deref pointer) fun result => result = object := by
  subst present
  exact yields_pure rfl

theorem total_deref {pointer : Option α} (present : pointer.isSome) : Total (deref pointer) := by
  obtain ⟨object, present⟩ := Option.isSome_iff_exists.mp present
  exact (yields_deref present).mono fun _ _ => trivial

theorem fails_deref {pointer : Option α} (null : pointer = none) : Fails (deref pointer) := by
  subst null
  exact fails_throw _

/-! ## The commands -/

theorem total_answer (sender : message.from.isSome) (text : Str) (parseMode : ParseMode) :
    Total (answer message text parseMode) :=
  (total_deref sender).bind fun _ _ => total_telegram _

theorem total_sendGpsStatus (gpsMessage : GpsMessage) (userId : Int) :
    Total (sendGpsStatus env gpsMessage userId) := by
  unfold sendGpsStatus
  refine (total_record _).bind fun _ _ => ?_
  split
  · exact (total_telegram _).bind fun _ _ => total_telegram _
  · exact total_telegram _

theorem total_handleStartCommand (sender : message.from.isSome) {user : User}
    (known : user.tg.isSome) : Total (handleStartCommand user message) := by
  unfold handleStartCommand
  split
  · exact (total_deref known).bind fun _ _ => total_answer sender _ _
  · exact total_answer sender _ _

theorem total_sendLast (sender : message.from.isSome) (validOnly : Bool) (missing : String) :
    Total (sendLast env validOnly missing message) := by
  refine (total_sql _).bind fun rows _ => ?_
  split
  · exact total_answer sender _ _
  · exact total_answer sender _ _
  · exact (total_deref sender).bind fun _ _ => total_sendGpsStatus _ _

theorem total_saveSettings (userId : Int) : Total (saveSettings env userId) := by
  refine (total_sql _).bind fun saved _ => ?_
  split
  · exact total_telegram _
  · exact yields_pure trivial

theorem total_handleArmCommand (sender : message.from.isSome) (command : List Str) :
    Total (handleArmCommand env command message) := by
  refine (total_deref sender).bind fun tg _ => ?_
  split
  · exact total_telegram _
  · refine total_get.bind fun a _ => (total_set _).bind fun _ _ => ?_
    exact (total_telegram _).bind fun _ _ => total_saveSettings _

theorem total_handleDisarmCommand (sender : message.from.isSome) :
    Total (handleDisarmCommand env message) := by
  refine (total_deref sender).bind fun tg _ => total_get.bind fun a _ => ?_
  refine (total_set _).bind fun _ _ => (total_telegram _).bind fun _ _ => ?_
  split
  · exact total_saveSettings _
  · exact yields_pure trivial

/-- The user a handler leaves still points to a Telegram user. -/
abbrev KeepsUser (x : App User) : Prop := Yields x fun user => user.tg.isSome

theorem Total.keepsUser {x : App Unit} {user : User} (total : Total x) (known : user.tg.isSome) :
    KeepsUser (do x; return user) :=
  total.bind fun _ _ => yields_pure known

theorem yields_checkCode (sender : message.from.isSome) (code : Str) {user : User}
    (known : user.tg.isSome) :
    Yields (checkCode env code user message) fun result => result.1.tg.isSome := by
  unfold checkCode
  dsimp only
  split_ifs
  · refine (total_sql _).bind fun updated _ => ?_
    cases updated with
    | none => exact yields_pure known
    | some _ => exact yields_pure known
  · exact yields_pure known
  · exact yields_pure known
  · refine (total_sql _).bind fun created _ => ?_
    cases created with
    | none => exact yields_pure sender
    | some _ => exact yields_pure sender
  · exact yields_pure known

theorem keepsUser_handlePasswordCommand (sender : message.from.isSome) (command : List Str)
    {user : User} (known : user.tg.isSome) :
    KeepsUser (handlePasswordCommand env command user message) := by
  unfold handlePasswordCommand
  split
  · refine (yields_checkCode sender _ known).bind fun result kept => ?_
    exact (total_answer sender _ _).keepsUser kept
  · exact (total_answer sender _ _).keepsUser known

theorem keepsUser_invoke (sender : message.from.isSome) (handler : CommandHandler)
    (command : List Str) {user : User} (known : user.tg.isSome) :
    KeepsUser (invoke env handler command user message) := by
  cases handler with
  | handleStartCommand => exact (total_handleStartCommand sender known).keepsUser known
  | handleHelpCommand => exact Total.keepsUser (total_answer sender _ _) known
  | handlePasswordCommand => exact keepsUser_handlePasswordCommand sender command known
  | handleWhereCommand => exact Total.keepsUser (total_sendLast sender _ _) known
  | handleStatusCommand => exact Total.keepsUser (total_sendLast sender _ _) known
  | handleArmCommand => exact (total_handleArmCommand sender command).keepsUser known
  | handleDisarmCommand => exact (total_handleDisarmCommand sender).keepsUser known

/-! ## What the database functions give -/

/-- Every result of an action that does not fail meets `post`. -/
def Gives (action : Sql α) (post : α → Prop) : Prop :=
  ∀ a result, (action.run.run a).1 = some result → post result

theorem yields_sql {action : Sql α} {post : α → Prop} (gives : Gives action post) :
    Yields (sql action) fun result => ∀ r, result = some r → post r :=
  fun a => ⟨_, _, rfl, fun r returned => gives a r returned⟩

theorem gives_pure {result : α} {post : α → Prop} (holds : post result) :
    Gives (pure result) post := by
  intro a r returned
  cases returned
  exact holds

theorem Gives.bind {β : Type} {action : Sql α} {next : α → Sql β} {p : α → Prop} {q : β → Prop}
    (first : Gives action p) (rest : ∀ r, p r → Gives (next r) q) : Gives (action >>= next) q := by
  intro a r returned
  rw [OptionT.run_bind, Option.elimM, StateT.run_bind] at returned
  have holds := first a
  revert returned holds
  generalize action.run.run a = outcome
  intro returned holds
  obtain ⟨_ | r', a'⟩ := outcome
  · cases returned
  · exact rest r' (holds r' rfl) a' r returned

theorem gives_any (action : Sql α) : Gives action fun _ => True :=
  fun _ _ _ => trivial

theorem gives_fetch (inv : α → Prop) {ρ : Type} {read : α → ρ → Sql α} {result : α}
    (step : ∀ result row, inv result → Gives (read result row) inv) (start : inv result)
    (rows : List ρ) : Gives (fetch env read result rows) inv := by
  induction rows generalizing result with
  | nil => exact (gives_any _).bind fun _ _ => (gives_any _).bind fun _ _ => gives_pure start
  | cons row rows ih =>
      refine (gives_any _).bind fun _ _ => ?_
      exact (step result row start).bind fun _ kept => ih kept

/-- A user that has been found is the one that was looked for. -/
theorem gives_dbSearchUser (user : User) :
    Gives (dbSearchUser env user) fun found => found.tg = user.tg ∧ user.tg.isSome := by
  unfold dbSearchUser
  split
  · intro a r impossible
    cases impossible
  · rename_i tg present
    refine (gives_any _).bind fun _ _ => (gives_any _).bind fun a _ => ?_
    refine Gives.bind (gives_fetch (fun result => result.1.tg = user.tg) ?_ rfl _) ?_
    · exact fun result row same => gives_pure same
    · intro result same
      have known : user.tg.isSome := Option.isSome_of_eq_some present
      dsimp only
      split
      · exact (gives_any _).bind fun _ _ => gives_pure ⟨same, known⟩
      · exact gives_pure ⟨same, known⟩

/-! ## Chat commands -/

theorem total_handleChatCommand (sender : message.from.isSome) (command : List Str) :
    Total (handleChatCommand env command message) := by
  unfold handleChatCommand
  split
  · exact yields_pure trivial
  · refine (total_record _).bind fun _ _ => ?_
    refine (yields_sql (gives_dbSearchUser _)).bind fun found known => ?_
    cases found with
    | none => exact total_answer sender _ _
    | some user =>
        have same := (known user rfl).1
        have present : user.tg.isSome := by rwa [same]
        have all : ∀ (name : Str) (command : List Str) (access : Nat) (user : User)
            (c : ChatCommand), user.tg.isSome →
              KeepsUser (tryCommand env name command access message user c) := by
          intro name command access user c known
          unfold tryCommand
          split
          · exact (total_record _).bind fun _ _ => keepsUser_invoke sender _ _ known
          · exact yields_pure known
        exact (yields_foldlM _ (all _ _ _) present _).bind fun _ _ => yields_pure trivial

/-- Every chat command asks for the sender. -/
theorem fails_handleChatCommand (senderless : message.from = none) {command : List Str}
    (nonempty : command ≠ []) : Fails (handleChatCommand env command message) := by
  unfold handleChatCommand
  split
  · exact absurd rfl nonempty
  · refine (total_record _).bind_fails fun _ _ => ?_
    refine (yields_sql (gives_dbSearchUser _)).bind_fails fun found known => ?_
    cases found with
    | none => exact (fails_deref senderless).bind
    | some user =>
        have impossible := (known user rfl).2
        simp [senderless] at impossible

/-! ## Messages -/

theorem yields_handleMessage (sender : message.from.isSome) :
    Total (handleMessage env message) := by
  unfold handleMessage
  dsimp only
  split
  · exact yields_pure trivial
  · refine Yields.bind (yields_foldlM (fun _ => True) (fun t c _ => ?_) trivial _) fun t _ =>
      total_handleChatCommand sender _
    unfold scanChar
    split_ifs
    · exact (total_handleChatCommand sender _).bind fun _ _ => yields_pure trivial
    all_goals exact yields_pure trivial

/-- Some token of the line has begun. -/
def Tokens.Begun (t : Tokens) : Prop := t.argument ≠ [] ∨ t.command ≠ []

theorem Tokens.Begun.push_command {t : Tokens} (begun : t.Begun) : t.push.command ≠ [] := by
  unfold Tokens.push
  split
  · rename_i empty
    exact begun.resolve_left fun nonempty => nonempty (List.isEmpty_iff.mp empty)
  · simp

/-- After the first token has begun, the loop and what follows it fail. -/
theorem fails_scan (senderless : message.from = none) (body : Str) {t : Tokens} (begun : t.Begun) :
    Fails (body.foldlM (scanChar env message) t >>= fun t =>
      handleChatCommand env
        (if !t.argument.isEmpty ∨ t.quoted then t.command ++ [t.argument] else t.command)
        message) := by
  induction body generalizing t with
  | nil =>
      rw [List.foldlM_nil, pure_bind]
      apply fails_handleChatCommand senderless
      split
      · simp
      · rename_i bare
        refine begun.resolve_left fun nonempty => bare (Or.inl ?_)
        simpa using nonempty
  | cons c body ih =>
      rw [List.foldlM_cons, bind_assoc]
      unfold scanChar
      split_ifs
      · rw [bind_assoc]
        exact (fails_handleChatCommand senderless begun.push_command).bind
      all_goals rw [pure_bind]
      · exact ih (Or.inr begun.push_command)
      · exact ih (Or.inl (by simp))
      · exact ih (Or.inr (by simp))
      · exact ih (Or.inl (by simp))

theorem returns_handleMessage_iff (a : Application) :
    Returns ((handleMessage env message).run a) ↔
      message.from.isSome ∨ message.text.head? ≠ some '/' := by
  by_cases sender : message.from.isSome
  · exact iff_of_true ((yields_handleMessage sender).returns a) (Or.inl sender)
  · have senderless : message.from = none := by simpa using sender
    unfold handleMessage
    dsimp only
    split
    · rename_i plain
      exact iff_of_true (returns_ok _) (Or.inr plain)
    · rename_i slash
      refine iff_of_false ?_ fun either => either.elim sender slash
      -- the slash begins the first token
      cases text : message.text with
      | nil => simp [text] at slash
      | cons c body =>
          obtain rfl : c = '/' := by simpa [text] using slash
          rw [List.foldlM_cons, bind_assoc]
          have first : scanChar env message {} '/' = pure { argument := ['/'] } := rfl
          rw [first, pure_bind]
          exact fails_scan senderless body (Or.inl (by simp)) a

end Application

end GpsInformer
