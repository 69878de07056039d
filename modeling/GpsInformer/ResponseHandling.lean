import GpsInformer.MessageHandling
import GpsInformer.UpdateSchema

/-!
# When the handling of a response returns

`handleHttpClientResponse_returns_iff` says of which responses the daemon survives:
outside the `try` block the handler takes `result` out of the answer, extracts typed
values from it and has the application handle the messages among them, and each of these
raises where the answer lacks what it needs.
-/

namespace GpsInformer

open Lib TgTypeParser

open TgBot (Message Update)

/-- The bot's handler, if it has been set. -/
def applicationHandler (appEnv : AppEnv) (attached : Bool) :
    Option (TelegramBotHandler Application) :=
  if attached then some (Application.telegramBotHandler appEnv) else none

/-- A message the application handles to its end. -/
def Bearable (message : Message) : Prop :=
  message.from.isSome ∨ message.text.head? ≠ some '/'

/-- An update whose message is a command and has no sender. -/
def SenderlessCommand (update : PTree) : Prop :=
  ∃ message, update.find "message".toList = some message ∧
    message.find "from".toList = none ∧ (getText "text" message).head? = some '/'

variable {env : BotEnv} {appEnv : AppEnv} {attached : Bool} {s : Owned (TelegramBot Application)}
  {α : Type}

/-! ## What the parser makes of a message -/

theorem tryParseJson_ok {parse : PTree → Except Failure α} {data : PTree} {key : String}
    {result : Option α} (parsed : tryParseJson parse data key = .ok result) :
    (data.find key.toList = none ∧ result = none) ∨
      ∃ t a, data.find key.toList = some t ∧ parse t = .ok a ∧ result = some a := by
  unfold tryParseJson at parsed
  cases found : data.find key.toList with
  | none =>
      rw [found] at parsed
      cases parsed
      exact Or.inl ⟨rfl, rfl⟩
  | some t =>
      rw [found] at parsed
      dsimp only at parsed
      rcases returned : parse t with e | a
      · rw [returned] at parsed
        cases parsed
      · rw [returned] at parsed
        cases parsed
        exact Or.inr ⟨t, a, rfl, returned, rfl⟩

theorem message_ok {data : PTree} {message : Message}
    (parsed : parseJsonAndGetMessage env.toPTreeEnv data = .ok message) :
    (message.from.isSome ↔ data.find "from".toList ≠ none) ∧
      message.text = getText "text" data := by
  rw [parseJsonAndGetMessage] at parsed
  obtain ⟨_, _, parsed⟩ := bind_eq_ok.mp parsed
  obtain ⟨sender, found, parsed⟩ := bind_eq_ok.mp parsed
  iterate 16 obtain ⟨_, _, parsed⟩ := bind_eq_ok.mp parsed
  cases parsed
  refine ⟨?_, rfl⟩
  rcases tryParseJson_ok found with ⟨missing, rfl⟩ | ⟨t, a, present, _, rfl⟩
  · exact iff_of_false Bool.false_ne_true fun found => found missing
  · refine iff_of_true rfl fun missing => ?_
    cases present.symm.trans missing

theorem update_ok {data : PTree} {update : Update}
    (parsed : parseJsonAndGetUpdate env.toPTreeEnv data = .ok update) :
    (∀ message, update.message = some message → Bearable message) ↔ ¬ SenderlessCommand data := by
  rw [parseJsonAndGetUpdate] at parsed
  obtain ⟨_, _, parsed⟩ := bind_eq_ok.mp parsed
  obtain ⟨message, found, parsed⟩ := bind_eq_ok.mp parsed
  iterate 6 obtain ⟨_, _, parsed⟩ := bind_eq_ok.mp parsed
  cases parsed
  dsimp only
  rcases tryParseJson_ok found with ⟨missing, rfl⟩ | ⟨t, message, present, extracted, rfl⟩
  · refine iff_of_true (fun message same => ?_) fun senderless => ?_
    · cases same
    · obtain ⟨t, present, _⟩ := senderless
      cases missing.symm.trans present
  · obtain ⟨sender, text⟩ := message_ok extracted
    constructor
    · intro bearable senderless
      obtain ⟨t', present', missing, slash⟩ := senderless
      cases present.symm.trans present'
      rcases bearable message rfl with known | plain
      · exact sender.mp known missing
      · exact plain (text ▸ slash)
    · intro fine message' same
      cases same
      by_cases missing : t.find "from".toList = none
      · exact Or.inr fun slash => fine ⟨t, present, missing, text ▸ slash⟩
      · exact Or.inl (sender.mpr missing)

/-- Whether all updates are good can be told from the trees they come from. -/
theorem forall_parsed_iff {parse : PTree → Except Failure α} {good : α → Prop}
    {good' : PTree → Prop} (same : ∀ {t a}, parse t = .ok a → (good a ↔ good' t)) {data : PTree}
    {results : List α} (parsed : parseJsonAndGetArray parse data = .ok results) :
    (∀ a ∈ results, good a) ↔ ∀ t ∈ data.children.map Prod.snd, good' t := by
  unfold parseJsonAndGetArray at parsed
  revert parsed
  induction data.children generalizing results with
  | nil =>
      intro parsed
      cases parsed
      simp
  | cons child rest ih =>
      intro parsed
      rw [List.mapM_cons] at parsed
      obtain ⟨a, first, parsed⟩ := bind_eq_ok.mp parsed
      obtain ⟨others, later, parsed⟩ := bind_eq_ok.mp parsed
      cases parsed
      rw [List.map_cons, List.forall_mem_cons, List.forall_mem_cons, same first, ih later]

/-! ## The handlers the bot calls -/

theorem returns_react {handler : App Unit} {t : Owned (TelegramBot Application)} :
    Returns (TelegramBot.react env (Application.reaction handler) t) ↔
      Returns (handler.run { t.owner.app with outbox := [] }) := by
  unfold TelegramBot.react Application.reaction
  simp

theorem returns_reactTo {pointer : Option α} {handler : α → App Unit}
    {t : Owned (TelegramBot Application)} :
    Returns (TelegramBot.reactTo env pointer (fun o => Application.reaction (handler o)) t) ↔
      ∀ o, pointer = some o → Returns ((handler o).run { t.owner.app with outbox := [] }) := by
  cases pointer with
  | none => exact iff_of_true (returns_ok t) nofun
  | some object =>
      refine returns_react.trans ⟨fun returned o same => ?_, fun all => all object rfl⟩
      cases same
      exact returned

theorem returns_quiet {pointer : Option α} {t : Owned (TelegramBot Application)} :
    Returns (TelegramBot.reactTo env pointer (fun _ => Application.reaction (pure ())) t) :=
  returns_reactTo.mpr fun _ _ => returns_ok _

theorem returns_handleUpdate_iff (update : Update) (t : Owned (TelegramBot Application)) :
    Returns (TelegramBot.handleUpdate env (applicationHandler appEnv attached) update t) ↔
      (attached = true → ∀ message, update.message = some message → Bearable message) := by
  unfold TelegramBot.handleUpdate applicationHandler
  cases attached with
  | false => exact iff_of_true (returns_ok _) nofun
  | true =>
      simp only [if_true, forall_const]
      refine (returns_bind_iff fun t => ?_).trans (and_iff_right returns_quiet)
      refine (returns_bind_iff fun t => ?_).trans (and_iff_right returns_quiet)
      refine (returns_bind_iff fun t => ?_).trans (and_iff_right returns_quiet)
      refine returns_reactTo.trans (forall₂_congr fun message present => ?_)
      exact Application.returns_handleMessage_iff _

/-! ## The response -/

/-- The tags of the requests whose answer is a message. -/
def AnsweredByMessage (tag : Nat) : Prop :=
  tag = Tags.sendMessage ∨ tag = Tags.sendLocation ∨ tag = Tags.sendVenue ∨ tag = Tags.sendContact

instance (tag : Nat) : Decidable (AnsweredByMessage tag) :=
  inferInstanceAs (Decidable (_ ∨ _))

/-- The `result` of an answer has all that is extracted from it, and no update in it is a
command without a sender. -/
structure Usable (env : PTreeEnv) (attached : Bool) (tag : Nat) (result : PTree) : Prop where
  updates : tag = Tags.getUpdates → ∀ update ∈ (access env).elements result,
    Conforms (access env) schema .update update
  senders : tag = Tags.getUpdates → attached = true → ∀ update ∈ (access env).elements result,
    ¬ SenderlessCommand update
  user : tag = Tags.getMe → attached = true → Conforms (access env) schema .user result
  message : AnsweredByMessage tag → attached = true →
    Conforms (access env) schema .message result

theorem returns_handleItems_iff {result : PTree} {updates : List Update}
    (parsed : parseJsonAndGetArray (parseJsonAndGetUpdate env.toPTreeEnv) result = .ok updates)
    (t : Owned (TelegramBot Application)) :
    Returns (updates.foldlM
        (TelegramBot.handleItem env (applicationHandler appEnv attached)) t) ↔
      (attached = true → ∀ update ∈ (access env.toPTreeEnv).elements result,
        ¬ SenderlessCommand update) := by
  have step : ∀ (t : Owned (TelegramBot Application)) (update : Update),
      Returns (TelegramBot.handleItem env (applicationHandler appEnv attached) t update) ↔
        (attached = true → ∀ message, update.message = some message → Bearable message) :=
    fun t update => returns_handleUpdate_iff update _
  rw [returns_foldlM_iff step]
  have same := forall_parsed_iff (fun {_ _} parsed => update_ok parsed) parsed
  constructor
  · intro bearable handled
    exact same.mp fun update member => bearable update member handled
  · intro fine update member handled
    exact same.mpr (fine handled) update member

theorem usable_of_ne {env : PTreeEnv} {tag : Nat} {result : PTree}
    (other : tag ≠ Tags.getUpdates) :
    Usable env attached tag result ↔
      (tag = Tags.getMe → attached = true → Conforms (access env) schema .user result) ∧
        (AnsweredByMessage tag → attached = true →
          Conforms (access env) schema .message result) := by
  constructor
  · exact fun usable => ⟨usable.user, usable.message⟩
  · exact fun both => {
      updates := fun same => absurd same other
      senders := fun same => absurd same other
      user := both.1
      message := both.2 }

/-- An answer that is extracted and passed to a handler that does nothing. -/
theorem returns_handled {parse : PTree → Except Failure α} {name : TypeName}
    (parses : Parses env.toPTreeEnv parse name) (result : PTree)
    (t : Owned (TelegramBot Application)) :
    Returns (parse result >>= fun _ => TelegramBot.react env (Application.reaction (pure ())) t) ↔
      Conforms (access env.toPTreeEnv) schema name result := by
  have quiet : Returns (TelegramBot.react env (Application.reaction (pure ())) t) :=
    returns_react.mpr (returns_ok _)
  exact (returns_bind_iff fun _ => Iff.rfl).trans ((and_iff_left quiet).trans (parses result))

theorem returns_handleResult_iff (tag : Nat) (result : PTree)
    (t : Owned (TelegramBot Application)) :
    Returns (TelegramBot.handleResult env (applicationHandler appEnv attached) tag result t) ↔
      Usable env.toPTreeEnv attached tag result := by
  unfold TelegramBot.handleResult
  split_ifs with updates me message
  · subst updates
    have others : ¬ AnsweredByMessage Tags.getUpdates := by decide
    constructor
    · intro returned
      obtain ⟨items, parsed, handled⟩ := returns_bind.mp returned
      exact {
        updates := fun _ => (parses_update.array result).mp ⟨items, parsed⟩
        senders := fun _ => (returns_handleItems_iff parsed t).mp handled
        user := fun impossible => by cases impossible
        message := fun impossible => absurd impossible others }
    · intro usable
      obtain ⟨items, parsed⟩ := (parses_update.array result).mpr (usable.updates rfl)
      exact returns_bind.mpr
        ⟨items, parsed, (returns_handleItems_iff parsed t).mpr (usable.senders rfl)⟩
  · have others : ¬ AnsweredByMessage tag := by
      subst me
      decide
    rw [usable_of_ne updates]
    cases attached with
    | false => exact iff_of_true (returns_ok t) ⟨fun _ => nofun, fun _ => nofun⟩
    | true =>
        refine (returns_handled parses_user result t).trans ?_
        exact ⟨fun conforms => ⟨fun _ _ => conforms, fun impossible => absurd impossible others⟩,
          fun usable => usable.1 me rfl⟩
  · rw [usable_of_ne updates]
    cases attached with
    | false => exact iff_of_true (returns_ok t) ⟨fun _ => nofun, fun _ => nofun⟩
    | true =>
        refine (returns_handled parses_message result t).trans ?_
        exact ⟨fun conforms => ⟨fun same => absurd same me, fun _ _ => conforms⟩,
          fun usable => usable.2 message rfl⟩
  · have usable : Usable env.toPTreeEnv attached tag result := (usable_of_ne updates).mpr
      ⟨fun same => absurd same me, fun impossible => absurd impossible message⟩
    cases attached with
    | false => exact iff_of_true (returns_ok t) usable
    | true => exact iff_of_true (returns_ok t) usable

/-- What an answer must have once it has been decoded: `result`, unless it is no success. -/
def Survivable (env : PTreeEnv) (attached : Bool) (tag : Nat) (json : PTree) : Prop :=
  json.getD env.bool "ok".toList false = false ∨
    ∃ result, json.find "result".toList = some result ∧ Usable env attached tag result

/-- The daemon survives a response iff the bot is disabled, the body is dropped before it
is decoded, or its JSON has all that is extracted from it. -/
theorem handleHttpClientResponse_returns_iff (env : BotEnv) (appEnv : AppEnv) (attached : Bool)
    (request : HttpRequest) (response : Str) (s : Owned (TelegramBot Application)) :
    Returns (TelegramBot.handleHttpClientResponse env (applicationHandler appEnv attached) request
        response s) ↔
      s.owner.enabled = false ∨ response = [] ∨ HttpParser.parseHttp response = [] ∨
      (HttpParser.parseHttp response).find TelegramBot.htmlMark ≠ none ∨
      ∀ json, env.readJson (HttpParser.parseHttp response) = some json →
        Survivable env.toPTreeEnv attached request.tag json := by
  unfold TelegramBot.handleHttpClientResponse
  dsimp only
  split_ifs with dropped noBody html
  · refine iff_of_true (returns_ok s) ?_
    simp only [Bool.not_eq_true', List.isEmpty_iff] at dropped
    tauto
  · refine iff_of_true (returns_ok s) ?_
    simp only [List.isEmpty_iff] at noBody
    tauto
  · exact iff_of_true (returns_ok s) (Or.inr (Or.inr (Or.inr (Or.inl html))))
  · simp only [Bool.not_eq_true', List.isEmpty_iff, not_or, Bool.not_eq_false] at dropped noBody
    simp only [dropped.1, dropped.2, noBody, html, Bool.true_eq_false, false_or]
    cases env.readJson (HttpParser.parseHttp response) with
    | none => exact iff_of_true (returns_ok s) nofun
    | some json =>
        simp only [Option.some.injEq, forall_eq']
        unfold Survivable
        split
        · rename_i failed
          exact iff_of_true (returns_ok s) (Or.inl (by simpa using failed))
        · rename_i success
          rw [or_iff_right (by simpa using success), returns_bind]
          unfold PTree.getChild
          cases json.find "result".toList with
          | none => simp
          | some result => simp [returns_handleResult_iff]

/-! ## An answer without a result -/

def jsonLeaf (data : String) : PTree := .node data.toList []

def jsonObject (members : List (String × PTree)) : PTree :=
  .node [] (members.map fun member => (member.1.toList, member.2))

def jsonArray (elements : List PTree) : PTree := .node [] (elements.map fun t => ([], t))

/-- A decimal number without a sign. -/
def readDecimal (text : Str) : Option Int :=
  if text ≠ [] ∧ text.all (fun c => decide (c ∈ "0123456789".toList)) then
    some (text.foldl (fun n c => 10 * n + (c.toNat - 48 : Int)) 0)
  else none

/-- Property trees, with the JSON decoder on a few texts only. -/
def sampleTrees (texts : List (Str × PTree)) : PTreeEnv where
  readJson text := (texts.find? fun known => known.1 = text).map Prod.snd
  int32 := readDecimal
  int64 := readDecimal
  bool text := if text = "true".toList then some true
    else if text = "false".toList then some false else none
  float text := (readDecimal text).map fun n => (n : ℚ)

def sampleBot (texts : List (Str × PTree)) : BotEnv where
  toPTreeEnv := sampleTrees texts
  formatDouble _ := []
  timerFails _ := false
  httpsTimerFails _ := false

def sampleApp : AppEnv where
  sqlFails _ := false
  orderBy rows := rows
  formatDouble _ := []
  formatTime _ := []
  formatLocalTime _ := []

/-- `{"ok":true}` -/
def bareSuccess : Str := ['\x7b', '"', 'o', 'k', '"', ':', 't', 'r', 'u', 'e', '\x7d']

/-- A success without a result ends the daemon. -/
theorem bareSuccess_not_returns :
    ¬ Returns (TelegramBot.handleHttpClientResponse
        (sampleBot [(bareSuccess, jsonObject [("ok", jsonLeaf "true")])])
        (applicationHandler sampleApp true) ⟨[], [], true, Tags.getUpdates⟩ bareSuccess
        ⟨{}, { app := {}, enabled := true }⟩) :=
  not_returns_error Failure.badPath

end GpsInformer
