import GpsInformer.Lib.Outcome
import GpsInformer.Lib.Schema
import GpsInformer.TgTypeParser

/-!
# What the type parser requires

The members an update, a message or a user must have, as a table of schemas, and that
each function of `TgTypeParser` returns iff its tree conforms to its schema
(`parses_update` and those before it).
-/

namespace GpsInformer

open Lib

namespace TgTypeParser

open TgBot

/-- The schemas. -/
inductive TypeName where
  | user
  | chat
  | entity
  | photoSize
  | audio
  | document
  | sticker
  | video
  | contact
  | location
  | message
  | inlineQuery
  | chosenInlineResult
  | callbackQuery
  | update
  deriving DecidableEq, Repr

/-- The leaves `get` converts. -/
inductive LeafKind where
  | text
  | int32
  | int64
  deriving DecidableEq, Repr

/-- What each type requires, and which members it extracts if they are there. -/
def schema : TypeName → Schema Str TypeName LeafKind
  | .user => { leaves := [("id".toList, .int64), ("first_name".toList, .text)] }
  | .chat => { leaves := [("id".toList, .int64), ("type".toList, .text)] }
  | .entity => {
      leaves := [("type".toList, .text), ("offset".toList, .int32), ("length".toList, .int32)]
      optional := [("user".toList, .user)] }
  | .photoSize => {
      leaves := [("file_id".toList, .text), ("width".toList, .int32), ("height".toList, .int32)] }
  | .audio => { leaves := [("file_id".toList, .text), ("duration".toList, .int32)] }
  | .document => {
      leaves := [("file_id".toList, .text)]
      optional := [("thumb".toList, .photoSize)] }
  | .sticker => {
      leaves := [("file_id".toList, .text), ("width".toList, .int32), ("height".toList, .int32),
        ("emoji".toList, .text)]
      optional := [("thumb".toList, .photoSize)] }
  | .video => {
      leaves := [("file_id".toList, .text), ("width".toList, .int32), ("height".toList, .int32),
        ("duration".toList, .int32)]
      optional := [("thumb".toList, .photoSize)] }
  | .contact => { leaves := [("phone_number".toList, .text), ("first_name".toList, .text)] }
  | .location => {}
  | .message => {
      leaves := [("message_id".toList, .int32), ("date".toList, .int32)]
      required := [("chat".toList, .chat)]
      optional := [("from".toList, .user), ("forward_from".toList, .user),
        ("forward_from_chat".toList, .chat), ("reply_to_message".toList, .message),
        ("audio".toList, .audio), ("document".toList, .document), ("sticker".toList, .sticker),
        ("video".toList, .video), ("contact".toList, .contact), ("location".toList, .location),
        ("new_chat_participant".toList, .user), ("left_chat_participant".toList, .user)]
      arrays := [("entities".toList, .entity), ("photo".toList, .photoSize),
        ("new_chat_photo".toList, .photoSize)] }
  | .inlineQuery => {
      leaves := [("id".toList, .text), ("query".toList, .text), ("offset".toList, .text)]
      optional := [("from".toList, .user), ("location".toList, .location)] }
  | .chosenInlineResult => {
      leaves := [("result_id".toList, .text), ("query".toList, .text)]
      optional := [("from".toList, .user), ("location".toList, .location)] }
  | .callbackQuery => {
      leaves := [("id".toList, .text), ("chat_instance".toList, .text)]
      optional := [("from".toList, .user), ("message".toList, .message)] }
  | .update => {
      leaves := [("update_id".toList, .int32)]
      optional := [("message".toList, .message), ("edited_message".toList, .message),
        ("channel_post".toList, .message), ("edited_channel_post".toList, .message),
        ("inline_query".toList, .inlineQuery),
        ("chosen_inline_result".toList, .chosenInlineResult),
        ("callback_query".toList, .callbackQuery)] }

/-- How property trees are read. -/
def access (env : PTreeEnv) : Access Str LeafKind PTree where
  find := PTree.find
  elements t := t.children.map Prod.snd
  accepts
    | .text, _ => True
    | .int32, t => (env.int32 t.data).isSome = true
    | .int64, t => (env.int64 t.data).isSome = true

variable {env : PTreeEnv} {α : Type} {data : PTree} {key : String}

theorem returns_get {convert : Str → Option α} {key : Str} :
    Returns (data.get convert key) ↔
      ∃ u, data.find key = some u ∧ (convert u.data).isSome = true := by
  unfold PTree.get
  cases data.find key with
  | none =>
      refine iff_of_false (not_returns_error _) fun found => ?_
      obtain ⟨u, impossible, _⟩ := found
      cases impossible
  | some u =>
      simp only [Option.some.injEq, exists_eq_left']
      cases convert u.data with
      | none => exact iff_of_false (not_returns_error _) Bool.false_ne_true
      | some a => exact iff_of_true (returns_ok a) rfl

theorem returns_getString (env : PTreeEnv) :
    Returns (getString key data) ↔ (access env).Leaf data (key.toList, .text) := by
  refine returns_get.trans (exists_congr fun u => ?_)
  exact and_congr_right fun _ => iff_of_true rfl trivial

theorem returns_getInt32 :
    Returns (getInt32 env key data) ↔ (access env).Leaf data (key.toList, .int32) :=
  returns_get

theorem returns_getInt64 :
    Returns (getInt64 env key data) ↔ (access env).Leaf data (key.toList, .int64) :=
  returns_get

/-- A function extracts exactly the trees that conform to a schema. -/
def Parses (env : PTreeEnv) (parse : PTree → Except Failure α) (name : TypeName) : Prop :=
  ∀ t, Returns (parse t) ↔ Conforms (access env) schema name t

theorem returns_tryParseJson {parse : PTree → Except Failure α} {name : TypeName}
    (parses : ∀ u, data.find key.toList = some u →
      (Returns (parse u) ↔ Conforms (access env) schema name u)) :
    Returns (tryParseJson parse data key) ↔
      (access env).Optional schema data (key.toList, name) := by
  unfold tryParseJson Access.Optional
  change _ ↔ ∀ u, data.find key.toList = some u → _
  cases found : data.find key.toList with
  | none => exact iff_of_true (returns_ok none) fun _ => nofun
  | some u =>
      rw [returns_map, parses u found]
      constructor
      · intro conforms u' same
        cases same
        exact conforms
      · exact fun all => all u rfl

theorem Parses.tryParseJson {parse : PTree → Except Failure α} {name : TypeName}
    (parses : Parses env parse name) :
    Returns (tryParseJson parse data key) ↔
      (access env).Optional schema data (key.toList, name) :=
  returns_tryParseJson fun u _ => parses u

theorem Parses.parseFound {parse : PTree → Except Failure α} {name : TypeName}
    (parses : Parses env parse name) :
    Returns (parseFound parse data key) ↔
      (access env).Required schema data (key.toList, name) := by
  unfold TgTypeParser.parseFound Access.Required
  change _ ↔ ∃ u, data.find key.toList = some u ∧ _
  cases data.find key.toList with
  | none =>
      refine iff_of_false (not_returns_error _) fun found => ?_
      obtain ⟨u, impossible, _⟩ := found
      cases impossible
  | some u =>
      simp only [Option.some.injEq, exists_eq_left']
      exact parses u

theorem tryParseFound_eq (parse : PTree → Except Failure α) :
    tryParseFound data key (fun t _ => parse t) = tryParseJson parse data key := by
  unfold tryParseFound tryParseJson
  split
  · rename_i missing
    simp only [missing]
  · rename_i found
    simp only [found]

theorem Parses.array {parse : PTree → Except Failure α} {name : TypeName}
    (parses : Parses env parse name) (data : PTree) :
    Returns (parseJsonAndGetArray parse data) ↔
      ∀ t ∈ (access env).elements data, Conforms (access env) schema name t := by
  unfold parseJsonAndGetArray
  change _ ↔ ∀ t ∈ data.children.map Prod.snd, _
  induction data.children with
  | nil => exact iff_of_true (returns_ok []) fun _ => nofun
  | cons child rest ih =>
      rw [List.mapM_cons, List.map_cons, List.forall_mem_cons, ← parses, ← ih]
      simp only [returns_bind, returns_pure, and_true, exists_and_right]
      rfl

theorem Parses.arrayAt {parse : PTree → Except Failure α} {name : TypeName}
    (parses : Parses env parse name) :
    Returns (parseJsonAndGetArrayAt parse data key) ↔
      (access env).Elements schema data (key.toList, name) := by
  unfold parseJsonAndGetArrayAt Access.Elements
  change _ ↔ ∀ u, data.find key.toList = some u → _
  cases data.find key.toList with
  | none => exact iff_of_true (returns_ok []) fun _ => nofun
  | some u =>
      rw [parses.array u]
      constructor
      · intro conform u' same
        cases same
        exact conform
      · exact fun all => all u rfl

/-! ## Type by type

A function reads its fields one after the other; the schema lists them by kind. -/

theorem parses_user : Parses env (parseJsonAndGetUser env) .user := by
  intro data
  unfold parseJsonAndGetUser
  rw [conforms_iff_forall, returns_bind_iff fun id => returns_bind_iff fun name => returns_pure _,
    returns_getInt64, returns_getString env]
  constructor
  · intro returned
    rcases returned with ⟨id, firstName, _⟩
    exact ⟨⟨id, firstName⟩, trivial, trivial, trivial⟩
  · intro conforms
    rcases conforms with ⟨⟨id, firstName⟩, _⟩
    exact ⟨id, firstName, trivial⟩

theorem parses_chat : Parses env (parseJsonAndGetChat env) .chat := by
  intro data
  unfold parseJsonAndGetChat
  rw [conforms_iff_forall, returns_bind_iff fun id => returns_bind_iff fun type => returns_pure _,
    returns_getInt64, returns_getString env]
  constructor
  · intro returned
    rcases returned with ⟨id, type, _⟩
    exact ⟨⟨id, type⟩, trivial, trivial, trivial⟩
  · intro conforms
    rcases conforms with ⟨⟨id, type⟩, _⟩
    exact ⟨id, type, trivial⟩

theorem parses_entity : Parses env (parseJsonAndGetEntity env) .entity := by
  intro data
  unfold parseJsonAndGetEntity
  rw [conforms_iff_forall, returns_bind_iff fun type => returns_bind_iff fun offset =>
      returns_bind_iff fun length => returns_bind_iff fun user => returns_pure _,
    returns_getString env, returns_getInt32, returns_getInt32, parses_user.tryParseJson]
  constructor
  · intro returned
    rcases returned with ⟨type, offset, length, user, _⟩
    exact ⟨⟨type, offset, length⟩, trivial, user, trivial⟩
  · intro conforms
    rcases conforms with ⟨⟨type, offset, length⟩, _, user, _⟩
    exact ⟨type, offset, length, user, trivial⟩

theorem parses_photoSize : Parses env (parseJsonAndGetPhotoSize env) .photoSize := by
  intro data
  unfold parseJsonAndGetPhotoSize
  rw [conforms_iff_forall, returns_bind_iff fun fileId => returns_bind_iff fun width =>
      returns_bind_iff fun height => returns_pure _,
    returns_getString env, returns_getInt32, returns_getInt32]
  constructor
  · intro returned
    rcases returned with ⟨fileId, width, height, _⟩
    exact ⟨⟨fileId, width, height⟩, trivial, trivial, trivial⟩
  · intro conforms
    rcases conforms with ⟨⟨fileId, width, height⟩, _⟩
    exact ⟨fileId, width, height, trivial⟩

theorem parses_audio : Parses env (parseJsonAndGetAudio env) .audio := by
  intro data
  unfold parseJsonAndGetAudio
  rw [conforms_iff_forall,
    returns_bind_iff fun fileId => returns_bind_iff fun duration => returns_pure _,
    returns_getString env, returns_getInt32]
  constructor
  · intro returned
    rcases returned with ⟨fileId, duration, _⟩
    exact ⟨⟨fileId, duration⟩, trivial, trivial, trivial⟩
  · intro conforms
    rcases conforms with ⟨⟨fileId, duration⟩, _⟩
    exact ⟨fileId, duration, trivial⟩

theorem parses_document : Parses env (parseJsonAndGetDocument env) .document := by
  intro data
  unfold parseJsonAndGetDocument
  rw [conforms_iff_forall,
    returns_bind_iff fun fileId => returns_bind_iff fun thumb => returns_pure _,
    returns_getString env, parses_photoSize.tryParseJson]
  constructor
  · intro returned
    rcases returned with ⟨fileId, thumb, _⟩
    exact ⟨fileId, trivial, thumb, trivial⟩
  · intro conforms
    rcases conforms with ⟨fileId, _, thumb, _⟩
    exact ⟨fileId, thumb, trivial⟩

theorem parses_sticker : Parses env (parseJsonAndGetSticker env) .sticker := by
  intro data
  unfold parseJsonAndGetSticker
  rw [conforms_iff_forall, returns_bind_iff fun fileId => returns_bind_iff fun width =>
      returns_bind_iff fun height => returns_bind_iff fun thumb =>
      returns_bind_iff fun emoji => returns_pure _,
    returns_getString env, returns_getInt32, returns_getInt32, parses_photoSize.tryParseJson,
    returns_getString env]
  constructor
  · intro returned
    rcases returned with ⟨fileId, width, height, thumb, emoji, _⟩
    exact ⟨⟨fileId, width, height, emoji⟩, trivial, thumb, trivial⟩
  · intro conforms
    rcases conforms with ⟨⟨fileId, width, height, emoji⟩, _, thumb, _⟩
    exact ⟨fileId, width, height, thumb, emoji, trivial⟩

theorem parses_video : Parses env (parseJsonAndGetVideo env) .video := by
  intro data
  unfold parseJsonAndGetVideo
  rw [conforms_iff_forall, returns_bind_iff fun fileId => returns_bind_iff fun width =>
      returns_bind_iff fun height => returns_bind_iff fun duration =>
      returns_bind_iff fun thumb => returns_pure _,
    returns_getString env, returns_getInt32, returns_getInt32, returns_getInt32,
    parses_photoSize.tryParseJson]
  constructor
  · intro returned
    rcases returned with ⟨fileId, width, height, duration, thumb, _⟩
    exact ⟨⟨fileId, width, height, duration⟩, trivial, thumb, trivial⟩
  · intro conforms
    rcases conforms with ⟨⟨fileId, width, height, duration⟩, _, thumb, _⟩
    exact ⟨fileId, width, height, duration, thumb, trivial⟩

theorem parses_contact (env : PTreeEnv) : Parses env parseJsonAndGetContact .contact := by
  intro data
  unfold parseJsonAndGetContact
  rw [conforms_iff_forall,
    returns_bind_iff fun phoneNumber => returns_bind_iff fun firstName => returns_pure _,
    returns_getString env, returns_getString env]
  constructor
  · intro returned
    rcases returned with ⟨phoneNumber, firstName, _⟩
    exact ⟨⟨phoneNumber, firstName⟩, trivial, trivial, trivial⟩
  · intro conforms
    rcases conforms with ⟨⟨phoneNumber, firstName⟩, _⟩
    exact ⟨phoneNumber, firstName, trivial⟩

/-- A location is read with defaults. -/
theorem parses_location : Parses env (parseJsonAndGetLocation env) .location := by
  intro data
  rw [conforms_iff_forall]
  exact iff_of_true (returns_ok _) ⟨trivial, trivial, trivial, trivial⟩

theorem parses_inlineQuery : Parses env (parseJsonAndGetInlineQuery env) .inlineQuery := by
  intro data
  unfold parseJsonAndGetInlineQuery
  rw [conforms_iff_forall, returns_bind_iff fun id => returns_bind_iff fun sender =>
      returns_bind_iff fun location => returns_bind_iff fun query =>
      returns_bind_iff fun offset => returns_pure _,
    returns_getString env, parses_user.tryParseJson, parses_location.tryParseJson,
    returns_getString env, returns_getString env]
  constructor
  · intro returned
    rcases returned with ⟨id, sender, location, query, offset, _⟩
    exact ⟨⟨id, query, offset⟩, trivial, ⟨sender, location⟩, trivial⟩
  · intro conforms
    rcases conforms with ⟨⟨id, query, offset⟩, _, ⟨sender, location⟩, _⟩
    exact ⟨id, sender, location, query, offset, trivial⟩

theorem parses_chosenInlineResult :
    Parses env (parseJsonAndGetChosenInlineResult env) .chosenInlineResult := by
  intro data
  unfold parseJsonAndGetChosenInlineResult
  rw [conforms_iff_forall, returns_bind_iff fun resultId => returns_bind_iff fun sender =>
      returns_bind_iff fun location => returns_bind_iff fun query => returns_pure _,
    returns_getString env, parses_user.tryParseJson, parses_location.tryParseJson,
    returns_getString env]
  constructor
  · intro returned
    rcases returned with ⟨resultId, sender, location, query, _⟩
    exact ⟨⟨resultId, query⟩, trivial, ⟨sender, location⟩, trivial⟩
  · intro conforms
    rcases conforms with ⟨⟨resultId, query⟩, _, ⟨sender, location⟩, _⟩
    exact ⟨resultId, sender, location, query, trivial⟩

/-- Induction on the tree: the message replied to is a smaller one. -/
theorem parses_message : Parses env (parseJsonAndGetMessage env) .message := by
  intro data
  induction size : sizeOf data using Nat.strongRecOn generalizing data with
  | ind n ih =>
      have reply : Returns (tryParseJson (parseJsonAndGetMessage env) data "reply_to_message") ↔
          (access env).Optional schema data ("reply_to_message".toList, .message) :=
        returns_tryParseJson fun u found => ih _ (size ▸ PTree.sizeOf_find found) u rfl
      rw [parseJsonAndGetMessage, tryParseFound_eq, conforms_iff_forall,
        returns_bind_iff fun messageId => returns_bind_iff fun sender =>
          returns_bind_iff fun date => returns_bind_iff fun chat =>
          returns_bind_iff fun forwardFrom => returns_bind_iff fun forwardFromChat =>
          returns_bind_iff fun replyToMessage => returns_bind_iff fun entities =>
          returns_bind_iff fun audio => returns_bind_iff fun document =>
          returns_bind_iff fun photo => returns_bind_iff fun sticker =>
          returns_bind_iff fun video => returns_bind_iff fun contact =>
          returns_bind_iff fun location => returns_bind_iff fun newChatMember =>
          returns_bind_iff fun leftChatMember => returns_bind_iff fun newChatPhoto =>
          returns_pure _,
        returns_getInt32, parses_user.tryParseJson, returns_getInt32, parses_chat.parseFound,
        parses_user.tryParseJson, parses_chat.tryParseJson, reply, parses_entity.arrayAt,
        parses_audio.tryParseJson, parses_document.tryParseJson, parses_photoSize.arrayAt,
        parses_sticker.tryParseJson, parses_video.tryParseJson,
        (parses_contact env).tryParseJson, parses_location.tryParseJson,
        parses_user.tryParseJson, parses_user.tryParseJson, parses_photoSize.arrayAt]
      constructor
      · intro returned
        rcases returned with ⟨messageId, sender, date, chat, forwardFrom, forwardFromChat,
          replyTo, entities, audio, document, photo, sticker, video, contact, location, newMember,
          leftMember, newPhoto, _⟩
        exact ⟨⟨messageId, date⟩, chat,
          ⟨sender, forwardFrom, forwardFromChat, replyTo, audio, document, sticker, video,
            contact, location, newMember, leftMember⟩,
          ⟨entities, photo, newPhoto⟩⟩
      · intro conforms
        rcases conforms with ⟨⟨messageId, date⟩, chat, ⟨sender, forwardFrom, forwardFromChat,
          replyTo, audio, document, sticker, video, contact, location, newMember, leftMember⟩,
          ⟨entities, photo, newPhoto⟩⟩
        exact ⟨messageId, sender, date, chat, forwardFrom, forwardFromChat, replyTo, entities,
          audio, document, photo, sticker, video, contact, location, newMember, leftMember,
          newPhoto, trivial⟩

theorem parses_callbackQuery : Parses env (parseJsonAndGetCallbackQuery env) .callbackQuery := by
  intro data
  unfold parseJsonAndGetCallbackQuery
  rw [conforms_iff_forall, returns_bind_iff fun id => returns_bind_iff fun sender =>
      returns_bind_iff fun message => returns_bind_iff fun chatInstance => returns_pure _,
    returns_getString env, parses_user.tryParseJson, parses_message.tryParseJson,
    returns_getString env]
  constructor
  · intro returned
    rcases returned with ⟨id, sender, message, chatInstance, _⟩
    exact ⟨⟨id, chatInstance⟩, trivial, ⟨sender, message⟩, trivial⟩
  · intro conforms
    rcases conforms with ⟨⟨id, chatInstance⟩, _, ⟨sender, message⟩, _⟩
    exact ⟨id, sender, message, chatInstance, trivial⟩

theorem parses_update : Parses env (parseJsonAndGetUpdate env) .update := by
  intro data
  unfold parseJsonAndGetUpdate
  rw [conforms_iff_forall, returns_bind_iff fun updateId => returns_bind_iff fun message =>
      returns_bind_iff fun editedMessage => returns_bind_iff fun channelPost =>
      returns_bind_iff fun editedChannelPost => returns_bind_iff fun inlineQuery =>
      returns_bind_iff fun chosenInlineResult => returns_bind_iff fun callbackQuery =>
      returns_pure _,
    returns_getInt32, parses_message.tryParseJson, parses_message.tryParseJson,
    parses_message.tryParseJson, parses_message.tryParseJson, parses_inlineQuery.tryParseJson,
    parses_chosenInlineResult.tryParseJson, parses_callbackQuery.tryParseJson]
  constructor
  · intro returned
    rcases returned with ⟨updateId, message, editedMessage, channelPost, editedChannelPost,
      inlineQuery, chosenInlineResult, callbackQuery, _⟩
    exact ⟨updateId, trivial, ⟨message, editedMessage, channelPost, editedChannelPost,
      inlineQuery, chosenInlineResult, callbackQuery⟩, trivial⟩
  · intro conforms
    rcases conforms with ⟨updateId, _, ⟨message, editedMessage, channelPost, editedChannelPost,
      inlineQuery, chosenInlineResult, callbackQuery⟩, _⟩
    exact ⟨updateId, message, editedMessage, channelPost, editedChannelPost, inlineQuery,
      chosenInlineResult, callbackQuery, trivial⟩

end TgTypeParser

end GpsInformer
