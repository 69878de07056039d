import GpsInformer.PropertyTree

/-!
# `TgTypeParser` (tgbot/TgTypeParser.cpp)

The types of an update and the functions that extract them from a property tree.  A
`shared_ptr` that may be null is an `Option`.  Members that no function here sets are
left out.
-/

namespace GpsInformer

namespace TgBot

structure User where
  id : Int
  firstName : Str
  lastName : Str
  username : Str
  deriving DecidableEq, Repr

inductive ChatType where
  | «private»
  | group
  | supergroup
  | channel
  deriving DecidableEq, Repr

structure Chat where
  id : Int
  /-- `none` if it has been left unset -/
  type : Option ChatType
  title : Str
  username : Str
  firstName : Str
  lastName : Str
  allMembersAreAdministrators : Bool
  deriving DecidableEq, Repr

structure MessageEntity where
  type : Str
  offset : Int
  length : Int
  url : Str
  user : Option User
  deriving DecidableEq, Repr

structure PhotoSize where
  fileId : Str
  width : Int
  height : Int
  fileSize : Int
  deriving DecidableEq, Repr

structure Audio where
  fileId : Str
  duration : Int
  performer : Str
  title : Str
  mimeType : Str
  fileSize : Int
  deriving DecidableEq, Repr

structure Document where
  fileId : Str
  thumb : Option PhotoSize
  fileName : Str
  mimeType : Str
  fileSize : Int
  deriving DecidableEq, Repr

structure Sticker where
  fileId : Str
  width : Int
  height : Int
  thumb : Option PhotoSize
  emoji : Str
  fileSize : Int
  deriving DecidableEq, Repr

structure Video where
  fileId : Str
  width : Int
  height : Int
  duration : Int
  thumb : Option PhotoSize
  mimeType : Str
  fileSize : Int
  deriving DecidableEq, Repr

structure Contact where
  phoneNumber : Str
  firstName : Str
  lastName : Str
  userId : Str
  deriving DecidableEq, Repr

structure Location where
  longitude : ℚ
  latitude : ℚ
  deriving DecidableEq, Repr

structure Message where
  messageId : Int
  «from» : Option User
  date : Int
  chat : Chat
  forwardFrom : Option User
  forwardFromChat : Option Chat
  forwardFromMessageId : Int
  forwardDate : Int
  replyToMessage : Option Message
  editDate : Int
  text : Str
  entities : List MessageEntity
  audio : Option Audio
  document : Option Document
  photo : List PhotoSize
  sticker : Option Sticker
  video : Option Video
  contact : Option Contact
  location : Option Location
  newChatMember : Option User
  leftChatMember : Option User
  newChatTitle : Str
  newChatPhoto : List PhotoSize
  deleteChatPhoto : Bool
  groupChatCreated : Bool
  caption : Str
  supergroupChatCreated : Bool
  channelChatCreated : Bool
  migrateToChatId : Int
  migrateFromChatId : Int

structure InlineQuery where
  id : Str
  «from» : Option User
  location : Option Location
  query : Str
  offset : Str
  deriving DecidableEq, Repr

structure ChosenInlineResult where
  resultId : Str
  «from» : Option User
  location : Option Location
  inlineMessageId : Str
  query : Str
  deriving DecidableEq, Repr

structure CallbackQuery where
  id : Str
  «from» : Option User
  message : Option Message
  inlineMessageId : Str
  chatInstance : Str
  gameShortName : Str
  data : Str

structure Update where
  updateId : Int
  message : Option Message
  editedMessage : Option Message
  channelPost : Option Message
  editedChannelPost : Option Message
  inlineQuery : Option InlineQuery
  chosenInlineResult : Option ChosenInlineResult
  callbackQuery : Option CallbackQuery

end TgBot

namespace TgTypeParser

open TgBot PTree

variable (env : PTreeEnv) {α : Type}

/-- `data.get<std::string>(key)` -/
def getString (key : String) (data : PTree) : Except Failure Str := data.get some key.toList

/-- `data.get(key, "")` -/
def getText (key : String) (data : PTree) : Str := data.getD some key.toList []

def getInt32 (key : String) (data : PTree) : Except Failure Int := data.get env.int32 key.toList

def getInt64 (key : String) (data : PTree) : Except Failure Int := data.get env.int64 key.toList

/-- `data.get(key, 0)` -/
def getCount (key : String) (data : PTree) : Int := data.getD env.int32 key.toList 0

/-- `data.get(key, false)` -/
def getFlag (key : String) (data : PTree) : Bool := data.getD env.bool key.toList false

def tryParseJson (parseFunc : PTree → Except Failure α) (data : PTree) (keyName : String) :
    Except Failure (Option α) :=
  match data.find keyName.toList with
  | none => .ok none
  | some treeItem => some <$> parseFunc treeItem

/-- `tryParseJson`, for a `parseFunc` that needs to know where its tree is from. -/
def tryParseFound (data : PTree) (keyName : String)
    (parseFunc : ∀ treeItem, data.find keyName.toList = some treeItem → Except Failure α) :
    Except Failure (Option α) :=
  match found : data.find keyName.toList with
  | none => .ok none
  | some treeItem => some <$> parseFunc treeItem found

/-- `parseFunc(data.find(keyName)->second)` -/
def parseFound (parseFunc : PTree → Except Failure α) (data : PTree) (keyName : String) :
    Except Failure α :=
  match data.find keyName.toList with
  | none => .error .endIterator
  | some treeItem => parseFunc treeItem

/-- `parseJsonAndGetArray(parseFunc, data)` -/
def parseJsonAndGetArray (parseFunc : PTree → Except Failure α) (data : PTree) :
    Except Failure (List α) :=
  data.children.mapM fun innerTreeItem => parseFunc innerTreeItem.2

/-- `parseJsonAndGetArray(parseFunc, data, keyName)` -/
def parseJsonAndGetArrayAt (parseFunc : PTree → Except Failure α) (data : PTree)
    (keyName : String) : Except Failure (List α) :=
  match data.find keyName.toList with
  | none => .ok []
  | some treeItem => parseJsonAndGetArray parseFunc treeItem

def chatType (type : Str) : Option ChatType :=
  if type = "private".toList then some .«private»
  else if type = "group".toList then some .group
  else if type = "supergroup".toList then some .supergroup
  else if type = "channel".toList then some .channel
  else none

def parseJsonAndGetChat (data : PTree) : Except Failure Chat := do
  let id ← getInt64 env "id" data
  let type ← getString "type" data
  return {
    id
    type := chatType type
    title := getText "title" data
    username := getText "username" data
    firstName := getText "first_name" data
    lastName := getText "last_name" data
    allMembersAreAdministrators := getFlag env "all_members_are_administrators" data }

def parseJsonAndGetUser (data : PTree) : Except Failure User := do
  let id ← getInt64 env "id" data
  let firstName ← getString "first_name" data
  return {
    id
    firstName
    lastName := getText "last_name" data
    username := getText "username" data }

def parseJsonAndGetEntity (data : PTree) : Except Failure MessageEntity := do
  let type ← getString "type" data
  let offset ← getInt32 env "offset" data
  let length ← getInt32 env "length" data
  let user ← tryParseJson (parseJsonAndGetUser env) data "user"
  return { type, offset, length, url := getText "url" data, user }

def parseJsonAndGetPhotoSize (data : PTree) : Except Failure PhotoSize := do
  let fileId ← getString "file_id" data
  let width ← getInt32 env "width" data
  let height ← getInt32 env "height" data
  return { fileId, width, height, fileSize := getCount env "file_size" data }

def parseJsonAndGetAudio (data : PTree) : Except Failure Audio := do
  let fileId ← getString "file_id" data
  let duration ← getInt32 env "duration" data
  return {
    fileId
    duration
    performer := getText "performer" data
    title := getText "title" data
    mimeType := getText "mime_type" data
    fileSize := getCount env "file_size" data }

def parseJsonAndGetDocument (data : PTree) : Except Failure Document := do
  let fileId ← getString "file_id" data
  let thumb ← tryParseJson (parseJsonAndGetPhotoSize env) data "thumb"
  return {
    fileId
    thumb
    fileName := getText "file_name" data
    mimeType := getText "mime_type" data
    fileSize := getCount env "file_size" data }

def parseJsonAndGetSticker (data : PTree) : Except Failure Sticker := do
  let fileId ← getString "file_id" data
  let width ← getInt32 env "width" data
  let height ← getInt32 env "height" data
  let thumb ← tryParseJson (parseJsonAndGetPhotoSize env) data "thumb"
  let emoji ← getString "emoji" data
  return { fileId, width, height, thumb, emoji, fileSize := getCount env "file_size" data }

def parseJsonAndGetVideo (data : PTree) : Except Failure Video := do
  let fileId ← getString "file_id" data
  let width ← getInt32 env "width" data
  let height ← getInt32 env "height" data
  let duration ← getInt32 env "duration" data
  let thumb ← tryParseJson (parseJsonAndGetPhotoSize env) data "thumb"
  return {
    fileId
    width
    height
    duration
    thumb
    mimeType := getText "mime_type" data
    fileSize := getCount env "file_size" data }

def parseJsonAndGetContact (data : PTree) : Except Failure Contact := do
  let phoneNumber ← getString "phone_number" data
  let firstName ← getString "first_name" data
  return {
    phoneNumber
    firstName
    lastName := getText "last_name" data
    userId := getText "user_id" data }

def parseJsonAndGetLocation (data : PTree) : Except Failure Location :=
  return {
    longitude := data.getD env.float "longitude".toList 0
    latitude := data.getD env.float "latitude".toList 0 }

def parseJsonAndGetMessage (data : PTree) : Except Failure Message := do
  let messageId ← getInt32 env "message_id" data
  let sender ← tryParseJson (parseJsonAndGetUser env) data "from"
  let date ← getInt32 env "date" data
  let chat ← parseFound (parseJsonAndGetChat env) data "chat"
  let forwardFrom ← tryParseJson (parseJsonAndGetUser env) data "forward_from"
  let forwardFromChat ← tryParseJson (parseJsonAndGetChat env) data "forward_from_chat"
  let replyToMessage ← tryParseFound data "reply_to_message" fun treeItem _found =>
    parseJsonAndGetMessage treeItem
  let entities ← parseJsonAndGetArrayAt (parseJsonAndGetEntity env) data "entities"
  let audio ← tryParseJson (parseJsonAndGetAudio env) data "audio"
  let document ← tryParseJson (parseJsonAndGetDocument env) data "document"
  let photo ← parseJsonAndGetArrayAt (parseJsonAndGetPhotoSize env) data "photo"
  let sticker ← tryParseJson (parseJsonAndGetSticker env) data "sticker"
  let video ← tryParseJson (parseJsonAndGetVideo env) data "video"
  let contact ← tryParseJson parseJsonAndGetContact data "contact"
  let location ← tryParseJson (parseJsonAndGetLocation env) data "location"
  let newChatMember ← tryParseJson (parseJsonAndGetUser env) data "new_chat_participant"
  let leftChatMember ← tryParseJson (parseJsonAndGetUser env) data "left_chat_participant"
  let newChatPhoto ← parseJsonAndGetArrayAt (parseJsonAndGetPhotoSize env) data "new_chat_photo"
  return {
    messageId
    «from» := sender
    date
    chat
    forwardFrom
    forwardFromChat
    forwardFromMessageId := getCount env "forward_from_message_id" data
    forwardDate := getCount env "forward_date" data
    replyToMessage
    editDate := getCount env "edit_date" data
    text := getText "text" data
    entities
    audio
    document
    photo
    sticker
    video
    contact
    location
    newChatMember
    leftChatMember
    newChatTitle := getText "new_chat_title" data
    newChatPhoto
    deleteChatPhoto := getFlag env "delete_chat_photo" data
    groupChatCreated := getFlag env "group_chat_created" data
    -- a `bool` assigned to a `std::string`
    caption := [if getFlag env "caption" data then Char.ofNat 1 else Char.ofNat 0]
    supergroupChatCreated := getFlag env "supergroup_chat_created" data
    channelChatCreated := getFlag env "channel_chat_created" data
    migrateToChatId := data.getD env.int64 "migrate_to_chat_id".toList 0
    migrateFromChatId := data.getD env.int64 "migrate_from_chat_id".toList 0 }
termination_by sizeOf data
decreasing_by exact sizeOf_find _found

def parseJsonAndGetInlineQuery (data : PTree) : Except Failure InlineQuery := do
  let id ← getString "id" data
  let sender ← tryParseJson (parseJsonAndGetUser env) data "from"
  let location ← tryParseJson (parseJsonAndGetLocation env) data "location"
  let query ← getString "query" data
  let offset ← getString "offset" data
  return { id, «from» := sender, location, query, offset }

def parseJsonAndGetChosenInlineResult (data : PTree) : Except Failure ChosenInlineResult := do
  let resultId ← getString "result_id" data
  let sender ← tryParseJson (parseJsonAndGetUser env) data "from"
  let location ← tryParseJson (parseJsonAndGetLocation env) data "location"
  let query ← getString "query" data
  return {
    resultId
    «from» := sender
    location
    inlineMessageId := getText "inline_message_id" data
    query }

def parseJsonAndGetCallbackQuery (data : PTree) : Except Failure CallbackQuery := do
  let id ← getString "id" data
  let sender ← tryParseJson (parseJsonAndGetUser env) data "from"
  let message ← tryParseJson (parseJsonAndGetMessage env) data "message"
  let chatInstance ← getString "chat_instance" data
  return {
    id
    «from» := sender
    message
    inlineMessageId := getText "inline_message_id" data
    chatInstance
    gameShortName := getText "game_short_name" data
    data := getText "data" data }

def parseJsonAndGetUpdate (data : PTree) : Except Failure Update := do
  let updateId ← getInt32 env "update_id" data
  let message ← tryParseJson (parseJsonAndGetMessage env) data "message"
  let editedMessage ← tryParseJson (parseJsonAndGetMessage env) data "edited_message"
  let channelPost ← tryParseJson (parseJsonAndGetMessage env) data "channel_post"
  let editedChannelPost ← tryParseJson (parseJsonAndGetMessage env) data "edited_channel_post"
  let inlineQuery ← tryParseJson (parseJsonAndGetInlineQuery env) data "inline_query"
  let chosenInlineResult ←
    tryParseJson (parseJsonAndGetChosenInlineResult env) data "chosen_inline_result"
  let callbackQuery ← tryParseJson (parseJsonAndGetCallbackQuery env) data "callback_query"
  return {
    updateId
    message
    editedMessage
    channelPost
    editedChannelPost
    inlineQuery
    chosenInlineResult
    callbackQuery }

end TgTypeParser

end GpsInformer
