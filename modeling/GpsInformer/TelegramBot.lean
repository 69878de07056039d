import Mathlib.Algebra.Group.Int.Defs
import Mathlib.Algebra.Group.Nat.Defs
import GpsInformer.HttpParser
import GpsInformer.HttpsClient
import GpsInformer.TgTypeParser

/-!
# `TelegramBot` (TelegramBot.cpp)

The bot, on top of the `HttpsClient` it owns and below the handler of its events, which
is the `Application`.  The handler's state is a member of the bot's (`app`), and its
reaction to an event is the change of that state and the calls it makes on the bot, in
order; no such call returns anything, so they are made at its end.

Only the arguments that some caller sets are modelled.
-/

namespace GpsInformer

open TgBot

namespace Tags

/-- `TAG_NONE` -/
def none : Nat := 0
def getUpdates : Nat := 1
def getMe : Nat := 2
def sendMessage : Nat := 3
def sendLocation : Nat := 4
def sendVenue : Nat := 5
def sendContact : Nat := 6

end Tags

inductive ParseMode where
  | none
  | markdown
  | html
  deriving DecidableEq, Repr

/-- A call on the bot. -/
inductive TelegramCall where
  | sendMessage (chatId : Int) (text : Str) (parseMode : ParseMode)
  | sendLocation (chatId : Int) (latitude longitude : ℚ)
  deriving DecidableEq, Repr

/-- The reaction of the bot's handler to an event. -/
abbrev Reaction (σ : Type) := σ → Except Failure (σ × List TelegramCall)

structure TelegramBotHandler (σ : Type) where
  handleInlineQuery : InlineQuery → Reaction σ
  handleChosenInlineResult : ChosenInlineResult → Reaction σ
  handleCallbackQuery : CallbackQuery → Reaction σ
  handleMessage : Message → Reaction σ
  handleOwnMessage : Message → Reaction σ
  handleGetMe : User → Reaction σ

/-- What the bot needs from outside: the property tree, the text of a double, and which
calls of `expires_from_now` fail on its timer and on that of its `HttpsClient`. -/
structure BotEnv extends PTreeEnv where
  formatDouble : ℚ → Str
  timerFails : Nat → Bool
  httpsTimerFails : Nat → Bool

structure TelegramBot (σ : Type) where
  apiUrl : Str := []
  token : Str := []
  lastUpdateId : Int := 0
  timerDelay : Int := 0
  enabled : Bool := false
  /-- the waits of `_timer` whose handler has not been called yet -/
  waits : Nat := 0
  /-- the number of calls of `expires_from_now` -/
  armings : Nat := 0
  app : σ
  /-- the updates passed to `handleUpdate` so far -/
  handled : List Update := []

/-- A sum of `int32_t`s. -/
def int32 (n : Int) : Int := n.bmod (2 ^ 32)

/-- `lexical_cast<std::string>` of an integer -/
def lexicalCast (n : Int) : Str :=
  if n < 0 then '-' :: Nat.toDigits 10 n.natAbs else Nat.toDigits 10 n.toNat

namespace TelegramBot

variable {σ : Type} (env : BotEnv) (handler : Option (TelegramBotHandler σ))

def makeRequest (method : String) (arguments : List HttpReqArg) (tag : Nat) (longPoll : Bool)
    (s : Owned (TelegramBot σ)) : Owned (TelegramBot σ) :=
  let bot := s.owner
  if !bot.enabled ∨ bot.apiUrl.isEmpty ∨ bot.token.isEmpty ∨ method.toList.isEmpty then s
  else
    let request : HttpRequest :=
      { url := bot.apiUrl ++ bot.token ++ ['/'] ++ method.toList, arguments, longPoll, tag }
    { s with client := s.client.sendRequest env.httpsTimerFails request }

def sendMessage (chatId : Int) (text : Str) (parseMode : ParseMode)
    (s : Owned (TelegramBot σ)) : Owned (TelegramBot σ) :=
  let arguments : List HttpReqArg :=
    [{ name := "chat_id".toList, value := lexicalCast chatId },
      { name := "text".toList, value := text }] ++
      match parseMode with
      | .markdown => [{ name := "parse_mode".toList, value := "Markdown".toList }]
      | .html => [{ name := "parse_mode".toList, value := "HTML".toList }]
      | .none => []
  makeRequest env "sendMessage" arguments Tags.sendMessage false s

def sendLocation (chatId : Int) (latitude longitude : ℚ) (s : Owned (TelegramBot σ)) :
    Owned (TelegramBot σ) :=
  let arguments : List HttpReqArg :=
    [{ name := "chat_id".toList, value := lexicalCast chatId },
      { name := "latitude".toList, value := env.formatDouble latitude },
      { name := "longitude".toList, value := env.formatDouble longitude }]
  makeRequest env "sendLocation" arguments Tags.sendLocation false s

def getMe (s : Owned (TelegramBot σ)) : Owned (TelegramBot σ) :=
  makeRequest env "getMe" [] Tags.getMe false s

def getUpdates (limit timeout : Int) (s : Owned (TelegramBot σ)) : Owned (TelegramBot σ) :=
  let offset : List HttpReqArg :=
    if s.owner.lastUpdateId ≠ 0 then
      [{ name := "offset".toList, value := lexicalCast s.owner.lastUpdateId }]
    else []
  let limit := max 1 (min 100 limit)
  let timeout : List HttpReqArg :=
    if timeout ≠ 0 then [{ name := "timeout".toList, value := lexicalCast timeout }] else []
  let limit : List HttpReqArg := [{ name := "limit".toList, value := lexicalCast limit }]
  makeRequest env "getUpdates" (offset ++ limit ++ timeout) Tags.getUpdates true s

def perform (s : Owned (TelegramBot σ)) : TelegramCall → Owned (TelegramBot σ)
  | .sendMessage chatId text parseMode => sendMessage env chatId text parseMode s
  | .sendLocation chatId latitude longitude => sendLocation env chatId latitude longitude s

/-- The handler reacts to an event. -/
def react (reaction : Reaction σ) (s : Owned (TelegramBot σ)) :
    Except Failure (Owned (TelegramBot σ)) := do
  let (app, calls) ← reaction s.owner.app
  return calls.foldl (perform env) { s with owner := { s.owner with app } }

/-- `if (pointer != nullptr) _handler->...(pointer);` -/
def reactTo {α : Type} (pointer : Option α) (reaction : α → Reaction σ)
    (s : Owned (TelegramBot σ)) : Except Failure (Owned (TelegramBot σ)) :=
  match pointer with
  | none => .ok s
  | some object => react env (reaction object) s

def handleUpdate (update : Update) (s : Owned (TelegramBot σ)) :
    Except Failure (Owned (TelegramBot σ)) :=
  let s := { s with owner := { s.owner with handled := s.owner.handled ++ [update] } }
  match handler with
  | none => .ok s
  | some handler => do
      let s ← reactTo env update.inlineQuery handler.handleInlineQuery s
      let s ← reactTo env update.chosenInlineResult handler.handleChosenInlineResult s
      let s ← reactTo env update.callbackQuery handler.handleCallbackQuery s
      reactTo env update.message handler.handleMessage s

/-- The body of the loop of `handleHttpClientResponse`. -/
def handleItem (s : Owned (TelegramBot σ)) (item : Update) :
    Except Failure (Owned (TelegramBot σ)) :=
  let lastUpdateId :=
    if item.updateId ≥ s.owner.lastUpdateId then int32 (item.updateId + 1)
    else s.owner.lastUpdateId
  handleUpdate env handler item { s with owner := { s.owner with lastUpdateId } }

/-! ## The handlers of the HTTPS client's events -/

def handleHttpClientError (s : Owned (TelegramBot σ)) : Owned (TelegramBot σ) :=
  let bot := s.owner
  if !bot.enabled then s
  else
    let errorCode := env.timerFails bot.armings
    let bot := { bot with armings := bot.armings + 1 }
    if errorCode ∨ bot.timerDelay < 1 then { s with owner := bot }
    else { s with owner := { bot with waits := bot.waits + 1 } }

def handleHttpClientIdle (s : Owned (TelegramBot σ)) : Owned (TelegramBot σ) :=
  if !s.owner.enabled then s else getUpdates env 100 60 s

/-- `"<html>"` -/
def htmlMark : Str := "<html>".toList

/-- What `handleHttpClientResponse` does with the `result` of an answer. -/
def handleResult (tag : Nat) (json : PTree) (s : Owned (TelegramBot σ)) :
    Except Failure (Owned (TelegramBot σ)) :=
  if tag = Tags.getUpdates then do
    let updates ←
      TgTypeParser.parseJsonAndGetArray (TgTypeParser.parseJsonAndGetUpdate env.toPTreeEnv) json
    updates.foldlM (handleItem env handler) s
  else
    match handler with
    | none => .ok s
    | some handler =>
        if tag = Tags.getMe then do
          let user ← TgTypeParser.parseJsonAndGetUser env.toPTreeEnv json
          react env (handler.handleGetMe user) s
        else if tag = Tags.sendMessage ∨ tag = Tags.sendLocation ∨ tag = Tags.sendVenue ∨
            tag = Tags.sendContact then do
          let message ← TgTypeParser.parseJsonAndGetMessage env.toPTreeEnv json
          react env (handler.handleOwnMessage message) s
        else .ok s

def handleHttpClientResponse (request : HttpRequest) (response : Str)
    (s : Owned (TelegramBot σ)) : Except Failure (Owned (TelegramBot σ)) :=
  if !s.owner.enabled ∨ response.isEmpty then .ok s
  else
    let serverResponse := HttpParser.parseHttp response
    if serverResponse.isEmpty then .ok s
    else if serverResponse.find htmlMark ≠ none then .ok s
    else
      match env.readJson serverResponse with
      | none => .ok s
      | some json =>
          if !json.getD env.bool "ok".toList false then .ok s
          else do
            let json ← json.getChild "result".toList
            handleResult env handler request.tag json s

/-- The bot as the handler of its `HttpsClient`. -/
def httpHandler : HttpClientHandler (TelegramBot σ) where
  handleHttpClientError := handleHttpClientError env
  handleHttpClientIdle := handleHttpClientIdle env
  handleHttpClientResponse := handleHttpClientResponse env handler

/-- A wait of `_timer` ends, by expiry or because it was cancelled. -/
def handleTimerEvent (s : Owned (TelegramBot σ)) : Owned (TelegramBot σ) :=
  let s := { s with owner := { s.owner with waits := s.owner.waits - 1 } }
  if s.owner.enabled then { s with client := s.client.pushQueue env.httpsTimerFails } else s

def start (s : Owned (TelegramBot σ)) : Owned (TelegramBot σ) :=
  handleHttpClientIdle env { s with owner := { s.owner with enabled := true } }

end TelegramBot

end GpsInformer
