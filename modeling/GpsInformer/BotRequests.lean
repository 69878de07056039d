import Mathlib.Data.List.Nodup
import GpsInformer.HttpRequests
import GpsInformer.ReplyMarkup

/-!
# The bot's requests on the wire (TelegramBot.cpp, HttpParser.cpp)

Every function of the bot that asks the server for something, with all of its arguments.  On
an enabled bot a sequence of calls queues one request for each, in order, and the server reads
from each the method, the place and the arguments it was made of (`calls_carried`).
-/

namespace GpsInformer

open Lib TgBot

/-- The last arguments of the functions that send something. -/
structure SendOptions where
  disableNotification : Bool := false
  replyToMessageId : Int := 0
  replyMarkup : Option GenericReply := none
  deriving DecidableEq, Repr

/-- A call of a function of the bot that makes a request, with all arguments. -/
inductive BotCall where
  | getMe
  | sendMessage (chatId : Int) (text : Str) (parseMode : ParseMode) (disableWebPagePreview : Bool)
      (options : SendOptions)
  | sendLocation (chatId : Int) (latitude longitude : ℚ) (options : SendOptions)
  | sendVenue (chatId : Int) (latitude longitude : ℚ) (title address foursquareId : Str)
      (options : SendOptions)
  | sendContact (chatId : Int) (phoneNumber firstName lastName : Str) (options : SendOptions)
  | getUpdates (limit timeout : Int)
  deriving DecidableEq, Repr

def textArg (name : String) (value : Str) : HttpReqArg := { name := name.toList, value }

/-- `if (value) arguments.push_back(HttpReqArg(name, value));` for a `bool` -/
def flagArg (name : String) (value : Bool) : List HttpReqArg :=
  if value then [textArg name "1".toList] else []

/-- `if (value) arguments.push_back(HttpReqArg(name, value));` for a number -/
def numberArg (name : String) (value : Int) : List HttpReqArg :=
  if value ≠ 0 then [textArg name (lexicalCast value)] else []

/-- `if (!value.empty()) arguments.push_back(HttpReqArg(name, value));` -/
def optionalArg (name : String) (value : Str) : List HttpReqArg :=
  if value ≠ [] then [textArg name value] else []

def ParseMode.argument : ParseMode → List HttpReqArg
  | .markdown => [textArg "parse_mode" "Markdown".toList]
  | .html => [textArg "parse_mode" "HTML".toList]
  | .none => []

def SendOptions.arguments (options : SendOptions) : List HttpReqArg :=
  flagArg "disable_notification" options.disableNotification ++
    (numberArg "reply_to_message_id" options.replyToMessageId ++
      (options.replyMarkup.map fun replyMarkup =>
        textArg "reply_markup" (TgTypeParser.parseGenericReply replyMarkup)).toList)

namespace BotCall

variable (formatDouble : ℚ → Str) (lastUpdateId : Int)

def method : BotCall → String
  | .getMe => "getMe"
  | .sendMessage .. => "sendMessage"
  | .sendLocation .. => "sendLocation"
  | .sendVenue .. => "sendVenue"
  | .sendContact .. => "sendContact"
  | .getUpdates .. => "getUpdates"

def tag : BotCall → Nat
  | .getMe => Tags.getMe
  | .sendMessage .. => Tags.sendMessage
  | .sendLocation .. => Tags.sendLocation
  | .sendVenue .. => Tags.sendVenue
  | .sendContact .. => Tags.sendContact
  | .getUpdates .. => Tags.getUpdates

def longPoll : BotCall → Bool
  | .getUpdates .. => true
  | _ => false

def arguments : BotCall → List HttpReqArg
  | .getMe => []
  | .sendMessage chatId text parseMode disableWebPagePreview options =>
      [textArg "chat_id" (lexicalCast chatId), textArg "text" text] ++ (parseMode.argument ++
        (flagArg "disable_web_page_preview" disableWebPagePreview ++ options.arguments))
  | .sendLocation chatId latitude longitude options =>
      [textArg "chat_id" (lexicalCast chatId), textArg "latitude" (formatDouble latitude),
        textArg "longitude" (formatDouble longitude)] ++ options.arguments
  | .sendVenue chatId latitude longitude title address foursquareId options =>
      [textArg "chat_id" (lexicalCast chatId), textArg "latitude" (formatDouble latitude),
        textArg "longitude" (formatDouble longitude), textArg "title" title,
        textArg "address" address] ++
          (optionalArg "foursquare_id" foursquareId ++ options.arguments)
  | .sendContact chatId phoneNumber firstName lastName options =>
      [textArg "chat_id" (lexicalCast chatId), textArg "phone_number" phoneNumber,
        textArg "first_name" firstName] ++ (optionalArg "last_name" lastName ++ options.arguments)
  | .getUpdates limit timeout =>
      numberArg "offset" lastUpdateId ++
        ([textArg "limit" (lexicalCast (max 1 (min 100 limit)))] ++ numberArg "timeout" timeout)

end BotCall

namespace TelegramBot

variable {σ : Type} (env : BotEnv)

/-- A call is made. -/
def call (c : BotCall) (s : Owned (TelegramBot σ)) : Owned (TelegramBot σ) :=
  makeRequest env c.method (c.arguments env.formatDouble s.owner.lastUpdateId) c.tag c.longPoll s

/-! ## The calls with the default arguments -/

theorem sendMessage_eq (chatId : Int) (text : Str) (parseMode : ParseMode)
    (s : Owned (TelegramBot σ)) :
    sendMessage env chatId text parseMode s =
      call env (.sendMessage chatId text parseMode false {}) s := by
  cases parseMode
  · rfl
  · rfl
  · rfl

theorem sendLocation_eq (chatId : Int) (latitude longitude : ℚ) (s : Owned (TelegramBot σ)) :
    sendLocation env chatId latitude longitude s =
      call env (.sendLocation chatId latitude longitude {}) s := rfl

theorem getMe_eq (s : Owned (TelegramBot σ)) : getMe env s = call env .getMe s := rfl

theorem getUpdates_eq (limit timeout : Int) (s : Owned (TelegramBot σ)) :
    getUpdates env limit timeout s = call env (.getUpdates limit timeout) s := by
  unfold getUpdates call BotCall.arguments numberArg textArg
  simp only [List.append_assoc]
  rfl

end TelegramBot

/-! ## The arguments of a call -/

namespace BotCall

variable {formatDouble : ℚ → Str} {lastUpdateId : Int}

/-- The names an argument can have, in order. -/
def names : BotCall → List String
  | .getMe => []
  | .sendMessage .. =>
      ["chat_id", "text", "parse_mode", "disable_web_page_preview", "disable_notification",
        "reply_to_message_id", "reply_markup"]
  | .sendLocation .. =>
      ["chat_id", "latitude", "longitude", "disable_notification", "reply_to_message_id",
        "reply_markup"]
  | .sendVenue .. =>
      ["chat_id", "latitude", "longitude", "title", "address", "foursquare_id",
        "disable_notification", "reply_to_message_id", "reply_markup"]
  | .sendContact .. =>
      ["chat_id", "phone_number", "first_name", "last_name", "disable_notification",
        "reply_to_message_id", "reply_markup"]
  | .getUpdates .. => ["offset", "limit", "timeout"]

/-- Some of the named arguments, in the order of the names, none of them a file. -/
structure Among (arguments : List HttpReqArg) (names : List String) : Prop where
  names : (arguments.map HttpReqArg.name).Sublist (names.map String.toList)
  noFile : ∀ item ∈ arguments, item.isFile = false

theorem Among.append {a b : List HttpReqArg} {ns ms : List String} (front : Among a ns)
    (back : Among b ms) : Among (a ++ b) (ns ++ ms) := by
  refine ⟨?_, fun item member => ?_⟩
  · rw [List.map_append, List.map_append]
    exact front.names.append back.names
  · rcases List.mem_append.mp member with member | member
    · exact front.noFile item member
    · exact back.noFile item member

theorem Among.none (ns : List String) : Among [] ns :=
  ⟨List.nil_sublist _, List.forall_mem_nil _⟩

theorem Among.textArg {arguments : List HttpReqArg} {ns : List String} (name : String) (value : Str)
    (rest : Among arguments ns) :
    Among (GpsInformer.textArg name value :: arguments) (name :: ns) :=
  ⟨rest.names.cons_cons _, List.forall_mem_cons.mpr ⟨rfl, rest.noFile⟩⟩

theorem Among.iff {p : Prop} [Decidable p] (name : String) (value : Str) :
    Among (if p then [GpsInformer.textArg name value] else []) [name] := by
  split
  · exact (Among.none []).textArg name value
  · exact Among.none _

theorem among_flag (name : String) (value : Bool) : Among (flagArg name value) [name] :=
  Among.iff _ _

theorem among_number (name : String) (value : Int) : Among (numberArg name value) [name] :=
  Among.iff _ _

theorem among_optional (name : String) (value : Str) : Among (optionalArg name value) [name] :=
  Among.iff _ _

theorem among_options (options : SendOptions) :
    Among options.arguments ["disable_notification", "reply_to_message_id", "reply_markup"] := by
  have markup : Among (options.replyMarkup.map fun replyMarkup =>
      textArg "reply_markup" (TgTypeParser.parseGenericReply replyMarkup)).toList
        ["reply_markup"] := by
    cases options.replyMarkup with
    | none => exact Among.none _
    | some replyMarkup => exact (Among.none []).textArg _ _
  exact (among_flag _ _).append ((among_number _ _).append markup)

theorem among_arguments (c : BotCall) :
    Among (c.arguments formatDouble lastUpdateId) c.names := by
  cases c with
  | getMe => exact Among.none _
  | sendMessage chatId text parseMode disableWebPagePreview options =>
      have mode : Among parseMode.argument ["parse_mode"] := by
        cases parseMode with
        | none => exact Among.none _
        | markdown => exact (Among.none []).textArg _ _
        | html => exact (Among.none []).textArg _ _
      have rest := mode.append
        ((among_flag "disable_web_page_preview" disableWebPagePreview).append
          (among_options options))
      exact (rest.textArg _ _).textArg _ _
  | sendLocation chatId latitude longitude options =>
      exact (((among_options options).textArg _ _).textArg _ _).textArg _ _
  | sendVenue chatId latitude longitude title address foursquareId options =>
      have rest := (among_optional "foursquare_id" foursquareId).append (among_options options)
      exact ((((rest.textArg _ _).textArg _ _).textArg _ _).textArg _ _).textArg _ _
  | sendContact chatId phoneNumber firstName lastName options =>
      have rest := (among_optional "last_name" lastName).append (among_options options)
      exact ((rest.textArg _ _).textArg _ _).textArg _ _
  | getUpdates limit timeout =>
      exact (among_number _ _).append ((among_number _ _).textArg _ _)

/-- No argument is given twice. -/
theorem arguments_nodup (c : BotCall) :
    ((c.arguments formatDouble lastUpdateId).map HttpReqArg.name).Nodup := by
  refine (among_arguments c).names.nodup ?_
  have distinct : c.names.Nodup := by
    cases c <;> simp [names]
  exact List.Nodup.map (fun _ _ same => String.toList_inj.mp same) distinct

end BotCall

/-! ## What the server reads -/

namespace HttpParser

/-- The arguments in the body of a request. -/
def readForm (body : Str) : List (Str × Str) := if body = [] then [] else formDecode body

/-- The server finds the method, the place and the arguments in a request. -/
def Reads (data : Str) (s : UrlString) (args : List HttpReqArg) : Prop :=
  ∀ headers, ∃ body parsed, parseRequest data headers = (body, parsed) ∧
    parsed "method".toList = some (if args.isEmpty then "GET" else "POST").toList ∧
    parsed "path".toList = some s.target ∧
    parsed "host".toList = some s.host ∧
    (args ≠ [] → parsed "content-length".toList = some (lexicalCast body.length)) ∧
    readForm body = args.map fun item => (item.name, item.value)

def bareFields (isKeepAlive : Bool) (host : Str) : List (Str × Str) :=
  (requestFields isKeepAlive host []).take 2

/-- A request without arguments is a message without a body. -/
theorem generateRequest_nil (rand : Nat → Nat) (url : Url) (isKeepAlive : Bool) :
    generateRequest rand url [] isKeepAlive =
      response (requestLine "GET".toList (target url) "HTTP/1.1".toList ::
        (bareFields isKeepAlive url.host).map fieldLine) [] := by
  have get : "GET ".toList = "GET".toList ++ [' '] := rfl
  have version : " HTTP/1.1\r\n".toList = ' ' :: "HTTP/1.1".toList ++ ['\r', '\n'] := rfl
  have host : "Host: ".toList = "Host".toList ++ [':', ' '] := rfl
  have connection : "\r\nConnection: ".toList =
      ['\r', '\n'] ++ "Connection".toList ++ [':', ' '] := rfl
  have newLine : "\r\n".toList = ['\r', '\n'] := rfl
  unfold generateRequest
  rw [List.isEmpty_nil]
  simp only [if_true, get, version, host, connection, newLine, response, requestLine, bareFields,
    requestFields, fieldLine, target, List.take_succ_cons, List.take_zero, List.map_cons,
    List.map_nil, List.flatMap_cons, List.flatMap_nil, List.append_assoc, List.cons_append,
    List.nil_append, List.append_nil]

variable {s : UrlString}

theorem host_visible (s : UrlString) : ∀ c ∈ s.host, IsVisible c := s.visible s.host (by simp)

theorem requestLine_visible {method : Str} (visible : ∀ c ∈ method, IsVisible c) :
    HeaderLine (requestLine method s.target "HTTP/1.1".toList) :=
  headerLine_of_visible visible s.visible_target (Str.forall_of_all rfl)

theorem formEncode_ne_nil {pairs : List (Str × Str)} (nonempty : pairs ≠ []) :
    formEncode legit pairs ≠ [] := by
  cases pairs with
  | nil => exact absurd rfl nonempty
  | cons pair pairs =>
      have written : '=' ∈ formEncode legit (pair :: pairs) := by
        unfold formEncode
        cases pairs with
        | nil => simp [encodePair]
        | cons next pairs => simp [encodePair]
      exact List.ne_nil_of_mem written

/-- What the fields of a request without arguments put into the headers. -/
theorem read_bareFields (s : UrlString) (isKeepAlive : Bool) (headers : Headers) :
    headers.read (bareFields isKeepAlive s.host) "host".toList = some s.host := by
  have hostKey : Str.toLower "Host".toList = "host".toList := by decide
  have connectionKey : Str.toLower "Connection".toList = "connection".toList := by decide
  have trimmed : Str.trim (' ' :: s.host) = s.host :=
    Str.trim_space_cons fun c member => not_isSpace (host_visible s c member)
  unfold bareFields requestFields
  simp only [List.take_succ_cons, List.take_zero, Headers.read, List.foldl_cons, List.foldl_nil,
    hostKey, connectionKey, trimmed]
  rw [Headers.set_of_ne _ _ (by decide), Headers.set_self]

theorem read_bareFields_of_ne (isKeepAlive : Bool) (host : Str) (headers : Headers) {key : Str}
    (other : ∀ name ∈ fieldNames, key ≠ Str.toLower name) :
    headers.read (bareFields isKeepAlive host) key = headers key := by
  apply headers.read_of_ne
  intro field member
  apply other
  have names : (requestFields isKeepAlive host []).map Prod.fst = fieldNames := rfl
  rw [← names]
  exact List.mem_map_of_mem (List.mem_of_mem_take member)

theorem reads_nil (rand : Nat → Nat) (s : UrlString) (isKeepAlive : Bool) :
    Reads (generateRequest rand (Url.parse s.text) [] isKeepAlive) s [] := by
  intro headers
  have host : (Url.parse s.text).host = s.host := by rw [Url.parse_text]
  have getVisible : ∀ c ∈ "GET".toList, IsVisible c := Str.forall_of_all rfl
  have valid : ∀ field ∈ bareFields isKeepAlive s.host, Field field := fun field member =>
    requestFields_valid (host_visible s) field (List.mem_of_mem_take member)
  have readHost := read_bareFields s isKeepAlive
    ((headers.set "method".toList "GET".toList).set "path".toList s.target)
  refine ⟨[], _, ?_, ?_, ?_, readHost, fun some_arg => absurd rfl some_arg, rfl⟩
  · rw [generateRequest_nil, target_parse, host]
    exact parseRequest_response (not_mem_of_visible getVisible (by decide))
      (not_mem_of_visible s.visible_target (by decide)) (requestLine_visible getVisible) valid _ _
  · rw [read_bareFields_of_ne _ _ _ (by decide), Headers.set_of_ne _ _ (by decide),
      Headers.set_self]
    rfl
  · rw [read_bareFields_of_ne _ _ _ (by decide), Headers.set_self]

theorem reads_form (rand : Nat → Nat) (s : UrlString) {args : List HttpReqArg}
    (nonempty : args ≠ []) (noFile : ∀ item ∈ args, item.isFile = false)
    (bytes : ∀ item ∈ args, (∀ c ∈ item.name, c.toNat < 256) ∧ ∀ c ∈ item.value, c.toNat < 256)
    (isKeepAlive : Bool) :
    Reads (generateRequest rand (Url.parse s.text) args isKeepAlive) s args := by
  intro headers
  have host : (Url.parse s.text).host = s.host := by rw [Url.parse_text]
  have postVisible : ∀ c ∈ "POST".toList, IsVisible c := Str.forall_of_all rfl
  have pairs : (args.map fun item => (item.name, item.value)) ≠ [] :=
    mt List.map_eq_nil_iff.mp nonempty
  obtain ⟨readHost, readLength⟩ := @read_requestFields isKeepAlive s.host
    (generateWwwFormUrlencoded args) (host_visible s)
    ((headers.set "method".toList "POST".toList).set "path".toList s.target)
  refine ⟨generateWwwFormUrlencoded args, _, ?_, ?_, ?_, readHost, fun _ => readLength, ?_⟩
  · rw [generateRequest_eq rand _ nonempty noFile, target_parse, host]
    exact parseRequest_response (not_mem_of_visible postVisible (by decide))
      (not_mem_of_visible s.visible_target (by decide)) (requestLine_visible postVisible)
      (requestFields_valid (host_visible s)) _ _
  · have some_arg : args.isEmpty = false := List.isEmpty_eq_false_iff.mpr nonempty
    rw [read_requestFields_of_ne _ (by decide), Headers.set_of_ne _ _ (by decide),
      Headers.set_self, some_arg]
    rfl
  · rw [read_requestFields_of_ne _ (by decide), Headers.set_self]
  · rw [generateWwwFormUrlencoded_eq, readForm, if_neg (formEncode_ne_nil pairs)]
    apply formDecode_formEncode ⟨by decide, by decide, by decide⟩ pairs
    rw [List.forall_mem_map]
    exact bytes

end HttpParser

namespace BotCall

def methods : List String :=
  ["getMe", "sendMessage", "sendLocation", "sendVenue", "sendContact", "getUpdates"]

theorem method_mem (c : BotCall) : c.method ∈ methods := by
  cases c <;> simp [method, methods]

theorem method_legal (c : BotCall) :
    ∀ ch ∈ c.method.toList, (ch ≠ '?' ∧ ch ≠ '#') ∧ IsVisible ch := by
  have all : (methods.all fun name =>
      name.toList.all fun ch => (ch ≠ '?' ∧ ch ≠ '#') ∧ IsVisible ch) = true := rfl
  exact Str.forall_of_all (List.all_eq_true.mp all c.method c.method_mem)

theorem method_nonempty (c : BotCall) : c.method.toList ≠ [] := by
  have all : (methods.all fun name => !name.toList.isEmpty) = true := rfl
  have some_char := List.all_eq_true.mp all c.method c.method_mem
  simpa using some_char

theorem names_bytes (c : BotCall) : ∀ name ∈ c.names, ∀ ch ∈ name.toList, ch.toNat < 256 := by
  have all : (c.names.all fun name => name.toList.all (·.toNat < 256)) = true := by
    cases c <;> rfl
  intro name member
  exact Str.forall_of_all (List.all_eq_true.mp all name member)

theorem arguments_bytes {formatDouble : ℚ → Str} {lastUpdateId : Int} (c : BotCall)
    {item : HttpReqArg} (member : item ∈ c.arguments formatDouble lastUpdateId) :
    ∀ ch ∈ item.name, ch.toNat < 256 := by
  have named := (among_arguments c).names.subset (List.mem_map_of_mem member)
  obtain ⟨name, known, same⟩ := List.mem_map.mp named
  rw [← same]
  exact names_bytes c name known

/-- The place of a call, below that of the bot. -/
def url (base : UrlString) (c : BotCall) : UrlString where
  protocol := base.protocol
  host := base.host
  path := base.path ++ c.method.toList
  query := none
  fragment := none
  protocol_ends := base.protocol_ends
  host_ends := base.host_ends
  path_ends := by
    intro ch member
    rcases List.mem_append.mp member with member | member
    · exact base.path_ends ch member
    · exact (c.method_legal ch member).1
  query_ends := List.forall_mem_nil _
  visible := by
    have part := fun part among => base.visible part among
    simp only [List.forall_mem_cons] at part ⊢
    refine ⟨part.1, part.2.1, fun ch member => ?_, List.forall_mem_nil _, List.forall_mem_nil _,
      List.forall_mem_nil _⟩
    rcases List.mem_append.mp member with member | member
    · exact part.2.2.1 ch member
    · exact (c.method_legal ch member).2

end BotCall

/-! ## A sequence of calls -/

namespace TelegramBot

variable {σ : Type} (env : BotEnv)

/-- The bot is enabled, and its requests go below `<apiUrl><token>/`. -/
structure Addressed (bot : TelegramBot σ) (base : UrlString) : Prop where
  enabled : bot.enabled = true
  apiUrl : bot.apiUrl ≠ []
  token : bot.token ≠ []
  text : base.text = bot.apiUrl ++ bot.token ++ ['/']
  query : base.query = none
  fragment : base.fragment = none

/-- The request of a call. -/
def request (c : BotCall) (bot : TelegramBot σ) : HttpRequest where
  url := bot.apiUrl ++ bot.token ++ ['/'] ++ c.method.toList
  arguments := c.arguments env.formatDouble bot.lastUpdateId
  longPoll := c.longPoll
  tag := c.tag

theorem call_eq {base : UrlString} {s : Owned (TelegramBot σ)} (addressed : Addressed s.owner base)
    (c : BotCall) : call env c s =
      { s with client := s.client.sendRequest env.httpsTimerFails (request env c s.owner) } := by
  unfold call makeRequest
  rw [if_neg]
  · rfl
  · simp [addressed.enabled, addressed.apiUrl, addressed.token, c.method_nonempty]

theorem url_text {base : UrlString} {bot : TelegramBot σ} (addressed : Addressed bot base)
    (c : BotCall) : (c.url base).text = bot.apiUrl ++ bot.token ++ ['/'] ++ c.method.toList := by
  rw [← addressed.text, UrlString.text, UrlString.text, addressed.query, addressed.fragment]
  simp [BotCall.url]

/-- What the server reads of the request is what the call was made with, and its answer will be
handled as one to this call. -/
structure Carries (bot : TelegramBot σ) (base : UrlString) (c : BotCall) (request : HttpRequest) :
    Prop where
  tag : request.tag = c.tag
  longPoll : request.longPoll = c.longPoll
  reads : ∀ rand, HttpParser.Reads
    (HttpParser.generateRequest rand (Url.parse request.url) request.arguments false) (c.url base)
    (c.arguments env.formatDouble bot.lastUpdateId)
  distinct : ((c.arguments env.formatDouble bot.lastUpdateId).map HttpReqArg.name).Nodup

theorem carries_request {base : UrlString} {bot : TelegramBot σ} (addressed : Addressed bot base)
    (c : BotCall) (bytes : ∀ item ∈ c.arguments env.formatDouble bot.lastUpdateId,
      ∀ ch ∈ item.value, ch.toNat < 256) :
    Carries env bot base c (request env c bot) where
  tag := rfl
  longPoll := rfl
  reads := by
    intro rand
    have place : Url.parse (request env c bot).url = Url.parse (c.url base).text :=
      congrArg Url.parse (url_text addressed c).symm
    have noFile : ∀ item ∈ c.arguments env.formatDouble bot.lastUpdateId, item.isFile = false :=
      (BotCall.among_arguments c).noFile
    rw [place]
    by_cases empty : c.arguments env.formatDouble bot.lastUpdateId = []
    · have read := HttpParser.reads_nil rand (c.url base) false
      rw [← empty] at read
      exact read
    · exact HttpParser.reads_form rand (c.url base) empty noFile
        (fun item member => ⟨c.arguments_bytes member, bytes item member⟩) false
  distinct := c.arguments_nodup

/-- Calls on an enabled bot queue one request each, in order, and the server reads from each
request the call's method, place and arguments. -/
theorem calls_carried {base : UrlString} {s : Owned (TelegramBot σ)}
    (addressed : Addressed s.owner base) (calls : List BotCall)
    (bytes : ∀ c ∈ calls, ∀ item ∈ c.arguments env.formatDouble s.owner.lastUpdateId,
      ∀ ch ∈ item.value, ch.toNat < 256) :
    ∃ requests,
      (calls.foldl (fun s c => call env c s) s).client.requestQueue =
        s.client.requestQueue ++ requests ∧
      (calls.foldl (fun s c => call env c s) s).owner = s.owner ∧
      List.Forall₂ (Carries env s.owner base) calls requests := by
  induction calls generalizing s with
  | nil => exact ⟨[], (List.append_nil _).symm, rfl, List.Forall₂.nil⟩
  | cons c calls ih =>
      rw [List.forall_mem_cons] at bytes
      have called := call_eq env addressed c
      have owner : (call env c s).owner = s.owner := by rw [called]
      have queue : (call env c s).client.requestQueue =
          s.client.requestQueue ++ [request env c s.owner] := by
        rw [called]
        unfold HttpsClient.sendRequest HttpsClient.pushQueue
        dsimp only
        split <;> rfl
      obtain ⟨requests, queued, kept, carried⟩ := @ih (call env c s) (by rwa [owner])
        (by rw [owner]; exact bytes.2)
      rw [owner] at kept carried
      refine ⟨request env c s.owner :: requests, ?_, kept,
        List.Forall₂.cons (carries_request env addressed c bytes.1) carried⟩
      rw [List.foldl_cons, queued, queue, List.append_assoc, List.singleton_append]

def sampleBase : UrlString where
  protocol := "http".toList
  host := "host".toList
  path := "bot1:a/".toList
  query := none
  fragment := none
  protocol_ends := by decide
  host_ends := Str.forall_of_all rfl
  path_ends := Str.forall_of_all rfl
  query_ends := Str.forall_of_all rfl
  visible := by
    simp only [List.forall_mem_cons]
    exact ⟨Str.forall_of_all rfl, Str.forall_of_all rfl, Str.forall_of_all rfl,
      Str.forall_of_all rfl, Str.forall_of_all rfl, List.forall_mem_nil _⟩

def sampleOwner : Owned (TelegramBot Unit) where
  client := {}
  owner :=
    { apiUrl := "http://host/bot".toList, token := "1:a".toList, enabled := true, app := () }

theorem addressed_sampleOwner : Addressed sampleOwner.owner sampleBase where
  enabled := rfl
  apiUrl := by decide
  token := by decide
  text := rfl
  query := rfl
  fragment := rfl

/-- A text with a separator and a byte that is no character, to be replied to. -/
def sampleCalls : List BotCall :=
  [.getMe,
    .sendMessage 7 ['a', '&', Char.ofNat 255] .html true
      { replyMarkup := some (.forceReply { selective := true }) },
    .getUpdates 200 60]

def sampleSender : BotEnv where
  toPTreeEnv := TgTypeParser.jsonTrees
  formatDouble _ := []
  timerFails _ := false
  httpsTimerFails _ := false

/-- The values of the arguments of these calls. -/
def sampleValues : List Str :=
  [['7'], ['a', '&', Char.ofNat 255], "HTML".toList, ['1'],
    "\x7b\"force_reply\":true,\"selective\":true\x7d".toList, "100".toList, "60".toList]

theorem sampleCalls_bytes :
    ∀ c ∈ sampleCalls,
      ∀ item ∈ c.arguments sampleSender.formatDouble sampleOwner.owner.lastUpdateId,
        ∀ ch ∈ item.value, ch.toNat < 256 := by
  have small : ∀ ch ∈ sampleValues.flatten, ch.toNat < 256 := Str.forall_of_all rfl
  intro c made item member ch inside
  have values : item.value ∈ sampleValues := by
    rcases List.mem_cons.mp made with rfl | made
    · cases member
    rcases List.mem_cons.mp made with rfl | made
    · exact List.mem_append_left ["100".toList, "60".toList]
        (List.mem_map_of_mem (f := HttpReqArg.value) member)
    rcases List.mem_cons.mp made with rfl | made
    · exact List.mem_append_right (sampleValues.take 5)
        (List.mem_map_of_mem (f := HttpReqArg.value) member)
    · cases made
  exact small ch (List.mem_flatten.mpr ⟨_, values, inside⟩)

theorem calls_carried_sample :
    ∃ requests,
      (sampleCalls.foldl (fun s c => call sampleSender c s) sampleOwner).client.requestQueue =
        sampleOwner.client.requestQueue ++ requests ∧
      (sampleCalls.foldl (fun s c => call sampleSender c s) sampleOwner).owner =
        sampleOwner.owner ∧
      List.Forall₂ (Carries sampleSender sampleOwner.owner sampleBase) sampleCalls requests :=
  calls_carried sampleSender addressed_sampleOwner sampleCalls sampleCalls_bytes

end TelegramBot

end GpsInformer
