import GpsInformer.HttpsQueue
import GpsInformer.TelegramBot

/-!
# What the bot's functions change

The calls of the bot's handler only queue requests that are no long polls (`Queues`), and
of the bot itself only the handler's state changes (`react_ok`).  `handleItems_ok` says
what the updates of an answer leave: each is passed to `handleUpdate`, in order, and
`_lastUpdateId` is advanced over them.
-/

namespace GpsInformer

open Lib

open TgBot (Update)

theorem Queues.trans {timerFails : Nat → Bool} {p : HttpRequest → Prop} {c d e : HttpsClient}
    (first : Queues timerFails p c d) (second : Queues timerFails p d e) :
    Queues timerFails p c e := by
  induction second with
  | refl => exact first
  | sendRequest request _ meets ih => exact ih.sendRequest request meets
  | pushQueue _ ih => exact ih.pushQueue

namespace TelegramBot

/-- A request a handler of the bot's makes: no long poll, and none for updates. -/
def Outgoing (request : HttpRequest) : Prop :=
  request.longPoll = false ∧ request.tag ≠ Tags.getUpdates

variable {σ : Type} {env : BotEnv} {handler : Option (TelegramBotHandler σ)}
  {s t : Owned (TelegramBot σ)}

theorem makeRequest_cases (env : BotEnv) (method : String) (arguments : List HttpReqArg) (tag : Nat)
    (longPoll : Bool) (s : Owned (TelegramBot σ)) :
    ((s.owner.enabled = false ∨ s.owner.apiUrl = [] ∨ s.owner.token = [] ∨ method.toList = []) ∧
        makeRequest env method arguments tag longPoll s = s) ∨
      ∃ url, makeRequest env method arguments tag longPoll s =
        { s with
          client := s.client.sendRequest env.httpsTimerFails ⟨url, arguments, longPoll, tag⟩ } := by
  unfold makeRequest
  dsimp only
  split
  · rename_i silent
    refine Or.inl ⟨?_, rfl⟩
    simpa using silent
  · exact Or.inr ⟨_, rfl⟩

theorem makeRequest_queues {method : String} {arguments : List HttpReqArg} {tag : Nat}
    (other : tag ≠ Tags.getUpdates) (s : Owned (TelegramBot σ)) :
    (makeRequest env method arguments tag false s).owner = s.owner ∧
      Queues env.httpsTimerFails Outgoing s.client
        (makeRequest env method arguments tag false s).client := by
  rcases makeRequest_cases env method arguments tag false s with
    ⟨_, silent⟩ | ⟨url, queued⟩
  · rw [silent]
    exact ⟨rfl, .refl⟩
  · rw [queued]
    exact ⟨rfl, .sendRequest _ .refl ⟨rfl, other⟩⟩

theorem perform_queues (env : BotEnv) (call : TelegramCall) (s : Owned (TelegramBot σ)) :
    (perform env s call).owner = s.owner ∧
      Queues env.httpsTimerFails Outgoing s.client (perform env s call).client := by
  cases call with
  | sendMessage chatId text parseMode => exact makeRequest_queues (by decide) s
  | sendLocation chatId latitude longitude => exact makeRequest_queues (by decide) s

theorem getMe_queues (env : BotEnv) (s : Owned (TelegramBot σ)) :
    (getMe env s).owner = s.owner ∧
      Queues env.httpsTimerFails Outgoing s.client (getMe env s).client :=
  makeRequest_queues (by decide) s

theorem performs_queues (env : BotEnv) (calls : List TelegramCall) (s : Owned (TelegramBot σ)) :
    (calls.foldl (perform env) s).owner = s.owner ∧
      Queues env.httpsTimerFails Outgoing s.client (calls.foldl (perform env) s).client := by
  induction calls generalizing s with
  | nil => exact ⟨rfl, .refl⟩
  | cons call calls ih =>
      obtain ⟨owner, queues⟩ := perform_queues env call s
      obtain ⟨owner', queues'⟩ := ih (perform env s call)
      exact ⟨owner'.trans owner, queues.trans queues'⟩

/-- The state `t` is `s` after reactions of the bot's handler. -/
structure Reacted (env : BotEnv) (s t : Owned (TelegramBot σ)) : Prop where
  owner : ∃ app, t.owner = { s.owner with app }
  client : Queues env.httpsTimerFails Outgoing s.client t.client

theorem Reacted.refl (s : Owned (TelegramBot σ)) : Reacted env s s :=
  ⟨⟨s.owner.app, rfl⟩, .refl⟩

theorem Reacted.trans {u : Owned (TelegramBot σ)} (first : Reacted env s t)
    (second : Reacted env t u) : Reacted env s u := by
  obtain ⟨app, owner⟩ := first.owner
  obtain ⟨app', owner'⟩ := second.owner
  refine ⟨⟨app', ?_⟩, first.client.trans second.client⟩
  rw [owner', owner]

theorem react_ok {reaction : Reaction σ} (returned : react env reaction s = .ok t) :
    Reacted env s t := by
  obtain ⟨⟨app, calls⟩, _, performed⟩ := bind_eq_ok.mp returned
  cases performed
  obtain ⟨owner, queues⟩ := performs_queues env calls { s with owner := { s.owner with app } }
  exact ⟨⟨app, owner⟩, queues⟩

theorem reactTo_ok {α : Type} {pointer : Option α} {reaction : α → Reaction σ}
    (returned : reactTo env pointer reaction s = .ok t) : Reacted env s t := by
  cases pointer with
  | none =>
      cases returned
      exact .refl s
  | some object => exact react_ok returned

theorem handleUpdate_ok {update : Update} (returned : handleUpdate env handler update s = .ok t) :
    Reacted env { s with owner := { s.owner with handled := s.owner.handled ++ [update] } } t := by
  unfold handleUpdate at returned
  cases handler with
  | none =>
      cases returned
      exact .refl _
  | some handler =>
      obtain ⟨_, inline, returned⟩ := bind_eq_ok.mp returned
      obtain ⟨_, chosen, returned⟩ := bind_eq_ok.mp returned
      obtain ⟨_, callback, returned⟩ := bind_eq_ok.mp returned
      exact (((reactTo_ok inline).trans (reactTo_ok chosen)).trans (reactTo_ok callback)).trans
        (reactTo_ok returned)

/-- `_lastUpdateId` after an update. -/
def advance (lastUpdateId : Int) (update : Update) : Int :=
  if update.updateId ≥ lastUpdateId then int32 (update.updateId + 1) else lastUpdateId

/-- The bot after some updates, but for the state of its handler. -/
def consume (updates : List Update) (bot : TelegramBot σ) : TelegramBot σ :=
  { bot with
    handled := bot.handled ++ updates
    lastUpdateId := updates.foldl advance bot.lastUpdateId }

theorem handleItem_ok {update : Update} (returned : handleItem env handler s update = .ok t) :
    Reacted env { s with owner := consume [update] s.owner } t :=
  handleUpdate_ok returned

theorem handleItems_ok {updates : List Update}
    (returned : updates.foldlM (handleItem env handler) s = .ok t) :
    Reacted env { s with owner := consume updates s.owner } t := by
  induction updates generalizing s with
  | nil =>
      cases returned
      have same : consume [] t.owner = t.owner := by simp [consume]
      rw [same]
      exact .refl t
  | cons update updates ih =>
      rw [List.foldlM_cons] at returned
      obtain ⟨next, first, rest⟩ := bind_eq_ok.mp returned
      have head := handleItem_ok first
      have tail := ih rest
      obtain ⟨app, owner⟩ := head.owner
      obtain ⟨app', owner'⟩ := tail.owner
      refine ⟨⟨app', ?_⟩, head.client.trans tail.client⟩
      rw [owner', owner]
      simp [consume]

/-- The offset after a batch with increasing ids. -/
theorem foldl_advance {updates : List Update}
    (increasing : (updates.map (·.updateId)).Pairwise (· < ·))
    (small : ∀ update ∈ updates, 0 < update.updateId ∧ update.updateId < 2 ^ 31 - 1)
    (lastUpdateId : Int) :
    updates.foldl advance lastUpdateId =
      (updates.getLast?.map fun last => max lastUpdateId (last.updateId + 1)).getD
        lastUpdateId := by
  induction updates using List.reverseRecOn with
  | nil => rfl
  | append_singleton updates update ih =>
      rw [List.map_append, List.pairwise_append] at increasing
      have before := ih increasing.1 fun other member => small other (by simp [member])
      obtain ⟨positive, bound⟩ := small update (by simp)
      have exact32 : int32 (update.updateId + 1) = update.updateId + 1 :=
        Int.bmod_eq_of_le (by omega) (by omega)
      rw [List.foldl_append, before, List.getLast?_append]
      simp only [List.foldl_cons, List.foldl_nil, List.getLast?_singleton, Option.some_or,
        Option.map_some, Option.getD_some]
      unfold advance
      rw [exact32]
      cases last : updates.getLast? with
      | none =>
          simp only [Option.map_none, Option.getD_none]
          split <;> omega
      | some last' =>
          have member : last' ∈ updates := List.mem_of_getLast? last
          have less : last'.updateId < update.updateId :=
            increasing.2.2 _ (List.mem_map_of_mem member) _ (by simp)
          simp only [Option.map_some, Option.getD_some]
          split <;> omega

@[simp] theorem consume_nil (bot : TelegramBot σ) : consume [] bot = bot := by
  simp [consume]

/-- The updates `handleHttpClientResponse` takes out of a response to `getUpdates`. -/
def decode (env : PTreeEnv) (response : Str) : List Update :=
  let serverResponse := HttpParser.parseHttp response
  if response.isEmpty ∨ serverResponse.isEmpty ∨ serverResponse.find htmlMark ≠ none then []
  else
    match env.readJson serverResponse with
    | none => []
    | some json =>
        if !json.getD env.bool "ok".toList false then []
        else
          match json.getChild "result".toList >>= fun json =>
              TgTypeParser.parseJsonAndGetArray (TgTypeParser.parseJsonAndGetUpdate env) json with
          | .error _ => []
          | .ok updates => updates

theorem handleResult_ok {tag : Nat} {json : PTree}
    (returned : handleResult env handler tag json s = .ok t) :
    ∃ updates, Reacted env { s with owner := consume updates s.owner } t ∧
      (tag ≠ Tags.getUpdates → updates = []) ∧
      (tag = Tags.getUpdates →
        TgTypeParser.parseJsonAndGetArray
          (TgTypeParser.parseJsonAndGetUpdate env.toPTreeEnv) json = .ok updates) := by
  have nothing : tag ≠ Tags.getUpdates → Reacted env s t →
      ∃ updates, Reacted env { s with owner := consume updates s.owner } t ∧
        (tag ≠ Tags.getUpdates → updates = []) ∧
        (tag = Tags.getUpdates →
          TgTypeParser.parseJsonAndGetArray
            (TgTypeParser.parseJsonAndGetUpdate env.toPTreeEnv) json = .ok updates) := by
    intro other reacted
    refine ⟨[], ?_, fun _ => rfl, fun same => absurd same other⟩
    rw [consume_nil]
    exact reacted
  unfold handleResult at returned
  split at returned
  · rename_i asked
    obtain ⟨updates, parsed, handled⟩ := bind_eq_ok.mp returned
    exact ⟨updates, handleItems_ok handled, fun other => absurd asked other, fun _ => parsed⟩
  · rename_i other
    apply nothing other
    split at returned
    · cases returned
      exact .refl s
    · split at returned
      · obtain ⟨user, _, handled⟩ := bind_eq_ok.mp returned
        exact react_ok handled
      · split at returned
        · obtain ⟨message, _, handled⟩ := bind_eq_ok.mp returned
          exact react_ok handled
        · cases returned
          exact .refl s

/-- A response changes the bot by the updates that are taken out of it, and by what its
handler does. -/
theorem handleHttpClientResponse_ok {request : HttpRequest} {response : Str}
    (returned : handleHttpClientResponse env handler request response s = .ok t) :
    ∃ updates, Reacted env { s with owner := consume updates s.owner } t ∧
      (request.tag ≠ Tags.getUpdates → updates = []) ∧
      (request.tag = Tags.getUpdates → s.owner.enabled = true →
        updates = decode env.toPTreeEnv response) := by
  have unchanged : (s.owner.enabled = true → decode env.toPTreeEnv response = []) → t = s →
      ∃ updates, Reacted env { s with owner := consume updates s.owner } t ∧
        (request.tag ≠ Tags.getUpdates → updates = []) ∧
        (request.tag = Tags.getUpdates → s.owner.enabled = true →
          updates = decode env.toPTreeEnv response) := by
    rintro empty rfl
    refine ⟨[], ?_, fun _ => rfl, fun _ enabled => (empty enabled).symm⟩
    rw [consume_nil]
    exact .refl t
  unfold handleHttpClientResponse at returned
  dsimp only at returned
  split at returned
  · rename_i dropped
    cases returned
    apply unchanged _ rfl
    intro enabled
    have empty : response.isEmpty = true := by simpa [enabled] using dropped
    simp [decode, empty]
  · rename_i kept
    simp only [Bool.not_eq_true', not_or, Bool.not_eq_true, Bool.not_eq_false] at kept
    split at returned
    · rename_i empty
      cases returned
      exact unchanged (fun _ => by simp [decode, empty]) rfl
    · rename_i nonempty
      split at returned
      · rename_i html
        cases returned
        exact unchanged (fun _ => by simp [decode, html]) rfl
      · rename_i clean
        have passed : ¬ (response.isEmpty ∨ (HttpParser.parseHttp response).isEmpty ∨
            (HttpParser.parseHttp response).find htmlMark ≠ none) := by
          simp only [kept.2, nonempty, clean, or_self, Bool.false_eq_true, not_false_eq_true]
        split at returned
        · rename_i undecoded
          cases returned
          refine unchanged (fun _ => ?_) rfl
          unfold decode
          simp only [passed, if_false, undecoded]
        · rename_i json decoded
          split at returned
          · rename_i failed
            cases returned
            refine unchanged (fun _ => ?_) rfl
            unfold decode
            simp only [passed, if_false, decoded, failed, if_true]
          · rename_i success
            obtain ⟨result, child, handled⟩ := bind_eq_ok.mp returned
            obtain ⟨updates, reacted, other, asked⟩ := handleResult_ok handled
            refine ⟨updates, reacted, other, fun same _ => ?_⟩
            have parsed : (json.getChild "result".toList >>= fun json =>
                TgTypeParser.parseJsonAndGetArray
                  (TgTypeParser.parseJsonAndGetUpdate env.toPTreeEnv) json) = .ok updates :=
              bind_eq_ok.mpr ⟨result, child, asked same⟩
            unfold decode
            dsimp only
            rw [if_neg passed, decoded]
            dsimp only
            rw [if_neg success, parsed]

/-- The offset of a request for updates, as the server reads it. -/
def readOffset (request : HttpRequest) : Option Int :=
  (request.arguments.find? fun argument => argument.name = "offset".toList).map fun argument =>
    (Nat.ofDigitChars 10 argument.value 0 : Int)

/-- A request for the updates from `lastUpdateId` on. -/
structure Asks (lastUpdateId : Int) (request : HttpRequest) : Prop where
  tag : request.tag = Tags.getUpdates
  longPoll : request.longPoll = true
  offset : 0 ≤ lastUpdateId →
    readOffset request = if lastUpdateId ≠ 0 then some lastUpdateId else none

theorem ofDigitChars_lexicalCast {n : Int} (natural : 0 ≤ n) :
    (Nat.ofDigitChars 10 (lexicalCast n) 0 : Int) = n := by
  unfold lexicalCast
  rw [if_neg (by omega), Nat.ofDigitChars_toDigits (by omega) (by omega)]
  omega

/-- A parameter is not found among two of other names. -/
theorem find_other {name first second : Str} (first_ne : first ≠ name) (second_ne : second ≠ name)
    (value value' : Str) (timeout : Int) :
    List.find? (fun argument : HttpReqArg => argument.name = name)
      ([{ name := first, value := value }] ++
        if timeout ≠ 0 then [{ name := second, value := value' }] else []) = none := by
  rw [List.singleton_append, List.find?_cons_of_neg (by simpa only [decide_eq_true_eq])]
  split
  · rw [List.find?_cons_of_neg (by simpa only [decide_eq_true_eq]), List.find?_nil]
  · rfl

theorem find_offset (lastUpdateId limit timeout : Int) :
    List.find? (fun argument : HttpReqArg => argument.name = "offset".toList)
        ((if lastUpdateId ≠ 0 then
            [{ name := "offset".toList, value := lexicalCast lastUpdateId }] else []) ++
          [{ name := "limit".toList, value := lexicalCast limit }] ++
          if timeout ≠ 0 then [{ name := "timeout".toList, value := lexicalCast timeout }]
          else []) =
      if lastUpdateId ≠ 0 then some { name := "offset".toList, value := lexicalCast lastUpdateId }
      else none := by
  have limitName : "limit".toList ≠ "offset".toList := by decide
  have timeoutName : "timeout".toList ≠ "offset".toList := by decide
  rw [List.append_assoc, List.find?_append, find_other limitName timeoutName, Option.or_none]
  split
  · exact List.find?_cons_of_pos (decide_eq_true rfl)
  · rfl

theorem getUpdates_cases (env : BotEnv) (limit timeout : Int) (s : Owned (TelegramBot σ)) :
    ((s.owner.enabled = false ∨ s.owner.apiUrl = [] ∨ s.owner.token = []) ∧
        getUpdates env limit timeout s = s) ∨
      ∃ request, Asks s.owner.lastUpdateId request ∧
        getUpdates env limit timeout s =
          { s with client := s.client.sendRequest env.httpsTimerFails request } := by
  unfold getUpdates
  dsimp only
  rcases makeRequest_cases env "getUpdates" _ Tags.getUpdates true s with
    ⟨silent, same⟩ | ⟨url, queued⟩
  · exact Or.inl ⟨by simpa using silent, same⟩
  · refine Or.inr ⟨_, ⟨rfl, rfl, fun natural => ?_⟩, queued⟩
    unfold readOffset
    dsimp only
    rw [find_offset]
    split
    · rw [Option.map_some, ofDigitChars_lexicalCast natural]
    · rfl

theorem handleHttpClientError_cases (env : BotEnv) (s : Owned (TelegramBot σ)) :
    (handleHttpClientError env s).client = s.client ∧
      ((handleHttpClientError env s).owner = s.owner ∨
        (handleHttpClientError env s).owner = { s.owner with armings := s.owner.armings + 1 } ∨
        (handleHttpClientError env s).owner =
          { s.owner with armings := s.owner.armings + 1, waits := s.owner.waits + 1 }) := by
  unfold handleHttpClientError
  dsimp only
  split
  · exact ⟨rfl, Or.inl rfl⟩
  · split
    · exact ⟨rfl, Or.inr (Or.inl rfl)⟩
    · exact ⟨rfl, Or.inr (Or.inr rfl)⟩

theorem Queues.mono {timerFails : Nat → Bool} {p q : HttpRequest → Prop} {c d : HttpsClient}
    (queues : Queues timerFails p c d) (weaker : ∀ request, p request → q request) :
    Queues timerFails q c d := by
  induction queues with
  | refl => exact .refl
  | sendRequest request _ meets ih => exact ih.sendRequest request (weaker request meets)
  | pushQueue _ ih => exact ih.pushQueue

/-- The handlers of the bot only queue requests. -/
theorem polite_httpHandler : Polite env.httpsTimerFails (httpHandler env handler) where
  error s := by
    have same : ((httpHandler env handler).handleHttpClientError s).client = s.client :=
      (handleHttpClientError_cases env s).1
    rw [same]
    exact .refl
  idle s := by
    have idle : (httpHandler env handler).handleHttpClientIdle s = handleHttpClientIdle env s := rfl
    rw [idle]
    unfold handleHttpClientIdle
    split
    · exact .refl
    · rcases getUpdates_cases env 100 60 s with ⟨_, same⟩ | ⟨request, _, queued⟩
      · rw [same]
        exact .refl
      · rw [queued]
        exact .sendRequest request .refl trivial
  response returned := by
    obtain ⟨updates, reacted, _⟩ := handleHttpClientResponse_ok returned
    exact Queues.mono reacted.client fun _ _ => trivial

end TelegramBot

end GpsInformer
