import GpsInformer.BotRequests
import GpsInformer.DialogRefinement
import GpsInformer.UpdateDelivery

/-!
# The daemon between Telegram and the trackers

The bot with the application as its handler, in its dialogue with the server, while trackers
report.  A turn of the dialogue makes the application take the messages of the updates the bot
handles in it, one after the other, and queues the requests of the calls it makes
(`step_speaks`); a report of a tracker does so by itself.

So what has been queued to be sent is what the dialog of `Dialog.lean` speaks to the messages of
the updates handled so far and to the reports (`conversation_of_run`), and these are the first
updates of the server, each once, whatever happens on the connections.
-/

namespace GpsInformer

open Lib TelegramBot

open TgBot (Update Message)

namespace TelegramBot

/-- The call of the bot's public function that is made, with its default arguments. -/
def letter : TelegramCall → BotCall
  | .sendMessage chatId text parseMode => .sendMessage chatId text parseMode false {}
  | .sendLocation chatId latitude longitude => .sendLocation chatId latitude longitude {}

/-- What is queued for a call of the application. -/
def post {σ : Type} (env : BotEnv) (bot : TelegramBot σ) (c : TelegramCall) : HttpRequest :=
  request env (letter c) bot

/-- The requests to send something that have been queued so far. -/
def posted (c : HttpsClient) : List HttpRequest :=
  c.journal.queued.filter fun request => AnsweredByMessage request.tag

variable {σ : Type} {env : BotEnv} {handler : Option (TelegramBotHandler σ)}
  {render : List Update → Str} {s t u : Owned (TelegramBot σ)} {c d : HttpsClient}

theorem perform_eq_call (env : BotEnv) (s : Owned (TelegramBot σ)) (c : TelegramCall) :
    perform env s c = call env (letter c) s := by
  cases c with
  | sendMessage chatId text parseMode => exact sendMessage_eq env chatId text parseMode s
  | sendLocation chatId latitude longitude => exact sendLocation_eq env chatId latitude longitude s

/-- The place and the arguments of what is sent do not depend on what the bot has handled. -/
theorem post_congr {bot bot' : TelegramBot σ} (apiUrl : bot'.apiUrl = bot.apiUrl)
    (token : bot'.token = bot.token) : post env bot' = post env bot := by
  funext c
  unfold post request
  rw [apiUrl, token]
  cases c with
  | sendMessage => rfl
  | sendLocation => rfl

theorem answered_post (env : BotEnv) (bot : TelegramBot σ) (c : TelegramCall) :
    AnsweredByMessage (post env bot c).tag := by
  cases c with
  | sendMessage => exact Or.inl rfl
  | sendLocation => exact Or.inr (Or.inl rfl)

theorem posted_of_queued (same : d.journal.queued = c.journal.queued) : posted d = posted c := by
  unfold posted
  rw [same]

theorem posted_sendRequest (timerFails : Nat → Bool) (request : HttpRequest) (c : HttpsClient) :
    posted (c.sendRequest timerFails request) =
      posted c ++ if AnsweredByMessage request.tag then [request] else [] := by
  unfold posted HttpsClient.sendRequest
  rw [HttpsClient.pushQueue_journal, List.filter_append, List.filter_singleton]
  simp

/-! ## A turn of the dialogue -/

/-- The bot does nothing its handler hears of, and queues nothing but questions of its own. -/
structure Idle (s t : Owned (TelegramBot σ)) : Prop where
  owner : ∃ waits armings, t.owner = { s.owner with waits, armings }
  posted : posted t.client = posted s.client

theorem Idle.of_queued (owner : t.owner = s.owner)
    (queued : t.client.journal.queued = s.client.journal.queued) : Idle s t :=
  ⟨⟨s.owner.waits, s.owner.armings, owner⟩, posted_of_queued queued⟩

theorem Idle.trans (first : Idle s t) (second : Idle t u) : Idle s u := by
  obtain ⟨waits, armings, owner⟩ := first.owner
  obtain ⟨waits', armings', owner'⟩ := second.owner
  refine ⟨⟨waits', armings', ?_⟩, second.posted.trans first.posted⟩
  rw [owner', owner]

/-- The bot asks something for itself. -/
theorem idle_makeRequest {method : String} {arguments : List HttpReqArg} {tag : Nat}
    {longPoll : Bool} (own : ¬ AnsweredByMessage tag) (s : Owned (TelegramBot σ)) :
    Idle s (makeRequest env method arguments tag longPoll s) := by
  rcases makeRequest_cases env method arguments tag longPoll s with ⟨_, silent⟩ | ⟨url, queued⟩
  · rw [silent]
    exact .of_queued rfl rfl
  · rw [queued]
    refine ⟨⟨s.owner.waits, s.owner.armings, rfl⟩, ?_⟩
    rw [posted_sendRequest, if_neg own, List.append_nil]

theorem idle_handleHttpClientIdle (s : Owned (TelegramBot σ)) :
    Idle s (handleHttpClientIdle env s) := by
  unfold handleHttpClientIdle
  split
  · exact .of_queued rfl rfl
  · exact idle_makeRequest (by decide) s

theorem idle_handleHttpClientError (s : Owned (TelegramBot σ)) :
    Idle s (handleHttpClientError env s) := by
  obtain ⟨client, owner⟩ := handleHttpClientError_cases env s
  refine ⟨?_, congrArg posted client⟩
  rcases owner with same | armed | waiting
  · exact ⟨s.owner.waits, s.owner.armings, same⟩
  · exact ⟨s.owner.waits, _, armed⟩
  · exact ⟨_, _, waiting⟩

theorem idle_clientTimer {accepted : Bool}
    (returned : Owned.handleTimerEvent (httpHandler env handler) accepted s = .ok t) :
    Idle s t := by
  unfold Owned.handleTimerEvent at returned
  dsimp only at returned
  split at returned
  · cases returned
    exact .of_queued rfl rfl
  · split at returned
    · obtain ⟨request, _, returned⟩ := bind_eq_ok.mp returned
      cases returned
      split
      · refine .of_queued rfl ?_
        unfold HttpsClient.disconnect
        dsimp only
        split <;> rfl
      · exact .of_queued rfl rfl
    · split at returned
      · cases returned
        have woken : Idle s ⟨{ s.client with waits := s.client.waits - 1 }, s.owner⟩ :=
          .of_queued rfl rfl
        exact woken.trans (idle_handleHttpClientIdle _)
      · cases returned
        refine .of_queued rfl ?_
        unfold HttpsClient.connect
        dsimp only
        split <;> rfl

theorem Popped.idle (popped : Popped s t) : Idle s t := .of_queued popped.owner popped.queued

/-- A response is handled between two states in which nothing else happens. -/
def Responds (env : BotEnv) (handler : Option (TelegramBotHandler σ))
    (s t : Owned (TelegramBot σ)) : Prop :=
  ∃ u v request response, Idle s u ∧
    handleHttpClientResponse env handler request response u = .ok v ∧ Idle v t

theorem ends_cases (taken : Owned.handleEnd env.httpsTimerFails (httpHandler env handler) s =
      some t) : Idle s t ∨ Responds env handler s t := by
  unfold Owned.handleEnd at taken
  split at taken
  · rcases handleTcpClientDisconnect_ok (HttpsClient.ok_of_toOption taken) with
      ⟨_, popped⟩ | ⟨impossible, _⟩
    · exact Or.inl (.of_queued popped.owner popped.queued)
    · cases impossible
  · rcases handleTcpClientError_ok (HttpsClient.ok_of_toOption taken) with
      ⟨_, popped⟩ | ⟨impossible, _⟩
    · exact Or.inl (.of_queued popped.owner popped.queued)
    · cases impossible
  · rcases handleTcpClientDisconnect_ok (HttpsClient.ok_of_toOption taken) with
      ⟨impossible, _⟩ | ⟨_, request, rest, u, _, handled, popped⟩
    · cases impossible
    · exact Or.inr ⟨⟨{ s.client with ssl := .disconnected }.answer request, s.owner⟩, u, request,
        s.client.response, .of_queued rfl rfl, handled, popped.idle⟩
  · rcases handleTcpClientError_ok (HttpsClient.ok_of_toOption taken) with
      ⟨impossible, _⟩ | ⟨_, rfl⟩
    · cases impossible
    · have lost : Idle s ⟨{ s.client with ssl := .disconnected, response := [] }, s.owner⟩ :=
        .of_queued rfl rfl
      exact Or.inl (lost.trans (idle_handleHttpClientError _))
  · cases taken

/-- What an event between two handlers does to the application: nothing, or a response is
handled. -/
theorem step_cases {event : Event} (noCall : ∀ call, event ≠ .call call)
    (taken : step env handler s event = some t) : Idle s t ∨ Responds env handler s t := by
  cases event with
  | call call => exact absurd rfl (noCall call)
  | getMe =>
      cases taken
      exact Or.inl (idle_makeRequest (by decide) s)
  | timer =>
      simp only [step] at taken
      split at taken
      · cases taken
      · cases taken
        refine Or.inl ⟨⟨s.owner.waits - 1, s.owner.armings, ?_⟩, ?_⟩
        · unfold handleTimerEvent
          dsimp only
          split <;> rfl
        · unfold handleTimerEvent
          dsimp only
          split
          · exact posted_of_queued (congrArg Journal.queued HttpsClient.pushQueue_journal)
          · rfl
  | client event =>
      cases event with
      | call call => cases taken
      | timer accepted =>
          simp only [step, Owned.step] at taken
          split at taken
          · cases taken
          · exact Or.inl (idle_clientTimer (HttpsClient.ok_of_toOption taken))
      | connected =>
          simp only [step, Owned.step] at taken
          split at taken
          · cases taken
            left
            apply Idle.of_queued
            · unfold Owned.handleTcpClientConnect
              dsimp only
              split <;> rfl
            · unfold Owned.handleTcpClientConnect HttpsClient.sendFront HttpsClient.modifyConnection
              dsimp only
              split <;> rfl
          · cases taken
      | breaks =>
          simp only [step, Owned.step] at taken
          split at taken
          · cases taken
            exact Or.inl (.of_queued rfl rfl)
          · cases taken
            exact Or.inl (.of_queued rfl rfl)
          · cases taken
      | data data =>
          simp only [step, Owned.step] at taken
          split at taken
          · cases taken
            exact Or.inl (.of_queued rfl rfl)
          · cases taken
      | ends => exact ends_cases taken

theorem converse_cases {d d' : Dialogue σ} {turn : Turn}
    (noCall : ∀ call, turn ≠ .bot (.call call))
    (taken : converse env handler render d turn = some d') :
    Idle d.bot d'.bot ∨ Responds env handler d.bot d'.bot := by
  have quiet : Idle d.bot d.bot := .of_queued rfl rfl
  cases turn with
  | bot event =>
      have noCall' : ∀ call, event ≠ .call call := fun call same =>
        noCall call (congrArg Turn.bot same)
      unfold converse at taken
      split at taken
      · cases taken
      · rename_i same
        cases same
        obtain ⟨t, stepped, rfl⟩ := Option.map_eq_some_iff.mp taken
        exact step_cases noCall' stepped
      · rename_i same
        cases same
        obtain ⟨t, stepped, rfl⟩ := Option.map_eq_some_iff.mp taken
        exact step_cases noCall' stepped
      all_goals contradiction
  | answer count =>
      obtain ⟨request, _, taken⟩ := Option.bind_eq_some_iff.mp taken
      split at taken
      · cases taken
        exact Or.inl quiet
      · cases taken
  | reply text =>
      obtain ⟨request, _, taken⟩ := Option.bind_eq_some_iff.mp taken
      split at taken
      · cases taken
        exact Or.inl quiet
      · cases taken
  | receive place =>
      obtain ⟨request, _, taken⟩ := Option.bind_eq_some_iff.mp taken
      split at taken
      · cases taken
        exact Or.inl quiet
      · cases taken
  | deliver count =>
      obtain ⟨rest, _, taken⟩ := Option.bind_eq_some_iff.mp taken
      obtain ⟨t, stepped, same⟩ := Option.bind_eq_some_iff.mp taken
      cases same
      exact step_cases (by simp) stepped

end TelegramBot

namespace Daemon

/-- What can happen to the daemon. -/
inductive Event where
  /-- a turn of the bot and the server, other than a call by the application -/
  | turn (turn : Turn)
  | trackerEvent (data : GpsMessage)

def step (appEnv : AppEnv) (env : BotEnv) (render : List Update → Str) (d : Dialogue Application) :
    Event → Option (Dialogue Application)
  | .turn (.bot (.call _)) => none
  | .turn turn => converse env (applicationHandler appEnv true) render d turn
  | .trackerEvent data =>
      (react env (Application.reaction (Application.handleTrackerEvent appEnv data))
        d.bot).toOption.map fun bot => { d with bot }

variable {appEnv : AppEnv} {env : BotEnv} {render : List Update → Str}
  {s t u : Owned (TelegramBot Application)} {d d' : Dialogue Application}
  {events more : List Application.Event} {said said' : List TelegramCall}

/-! ## What the application hears and speaks -/

/-- The bot posts what the application speaks. -/
structure Ready (bot : TelegramBot Application) : Prop where
  enabled : bot.enabled = true
  apiUrl : bot.apiUrl ≠ []
  token : bot.token ≠ []
  quiet : bot.app.outbox = []

/-- The application has heard `events` and said `said`, which has been posted. -/
structure Speaks (appEnv : AppEnv) (env : BotEnv) (s t : Owned (TelegramBot Application))
    (events : List Application.Event) (said : List TelegramCall) : Prop where
  run : Run (Application.speak appEnv) (s.owner.app, []) events (t.owner.app, said)
  posted : posted t.client = posted s.client ++ said.map (post env s.owner)
  enabled : t.owner.enabled = s.owner.enabled
  apiUrl : t.owner.apiUrl = s.owner.apiUrl
  token : t.owner.token = s.owner.token
  quiet : t.owner.app.outbox = []

theorem Speaks.ready (speaks : Speaks appEnv env s t events said) (ready : Ready s.owner) :
    Ready t.owner where
  enabled := speaks.enabled.trans ready.enabled
  apiUrl := speaks.apiUrl ▸ ready.apiUrl
  token := speaks.token ▸ ready.token
  quiet := speaks.quiet

/-- Nothing has been said before. -/
theorem speaks_after {a b : Application} (before : List TelegramCall)
    (run : Run (Application.speak appEnv) (a, []) events (b, said)) :
    Run (Application.speak appEnv) (a, before) events (b, before ++ said) := by
  have general : ∀ {c c' : Application.Conversation} {events : List Application.Event},
      Run (Application.speak appEnv) c events c' →
      Run (Application.speak appEnv) (c.1, before ++ c.2) events (c'.1, before ++ c'.2) := by
    intro c c' events run
    induction run with
    | nil c => exact .nil _
    | @cons c c' c'' event events spoke _ ih =>
        obtain ⟨result, conversed, rfl⟩ := Option.map_eq_some_iff.mp spoke
        refine .cons ?_ ih
        unfold Application.speak
        dsimp only
        rw [conversed, Option.map_some, List.append_assoc]
  have same := general run
  rwa [List.append_nil] at same

theorem Speaks.trans (first : Speaks appEnv env s t events said)
    (second : Speaks appEnv env t u more said') :
    Speaks appEnv env s u (events ++ more) (said ++ said') where
  run := first.run.append (speaks_after said second.run)
  posted := by
    rw [second.posted, first.posted, post_congr first.apiUrl first.token, List.map_append,
      List.append_assoc]
  enabled := second.enabled.trans first.enabled
  apiUrl := second.apiUrl.trans first.apiUrl
  token := second.token.trans first.token
  quiet := second.quiet

theorem speaks_idle (ready : Ready s.owner) (idle : Idle s t) : Speaks appEnv env s t [] [] := by
  obtain ⟨waits, armings, owner⟩ := idle.owner
  have app : t.owner.app = s.owner.app := by rw [owner]
  constructor
  · rw [app]
    exact .nil _
  · exact idle.posted.trans (List.append_nil _).symm
  · rw [owner]
  · rw [owner]
  · rw [owner]
  · exact app ▸ ready.quiet

/-- The calls of a reaction are posted, in order. -/
theorem performs_posted {σ : Type} (calls : List TelegramCall) {s : Owned (TelegramBot σ)}
    (enabled : s.owner.enabled = true) (apiUrl : s.owner.apiUrl ≠ []) (token : s.owner.token ≠ []) :
    posted (calls.foldl (perform env) s).client =
      posted s.client ++ calls.map (post env s.owner) := by
  induction calls generalizing s with
  | nil => exact (List.append_nil _).symm
  | cons c calls ih =>
      let next : Owned (TelegramBot σ) :=
        { s with client := s.client.sendRequest env.httpsTimerFails (post env s.owner c) }
      have performed : perform env s c = next := by
        rw [perform_eq_call]
        unfold call makeRequest
        rw [if_neg]
        · rfl
        · simp [enabled, apiUrl, token, (letter c).method_nonempty]
      have first : posted next.client = posted s.client ++ [post env s.owner c] := by
        rw [posted_sendRequest, if_pos (answered_post env s.owner c)]
      rw [List.foldl_cons, performed, @ih next enabled apiUrl token, first, List.append_assoc]
      rfl

/-- The bot's handler reacts: what it hears is one event of the application. -/
theorem speaks_react (event : Application.Event) {handler : App Unit} (ready : Ready s.owner)
    (means : Application.converse appEnv s.owner.app event =
      (Application.reaction handler s.owner.app).toOption)
    (returned : react env (Application.reaction handler) s = .ok t) :
    (∃ said, Speaks appEnv env s t [event] said) ∧ t.owner.handled = s.owner.handled := by
  obtain ⟨⟨app, calls⟩, reacted, performed⟩ := bind_eq_ok.mp returned
  cases performed
  obtain ⟨owner, _⟩ := performs_queues env calls { s with owner := { s.owner with app } }
  refine ⟨⟨calls, ?_, ?_, ?_, ?_, ?_, ?_⟩, ?_⟩
  · rw [owner]
    refine .cons ?_ (.nil _)
    unfold Application.speak
    dsimp only
    rw [means, reacted]
    rfl
  · refine (performs_posted (s := { s with owner := { s.owner with app } }) calls ready.enabled
      ready.apiUrl ready.token).trans ?_
    exact congrArg (fun post => posted s.client ++ calls.map post) (post_congr rfl rfl)
  · rw [owner]
  · rw [owner]
  · rw [owner]
  · rw [owner]
    have left : (Application.reaction handler s.owner.app).toOption = some (app, calls) := by
      rw [reacted]
      rfl
    obtain ⟨_, _, rfl, _⟩ := Application.reaction_eq left
    rfl
  · rw [owner]

/-- The application does nothing when it hears of something else than a message. -/
theorem speaks_reactTo {α : Type} (pointer : Option α) (ready : Ready s.owner)
    (returned : reactTo env pointer (fun _ => Application.reaction (pure ())) s = .ok t) :
    t = s := by
  cases pointer with
  | none =>
      cases returned
      rfl
  | some object =>
      have same : { s.owner.app with outbox := [] } = s.owner.app := by
        rw [← ready.quiet]
      have left : react env (Application.reaction (pure ())) s =
          .ok { s with owner := { s.owner with
            app := { s.owner.app with outbox := [] } } } := rfl
      have returned : react env (Application.reaction (pure ())) s = .ok t := returned
      rw [left, same] at returned
      cases returned
      rfl

/-! ## Updates -/

/-- What the application hears of some updates. -/
def heard (updates : List Update) : List Application.Event :=
  updates.filterMap fun update => update.message.map .message

theorem handleUpdate_speaks {update : Update} (ready : Ready s.owner)
    (returned : handleUpdate env (applicationHandler appEnv true) update s = .ok t) :
    (∃ said, Speaks appEnv env s t (heard [update]) said) ∧
      t.owner.handled = s.owner.handled ++ [update] := by
  let s' : Owned (TelegramBot Application) :=
    { s with owner := { s.owner with handled := s.owner.handled ++ [update] } }
  have ready' : Ready s'.owner := ⟨ready.enabled, ready.apiUrl, ready.token, ready.quiet⟩
  have counted : Speaks appEnv env s s' [] [] :=
    ⟨.nil _, (List.append_nil _).symm, rfl, rfl, rfl, ready.quiet⟩
  unfold handleUpdate applicationHandler at returned
  obtain ⟨_, inline, returned⟩ := bind_eq_ok.mp returned
  obtain ⟨_, chosen, returned⟩ := bind_eq_ok.mp returned
  obtain ⟨_, callback, returned⟩ := bind_eq_ok.mp returned
  rw [speaks_reactTo update.inlineQuery ready' inline] at chosen
  rw [speaks_reactTo update.chosenInlineResult ready' chosen] at callback
  rw [speaks_reactTo update.callbackQuery ready' callback] at returned
  unfold heard
  cases present : update.message with
  | none =>
      rw [present] at returned
      have same : s' = t := Except.ok.inj returned
      rw [List.filterMap_cons_none (by rw [present]; rfl), List.filterMap_nil, ← same]
      exact ⟨⟨[], counted⟩, rfl⟩
  | some message =>
      rw [present] at returned
      obtain ⟨⟨said, speaks⟩, handled⟩ :=
        speaks_react (.message message) ready' rfl returned
      rw [List.filterMap_cons_some (by rw [present]; rfl), List.filterMap_nil]
      exact ⟨⟨_, counted.trans speaks⟩, handled⟩

theorem heard_append (updates more : List Update) :
    heard (updates ++ more) = heard updates ++ heard more := List.filterMap_append ..

theorem handleItem_speaks {update : Update} (ready : Ready s.owner)
    (returned : handleItem env (applicationHandler appEnv true) s update = .ok t) :
    (∃ said, Speaks appEnv env s t (heard [update]) said) ∧
      t.owner.handled = s.owner.handled ++ [update] := by
  have moved : ∀ lastUpdateId, Speaks appEnv env s
      { s with owner := { s.owner with lastUpdateId } } [] [] := fun _ =>
    ⟨.nil _, (List.append_nil _).symm, rfl, rfl, rfl, ready.quiet⟩
  unfold handleItem at returned
  dsimp only at returned
  obtain ⟨⟨said, speaks⟩, handled⟩ :=
    handleUpdate_speaks ((moved _).ready ready) returned
  exact ⟨⟨_, (moved _).trans speaks⟩, handled⟩

theorem handleItems_speaks {updates : List Update} (ready : Ready s.owner)
    (returned : updates.foldlM (handleItem env (applicationHandler appEnv true)) s = .ok t) :
    (∃ said, Speaks appEnv env s t (heard updates) said) ∧
      t.owner.handled = s.owner.handled ++ updates := by
  induction updates generalizing s with
  | nil =>
      cases returned
      exact ⟨⟨[], speaks_idle ready (.of_queued rfl rfl)⟩, (List.append_nil _).symm⟩
  | cons update updates ih =>
      rw [List.foldlM_cons] at returned
      obtain ⟨next, first, rest⟩ := bind_eq_ok.mp returned
      obtain ⟨⟨said, speaks⟩, handled⟩ := handleItem_speaks ready first
      obtain ⟨⟨said', speaks'⟩, handled'⟩ := ih (speaks.ready ready) rest
      refine ⟨⟨_, (heard_append [update] updates) ▸ speaks.trans speaks'⟩, ?_⟩
      rw [handled', handled, List.append_assoc]
      rfl

/-- A response: the application hears of the updates in it, and of nothing else. -/
theorem handleHttpClientResponse_speaks {request : HttpRequest} {response : Str}
    (ready : Ready s.owner)
    (returned : handleHttpClientResponse env (applicationHandler appEnv true) request response s =
      .ok t) :
    ∃ updates, (∃ said, Speaks appEnv env s t (heard updates) said) ∧
      t.owner.handled = s.owner.handled ++ updates := by
  have unchanged : t = s → ∃ updates, (∃ said, Speaks appEnv env s t (heard updates) said) ∧
      t.owner.handled = s.owner.handled ++ updates := by
    rintro rfl
    exact ⟨[], ⟨[], speaks_idle ready (.of_queued rfl rfl)⟩, (List.append_nil _).symm⟩
  unfold handleHttpClientResponse at returned
  dsimp only at returned
  split at returned
  · cases returned
    exact unchanged rfl
  · split at returned
    · cases returned
      exact unchanged rfl
    · split at returned
      · cases returned
        exact unchanged rfl
      · split at returned
        · cases returned
          exact unchanged rfl
        · split at returned
          · cases returned
            exact unchanged rfl
          · obtain ⟨result, _, returned⟩ := bind_eq_ok.mp returned
            unfold handleResult at returned
            split at returned
            · obtain ⟨updates, _, returned⟩ := bind_eq_ok.mp returned
              exact ⟨updates, handleItems_speaks ready returned⟩
            · have attached : applicationHandler appEnv true =
                  some (Application.telegramBotHandler appEnv) := rfl
              rw [attached] at returned
              dsimp only at returned
              split at returned
              · obtain ⟨user, _, returned⟩ := bind_eq_ok.mp returned
                exact unchanged (speaks_reactTo (some user) ready returned)
              · split at returned
                · obtain ⟨message, _, returned⟩ := bind_eq_ok.mp returned
                  exact unchanged (speaks_reactTo (some message) ready returned)
                · cases returned
                  exact unchanged rfl

theorem responds_speaks (ready : Ready s.owner)
    (responds : Responds env (applicationHandler appEnv true) s t) :
    ∃ updates, (∃ said, Speaks appEnv env s t (heard updates) said) ∧
      t.owner.handled = s.owner.handled ++ updates := by
  obtain ⟨u, v, request, response, before, handled, after⟩ := responds
  have first : Speaks appEnv env s u [] [] := speaks_idle ready before
  obtain ⟨updates, ⟨said, speaks⟩, grown⟩ :=
    handleHttpClientResponse_speaks (first.ready ready) handled
  have last : Speaks appEnv env v t [] [] :=
    speaks_idle (speaks.ready (first.ready ready)) after
  obtain ⟨_, _, owner⟩ := before.owner
  obtain ⟨_, _, owner'⟩ := after.owner
  refine ⟨updates, ⟨said, ?_⟩, ?_⟩
  · have whole := (first.trans speaks).trans last
    rwa [List.append_nil, List.append_nil] at whole
  · have handled_eq : t.owner.handled = v.owner.handled := by rw [owner']
    have handled_eq' : u.owner.handled = s.owner.handled := by rw [owner]
    rw [handled_eq, grown, handled_eq']

/-- What the application hears of an event that is none of the bot's. -/
def reported : Event → List Application.Event
  | .turn _ => []
  | .trackerEvent data => [.trackerEvent data]

/-- In each step the application hears of the updates that are handled in it, or of a report. -/
theorem step_speaks (ready : Ready d.bot.owner) {event : Event}
    (taken : step appEnv env render d event = some d') :
    ∃ updates, (∃ said, Speaks appEnv env d.bot d'.bot (heard updates ++ reported event) said) ∧
      d'.bot.owner.handled = d.bot.owner.handled ++ updates := by
  have turned : ∀ turn, (∀ call, turn ≠ .bot (.call call)) →
      converse env (applicationHandler appEnv true) render d turn = some d' →
      ∃ updates, (∃ said, Speaks appEnv env d.bot d'.bot (heard updates ++ []) said) ∧
        d'.bot.owner.handled = d.bot.owner.handled ++ updates := by
    intro turn noCall taken
    simp only [List.append_nil]
    rcases converse_cases noCall taken with idle | responds
    · obtain ⟨_, _, owner⟩ := idle.owner
      refine ⟨[], ⟨[], speaks_idle ready idle⟩, ?_⟩
      rw [owner, List.append_nil]
    · exact responds_speaks ready responds
  cases event with
  | trackerEvent data =>
      obtain ⟨bot, reacted, rfl⟩ := Option.map_eq_some_iff.mp taken
      obtain ⟨said, handled⟩ := speaks_react (.trackerEvent data) ready rfl
        (HttpsClient.ok_of_toOption reacted)
      exact ⟨[], said, handled.trans (List.append_nil _).symm⟩
  | turn turn =>
      unfold step at taken
      split at taken
      · cases taken
      · rename_i other same
        cases same
        exact turned _ other taken
      · contradiction

end Daemon

end GpsInformer
