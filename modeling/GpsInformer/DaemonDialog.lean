import GpsInformer.Daemon

/-!
# What the daemon sends

Over whole runs of the daemon: the application hears of the updates the bot has handled and of
the reports, each once and in order, so what has been queued to be sent is a history of the
dialog (`conversation_of_run`).  Seen from one chat: whoever has presented no good code in the
updates handled so far is sent the answers to his own lines, and nothing else
(`strangers_requests`).
-/

namespace GpsInformer

open Lib TelegramBot

open Application (bob sampleCodes textMessage)

open TgBot (Update Message)

namespace Daemon

variable {appEnv : AppEnv} {env : BotEnv} {render : List Update → Str} {all : List Update}
  {s t : Owned (TelegramBot Application)} {d d' : Dialogue Application}
  {events : List Application.Event} {es : List Event} {said : List TelegramCall}

/-- The message an event of the application brings. -/
def messageOf : Application.Event → Option Message
  | .message message => some message
  | .trackerEvent _ => none
  | .restart _ => none

def reportOf : Application.Event → Option GpsMessage
  | .message _ => none
  | .trackerEvent data => some data
  | .restart _ => none

def Event.report : Event → Option GpsMessage
  | .turn _ => none
  | .trackerEvent data => some data

/-- The messages among some updates. -/
def messages (updates : List Update) : List Message := updates.filterMap Update.message

/-- The application has heard of the messages of some updates and of some reports, in order. -/
structure Heard (events : List Application.Event) (updates : List Update)
    (reports : List GpsMessage) : Prop where
  messages : events.filterMap messageOf = messages updates
  reports : events.filterMap reportOf = reports
  noRestart : ∀ event ∈ events, ∀ rows, event ≠ .restart rows

theorem Heard.nil : Heard [] [] [] := ⟨rfl, rfl, List.forall_mem_nil _⟩

theorem Heard.append {more : List Application.Event} {updates updates' : List Update}
    {reports reports' : List GpsMessage} (first : Heard events updates reports)
    (second : Heard more updates' reports') :
    Heard (events ++ more) (updates ++ updates') (reports ++ reports') where
  messages := by
    unfold Daemon.messages
    rw [List.filterMap_append, List.filterMap_append, first.messages, second.messages]
    rfl
  reports := by rw [List.filterMap_append, first.reports, second.reports]
  noRestart := List.forall_mem_append.mpr ⟨first.noRestart, second.noRestart⟩

theorem heard_updates (updates : List Update) : Heard (heard updates) updates [] := by
  induction updates with
  | nil => exact .nil
  | cons update updates ih =>
      have first : Heard (heard [update]) [update] [] := by
        unfold heard
        cases present : update.message with
        | none =>
            rw [List.filterMap_cons_none (by rw [present]; rfl), List.filterMap_nil]
            refine ⟨?_, rfl, List.forall_mem_nil _⟩
            unfold messages
            rw [List.filterMap_cons_none present]
            rfl
        | some message =>
            rw [List.filterMap_cons_some (by rw [present]; rfl), List.filterMap_nil]
            refine ⟨?_, rfl, by simp⟩
            unfold messages
            rw [List.filterMap_cons_some present]
            rfl
      have both := first.append ih
      rwa [← heard_append] at both

theorem heard_reported (event : Event) : Heard (reported event) [] event.report.toList := by
  cases event with
  | turn => exact .nil
  | trackerEvent data => exact ⟨rfl, rfl, by simp [reported]⟩

/-! ## Runs -/

theorem run_speaks (ready : Ready d.bot.owner) (run : Run (step appEnv env render) d es d') :
    ∃ events said updates, Speaks appEnv env d.bot d'.bot events said ∧
      d'.bot.owner.handled = d.bot.owner.handled ++ updates ∧
      Heard events updates (es.filterMap Event.report) := by
  induction run with
  | nil d => exact ⟨[], [], [], speaks_idle ready (.of_queued rfl rfl), (List.append_nil _).symm,
      .nil⟩
  | @cons d d' d'' event es taken _ ih =>
      obtain ⟨updates, ⟨said, speaks⟩, handled⟩ := step_speaks ready taken
      obtain ⟨events, said', updates', speaks', handled', heard'⟩ := ih (speaks.ready ready)
      refine ⟨_, _, updates ++ updates', speaks.trans speaks', ?_, ?_⟩
      · rw [handled', handled, List.append_assoc]
      · have first := (heard_updates updates).append (heard_reported event)
        rw [List.append_nil] at first
        have both := first.append heard'
        rw [List.filterMap_cons]
        cases report : event.report with
        | none =>
            rw [report] at both
            exact both
        | some data =>
            rw [report] at both
            exact both

/-- A report of a tracker does not disturb what the bot and the server agree on. -/
theorem agreed_daemon (feed : Feed all) (renders : Renders env.toPTreeEnv render all)
    (agreed : Agreed render all d) {event : Event}
    (taken : step appEnv env render d event = some d') : Agreed render all d' := by
  cases event with
  | turn turn =>
      unfold step at taken
      split at taken
      · cases taken
      · rename_i same
        cases same
        exact agreed_step feed renders agreed taken
      · contradiction
  | trackerEvent data =>
      obtain ⟨bot, reacted, rfl⟩ := Option.map_eq_some_iff.mp taken
      obtain ⟨⟨app, owner⟩, queues⟩ := react_ok (HttpsClient.ok_of_toOption reacted)
      exact agreed.reacted ⟨app, d.bot.owner.waits, d.bot.owner.armings, owner⟩ queues

/-- The daemon after `startTelegram()`. -/
def init (env : BotEnv) (bot : TelegramBot Application) (all : List Update) :
    Dialogue Application where
  bot := getMe env (start env (fresh bot))
  kept := all

/-- What `startTelegram` does is nothing the application hears of. -/
theorem init_idle (bot : TelegramBot Application) :
    Idle (fresh { bot with enabled := true }) (init env bot all).bot := by
  have started : Idle (fresh { bot with enabled := true }) (start env (fresh bot)) :=
    idle_handleHttpClientIdle _
  exact started.trans (idle_makeRequest (by decide) _)

theorem agreed_init (env : BotEnv) (render : List Update → Str) (all : List Update)
    {bot : TelegramBot Application} (unhandled : bot.handled = []) (first : bot.lastUpdateId = 0) :
    Agreed render all (init env bot all) := by
  have started := agreed_start env render all unhandled first
  obtain ⟨owner, queues⟩ := getMe_queues env (start env (fresh bot))
  exact started.reacted ⟨_, _, _, owner⟩ queues

/-- What has been queued to be sent is a history of the dialog, with what the application has
heard of. -/
theorem history_of_run {bot : TelegramBot Application} (apiUrl : bot.apiUrl ≠ [])
    (token : bot.token ≠ []) (quiet : bot.app.outbox = []) (unhandled : bot.handled = [])
    {w : World} (represents : Application.Represents bot.app w)
    (run : Run (step appEnv env render) (init env bot all) es d) :
    ∃ events said w', Heard events d.bot.owner.handled (es.filterMap Event.report) ∧
      Talks appEnv w events said w' ∧ Application.Represents d.bot.owner.app w' ∧
      posted d.bot.client = said.map (post env bot) := by
  let enabled := fresh { bot with enabled := true }
  have idle : Idle enabled (init env bot all).bot := init_idle bot
  have ready : Ready enabled.owner := ⟨rfl, apiUrl, token, quiet⟩
  have started : Speaks appEnv env enabled (init env bot all).bot [] [] := speaks_idle ready idle
  obtain ⟨events, said, updates, speaks, handled, heard⟩ := run_speaks (started.ready ready) run
  have whole := started.trans speaks
  obtain ⟨_, _, owner⟩ := idle.owner
  have before : (init env bot all).bot.owner.handled = [] := by
    rw [owner]
    exact unhandled
  rw [before, List.nil_append] at handled
  obtain ⟨calls, w', talks, same, represents'⟩ :=
    Application.talks_of_speaks whole.run represents
  have same : said = calls := same
  refine ⟨events, said, w', handled ▸ heard, same ▸ talks, represents', whole.posted.trans ?_⟩
  exact congrArg (fun post => said.map post) (post_congr rfl rfl)

/-- What the daemon has queued to be sent is a history of the dialog, with the messages of the
updates that have been handled, which are the first ones of the server, and the reports of the
trackers. -/
theorem conversation_of_run (feed : Feed all) (renders : Renders env.toPTreeEnv render all)
    {bot : TelegramBot Application} (apiUrl : bot.apiUrl ≠ []) (token : bot.token ≠ [])
    (quiet : bot.app.outbox = []) (unhandled : bot.handled = []) (first : bot.lastUpdateId = 0)
    {w : World} (represents : Application.Represents bot.app w)
    (run : Run (step appEnv env render) (init env bot all) es d) :
    d.bot.owner.handled <+: all ∧
      ∃ events said w', Heard events d.bot.owner.handled (es.filterMap Event.report) ∧
        Talks appEnv w events said w' ∧ Application.Represents d.bot.owner.app w' ∧
        posted d.bot.client = said.map (post env bot) := by
  have agreed : Agreed render all d :=
    run.invariant (fun agreed taken => agreed_daemon feed renders agreed taken)
      (agreed_init env render all unhandled first)
  exact ⟨agreed.handled, history_of_run apiUrl token quiet unhandled represents run⟩

theorem start_outbox (appEnv : AppEnv) (database : Database) :
    (Application.start appEnv database []).outbox = [] := by
  obtain ⟨⟨calls, same⟩, _⟩ :=
    (Application.dbRestoreSettings_run { database } :
      Query _ (Application.dbRestoreSettings appEnv) _) _ rfl
  exact congrArg Application.outbox same

/-- Bob writes `/start`; the parser takes a missing caption for a character. -/
def bobsMessage : Message := { textMessage bob "/start" with caption := [Char.ofNat 0] }

def bobsUpdate : Update := { bareUpdate with message := some bobsMessage }

def bobsBody : Str :=
  ("\x7b\"ok\":true,\"result\":[\x7b\"update_id\":1,\"message\":\x7b\"message_id\":1," ++
    "\"from\":\x7b\"id\":6,\"first_name\":\"Bob\"\x7d,\"date\":1500000000," ++
    "\"chat\":\x7b\"id\":6,\"type\":\"private\"\x7d,\"text\":\"/start\"\x7d\x7d]\x7d").toList

def bobsTree : PTree :=
  jsonObject [("ok", jsonLeaf "true"), ("result", jsonArray [jsonObject [
    ("update_id", jsonLeaf "1"),
    ("message", jsonObject [("message_id", jsonLeaf "1"),
      ("from", jsonObject [("id", jsonLeaf "6"), ("first_name", jsonLeaf "Bob")]),
      ("date", jsonLeaf "1500000000"),
      ("chat", jsonObject [("id", jsonLeaf "6"), ("type", jsonLeaf "private")]),
      ("text", jsonLeaf "/start")])]])]

def bobsEnv : BotEnv := sampleBot [(bareBody [], bareTree []), (bobsBody, bobsTree)]

def bobsHeader : List Str := ["HTTP/1.1 200 OK".toList]

def bobsRender (updates : List Update) : Str :=
  HttpParser.response bobsHeader (if updates = [] then bareBody [] else bobsBody)

/-- A part of an answer is a part of its header, or the header with a part of its body. -/
theorem isPrefix_response {lines : List Str} {body text : Str}
    (isPrefix : text <+: HttpParser.response lines body) :
    text <+: HttpParser.response lines [] ∨
      ∃ part, part <+: body ∧ text = HttpParser.response lines part := by
  have split : ∀ part, HttpParser.response lines part = HttpParser.response lines [] ++ part := by
    intro part
    simp [HttpParser.response]
  have whole := isPrefix
  rw [split] at whole
  rcases List.prefix_or_prefix_of_prefix whole (List.prefix_append _ body) with early | late
  · exact Or.inl early
  · obtain ⟨part, rfl⟩ := late
    exact Or.inr ⟨part, (List.prefix_append_right_inj _).mp whole, (split part).symm⟩

theorem parseHttp_bobsHeader (body : Str) :
    HttpParser.parseHttp (HttpParser.response bobsHeader body) = body := by
  refine HttpParser.parseHttp_response (List.cons_ne_nil _ _) (fun line member => ?_) body
  rw [List.mem_singleton.mp member]
  exact ⟨by decide, by decide, by decide⟩

theorem readJson_self (text : Str) (tree : PTree) (others : List (Str × PTree)) :
    (sampleTrees ((text, tree) :: others)).readJson text = some tree :=
  congrArg (Option.map Prod.snd) (List.find?_cons_of_pos (decide_eq_true rfl))

theorem readJson_other {text other : Str} (differ : other ≠ text) (tree : PTree)
    (others : List (Str × PTree)) : (sampleTrees ((other, tree) :: others)).readJson text =
      (sampleTrees others).readJson text :=
  congrArg (Option.map Prod.snd) (List.find?_cons_of_neg (by simpa only [decide_eq_true_eq]))

/-- Neither body is a part of the other. -/
theorem bobs_apart : ¬ bareBody [] <+: bobsBody ∧ ¬ bobsBody <+: bareBody [] := by
  decide +kernel

theorem bobs_readJson : bobsEnv.readJson bobsBody = some bobsTree := by
  have differ : bareBody [] ≠ bobsBody := fun same => bobs_apart.1 (same ▸ List.prefix_refl _)
  exact (readJson_other differ _ _).trans (readJson_self _ _ _)

theorem bobs_readJson_none {text : Str} (bare : text ≠ bareBody []) (own : text ≠ bobsBody) :
    bobsEnv.readJson text = none :=
  (readJson_other (Ne.symm bare) _ _).trans (readJson_other (Ne.symm own) _ _)

theorem bobs_truncated {body text : Str} (known : body = bareBody [] ∨ body = bobsBody)
    (isPrefix : text <+: HttpParser.response bobsHeader body)
    (proper : text ≠ HttpParser.response bobsHeader body) :
    bobsEnv.readJson (HttpParser.parseHttp text) = none := by
  have inHeader : ∀ text ∈ (HttpParser.response bobsHeader []).inits,
      bobsEnv.readJson (HttpParser.parseHttp text) = none := by
    decide +kernel
  rcases isPrefix_response isPrefix with early | ⟨part, isPart, same⟩
  · exact inHeader text ((List.mem_inits _ _).mpr early)
  · have differ : part ≠ body := fun whole => proper (same.trans (congrArg _ whole))
    rw [same, parseHttp_bobsHeader]
    rcases known with bare | own
    · rw [bare] at isPart differ
      exact bobs_readJson_none differ fun other => bobs_apart.2 (other ▸ isPart)
    · rw [own] at isPart differ
      exact bobs_readJson_none (fun other => bobs_apart.1 (other ▸ isPart)) differ

set_option maxRecDepth 4000 in
theorem bobs_renders : Renders bobsEnv.toPTreeEnv bobsRender [bobsUpdate] := by
  have read : ∀ body, bobsEnv.readJson
      (HttpParser.parseHttp (HttpParser.response bobsHeader body)) = bobsEnv.readJson body :=
    fun body => congrArg bobsEnv.readJson (parseHttp_bobsHeader body)
  constructor
  · intro updates inside
    rcases List.sublist_singleton.mp inside.sublist with rfl | rfl
    · exact ⟨bareTree [], jsonArray [], (read _).trans (readJson_self _ _ _), by rfl, by rfl⟩
    · exact ⟨bobsTree, _, (read _).trans bobs_readJson, by rfl, by with_unfolding_all rfl⟩
  · intro updates inside text isPrefix proper
    rcases List.sublist_singleton.mp inside.sublist with rfl | rfl
    · exact bobs_truncated (Or.inl rfl) isPrefix proper
    · exact bobs_truncated (Or.inr rfl) isPrefix proper

def bobsBot : TelegramBot Application :=
  { apiUrl := ['u'], token := ['t'], app := Application.start sampleCodes {} [] }

/-- A tracker reports while the answer with Bob's message is on its way. -/
def bobStarts : List Event :=
  [.turn (.bot (.client (.timer true))), .turn (.bot (.client .connected)), .turn (.answer 1),
    .turn (.deliver 100), .trackerEvent { keyword := "move".toList }, .turn (.deliver 400),
    .turn (.bot (.client .breaks)), .turn (.bot (.client .ends))]

/-- Bob is answered. -/
theorem bobStarts_run :
    ∃ d, Run (step sampleCodes bobsEnv bobsRender) (init bobsEnv bobsBot [bobsUpdate]) bobStarts
        d ∧ (posted d.bot.client).length = 1 ∧
      Application.presentedCodes
        ((messages d.bot.owner.handled).flatMap Application.sentCommands) 6 = [] := by
  have executed : (bobStarts.foldlM (step sampleCodes bobsEnv bobsRender)
      (init bobsEnv bobsBot [bobsUpdate])).map (fun d => ((posted d.bot.client).length,
        Application.presentedCodes
          ((messages d.bot.owner.handled).flatMap Application.sentCommands) 6)) =
      some (1, []) := by
    decide +kernel
  obtain ⟨d, folded, same⟩ := Option.map_eq_some_iff.mp executed
  obtain ⟨sent, codes⟩ := Prod.mk.inj same
  exact ⟨d, .of_foldlM folded, sent, codes⟩

theorem conversation_of_run_bob :
    ∃ d w, Run (step sampleCodes bobsEnv bobsRender) (init bobsEnv bobsBot [bobsUpdate]) bobStarts
        d ∧ d.bot.owner.handled <+: [bobsUpdate] ∧
      ∃ events said w', Heard events d.bot.owner.handled (bobStarts.filterMap Event.report) ∧
        Talks sampleCodes w events said w' ∧ Application.Represents d.bot.owner.app w' ∧
        posted d.bot.client = said.map (post bobsEnv bobsBot) := by
  obtain ⟨d, run, _⟩ := bobStarts_run
  obtain ⟨w, _, represents⟩ := @Application.fresh_start sampleCodes {} rfl rfl
  have feed : Feed [bobsUpdate] := ⟨by decide, by simp [bobsUpdate, bareUpdate]⟩
  have quiet : bobsBot.app.outbox = [] := start_outbox sampleCodes {}
  exact ⟨d, w, run, conversation_of_run feed bobs_renders (by decide) (by decide) quiet rfl rfl
    represents run⟩

/-! ## One chat -/

theorem lexicalCast_injective : Function.Injective lexicalCast := by
  have natural : ∀ n m : Nat, Nat.toDigits 10 n = Nat.toDigits 10 m → n = m := by
    intro n m same
    rw [← Nat.ofDigitChars_ten_toDigits (n := n), same, Nat.ofDigitChars_ten_toDigits]
  have sign : ∀ (n : Nat) (digits : Str), Nat.toDigits 10 n ≠ '-' :: digits := by
    intro n digits same
    have digit : ('-').isDigit = true :=
      Nat.isDigit_of_mem_toDigits (by omega) (by omega) (same ▸ List.mem_cons_self)
    cases digit
  intro n m same
  unfold lexicalCast at same
  split at same
  · split at same
    · have digits := natural _ _ (List.cons.inj same).2
      omega
    · exact absurd same.symm (sign _ _)
  · split at same
    · exact absurd same (sign _ _)
    · have digits := natural _ _ same
      omega

/-- The chat a request is addressed to, as the server reads it. -/
def chatId (request : HttpRequest) : Option Str :=
  (request.arguments.find? fun argument => argument.name = "chat_id".toList).map HttpReqArg.value

/-- The requests to send something to somebody that have been queued so far. -/
def postedTo (id : Int) (c : HttpsClient) : List HttpRequest :=
  (posted c).filter fun request => chatId request = some (lexicalCast id)

theorem chatId_post (bot : TelegramBot Application) (c : TelegramCall) :
    chatId (post env bot c) = some (lexicalCast c.recipient) := by
  cases c with
  | sendMessage chat text parseMode => rfl
  | sendLocation chat latitude longitude => rfl

theorem filter_posts (bot : TelegramBot Application) (id : Int) (calls : List TelegramCall) :
    ((calls.map (post env bot)).filter fun request => chatId request = some (lexicalCast id)) =
      (callsFor id calls).map (post env bot) := by
  unfold callsFor
  rw [List.filter_map]
  congr 1
  apply List.filter_congr
  intro c _
  simp only [Function.comp_apply, chatId_post, Option.some_inj, lexicalCast_injective.eq_iff]

/-- What a message makes the bot say to somebody who is not registered. -/
def strangerAnswers (id : Int) (message : Message) : List TelegramCall :=
  strangerCalls id (.message message)

theorem flatMap_heard {α : Type} {updates : List Update} {reports : List GpsMessage}
    (heard : Heard events updates reports) {f : Application.Event → List α}
    (silent : ∀ data, f (.trackerEvent data) = []) :
    events.flatMap f = (messages updates).flatMap fun message => f (.message message) := by
  rw [← heard.messages]
  have noRestart := heard.noRestart
  clear heard
  induction events with
  | nil => rfl
  | cons event events ih =>
      rw [List.forall_mem_cons] at noRestart
      rw [List.flatMap_cons, ih noRestart.2, List.filterMap_cons]
      cases event with
      | message message => rfl
      | trackerEvent data =>
          rw [silent]
          rfl
      | restart rows => exact absurd rfl (noRestart.1 rows)

/-- Whatever others write, the trackers report and becomes of the connections: somebody who
presents no good code in the updates that are handled is sent the answers to the lines of his
own messages among them, in order, and nothing else. -/
theorem strangers_requests (reliable : Reliable appEnv) {database : Database}
    (noUsers : database.users = []) (noSettings : database.settings = [])
    {bot : TelegramBot Application} (apiUrl : bot.apiUrl ≠ []) (token : bot.token ≠ [])
    (app : bot.app = Application.start appEnv database []) (unhandled : bot.handled = [])
    (run : Run (step appEnv env render) (init env bot all) es d) {id : Int}
    (stranger : ∀ code ∈ Application.presentedCodes
      ((messages d.bot.owner.handled).flatMap Application.sentCommands) id,
      Application.codeAccess appEnv code ≤ Access.default) :
    postedTo id d.bot.client =
      ((messages d.bot.owner.handled).flatMap (strangerAnswers id)).map (post env bot) := by
  obtain ⟨w, fresh', represents⟩ := Application.fresh_start appEnv noUsers noSettings
  rw [← app] at represents
  have quiet : bot.app.outbox = [] := by
    rw [app]
    exact start_outbox appEnv database
  obtain ⟨events, said, w', heard, talks, _, sent⟩ :=
    history_of_run apiUrl token quiet unhandled represents run
  have codes : events.flatMap Application.toldBy =
      (messages d.bot.owner.handled).flatMap Application.sentCommands :=
    flatMap_heard heard fun _ => rfl
  have answers : events.flatMap (strangerCalls id) =
      (messages d.bot.owner.handled).flatMap (strangerAnswers id) :=
    flatMap_heard heard fun _ => rfl
  rw [← codes] at stranger
  have own := talks.stranger reliable (fresh'.level id) fresh'.owned stranger
  unfold postedTo
  rw [sent, filter_posts, own, answers]

theorem strangers_requests_bob :
    ∃ d, Run (step sampleCodes bobsEnv bobsRender) (init bobsEnv bobsBot [bobsUpdate]) bobStarts
        d ∧ (posted d.bot.client).length = 1 ∧
      postedTo 6 d.bot.client =
        ((messages d.bot.owner.handled).flatMap (strangerAnswers 6)).map
          (post bobsEnv bobsBot) := by
  obtain ⟨d, run, sent, codes⟩ := bobStarts_run
  have wrong : ∀ code ∈ Application.presentedCodes
      ((messages d.bot.owner.handled).flatMap Application.sentCommands) 6,
      Application.codeAccess sampleCodes code ≤ Access.default := by
    rw [codes]
    exact List.forall_mem_nil _
  have noUsers : ({} : Database).users = [] := rfl
  exact ⟨d, run, sent, strangers_requests (fun _ => rfl) noUsers rfl (by decide) (by decide) rfl rfl
    run wrong⟩

end Daemon

end GpsInformer
