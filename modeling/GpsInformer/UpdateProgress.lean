import GpsInformer.UpdateDelivery

/-!
# Every update can still be delivered

Nothing the bot and the server can have gone through takes an update from reach: from every
state of their dialogue, also in the middle of a connection or of an answer, they can go on so
that the bot has handled all updates of the server (`Live.proceeds`).

The way there is the same from everywhere.  The connection is brought to its end (`settle`), a
wait of one of the timers wakes the bot (`wake`), the requests before the one for updates are
answered with nothing (`discards`), and the one for updates is answered whole (`serve`).
-/

namespace GpsInformer

open Lib

open TgBot (Update)

namespace TelegramBot

variable {σ : Type} {env : BotEnv} {handler : Option (TelegramBotHandler σ)}
  {render : List Update → Str} {s t : Owned (TelegramBot σ)} {all : List Update}
  {d d' d'' : Dialogue σ}

/-- No update makes the handler of the bot raise. -/
def Tolerant (env : BotEnv) (handler : Option (TelegramBotHandler σ)) (all : List Update) : Prop :=
  ∀ update ∈ all, ∀ s, Returns (handleUpdate env handler update s)

/-- A whole answer is taken for what it is, and not for a failure or a web page. -/
def Decodes (env : PTreeEnv) (render : List Update → Str) (all : List Update) : Prop :=
  ∀ updates, updates <:+: all → decode env (render updates) = updates

/-- What has arrived of an answer that is none to a request for updates does not make the bot
raise. -/
def Harmless (env : BotEnv) (handler : Option (TelegramBotHandler σ)) (d : Dialogue σ) : Prop :=
  Owned.receives d.bot.client.ssl = true → ∀ request ∈ d.bot.client.requestQueue.head?,
    request.tag ≠ Tags.getUpdates →
      ∀ s, Returns (handleHttpClientResponse env handler request d.bot.client.response s)

/-- What holds in every state of the dialogue while TLS can be set up. -/
structure Live (env : BotEnv) (render : List Update → Str) (all : List Update) (d : Dialogue σ) :
    Prop where
  agreed : Agreed render all d
  configured : Configured d.bot.owner
  pending : Pending d.bot

theorem Live.step (feed : Feed all) (renders : Renders env.toPTreeEnv render all)
    (works : TimersWork env) (live : Live env render all d) {turn : Turn}
    (accepted : turn ≠ .bot (.client (.timer false)))
    (taken : converse env handler render d turn = some d') : Live env render all d' := by
  have agreed := agreed_step feed renders live.agreed taken
  have stepped : ∀ {event t}, event ≠ .client (.timer false) →
      TelegramBot.step env handler d.bot event = some t → d'.bot = t →
      Configured d'.bot.owner ∧ Pending d'.bot := by
    intro event t accepted stepped same
    rw [same]
    exact pending_step works accepted live.configured live.pending stepped
  have kept : d'.bot = d.bot → Configured d'.bot.owner ∧ Pending d'.bot := fun same =>
    ⟨same ▸ live.configured, same ▸ live.pending⟩
  have both : Configured d'.bot.owner ∧ Pending d'.bot := by
    cases turn with
    | bot event =>
        have accepted' : event ≠ .client (.timer false) := fun same =>
          accepted (congrArg Turn.bot same)
        unfold converse at taken
        split at taken
        · cases taken
        · rename_i same
          cases same
          obtain ⟨t, moved, rfl⟩ := Option.map_eq_some_iff.mp taken
          exact stepped accepted' moved rfl
        · rename_i same
          cases same
          obtain ⟨t, moved, rfl⟩ := Option.map_eq_some_iff.mp taken
          exact stepped accepted' moved rfl
        all_goals contradiction
    | answer count =>
        obtain ⟨request, _, taken⟩ := Option.bind_eq_some_iff.mp taken
        split at taken
        · cases taken
          exact kept rfl
        · cases taken
    | reply text =>
        obtain ⟨request, _, taken⟩ := Option.bind_eq_some_iff.mp taken
        split at taken
        · cases taken
          exact kept rfl
        · cases taken
    | receive place =>
        obtain ⟨request, _, taken⟩ := Option.bind_eq_some_iff.mp taken
        split at taken
        · cases taken
          exact kept rfl
        · cases taken
    | deliver count =>
        obtain ⟨rest, _, taken⟩ := Option.bind_eq_some_iff.mp taken
        obtain ⟨t, moved, same⟩ := Option.bind_eq_some_iff.mp taken
        cases same
        exact stepped (fun same => by cases same) moved rfl
  exact ⟨agreed, both.1, both.2⟩

/-! ## Answers that are handled to their end -/

theorem returns_handleItems (tolerant : Tolerant env handler all) (among : updates <:+: all)
    (s : Owned (TelegramBot σ)) : Returns (updates.foldlM (handleItem env handler) s) := by
  have known : ∀ update ∈ updates, update ∈ all := fun update member => among.subset member
  clear among
  induction updates generalizing s with
  | nil => exact returns_ok s
  | cons update updates ih =>
      rw [List.forall_mem_cons] at known
      obtain ⟨t, first⟩ : Returns (handleItem env handler s update) := tolerant update known.1 _
      rw [List.foldlM_cons, first]
      exact ih t known.2

theorem handleHttpClientResponse_nil (request : HttpRequest) (s : Owned (TelegramBot σ)) :
    handleHttpClientResponse env handler request [] s = .ok s := by
  simp [handleHttpClientResponse]

theorem returns_of_undecoded {request : HttpRequest} {text : Str}
    (undecoded : env.readJson (HttpParser.parseHttp text) = none) (s : Owned (TelegramBot σ)) :
    Returns (handleHttpClientResponse env handler request text s) := by
  unfold handleHttpClientResponse
  dsimp only
  rw [undecoded]
  split
  · exact returns_ok s
  · split
    · exact returns_ok s
    · split
      · exact returns_ok s
      · exact returns_ok s

theorem returns_render (renders : Renders env.toPTreeEnv render all)
    (tolerant : Tolerant env handler all) (among : updates <:+: all) {request : HttpRequest}
    (tag : request.tag = Tags.getUpdates) (s : Owned (TelegramBot σ)) :
    Returns (handleHttpClientResponse env handler request (render updates) s) := by
  obtain ⟨json, result, decoded, found, parsed⟩ := renders.whole updates among
  have child : json.getChild "result".toList = .ok result := by
    unfold PTree.getChild
    rw [found]
  unfold handleHttpClientResponse
  dsimp only
  rw [decoded]
  split
  · exact returns_ok s
  · split
    · exact returns_ok s
    · split
      · exact returns_ok s
      · dsimp only
        split
        · exact returns_ok s
        · refine returns_bind.mpr ⟨result, child, ?_⟩
          unfold handleResult
          rw [if_pos tag]
          exact returns_bind.mpr ⟨updates, parsed, returns_handleItems tolerant among s⟩

/-- What has arrived on the current connection is handled to its end. -/
theorem returns_response (renders : Renders env.toPTreeEnv render all)
    (tolerant : Tolerant env handler all) (agreed : Agreed render all d)
    (harmless : Harmless env handler d) (receives : Owned.receives d.bot.client.ssl = true)
    {request : HttpRequest} (front : d.bot.client.requestQueue.head? = some request)
    (s : Owned (TelegramBot σ)) :
    Returns (handleHttpClientResponse env handler request d.bot.client.response s) := by
  by_cases tag : request.tag = Tags.getUpdates
  · obtain ⟨silent, answer⟩ := agreed.onWire receives
    cases reply : d.reply with
    | none =>
        rw [silent reply, handleHttpClientResponse_nil]
        exact returns_ok s
    | some rest =>
        obtain ⟨updates, next, text⟩ := answer rest reply request front tag
        have among : updates <:+: all := next.isInfix.trans (List.drop_suffix _ all).isInfix
        by_cases whole : d.bot.client.response = render updates
        · rw [whole]
          exact returns_render renders tolerant among tag s
        · exact returns_of_undecoded
            (renders.truncated updates among _ ⟨rest, text⟩ whole) s
  · exact harmless receives request front tag s

/-! ## The end of a connection -/

theorem popFront_returns {c : HttpsClient} (byPeer : Bool) (queue : c.requestQueue ≠ []) :
    ∃ d, c.popFront byPeer = .ok d := by
  obtain ⟨request, rest, queue⟩ := List.exists_cons_of_ne_nil queue
  unfold HttpsClient.popFront
  rw [queue]
  exact ⟨_, rfl⟩

theorem returns_handleTcpClientDisconnect (queue : s.client.requestQueue ≠ [])
    (closedByUser : Bool)
    (returns : closedByUser = false → ∀ request ∈ s.client.requestQueue.head?, ∀ t,
      Returns (handleHttpClientResponse env handler request s.client.response t)) :
    Returns (Owned.handleTcpClientDisconnect env.httpsTimerFails (httpHandler env handler)
      closedByUser s) := by
  unfold Owned.handleTcpClientDisconnect
  dsimp only
  cases closedByUser with
  | true =>
      obtain ⟨c, popped⟩ :=
        @popFront_returns { s.client with ssl := .disconnected } (!true) queue
      refine returns_bind.mpr ⟨_, rfl, returns_bind.mpr ⟨c, popped, returns_ok _⟩⟩
  | false =>
      obtain ⟨request, rest, split⟩ := List.exists_cons_of_ne_nil queue
      have front : HttpsClient.front { s.client with ssl := .disconnected } = .ok request := by
        unfold HttpsClient.front
        dsimp only
        rw [split]
      obtain ⟨u, handled⟩ := returns rfl request (by rw [split]; rfl)
        ⟨{ s.client with ssl := .disconnected }.answer request, s.owner⟩
      obtain ⟨_, reacted, _⟩ := handleHttpClientResponse_ok handled
      obtain ⟨extra, extended⟩ := HttpsClient.exists_extended reacted.client
      have remaining : u.client.requestQueue ≠ [] := by
        rw [extended.requestQueue]
        exact List.append_ne_nil_of_left_ne_nil queue extra
      obtain ⟨c, popped⟩ := popFront_returns (!false) remaining
      refine returns_bind.mpr ⟨request, front, returns_bind.mpr ⟨u, handled, ?_⟩⟩
      exact returns_bind.mpr ⟨c, popped, returns_ok _⟩

theorem returns_handleTcpClientError (queue : s.client.requestQueue ≠ [])
    (operationAborted : Bool) :
    Returns (Owned.handleTcpClientError env.httpsTimerFails (httpHandler env handler)
      operationAborted s) := by
  unfold Owned.handleTcpClientError
  dsimp only
  split
  · obtain ⟨c, popped⟩ :=
      @popFront_returns { s.client with ssl := .disconnected, response := [] } false queue
    exact returns_bind.mpr ⟨c, popped, returns_ok _⟩
  · exact returns_ok _

/-- The connection fails or is being closed. -/
def Over (phase : SslPhase) : Prop :=
  ∃ wasConnected, phase = .disconnecting wasConnected ∨ phase = .failed wasConnected

/-- A connection that is over can be reported, and then there is none. -/
theorem ends_returns (sound : HttpsClient.Sound s.client) (gone : Over s.client.ssl)
    (returns : Owned.receives s.client.ssl = true → ∀ request ∈ s.client.requestQueue.head?, ∀ t,
      Returns (handleHttpClientResponse env handler request s.client.response t)) :
    ∃ t, step env handler s (.client .ends) = some t ∧ t.client.ssl = .disconnected := by
  have promises := sound.promises
  have closes : s.client.requestQueue ≠ [] → ∀ closedByUser,
      (closedByUser = false → Owned.receives s.client.ssl = true) → ∃ t,
      (Owned.handleTcpClientDisconnect env.httpsTimerFails (httpHandler env handler)
        closedByUser s).toOption = some t ∧ t.client.ssl = .disconnected := by
    intro queue closedByUser receives
    obtain ⟨t, returned⟩ := returns_handleTcpClientDisconnect queue closedByUser
      fun byPeer => returns (receives byPeer)
    refine ⟨t, congrArg Except.toOption returned, ?_⟩
    rcases handleTcpClientDisconnect_ok returned with
      ⟨_, popped⟩ | ⟨_, request, rest, u, _, handled, popped⟩
    · exact popped.ssl
    · obtain ⟨_, reacted, _⟩ := handleHttpClientResponse_ok handled
      obtain ⟨extra, extended⟩ := HttpsClient.exists_extended reacted.client
      rw [popped.ssl, extended.ssl]
      rfl
  have aborts : s.client.requestQueue ≠ [] → ∀ operationAborted, ∃ t,
      (Owned.handleTcpClientError env.httpsTimerFails (httpHandler env handler)
        operationAborted s).toOption = some t ∧ t.client.ssl = .disconnected := by
    intro queue operationAborted
    obtain ⟨t, returned⟩ := returns_handleTcpClientError queue operationAborted
    refine ⟨t, congrArg Except.toOption returned, ?_⟩
    rcases handleTcpClientError_ok returned with ⟨_, popped⟩ | ⟨_, rfl⟩
    · exact popped.ssl
    · rw [(handleHttpClientError_cases env _).1]
  simp only [step, Owned.step, Owned.handleEnd]
  obtain ⟨wasConnected, closing | failed⟩ := gone
  · rw [closing] at promises ⊢
    cases wasConnected with
    | true => exact closes promises.1.queue true (fun byPeer => by cases byPeer)
    | false => exact aborts promises.1.queue true
  · rw [failed] at promises ⊢
    cases wasConnected with
    | true => exact closes promises.queue false (fun _ => by rw [failed]; rfl)
    | false => exact aborts promises.queue false

/-- The dialogue can go on to a state. -/
def Reaches (env : BotEnv) (handler : Option (TelegramBotHandler σ)) (render : List Update → Str)
    (d d' : Dialogue σ) : Prop :=
  ∃ turns, Turn.bot (.client (.timer false)) ∉ turns ∧ Run (converse env handler render) d turns d'

theorem Reaches.refl (d : Dialogue σ) : Reaches env handler render d d :=
  ⟨[], List.not_mem_nil, .nil d⟩

theorem Reaches.trans (first : Reaches env handler render d d')
    (second : Reaches env handler render d' d'') : Reaches env handler render d d'' := by
  obtain ⟨turns, accepted, run⟩ := first
  obtain ⟨turns', accepted', run'⟩ := second
  refine ⟨turns ++ turns', fun member => ?_, run.append run'⟩
  rcases List.mem_append.mp member with early | late
  · exact accepted early
  · exact accepted' late

theorem Reaches.turn {turn : Turn} (accepted : turn ≠ .bot (.client (.timer false)))
    (taken : converse env handler render d turn = some d') : Reaches env handler render d d' :=
  ⟨[turn], fun member => accepted (List.mem_singleton.mp member).symm, .cons taken (.nil d')⟩

/-- The bot goes on by itself. -/
theorem Reaches.bot {event : Event} (accepted : event ≠ .client (.timer false))
    (noData : ∀ data, event ≠ .client (.data data)) (noConnect : event ≠ .client .connected)
    (taken : step env handler d.bot event = some t) :
    Reaches env handler render d { d with bot := t } := by
  have turned : converse env handler render d (.bot event) = some { d with bot := t } := by
    unfold converse
    split
    · rename_i data same
      cases same
      exact absurd rfl (noData data)
    · rename_i same
      cases same
      exact absurd rfl noConnect
    · rename_i same
      cases same
      exact congrArg (Option.map _) taken
    all_goals contradiction
  refine .turn (fun same => ?_) turned
  cases same
  exact accepted rfl

theorem Reaches.live (feed : Feed all) (renders : Renders env.toPTreeEnv render all)
    (works : TimersWork env) (reaches : Reaches env handler render d d')
    (live : Live env render all d) : Live env render all d' := by
  obtain ⟨turns, accepted, run⟩ := reaches
  induction run with
  | nil => exact live
  | cons taken _ ih =>
      rw [List.mem_cons, not_or] at accepted
      exact ih (live.step feed renders works (Ne.symm accepted.1) taken) accepted.2

/-- Whatever is going on, the connection can be brought to its end. -/
theorem settle (renders : Renders env.toPTreeEnv render all)
    (tolerant : Tolerant env handler all) (harmless : Harmless env handler d)
    (live : Live env render all d) :
    ∃ d', Reaches env handler render d d' ∧ d'.bot.client.ssl = .disconnected := by
  have survives : Owned.receives d.bot.client.ssl = true →
      ∀ request ∈ d.bot.client.requestQueue.head?, ∀ t,
        Returns (handleHttpClientResponse env handler request d.bot.client.response t) :=
    fun receives request front =>
      returns_response renders tolerant live.agreed harmless receives front
  have ends : Over d.bot.client.ssl →
      ∃ d', Reaches env handler render d d' ∧ d'.bot.client.ssl = .disconnected := by
    intro gone
    obtain ⟨t, taken, off⟩ := ends_returns live.agreed.sound gone survives
    exact ⟨{ d with bot := t }, .bot (by simp) (by simp) (by simp) taken, off⟩
  have breaks : ∀ wasConnected, (wasConnected = true → Owned.receives d.bot.client.ssl = true) →
      step env handler d.bot (.client .breaks) =
        some ⟨{ d.bot.client with ssl := .failed wasConnected }, d.bot.owner⟩ →
      ∃ d', Reaches env handler render d d' ∧ d'.bot.client.ssl = .disconnected := by
    intro wasConnected receives taken
    let broken : Owned (TelegramBot σ) :=
      ⟨{ d.bot.client with ssl := .failed wasConnected }, d.bot.owner⟩
    have sound : HttpsClient.Sound broken.client := sound_client live.agreed.sound taken
    obtain ⟨t, taken', off⟩ :=
      ends_returns (s := broken) sound ⟨wasConnected, Or.inr rfl⟩ fun receives' => by
        cases wasConnected with
        | true => exact survives (receives rfl)
        | false => cases receives'
    refine ⟨{ d with bot := t }, ?_, off⟩
    exact (Reaches.bot (by simp) (by simp) (by simp) taken).trans
      (.bot (d := { d with bot := broken }) (by simp) (by simp) (by simp) taken')
  cases phase : d.bot.client.ssl with
  | disconnected => exact ⟨d, .refl d, phase⟩
  | connecting =>
      apply breaks false
      · rintro impossible
        cases impossible
      · simp only [step, Owned.step]
        rw [phase]
  | connected =>
      apply breaks true
      · rw [phase]
        exact fun _ => rfl
      · simp only [step, Owned.step]
        rw [phase]
  | disconnecting wasConnected => exact ends ⟨wasConnected, Or.inl phase⟩
  | failed wasConnected => exact ends ⟨wasConnected, Or.inr phase⟩

/-! ## From one connection to the next -/

/-- There is no connection, and a wait of the client's timer will open one. -/
structure Awake (d : Dialogue σ) : Prop where
  off : d.bot.client.ssl = .disconnected
  waits : 0 < d.bot.client.waits

/-- Without a connection, a wait of one of the timers wakes the bot. -/
theorem wake (handler : Option (TelegramBotHandler σ)) (works : TimersWork env)
    (live : Live env render all d) (off : d.bot.client.ssl = .disconnected) :
    ∃ d', Reaches env handler render d d' ∧ Awake d' := by
  rcases live.pending with open' | waits | retrying
  · exact absurd off open'
  · exact ⟨d, .refl d, off, waits⟩
  · have taken : step env handler d.bot .timer = some (handleTimerEvent env d.bot) :=
      if_neg (Nat.ne_of_gt retrying)
    refine ⟨{ d with bot := handleTimerEvent env d.bot },
      .bot (by simp) (by simp) (by simp) taken, ?_⟩
    unfold handleTimerEvent
    dsimp only
    rw [if_pos live.configured.enabled]
    constructor
    · exact HttpsClient.pushQueue_ssl.trans off
    · dsimp only
      rw [pushQueue_waits works.client]
      exact Nat.succ_pos _

/-- The front of the queue is on a connection that has just been established. -/
structure Served (d d' : Dialogue σ) (request : HttpRequest) : Prop where
  connected : d'.bot.client.ssl = .connected
  queue : d'.bot.client.requestQueue = d.bot.client.requestQueue
  response : d'.bot.client.response = []
  owner : d'.bot.owner = d.bot.owner
  reply : d'.reply = none
  flies : inFlight d'.bot.client = some request

/-- The front of the queue is sent on a new connection. -/
theorem connects (handler : Option (TelegramBotHandler σ)) (live : Live env render all d)
    (awake : Awake d) {request : HttpRequest} {rest : List HttpRequest}
    (queue : d.bot.client.requestQueue = request :: rest) :
    ∃ d', Reaches env handler render d d' ∧ Served d d' request := by
  have fifo := live.agreed.sound.fifo
  obtain ⟨off, waits⟩ := awake
  let connections := d.bot.client.journal.connections ++ [({} : Connection)]
  let opening : HttpsClient :=
    { d.bot.client with
      waits := d.bot.client.waits - 1
      ssl := .connecting
      journal := { d.bot.client.journal with connections } }
  have opens : step env handler d.bot (.client (.timer true)) =
      some ⟨opening, d.bot.owner⟩ := by
    simp only [step, Owned.step]
    rw [if_neg (Nat.ne_of_gt waits)]
    unfold Owned.handleTimerEvent HttpsClient.isDisconnecting HttpsClient.isConnecting
      HttpsClient.isConnected HttpsClient.connect
    simp [off, queue, Except.toOption, opening, connections]
  have answers : step env handler ⟨opening, d.bot.owner⟩ (.client .connected) =
      some (Owned.handleTcpClientConnect ⟨opening, d.bot.owner⟩) := by
    simp only [step, Owned.step]
    exact if_pos rfl
  have client : (Owned.handleTcpClientConnect ⟨opening, d.bot.owner⟩).client =
      { opening with
        ssl := .connected
        response := []
        journal := { opening.journal with connections := d.bot.client.journal.connections ++
          [{ sent := [d.bot.client.journal.departed.length] }] } } := by
    have nonempty : opening.requestQueue.isEmpty = false := by
      change d.bot.client.requestQueue.isEmpty = false
      rw [queue]
      rfl
    unfold Owned.handleTcpClientConnect HttpsClient.sendFront
    simp only [nonempty, Bool.not_false, if_true]
    exact HttpsClient.modifyConnection_eq { opening with ssl := .connected, response := [] } rfl _
  have owner : (Owned.handleTcpClientConnect ⟨opening, d.bot.owner⟩).owner = d.bot.owner := by
    unfold Owned.handleTcpClientConnect
    dsimp only
    split
    · rfl
    · rfl
  have second : converse env handler render { d with bot := ⟨opening, d.bot.owner⟩ }
      (.bot (.client .connected)) = some
        { d with bot := Owned.handleTcpClientConnect ⟨opening, d.bot.owner⟩, reply := none } := by
    unfold converse
    dsimp only
    rw [answers]
    rfl
  refine ⟨_, (Reaches.bot (by simp) (by simp) (by simp) opens).trans
    (.turn (by simp) second), ?_⟩
  constructor
  · dsimp only
    rw [client]
  · dsimp only
    rw [client]
  · dsimp only
    rw [client]
  · exact owner
  · rfl
  · dsimp only
    rw [client]
    have place : d.bot.client.journal.queued[d.bot.client.journal.departed.length]? =
        some request := by
      rw [fifo, List.getElem?_append_right (by simp)]
      simp [queue]
    simp [inFlight, Owned.receives, opening, place]

theorem handleTcpClientDisconnect_waits (works : TimersWork env)
    (returned : Owned.handleTcpClientDisconnect env.httpsTimerFails (httpHandler env handler)
      false s = .ok t) :
    0 < t.client.waits := by
  unfold Owned.handleTcpClientDisconnect at returned
  obtain ⟨_, _, returned⟩ := bind_eq_ok.mp returned
  obtain ⟨_, _, returned⟩ := bind_eq_ok.mp returned
  obtain ⟨_, _, returned⟩ := bind_eq_ok.mp returned
  cases returned
  dsimp only
  rw [pushQueue_waits works.client]
  exact Nat.succ_pos _

/-- The peer closes the connection, and what it has sent is the response. -/
theorem finishes (works : TimersWork env) (connected : d.bot.client.ssl = .connected)
    {request : HttpRequest} {rest : List HttpRequest}
    (queue : d.bot.client.requestQueue = request :: rest)
    (returns : ∀ s, Returns (handleHttpClientResponse env handler request
      d.bot.client.response s)) :
    ∃ d' u, Reaches env handler render d d' ∧ Awake d' ∧
      handleHttpClientResponse env handler request d.bot.client.response
        ⟨{ d.bot.client with ssl := .disconnected }.answer request, d.bot.owner⟩ = .ok u ∧
      Popped u d'.bot := by
  let broken : Owned (TelegramBot σ) := ⟨{ d.bot.client with ssl := .failed true }, d.bot.owner⟩
  have breaks : step env handler d.bot (.client .breaks) = some broken := by
    simp only [step, Owned.step]
    rw [connected]
  have nonempty : broken.client.requestQueue ≠ [] := by
    change d.bot.client.requestQueue ≠ []
    rw [queue]
    exact List.cons_ne_nil _ _
  have survives : ∀ request' ∈ broken.client.requestQueue.head?, ∀ t,
      Returns (handleHttpClientResponse env handler request' broken.client.response t) := by
    intro request' front
    have same : broken.client.requestQueue = request :: rest := queue
    rw [same] at front
    cases front
    exact returns
  obtain ⟨t, returned⟩ := returns_handleTcpClientDisconnect nonempty false fun _ => survives
  have ends : step env handler broken (.client .ends) = some t := congrArg Except.toOption returned
  rcases handleTcpClientDisconnect_ok returned with
    ⟨impossible, _⟩ | ⟨_, request', rest', u, queue', handled, popped⟩
  · cases impossible
  have same : request :: rest = request' :: rest' := queue.symm.trans queue'
  cases same
  obtain ⟨_, reacted, _⟩ := handleHttpClientResponse_ok handled
  obtain ⟨extra, extended⟩ := HttpsClient.exists_extended reacted.client
  refine ⟨{ d with bot := t }, u, ?_, ⟨?_, ?_⟩, handled, popped⟩
  · exact (Reaches.bot (by simp) (by simp) (by simp) breaks).trans
      (.bot (d := { d with bot := broken }) (by simp) (by simp) (by simp) ends)
  · exact popped.ssl.trans extended.ssl
  · exact handleTcpClientDisconnect_waits works returned

/-! ## Until there is nothing left -/

/-- A request that is answered with nothing leaves the queue, and nothing else changes. -/
theorem discards (handler : Option (TelegramBotHandler σ)) (works : TimersWork env)
    (live : Live env render all d) (awake : Awake d) {request : HttpRequest}
    {rest : List HttpRequest} (queue : d.bot.client.requestQueue = request :: rest) :
    ∃ d', Reaches env handler render d d' ∧ Awake d' ∧ d'.bot.client.requestQueue = rest := by
  obtain ⟨d', opens, served⟩ := connects handler live awake queue
  have quiet : ∀ s : Owned (TelegramBot σ),
      Returns (handleHttpClientResponse env handler request d'.bot.client.response s) := by
    intro s
    rw [served.response, handleHttpClientResponse_nil]
    exact returns_ok s
  obtain ⟨d'', u, closes, awake', handled, popped⟩ :=
    finishes works served.connected (served.queue.trans queue) quiet
  refine ⟨d'', opens.trans closes, awake', ?_⟩
  rw [served.response, handleHttpClientResponse_nil] at handled
  cases handled
  refine popped.queue.trans ?_
  change d'.bot.client.requestQueue.tail = rest
  rw [served.queue, queue]
  rfl

/-- A request for updates is answered with all that are left. -/
theorem serve (feed : Feed all) (renders : Renders env.toPTreeEnv render all)
    (decodes : Decodes env.toPTreeEnv render all) (tolerant : Tolerant env handler all)
    (works : TimersWork env) (live : Live env render all d) (awake : Awake d)
    {request : HttpRequest} {rest : List HttpRequest}
    (queue : d.bot.client.requestQueue = request :: rest)
    (tag : request.tag = Tags.getUpdates) :
    ∃ d', Reaches env handler render d d' ∧ d'.bot.owner.handled = all := by
  obtain ⟨d₁, opens, served⟩ := connects handler live awake queue
  have live₁ : Live env render all d₁ := opens.live feed renders works live
  have front : d₁.bot.client.requestQueue = request :: rest := served.queue.trans queue
  let missing := all.drop d₁.bot.owner.handled.length
  have kept : discard request d₁.kept = missing :=
    live₁.agreed.answer feed (by rw [front]; rfl) tag
  let d₂ : Dialogue σ := { d₁ with kept := missing, reply := some (render missing) }
  have answered : converse env handler render d₁ (.answer all.length) = some d₂ := by
    have whole : missing.take all.length = missing :=
      List.take_of_length_le (by simp [missing])
    unfold converse
    dsimp only
    rw [served.flies]
    simp [tag, served.reply, kept, whole, d₂]
  let t := Owned.handleTcpClientReceivedData (render missing) d₁.bot
  let d₃ : Dialogue σ := { d₂ with bot := t, reply := some [] }
  have delivered : converse env handler render d₂ (.deliver (render missing).length) =
      some d₃ := by
    have received : step env handler d₁.bot (.client (.data (render missing))) = some t := by
      simp only [step, Owned.step]
      rw [served.connected]
      exact if_pos rfl
    unfold converse
    simp [d₂, d₃, received]
  have response : t.client.response = render missing := by
    change d₁.bot.client.response ++ render missing = render missing
    rw [served.response, List.nil_append]
  have among : missing <:+: all := (List.drop_suffix _ all).isInfix
  have returns : ∀ s : Owned (TelegramBot σ),
      Returns (handleHttpClientResponse env handler request d₃.bot.client.response s) := by
    intro s
    rw [response]
    exact returns_render renders tolerant among tag s
  obtain ⟨d₄, u, closes, _, handled, popped⟩ :=
    finishes (d := d₃) works served.connected front returns
  refine ⟨d₄, ((opens.trans (.turn (by simp) answered)).trans (.turn (by simp) delivered)).trans
    closes, ?_⟩
  obtain ⟨updates, reacted, _, asks⟩ := handleHttpClientResponse_ok handled
  obtain ⟨app, owner⟩ := reacted.owner
  have updates_eq : updates = missing := by
    rw [asks tag live₁.configured.enabled]
    change decode env.toPTreeEnv t.client.response = missing
    rw [response]
    exact decodes missing among
  obtain ⟨later, whole⟩ := live₁.agreed.handled
  calc d₄.bot.owner.handled = u.owner.handled := congrArg TelegramBot.handled popped.owner
    _ = d₁.bot.owner.handled ++ updates := by rw [owner]; rfl
    _ = d₁.bot.owner.handled ++ all.drop d₁.bot.owner.handled.length := by rw [updates_eq]
    _ = all := by
      rw [← whole, List.drop_left]

/-- The idle bot asks for updates. -/
theorem asks_when_idle (handler : Option (TelegramBotHandler σ)) (works : TimersWork env)
    (live : Live env render all d) (awake : Awake d) (queue : d.bot.client.requestQueue = []) :
    ∃ d' request, Reaches env handler render d d' ∧ Awake d' ∧
      d'.bot.client.requestQueue = [request] ∧ request.tag = Tags.getUpdates := by
  let woken : Owned (TelegramBot σ) :=
    ⟨{ d.bot.client with waits := d.bot.client.waits - 1 }, d.bot.owner⟩
  have taken : step env handler d.bot (.client (.timer true)) =
      some (handleHttpClientIdle env woken) := by
    simp only [step, Owned.step]
    rw [if_neg (Nat.ne_of_gt awake.waits)]
    unfold Owned.handleTimerEvent HttpsClient.isDisconnecting HttpsClient.isConnecting
      HttpsClient.isConnected
    simp [awake.off, queue, Except.toOption, httpHandler, woken]
  have reaches : Reaches env handler render d
      { d with bot := handleHttpClientIdle env woken } :=
    .bot (by simp) (by simp) (by simp) taken
  unfold handleHttpClientIdle at reaches
  rw [if_neg (by simp [woken, live.configured.enabled])] at reaches
  rcases getUpdates_cases env 100 60 woken with
    ⟨silent | silent | silent, _⟩ | ⟨request, asks, queued⟩
  · cases silent.symm.trans live.configured.enabled
  · exact absurd silent live.configured.apiUrl
  · exact absurd silent live.configured.token
  · rw [queued] at reaches
    refine ⟨_, request, reaches, ⟨?_, ?_⟩, ?_, asks.tag⟩
    · exact HttpsClient.pushQueue_ssl.trans awake.off
    · dsimp only
      rw [sendRequest_waits works.client]
      exact Nat.succ_pos _
    · refine HttpsClient.pushQueue_requestQueue.trans ?_
      change d.bot.client.requestQueue ++ [request] = [request]
      rw [queue]
      rfl

/-- What is queued before the request for updates can be brought out of its way. -/
theorem drain (feed : Feed all) (renders : Renders env.toPTreeEnv render all)
    (decodes : Decodes env.toPTreeEnv render all) (tolerant : Tolerant env handler all)
    (works : TimersWork env) (live : Live env render all d) (awake : Awake d) :
    ∃ d', Reaches env handler render d d' ∧ d'.bot.owner.handled = all := by
  generalize queue : d.bot.client.requestQueue = requests
  induction requests generalizing d with
  | nil =>
      obtain ⟨d', request, idles, awake', queue', tag⟩ :=
        asks_when_idle handler works live awake queue
      have live' : Live env render all d' := idles.live feed renders works live
      obtain ⟨d'', serves, whole⟩ :=
        serve feed renders decodes tolerant works live' awake' queue' tag
      exact ⟨d'', idles.trans serves, whole⟩
  | cons request rest ih =>
      by_cases tag : request.tag = Tags.getUpdates
      · exact serve feed renders decodes tolerant works live awake queue tag
      · obtain ⟨d', sends, awake', queue'⟩ := discards handler works live awake queue
        obtain ⟨d'', serves, whole⟩ :=
          ih (sends.live feed renders works live) awake' queue'
        exact ⟨d'', sends.trans serves, whole⟩

/-- The dialogue can go on until the bot has handled all updates of the server. -/
theorem Live.proceeds (feed : Feed all) (renders : Renders env.toPTreeEnv render all)
    (decodes : Decodes env.toPTreeEnv render all) (tolerant : Tolerant env handler all)
    (works : TimersWork env) (live : Live env render all d) (harmless : Harmless env handler d) :
    ∃ d', Reaches env handler render d d' ∧ d'.bot.owner.handled = all := by
  obtain ⟨d₁, ends, off⟩ := settle renders tolerant harmless live
  have live₁ : Live env render all d₁ := ends.live feed renders works live
  obtain ⟨d₂, wakes, awake⟩ := wake handler works live₁ off
  have live₂ : Live env render all d₂ := wakes.live feed renders works live₁
  obtain ⟨d₃, drains, whole⟩ := drain feed renders decodes tolerant works live₂ awake
  exact ⟨d₃, (ends.trans wakes).trans drains, whole⟩

/-- The bot after `start()`, and the server with all its updates. -/
theorem live_start (works : TimersWork env) (render : List Update → Str) (all : List Update)
    {bot : TelegramBot σ} (apiUrl : bot.apiUrl ≠ []) (token : bot.token ≠ [])
    (timerDelay : 1 ≤ bot.timerDelay) (unhandled : bot.handled = [])
    (first : bot.lastUpdateId = 0) :
    Live env render all { bot := start env (fresh bot), kept := all } := by
  obtain ⟨configured, pending⟩ := pending_start works apiUrl token timerDelay
  exact ⟨agreed_start env render all unhandled first, configured, pending⟩

end TelegramBot

end GpsInformer
