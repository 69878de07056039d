import GpsInformer.PollingLoop
import GpsInformer.ResponseHandling
import Mathlib.Data.List.Infix

/-!
# Updates are processed exactly once and in order

The bot in a dialogue with a server that keeps a list of updates.  The server discards the
updates below the offset of a request that reaches it, at once or late, and may answer the
request of the current connection with some of the first ones it has left; of the answer any
part may arrive before the connection ends.

`Agreed` ties the two together: at most one request for updates is queued, at the front, and
with the offset behind the last update handled, so what the server answers it with continues
what has been handled (`agreed_step`).
-/

namespace GpsInformer

open Lib

open TgBot (Update)

namespace TelegramBot

/-- The offset behind a list of updates. -/
def nextId (updates : List Update) : Int := (updates.getLast?.map (·.updateId + 1)).getD 0

/-- The server's updates: with increasing ids that fit the offset. -/
structure Feed (updates : List Update) : Prop where
  increasing : (updates.map (·.updateId)).Pairwise (· < ·)
  small : ∀ update ∈ updates, 0 < update.updateId ∧ update.updateId < 2 ^ 31 - 1

/-- The texts of the server's answers: the JSON of a whole answer decodes to its updates,
that of a truncated one does not parse. -/
structure Renders (env : PTreeEnv) (render : List Update → Str) (all : List Update) : Prop where
  whole : ∀ updates, updates <:+: all → ∃ json result,
    env.readJson (HttpParser.parseHttp (render updates)) = some json ∧
      json.find "result".toList = some result ∧
      TgTypeParser.parseJsonAndGetArray (TgTypeParser.parseJsonAndGetUpdate env) result =
        .ok updates
  truncated : ∀ updates, updates <:+: all → ∀ text, text <+: render updates →
    text ≠ render updates → env.readJson (HttpParser.parseHttp text) = none

/-- The bot and the server. -/
structure Dialogue (σ : Type) where
  bot : Owned (TelegramBot σ)
  /-- the updates the server still has -/
  kept : List Update
  /-- what has yet to arrive of the answer on the current connection, if there is one -/
  reply : Option Str := none

inductive Turn where
  /-- an event of the bot other than data -/
  | bot (event : Event)
  /-- the server answers the request for updates of the current connection -/
  | answer (count : Nat)
  /-- the server answers another request -/
  | reply (text : Str)
  /-- a request sent earlier reaches the server, and the answer is lost -/
  | receive (place : Nat)
  /-- a part of the answer arrives -/
  | deliver (count : Nat)
  deriving DecidableEq, Repr

variable {σ : Type} {env : BotEnv} {handler : Option (TelegramBotHandler σ)}
  {render : List Update → Str} {s t : Owned (TelegramBot σ)} {c : HttpsClient}
  {all updates : List Update}

/-- The server discards the updates below the offset of a request, when it has one. -/
def discard (request : HttpRequest) (kept : List Update) : List Update :=
  match readOffset request with
  | none => kept
  | some offset => kept.filter fun update => decide (offset ≤ update.updateId)

/-- The request that has been sent on the current connection. -/
def inFlight (c : HttpsClient) : Option HttpRequest := do
  let connection ← c.journal.connections.getLast?
  let place ← connection.sent.head?
  if Owned.receives c.ssl then c.journal.queued[place]? else none

/-- A request that has been sent on some connection. -/
def sentRequest (place : Nat) (c : HttpsClient) : Option HttpRequest :=
  if c.journal.connections.any fun connection => connection.sent.contains place then
    c.journal.queued[place]?
  else none

/-- One turn of the dialogue. -/
def converse (env : BotEnv) (handler : Option (TelegramBotHandler σ)) (render : List Update → Str)
    (d : Dialogue σ) : Turn → Option (Dialogue σ)
  | .bot (.client (.data _)) => none
  | .bot (.client .connected) =>
      (step env handler d.bot (.client .connected)).map fun bot => { d with bot, reply := none }
  | .bot event => (step env handler d.bot event).map fun bot => { d with bot }
  | .answer count => do
      let request ← inFlight d.bot.client
      if request.tag = Tags.getUpdates ∧ d.reply = none then
        let kept := discard request d.kept
        some { d with kept, reply := some (render (kept.take count)) }
      else none
  | .reply text => do
      let request ← inFlight d.bot.client
      if request.tag ≠ Tags.getUpdates ∧ d.reply = none then some { d with reply := some text }
      else none
  | .receive place => do
      let request ← sentRequest place d.bot.client
      if request.tag = Tags.getUpdates then some { d with kept := discard request d.kept } else none
  | .deliver count => do
      let rest ← d.reply
      let bot ← step env handler d.bot (.client (.data (rest.take count)))
      some { d with bot, reply := some (rest.drop count) }

/-! ## The offset -/

theorem nextId_nonneg (feed : Feed all) (n : Nat) : 0 ≤ nextId (all.take n) := by
  unfold nextId
  cases last : (all.take n).getLast? with
  | none => exact Int.le_refl 0
  | some update =>
      have member := List.mem_of_mem_take (List.mem_of_getLast? last)
      have positive := (feed.small update member).1
      simp only [Option.map_some, Option.getD_some]
      omega

theorem feed_take_append (feed : Feed all) (n : Nat) :
    ∀ u ∈ all.take n, ∀ v ∈ all.drop n, u.updateId < v.updateId := by
  have increasing := feed.increasing
  rw [← List.take_append_drop n all, List.map_append, List.pairwise_append] at increasing
  intro u member v member'
  exact increasing.2.2 _ (List.mem_map_of_mem member) _ (List.mem_map_of_mem member')

/-- The updates before a place are those below its offset. -/
theorem lt_nextId (feed : Feed all) {n : Nat} :
    (∀ u ∈ all.take n, u.updateId < nextId (all.take n)) ∧
      ∀ v ∈ all.drop n, nextId (all.take n) ≤ v.updateId := by
  unfold nextId
  cases last : (all.take n).getLast? with
  | none =>
      rw [List.getLast?_eq_none_iff] at last
      refine ⟨fun u member => ?_, fun v member => ?_⟩
      · rw [last] at member
        cases member
      · exact Int.le_of_lt (feed.small v (List.mem_of_mem_drop member)).1
  | some final =>
      simp only [Option.map_some, Option.getD_some]
      refine ⟨fun u member => ?_, fun v member => ?_⟩
      · obtain ⟨front, split⟩ := List.getLast?_eq_some_iff.mp last
        have increasing := feed.increasing.sublist ((List.take_sublist n all).map _)
        rw [split, List.map_append, List.pairwise_append] at increasing
        rw [split] at member
        rcases List.mem_append.mp member with before | here
        · have less : u.updateId < final.updateId :=
            increasing.2.2 _ (List.mem_map_of_mem before) _ (by simp)
          omega
        · obtain rfl := List.mem_singleton.mp here
          omega
      · have less := feed_take_append feed n final (List.mem_of_getLast? last) v member
        omega

/-- What a request with the offset of a place leaves to the server. -/
theorem discard_drop (feed : Feed all) {request : HttpRequest} {n : Nat}
    (asks : Asks (nextId (all.take n)) request) (m : Nat) :
    discard request (all.drop m) = all.drop (max m n) := by
  obtain ⟨below, above⟩ := lt_nextId feed (n := n)
  unfold discard
  rw [asks.offset (nextId_nonneg feed n)]
  by_cases zero : nextId (all.take n) = 0
  · have empty : all.take n = [] := by
      by_contra nonempty
      obtain ⟨u, rest, split⟩ := List.exists_cons_of_ne_nil nonempty
      have member : u ∈ all.take n := by simp [split]
      have positive := (feed.small u (List.mem_of_mem_take member)).1
      have less := below u member
      omega
    simp only [zero, ne_eq, not_true_eq_false, if_false]
    rcases List.take_eq_nil_iff.mp empty with first | none
    · subst first
      rw [Nat.max_zero]
    · subst none
      simp
  · simp only [zero, ne_eq, not_false_eq_true, if_true]
    rcases Nat.le_total n m with past | future
    · rw [Nat.max_eq_left past]
      refine List.filter_eq_self.mpr fun v member => ?_
      have later : v ∈ all.drop n := by
        obtain ⟨k, rfl⟩ := Nat.exists_eq_add_of_le past
        rw [← List.drop_drop] at member
        exact List.mem_of_mem_drop member
      simpa using above v later
    · rw [Nat.max_eq_right future]
      have split : all.drop m = (all.take n).drop m ++ all.drop n := by
        have whole := List.take_append_drop (n - m) (all.drop m)
        rw [List.drop_drop, Nat.add_sub_cancel' future] at whole
        rw [List.drop_take]
        exact whole.symm
      rw [split, List.filter_append]
      have gone : ((all.take n).drop m).filter
          (fun update => decide (nextId (all.take n) ≤ update.updateId)) = [] := by
        refine List.filter_eq_nil_iff.mpr fun u member => ?_
        have less := below u (List.mem_of_mem_drop member)
        simpa using less
      have stays : (all.drop n).filter
          (fun update => decide (nextId (all.take n) ≤ update.updateId)) = all.drop n :=
        List.filter_eq_self.mpr fun v member => by simpa using above v member
      rw [gone, stays, List.nil_append]

/-- Handling the updates that come next advances the offset behind them. -/
theorem foldl_advance_nextId (feed : Feed all) {handled : List Update} (before : handled <+: all)
    (next : updates <+: all.drop handled.length) :
    updates.foldl advance (nextId handled) = nextId (handled ++ updates) ∧
      handled ++ updates <+: all := by
  obtain ⟨later, rfl⟩ := before
  rw [List.drop_left] at next
  have joined : handled ++ updates <+: handled ++ later := (List.prefix_append_right_inj _).mpr next
  refine ⟨?_, joined⟩
  have sublist : (updates.map (·.updateId)).Pairwise (· < ·) := by
    refine feed.increasing.sublist (List.Sublist.map _ ?_)
    exact next.sublist.trans (List.sublist_append_right handled later)
  have small : ∀ u ∈ updates, 0 < u.updateId ∧ u.updateId < 2 ^ 31 - 1 := fun u member =>
    feed.small u (List.mem_append_right _ (next.subset member))
  rw [foldl_advance sublist small]
  cases last : updates.getLast? with
  | none =>
      rw [List.getLast?_eq_none_iff] at last
      subst last
      simp
  | some final =>
      have member : final ∈ later := next.subset (List.mem_of_getLast? last)
      have bound := (lt_nextId (n := handled.length) feed).2
      rw [List.take_left, List.drop_left] at bound
      have less := bound final member
      have appended : nextId (handled ++ updates) = final.updateId + 1 := by
        simp [nextId, List.getLast?_append, last]
      rw [appended]
      simp only [Option.map_some, Option.getD_some]
      omega

/-! ## What the two agree on -/

/-- At most one request for updates is queued, at the front, with the current offset; all
others asked for updates from an earlier place on. -/
structure Asked (all handled : List Update) (queue queued : List HttpRequest) : Prop where
  front : ∀ request ∈ queue.head?, request.tag = Tags.getUpdates → Asks (nextId handled) request
  others : ∀ request ∈ queue.tail, request.tag ≠ Tags.getUpdates
  past : ∀ request ∈ queued, request.tag = Tags.getUpdates →
    ∃ n ≤ handled.length, Asks (nextId (all.take n)) request

/-- What is on its way to the bot continues what it has handled. -/
structure OnWire (render : List Update → Str) (all handled : List Update) (c : HttpsClient)
    (reply : Option Str) : Prop where
  silent : reply = none → c.response = []
  answer : ∀ rest, reply = some rest → ∀ request ∈ c.requestQueue.head?,
    request.tag = Tags.getUpdates →
    ∃ updates, updates <+: all.drop handled.length ∧ c.response ++ rest = render updates

structure Agreed (render : List Update → Str) (all : List Update) (d : Dialogue σ) : Prop where
  sound : HttpsClient.Sound d.bot.client
  enabled : d.bot.owner.enabled = true
  handled : d.bot.owner.handled <+: all
  offset : d.bot.owner.lastUpdateId = nextId d.bot.owner.handled
  asked : Asked all d.bot.owner.handled d.bot.client.requestQueue d.bot.client.journal.queued
  kept : ∃ m ≤ d.bot.owner.handled.length, d.kept = all.drop m
  onWire : Owned.receives d.bot.client.ssl = true →
    OnWire render all d.bot.owner.handled d.bot.client d.reply

/-- Queueing requests that are not for updates. -/
theorem Asked.outgoing {handled : List Update} {queue queued extra : List HttpRequest}
    (asked : Asked all handled queue queued) (outgoing : ∀ request ∈ extra, Outgoing request) :
    Asked all handled (queue ++ extra) (queued ++ extra) := by
  constructor
  · intro request member tag
    cases queue with
    | nil =>
        have member' : request ∈ extra := List.mem_of_mem_head? member
        exact absurd tag (outgoing request member').2
    | cons first rest => exact asked.front request member tag
  · intro request member
    cases queue with
    | nil => exact (outgoing request (List.mem_of_mem_tail member)).2
    | cons first rest =>
        rcases List.mem_append.mp member with before | new
        · exact asked.others request before
        · exact (outgoing request new).2
  · intro request member tag
    rcases List.mem_append.mp member with before | new
    · exact asked.past request before tag
    · exact absurd tag (outgoing request new).2

/-- A request with the current offset may be queued when there is no other. -/
theorem Asked.idle {handled : List Update} {queued : List HttpRequest} {request : HttpRequest}
    (asked : Asked all handled [] queued) (before : handled <+: all)
    (asks : Asks (nextId handled) request) :
    Asked all handled [request] (queued ++ [request]) := by
  have place : all.take handled.length = handled := by
    obtain ⟨later, rfl⟩ := before
    exact List.take_left
  constructor
  · rintro other member -
    cases member
    exact asks
  · nofun
  · intro other member tag
    rcases List.mem_append.mp member with old | new
    · exact asked.past other old tag
    · obtain rfl := List.mem_singleton.mp new
      exact ⟨handled.length, Nat.le_refl _, by rwa [place]⟩

/-! ## The ends of a connection -/

/-- What a connection that is over leaves: the front of `s` has been popped. -/
structure Popped (s t : Owned (TelegramBot σ)) : Prop where
  queue : t.client.requestQueue = s.client.requestQueue.tail
  queued : t.client.journal.queued = s.client.journal.queued
  ssl : t.client.ssl = s.client.ssl
  owner : t.owner = s.owner

theorem popped_pushQueue {timerFails : Nat → Bool} {byPeer : Bool} {d : HttpsClient}
    (popped : c.popFront byPeer = .ok d) (owner : TelegramBot σ) (response : Str) :
    Popped ⟨c, owner⟩ ⟨{ d with response }.pushQueue timerFails, owner⟩ := by
  unfold HttpsClient.popFront at popped
  split at popped
  · cases popped
  · rename_i request rest queue
    cases popped
    exact ⟨by simp [queue], by simp, by simp, rfl⟩

theorem handleTcpClientDisconnect_ok {closedByUser : Bool}
    (returned : Owned.handleTcpClientDisconnect env.httpsTimerFails (httpHandler env handler)
      closedByUser s = .ok t) :
    (closedByUser = true ∧ Popped ⟨{ s.client with ssl := .disconnected }, s.owner⟩ t) ∨
      (closedByUser = false ∧ ∃ request rest u, s.client.requestQueue = request :: rest ∧
        handleHttpClientResponse env handler request s.client.response
          ⟨{ s.client with ssl := .disconnected }.answer request, s.owner⟩ = .ok u ∧
        Popped u t) := by
  unfold Owned.handleTcpClientDisconnect at returned
  dsimp only at returned
  cases closedByUser with
  | true =>
      obtain ⟨_, same, returned⟩ := bind_eq_ok.mp returned
      obtain ⟨c, popped, returned⟩ := bind_eq_ok.mp returned
      cases same
      cases returned
      exact Or.inl ⟨rfl, popped_pushQueue popped _ _⟩
  | false =>
      obtain ⟨request, asked, returned⟩ := bind_eq_ok.mp returned
      obtain ⟨answered, handled, returned⟩ := bind_eq_ok.mp returned
      obtain ⟨c, popped, returned⟩ := bind_eq_ok.mp returned
      cases returned
      unfold HttpsClient.front at asked
      split at asked
      · cases asked
      · rename_i request rest queue
        cases asked
        exact Or.inr ⟨rfl, request, rest, answered, queue, handled, popped_pushQueue popped _ _⟩

theorem handleTcpClientError_ok {operationAborted : Bool}
    (returned : Owned.handleTcpClientError env.httpsTimerFails (httpHandler env handler)
      operationAborted s = .ok t) :
    (operationAborted = true ∧
        Popped ⟨{ s.client with ssl := .disconnected, response := [] }, s.owner⟩ t) ∨
      (operationAborted = false ∧ t = handleHttpClientError env
        ⟨{ s.client with ssl := .disconnected, response := [] }, s.owner⟩) := by
  unfold Owned.handleTcpClientError at returned
  dsimp only at returned
  split at returned
  · rename_i aborted
    obtain ⟨c, popped, returned⟩ := bind_eq_ok.mp returned
    cases returned
    exact Or.inl ⟨aborted, popped_pushQueue popped s.owner c.response⟩
  · rename_i live
    cases returned
    exact Or.inr ⟨by simpa using live, rfl⟩

/-! ## The turns -/

section Turns

variable {d d' : Dialogue σ}

theorem Asked.tail {handled handled' : List Update} {queue queued : List HttpRequest}
    (asked : Asked all handled queue queued) (grows : handled.length ≤ handled'.length) :
    Asked all handled' queue.tail queued := by
  constructor
  · intro request member tag
    exact absurd tag (asked.others request (List.mem_of_mem_head? member))
  · exact fun request member => asked.others request (List.mem_of_mem_tail member)
  · intro request member tag
    obtain ⟨n, within, asks⟩ := asked.past request member tag
    exact ⟨n, within.trans grows, asks⟩

theorem queue_ne_nil (sound : HttpsClient.Sound c) (receives : Owned.receives c.ssl = true) :
    c.requestQueue ≠ [] := by
  have promises := sound.promises
  revert receives promises
  cases c.ssl with
  | disconnected => nofun
  | connecting => nofun
  | connected => exact fun _ busy => busy.queue
  | disconnecting connected => exact fun _ both => both.1.queue
  | failed connected => exact fun _ busy => busy.queue

/-- The handler of the bot, or the application, makes some calls. -/
theorem Agreed.reacted (agreed : Agreed render all d)
    (owner : ∃ app waits armings, t.owner = { d.bot.owner with app, waits, armings })
    (queues : Queues env.httpsTimerFails Outgoing d.bot.client t.client) :
    Agreed render all { d with bot := t } := by
  obtain ⟨extra, extended⟩ := HttpsClient.exists_extended queues
  obtain ⟨app, waits, armings, owner⟩ := owner
  have sound : HttpsClient.Sound t.client := agreed.sound.queues queues
  have queued : t.client.journal.queued = d.bot.client.journal.queued ++ extra :=
    congrArg Journal.queued extended.journal
  constructor
  · exact sound
  · rw [owner]
    exact agreed.enabled
  · rw [owner]
    exact agreed.handled
  · rw [owner]
    exact agreed.offset
  · rw [owner, extended.requestQueue, queued]
    exact agreed.asked.outgoing extended.meets
  · rw [owner]
    exact agreed.kept
  · intro receives
    rw [owner]
    have receives : Owned.receives d.bot.client.ssl = true := extended.ssl ▸ receives
    have wire := agreed.onWire receives
    have nonempty := queue_ne_nil agreed.sound receives
    have head : t.client.requestQueue.head? = d.bot.client.requestQueue.head? := by
      rw [extended.requestQueue, List.head?_append_of_ne_nil _ nonempty]
    refine ⟨fun none' => extended.response.trans (wire.silent none'), fun rest some' => ?_⟩
    rw [head, extended.response]
    exact wire.answer rest some'

/-- A request has left the queue, unanswered. -/
theorem Agreed.popped (agreed : Agreed render all d) (sound : HttpsClient.Sound t.client)
    (popped : Popped ⟨{ c with ssl := .disconnected }, d.bot.owner⟩ t)
    (queue : c.requestQueue = d.bot.client.requestQueue)
    (queued : c.journal.queued = d.bot.client.journal.queued) :
    Agreed render all { d with bot := t } := by
  have owner : t.owner = d.bot.owner := popped.owner
  constructor
  · exact sound
  · exact owner ▸ agreed.enabled
  · exact owner ▸ agreed.handled
  · exact owner ▸ agreed.offset
  · rw [owner, popped.queue, popped.queued, queued]
    exact queue ▸ agreed.asked.tail (Nat.le_refl _)
  · exact owner ▸ agreed.kept
  · intro receives
    have receives : Owned.receives t.client.ssl = true := receives
    rw [popped.ssl] at receives
    cases receives

theorem decode_render (renders : Renders env.toPTreeEnv render all) (among : updates <:+: all) :
    decode env.toPTreeEnv (render updates) = updates ∨
      decode env.toPTreeEnv (render updates) = [] := by
  obtain ⟨json, result, decoded, found, parsed⟩ := renders.whole updates among
  have child : (json.getChild "result".toList >>= fun json =>
      TgTypeParser.parseJsonAndGetArray
        (TgTypeParser.parseJsonAndGetUpdate env.toPTreeEnv) json) = .ok updates := by
    refine bind_eq_ok.mpr ⟨result, ?_, parsed⟩
    unfold PTree.getChild
    rw [found]
  unfold decode
  dsimp only
  split
  · exact Or.inr rfl
  · rw [decoded]
    dsimp only
    split
    · exact Or.inr rfl
    · rw [child]
      exact Or.inl rfl

theorem decode_of_undecoded {text : Str}
    (undecoded : env.readJson (HttpParser.parseHttp text) = none) :
    decode env.toPTreeEnv text = [] := by
  unfold decode
  dsimp only
  split
  · rfl
  · rw [undecoded]

/-- What the bot takes out of what it has received continues what it has handled. -/
theorem OnWire.decode {handled : List Update} {reply : Option Str} {request : HttpRequest}
    (wire : OnWire render all handled c reply) (renders : Renders env.toPTreeEnv render all)
    (front : c.requestQueue.head? = some request) (asked : request.tag = Tags.getUpdates) :
    decode env.toPTreeEnv c.response <+: all.drop handled.length := by
  cases reply with
  | none =>
      have silent : TelegramBot.decode env.toPTreeEnv [] = [] := by simp [TelegramBot.decode]
      rw [wire.silent rfl, silent]
      exact List.nil_prefix
  | some rest =>
      obtain ⟨updates, next, text⟩ := wire.answer rest rfl request front asked
      have among : updates <:+: all := next.isInfix.trans (List.drop_suffix _ all).isInfix
      by_cases whole : c.response = render updates
      · rw [whole]
        rcases decode_render renders among with same | empty
        · rwa [same]
        · rw [empty]
          exact List.nil_prefix
      · rw [decode_of_undecoded (renders.truncated updates among c.response ⟨rest, text⟩ whole)]
        exact List.nil_prefix

/-- The response to the front of the queue has been handled. -/
theorem Agreed.answered (feed : Feed all) (renders : Renders env.toPTreeEnv render all)
    (agreed : Agreed render all d) (receives : Owned.receives d.bot.client.ssl = true)
    {request : HttpRequest} {rest : List HttpRequest} {u : Owned (TelegramBot σ)}
    (queue : d.bot.client.requestQueue = request :: rest)
    (handled : handleHttpClientResponse env handler request d.bot.client.response
      ⟨{ d.bot.client with ssl := .disconnected }.answer request, d.bot.owner⟩ = .ok u)
    (sound : HttpsClient.Sound t.client) (popped : Popped u t) :
    Agreed render all { d with bot := t } := by
  obtain ⟨updates, reacted, others, asks⟩ := handleHttpClientResponse_ok handled
  have next : updates <+: all.drop d.bot.owner.handled.length := by
    by_cases tag : request.tag = Tags.getUpdates
    · rw [asks tag agreed.enabled]
      exact (agreed.onWire receives).decode renders (by simp [queue]) tag
    · rw [others tag]
      exact List.nil_prefix
  obtain ⟨advanced, before⟩ := foldl_advance_nextId feed agreed.handled next
  obtain ⟨app, owner⟩ := reacted.owner
  obtain ⟨extra, extended⟩ := HttpsClient.exists_extended reacted.client
  have owner : t.owner = { consume updates d.bot.owner with app } := popped.owner.trans owner
  have grows : d.bot.owner.handled.length ≤ (d.bot.owner.handled ++ updates).length := by simp
  constructor
  · exact sound
  · rw [owner]
    exact agreed.enabled
  · rw [owner]
    exact before
  · rw [owner]
    exact (congrArg (updates.foldl advance) agreed.offset).trans advanced
  · rw [owner, popped.queue, popped.queued, extended.requestQueue, extended.journal]
    exact (agreed.asked.outgoing extended.meets).tail grows
  · rw [owner]
    obtain ⟨m, within, kept⟩ := agreed.kept
    exact ⟨m, within.trans grows, kept⟩
  · intro receives
    have receives : Owned.receives t.client.ssl = true := receives
    rw [popped.ssl, extended.ssl] at receives
    cases receives

/-- The connection changes its phase, and nothing else that matters here does. -/
theorem Agreed.phase (agreed : Agreed render all d) (sound : HttpsClient.Sound t.client)
    (owner : t.owner = d.bot.owner) (queue : t.client.requestQueue = d.bot.client.requestQueue)
    (queued : t.client.journal.queued = d.bot.client.journal.queued)
    (wire : Owned.receives t.client.ssl = true →
      Owned.receives d.bot.client.ssl = true ∧ t.client.response = d.bot.client.response) :
    Agreed render all { d with bot := t } := by
  constructor
  · exact sound
  · exact owner ▸ agreed.enabled
  · exact owner ▸ agreed.handled
  · exact owner ▸ agreed.offset
  · rw [owner, queue, queued]
    exact agreed.asked
  · exact owner ▸ agreed.kept
  · intro receives
    obtain ⟨receives, response⟩ := wire receives
    have before := agreed.onWire receives
    rw [owner]
    refine ⟨fun none' => response.trans (before.silent none'), ?_⟩
    rw [response, queue]
    exact before.answer

theorem queues_sendRequest (timerFails : Nat → Bool) (request : HttpRequest) (c : HttpsClient) :
    Queues timerFails (fun _ => True) c (c.sendRequest timerFails request) :=
  .sendRequest request .refl trivial

/-- The idle bot asks for the updates behind the last one it has handled. -/
theorem Agreed.idle (agreed : Agreed render all d) (queue : d.bot.client.requestQueue = []) :
    Agreed render all { d with bot := handleHttpClientIdle env d.bot } := by
  unfold handleHttpClientIdle
  rw [if_neg (by simp [agreed.enabled])]
  rcases getUpdates_cases env 100 60 d.bot with ⟨_, same⟩ | ⟨request, asks, queued⟩
  · rw [same]
    exact agreed
  · rw [queued]
    obtain ⟨extra, extended⟩ := HttpsClient.exists_extended
      (queues_sendRequest env.httpsTimerFails request d.bot.client)
    have sound := agreed.sound.extended extended
    have asks' : Asks (nextId d.bot.owner.handled) request := agreed.offset ▸ asks
    have asked := agreed.asked
    rw [queue] at asked
    constructor
    · exact sound
    · exact agreed.enabled
    · exact agreed.handled
    · exact agreed.offset
    · have queue' : (d.bot.client.sendRequest env.httpsTimerFails request).requestQueue =
          [request] := by
        simp [HttpsClient.sendRequest, queue]
      have queued' : (d.bot.client.sendRequest env.httpsTimerFails request).journal.queued =
          d.bot.client.journal.queued ++ [request] := by
        simp [HttpsClient.sendRequest]
      dsimp only
      rw [queue', queued']
      exact asked.idle agreed.handled asks'
    · exact agreed.kept
    · intro receives
      have receives : Owned.receives d.bot.client.ssl = true := extended.ssl ▸ receives
      exact absurd queue (queue_ne_nil agreed.sound receives)

theorem agreed_clientTimer (agreed : Agreed render all d) {accepted : Bool}
    (sound : HttpsClient.Sound t.client)
    (returned : Owned.handleTimerEvent (httpHandler env handler) accepted d.bot = .ok t) :
    Agreed render all { d with bot := t } := by
  unfold Owned.handleTimerEvent at returned
  dsimp only at returned
  split at returned
  · cases returned
    exact agreed.phase sound rfl rfl rfl fun receives => ⟨receives, rfl⟩
  · split at returned
    · obtain ⟨request, _, returned⟩ := bind_eq_ok.mp returned
      cases returned
      split at sound
      · rename_i silent
        rw [if_pos silent]
        refine agreed.phase sound rfl ?_ ?_ ?_ <;> unfold HttpsClient.disconnect <;> dsimp only
        · split <;> rfl
        · split <;> rfl
        · split
          · nofun
          · rename_i connected
            exact fun _ => ⟨by simp [connected, Owned.receives], rfl⟩
          · exact fun receives => ⟨receives, rfl⟩
      · rename_i waiting
        rw [if_neg waiting]
        exact agreed.phase sound rfl rfl rfl fun receives => ⟨receives, rfl⟩
    · split at returned
      · rename_i idle empty
        cases returned
        have queue : d.bot.client.requestQueue = [] := List.isEmpty_iff.mp empty
        have waited : Agreed render all
            { d with bot :=
              ⟨{ d.bot.client with waits := d.bot.client.waits - 1 }, d.bot.owner⟩ } :=
          agreed.phase (agreed.sound.waits _) rfl rfl rfl fun receives => ⟨receives, rfl⟩
        exact waited.idle queue
      · cases returned
        refine agreed.phase sound rfl ?_ ?_ ?_ <;> unfold HttpsClient.connect <;> dsimp only
        · split <;> rfl
        · split <;> rfl
        · split
          · nofun
          · exact fun receives => ⟨receives, rfl⟩

theorem agreed_ends (feed : Feed all) (renders : Renders env.toPTreeEnv render all)
    (agreed : Agreed render all d) (sound : HttpsClient.Sound t.client)
    (returned : Owned.handleEnd env.httpsTimerFails (httpHandler env handler) d.bot = some t) :
    Agreed render all { d with bot := t } := by
  unfold Owned.handleEnd at returned
  split at returned
  · rcases handleTcpClientDisconnect_ok (HttpsClient.ok_of_toOption returned) with
      ⟨_, popped⟩ | ⟨impossible, _⟩
    · exact agreed.popped sound popped rfl rfl
    · cases impossible
  · rcases handleTcpClientError_ok (HttpsClient.ok_of_toOption returned) with
      ⟨_, popped⟩ | ⟨impossible, _⟩
    · exact agreed.popped (c := { d.bot.client with response := [] }) sound popped rfl rfl
    · cases impossible
  · rename_i failed
    have receives : Owned.receives d.bot.client.ssl = true := by
      rw [failed]
      rfl
    rcases handleTcpClientDisconnect_ok (HttpsClient.ok_of_toOption returned) with
      ⟨impossible, _⟩ | ⟨_, request, rest, u, queue, handled, popped⟩
    · cases impossible
    · exact agreed.answered feed renders receives queue handled sound popped
  · rcases handleTcpClientError_ok (HttpsClient.ok_of_toOption returned) with
      ⟨impossible, _⟩ | ⟨_, rfl⟩
    · cases impossible
    · -- the request stays at the front and will be sent again
      have lost : Agreed render all { d with
          bot := ⟨{ d.bot.client with ssl := .disconnected, response := [] }, d.bot.owner⟩ } := by
        refine agreed.phase ?_ rfl rfl rfl nofun
        exact ⟨agreed.sound.fifo, agreed.sound.recorded⟩
      obtain ⟨client, owner⟩ := handleHttpClientError_cases env
        ⟨{ d.bot.client with ssl := .disconnected, response := [] }, d.bot.owner⟩
      have queues : Queues env.httpsTimerFails Outgoing
          { d.bot.client with ssl := .disconnected, response := [] }
          (handleHttpClientError env
            ⟨{ d.bot.client with ssl := .disconnected, response := [] }, d.bot.owner⟩).client := by
        rw [client]
        exact .refl
      refine lost.reacted ?_ queues
      rcases owner with same | armed | waiting
      · exact ⟨d.bot.owner.app, d.bot.owner.waits, d.bot.owner.armings, same⟩
      · exact ⟨d.bot.owner.app, d.bot.owner.waits, _, armed⟩
      · exact ⟨d.bot.owner.app, _, _, waiting⟩
  · cases returned

theorem busy_of_receives (sound : HttpsClient.Sound c) (receives : Owned.receives c.ssl = true) :
    HttpsClient.Busy c true := by
  have promises := sound.promises
  revert receives promises
  cases c.ssl with
  | disconnected => nofun
  | connecting => nofun
  | connected => exact fun _ busy => busy
  | disconnecting connected => cases connected <;> [nofun; exact fun _ both => both.1]
  | failed connected => cases connected <;> [nofun; exact fun _ busy => busy]

/-- The request in flight is the front of the queue. -/
theorem front_of_inFlight (sound : HttpsClient.Sound c) {request : HttpRequest}
    (flies : inFlight c = some request) :
    Owned.receives c.ssl = true ∧ c.requestQueue.head? = some request := by
  obtain ⟨connection, last, flies⟩ := Option.bind_eq_some_iff.mp flies
  obtain ⟨place, sent, flies⟩ := Option.bind_eq_some_iff.mp flies
  split at flies
  · rename_i receives
    refine ⟨receives, ?_⟩
    obtain ⟨old, current, connections, _, only, _⟩ := (busy_of_receives sound receives).connection
    rw [connections, List.getLast?_concat] at last
    cases last
    rw [only] at sent
    cases sent
    rw [sound.fifo, List.getElem?_append_right (by simp)] at flies
    simpa [List.head?_eq_getElem?] using flies
  · cases flies

/-- A request that has been sent is one that was queued. -/
theorem mem_of_sentRequest {place : Nat} {request : HttpRequest}
    (sent : sentRequest place c = some request) : request ∈ c.journal.queued := by
  unfold sentRequest at sent
  split at sent
  · exact List.mem_of_getElem? sent
  · cases sent

/-- A request for updates reaches the server. -/
theorem Agreed.discard (feed : Feed all) (agreed : Agreed render all d) {request : HttpRequest}
    (queued : request ∈ d.bot.client.journal.queued) (tag : request.tag = Tags.getUpdates) :
    ∃ m ≤ d.bot.owner.handled.length, TelegramBot.discard request d.kept = all.drop m := by
  obtain ⟨n, within, asks⟩ := agreed.asked.past request queued tag
  obtain ⟨m, within', kept⟩ := agreed.kept
  refine ⟨max m n, Nat.max_le.mpr ⟨within', within⟩, ?_⟩
  rw [kept]
  exact discard_drop feed asks m

/-- The answer to the front continues what has been handled. -/
theorem Agreed.answer (feed : Feed all) (agreed : Agreed render all d) {request : HttpRequest}
    (front : d.bot.client.requestQueue.head? = some request)
    (tag : request.tag = Tags.getUpdates) :
    TelegramBot.discard request d.kept = all.drop d.bot.owner.handled.length := by
  have asks := agreed.asked.front request front tag
  obtain ⟨m, within, kept⟩ := agreed.kept
  have place : all.take d.bot.owner.handled.length = d.bot.owner.handled := by
    obtain ⟨later, whole⟩ := agreed.handled
    rw [← whole]
    exact List.take_left
  rw [← place] at asks
  rw [kept, discard_drop feed asks, Nat.max_eq_right within]

theorem sound_client {e : Owned.Event} (sound : HttpsClient.Sound s.client)
    (taken : step env handler s (.client e) = some t) : HttpsClient.Sound t.client := by
  have polite : Polite env.httpsTimerFails (httpHandler env handler) := polite_httpHandler
  cases e with
  | call call => cases taken
  | timer accepted => exact HttpsClient.sound_step (e := .timer accepted) polite sound taken
  | connected => exact HttpsClient.sound_step (e := .connected) polite sound taken
  | breaks => exact HttpsClient.sound_step (e := .breaks) polite sound taken
  | data data => exact HttpsClient.sound_step (e := .data data) polite sound taken
  | ends => exact HttpsClient.sound_step (e := .ends) polite sound taken

theorem agreed_bot (feed : Feed all) (renders : Renders env.toPTreeEnv render all)
    (agreed : Agreed render all d) {event : Event} (noData : ∀ data, event ≠ .client (.data data))
    (noConnect : event ≠ .client .connected) (taken : step env handler d.bot event = some t) :
    Agreed render all { d with bot := t } := by
  cases event with
  | timer =>
      simp only [step] at taken
      split at taken
      · cases taken
      · cases taken
        unfold handleTimerEvent
        rw [if_pos agreed.enabled]
        have queues : Queues env.httpsTimerFails Outgoing d.bot.client
            (d.bot.client.pushQueue env.httpsTimerFails) := .pushQueue .refl
        exact agreed.reacted ⟨d.bot.owner.app, _, d.bot.owner.armings, rfl⟩ queues
  | call call =>
      cases taken
      obtain ⟨owner, queues⟩ := perform_queues env call d.bot
      exact agreed.reacted ⟨d.bot.owner.app, d.bot.owner.waits, d.bot.owner.armings, owner⟩ queues
  | getMe =>
      cases taken
      obtain ⟨owner, queues⟩ := getMe_queues env d.bot
      exact agreed.reacted ⟨d.bot.owner.app, d.bot.owner.waits, d.bot.owner.armings, owner⟩ queues
  | client event =>
      cases event with
      | call call => cases taken
      | connected => exact absurd rfl noConnect
      | data data => exact absurd rfl (noData data)
      | timer accepted =>
          have sound := sound_client agreed.sound taken
          simp only [step, Owned.step] at taken
          split at taken
          · cases taken
          · exact agreed_clientTimer agreed sound (HttpsClient.ok_of_toOption taken)
      | breaks =>
          have sound := sound_client agreed.sound taken
          simp only [step, Owned.step] at taken
          split at taken
          · cases taken
            exact agreed.phase sound rfl rfl rfl fun receives => absurd receives Bool.false_ne_true
          · rename_i connected
            cases taken
            exact agreed.phase sound rfl rfl rfl fun _ => ⟨by simp [connected, Owned.receives], rfl⟩
          · cases taken
      | ends =>
          have sound := sound_client agreed.sound taken
          exact agreed_ends feed renders agreed sound taken

theorem agreed_connected (agreed : Agreed render all d)
    (taken : step env handler d.bot (.client .connected) = some t) :
    Agreed render all { d with bot := t, reply := none } := by
  have sound := sound_client agreed.sound taken
  simp only [step, Owned.step] at taken
  split at taken
  · rename_i connecting
    cases taken
    have queue : (Owned.handleTcpClientConnect d.bot).client.requestQueue =
        d.bot.client.requestQueue := by
      unfold Owned.handleTcpClientConnect HttpsClient.sendFront HttpsClient.modifyConnection
      dsimp only
      split <;> rfl
    have queued : (Owned.handleTcpClientConnect d.bot).client.journal.queued =
        d.bot.client.journal.queued := by
      unfold Owned.handleTcpClientConnect HttpsClient.sendFront HttpsClient.modifyConnection
      dsimp only
      split <;> rfl
    have owner : (Owned.handleTcpClientConnect d.bot).owner = d.bot.owner := by
      unfold Owned.handleTcpClientConnect
      dsimp only
      split <;> rfl
    have response : (Owned.handleTcpClientConnect d.bot).client.response = [] := by
      unfold Owned.handleTcpClientConnect HttpsClient.sendFront HttpsClient.modifyConnection
      dsimp only
      split <;> rfl
    constructor
    · exact sound
    · exact owner ▸ agreed.enabled
    · exact owner ▸ agreed.handled
    · exact owner ▸ agreed.offset
    · dsimp only
      rw [owner, queue, queued]
      exact agreed.asked
    · exact owner ▸ agreed.kept
    · exact fun _ =>
        ⟨fun _ => response, fun rest same => absurd same.symm (Option.some_ne_none rest)⟩
  · cases taken

theorem agreed_deliver (agreed : Agreed render all d) {rest : Str} {count : Nat}
    (open' : d.reply = some rest)
    (taken : step env handler d.bot (.client (.data (rest.take count))) = some t) :
    Agreed render all { d with bot := t, reply := some (rest.drop count) } := by
  have sound := sound_client agreed.sound taken
  simp only [step, Owned.step] at taken
  split at taken
  · rename_i receives
    cases taken
    obtain ⟨_, answer⟩ := agreed.onWire receives
    refine ⟨sound, agreed.enabled, agreed.handled, agreed.offset, agreed.asked, agreed.kept, ?_⟩
    refine fun _ => ⟨fun missing => absurd missing (Option.some_ne_none _),
      fun rest' same request front tag => ?_⟩
    cases same
    obtain ⟨updates, next, text⟩ := answer rest open' request front tag
    refine ⟨updates, next, ?_⟩
    unfold Owned.handleTcpClientReceivedData HttpsClient.modifyConnection
    dsimp only
    rw [List.append_assoc, List.take_append_drop, text]
  · cases taken

theorem agreed_step (feed : Feed all) (renders : Renders env.toPTreeEnv render all)
    (agreed : Agreed render all d) {turn : Turn}
    (taken : converse env handler render d turn = some d') : Agreed render all d' := by
  cases turn with
  | bot event =>
      unfold converse at taken
      split at taken
      · cases taken
      · rename_i same
        cases same
        obtain ⟨t, stepped, rfl⟩ := Option.map_eq_some_iff.mp taken
        exact agreed_connected agreed stepped
      · rename_i noData noConnect same
        cases same
        obtain ⟨t, stepped, rfl⟩ := Option.map_eq_some_iff.mp taken
        exact agreed_bot feed renders agreed noData noConnect stepped
      all_goals contradiction
  | answer count =>
      obtain ⟨request, flies, taken⟩ := Option.bind_eq_some_iff.mp taken
      split at taken
      · rename_i fresh
        cases taken
        obtain ⟨receives, front⟩ := front_of_inFlight agreed.sound flies
        have kept := agreed.answer feed front fresh.1
        refine ⟨agreed.sound, agreed.enabled, agreed.handled, agreed.offset, agreed.asked, ?_, ?_⟩
        · exact ⟨_, Nat.le_refl _, kept⟩
        · refine fun _ => ⟨nofun, fun rest same other front' tag => ?_⟩
          cases same
          refine ⟨(discard request d.kept).take count, ?_, ?_⟩
          · rw [kept]
            exact List.take_prefix count _
          · rw [(agreed.onWire receives).silent fresh.2, List.nil_append]
      · cases taken
  | reply text =>
      obtain ⟨request, flies, taken⟩ := Option.bind_eq_some_iff.mp taken
      split at taken
      · rename_i other
        cases taken
        obtain ⟨receives, front⟩ := front_of_inFlight agreed.sound flies
        refine ⟨agreed.sound, agreed.enabled, agreed.handled, agreed.offset, agreed.asked,
          agreed.kept, fun _ => ⟨nofun, fun rest same request' front' tag => ?_⟩⟩
        rw [front] at front'
        cases front'
        exact absurd tag other.1
      · cases taken
  | receive place =>
      obtain ⟨request, sent, taken⟩ := Option.bind_eq_some_iff.mp taken
      split at taken
      · rename_i tag
        cases taken
        exact { agreed with kept := agreed.discard feed (mem_of_sentRequest sent) tag }
      · cases taken
  | deliver count =>
      obtain ⟨rest, open', taken⟩ := Option.bind_eq_some_iff.mp taken
      obtain ⟨t, stepped, same⟩ := Option.bind_eq_some_iff.mp taken
      cases same
      exact agreed_deliver agreed open' stepped

theorem agreed_run (feed : Feed all) (renders : Renders env.toPTreeEnv render all)
    {turns : List Turn} (run : Run (converse env handler render) d turns d')
    (agreed : Agreed render all d) : Agreed render all d' :=
  run.invariant (fun agreed taken => agreed_step feed renders agreed taken) agreed

/-- The bot after `start()`, and the server with all its updates. -/
theorem agreed_start (env : BotEnv) (render : List Update → Str) (all : List Update)
    {bot : TelegramBot σ} (unhandled : bot.handled = []) (first : bot.lastUpdateId = 0) :
    Agreed render all { bot := start env (fresh bot), kept := all } := by
  have off : Agreed render all
      { bot := fresh { bot with enabled := true }, kept := all : Dialogue σ } := by
    refine ⟨HttpsClient.sound_init, rfl, ?_, ?_, ⟨nofun, nofun, nofun⟩,
      ⟨0, Nat.zero_le _, rfl⟩, nofun⟩
    · exact unhandled ▸ List.nil_prefix
    · simp [fresh, unhandled, first, nextId]
  exact off.idle rfl

/-- What is passed to `handleUpdate` since `start()` is always a prefix of the server's
updates. -/
theorem handled_isPrefix (feed : Feed all) (renders : Renders env.toPTreeEnv render all)
    {bot : TelegramBot σ} (unhandled : bot.handled = []) (first : bot.lastUpdateId = 0)
    {turns : List Turn} {d : Dialogue σ}
    (run : Run (converse env handler render) { bot := start env (fresh bot), kept := all } turns
      d) :
    d.bot.owner.handled <+: all :=
  (agreed_run feed renders run (agreed_start env render all unhandled first)).handled

/-- An update without content. -/
def bareUpdate : Update where
  updateId := 1
  message := none
  editedMessage := none
  channelPost := none
  editedChannelPost := none
  inlineQuery := none
  chosenInlineResult := none
  callbackQuery := none

/-- `{"ok":true,"result":[..]}` with the update or without it. -/
def bareBody (updates : List Update) : Str :=
  ("\x7b\"ok\":true,\"result\":[" ++
    (if updates = [] then "" else "\x7b\"update_id\":1\x7d") ++ "]\x7d").toList

def bareTree (updates : List Update) : PTree :=
  jsonObject [("ok", jsonLeaf "true"), ("result", jsonArray
    (if updates = [] then [] else [jsonObject [("update_id", jsonLeaf "1")]]))]

def bareEnv : BotEnv :=
  sampleBot [(bareBody [], bareTree []), (bareBody [bareUpdate], bareTree [bareUpdate])]

def bareRender (updates : List Update) : Str :=
  HttpParser.response ["HTTP/1.1 200 OK".toList] (bareBody updates)

theorem bare_renders : Renders bareEnv.toPTreeEnv bareRender [bareUpdate] := by
  have among : ∀ updates, updates <:+: [bareUpdate] → updates = [] ∨ updates = [bareUpdate] := by
    intro updates infix'
    rcases List.sublist_singleton.mp infix'.sublist with h | h
    · exact Or.inl h
    · exact Or.inr h
  constructor
  · intro updates inside
    rcases among updates inside with rfl | rfl
    · exact ⟨bareTree [], jsonArray [], by rfl, by rfl, by rfl⟩
    · exact ⟨bareTree [bareUpdate], _, by rfl, by rfl, by rfl⟩
  · intro updates inside text isPrefix proper
    rcases among updates inside with rfl | rfl
    · have all : ∀ text ∈ (bareRender []).inits, text ≠ bareRender [] →
          bareEnv.readJson (HttpParser.parseHttp text) = none := by decide +kernel
      exact all text ((List.mem_inits _ _).mpr isPrefix) proper
    · have all : ∀ text ∈ (bareRender [bareUpdate]).inits, text ≠ bareRender [bareUpdate] →
          bareEnv.readJson (HttpParser.parseHttp text) = none := by decide +kernel
      exact all text ((List.mem_inits _ _).mpr isPrefix) proper

/-- The whole answer arrives, and the update is handled. -/
theorem handled_isPrefix_bare :
    ∃ d, Run (converse bareEnv (none : Option (TelegramBotHandler Unit)) bareRender)
        { bot := start bareEnv (fresh { apiUrl := ['u'], token := ['t'], app := () })
          kept := [bareUpdate] }
        [.bot (.client (.timer true)), .bot (.client .connected), .answer 1, .deliver 80,
          .bot (.client .breaks), .bot (.client .ends)] d ∧
      d.bot.owner.handled <+: [bareUpdate] := by
  have exists_run : ∃ d, Run
      (converse bareEnv (none : Option (TelegramBotHandler Unit)) bareRender)
      { bot := start bareEnv (fresh { apiUrl := ['u'], token := ['t'], app := () })
        kept := [bareUpdate] }
      [.bot (.client (.timer true)), .bot (.client .connected), .answer 1, .deliver 80,
        .bot (.client .breaks), .bot (.client .ends)] d := ⟨_, .of_foldlM rfl⟩
  obtain ⟨d, run⟩ := exists_run
  have feed : Feed [bareUpdate] := ⟨by decide, by decide⟩
  exact ⟨d, run, handled_isPrefix feed bare_renders rfl rfl run⟩

end Turns

end TelegramBot

end GpsInformer
