import GpsInformer.BotEffects

/-!
# The polling loop never runs dry

The bot on its `HttpsClient`, between its handlers.  Whoever is to take the next step is
`Pending`: a connection, a wait of `HttpsClient::_timer` or a wait of
`TelegramBot::_timer`.  Every handler leaves one of the three (`pending_step`).
-/

namespace GpsInformer

open Lib

namespace TelegramBot

/-- What can happen to the bot between its handlers. -/
inductive Event where
  /-- an event of its `HttpsClient`, on which nobody else calls anything -/
  | client (event : Owned.Event)
  /-- a wait of `_timer` ends -/
  | timer
  /-- a call by the application -/
  | call (call : TelegramCall)
  | getMe
  deriving DecidableEq, Repr

/-- One event; an exception that leaves a handler ends the run. -/
def step {σ : Type} (env : BotEnv) (handler : Option (TelegramBotHandler σ))
    (s : Owned (TelegramBot σ)) : Event → Option (Owned (TelegramBot σ))
  | .client (.call _) => none
  | .client event => Owned.step env.httpsTimerFails (httpHandler env handler) s event
  | .timer => if s.owner.waits = 0 then none else some (handleTimerEvent env s)
  | .call call => some (perform env s call)
  | .getMe => some (getMe env s)

variable {σ : Type} {env : BotEnv} {handler : Option (TelegramBotHandler σ)}
  {s t : Owned (TelegramBot σ)} {c d : HttpsClient}

/-- The bot is on, knows where to send its requests and retries after an error. -/
structure Configured (bot : TelegramBot σ) : Prop where
  enabled : bot.enabled = true
  apiUrl : bot.apiUrl ≠ []
  token : bot.token ≠ []
  timerDelay : 1 ≤ bot.timerDelay

/-- Something will call one of the handlers. -/
def Pending (s : Owned (TelegramBot σ)) : Prop :=
  s.client.ssl ≠ .disconnected ∨ 0 < s.client.waits ∨ 0 < s.owner.waits

/-- `expires_from_now` does not fail on either timer. -/
structure TimersWork (env : BotEnv) : Prop where
  bot : ∀ n, env.timerFails n = false
  client : ∀ n, env.httpsTimerFails n = false

theorem pushQueue_waits {timerFails : Nat → Bool} (works : ∀ n, timerFails n = false)
    (c : HttpsClient) : (c.pushQueue timerFails).waits = c.waits + 1 := by
  unfold HttpsClient.pushQueue
  simp [works]

theorem sendRequest_waits {timerFails : Nat → Bool} (works : ∀ n, timerFails n = false)
    (request : HttpRequest) (c : HttpsClient) :
    (c.sendRequest timerFails request).waits = c.waits + 1 :=
  pushQueue_waits works _

theorem queues_waits {timerFails : Nat → Bool} (works : ∀ n, timerFails n = false)
    {p : HttpRequest → Prop} (queues : Queues timerFails p c d) : c.waits ≤ d.waits := by
  induction queues with
  | refl => exact Nat.le_refl _
  | sendRequest request _ _ ih =>
      exact Nat.le_succ_of_le ih |>.trans (sendRequest_waits works _ _).ge
  | pushQueue _ ih => exact Nat.le_succ_of_le ih |>.trans (pushQueue_waits works _).ge

/-- Queueing requests takes away nothing that is pending. -/
theorem Pending.queues {p : HttpRequest → Prop} (works : TimersWork env) (pending : Pending s)
    (queues : Queues env.httpsTimerFails p s.client t.client)
    (waits : t.owner.waits = s.owner.waits) :
    Pending t := by
  obtain ⟨extra, extended⟩ := HttpsClient.exists_extended queues
  rcases pending with open' | waiting | retrying
  · exact Or.inl (extended.ssl ▸ open')
  · exact Or.inr (Or.inl (Nat.lt_of_lt_of_le waiting (queues_waits works.client queues)))
  · exact Or.inr (Or.inr (waits ▸ retrying))

theorem Reacted.configured (reacted : Reacted env s t) (configured : Configured s.owner) :
    Configured t.owner := by
  obtain ⟨app, owner⟩ := reacted.owner
  rw [owner]
  exact ⟨configured.enabled, configured.apiUrl, configured.token, configured.timerDelay⟩

theorem Configured.consume (configured : Configured s.owner) (updates : List TgBot.Update) :
    Configured (consume updates s.owner) :=
  ⟨configured.enabled, configured.apiUrl, configured.token, configured.timerDelay⟩

/-- The idle bot asks for updates. -/
theorem handleHttpClientIdle_pending (works : TimersWork env) (configured : Configured s.owner) :
    Configured (handleHttpClientIdle env s).owner ∧ Pending (handleHttpClientIdle env s) := by
  unfold handleHttpClientIdle
  rw [if_neg (by simp [configured.enabled])]
  rcases getUpdates_cases env 100 60 s with ⟨silent | silent | silent, _⟩ | ⟨request, _, queued⟩
  · cases silent.symm.trans configured.enabled
  · exact absurd silent configured.apiUrl
  · exact absurd silent configured.token
  · rw [queued]
    refine ⟨configured, Or.inr (Or.inl ?_)⟩
    rw [sendRequest_waits works.client]
    exact Nat.succ_pos _

/-- After an error the bot waits before it tries again. -/
theorem handleHttpClientError_pending (works : TimersWork env) (configured : Configured s.owner) :
    Configured (handleHttpClientError env s).owner ∧ Pending (handleHttpClientError env s) := by
  have slow : ¬ s.owner.timerDelay < 1 := by
    have := configured.timerDelay
    omega
  unfold handleHttpClientError
  simp only [configured.enabled, works.bot, slow, Bool.not_true, Bool.false_eq_true, or_self,
    if_false]
  refine ⟨?_, Or.inr (Or.inr (Nat.succ_pos _))⟩
  exact ⟨rfl, configured.apiUrl, configured.token, configured.timerDelay⟩

theorem handleTcpClientDisconnect_pending (works : TimersWork env)
    (configured : Configured s.owner) {closedByUser : Bool}
    (returned : Owned.handleTcpClientDisconnect env.httpsTimerFails (httpHandler env handler)
      closedByUser s = .ok t) :
    Configured t.owner ∧ Pending t := by
  unfold Owned.handleTcpClientDisconnect at returned
  dsimp only at returned
  have pushed : ∀ {u : Owned (TelegramBot σ)} {c : HttpsClient}, Configured u.owner →
      Configured u.owner ∧ Pending (⟨c.pushQueue env.httpsTimerFails, u.owner⟩ : Owned _) := by
    intro u c configured
    refine ⟨configured, Or.inr (Or.inl ?_)⟩
    rw [pushQueue_waits works.client]
    exact Nat.succ_pos _
  cases closedByUser with
  | true =>
      obtain ⟨_, same, returned⟩ := bind_eq_ok.mp returned
      obtain ⟨c, _, returned⟩ := bind_eq_ok.mp returned
      cases same
      cases returned
      exact pushed configured
  | false =>
      obtain ⟨request, _, returned⟩ := bind_eq_ok.mp returned
      obtain ⟨answered, handled, returned⟩ := bind_eq_ok.mp returned
      obtain ⟨c, _, returned⟩ := bind_eq_ok.mp returned
      cases returned
      obtain ⟨updates, reacted, _⟩ := handleHttpClientResponse_ok handled
      exact pushed (reacted.configured (Configured.consume configured updates))

theorem handleTcpClientError_pending (works : TimersWork env) (configured : Configured s.owner)
    {operationAborted : Bool}
    (returned : Owned.handleTcpClientError env.httpsTimerFails (httpHandler env handler)
      operationAborted s = .ok t) :
    Configured t.owner ∧ Pending t := by
  unfold Owned.handleTcpClientError at returned
  dsimp only at returned
  split at returned
  · obtain ⟨c, _, returned⟩ := bind_eq_ok.mp returned
    cases returned
    refine ⟨configured, Or.inr (Or.inl ?_)⟩
    rw [pushQueue_waits works.client]
    exact Nat.succ_pos _
  · cases returned
    exact handleHttpClientError_pending works configured

theorem handleClientTimer_pending (works : TimersWork env) (configured : Configured s.owner)
    (returned : Owned.handleTimerEvent (httpHandler env handler) true s = .ok t) :
    Configured t.owner ∧ Pending t := by
  unfold Owned.handleTimerEvent at returned
  dsimp only at returned
  split at returned
  · rename_i disconnecting
    cases returned
    refine ⟨configured, Or.inl fun disconnected => ?_⟩
    have disconnected : s.client.ssl = .disconnected := disconnected
    simp [HttpsClient.isDisconnecting, disconnected] at disconnecting
  · split at returned
    · rename_i busy
      obtain ⟨request, _, returned⟩ := bind_eq_ok.mp returned
      cases returned
      have open' : s.client.ssl = .connecting ∨ s.client.ssl = .connected := by
        simpa [HttpsClient.isConnecting, HttpsClient.isConnected] using busy
      split
      · refine ⟨configured, Or.inl ?_⟩
        rcases open' with phase | phase <;> simp [HttpsClient.disconnect, phase]
      · refine ⟨configured, Or.inl ?_⟩
        rcases open' with phase | phase <;> simp [phase]
    · split at returned
      · cases returned
        exact handleHttpClientIdle_pending works configured
      · cases returned
        refine ⟨configured, Or.inl ?_⟩
        by_cases disconnected : s.client.ssl = .disconnected
        · simp [HttpsClient.connect, disconnected]
        · simp [HttpsClient.connect, disconnected]

/-- A call by the application only queues a request. -/
theorem call_pending (works : TimersWork env) (configured : Configured s.owner)
    (pending : Pending s) (owner : t.owner = s.owner)
    (queues : Queues env.httpsTimerFails Outgoing s.client t.client) :
    Configured t.owner ∧ Pending t :=
  ⟨owner ▸ configured, pending.queues works queues (congrArg TelegramBot.waits owner)⟩

/-- Every event of the `HttpsClient` on which nobody calls anything does. -/
theorem client_pending (works : TimersWork env) {e : Owned.Event} (accepted : e ≠ .timer false)
    (configured : Configured s.owner) (taken : step env handler s (.client e) = some t) :
    Configured t.owner ∧ Pending t := by
  cases e with
  | call call => cases taken
  | timer accept =>
      have accept_eq : accept = true := by simpa using accepted
      subst accept_eq
      simp only [step, Owned.step] at taken
      split at taken
      · cases taken
      · exact handleClientTimer_pending works configured (HttpsClient.ok_of_toOption taken)
  | connected =>
      simp only [step, Owned.step] at taken
      split at taken
      · cases taken
        refine ⟨?_, Or.inl ?_⟩
        · unfold Owned.handleTcpClientConnect
          dsimp only
          split <;> exact configured
        · unfold Owned.handleTcpClientConnect HttpsClient.sendFront HttpsClient.modifyConnection
          dsimp only
          split <;> simp
      · cases taken
  | breaks =>
      simp only [step, Owned.step] at taken
      split at taken
      · cases taken
        exact ⟨configured, Or.inl SslPhase.noConfusion⟩
      · cases taken
        exact ⟨configured, Or.inl SslPhase.noConfusion⟩
      · cases taken
  | data data =>
      simp only [step, Owned.step] at taken
      split at taken
      · rename_i receives
        cases taken
        refine ⟨configured, Or.inl fun disconnected => ?_⟩
        have disconnected : s.client.ssl = .disconnected := disconnected
        rw [disconnected] at receives
        cases receives
      · cases taken
  | ends =>
      simp only [step, Owned.step, Owned.handleEnd] at taken
      split at taken
      · exact handleTcpClientDisconnect_pending works configured
          (HttpsClient.ok_of_toOption taken)
      · exact handleTcpClientError_pending works configured (HttpsClient.ok_of_toOption taken)
      · exact handleTcpClientDisconnect_pending works configured
          (HttpsClient.ok_of_toOption taken)
      · exact handleTcpClientError_pending works configured (HttpsClient.ok_of_toOption taken)
      · cases taken

/-- Every event leaves something pending. -/
theorem pending_step (works : TimersWork env) {e : Event} (accepted : e ≠ .client (.timer false))
    (configured : Configured s.owner) (pending : Pending s)
    (taken : step env handler s e = some t) : Configured t.owner ∧ Pending t := by
  cases e with
  | timer =>
      simp only [step] at taken
      split at taken
      · cases taken
      · cases taken
        unfold handleTimerEvent
        rw [if_pos configured.enabled]
        refine ⟨?_, Or.inr (Or.inl ?_)⟩
        · exact ⟨configured.enabled, configured.apiUrl, configured.token, configured.timerDelay⟩
        · dsimp only
          rw [pushQueue_waits works.client]
          exact Nat.succ_pos _
  | call call =>
      cases taken
      obtain ⟨owner, queues⟩ := perform_queues env call s
      exact call_pending works configured pending owner queues
  | getMe =>
      cases taken
      obtain ⟨owner, queues⟩ := getMe_queues env s
      exact call_pending works configured pending owner queues
  | client e =>
      have accepted' : e ≠ .timer false := fun same => accepted (congrArg Event.client same)
      exact client_pending works accepted' configured taken

/-- The bot before `start()`. -/
def fresh (bot : TelegramBot σ) : Owned (TelegramBot σ) := ⟨{}, bot⟩

theorem pending_start (works : TimersWork env) {bot : TelegramBot σ} (apiUrl : bot.apiUrl ≠ [])
    (token : bot.token ≠ []) (timerDelay : 1 ≤ bot.timerDelay) :
    Configured (start env (fresh bot)).owner ∧ Pending (start env (fresh bot)) :=
  handleHttpClientIdle_pending works ⟨rfl, apiUrl, token, timerDelay⟩

theorem pending_run (works : TimersWork env) {es : List Event}
    (accepted : Event.client (.timer false) ∉ es) (run : Run (step env handler) s es t)
    (configured : Configured s.owner) (pending : Pending s) : Pending t := by
  induction run with
  | nil => exact pending
  | cons first _ ih =>
      obtain ⟨configured', pending'⟩ :=
        pending_step works (fun same => accepted (same ▸ List.mem_cons_self)) configured pending
          first
      exact ih (fun later => accepted (List.mem_cons_of_mem _ later)) configured' pending'

/-- In every state after `start()` a connection or a wait of one of the two timers is
pending. -/
theorem polling_never_runs_dry (works : TimersWork env) {bot : TelegramBot σ}
    (apiUrl : bot.apiUrl ≠ []) (token : bot.token ≠ []) (timerDelay : 1 ≤ bot.timerDelay)
    {es : List Event} (accepted : Event.client (.timer false) ∉ es) {t : Owned (TelegramBot σ)}
    (run : Run (step env handler) (start env (fresh bot)) es t) : Pending t := by
  obtain ⟨configured, pending⟩ := pending_start works apiUrl token timerDelay
  exact pending_run works accepted run configured pending

/-- An environment in which nothing is decoded and no timer fails. -/
def plainEnv : BotEnv where
  readJson _ := none
  int32 _ := none
  int64 _ := none
  bool _ := none
  float _ := none
  formatDouble _ := []
  timerFails _ := false
  httpsTimerFails _ := false

/-- The first connection attempt fails, and is tried again. -/
theorem polling_never_runs_dry_error :
    ∃ t : Owned (TelegramBot Unit), Run (step plainEnv none)
        (start plainEnv (fresh { apiUrl := ['u'], token := ['t'], timerDelay := 1, app := () }))
        [.client (.timer true), .client .breaks, .client .ends, .timer] t ∧ Pending t := by
  have exists_run : ∃ t : Owned (TelegramBot Unit), Run (step plainEnv none)
      (start plainEnv (fresh { apiUrl := ['u'], token := ['t'], timerDelay := 1, app := () }))
      [.client (.timer true), .client .breaks, .client .ends, .timer] t := ⟨_, .of_foldlM rfl⟩
  obtain ⟨t, run⟩ := exists_run
  exact ⟨t, run, polling_never_runs_dry ⟨fun _ => rfl, fun _ => rfl⟩ (by decide) (by decide)
    (by decide) (by decide) run⟩

end TelegramBot

end GpsInformer
