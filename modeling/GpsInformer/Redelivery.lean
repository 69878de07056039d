import GpsInformer.ApplicationEvents
import GpsInformer.UpdateProgress

/-!
# Updates across restarts

`_lastUpdateId` is not stored: a process that starts asks for everything the server still has.
The processes of the daemon follow one another (`Service`), and one may end at any moment; what
it has sent reaches the server before, or never.

* `skips_nothing`: what all of them have handled is always a first part of the server's updates,
  some of it more than once, and what none has handled the server has not discarded.
* `catches_up`: whatever has happened, they can go on until everything has been handled.
-/

namespace GpsInformer

open Lib

open TgBot (Update)

namespace TelegramBot

variable {σ : Type} {env : BotEnv} {handler : Option (TelegramBotHandler σ)}
  {render : List Update → Str} {reborn : σ → σ} {all : List Update}

/-- The current process in its dialogue with the server. -/
structure Service (σ : Type) where
  dialogue : Dialogue σ
  /-- the updates the earlier processes have handled -/
  past : List Update := []

inductive ServiceEvent where
  | turn (turn : Turn)
  /-- the process ends and another one starts -/
  | restart
  deriving DecidableEq, Repr

/-- The bot of a new process; `reborn` is what becomes of the state of its handler. -/
def renew (reborn : σ → σ) (bot : TelegramBot σ) : TelegramBot σ where
  apiUrl := bot.apiUrl
  token := bot.token
  timerDelay := bot.timerDelay
  app := reborn bot.app

namespace Service

variable {s t : Service σ}

def init (env : BotEnv) (bot : TelegramBot σ) (all : List Update) : Service σ where
  dialogue := { bot := start env (fresh bot), kept := all }

def step (env : BotEnv) (handler : Option (TelegramBotHandler σ)) (render : List Update → Str)
    (reborn : σ → σ) (s : Service σ) : ServiceEvent → Option (Service σ)
  | .turn turn =>
      (converse env handler render s.dialogue turn).map fun dialogue => { s with dialogue }
  | .restart =>
      let bot := s.dialogue.bot.owner
      let dialogue : Dialogue σ :=
        { bot := start env (fresh (renew reborn bot)), kept := s.dialogue.kept }
      some { dialogue, past := s.past ++ bot.handled }

/-- What has been passed to `handleUpdate` by any of the processes. -/
def delivered (s : Service σ) : List Update := s.past ++ s.dialogue.bot.owner.handled

/-! ## What the server still has -/

theorem feed_drop (feed : Feed all) (m : Nat) : Feed (all.drop m) where
  increasing := feed.increasing.sublist ((List.drop_sublist m all).map _)
  small update member := feed.small update (List.mem_of_mem_drop member)

theorem infix_of_drop {updates : List Update} {m : Nat} (among : updates <:+: all.drop m) :
    updates <:+: all := among.trans (List.drop_suffix m all).isInfix

theorem renders_drop (renders : Renders env.toPTreeEnv render all) (m : Nat) :
    Renders env.toPTreeEnv render (all.drop m) where
  whole updates among := renders.whole updates (infix_of_drop among)
  truncated updates among := renders.truncated updates (infix_of_drop among)

theorem mem_take_add {m k : Nat} {u : Update} :
    u ∈ all.take (m + k) ↔ u ∈ all.take m ∨ u ∈ (all.drop m).take k := by
  rw [List.take_add, List.mem_append]

/-- A first part of what comes after a place, and the part that goes further. -/
theorem mem_take_max {m p : Nat} (behind : m ≤ p) {handled : List Update}
    (next : handled <+: all.drop m) {u : Update} :
    u ∈ all.take (max p (m + handled.length)) ↔ u ∈ all.take p ∨ u ∈ handled := by
  have segment : (all.drop m).take handled.length = handled :=
    (List.prefix_iff_eq_take.mp next).symm
  have both : u ∈ all.take (m + handled.length) ↔ u ∈ all.take m ∨ u ∈ handled := by
    rw [mem_take_add, segment]
  have earlier : u ∈ all.take m → u ∈ all.take p := fun member =>
    (List.take_prefix_take_left behind).subset member
  rcases Nat.le_total p (m + handled.length) with further | within
  · rw [Nat.max_eq_right further, both]
    constructor
    · rintro (before | here)
      · exact Or.inl (earlier before)
      · exact Or.inr here
    · rintro (before | here)
      · exact both.mp ((List.take_prefix_take_left further).subset before)
      · exact Or.inr here
  · rw [Nat.max_eq_left within]
    constructor
    · exact Or.inl
    · rintro (before | here)
      · exact before
      · exact (List.take_prefix_take_left within).subset (both.mpr (Or.inr here))

/-- The dialogue of the current process is about the updates from some place on, and the earlier
processes have handled those before and perhaps some more. -/
def Covered (render : List Update → Str) (all : List Update) (s : Service σ) : Prop :=
  ∃ m p, m ≤ p ∧ Agreed render (all.drop m) s.dialogue ∧ ∀ u, u ∈ s.past ↔ u ∈ all.take p

/-- Where the next process begins. -/
theorem kept_of_agreed {m : Nat} (agreed : Agreed render (all.drop m) s.dialogue) :
    ∃ k ≤ s.dialogue.bot.owner.handled.length, s.dialogue.kept = all.drop (m + k) := by
  obtain ⟨k, within, kept⟩ := agreed.kept
  exact ⟨k, within, kept.trans (List.drop_drop ..)⟩

theorem covered_step (feed : Feed all) (renders : Renders env.toPTreeEnv render all)
    (covered : Covered render all s) {event : ServiceEvent}
    (taken : step env handler render reborn s event = some t) : Covered render all t := by
  obtain ⟨m, p, behind, agreed, past⟩ := covered
  cases event with
  | turn turn =>
      obtain ⟨dialogue, turned, rfl⟩ := Option.map_eq_some_iff.mp taken
      exact ⟨m, p, behind, agreed_step (feed_drop feed m) (renders_drop renders m) agreed turned,
        past⟩
  | restart =>
      cases taken
      obtain ⟨k, within, kept⟩ := kept_of_agreed agreed
      refine ⟨m + k, max p (m + s.dialogue.bot.owner.handled.length), by omega, ?_, fun u => ?_⟩
      · dsimp only
        rw [kept]
        exact agreed_start env render _ rfl rfl
      · rw [mem_take_max behind agreed.handled, List.mem_append, past]

theorem covered_init (env : BotEnv) (render : List Update → Str) (all : List Update)
    {bot : TelegramBot σ} (unhandled : bot.handled = []) (first : bot.lastUpdateId = 0) :
    Covered render all (init env bot all) :=
  ⟨0, 0, Nat.le_refl 0, agreed_start env render all unhandled first, fun _ => Iff.rfl⟩

/-- What the processes have handled is a first part of the server's updates, each of them has
handled a part without a gap and in order, and the server has all that is left. -/
theorem skips_nothing (feed : Feed all) (renders : Renders env.toPTreeEnv render all)
    {bot : TelegramBot σ} (unhandled : bot.handled = []) (first : bot.lastUpdateId = 0)
    {events : List ServiceEvent}
    (run : Run (step env handler render reborn) (init env bot all) events s) :
    (∃ n, ∀ u, u ∈ s.delivered ↔ u ∈ all.take n) ∧
      s.dialogue.bot.owner.handled <:+: all ∧
      ∀ u ∈ all, u ∉ s.delivered → u ∈ s.dialogue.kept := by
  obtain ⟨m, p, behind, agreed, past⟩ : Covered render all s :=
    run.invariant (fun covered taken => covered_step feed renders covered taken)
      (covered_init env render all unhandled first)
  have whole : ∀ u, u ∈ s.delivered ↔
      u ∈ all.take (max p (m + s.dialogue.bot.owner.handled.length)) := by
    intro u
    rw [mem_take_max behind agreed.handled, ← past]
    exact List.mem_append
  refine ⟨⟨_, whole⟩, infix_of_drop agreed.handled.isInfix, fun u member missing => ?_⟩
  obtain ⟨k, within, kept⟩ := kept_of_agreed agreed
  rw [kept]
  have split : u ∈ all.take (m + k) ++ all.drop (m + k) := by
    rwa [List.take_append_drop]
  rcases List.mem_append.mp split with early | late
  · have bound : m + k ≤ max p (m + s.dialogue.bot.owner.handled.length) := by omega
    exact absurd ((whole u).mpr ((List.take_prefix_take_left bound).subset early)) missing
  · exact late

/-! ## What can still be handled -/

/-- The current process is about the updates from some place on, the earlier ones have handled
those before, and something is pending. -/
def Unfinished (env : BotEnv) (render : List Update → Str) (all : List Update) (s : Service σ) :
    Prop :=
  ∃ m, Live env render (all.drop m) s.dialogue ∧ ∀ u ∈ all.take m, u ∈ s.past

theorem unfinished_step (feed : Feed all) (renders : Renders env.toPTreeEnv render all)
    (works : TimersWork env) (unfinished : Unfinished env render all s) {event : ServiceEvent}
    (accepted : event ≠ .turn (.bot (.client (.timer false))))
    (taken : step env handler render reborn s event = some t) : Unfinished env render all t := by
  obtain ⟨m, live, past⟩ := unfinished
  cases event with
  | turn turn =>
      obtain ⟨dialogue, turned, rfl⟩ := Option.map_eq_some_iff.mp taken
      refine ⟨m, live.step (feed_drop feed m) (renders_drop renders m) works ?_ turned, past⟩
      rintro rfl
      exact accepted rfl
  | restart =>
      cases taken
      obtain ⟨k, within, kept⟩ := kept_of_agreed live.agreed
      have known := live.configured
      refine ⟨m + k, ?_, fun u early => List.mem_append.mpr ?_⟩
      · dsimp only
        rw [kept]
        exact live_start works render _ known.apiUrl known.token known.timerDelay rfl rfl
      · rcases mem_take_add.mp early with before | here
        · exact Or.inl (past u before)
        · have segment : (all.drop m).take k <+: s.dialogue.bot.owner.handled := by
            rw [List.prefix_iff_eq_take.mp live.agreed.handled]
            exact List.take_prefix_take_left within
          exact Or.inr (segment.subset here)

theorem turns_run {d d' : Dialogue σ} {turns : List Turn} (past : List Update)
    (run : Run (converse env handler render) d turns d') :
    Run (step env handler render reborn) { dialogue := d, past } (turns.map .turn)
      { dialogue := d', past } := by
  induction run with
  | nil d => exact .nil _
  | cons taken _ ih => exact .cons (congrArg (Option.map _) taken) ih

/-- Whatever has happened, the processes can go on until all updates have been handled. -/
theorem catches_up (feed : Feed all) (renders : Renders env.toPTreeEnv render all)
    (decodes : Decodes env.toPTreeEnv render all) (tolerant : Tolerant env handler all)
    (works : TimersWork env) {bot : TelegramBot σ} (apiUrl : bot.apiUrl ≠ [])
    (token : bot.token ≠ []) (timerDelay : 1 ≤ bot.timerDelay) (unhandled : bot.handled = [])
    (first : bot.lastUpdateId = 0) {events : List ServiceEvent}
    (accepted : ServiceEvent.turn (.bot (.client (.timer false))) ∉ events)
    (run : Run (step env handler render reborn) (init env bot all) events s)
    (harmless : Harmless env handler s.dialogue) :
    ∃ later t, Run (step env handler render reborn) s later t ∧ ∀ u ∈ all, u ∈ t.delivered := by
  have unfinished : ∀ {s t : Service σ} {events : List ServiceEvent},
      Run (step env handler render reborn) s events t →
      ServiceEvent.turn (.bot (.client (.timer false))) ∉ events →
      Unfinished env render all s → Unfinished env render all t := by
    intro s t events run accepted unfinished
    induction run with
    | nil => exact unfinished
    | cons taken _ ih =>
        rw [List.mem_cons, not_or] at accepted
        exact ih accepted.2
          (unfinished_step feed renders works unfinished (Ne.symm accepted.1) taken)
  have fresh' : Unfinished env render all (init env bot all) :=
    ⟨0, live_start works render all apiUrl token timerDelay unhandled first, fun _ none => none⟩
  obtain ⟨m, live, past⟩ := unfinished run accepted fresh'
  obtain ⟨d', ⟨turns, _, run'⟩, whole⟩ :=
    live.proceeds (feed_drop feed m) (renders_drop renders m)
      (fun updates among => decodes updates (infix_of_drop among))
      (fun update member => tolerant update (List.mem_of_mem_drop member)) works harmless
  refine ⟨turns.map .turn, { dialogue := d', past := s.past }, turns_run s.past run', ?_⟩
  intro u member
  have split : u ∈ all.take m ++ all.drop m := by
    rwa [List.take_append_drop]
  rcases List.mem_append.mp split with early | late
  · exact List.mem_append_left _ (past u early)
  · refine List.mem_append_right _ ?_
    dsimp only
    rwa [whole]

/-- The process ends before the server knows that the update has been handled, and the next one
is in the middle of the same answer. -/
def bareRestart : List ServiceEvent :=
  [.turn (.bot (.client (.timer true))), .turn (.bot (.client .connected)), .turn (.answer 1),
    .turn (.deliver 80), .turn (.bot (.client .breaks)), .turn (.bot (.client .ends)), .restart,
    .turn (.bot (.client (.timer true))), .turn (.bot (.client .connected)), .turn (.answer 1),
    .turn (.deliver 40)]

/-- What a new process makes of the state of the old one. -/
def reread (a : Application) : Application := Application.start sampleApp a.database a.journal

def bareBot : TelegramBot Application :=
  { apiUrl := ['u'], token := ['t'], timerDelay := 1, app := {} }

theorem bareRestart_run :
    ∃ s, Run (step bareEnv (applicationHandler sampleApp true) bareRender reread)
        (init bareEnv bareBot [bareUpdate]) bareRestart s ∧
      s.past = [bareUpdate] ∧
      s.dialogue.bot.client.requestQueue.map HttpRequest.tag = [Tags.getUpdates] :=
  ⟨_, .of_foldlM rfl, rfl, rfl⟩

theorem skips_nothing_bare :
    ∃ s, Run (step bareEnv (applicationHandler sampleApp true) bareRender reread)
        (init bareEnv bareBot [bareUpdate]) bareRestart s ∧
      (∃ n, ∀ u, u ∈ s.delivered ↔ u ∈ [bareUpdate].take n) ∧
      s.dialogue.bot.owner.handled <:+: [bareUpdate] ∧
      ∀ u ∈ [bareUpdate], u ∉ s.delivered → u ∈ s.dialogue.kept := by
  obtain ⟨s, run, _⟩ := bareRestart_run
  have feed : Feed [bareUpdate] := ⟨by decide, by decide⟩
  exact ⟨s, run, skips_nothing feed bare_renders rfl rfl run⟩

theorem catches_up_bare :
    ∃ s, Run (step bareEnv (applicationHandler sampleApp true) bareRender reread)
        (init bareEnv bareBot [bareUpdate]) bareRestart s ∧
      ∃ later t, Run (step bareEnv (applicationHandler sampleApp true) bareRender reread) s later
        t ∧ ∀ u ∈ [bareUpdate], u ∈ t.delivered := by
  obtain ⟨s, run, _, asking⟩ := bareRestart_run
  have feed : Feed [bareUpdate] := ⟨by decide, by decide⟩
  have decodes : Decodes bareEnv.toPTreeEnv bareRender [bareUpdate] := by
    intro updates among
    rcases List.sublist_singleton.mp among.sublist with rfl | rfl
    · rfl
    · rfl
  have tolerant : Tolerant bareEnv (applicationHandler sampleApp true) [bareUpdate] := by
    intro update member s
    obtain rfl := List.mem_singleton.mp member
    refine (returns_handleUpdate_iff bareUpdate s).mpr fun _ message present => ?_
    cases present
  have harmless : Harmless bareEnv (applicationHandler sampleApp true) s.dialogue := by
    intro _ request front other
    have member := List.mem_map_of_mem (f := HttpRequest.tag) (List.mem_of_mem_head? front)
    rw [asking] at member
    exact absurd (List.mem_singleton.mp member) other
  exact ⟨s, run, catches_up feed bare_renders decodes tolerant ⟨fun _ => rfl, fun _ => rfl⟩
    (by decide) (by decide) (by decide) rfl rfl (by decide) run harmless⟩

end Service

end TelegramBot

end GpsInformer
