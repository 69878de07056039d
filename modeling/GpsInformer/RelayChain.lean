import GpsInformer.LinkDelivery

/-!
# A chain of relays

Every application can hand on what its tracker sends to another one.  The links of such a chain
go on in any order; what a receiver hands over is passed at once to the transmitter of the next
link, which drops it until its own logon has been accepted.  What comes out behind any number
of links is a part of what has gone in, without gaps, in order and once (`chain_of_run`).
-/

namespace GpsInformer

open Lib Function

open Device (deviceCommands logonFrame split IsoDates)

variable {env tracker : DeviceEnv} {settings : TransmitterSettings} {session : SessionId}

namespace Link

open Transmitter (terminator)

/-- `Application::handleDeviceCommand` -/
def pass (arguments : List Str) (l : Link) : Link :=
  let l' := l.transmit (Transmitter.handleDeviceCommand arguments)
  { l' with
    relayed := if l.transmitter.authorized then l.relayed ++ [arguments] else l.relayed }

def feed (commands : List (List Str)) (l : Link) : Link :=
  commands.foldl (fun l arguments => l.pass arguments) l

/-- What the receiver has handed over from `l` to `l'`. -/
def handed (l l' : Link) : List (List Str) :=
  deviceCommands (l'.receiver.shared.log.drop l.receiver.shared.log.length)

/-- What the receiver has handed over since its log was `base`. -/
def handedOver (base : List Effect) (l : Link) : List (List Str) :=
  deviceCommands (l.receiver.shared.log.drop base.length)

end Link

/-- A link of the chain: what the transmitter and the receiver have been configured with, and
the session of the connection. -/
structure Hop where
  settings : TransmitterSettings
  env : DeviceEnv
  session : SessionId

/-- The links, one behind the other. -/
abbrev Chain := Nat → Link

namespace Chain

/-- Something happens on one link; what its receiver hands over goes to the next one. -/
def step (hops : Nat → Hop) (c : Chain) (e : Nat × Link.Event) : Option Chain :=
  (Link.step (hops e.1).settings (hops e.1).env (hops e.1).session (c e.1) e.2).map fun l =>
    update (update c e.1 l) (e.1 + 1) ((c (e.1 + 1)).feed ((c e.1).handed l))

/-- The tracker's commands come in at the first link only. -/
def Permitted (hops : Nat → Hop) (tracker : DeviceEnv) (c : Chain) (e : Nat × Link.Event) :
    Prop :=
  (∀ arguments, e.2 = .deviceCommand arguments → e.1 = 0) ∧
    Link.Permitted (hops e.1).env (hops e.1).session tracker (c e.1) e.2

end Chain

/-! ## What one link passes on -/

namespace Link

variable {base : List Effect} {l l' : Link}

/-- What the receiver has done stays in its log. -/
theorem Agrees.log_grows (proper : ProperImei env.imei) (dates : IsoDates env)
    (agrees : Agrees env session base l) {e : Event}
    (permitted : Permitted env session tracker l e)
    (taken : Link.step settings env session l e = some l') :
    ∃ added, l'.receiver.shared.log = l.receiver.shared.log ++ added := by
  cases e with
  | deviceCommand arguments =>
      cases taken
      exact ⟨[], (List.append_nil _).symm⟩
  | timer =>
      cases taken
      exact ⟨[], (List.append_nil _).symm⟩
  | receive size heard =>
      unfold Link.step at taken
      dsimp only at taken
      split at taken
      · cases taken
      · cases taken
        exact ⟨[], (List.append_nil _).symm⟩
  | read size =>
      unfold Link.step at taken
      dsimp only at taken
      split at taken
      · cases taken
      · rename_i waiting
        obtain ⟨later, spoken⟩ := agrees.spoken
        obtain ⟨d, device, buffer, stands⟩ := agrees.device
        have grown := @interpreted_deliver l size d buffer
        obtain ⟨isPrefix, short⟩ := spoken.reads proper (l.up.deliver size).delivered_inFlight
        change (cut ';' (Str.strip (l.up.delivered ++ l.up.chunk size))).1 <+: _ at isPrefix
        change (cut ';' (Str.strip (l.up.delivered ++ l.up.chunk size))).2.length ≤ _ at short
        rw [grown] at isPrefix short
        obtain ⟨r, _, reads, _, _, deals, _⟩ := read_speaks proper dates device agrees.active
          agrees.opened agrees.reading waiting (spoken.speaks isPrefix) short stands
        obtain ⟨r', reads', rfl⟩ := Option.map_eq_some_iff.mp taken
        cases reads.symm.trans reads'
        obtain ⟨added, log, _⟩ := deals.log
        exact ⟨added, log⟩
  | receiver event =>
      obtain ⟨r, stepped, rfl⟩ := Option.map_eq_some_iff.mp taken
      obtain ⟨d, _, _, stands⟩ := agrees.device
      have owner : ∀ id, l.receiver.shared.authorizedSession = some id → id = session := by
        intro id same
        rw [stands.owner] at same
        split at same
        · cases same
        · exact (Option.some.inj same).symm
      obtain ⟨deals, _⟩ := elsewhere_deals agrees.sound agrees.within owner permitted stepped
      obtain ⟨added, log, _⟩ := deals.log
      exact ⟨added, log⟩

theorem step_heard {e : Event} (taken : step settings env session l e = some l') :
    l.down.delivered <+: l'.down.delivered := by
  cases e with
  | deviceCommand arguments =>
      cases taken
      exact List.prefix_refl _
  | timer =>
      cases taken
      exact List.prefix_refl _
  | receive size heard =>
      unfold step at taken
      dsimp only at taken
      split at taken
      · cases taken
      · cases taken
        exact List.prefix_append _ _
  | read size =>
      unfold step at taken
      dsimp only at taken
      split at taken
      · cases taken
      · obtain ⟨r, _, rfl⟩ := Option.map_eq_some_iff.mp taken
        exact List.prefix_refl _
  | receiver event =>
      obtain ⟨r, _, rfl⟩ := Option.map_eq_some_iff.mp taken
      exact List.prefix_refl _

/-- Nothing but a command is relayed. -/
theorem step_relayed {e : Event} (taken : step settings env session l e = some l')
    (other : ∀ arguments, e ≠ .deviceCommand arguments) : l'.relayed = l.relayed := by
  cases e with
  | deviceCommand arguments => exact absurd rfl (other arguments)
  | timer =>
      cases taken
      rfl
  | receive size heard =>
      unfold step at taken
      dsimp only at taken
      split at taken
      · cases taken
      · cases taken
        rfl
  | read size => exact (read_step taken).2.2
  | receiver event =>
      obtain ⟨r, _, rfl⟩ := Option.map_eq_some_iff.mp taken
      rfl

/-- A transmitter that has been authorized stays so. -/
theorem Agrees.stays_authorized (agrees : Agrees env session base l)
    (agrees' : Agrees env session base l') (heard : l.down.delivered <+: l'.down.delivered)
    (authorized : l.transmitter.authorized = true) : l'.transmitter.authorized = true := by
  cases agrees.listening with
  | waiting unauthorized => cases unauthorized.symm.trans authorized
  | granted k tail _ eq _ _ =>
      cases agrees'.listening with
      | granted k' tail' authorized' _ _ _ => exact authorized'
      | waiting _ _ short _ =>
          exfalso
          have longer := heard.length_le
          have four : Transmitter.load.length = 4 := rfl
          rw [eq, List.length_append, List.length_append] at longer
          omega

/-! ### What is handed over -/

theorem Agrees.handedOver_eq (proper : ProperImei env.imei) (agrees : Agrees env session base l) :
    l.handedOver base = ((l.interpreted.drop 1).filter (· ≠ env.imei)).map split := by
  obtain ⟨spokenFrames, spoken⟩ := agrees.spoken
  obtain ⟨later, log, seen⟩ := agrees.log
  have speaks : Speaks env l.interpreted :=
    spoken.speaks (spoken.reads proper l.up.delivered_inFlight).1
  unfold handedOver
  rw [log, List.drop_left, ← deviceCommands_concerns session, seen]
  cases frames : l.interpreted with
  | nil => rfl
  | cons first rest =>
      obtain ⟨rfl, ordinary⟩ := speaks first rest frames
      rw [List.flatMap_cons, deviceCommands_append, reaction_logon,
        deviceCommands_ordinary proper ordinary]
      rfl

theorem Agrees.handedOver_isPrefix (proper : ProperImei env.imei)
    (agrees : Agrees env session base l) : l.handedOver base <+: l.relayed := by
  obtain ⟨later, spoken⟩ := agrees.spoken
  obtain ⟨isPrefix, _⟩ := spoken.reads proper l.up.delivered_inFlight
  have others : l.interpreted.drop 1 <+: later := isPrefix.drop 1
  rw [agrees.handedOver_eq proper, ← spoken.relayed]
  exact (others.filter _).map split

/-- What is handed over can be relayed once more. -/
theorem Agrees.handedOver_fine (proper : ProperImei env.imei)
    (agrees : Agrees env session base l) {arguments : List Str}
    (member : arguments ∈ l.handedOver base) :
    Handed arguments ∧ ([','].intercalate arguments).length ≤ 32768 := by
  obtain ⟨later, spoken⟩ := agrees.spoken
  have among := (agrees.handedOver_isPrefix proper).subset member
  rw [← spoken.relayed] at among
  obtain ⟨f, kept, rfl⟩ := List.mem_map.mp among
  obtain ⟨inside, other⟩ := List.mem_filter.mp kept
  obtain ⟨ordinary, clean, short⟩ := spoken.frames f inside
  have joined : [','].intercalate (split f) = f := by
    unfold split
    rw [List.intercalate_splitOn]
  rcases ordinary with rfl | ⟨relayable, fine⟩
  · exact absurd rfl (of_decide_eq_true other)
  · exact ⟨⟨f, clean, relayable, fine, rfl⟩, by rwa [joined]⟩

theorem handedOver_append {before added : List Effect}
    (log : l.receiver.shared.log = base ++ before)
    (grown : l'.receiver.shared.log = l.receiver.shared.log ++ added) :
    l'.handedOver base = l.handedOver base ++ l.handed l' := by
  unfold handedOver handed
  rw [grown, List.drop_left, log, List.append_assoc, List.drop_left, List.drop_left,
    deviceCommands_append]

/-! ### What is passed on -/

theorem Agrees.pass (proper : ProperImei env.imei) (agrees : Agrees env session base l)
    {arguments : List Str}
    (fine : Handed arguments ∧ ([','].intercalate arguments).length ≤ 32768) :
    Agrees env session base (l.pass arguments) :=
  @Agrees.deviceCommand env {} session base l proper agrees arguments fine.1 fine.2 _ rfl

/-- Passing commands on to an authorized transmitter relays them all. -/
structure Fed (commands : List (List Str)) (l l' : Link) : Prop where
  relayed : l'.relayed = if l.transmitter.authorized then l.relayed ++ commands else l.relayed
  authorized : l'.transmitter.authorized = l.transmitter.authorized
  receiver : l'.receiver = l.receiver

theorem fed_pass (l : Link) (arguments : List Str) : Fed [arguments] l (l.pass arguments) := by
  refine ⟨rfl, ?_, rfl⟩
  unfold pass transmit Transmitter.handleDeviceCommand
  dsimp only
  split
  · rfl
  · rfl

theorem fed_feed (commands : List (List Str)) (l : Link) : Fed commands l (l.feed commands) := by
  induction commands generalizing l with
  | nil =>
      refine ⟨?_, rfl, rfl⟩
      rw [List.append_nil, ite_self]
      rfl
  | cons arguments commands ih =>
      have first := fed_pass l arguments
      have rest := ih (l.pass arguments)
      refine ⟨?_, rest.authorized.trans first.authorized, rest.receiver.trans first.receiver⟩
      have fed := rest.relayed
      rw [first.authorized, first.relayed] at fed
      refine fed.trans ?_
      split
      · exact List.append_assoc _ _ _
      · rfl

theorem Agrees.feed (proper : ProperImei env.imei) {commands : List (List Str)}
    (fine : ∀ arguments ∈ commands,
      Handed arguments ∧ ([','].intercalate arguments).length ≤ 32768)
    (agrees : Agrees env session base l) : Agrees env session base (l.feed commands) := by
  induction commands generalizing l with
  | nil => exact agrees
  | cons arguments commands ih =>
      rw [List.forall_mem_cons] at fine
      exact ih fine.2 (agrees.pass proper fine.1)

end Link

/-! ## The chain -/

namespace Chain

open Link

variable {hops : Nat → Hop} {bases : Nat → List Effect} {c c' : Chain} {e : Nat × Link.Event}

/-- Every link agrees, and relays what the one before it hands over from some point on. -/
structure Chained (hops : Nat → Hop) (bases : Nat → List Effect) (c : Chain) : Prop where
  agrees : ∀ k, Agrees (hops k).env (hops k).session (bases k) (c k)
  fed : ∀ k, (c (k + 1)).relayed <:+ (c k).handedOver (bases k)
  idle : ∀ k, (c (k + 1)).transmitter.authorized = false → (c (k + 1)).relayed = []

/-- What the links have been configured with. -/
structure Configured (hops : Nat → Hop) : Prop where
  proper : ∀ k, ProperImei (hops k).env.imei
  named : ∀ k, (hops k).settings.imei = (hops k).env.imei
  dates : ∀ k, IsoDates (hops k).env

/-- Nothing else happens than on one link and at the beginning of the next one. -/
theorem step_cases (taken : step hops c e = some c') :
    ∃ l, Link.step (hops e.1).settings (hops e.1).env (hops e.1).session (c e.1) e.2 = some l ∧
      c' e.1 = l ∧ c' (e.1 + 1) = (c (e.1 + 1)).feed ((c e.1).handed l) ∧
      ∀ j, j ≠ e.1 → j ≠ e.1 + 1 → c' j = c j := by
  obtain ⟨l, first, rfl⟩ := Option.map_eq_some_iff.mp taken
  refine ⟨l, first, ?_, update_self _ _ _, fun j here next => ?_⟩
  · rw [update_of_ne (Nat.ne_of_lt (Nat.lt_succ_self _)), update_self]
  · rw [update_of_ne next, update_of_ne here]

/-- What one step does to a link and the next one: what the first hands over the second relays,
if it is authorized, and it stays so. -/
structure Passes (base : List Effect) (l next l' next' : Link) : Prop where
  handed : ∃ more, l'.handedOver base = l.handedOver base ++ more ∧
    next'.relayed =
      if next.transmitter.authorized then next.relayed ++ more else next.relayed
  authorized : next.transmitter.authorized = true → next'.transmitter.authorized = true

/-- Nothing is handed over. -/
theorem Passes.still {base : List Effect} {l next l' next' : Link}
    (receiver : l'.receiver = l.receiver) (relayed : next'.relayed = next.relayed)
    (authorized : next.transmitter.authorized = true → next'.transmitter.authorized = true) :
    Passes base l next l' next' := by
  refine ⟨⟨[], ?_, ?_⟩, authorized⟩
  · unfold handedOver
    rw [receiver, List.append_nil]
  · rw [relayed, List.append_nil, ite_self]

theorem Chained.agrees_step (configured : Configured hops) (dates' : IsoDates tracker)
    (chained : Chained hops bases c) (permitted : Permitted hops tracker c e)
    (taken : Chain.step hops c e = some c') (j : Nat) :
    Agrees (hops j).env (hops j).session (bases j) (c' j) := by
  obtain ⟨k, event⟩ := e
  obtain ⟨l, first, here, next, others⟩ := step_cases taken
  dsimp only at first here next others
  have proper := configured.proper
  have before := chained.agrees k
  have after : Agrees (hops k).env (hops k).session (bases k) l :=
    before.step (proper k) (configured.named k) (configured.dates k) dates' permitted.2 first
  by_cases same : j = k
  · rw [same, here]
    exact after
  by_cases same' : j = k + 1
  · rw [same', next]
    refine (chained.agrees (k + 1)).feed (proper (k + 1)) fun arguments member => ?_
    obtain ⟨added, grown⟩ :=
      before.log_grows (proper k) (configured.dates k) permitted.2 first
    obtain ⟨earlier, log, _⟩ := before.log
    apply after.handedOver_fine (proper k)
    rw [handedOver_append log grown]
    exact List.mem_append_right _ member
  · rw [others j same same']
    exact chained.agrees j

theorem Chained.passes (configured : Configured hops) (dates' : IsoDates tracker)
    (chained : Chained hops bases c) (permitted : Permitted hops tracker c e)
    (taken : Chain.step hops c e = some c') (j : Nat) :
    Passes (bases j) (c j) (c (j + 1)) (c' j) (c' (j + 1)) := by
  have agrees' := chained.agrees_step configured dates' permitted taken
  obtain ⟨k, event⟩ := e
  obtain ⟨l, first, here, next, others⟩ := step_cases taken
  dsimp only at first here next others
  have fed := fed_feed ((c k).handed l) (c (k + 1))
  rcases Nat.lt_trichotomy j k with below | rfl | above
  · by_cases same : j + 1 = k
    · -- the event is one of the next link, which is not the first one
      subst same
      have kept : l.relayed = (c (j + 1)).relayed := by
        apply step_relayed first
        rintro arguments rfl
        have zero := permitted.1 arguments rfl
        dsimp only at zero
        omega
      rw [others j (by omega) (by omega)]
      refine .still rfl (here ▸ kept) ?_
      exact (chained.agrees (j + 1)).stays_authorized (agrees' (j + 1)) (here ▸ step_heard first)
    · rw [others j (by omega) (by omega), others (j + 1) same (by omega)]
      exact .still rfl rfl id
  · obtain ⟨added, grown⟩ :=
      (chained.agrees j).log_grows (configured.proper j) (configured.dates j) permitted.2 first
    obtain ⟨earlier, log, _⟩ := (chained.agrees j).log
    rw [here, next]
    refine ⟨⟨_, handedOver_append log grown, fed.relayed⟩, fun authorized => ?_⟩
    rw [fed.authorized]
    exact authorized
  · by_cases same : j = k + 1
    · rw [same, next, others (k + 1 + 1) (by omega) (by omega)]
      exact .still fed.receiver rfl id
    · rw [others j (by omega) same, others (j + 1) (by omega) (by omega)]
      exact .still rfl rfl id

theorem Chained.step (configured : Configured hops) (dates' : IsoDates tracker)
    (chained : Chained hops bases c) (permitted : Permitted hops tracker c e)
    (taken : Chain.step hops c e = some c') : Chained hops bases c' := by
  have passes := chained.passes configured dates' permitted taken
  refine ⟨chained.agrees_step configured dates' permitted taken, fun k => ?_, fun k idle => ?_⟩
  · obtain ⟨more, handed, relayed⟩ := (passes k).handed
    rw [handed, relayed]
    split
    · exact List.suffix_append_self_iff.mpr (chained.fed k)
    · rename_i unauthorized
      rw [chained.idle k (eq_false_of_ne_true unauthorized)]
      exact List.nil_suffix
  · obtain ⟨more, _, relayed⟩ := (passes k).handed
    have unauthorized : (c (k + 1)).transmitter.authorized = false := by
      by_contra authorized
      rw [(passes k).authorized (by simpa using authorized)] at idle
      cases idle
    rw [relayed, unauthorized]
    exact chained.idle k unauthorized

/-- A link whose transmitter is authorized has missed the first `n` commands of the link before
it, and relays all the others. -/
structure Joined (bases : Nat → List Effect) (k n : Nat) (c : Chain) : Prop where
  authorized : (c (k + 1)).transmitter.authorized = true
  missed : n ≤ ((c k).handedOver (bases k)).length
  relayed : (c (k + 1)).relayed = ((c k).handedOver (bases k)).drop n

theorem Chained.joined (chained : Chained hops bases c) {k : Nat}
    (authorized : (c (k + 1)).transmitter.authorized = true) : ∃ n, Joined bases k n c := by
  obtain ⟨missed, same⟩ := chained.fed k
  refine ⟨missed.length, authorized, ?_, ?_⟩
  · rw [← same, List.length_append]
    omega
  · rw [← same, List.drop_left]

theorem Joined.step {k n : Nat} (joined : Joined bases k n c)
    (passes : Passes (bases k) (c k) (c (k + 1)) (c' k) (c' (k + 1))) : Joined bases k n c' := by
  obtain ⟨more, handed, relayed⟩ := passes.handed
  refine ⟨passes.authorized joined.authorized, ?_, ?_⟩
  · rw [handed, List.length_append]
    exact Nat.le_add_right_of_le joined.missed
  · rw [relayed, if_pos joined.authorized, handed, joined.relayed,
      List.drop_append_of_le_length joined.missed]

/-- The connections have just been made, by receivers without an authorized session. -/
def Connected (hops : Nat → Hop) (bases : Nat → List Effect) (c : Chain) : Prop :=
  ∀ k, ∃ t es r, Run (Receiver.step (hops k).env) {} es r ∧
    r.shared.authorizedSession = none ∧ (hops k).session = r.shared.created ∧
    bases k = r.accepting.shared.log ∧ c k = start (hops k).settings t r.accepting

theorem chained_connected (configured : Configured hops) (connected : Connected hops bases c) :
    Chained hops bases c := by
  have agrees : ∀ k, Agrees (hops k).env (hops k).session (bases k) (c k) := by
    intro k
    obtain ⟨t, es, r, run, free, session, base, begun⟩ := connected k
    have sound : Receiver.Sound r :=
      run.invariant (fun sound taken => sound.step taken) Receiver.sound_init
    rw [session, base, begun]
    exact agrees_start (configured.proper k) (configured.named k) t sound free
  have relayed : ∀ k, (c k).relayed = [] := by
    intro k
    obtain ⟨t, es, r, _, _, _, _, begun⟩ := connected k
    rw [begun]
    rfl
  refine ⟨agrees, fun k => ?_, fun k _ => relayed (k + 1)⟩
  rw [relayed (k + 1)]
  exact List.nil_suffix

/-- Nothing is in flight on a link. -/
def Quiet (l : Link) : Prop := l.up.inFlight = [] ∧ l.down.inFlight = []

theorem chained_run (configured : Configured hops) (dates' : IsoDates tracker)
    {events : List (Nat × Link.Event)} (run : Run (step hops) c events c')
    (permitted : Guarded (step hops) (Permitted hops tracker) c events)
    (chained : Chained hops bases c) :
    Chained hops bases c' ∧ ∀ k n, Joined bases k n c → Joined bases k n c' := by
  induction run with
  | nil => exact ⟨chained, fun _ _ joined => joined⟩
  | cons taken _ ih =>
      have passes := chained.passes configured dates' permitted.1 taken
      obtain ⟨chained', joined⟩ :=
        ih (permitted.2 _ taken) (chained.step configured dates' permitted.1 taken)
      exact ⟨chained', fun k n before => joined k n (before.step (passes k))⟩

theorem Chained.handedOver_eq (configured : Configured hops) (chained : Chained hops bases c)
    {k : Nat} (quiet : Quiet (c k)) : (c k).handedOver (bases k) = (c k).relayed := by
  obtain ⟨later, log, commands⟩ :=
    ((chained.agrees k).drained (configured.proper k) quiet).handedOver
  unfold handedOver
  rw [log, List.drop_left, commands]

theorem Chained.handedOver_isPrefix (configured : Configured hops) (chained : Chained hops bases c)
    (k : Nat) : (c k).handedOver (bases k) <+: (c k).relayed :=
  (chained.agrees k).handedOver_isPrefix (configured.proper k)

theorem Chained.handedOver_isInfix (configured : Configured hops) (chained : Chained hops bases c)
    (k : Nat) : (c k).handedOver (bases k) <:+: (c 0).relayed := by
  induction k with
  | zero => exact (chained.handedOver_isPrefix configured 0).isInfix
  | succ k ih =>
      have own := chained.handedOver_isPrefix configured (k + 1)
      exact own.isInfix.trans ((chained.fed k).isInfix.trans ih)

theorem Chained.handedOver_isSuffix (configured : Configured hops) (chained : Chained hops bases c)
    {k : Nat} (quiet : ∀ j ≤ k, Quiet (c j)) :
    (c k).handedOver (bases k) <:+ (c 0).relayed := by
  induction k with
  | zero => rw [chained.handedOver_eq configured (quiet 0 (Nat.le_refl 0))]
  | succ k ih =>
      rw [chained.handedOver_eq configured (quiet (k + 1) (Nat.le_refl _))]
      exact (chained.fed k).trans (ih fun j below => quiet j (Nat.le_succ_of_le below))

/-- By induction on the link: what the links have missed is counted with what the last of them
had relayed when they were authorized. -/
theorem Chained.handedOver_eq_drop (configured : Configured hops) {c₁ : Chain}
    (chained₁ : Chained hops bases c₁) (chained : Chained hops bases c')
    (joined : ∀ k n, Joined bases k n c₁ → Joined bases k n c') {k : Nat}
    (quiet : ∀ j ≤ k, Quiet (c' j))
    (authorized : ∀ j < k, (c₁ (j + 1)).transmitter.authorized = true) :
    ∃ n, n + (c₁ k).relayed.length ≤ (c₁ 0).relayed.length ∧
      (c' k).handedOver (bases k) = (c' 0).relayed.drop n := by
  induction k with
  | zero =>
      refine ⟨0, by omega, ?_⟩
      rw [chained.handedOver_eq configured (quiet 0 (Nat.le_refl 0)), List.drop_zero]
  | succ k ih =>
      obtain ⟨n, short, same⟩ := ih (fun j below => quiet j (Nat.le_succ_of_le below))
        fun j below => authorized j (Nat.lt_succ_of_lt below)
      obtain ⟨missed, joined₁⟩ := chained₁.joined (authorized k (Nat.lt_succ_self k))
      have reached := (chained₁.handedOver_isPrefix configured k).length_le
      have rest := joined₁.missed
      refine ⟨n + missed, ?_, ?_⟩
      · rw [joined₁.relayed, List.length_drop]
        omega
      · rw [chained.handedOver_eq configured (quiet (k + 1) (Nat.le_refl _)),
          (joined k missed joined₁).relayed, same, List.drop_drop]

/-- What the receiver of a link hands over is a part of what has come in at the first link,
without gaps.  When nothing is in flight up to there, it is all that has come in from some point
on, and this is no later than the moment at which all transmitters in between are authorized. -/
theorem chain_of_run (configured : Configured hops) (dates' : IsoDates tracker)
    (connected : Connected hops bases c) {c₁ : Chain} {before after : List (Nat × Link.Event)}
    (run : Run (step hops) c before c₁)
    (permitted : Guarded (step hops) (Permitted hops tracker) c before)
    (run' : Run (step hops) c₁ after c')
    (permitted' : Guarded (step hops) (Permitted hops tracker) c₁ after) (k : Nat) :
    (c' k).handedOver (bases k) <:+: (c' 0).relayed ∧
      ((∀ j ≤ k, Quiet (c' j)) →
        (c' k).handedOver (bases k) <:+ (c' 0).relayed ∧
        ((∀ j < k, (c₁ (j + 1)).transmitter.authorized = true) →
          ∃ n ≤ (c₁ 0).relayed.length,
            (c' k).handedOver (bases k) = (c' 0).relayed.drop n)) := by
  have chained₁ := (chained_run configured dates' run permitted
    (chained_connected configured connected)).1
  obtain ⟨chained, joined⟩ := chained_run configured dates' run' permitted' chained₁
  refine ⟨chained.handedOver_isInfix configured k, fun quiet => ?_⟩
  refine ⟨chained.handedOver_isSuffix configured quiet, fun authorized => ?_⟩
  obtain ⟨n, short, same⟩ :=
    Chained.handedOver_eq_drop configured chained₁ chained joined quiet authorized
  exact ⟨n, by omega, same⟩

/-- Trackers of `isoEnv` all along. -/
def isoHops : Nat → Hop := fun _ => ⟨isoSettings, Receiver.isoEnv, 0⟩

def isoChain : Chain := fun _ => start isoSettings {} (Receiver.accepting {})

theorem configured_isoHops : Configured isoHops :=
  ⟨fun _ => properImei_isoEnv, fun _ => rfl, fun _ => Receiver.isoDates_isoEnv⟩

theorem connected_isoChain : Connected isoHops (fun _ => [.construct 0]) isoChain :=
  fun _ => ⟨{}, [], {}, .nil _, rfl, rfl, rfl, rfl⟩

/-- The second link accepts its logon, -/
def chainLogon : List (Nat × Link.Event) := [(1, .read 100), (1, .receive 4 true)]

/-- then the first one, and a report goes over both. -/
def chainReport : List (Nat × Link.Event) :=
  [(0, .read 100), (0, .receive 4 true), (0, .deviceCommand (split isoReport)), (0, .read 100),
    (1, .read 100)]

theorem permitted_quiet {k : Nat} {event : Link.Event}
    (other : ∀ arguments, event ≠ .deviceCommand arguments) :
    ∀ arguments, (k, event).2 = .deviceCommand arguments → (k, event).1 = 0 :=
  fun arguments same => absurd same (other arguments)

theorem permitted_chainLogon (c : Chain) :
    Guarded (step isoHops) (Permitted isoHops Receiver.isoEnv) c chainLogon :=
  ⟨⟨permitted_quiet (by simp), trivial⟩, fun _ _ => ⟨⟨permitted_quiet (by simp), trivial⟩,
    fun _ _ => trivial⟩⟩

theorem permitted_chainReport (c : Chain) :
    Guarded (step isoHops) (Permitted isoHops Receiver.isoEnv) c chainReport :=
  ⟨⟨permitted_quiet (by simp), trivial⟩, fun _ _ => ⟨⟨permitted_quiet (by simp), trivial⟩,
    fun _ _ => ⟨⟨fun _ _ => rfl, handedOver_isoReport, by decide⟩,
    fun _ _ => ⟨⟨permitted_quiet (by simp), trivial⟩, fun _ _ => ⟨⟨permitted_quiet (by simp),
    trivial⟩, fun _ _ => trivial⟩⟩⟩⟩⟩

theorem chain_of_chainReport :
    ∃ c₁ c, Run (step isoHops) isoChain chainLogon c₁ ∧ Run (step isoHops) c₁ chainReport c ∧
      (c 1).handedOver [.construct 0] = [split isoReport] ∧
      (c 1).handedOver [.construct 0] <:+: (c 0).relayed ∧
      ∃ n ≤ (c₁ 0).relayed.length, (c 1).handedOver [.construct 0] = (c 0).relayed.drop n := by
  have joined : (chainLogon.foldlM (step isoHops) isoChain).map
      (fun c => (c 1).transmitter.authorized) = some true := by
    decide +kernel
  have executed : ((chainLogon ++ chainReport).foldlM (step isoHops) isoChain).map (fun c =>
      ((c 1).handedOver [.construct 0], [(c 0).up.inFlight, (c 0).down.inFlight,
        (c 1).up.inFlight, (c 1).down.inFlight])) = some ([split isoReport], [[], [], [], []]) := by
    decide +kernel
  obtain ⟨c₁, logon, authorized⟩ := Option.map_eq_some_iff.mp joined
  rw [List.foldlM_append, logon] at executed
  obtain ⟨c, report, same⟩ := Option.map_eq_some_iff.mp executed
  obtain ⟨passed, idle⟩ := Prod.mk.inj same
  simp only [List.cons.injEq, and_true] at idle
  obtain ⟨up, down, up', down'⟩ := idle
  have run := Run.of_foldlM logon
  have run' := Run.of_foldlM report
  obtain ⟨inside, suffix⟩ := chain_of_run configured_isoHops Receiver.isoDates_isoEnv
    connected_isoChain run (permitted_chainLogon _) run' (permitted_chainReport _) 1
  have quiet : ∀ j ≤ 1, Quiet (c j) := by
    intro j below
    rcases Nat.le_one_iff_eq_zero_or_eq_one.mp below with rfl | rfl
    · exact ⟨up, down⟩
    · exact ⟨up', down'⟩
  refine ⟨c₁, c, run, run', passed, inside, (suffix quiet).2 fun j below => ?_⟩
  obtain rfl : j = 0 := by omega
  exact authorized

end Chain

end GpsInformer
