import GpsInformer.LinkAgreement

/-!
# What is in flight arrives

Wherever a run of the link has got to, the chunks that are still in flight can be delivered, in
whatever size, and then the transmitter is authorized and every frame that has been relayed has
been handed over by the receiver, once and in order (`drains_of_run`).
-/

namespace GpsInformer

open Lib

open Device (deviceCommands logonFrame split IsoDates)

variable {env tracker : DeviceEnv} {settings : TransmitterSettings} {session : SessionId}

namespace Lib.Channel

variable {α : Type*} (c : Channel α)

theorem inFlight_deliver (size : Nat) : (c.deliver size).inFlight = c.inFlight.drop size := by
  have whole := (c.deliver size).delivered_inFlight
  have before := c.delivered_inFlight
  change (c.delivered ++ c.chunk size) ++ (c.deliver size).inFlight = c.sent at whole
  rw [← before, List.append_assoc] at whole
  have rest := List.append_cancel_left whole
  unfold chunk at rest
  have parts := List.take_append_drop size c.inFlight
  exact List.append_cancel_left (rest.trans parts.symm)

theorem chunk_ne_nil {size : Nat} (some_size : 0 < size) (waiting : c.inFlight ≠ []) :
    c.chunk size ≠ [] := by
  unfold chunk
  intro empty
  rcases List.take_eq_nil_iff.mp empty with zero | none'
  · omega
  · exact waiting none'

theorem length_deliver {size : Nat} (some_size : 0 < size) (waiting : c.inFlight ≠ []) :
    (c.deliver size).inFlight.length < c.inFlight.length := by
  have pos := List.length_pos_of_ne_nil waiting
  rw [inFlight_deliver, List.length_drop]
  omega

theorem delivered_of_inFlight (none' : c.inFlight = []) : c.delivered = c.sent := by
  have whole := c.delivered_inFlight
  rwa [none', List.append_nil] at whole

end Lib.Channel

namespace Link

open Transmitter (Listening Waits Unfinished terminator load answers on)

variable {base : List Effect} {l l' : Link} {size : Nat}

/-! ## Deliveries -/

/-- A chunk of at most `size` bytes is delivered on one side; `heard` is what the transmitter
knows of the tracker. -/
def Delivery (size : Nat) (heard : Bool) (e : Event) : Prop :=
  e = .read size ∨ e = .receive size heard

/-- The receiver reads, and the transmitter is left as it is. -/
theorem read_step (taken : step settings env session l (.read size) = some l') :
    l'.transmitter = l.transmitter ∧ l'.up = l.up.deliver size ∧ l'.relayed = l.relayed := by
  unfold step at taken
  dsimp only at taken
  split at taken
  · cases taken
  · obtain ⟨r, _, rfl⟩ := Option.map_eq_some_iff.mp taken
    exact ⟨rfl, rfl, rfl⟩

/-- The transmitter hears an answer, and sends nothing. -/
theorem Agrees.receive_step (proper : ProperImei env.imei) (agrees : Agrees env session base l)
    {heard : Bool} (taken : Link.step settings env session l (.receive size heard) = some l') :
    l'.up = l.up ∧ l'.down = l.down.deliver size ∧ l'.relayed = l.relayed := by
  unfold Link.step at taken
  dsimp only at taken
  split at taken
  · cases taken
  cases taken
  obtain ⟨later, spoken⟩ := agrees.spoken
  have speaks : Speaks env l.interpreted :=
    spoken.speaks (spoken.reads proper l.up.delivered_inFlight).1
  obtain ⟨m, bound⟩ := answered_speaks session proper speaks
  rw [← agrees.answers] at bound
  have expected := (l.down.inOrder_chunk size).trans bound
  have listening : Listening { l.transmitter with trace := [] } l.down.delivered :=
    agrees.listening.congr rfl rfl
  obtain ⟨_, waits⟩ := listening.receive settings rfl expected heard
  have silent := written_of_waits waits
  refine ⟨?_, rfl, rfl⟩
  unfold transmit
  dsimp only
  rw [silent]
  cases l.up with
  | mk sent delivered inOrder =>
      unfold Channel.send
      simp only [List.append_nil]

theorem Agrees.read_all (settings : TransmitterSettings) (proper : ProperImei env.imei)
    (dates : IsoDates env) (some_size : 0 < size) (heard : Bool)
    (agrees : Agrees env session base l) :
    ∃ events l', (∀ e ∈ events, Delivery size heard e) ∧
      Run (Link.step settings env session) l events l' ∧ Agrees env session base l' ∧
      l'.relayed = l.relayed ∧ l'.up.inFlight = [] := by
  induction length : l.up.inFlight.length using Nat.strongRecOn generalizing l with
  | ind n ih =>
      by_cases waiting : l.up.inFlight = []
      · exact ⟨[], l, List.forall_mem_nil _, .nil l, agrees, rfl, waiting⟩
      · obtain ⟨m, taken, agrees'⟩ := agrees.read settings proper dates
          (l.up.chunk_ne_nil some_size waiting)
        obtain ⟨_, up, relayed⟩ := read_step taken
        have shorter : m.up.inFlight.length < n := by
          rw [up, ← length]
          exact l.up.length_deliver some_size waiting
        obtain ⟨events, l', deliveries, run, agrees'', relayed', empty⟩ :=
          ih _ shorter agrees' rfl
        exact ⟨.read size :: events, l', List.forall_mem_cons.mpr ⟨Or.inl rfl, deliveries⟩,
          .cons taken run, agrees'', relayed'.trans relayed, empty⟩

theorem Agrees.receive_all (settings : TransmitterSettings) (proper : ProperImei env.imei)
    (some_size : 0 < size) (heard : Bool) (agrees : Agrees env session base l)
    (read : l.up.inFlight = []) :
    ∃ events l', (∀ e ∈ events, Delivery size heard e) ∧
      Run (Link.step settings env session) l events l' ∧ Agrees env session base l' ∧
      l'.relayed = l.relayed ∧ l'.up.inFlight = [] ∧ l'.down.inFlight = [] := by
  induction length : l.down.inFlight.length using Nat.strongRecOn generalizing l with
  | ind n ih =>
      by_cases waiting : l.down.inFlight = []
      · exact ⟨[], l, List.forall_mem_nil _, .nil l, agrees, rfl, read, waiting⟩
      · have enabled : ∃ m, Link.step settings env session l (.receive size heard) = some m := by
          unfold Link.step
          dsimp only
          rw [if_neg (l.down.chunk_ne_nil some_size waiting)]
          exact ⟨_, rfl⟩
        obtain ⟨m, taken⟩ := enabled
        obtain ⟨up, down, relayed⟩ := agrees.receive_step proper taken
        have shorter : m.down.inFlight.length < n := by
          rw [down, ← length]
          exact l.down.length_deliver some_size waiting
        obtain ⟨events, l', deliveries, run, agrees', relayed', empty⟩ :=
          ih _ shorter (agrees.receive proper taken) (by rw [up]; exact read) rfl
        exact ⟨.receive size heard :: events, l',
          List.forall_mem_cons.mpr ⟨Or.inr rfl, deliveries⟩, .cons taken run, agrees',
          relayed'.trans relayed, empty⟩

/-! ## When nothing is in flight -/

/-- Both sides have heard all there is to hear. -/
structure Drained (env : DeviceEnv) (session : SessionId) (base : List Effect) (l : Link) :
    Prop where
  empty : l.up.inFlight = [] ∧ l.down.inFlight = []
  authorized : l.transmitter.authorized = true
  owner : l.receiver.shared.authorizedSession = some session
  /-- the logon has been read first, and then the frames that have been relayed -/
  interpreted : l.interpreted.head? = some (logonFrame env) ∧
    ((l.interpreted.drop 1).filter (· ≠ env.imei)).map split = l.relayed
  /-- what the receiver has handed over since is what has been relayed -/
  handedOver : ∃ later, l.receiver.shared.log = base ++ later ∧ deviceCommands later = l.relayed
  /-- the logon has been accepted and each heartbeat answered -/
  heard : l.down.delivered = load ++ answers ((l.interpreted.drop 1).count env.imei) ∧
    l.transmitter.buffer = []

/-- Some whole answers are not followed by the beginning of another one. -/
theorem unfinished_answers {k m : Nat} {tail : Str} (eq : answers m = answers k ++ tail)
    (unfinished : Unfinished tail) : tail = [] := by
  induction k generalizing m with
  | zero =>
      cases m with
      | zero => exact eq.symm
      | succ m =>
          have starts : on <+: tail := ⟨answers m, eq⟩
          exact absurd starts unfinished.noAnswer
  | succ k ih =>
      cases m with
      | zero => cases eq
      | succ m =>
          rw [Transmitter.answers_succ, Transmitter.answers_succ, List.append_assoc] at eq
          exact ih (List.append_cancel_left eq)

theorem deviceCommands_concerns (session : SessionId) (log : List Effect) :
    deviceCommands (log.filter (concerns session)) = deviceCommands log := by
  induction log with
  | nil => rfl
  | cons e log ih =>
      have first := @deviceCommands_append [e]
      cases e with
      | deviceCommand arguments =>
          rw [List.filter_cons_of_pos rfl]
          exact (first _).trans ((congrArg _ ih).trans (first _).symm)
      | send id data =>
          rw [List.filter_cons]
          split
          · exact ih
          · exact ih
      | close id =>
          rw [List.filter_cons]
          split
          · exact ih
          · exact ih
      | hangUp id =>
          rw [List.filter_cons]
          split
          · exact ih
          · exact ih
      | trackerEvent origin message => exact ih
      | asyncWrite id data => exact ih
      | construct id => exact ih
      | destroy id => exact ih

theorem deviceCommands_ordinary (proper : ProperImei env.imei) {frames : List Str}
    (ordinary : ∀ f ∈ frames, Ordinary env f) :
    deviceCommands (frames.flatMap (reaction env session)) =
      (frames.filter (· ≠ env.imei)).map split := by
  induction frames with
  | nil => rfl
  | cons f rest ih =>
      rw [List.forall_mem_cons] at ordinary
      rw [List.flatMap_cons, deviceCommands_append, ih ordinary.2]
      rcases ordinary.1 with rfl | ⟨relayable, _⟩
      · rw [reaction_imei proper, List.filter_cons_of_neg (by simp)]
        rfl
      · have other : f ≠ env.imei := by
          rintro rfl
          exact not_relayable_imei proper relayable
        rw [reaction_relayed proper relayable, List.filter_cons_of_pos (by simpa using other)]
        rfl

/-- When nothing is in flight, both sides have heard everything. -/
theorem Agrees.drained (proper : ProperImei env.imei) (agrees : Agrees env session base l)
    (empty : l.up.inFlight = [] ∧ l.down.inFlight = []) : Drained env session base l := by
  obtain ⟨later, spoken⟩ := agrees.spoken
  have clean : ∀ f ∈ logonFrame env :: later, Receiver.Clean f :=
    List.forall_mem_cons.mpr
      ⟨clean_logonFrame proper, fun f member => (spoken.frames f member).2.1⟩
  have ordinary : ∀ f ∈ later, Ordinary env f := fun f member => (spoken.frames f member).1
  have frames : l.interpreted = logonFrame env :: later := by
    unfold interpreted
    rw [l.up.delivered_of_inFlight empty.1, spoken.sent, Device.strip_frames clean,
      cut_flatMap fun f member => (clean f member).noSeparator]
  have heard : l.down.delivered = load ++ answers (later.count env.imei) := by
    rw [l.down.delivered_of_inFlight empty.2, agrees.answers, frames]
    unfold answered
    have first : sentTo session [.send session load] = [load] := by
      simp [sentTo]
    rw [List.flatMap_cons, sentTo_append, sentTo_ordinary proper ordinary, reaction_logon, first]
    rfl
  have listened : l.transmitter.authorized = true ∧ l.transmitter.buffer = [] := by
    cases agrees.listening with
    | waiting _ _ short _ =>
        exfalso
        rw [heard, List.length_append] at short
        have four : load.length = 4 := rfl
        omega
    | granted k tail authorized eq unfinished buffer =>
        rw [heard, List.append_assoc] at eq
        exact ⟨authorized,
          buffer.trans (unfinished_answers (List.append_cancel_left eq) unfinished)⟩
  obtain ⟨d, _, _, stands⟩ := agrees.device
  obtain ⟨effects, log, seen⟩ := agrees.log
  refine ⟨empty, listened.1, ?_, ?_, ⟨effects, log, ?_⟩, ?_, listened.2⟩
  · rw [stands.owner, if_neg]
    rw [frames]
    exact List.cons_ne_nil _ _
  · rw [frames]
    exact ⟨rfl, spoken.relayed⟩
  · rw [← deviceCommands_concerns session, seen, frames, List.flatMap_cons,
      deviceCommands_append, reaction_logon, deviceCommands_ordinary proper ordinary,
      ← spoken.relayed]
    rfl
  · rw [frames]
    exact heard

/-- From wherever a run of the link has got to, what is in flight can be delivered in chunks of
any size, and then every relayed frame has been handed over once, in order. -/
theorem drains_of_run (proper : ProperImei env.imei) (named : settings.imei = env.imei)
    (dates : IsoDates env) (dates' : IsoDates tracker) {es : List Receiver.Event}
    {r b : Receiver} (earlier : Run (Receiver.step env) {} es r)
    (free : r.shared.authorizedSession = none) (accepted : r.step env .accept = some b)
    (t : Transmitter) {events : List Event} {l : Link}
    (run : Run (step settings env r.shared.created) (start settings t b) events l)
    (permitted : Guarded (step settings env r.shared.created)
      (Permitted env r.shared.created tracker) (start settings t b) events)
    (some_size : 0 < size) (heard : Bool) :
    ∃ deliveries l', (∀ e ∈ deliveries, Delivery size heard e) ∧
      Run (step settings env r.shared.created) l deliveries l' ∧ l'.relayed = l.relayed ∧
      Drained env r.shared.created b.shared.log l' := by
  have sound : Receiver.Sound r :=
    earlier.invariant (fun sound taken => sound.step taken) Receiver.sound_init
  rw [Receiver.step_accept] at accepted
  cases accepted
  have agrees := run.guarded (fun agrees permitted taken =>
    Agrees.step proper named dates dates' agrees permitted taken) permitted
    (agrees_start proper named t sound free)
  obtain ⟨reads, m, delivery, run', agrees', relayed, read⟩ :=
    agrees.read_all settings proper dates some_size heard
  obtain ⟨receives, l', delivery', run'', agrees'', relayed', empty⟩ :=
    agrees'.receive_all settings proper some_size heard read
  exact ⟨reads ++ receives, l', List.forall_mem_append.mpr ⟨delivery, delivery'⟩,
    run'.append run'', relayed'.trans relayed, agrees''.drained proper empty⟩

/-- A report and a heartbeat are on their way when the logon has been accepted. -/
def pendingEvents : List Event :=
  [.read 100, .receive 4 true, .deviceCommand (split isoReport), .timer]

theorem permitted_pendingEvents (l : Link) :
    Guarded (step isoSettings Receiver.isoEnv 0)
      (Permitted Receiver.isoEnv 0 Receiver.isoEnv) l pendingEvents :=
  ⟨trivial, fun _ _ => ⟨trivial, fun _ _ => ⟨⟨handedOver_isoReport, by decide⟩, fun _ _ =>
    ⟨trivial, fun _ _ => trivial⟩⟩⟩⟩

theorem pendingEvents_drain :
    ∃ l, Run (step isoSettings Receiver.isoEnv 0)
        (start isoSettings {} (Receiver.accepting {})) pendingEvents l ∧
      l.relayed = [split isoReport] ∧
      ∃ deliveries l', (∀ e ∈ deliveries, Delivery 7 true e) ∧
        Run (step isoSettings Receiver.isoEnv 0) l deliveries l' ∧ l'.relayed = l.relayed ∧
        Drained Receiver.isoEnv 0 [.construct 0] l' := by
  have executed : (pendingEvents.foldlM (step isoSettings Receiver.isoEnv 0)
      (start isoSettings {} (Receiver.accepting {}))).map Link.relayed =
        some [split isoReport] := by
    decide +kernel
  obtain ⟨l, folded, relayed⟩ := Option.map_eq_some_iff.mp executed
  have run := Run.of_foldlM folded
  exact ⟨l, run, relayed, drains_of_run properImei_isoEnv rfl Receiver.isoDates_isoEnv
    Receiver.isoDates_isoEnv (.nil _) rfl (Receiver.step_accept _) {} run
    (permitted_pendingEvents _) (by decide) true⟩

end Link

end GpsInformer
