import GpsInformer.LinkReceiver

/-!
# The two halves of the tracker protocol agree

A transmitter and the receiver it has connected to, configured with the same IMEI, keep the
connection up, whatever is relayed and however the bytes are delivered: the receiver takes
every frame for what the transmitter has sent it as, and the transmitter takes every answer
for what the receiver has sent it as (`agreement_of_run`).
-/

namespace GpsInformer

open Lib Function

open Device (deviceCommands logonFrame split Relayable BadDate IsoDates relayed incoming)

variable {env tracker : DeviceEnv} {settings : TransmitterSettings} {session : SessionId}

/-! ## What can be handed over -/

/-- The arguments are those of a frame that is relayed. -/
def Handed (arguments : List Str) : Prop :=
  ∃ command, Receiver.Clean command ∧ Relayable command ∧ ¬ BadDate command ∧
    arguments = split command

theorem deviceCommands_append (front back : List Effect) :
    deviceCommands (front ++ back) = deviceCommands front ++ deviceCommands back :=
  List.filterMap_append

theorem deviceCommands_hangUp {r : Receiver} (sound : Receiver.Sound r) (id : SessionId) :
    deviceCommands (r.hangUp env id).shared.log = deviceCommands r.shared.log :=
  Receiver.IgnoresEnd.ofHangUp ⟨fun _ => rfl, fun _ => rfl, fun _ => rfl, fun _ => rfl⟩ sound id

/-- A chunk hands over frames with valid dates only. -/
theorem handed_receive (dates : IsoDates tracker) {r t : Receiver} (sound : Receiver.Sound r)
    {data : Str} (handed : ∀ arguments ∈ deviceCommands r.shared.log, Handed arguments)
    (received : r.handleTcpSessionReceivedData tracker session data = .ok t) :
    ∀ arguments ∈ deviceCommands t.shared.log, Handed arguments := by
  have single : Receiver.receiveAll tracker session [data] r = .ok t := by
    rw [Receiver.receiveAll, List.foldlM_cons, received]
    rfl
  cases device : r.devices session with
  | none =>
      rw [Receiver.receiveAll_of_none device] at single
      cases single
      exact handed
  | some d =>
      have delivery := @Receiver.receiveAll_delivery tracker session d r device (sound.live device)
        [data]
      rw [single] at delivery
      cases delivery with
      | ok fine relays =>
          intro arguments member
          rw [relays] at member
          rcases List.mem_append.mp member with old | new
          · exact handed arguments old
          · obtain ⟨command, among, rfl⟩ := List.mem_map.mp new
            obtain ⟨reached, relayable⟩ := List.mem_filter.mp among
            exact ⟨command, Device.clean_incoming reached, of_decide_eq_true relayable,
              fine dates command reached, rfl⟩

theorem handed_step (dates : IsoDates tracker) {r t : Receiver} (sound : Receiver.Sound r)
    {e : Receiver.Event} (handed : ∀ arguments ∈ deviceCommands r.shared.log, Handed arguments)
    (taken : r.step tracker e = some t) :
    ∀ arguments ∈ deviceCommands t.shared.log, Handed arguments := by
  cases Receiver.step_cases taken with
  | accept =>
      have same : deviceCommands r.accepting.shared.log = deviceCommands r.shared.log :=
        (deviceCommands_append _ _).trans (List.append_nil _)
      rw [same]
      exact handed
  | readEnd id data failed _ _ =>
      have pending : Receiver.Sound (r.modifySession id Receiver.unread) :=
        sound.modifySession id Receiver.unread fun _ => rfl
      rw [deviceCommands_hangUp pending]
      exact handed
  | @read id data u _ _ received =>
      have pending : Receiver.Sound (r.modifySession id Receiver.unread) :=
        sound.modifySession id Receiver.unread fun _ => rfl
      have after : ∀ arguments ∈ deviceCommands u.shared.log, Handed arguments :=
        handed_receive dates pending handed received
      exact after
  | writeEnd id _ =>
      have pending : Receiver.Sound (r.modifySession id Receiver.unwritten) :=
        sound.modifySession id Receiver.unwritten fun _ => rfl
      rw [deviceCommands_hangUp pending]
      exact handed
  | written id _ => exact handed
  | writtenNext id _ =>
      have same : deviceCommands (((r.shared.modifySession id Receiver.unwritten).modifySession id
          Receiver.popped).write id).log = deviceCommands r.shared.log :=
        (deviceCommands_append _ _).trans (List.append_nil _)
      dsimp only
      rw [same]
      exact handed
  | close id _ =>
      have recorded : Receiver.Sound { r with shared := r.shared.record (.close id) } :=
        sound.with_shared fun _ => rfl
      have same : deviceCommands (r.shared.record (.close id)).log =
          deviceCommands r.shared.log := (deviceCommands_append _ _).trans (List.append_nil _)
      rw [deviceCommands_hangUp recorded, same]
      exact handed
  | noDownlink data => exact handed
  | downlink data id _ =>
      dsimp only
      rw [Device.deviceCommands_send]
      exact handed

theorem handed_of_handedOver (dates : IsoDates tracker) {arguments : List Str}
    (handedOver : Link.HandedOver tracker arguments) : Handed arguments := by
  obtain ⟨es, r, run, member⟩ := handedOver
  let Inv (r : Receiver) : Prop :=
    Receiver.Sound r ∧ ∀ arguments ∈ deviceCommands r.shared.log, Handed arguments
  have keeps : ∀ {s : Receiver} {e : Receiver.Event} {t : Receiver}, Inv s →
      s.step tracker e = some t → Inv t := fun kept taken =>
    ⟨kept.1.step taken, handed_step dates kept.1 kept.2 taken⟩
  have start : Inv {} := ⟨Receiver.sound_init, nofun⟩
  exact (run.invariant keeps start).2 arguments member

/-! ## What has been sent and answered -/

theorem written_of_waits {trace : List Transmitter.Action}
    (waits : ∀ action ∈ trace, Transmitter.Waits action) : Link.written trace = [] := by
  refine List.flatMap_eq_nil_iff.mpr fun action member => ?_
  have quiet := waits action member
  cases action with
  | send data => exact quiet.elim
  | connect => rfl
  | disconnect => rfl
  | expiresFromNow milliseconds => rfl
  | asyncWait => rfl
  | processClientData data => rfl

theorem sentTo_append (front back : List Effect) :
    sentTo session (front ++ back) = sentTo session front ++ sentTo session back :=
  List.filterMap_append

/-- What is sent to a session concerns it. -/
theorem sentTo_filter (log : List Effect) :
    sentTo session (log.filter (concerns session)) = sentTo session log := by
  induction log with
  | nil => rfl
  | cons e rest ih =>
      by_cases concerned : concerns session e = true
      · rw [List.filter_cons_of_pos concerned]
        have first := @sentTo_append session [e]
        exact (first _).trans ((congrArg _ ih).trans (first _).symm)
      · rw [List.filter_cons_of_neg concerned, ih]
        cases e with
        | send id data =>
            have other : ¬ id = session := by simpa [concerns] using concerned
            simp [sentTo, other]
        | trackerEvent origin message => rfl
        | asyncWrite id data => rfl
        | deviceCommand arguments => rfl
        | close id => rfl
        | hangUp id => rfl
        | construct id => rfl
        | destroy id => rfl

/-- The bytes that answer the frames of a transmitter. -/
def answered (env : DeviceEnv) (session : SessionId) (frames : List Str) : Str :=
  (sentTo session (frames.flatMap (reaction env session))).flatten

theorem answered_append (front back : List Str) :
    answered env session (front ++ back) =
      answered env session front ++ answered env session back := by
  unfold answered
  rw [List.flatMap_append, sentTo_append, List.flatten_append]

theorem sentTo_ordinary (proper : ProperImei env.imei) {frames : List Str}
    (ordinary : ∀ f ∈ frames, Ordinary env f) :
    sentTo session (frames.flatMap (reaction env session)) =
      List.replicate (frames.count env.imei) Transmitter.on := by
  induction frames with
  | nil => rfl
  | cons f rest ih =>
      have later := ih fun f member => ordinary f (List.mem_cons_of_mem _ member)
      rw [List.flatMap_cons, sentTo_append, later]
      rcases ordinary f List.mem_cons_self with rfl | ⟨relayable, _⟩
      · rw [reaction_imei proper, List.count_cons_self, List.replicate_succ]
        simp [sentTo]
      · have other : f ≠ env.imei := by
          rintro rfl
          exact not_relayable_imei proper relayable
        rw [reaction_relayed proper relayable, List.count_cons_of_ne other]
        rfl

/-- The logon is answered by `LOAD`, and each heartbeat by `ON`. -/
theorem sentTo_speaks (proper : ProperImei env.imei) {frames : List Str}
    (speaks : Speaks env frames) :
    sentTo session (frames.flatMap (reaction env session)) =
      (frames.take 1).map (fun _ => Transmitter.load) ++
        List.replicate ((frames.drop 1).count env.imei) Transmitter.on := by
  cases frames with
  | nil => rfl
  | cons first rest =>
      obtain ⟨rfl, ordinary⟩ := speaks first rest rfl
      rw [List.flatMap_cons, sentTo_append, sentTo_ordinary proper ordinary, reaction_logon]
      simp [sentTo]

/-- What a transmitter has sent is answered by `LOAD` and heartbeat answers. -/
theorem answered_speaks (session : SessionId) (proper : ProperImei env.imei) {frames : List Str}
    (speaks : Speaks env frames) :
    ∃ m, answered env session frames <+: Transmitter.load ++ Transmitter.answers m := by
  unfold answered
  rw [sentTo_speaks proper speaks]
  cases frames with
  | nil => exact ⟨0, List.nil_prefix⟩
  | cons first rest => exact ⟨rest.count env.imei, List.prefix_refl _⟩

/-! ## The invariant -/

namespace Link

open Transmitter (Listening Waits terminator load answers)

/-- What the transmitter has sent: the logon, and then heartbeats and the relayed frames. -/
structure Spoken (env : DeviceEnv) (l : Link) (later : List Str) : Prop where
  sent : l.up.sent = (logonFrame env :: later).flatMap (· ++ terminator)
  frames : ∀ f ∈ later, Ordinary env f ∧ Receiver.Clean f ∧ f.length ≤ 32768
  relayed : (later.filter (· ≠ env.imei)).map split = l.relayed

/-- The session has brought the frames read so far, and they have had their effects. -/
structure Brings (env : DeviceEnv) (session : SessionId) (base : List Effect) (l : Link) :
    Prop where
  sound : Receiver.Sound l.receiver
  within : session < l.receiver.shared.created
  active : (l.receiver.shared.sessions session).active = true
  opened : (l.receiver.shared.sessions session).isOpen = true
  reading : (l.receiver.shared.sessions session).reads ≠ 0
  device : ∃ d, l.receiver.devices session = some d ∧
    d.buffer = (cut ';' (Str.strip l.up.delivered)).2 ∧
    Stands env session l.interpreted d.imei l.receiver.shared
  log : ∃ later, l.receiver.shared.log = base ++ later ∧
    later.filter (concerns session) = l.interpreted.flatMap (reaction env session)

/-- What holds whatever the transmitter has heard. -/
structure Joined (env : DeviceEnv) (session : SessionId) (base : List Effect) (l : Link) :
    Prop extends Brings env session base l where
  spoken : ∃ later, Spoken env l later
  answers : l.down.sent = answered env session l.interpreted
  connected : .disconnect ∉ l.transmitter.trace

structure Agrees (env : DeviceEnv) (session : SessionId) (base : List Effect) (l : Link) :
    Prop extends Joined env session base l where
  listening : Listening l.transmitter l.down.delivered

variable {base : List Effect} {l l' : Link} {later : List Str}

theorem clean_imei (proper : ProperImei env.imei) : Receiver.Clean env.imei :=
  ⟨fun present => (proper.plain _ present).2.1 rfl,
    fun present => (proper.plain _ present).2.2.1 rfl,
    fun present => (proper.plain _ present).2.2.2 rfl⟩

theorem clean_logonFrame (proper : ProperImei env.imei) : Receiver.Clean (logonFrame env) := by
  have plain : ∀ c ∈ logonFrame env, c ≠ ';' ∧ c ≠ '\r' ∧ c ≠ '\n' := by
    intro c member
    have mark : ∀ c ∈ Device.logonMark ++ ',' :: Device.imeiMark,
        c ≠ ';' ∧ c ≠ '\r' ∧ c ≠ '\n' := by
      simp [Device.logonMark, Device.imeiMark]
    have last : ∀ c ∈ [',', 'A'], c ≠ ';' ∧ c ≠ '\r' ∧ c ≠ '\n' := by
      simp
    have parts : logonFrame env = (Device.logonMark ++ ',' :: Device.imeiMark) ++ env.imei ++
        [',', 'A'] := by
      simp [logonFrame]
    rw [parts] at member
    rcases List.mem_append.mp member with front | back
    · rcases List.mem_append.mp front with first | inner
      · exact mark c first
      · exact (proper.plain c inner).2
    · exact last c back
  exact ⟨fun present => (plain _ present).1 rfl, fun present => (plain _ present).2.1 rfl,
    fun present => (plain _ present).2.2 rfl⟩

/-- What has been read is the first of the frames that have been sent. -/
theorem Spoken.reads (proper : ProperImei env.imei) (spoken : Spoken env l later)
    {read unread : Str}
    (whole : read ++ unread = l.up.sent) :
    (cut ';' read.strip).1 <+: logonFrame env :: later ∧ (cut ';' read.strip).2.length ≤ 32768 := by
  have clean : ∀ f ∈ logonFrame env :: later, Receiver.Clean f := by
    intro f member
    rcases List.mem_cons.mp member with rfl | among
    · exact clean_logonFrame proper
    · exact (spoken.frames f among).2.1
  have stripped : read.strip ++ unread.strip = (logonFrame env :: later).flatMap (· ++ [';']) := by
    rw [← Str.strip_append, whole, spoken.sent]
    exact Device.strip_frames clean
  obtain ⟨isPrefix, bounded⟩ := cut_prefix (fun f member => (clean f member).noSeparator) stripped
  refine ⟨isPrefix, bounded 32768 fun f member => ?_⟩
  rcases List.mem_cons.mp member with rfl | among
  · unfold logonFrame
    simp [proper.length, Device.logonMark, Device.imeiMark]
  · exact (spoken.frames f among).2.2

theorem Spoken.speaks (spoken : Spoken env l later) {frames : List Str}
    (isPrefix : frames <+: logonFrame env :: later) : Speaks env frames := by
  rintro first rest rfl
  obtain ⟨rfl, others⟩ := List.cons_prefix_cons.mp isPrefix
  exact ⟨rfl, fun f member => (spoken.frames f (others.subset member)).1⟩

/-! ## The events of the transmitter -/

theorem Joined.transmit (joined : Joined env session base l)
    {handler : Transmitter → Transmitter} {t : Transmitter}
    (result : handler { l.transmitter with trace := [] } = t) (calm : .disconnect ∉ t.trace)
    (listening : Listening t l.down.delivered) (frames : List Str)
    (frames_eq : written t.trace = frames.flatMap (· ++ terminator))
    (fine : ∀ f ∈ frames, Ordinary env f ∧ Receiver.Clean f ∧ f.length ≤ 32768)
    {relayed : List (List Str)}
    (relays : relayed = l.relayed ++ (frames.filter (· ≠ env.imei)).map split) :
    Agrees env session base { l.transmit handler with relayed } := by
  obtain ⟨later, spoken⟩ := joined.spoken
  refine ⟨⟨⟨joined.sound, joined.within, joined.active, joined.opened, joined.reading,
    joined.device, joined.log⟩, ⟨later ++ frames, ?_, ?_, ?_⟩, joined.answers, ?_⟩, ?_⟩
  · unfold Link.transmit
    dsimp only
    rw [result, frames_eq]
    change l.up.sent ++ _ = _
    rw [spoken.sent, ← List.flatMap_append, List.cons_append]
  · exact List.forall_mem_append.mpr ⟨spoken.frames, fine⟩
  · rw [List.filter_append, List.map_append, spoken.relayed]
    exact relays.symm
  · unfold Link.transmit
    dsimp only
    rw [result, List.mem_append, not_or]
    exact ⟨joined.connected, calm⟩
  · unfold Link.transmit
    dsimp only
    rw [result]
    exact listening.congr rfl rfl

theorem Agrees.deviceCommand (proper : ProperImei env.imei)
    (agrees : Agrees env session base l) {arguments : List Str} (handed : Handed arguments)
    (short : ([','].intercalate arguments).length ≤ 32768) {l' : Link}
    (taken : step settings env session l (.deviceCommand arguments) = some l') :
    Agrees env session base l' := by
  obtain ⟨command, clean, relayable, fine, rfl⟩ := handed
  have joined : [','].intercalate (split command) = command := by
    unfold split
    rw [List.intercalate_splitOn]
  rw [joined] at short
  cases taken
  cases authorized : l.transmitter.authorized with
  | true =>
      have sends : Transmitter.handleDeviceCommand (split command)
          { l.transmitter with trace := [] } =
          { l.transmitter with trace := [.send (command ++ terminator)] } := by
        unfold Transmitter.handleDeviceCommand
        dsimp only
        rw [if_pos authorized, joined]
        rfl
      have other : command ≠ env.imei := by
        rintro rfl
        exact not_relayable_imei proper relayable
      refine agrees.transmit sends (by simp) (agrees.listening.congr rfl rfl) [command]
        (by simp [written]) ?_ ?_
      · intro f member
        rw [List.mem_singleton.mp member]
        exact ⟨Or.inr ⟨relayable, fine⟩, clean, short⟩
      · rw [List.filter_cons_of_pos (by simpa using other)]
        rfl
  | false =>
      have idle : Transmitter.handleDeviceCommand (split command)
          { l.transmitter with trace := [] } = { l.transmitter with trace := [] } := by
        unfold Transmitter.handleDeviceCommand
        exact if_neg (by simp [authorized])
      exact agrees.transmit idle List.not_mem_nil (agrees.listening.congr rfl rfl) []
        rfl nofun (List.append_nil _).symm

theorem Agrees.timer (proper : ProperImei env.imei) (named : settings.imei = env.imei)
    (agrees : Agrees env session base l) {l' : Link}
    (taken : step settings env session l .timer = some l') : Agrees env session base l' := by
  cases taken
  have kept : ∀ {handler : Transmitter → Transmitter} {t : Transmitter},
      handler { l.transmitter with trace := [] } = t → .disconnect ∉ t.trace →
      Listening t l.down.delivered → ∀ frames : List Str,
      written t.trace = frames.flatMap (· ++ terminator) → (∀ f ∈ frames, f = env.imei) →
      Agrees env session base (l.transmit handler) := by
    intro handler t result calm listening frames frames_eq beats
    refine agrees.transmit result calm listening frames frames_eq (fun f member => ?_) ?_
    · rw [beats f member]
      exact ⟨Or.inl rfl, clean_imei proper, by rw [proper.length]; decide⟩
    · have none' : frames.filter (· ≠ env.imei) = [] :=
        List.filter_eq_nil_iff.mpr fun f member => by simpa using beats f member
      rw [none']
      exact (List.append_nil _).symm
  cases authorized : l.transmitter.authorized with
  | true =>
      have beats : Transmitter.handleTransmitterTimer settings { l.transmitter with trace := [] } =
          { l.transmitter with trace := [.send (env.imei ++ terminator)] } := by
        unfold Transmitter.handleTransmitterTimer
        rw [if_pos authorized, named, if_pos (by rw [proper.length]; decide)]
        rfl
      exact kept beats (by simp) (agrees.listening.congr rfl rfl) [env.imei] (by simp [written])
        fun f member => List.mem_singleton.mp member
  | false =>
      have retries : Transmitter.handleTransmitterTimer settings
          { l.transmitter with trace := [] } =
          Transmitter.startTransmitter settings { l.transmitter with trace := [] } := by
        unfold Transmitter.handleTransmitterTimer
        exact if_neg (by simp [authorized])
      unfold Transmitter.startTransmitter at retries
      split at retries
      · exact kept retries List.not_mem_nil (agrees.listening.congr rfl rfl) [] rfl nofun
      · exact kept retries (by simp [Transmitter.record]) (agrees.listening.congr rfl rfl) []
          rfl nofun

theorem Agrees.receive (proper : ProperImei env.imei) (agrees : Agrees env session base l)
    {size : Nat} {tracker : Bool} {l' : Link}
    (taken : step settings env session l (.receive size tracker) = some l') :
    Agrees env session base l' := by
  unfold step at taken
  dsimp only at taken
  split at taken
  · cases taken
  cases taken
  obtain ⟨later, spoken⟩ := agrees.spoken
  have speaks : Speaks env l.interpreted :=
    spoken.speaks (spoken.reads proper l.up.delivered_inFlight).1
  obtain ⟨m, bound⟩ := answered_speaks session proper speaks
  rw [← agrees.answers] at bound
  have expected := (l.down.inOrder_chunk size).trans bound
  have heard : Listening { l.transmitter with trace := [] } l.down.delivered :=
    agrees.listening.congr rfl rfl
  obtain ⟨listening, waits⟩ := heard.receive settings rfl expected tracker
  have delivered : Joined env session base { l with down := l.down.deliver size } :=
    ⟨⟨agrees.sound, agrees.within, agrees.active, agrees.opened, agrees.reading, agrees.device,
      agrees.log⟩, ⟨later, spoken.sent, spoken.frames, spoken.relayed⟩, agrees.answers,
      agrees.connected⟩
  exact delivered.transmit rfl (fun member => waits _ member) listening [] (written_of_waits waits)
    nofun (List.append_nil _).symm

/-! ## The events of the receiver -/

/-- What a step of the receiver adds to the channel down. -/
theorem sent_answer {r : Receiver} {effects : List Effect}
    (deals : Deals session l.receiver.shared r.shared effects) :
    (l.answer session r).down.sent = l.down.sent ++ (sentTo session effects).flatten := by
  obtain ⟨later, eq, seen⟩ := deals.log
  unfold answer Channel.send
  dsimp only
  rw [eq, List.drop_left, ← seen, sentTo_filter]

/-- A chunk extends the frames that have been read. -/
theorem interpreted_deliver (size : Nat) {d : Device}
    (buffer : d.buffer = (cut ';' (Str.strip l.up.delivered)).2) :
    cut ';' (Str.strip (l.up.delivered ++ l.up.chunk size)) =
      (l.interpreted ++ (cut ';' (d.buffer ++ l.up.chunk size).strip).1,
        (cut ';' (d.buffer ++ l.up.chunk size).strip).2) := by
  have clean : Receiver.Clean d.buffer := by
    rw [buffer]
    exact Receiver.clean_rest _
  rw [Str.strip_append, cut_append, clean.strip_append, buffer]
  rfl

theorem Agrees.read (settings : TransmitterSettings) (proper : ProperImei env.imei)
    (dates : IsoDates env) (agrees : Agrees env session base l) {size : Nat}
    (waiting : l.up.chunk size ≠ []) :
    ∃ l', step settings env session l (.read size) = some l' ∧ Agrees env session base l' := by
  obtain ⟨later, spoken⟩ := agrees.spoken
  obtain ⟨d, device, buffer, stands⟩ := agrees.device
  have grown := interpreted_deliver (l := l) size buffer
  obtain ⟨isPrefix, short⟩ := spoken.reads proper (l.up.deliver size).delivered_inFlight
  change (cut ';' (Str.strip (l.up.delivered ++ l.up.chunk size))).1 <+: _ at isPrefix
  change (cut ';' (Str.strip (l.up.delivered ++ l.up.chunk size))).2.length ≤ _ at short
  rw [grown] at isPrefix short
  obtain ⟨r, d', taken, device', buffer', deals, stands'⟩ := read_speaks proper dates device
    agrees.active agrees.opened agrees.reading waiting (spoken.speaks isPrefix) short stands
  have sent := sent_answer deals
  obtain ⟨before, eq, seen⟩ := agrees.log
  obtain ⟨added, eq', seen'⟩ := deals.log
  have interpreted : Link.interpreted { l.answer session r with up := l.up.deliver size } =
      l.interpreted ++ (cut ';' (d.buffer ++ l.up.chunk size).strip).1 :=
    congrArg Prod.fst grown
  refine ⟨{ l.answer session r with up := l.up.deliver size }, ?_, ?_⟩
  · unfold step
    dsimp only
    rw [if_neg waiting, taken]
    rfl
  · refine ⟨⟨⟨agrees.sound.step taken, Nat.lt_of_lt_of_le agrees.within deals.created,
      deals.active.trans agrees.active, deals.isOpen.trans agrees.opened, ?_,
      ⟨d', device', ?_, ?_⟩, before ++ added, ?_, ?_⟩,
      ⟨later, spoken.sent, spoken.frames, spoken.relayed⟩, ?_, agrees.connected⟩,
      agrees.listening⟩
    · exact fun none' => agrees.reading (deals.reads.symm.trans none')
    · exact buffer'.trans (congrArg Prod.snd grown).symm
    · rw [interpreted]
      exact stands'
    · rw [← List.append_assoc, ← eq]
      exact eq'
    · rw [List.filter_append, seen, seen', interpreted, List.flatMap_append]
    · rw [interpreted, answered_append, ← agrees.answers]
      exact sent

theorem Agrees.receiver (agrees : Agrees env session base l) {e : Receiver.Event}
    (elsewhere : Elsewhere env session l.receiver e)
    (taken : step settings env session l (.receiver e) = some l') :
    Agrees env session base l' := by
  obtain ⟨r, stepped, rfl⟩ := Option.map_eq_some_iff.mp taken
  obtain ⟨d, device, buffer, stands⟩ := agrees.device
  have owner : ∀ id, l.receiver.shared.authorizedSession = some id → id = session := by
    intro id same
    rw [stands.owner] at same
    split at same
    · cases same
    · exact (Option.some.inj same).symm
  obtain ⟨deals, same, device'⟩ :=
    elsewhere_deals agrees.sound agrees.within owner elsewhere stepped
  have sent := sent_answer deals
  obtain ⟨before, eq, seen⟩ := agrees.log
  obtain ⟨added, eq', seen'⟩ := deals.log
  obtain ⟨later, spoken⟩ := agrees.spoken
  refine ⟨⟨⟨agrees.sound.step stepped, Nat.lt_of_lt_of_le agrees.within deals.created,
    deals.active.trans agrees.active, deals.isOpen.trans agrees.opened, ?_,
    ⟨d, device'.trans device, buffer, stands.imei, same.trans stands.owner⟩, before ++ added, ?_,
    ?_⟩, ⟨later, spoken.sent, spoken.frames, spoken.relayed⟩, ?_, agrees.connected⟩,
    agrees.listening⟩
  · exact fun none' => agrees.reading (deals.reads.symm.trans none')
  · rw [← List.append_assoc, ← eq]
    exact eq'
  · rw [List.filter_append, seen, seen', List.append_nil]
    rfl
  · rw [sent]
    exact (List.append_nil _).trans agrees.answers

theorem Agrees.step (proper : ProperImei env.imei) (named : settings.imei = env.imei)
    (dates : IsoDates env) (dates' : IsoDates tracker) (agrees : Agrees env session base l)
    {e : Event} (permitted : Permitted env session tracker l e)
    (taken : Link.step settings env session l e = some l') : Agrees env session base l' := by
  cases e with
  | deviceCommand arguments =>
      exact agrees.deviceCommand proper (handed_of_handedOver dates' permitted.1) permitted.2 taken
  | timer => exact agrees.timer proper named taken
  | receive size tracker => exact agrees.receive proper taken
  | read size =>
      by_cases empty : l.up.chunk size = []
      · unfold Link.step at taken
        dsimp only at taken
        rw [if_pos empty] at taken
        cases taken
      · obtain ⟨l'', taken', agrees'⟩ := agrees.read settings proper dates empty
        cases taken.symm.trans taken'
        exact agrees'
  | receiver event => exact agrees.receiver permitted taken

/-- The transmitter of a new connection and the receiver that has just accepted it agree. -/
theorem agrees_start (proper : ProperImei env.imei) (named : settings.imei = env.imei)
    (t : Transmitter) {r : Receiver} (sound : Receiver.Sound r)
    (free : r.shared.authorizedSession = none) :
    Agrees env r.shared.created r.accepting.shared.log (start settings t r.accepting) := by
  have accepted : r.accepting.shared.sessions r.shared.created =
      { active := true, isOpen := true, registered := true, reads := 1 } := update_self _ _ _
  have device : r.accepting.devices r.shared.created = some {} := update_self _ _ _
  have connects : Transmitter.handleTcpClientConnect settings { t with trace := [] } =
      { authorized := false, buffer := [], trace := [.send (logonFrame env ++ terminator)] } := by
    unfold Transmitter.handleTcpClientConnect
    rw [if_pos (by rw [named, proper.length]; decide), named]
    rfl
  have sent : written [.send (logonFrame env ++ terminator)] = logonFrame env ++ terminator :=
    List.append_nil _
  have begun : start settings t r.accepting =
      { transmitter := ⟨false, [], [.send (logonFrame env ++ terminator)]⟩
        receiver := r.accepting
        up := ({} : Channel Char).send (logonFrame env ++ terminator) } := by
    unfold start transmit
    dsimp only
    rw [connects, sent]
    rfl
  rw [begun]
  refine ⟨⟨⟨sound.accepting, Nat.lt_succ_self _, ?_, ?_, ?_, ⟨{}, device, rfl, rfl, free⟩,
    [], (List.append_nil _).symm, rfl⟩, ⟨[], ?_, nofun, rfl⟩, rfl, by simp⟩, ?_⟩
  · rw [accepted]
  · rw [accepted]
  · rw [accepted]
    decide
  · exact (List.append_nil _).symm
  · exact .waiting rfl List.nil_prefix (Nat.zero_lt_succ 3) rfl

/-! ## What the two sides agree on -/

/-- The two sides agree on what has gone over the link; `base` is what the receiver had done
when the connection was made. -/
structure Agreement (settings : TransmitterSettings) (env : DeviceEnv) (session : SessionId)
    (base : List Effect) (l : Link) : Prop where
  /-- the receiver has not closed the session, and has answered the logon with `LOAD` and
  each heartbeat with `ON` -/
  kept : (l.receiver.devices session).isSome ∧
    (l.receiver.shared.sessions session).isOpen = true ∧
    ∃ later, l.receiver.shared.log = base ++ later ∧
      later.filter (concerns session) = l.interpreted.flatMap (reaction env session) ∧
      .close session ∉ later ∧ .hangUp session ∉ later ∧
      sentTo session later = (l.interpreted.take 1).map (fun _ => load) ++
        List.replicate ((l.interpreted.drop 1).count env.imei) Transmitter.on
  /-- the transmitter has not called `disconnect` -/
  connected : .disconnect ∉ l.transmitter.trace
  /-- the transmitter is authorized only by the receiver's acceptance of its logon -/
  accepted : l.transmitter.authorized = true →
    l.receiver.shared.authorizedSession = some session ∧
      l.interpreted.head? = some (logonFrame env)
  /-- what the receiver reads after the logon, but for heartbeats, has been relayed -/
  relayed : ((l.interpreted.drop 1).filter (· ≠ env.imei)).map split <+: l.relayed
  /-- the receiver reads whatever comes next -/
  reads : ∀ size, l.up.chunk size ≠ [] → (step settings env session l (.read size)).isSome

theorem mem_reaction {f : Str} {e : Effect} (member : e ∈ reaction env session f) :
    (∃ data, e = .send session data) ∨ ∃ arguments, e = .deviceCommand arguments := by
  unfold reaction at member
  split at member
  · exact Or.inl ⟨_, List.mem_singleton.mp member⟩
  · split at member
    · exact Or.inl ⟨_, List.mem_singleton.mp member⟩
    · exact Or.inr ⟨_, List.mem_singleton.mp member⟩

/-- What has been answered is not empty unless a frame has been read. -/
theorem Agrees.logon_read (proper : ProperImei env.imei) (agrees : Agrees env session base l)
    (authorized : l.transmitter.authorized = true) :
    l.interpreted.head? = some (logonFrame env) := by
  obtain ⟨later, spoken⟩ := agrees.spoken
  have speaks : Speaks env l.interpreted :=
    spoken.speaks (spoken.reads proper l.up.delivered_inFlight).1
  cases frames : l.interpreted with
  | cons first rest =>
      obtain ⟨rfl, _⟩ := speaks first rest frames
      rfl
  | nil =>
      have nothing : l.down.delivered = [] := by
        have sent : l.down.sent = [] := by
          rw [agrees.answers, frames]
          rfl
        have inOrder := l.down.inOrder
        rw [sent] at inOrder
        exact List.prefix_nil.mp inOrder
      cases agrees.listening with
      | waiting unauthorized => cases unauthorized.symm.trans authorized
      | granted k tail _ heard =>
          rw [nothing] at heard
          cases heard

theorem Agrees.agreement (proper : ProperImei env.imei) (dates : IsoDates env)
    (agrees : Agrees env session base l) : Agreement settings env session base l := by
  obtain ⟨spokenFrames, spoken⟩ := agrees.spoken
  obtain ⟨isPrefix, _⟩ := spoken.reads proper l.up.delivered_inFlight
  have speaks : Speaks env l.interpreted := spoken.speaks isPrefix
  obtain ⟨d, device, _, stands⟩ := agrees.device
  obtain ⟨later, eq, seen⟩ := agrees.log
  have quiet : ∀ e ∈ later, concerns session e = true →
      (∃ data, e = .send session data) ∨ ∃ arguments, e = .deviceCommand arguments := by
    intro e member concerned
    have among := List.mem_filter.mpr ⟨member, concerned⟩
    rw [seen] at among
    obtain ⟨f, _, here⟩ := List.mem_flatMap.mp among
    exact mem_reaction here
  refine ⟨⟨by rw [device]; rfl, agrees.opened, later, eq, seen, ?_, ?_, ?_⟩, agrees.connected,
    fun authorized => ?_, ?_, fun size waiting => ?_⟩
  · intro closed
    rcases quiet _ closed (decide_eq_true rfl) with ⟨_, same⟩ | ⟨_, same⟩
    · cases same
    · cases same
  · intro hung
    rcases quiet _ hung (decide_eq_true rfl) with ⟨_, same⟩ | ⟨_, same⟩
    · cases same
    · cases same
  · rw [← sentTo_filter, seen]
    exact sentTo_speaks proper speaks
  · have first := agrees.logon_read proper authorized
    refine ⟨?_, first⟩
    rw [stands.owner, if_neg]
    rintro none'
    rw [none'] at first
    cases first
  · have others : l.interpreted.drop 1 <+: spokenFrames := isPrefix.drop 1
    rw [← spoken.relayed]
    exact (others.filter _).map split
  · obtain ⟨l', taken, _⟩ := agrees.read settings proper dates waiting
    rw [taken]
    rfl

/-- The two halves of the tracker protocol agree in every run of the link: the transmitter
has been told of its connection, and the receiver, which has no authorized session, has
accepted it. -/
theorem agreement_of_run (proper : ProperImei env.imei) (named : settings.imei = env.imei)
    (dates : IsoDates env) (dates' : IsoDates tracker) {es : List Receiver.Event}
    {r b : Receiver} (earlier : Run (Receiver.step env) {} es r)
    (free : r.shared.authorizedSession = none) (accepted : r.step env .accept = some b)
    (t : Transmitter) {events : List Event} {l : Link}
    (run : Run (step settings env r.shared.created) (start settings t b) events l)
    (permitted : Guarded (step settings env r.shared.created)
      (Permitted env r.shared.created tracker) (start settings t b) events) :
    Agreement settings env r.shared.created b.shared.log l := by
  have sound : Receiver.Sound r :=
    earlier.invariant (fun sound taken => sound.step taken) Receiver.sound_init
  rw [Receiver.step_accept] at accepted
  cases accepted
  have agrees := run.guarded (fun agrees permitted taken =>
    Agrees.step proper named dates dates' agrees permitted taken) permitted
    (agrees_start proper named t sound free)
  exact agrees.agreement proper dates

/-- A transmitter of the tracker of `isoEnv`. -/
def isoSettings : TransmitterSettings where
  imei := Receiver.isoEnv.imei

/-- A report of the tracker. -/
def isoReport : Str := "imei:123456789012345,tracker,170228000000,,,".toList

theorem properImei_isoEnv : ProperImei Receiver.isoEnv.imei := by
  have digits : Receiver.isoEnv.imei.all (·.isDigit) = true := by rfl
  refine ⟨rfl, fun c member => ?_⟩
  have digit := List.all_eq_true.mp digits c member
  refine ⟨?_, ?_, ?_, ?_⟩
  all_goals
    rintro rfl
    cases digit

theorem handedOver_isoReport : HandedOver Receiver.isoEnv (split isoReport) := by
  have executed : (([.accept, .read 0 "##,imei:123456789012345,A;".toList false,
      .read 0 (isoReport ++ [';']) false].foldlM (Receiver.step Receiver.isoEnv) {}).map
        fun r => deviceCommands r.shared.log) = some [split isoReport] := by
    decide +kernel
  obtain ⟨r, folded, commands⟩ := Option.map_eq_some_iff.mp executed
  exact ⟨_, r, .of_foldlM folded, by rw [commands]; exact List.mem_singleton_self _⟩

/-- The logon is accepted; a report is relayed, the transmitter's timer fires, and the
receiver answers the heartbeat. -/
def relayingEvents : List Event :=
  [.read 100, .receive 4 true, .deviceCommand (split isoReport), .timer, .read 100,
    .receive 1 true]

theorem permitted_relayingEvents (l : Link) :
    Guarded (step isoSettings Receiver.isoEnv 0)
      (Permitted Receiver.isoEnv 0 Receiver.isoEnv) l relayingEvents :=
  ⟨trivial, fun _ _ => ⟨trivial, fun _ _ => ⟨⟨handedOver_isoReport, by decide⟩, fun _ _ =>
    ⟨trivial, fun _ _ => ⟨trivial, fun _ _ => ⟨trivial, fun _ _ => trivial⟩⟩⟩⟩⟩⟩

theorem relayingEvents_agree :
    ∃ l, Run (step isoSettings Receiver.isoEnv 0)
        (start isoSettings {} (Receiver.accepting {})) relayingEvents l ∧
      l.interpreted = [logonFrame Receiver.isoEnv, isoReport, Receiver.isoEnv.imei] ∧
      Agreement isoSettings Receiver.isoEnv 0 [.construct 0] l := by
  have executed : (relayingEvents.foldlM (step isoSettings Receiver.isoEnv 0)
      (start isoSettings {} (Receiver.accepting {}))).map interpreted =
        some [logonFrame Receiver.isoEnv, isoReport, Receiver.isoEnv.imei] := by
    decide +kernel
  obtain ⟨l, folded, frames⟩ := Option.map_eq_some_iff.mp executed
  have run := Run.of_foldlM folded
  exact ⟨l, run, frames, agreement_of_run properImei_isoEnv rfl Receiver.isoDates_isoEnv
    Receiver.isoDates_isoEnv (.nil _) rfl (Receiver.step_accept _) {} run
    (permitted_relayingEvents _)⟩

end Link

end GpsInformer
