import GpsInformer.TrackerLink
import GpsInformer.UplinkRelay

/-!
# What the receiver makes of a transmitter's frames

A transmitter sends the logon of its IMEI, heartbeats, and frames that have been relayed.
`interpret_speaks` gives the effects of these frames on their session one by one, and
`elsewhere_deals` says that what the other sessions do has none.
-/

namespace GpsInformer

open Lib Function

open Device (deviceCommands logonFrame logonMark imeiMark split Relayable BadDate IsoDates
  interpret processCommand)

/-- What an effect means for one session: it is sent something or closed, or a frame of it,
as the authorized session, is handed over. -/
def concerns (session : SessionId) : Effect → Bool
  | .send id _ | .close id | .hangUp id => decide (id = session)
  | .deviceCommand _ => true
  | _ => false

/-- From `s` to `t` the session stays as it is, with these effects. -/
structure Deals (session : SessionId) (s t : Shared) (effects : List Effect) : Prop where
  created : s.created ≤ t.created
  isOpen : (t.sessions session).isOpen = (s.sessions session).isOpen
  active : (t.sessions session).active = (s.sessions session).active
  reads : (t.sessions session).reads = (s.sessions session).reads
  log : ∃ later, t.log = s.log ++ later ∧ later.filter (concerns session) = effects

variable {env : DeviceEnv} {session id : SessionId} {s t u : Shared} {effects more : List Effect}

namespace Deals

theorem refl (session : SessionId) (s : Shared) : Deals session s s [] :=
  ⟨Nat.le_refl _, rfl, rfl, rfl, [], (List.append_nil _).symm, rfl⟩

theorem trans (first : Deals session s t effects) (second : Deals session t u more) :
    Deals session s u (effects ++ more) := by
  obtain ⟨front, eq, seen⟩ := first.log
  obtain ⟨back, eq', seen'⟩ := second.log
  refine ⟨Nat.le_trans first.created second.created, second.isOpen.trans first.isOpen,
    second.active.trans first.active, second.reads.trans first.reads, front ++ back, ?_, ?_⟩
  · rw [eq', eq, List.append_assoc]
  · rw [List.filter_append, seen, seen']

theorem record (session : SessionId) (s : Shared) (e : Effect) :
    Deals session s (s.record e) ([e].filter (concerns session)) :=
  ⟨Nat.le_refl _, rfl, rfl, rfl, [e], rfl, rfl⟩

theorem record_silent {e : Effect} (silent : concerns session e = false) :
    Deals session s (s.record e) [] := by
  have deals := record session s e
  rwa [List.filter_cons_of_neg (by simp [silent]), List.filter_nil] at deals

theorem universalTime (session : SessionId) (env : DeviceEnv) (s : Shared) :
    Deals session s (s.universalTime env).2 [] :=
  ⟨Nat.le_refl _, rfl, rfl, rfl, [], (List.append_nil _).symm, rfl⟩

theorem authorize (session : SessionId) (owner : Option SessionId) :
    Deals session s { s with authorizedSession := owner } [] :=
  ⟨Nat.le_refl _, rfl, rfl, rfl, [], (List.append_nil _).symm, rfl⟩

/-- A change of what a session has still to write. -/
theorem modifySession {f : TcpSession → TcpSession}
    (same : ∀ x, (f x).isOpen = x.isOpen ∧ (f x).active = x.active ∧ (f x).reads = x.reads) :
    Deals session s (s.modifySession id f) [] := by
  have here : ((s.modifySession id f).sessions session).isOpen = (s.sessions session).isOpen ∧
      ((s.modifySession id f).sessions session).active = (s.sessions session).active ∧
      ((s.modifySession id f).sessions session).reads = (s.sessions session).reads := by
    by_cases own : session = id
    · rw [own, Receiver.modifySession_self]
      exact same _
    · rw [Receiver.modifySession_of_ne own]
      exact ⟨rfl, rfl, rfl⟩
  exact ⟨Nat.le_refl _, here.1, here.2.1, here.2.2, [], (List.append_nil _).symm, rfl⟩

/-- A change of another session. -/
theorem modifySession_other (other : session ≠ id) (f : TcpSession → TcpSession) :
    Deals session s (s.modifySession id f) [] := by
  have here : (s.modifySession id f).sessions session = s.sessions session :=
    Receiver.modifySession_of_ne other s
  refine ⟨Nat.le_refl _, ?_, ?_, ?_, [], (List.append_nil _).symm, rfl⟩
  · rw [here]
  · rw [here]
  · rw [here]

theorem cleanup (other : session ≠ id) (s : Shared) : Deals session s (s.cleanup id) [] :=
  modifySession_other other _

theorem write (session id : SessionId) (s : Shared) : Deals session s (s.write id) [] := by
  have counted : Deals session s
      (s.modifySession id fun x => { x with writes := x.writes + 1 }) [] :=
    modifySession fun _ => ⟨rfl, rfl, rfl⟩
  exact counted.trans (record_silent rfl)

theorem send (opened : (s.sessions session).isOpen = true) (data : Str) :
    Deals session s (s.send session data) [.send session data] := by
  have queued : Deals session s
      (s.modifySession session fun x => { x with writeQueue := x.writeQueue ++ [data] }) [] :=
    modifySession fun _ => ⟨rfl, rfl, rfl⟩
  have sent := queued.trans (record session _ (.send session data))
  rw [List.nil_append, List.filter_cons_of_pos (by simp [concerns]), List.filter_nil] at sent
  unfold Shared.send
  rw [opened]
  dsimp only
  split
  · rename_i impossible
    cases impossible
  · split
    · exact sent.trans (write session session _)
    · exact sent

end Deals

/-! ## The frames -/

/-- An IMEI that can be configured on both sides. -/
structure ProperImei (imei : Str) : Prop where
  length : imei.length = 15
  plain : ∀ c ∈ imei, c ≠ ',' ∧ c ≠ ';' ∧ c ≠ '\r' ∧ c ≠ '\n'

/-- A heartbeat, or a frame that has been relayed. -/
def Ordinary (env : DeviceEnv) (frame : Str) : Prop :=
  frame = env.imei ∨ Relayable frame ∧ ¬ BadDate frame

/-- What a transmitter sends: the logon first, then ordinary frames. -/
def Speaks (env : DeviceEnv) (frames : List Str) : Prop :=
  ∀ first rest, frames = first :: rest → first = logonFrame env ∧ ∀ f ∈ rest, Ordinary env f

/-- What a frame is to do. -/
def reaction (env : DeviceEnv) (session : SessionId) (frame : Str) : List Effect :=
  if frame = logonFrame env then [.send session Transmitter.load]
  else if frame = env.imei then [.send session Transmitter.on]
  else [.deviceCommand (split frame)]

theorem reaction_logon : reaction env session (logonFrame env) = [.send session Transmitter.load] :=
  if_pos rfl

section Frames

variable (proper : ProperImei env.imei)

include proper

theorem split_imei : split env.imei = [env.imei] := by
  have absent : ∀ l ∈ [env.imei], ',' ∉ l := by
    intro l member present
    rw [List.mem_singleton.mp member] at present
    exact (proper.plain _ present).1 rfl
  have single := List.splitOn_intercalate ',' absent (List.cons_ne_nil _ _)
  simpa [split, List.intercalate] using single

theorem split_logonFrame :
    split (logonFrame env) = [logonMark, imeiMark ++ env.imei, ['A']] := by
  have absent : ∀ l ∈ [logonMark, imeiMark ++ env.imei, ['A']], ',' ∉ l := by
    intro l member present
    simp only [List.mem_cons, List.not_mem_nil, or_false] at member
    rcases member with rfl | rfl | rfl
    · revert present
      decide
    · rcases List.mem_append.mp present with mark | inner
      · revert mark
        decide
      · exact (proper.plain _ inner).1 rfl
    · revert present
      decide
  have fields := List.splitOn_intercalate ',' absent (List.cons_ne_nil _ _)
  rw [← fields]
  simp [split, List.intercalate, logonFrame]

theorem imei_ne_nil : env.imei ≠ [] := by
  intro empty
  have length := proper.length
  rw [empty] at length
  cases length

/-- The logon is accepted. -/
theorem process_logon (opened : (s.sessions session).isOpen = true) (imei : Str) :
    ∃ t, processCommand env session (logonFrame env) imei s = .goOn env.imei t ∧
      Deals session s t [.send session Transmitter.load] ∧
      t.authorizedSession = some session := by
  have fields := split_logonFrame proper
  have logon : (split (logonFrame env)).headD [] = logonMark := by
    rw [fields]
    rfl
  have named : ¬ ((imeiMark ++ env.imei).length ≠ 20 ∨
      (imeiMark ++ env.imei).find imeiMark ≠ some 0) := by
    rw [not_or, not_not, not_not, Str.find_eq_zero_iff, List.length_append, proper.length]
    exact ⟨rfl, List.prefix_append _ _⟩
  have authorized : Deals session s
      ({ s with authorizedSession := some session }.universalTime env).2 [] :=
    (Deals.authorize session (some session)).trans (.universalTime session env _)
  have reported := authorized.trans (Deals.record_silent
    (e := .trackerEvent .logon { imei := env.imei, keyword := "connect".toList,
                                 hostTime := some (env.clock s.ticks) }) rfl)
  have granted := reported.trans (.send (reported.isOpen.trans opened) Transmitter.load)
  have command : Device.commandLogon env session (split (logonFrame env)) imei s =
      (env.imei, (({ s with authorizedSession := some session }.universalTime env).2.record
        (.trackerEvent .logon { imei := env.imei, keyword := "connect".toList,
                                hostTime := some (env.clock s.ticks) })).send session
          Transmitter.load, true) := by
    rw [fields]
    unfold Device.commandLogon
    dsimp only
    rw [if_neg (not_not.mpr rfl), if_neg named]
    exact if_pos rfl
  rw [Device.processCommand_of_first (by rw [logon]; decide), Device.dispatch_logon logon, command]
  have owner : ((({ s with authorizedSession := some session }.universalTime env).2.record
      (.trackerEvent .logon { imei := env.imei, keyword := "connect".toList,
                              hostTime := some (env.clock s.ticks) })).send session
        Transmitter.load).authorizedSession = some session :=
    Device.authorizedSession_send _ _
  refine ⟨_, ?_, granted, owner⟩
  dsimp only
  rw [if_neg]
  · rfl
  · rw [owner, proper.length]
    simp

theorem process_heartbeat (opened : (s.sessions session).isOpen = true)
    (owner : s.authorizedSession = some session) :
    ∃ t, processCommand env session env.imei env.imei s = .goOn env.imei t ∧
      Deals session s t [.send session Transmitter.on] ∧ t.authorizedSession = some session := by
  have fields := split_imei proper
  have first : (split env.imei).headD [] = env.imei := by
    rw [fields]
    rfl
  have data : (split env.imei).headD [] ≠ logonMark := by
    intro logon
    have length := proper.length
    rw [← first, logon] at length
    cases length
  have kept : (s.send session Transmitter.on).authorizedSession = some session :=
    (Device.authorizedSession_send _ _).trans owner
  rw [Device.processCommand_of_first (by rw [first]; exact imei_ne_nil proper),
    Device.dispatch_data data ⟨imei_ne_nil proper, owner⟩, fields]
  refine ⟨_, ?_, .send opened Transmitter.on, kept⟩
  have single : [env.imei].length = 1 := rfl
  have same : ¬ [env.imei].headD [] ≠ env.imei := not_not.mpr rfl
  rw [if_pos single, if_neg same]
  dsimp only
  rw [if_neg]
  · rfl
  · change ¬ (_ ∨ _ ∨ (s.send session Transmitter.on).authorizedSession ≠ some session)
    rw [kept, proper.length]
    simp

theorem process_relayed (dates : IsoDates env) (owner : s.authorizedSession = some session)
    {command : Str} (relayable : Relayable command) (fine : ¬ BadDate command) :
    ∃ t, processCommand env session command env.imei s = .goOn env.imei t ∧
      Deals session s t [.deviceCommand (split command)] ∧
      t.authorizedSession = some session := by
  have known := imei_ne_nil proper
  have several : ¬ (split command).length = 1 := by
    have fields := relayable.1
    omega
  have handed : ∀ t, Deals session s t [] → t.authorizedSession = s.authorizedSession →
      ∃ u, (if !true ∨ env.imei.length = 0 ∨ t.authorizedSession ≠ some session then
          Device.Verdict.close env.imei t
        else .goOn env.imei (if true then t.record (.deviceCommand (split command)) else t)) =
          .goOn env.imei u ∧ Deals session s u [.deviceCommand (split command)] ∧
        u.authorizedSession = some session := by
    intro t deals same
    refine ⟨_, if_neg ?_, deals.trans (.record session t (.deviceCommand _)), same.trans owner⟩
    rw [same, owner, proper.length]
    simp
  rw [Device.processCommand_of_first relayable.2.1,
    Device.dispatch_data relayable.2.2 ⟨known, owner⟩, if_neg several]
  by_cases size : (split command).length = 6 ∨ (split command).length > 11
  · obtain ⟨t, ok⟩ := Device.commandGpsData_ok dates fine size s
    rw [if_pos size, ok]
    refine handed t ?_ (Device.commandGpsData_quiet ok).1
    rcases Device.commandGpsData_cases ok with rfl | rfl | ⟨message, rfl⟩
    · exact .refl session _
    · exact .universalTime session env s
    · exact (Deals.universalTime session env s).trans (.record_silent rfl)
  · rw [if_neg size]
    exact handed s (.refl session s) rfl

theorem logonFrame_ne_imei : logonFrame env ≠ env.imei := by
  intro same
  have length := proper.length
  rw [← same, logonFrame] at length
  simp [logonMark, imeiMark, proper.length] at length

theorem reaction_imei : reaction env session env.imei = [.send session Transmitter.on] := by
  unfold reaction
  rw [if_neg (logonFrame_ne_imei proper).symm, if_pos rfl]

theorem not_relayable_imei : ¬ Relayable env.imei := by
  intro relayable
  have fields := relayable.1
  rw [split_imei proper] at fields
  exact absurd fields (show ¬ 2 ≤ 1 by decide)

theorem reaction_relayed {command : Str} (relayable : Relayable command) :
    reaction env session command = [.deviceCommand (split command)] := by
  unfold reaction
  rw [if_neg, if_neg]
  · rintro rfl
    exact not_relayable_imei proper relayable
  · rintro rfl
    refine relayable.2.2 ?_
    rw [split_logonFrame proper]
    rfl

/-- Ordinary frames of the authorized session are dealt with one by one. -/
theorem interpret_ordinary (dates : IsoDates env) {frames : List Str}
    (ordinary : ∀ f ∈ frames, Ordinary env f) (opened : (s.sessions session).isOpen = true)
    (owner : s.authorizedSession = some session) :
    ∃ t, interpret env session frames env.imei s = .goOn env.imei t ∧
      Deals session s t (frames.flatMap (reaction env session)) ∧
      t.authorizedSession = some session := by
  induction frames generalizing s with
  | nil => exact ⟨s, rfl, .refl session s, owner⟩
  | cons command rest ih =>
      have first : ∃ t, processCommand env session command env.imei s = .goOn env.imei t ∧
          Deals session s t (reaction env session command) ∧
          t.authorizedSession = some session := by
        rcases ordinary command List.mem_cons_self with rfl | ⟨relayable, fine⟩
        · rw [reaction_imei proper]
          exact process_heartbeat proper opened owner
        · rw [reaction_relayed proper relayable]
          exact process_relayed proper dates owner relayable fine
      obtain ⟨t, goesOn, deals, owner'⟩ := first
      obtain ⟨u, goesOn', deals', owner''⟩ :=
        ih (fun f member => ordinary f (List.mem_cons_of_mem _ member))
          (deals.isOpen.trans opened) owner'
      refine ⟨u, ?_, deals.trans deals', owner''⟩
      rw [interpret, goesOn]
      exact goesOn'

end Frames

/-- How the session stands when it has brought these frames. -/
structure Stands (env : DeviceEnv) (session : SessionId) (frames : List Str) (imei : Str)
    (s : Shared) : Prop where
  imei : imei = if frames = [] then [] else env.imei
  owner : s.authorizedSession = if frames = [] then none else some session

/-- The next frames of a transmitter are dealt with one by one. -/
theorem interpret_speaks (proper : ProperImei env.imei) (dates : IsoDates env)
    {old new : List Str} (speaks : Speaks env (old ++ new))
    (opened : (s.sessions session).isOpen = true) {imei : Str}
    (stands : Stands env session old imei s) :
    ∃ imei' t, interpret env session new imei s = .goOn imei' t ∧
      Deals session s t (new.flatMap (reaction env session)) ∧
      Stands env session (old ++ new) imei' t := by
  obtain ⟨known, owner⟩ := stands
  cases old with
  | cons first rest =>
      rw [if_neg (List.cons_ne_nil _ _)] at known owner
      have ordinary : ∀ f ∈ new, Ordinary env f := fun f member =>
        (speaks first (rest ++ new) rfl).2 f (List.mem_append_right _ member)
      obtain ⟨t, goesOn, deals, owner'⟩ := interpret_ordinary proper dates ordinary opened owner
      rw [known]
      refine ⟨env.imei, t, goesOn, deals, ?_, ?_⟩
      · exact (if_neg (List.cons_ne_nil _ _)).symm
      · exact owner'.trans (if_neg (List.cons_ne_nil _ _)).symm
  | nil =>
      rw [if_pos rfl] at known owner
      cases new with
      | nil => exact ⟨imei, s, rfl, .refl session s, known, owner⟩
      | cons first rest =>
          obtain ⟨rfl, ordinary⟩ := speaks first rest rfl
          obtain ⟨t, goesOn, deals, owner'⟩ :=
            @process_logon env session s proper opened imei
          obtain ⟨u, goesOn', deals', owner''⟩ :=
            interpret_ordinary proper dates ordinary (deals.isOpen.trans opened) owner'
          refine ⟨env.imei, u, ?_, ?_, ?_, ?_⟩
          · rw [interpret, goesOn]
            exact goesOn'
          · rw [List.flatMap_cons, reaction_logon]
            exact deals.trans deals'
          · exact (if_neg (List.cons_ne_nil _ _)).symm
          · exact owner''.trans (if_neg (List.cons_ne_nil _ _)).symm

/-! ## A chunk for the session -/

open Receiver (modifySession unread unwritten popped)

variable {r r' : Receiver} {d : Device}

/-- A chunk that completes some of the frames, and is not too long, is dealt with. -/
theorem read_speaks (proper : ProperImei env.imei) (dates : IsoDates env)
    {frames : List Str} {data : Str} (device : r.devices session = some d)
    (active : (r.shared.sessions session).active = true)
    (opened : (r.shared.sessions session).isOpen = true)
    (reading : (r.shared.sessions session).reads ≠ 0) (nonempty : data ≠ [])
    (speaks : Speaks env (frames ++ (cut ';' (d.buffer ++ data).strip).1))
    (short : (cut ';' (d.buffer ++ data).strip).2.length ≤ 32768)
    (stands : Stands env session frames d.imei r.shared) :
    ∃ r' d', r.step env (.read session data false) = some r' ∧
      r'.devices session = some d' ∧ d'.buffer = (cut ';' (d.buffer ++ data).strip).2 ∧
      Deals session r.shared r'.shared
        ((cut ';' (d.buffer ++ data).strip).1.flatMap (reaction env session)) ∧
      Stands env session (frames ++ (cut ';' (d.buffer ++ data).strip).1) d'.imei r'.shared := by
  have started : ((r.modifySession session unread).shared.sessions session) =
      unread (r.shared.sessions session) := Receiver.modifySession_self _
  have opened' : ((r.modifySession session unread).shared.sessions session).isOpen = true := by
    rw [started]
    exact opened
  have active' : ((r.modifySession session unread).shared.sessions session).active = true := by
    rw [started]
    exact active
  have stood : Stands env session frames d.imei (r.modifySession session unread).shared :=
    ⟨stands.imei, stands.owner⟩
  obtain ⟨imei', t, goesOn, deals, stands'⟩ := interpret_speaks proper dates speaks opened' stood
  have eq : (d.processData env session data (r.modifySession session unread)).mapError
      Crash.summary = _ := Receiver.processData_eq active' data
  rw [goesOn] at eq
  dsimp only [Receiver.settle] at eq
  rw [if_neg (Nat.not_lt.mpr short)] at eq
  have received := Receiver.mapError_eq_ok eq
  have handled : (r.modifySession session unread).handleTcpSessionReceivedData env session data =
      d.processData env session data (r.modifySession session unread) := by
    have device' : (r.modifySession session unread).devices session = some d := device
    unfold Receiver.handleTcpSessionReceivedData
    rw [device']
  have step : r.step env (.read session data false) =
      some (({ (r.modifySession session unread) with shared := t }.putDevice session
        { buffer := (cut ';' (d.buffer ++ data).strip).2, imei := imei' }).modifySession session
          fun x => { x with reads := x.reads + 1 }) := by
    unfold Receiver.step
    dsimp only
    rw [if_neg reading]
    change ((r.modifySession session unread).handleRead env session data false).toOption = _
    unfold Receiver.handleRead
    rw [if_neg (by simp [nonempty]), handled, received]
    rfl
  refine ⟨_, { buffer := (cut ';' (d.buffer ++ data).strip).2, imei := imei' }, step,
    update_self _ _ _, rfl, ?_, ⟨stands'.imei, stands'.owner⟩⟩
  have count : (unread (r.shared.sessions session)).reads + 1 =
      (r.shared.sessions session).reads := Nat.succ_pred reading
  have after : ((t.modifySession session fun x => { x with reads := x.reads + 1 }).sessions
      session) = { t.sessions session with reads := (t.sessions session).reads + 1 } :=
    Receiver.modifySession_self _
  have isOpen := deals.isOpen
  have active := deals.active
  have reads := deals.reads
  rw [started] at isOpen active reads
  refine ⟨deals.created, ?_, ?_, ?_, deals.log⟩
  · exact (congrArg TcpSession.isOpen after).trans isOpen
  · exact (congrArg TcpSession.active after).trans active
  · refine (congrArg TcpSession.reads after).trans ?_
    rw [← count, ← reads]

/-! ## What happens elsewhere -/

/-- The end of another session, which is not the authorized one. -/
theorem hangUp_deals (env : DeviceEnv) (sound : Receiver.Sound r) (other : session ≠ id)
    (idle : r.shared.authorizedSession ≠ some id) :
    Deals session r.shared (r.hangUp env id).shared [] ∧
      (r.hangUp env id).shared.authorizedSession = r.shared.authorizedSession ∧
      (r.hangUp env id).devices session = r.devices session := by
  have hung : Deals session r.shared (r.shared.record (.hangUp id)) [] :=
    Deals.record_silent (decide_eq_false other.symm)
  cases device : r.devices id with
  | none =>
      rw [Receiver.hangUp_of_none device]
      exact ⟨hung.trans (.cleanup other _), rfl, rfl⟩
  | some d =>
      rw [Receiver.hangUp_of_some (sound.live device) device]
      dsimp only
      rw [Shared.destroyDevice_of_ne (show (r.shared.record (.hangUp id)).authorizedSession ≠
        some id from idle)]
      refine ⟨(hung.trans (.record_silent rfl)).trans (.cleanup other _), rfl, ?_⟩
      exact update_of_ne other _ _

theorem ended_deals (other : session ≠ id) (idle : s.authorizedSession ≠ some id) (imei : Str) :
    Deals session s (Receiver.ended env id imei s r).shared [] ∧
      (Receiver.ended env id imei s r).shared.authorizedSession = s.authorizedSession ∧
      (Receiver.ended env id imei s r).devices session = r.devices session := by
  have silent : concerns session (.close id) = false := decide_eq_false other.symm
  have silent' : concerns session (.hangUp id) = false := decide_eq_false other.symm
  have closed : Deals session s ((s.record (.close id)).record (.hangUp id)) [] :=
    (Deals.record_silent silent).trans (Deals.record_silent silent')
  unfold Receiver.ended
  dsimp only
  rw [Shared.destroyDevice_of_ne (show ((s.record (.close id)).record
    (.hangUp id)).authorizedSession ≠ some id from idle)]
  refine ⟨(closed.trans (.record_silent rfl)).trans (.cleanup other _), rfl, ?_⟩
  exact update_of_ne other _ _

/-- A chunk for another session that does not bring the configured logon does nothing, or
ends that session. -/
theorem receive_deals (sound : Receiver.Sound r) (other : session ≠ id)
    (idle : r.shared.authorizedSession ≠ some id) {data : Str}
    (silent : ∀ d, r.devices id = some d → logonFrame env ∉ (cut ';' (d.buffer ++ data).strip).1)
    (received : r.handleTcpSessionReceivedData env id data = .ok r') :
    Deals session r.shared r'.shared [] ∧
      r'.shared.authorizedSession = r.shared.authorizedSession ∧
      r'.devices session = r.devices session := by
  unfold Receiver.handleTcpSessionReceivedData at received
  cases device : r.devices id with
  | none =>
      rw [device] at received
      cases received
      exact ⟨.refl session _, rfl, rfl⟩
  | some d =>
      rw [device] at received
      have eq : (d.processData env id data r).mapError Crash.summary = _ :=
        Receiver.processData_eq (sound.live device) data
      rw [show d.processData env id data r = .ok r' from received] at eq
      rcases Device.interpret_unauthorized idle (silent d device) with same | ⟨imei', closed⟩
      · rw [same] at eq
        dsimp only [Receiver.settle] at eq
        split at eq
        · cases eq
          exact ended_deals other idle d.imei
        · cases eq
          exact ⟨.refl session _, rfl, update_of_ne other _ _⟩
      · rw [closed] at eq
        cases eq
        exact ended_deals other idle imei'

/-- Whatever happens elsewhere, the session and its device stay as they are, and nothing is
sent to it. -/
theorem elsewhere_deals (sound : Receiver.Sound r) (within : session < r.shared.created)
    (owner : ∀ id, r.shared.authorizedSession = some id → id = session)
    {e : Receiver.Event} (elsewhere : Link.Elsewhere env session r e)
    (taken : r.step env e = some r') :
    Deals session r.shared r'.shared [] ∧
      r'.shared.authorizedSession = r.shared.authorizedSession ∧
      r'.devices session = r.devices session := by
  cases Receiver.step_cases taken with
  | accept =>
      have differs : session ≠ r.shared.created := Nat.ne_of_lt within
      have same : r.accepting.shared.sessions session = r.shared.sessions session :=
        update_of_ne differs _ _
      refine ⟨⟨Nat.le_succ _, ?_, ?_, ?_, [.construct r.shared.created], rfl, rfl⟩, rfl,
        update_of_ne differs _ _⟩
      · rw [same]
      · rw [same]
      · rw [same]
  | readEnd id data failed _ _ =>
      have other : session ≠ id := elsewhere.1.symm
      have idle : r.shared.authorizedSession ≠ some id := fun same => other (owner id same).symm
      obtain ⟨hung, same, device⟩ := hangUp_deals env
        (sound.modifySession id unread fun _ => rfl) other idle
      exact ⟨(Deals.modifySession_other other unread).trans hung, same, device⟩
  | @read id data t _ _ received =>
      have other : session ≠ id := elsewhere.1.symm
      have idle : r.shared.authorizedSession ≠ some id := fun same => other (owner id same).symm
      obtain ⟨dealt, same, device⟩ := receive_deals (sound.modifySession id unread fun _ => rfl)
        other idle elsewhere.2 received
      have again : Deals session t.shared (t.shared.modifySession id fun x =>
          { x with reads := x.reads + 1 }) [] := .modifySession_other other _
      exact ⟨((Deals.modifySession_other other unread).trans dealt).trans again, same, device⟩
  | writeEnd id _ =>
      have other : session ≠ id := fun same => nomatch elsewhere same.symm
      have idle : r.shared.authorizedSession ≠ some id := fun same => other (owner id same).symm
      obtain ⟨hung, same, device⟩ := hangUp_deals env
        (sound.modifySession id unwritten fun _ => rfl) other idle
      exact ⟨(Deals.modifySession_other other unwritten).trans hung, same, device⟩
  | written id _ =>
      have ends : Deals session r.shared (r.shared.modifySession id unwritten) [] :=
        .modifySession fun _ => ⟨rfl, rfl, rfl⟩
      exact ⟨ends.trans (.modifySession fun _ => ⟨rfl, rfl, rfl⟩), rfl, rfl⟩
  | writtenNext id _ =>
      have ends : Deals session r.shared (r.shared.modifySession id unwritten) [] :=
        .modifySession fun _ => ⟨rfl, rfl, rfl⟩
      have pops : Deals session (r.shared.modifySession id unwritten)
          ((r.shared.modifySession id unwritten).modifySession id popped) [] :=
        .modifySession fun _ => ⟨rfl, rfl, rfl⟩
      exact ⟨(ends.trans pops).trans (.write session id _), rfl, rfl⟩
  | close id _ =>
      have other : session ≠ id := fun same => elsewhere same.symm
      have idle : r.shared.authorizedSession ≠ some id := fun same => other (owner id same).symm
      have recorded : Receiver.Sound { r with shared := r.shared.record (.close id) } :=
        sound.with_shared fun _ => rfl
      obtain ⟨hung, same, device⟩ := hangUp_deals env recorded other idle
      have closed : Deals session r.shared (r.shared.record (.close id)) [] :=
        Deals.record_silent (decide_eq_false other.symm)
      exact ⟨closed.trans hung, same, device⟩
  | noDownlink data => exact elsewhere.elim
  | downlink data id _ => exact elsewhere.elim

end GpsInformer
