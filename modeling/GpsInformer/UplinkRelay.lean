import GpsInformer.DeviceScan
import GpsInformer.GpsRecipients
import GpsInformer.Transmitter

/-!
# From the tracker's stream to the upstream

A session's chunks bring it frames until one of them closes it or a rest grows too long
(`incoming`).  What is handed to `handleDeviceCommand` are the relayed ones among these
frames, and the handler returns iff none of them is a data frame with an impossible date
(`receiveAll_delivery`): `from_iso_string` stands outside of the `try` block of
`commandGpsData`.  The event handling it calls always returns (`eventsReturn`).  What the
transmitter sends for them is framed by the next receiver as it was by this one
(`scan_encode`).
-/

namespace GpsInformer

open Lib

namespace Device

open Receiver (Clean clean_rest strip_chunks)

/-- The frames a session brings until it is closed, from its standing and its buffer. -/
def incoming (configured : Str) : Standing → Str → List Str → List Str
  | _, _, [] => []
  | st, buffer, chunk :: rest =>
      let frames := (cut ';' (buffer ++ chunk).strip).1
      let tail := (cut ';' (buffer ++ chunk).strip).2
      reached configured st frames ++
        match advanceAll configured st frames with
        | none => []
        | some st => if tail.length > 32768 then [] else incoming configured st tail rest

theorem incoming_singleton (configured : Str) (st : Standing) (buffer data : Str) :
    incoming configured st buffer [data] =
      reached configured st (cut ';' (buffer ++ data).strip).1 := by
  rw [incoming]
  split
  · exact List.append_nil _
  · split
    · exact List.append_nil _
    · exact List.append_nil _

theorem clean_frame {stream frame : Str} (member : frame ∈ (cut ';' stream.strip).1) :
    Clean frame := by
  have part : frame ⊆ stream.strip := by
    intro c inside
    rw [← flatten_cut (s := stream.strip)]
    apply List.mem_append_left
    exact List.mem_flatMap.mpr ⟨frame, member, List.mem_append_left _ inside⟩
  refine ⟨sep_not_mem_frames frame member, fun present => ?_, fun present => ?_⟩
  · exact (Str.mem_strip.mp (part present)).2.1 rfl
  · exact (Str.mem_strip.mp (part present)).2.2 rfl

theorem reached_isPrefix (configured : Str) (st : Standing) (frames : List Str) :
    reached configured st frames <+: frames := by
  induction frames generalizing st with
  | nil => exact List.prefix_refl _
  | cons command rest ih =>
      rw [reached]
      split
      · exact List.nil_prefix
      · exact List.cons_prefix_cons.mpr ⟨rfl, ih _⟩

theorem clean_incoming {configured : Str} {st : Standing} {buffer frame : Str}
    {chunks : List Str} (member : frame ∈ incoming configured st buffer chunks) :
    Clean frame := by
  induction chunks generalizing st buffer with
  | nil => cases member
  | cons chunk rest ih =>
      rw [incoming] at member
      rcases List.mem_append.mp member with here | later
      · exact clean_frame ((reached_isPrefix _ _ _).subset here)
      · split at later
        · cases later
        · split at later
          · cases later
          · exact ih later

/-- Unless a segment is too long, what a session brings does not depend on its chunks. -/
theorem incoming_eq_reached {configured : Str} {st : Standing} {buffer : Str}
    {chunks : List Str} (clean : Clean buffer)
    (bounded : ∀ g ∈ segments ';' (buffer ++ chunks.flatten).strip, g.length ≤ 32768) :
    incoming configured st buffer chunks =
      reached configured st (cut ';' (buffer ++ chunks.flatten).strip).1 := by
  induction chunks generalizing st buffer with
  | nil =>
      rw [List.flatten_nil, List.append_nil, Str.strip_eq_self clean.noCR clean.noLF,
        cut_of_not_mem clean.noSeparator]
      rfl
  | cons chunk rest ih =>
      rw [strip_chunks] at bounded ⊢
      have short : ¬ (cut ';' (buffer ++ chunk).strip).2.length > 32768 :=
        Nat.not_lt.mpr (length_rest_le bounded)
      have rest_clean := clean_rest (buffer ++ chunk)
      rw [segments_append] at bounded
      have later (st : Standing) : incoming configured st _ rest = _ := ih rest_clean (by
        rw [rest_clean.strip_append]
        exact fun g member => bounded g (List.mem_append_right _ member))
      rw [rest_clean.strip_append] at later
      rw [incoming, cut_append, reached_append]
      cases advanceAll configured st (cut ';' (buffer ++ chunk).strip).1 with
      | none => rfl
      | some next =>
          dsimp only
          rw [if_neg short, later]

/-! ## Reading the frames back -/

/-- The argument lists the framing gives for a stream in chunks. -/
def scan (buffer : Str) : List Str → List (List Str)
  | [] => []
  | chunk :: rest =>
      (cut ';' (buffer ++ chunk).strip).1.map split ++
        scan (cut ';' (buffer ++ chunk).strip).2 rest

theorem scan_eq {buffer : Str} (clean : Clean buffer) (chunks : List Str) :
    scan buffer chunks = (cut ';' (buffer ++ chunks.flatten).strip).1.map split := by
  induction chunks generalizing buffer with
  | nil =>
      rw [List.flatten_nil, List.append_nil, Str.strip_eq_self clean.noCR clean.noLF,
        cut_of_not_mem clean.noSeparator]
      rfl
  | cons chunk rest ih =>
      have rest_clean := clean_rest (buffer ++ chunk)
      rw [scan, ih rest_clean, strip_chunks, cut_append, List.map_append,
        rest_clean.strip_append]

theorem strip_frames {frames : List Str} (clean : ∀ frame ∈ frames, Clean frame) :
    Str.strip (frames.flatMap (· ++ Transmitter.terminator)) = frames.flatMap (· ++ [';']) := by
  induction frames with
  | nil => rfl
  | cons frame rest ih =>
      have first := clean frame List.mem_cons_self
      rw [List.flatMap_cons, List.flatMap_cons, Str.strip_append, Str.strip_append,
        Str.strip_eq_self first.noCR first.noLF,
        ih fun f member => clean f (List.mem_cons_of_mem _ member)]
      rfl

/-- Frames ended by `;`, CR and LF are read back as they are, in whatever chunks. -/
theorem scan_encode {frames pieces : List Str} (clean : ∀ frame ∈ frames, Clean frame)
    (encoded : pieces.flatten = frames.flatMap (· ++ Transmitter.terminator)) :
    scan [] pieces = frames.map split := by
  have empty : Clean [] := ⟨List.not_mem_nil, List.not_mem_nil, List.not_mem_nil⟩
  rw [scan_eq empty, List.nil_append, encoded, strip_frames clean,
    cut_flatMap fun frame member => (clean frame member).noSeparator]

end Device

namespace Receiver

open Device

variable {env : DeviceEnv} {session : SessionId} {d : Device} {r : Receiver} {s t : Shared}

/-! ## What a session's chunks do -/

/-- How the handling of frames ends, and what goes with it. -/
inductive Delivery (env : DeviceEnv) (frames : List Str) (s : Shared) :
    Except Crash Receiver → Prop
  | ok {t : Receiver} :
    (IsoDates env → ∀ command ∈ frames, ¬ BadDate command) →
    deviceCommands t.shared.log = deviceCommands s.log ++ relayed frames →
    Delivery env frames s (.ok t)
  | error {crash : Crash} {front back : List Str} {bad : Str} :
    frames = front ++ bad :: back →
    (IsoDates env → crash.fault = .badDate ∧ BadDate bad) →
    deviceCommands crash.receiver.shared.log = deviceCommands s.log ++ relayed front →
    Delivery env frames s (.error crash)

/-- Frames handled before the others. -/
theorem Delivery.append {front back : List Str} {outcome : Except Crash Receiver}
    (fine : IsoDates env → ∀ command ∈ front, ¬ BadDate command)
    (relays : deviceCommands t.log = deviceCommands s.log ++ relayed front)
    (later : Delivery env back t outcome) : Delivery env (front ++ back) s outcome := by
  cases later with
  | ok fine' relays' =>
      refine .ok (fun dates => ?_) ?_
      · exact List.forall_mem_append.mpr ⟨fine dates, fine' dates⟩
      · rw [relays', relays, relayed_append, List.append_assoc]
  | @error crash front' back' bad split' raised relays' =>
      have hits : front ++ back = (front ++ front') ++ bad :: back' := by
        rw [split', List.append_assoc]
      refine .error hits raised ?_
      rw [relays', relays, relayed_append, List.append_assoc]

theorem deviceCommands_ended (imei : Str) :
    deviceCommands (ended env session imei s r).shared.log = deviceCommands s.log :=
  IgnoresEnd.ended ⟨fun _ => rfl, fun _ => rfl, fun _ => rfl, fun _ => rfl⟩ imei

theorem receiveAll_delivery (device : r.devices session = some d)
    (active : (r.shared.sessions session).active = true) (chunks : List Str) :
    Delivery env (incoming env.imei (standing session d.imei r.shared) d.buffer chunks) r.shared
      (receiveAll env session chunks r) := by
  induction chunks generalizing d r with
  | nil => exact .ok (fun _ => nofun) (List.append_nil _).symm
  | cons chunk rest ih =>
      have first : r.handleTcpSessionReceivedData env session chunk =
          d.processData env session chunk r := by
        unfold handleTcpSessionReceivedData
        rw [device]
      have eq : (d.processData env session chunk r).mapError Crash.summary = _ :=
        processData_eq active chunk
      have kept : Keeps session r.shared (interpret env session
          (cut ';' (d.buffer ++ chunk).strip).1 d.imei r.shared).shared := .interpret _ _ _
      have stream : StreamCase env session (cut ';' (d.buffer ++ chunk).strip).1 d.imei r.shared
          (interpret env session (cut ';' (d.buffer ++ chunk).strip).1 d.imei r.shared) :=
        interpret_cases _ _ _
      rw [receiveAll, List.foldlM_cons, first, incoming]
      generalize interpret env session (cut ';' (d.buffer ++ chunk).strip).1 d.imei r.shared =
        verdict at eq kept stream
      -- a session that has been closed takes no more chunks
      have stops (imei : Str) (s : Shared) :
          receiveAll env session rest (ended env session imei s r) =
          .ok (ended env session imei s r) := receiveAll_of_none (Function.update_self _ _ _) rest
      cases stream with
      | @goOn imei' t advanced fine relays =>
          rw [advanced, reached_of_advanceAll advanced]
          dsimp only [settle] at eq ⊢
          by_cases long : (cut ';' (d.buffer ++ chunk).strip).2.length > 32768
          · rw [if_pos long] at eq ⊢
            rw [mapError_eq_ok eq, List.append_nil]
            change Delivery env _ _ (receiveAll env session rest (ended env session imei' t r))
            rw [stops]
            exact .ok fine ((deviceCommands_ended imei').trans relays)
          · rw [if_neg long] at eq ⊢
            rw [mapError_eq_ok eq]
            have device' : ({ r with shared := t }.putDevice session
                { buffer := (cut ';' (d.buffer ++ chunk).strip).2, imei := imei' }).devices
                session = some _ := Function.update_self _ _ _
            exact .append fine relays (ih device' ((kept.active session).trans active))
      | @close imei' t advanced fine relays =>
          rw [mapError_eq_ok eq, advanced, List.append_nil]
          change Delivery env _ _ (receiveAll env session rest (ended env session imei' t r))
          rw [stops]
          exact .ok fine ((deviceCommands_ended imei').trans relays)
      | fault hits raised relays =>
          obtain ⟨crash, crashed, summary⟩ := mapError_eq_error eq
          obtain ⟨rfl, log⟩ := Prod.mk.inj summary
          rw [crashed, hits, List.append_assoc, List.cons_append]
          refine .error rfl raised ?_
          rw [log]
          exact relays

/-- The messages passed to `Application::handleTrackerEvent`, one after another. -/
def trackerEvents (log : List Effect) : List GpsMessage :=
  log.filterMap fun
    | .trackerEvent _ m => some m
    | _ => none

/-- `Application::handleTrackerEvent` returns from each of the events, whatever the application
has come to and whatever calls of SQLite fail. -/
def EventsReturn (events : List GpsMessage) : Prop :=
  ∀ (appEnv : AppEnv) (a : Application),
    ∃ b, (events.forM (Application.handleTrackerEvent appEnv)).run a = .ok ((), b)

theorem eventsReturn (events : List GpsMessage) : EventsReturn events := by
  intro appEnv a
  have total : Application.Total (events.forM (Application.handleTrackerEvent appEnv)) :=
    Application.total_forM Application.total_handleTrackerEvent events
  obtain ⟨_, b, handled, _⟩ := total a
  exact ⟨b, handled⟩

/-- A handler returns from a tracker's bytes iff no frame it gets to is a data frame with an
impossible date: nothing else in it can raise, and no index is out of range.  The event handling
it calls returns as well. -/
theorem processData_returns_iff (dates : IsoDates env) {es : List Event}
    (run : Run (step env) {} es r) (device : r.devices session = some d) (data : Str) :
    ((∃ t, d.processData env session data r = .ok t) ↔
      ∀ command ∈ reached env.imei (standing session d.imei r.shared)
        (cut ';' (d.buffer ++ data).strip).1, ¬ BadDate command) ∧
    ∀ t, d.processData env session data r = .ok t →
      EventsReturn (trackerEvents (t.shared.log.drop r.shared.log.length)) := by
  refine ⟨?_, fun _ _ => eventsReturn _⟩
  have sound : Sound r := run.invariant Sound.step sound_init
  have delivery : Delivery env _ r.shared (receiveAll env session [data] r) :=
    receiveAll_delivery device (sound.live device) [data]
  have single : receiveAll env session [data] r = d.processData env session data r := by
    rw [receiveAll, List.foldlM_cons, handleTcpSessionReceivedData, device]
    exact bind_pure _
  rw [incoming_singleton, single] at delivery
  constructor
  · intro returns
    obtain ⟨t, returned⟩ := returns
    rw [returned] at delivery
    cases delivery with
    | ok fine _ => exact fine dates
  · intro fine
    generalize d.processData env session data r = outcome at delivery ⊢
    cases delivery with
    | @ok t _ _ => exact ⟨t, rfl⟩
    | error hits raised _ =>
        obtain ⟨_, bad⟩ := raised dates
        rw [hits] at fine
        exact absurd bad (fine _ (List.mem_append_right _ List.mem_cons_self))

/-- A receiver whose `from_iso_string` raises on impossible dates. -/
def isoEnv : DeviceEnv where
  imei := "123456789012345".toList
  clock n := n
  fromIsoString text :=
    if ValidDate ((text.drop 2).take 6 ++ text.drop 9) then some 0 else none
  lexicalCast _ := none

theorem isoDates_isoEnv : IsoDates isoEnv := by
  intro time length _
  have recovered : ((isoTime time).drop 2).take 6 ++ (isoTime time).drop 9 = time := by
    obtain ⟨front, back, rfl, size⟩ : ∃ front back, time = front ++ back ∧ front.length = 6 :=
      ⟨time.take 6, time.drop 6, (List.take_append_drop 6 time).symm, by simp [length]⟩
    simp [isoTime, size, List.drop_append]
  unfold isoEnv
  dsimp only
  rw [recovered]
  split
  · rename_i valid
    exact iff_of_false nofun (not_not.mpr valid)
  · rename_i invalid
    exact iff_of_true rfl invalid

/-- The receiver after its tracker has logged on. -/
def loggedOn : Receiver :=
  ([.accept, .read 0 "##,imei:123456789012345,A;".toList false].foldlM (step isoEnv) {}).getD {}

theorem run_loggedOn :
    Run (step isoEnv) {} [.accept, .read 0 "##,imei:123456789012345,A;".toList false] loggedOn :=
  Run.of_foldlM rfl

theorem processData_returns_report :
    ∃ t, ({ imei := isoEnv.imei } : Device).processData isoEnv 0
      "imei:123456789012345,tracker,170228000000,,,;".toList loggedOn = .ok t ∧
      EventsReturn (trackerEvents (t.shared.log.drop loggedOn.shared.log.length)) := by
  have device : loggedOn.devices 0 = some { imei := isoEnv.imei } := by decide
  obtain ⟨returns, handled⟩ := processData_returns_iff isoDates_isoEnv run_loggedOn device
    "imei:123456789012345,tracker,170228000000,,,;".toList
  obtain ⟨t, returned⟩ := returns.mpr (by decide)
  exact ⟨t, returned, handled t returned⟩

/-- A report of 30 February. -/
def impossibleReport : Str := "imei:123456789012345,tracker,170230000000,,,;".toList

theorem not_forall_processData_returns :
    ¬ ∀ env, IsoDates env → ∀ es r, Run (step env) {} es r → ∀ session d,
      r.devices session = some d → ∀ data, ∃ t, d.processData env session data r = .ok t := by
  intro returns
  have device : loggedOn.devices 0 = some { imei := isoEnv.imei } := by decide
  obtain ⟨t, returned⟩ := returns isoEnv isoDates_isoEnv _ _ run_loggedOn _ _ device
    impossibleReport
  have raised : (({ imei := isoEnv.imei } : Device).processData isoEnv 0 impossibleReport
      loggedOn).mapError Crash.fault = .error .badDate := by rfl
  rw [returned] at raised
  cases raised

/-! ## What is sent upstream -/

/-- The receiver's log after a handler, or at the exception that has left it. -/
def logAfter : Except Crash Receiver → List Effect
  | .ok t => t.shared.log
  | .error crash => crash.receiver.shared.log

/-- The calls of `handleDeviceCommand`, one after another. -/
def uplink (arguments : List (List Str)) (x : Transmitter) : Transmitter :=
  arguments.foldl (fun x list => x.handleDeviceCommand list) x

/-- An authorized transmitter sends every relayed frame as it is, with its terminator. -/
theorem uplink_relayed {x : Transmitter} (authorized : x.authorized = true)
    (frames : List Str) :
    (uplink (relayed frames) x).trace =
      x.trace ++ (frames.filter fun command => decide (Relayable command)).map fun frame =>
        .send (frame ++ Transmitter.terminator) := by
  unfold relayed
  induction (frames.filter fun command => decide (Relayable command)) generalizing x with
  | nil => exact (List.append_nil _).symm
  | cons frame rest ih =>
      have sent : x.handleDeviceCommand (split frame) =
          x.record (.send (frame ++ Transmitter.terminator)) := by
        unfold Transmitter.handleDeviceCommand split
        dsimp only
        rw [if_pos authorized, List.intercalate_splitOn]
      rw [List.map_cons, uplink, List.foldl_cons, sent]
      have later := ih (x := x.record (.send (frame ++ Transmitter.terminator))) authorized
      exact later.trans (List.append_assoc _ _ _)

/-- The relayed ones among the frames a session brings go out unchanged, in order and
once each, and the framing reads them back. -/
def RelaysUnchanged (env : DeviceEnv) (session : SessionId) (d : Device) (r : Receiver)
    (chunks : List Str) (x : Transmitter) : Prop :=
  let frames := (incoming env.imei (standing session d.imei r.shared) d.buffer chunks).filter
    fun command => decide (Relayable command)
  ∃ arguments,
    deviceCommands (logAfter (receiveAll env session chunks r)) =
      deviceCommands r.shared.log ++ arguments ∧
    (uplink arguments x).trace =
      x.trace ++ frames.map (fun frame => .send (frame ++ Transmitter.terminator)) ∧
    ∀ pieces : List Str, pieces.flatten = frames.flatMap (· ++ Transmitter.terminator) →
      scan [] pieces = arguments

theorem relayable_of_badDate {command : Str} (bad : BadDate command) : Relayable command := by
  obtain ⟨size, length, _⟩ := bad
  refine ⟨by omega, fun empty => ?_, fun logon => ?_⟩
  · rw [empty] at length
    cases length
  · rw [logon] at length
    cases length

/-- The tracker's frames go upstream unchanged iff none that the session brings has an
impossible date.  Unless a segment is too long, these are the frames of the whole stream up to
the first one that closes the session. -/
theorem relaysUnchanged_iff (dates : IsoDates env) {es : List Event}
    (run : Run (step env) {} es r) (device : r.devices session = some d) {x : Transmitter}
    (authorized : x.authorized = true) (chunks : List Str) :
    (RelaysUnchanged env session d r chunks x ↔
      ∀ command ∈ incoming env.imei (standing session d.imei r.shared) d.buffer chunks,
        ¬ BadDate command) ∧
    ((∀ g ∈ segments ';' (d.buffer ++ chunks.flatten).strip, g.length ≤ 32768) →
      incoming env.imei (standing session d.imei r.shared) d.buffer chunks =
        reached env.imei (standing session d.imei r.shared)
          (cut ';' (d.buffer ++ chunks.flatten).strip).1) := by
  have sound : Sound r := run.invariant Sound.step sound_init
  refine ⟨?_, incoming_eq_reached (sound.clean device)⟩
  have delivery : Delivery env _ r.shared (receiveAll env session chunks r) :=
    receiveAll_delivery device (sound.live device) chunks
  have clean : ∀ frame ∈ incoming env.imei (standing session d.imei r.shared) d.buffer chunks,
      Clean frame := fun frame member => clean_incoming member
  unfold RelaysUnchanged
  generalize incoming env.imei (standing session d.imei r.shared) d.buffer chunks = frames
    at delivery clean ⊢
  generalize receiveAll env session chunks r = outcome at delivery ⊢
  dsimp only
  cases delivery with
  | ok fine relays =>
      refine iff_of_true ⟨relayed frames, relays, uplink_relayed authorized frames, ?_⟩ (fine dates)
      intro pieces encoded
      exact scan_encode (fun frame member => clean frame (List.mem_of_mem_filter member)) encoded
  | @error crash front back bad hits raised relays =>
      obtain ⟨_, invalid⟩ := raised dates
      refine iff_of_false (fun unchanged => ?_) fun fine => ?_
      · obtain ⟨arguments, handed, sent, _⟩ := unchanged
        -- the frame that raises is among the relayed ones, but only those before it are sent
        cases List.append_cancel_left (relays.symm.trans handed)
        rw [uplink_relayed authorized] at sent
        have count := congrArg List.length (List.append_cancel_left sent)
        rw [List.length_map, List.length_map, hits, List.filter_append, List.length_append,
          List.filter_cons, if_pos (decide_eq_true (relayable_of_badDate invalid)),
          List.length_cons] at count
        omega
      · rw [hits] at fine
        exact fine _ (List.mem_append_right _ List.mem_cons_self) invalid

theorem relaysUnchanged_report :
    RelaysUnchanged isoEnv 0 { imei := isoEnv.imei } loggedOn
      ["123456789012345;imei:12345".toList, "6789012345,tracker,170228000000,,,;".toList]
      { authorized := true } := by
  have device : loggedOn.devices 0 = some { imei := isoEnv.imei } := by decide
  apply (relaysUnchanged_iff isoDates_isoEnv run_loggedOn device rfl _).1.mpr
  decide

theorem not_forall_relaysUnchanged :
    ¬ ∀ env, IsoDates env → ∀ es r, Run (step env) {} es r → ∀ session d,
      r.devices session = some d → ∀ x : Transmitter, x.authorized = true →
        ∀ chunks, RelaysUnchanged env session d r chunks x := by
  intro relays
  have device : loggedOn.devices 0 = some { imei := isoEnv.imei } := by decide
  obtain ⟨arguments, handed, sent, _⟩ := relays isoEnv isoDates_isoEnv _ _ run_loggedOn _ _ device
    { authorized := true } rfl [impossibleReport]
  -- the exception leaves before the frame is handed on
  have none' : deviceCommands (logAfter (receiveAll isoEnv 0 [impossibleReport] loggedOn)) = [] :=
    by rfl
  have empty : arguments = [] := (List.append_eq_nil_iff.mp (handed.symm.trans none')).2
  rw [empty] at sent
  have count := congrArg List.length sent
  exact absurd count (by decide)

end Receiver

end GpsInformer
