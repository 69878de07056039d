import GpsInformer.UplinkRelay

/-!
# Whose positions a session reports

A data frame names an IMEI of its own, and `commandGpsData` checks its form only: the
message passed to `handleTrackerEvent` has the IMEI of the frame, whatever the session has
logged on as.  `reportsOwn_iff` gives the exact condition on one frame, and
`reports_own_iff` the one on a run.
-/

namespace GpsInformer

open Lib

namespace Device

variable {env : DeviceEnv} {session : SessionId} {s t : Shared} {command imei imei' : Str}
  {fields : List Str}

/-- The messages of data frames that have been passed to `handleTrackerEvent`. -/
def reported (log : List Effect) : List GpsMessage :=
  log.filterMap fun
    | .trackerEvent .data message => some message
    | _ => none

theorem reported_append (front back : List Effect) :
    reported (front ++ back) = reported front ++ reported back :=
  List.filterMap_append

theorem reported_deviceCommand (arguments : List Str) :
    reported (s.record (.deviceCommand arguments)).log = reported s.log :=
  (reported_append _ _).trans (List.append_nil _)

theorem reported_send (id : SessionId) (data : Str) :
    reported (s.send id data).log = reported s.log := by
  unfold Shared.send
  dsimp only
  split
  · rfl
  · split
    · exact (reported_append _ _).trans ((List.append_nil _).trans
        ((reported_append _ _).trans (List.append_nil _)))
    · exact (reported_append _ _).trans (List.append_nil _)

theorem reported_commandLogon (arguments : List Str) (imei : Str) :
    reported (commandLogon env session arguments imei s).2.1.log = reported s.log := by
  unfold commandLogon
  split
  · split
    · rfl
    · split
      · rfl
      · dsimp only
        split
        · rw [reported_send]
          exact (reported_append _ _).trans (List.append_nil _)
        · rfl
  · rfl

/-! ## Data frames -/

/-- The position of a frame does not depend on the rest of the message. -/
theorem position_eq (long : 11 < fields.length) :
    ∃ place : Option (ℚ × ℚ × ℚ), ∀ message, position env fields message =
      .ok (place.map fun p =>
        { message with latitude := p.1, longitude := p.2.1, speed := p.2.2 }) := by
  unfold position
  rw [argument_of_lt (by omega : 7 < fields.length), argument_of_lt (by omega : 8 < fields.length),
    argument_of_lt (by omega : 9 < fields.length), argument_of_lt (by omega : 10 < fields.length),
    argument_of_lt long]
  obtain ⟨latitude, eq⟩ := cutDegrees_ok (fields[7]?.getD [])
  obtain ⟨longitude, eq'⟩ := cutDegrees_ok (fields[9]?.getD [])
  simp only [bind, Except.bind, pure, Except.pure, eq, eq']
  cases latitude with
  | none => exact ⟨none, fun _ => rfl⟩
  | some latitude =>
      cases longitude with
      | none => exact ⟨none, fun _ => rfl⟩
      | some longitude =>
          dsimp only
          cases degrees env latitude.1 latitude.2 with
          | none => exact ⟨none, fun _ => rfl⟩
          | some north =>
              cases degrees env longitude.1 longitude.2 with
              | none => exact ⟨none, fun _ => rfl⟩
              | some east =>
                  cases env.lexicalCast (fields[11]?.getD []) with
                  | none => exact ⟨none, fun _ => rfl⟩
                  | some speed => exact ⟨some (_, _, speed), fun _ => rfl⟩

/-- The fields `commandGpsData` makes a message of: an IMEI of the right form, a date that
can be converted if there is one, and a position that can be converted if it is valid. -/
structure Accepted (env : DeviceEnv) (fields : List Str) : Prop where
  length : (fields.headD []).length = 20
  mark : imeiMark <+: fields.headD []
  dated : ∃ time, trackerTime env (fields[2]?.getD []) = .ok time
  placed : isValid fields = .ok true → position env fields {} ≠ .ok none

theorem reported_commandGpsData (size : fields.length = 6 ∨ 11 < fields.length) (s : Shared) :
    (¬ Accepted env fields ∧ ∀ t, commandGpsData env fields s = .ok t →
      reported t.log = reported s.log) ∨
    (Accepted env fields ∧ ∃ t message, commandGpsData env fields s = .ok t ∧
      reported t.log = reported s.log ++ [message] ∧ message.imei = (fields.headD []).drop 5) := by
  have head : fields[0]?.getD [] = fields.headD [] := by
    rw [List.headD_eq_head?_getD, List.head?_eq_getElem?]
  have recorded : ∀ message, reported ((s.universalTime env).2.record
      (.trackerEvent .data message)).log = reported s.log ++ [message] :=
    fun message => reported_append _ _
  unfold commandGpsData
  rw [argument_of_lt (by omega : 0 < fields.length), argument_of_lt (by omega : 1 < fields.length),
    argument_of_lt (by omega : 2 < fields.length), argument_of_lt (by omega : 3 < fields.length)]
  simp only [bind, Except.bind, pure, Except.pure, head]
  by_cases named : (fields.headD []).length ≠ 20 ∨ (fields.headD []).find imeiMark ≠ some 0
  · rw [if_pos named]
    refine Or.inl ⟨fun accepted => ?_, fun t ok => ?_⟩
    · rcases named with length | mark
      · exact length accepted.length
      · exact mark (Str.find_eq_zero_iff.mpr accepted.mark)
    · cases ok
      rfl
  · rw [if_neg named]
    obtain ⟨length, mark⟩ := not_or.mp named
    cases dated : trackerTime env (fields[2]?.getD []) with
    | error fault =>
        refine Or.inl ⟨fun accepted => ?_, nofun⟩
        obtain ⟨time, ok⟩ := accepted.dated
        cases dated.symm.trans ok
    | ok time =>
        have form : (isValid fields = .ok true → position env fields {} ≠ .ok none) →
            Accepted env fields := fun placed =>
          ⟨not_not.mp length, Str.find_eq_zero_iff.mp (not_not.mp mark), ⟨time, dated⟩, placed⟩
        obtain ⟨valid, validEq, long⟩ := isValid_ok fields
        simp only [validEq]
        cases valid with
        | false =>
            refine Or.inr ⟨form (fun impossible => ?_), _, _, rfl, recorded _, rfl⟩
            cases validEq.symm.trans impossible
        | true =>
            obtain ⟨place, positioned⟩ := @position_eq env fields (long rfl)
            simp only [positioned, if_true]
            cases place with
            | none =>
                refine Or.inl ⟨fun accepted => accepted.placed validEq (positioned {}),
                  fun t ok => ?_⟩
                cases ok
                rfl
            | some place =>
                refine Or.inr ⟨form fun _ none' => ?_, _, _, rfl, recorded _, rfl⟩
                rw [positioned] at none'
                cases none'

/-! ## Frames -/

/-- The messages that a frame makes the session report. -/
def reportedBy (env : DeviceEnv) (session : SessionId) (command imei : Str) (s : Shared) :
    List GpsMessage :=
  (reported (processCommand env session command imei s).shared.log).drop (reported s.log).length

theorem reportedBy_of_append {messages : List GpsMessage}
    (log : reported (processCommand env session command imei s).shared.log =
      reported s.log ++ messages) : reportedBy env session command imei s = messages := by
  unfold reportedBy
  rw [log, List.drop_left]

/-- The end of `processCommand` reports nothing. -/
theorem reported_dispatched (first : (split command).headD [] ≠ []) {result transmit : Bool}
    (dispatched : dispatch env session (split command) imei s = .ok (imei', t, result, transmit)) :
    reported (processCommand env session command imei s).shared.log = reported t.log := by
  rw [processCommand_of_first first, dispatched]
  dsimp only
  split
  · rfl
  · cases transmit with
    | false => rfl
    | true => exact reported_deviceCommand _

/-- The frame is one that the session reports. -/
structure Reports (env : DeviceEnv) (session : SessionId) (command imei : Str) (s : Shared) :
    Prop where
  authorized : imei ≠ [] ∧ s.authorizedSession = some session
  size : (split command).length = 6 ∨ 11 < (split command).length
  accepted : Accepted env (split command)

theorem reported_processCommand (command imei : Str) (s : Shared) :
    (¬ Reports env session command imei s ∧
      reported (processCommand env session command imei s).shared.log = reported s.log) ∨
    (Reports env session command imei s ∧ ∃ message,
      reported (processCommand env session command imei s).shared.log =
          reported s.log ++ [message] ∧
        message.imei = ((split command).headD []).drop 5) := by
  by_cases first : (split command).headD [] = []
  · refine Or.inl ⟨fun reports => ?_, ?_⟩
    · have length := reports.accepted.length
      rw [first] at length
      cases length
    · rw [processCommand_of_skip first]
      rfl
  by_cases logon : (split command).headD [] = logonMark
  · refine Or.inl ⟨fun reports => ?_, ?_⟩
    · have length := reports.accepted.length
      rw [logon] at length
      cases length
    · rw [reported_dispatched first (dispatch_logon logon)]
      exact reported_commandLogon _ _
  by_cases authorized : imei ≠ [] ∧ s.authorizedSession = some session
  · have dispatched := @dispatch_data env session s command imei logon authorized
    by_cases size : (split command).length = 6 ∨ 11 < (split command).length
    · have several : (split command).length ≠ 1 := by
        omega
      rw [if_neg several, if_pos size] at dispatched
      rcases reported_commandGpsData size s with ⟨refused, silent⟩ |
        ⟨accepted, t, message, ok, log, named⟩
      · refine Or.inl ⟨fun reports => refused reports.accepted, ?_⟩
        cases outcome : commandGpsData env (split command) s with
        | error fault =>
            rw [outcome] at dispatched
            rw [processCommand_of_first first, dispatched]
            rfl
        | ok t =>
            rw [outcome] at dispatched
            rw [reported_dispatched first dispatched]
            exact silent t outcome
      · rw [ok] at dispatched
        refine Or.inr ⟨⟨authorized, size, accepted⟩, message, ?_, named⟩
        rw [reported_dispatched first dispatched]
        exact log
    · refine Or.inl ⟨fun reports => size reports.size, ?_⟩
      rw [if_neg size] at dispatched
      split at dispatched
      · split at dispatched
        · rw [reported_dispatched first dispatched]
        · rw [reported_dispatched first dispatched]
          exact reported_send _ _
      · rw [reported_dispatched first dispatched]
  · refine Or.inl ⟨fun reports => authorized reports.authorized, ?_⟩
    rw [reported_dispatched first (dispatch_closed logon authorized)]

theorem reportedBy_cases (command imei : Str) (s : Shared) :
    (¬ Reports env session command imei s ∧ reportedBy env session command imei s = []) ∨
    (Reports env session command imei s ∧ ∃ message,
      reportedBy env session command imei s = [message] ∧
        message.imei = ((split command).headD []).drop 5) := by
  rcases reported_processCommand command imei s with ⟨silent, log⟩ | ⟨reports, message, log, named⟩
  · exact Or.inl ⟨silent, reportedBy_of_append (log.trans (List.append_nil _).symm)⟩
  · exact Or.inr ⟨reports, message, reportedBy_of_append log, named⟩

/-- A frame adds what it makes the session report. -/
theorem reported_eq (command imei : Str) (s : Shared) :
    reported (processCommand env session command imei s).shared.log =
      reported s.log ++ reportedBy env session command imei s := by
  rcases reported_processCommand command imei s with ⟨_, log⟩ | ⟨_, message, log, _⟩
  · rw [reportedBy_of_append (log.trans (List.append_nil _).symm), log, List.append_nil]
  · rw [reportedBy_of_append log, log]

/-- What the frames of a stream make the session report is reported by one of them. -/
theorem of_reported_interpret {frames : List Str} {message : GpsMessage}
    (member : message ∈ reported (interpret env session frames imei s).shared.log) :
    message ∈ reported s.log ∨ ∃ before command after imei' t,
      frames = before ++ command :: after ∧ interpret env session before imei s = .goOn imei' t ∧
        message ∈ reportedBy env session command imei' t := by
  induction frames generalizing imei s with
  | nil => exact Or.inl member
  | cons command rest ih =>
      have first := @reported_eq env session command imei s
      have here : message ∈ reported (processCommand env session command imei s).shared.log →
          message ∈ reported s.log ∨ ∃ before command' after imei' t,
            command :: rest = before ++ command' :: after ∧
              interpret env session before imei s = .goOn imei' t ∧
              message ∈ reportedBy env session command' imei' t := by
        intro among
        rw [first] at among
        rcases List.mem_append.mp among with old | new
        · exact Or.inl old
        · exact Or.inr ⟨[], command, rest, imei, s, rfl, rfl, new⟩
      rw [interpret] at member
      cases outcome : processCommand env session command imei s with
      | close _ _ =>
          rw [outcome] at member here
          exact here member
      | fault _ _ =>
          rw [outcome] at member here
          exact here member
      | goOn imei' t =>
          rw [outcome] at member here
          rcases ih member with old | ⟨before, other, after, imei'', u, rfl, goesOn, among⟩
          · exact here old
          · refine Or.inr ⟨command :: before, other, after, imei'', u, rfl, ?_, among⟩
            rw [interpret, outcome]
            exact goesOn

/-- What the frame makes the session report has the session's IMEI, and a frame for another
IMEI makes it report nothing. -/
structure ReportsOwn (env : DeviceEnv) (session : SessionId) (command imei : Str) (s : Shared) :
    Prop where
  own : ∀ message ∈ reportedBy env session command imei s, message.imei = imei
  foreign : (split command).headD [] ≠ imeiMark ++ imei →
    reportedBy env session command imei s = []

/-- The frame of an authorized session names another IMEI. -/
def ForeignReport (env : DeviceEnv) (session : SessionId) (command imei : Str) (s : Shared) :
    Prop :=
  Reports env session command imei s ∧ (split command).headD [] ≠ imeiMark ++ imei

theorem reportsOwn_iff : ReportsOwn env session command imei s ↔
    ¬ ForeignReport env session command imei s := by
  rcases reportedBy_cases command imei s with ⟨silent, nothing⟩ | ⟨reports, message, one, named⟩
  · refine iff_of_true ⟨?_, fun _ => nothing⟩ fun foreign => silent foreign.1
    rw [nothing]
    exact nofun
  · have named_iff : message.imei = imei ↔ (split command).headD [] = imeiMark ++ imei := by
      obtain ⟨rest, eq⟩ := reports.accepted.mark
      rw [named, ← eq, List.append_cancel_left_eq]
      exact Iff.rfl
    constructor
    · rintro own ⟨_, other⟩
      refine other (named_iff.mp (own.own message ?_))
      rw [one]
      exact List.mem_singleton_self _
    · intro same
      have own : (split command).headD [] = imeiMark ++ imei :=
        not_not.mp fun other => same ⟨reports, other⟩
      refine ⟨fun message' member => ?_, fun other => absurd own other⟩
      rw [one, List.mem_singleton] at member
      rw [member]
      exact named_iff.mpr own

end Device

namespace Receiver

open Device

variable {env : DeviceEnv} {es : List Event} {session : SessionId} {command imei : Str} {s : Shared}

/-- In the run, a chunk brings the frame, and the frame is dealt with when the session's
`_imei` is `imei`. -/
def DealsWith (env : DeviceEnv) (es : List Event) (session : SessionId) (command imei : Str)
    (s : Shared) : Prop :=
  ∃ front data r d before after,
    front ++ [.read session data false] <+: es ∧ Run (step env) {} front r ∧
    r.devices session = some d ∧
    (cut ';' (d.buffer ++ data).strip).1 = before ++ command :: after ∧
    interpret env session before d.imei (r.modifySession session unread).shared = .goOn imei s

/-! ## Whole runs -/

theorem reported_hangUp {r : Receiver} (sound : Sound r) (id : SessionId) :
    reported (r.hangUp env id).shared.log = reported r.shared.log :=
  IgnoresEnd.ofHangUp ⟨fun _ => rfl, fun _ => rfl, fun _ => rfl, fun _ => rfl⟩ sound id

theorem reported_ended {imei : Str} {r : Receiver} :
    reported (ended env session imei s r).shared.log = reported s.log :=
  IgnoresEnd.ended ⟨fun _ => rfl, fun _ => rfl, fun _ => rfl, fun _ => rfl⟩ imei

/-- What is reported while a device deals with what has been received. -/
theorem of_reported_received {r u : Receiver} {data : Str} {message : GpsMessage} {id : SessionId}
    (live : ∀ {d}, r.devices id = some d → (r.shared.sessions id).active = true)
    (received : r.handleTcpSessionReceivedData env id data = .ok u)
    (member : message ∈ reported u.shared.log) :
    message ∈ reported r.shared.log ∨ ∃ d before command after imei s,
      r.devices id = some d ∧ (cut ';' (d.buffer ++ data).strip).1 = before ++ command :: after ∧
      interpret env id before d.imei r.shared = .goOn imei s ∧
      message ∈ reportedBy env id command imei s := by
  unfold handleTcpSessionReceivedData at received
  split at received
  · cases received
    exact Or.inl member
  · rename_i d device
    obtain ⟨imei, s, _, outcome⟩ := processData_cases (live device) received
    have log : message ∈ reported (interpret env id (cut ';' (d.buffer ++ data).strip).1 d.imei
        r.shared).shared.log := by
      rcases outcome with ⟨verdict, rfl⟩ | ⟨verdict | verdict, rfl⟩
      · rw [verdict]
        exact member
      · rw [verdict]
        rwa [reported_ended] at member
      · rw [verdict]
        rwa [reported_ended] at member
    rcases of_reported_interpret log with
      old | ⟨before, command, after, imei, s, split, goesOn, new⟩
    · exact Or.inl old
    · exact Or.inr ⟨d, before, command, after, imei, s, device, split, goesOn, new⟩

/-- What a step reports is reported by a frame of the chunk it reads. -/
theorem of_reported_step {r t : Receiver} (sound : Sound r) {e : Event} {message : GpsMessage}
    (taken : step env r e = some t) (member : message ∈ reported t.shared.log) :
    message ∈ reported r.shared.log ∨ ∃ session data d before command after imei s,
      e = .read session data false ∧ r.devices session = some d ∧
      (cut ';' (d.buffer ++ data).strip).1 = before ++ command :: after ∧
      interpret env session before d.imei (r.modifySession session unread).shared = .goOn imei s ∧
      message ∈ reportedBy env session command imei s := by
  cases step_cases taken with
  | accept =>
      have same : reported r.accepting.shared.log = reported r.shared.log :=
        (reported_append _ _).trans (List.append_nil _)
      rw [same] at member
      exact Or.inl member
  | readEnd id data failed _ _ =>
      have pending : Sound (r.modifySession id unread) := sound.modifySession id unread fun _ => rfl
      rw [reported_hangUp pending] at member
      exact Or.inl member
  | @read id data u _ _ received =>
      have live : ∀ {d}, r.devices id = some d →
          ((r.modifySession id unread).shared.sessions id).active = true := fun device =>
        (sound.modifySession id unread fun _ => rfl).live device
      change message ∈ reported u.shared.log at member
      rcases of_reported_received live received member with
        old | ⟨d, before, command, after, imei, s, device, split, goesOn, new⟩
      · exact Or.inl old
      · exact Or.inr ⟨id, data, d, before, command, after, imei, s, rfl, device, split, goesOn, new⟩
  | writeEnd id _ =>
      have pending : Sound (r.modifySession id unwritten) :=
        sound.modifySession id unwritten fun _ => rfl
      rw [reported_hangUp pending] at member
      exact Or.inl member
  | written id _ => exact Or.inl member
  | writtenNext id _ =>
      have same : reported (((r.shared.modifySession id unwritten).modifySession id popped).write
          id).log = reported r.shared.log := (reported_append _ _).trans (List.append_nil _)
      dsimp only at member
      rw [same] at member
      exact Or.inl member
  | close id _ =>
      have recorded : Sound { r with shared := r.shared.record (.close id) } :=
        sound.with_shared fun _ => rfl
      have same : reported (r.shared.record (.close id)).log = reported r.shared.log :=
        (reported_append _ _).trans (List.append_nil _)
      rw [reported_hangUp recorded, same] at member
      exact Or.inl member
  | noDownlink data => exact Or.inl member
  | downlink data id _ =>
      dsimp only at member
      rw [reported_send] at member
      exact Or.inl member

/-- Every message reported in a run is reported by a frame the run deals with. -/
theorem of_reported_run {r : Receiver} (run : Run (step env) {} es r) {message : GpsMessage}
    (member : message ∈ reported r.shared.log) :
    ∃ session command imei s, DealsWith env es session command imei s ∧
      message ∈ reportedBy env session command imei s := by
  induction es using List.reverseRecOn generalizing r with
  | nil =>
      cases run
      cases member
  | append_singleton es e ih =>
      obtain ⟨q, earlier, last⟩ := run.of_append
      have sound : Sound q := earlier.invariant (fun sound taken => sound.step taken) sound_init
      rcases of_reported_step sound last.of_singleton member with
        old | ⟨session, data, d, before, command, after, imei, s, rfl, device, split, goesOn, new⟩
      · obtain ⟨session, command, imei, s, dealt, among⟩ := ih earlier old
        obtain ⟨front, data, r, d, before, after, isPrefix, rest⟩ := dealt
        exact ⟨session, command, imei, s, ⟨front, data, r, d, before, after,
          isPrefix.trans (List.prefix_append es [e]), rest⟩, among⟩
      · exact ⟨session, command, imei, s, ⟨es, data, q, d, before, after, List.prefix_refl _,
          earlier, device, split, goesOn⟩, new⟩

/-- Whatever is reported in a run is reported by one of its frames; and its sessions report for
the IMEI they have logged on with only, iff none of these frames is a well-formed data frame that
names another one. -/
theorem reports_own_iff (env : DeviceEnv) (es : List Event) :
    (∀ r, Run (step env) {} es r → ∀ message ∈ reported r.shared.log,
      ∃ session command imei s, DealsWith env es session command imei s ∧
        message ∈ reportedBy env session command imei s) ∧
    ((∀ session command imei s, DealsWith env es session command imei s →
      ReportsOwn env session command imei s) ↔
    ∀ session command imei s, DealsWith env es session command imei s →
      ¬ ForeignReport env session command imei s) :=
  ⟨fun _ run _ member => of_reported_run run member,
    forall₅_congr fun _ _ _ _ _ => reportsOwn_iff⟩

/-- A data frame of another tracker. -/
def foreignFrame : Str := "imei:543210987654321,tracker,170228000000,,,".toList

theorem not_forall_reportsOwn :
    ¬ ∀ env es session command imei s, DealsWith env es session command imei s →
      ReportsOwn env session command imei s := by
  intro claim
  have device : loggedOn.devices 0 = some { imei := isoEnv.imei } := by decide
  have frames : (cut ';' (Str.strip (foreignFrame ++ [';']))).1 = [foreignFrame] := by
    decide +kernel
  have reports : (reportedBy isoEnv 0 foreignFrame isoEnv.imei
      (loggedOn.modifySession 0 unread).shared).map GpsMessage.imei =
        ["543210987654321".toList] := by
    decide +kernel
  have own := claim isoEnv _ 0 foreignFrame isoEnv.imei _
    ⟨_, foreignFrame ++ [';'], loggedOn, _, [], [], List.prefix_refl _, run_loggedOn, device,
      frames, rfl⟩
  obtain ⟨message, member, named⟩ := List.mem_map.mp
    (reports ▸ List.mem_singleton_self "543210987654321".toList)
  have same := (own.own message member).symm.trans named
  revert same
  decide

end Receiver

end GpsInformer
