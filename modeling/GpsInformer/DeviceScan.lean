import GpsInformer.DeviceFraming

/-!
# What a tracker's frames do to its session

Whether a frame closes its session, and what `_imei` is after it, depends on the frame,
on `_imei` and on whether the session is the authorized one (`Standing`), and on
nothing else of the receiver: `advance` computes it, and `reached` are the frames
of a stream that are dealt with before one closes the session.  `processCommand_cases`
ties both to the code, together with what a frame hands to `handleDeviceCommand` and
with the only way it can fail, a data frame with an impossible date (`BadDate`).
-/

namespace GpsInformer

open Lib

namespace Device

/-! ## Dates -/

/-- The value of a string of decimal digits. -/
def number (digits : Str) : Nat :=
  digits.foldl (fun n c => 10 * n + (c.toNat - '0'.toNat)) 0

def daysInMonth (year month : Nat) : Nat :=
  if month = 2 then if year % 4 = 0 ∧ (year % 100 ≠ 0 ∨ year % 400 = 0) then 29 else 28
  else if month = 4 ∨ month = 6 ∨ month = 9 ∨ month = 11 then 30
  else 31

/-- The date part of a `YYMMDDHHMMSS` time is a calendar date. -/
def ValidDate (time : Str) : Prop :=
  1 ≤ number ((time.drop 2).take 2) ∧ number ((time.drop 2).take 2) ≤ 12 ∧
    1 ≤ number ((time.drop 4).take 2) ∧
    number ((time.drop 4).take 2) ≤
      daysInMonth (2000 + number (time.take 2)) (number ((time.drop 2).take 2))

instance (time : Str) : Decidable (ValidDate time) :=
  inferInstanceAs (Decidable (_ ∧ _ ∧ _ ∧ _))

/-- `from_iso_string` raises exactly when the date part is not a calendar date. -/
def IsoDates (env : DeviceEnv) : Prop :=
  ∀ time : Str, time.length = 12 → isDigits time = true →
    (env.fromIsoString (isoTime time) = none ↔ ¬ ValidDate time)

/-- A data frame whose time has the tracker's format but no valid date. -/
def BadDate (command : Str) : Prop :=
  ((split command).length = 6 ∨ 11 < (split command).length) ∧
    ((split command).headD []).length = 20 ∧ imeiMark <+: (split command).headD [] ∧
    ((split command)[2]?.getD []).length = 12 ∧ isDigits ((split command)[2]?.getD []) = true ∧
    ¬ ValidDate ((split command)[2]?.getD [])

instance (command : Str) : Decidable (BadDate command) :=
  inferInstanceAs (Decidable ((_ ∨ _) ∧ _ ∧ _ ∧ _ ∧ _ ∧ _))

/-! ## Standings -/

/-- How a session stands: its device's `_imei`, and whether it is the authorized one. -/
structure Standing where
  imei : Str
  authorized : Bool
  deriving DecidableEq, Repr

def standing (session : SessionId) (imei : Str) (s : Shared) : Standing :=
  ⟨imei, decide (s.authorizedSession = some session)⟩

/-- The IMEI of a well-formed logon. -/
def logonImei : List Str → Option Str
  | [_, name, flag] =>
      if flag = ['A'] ∧ name.length = 20 ∧ imeiMark <+: name then some (name.drop 5) else none
  | _ => none

/-- The standing after a frame, or `none` if the frame closes the session. -/
def advance (configured : Str) (st : Standing) (command : Str) : Option Standing :=
  let first := (split command).headD []
  if first = [] then some st
  else if first = logonMark then
    match logonImei (split command) with
    | none => none
    | some imei =>
        if st.authorized ∨ imei = configured then some ⟨imei, true⟩ else none
  else if st.imei ≠ [] ∧ st.authorized then
    if (split command).length = 1 ∧ first ≠ st.imei then none else some st
  else none

/-- The frames dealt with before one closes the session. -/
def reached (configured : Str) : Standing → List Str → List Str
  | _, [] => []
  | st, command :: rest =>
      match advance configured st command with
      | none => []
      | some st => command :: reached configured st rest

/-- The frames that are relayed: at least two fields, and a first one that is neither
empty nor `##`. -/
def Relayable (command : Str) : Prop :=
  2 ≤ (split command).length ∧ (split command).headD [] ≠ [] ∧
    (split command).headD [] ≠ logonMark

instance (command : Str) : Decidable (Relayable command) :=
  inferInstanceAs (Decidable (_ ∧ _ ∧ _))

/-- The argument lists handed to `handleDeviceCommand`. -/
def deviceCommands (log : List Effect) : List (List Str) :=
  log.filterMap fun
    | .deviceCommand arguments => some arguments
    | _ => none

variable {env : DeviceEnv} {session : SessionId} {s t : Shared}

/-! ## The functions of `Device` -/

theorem deviceCommands_send (id : SessionId) (data : Str) :
    deviceCommands (s.send id data).log = deviceCommands s.log := by
  unfold Shared.send
  split
  · rfl
  · dsimp only
    split
    · simp [Shared.write, Shared.record, Shared.modifySession, deviceCommands]
    · simp [Shared.record, Shared.modifySession, deviceCommands]

theorem deviceCommands_deviceCommand (arguments : List Str) :
    deviceCommands (s.record (.deviceCommand arguments)).log =
      deviceCommands s.log ++ [arguments] := by
  simp [Shared.record, deviceCommands]

theorem authorizedSession_send (id : SessionId) (data : Str) :
    (s.send id data).authorizedSession = s.authorizedSession := by
  unfold Shared.send
  split
  · rfl
  · dsimp only
    split <;> rfl

theorem commandLogon_of_some {arguments : List Str} {name : Str}
    (wellFormed : logonImei arguments = some name) (imei : Str) (s : Shared) :
    ∃ t, commandLogon env session arguments imei s = (name, t, true) ∧
      deviceCommands t.log = deviceCommands s.log ∧
      t.authorizedSession = if name = env.imei then some session else s.authorizedSession := by
  unfold logonImei at wellFormed
  split at wellFormed
  · rename_i mark full flag
    split at wellFormed
    · rename_i parts
      obtain ⟨rfl, length, isPrefix⟩ := parts
      cases wellFormed
      have named : ¬ (full.length ≠ 20 ∨ full.find imeiMark ≠ some 0) := by
        rw [not_or, not_not, not_not, Str.find_eq_zero_iff]
        exact ⟨length, isPrefix⟩
      unfold commandLogon
      dsimp only
      rw [if_neg (not_not.mpr rfl), if_neg named]
      split
      · refine ⟨_, rfl, ?_, ?_⟩
        · rw [deviceCommands_send]
          simp [Shared.record, Shared.universalTime, deviceCommands]
        · rw [authorizedSession_send]
          rfl
      · exact ⟨s, rfl, rfl, rfl⟩
    · cases wellFormed
  · cases wellFormed

theorem commandLogon_of_none {arguments : List Str} (malformed : logonImei arguments = none)
    (imei : Str) (s : Shared) :
    ∃ imei', commandLogon env session arguments imei s = (imei', s, false) ∧
      (imei' = imei ∨ arguments.length = 3 ∧ arguments[2]? = some ['A']) := by
  unfold commandLogon
  split
  · rename_i mark name flag
    split
    · exact ⟨imei, rfl, Or.inl rfl⟩
    · rename_i flagged
      rw [not_not] at flagged
      split
      · exact ⟨[], rfl, Or.inr ⟨rfl, congrArg some flagged⟩⟩
      · rename_i named
        rw [not_or, not_not, not_not, Str.find_eq_zero_iff] at named
        have wellFormed : logonImei [mark, name, flag] = some (name.drop 5) :=
          if_pos ⟨flagged, named⟩
        cases malformed.symm.trans wellFormed
  · exact ⟨imei, rfl, Or.inl rfl⟩

/-- A well-formed logon has three fields, the last one `A`, and a name of fifteen
characters. -/
theorem of_logonImei {arguments : List Str} {name : Str}
    (wellFormed : logonImei arguments = some name) :
    arguments.length = 3 ∧ arguments[2]? = some ['A'] ∧ name.length = 15 := by
  unfold logonImei at wellFormed
  split at wellFormed
  · split at wellFormed
    · rename_i parts
      obtain ⟨rfl, length, _⟩ := parts
      cases wellFormed
      refine ⟨rfl, rfl, ?_⟩
      rw [List.length_drop, length]
    · cases wellFormed
  · cases wellFormed

theorem argument_of_lt {arguments : List Str} {i : Nat} (within : i < arguments.length) :
    argument arguments i = .ok (arguments[i]?.getD []) := by
  unfold argument
  rw [List.getElem?_eq_getElem within]
  rfl

/-- No index of `cutDegrees` is out of range. -/
theorem cutDegrees_ok (coordinate : Str) : ∃ result, cutDegrees coordinate = .ok result := by
  unfold cutDegrees
  split
  · exact ⟨none, rfl⟩
  · rename_i position found
    split
    · exact ⟨none, rfl⟩
    · have within : ¬ position - 2 > coordinate.length := by
        have := (Str.of_findFirstOf found).2.2
        omega
      unfold substrFrom eraseFrom
      rw [if_neg within, if_neg within]
      exact ⟨_, rfl⟩

/-- No index of the position block is out of range. -/
theorem position_ok {arguments : List Str} (long : 11 < arguments.length) (message : GpsMessage) :
    ∃ result, position env arguments message = .ok result := by
  unfold position
  rw [argument_of_lt (by omega : 7 < arguments.length),
    argument_of_lt (by omega : 8 < arguments.length),
    argument_of_lt (by omega : 9 < arguments.length),
    argument_of_lt (by omega : 10 < arguments.length), argument_of_lt long]
  obtain ⟨latitude, eq⟩ := cutDegrees_ok (arguments[7]?.getD [])
  obtain ⟨longitude, eq'⟩ := cutDegrees_ok (arguments[9]?.getD [])
  simp only [bind, Except.bind, pure, Except.pure, eq, eq']
  cases latitude with
  | none => exact ⟨none, rfl⟩
  | some latitude =>
      cases longitude with
      | none => exact ⟨none, rfl⟩
      | some longitude =>
          dsimp only
          split
          · exact ⟨_, rfl⟩
          · exact ⟨none, rfl⟩

theorem position_ne_error {arguments : List Str} (long : 11 < arguments.length)
    {message : GpsMessage} {fault : Fault} : position env arguments message ≠ .error fault := by
  intro raised
  obtain ⟨result, ok⟩ : ∃ result, position env arguments message = .ok result :=
    position_ok long message
  cases raised.symm.trans ok

theorem isValid_ok (arguments : List Str) : ∃ valid, isValid arguments = .ok valid ∧
    (valid = true → 11 < arguments.length) := by
  unfold isValid
  split
  · rename_i long
    rw [argument_of_lt (by omega : 4 < arguments.length)]
    exact ⟨_, rfl, fun _ => long⟩
  · exact ⟨false, rfl, fun impossible => nomatch impossible⟩

theorem commandGpsData_badDate (dates : IsoDates env) {command : Str} (bad : BadDate command)
    (s : Shared) : commandGpsData env (split command) s = .error .badDate := by
  obtain ⟨size, length, isPrefix, digits, allDigits, invalid⟩ := bad
  have named : ¬ (((split command)[0]?.getD []).length ≠ 20 ∨
      Str.find ((split command)[0]?.getD []) imeiMark ≠ some 0) := by
    rw [← List.head?_eq_getElem?, ← List.headD_eq_head?_getD, not_or, not_not, not_not,
      Str.find_eq_zero_iff]
    exact ⟨length, isPrefix⟩
  have raised : trackerTime env ((split command)[2]?.getD []) = .error .badDate := by
    unfold trackerTime
    rw [if_pos ⟨digits, allDigits⟩, (dates _ digits allDigits).mpr invalid]
  unfold commandGpsData
  rw [argument_of_lt (by omega : 0 < (split command).length),
    argument_of_lt (by omega : 1 < (split command).length),
    argument_of_lt (by omega : 2 < (split command).length),
    argument_of_lt (by omega : 3 < (split command).length)]
  simp only [bind, Except.bind, raised]
  rw [if_neg named]

theorem commandGpsData_ok (dates : IsoDates env) {command : Str} (fine : ¬ BadDate command)
    (size : (split command).length = 6 ∨ 11 < (split command).length) (s : Shared) :
    ∃ t, commandGpsData env (split command) s = .ok t := by
  unfold commandGpsData
  rw [argument_of_lt (by omega : 0 < (split command).length),
    argument_of_lt (by omega : 1 < (split command).length),
    argument_of_lt (by omega : 2 < (split command).length),
    argument_of_lt (by omega : 3 < (split command).length)]
  simp only [bind, Except.bind, pure, Except.pure]
  split
  · exact ⟨s, rfl⟩
  · rename_i named
    rw [← List.head?_eq_getElem?, ← List.headD_eq_head?_getD, not_or, not_not, not_not,
      Str.find_eq_zero_iff] at named
    obtain ⟨time, converted⟩ : ∃ time,
        trackerTime env ((split command)[2]?.getD []) = .ok time := by
      unfold trackerTime
      split
      · rename_i text
        cases iso : env.fromIsoString (isoTime ((split command)[2]?.getD [])) with
        | none =>
            have invalid := (dates _ text.1 text.2).mp iso
            exact absurd ⟨size, named.1, named.2, text.1, text.2, invalid⟩ fine
        | some time => exact ⟨some time, rfl⟩
      · exact ⟨none, rfl⟩
    obtain ⟨valid, validEq, long⟩ := isValid_ok (split command)
    simp only [converted, validEq]
    split
    · rename_i isValid
      split
      · rename_i fault raised
        exact absurd raised (position_ne_error (long isValid))
      · split <;> exact ⟨_, rfl⟩
    · exact ⟨_, rfl⟩

theorem commandGpsData_quiet {arguments : List Str}
    (ok : commandGpsData env arguments s = .ok t) :
    t.authorizedSession = s.authorizedSession ∧
      deviceCommands t.log = deviceCommands s.log := by
  rcases commandGpsData_cases ok with rfl | rfl | ⟨message, rfl⟩
  · exact ⟨rfl, rfl⟩
  · exact ⟨rfl, rfl⟩
  · refine ⟨rfl, ?_⟩
    simp [Shared.record, Shared.universalTime, deviceCommands]

/-! ## One frame -/

/-- A three-field logon that does not name the configured IMEI. -/
def ForeignLogon (configured command : Str) : Prop :=
  (split command).headD [] = logonMark ∧ (split command).length = 3 ∧
    (split command)[2]? = some ['A'] ∧ logonImei (split command) ≠ some configured

instance (configured command : Str) : Decidable (ForeignLogon configured command) :=
  inferInstanceAs (Decidable (_ ∧ _ ∧ _ ∧ _))

/-- The verdict on a frame, and what goes with it. -/
inductive CommandCase (env : DeviceEnv) (session : SessionId) (command imei : Str) (s : Shared) :
    Verdict → Prop
  | goOn {imei' : Str} {t : Shared} :
    advance env.imei (standing session imei s) command = some (standing session imei' t) →
    (IsoDates env → ¬ BadDate command) →
    deviceCommands t.log =
      deviceCommands s.log ++ (if Relayable command then [split command] else []) →
    CommandCase env session command imei s (.goOn imei' t)
  | close {imei' : Str} {t : Shared} :
    advance env.imei (standing session imei s) command = none →
    t.authorizedSession = s.authorizedSession →
    (imei' = imei ∨ ForeignLogon env.imei command) →
    deviceCommands t.log = deviceCommands s.log →
    CommandCase env session command imei s (.close imei' t)
  | fault {f : Fault} :
    advance env.imei (standing session imei s) command = some (standing session imei s) →
    (IsoDates env → f = .badDate ∧ BadDate command) →
    CommandCase env session command imei s (.fault f s)

section Command

variable {command imei imei' : Str} {result transmit : Bool}

theorem split_pos (command : Str) : 0 < (split command).length :=
  List.length_pos_of_ne_nil (List.splitOn_ne_nil ',' command)

theorem argument_zero (command : Str) :
    argument (split command) 0 = .ok ((split command).headD []) := by
  rw [argument_of_lt (split_pos command), List.headD_eq_head?_getD, List.head?_eq_getElem?]

theorem processCommand_of_skip (skip : (split command).headD [] = []) :
    processCommand env session command imei s = .goOn imei s := by
  unfold processCommand
  split
  · rfl
  · exact if_pos (Or.inr (congrArg List.length skip))

/-- A frame with a first field is dispatched. -/
theorem processCommand_of_first (first : (split command).headD [] ≠ []) :
    processCommand env session command imei s =
      match dispatch env session (split command) imei s with
      | .error fault => .fault fault s
      | .ok (imei, s, result, transmit) =>
          if !result ∨ imei.length = 0 ∨ s.authorizedSession ≠ some session then .close imei s
          else .goOn imei (if transmit then s.record (.deviceCommand (split command)) else s) := by
  have nonempty : ¬ command.length = 0 := by
    intro empty
    rw [List.length_eq_zero_iff.mp empty] at first
    exact first rfl
  have fields : ¬ ((split command).length = 0 ∨ ((split command).headD []).length = 0) := by
    rw [not_or]
    exact ⟨(split_pos command).ne', fun empty => first (List.length_eq_zero_iff.mp empty)⟩
  unfold processCommand
  rw [if_neg nonempty]
  exact if_neg fields

theorem dispatch_logon (logon : (split command).headD [] = logonMark) :
    dispatch env session (split command) imei s =
      .ok ((commandLogon env session (split command) imei s).1,
        (commandLogon env session (split command) imei s).2.1,
        (commandLogon env session (split command) imei s).2.2, false) := by
  unfold dispatch
  rw [argument_zero]
  simp only [bind, Except.bind]
  rw [if_pos logon]
  rfl

theorem dispatch_data (data : (split command).headD [] ≠ logonMark)
    (authorized : imei ≠ [] ∧ s.authorizedSession = some session) :
    dispatch env session (split command) imei s =
      if (split command).length = 1 then
        .ok (imei, if (split command).headD [] ≠ imei then (s, false, false)
          else (s.send session ['O', 'N'], true, false))
      else if (split command).length = 6 ∨ (split command).length > 11 then
        (commandGpsData env (split command) s).map fun t => (imei, t, true, true)
      else .ok (imei, s, true, true) := by
  have known : imei.length ≠ 0 ∧ s.authorizedSession = some session :=
    ⟨fun empty => authorized.1 (List.length_eq_zero_iff.mp empty), authorized.2⟩
  unfold dispatch commandHeartbeat
  rw [argument_zero]
  simp only [bind, Except.bind]
  rw [if_neg data, if_pos known]
  by_cases single : (split command).length = 1
  · rw [if_pos single, if_pos single]
    by_cases differs : (split command).headD [] ≠ imei
    · rw [if_pos differs, if_pos differs]
      rfl
    · rw [if_neg differs, if_neg differs]
      rfl
  · rw [if_neg single, if_neg single]
    by_cases size : (split command).length = 6 ∨ (split command).length > 11
    · rw [if_pos size, if_pos size]
      cases commandGpsData env (split command) s <;> rfl
    · rw [if_neg size, if_neg size]
      rfl

theorem dispatch_closed (data : (split command).headD [] ≠ logonMark)
    (unauthorized : ¬ (imei ≠ [] ∧ s.authorizedSession = some session)) :
    dispatch env session (split command) imei s = .ok (imei, s, true, true) := by
  have unknown : ¬ (imei.length ≠ 0 ∧ s.authorizedSession = some session) := by
    intro known
    exact unauthorized ⟨fun empty => known.1 (congrArg List.length empty), known.2⟩
  unfold dispatch
  rw [argument_zero]
  simp only [bind, Except.bind]
  rw [if_neg data, if_neg unknown]
  rfl

theorem standing_of_eq {t : Shared} (same : t.authorizedSession = s.authorizedSession) :
    standing session imei t = standing session imei s := by
  unfold standing
  rw [same]

theorem not_relayable_of_logon (logon : (split command).headD [] = logonMark) :
    ¬ Relayable command :=
  fun relayable => relayable.2.2 logon

theorem not_badDate_of_logon (logon : (split command).headD [] = logonMark) :
    ¬ BadDate command := by
  intro bad
  have length := bad.2.1
  rw [logon] at length
  cases length

theorem CommandCase.logon (logon : (split command).headD [] = logonMark) (imei : Str)
    (s : Shared) :
    CommandCase env session command imei s (processCommand env session command imei s) := by
  have first : (split command).headD [] ≠ [] := fun empty => nomatch logon.symm.trans empty
  have advanced : advance env.imei (standing session imei s) command =
      match logonImei (split command) with
      | none => none
      | some name => if (standing session imei s).authorized ∨ name = env.imei then
          some ⟨name, true⟩ else none := by
    unfold advance
    dsimp only
    rw [if_neg first, if_pos logon]
  rw [processCommand_of_first first, dispatch_logon logon]
  cases wellFormed : logonImei (split command) with
  | none =>
      rw [wellFormed] at advanced
      obtain ⟨imei', eq, changed⟩ : ∃ imei',
          commandLogon env session (split command) imei s = (imei', s, false) ∧ _ :=
        commandLogon_of_none wellFormed imei s
      rw [eq]
      refine .close advanced rfl ?_ rfl
      rcases changed with same | ⟨size, flag⟩
      · exact Or.inl same
      · refine Or.inr ⟨logon, size, flag, ?_⟩
        rw [wellFormed]
        exact nofun
  | some name =>
      rw [wellFormed] at advanced
      obtain ⟨size, flag, length⟩ := of_logonImei wellFormed
      obtain ⟨t, eq, same, authorized⟩ : ∃ t,
          commandLogon env session (split command) imei s = (name, t, true) ∧ _ :=
        commandLogon_of_some wellFormed imei s
      have known : ¬ name.length = 0 := by omega
      rw [eq]
      dsimp only at advanced ⊢
      by_cases owner : t.authorizedSession = some session
      · have granted : (standing session imei s).authorized ∨ name = env.imei := by
          by_cases configured : name = env.imei
          · exact Or.inr configured
          · rw [if_neg configured] at authorized
            exact Or.inl (decide_eq_true (authorized.symm.trans owner))
        rw [if_pos granted] at advanced
        rw [if_neg (by simp [known, owner])]
        refine .goOn ?_ (fun _ => not_badDate_of_logon logon) ?_
        · rw [advanced, if_neg Bool.false_ne_true, standing, decide_eq_true owner]
        · rw [if_neg (not_relayable_of_logon logon), List.append_nil]
          exact same
      · have foreign : name ≠ env.imei :=
          fun configured => owner (authorized.trans (if_pos configured))
        rw [if_neg foreign] at authorized
        have refused : ¬ ((standing session imei s).authorized ∨ name = env.imei) := by
          rw [not_or]
          refine ⟨fun granted => owner (authorized.trans (of_decide_eq_true granted)), foreign⟩
        rw [if_neg refused] at advanced
        rw [if_pos (Or.inr (Or.inr owner))]
        refine .close advanced authorized (Or.inr ⟨logon, size, flag, ?_⟩) same
        rw [wellFormed]
        exact fun configured => foreign (Option.some.inj configured)

/-- How a frame that is no logon leaves the session. -/
theorem advance_data (first : (split command).headD [] ≠ [])
    (data : (split command).headD [] ≠ logonMark) (imei : Str) (s : Shared) :
    advance env.imei (standing session imei s) command =
      if imei ≠ [] ∧ (standing session imei s).authorized then
        if (split command).length = 1 ∧ (split command).headD [] ≠ imei then none
        else some (standing session imei s)
      else none := by
  unfold advance
  dsimp only
  rw [if_neg first, if_neg data]
  rfl

/-- A heartbeat of an authorized session. -/
theorem CommandCase.heartbeat (first : (split command).headD [] ≠ [])
    (data : (split command).headD [] ≠ logonMark) {imei : Str} {s : Shared}
    (authorized : imei ≠ [] ∧ s.authorizedSession = some session)
    (single : (split command).length = 1) :
    CommandCase env session command imei s (processCommand env session command imei s) := by
  have known : ¬ imei.length = 0 := fun empty => authorized.1 (List.length_eq_zero_iff.mp empty)
  have advanced := @advance_data env session command first data imei s
  rw [if_pos ⟨authorized.1, decide_eq_true authorized.2⟩] at advanced
  rw [processCommand_of_first first, dispatch_data data authorized]
  have kept : ¬ Relayable command := fun relayable => absurd relayable.1 (by omega)
  have fine : ¬ BadDate command := fun bad => absurd bad.1 (by omega)
  rw [if_pos single]
  by_cases differs : (split command).headD [] ≠ imei
  · rw [if_pos ⟨single, differs⟩] at advanced
    rw [if_pos differs]
    exact .close advanced rfl (Or.inl rfl) rfl
  · rw [if_neg fun both => differs both.2] at advanced
    rw [if_neg differs]
    dsimp only
    rw [if_neg (by simp [known, authorizedSession_send, authorized.2])]
    refine .goOn ?_ (fun _ => fine) ?_
    · rw [advanced]
      exact congrArg some (standing_of_eq (authorizedSession_send _ _)).symm
    · rw [if_neg kept, List.append_nil]
      exact deviceCommands_send _ _

/-- A frame of several fields on an authorized session. -/
theorem CommandCase.report (first : (split command).headD [] ≠ [])
    (data : (split command).headD [] ≠ logonMark) {imei : Str} {s : Shared}
    (authorized : imei ≠ [] ∧ s.authorizedSession = some session)
    (several : (split command).length ≠ 1) :
    CommandCase env session command imei s (processCommand env session command imei s) := by
  have known : ¬ imei.length = 0 := fun empty => authorized.1 (List.length_eq_zero_iff.mp empty)
  have advanced := @advance_data env session command first data imei s
  rw [if_pos ⟨authorized.1, decide_eq_true authorized.2⟩, if_neg fun both => several both.1]
    at advanced
  rw [processCommand_of_first first, dispatch_data data authorized, if_neg several]
  have relayable : Relayable command := by
    have := split_pos command
    exact ⟨by omega, first, data⟩
  have going {t : Shared} (same : t.authorizedSession = s.authorizedSession)
      (quiet : deviceCommands t.log = deviceCommands s.log)
      (fine : IsoDates env → ¬ BadDate command) :
      CommandCase env session command imei s
        (if !true ∨ imei.length = 0 ∨ t.authorizedSession ≠ some session then .close imei t
          else .goOn imei (if true then t.record (.deviceCommand (split command)) else t)) := by
    rw [if_neg (by simp [known, same, authorized.2])]
    refine .goOn ?_ fine ?_
    · rw [advanced]
      exact congrArg some (standing_of_eq same).symm
    · rw [if_pos relayable, if_pos rfl, deviceCommands_deviceCommand, quiet]
  by_cases size : (split command).length = 6 ∨ (split command).length > 11
  · rw [if_pos size]
    cases reported : commandGpsData env (split command) s with
    | error f =>
        refine .fault advanced fun dates => ?_
        by_cases bad : BadDate command
        · rw [commandGpsData_badDate dates bad] at reported
          exact ⟨(Except.error.inj reported).symm, bad⟩
        · obtain ⟨t, ok⟩ := commandGpsData_ok dates bad size s
          cases reported.symm.trans ok
    | ok t =>
        have fine : IsoDates env → ¬ BadDate command := by
          intro dates bad
          cases reported.symm.trans (commandGpsData_badDate dates bad s)
        obtain ⟨same, quiet⟩ := commandGpsData_quiet reported
        exact going same quiet fine
  · rw [if_neg size]
    exact going rfl rfl fun _ bad => size bad.1

theorem CommandCase.data (first : (split command).headD [] ≠ [])
    (data : (split command).headD [] ≠ logonMark) (imei : Str) (s : Shared) :
    CommandCase env session command imei s (processCommand env session command imei s) := by
  by_cases authorized : imei ≠ [] ∧ s.authorizedSession = some session
  · by_cases single : (split command).length = 1
    · exact .heartbeat first data authorized single
    · exact .report first data authorized single
  · have advanced := @advance_data env session command first data imei s
    have unknown : ¬ (imei ≠ [] ∧ (standing session imei s).authorized) :=
      fun both => authorized ⟨both.1, of_decide_eq_true both.2⟩
    rw [if_neg unknown] at advanced
    rw [processCommand_of_first first, dispatch_closed data authorized]
    dsimp only
    rw [if_pos]
    · exact .close advanced rfl (Or.inl rfl) rfl
    · rcases not_and_or.mp authorized with empty | other
      · exact Or.inr (Or.inl (congrArg List.length (not_not.mp empty)))
      · exact Or.inr (Or.inr other)

theorem processCommand_cases (command imei : Str) (s : Shared) :
    CommandCase env session command imei s (processCommand env session command imei s) := by
  by_cases skip : (split command).headD [] = []
  · have advanced : advance env.imei (standing session imei s) command =
        some (standing session imei s) := if_pos skip
    have kept : ¬ Relayable command := fun relayable => relayable.2.1 skip
    have fine : ¬ BadDate command := by
      intro bad
      have length := bad.2.1
      rw [skip] at length
      cases length
    rw [processCommand_of_skip skip]
    refine .goOn advanced (fun _ => fine) ?_
    rw [if_neg kept, List.append_nil]
  · by_cases logon : (split command).headD [] = logonMark
    · exact .logon logon imei s
    · exact .data skip logon imei s

end Command

/-! ## A stream of frames -/

section Stream

variable {configured : Str} {st st' : Standing} {frames : List Str}

/-- The argument lists of the relayed frames. -/
def relayed (frames : List Str) : List (List Str) :=
  (frames.filter fun command => decide (Relayable command)).map split

theorem relayed_append (front back : List Str) :
    relayed (front ++ back) = relayed front ++ relayed back := by
  rw [relayed, List.filter_append, List.map_append]
  rfl

theorem relayed_cons (command : Str) (rest : List Str) :
    relayed (command :: rest) =
      (if Relayable command then [split command] else []) ++ relayed rest := by
  unfold relayed
  rw [List.filter_cons]
  by_cases relayable : Relayable command
  · rw [if_pos (decide_eq_true relayable), if_pos relayable]
    rfl
  · rw [if_neg (by simpa using relayable), if_neg relayable]
    rfl

/-- The standing after all of the frames, or `none` if one of them closes the session. -/
def advanceAll (configured : Str) (st : Standing) (frames : List Str) : Option Standing :=
  frames.foldlM (advance configured) st

theorem advanceAll_cons {command : Str} {rest : List Str} :
    advanceAll configured st (command :: rest) =
      (advance configured st command).bind fun st => advanceAll configured st rest :=
  List.foldlM_cons

theorem reached_of_advanceAll (all : advanceAll configured st frames = some st') :
    reached configured st frames = frames := by
  induction frames generalizing st with
  | nil => rfl
  | cons command rest ih =>
      rw [advanceAll_cons] at all
      obtain ⟨next, first, later⟩ := Option.bind_eq_some_iff.mp all
      rw [reached, first]
      exact congrArg (command :: ·) (ih later)

theorem reached_append (front back : List Str) :
    reached configured st (front ++ back) =
      reached configured st front ++
        match advanceAll configured st front with
        | none => []
        | some st => reached configured st back := by
  induction front generalizing st with
  | nil => rfl
  | cons command rest ih =>
      rw [List.cons_append, reached, reached, advanceAll_cons]
      cases advance configured st command with
      | none => rfl
      | some next => exact congrArg (command :: ·) ih

/-- The verdict on a stream of frames, and what goes with it. -/
inductive StreamCase (env : DeviceEnv) (session : SessionId) (frames : List Str) (imei : Str)
    (s : Shared) : Verdict → Prop
  | goOn {imei' : Str} {t : Shared} :
    advanceAll env.imei (standing session imei s) frames = some (standing session imei' t) →
    (IsoDates env → ∀ command ∈ frames, ¬ BadDate command) →
    deviceCommands t.log = deviceCommands s.log ++ relayed frames →
    StreamCase env session frames imei s (.goOn imei' t)
  | close {imei' : Str} {t : Shared} :
    advanceAll env.imei (standing session imei s) frames = none →
    (IsoDates env → ∀ command ∈ reached env.imei (standing session imei s) frames,
      ¬ BadDate command) →
    deviceCommands t.log =
      deviceCommands s.log ++ relayed (reached env.imei (standing session imei s) frames) →
    StreamCase env session frames imei s (.close imei' t)
  | fault {f : Fault} {t : Shared} {front back : List Str} {bad : Str} :
    reached env.imei (standing session imei s) frames = front ++ bad :: back →
    (IsoDates env → f = .badDate ∧ BadDate bad) →
    deviceCommands t.log = deviceCommands s.log ++ relayed front →
    StreamCase env session frames imei s (.fault f t)

theorem interpret_cases (frames : List Str) (imei : Str) (s : Shared) :
    StreamCase env session frames imei s (interpret env session frames imei s) := by
  induction frames generalizing imei s with
  | nil => exact .goOn rfl (fun _ _ => nofun) (List.append_nil _).symm
  | cons command rest ih =>
      have first : CommandCase env session command imei s
          (processCommand env session command imei s) := processCommand_cases command imei s
      rw [interpret]
      generalize processCommand env session command imei s = verdict at first ⊢
      cases first with
      | @goOn imei' t advanced fine relays =>
          have hits : reached env.imei (standing session imei s) (command :: rest) =
              command :: reached env.imei (standing session imei' t) rest := by
            rw [reached, advanced]
          have joined : ∀ frames, deviceCommands t.log ++ relayed frames =
              deviceCommands s.log ++ relayed (command :: frames) := by
            intro frames
            rw [relays, relayed_cons, List.append_assoc]
          have all : advanceAll env.imei (standing session imei s) (command :: rest) =
              advanceAll env.imei (standing session imei' t) rest := by
            rw [advanceAll_cons, advanced]
            rfl
          have later := ih imei' t
          dsimp only
          generalize interpret env session rest imei' t = verdict at later ⊢
          cases later with
          | goOn advanced' fine' relays' =>
              refine .goOn (all.trans advanced') (fun dates => ?_) (relays'.trans (joined _))
              exact List.forall_mem_cons.mpr ⟨fine dates, fine' dates⟩
          | close advanced' fine' relays' =>
              refine .close (all.trans advanced') (fun dates => ?_) ?_
              · rw [hits]
                exact List.forall_mem_cons.mpr ⟨fine dates, fine' dates⟩
              · rw [hits]
                exact relays'.trans (joined _)
          | fault hits' raised relays' =>
              have split' := hits.trans (congrArg (command :: ·) hits')
              exact .fault split' raised (relays'.trans (joined _))
      | close advanced _ _ quiet =>
          have hits : reached env.imei (standing session imei s) (command :: rest) = [] := by
            rw [reached, advanced]
          refine .close ?_ (fun _ => ?_) ?_
          · rw [advanceAll_cons, advanced]
            rfl
          · rw [hits]
            exact fun _ => nofun
          · rw [hits, quiet]
            exact (List.append_nil _).symm
      | fault advanced raised =>
          have hits : reached env.imei (standing session imei s) (command :: rest) =
              [] ++ command :: reached env.imei (standing session imei s) rest := by
            rw [reached, advanced]
            rfl
          exact .fault hits raised (List.append_nil _).symm

end Stream

end Device

end GpsInformer
