import GpsInformer.GpsRecipients
import Mathlib.Data.List.Flatten

/-!
# What armed users are told

A user in mode `Alert` is not told of connections and disconnections, but
`handleTrackerEvent` remembers them as the last message like all other events, so that what
comes after one of them is told even if it repeats what was before.  Leaving such events out
changes nothing for the user exactly if that never happens (`notifications_reports_iff`).
-/

namespace GpsInformer

open Lib

/-- The chat a call on the bot is made for. -/
def TelegramCall.chatId : TelegramCall → Int
  | .sendMessage chatId _ _ => chatId
  | .sendLocation chatId _ _ => chatId

namespace Application

/-- What `handleTrackerEvent` sends to a user over a sequence of events. -/
def notifications (env : AppEnv) (userId : Int) :
    Application → List GpsMessage → Except Failure (List TelegramCall)
  | _, [] => .ok []
  | a, data :: events => do
      let (a, calls) ← reaction (handleTrackerEvent env data) a
      let later ← notifications env userId a events
      return calls.filter (·.chatId = userId) ++ later

/-- A connection or a disconnection. -/
def isConnection (data : GpsMessage) : Bool :=
  iequals data.keyword "connect".toList || iequals data.keyword "disconnect".toList

/-- The other events. -/
def reports (events : List GpsMessage) : List GpsMessage :=
  events.filter fun data => !isConnection data

/-- The last event that is no connection or disconnection, after the event `last`. -/
def lastReport (last : GpsMessage) (events : List GpsMessage) : GpsMessage :=
  (reports events).getLastD last

/-- What follows a connection or a disconnection does not repeat what was before. -/
def Undisturbed (last : GpsMessage) (events : List GpsMessage) : Prop :=
  ∀ front connection data, front ++ [connection, data] <+: events →
    isConnection connection = true → isConnection data = false →
    data.keyword ≠ (lastReport last front).keyword

/-- The events a user in mode `status` is told, after the event `last`. -/
def heard (status : Nat) : GpsMessage → List GpsMessage → List GpsMessage
  | _, [] => []
  | last, data :: events =>
      (if notifies data last status then [data] else []) ++ heard status data events

variable {env : AppEnv} {userId : Int} {status : Nat} {data last connection : GpsMessage}
  {events front : List GpsMessage} {rows : List UserSettings}

/-! ## The calls of a run -/

theorem filter_statusCalls (id : Int) :
    (statusCalls env data id).filter (·.chatId = userId) =
      if id = userId then statusCalls env data id else [] := by
  have addressed : ∀ call ∈ statusCalls env data id, call.chatId = id := by
    intro call member
    unfold statusCalls at member
    rcases List.mem_append.mp member with location | message
    · split at location
      · rw [List.mem_singleton.mp location]
        rfl
      · cases location
    · rw [List.mem_singleton.mp message]
      rfl
  split
  · rename_i same
    refine List.filter_eq_self.mpr fun call member => ?_
    rw [addressed call member, same]
    exact decide_eq_true rfl
  · rename_i differs
    refine List.filter_eq_nil_iff.mpr fun call member same => ?_
    rw [addressed call member] at same
    exact differs (of_decide_eq_true same)

theorem recipients_cons (data last : GpsMessage) (row : UserSettings) (rows : List UserSettings) :
    recipients data last (row :: rows) =
      (if notifies data last row.status then [row.id] else []) ++ recipients data last rows := by
  unfold recipients
  rw [List.filter_cons]
  split <;> rfl

/-- The calls for a user whose settings all have one status. -/
theorem filter_calls (all : ∀ row ∈ rows, row.id = userId → row.status = status) :
    ((recipients data last rows).flatMap (statusCalls env data)).filter (·.chatId = userId) =
      if notifies data last status then
        (rows.filter (·.id = userId)).flatMap fun _ => statusCalls env data userId
      else [] := by
  induction rows with
  | nil => exact (ite_self _).symm
  | cons row rows ih =>
      have rest := ih fun other member => all other (List.mem_cons_of_mem row member)
      rw [recipients_cons, List.flatMap_append, List.filter_append, rest]
      by_cases own : row.id = userId
      · have kept : (row :: rows).filter (·.id = userId) = row :: rows.filter (·.id = userId) :=
          List.filter_cons_of_pos (decide_eq_true own)
        rw [all row (List.mem_cons_self ..) own, kept, List.flatMap_cons]
        split
        · rw [List.flatMap_singleton, filter_statusCalls, if_pos own, own]
        · rfl
      · have left_out : (row :: rows).filter (·.id = userId) = rows.filter (·.id = userId) :=
          List.filter_cons_of_neg (by simpa using own)
        rw [left_out]
        split
        · rw [List.flatMap_singleton, filter_statusCalls, if_neg own, List.nil_append]
        · rfl

theorem reaction_handleTrackerEvent (env : AppEnv) (data : GpsMessage) (a : Application) :
    ∃ b, reaction (handleTrackerEvent env data) a = .ok (b,
        (recipients data a.lastMessage a.userSettings).flatMap (statusCalls env data)) ∧
      b.userSettings = a.userSettings ∧ b.lastMessage = data := by
  have total : Total (handleTrackerEvent env data) := total_handleTrackerEvent data
  rcases total { a with outbox := [] } with ⟨_, b, handled, _⟩
  obtain ⟨_, _, _, same⟩ := handleTrackerEvent_run data _ _ rfl () b handled
  refine ⟨{ b with outbox := [] }, ?_, ?_, ?_⟩
  · unfold reaction
    rw [handled, same]
    rfl
  · rw [same]
  · rw [same]

/-- Over a run the user gets the calls for the events that are heard in the user's mode. -/
theorem notifications_eq {a : Application}
    (all : ∀ row ∈ a.userSettings, row.id = userId → row.status = status) :
    notifications env userId a events =
      .ok ((heard status a.lastMessage events).flatMap fun data =>
        (a.userSettings.filter (·.id = userId)).flatMap fun _ => statusCalls env data userId) := by
  induction events generalizing a with
  | nil => rfl
  | cons data events ih =>
      rcases reaction_handleTrackerEvent env data a with ⟨b, reacted, settings, message⟩
      have rest := ih (a := b) (by rwa [settings])
      rw [settings, message] at rest
      rw [notifications, reacted]
      change (notifications env userId b events >>= _) = _
      rw [rest, heard, List.flatMap_append]
      refine congrArg (fun calls => Except.ok (calls ++ _)) ?_
      rw [filter_calls all]
      split
      · exact (List.flatMap_singleton ..).symm
      · rfl

/-! ## What is heard of a sequence of events -/

theorem heard_append (status : Nat) (last : GpsMessage) (events later : List GpsMessage) :
    heard status last (events ++ later) =
      heard status last events ++ heard status (events.getLastD last) later := by
  induction events generalizing last with
  | nil => rfl
  | cons data events ih =>
      rw [List.cons_append, heard, heard, ih, List.append_assoc, List.getLastD_cons]

theorem heard_singleton (status : Nat) (last data : GpsMessage) :
    heard status last [data] = if notifies data last status then [data] else [] :=
  List.append_nil _

theorem reports_append (events later : List GpsMessage) :
    reports (events ++ later) = reports events ++ reports later :=
  List.filter_append ..

theorem reports_connection (connected : isConnection data = true) : reports [data] = [] := by
  unfold reports
  rw [List.filter_singleton, connected]
  rfl

theorem reports_other (other : isConnection data = false) : reports [data] = [data] := by
  unfold reports
  rw [List.filter_singleton, other]
  rfl

/-- A mode in which connections are not told. -/
theorem notifies_alert :
    notifies data last UserSettings.alert = true ↔
      isConnection data = false ∧ data.keyword ≠ last.keyword := by
  have paranoid : UserSettings.alert ≠ UserSettings.insane := by decide
  have insane : UserSettings.alert ≠ UserSettings.paranoid := by decide
  unfold notifies isConnection
  rw [if_neg paranoid, if_neg insane, if_pos rfl]
  simp only [decide_eq_true_eq, Bool.not_eq_true', Bool.or_eq_false_iff]
  tauto

theorem keyword_ne (connected : isConnection connection = true)
    (other : isConnection data = false) : data.keyword ≠ connection.keyword := by
  intro same
  unfold isConnection at connected other
  rw [same, connected] at other
  cases other

theorem lastReport_concat_connection (connected : isConnection connection = true) :
    lastReport last (front ++ [connection]) = lastReport last front := by
  unfold lastReport
  rw [reports_append, reports_connection connected, List.append_nil]

theorem lastReport_concat_other (other : isConnection data = false) :
    lastReport last (front ++ [data]) = data := by
  unfold lastReport
  rw [reports_append, reports_other other, List.getLastD_concat]

/-- One more event. -/
theorem undisturbed_concat :
    Undisturbed last (events ++ [data]) ↔ Undisturbed last events ∧
      ∀ front connection, events = front ++ [connection] → isConnection connection = true →
        isConnection data = false → data.keyword ≠ (lastReport last front).keyword := by
  constructor
  · intro undisturbed
    refine ⟨fun front connection other isPrefix => ?_, fun front connection same => ?_⟩
    · exact undisturbed front connection other (isPrefix.trans (List.prefix_append _ _))
    · refine undisturbed front connection data ?_
      rw [same, List.append_assoc]
      exact List.prefix_refl _
  · rintro ⟨before, atEnd⟩ front connection other isPrefix
    have split : front ++ [connection, other] = front ++ [connection] ++ [other] := by simp
    rcases List.prefix_concat_iff.mp isPrefix with whole | inside
    · rw [split] at whole
      rcases List.append_inj' whole rfl with ⟨same, last_eq⟩
      cases last_eq
      exact atEnd front connection same.symm
    · exact before front connection other inside

/-- Equal pieces make equal lists, and no others if one is a part of the other. -/
theorem append_eq_append_of_sublist {α : Type} {l l' m m' : List α} (first : l'.Sublist l)
    (second : m'.Sublist m) : l ++ m = l' ++ m' ↔ l = l' ∧ m = m' := by
  constructor
  · intro same
    have lengths := congrArg List.length same
    rw [List.length_append, List.length_append] at lengths
    have le := first.length_le
    have le' := second.length_le
    exact ⟨(first.eq_of_length (by omega)).symm, (second.eq_of_length (by omega)).symm⟩
  · rintro ⟨rfl, rfl⟩
    rfl

/-- A report after some events, with the connections and disconnections among them and
without. -/
theorem heard_report (other : isConnection data = false) (last : GpsMessage)
    (events : List GpsMessage) :
    (heard UserSettings.alert (lastReport last events) [data]).Sublist
        (heard UserSettings.alert (events.getLastD last) [data]) ∧
      (heard UserSettings.alert (events.getLastD last) [data] =
          heard UserSettings.alert (lastReport last events) [data] ↔
        ∀ front connection, events = front ++ [connection] → isConnection connection = true →
          isConnection data = false → data.keyword ≠ (lastReport last front).keyword) := by
  rcases List.eq_nil_or_concat events with rfl | ⟨front, connection, rfl⟩
  · refine ⟨List.Sublist.refl _, iff_of_true rfl fun front connection impossible => ?_⟩
    simp at impossible
  · rw [List.concat_eq_append, List.getLastD_concat]
    cases kind : isConnection connection with
    | true =>
        rw [lastReport_concat_connection kind, heard_singleton, heard_singleton]
        have told : notifies data connection UserSettings.alert = true :=
          notifies_alert.mpr ⟨other, keyword_ne kind other⟩
        have repeats : notifies data (lastReport last front) UserSettings.alert = true ↔
            data.keyword ≠ (lastReport last front).keyword :=
          notifies_alert.trans (and_iff_right other)
        rw [if_pos told]
        split
        · rename_i differs
          refine ⟨List.Sublist.refl _, iff_of_true rfl fun front' connection' same _ _ => ?_⟩
          rcases List.append_inj' same rfl with ⟨rfl, _⟩
          exact repeats.mp differs
        · rename_i silent
          refine ⟨List.nil_sublist _, iff_of_false (List.cons_ne_nil _ _) fun undisturbed => ?_⟩
          exact silent (repeats.mpr (undisturbed front connection rfl kind other))
    | false =>
        rw [lastReport_concat_other kind]
        refine ⟨List.Sublist.refl _, iff_of_true rfl fun front' connection' same connected => ?_⟩
        rcases List.append_inj' same rfl with ⟨_, last_eq⟩
        cases last_eq
        rw [kind] at connected
        cases connected

/-- Without connections and disconnections no more is heard, and the same iff what is
remembered of them makes no difference. -/
theorem heard_reports (last : GpsMessage) (events : List GpsMessage) :
    (heard UserSettings.alert last (reports events)).Sublist
        (heard UserSettings.alert last events) ∧
      (heard UserSettings.alert last events = heard UserSettings.alert last (reports events) ↔
        Undisturbed last events) := by
  induction events using List.reverseRecOn with
  | nil =>
      refine ⟨List.Sublist.refl _, iff_of_true rfl fun front connection data isPrefix => ?_⟩
      simp at isPrefix
  | append_singleton events data ih =>
      rcases ih with ⟨sublist, same⟩
      rw [heard_append _ last events, reports_append, undisturbed_concat, ← same]
      cases kind : isConnection data with
      | true =>
          have silent : ¬ notifies data (events.getLastD last) UserSettings.alert = true := by
            rw [notifies_alert, kind]
            exact fun told => Bool.false_ne_true told.1.symm
          rw [reports_connection kind, List.append_nil, heard_singleton, if_neg silent,
            List.append_nil]
          exact ⟨sublist, (and_iff_left fun _ _ _ _ other => nomatch other).symm⟩
      | false =>
          rcases heard_report kind last events with ⟨told, same_told⟩
          rw [kind] at same_told
          rw [reports_other kind, heard_append, ← lastReport, ← same_told]
          exact ⟨sublist.append told, append_eq_append_of_sublist sublist told⟩

/-! ## Two runs -/

/-- A part that gives the same calls is the whole, if each event gives some. -/
theorem flatMap_eq_iff {α β : Type} {f : α → List β} (calls : ∀ x, f x ≠ []) {part whole : List α}
    (sublist : part.Sublist whole) : whole.flatMap f = part.flatMap f ↔ whole = part := by
  refine ⟨fun same => ?_, congrArg _⟩
  have shorter : ∀ {part whole : List α}, part.Sublist whole →
      (part.flatMap f).length ≤ (whole.flatMap f).length := fun sublist =>
    (sublist.flatMap f).length_le
  induction sublist with
  | slnil => rfl
  | @cons part whole x sublist ih =>
      have lengths := congrArg List.length same
      rw [List.flatMap_cons, List.length_append] at lengths
      have some_call := List.length_pos_iff.mpr (calls x)
      have le := shorter sublist
      omega
  | @cons_cons part whole x sublist ih =>
      rw [List.flatMap_cons, List.flatMap_cons, List.append_cancel_left_eq] at same
      rw [ih same]

/-- A user who is in mode `Alert` is told the same with the connections and disconnections
as without them iff what follows one of them never repeats what was before. -/
theorem notifications_reports_iff {a : Application}
    (listed : ∃ row ∈ a.userSettings, row.id = userId)
    (armed : ∀ row ∈ a.userSettings, row.id = userId → row.status = UserSettings.alert)
    (events : List GpsMessage) :
    (∃ calls, notifications env userId a events = .ok calls) ∧
      (notifications env userId a events = notifications env userId a (reports events) ↔
        Undisturbed a.lastMessage events) := by
  rw [notifications_eq armed, notifications_eq armed]
  refine ⟨⟨_, rfl⟩, ?_⟩
  rcases heard_reports a.lastMessage events with ⟨sublist, same⟩
  rw [Except.ok.injEq, ← same]
  refine flatMap_eq_iff (fun data none_sent => ?_) sublist
  rcases listed with ⟨row, member, own⟩
  have kept : row ∈ a.userSettings.filter (·.id = userId) :=
    List.mem_filter.mpr ⟨member, decide_eq_true own⟩
  have silent := List.flatMap_eq_nil_iff.mp none_sent row kept
  exact List.append_ne_nil_of_right_ne_nil _ (List.cons_ne_nil _ _) silent

/-- Bob is armed, and the tracker has sent a `tracker` message. -/
def armedBob : Application where
  lastMessage := { keyword := "tracker".toList }
  userSettings := [⟨7, UserSettings.alert⟩]

/-- The tracker connects again and sends the same. -/
def reconnection : List GpsMessage :=
  [{ keyword := "connect".toList }, { keyword := "tracker".toList }]

/-- Bob is alarmed although nothing has changed. -/
theorem notifications_reconnection :
    (∀ row ∈ armedBob.userSettings, row.id = 7 ∧ row.status = UserSettings.alert) ∧
      notifications sampleCodes 7 armedBob reconnection ≠
        notifications sampleCodes 7 armedBob (reports reconnection) := by
  have told : (notifications sampleCodes 7 armedBob reconnection).toOption.map List.length =
      some 1 := by decide +kernel
  have silent : (notifications sampleCodes 7 armedBob (reports reconnection)).toOption.map
      List.length = some 0 := by decide +kernel
  refine ⟨by decide, fun same => ?_⟩
  rw [same, silent] at told
  cases told

/-- An alarm, and then a disconnection. -/
def alarm : List GpsMessage :=
  [{ keyword := "help me".toList }, { keyword := "disconnect".toList }]

theorem notifications_reports_alarm :
    (∃ calls, notifications sampleCodes 7 armedBob alarm = .ok calls) ∧
      (notifications sampleCodes 7 armedBob alarm =
          notifications sampleCodes 7 armedBob (reports alarm) ↔
        Undisturbed armedBob.lastMessage alarm) := by
  have listed : ∃ row ∈ armedBob.userSettings, row.id = 7 := ⟨_, List.mem_singleton.mpr rfl, rfl⟩
  have armed : ∀ row ∈ armedBob.userSettings, row.id = 7 → row.status = UserSettings.alert := by
    decide
  exact notifications_reports_iff listed armed alarm

end Application

end GpsInformer
