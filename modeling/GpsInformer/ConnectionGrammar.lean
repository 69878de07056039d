import GpsInformer.Lib.Segments
import GpsInformer.TcpClientHandler

/-!
# The grammar of a connection

What the owner of a client may rely on, whichever the client: an attempt to connect ends in
`Error`, or it succeeds with `Connect`, after which data may come and then `Disconnect`.
The end is reported as the user's own if the user asked for it.

A client obeys the grammar if each of its notifications is the next one of the attempt
(`Obeys.notify`); what the notifications of an attempt look like follows (`Grammatical`).
-/

namespace GpsInformer

open Lib

/-- What passes between a client and its owner.  A call that does nothing is left out: a
`connect` that is not accepted, a `disconnect` without a connection or after another. -/
inductive OwnerEvent where
  | connect
  | disconnect
  | notify (notification : Notification)
  deriving DecidableEq, Repr

namespace Notification

/-- The notification ends an attempt. -/
def Terminal : Notification → Prop
  | .disconnect _ | .error _ => True
  | .connect | .receivedData _ => False

/-- The end of an attempt is reported as the user's. -/
def ByUser : Notification → Prop
  | .disconnect reason => reason = .closedByUser
  | .error code => code = .operationAborted
  | .connect | .receivedData _ => False

end Notification

namespace ConnectionGrammar

def starts : OwnerEvent → Bool
  | .connect => true
  | _ => false

def notification : OwnerEvent → Option Notification
  | .notify notification => some notification
  | _ => none

/-- What has happened since the last `connect`. -/
def attempt (history : List OwnerEvent) : List OwnerEvent := segment starts history

def notifications (events : List OwnerEvent) : List Notification := events.filterMap notification

/-- The notifications are the first ones of `Error`, or of `Connect Data* Disconnect`. -/
def Grammatical (notifications : List Notification) : Prop :=
  (∃ code, notifications <+: [.error code]) ∨
    ∃ (data : List Str) (reason : Reason),
      notifications <+: .connect :: data.map .receivedData ++ [.disconnect reason]

/-- Every end is reported as the user's iff `disconnect` was called in the attempt before. -/
def Truthful (history : List OwnerEvent) : Prop :=
  ∀ front notification, front ++ [.notify notification] <+: history → notification.Terminal →
    (notification.ByUser ↔ .disconnect ∈ attempt front)

/-! ## The progress of an attempt -/

inductive Progress where
  | started
  | connected
  | ended
  deriving DecidableEq, Repr

namespace Progress

def next : Progress → Notification → Option Progress
  | .started, .connect | .connected, .receivedData _ => some .connected
  | .started, .error _ | .connected, .disconnect _ => some .ended
  | _, _ => none

end Progress

/-- How the end of an attempt is reported, if it has come to `reached` and ends with `error`
or because the user asked for it. -/
def ending (reached : Progress) (asked : Prop) [Decidable asked] (error : Option ErrorCode) :
    Notification :=
  if reached = .connected then .disconnect (if asked then .closedByUser else .closedByPeer)
  else .error (if asked then .operationAborted else error.getD .operationAborted)

theorem next_ending {reached : Progress} (going : reached ≠ .ended) (asked : Prop)
    [Decidable asked] (error : Option ErrorCode) :
    reached.next (ending reached asked error) = some .ended := by
  cases reached with
  | started => rfl
  | connected => rfl
  | ended => exact absurd rfl going

/-- The end is reported as the user's iff the user asked for it, unless the error looks as if
it was. -/
theorem byUser_ending {reached : Progress} {asked : Prop} [Decidable asked]
    {error : Option ErrorCode}
    (honest : ¬ asked → reached ≠ .connected →
      error.getD .operationAborted ≠ .operationAborted) :
    (ending reached asked error).ByUser ↔ asked := by
  unfold ending
  by_cases asked' : asked
  · rw [if_pos asked', if_pos asked']
    refine iff_of_true ?_ asked'
    split <;> rfl
  · rw [if_neg asked', if_neg asked']
    refine iff_of_false ?_ asked'
    split
    · exact nofun
    · rename_i early
      exact honest asked' early

theorem getD_ne_aborted {error : Option ErrorCode} (isSome : error.isSome)
    (other : error ≠ some .operationAborted) :
    error.getD .operationAborted ≠ .operationAborted := by
  obtain ⟨code, rfl⟩ := Option.isSome_iff_exists.mp isSome
  exact fun aborted => other (congrArg some aborted)

/-- How far the notifications have brought an attempt. -/
def progress (notifications : List Notification) : Option Progress :=
  notifications.foldlM Progress.next .started

theorem progress_concat (notifications : List Notification) (notification : Notification) :
    progress (notifications ++ [notification]) =
      (progress notifications).bind fun progress => progress.next notification := by
  unfold progress
  rw [List.foldlM_append]
  cases notifications.foldlM Progress.next .started with
  | none => rfl
  | some progress => cases progress <;> cases notification <;> rfl

/-- The notifications that lead to some progress. -/
inductive Leads : List Notification → Progress → Prop
  | started : Leads [] .started
  | connected (data : List Str) : Leads (.connect :: data.map .receivedData) .connected
  | failed (code : ErrorCode) : Leads [.error code] .ended
  | ended (data : List Str) (reason : Reason) :
    Leads (.connect :: data.map .receivedData ++ [.disconnect reason]) .ended

theorem Leads.of_progress {notifications : List Notification} {reached : Progress}
    (reaches : progress notifications = some reached) : Leads notifications reached := by
  induction notifications using List.reverseRecOn generalizing reached with
  | nil =>
      cases reaches
      exact .started
  | append_singleton earlier last ih =>
      rw [progress_concat] at reaches
      obtain ⟨before, reaches', next⟩ := Option.bind_eq_some_iff.mp reaches
      cases ih reaches' with
      | started =>
          cases last with
          | connect =>
              cases next
              exact .connected []
          | error code =>
              cases next
              exact .failed code
          | _ => cases next
      | connected data =>
          cases last with
          | receivedData chunk =>
              cases next
              have longer := Leads.connected (data ++ [chunk])
              rw [List.map_append] at longer
              exact longer
          | disconnect reason =>
              cases next
              exact .ended data reason
          | _ => cases next
      | failed code => cases last <;> cases next
      | ended data reason => cases last <;> cases next

theorem Grammatical.of_progress {notifications : List Notification}
    (reaches : (progress notifications).isSome) : Grammatical notifications := by
  obtain ⟨reached, eq⟩ := Option.isSome_iff_exists.mp reaches
  cases Leads.of_progress eq with
  | started => exact Or.inl ⟨.eof, List.nil_prefix⟩
  | connected data => exact Or.inr ⟨data, .closedByPeer, List.prefix_append _ _⟩
  | failed code => exact Or.inl ⟨code, List.prefix_rfl⟩
  | ended data reason => exact Or.inr ⟨data, reason, List.prefix_rfl⟩

/-! ## Histories -/

/-- The history obeys the grammar so far; the attempt has come to `reached`, and `asked`
says whether `disconnect` was called in it.  Whether the reported ends are also `Truthful`
may depend on an assumption (`strict`). -/
structure Obeys (strict : Prop) (reached : Progress) (asked : Prop) (history : List OwnerEvent) :
    Prop where
  grammatical : InSegments starts (fun part => (progress (notifications part)).isSome) history
  truthful : strict → Truthful history
  reached : progress (notifications (attempt history)) = some reached
  asked : .disconnect ∈ attempt history ↔ asked

variable {strict asked : Prop} {reached further : Progress} {history : List OwnerEvent}

theorem Obeys.nil : Obeys strict .started False [] := by
  refine ⟨.nil rfl, fun _ front notification isPrefix => ?_, rfl, ?_⟩
  · rw [List.prefix_nil, List.append_eq_nil_iff] at isPrefix
    cases isPrefix.2
  · exact ⟨fun member => (List.not_mem_nil member).elim, False.elim⟩

theorem Obeys.congr {asked' : Prop} (obeys : Obeys strict reached asked history)
    (same : asked ↔ asked') : Obeys strict reached asked' history :=
  ⟨obeys.grammatical, obeys.truthful, obeys.reached, obeys.asked.trans same⟩

theorem Truthful.concat {e : OwnerEvent} (truthful : Truthful history)
    (last : ∀ notification : Notification, e = .notify notification → notification.Terminal →
      (notification.ByUser ↔ .disconnect ∈ attempt history)) : Truthful (history ++ [e]) := by
  intro front notification isPrefix terminal
  rcases List.prefix_concat_iff.mp isPrefix with same | earlier
  · obtain ⟨rfl, one⟩ := List.append_inj' same rfl
    exact last notification (List.singleton_inj.mp one).symm terminal
  · exact truthful front notification earlier terminal

theorem attempt_connect : attempt (history ++ [.connect]) = [] := segment_start rfl

theorem Obeys.connect (obeys : Obeys strict reached asked history) :
    Obeys strict .started False (history ++ [.connect]) := by
  refine ⟨obeys.grammatical.start rfl rfl, fun met => ?_, ?_, ?_⟩
  · exact (obeys.truthful met).concat fun _ other => by cases other
  · rw [attempt_connect]
    rfl
  · rw [attempt_connect]
    exact ⟨fun member => (List.not_mem_nil member).elim, False.elim⟩

theorem Obeys.disconnect (obeys : Obeys strict reached asked history) :
    Obeys strict reached True (history ++ [.disconnect]) := by
  have attempt_eq : attempt (history ++ [.disconnect]) = attempt history ++ [.disconnect] :=
    segment_concat rfl
  have same : notifications (attempt (history ++ [.disconnect])) =
      notifications (attempt history) := by
    rw [attempt_eq]
    exact (filterMap_concat _ _ _).trans (List.append_nil _)
  refine ⟨obeys.grammatical.concat ?_, fun met => ?_, ?_, ?_⟩
  · show (progress (notifications (attempt (history ++ [.disconnect])))).isSome
    rw [same, obeys.reached]
    rfl
  · exact (obeys.truthful met).concat fun _ other => by cases other
  · rw [same]
    exact obeys.reached
  · rw [attempt_eq]
    exact iff_of_true (by simp) trivial

/-- A notification that is the next one of the attempt, and truthful if it is the last. -/
theorem Obeys.notify {notification : Notification} (obeys : Obeys strict reached asked history)
    (next : reached.next notification = some further)
    (honest : strict → notification.Terminal → (notification.ByUser ↔ asked)) :
    Obeys strict further asked (history ++ [.notify notification]) := by
  have attempt_eq : attempt (history ++ [.notify notification]) =
      attempt history ++ [.notify notification] := segment_concat rfl
  have reached_eq : progress (notifications (attempt (history ++ [.notify notification]))) =
      some further := by
    have grown : notifications (attempt history ++ [.notify notification]) =
        notifications (attempt history) ++ [notification] := filterMap_concat _ _ _
    rw [attempt_eq, grown, progress_concat, obeys.reached]
    exact next
  refine ⟨obeys.grammatical.concat ?_, fun met => ?_, reached_eq, ?_⟩
  · show (progress (notifications (attempt (history ++ [.notify notification])))).isSome
    rw [reached_eq]
    rfl
  · refine (obeys.truthful met).concat fun other same terminal => ?_
    cases same
    exact (honest met terminal).trans obeys.asked.symm
  · rw [attempt_eq, List.mem_append]
    simpa using obeys.asked

/-- At every point the notifications of the attempt are as the grammar has them. -/
theorem Obeys.grammatically (obeys : Obeys strict reached asked history) :
    ∀ front, front <+: history → Grammatical (notifications (attempt front)) :=
  fun front isPrefix => .of_progress (obeys.grammatical front isPrefix)

end ConnectionGrammar

end GpsInformer
