import GpsInformer.GpsRecipients
import Mathlib.Data.List.Sort
import Mathlib.Data.List.TakeWhile

/-!
# What a restart remembers of the last event

A started process takes the last event from the database, where `ORDER BY host_time DESC`
leaves the order of rows of one second open.  For events with rising host times it
remembers the last one, at every point and for every such order, exactly if each event can
be read back from its row and no two different events share a second
(`restart_remembers_iff`).
-/

namespace GpsInformer

open Lib

/-- `ORDER BY host_time DESC`: the rows, latest first, in any order within a second. -/
structure OrdersBy (orderBy : List DataRow → List DataRow) : Prop where
  perm : ∀ rows, (orderBy rows).Perm rows
  sorted : ∀ rows, (orderBy rows).Pairwise fun row later => later.hostTime ≤ row.hostTime

/-- The order of the query. -/
def LatestFirst (row later : DataRow) : Prop := later.hostTime ≤ row.hostTime

instance : DecidableRel LatestFirst := fun row later => Int.decLe later.hostTime row.hostTime

instance : Std.Total LatestFirst := ⟨fun row later => Int.le_total later.hostTime row.hostTime⟩

instance : IsTrans DataRow LatestFirst := ⟨fun _ _ _ first second => Int.le_trans second first⟩

/-- The order that leaves rows of one second as they were inserted. -/
theorem ordersBy_insertionSort : OrdersBy (List.insertionSort LatestFirst) :=
  ⟨List.perm_insertionSort _, List.pairwise_insertionSort _⟩

/-- Whatever row is one of the latest may come first. -/
theorem exists_orderBy {rows : List DataRow} {row : DataRow} (member : row ∈ rows)
    (latest : ∀ other ∈ rows, other.hostTime ≤ row.hostTime) :
    ∃ orderBy, OrdersBy orderBy ∧ (orderBy rows).head? = some row := by
  let first := row :: (rows.erase row).insertionSort LatestFirst
  have perm : first.Perm rows :=
    (List.Perm.cons row (List.perm_insertionSort _ _)).trans (List.perm_cons_erase member).symm
  have sorted : first.Pairwise LatestFirst := by
    refine List.pairwise_cons.mpr ⟨fun other among => ?_, List.pairwise_insertionSort _ _⟩
    exact latest other (List.mem_of_mem_erase ((List.mem_insertionSort _).mp among))
  refine ⟨fun rows' => if rows' = rows then first else rows'.insertionSort LatestFirst,
    ⟨fun rows' => ?_, fun rows' => ?_⟩, ?_⟩
  · split
    · rename_i same
      rw [same]
      exact perm
    · exact ordersBy_insertionSort.perm rows'
  · split
    · exact sorted
    · exact ordersBy_insertionSort.sorted rows'
  · have chosen : (if rows = rows then first else rows.insertionSort LatestFirst) = first :=
      if_pos rfl
    exact congrArg List.head? chosen

/-- What comes first is one of the latest rows. -/
theorem OrdersBy.head {orderBy : List DataRow → List DataRow} (orders : OrdersBy orderBy)
    {rows : List DataRow} (nonempty : rows ≠ []) :
    ∃ row ∈ rows, (orderBy rows).head? = some row ∧
      ∀ other ∈ rows, other.hostTime ≤ row.hostTime := by
  have perm := orders.perm rows
  have sorted := orders.sorted rows
  cases ordered : orderBy rows with
  | nil =>
      rw [ordered] at perm
      exact absurd perm.symm.eq_nil nonempty
  | cons row rest =>
      rw [ordered] at perm sorted
      refine ⟨row, perm.subset (List.mem_cons_self ..), rfl, fun other member => ?_⟩
      rcases List.mem_cons.mp (perm.symm.subset member) with same | later
      · rw [same]
      · exact List.rel_of_pairwise_cons sorted later

namespace Application

variable {env : AppEnv} {database : Database}

/-- The seconds of an event's host time, as they are stored. -/
abbrev hostSecond (data : GpsMessage) : Int := (dataRow data).hostTime

/-- Whole seconds that never decrease. -/
structure HostTimes (events : List GpsMessage) : Prop where
  whole : ∀ data ∈ events, ∃ t : Int, data.hostTime = some (fromUnixTime t)
  rising : events.Pairwise fun data later => hostSecond data ≤ hostSecond later

/-- An event that can be read back from its row. -/
structure Storable (data : GpsMessage) : Prop where
  texts : ∀ text ∈ [data.imei, data.keyword, data.phone], Char.ofNat 0 ∉ text
  times : ∀ time ∈ [data.trackerTime, data.hostTime], ∀ t, time = some t →
    ∃ s : Int, s ≠ 0 ∧ t = fromUnixTime s

/-- Each event can be read back, and those of one second are the same. -/
structure Distinguished (events : List GpsMessage) : Prop where
  storable : ∀ data ∈ events, Storable data
  unique : ∀ data ∈ events, ∀ other ∈ events, data.hostTime = other.hostTime → data = other

/-- After the tracker events up to `last`, a restart and `/status` find `last`, and a
restarted process notifies the same users of whatever events follow. -/
def Remembers (env : AppEnv) (database : Database) (events : List GpsMessage)
    (last : GpsMessage) : Prop :=
  ∀ a, Run (step env) (start env database []) ((events ++ [last]).map Event.trackerEvent) a →
    (start env a.database a.journal).lastMessage.keyword = last.keyword ∧
    ((dbGetGpsData env 1 false).run.run a).1 = some [last] ∧
    ∀ (more : List GpsMessage) b, Run (step env) a (more.map Event.trackerEvent) b →
      ∃ c, Run (step env) (start env a.database a.journal) (more.map Event.trackerEvent) c ∧
        c.journal = b.journal

theorem toUnixTime_fromUnixTime (t : Int) : toUnixTime (fromUnixTime t) = t :=
  Int.mul_tdiv_cancel t (by decide)

theorem hostSecond_eq {data : GpsMessage} {t : Int}
    (whole : data.hostTime = some (fromUnixTime t)) :
    hostSecond data = t := by
  unfold hostSecond dataRow
  rw [whole, Option.map_some, Option.getD_some, toUnixTime_fromUnixTime]

theorem columnText_eq_iff (text : Str) : columnText text = text ↔ Char.ofNat 0 ∉ text := by
  unfold columnText
  rw [List.takeWhile_eq_self_iff]
  simp only [decide_eq_true_eq]
  exact ⟨fun clean member => clean _ member rfl, fun absent c member same => absent (same ▸ member)⟩

/-- A time that is stored in seconds and read back. -/
theorem storedTime_eq_iff (time : Option Int) :
    (if (time.map toUnixTime).getD 0 ≠ 0 then some (fromUnixTime ((time.map toUnixTime).getD 0))
      else none) = time ↔ ∀ t, time = some t → ∃ s : Int, s ≠ 0 ∧ t = fromUnixTime s := by
  cases time with
  | none => exact iff_of_true rfl nofun
  | some t =>
      rw [Option.map_some, Option.getD_some]
      constructor
      · intro same t' eq
        cases eq
        split at same
        · rename_i nonzero
          exact ⟨toUnixTime t, nonzero, (Option.some.inj same).symm⟩
        · cases same
      · intro whole
        obtain ⟨s, nonzero, rfl⟩ := whole t rfl
        rw [toUnixTime_fromUnixTime, if_pos nonzero]

/-- What is read back from an event's row. -/
def readBack (data : GpsMessage) : GpsMessage := rowMessage {} (dataRow data)

theorem readBack_eq_iff (data : GpsMessage) : readBack data = data ↔ Storable data := by
  have fields : readBack data = data ↔ columnText data.imei = data.imei ∧
      columnText data.keyword = data.keyword ∧ columnText data.phone = data.phone ∧
      (if (data.trackerTime.map toUnixTime).getD 0 ≠ 0 then
        some (fromUnixTime ((data.trackerTime.map toUnixTime).getD 0)) else none) =
          data.trackerTime ∧
      (if (data.hostTime.map toUnixTime).getD 0 ≠ 0 then
        some (fromUnixTime ((data.hostTime.map toUnixTime).getD 0)) else none) = data.hostTime := by
    obtain ⟨imei, keyword, phone, trackerTime, hostTime, latitude, longitude, speed, valid⟩ := data
    have flag : decide ((if valid = true then (1 : Int) else 0) ≠ 0) = valid := by
      cases valid <;> rfl
    unfold readBack rowMessage dataRow
    rw [GpsMessage.mk.injEq]
    simp only [flag, and_true]
  rw [fields, columnText_eq_iff, columnText_eq_iff, columnText_eq_iff, storedTime_eq_iff,
    storedTime_eq_iff]
  constructor
  · rintro ⟨imei, keyword, phone, tracker, host⟩
    exact ⟨by simp [imei, keyword, phone], by
      simp only [List.forall_mem_cons]
      exact ⟨tracker, host, nofun⟩⟩
  · rintro ⟨texts, times⟩
    simp only [List.forall_mem_cons] at texts times
    exact ⟨texts.1, texts.2.1, texts.2.2.1, times.1, times.2.1⟩

/-! ## What a run of tracker events leaves -/

theorem notifies_congr {last last' : GpsMessage} (same : last.keyword = last'.keyword)
    (data : GpsMessage) (rows : List UserSettings) :
    recipients data last rows = recipients data last' rows := by
  unfold recipients notifies
  rw [same]

theorem step_notifies {data : GpsMessage} {a b : Application}
    (stepped : step env a (.trackerEvent data) = some b) :
    b.userSettings = a.userSettings ∧ b.lastMessage = data ∧ b.journal = a.journal ++
      (recipients data a.lastMessage a.userSettings).map Deed.sentGpsStatus := by
  obtain ⟨_, _, _, rfl⟩ := step_trackerEvent stepped
  exact ⟨rfl, rfl, rfl⟩

/-- Two processes that agree on the settings and on the last keyword notify the same users. -/
theorem same_notifications {a a' b : Application} {more : List GpsMessage}
    (settings : a'.userSettings = a.userSettings)
    (keyword : a'.lastMessage.keyword = a.lastMessage.keyword) (journal : a'.journal = a.journal)
    (run : Run (step env) a (more.map Event.trackerEvent) b) :
    ∃ c, Run (step env) a' (more.map Event.trackerEvent) c ∧ c.journal = b.journal := by
  induction more generalizing a a' with
  | nil =>
      cases run
      exact ⟨a', .nil a', journal⟩
  | cons data more ih =>
      cases run with
      | @cons _ t _ _ _ stepped rest =>
          obtain ⟨next, stepped'⟩ := step_trackerEvent_returns env data a'
          obtain ⟨settled, message, notified⟩ := step_notifies stepped
          obtain ⟨settled', message', notified'⟩ := step_notifies stepped'
          have agree : next.journal = t.journal := by
            rw [notified', journal, settings, notifies_congr keyword, ← notified]
          obtain ⟨c, run', same⟩ := ih (settled'.trans (settings.trans settled.symm))
            (by rw [message, message']) agree rest
          exact ⟨c, .cons stepped' run', same⟩

/-- What is left of a run of tracker events whose inserts succeed. -/
structure Followed (a : Application) (events : List GpsMessage) (b : Application) : Prop where
  data : b.database.data = a.database.data ++ events.map dataRow
  settings : b.database.settings = a.database.settings
  userSettings : b.userSettings = a.userSettings
  lastMessage : ∀ last, events.getLast? = some last → b.lastMessage = last

theorem followed_run (reliable : Reliable env) {a b : Application} {events : List GpsMessage}
    (run : Run (step env) a (events.map Event.trackerEvent) b) : Followed a events b := by
  induction events generalizing a with
  | nil =>
      cases run
      exact ⟨(List.append_nil _).symm, rfl, rfl, nofun⟩
  | cons data events ih =>
      cases run with
      | cons stepped rest =>
          obtain ⟨_, rows, added, rfl⟩ := step_trackerEvent stepped
          have rows_eq := added.resolve_right fun failed => failed.1 reliable
          subst rows_eq
          have followed := ih rest
          refine ⟨?_, followed.settings, followed.userSettings, fun last lastEq => ?_⟩
          · rw [followed.data, List.map_cons, List.append_assoc]
            rfl
          · cases events with
            | nil =>
                cases rest
                exact Option.some.inj lastEq
            | cons _ _ => exact followed.lastMessage last lastEq

theorem run_trackerEvents (env : AppEnv) (events : List GpsMessage) (a : Application) :
    ∃ b, Run (step env) a (events.map Event.trackerEvent) b := by
  induction events generalizing a with
  | nil => exact ⟨a, .nil a⟩
  | cons data events ih =>
      obtain ⟨next, stepped⟩ := step_trackerEvent_returns env data a
      obtain ⟨b, run⟩ := ih next
      exact ⟨b, .cons stepped run⟩

theorem dbGetGpsData_reliable (reliable : Reliable env) (a : Application) :
    ((dbGetGpsData env 1 false).run.run a).1 = some (storedData env 1 false a.database.data) :=
  ((reads_dbGetGpsData 1 false a a rfl).2).resolve_right fun failed => failed.2 reliable

theorem storedData_one {data : List DataRow} {row : DataRow}
    (head : (env.orderBy data).head? = some row) :
    storedData env 1 false data = [rowMessage {} row] := by
  have one : ∀ rows : List DataRow, limitRows 1 rows = rows.take 1 :=
    fun rows => if_neg (by decide)
  have selected : selectedRows env 1 false data = (env.orderBy data).take 1 := one _
  unfold storedData
  rw [selected]
  cases ordered : env.orderBy data with
  | nil =>
      rw [ordered] at head
      cases head
  | cons first rest =>
      rw [ordered] at head
      cases head
      rfl

section Events

variable {events front : List GpsMessage} {last other : GpsMessage}

theorem HostTimes.hostSecond_le (times : HostTimes events) (isPrefix : front ++ [last] <+: events)
    (member : other ∈ front ++ [last]) : hostSecond other ≤ hostSecond last := by
  rcases List.mem_append.mp member with before | same
  · have rising := times.rising.sublist isPrefix.sublist
    exact (List.pairwise_append.mp rising).2.2 other before last (List.mem_singleton.mpr rfl)
  · rw [List.mem_singleton.mp same]

theorem HostTimes.hostTime_eq (times : HostTimes events) (member : other ∈ events)
    (member' : last ∈ events) (same : hostSecond other = hostSecond last) :
    other.hostTime = last.hostTime := by
  obtain ⟨t, whole⟩ := times.whole other member
  obtain ⟨t', whole'⟩ := times.whole last member'
  rw [whole, whole', ← hostSecond_eq whole, ← hostSecond_eq whole', same]

/-- Where the rows of one second can be told apart, the last event comes first. -/
theorem remembers_of_distinguished (reliable : Reliable env) (orders : OrdersBy env.orderBy)
    (empty : database.data = []) (times : HostTimes events) (distinguished : Distinguished events)
    (isPrefix : front ++ [last] <+: events) : Remembers env database front last := by
  intro a run
  have followed := followed_run reliable run
  obtain ⟨⟨_, started⟩, _, _, restored⟩ := start_run env database []
  obtain ⟨_, journal, _, restored'⟩ := start_run env a.database a.journal
  have data : a.database.data = (front ++ [last]).map dataRow := by
    rw [followed.data, started, empty, List.nil_append]
  have nonempty : a.database.data ≠ [] := by
    rw [data]
    simp
  obtain ⟨row, member, head, latest⟩ := orders.head nonempty
  have lastMember : last ∈ front ++ [last] := List.mem_append_right _ (List.mem_singleton.mpr rfl)
  have found : rowMessage {} row = last := by
    rw [data] at member latest
    obtain ⟨other, among, rfl⟩ := List.mem_map.mp member
    have second : hostSecond other = hostSecond last :=
      Int.le_antisymm (times.hostSecond_le isPrefix among)
        (latest _ (List.mem_map_of_mem lastMember))
    obtain rfl : other = last := distinguished.unique other (isPrefix.subset among) last
      (isPrefix.subset lastMember)
      (times.hostTime_eq (isPrefix.subset among) (isPrefix.subset lastMember) second)
    exact (readBack_eq_iff other).mpr (distinguished.storable other (isPrefix.subset among))
  have stored : storedData env 1 false a.database.data = [last] := by
    rw [storedData_one head, found]
  have lastMessage : (start env a.database a.journal).lastMessage = last := by
    rw [(restored' reliable).2, stored]
    rfl
  refine ⟨by rw [lastMessage], ?_, fun more b run' => ?_⟩
  · rw [dbGetGpsData_reliable reliable, stored]
  · refine same_notifications ?_ ?_ journal run'
    · rw [(restored' reliable).1, followed.userSettings, followed.settings, (restored reliable).1,
        started]
    · rw [lastMessage, followed.lastMessage last (by simp)]

/-- If the last event is found whatever row of its second comes first, then each of these
rows is read back as it. -/
theorem readBack_of_remembers (reliable : Reliable env) (empty : database.data = [])
    (times : HostTimes events)
    (remembers : ∀ orderBy, OrdersBy orderBy → Remembers { env with orderBy } database front last)
    (isPrefix : front ++ [last] <+: events) (among : other ∈ front ++ [last])
    (second : hostSecond other = hostSecond last) : readBack other = last := by
  have latest : ∀ row ∈ (front ++ [last]).map dataRow, row.hostTime ≤ (dataRow other).hostTime := by
    intro row member
    obtain ⟨data, listed, rfl⟩ := List.mem_map.mp member
    exact (times.hostSecond_le isPrefix listed).trans (Int.le_of_eq second.symm)
  obtain ⟨orderBy, orders, head⟩ := exists_orderBy (List.mem_map_of_mem among) latest
  have reliable' : Reliable { env with orderBy } := reliable
  obtain ⟨a, run⟩ := run_trackerEvents { env with orderBy } (front ++ [last])
    (start { env with orderBy } database [])
  obtain ⟨⟨_, started⟩, _⟩ := start_run { env with orderBy } database []
  have data : a.database.data = (front ++ [last]).map dataRow := by
    rw [(followed_run reliable' run).data, started, empty, List.nil_append]
  have found := (remembers orderBy orders a run).2.1
  rw [dbGetGpsData_reliable reliable', data, storedData_one head] at found
  exact (List.cons.inj (Option.some.inj found)).1

theorem distinguished_of_remembers (reliable : Reliable env) (empty : database.data = [])
    (times : HostTimes events)
    (remembers : ∀ orderBy, OrdersBy orderBy → ∀ front last, front ++ [last] <+: events →
      Remembers { env with orderBy } database front last) : Distinguished events := by
  have reads : ∀ front last other, front ++ [last] <+: events → other ∈ front ++ [last] →
      hostSecond other = hostSecond last → readBack other = last :=
    fun front last other isPrefix among second => readBack_of_remembers reliable empty times
      (fun orderBy orders => remembers orderBy orders front last isPrefix) isPrefix among second
  have storable : ∀ data ∈ events, Storable data := by
    intro data member
    obtain ⟨front, back, split⟩ := List.append_of_mem member
    refine (readBack_eq_iff data).mp (reads front data data ⟨back, ?_⟩ (by simp) rfl)
    rw [split, List.append_assoc, List.singleton_append]
  -- of two events of one second the earlier one may come first when the later one is the last
  have earlier : ∀ front last other, front ++ [last] <+: events → other ∈ front →
      other.hostTime = last.hostTime → other = last := by
    intro front last other isPrefix before same
    have among : other ∈ front ++ [last] := List.mem_append_left _ before
    have second : hostSecond other = hostSecond last := by
      unfold hostSecond dataRow
      rw [same]
    have own := (readBack_eq_iff other).mpr (storable other (isPrefix.subset among))
    exact own.symm.trans (reads front last other isPrefix among second)
  refine ⟨storable, fun data member other member' same => ?_⟩
  obtain ⟨front, back, split⟩ := List.append_of_mem member
  rw [split, List.mem_append, List.mem_cons] at member'
  rcases member' with before | rfl | after
  · refine (earlier front data other ⟨back, ?_⟩ before same.symm).symm
    rw [split, List.append_assoc, List.singleton_append]
  · rfl
  · obtain ⟨middle, rest, split'⟩ := List.append_of_mem after
    refine earlier (front ++ data :: middle) other data ⟨rest, ?_⟩ (by simp) same
    rw [split, split']
    simp

end Events

/-- For tracker events with rising host times, from an empty data table: a restart
remembers the last event, at every point and whatever order rows of one second come in, iff
every event can be read back from its row and no two different events share a second. -/
theorem restart_remembers_iff (reliable : Reliable env) (empty : database.data = [])
    {events : List GpsMessage} (times : HostTimes events) :
    (∀ orderBy, OrdersBy orderBy → ∀ front last, front ++ [last] <+: events →
      Remembers { env with orderBy } database front last) ↔ Distinguished events := by
  constructor
  · exact distinguished_of_remembers reliable empty times
  · intro distinguished orderBy orders front last isPrefix
    have reliable' : Reliable { env with orderBy } := reliable
    exact remembers_of_distinguished reliable' orders empty times distinguished isPrefix

def trackerConnects : GpsMessage :=
  { keyword := "connect".toList, hostTime := some (fromUnixTime 1500000000) }

/-- A report `delay` seconds after the connection. -/
def trackerReports (delay : Int) : GpsMessage :=
  { keyword := "tracker".toList, hostTime := some (fromUnixTime (1500000000 + delay)) }

theorem connectAndReport_times {delay : Int} (later : 0 ≤ delay) :
    HostTimes [trackerConnects, trackerReports delay] where
  whole := by
    intro data member
    rcases List.mem_cons.mp member with rfl | member
    · exact ⟨1500000000, rfl⟩
    · rw [List.mem_singleton.mp member]
      exact ⟨1500000000 + delay, rfl⟩
  rising := by
    refine List.pairwise_pair.mpr ?_
    have first : hostSecond trackerConnects = 1500000000 := hostSecond_eq rfl
    have second : hostSecond (trackerReports delay) = 1500000000 + delay := hostSecond_eq rfl
    omega

/-- A database that leaves rows of one second as they were inserted. -/
def sampleRows : AppEnv := { sampleCodes with orderBy := List.insertionSort LatestFirst }

/-- Within one second, the connection is taken for the last event. -/
theorem connectAndReport_forgotten :
    HostTimes [trackerConnects, trackerReports 0] ∧ OrdersBy sampleRows.orderBy ∧
      ¬ Remembers sampleRows {} [trackerConnects] (trackerReports 0) := by
  refine ⟨connectAndReport_times (Int.le_refl 0), ordersBy_insertionSort, fun remembers => ?_⟩
  have executed : (([trackerConnects, trackerReports 0].map Event.trackerEvent).foldlM
      (step sampleRows) (start sampleRows {} [])).map
        (fun a => (start sampleRows a.database a.journal).lastMessage.keyword) =
      some "connect".toList := by
    decide +kernel
  obtain ⟨a, run, restarted⟩ := Option.map_eq_some_iff.mp executed
  have remembered := (remembers a (.of_foldlM run)).1
  rw [restarted] at remembered
  revert remembered
  decide

/-- A second apart, the report is remembered. -/
theorem connectAndReport_remembered :
    Remembers sampleRows {} [trackerConnects] (trackerReports 1) := by
  have connects : Storable trackerConnects := (readBack_eq_iff _).mp (by decide)
  have reports : Storable (trackerReports 1) := (readBack_eq_iff _).mp (by decide)
  have distinguished : Distinguished [trackerConnects, trackerReports 1] := by
    refine ⟨fun data member => ?_, by decide⟩
    rcases List.mem_cons.mp member with rfl | member
    · exact connects
    · rw [List.mem_singleton.mp member]
      exact reports
  have reliable : Reliable sampleRows := fun _ => rfl
  have empty : ({} : Database).data = [] := rfl
  have times := connectAndReport_times (show (0 : Int) ≤ 1 by decide)
  exact (restart_remembers_iff reliable empty times).mpr distinguished _ ordersBy_insertionSort
    [trackerConnects] (trackerReports 1) (List.prefix_refl _)

end Application

end GpsInformer
