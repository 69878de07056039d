import GpsInformer.Restarts

/-!
# What is read back of the stored data

`dbGetGpsData` reads all rows into one `gpsMessage` and leaves its times alone where a row
has none, so that a row without a time gets the one of the row before.  `history_iff` says
exactly which histories are read back as they were stored.
-/

namespace GpsInformer

open Lib

namespace Application

/-- The order a history is read in. -/
def Later (data other : GpsMessage) : Prop := hostSecond other ≤ hostSecond data

instance : DecidableRel Later := fun data other => Int.decLe (hostSecond other) (hostSecond data)

instance : Std.Total Later := ⟨fun data other => Int.le_total (hostSecond other) (hostSecond data)⟩

instance : IsTrans GpsMessage Later := ⟨fun _ _ _ first second => Int.le_trans second first⟩

/-- The stored messages of one kind, latest first. -/
def latest (validOnly : Bool) (messages : List GpsMessage) : List GpsMessage :=
  (if validOnly then messages.filter (·.valid) else messages).insertionSort Later

/-- What `dbGetGpsData` should read; a `limit` of 0 is none. -/
def history (limit : Nat) (validOnly : Bool) (messages : List GpsMessage) : List GpsMessage :=
  if limit ≠ 0 then (latest validOnly messages).take limit else latest validOnly messages

/-- No message without a time comes after one that has it. -/
def TimesFirst (messages : List GpsMessage) : Prop :=
  messages.Pairwise fun before after =>
    (after.trackerTime = none → before.trackerTime = none) ∧
      (after.hostTime = none → before.hostTime = none)

/-- Messages that can be told apart by their host time. -/
structure Recorded (messages : List GpsMessage) : Prop where
  storable : ∀ data ∈ messages, Storable data
  distinct : (messages.map (·.hostTime)).Nodup

/-- The messages are stored one after the other and then read. -/
def storeAndRead (env : AppEnv) (messages : List GpsMessage) (limit : Nat) (validOnly : Bool) :
    Sql (List GpsMessage) := do
  messages.forM (dbAddGpsData env)
  dbGetGpsData env limit validOnly

variable {env : AppEnv} {messages : List GpsMessage} {limit : Nat} {validOnly : Bool}
  {data other gpsMessage : GpsMessage}

/-! ## Rows read into one message -/

/-- A time is read back iff it is there or the message has none. -/
theorem readTime_eq_iff {time kept : Option Int}
    (whole : ∀ t, time = some t → ∃ s : Int, s ≠ 0 ∧ t = fromUnixTime s) :
    (if (time.map toUnixTime).getD 0 ≠ 0 then some (fromUnixTime ((time.map toUnixTime).getD 0))
      else kept) = time ↔ (time = none → kept = none) := by
  cases time with
  | none => exact ⟨fun same _ => same, fun missing => missing rfl⟩
  | some t =>
      have read := (storedTime_eq_iff (some t)).mpr whole
      rcases whole t rfl with ⟨s, nonzero, rfl⟩
      rw [Option.map_some, Option.getD_some, toUnixTime_fromUnixTime] at read ⊢
      rw [if_pos nonzero] at read ⊢
      exact iff_of_true read nofun

/-- A row is read back iff the message has no time that the row lacks. -/
theorem rowMessage_eq_iff (storable : Storable data) :
    rowMessage gpsMessage (dataRow data) = data ↔
      (data.trackerTime = none → gpsMessage.trackerTime = none) ∧
        (data.hostTime = none → gpsMessage.hostTime = none) := by
  have fresh := (readBack_eq_iff data).mpr storable
  have rest : rowMessage gpsMessage (dataRow data) = { data with
      trackerTime := (rowMessage gpsMessage (dataRow data)).trackerTime
      hostTime := (rowMessage gpsMessage (dataRow data)).hostTime } := by
    have imei := congrArg GpsMessage.imei fresh
    have keyword := congrArg GpsMessage.keyword fresh
    have phone := congrArg GpsMessage.phone fresh
    have valid := congrArg GpsMessage.valid fresh
    rw [GpsMessage.mk.injEq]
    exact ⟨imei, keyword, phone, rfl, rfl, rfl, rfl, rfl, valid⟩
  have times := storable.times
  rw [List.forall_mem_cons, List.forall_mem_singleton] at times
  rw [← readTime_eq_iff times.1, ← readTime_eq_iff times.2]
  constructor
  · intro same
    exact ⟨congrArg GpsMessage.trackerTime same, congrArg GpsMessage.hostTime same⟩
  · rintro ⟨tracker, host⟩
    rw [rest]
    exact congrArg₂ (fun trackerTime hostTime => { data with trackerTime, hostTime }) tracker host

theorem length_readRows (gpsMessage : GpsMessage) (rows : List DataRow) :
    (readRows gpsMessage rows).length = rows.length := by
  induction rows generalizing gpsMessage with
  | nil => rfl
  | cons row rows ih => exact congrArg (· + 1) (ih _)

theorem readRows_eq_iff (storable : ∀ data ∈ messages, Storable data) :
    readRows gpsMessage (messages.map dataRow) = messages ↔
      (gpsMessage :: messages).IsChain fun before after =>
        (after.trackerTime = none → before.trackerTime = none) ∧
          (after.hostTime = none → before.hostTime = none) := by
  induction messages generalizing gpsMessage with
  | nil => exact iff_of_true rfl (.singleton _)
  | cons data messages ih =>
      rw [List.forall_mem_cons] at storable
      rw [List.map_cons, readRows, List.cons.injEq, List.isChain_cons_cons,
        rowMessage_eq_iff storable.1]
      refine and_congr_right fun fits => ?_
      rw [(rowMessage_eq_iff storable.1).mpr fits, ih storable.2]

/-- Times never come back once they are missing. -/
theorem readRows_eq_iff_timesFirst (storable : ∀ data ∈ messages, Storable data) :
    readRows {} (messages.map dataRow) = messages ↔ TimesFirst messages := by
  have trans : IsTrans GpsMessage fun before after =>
      (after.trackerTime = none → before.trackerTime = none) ∧
        (after.hostTime = none → before.hostTime = none) :=
    ⟨fun _ _ _ first second =>
      ⟨fun missing => first.1 (second.1 missing), fun missing => first.2 (second.2 missing)⟩⟩
  rw [readRows_eq_iff storable, List.isChain_iff_pairwise, List.pairwise_cons]
  exact and_iff_right fun _ _ => ⟨fun _ => rfl, fun _ => rfl⟩

/-! ## The selected rows -/

theorem Storable.hostTime_eq (storable : Storable data) (storable' : Storable other)
    (same : hostSecond data = hostSecond other) : data.hostTime = other.hostTime := by
  have times := storable.times
  have times' := storable'.times
  rw [List.forall_mem_cons, List.forall_mem_singleton] at times times'
  have read := (storedTime_eq_iff _).mpr times.2
  rw [← read, ← (storedTime_eq_iff _).mpr times'.2]
  have seconds : (data.hostTime.map toUnixTime).getD 0 = (other.hostTime.map toUnixTime).getD 0 :=
    same
  rw [seconds]

/-- With different host times there is one order only. -/
theorem orderBy_eq (orders : OrdersBy env.orderBy) (recorded : Recorded messages) :
    env.orderBy (messages.map dataRow) = (messages.insertionSort Later).map dataRow := by
  have perm : (messages.insertionSort Later).Perm messages := List.perm_insertionSort _ _
  apply @List.Perm.eq_of_pairwise _ LatestFirst
  · intro row row' member member' le le'
    rcases List.mem_map.mp ((orders.perm _).subset member) with ⟨data, among, rfl⟩
    rcases List.mem_map.mp member' with ⟨other, among', rfl⟩
    have among' := perm.subset among'
    have same := (recorded.storable data among).hostTime_eq (recorded.storable other among')
      (Int.le_antisymm le' le)
    rw [List.inj_on_of_nodup_map recorded.distinct among among' same]
  · exact orders.sorted _
  · exact (List.pairwise_insertionSort Later messages).map _ fun _ _ later => later
  · exact (orders.perm _).trans (perm.map dataRow).symm

theorem Recorded.filter (recorded : Recorded messages) (p : GpsMessage → Bool) :
    Recorded (messages.filter p) where
  storable data member := recorded.storable data (List.mem_filter.mp member).1
  distinct := recorded.distinct.sublist (List.filter_sublist.map _)

theorem filter_dataRow (messages : List GpsMessage) :
    (messages.map dataRow).filter (·.valid = 1) = (messages.filter (·.valid)).map dataRow := by
  have flag : ∀ valid : Bool, decide ((if valid = true then (1 : Int) else 0) = 1) = valid := by
    decide
  rw [List.filter_map]
  exact congrArg _ (List.filter_congr fun data _ => flag data.valid)

/-- The rows in the order in which they are read. -/
theorem orderBy_latest (orders : OrdersBy env.orderBy) (recorded : Recorded messages)
    (validOnly : Bool) :
    env.orderBy (if validOnly then (messages.map dataRow).filter (·.valid = 1)
      else messages.map dataRow) = (latest validOnly messages).map dataRow := by
  unfold latest
  cases validOnly with
  | false => exact orderBy_eq orders recorded
  | true =>
      rw [if_pos rfl, if_pos rfl, filter_dataRow]
      exact orderBy_eq orders (recorded.filter _)

theorem storable_latest (recorded : Recorded messages) :
    ∀ data ∈ latest validOnly messages, Storable data := by
  intro data member
  have among := (List.mem_insertionSort Later).mp member
  split at among
  · exact recorded.storable data (List.mem_filter.mp among).1
  · exact recorded.storable data among

theorem int32_nonneg_iff (word : limit < 2 ^ 32) : ¬ int32 limit < 0 ↔ limit < 2 ^ 31 := by
  unfold int32
  rcases Nat.lt_or_ge limit (2 ^ 31) with small | large
  · have same : (limit : Int).bmod (2 ^ 32) = limit := Int.bmod_eq_of_le (by omega) (by omega)
    omega
  · have negative : (limit : Int).bmod (2 ^ 32) = limit - 2 ^ 32 := by
      rw [← Int.sub_bmod_right]
      exact Int.bmod_eq_of_le (by omega) (by omega)
    omega

/-- What is read is what should be read iff the limit works and no time is missing behind one
that is not. -/
theorem storedData_eq_iff (orders : OrdersBy env.orderBy) (recorded : Recorded messages)
    (word : limit < 2 ^ 32) :
    storedData env limit validOnly (messages.map dataRow) = history limit validOnly messages ↔
      (limit < 2 ^ 31 ∨ (latest validOnly messages).length ≤ limit) ∧
        TimesFirst (history limit validOnly messages) := by
  have all : ∀ data ∈ latest validOnly messages, Storable data := storable_latest recorded
  have selected : selectedRows env limit validOnly (messages.map dataRow) =
      if limit ≠ 0 then limitRows limit ((latest validOnly messages).map dataRow)
      else (latest validOnly messages).map dataRow :=
    congrArg (fun rows => if limit ≠ 0 then limitRows limit rows else rows)
      (orderBy_latest orders recorded validOnly)
  unfold storedData history
  rw [selected]
  by_cases none_asked : limit = 0
  · have fits : limit < 2 ^ 31 := by omega
    rw [if_neg (not_not.mpr none_asked), if_neg (not_not.mpr none_asked)]
    exact (readRows_eq_iff_timesFirst all).trans (and_iff_right (Or.inl fits)).symm
  · rw [if_pos none_asked, if_pos none_asked]
    have taken : ∀ data ∈ (latest validOnly messages).take limit, Storable data :=
      fun data member => all data (List.mem_of_mem_take member)
    rcases Nat.lt_or_ge limit (2 ^ 31) with small | large
    · have limited : limitRows limit ((latest validOnly messages).map dataRow) =
          ((latest validOnly messages).map dataRow).take limit :=
        if_neg ((int32_nonneg_iff word).mpr small)
      rw [limited, ← List.map_take]
      exact (readRows_eq_iff_timesFirst taken).trans (and_iff_right (Or.inl small)).symm
    · have unlimited : limitRows limit ((latest validOnly messages).map dataRow) =
          (latest validOnly messages).map dataRow :=
        if_pos (by
          by_contra negative
          have small := (int32_nonneg_iff word).mp negative
          omega)
      rw [unlimited]
      rcases Nat.lt_or_ge limit (latest validOnly messages).length with cut | fits
      · refine iff_of_false (fun same => ?_) fun both => ?_
        · have lengths := congrArg List.length same
          rw [length_readRows, List.length_map, List.length_take] at lengths
          omega
        · rcases both.1 with small | fits <;> omega
      · rw [List.take_of_length_le fits]
        exact (readRows_eq_iff_timesFirst all).trans (and_iff_right (Or.inr fits)).symm

/-! ## Storing and reading -/

theorem storeAll_run (reliable : Reliable env) (messages : List GpsMessage) (a : Application) :
    Query (· = a) (messages.forM (dbAddGpsData env)) fun result b =>
      result = some () ∧ WritesData a (a.database.data ++ messages.map dataRow) b := by
  induction messages generalizing a with
  | nil =>
      refine Query.of_pure fun s same => ⟨rfl, a.database.calls, ?_⟩
      rw [same, List.map_nil, List.append_nil]
  | cons data messages ih =>
      have added : Query (· = a) (dbAddGpsData env data) fun result b =>
          result = some () ∧ WritesData a (a.database.data ++ [dataRow data]) b :=
        (dbAddGpsData_run data a).weaken fun result b outcome =>
          outcome.resolve_right fun failed => failed.2.1 reliable
      refine added.bind (fun s impossible => nomatch impossible.1) fun _ => ?_
      refine Query.of_forall fun b written => ?_
      rcases written with ⟨_, calls, rfl⟩
      refine (ih _).weaken fun result c outcome => ?_
      rcases outcome with ⟨done, calls', rfl⟩
      have joined : a.database.data ++ dataRow data :: messages.map dataRow =
          a.database.data ++ [dataRow data] ++ messages.map dataRow := List.append_cons ..
      refine ⟨done, calls', ?_⟩
      rw [List.map_cons, joined]

theorem storeAndRead_run (reliable : Reliable env) {a : Application}
    (empty : a.database.data = []) (limit : Nat) (validOnly : Bool) :
    ((storeAndRead env messages limit validOnly).run.run a).1 =
      some (storedData env limit validOnly (messages.map dataRow)) := by
  have read : Query (· = a) (storeAndRead env messages limit validOnly) fun result _ =>
      result = some (storedData env limit validOnly (messages.map dataRow)) := by
    refine (storeAll_run reliable messages a).bind (fun s impossible => nomatch impossible.1)
      fun _ => Query.of_forall fun b written => ?_
    rcases written with ⟨_, calls, rfl⟩
    refine (reads_dbGetGpsData limit validOnly _).weaken fun result c outcome => ?_
    have found := outcome.2.resolve_right fun failed => failed.2 reliable
    rw [found, empty, List.nil_append]
  exact read a rfl

/-- Reading the history gives back what was stored, cut to the limit and latest first, iff
the limit fits an `int` or is not reached, and no message without a time comes after one
that has it. -/
theorem history_iff (reliable : Reliable env) (orders : OrdersBy env.orderBy) {a : Application}
    (empty : a.database.data = []) (recorded : Recorded messages) (word : limit < 2 ^ 32)
    (validOnly : Bool) :
    ∃ result, ((storeAndRead env messages limit validOnly).run.run a).1 = some result ∧
      (result = history limit validOnly messages ↔
        (limit < 2 ^ 31 ∨ (latest validOnly messages).length ≤ limit) ∧
          TimesFirst (history limit validOnly messages)) :=
  ⟨_, storeAndRead_run reliable empty limit validOnly,
    storedData_eq_iff orders recorded word⟩

/-- A database that works. -/
def workingEnv : AppEnv where
  sqlFails _ := false
  orderBy := List.insertionSort LatestFirst
  formatDouble _ := []
  formatTime _ := []
  formatLocalTime _ := []

/-- The tracker connects, without a time of its own. -/
def connectMessage : GpsMessage where
  keyword := "connect".toList
  hostTime := some (fromUnixTime 1)

/-- Then it reports. -/
def reportMessage : GpsMessage where
  keyword := "tracker".toList
  trackerTime := some (fromUnixTime 2)
  hostTime := some (fromUnixTime 2)

theorem recorded_connect : Recorded [connectMessage, reportMessage] where
  storable := by
    rw [List.forall_mem_cons, List.forall_mem_singleton]
    refine ⟨⟨by decide, ?_⟩, by decide, ?_⟩ <;>
      rw [List.forall_mem_cons, List.forall_mem_singleton]
    · exact ⟨nofun, fun t time => ⟨1, by omega, (Option.some.inj time).symm⟩⟩
    · exact ⟨fun t time => ⟨2, by omega, (Option.some.inj time).symm⟩,
        fun t time => ⟨2, by omega, (Option.some.inj time).symm⟩⟩
  distinct := by decide

/-- The last message is read back alone. -/
theorem history_report :
    ((storeAndRead workingEnv [connectMessage, reportMessage] 1 false).run.run {}).1 =
      some [reportMessage] := by
  obtain ⟨result, read, iff⟩ := @history_iff workingEnv _ 1 (fun _ => rfl)
    ordersBy_insertionSort {} rfl recorded_connect (by omega) false
  have last : history 1 false [connectMessage, reportMessage] = [reportMessage] := by decide
  rw [last] at iff
  rw [read, iff.mpr ⟨Or.inl (by omega), List.pairwise_singleton _ _⟩]

/-- Both are read, and the connection has got the time of the report. -/
theorem connect_gets_time :
    ¬ ∀ (env : AppEnv) (a : Application) (messages : List GpsMessage) (limit : Nat)
        (validOnly : Bool), Reliable env → OrdersBy env.orderBy → a.database.data = [] →
        Recorded messages → limit < 2 ^ 32 →
        ((storeAndRead env messages limit validOnly).run.run a).1 =
          some (history limit validOnly messages) := by
  intro claim
  have read := claim workingEnv {} _ 0 false (fun _ => rfl) ordersBy_insertionSort rfl
    recorded_connect (by omega)
  rw [storeAndRead_run (fun _ => rfl) rfl, Option.some.injEq,
    storedData_eq_iff ordersBy_insertionSort recorded_connect (by omega)] at read
  have both : history 0 false [connectMessage, reportMessage] =
      [reportMessage, connectMessage] := by decide
  rw [both] at read
  have missing := (List.rel_of_pairwise_cons read.2 (List.mem_singleton_self _)).1 rfl
  exact nomatch missing

end Application

end GpsInformer
