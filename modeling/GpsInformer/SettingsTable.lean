import GpsInformer.ApplicationCommands
import GpsInformer.DatabaseQueries

/-!
# What `dbSaveSettings` leaves of the settings table

The table is emptied by one statement and filled again row by row, outside any
transaction.  `dbSaveSettings_leaves` says what is left for every call that can fail: the
old rows if the table could not be emptied, and otherwise the rows before the one that
could not be saved.
-/

namespace GpsInformer.Application

open Lib

variable {env : AppEnv} {a : Application} {row : UserSettings}

/-! ## Calls one by one -/

theorem call_exact (a : Application) :
    Query (· = a) (call env) fun result b =>
      b = a.counted (a.database.calls + 1) ∧
        ((result = some () ∧ env.sqlFails a.database.calls = false) ∨
          (result = none ∧ env.sqlFails a.database.calls = true)) := by
  refine (execute_exact some a).weaken fun result b outcome => ?_
  rcases outcome with ⟨done, fine, _, kept, rfl⟩ | ⟨failed, fails | impossible, rfl⟩
  · cases kept
    exact ⟨rfl, Or.inl ⟨done, fine⟩⟩
  · exact ⟨rfl, Or.inr ⟨failed, fails⟩⟩
  · cases impossible

/-- The calls of `prepare` are `count + 1` in number. -/
theorem prepare_exact (count : Nat) (a : Application) :
    Query (· = a) (prepare env count) fun result b =>
      (result = some () ∧ (∀ k ≤ count, env.sqlFails (a.database.calls + k) = false) ∧
        b = a.counted (a.database.calls + (count + 1))) ∨
      (result = none ∧ (∃ k ≤ count, env.sqlFails (a.database.calls + k) = true) ∧
        ∃ calls, b = a.counted calls) := by
  induction count with
  | zero =>
      refine (call_exact a).weaken fun result b outcome => ?_
      rcases outcome with ⟨rfl, ⟨done, fine⟩ | ⟨failed, fails⟩⟩
      · refine Or.inl ⟨done, fun k small => ?_, rfl⟩
        rw [Nat.le_zero.mp small]
        exact fine
      · exact Or.inr ⟨failed, ⟨0, Nat.le_refl 0, fails⟩, _, rfl⟩
  | succ count ih =>
      refine ih.bind ?_ fun _ => Query.of_forall fun s earlier => ?_
      · rintro s (⟨impossible, _⟩ | ⟨_, ⟨k, small, fails⟩, counted⟩)
        · cases impossible
        · exact Or.inr ⟨rfl, ⟨k, Nat.le_succ_of_le small, fails⟩, counted⟩
      · rcases earlier with ⟨_, fine, rfl⟩ | ⟨impossible, _⟩
        · refine (call_exact _).weaken fun result b outcome => ?_
          rcases outcome with ⟨rfl, ⟨done, fine'⟩ | ⟨failed, fails⟩⟩
          · refine Or.inl ⟨done, fun k small => ?_, rfl⟩
            rcases Nat.le_succ_iff.mp small with before | rfl
            · exact fine k before
            · exact fine'
          · exact Or.inr ⟨failed, ⟨count + 1, Nat.le_refl _, fails⟩, _, rfl⟩
        · cases impossible

/-! ## Saving -/

/-- One of the four calls that save the row fails, the first being call number `calls`, or
the table has a row of its id. -/
def Unsaved (env : AppEnv) (calls : Nat) (saved : List UserSettings) (row : UserSettings) : Prop :=
  (∃ k < 4, env.sqlFails (calls + k) = true) ∨ row.id ∈ saved.map UserSettings.id

/-- The body of the loop of `dbSaveSettings`. -/
theorem saveRow_exact (row : UserSettings) (a : Application) :
    Query (· = a) (do prepare env 2; execute env (insertSettings row)) fun result b =>
      (result = some () ∧ ¬ Unsaved env a.database.calls a.database.settings row ∧
        b = { a with database := { a.database with
          settings := a.database.settings ++ [row], calls := a.database.calls + 4 } }) ∨
      (result = none ∧ Unsaved env a.database.calls a.database.settings row ∧
        ∃ calls, b = a.counted calls) := by
  refine (prepare_exact 2 a).bind ?_ fun _ => Query.of_forall fun s prepared => ?_
  · rintro s (⟨impossible, _⟩ | ⟨_, ⟨k, small, fails⟩, counted⟩)
    · cases impossible
    · exact Or.inr ⟨rfl, Or.inl ⟨k, by omega, fails⟩, counted⟩
  · rcases prepared with ⟨_, fine, rfl⟩ | ⟨impossible, _⟩
    · refine (execute_exact (insertSettings row) _).weaken fun result b outcome => ?_
      have listed : (a.database.settings.any fun old => decide (old.id = row.id)) = true ↔
          row.id ∈ a.database.settings.map UserSettings.id := by
        simp [List.any_eq_true]
      rcases outcome with ⟨done, fine', database, inserted, rfl⟩ | ⟨failed, refused, rfl⟩
      · refine Or.inl ⟨done, ?_, ?_⟩
        · rintro (⟨k, small, fails⟩ | taken)
          · rcases Nat.lt_succ_iff_lt_or_eq.mp small with before | rfl
            · rw [fine k (by omega)] at fails
              cases fails
            · cases fine'.symm.trans fails
          · unfold insertSettings at inserted
            split at inserted
            · cases inserted
            · rename_i free
              exact free (listed.mpr taken)
        · unfold insertSettings at inserted
          split at inserted
          · cases inserted
          · cases inserted
            rfl
      · refine Or.inr ⟨failed, ?_, _, rfl⟩
        rcases refused with fails | refused
        · exact Or.inl ⟨3, by omega, fails⟩
        · unfold insertSettings at refused
          split at refused
          · rename_i taken
            exact Or.inr (listed.mp taken)
          · cases refused
    · cases impossible

/-- Every row of `rows` can be saved after the ones before it. -/
def AllSaved (env : AppEnv) (calls : Nat) (saved rows : List UserSettings) : Prop :=
  ∀ front row back, rows = front ++ row :: back →
    ¬ Unsaved env (calls + 4 * front.length) (saved ++ front) row

/-- Saving goes on to the first row that cannot be saved. -/
theorem saveRows_exact (rows : List UserSettings) (a : Application) :
    Query (· = a) (rows.forM fun row => do prepare env 2; execute env (insertSettings row))
      fun result b =>
        (result = some () ∧ AllSaved env a.database.calls a.database.settings rows ∧
          WritesSettings a (a.database.settings ++ rows) b) ∨
        (result = none ∧ ∃ front row back, rows = front ++ row :: back ∧
          Unsaved env (a.database.calls + 4 * front.length) (a.database.settings ++ front) row ∧
          WritesSettings a (a.database.settings ++ front) b) := by
  induction rows generalizing a with
  | nil =>
      refine Query.of_pure fun s same => Or.inl ⟨rfl, fun front row back split => ?_, ?_⟩
      · cases List.append_eq_nil_iff.mp split.symm |>.2
      · rw [same, List.append_nil]
        exact ⟨_, rfl⟩
  | cons row rows ih =>
      refine (saveRow_exact row a).bind ?_ fun _ => Query.of_forall fun s first => ?_
      · rintro s (⟨impossible, _⟩ | ⟨_, unsaved, calls, rfl⟩)
        · cases impossible
        · refine Or.inr ⟨rfl, [], row, rows, rfl, ?_, calls, ?_⟩
          · rw [List.append_nil]
            exact unsaved
          · rw [List.append_nil]
            rfl
      · rcases first with ⟨_, saved, rfl⟩ | ⟨impossible, _⟩
        · refine (ih _).weaken fun result b outcome => ?_
          dsimp only at outcome
          have number : ∀ front : List UserSettings, a.database.calls + 4 + 4 * front.length =
              a.database.calls + 4 * (row :: front).length := by
            intro front
            rw [List.length_cons]
            omega
          have table : ∀ front : List UserSettings, (a.database.settings ++ [row]) ++ front =
              a.database.settings ++ (row :: front) := fun front => by simp
          rcases outcome with ⟨done, all, calls, rfl⟩ |
            ⟨failed, front, other, back, rfl, unsaved, calls, rfl⟩
          · refine Or.inl ⟨done, fun front other back split => ?_, calls, ?_⟩
            · rcases front with _ | ⟨first, front⟩
              · cases split
                rw [List.append_nil]
                exact saved
              · obtain ⟨rfl, later⟩ := List.cons.inj split
                rw [← number, ← table]
                exact all front other back later
            · rw [table]
          · refine Or.inr ⟨failed, row :: front, other, back, rfl, ?_, calls, ?_⟩
            · rw [← number, ← table]
              exact unsaved
            · rw [table]
        · cases impossible

/-- The settings table after `dbSaveSettings`: all the rows of the list if it returns
`true`; the old rows if it returns `false` because the table could not be emptied; and
otherwise the rows of the list before the one that could not be saved. -/
theorem dbSaveSettings_leaves (env : AppEnv) (a : Application) :
    Query (· = a) (dbSaveSettings env) fun result b =>
      (result = some () ∧ env.sqlFails a.database.calls = false ∧
        AllSaved env (a.database.calls + 1) [] a.userSettings ∧
        WritesSettings a a.userSettings b) ∨
      (result = none ∧ env.sqlFails a.database.calls = true ∧
        WritesSettings a a.database.settings b) ∨
      (result = none ∧ env.sqlFails a.database.calls = false ∧
        ∃ front row back, a.userSettings = front ++ row :: back ∧
          Unsaved env (a.database.calls + 1 + 4 * front.length) front row ∧
          WritesSettings a front b) := by
  unfold dbSaveSettings
  refine (execute_exact deleteSettings a).bind ?_ fun _ => Query.of_forall fun s emptied => ?_
  · rintro s (⟨impossible, _⟩ | ⟨_, fails | impossible, rfl⟩)
    · cases impossible
    · exact Or.inr (Or.inl ⟨rfl, fails, _, rfl⟩)
    · cases impossible
  · rcases emptied with ⟨_, fine, _, deleted, rfl⟩ | ⟨impossible, _⟩
    · cases deleted
      refine Query.get_bind fun s same => ?_
      cases same
      refine (saveRows_exact a.userSettings _).weaken fun result b outcome => ?_
      dsimp only [counted] at outcome
      simp only [List.nil_append] at outcome
      rcases outcome with ⟨done, all, calls, rfl⟩ |
        ⟨failed, front, row, back, split, unsaved, calls, rfl⟩
      · exact Or.inl ⟨done, fine, all, calls, rfl⟩
      · exact Or.inr (Or.inr ⟨failed, fine, front, row, back, split, unsaved, calls, rfl⟩)
    · cases impossible

/-- Saving is all or nothing only up to the point where the table has been emptied: what it
returns tells whether the table holds the list, and otherwise the table holds what it held
before if it could not be emptied, or else the list up to the row that could not be saved. -/
theorem dbSaveSettings_outcome (env : AppEnv) (a : Application) :
    let saved := (dbSaveSettings env).run.run a
    (saved.1 = some () ↔ env.sqlFails a.database.calls = false ∧
      AllSaved env (a.database.calls + 1) [] a.userSettings) ∧
    (saved.1 = some () → saved.2.database.settings = a.userSettings) ∧
    (saved.1 = none → env.sqlFails a.database.calls = true →
      saved.2.database.settings = a.database.settings) ∧
    (saved.1 = none → env.sqlFails a.database.calls = false →
      ∃ front row back, a.userSettings = front ++ row :: back ∧
        Unsaved env (a.database.calls + 1 + 4 * front.length) front row ∧
        saved.2.database.settings = front) := by
  intro saved
  rcases dbSaveSettings_leaves env a a rfl with ⟨done, fine, all, _, table⟩ |
    ⟨failed, fails, _, table⟩ | ⟨failed, fine, front, row, back, split, unsaved, _, table⟩
  · have settings : saved.2.database.settings = a.userSettings := by
      rw [table]
    refine ⟨iff_of_true done ⟨fine, all⟩, fun _ => settings, fun none' => ?_, fun none' => ?_⟩
    · cases done.symm.trans none'
    · cases done.symm.trans none'
  · have settings : saved.2.database.settings = a.database.settings := by
      rw [table]
    refine ⟨iff_of_false (fun done => ?_) fun saves => ?_, fun done => ?_, fun _ _ => settings,
      fun _ fine => ?_⟩
    · cases failed.symm.trans done
    · cases fails.symm.trans saves.1
    · cases failed.symm.trans done
    · cases fails.symm.trans fine
  · have settings : saved.2.database.settings = front := by
      rw [table]
    refine ⟨iff_of_false (fun done => ?_) fun saves => ?_, fun done => ?_, fun _ fails => ?_,
      fun _ _ => ⟨front, row, back, split, unsaved, settings⟩⟩
    · cases failed.symm.trans done
    · exact saves.2 front row back split unsaved
    · cases failed.symm.trans done
    · cases fails.symm.trans fine

/-- The first call after the table has been emptied fails. -/
def secondCallFails : AppEnv where
  sqlFails n := n = 1
  orderBy rows := rows
  formatDouble _ := []
  formatTime _ := []
  formatLocalTime _ := []

/-- Two users, of whom one is about to have his mode changed. -/
def twoUsers : Application where
  database := { settings := [⟨1, UserSettings.alert⟩, ⟨2, UserSettings.paranoid⟩] }
  userSettings := [⟨1, UserSettings.insane⟩, ⟨2, UserSettings.paranoid⟩]

theorem not_forall_dbSaveSettings_atomic :
    ¬ ∀ env a,
      (((dbSaveSettings env).run.run a).1 = none →
        ((dbSaveSettings env).run.run a).2.database.settings = a.database.settings) ∧
      (((dbSaveSettings env).run.run a).1 = some () →
        ((dbSaveSettings env).run.run a).2.database.settings = a.userSettings) := by
  intro atomic
  have lost : ((dbSaveSettings secondCallFails).run.run twoUsers).2.database.settings = [] := rfl
  have kept := (atomic secondCallFails twoUsers).1 rfl
  rw [lost] at kept
  cases kept

end GpsInformer.Application
