import GpsInformer.ApplicationEvents
import GpsInformer.DatabaseQueries

/-!
# Who has presented which code

The text of a message is a list of command lines (`commandLines`), and handling the
message is handling these lines one after the other (`handleMessage_eq`).  The level a
user has reached by some command lines is the greatest one of the codes in them
(`presentedLevel`).  `UsersTable` ties the users table to it, and `Permitted` says what
the application may do for a user of that level.
-/

namespace GpsInformer

open Lib

open TgBot (Message)

namespace Application

/-! ## Command lines -/

/-- The tokens after a character, and the command line it ends. -/
def Tokens.next (t : Tokens) (c : Char) : Tokens × Option (List Str) :=
  if !t.quoted then
    if c = '\r' ∨ c = '\n' then ({ t.push with command := [] }, some t.push.command)
    else if c = ' ' ∨ c = '"' then ({ t.push with quoted := c = '"' }, none)
    else ({ t with argument := t.argument ++ [c] }, none)
  else if c = '"' then
    ({ argument := [], command := t.command ++ [t.argument], quoted := false }, none)
  else ({ t with argument := t.argument ++ [c] }, none)

def Tokens.lines (t : Tokens) : Str → List (List Str)
  | [] => [if !t.argument.isEmpty ∨ t.quoted then t.command ++ [t.argument] else t.command]
  | c :: body => (t.next c).2.toList ++ (t.next c).1.lines body

/-- The command lines of a text, the empty ones included. -/
def commandLines (body : Str) : List (List Str) :=
  if body.head? ≠ some '/' then [] else Tokens.lines {} body

/-- A command line and the id of its sender. -/
abbrev SentCommand := Option Int × List Str

/-- What `handleChatCommand` is told by a message. -/
def sentCommands (message : Message) : List SentCommand :=
  ((commandLines message.text).filter (· ≠ [])).map fun line =>
    (message.from.map TgBot.User.id, line)

/-- The command lines that have been handled. -/
def told (journal : List Deed) : List SentCommand :=
  journal.filterMap fun
    | .told sender command => some (sender, command)
    | _ => none

@[simp] theorem told_append (journal later : List Deed) :
    told (journal ++ later) = told journal ++ told later :=
  List.filterMap_append ..

/-! ## Levels -/

/-- The code of a two-token `/password` command. -/
def presentedCode : List Str → Option Str
  | [name, code] => if iequals name "/password".toList then some code else none
  | _ => none

def presentedCodes (commands : List SentCommand) (id : Int) : List Str :=
  commands.filterMap fun sent => if sent.1 = some id then presentedCode sent.2 else none

/-- The greatest level of the codes a user has presented. -/
def presentedLevel (env : AppEnv) (commands : List SentCommand) (id : Int) : Nat :=
  ((presentedCodes commands id).map (codeAccess env)).foldl max Access.default

variable {env : AppEnv} {commands more : List SentCommand} {sent : SentCommand} {id : Int}

theorem presentedCodes_append :
    presentedCodes (commands ++ more) id =
      presentedCodes commands id ++ presentedCodes more id :=
  List.filterMap_append ..

theorem presentedCodes_singleton :
    presentedCodes [sent] id =
      (if sent.1 = some id then presentedCode sent.2 else none).toList := by
  unfold presentedCodes
  rw [List.filterMap_cons]
  cases (if sent.1 = some id then presentedCode sent.2 else none) <;> rfl

/-- The level of a user who presents one more code. -/
theorem presentedLevel_code {code : Str} (same : sent.1 = some id)
    (presents : presentedCode sent.2 = some code) :
    presentedLevel env (commands ++ [sent]) id =
      max (presentedLevel env commands id) (codeAccess env code) := by
  unfold presentedLevel
  rw [presentedCodes_append, presentedCodes_singleton, if_pos same, presents]
  simp

/-- What presents no code, or is another user's, changes no level. -/
theorem presentedLevel_other (other : sent.1 ≠ some id ∨ presentedCode sent.2 = none) :
    presentedLevel env (commands ++ [sent]) id = presentedLevel env commands id := by
  have silent : (if sent.1 = some id then presentedCode sent.2 else none) = none := by
    rcases other with another | silent
    · exact if_neg another
    · rw [silent]
      exact ite_self none
  unfold presentedLevel
  rw [presentedCodes_append, presentedCodes_singleton, silent, Option.toList_none, List.append_nil]

theorem presentedLevel_le_append :
    presentedLevel env commands id ≤ presentedLevel env (commands ++ [sent]) id := by
  by_cases other : sent.1 ≠ some id ∨ presentedCode sent.2 = none
  · rw [presentedLevel_other other]
  · rw [not_or, not_not] at other
    obtain ⟨code, presents⟩ := Option.ne_none_iff_exists'.mp other.2
    rw [presentedLevel_code other.1 presents]
    exact Nat.le_max_left ..

theorem foldl_max (levels : List Nat) (level : Nat) :
    levels.foldl max level = max level (levels.foldl max Access.default) := by
  induction levels generalizing level with
  | nil => exact (Nat.max_eq_left (Nat.zero_le _)).symm
  | cons first levels ih =>
      rw [List.foldl_cons, List.foldl_cons, ih (max level first), ih (max Access.default first)]
      have zero : max Access.default first = first := Nat.max_eq_right (Nat.zero_le _)
      rw [zero, Nat.max_assoc]

theorem presentedLevel_append :
    presentedLevel env (commands ++ more) id =
      max (presentedLevel env commands id) (presentedLevel env more id) := by
  unfold presentedLevel
  rw [presentedCodes_append, List.map_append, List.foldl_append, foldl_max]

theorem presentedLevel_le_iff {level : Nat} :
    presentedLevel env commands id ≤ level ↔
      ∀ code ∈ presentedCodes commands id, codeAccess env code ≤ level := by
  unfold presentedLevel
  induction presentedCodes commands id with
  | nil => exact iff_of_true (Nat.zero_le _) nofun
  | cons code codes ih =>
      rw [List.map_cons, List.foldl_cons, foldl_max, List.forall_mem_cons, ← ih, Nat.max_le]
      have zero : max Access.default (codeAccess env code) = codeAccess env code :=
        Nat.max_eq_right (Nat.zero_le _)
      rw [zero]

theorem lt_presentedLevel_iff {level : Nat} :
    level < presentedLevel env commands id ↔
      ∃ code ∈ presentedCodes commands id, level < codeAccess env code := by
  rw [← Nat.not_le, presentedLevel_le_iff]
  simp

/-! ## What is tied to the levels -/

/-- The ids and the access levels in the users table, for the command lines so far.  If no
call of SQLite ever fails, every user is there with his level. -/
structure UsersTable (env : AppEnv) (commands : List SentCommand) (grants : List (Int × Nat)) :
    Prop where
  unique : (grants.map Prod.fst).Nodup
  privileged : ∀ grant ∈ grants, Access.default < grant.2
  presented : ∀ grant ∈ grants, grant.2 ≤ presentedLevel env commands grant.1
  exact : Reliable env → ∀ grant ∈ grants, presentedLevel env commands grant.1 ≤ grant.2
  complete : Reliable env → ∀ id, Access.default < presentedLevel env commands id →
    id ∈ grants.map Prod.fst

/-- What may be done after some command lines. -/
def Permitted (env : AppEnv) (commands : List SentCommand) : Deed → Prop
  | .told _ _ => True
  | .ran none required => required ≤ Access.default
  | .ran (some id) required => required ≤ presentedLevel env commands id
  | .sentGpsStatus id => Access.user ≤ presentedLevel env commands id

/-- Everything in the journal was permitted at its moment. -/
def Justified (env : AppEnv) (journal : List Deed) : Prop :=
  ∀ before deed, before ++ [deed] <+: journal → Permitted env (told before) deed

theorem Justified.record {journal : List Deed} {deed : Deed} (justified : Justified env journal)
    (permitted : Permitted env (told journal) deed) : Justified env (journal ++ [deed]) := by
  intro before deed' isPrefix
  rcases List.prefix_concat_iff.mp isPrefix with same | inside
  · obtain ⟨rfl, last⟩ := List.append_inj' same rfl
    cases last
    exact permitted
  · exact justified before deed' inside

/-! ## One more command line -/

variable {grants grants' : List (Int × Nat)}

theorem UsersTable.of_level_eq (table : UsersTable env commands grants)
    (same : ∀ id, presentedLevel env more id = presentedLevel env commands id) :
    UsersTable env more grants where
  unique := table.unique
  privileged := table.privileged
  presented grant member := by
    rw [same]
    exact table.presented grant member
  exact reliable grant member := by
    rw [same]
    exact table.exact reliable grant member
  complete reliable id high := by
    rw [same] at high
    exact table.complete reliable id high

theorem UsersTable.level_unique (table : UsersTable env commands grants) {l l' : Nat}
    (member : (id, l) ∈ grants) (member' : (id, l') ∈ grants) : l = l' :=
  congrArg Prod.snd (List.inj_on_of_nodup_map table.unique member member' rfl)

/-- A database call has failed: the table stays behind the codes. -/
theorem UsersTable.behind (table : UsersTable env commands grants) (unreliable : ¬ Reliable env) :
    UsersTable env (commands ++ [sent]) grants where
  unique := table.unique
  privileged := table.privileged
  presented grant member := (table.presented grant member).trans presentedLevel_le_append
  exact reliable := absurd reliable unreliable
  complete reliable := absurd reliable unreliable

section Password

variable {code : Str} (table : UsersTable env commands grants) (same : sent.1 = some id)
  (presents : presentedCode sent.2 = some code)
include table same

/-- A table that differs only in the row of the user who presents a code. -/
theorem UsersTable.change (unique : (grants'.map Prod.fst).Nodup)
    (others : ∀ grant : Int × Nat, grant.1 ≠ id → (grant ∈ grants' ↔ grant ∈ grants))
    (mine : ∀ level, (id, level) ∈ grants' → Access.default < level ∧
      level ≤ presentedLevel env (commands ++ [sent]) id ∧
      (Reliable env → presentedLevel env (commands ++ [sent]) id ≤ level))
    (listed : Reliable env → Access.default < presentedLevel env (commands ++ [sent]) id →
      ∃ level, (id, level) ∈ grants') :
    UsersTable env (commands ++ [sent]) grants' := by
  have level : ∀ other, other ≠ id →
      presentedLevel env (commands ++ [sent]) other = presentedLevel env commands other := by
    intro other ne
    refine presentedLevel_other (Or.inl fun theirs => ne ?_)
    exact Option.some.inj (theirs.symm.trans same)
  refine ⟨unique, ?_, ?_, ?_, ?_⟩
  · rintro ⟨other, l⟩ member
    by_cases eq : other = id
    · subst eq
      exact (mine l member).1
    · exact table.privileged _ ((others _ eq).mp member)
  · rintro ⟨other, l⟩ member
    by_cases eq : other = id
    · subst eq
      exact (mine l member).2.1
    · rw [level other eq]
      exact table.presented _ ((others _ eq).mp member)
  · rintro reliable ⟨other, l⟩ member
    by_cases eq : other = id
    · subst eq
      exact (mine l member).2.2 reliable
    · rw [level other eq]
      exact table.exact reliable _ ((others _ eq).mp member)
  · intro reliable other high
    by_cases eq : other = id
    · subst eq
      obtain ⟨l, member⟩ := listed reliable high
      exact List.mem_map_of_mem member
    · rw [level other eq] at high
      obtain ⟨grant, member, rfl⟩ := List.mem_map.mp (table.complete reliable other high)
      exact List.mem_map_of_mem ((others grant eq).mpr member)

include presents

/-- A user who is not in the table presents a good code and is added. -/
theorem UsersTable.insert (missing : id ∉ grants.map Prod.fst)
    (good : Access.default < codeAccess env code) :
    UsersTable env (commands ++ [sent]) (grants ++ [(id, codeAccess env code)]) := by
  have absent : ∀ level, (id, level) ∉ grants := fun level member =>
    missing (List.mem_map_of_mem member)
  refine table.change same ?_ ?_ ?_ ?_
  · rw [List.map_append]
    refine List.nodup_append.mpr ⟨table.unique, List.nodup_singleton _, fun x old y new eq => ?_⟩
    rw [eq, List.mem_singleton.mp new] at old
    exact missing old
  · intro grant ne
    rw [List.mem_append, List.mem_singleton]
    exact or_iff_left fun new => ne (congrArg Prod.fst new)
  · intro level member
    rcases List.mem_append.mp member with old | new
    · exact absurd old (absent level)
    · cases List.mem_singleton.mp new
      rw [presentedLevel_code same presents]
      refine ⟨good, Nat.le_max_right .., fun reliable => Nat.max_le.mpr ⟨?_, Nat.le_refl _⟩⟩
      -- who is not in the table has presented no good code before
      by_contra higher
      exact missing (table.complete reliable id (by omega))
  · exact fun _ _ => ⟨_, List.mem_append_right _ (List.mem_singleton.mpr rfl)⟩

/-- A user in the table presents a better code and is raised. -/
theorem UsersTable.raise {access : Nat} (listed : (id, access) ∈ grants)
    (better : access < codeAccess env code) :
    UsersTable env (commands ++ [sent])
      (grants.map fun grant => if grant.1 = id then (id, codeAccess env code) else grant) := by
  have ids : (grants.map fun grant => if grant.1 = id then (id, codeAccess env code) else grant).map
      Prod.fst = grants.map Prod.fst := by
    rw [List.map_map]
    refine List.map_congr_left fun grant _ => ?_
    dsimp only [Function.comp]
    split
    · rename_i eq
      exact eq.symm
    · rfl
  refine table.change same ?_ ?_ ?_ ?_
  · rw [ids]
    exact table.unique
  · intro grant ne
    rw [List.mem_map]
    constructor
    · rintro ⟨old, member, eq⟩
      split at eq
      · exact absurd (congrArg Prod.fst eq).symm ne
      · exact eq ▸ member
    · exact fun member => ⟨grant, member, if_neg ne⟩
  · intro level member
    obtain ⟨old, among, eq⟩ := List.mem_map.mp member
    split at eq
    · rename_i own
      cases eq
      rw [presentedLevel_code same presents]
      refine ⟨(table.privileged _ listed).trans better, Nat.le_max_right ..,
        fun reliable => Nat.max_le.mpr ⟨?_, Nat.le_refl _⟩⟩
      have exact_level := table.exact reliable _ listed
      dsimp only at exact_level
      omega
    · rename_i other
      exact absurd (congrArg Prod.fst eq) other
  · exact fun _ _ => ⟨_, List.mem_map.mpr ⟨_, listed, if_pos rfl⟩⟩

/-- A user in the table presents a code that is no better. -/
theorem UsersTable.keep {access : Nat} (listed : (id, access) ∈ grants)
    (worse : codeAccess env code ≤ access) : UsersTable env (commands ++ [sent]) grants := by
  refine table.change same table.unique (fun _ _ => Iff.rfl) ?_ fun _ _ => ⟨access, listed⟩
  intro level member
  obtain rfl := table.level_unique listed member
  refine ⟨table.privileged _ listed, ?_, fun reliable => ?_⟩
  · exact (table.presented _ listed).trans presentedLevel_le_append
  · rw [presentedLevel_code same presents]
    exact Nat.max_le.mpr ⟨table.exact reliable _ listed, worse⟩

/-- A wrong code changes nothing. -/
theorem UsersTable.deny (wrong : codeAccess env code ≤ Access.default) :
    UsersTable env (commands ++ [sent]) grants := by
  refine table.of_level_eq fun other => ?_
  by_cases eq : other = id
  · subst eq
    rw [presentedLevel_code same presents, Nat.max_eq_left (wrong.trans (Nat.zero_le _))]
  · exact presentedLevel_other (Or.inl fun theirs => eq (Option.some.inj (theirs.symm.trans same)))

end Password

end Application

end GpsInformer
