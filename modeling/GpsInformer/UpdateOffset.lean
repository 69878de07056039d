import GpsInformer.UpdateBatches

/-!
# `_lastUpdateId` over any number of answers

`handleHttpClientResponse` adds one to an id in the type of the id, which is that of
`_lastUpdateId`.  Over a run of answers the sum never overflows, `_lastUpdateId` never
decreases and it is past every id of every batch exactly if no update has the greatest id
of the type (`grows_iff`).
-/

namespace GpsInformer

open Lib TgTypeParser

open TgBot (Update)

namespace TelegramBot

/-- The value fits an `int32_t`. -/
def IsInt32 (n : Int) : Prop := -2 ^ 31 ≤ n ∧ n < 2 ^ 31

instance (n : Int) : Decidable (IsInt32 n) := inferInstanceAs (Decidable (_ ∧ _))

/-- `get<int32_t>` gives no other values. -/
def ConvertsInt32 (env : PTreeEnv) : Prop := ∀ text n, env.int32 text = some n → IsInt32 n

/-- The greatest `int32_t`. -/
def maxId : Int := 2 ^ 31 - 1

/-- No sum in the loop over a batch overflows, and none makes the offset less. -/
def Ascends (lastUpdateId : Int) : List Update → Prop
  | [] => True
  | item :: items =>
      (item.updateId ≥ lastUpdateId → IsInt32 (item.updateId + 1)) ∧
        lastUpdateId ≤ advance lastUpdateId item ∧ Ascends (advance lastUpdateId item) items

/-- A call of `handleHttpClientResponse`: the request and its response. -/
abbrev Reply := HttpRequest × Str

/-- The updates a reply brings. -/
def batch (env : PTreeEnv) (reply : Reply) : List Update :=
  if reply.1.tag = Tags.getUpdates then decode env reply.2 else []

variable {σ : Type}

/-- One reply; `none` if an exception leaves the handler. -/
def answer (env : BotEnv) (handler : Option (TelegramBotHandler σ)) (s : Owned (TelegramBot σ))
    (reply : Reply) : Option (Owned (TelegramBot σ)) :=
  (handleHttpClientResponse env handler reply.1 reply.2 s).toOption

/-- What a reply should do to the offset. -/
structure Grows (env : PTreeEnv) (reply : Reply) (s t : Owned (TelegramBot σ)) : Prop where
  exact : Ascends s.owner.lastUpdateId (batch env reply)
  ascends : s.owner.lastUpdateId ≤ t.owner.lastUpdateId
  past : ∀ update ∈ batch env reply, update.updateId < t.owner.lastUpdateId

variable {env : BotEnv} {handler : Option (TelegramBotHandler σ)} {s t u : Owned (TelegramBot σ)}
  {lastUpdateId : Int} {item : Update} {items : List Update} {reply : Reply}
  {replies : List Reply}

/-! ## A batch -/

theorem isInt32_int32 (n : Int) : IsInt32 (int32 n) := by
  have lower : -(2 ^ 32 / 2 : Int) ≤ n.bmod (2 ^ 32) := Int.le_bmod (by decide)
  have upper : n.bmod (2 ^ 32) < (2 ^ 32 + 1) / 2 := Int.bmod_lt (by decide)
  unfold IsInt32 int32
  omega

theorem isInt32_advance (small : IsInt32 lastUpdateId) (item : Update) :
    IsInt32 (advance lastUpdateId item) := by
  unfold advance
  split
  · exact isInt32_int32 _
  · exact small

/-- Below the greatest id the sum is exact. -/
theorem advance_eq (fits : IsInt32 item.updateId) (notMax : item.updateId ≠ maxId) :
    advance lastUpdateId item = max lastUpdateId (item.updateId + 1) := by
  unfold IsInt32 at fits
  unfold maxId at notMax
  have exact32 : int32 (item.updateId + 1) = item.updateId + 1 :=
    Int.bmod_eq_of_le (by omega) (by omega)
  unfold advance
  rw [exact32]
  split <;> omega

theorem ascends_iff (small : IsInt32 lastUpdateId)
    (fits : ∀ update ∈ items, IsInt32 update.updateId) :
    Ascends lastUpdateId items ↔ ∀ update ∈ items, update.updateId ≠ maxId := by
  induction items generalizing lastUpdateId with
  | nil => exact iff_of_true trivial (List.forall_mem_nil _)
  | cons item items ih =>
      rw [List.forall_mem_cons] at fits
      rw [List.forall_mem_cons, Ascends, ih (isInt32_advance small item) fits.2]
      have own := fits.1
      have first : (item.updateId ≥ lastUpdateId → IsInt32 (item.updateId + 1)) ∧
          lastUpdateId ≤ advance lastUpdateId item ↔ item.updateId ≠ maxId := by
        constructor
        · rintro ⟨exact32, _⟩ same
          unfold maxId at same
          unfold IsInt32 at small exact32
          have above := (exact32 (by omega)).2
          omega
        · intro notMax
          rw [advance_eq own notMax]
          unfold IsInt32 at own ⊢
          unfold maxId at notMax
          constructor <;> omega
      rw [← and_assoc, first]

theorem isInt32_foldl (small : IsInt32 lastUpdateId) (items : List Update) :
    IsInt32 (items.foldl advance lastUpdateId) := by
  induction items generalizing lastUpdateId with
  | nil => exact small
  | cons item items ih => exact ih (isInt32_advance small item)

/-- Without the greatest id a batch leaves the offset at the old one or past the batch. -/
theorem foldl_advance_bounds (fits : ∀ update ∈ items, IsInt32 update.updateId)
    (noMax : ∀ update ∈ items, update.updateId ≠ maxId) :
    lastUpdateId ≤ items.foldl advance lastUpdateId ∧
      ∀ update ∈ items, update.updateId < items.foldl advance lastUpdateId := by
  induction items generalizing lastUpdateId with
  | nil => exact ⟨Int.le_refl _, List.forall_mem_nil _⟩
  | cons item items ih =>
      rw [List.forall_mem_cons] at fits noMax
      rcases @ih (advance lastUpdateId item) fits.2 noMax.2 with ⟨ascends, past⟩
      rw [List.forall_mem_cons, List.foldl_cons]
      rw [advance_eq fits.1 noMax.1] at ascends past ⊢
      refine ⟨?_, ?_, past⟩ <;> omega

/-! ## A reply -/

theorem isInt32_of_parse {data : PTree} {update : Update} (converts : ConvertsInt32 env.toPTreeEnv)
    (parsed : parseJsonAndGetUpdate env.toPTreeEnv data = .ok update) :
    IsInt32 update.updateId := by
  rw [parseJsonAndGetUpdate] at parsed
  rcases bind_eq_ok.mp parsed with ⟨updateId, found, parsed⟩
  iterate 7 obtain ⟨_, _, parsed⟩ := bind_eq_ok.mp parsed
  cases parsed
  unfold getInt32 PTree.get at found
  split at found
  · cases found
  · split at found
    · cases found
    · rename_i converted
      cases found
      exact converts _ _ converted

/-- The parser admits no other ids. -/
theorem isInt32_of_mem_batch (converts : ConvertsInt32 env.toPTreeEnv) (reply : Reply) :
    ∀ update ∈ batch env.toPTreeEnv reply, IsInt32 update.updateId := by
  intro update member
  unfold batch decode at member
  dsimp only at member
  split at member
  · split at member
    · cases member
    · split at member
      · cases member
      · split at member
        · cases member
        · split at member
          · cases member
          · rename_i parsed
            rcases bind_eq_ok.mp parsed with ⟨result, _, parsed⟩
            have same : ∀ {t a}, parseJsonAndGetUpdate env.toPTreeEnv t = .ok a →
                (IsInt32 a.updateId ↔ True) :=
              fun parsed => iff_true_intro (isInt32_of_parse converts parsed)
            exact (forall_parsed_iff same parsed).mpr (fun _ _ => trivial) update member
  · cases member

/-- What a reply leaves. -/
theorem answer_some (enabled : s.owner.enabled = true)
    (answered : answer env handler s reply = some t) :
    t.owner.enabled = true ∧
      t.owner.lastUpdateId = (batch env.toPTreeEnv reply).foldl advance s.owner.lastUpdateId := by
  have returned := HttpsClient.ok_of_toOption answered
  rcases handleHttpClientResponse_ok returned with ⟨updates, reacted, other, asked⟩
  have updates_eq : updates = batch env.toPTreeEnv reply := by
    unfold batch
    split
    · rename_i tag
      exact asked tag enabled
    · rename_i tag
      exact other tag
  rcases reacted.owner with ⟨app, owner⟩
  rw [owner, ← updates_eq]
  exact ⟨enabled, rfl⟩

/-- A reply does to the offset what it should iff no update in it has the greatest id. -/
theorem grows_reply_iff (converts : ConvertsInt32 env.toPTreeEnv) (enabled : s.owner.enabled = true)
    (small : IsInt32 s.owner.lastUpdateId) (answered : answer env handler s reply = some t) :
    Grows env.toPTreeEnv reply s t ↔
      ∀ update ∈ batch env.toPTreeEnv reply, update.updateId ≠ maxId := by
  have fits := isInt32_of_mem_batch converts reply
  rcases answer_some enabled answered with ⟨_, offset⟩
  constructor
  · exact fun grows => (ascends_iff small fits).mp grows.exact
  · intro noMax
    rcases @foldl_advance_bounds s.owner.lastUpdateId _ fits noMax with ⟨ascends, past⟩
    rw [← offset] at ascends past
    exact ⟨(ascends_iff small fits).mpr noMax, ascends, past⟩

/-! ## Runs -/

/-- Over any run of replies, each of them does to the offset what it should iff no update in
any of them has the greatest id. -/
theorem grows_iff (converts : ConvertsInt32 env.toPTreeEnv) (enabled : s.owner.enabled = true)
    (small : IsInt32 s.owner.lastUpdateId) (run : Run (answer env handler) s replies u) :
    (∀ front reply t t', front ++ [reply] <+: replies → Run (answer env handler) s front t →
        answer env handler t reply = some t' → Grows env.toPTreeEnv reply t t') ↔
      ∀ reply ∈ replies, ∀ update ∈ batch env.toPTreeEnv reply, update.updateId ≠ maxId := by
  induction run with
  | nil s =>
      refine iff_of_true (fun front reply t t' isPrefix => ?_) (List.forall_mem_nil _)
      simp at isPrefix
  | @cons s next u reply replies first rest ih =>
      rcases answer_some enabled first with ⟨enabled', offset⟩
      have small' : IsInt32 next.owner.lastUpdateId := by
        rw [offset]
        exact isInt32_foldl small _
      rw [List.forall_mem_cons, ← grows_reply_iff converts enabled small first,
        ← ih enabled' small']
      constructor
      · intro all
        refine ⟨all [] reply s next (by simp) (.nil s) first, ?_⟩
        intro front later t t' isPrefix run' answered
        apply all (reply :: front) later t t' _ (.cons first run') answered
        rw [List.cons_append]
        exact List.cons_prefix_cons.mpr ⟨rfl, isPrefix⟩
      · rintro ⟨grows, all⟩ front later t t' isPrefix run' answered
        cases run' with
        | nil =>
            rcases List.cons_prefix_cons.mp isPrefix with ⟨rfl, _⟩
            cases first.symm.trans answered
            exact grows
        | cons first' run' =>
            rw [List.cons_append] at isPrefix
            rcases List.cons_prefix_cons.mp isPrefix with ⟨rfl, later_isPrefix⟩
            cases first.symm.trans first'
            exact all _ later t t' later_isPrefix run' answered

/-! ## The greatest id -/

/-- `{"ok":true,"result":[{"update_id":id}]}` -/
def idBody (id : String) : Str :=
  ("\x7b\"ok\":true,\"result\":[\x7b\"update_id\":" ++ id ++ "\x7d]\x7d").toList

def idTree (id : String) : PTree :=
  jsonObject [("ok", jsonLeaf "true"),
    ("result", jsonArray [jsonObject [("update_id", jsonLeaf id)]])]

/-- Property trees whose `get<int32_t>` checks the range. -/
def idTrees (ids : List String) : PTreeEnv :=
  { sampleTrees (ids.map fun id => (idBody id, idTree id)) with
    int32 := fun text => (readDecimal text).filter fun n => decide (IsInt32 n) }

def idBot : BotEnv :=
  { sampleBot [] with toPTreeEnv := idTrees ["7", "2147483647"] }

theorem convertsInt32_idBot : ConvertsInt32 idBot.toPTreeEnv := by
  intro text n converted
  exact of_decide_eq_true (Option.filter_eq_some_iff.mp converted).2

/-- The answer to `getUpdates` that has one update. -/
def idReply (id : String) : Reply :=
  (⟨[], [], true, Tags.getUpdates⟩, HttpParser.response ["HTTP/1.1 200 OK".toList] (idBody id))

def enabledBot : Owned (TelegramBot Unit) := ⟨{}, { app := (), enabled := true }⟩

/-- After the greatest id the offset is the least `int32_t`. -/
theorem not_grows_maxId :
    ConvertsInt32 idBot.toPTreeEnv ∧ enabledBot.owner.enabled = true ∧
      IsInt32 enabledBot.owner.lastUpdateId ∧
      (batch idBot.toPTreeEnv (idReply "2147483647")).map (·.updateId) = [maxId] ∧
      ∃ t, answer idBot none enabledBot (idReply "2147483647") = some t ∧
        t.owner.lastUpdateId = -2 ^ 31 ∧
        ¬ Grows idBot.toPTreeEnv (idReply "2147483647") enabledBot t := by
  have executed : (answer idBot none enabledBot (idReply "2147483647")).map
      (fun t => t.owner.lastUpdateId) = some (-2 ^ 31) := by decide +kernel
  rcases Option.map_eq_some_iff.mp executed with ⟨t, answered, offset⟩
  refine ⟨convertsInt32_idBot, rfl, by decide, by decide +kernel, t, answered, offset, ?_⟩
  intro grows
  have ascends := grows.ascends
  rw [offset] at ascends
  exact absurd ascends (by decide)

theorem grows_iff_seven :
    ∃ u, Run (answer idBot none) enabledBot [idReply "7", idReply "7"] u ∧
      ((∀ front reply t t', front ++ [reply] <+: [idReply "7", idReply "7"] →
          Run (answer idBot none) enabledBot front t →
          answer idBot none t reply = some t' → Grows idBot.toPTreeEnv reply t t') ↔
        ∀ reply ∈ [idReply "7", idReply "7"], ∀ update ∈ batch idBot.toPTreeEnv reply,
          update.updateId ≠ maxId) := by
  have executed : ([idReply "7", idReply "7"].foldlM (answer idBot none) enabledBot).map
      (fun t => t.owner.lastUpdateId) = some 8 := by decide +kernel
  rcases Option.map_eq_some_iff.mp executed with ⟨u, run, _⟩
  exact ⟨u, .of_foldlM run, grows_iff convertsInt32_idBot rfl (by decide) (.of_foldlM run)⟩

end TelegramBot

end GpsInformer
