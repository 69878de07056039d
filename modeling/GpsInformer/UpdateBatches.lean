import GpsInformer.BotEffects
import GpsInformer.ResponseHandling

/-!
# When a batch of updates is consumed

A response to `getUpdates` with a batch of updates passes the header stripping unchanged
(`parseHttp_response`), and once decoded its updates are all handled and the offset is
advanced past them (`foldl_advance`).  What stands between is the textual filter: a batch is
consumed iff `"<html>"` does not occur in it (`handleHttpClientResponse_consumes_iff`).
-/

namespace GpsInformer

open Lib TgTypeParser

open TgBot (Message Update)

namespace TelegramBot

/-! ## A batch -/

/-- The body of an answer to `getUpdates` that decodes to `updates`, with increasing ids
and a sender in every message. -/
structure Batch (env : PTreeEnv) (body : Str) (updates : List Update) : Prop where
  nonempty : body ≠ []
  decodes : ∃ json result, env.readJson body = some json ∧
    json.getD env.bool "ok".toList false = true ∧ json.find "result".toList = some result ∧
    parseJsonAndGetArray (parseJsonAndGetUpdate env) result = .ok updates
  increasing : (updates.map (·.updateId)).Pairwise (· < ·)
  small : ∀ update ∈ updates, 0 < update.updateId ∧ update.updateId < 2 ^ 31 - 1
  senders : ∀ update ∈ updates, ∀ message, update.message = some message → message.from.isSome

/-- Every update is passed to `handleUpdate`, in order, and the offset is past the last
one. -/
def Consumed (updates : List Update) (s t : Owned (TelegramBot Application)) : Prop :=
  t.owner.handled = s.owner.handled ++ updates ∧
    t.owner.lastUpdateId =
      (updates.getLast?.map fun last => max s.owner.lastUpdateId (last.updateId + 1)).getD
        s.owner.lastUpdateId

variable {env : BotEnv} {appEnv : AppEnv} {attached : Bool} {s : Owned (TelegramBot Application)}

theorem handleItems_returns (env : BotEnv) (appEnv : AppEnv) (attached : Bool)
    {updates : List Update}
    (senders : ∀ update ∈ updates, ∀ message, update.message = some message → message.from.isSome)
    (s : Owned (TelegramBot Application)) :
    Returns (updates.foldlM (handleItem env (applicationHandler appEnv attached)) s) := by
  induction updates generalizing s with
  | nil => exact returns_ok s
  | cons update updates ih =>
      have fine := senders update List.mem_cons_self
      obtain ⟨t, first⟩ : Returns (handleItem env (applicationHandler appEnv attached) s update) :=
        (returns_handleUpdate_iff update _).mpr fun _ message present =>
          Or.inl (fine message present)
      rw [List.foldlM_cons, first]
      exact ih (fun other member => senders other (List.mem_cons_of_mem _ member)) t

theorem handleResult_consumes {body : Str} {updates : List Update}
    (batch : Batch env.toPTreeEnv body updates) {result : PTree}
    (parsed : parseJsonAndGetArray (parseJsonAndGetUpdate env.toPTreeEnv) result = .ok updates) :
    ∃ t, handleResult env (applicationHandler appEnv attached) Tags.getUpdates result s = .ok t ∧
      Consumed updates s t := by
  obtain ⟨t, returned⟩ := handleItems_returns env appEnv attached batch.senders s
  refine ⟨t, ?_, ?_⟩
  · unfold handleResult
    rw [if_pos rfl, parsed]
    exact returned
  · obtain ⟨app, owner⟩ := (handleItems_ok returned).owner
    rw [Consumed, owner]
    exact ⟨rfl, foldl_advance batch.increasing batch.small _⟩

/-- A batch is consumed iff it is empty or its text does not contain `"<html>"`. -/
theorem handleHttpClientResponse_consumes_iff (env : BotEnv) (appEnv : AppEnv) (attached : Bool)
    {lines : List Str} (someLine : lines ≠ []) (header : ∀ line ∈ lines, HttpParser.HeaderLine line)
    {body : Str} {updates : List Update} (batch : Batch env.toPTreeEnv body updates)
    {request : HttpRequest} (asked : request.tag = Tags.getUpdates)
    {s : Owned (TelegramBot Application)} (enabled : s.owner.enabled = true) :
    (∃ t, handleHttpClientResponse env (applicationHandler appEnv attached) request
        (HttpParser.response lines body) s = .ok t ∧ Consumed updates s t) ↔
      updates = [] ∨ body.find htmlMark = none := by
  have nonempty : (HttpParser.response lines body).isEmpty = false := by
    simp [HttpParser.response]
  have noBody : body.isEmpty = false := by simp [batch.nonempty]
  unfold handleHttpClientResponse
  simp only [enabled, nonempty, HttpParser.parseHttp_response someLine header, noBody,
    Bool.not_true, Bool.false_eq_true, or_self, if_false]
  obtain ⟨json, result, decodes, success, found, parsed⟩ := batch.decodes
  split
  · rename_i html
    constructor
    · intro consumed
      obtain ⟨t, same, handled, _⟩ := consumed
      cases same
      exact Or.inl (List.self_eq_append_right.mp handled)
    · intro either
      obtain rfl := either.resolve_right html
      exact ⟨s, rfl, (List.append_nil _).symm, rfl⟩
  · rename_i clean
    refine iff_of_true ?_ (Or.inr (by simpa using clean))
    rw [decodes]
    simp only [success, Bool.not_true, Bool.false_eq_true, if_false]
    have child : json.getChild "result".toList = .ok result := by
      unfold PTree.getChild
      rw [found]
    rw [child, asked]
    exact handleResult_consumes batch parsed

/-! ## A query for `<html>` -/

def htmlBody : Str :=
  ("\x7b\"ok\":true,\"result\":[\x7b\"update_id\":1,\"inline_query\":\x7b\"id\":\"7\"," ++
    "\"from\":\x7b\"id\":5,\"first_name\":\"Ann\"\x7d,\"query\":\"<html>\"," ++
    "\"offset\":\"\"\x7d\x7d]\x7d").toList

def htmlTree : PTree :=
  jsonObject [("ok", jsonLeaf "true"), ("result", jsonArray [jsonObject [
    ("update_id", jsonLeaf "1"),
    ("inline_query", jsonObject [("id", jsonLeaf "7"),
      ("from", jsonObject [("id", jsonLeaf "5"), ("first_name", jsonLeaf "Ann")]),
      ("query", jsonLeaf "<html>"), ("offset", jsonLeaf "")])]])]

def htmlUpdate : Update where
  updateId := 1
  message := none
  editedMessage := none
  channelPost := none
  editedChannelPost := none
  inlineQuery := some {
    id := "7".toList
    «from» := some { id := 5, firstName := "Ann".toList, lastName := [], username := [] }
    location := none
    query := "<html>".toList
    offset := [] }
  chosenInlineResult := none
  callbackQuery := none

set_option maxRecDepth 4000 in
theorem htmlBatch : Batch (sampleTrees [(htmlBody, htmlTree)]) htmlBody [htmlUpdate] where
  nonempty := by decide
  decodes := ⟨htmlTree, _, by rfl, by rfl, by rfl, by rfl⟩
  increasing := by simp
  small := by simp [htmlUpdate]
  senders := by simp [htmlUpdate]

def htmlBot : Owned (TelegramBot Application) := ⟨{}, { app := {}, enabled := true }⟩

set_option maxRecDepth 4000 in
/-- The batch is dropped because of what a user has written. -/
theorem htmlBatch_not_consumed :
    Batch (sampleTrees [(htmlBody, htmlTree)]) htmlBody [htmlUpdate] ∧
      htmlBot.owner.enabled = true ∧
      ¬ ∃ t, handleHttpClientResponse (sampleBot [(htmlBody, htmlTree)])
        (applicationHandler sampleApp true) ⟨[], [], true, Tags.getUpdates⟩
        (HttpParser.response ["HTTP/1.1 200 OK".toList] htmlBody) htmlBot = .ok t ∧
        Consumed [htmlUpdate] htmlBot t := by
  refine ⟨htmlBatch, rfl, fun consumed => ?_⟩
  obtain ⟨t, returned, handled, _⟩ := consumed
  have dropped : handleHttpClientResponse (sampleBot [(htmlBody, htmlTree)])
      (applicationHandler sampleApp true) ⟨[], [], true, Tags.getUpdates⟩
      (HttpParser.response ["HTTP/1.1 200 OK".toList] htmlBody) htmlBot = .ok htmlBot := by rfl
  rw [dropped] at returned
  cases returned
  cases handled

theorem htmlBatch_consumed_iff :
    (∃ t, handleHttpClientResponse (sampleBot [(htmlBody, htmlTree)])
        (applicationHandler sampleApp true) ⟨[], [], true, Tags.getUpdates⟩
        (HttpParser.response ["HTTP/1.1 200 OK".toList] htmlBody) htmlBot = .ok t ∧
        Consumed [htmlUpdate] htmlBot t) ↔
      [htmlUpdate] = [] ∨ htmlBody.find htmlMark = none :=
  handleHttpClientResponse_consumes_iff (sampleBot [(htmlBody, htmlTree)]) sampleApp true
    (by decide)
    (by
      simp only [List.mem_singleton, forall_eq]
      exact ⟨by decide, by decide, by decide⟩)
    htmlBatch rfl rfl

end TelegramBot

end GpsInformer
