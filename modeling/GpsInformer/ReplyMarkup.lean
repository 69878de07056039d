import GpsInformer.Lib.Json
import GpsInformer.TgTypeParser

/-!
# Reply markups (TgTypeParser.cpp)

The keyboards that can go with a message, how they are written (`parseGenericReply`) and
how they are read (`parseJsonAndGetGenericReply`).  A text is written as it is, and without
the quotes where it looks like the start or the end of an object; a row without buttons loses
its bracket.  What is written is the markup's JSON iff there is nothing of that kind
(`parseGenericReply_eq_iff`), and then it is read back.
-/

namespace GpsInformer

open Lib

namespace TgBot

structure KeyboardButton where
  text : Str := []
  requestContact : Bool := false
  requestLocation : Bool := false
  deriving DecidableEq, Repr

structure ReplyKeyboardMarkup where
  keyboard : List (List KeyboardButton) := []
  resizeKeyboard : Bool := false
  oneTimeKeyboard : Bool := false
  selective : Bool := false
  deriving DecidableEq, Repr

structure InlineKeyboardButton where
  text : Str := []
  url : Str := []
  callbackData : Str := []
  switchInlineQuery : Str := []
  switchInlineQueryCurrentChat : Str := []
  deriving DecidableEq, Repr

structure InlineKeyboardMarkup where
  inlineKeyboard : List (List InlineKeyboardButton) := []
  deriving DecidableEq, Repr

/-- `removeKeyboard` is a constant. -/
structure ReplyKeyboardRemove where
  selective : Bool := false
  deriving DecidableEq, Repr

/-- `forceReply` is a constant. -/
structure ForceReply where
  selective : Bool := false
  deriving DecidableEq, Repr

def ReplyKeyboardRemove.removeKeyboard : Bool := true

def ForceReply.forceReply : Bool := true

/-- An object of the class or of one derived from it. -/
inductive GenericReply where
  | genericReply
  | forceReply (object : ForceReply)
  | replyKeyboardRemove (object : ReplyKeyboardRemove)
  | replyKeyboardMarkup (object : ReplyKeyboardMarkup)
  | inlineKeyboardMarkup (object : InlineKeyboardMarkup)
  deriving DecidableEq, Repr

end TgBot

open TgBot

namespace TgTypeParser

/-! ## Writing -/

/-- `appendToJson`, for a string -/
def appendToJson (varName : String) (value json : Str) : Str :=
  if value.isEmpty then json
  else
    json ++ '"' :: varName.toList ++ ['"', ':'] ++
      (if value.head? ≠ some '\x7b' then ['"'] else []) ++ value ++
      (if value.getLast? ≠ some '\x7d' then ['"'] else []) ++ [',']

/-- `appendToJson`, for a `bool` -/
def appendFlagToJson (varName : String) (value : Bool) (json : Str) : Str :=
  json ++ '"' :: varName.toList ++ ['"', ':'] ++ (if value then "true" else "false").toList ++ [',']

/-- `result.erase(result.length() - 1); result += '}';` -/
def close (result : Str) : Str := result.dropLast ++ ['\x7d']

/-- The body of the outer loop over a keyboard. -/
def parseRow {α : Type} (parse : α → Str) (result : Str) (item : List α) : Str :=
  (item.foldl (fun result innerItem => result ++ parse innerItem ++ [','])
    (result ++ ['['])).dropLast ++ "],".toList

/-- A keyboard, after its opening bracket. -/
def parseRows {α : Type} (parse : α → Str) (rows : List (List α)) (result : Str) : Str :=
  let result := rows.foldl (parseRow parse) result
  if rows.isEmpty then result else result.dropLast

def parseKeyboardButton (object : KeyboardButton) : Str :=
  close (appendFlagToJson "request_location" object.requestLocation
    (appendFlagToJson "request_contact" object.requestContact
      (appendToJson "text" object.text ['\x7b'])))

def parseReplyKeyboardMarkup (object : ReplyKeyboardMarkup) : Str :=
  let result :=
    parseRows parseKeyboardButton object.keyboard ('\x7b' :: "\"keyboard\":[".toList) ++ "],".toList
  close (appendFlagToJson "selective" object.selective
    (appendFlagToJson "one_time_keyboard" object.oneTimeKeyboard
      (appendFlagToJson "resize_keyboard" object.resizeKeyboard result)))

def parseReplyKeyboardRemove (object : ReplyKeyboardRemove) : Str :=
  close (appendFlagToJson "selective" object.selective
    (appendFlagToJson "remove_keyboard" ReplyKeyboardRemove.removeKeyboard ['\x7b']))

def parseForceReply (object : ForceReply) : Str :=
  close (appendFlagToJson "selective" object.selective
    (appendFlagToJson "force_reply" ForceReply.forceReply ['\x7b']))

def parseInlineKeyboardButton (object : InlineKeyboardButton) : Str :=
  close (appendToJson "switch_inline_query_current_chat" object.switchInlineQueryCurrentChat
    (appendToJson "switch_inline_query" object.switchInlineQuery
      (appendToJson "callback_data" object.callbackData
        (appendToJson "url" object.url (appendToJson "text" object.text ['\x7b'])))))

def parseInlineKeyboardMarkup (object : InlineKeyboardMarkup) : Str :=
  parseRows parseInlineKeyboardButton object.inlineKeyboard
    ('\x7b' :: "\"inline_keyboard\":[".toList) ++ [']', '\x7d']

def parseGenericReply : GenericReply → Str
  | .forceReply object => parseForceReply object
  | .replyKeyboardRemove object => parseReplyKeyboardRemove object
  | .replyKeyboardMarkup object => parseReplyKeyboardMarkup object
  | .inlineKeyboardMarkup object => parseInlineKeyboardMarkup object
  | .genericReply => []

/-! ## Reading -/

variable (env : PTreeEnv)

def parseJsonAndGetKeyboardButton (data : PTree) : Except Failure KeyboardButton := do
  let text ← getString "text" data
  let requestContact := getFlag env "request_contact" data
  let requestLocation := getFlag env "request_location" data
  return { text, requestContact, requestLocation }

def parseJsonAndGetInlineKeyboardButton (data : PTree) : Except Failure InlineKeyboardButton := do
  let text ← getString "text" data
  let url := getText "url" data
  let callbackData := getText "callback_data" data
  let switchInlineQuery := getText "switch_inline_query" data
  let switchInlineQueryCurrentChat := getText "switch_inline_query_current_chat" data
  return { text, url, callbackData, switchInlineQuery, switchInlineQueryCurrentChat }

/-- The loop over a keyboard. -/
def parseJsonAndGetRows {α : Type} (parse : PTree → Except Failure α) (data : PTree) :
    Except Failure (List (List α)) :=
  data.children.mapM fun item => parseJsonAndGetArray parse item.2

def parseJsonAndGetReplyKeyboardMarkup (data : PTree) : Except Failure ReplyKeyboardMarkup := do
  let keyboard ←
    parseFound (parseJsonAndGetRows (parseJsonAndGetKeyboardButton env)) data "keyboard"
  let resizeKeyboard := getFlag env "resize_keyboard" data
  let oneTimeKeyboard := getFlag env "one_time_keyboard" data
  let selective := getFlag env "selective" data
  return { keyboard, resizeKeyboard, oneTimeKeyboard, selective }

def parseJsonAndGetInlineKeyboardMarkup (data : PTree) : Except Failure InlineKeyboardMarkup := do
  let inlineKeyboard ←
    parseFound (parseJsonAndGetRows parseJsonAndGetInlineKeyboardButton) data "inline_keyboard"
  return { inlineKeyboard }

def parseJsonAndGetReplyKeyboardRemove (data : PTree) : Except Failure ReplyKeyboardRemove :=
  .ok { selective := getFlag env "selective" data }

def parseJsonAndGetForceReply (data : PTree) : Except Failure ForceReply := do
  let selective ← data.get env.bool "selective".toList
  return { selective }

def parseJsonAndGetGenericReply (data : PTree) : Except Failure GenericReply :=
  if (data.find "force_reply".toList).isSome then
    .forceReply <$> parseJsonAndGetForceReply env data
  else if (data.find "remove_keyboard".toList).isSome then
    .replyKeyboardRemove <$> parseJsonAndGetReplyKeyboardRemove env data
  else if (data.find "keyboard".toList).isSome then
    .replyKeyboardMarkup <$> parseJsonAndGetReplyKeyboardMarkup env data
  else if (data.find "inline_keyboard".toList).isSome then
    .inlineKeyboardMarkup <$> parseJsonAndGetInlineKeyboardMarkup data
  else .ok .genericReply

end TgTypeParser

/-! ## The JSON of a markup -/

namespace PTree

mutual

/-- The tree of a JSON value. -/
def ofJson : Json → PTree
  | .string text => .node text []
  | .literal value => .node (if value then "true" else "false").toList []
  | .array elements => .node [] (ofElements elements)
  | .object members => .node [] (ofMembers members)

def ofElements : List Json → List (Str × PTree)
  | [] => []
  | v :: vs => ([], ofJson v) :: ofElements vs

def ofMembers : List (Str × Json) → List (Str × PTree)
  | [] => []
  | (name, v) :: ms => (name, ofJson v) :: ofMembers ms

end

theorem ofElements_eq (vs : List Json) : ofElements vs = vs.map fun v => ([], ofJson v) := by
  induction vs with
  | nil => rfl
  | cons v vs ih => rw [ofElements, ih, List.map_cons]

theorem ofMembers_eq (ms : List (Str × Json)) :
    ofMembers ms = ms.map fun m => (m.1, ofJson m.2) := by
  induction ms with
  | nil => rfl
  | cons m ms ih =>
      obtain ⟨name, v⟩ := m
      rw [ofMembers, ih, List.map_cons]

end PTree

namespace TgBot

open Json (string literal array object)

def KeyboardButton.members (b : KeyboardButton) : List (Str × Json) :=
  [("text".toList, string b.text), ("request_contact".toList, literal b.requestContact),
    ("request_location".toList, literal b.requestLocation)]

/-- The texts of a button, in the order in which they are written. -/
def InlineKeyboardButton.optional (b : InlineKeyboardButton) : List (String × Str) :=
  [("url", b.url), ("callback_data", b.callbackData), ("switch_inline_query", b.switchInlineQuery),
    ("switch_inline_query_current_chat", b.switchInlineQueryCurrentChat)]

/-- Texts that are not empty. -/
def present (fields : List (String × Str)) : List (Str × Json) :=
  (fields.filter fun field => !field.2.isEmpty).map fun field => (field.1.toList, string field.2)

def InlineKeyboardButton.members (b : InlineKeyboardButton) : List (Str × Json) :=
  ("text".toList, string b.text) :: present b.optional

def ReplyKeyboardMarkup.flags (m : ReplyKeyboardMarkup) : List (Str × Json) :=
  [("resize_keyboard".toList, literal m.resizeKeyboard),
    ("one_time_keyboard".toList, literal m.oneTimeKeyboard),
    ("selective".toList, literal m.selective)]

/-- The rows of a keyboard. -/
def rowsJson {α : Type} (members : α → List (Str × Json)) (rows : List (List α)) : List Json :=
  rows.map fun row => array (row.map fun button => object (members button))

def GenericReply.members : GenericReply → List (Str × Json)
  | .genericReply => []
  | .forceReply m =>
      [("force_reply".toList, literal true), ("selective".toList, literal m.selective)]
  | .replyKeyboardRemove m =>
      [("remove_keyboard".toList, literal true), ("selective".toList, literal m.selective)]
  | .replyKeyboardMarkup m =>
      ("keyboard".toList, array (rowsJson KeyboardButton.members m.keyboard)) :: m.flags
  | .inlineKeyboardMarkup m =>
      [("inline_keyboard".toList, array (rowsJson InlineKeyboardButton.members m.inlineKeyboard))]

/-- Every character of the text stands for itself, and the text does not look like the start
or the end of an object. -/
structure Fits (text : Str) : Prop where
  plain : ∀ c ∈ text, Json.Plain c
  opens : text.head? ≠ some '\x7b'
  closes : text.getLast? ≠ some '\x7d'

theorem fits_iff {text : Str} : Fits text ↔
    (∀ c ∈ text, Json.Plain c) ∧ text.head? ≠ some '\x7b' ∧ text.getLast? ≠ some '\x7d' :=
  ⟨fun fits => ⟨fits.plain, fits.opens, fits.closes⟩, fun fits => ⟨fits.1, fits.2.1, fits.2.2⟩⟩

instance : DecidablePred Fits := fun text =>
  @decidable_of_iff _ _ fits_iff.symm
    (@instDecidableAnd _ _ (List.decidableBAll Json.Plain text) inferInstance)

def KeyboardButton.Proper (b : KeyboardButton) : Prop := b.text ≠ [] ∧ Fits b.text

instance : DecidablePred KeyboardButton.Proper := fun _ => inferInstanceAs (Decidable (_ ∧ _))

def InlineKeyboardButton.Proper (b : InlineKeyboardButton) : Prop :=
  b.text ≠ [] ∧ Fits b.text ∧ ∀ field ∈ b.optional, Fits field.2

instance : DecidablePred InlineKeyboardButton.Proper := fun b =>
  inferInstanceAs (Decidable (_ ∧ _ ∧ ∀ field ∈ b.optional, Fits field.2))

/-- Every row has a button, and all buttons are proper. -/
def ProperRows {α : Type} (proper : α → Prop) (rows : List (List α)) : Prop :=
  ∀ row ∈ rows, row ≠ [] ∧ ∀ button ∈ row, proper button

instance {α : Type} [DecidableEq α] (proper : α → Prop) [DecidablePred proper] :
    DecidablePred (ProperRows proper) := fun rows =>
  inferInstanceAs (Decidable (∀ row ∈ rows, row ≠ [] ∧ ∀ button ∈ row, proper button))

def GenericReply.Proper : GenericReply → Prop
  | .genericReply => False
  | .forceReply _ | .replyKeyboardRemove _ => True
  | .replyKeyboardMarkup m => ProperRows KeyboardButton.Proper m.keyboard
  | .inlineKeyboardMarkup m => ProperRows InlineKeyboardButton.Proper m.inlineKeyboard

instance : DecidablePred GenericReply.Proper
  | .genericReply => inferInstanceAs (Decidable False)
  | .forceReply _ | .replyKeyboardRemove _ => inferInstanceAs (Decidable True)
  | .replyKeyboardMarkup m =>
      inferInstanceAs (Decidable (ProperRows KeyboardButton.Proper m.keyboard))
  | .inlineKeyboardMarkup m =>
      inferInstanceAs (Decidable (ProperRows InlineKeyboardButton.Proper m.inlineKeyboard))

end TgBot

namespace TgTypeParser

open Json (Spells Separator Plain quote render renderElements renderMember)

/-! ## What is written -/

/-- How a value is written: a string in quotes, unless it looks like an object. -/
def writeValue : Json → Str
  | .string text => (if text.head? ≠ some '\x7b' then ['"'] else []) ++ text ++
      (if text.getLast? ≠ some '\x7d' then ['"'] else [])
  | v => render v

def writeMember (m : Str × Json) : Str := '"' :: m.1 ++ ['"', ':'] ++ writeValue m.2

def FitsValue : Json → Prop
  | .string text => Fits text
  | _ => True

theorem spells_text (text : Str) :
    Spells (writeValue (.string text)) (render (.string text)) (Fits text) := by
  rw [render, quote, writeValue]
  refine ⟨fun fits => ?_, fun u v next eq => ?_⟩
  · rw [if_pos fits.opens, if_pos fits.closes, Json.escape_plain fits.plain]
    simp
  · by_cases opens : text.head? = some '\x7b'
    · obtain ⟨rest, rfl⟩ := List.head?_eq_some_iff.mp opens
      rw [if_neg (not_not.mpr opens)] at eq
      cases (List.cons.inj eq).1
    · rw [if_pos opens] at eq
      simp only [List.append_assoc, List.cons_append, List.nil_append, List.cons.injEq, true_and]
        at eq
      by_cases closes : text.getLast? = some '\x7d'
      · -- the quote is missing, and what follows is not a quote
        rw [if_neg (not_not.mpr closes), List.nil_append] at eq
        cases u with
        | nil =>
            have longer := congrArg List.length eq
            have kept : (Json.escape text).length ≥ text.length := Json.length_escape text
            simp only [List.append_nil, List.length_append, List.length_cons] at longer
            omega
        | cons d u =>
            have separator : Separator d := next d rfl
            have other : d ≠ '\\' := by
              rintro rfl
              rcases separator with same | same | same <;> cases same
            rw [Json.escape_eq_self other eq] at eq
            have quote := (List.cons.inj (List.append_cancel_left eq)).1
            subst quote
            rcases separator with same | same | same <;> cases same
      · rw [if_pos closes] at eq
        have same := Json.escape_eq_self (by decide) eq
        exact ⟨Json.plain_of_escape same, opens, closes⟩

theorem spells_value (v : Json) : Spells (writeValue v) (render v) (FitsValue v) := by
  cases v with
  | string text => exact spells_text text
  | literal value => exact Spells.refl _
  | array elements => exact Spells.refl _
  | object members => exact Spells.refl _

theorem quote_plain {name : Str} (plain : ∀ c ∈ name, Plain c) :
    quote name = '"' :: (name ++ ['"']) := by
  rw [quote, Json.escape_plain plain]

theorem spells_member {m : Str × Json} (plain : ∀ c ∈ m.1, Plain c) :
    Spells (writeMember m) (renderMember m) (FitsValue m.2) := by
  have both := (spells_value m.2).behind ('"' :: (m.1 ++ ['"', ':']))
  rw [renderMember, quote_plain plain]
  unfold writeMember
  simp only [List.append_assoc, List.cons_append, List.nil_append] at both ⊢
  exact both

/-- An object whose members have been written one after the other. -/
def writeObject (members : List (Str × Json)) : Str :=
  '\x7b' :: ([','].intercalate (members.map writeMember) ++ ['\x7d'])

theorem spells_object {members : List (Str × Json)} (plain : ∀ m ∈ members, ∀ c ∈ m.1, Plain c) :
    Spells (writeObject members) (render (.object members)) (∀ m ∈ members, FitsValue m.2) := by
  rw [render, Json.renderMembers_eq]
  have inner := Spells.joined (Or.inl rfl : Separator ',') members fun m member =>
    spells_member (plain m member)
  have closed : Spells (_ ++ ['\x7d']) (_ ++ ['\x7d']) _ :=
    inner.before (by simp [Separator])
  exact closed.behind ['\x7b']

/-- Two texts that differ at some place. -/
theorem spells_never {c d : Char} (front : Str) {written text : Str} (differ : c ≠ d) :
    Spells (front ++ c :: written) (front ++ d :: text) False := by
  refine ⟨False.elim, fun u v _ eq => differ ?_⟩
  rw [List.append_assoc, List.append_assoc] at eq
  exact (List.cons.inj (List.append_cancel_left eq)).1

/-! ### Erasing the last comma -/

theorem dropLast_commas (front : Str) {pieces : List Str} (nonempty : pieces ≠ []) :
    (front ++ pieces.flatMap (· ++ [','])).dropLast = front ++ [','].intercalate pieces := by
  induction pieces generalizing front with
  | nil => exact absurd rfl nonempty
  | cons piece pieces ih =>
      cases pieces with
      | nil =>
          rw [List.flatMap_cons, List.flatMap_nil, List.append_nil, ← List.append_assoc,
            List.dropLast_concat, List.intercalate_singleton]
      | cons next pieces =>
          rw [List.flatMap_cons, ← List.append_assoc, ih _ (List.cons_ne_nil _ _),
            List.intercalate_cons_cons]
          simp

theorem close_commas (front : Str) (pieces : List Str) (nonempty : pieces ≠ []) :
    close (front ++ pieces.flatMap (· ++ [','])) =
      front ++ [','].intercalate pieces ++ ['\x7d'] := by
  rw [close, dropLast_commas front nonempty]

theorem appendToJson_nonempty (varName : String) {value : Str} (nonempty : value ≠ [])
    (json : Str) :
    appendToJson varName value json =
      json ++ (writeMember (varName.toList, .string value) ++ [',']) := by
  unfold appendToJson writeMember writeValue
  rw [if_neg (by simpa using nonempty)]
  simp

theorem appendFlagToJson_eq (varName : String) (value : Bool) (json : Str) :
    appendFlagToJson varName value json =
      json ++ (writeMember (varName.toList, .literal value) ++ [',']) := by
  simp [appendFlagToJson, writeMember, writeValue, render]

/-- The texts that are not empty are written. -/
theorem foldl_appendToJson (fields : List (String × Str)) (json : Str) :
    fields.foldl (fun json field => appendToJson field.1 field.2 json) json =
      json ++ ((present fields).map writeMember).flatMap (· ++ [',']) := by
  induction fields generalizing json with
  | nil => exact (List.append_nil json).symm
  | cons field fields ih =>
      rw [List.foldl_cons, ih]
      by_cases empty : field.2 = []
      · have skipped : present (field :: fields) = present fields := by
          simp [present, empty]
        have same : appendToJson field.1 field.2 json = json := by
          simp [appendToJson, empty]
        rw [skipped, same]
      · have kept : present (field :: fields) =
            (field.1.toList, .string field.2) :: present fields := by
          simp [present, empty]
        rw [kept, appendToJson_nonempty field.1 empty]
        simp

/-! ### Buttons -/

theorem parseKeyboardButton_eq {b : KeyboardButton} (named : b.text ≠ []) :
    parseKeyboardButton b = writeObject b.members := by
  unfold parseKeyboardButton
  rw [appendToJson_nonempty "text" named, appendFlagToJson_eq, appendFlagToJson_eq]
  have closed := close_commas ['\x7b'] (b.members.map writeMember) (List.cons_ne_nil _ _)
  simpa [KeyboardButton.members, writeObject] using closed

theorem spells_keyboardButton (b : KeyboardButton) :
    Spells (parseKeyboardButton b) (render (.object b.members)) b.Proper := by
  by_cases named : b.text = []
  · have written : ∃ rest, parseKeyboardButton b = ['\x7b', '"'] ++ 'r' :: rest := by
      unfold parseKeyboardButton
      rw [appendFlagToJson_eq, appendFlagToJson_eq, appendToJson, named]
      exact ⟨_, rfl⟩
    obtain ⟨rest, written⟩ := written
    obtain ⟨text, printed⟩ : ∃ text,
        render (.object b.members) = ['\x7b', '"'] ++ 't' :: text := by
      rw [render]
      exact ⟨_, rfl⟩
    rw [written, printed]
    exact (spells_never _ (by decide)).congr (iff_of_false id fun proper => proper.1 named)
  · rw [parseKeyboardButton_eq named]
    refine (spells_object ?_).congr ?_
    · unfold KeyboardButton.members
      simp only [List.forall_mem_cons]
      exact ⟨Str.forall_of_all rfl, Str.forall_of_all rfl, Str.forall_of_all rfl,
        List.forall_mem_nil _⟩
    · unfold KeyboardButton.members KeyboardButton.Proper
      simp [FitsValue, named]

theorem parseInlineKeyboardButton_eq (b : InlineKeyboardButton) :
    parseInlineKeyboardButton b =
      close (['\x7b'] ++ ((present (("text", b.text) :: b.optional)).map writeMember).flatMap
        (· ++ [','])) := by
  rw [← foldl_appendToJson]
  rfl

theorem optional_names (b : InlineKeyboardButton) :
    ∀ field ∈ b.optional, (∃ c name, field.1.toList = c :: name ∧ c ≠ 't') ∧
      ∀ c ∈ field.1.toList, Plain c := by
  unfold InlineKeyboardButton.optional
  simp only [List.forall_mem_cons]
  exact ⟨⟨⟨'u', _, rfl, by decide⟩, Str.forall_of_all rfl⟩,
    ⟨⟨'c', _, rfl, by decide⟩, Str.forall_of_all rfl⟩,
    ⟨⟨'s', _, rfl, by decide⟩, Str.forall_of_all rfl⟩,
    ⟨⟨'s', _, rfl, by decide⟩, Str.forall_of_all rfl⟩, List.forall_mem_nil _⟩

theorem mem_present {fields : List (String × Str)} {m : Str × Json} (member : m ∈ present fields) :
    ∃ field ∈ fields, field.2 ≠ [] ∧ m = (field.1.toList, .string field.2) := by
  obtain ⟨field, kept, rfl⟩ := List.mem_map.mp member
  obtain ⟨among, some'⟩ := List.mem_filter.mp kept
  exact ⟨field, among, by simpa using some', rfl⟩

theorem fits_nil : Fits [] := ⟨List.forall_mem_nil _, by decide, by decide⟩

theorem forall_present {fields : List (String × Str)} :
    (∀ m ∈ present fields, FitsValue m.2) ↔ ∀ field ∈ fields, Fits field.2 := by
  constructor
  · intro fits field member
    by_cases empty : field.2 = []
    · rw [empty]
      exact fits_nil
    · exact fits _ (List.mem_map_of_mem (List.mem_filter.mpr ⟨member, by simpa using empty⟩))
  · intro fits m member
    obtain ⟨field, among, _, rfl⟩ := mem_present member
    exact fits field among

theorem spells_inlineKeyboardButton (b : InlineKeyboardButton) :
    Spells (parseInlineKeyboardButton b) (render (.object b.members)) b.Proper := by
  rw [parseInlineKeyboardButton_eq]
  by_cases named : b.text = []
  · have skipped : present (("text", b.text) :: b.optional) = present b.optional := by
      simp [present, named]
    obtain ⟨text, printed⟩ : ∃ text,
        render (.object b.members) = ['\x7b', '"'] ++ 't' :: text := by
      rw [render, Json.renderMembers_eq]
      unfold InlineKeyboardButton.members
      cases present b.optional with
      | nil => exact ⟨_, rfl⟩
      | cons m ms =>
          rw [List.map_cons, List.map_cons, List.intercalate_cons_cons]
          exact ⟨_, rfl⟩
    rw [skipped, printed]
    refine Spells.congr ?_ (iff_of_false id fun proper : b.Proper => proper.1 named)
    cases fields : present b.optional with
    | nil => exact spells_never [] (by decide)
    | cons m ms =>
        obtain ⟨field, among, _, rfl⟩ := mem_present (fields ▸ List.mem_cons_self)
        obtain ⟨⟨c, name, begins, other⟩, _⟩ := optional_names b field among
        have written : ∃ rest, close (['\x7b'] ++
            (((field.1.toList, Json.string field.2) :: ms).map writeMember).flatMap (· ++ [','])) =
              ['\x7b', '"'] ++ c :: rest := by
          rw [close_commas _ _ (by simp), List.map_cons]
          unfold writeMember
          rw [begins]
          cases ms with
          | nil => exact ⟨_, rfl⟩
          | cons m ms =>
              rw [List.map_cons, List.intercalate_cons_cons]
              exact ⟨_, rfl⟩
        obtain ⟨rest, written⟩ := written
        rw [written]
        exact spells_never _ other
  · have kept : present (("text", b.text) :: b.optional) = b.members := by
      simp [present, named, InlineKeyboardButton.members]
    rw [kept, close_commas _ _ (by simp [InlineKeyboardButton.members])]
    have object : ['\x7b'] ++ [','].intercalate (b.members.map writeMember) ++ ['\x7d'] =
        writeObject b.members := rfl
    rw [object]
    refine (spells_object fun m member => ?_).congr ?_
    · rcases List.mem_cons.mp member with rfl | member
      · exact Str.forall_of_all rfl
      · obtain ⟨field, among, _, rfl⟩ := mem_present member
        exact (optional_names b field among).2
    · unfold InlineKeyboardButton.members InlineKeyboardButton.Proper
      rw [List.forall_mem_cons, forall_present]
      exact (and_iff_right named).symm

/-! ### Keyboards -/

/-- A row without buttons loses its opening bracket instead of a comma. -/
def writtenRow {α : Type} (parse : α → Str) (row : List α) : Str :=
  if row.isEmpty then [']'] else '[' :: ([','].intercalate (row.map parse) ++ [']'])

variable {α : Type} {parse : α → Str} {members : α → List (Str × Json)} {proper : α → Prop}

theorem foldl_pieces (row : List α) (result : Str) :
    row.foldl (fun result innerItem => result ++ parse innerItem ++ [',']) result =
      result ++ (row.map parse).flatMap (· ++ [',']) := by
  induction row generalizing result with
  | nil => exact (List.append_nil result).symm
  | cons button row ih =>
      rw [List.foldl_cons, ih]
      simp

theorem parseRow_eq (result : Str) (row : List α) :
    parseRow parse result row = result ++ (writtenRow parse row ++ [',']) := by
  unfold parseRow writtenRow
  rw [foldl_pieces]
  cases row with
  | nil => simp
  | cons button row =>
      rw [dropLast_commas _ (by simp), if_neg (by simp)]
      simp

theorem parseRows_eq (rows : List (List α)) (result : Str) :
    parseRows parse rows result =
      result ++ [','].intercalate (rows.map (writtenRow parse)) := by
  have written : rows.foldl (parseRow parse) result =
      result ++ (rows.map (writtenRow parse)).flatMap (· ++ [',']) := by
    induction rows generalizing result with
    | nil => exact (List.append_nil result).symm
    | cons row rows ih =>
        rw [List.foldl_cons, ih, parseRow_eq]
        simp
  unfold parseRows
  cases rows with
  | nil => simp
  | cons row rows =>
      rw [if_neg (by simp), written]
      exact dropLast_commas result (by simp)

theorem spells_row (each : ∀ button, Spells (parse button) (render (.object (members button)))
      (proper button)) (row : List α) :
    Spells (writtenRow parse row)
      (render (.array (row.map fun button => .object (members button))))
      (row ≠ [] ∧ ∀ button ∈ row, proper button) := by
  rw [render, Json.renderElements_eq, List.map_map]
  cases row with
  | nil =>
      have never : Spells ([] ++ ']' :: []) ([] ++ '[' :: [']']) False :=
        spells_never [] (by decide)
      exact never.congr (iff_of_false id fun proper => proper.1 rfl)
  | cons button row =>
      have inner := Spells.joined (Or.inl rfl : Separator ',') (button :: row)
        fun button _ => each button
      have closed : Spells (_ ++ [']']) (_ ++ [']']) _ := inner.before (by simp [Separator])
      refine (closed.behind ['[']).congr ?_
      exact (and_iff_right (List.cons_ne_nil _ _)).symm

theorem spells_rows (each : ∀ button, Spells (parse button) (render (.object (members button)))
      (proper button)) (rows : List (List α)) (front back : Str)
    (next : ∀ c ∈ back.head?, Separator c) :
    Spells (parseRows parse rows front ++ back)
      (front ++ (renderElements (rowsJson members rows) ++ back)) (ProperRows proper rows) := by
  rw [parseRows_eq, List.append_assoc, Json.renderElements_eq]
  unfold rowsJson
  rw [List.map_map]
  have inner := Spells.joined (Or.inl rfl : Separator ',') rows fun row _ => spells_row each row
  exact (inner.before next).behind front

theorem writeMember_literal {name : Str} (plain : ∀ c ∈ name, Plain c) (value : Bool) :
    writeMember (name, .literal value) = renderMember (name, .literal value) :=
  (spells_member plain).spells trivial

/-- The flags that follow a keyboard. -/
theorem close_flags (m : ReplyKeyboardMarkup) (front : Str) :
    close (appendFlagToJson "selective" m.selective
        (appendFlagToJson "one_time_keyboard" m.oneTimeKeyboard
          (appendFlagToJson "resize_keyboard" m.resizeKeyboard front))) =
      front ++ ([','].intercalate (m.flags.map renderMember) ++ ['\x7d']) := by
  have same : m.flags.map writeMember = m.flags.map renderMember := by
    apply List.map_congr_left
    unfold ReplyKeyboardMarkup.flags
    simp only [List.forall_mem_cons]
    exact ⟨writeMember_literal (Str.forall_of_all rfl) _,
      writeMember_literal (Str.forall_of_all rfl) _,
      writeMember_literal (Str.forall_of_all rfl) _, List.forall_mem_nil _⟩
  have closed := close_commas front (m.flags.map writeMember) (List.cons_ne_nil _ _)
  rw [← List.append_assoc, ← same, ← closed]
  simp [appendFlagToJson_eq, ReplyKeyboardMarkup.flags]

theorem spells_replyKeyboardMarkup (m : ReplyKeyboardMarkup) :
    Spells (parseReplyKeyboardMarkup m)
      (render (.object (GenericReply.replyKeyboardMarkup m).members))
      (GenericReply.replyKeyboardMarkup m).Proper := by
  have rows := spells_rows spells_keyboardButton m.keyboard ('\x7b' :: "\"keyboard\":[".toList)
    (']' :: ',' :: ([','].intercalate (m.flags.map renderMember) ++ ['\x7d']))
    (by simp [Separator])
  have written : parseReplyKeyboardMarkup m =
      parseRows parseKeyboardButton m.keyboard ('\x7b' :: "\"keyboard\":[".toList) ++
        ']' :: ',' :: ([','].intercalate (m.flags.map renderMember) ++ ['\x7d']) := by
    unfold parseReplyKeyboardMarkup
    rw [close_flags, List.append_assoc]
    rfl
  have printed : render (.object (GenericReply.replyKeyboardMarkup m).members) =
      ('\x7b' :: "\"keyboard\":[".toList) ++
        (renderElements (rowsJson KeyboardButton.members m.keyboard) ++
          ']' :: ',' :: ([','].intercalate (m.flags.map renderMember) ++ ['\x7d'])) := by
    rw [render, Json.renderMembers_eq, GenericReply.members, List.map_cons]
    have first : renderMember ("keyboard".toList,
        .array (rowsJson KeyboardButton.members m.keyboard)) =
          "\"keyboard\":[".toList ++
            (renderElements (rowsJson KeyboardButton.members m.keyboard) ++ [']']) := by
      rw [renderMember, render]
      rfl
    rw [first]
    unfold ReplyKeyboardMarkup.flags
    rw [List.map_cons, List.intercalate_cons_cons]
    simp only [List.append_assoc, List.cons_append, List.nil_append]
  rw [written, printed]
  exact rows

theorem spells_inlineKeyboardMarkup (m : InlineKeyboardMarkup) :
    Spells (parseInlineKeyboardMarkup m)
      (render (.object (GenericReply.inlineKeyboardMarkup m).members))
      (GenericReply.inlineKeyboardMarkup m).Proper := by
  have rows := spells_rows spells_inlineKeyboardButton m.inlineKeyboard
    ('\x7b' :: "\"inline_keyboard\":[".toList) [']', '\x7d'] (by simp [Separator])
  have printed : render (.object (GenericReply.inlineKeyboardMarkup m).members) =
      ('\x7b' :: "\"inline_keyboard\":[".toList) ++
        (renderElements (rowsJson InlineKeyboardButton.members m.inlineKeyboard) ++
          [']', '\x7d']) := by
    rw [render, Json.renderMembers_eq, GenericReply.members, List.map_singleton,
      List.intercalate_singleton, renderMember, render]
    have quoted : quote "inline_keyboard".toList = "\"inline_keyboard\"".toList := rfl
    rw [quoted]
    simp
  rw [printed]
  exact rows

/-- What is written is the JSON of the markup iff every row has a button, every button a text,
and no text looks like an object or has a character that has to be escaped. -/
theorem parseGenericReply_eq_iff (m : GenericReply) :
    parseGenericReply m = render (.object m.members) ↔ m.Proper := by
  cases m with
  | genericReply =>
      rw [render, parseGenericReply]
      exact iff_of_false (List.cons_ne_nil _ _).symm id
  | forceReply m =>
      refine iff_of_true ?_ trivial
      obtain ⟨selective⟩ := m
      rw [render, Json.renderMembers_eq]
      simp only [GenericReply.members, List.map_cons, List.map_nil, renderMember, render]
      cases selective
      · rfl
      · rfl
  | replyKeyboardRemove m =>
      refine iff_of_true ?_ trivial
      obtain ⟨selective⟩ := m
      rw [render, Json.renderMembers_eq]
      simp only [GenericReply.members, List.map_cons, List.map_nil, renderMember, render]
      cases selective
      · rfl
      · rfl
  | replyKeyboardMarkup m => exact (spells_replyKeyboardMarkup m).iff
  | inlineKeyboardMarkup m => exact (spells_inlineKeyboardMarkup m).iff

/-! ## What is read -/

/-- The tree of a text that `read_json` makes of it. -/
structure ReadsJson (env : PTreeEnv) : Prop where
  text : ∀ v, env.readJson (render v) = some (PTree.ofJson v)
  literal : ∀ value : Bool, env.bool (if value then "true" else "false").toList = some value

theorem find_object (key : Str) (members : List (Str × Json)) :
    (PTree.ofJson (.object members)).find key =
      (members.find? fun m => m.1 = key).map fun m => PTree.ofJson m.2 := by
  rw [PTree.ofJson, PTree.find]
  unfold PTree.children
  rw [PTree.ofMembers_eq, List.find?_map, Option.map_map]
  rfl

theorem getFlag_literal {env : PTreeEnv} (reads : ReadsJson env) {key : String} {data : PTree}
    {value : Bool} (found : data.find key.toList = some (.ofJson (.literal value))) :
    getFlag env key data = value := by
  rw [getFlag, PTree.getD, found, PTree.ofJson]
  simp only [PTree.data]
  rw [reads.literal]
  rfl

theorem parseJsonAndGetKeyboardButton_ofJson {env : PTreeEnv} (reads : ReadsJson env)
    (b : KeyboardButton) :
    parseJsonAndGetKeyboardButton env (.ofJson (.object b.members)) = .ok b := by
  have text : getString "text" (.ofJson (.object b.members)) = .ok b.text := by
    rw [getString, PTree.get, find_object]
    have first : (b.members.find? fun m => m.1 = "text".toList) =
        some ("text".toList, .string b.text) := rfl
    rw [first, Option.map_some, PTree.ofJson]
    rfl
  have contact : getFlag env "request_contact" (.ofJson (.object b.members)) =
      b.requestContact := by
    apply getFlag_literal reads
    rw [find_object]
    rfl
  have location : getFlag env "request_location" (.ofJson (.object b.members)) =
      b.requestLocation := by
    apply getFlag_literal reads
    rw [find_object]
    rfl
  unfold parseJsonAndGetKeyboardButton
  rw [text, contact, location]
  rfl

/-- A text that is not there is an empty one. -/
theorem find_present {fields : List (String × Str)} {key : String} {value : Str}
    (distinct : (fields.map Prod.fst).Nodup) (member : (key, value) ∈ fields) :
    (present fields).find? (fun m => m.1 = key.toList) =
      if value.isEmpty then none else some (key.toList, .string value) := by
  induction fields with
  | nil => cases member
  | cons field fields ih =>
      rw [List.map_cons, List.nodup_cons] at distinct
      obtain ⟨fresh, distinct⟩ := distinct
      have step : present (field :: fields) =
          if field.2.isEmpty then present fields
          else (field.1.toList, .string field.2) :: present fields := by
        by_cases empty : field.2 = []
        · simp [present, empty]
        · simp [present, empty]
      rw [step]
      rcases List.mem_cons.mp member with rfl | member
      · by_cases empty : value = []
        · rw [if_pos (by simpa using empty), if_pos (by simpa using empty), List.find?_eq_none]
          intro m among
          obtain ⟨field, known, _, rfl⟩ := mem_present among
          have named : field.1 ∈ fields.map Prod.fst := List.mem_map_of_mem known
          have other : field.1 ≠ key := by
            rintro rfl
            exact fresh named
          simpa [String.toList_inj] using other
        · rw [if_neg (by simpa using empty), if_neg (by simpa using empty)]
          exact List.find?_cons_of_pos (by simp)
      · have named : key ∈ fields.map Prod.fst := List.mem_map_of_mem member
        have other : field.1 ≠ key := by
          rintro rfl
          exact fresh named
        rw [← ih distinct member]
        split
        · rfl
        · exact List.find?_cons_of_neg (by simpa [String.toList_inj] using other)

theorem getText_present {m : Str × Json} {fields : List (String × Str)} {key : String} {value : Str}
    (other : m.1 ≠ key.toList) (distinct : (fields.map Prod.fst).Nodup)
    (member : (key, value) ∈ fields) :
    getText key (.ofJson (.object (m :: present fields))) = value := by
  have skipped : (m :: present fields).find? (fun m => m.1 = key.toList) =
      (present fields).find? fun m => m.1 = key.toList :=
    List.find?_cons_of_neg (by simpa using other)
  rw [getText, PTree.getD, find_object, skipped, find_present distinct member]
  by_cases empty : value = []
  · rw [empty]
    rfl
  · rw [if_neg (by simpa using empty), Option.map_some, PTree.ofJson]
    rfl

theorem parseJsonAndGetInlineKeyboardButton_ofJson (b : InlineKeyboardButton) :
    parseJsonAndGetInlineKeyboardButton (.ofJson (.object b.members)) = .ok b := by
  have text : getString "text" (.ofJson (.object b.members)) = .ok b.text := by
    rw [getString, PTree.get, find_object]
    have first : (b.members.find? fun m => m.1 = "text".toList) =
        some ("text".toList, .string b.text) := rfl
    rw [first, Option.map_some, PTree.ofJson]
    rfl
  have distinct : (b.optional.map Prod.fst).Nodup := by
    simp [InlineKeyboardButton.optional]
  have optional : ∀ field ∈ b.optional,
      getText field.1 (.ofJson (.object b.members)) = field.2 := by
    intro field member
    obtain ⟨⟨c, name, begins, other⟩, _⟩ := optional_names b field member
    apply getText_present _ distinct member
    rw [begins]
    intro same
    exact other (List.cons.inj same).1.symm
  unfold InlineKeyboardButton.optional at optional
  simp only [List.forall_mem_cons] at optional
  obtain ⟨url, callbackData, switchInlineQuery, switchInlineQueryCurrentChat, _⟩ := optional
  unfold parseJsonAndGetInlineKeyboardButton
  rw [text, url, callbackData, switchInlineQuery, switchInlineQueryCurrentChat]
  rfl

theorem mapM_inverse {β : Type} {f : β → Except Failure α} {g : α → β} (xs : List α)
    (inverse : ∀ x, f (g x) = .ok x) : (xs.map g).mapM f = .ok xs := by
  induction xs with
  | nil => rfl
  | cons x xs ih =>
      rw [List.map_cons, List.mapM_cons, inverse, ih]
      rfl

theorem parseJsonAndGetArray_ofJson {parse : PTree → Except Failure α}
    {inner : α → Json} (inverse : ∀ x, parse (.ofJson (inner x)) = .ok x) (xs : List α) :
    parseJsonAndGetArray parse (.ofJson (.array (xs.map inner))) = .ok xs := by
  rw [PTree.ofJson, parseJsonAndGetArray]
  unfold PTree.children
  rw [PTree.ofElements_eq, List.map_map]
  exact mapM_inverse xs inverse

theorem parseJsonAndGetRows_ofJson {parse : PTree → Except Failure α}
    (inverse : ∀ button, parse (.ofJson (.object (members button))) = .ok button)
    (rows : List (List α)) :
    parseJsonAndGetRows parse (.ofJson (.array (rowsJson members rows))) = .ok rows :=
  parseJsonAndGetArray_ofJson (fun row => parseJsonAndGetArray_ofJson inverse row) rows

theorem parseJsonAndGetGenericReply_ofJson {env : PTreeEnv} (reads : ReadsJson env)
    (m : GenericReply) :
    parseJsonAndGetGenericReply env (.ofJson (.object m.members)) = .ok m := by
  unfold parseJsonAndGetGenericReply
  simp only [find_object, Option.isSome_map]
  cases m with
  | genericReply => rfl
  | forceReply m =>
      rw [if_pos (by rfl)]
      have selective : (PTree.ofJson (.object (GenericReply.forceReply m).members)).get env.bool
          "selective".toList = .ok m.selective := by
        rw [PTree.get, find_object]
        have found : ((GenericReply.forceReply m).members.find? fun m =>
            m.1 = "selective".toList) = some ("selective".toList, .literal m.selective) := rfl
        rw [found, Option.map_some, PTree.ofJson]
        simp only [PTree.data]
        rw [reads.literal]
      rw [parseJsonAndGetForceReply, selective]
      rfl
  | replyKeyboardRemove m =>
      rw [if_neg (by exact Bool.false_ne_true), if_pos (by rfl), parseJsonAndGetReplyKeyboardRemove]
      have selective : getFlag env "selective"
          (.ofJson (.object (GenericReply.replyKeyboardRemove m).members)) = m.selective := by
        apply getFlag_literal reads
        rw [find_object]
        rfl
      rw [selective]
      rfl
  | replyKeyboardMarkup m =>
      have flag : ∀ key value, ((GenericReply.replyKeyboardMarkup m).members.find? fun m =>
          m.1 = key.toList) = some (key.toList, .literal value) →
          getFlag env key (.ofJson (.object (GenericReply.replyKeyboardMarkup m).members)) =
            value := by
        intro key value found
        apply getFlag_literal reads
        rw [find_object, found]
        rfl
      have keyboard : parseFound (parseJsonAndGetRows (parseJsonAndGetKeyboardButton env))
          (.ofJson (.object (GenericReply.replyKeyboardMarkup m).members)) "keyboard" =
            .ok m.keyboard := by
        rw [parseFound, find_object]
        exact parseJsonAndGetRows_ofJson (parseJsonAndGetKeyboardButton_ofJson reads) m.keyboard
      rw [if_neg (by exact Bool.false_ne_true), if_neg (by exact Bool.false_ne_true),
        if_pos (by rfl), parseJsonAndGetReplyKeyboardMarkup, keyboard,
        flag "resize_keyboard" m.resizeKeyboard rfl,
        flag "one_time_keyboard" m.oneTimeKeyboard rfl, flag "selective" m.selective rfl]
      rfl
  | inlineKeyboardMarkup m =>
      have inlineKeyboard : parseFound (parseJsonAndGetRows parseJsonAndGetInlineKeyboardButton)
          (.ofJson (.object (GenericReply.inlineKeyboardMarkup m).members)) "inline_keyboard" =
            .ok m.inlineKeyboard := by
        rw [parseFound, find_object]
        exact parseJsonAndGetRows_ofJson parseJsonAndGetInlineKeyboardButton_ofJson
          m.inlineKeyboard
      rw [if_neg (by exact Bool.false_ne_true), if_neg (by exact Bool.false_ne_true),
        if_neg (by exact Bool.false_ne_true), if_pos (by rfl),
        parseJsonAndGetInlineKeyboardMarkup, inlineKeyboard]
      rfl

/-- What is written of a proper markup is read back as the markup. -/
theorem parseGenericReply_read {env : PTreeEnv} (reads : ReadsJson env) {m : GenericReply}
    (proper : m.Proper) :
    ∃ json, env.readJson (parseGenericReply m) = some json ∧
      parseJsonAndGetGenericReply env json = .ok m := by
  refine ⟨_, ?_, parseJsonAndGetGenericReply_ofJson reads m⟩
  rw [(parseGenericReply_eq_iff m).mpr proper]
  exact reads.text _

/-- The trees of the texts of `Json.render`. -/
def jsonTrees : PTreeEnv where
  readJson text := (Json.read text).map PTree.ofJson
  int32 _ := none
  int64 _ := none
  bool text :=
    if text = "true".toList then some true
    else if text = "false".toList then some false
    else none
  float _ := none

theorem reads_jsonTrees : ReadsJson jsonTrees where
  text v := congrArg (Option.map PTree.ofJson) (Json.read_render v)
  literal value := by
    cases value
    · rfl
    · rfl

/-- A keyboard of two rows. -/
def sampleKeyboard : GenericReply :=
  .inlineKeyboardMarkup {
    inlineKeyboard := [
      [{ text := ['M', 'a', 'p'], url := ['t', 'g', ':', '/', '/', 'm'] },
        { text := ['O', 'f', 'f'], callbackData := ['/', '0'] }],
      [{ text := ['?'], switchInlineQuery := ['h', 'i'] }]] }

theorem sampleKeyboard_proper : sampleKeyboard.Proper := by
  have fits : ∀ text ∈ [['M', 'a', 'p'], ['t', 'g', ':', '/', '/', 'm'], ['O', 'f', 'f'],
      ['/', '0'], ['?'], ['h', 'i'], []], Fits text := by
    simp [fits_iff, Json.Plain]
  simp only [List.forall_mem_cons] at fits
  obtain ⟨map, url, off, data, help, query, empty, -⟩ := fits
  simp [sampleKeyboard, GenericReply.Proper, ProperRows, InlineKeyboardButton.Proper,
    InlineKeyboardButton.optional, map, url, off, data, help, query, empty]

theorem parseGenericReply_read_sample :
    ReadsJson jsonTrees ∧ sampleKeyboard.Proper ∧
      ∃ json, jsonTrees.readJson (parseGenericReply sampleKeyboard) = some json ∧
        parseJsonAndGetGenericReply jsonTrees json = .ok sampleKeyboard :=
  ⟨reads_jsonTrees, sampleKeyboard_proper,
    parseGenericReply_read reads_jsonTrees sampleKeyboard_proper⟩

end TgTypeParser

end GpsInformer
