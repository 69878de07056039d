import GpsInformer.AccessLevels

/-!
# Quoting and the command tokenizer

A command line can be written as its name and its arguments after it, each in double quotes
or, where nothing in it would end it, bare (`CommandLine.text`).  Of lines written so, one
after the other, `handleMessage` runs exactly these lines (`handleMessage_written`).
-/

namespace GpsInformer

open Lib

open TgBot (Message)

namespace Application

/-- A text that can stand without quotes. -/
structure Plain (text : Str) : Prop where
  nonempty : text ≠ []
  noSpace : ' ' ∉ text
  noQuote : '"' ∉ text
  noCR : '\r' ∉ text
  noLF : '\n' ∉ text

/-- An argument and the form it is written in. -/
inductive Written where
  | quoted (value : Str) (noQuote : '"' ∉ value)
  | bare (value : Str) (plain : Plain value)

def Written.value : Written → Str
  | .quoted value _ => value
  | .bare value _ => value

def Written.text : Written → Str
  | .quoted value _ => '"' :: value ++ ['"']
  | .bare value _ => value

/-- A command line that can be written. -/
structure CommandLine where
  name : Str
  plain : Plain name
  arguments : List Written

/-- The arguments `handleChatCommand` should get. -/
def CommandLine.values (line : CommandLine) : List Str :=
  line.name :: line.arguments.map Written.value

def CommandLine.text (line : CommandLine) : Str :=
  line.name ++ line.arguments.flatMap fun argument => ' ' :: argument.text

inductive LineEnd where
  | cr
  | lf
  | crLf
  deriving DecidableEq, Repr

def LineEnd.text : LineEnd → Str
  | .cr => ['\r']
  | .lf => ['\n']
  | .crLf => ['\r', '\n']

/-- Lines, each after the first behind a line end. -/
def written (first : CommandLine) : List (LineEnd × CommandLine) → Str
  | [] => first.text
  | (lineEnd, next) :: rest => first.text ++ lineEnd.text ++ written next rest

/-- Between two arguments: the arguments so far, the last of which may still be in
`argument`. -/
structure Tokens.Between (t : Tokens) (values : List Str) : Prop where
  unquoted : t.quoted = false
  values : t.push.command = values

variable {t : Tokens} {values : List Str} {text body : Str}

/-! ## Pieces of a text -/

/-- What is no separator goes to the argument. -/
theorem lines_plain (unquoted : t.quoted = false) (plain : ∀ c ∈ text, c ≠ ' ' ∧ c ≠ '"' ∧
    c ≠ '\r' ∧ c ≠ '\n') (body : Str) :
    t.lines (text ++ body) = Tokens.lines { t with argument := t.argument ++ text } body := by
  induction text generalizing t with
  | nil => simp
  | cons c text ih =>
      obtain ⟨⟨space, quote, cr, lf⟩, plain⟩ := List.forall_mem_cons.mp plain
      have next : t.next c = ({ t with argument := t.argument ++ [c] }, none) := by
        unfold Tokens.next
        simp [unquoted, space, quote, cr, lf]
      rw [List.cons_append, Tokens.lines, next]
      have rest := ih (t := { t with argument := t.argument ++ [c] }) unquoted plain
      simpa using rest

/-- Within quotes everything but the quote goes to the argument. -/
theorem lines_quoted (quoted : t.quoted = true) (noQuote : '"' ∉ text) (body : Str) :
    t.lines (text ++ body) = Tokens.lines { t with argument := t.argument ++ text } body := by
  induction text generalizing t with
  | nil => simp
  | cons c text ih =>
      rw [List.mem_cons, not_or] at noQuote
      have next : t.next c = ({ t with argument := t.argument ++ [c] }, none) := by
        unfold Tokens.next
        simp [quoted, Ne.symm noQuote.1]
      rw [List.cons_append, Tokens.lines, next]
      have rest := ih (t := { t with argument := t.argument ++ [c] }) quoted noQuote.2
      simpa using rest

theorem Plain.forall (plain : Plain text) :
    ∀ c ∈ text, c ≠ ' ' ∧ c ≠ '"' ∧ c ≠ '\r' ∧ c ≠ '\n' := by
  intro c member
  refine ⟨?_, ?_, ?_, ?_⟩
  · rintro rfl
    exact plain.noSpace member
  · rintro rfl
    exact plain.noQuote member
  · rintro rfl
    exact plain.noCR member
  · rintro rfl
    exact plain.noLF member

theorem argument_push (t : Tokens) : t.push.argument = [] := by
  unfold Tokens.push
  split
  · rename_i empty
    exact List.isEmpty_iff.mp empty
  · rfl

theorem quoted_push (t : Tokens) : t.push.quoted = t.quoted := by
  unfold Tokens.push
  split <;> rfl

/-- A space or a quote ends the argument. -/
theorem next_separator (between : t.Between values) {c : Char} (separator : c = ' ' ∨ c = '"') :
    t.next c = (⟨[], values, c = '"'⟩, none) := by
  have pushed : { t.push with quoted := decide (c = '"') } = ⟨[], values, c = '"'⟩ := by
    rw [Tokens.mk.injEq]
    exact ⟨argument_push t, between.values, rfl⟩
  have noEnd : ¬ (c = '\r' ∨ c = '\n') := by
    rcases separator with rfl | rfl <;> decide
  unfold Tokens.next
  rw [between.unquoted, Bool.not_false, if_pos rfl, if_neg noEnd, if_pos separator]
  exact congrArg (·, none) pushed

/-- A space and an argument. -/
theorem Tokens.Between.argument (between : t.Between values) (argument : Written) :
    ∃ t' : Tokens, t'.Between (values ++ [argument.value]) ∧
      ∀ body, t.lines (' ' :: argument.text ++ body) = t'.lines body := by
  have space := next_separator between (Or.inl rfl)
  cases argument with
  | bare value plain =>
      refine ⟨⟨value, values, false⟩, ⟨rfl, ?_⟩, fun body => ?_⟩
      · unfold Tokens.push
        rw [if_neg (by simpa using plain.nonempty)]
        rfl
      · rw [List.cons_append, Tokens.lines, space]
        exact lines_plain rfl plain.forall body
  | quoted value noQuote =>
      refine ⟨⟨[], values ++ [value], false⟩, ⟨rfl, rfl⟩, fun body => ?_⟩
      have opened : Tokens.next ⟨[], values, false⟩ '"' = (⟨[], values, true⟩, none) :=
        next_separator ⟨rfl, rfl⟩ (Or.inr rfl)
      have closed : Tokens.next ⟨value, values, true⟩ '"' =
          (⟨[], values ++ [value], false⟩, none) := rfl
      have inner : Tokens.lines ⟨[], values, true⟩ (value ++ '"' :: body) =
          Tokens.lines ⟨value, values, true⟩ ('"' :: body) :=
        lines_quoted rfl noQuote ('"' :: body)
      have split : ' ' :: Written.text (.quoted value noQuote) ++ body =
          ' ' :: '"' :: (value ++ '"' :: body) := by
        simp [Written.text]
      rw [split, Tokens.lines, space, Tokens.lines]
      change ([] : List (List Str)) ++ ((Tokens.next ⟨[], values, false⟩ '"').2.toList ++
        (Tokens.next ⟨[], values, false⟩ '"').1.lines _) = _
      rw [opened]
      change Tokens.lines ⟨[], values, true⟩ _ = _
      rw [inner, Tokens.lines, closed]
      rfl

theorem Tokens.Between.arguments (between : t.Between values) (arguments : List Written) :
    ∃ t' : Tokens, t'.Between (values ++ arguments.map Written.value) ∧
      ∀ body, t.lines (arguments.flatMap (fun argument => ' ' :: argument.text) ++ body) =
        t'.lines body := by
  induction arguments generalizing t values with
  | nil =>
      rw [List.map_nil, List.append_nil]
      exact ⟨t, between, fun _ => rfl⟩
  | cons argument arguments ih =>
      rcases between.argument argument with ⟨t₁, between₁, first⟩
      rcases ih between₁ with ⟨t₂, between₂, others⟩
      refine ⟨t₂, ?_, fun body => ?_⟩
      · rw [List.map_cons, List.append_cons]
        exact between₂
      · rw [List.flatMap_cons, List.append_assoc, first, others]

/-- A whole line. -/
theorem lines_text (line : CommandLine) :
    ∃ t : Tokens, t.Between line.values ∧
      ∀ body, Tokens.lines {} (line.text ++ body) = t.lines body := by
  have named : Tokens.Between ⟨line.name, [], false⟩ [line.name] := by
    refine ⟨rfl, ?_⟩
    unfold Tokens.push
    rw [if_neg (by simpa using line.plain.nonempty)]
    rfl
  rcases named.arguments line.arguments with ⟨t, between, others⟩
  refine ⟨t, between, fun body => ?_⟩
  unfold CommandLine.text
  rw [List.append_assoc, lines_plain rfl line.plain.forall]
  exact others body

/-- The end of the text. -/
theorem Tokens.Between.lines_nil (between : t.Between values) : t.lines [] = [values] := by
  rw [← between.values, Tokens.lines, between.unquoted]
  unfold Tokens.push
  cases t.argument with
  | nil => rfl
  | cons => rfl

/-- A CR or an LF. -/
theorem Tokens.Between.lines_end (between : t.Between values) {c : Char}
    (lineEnd : c = '\r' ∨ c = '\n') (body : Str) :
    t.lines (c :: body) = values :: Tokens.lines {} body := by
  have cleared : { t.push with command := [] } = ({} : Tokens) := by
    rw [Tokens.mk.injEq]
    exact ⟨argument_push t, rfl, (quoted_push t).trans between.unquoted⟩
  have next : t.next c = ({}, some values) := by
    unfold Tokens.next
    rw [between.unquoted, Bool.not_false, if_pos rfl, if_pos lineEnd, between.values]
    exact congrArg (·, some values) cleared
  rw [Tokens.lines, next]
  rfl

theorem Tokens.Between.lines_lineEnd (between : t.Between values) (nonempty : values ≠ [])
    (lineEnd : LineEnd) (body : Str) :
    (t.lines (lineEnd.text ++ body)).filter (· ≠ []) =
      values :: (Tokens.lines {} body).filter (· ≠ []) := by
  have kept : ∀ lines : List (List Str), (values :: lines).filter (· ≠ []) =
      values :: lines.filter (· ≠ []) :=
    fun lines => List.filter_cons_of_pos (by simpa using nonempty)
  cases lineEnd with
  | cr => exact (congrArg _ (between.lines_end (Or.inl rfl) body)).trans (kept _)
  | lf => exact (congrArg _ (between.lines_end (Or.inr rfl) body)).trans (kept _)
  | crLf =>
      -- the LF ends an empty line
      have start : Tokens.Between {} [] := ⟨rfl, rfl⟩
      have empty := start.lines_end (Or.inr rfl) body
      have whole := between.lines_end (Or.inl rfl) ('\n' :: body)
      rw [empty] at whole
      exact (congrArg _ whole).trans (kept _)

/-! ## Whole messages -/

theorem lines_written (first : CommandLine) (rest : List (LineEnd × CommandLine)) :
    (Tokens.lines {} (written first rest)).filter (· ≠ []) =
      first.values :: rest.map fun line => line.2.values := by
  induction rest generalizing first with
  | nil =>
      rcases lines_text first with ⟨t, between, all⟩
      have text := all []
      rw [List.append_nil, between.lines_nil] at text
      rw [written, text]
      rfl
  | cons line rest ih =>
      rcases line with ⟨lineEnd, next⟩
      rcases lines_text first with ⟨t, between, all⟩
      rw [written, List.append_assoc, all, between.lines_lineEnd (List.cons_ne_nil _ _), ih]
      rfl

/-- Empty command lines do nothing. -/
theorem forM_filter (env : AppEnv) (message : Message) (lines : List (List Str)) :
    (lines.forM fun line => handleChatCommand env line message) =
      (lines.filter (· ≠ [])).forM fun line => handleChatCommand env line message := by
  induction lines with
  | nil => rfl
  | cons line lines ih =>
      cases line with
      | nil => exact ih
      | cons name arguments =>
          have kept : ((name :: arguments) :: lines).filter (· ≠ []) =
              (name :: arguments) :: lines.filter (· ≠ []) := rfl
          rw [kept]
          exact congrArg (handleChatCommand env (name :: arguments) message >>= ·)
            (funext fun _ => ih)

/-- Handling a message of written command lines is handling these command lines: the
command lines that are cut out of it are they and some empty ones. -/
theorem handleMessage_written (env : AppEnv) {first : CommandLine}
    (slash : first.name.head? = some '/') (rest : List (LineEnd × CommandLine))
    {message : Message} (text : message.text = written first rest) :
    (commandLines message.text).filter (· ≠ []) =
        (first :: rest.map Prod.snd).map CommandLine.values ∧
      handleMessage env message =
        ((first :: rest.map Prod.snd).map CommandLine.values).forM fun line =>
          handleChatCommand env line message := by
  have command : (written first rest).head? = some '/' := by
    have prefixed : ∃ more, written first rest = first.name ++ more := by
      cases rest with
      | nil => exact ⟨_, rfl⟩
      | cons line rest =>
          rw [written, CommandLine.text, List.append_assoc, List.append_assoc]
          exact ⟨_, rfl⟩
    rcases prefixed with ⟨more, same⟩
    rw [same, List.head?_append_of_ne_nil _ first.plain.nonempty, slash]
  have lines : (commandLines message.text).filter (· ≠ []) =
      (first :: rest.map Prod.snd).map CommandLine.values := by
    unfold commandLines
    rw [text, if_neg fun other => other command, lines_written, List.map_cons, List.map_map]
    rfl
  refine ⟨lines, ?_⟩
  rw [handleMessage_eq, forM_filter, lines]

def passwordLine : CommandLine where
  name := "/password".toList
  plain := ⟨by decide, by decide, by decide, by decide, by decide⟩
  arguments := [.quoted "k 1".toList (by decide)]

def armLine : CommandLine where
  name := "/arm".toList
  plain := ⟨by decide, by decide, by decide, by decide, by decide⟩
  arguments := [.bare "insane".toList ⟨by decide, by decide, by decide, by decide, by decide⟩]

def passwordMessage : Message :=
  textMessage ⟨5, "Ann".toList, [], []⟩ "/password \"k 1\"\r\n/arm insane"

theorem handleMessage_password :
    (commandLines passwordMessage.text).filter (· ≠ []) =
        (passwordLine :: [(LineEnd.crLf, armLine)].map Prod.snd).map CommandLine.values ∧
      handleMessage sampleCodes passwordMessage =
        ((passwordLine :: [(LineEnd.crLf, armLine)].map Prod.snd).map CommandLine.values).forM
          fun line => handleChatCommand sampleCodes line passwordMessage := by
  have text : passwordMessage.text = written passwordLine [(LineEnd.crLf, armLine)] := by decide
  exact handleMessage_written sampleCodes (by decide) [(LineEnd.crLf, armLine)] text

end Application

end GpsInformer
