import GpsInformer.Lib.Arrival
import GpsInformer.Transmitter

/-!
# The upstream command stream under segmentation

An upstream server answers `LOAD` and then interleaves heartbeat answers and
commands (`Message`).  What the transmitter makes of them depends on which bytes
share a TCP segment: a `LOAD` is refused if a `;` comes with it, and of several
heartbeat answers that come together with the command after them only one is
taken off the command.  `relayed_iff_separated` shows that nothing else matters:
the commands are relayed iff the chunks keep these messages apart.
-/

namespace GpsInformer.Transmitter

open Lib

/-! ## The stream -/

/-- A downlink command, without the `;` that ends it. -/
structure Command where
  text : Str
  stars : ['*', '*'] <+: text
  plain : ∀ c ∈ text, c ≠ ';' ∧ c ≠ '\r' ∧ c ≠ '\n'
  bounded : text.length ≤ 32768

/-- What the server sends after `LOAD`. -/
inductive Message where
  | answer
  | command (order : Command) (newline : Bool)

/-- The bytes of a message. -/
def Message.encode : Message → Str
  | .answer => on
  | .command order newline => order.text ++ ';' :: (if newline then ['\r', '\n'] else [])

/-- The bytes the server sends. -/
def stream (messages : List Message) : Str := load ++ messages.flatMap Message.encode

/-- The commands among the messages. -/
def commands (messages : List Message) : List Str :=
  messages.filterMap fun
    | .answer => none
    | .command order _ => some order.text

/-- What the transmitter has passed to the tracker. -/
def forwarded (trace : List Action) : List Str :=
  trace.filterMap fun
    | .processClientData data => some data
    | _ => none

/-! ## Tokens: the stream without its line ends -/

inductive Token where
  | load
  | message (message : Message)

def Token.text : Token → Str
  | .load => Transmitter.load
  | .message .answer => on
  | .message (.command order _) => order.text ++ [';']

def tokens (messages : List Message) : List Token := .load :: messages.map .message

theorem strip_encode (message : Message) :
    message.encode.strip = (Token.message message).text := by
  cases message with
  | answer => decide
  | command order newline =>
      have plain : order.text.strip = order.text :=
        Str.strip_eq_self (fun present => (order.plain _ present).2.1 rfl)
          fun present => (order.plain _ present).2.2 rfl
      rw [Message.encode, Str.strip_append, plain]
      cases newline <;> rfl

theorem strip_stream (messages : List Message) :
    (stream messages).strip = (tokens messages).flatMap Token.text := by
  rw [stream, Str.strip_append, tokens, List.flatMap_cons]
  congr 1
  induction messages with
  | nil => rfl
  | cons message rest ih =>
      rw [List.flatMap_cons, Str.strip_append, ih, strip_encode]
      rfl

/-! ## An authorized transmitter -/

/-- So many heartbeat answers in a row. -/
def answers (k : Nat) : Str := (List.replicate k on).flatten

theorem answers_succ (k : Nat) : answers (k + 1) = on ++ answers k := rfl

theorem answers_succ' (k : Nat) : answers (k + 1) = answers k ++ on := by
  rw [answers, List.replicate_succ', List.flatten_append]
  simp [answers]

theorem length_answers (k : Nat) : (answers k).length = 2 * k := by
  induction k with
  | zero => rfl
  | succ k ih =>
      rw [answers_succ, List.length_append, ih, on]
      simp
      omega

theorem not_mem_answers (k : Nat) : ';' ∉ answers k := by
  induction k with
  | zero => exact List.not_mem_nil
  | succ k ih =>
      rw [answers_succ, List.mem_append]
      rintro (present | present)
      · simp [on] at present
      · exact ih present

theorem Command.not_mem (order : Command) : ';' ∉ order.text :=
  fun present => (order.plain _ present).1 rfl

theorem Command.not_startsWith_on (order : Command) : ¬ on <+: order.text := by
  intro isPrefix
  obtain ⟨_, rest⟩ := order.stars
  rw [← rest] at isPrefix
  cases (List.cons_prefix_cons.mp isPrefix).1

/-- What the messages a chunk completes make the transmitter do, after `k` heartbeat
answers of the same chunk. -/
def actions : Nat → List Message → List Action
  | k, [] => List.replicate k .asyncWait
  | k, .answer :: rest => actions (k + 1) rest
  | k, .command order _ :: rest => perform true (answers k ++ order.text) ++ actions 0 rest

/-- The text of the messages, line ends aside. -/
def text (messages : List Message) : Str :=
  (messages.map Token.message).flatMap Token.text

/-- The start of a token that has not arrived completely. -/
structure Unfinished (tail : Str) : Prop where
  noSeparator : ';' ∉ tail
  noAnswer : ¬ on <+: tail

variable {tail : Str}

theorem exec_answers {tracker : Bool} (unfinished : Unfinished tail) (k : Nat)
    (trace : List Action) :
    (receiveLoop tracker).exec { authorized := true, buffer := answers k ++ tail, trace } =
      .left { authorized := true, buffer := tail,
              trace := trace ++ List.replicate k .asyncWait } := by
  induction k generalizing trace with
  | zero =>
      rw [List.replicate_zero, List.append_nil]
      apply Loop.exec_leave
      exact receive_unfinished tracker unfinished.noSeparator (fun impossible => nomatch impossible)
        fun _ => unfinished.noAnswer
  | succ k ih =>
      have noSeparator : ';' ∉ answers (k + 1) ++ tail := by
        rw [List.mem_append, not_or]
        exact ⟨not_mem_answers _, unfinished.noSeparator⟩
      have next := receive_answered tracker
        (t := { authorized := true, buffer := answers (k + 1) ++ tail, trace }) rfl noSeparator
        (List.append_assoc on (answers k) tail)
      rw [Loop.exec_again _ next, ih, List.append_assoc]
      rfl

/-- The loop of an authorized transmitter on the messages a chunk completes. -/
theorem exec_messages (unfinished : Unfinished tail) (messages : List Message) (k : Nat)
    (trace : List Action) :
    (receiveLoop true).exec
        { authorized := true, buffer := answers k ++ (text messages ++ tail), trace } =
      .left { authorized := true, buffer := tail, trace := trace ++ actions k messages } := by
  induction messages generalizing k trace with
  | nil => exact exec_answers unfinished k trace
  | cons message rest ih =>
      cases message with
      | answer =>
          have glued : answers k ++ (text (.answer :: rest) ++ tail) =
              answers (k + 1) ++ (text rest ++ tail) := by
            rw [answers_succ', List.append_assoc]
            rfl
          rw [glued, ih]
          rfl
      | command order newline =>
          have noSeparator : ';' ∉ answers k ++ order.text := by
            rw [List.mem_append, not_or]
            exact ⟨not_mem_answers k, order.not_mem⟩
          have cut : answers k ++ (text (.command order newline :: rest) ++ tail) =
              (answers k ++ order.text) ++ ';' :: (text rest ++ tail) := by
            simp [text, Token.text]
          have next := receive_command true
            (t := { authorized := true, buffer := answers k ++
              (text (.command order newline :: rest) ++ tail), trace }) rfl noSeparator cut
          rw [Loop.exec_again _ next, actions, ← List.append_assoc trace]
          exact ih 0 (trace ++ perform true (answers k ++ order.text))

/-! ## What is forwarded -/

theorem forwarded_append (trace trace' : List Action) :
    forwarded (trace ++ trace') = forwarded trace ++ forwarded trace' :=
  List.filterMap_append

theorem forwarded_replicate (k : Nat) :
    forwarded (List.replicate k .asyncWait) = [] := by
  induction k with
  | zero => rfl
  | succ k ih => exact ih

/-- Only one of the answers that come with a command is taken off it. -/
theorem forwarded_perform (k : Nat) (order : Command) :
    forwarded (perform true (answers k ++ order.text)) =
      [answers (k - 1) ++ order.text ++ terminator] := by
  have long : 2 ≤ order.text.length := order.stars.length_le
  have enough : ¬ (answers k ++ order.text).length < 2 := by
    rw [List.length_append]
    omega
  rw [perform, if_neg enough]
  cases k with
  | zero =>
      have other : ¬ on <+: answers 0 ++ order.text := order.not_startsWith_on
      rw [if_neg other]
      rfl
  | succ k =>
      have isPrefix : on <+: answers (k + 1) ++ order.text := by
        rw [answers_succ, List.append_assoc]
        exact List.prefix_append _ _
      have more : ¬ (answers (k + 1) ++ order.text).length = 2 := by
        rw [answers_succ, List.length_append, List.length_append, on]
        simp
        omega
      rw [if_pos isPrefix, if_neg more, answers_succ]
      rfl

/-- Two successive heartbeat answers and the command after them. -/
def Glued (messages : List Message) : Prop :=
  ∃ order newline, [.answer, .answer, .command order newline] <:+: messages

theorem glued_replicate_iff (k : Nat) (order : Command) (newline : Bool) (rest : List Message) :
    Glued (List.replicate k .answer ++ .command order newline :: rest) ↔ 2 ≤ k ∨ Glued rest := by
  constructor
  · rintro ⟨order', newline', infixed⟩
    induction k with
    | zero =>
        rcases List.infix_cons_iff.mp infixed with isPrefix | later
        · cases (List.cons_prefix_cons.mp isPrefix).1
        · exact Or.inr ⟨order', newline', later⟩
    | succ k ih =>
        rcases List.infix_cons_iff.mp infixed with isPrefix | later
        · cases k with
          | zero =>
              have second := (List.cons_prefix_cons.mp isPrefix).2
              cases (List.cons_prefix_cons.mp second).1
          | succ k => exact Or.inl (by omega)
        · rcases ih later with many | glued
          · exact Or.inl (by omega)
          · exact Or.inr glued
  · rintro (many | ⟨order', newline', infixed⟩)
    · refine ⟨order, newline, List.replicate (k - 2) .answer, rest, ?_⟩
      obtain ⟨k, rfl⟩ := Nat.exists_eq_add_of_le' many
      simp [List.replicate_succ']
    · refine ⟨order', newline', ?_⟩
      exact infixed.trans ((List.infix_cons_iff.mpr (Or.inr (List.infix_refl _))).trans
        (List.suffix_append _ _).isInfix)

theorem length_forwarded_actions (k : Nat) (messages : List Message) :
    (forwarded (actions k messages)).length = (commands messages).length := by
  induction messages generalizing k with
  | nil =>
      rw [actions, forwarded_replicate]
      rfl
  | cons message rest ih =>
      cases message with
      | answer => exact ih (k + 1)
      | command order newline =>
          rw [actions, forwarded_append, forwarded_perform, List.singleton_append]
          exact congrArg (· + 1) (ih 0)

/-- The commands a chunk completes are forwarded as they are iff none of them comes
with two answers. -/
theorem forwarded_actions_iff (k : Nat) (messages : List Message) :
    forwarded (actions k messages) = (commands messages).map (· ++ terminator) ↔
      ¬ Glued (List.replicate k .answer ++ messages) := by
  induction messages generalizing k with
  | nil =>
      rw [actions, forwarded_replicate, List.append_nil]
      refine iff_of_true rfl ?_
      rintro ⟨order, newline, infixed⟩
      have member := infixed.subset (List.mem_cons_of_mem _ (List.mem_cons_of_mem _
        List.mem_cons_self))
      cases List.eq_of_mem_replicate member
  | cons message rest ih =>
      cases message with
      | answer =>
          rw [show List.replicate k Message.answer ++ .answer :: rest =
            List.replicate (k + 1) .answer ++ rest by simp [List.replicate_succ']]
          exact ih (k + 1)
      | command order newline =>
          rw [actions, forwarded_append, forwarded_perform, List.singleton_append]
          change _ :: _ = (order.text ++ terminator) :: (commands rest).map _ ↔ _
          rw [List.cons.injEq, ih 0, List.append_left_inj, glued_replicate_iff]
          have single : answers (k - 1) ++ order.text = order.text ↔ ¬ 2 ≤ k := by
            constructor
            · intro eq many
              have := congrArg List.length eq
              rw [List.length_append, length_answers] at this
              omega
            · intro few
              rw [show k - 1 = 0 by omega]
              rfl
          rw [single, ← not_or]
          rfl

/-! ## One chunk -/

variable {messages ms : List Message} {received : Str} {settings : TransmitterSettings}

/-- The tokens that have arrived are none, or `LOAD` and the first messages. -/
theorem arrived_cases (messages : List Message) (received : Str) :
    arrived Token.text (tokens messages) received = [] ∨
      ∃ ms, ms <+: messages ∧
        arrived Token.text (tokens messages) received = .load :: ms.map .message := by
  have isPrefix : arrived Token.text (tokens messages) received <+: tokens messages :=
    arrived_isPrefix _
  generalize arrived Token.text (tokens messages) received = front at isPrefix
  cases front with
  | nil => exact Or.inl rfl
  | cons token front =>
      obtain ⟨rfl, rest⟩ := List.cons_prefix_cons.mp isPrefix
      obtain ⟨ms, msPrefix, rfl⟩ := List.prefix_map_iff.mp rest
      exact Or.inr ⟨ms, msPrefix, rfl⟩

/-- Before `LOAD` has arrived, only its first letters have. -/
theorem unread_of_not_load (isPrefix : received <+: (tokens messages).flatMap Token.text)
    (nothing : arrived Token.text (tokens messages) received = []) :
    ';' ∉ unread Token.text (tokens messages) received ∧
      (unread Token.text (tokens messages) received).length < 4 := by
  rcases unread_cases Token.text isPrefix with ⟨all, _⟩ | ⟨token, later, eq, part, short⟩
  · rw [nothing] at all
    cases all
  · rw [nothing] at eq
    cases eq
    refine ⟨fun present => ?_, short⟩
    have := part.subset present
    simp [Token.text, load] at this

/-- After it, what has arrived of the next message. -/
theorem unread_of_load (isPrefix : received <+: (tokens messages).flatMap Token.text)
    (something : arrived Token.text (tokens messages) received ≠ []) :
    Unfinished (unread Token.text (tokens messages) received) ∧
      (unread Token.text (tokens messages) received).length ≤ 32768 := by
  rcases unread_cases Token.text isPrefix with ⟨_, nothing⟩ | ⟨token, later, eq, part, short⟩
  · rw [nothing]
    exact ⟨⟨List.not_mem_nil, by decide⟩, by decide⟩
  · obtain ⟨message, rfl⟩ : ∃ message, token = .message message := by
      rcases arrived_cases messages received with nothing | ⟨ms, _, eq'⟩
      · exact absurd nothing something
      · rw [eq', tokens, List.cons_append, List.cons.injEq] at eq
        have member : token ∈ messages.map Token.message := by simp [eq.2]
        obtain ⟨message, _, rfl⟩ := List.mem_map.mp member
        exact ⟨message, rfl⟩
    cases message with
    | answer =>
        refine ⟨⟨fun present => ?_, fun isPrefix => ?_⟩, ?_⟩
        · have := part.subset present
          simp [Token.text, on] at this
        · exact absurd isPrefix.length_le (Nat.not_le_of_lt short)
        · exact Nat.le_trans (Nat.le_of_lt short) (by decide)
    | command order newline =>
        rw [Token.text, List.length_append, List.length_singleton] at short
        have part : unread Token.text (tokens messages) received <+: order.text :=
          List.prefix_of_prefix_length_le part (List.prefix_append _ _) (Nat.le_of_lt_succ short)
        refine ⟨⟨fun present => order.not_mem (part.subset present), fun isPrefix => ?_⟩, ?_⟩
        · exact order.not_startsWith_on (isPrefix.trans part)
        · exact part.length_le.trans order.bounded

/-- The messages among the tokens. -/
def messagesOf (tokens : List Token) : List Message :=
  tokens.filterMap fun
    | .load => none
    | .message message => some message

theorem messagesOf_map (ms : List Message) : messagesOf (ms.map .message) = ms := by
  induction ms with
  | nil => rfl
  | cons message rest ih => exact congrArg (message :: ·) ih

theorem messagesOf_append (front back : List Token) :
    messagesOf (front ++ back) = messagesOf front ++ messagesOf back :=
  List.filterMap_append

/-- Once `LOAD` has arrived, chunks complete messages only. -/
theorem delivered_of_load {data : Str}
    (something : arrived Token.text (tokens messages) received ≠ []) :
    delivered Token.text (tokens messages) received data =
      (messagesOf (delivered Token.text (tokens messages) received data)).map .message := by
  obtain ⟨before, _, beforeEq⟩ := (arrived_cases messages received).resolve_left something
  have whole : arrived Token.text (tokens messages) (received ++ data) = _ :=
    arrived_append Token.text
  rw [beforeEq, List.cons_append] at whole
  obtain ⟨after, _, afterEq⟩ := (arrived_cases messages (received ++ data)).resolve_left
    (by simp [whole])
  rw [afterEq, List.cons.injEq] at whole
  obtain ⟨front, back, rfl, _, backEq⟩ := List.map_eq_append_iff.mp whole.2
  rw [← backEq, messagesOf_map]

/-- The state of the transmitter, its trace aside, is determined by what it has
received. -/
structure Reads (messages : List Message) (received : Str) (t : Transmitter) : Prop where
  isPrefix : received <+: (tokens messages).flatMap Token.text
  authorized : t.authorized = true ↔ arrived Token.text (tokens messages) received ≠ []
  buffer : t.buffer = unread Token.text (tokens messages) received
  silent : .disconnect ∉ t.trace

theorem Reads.strip_buffer {t : Transmitter} (reads : Reads messages received t) (chunk : Str) :
    (t.buffer ++ chunk).strip = t.buffer ++ chunk.strip := by
  have plain : ∀ c ∈ t.buffer, c ≠ '\r' ∧ c ≠ '\n' := by
    intro c present
    rw [reads.buffer] at present
    have sent := reads.isPrefix.subset (List.mem_of_mem_drop present)
    rw [← strip_stream, Str.mem_strip] at sent
    exact sent.2
  rw [Str.strip_append, Str.strip_eq_self (fun present => (plain _ present).1 rfl)
    fun present => (plain _ present).2 rfl]

/-- What `handleTcpClientReceivedData` makes of a loop that ends by `break`. -/
theorem handleTcpClientReceivedData_left {t u : Transmitter} {tracker : Bool} (chunk : Str)
    (left : (receiveLoop tracker).exec
      { authorized := t.authorized, buffer := (t.buffer ++ chunk).strip,
        trace := t.trace ++ [.expiresFromNow settings.heartbeatDelay] } = .left u)
    (short : u.buffer.length ≤ 32768) :
    t.handleTcpClientReceivedData settings tracker chunk = u := by
  unfold handleTcpClientReceivedData
  dsimp only [record]
  rw [left]
  exact if_neg (Nat.not_lt.mpr short)

theorem disconnect_not_mem_actions (k : Nat) (ms : List Message) :
    .disconnect ∉ actions k ms := by
  induction ms generalizing k with
  | nil =>
      intro member
      cases List.eq_of_mem_replicate member
  | cons message rest ih =>
      cases message with
      | answer => exact ih (k + 1)
      | command order newline =>
          rw [actions, List.mem_append, not_or]
          refine ⟨fun member => ?_, ih 0⟩
          unfold perform forward at member
          split at member
          · cases member
          · split at member
            · split at member <;> simp at member
            · simp at member

/-- The messages the chunk `data` completes. -/
def deliveredMessages (messages : List Message) (received data : Str) : List Message :=
  messagesOf (delivered Token.text (tokens messages) received data)

/-- What is in the buffer with the chunk. -/
theorem Reads.buffer_append {t : Transmitter} (reads : Reads messages received t) (chunk : Str) :
    (t.buffer ++ chunk).strip =
      (delivered Token.text (tokens messages) received chunk.strip).flatMap Token.text ++
        unread Token.text (tokens messages) (received ++ chunk.strip) := by
  rw [reads.strip_buffer, reads.buffer, unread_append]

/-- A chunk after `LOAD`. -/
theorem Reads.handle_loaded {t : Transmitter} (reads : Reads messages received t)
    (settings : TransmitterSettings) {chunk : Str}
    (isPrefix : received ++ chunk.strip <+: (tokens messages).flatMap Token.text)
    (something : arrived Token.text (tokens messages) received ≠ []) :
    Reads messages (received ++ chunk.strip)
      (t.handleTcpClientReceivedData settings true chunk) ∧
    forwarded (t.handleTcpClientReceivedData settings true chunk).trace =
      forwarded t.trace ++
        forwarded (actions 0 (deliveredMessages messages received chunk.strip)) := by
  have buffer := reads.buffer_append chunk
  have authorized := reads.authorized.mpr something
  have something' : arrived Token.text (tokens messages) (received ++ chunk.strip) ≠ [] := by
    rw [arrived_append]
    exact List.append_ne_nil_of_left_ne_nil something _
  obtain ⟨unfinished, short⟩ := unread_of_load isPrefix something'
  rw [delivered_of_load something] at buffer
  have ended := exec_messages unfinished (deliveredMessages messages received chunk.strip) 0
    (t.trace ++ [.expiresFromNow settings.heartbeatDelay])
  have eq := handleTcpClientReceivedData_left (t := t) chunk
    (by rw [authorized, buffer]; exact ended) short
  rw [eq]
  refine ⟨⟨isPrefix, iff_of_true rfl something', rfl, ?_⟩, ?_⟩
  · have fresh := disconnect_not_mem_actions 0
      (deliveredMessages messages received chunk.strip)
    simp [reads.silent, fresh]
  · rw [forwarded_append, forwarded_append]
    exact congrArg (· ++ _) (List.append_nil _)

/-- A chunk that does not complete `LOAD`. -/
theorem Reads.handle_unfinished {t : Transmitter} (reads : Reads messages received t)
    (settings : TransmitterSettings) {chunk : Str}
    (isPrefix : received ++ chunk.strip <+: (tokens messages).flatMap Token.text)
    (unauthorized : t.authorized = false) (noSeparator : ';' ∉ (t.buffer ++ chunk).strip)
    (none' : delivered Token.text (tokens messages) received chunk.strip = [])
    (nothing : arrived Token.text (tokens messages) (received ++ chunk.strip) = []) :
    Reads messages (received ++ chunk.strip)
      (t.handleTcpClientReceivedData settings true chunk) ∧
    forwarded (t.handleTcpClientReceivedData settings true chunk).trace =
      forwarded t.trace ++
        forwarded (actions 0 (deliveredMessages messages received chunk.strip)) := by
  have buffer := reads.buffer_append chunk
  rw [none'] at buffer
  rw [deliveredMessages, none']
  obtain ⟨_, short⟩ := unread_of_not_load isPrefix nothing
  have ended := receive_unfinished true
    (t := { authorized := t.authorized, buffer := (t.buffer ++ chunk).strip,
            trace := t.trace ++ [.expiresFromNow settings.heartbeatDelay] })
    noSeparator (fun _ => by rw [buffer]; exact short)
    fun authorized => nomatch unauthorized.symm.trans authorized
  have eq := handleTcpClientReceivedData_left (t := t) chunk
    ((receiveLoop true).exec_leave ended) (by rw [buffer]; exact short.le.trans (by decide))
  rw [eq]
  refine ⟨⟨isPrefix, ?_, buffer, ?_⟩, ?_⟩
  · exact iff_of_false (fun authorized => nomatch unauthorized.symm.trans authorized)
      (not_not.mpr nothing)
  · simp [reads.silent]
  · exact forwarded_append _ _

/-- A chunk that completes `LOAD` and perhaps some heartbeat answers. -/
theorem Reads.handle_granted {t : Transmitter} (reads : Reads messages received t)
    (settings : TransmitterSettings) {chunk : Str}
    (isPrefix : received ++ chunk.strip <+: (tokens messages).flatMap Token.text)
    (unauthorized : t.authorized = false) (noSeparator : ';' ∉ (t.buffer ++ chunk).strip)
    {ms : List Message}
    (first : delivered Token.text (tokens messages) received chunk.strip =
      .load :: ms.map .message)
    (all : arrived Token.text (tokens messages) (received ++ chunk.strip) =
      .load :: ms.map .message) :
    Reads messages (received ++ chunk.strip)
      (t.handleTcpClientReceivedData settings true chunk) ∧
    forwarded (t.handleTcpClientReceivedData settings true chunk).trace =
      forwarded t.trace ++
        forwarded (actions 0 (deliveredMessages messages received chunk.strip)) := by
  have buffer := reads.buffer_append chunk
  rw [first] at buffer
  rw [deliveredMessages, first]
  have something : arrived Token.text (tokens messages) (received ++ chunk.strip) ≠ [] := by
    rw [all]
    exact List.cons_ne_nil _ _
  obtain ⟨unfinished, short⟩ := unread_of_load isPrefix something
  have split' : (t.buffer ++ chunk).strip =
      load ++ (text ms ++ unread Token.text (tokens messages) (received ++ chunk.strip)) := by
    rw [buffer, List.flatMap_cons, List.append_assoc]
    rfl
  have granted := receive_granted true
    (t := { authorized := t.authorized, buffer := (t.buffer ++ chunk).strip,
            trace := t.trace ++ [.expiresFromNow settings.heartbeatDelay] })
    unauthorized noSeparator split'
  have ended := exec_messages unfinished ms 0
    (t.trace ++ [.expiresFromNow settings.heartbeatDelay] ++ [.asyncWait])
  have eq := handleTcpClientReceivedData_left (t := t) chunk
    (((receiveLoop true).exec_again granted).trans ended) short
  rw [eq, show messagesOf (.load :: ms.map .message) = ms from messagesOf_map ms]
  refine ⟨⟨isPrefix, iff_of_true rfl something, rfl, ?_⟩, ?_⟩
  · have fresh := disconnect_not_mem_actions 0 ms
    simp [reads.silent, fresh]
  · rw [forwarded_append, forwarded_append, forwarded_append]
    exact congrArg (· ++ _) (by simp [forwarded])

/-- A chunk that does not bring a `;` together with the end of `LOAD` is read, and
what it completes is acted upon. -/
theorem Reads.handle {t : Transmitter} (reads : Reads messages received t)
    (settings : TransmitterSettings) {chunk : Str}
    (isPrefix : received ++ chunk.strip <+: (tokens messages).flatMap Token.text)
    (apart : t.authorized = false → ';' ∉ chunk) :
    Reads messages (received ++ chunk.strip)
      (t.handleTcpClientReceivedData settings true chunk) ∧
    forwarded (t.handleTcpClientReceivedData settings true chunk).trace =
      forwarded t.trace ++
        forwarded (actions 0 (deliveredMessages messages received chunk.strip)) := by
  by_cases something : arrived Token.text (tokens messages) received ≠ []
  · exact reads.handle_loaded settings isPrefix something
  · have nothing := not_not.mp something
    have unauthorized : t.authorized = false := by
      rw [← Bool.not_eq_true, reads.authorized]
      exact something
    have noSeparator : ';' ∉ (t.buffer ++ chunk).strip := by
      rw [reads.strip_buffer, reads.buffer, List.mem_append, not_or]
      exact ⟨(unread_of_not_load reads.isPrefix nothing).1,
        fun present => apart unauthorized (Str.mem_strip.mp present).1⟩
    have grown : arrived Token.text (tokens messages) (received ++ chunk.strip) =
        delivered Token.text (tokens messages) received chunk.strip := by
      rw [arrived_append, nothing, List.nil_append]
    rcases arrived_cases messages (received ++ chunk.strip) with nothing' | ⟨ms, _, all⟩
    · exact reads.handle_unfinished settings isPrefix unauthorized noSeparator
        (grown.symm.trans nothing') nothing'
    · exact reads.handle_granted settings isPrefix unauthorized noSeparator
        (grown.symm.trans all) all

/-- A `;` that comes together with the end of `LOAD` is taken for a refusal. -/
theorem trace_refused {t : Transmitter} {chunk : Str}
    (unauthorized : t.authorized = false) (separator : ';' ∈ chunk) :
    .disconnect ∈ (t.handleTcpClientReceivedData settings true chunk).trace := by
  have present : ';' ∈ (t.buffer ++ chunk).strip := by
    rw [Str.mem_strip]
    exact ⟨List.mem_append_right _ separator, by decide, by decide⟩
  have denied := receive_denied true
    (t := { authorized := t.authorized, buffer := (t.buffer ++ chunk).strip,
            trace := t.trace ++ [.expiresFromNow settings.heartbeatDelay] }) unauthorized present
  unfold handleTcpClientReceivedData
  dsimp only [record]
  rw [(receiveLoop true).exec_quit denied]
  simp [record]

/-- What has been done when the loop ends. -/
def endTrace : Exit Transmitter Transmitter → List Action
  | .left u => u.trace
  | .returned u => u.trace

/-- The trace only grows. -/
theorem trace_isPrefix_handle (tracker : Bool) (chunk : Str) (t : Transmitter) :
    t.trace <+: (t.handleTcpClientReceivedData settings tracker chunk).trace := by
  have grows : ∀ u : Transmitter, u.trace <+: endTrace ((receiveLoop tracker).exec u) := by
    apply (receiveLoop tracker).exec_induct (P := fun u exit => u.trace <+: endTrace exit)
    · intro u v exit next later
      refine List.IsPrefix.trans ?_ later
      have effect := receive_cases tracker u
      rw [show receive tracker u = .again v from next] at effect
      cases effect <;> exact List.prefix_append _ _
    · intro u v next
      have effect := receive_cases tracker u
      rw [show receive tracker u = .leave v from next] at effect
      cases effect
      exact List.prefix_refl _
    · intro u v next
      have effect := receive_cases tracker u
      rw [show receive tracker u = .quit v from next] at effect
      cases effect
      exact List.prefix_append _ _
  unfold handleTcpClientReceivedData
  dsimp only [record]
  have entered := (List.prefix_append t.trace [.expiresFromNow settings.heartbeatDelay]).trans
    (grows { authorized := t.authorized, buffer := (t.buffer ++ chunk).strip,
             trace := t.trace ++ [.expiresFromNow settings.heartbeatDelay] })
  split
  · rename_i eq
    rw [eq] at entered
    split
    · exact entered.trans (List.prefix_append _ _)
    · exact entered
  · rename_i eq
    rw [eq] at entered
    exact entered

/-! ## All chunks -/

def receiveAll (settings : TransmitterSettings) (chunks : List Str) (t : Transmitter) :
    Transmitter :=
  chunks.foldl (fun t chunk => t.handleTcpClientReceivedData settings true chunk) t

/-- The transmitter has been granted access, has not given up, and has passed every
command to the tracker, in order and unchanged. -/
structure Relayed (messages : List Message) (t : Transmitter) : Prop where
  authorized : t.authorized = true
  silent : .disconnect ∉ t.trace
  forwards : forwarded t.trace = (commands messages).map (· ++ terminator)

theorem trace_isPrefix_receiveAll (chunks : List Str) (t : Transmitter) :
    t.trace <+: (receiveAll settings chunks t).trace := by
  induction chunks generalizing t with
  | nil => exact List.prefix_refl _
  | cons chunk rest ih => exact (trace_isPrefix_handle true chunk t).trans (ih _)

/-- What a chunk must be like after `received`. -/
structure Fine (messages : List Message) (received chunk : Str) : Prop where
  apart : arrived Token.text (tokens messages) received = [] → ';' ∉ chunk
  single : ¬ Glued (deliveredMessages messages received chunk.strip)

theorem commands_append (front back : List Message) :
    commands (front ++ back) = commands front ++ commands back :=
  List.filterMap_append

theorem forall_split_cons_iff {chunk : Str} {rest : List Str} {P : List Str → Str → Prop} :
    (∀ pre next post, chunk :: rest = pre ++ next :: post → P pre next) ↔
      P [] chunk ∧ ∀ pre next post, rest = pre ++ next :: post → P (chunk :: pre) next := by
  constructor
  · intro all
    refine ⟨all [] chunk rest rfl, fun pre next post eq => ?_⟩
    exact all (chunk :: pre) next post (congrArg (chunk :: ·) eq)
  · rintro ⟨first, others⟩ pre next post eq
    cases pre with
    | nil =>
        cases eq
        exact first
    | cons head pre =>
        obtain ⟨rfl, eq'⟩ := List.cons.inj eq
        exact others pre next post eq'

theorem commands_received (messages : List Message) (received data : Str) :
    commands (messagesOf (arrived Token.text (tokens messages) (received ++ data))) =
      commands (messagesOf (arrived Token.text (tokens messages) received)) ++
        commands (deliveredMessages messages received data) := by
  rw [arrived_append, messagesOf_append, commands_append]
  rfl

/-- Exactly the commands that have arrived are forwarded if it was so before the chunk and no
two answers in it swallow a command. -/
theorem forwarded_received_iff {trace : List Action} {received : Str}
    (count : (forwarded trace).length =
      (commands (messagesOf (arrived Token.text (tokens messages) received))).length)
    (data : Str) :
    forwarded trace ++ forwarded (actions 0 (deliveredMessages messages received data)) =
        (commands (messagesOf (arrived Token.text (tokens messages) (received ++ data)))).map
          (· ++ terminator) ↔
      forwarded trace =
        (commands (messagesOf (arrived Token.text (tokens messages) received))).map
          (· ++ terminator) ∧
      ¬ Glued (deliveredMessages messages received data) := by
  have single := forwarded_actions_iff 0 (deliveredMessages messages received data)
  rw [List.replicate_zero, List.nil_append] at single
  rw [commands_received, List.map_append, ← single]
  constructor
  · intro eq
    exact List.append_inj eq (by rw [count, List.length_map])
  · rintro ⟨before, now⟩
    rw [before, now]

/-- The run lemma: from any point of the stream on, the commands are relayed iff they
have been so far and every further chunk is fine. -/
theorem Reads.relayed_iff {t : Transmitter} {chunks : List Str}
    (reads : Reads messages received t)
    (count : (forwarded t.trace).length =
      (commands (messagesOf (arrived Token.text (tokens messages) received))).length)
    (whole : received ++ Str.strip chunks.flatten = (tokens messages).flatMap Token.text) :
    Relayed messages (receiveAll settings chunks t) ↔
      forwarded t.trace =
        (commands (messagesOf (arrived Token.text (tokens messages) received))).map
          (· ++ terminator) ∧
      ∀ pre chunk post, chunks = pre ++ chunk :: post →
        Fine messages (received ++ Str.strip pre.flatten) chunk := by
  induction chunks generalizing received t with
  | nil =>
      have complete : received = (tokens messages).flatMap Token.text := by simpa using whole
      have all : arrived Token.text (tokens messages) received = tokens messages := by
        rw [complete, arrived_flatMap]
      have messagesEq : messagesOf (tokens messages) = messages := messagesOf_map messages
      rw [all, messagesEq]
      constructor
      · exact fun relayed => ⟨relayed.forwards, fun _ _ _ impossible => by simp at impossible⟩
      · rintro ⟨forwards, -⟩
        refine ⟨reads.authorized.mpr ?_, reads.silent, forwards⟩
        rw [all]
        exact List.cons_ne_nil _ _
  | cons chunk rest ih =>
      rw [forall_split_cons_iff (P := fun pre next =>
        Fine messages (received ++ Str.strip pre.flatten) next)]
      have whole' : received ++ chunk.strip ++ Str.strip rest.flatten =
          (tokens messages).flatMap Token.text := by
        rw [← whole, List.flatten_cons, Str.strip_append, List.append_assoc]
      have isPrefix : received ++ chunk.strip <+: (tokens messages).flatMap Token.text :=
        ⟨_, whole'⟩
      by_cases refused : t.authorized = false ∧ ';' ∈ chunk
      · obtain ⟨unauthorized, separator⟩ := refused
        refine iff_of_false (fun relayed => ?_) fun fine => ?_
        · exact relayed.silent ((trace_isPrefix_receiveAll rest _).subset
            (trace_refused unauthorized separator))
        · refine fine.2.1.apart ?_ separator
          rw [List.flatten_nil, Str.strip_nil, List.append_nil]
          by_contra something
          cases unauthorized.symm.trans (reads.authorized.mpr something)
      · obtain ⟨reads', forwards⟩ := reads.handle settings isPrefix
          fun unauthorized separator => refused ⟨unauthorized, separator⟩
        have apart : arrived Token.text (tokens messages) received = [] → ';' ∉ chunk := by
          intro nothing separator
          refine refused ⟨?_, separator⟩
          rw [← Bool.not_eq_true, reads.authorized]
          exact not_not.mpr nothing
        have count' : (forwarded (handleTcpClientReceivedData settings true chunk t).trace).length =
            (commands (messagesOf (arrived Token.text (tokens messages)
              (received ++ chunk.strip)))).length := by
          rw [forwards, commands_received, List.length_append, List.length_append, count,
            length_forwarded_actions]
        have split' := forwarded_received_iff count chunk.strip
        rw [← forwards] at split'
        rw [show receiveAll settings (chunk :: rest) t = receiveAll settings rest
          (handleTcpClientReceivedData settings true chunk t) from rfl, ih reads' count' whole',
          split', and_assoc]
        refine and_congr_right fun _ => and_congr ?_ ?_
        · rw [List.flatten_nil, Str.strip_nil, List.append_nil]
          exact ⟨fun single => ⟨apart, single⟩, Fine.single⟩
        · simp only [List.flatten_cons, Str.strip_append, List.append_assoc]

/-! ## The condition on the chunks -/

/-- `LOAD` and these messages have arrived with these chunks, CR and LF aside. -/
def Arrived (messages : List Message) (chunks : List Str) : Prop :=
  (stream messages).strip <+: Str.strip chunks.flatten

/-- No chunk brings a `;` together with the end of `LOAD`, or completes two
successive heartbeat answers and the command after them. -/
structure Separated (messages : List Message) (chunks : List Str) : Prop where
  load : ∀ pre chunk post, chunks = pre ++ chunk :: post → ';' ∈ chunk → Arrived [] pre
  answers : ∀ pre chunk post front order newline rest, chunks = pre ++ chunk :: post →
    messages = front ++ .answer :: .answer :: .command order newline :: rest →
    Arrived (front ++ [.answer, .answer, .command order newline]) (pre ++ [chunk]) →
    Arrived (front ++ [.answer]) pre

/-- What has arrived, in tokens. -/
theorem arrived_iff {front : List Message} (isPrefix : front <+: messages) (chunks : List Str) :
    Arrived front chunks ↔
      tokens front <+: arrived Token.text (tokens messages) (Str.strip chunks.flatten) := by
  have tokensPrefix : tokens front <+: tokens messages :=
    List.cons_prefix_cons.mpr ⟨rfl, isPrefix.map _⟩
  rw [prefix_arrived_iff Token.text tokensPrefix, ← strip_stream]
  rfl

/-- What has arrived, in messages. -/
theorem tokens_prefix_arrived_iff {front : List Message} :
    tokens front <+: arrived Token.text (tokens messages) received ↔
      arrived Token.text (tokens messages) received ≠ [] ∧
        front <+: messagesOf (arrived Token.text (tokens messages) received) := by
  rcases arrived_cases messages received with nothing | ⟨ms, _, eq⟩
  · rw [nothing]
    refine iff_of_false (fun impossible => ?_) fun impossible => impossible.1 rfl
    cases List.prefix_nil.mp impossible
  · rw [eq, tokens, List.cons_prefix_cons]
    have inner : messagesOf (.load :: ms.map .message) = ms := messagesOf_map ms
    rw [inner]
    constructor
    · rintro ⟨-, isPrefix⟩
      refine ⟨List.cons_ne_nil _ _, ?_⟩
      obtain ⟨ms', msPrefix, eq'⟩ := List.prefix_map_iff.mp isPrefix
      rw [← messagesOf_map front, eq', messagesOf_map]
      exact msPrefix
    · exact fun both => ⟨rfl, both.2.map _⟩

theorem messagesOf_arrived_isPrefix :
    messagesOf (arrived Token.text (tokens messages) received) <+: messages := by
  rcases arrived_cases messages received with nothing | ⟨ms, isPrefix, eq⟩
  · rw [nothing]
    exact List.nil_prefix
  · rw [eq]
    exact (messagesOf_map ms).symm ▸ isPrefix

theorem glued_prefixes {front rest : List Message} {order : Command} {newline : Bool}
    (eq : messages = front ++ .answer :: .answer :: .command order newline :: rest) :
    front ++ [.answer, .answer, .command order newline] <+: messages ∧
      front ++ [.answer] <+: messages := by
  rw [eq]
  exact ⟨⟨rest, by simp⟩, ⟨.answer :: .command order newline :: rest, by simp⟩⟩

/-- Of the messages that have arrived with a chunk, some had arrived before. -/
theorem glued_delivered_iff (data : Str) :
    Glued (deliveredMessages messages received data) ↔
      ∃ front order newline rest,
        messages = front ++ .answer :: .answer :: .command order newline :: rest ∧
        tokens (front ++ [.answer, .answer, .command order newline]) <+:
          arrived Token.text (tokens messages) (received ++ data) ∧
        ¬ tokens (front ++ [.answer]) <+: arrived Token.text (tokens messages) received := by
  have grown : messagesOf (arrived Token.text (tokens messages) (received ++ data)) =
      messagesOf (arrived Token.text (tokens messages) received) ++
        deliveredMessages messages received data := by
    rw [arrived_append, messagesOf_append]
    rfl
  have bound : messagesOf (arrived Token.text (tokens messages) (received ++ data)) <+:
      messages := messagesOf_arrived_isPrefix
  simp only [tokens_prefix_arrived_iff, grown]
  rw [grown] at bound
  constructor
  · rintro ⟨order, newline, x, y, eq⟩
    obtain ⟨z, whole⟩ := bound
    refine ⟨messagesOf (arrived Token.text (tokens messages) received) ++ x, order, newline,
      y ++ z, ?_, ⟨fun nothing => ?_, ?_⟩, fun both => ?_⟩
    · refine whole.symm.trans ?_
      rw [← eq]
      simp
    · rw [nothing] at grown
      rw [← eq] at grown
      have := congrArg List.length grown
      simp [messagesOf] at this
    · rw [← eq]
      exact ⟨y, by simp⟩
    · have := both.2.length_le
      rw [List.length_append, List.length_append, List.length_singleton] at this
      omega
  · rintro ⟨front, order, newline, rest, eq, ⟨_, whole⟩, missing⟩
    by_cases late :
        (messagesOf (arrived Token.text (tokens messages) received)).length ≤ front.length
    · -- the three messages lie within the chunk
      obtain ⟨y, whole⟩ := whole
      rw [List.append_assoc] at whole
      obtain ⟨x, rfl⟩ : messagesOf (arrived Token.text (tokens messages) received) <+: front :=
        List.prefix_of_prefix_length_le ⟨_, rfl⟩ ⟨_, whole⟩ late
      rw [List.append_assoc] at whole
      refine ⟨order, newline, x, y, ?_⟩
      rw [← List.append_cancel_left whole, List.append_assoc]
    · refine absurd ⟨fun nothing => ?_, ?_⟩ missing
      · rw [nothing] at late
        exact late (Nat.zero_le _)
      · refine List.prefix_of_prefix_length_le (glued_prefixes eq).2 messagesOf_arrived_isPrefix ?_
        rw [List.length_append, List.length_singleton]
        omega

theorem strip_flatten_concat (pre : List Str) (chunk : Str) :
    Str.strip (pre ++ [chunk]).flatten = Str.strip pre.flatten ++ chunk.strip := by
  rw [List.flatten_append, Str.strip_append, List.flatten_singleton]

/-- The chunks keep the messages apart iff each of them is fine after those before. -/
theorem separated_iff_fine {chunks : List Str} :
    Separated messages chunks ↔ ∀ pre chunk post, chunks = pre ++ chunk :: post →
      Fine messages (Str.strip pre.flatten) chunk := by
  constructor
  · rintro ⟨load, answers⟩ pre chunk post eq
    refine ⟨fun nothing separator => ?_, fun glued => ?_⟩
    · have granted := load pre chunk post eq separator
      rw [arrived_iff List.nil_prefix, nothing] at granted
      cases List.prefix_nil.mp granted
    · obtain ⟨front, order, newline, rest, eq', now, missing⟩ := (glued_delivered_iff _).mp glued
      rw [← strip_flatten_concat, ← arrived_iff (glued_prefixes eq').1] at now
      have earlier := answers pre chunk post front order newline rest eq eq' now
      rw [arrived_iff (glued_prefixes eq').2] at earlier
      exact missing earlier
  · intro fine
    constructor
    · intro pre chunk post eq separator
      rw [arrived_iff List.nil_prefix, tokens_prefix_arrived_iff]
      exact ⟨fun nothing => (fine pre chunk post eq).apart nothing separator, List.nil_prefix⟩
    · intro pre chunk post front order newline rest eq eq' now
      rw [arrived_iff (glued_prefixes eq').1, strip_flatten_concat] at now
      rw [arrived_iff (glued_prefixes eq').2]
      by_contra missing
      exact (fine pre chunk post eq).single
        ((glued_delivered_iff _).mpr ⟨front, order, newline, rest, eq', now, missing⟩)

/-- The transmitter right after it has been connected. -/
def connected (settings : TransmitterSettings) (before : Transmitter) : Transmitter :=
  { before with trace := [] }.handleTcpClientConnect settings

theorem reads_connected (messages : List Message) (settings : TransmitterSettings)
    (before : Transmitter) :
    Reads messages [] (connected settings before) ∧
      forwarded (connected settings before).trace = [] := by
  have nothing : arrived Token.text (tokens messages) [] = [] := rfl
  unfold connected handleTcpClientConnect
  dsimp only
  split
  · refine ⟨⟨List.nil_prefix, ?_, rfl, by simp [record]⟩, rfl⟩
    exact iff_of_false Bool.false_ne_true (not_not.mpr nothing)
  · refine ⟨⟨List.nil_prefix, ?_, rfl, List.not_mem_nil⟩, rfl⟩
    exact iff_of_false Bool.false_ne_true (not_not.mpr nothing)

/-- However the stream is cut into chunks, the transmitter relays the commands iff no
chunk brings a `;` together with the end of `LOAD` or completes two successive
heartbeat answers and the command after them. -/
theorem relayed_iff_separated (settings : TransmitterSettings) (before : Transmitter)
    (messages : List Message) (chunks : List Str) (cut : chunks.flatten = stream messages) :
    Relayed messages (receiveAll settings chunks (connected settings before)) ↔
      Separated messages chunks := by
  obtain ⟨reads, silent⟩ := reads_connected messages settings before
  have nothing : arrived Token.text (tokens messages) [] = [] := rfl
  rw [reads.relayed_iff (by rw [silent, nothing]; rfl)
    (by rw [cut, strip_stream, List.nil_append]), separated_iff_fine, silent, nothing]
  exact and_iff_right rfl

/-- A command of the protocol: ask for one position. -/
def single : Command where
  text := ['*', '*', ',', 'B']
  stars := by decide
  plain := by simp
  bounded := by decide

/-- Two heartbeat answers and a command in one chunk. -/
theorem not_forall_relayed :
    ¬ ∀ settings before messages chunks, chunks.flatten = stream messages →
      (∀ chunk ∈ chunks, chunk ≠ []) →
      Relayed messages (receiveAll settings chunks (connected settings before)) := by
  intro claim
  have relayed := claim {} {} [.answer, .answer, .command single false]
    [load, on ++ on ++ single.text ++ [';']] rfl (by decide)
  exact absurd relayed.forwards (by decide)

/-- The same bytes, with the second answer in the chunk after the first one. -/
theorem relayed_iff_separated_single :
    Relayed [.answer, .answer, .command single false]
        (receiveAll {} [load ++ on, on ++ single.text ++ [';']] (connected {} {})) ∧
      Separated [.answer, .answer, .command single false]
        [load ++ on, on ++ single.text ++ [';']] :=
  have relayed : Relayed [.answer, .answer, .command single false]
      (receiveAll {} [load ++ on, on ++ single.text ++ [';']] (connected {} {})) :=
    ⟨by decide, by decide, by decide⟩
  ⟨relayed, (relayed_iff_separated {} {} _ _ rfl).mp relayed⟩

end GpsInformer.Transmitter
