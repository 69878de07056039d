import GpsInformer.StdString

/-!
# `HttpParser` (HttpParser.cpp)

The body of a message is what follows the first empty line: without headers
(`parseHttp`) it is everything if there is none, with them (`parseHttpHeaders`) it is
then empty.  Positions that are `npos` wrap to the start when they are added to, and a
count that is below 0 reaches beyond the end (`Str.slice`).
-/

namespace GpsInformer

namespace HttpParser

/-- `"\r\n\r\n"` -/
def headerEnd : Str := ['\r', '\n', '\r', '\n']

/-- `HttpParser::parseHttp(isRequest, data)` -/
def parseHttp (data : Str) : Str :=
  match data.find headerEnd with
  | some position => data.drop (position + 4)
  | none =>
      match data.find ['\n', '\n'] with
      | some position => data.drop (position + 2)
      | none => data

/-- A `std::map<std::string, std::string>` -/
abbrev Headers := Str → Option Str

/-- `headers[key] = value` -/
def Headers.set (headers : Headers) (key value : Str) : Headers :=
  Function.update headers key (some value)

def newLine (onlyNewLineChar : Bool) : Str := if onlyNewLineChar then ['\n'] else ['\r', '\n']

/-- The lines after the one that ends at `lineEnd`. -/
def parseLines (data : Str) (onlyNewLineChar : Bool) (headerEnd : Option Nat) (lineEnd : Nat)
    (headers : Headers) : Headers :=
  let lineStart := lineEnd + (newLine onlyNewLineChar).length
  let lineSepPos := data.findCharFrom ':' lineStart
  match _found : data.findFrom (newLine onlyNewLineChar) lineStart with
  | none => headers
  | some nextEnd =>
      if ¬ Str.before (some nextEnd) headerEnd ∨ nextEnd = lineEnd ∨
          ¬ Str.before lineSepPos headerEnd then headers
      else
        let key := (data.slice lineStart lineSepPos).toLower
        let value := (data.slice ((lineSepPos.map (· + 1)).getD 0) (some nextEnd)).trim
        parseLines data onlyNewLineChar headerEnd nextEnd (headers.set key value)
termination_by data.length - lineEnd
decreasing_by
  rcases Option.map_eq_some_iff.mp _found with ⟨n, found, rfl⟩
  have nonempty : newLine onlyNewLineChar ≠ [] := by
    cases onlyNewLineChar <;> exact List.cons_ne_nil _ _
  have inside := Str.find_length_le found nonempty
  have := List.length_pos_of_ne_nil nonempty
  rw [List.length_drop] at inside
  omega

/-- `HttpParser::parseHttp(isRequest, data, headers)`: the body and the headers -/
def parseHttpHeaders (isRequest : Bool) (data : Str) (headers : Headers) : Str × Headers :=
  let onlyNewLineChar : Bool := data.find headerEnd = none ∧ data.find ['\n', '\n'] ≠ none
  let bodyStart :=
    match data.find headerEnd with
    | some position => some (position + 4)
    | none => (data.find ['\n', '\n']).map (· + 2)
  let lineSepPos := data.findFirstOf ' '
  let wordStart := (lineSepPos.map (· + 1)).getD 0
  let word := data.slice wordStart (data.findCharFrom ' ' wordStart)
  let headers :=
    if isRequest then
      (headers.set "method".toList (Str.front lineSepPos data)).set "path".toList word
    else headers.set "status".toList word
  let headers :=
    match data.find (newLine onlyNewLineChar) with
    -- no line end is before `npos`
    | none => headers
    -- the end of the line has not moved
    | some 0 => headers
    | some lineEnd => parseLines data onlyNewLineChar bodyStart lineEnd headers
  (bodyStart.elim [] data.drop, headers)

def parseRequest (data : Str) (headers : Headers) : Str × Headers :=
  parseHttpHeaders true data headers

def parseResponse (data : Str) (headers : Headers) : Str × Headers :=
  parseHttpHeaders false data headers

/-- A message: the lines of its header, an empty line, its body. -/
def response (lines : List Str) (body : Str) : Str :=
  lines.flatMap (· ++ ['\r', '\n']) ++ ['\r', '\n'] ++ body

/-- A line of a header. -/
structure HeaderLine (line : Str) : Prop where
  nonempty : line ≠ []
  noCR : '\r' ∉ line
  noLF : '\n' ∉ line

theorem find_cons {c : Char} (other : c ≠ '\r') (s : Str) :
    Str.find (c :: s) headerEnd = (Str.find s headerEnd).map (· + 1) := by
  rw [Str.find]
  have differs : headerEnd.isPrefixOf (c :: s) = false := by
    simp [headerEnd, List.isPrefixOf, Ne.symm other]
  simp [differs]

theorem find_append {line : Str} (noCR : '\r' ∉ line) (s : Str) :
    Str.find (line ++ s) headerEnd = (Str.find s headerEnd).map (· + line.length) := by
  induction line with
  | nil => simp
  | cons c line ih =>
      have other : c ≠ '\r' := fun same => noCR (same ▸ List.mem_cons_self)
      have rest := ih fun present => noCR (List.mem_cons_of_mem c present)
      rw [List.cons_append, find_cons other, rest, Option.map_map]
      rfl

/-- A line end that another line follows is not the end of the header. -/
theorem find_lineEnd {next : Str} (line : HeaderLine next) (s : Str) :
    Str.find ('\r' :: '\n' :: (next ++ s)) headerEnd =
      (Str.find (next ++ s) headerEnd).map (· + 2) := by
  rcases List.exists_cons_of_ne_nil line.nonempty with ⟨c, rest, rfl⟩
  have other : c ≠ '\r' := fun same => line.noCR (same ▸ List.mem_cons_self)
  have differs : headerEnd.isPrefixOf ('\r' :: '\n' :: (c :: rest ++ s)) = false := by
    simp [headerEnd, List.isPrefixOf, Ne.symm other]
  rw [Str.find, differs, find_cons (by decide), Option.map_map]
  rfl

theorem find_response {lines : List Str} (some_line : lines ≠ [])
    (header : ∀ line ∈ lines, HeaderLine line) (body : Str) :
    ∃ n, Str.find (response lines body) headerEnd = some n ∧
      (response lines body).drop (n + 4) = body := by
  induction lines with
  | nil => exact absurd rfl some_line
  | cons line lines ih =>
      have first := header line List.mem_cons_self
      cases lines with
      | nil =>
          refine ⟨line.length, ?_, ?_⟩
          · simp only [response, List.flatMap_cons, List.flatMap_nil, List.append_nil,
              List.append_assoc]
            rw [find_append first.noCR]
            simp [Str.find, headerEnd, List.isPrefixOf]
          · have split : response [line] body = line ++ headerEnd ++ body := by
              simp [response, headerEnd]
            have length : (line ++ headerEnd).length = line.length + 4 := by simp [headerEnd]
            rw [split, ← length, List.drop_left]
      | cons next lines =>
          obtain ⟨n, found, dropped⟩ := ih (List.cons_ne_nil next lines) fun line member =>
            header line (List.mem_cons_of_mem _ member)
          have second := header next (List.mem_cons_of_mem _ List.mem_cons_self)
          have split : response (line :: next :: lines) body =
              line ++ '\r' :: '\n' :: response (next :: lines) body := by
            simp [response]
          have begins : response (next :: lines) body =
              next ++ '\r' :: '\n' ::
                (lines.flatMap (· ++ ['\r', '\n']) ++ ['\r', '\n'] ++ body) := by
            simp [response]
          refine ⟨n + 2 + line.length, ?_, ?_⟩
          · rw [split, find_append first.noCR, begins, find_lineEnd second, ← begins, found]
            rfl
          · have length : n + 2 + line.length + 4 = line.length + (n + 4 + 2) := by omega
            rw [split, length, List.drop_length_add_append]
            exact dropped

/-- The body of a response is what follows its header. -/
theorem parseHttp_response {lines : List Str} (some_line : lines ≠ [])
    (header : ∀ line ∈ lines, HeaderLine line) (body : Str) :
    parseHttp (response lines body) = body := by
  rcases find_response some_line header body with ⟨n, found, dropped⟩
  unfold parseHttp
  rw [found]
  exact dropped

/-! ## The fields of a header -/

def fieldLine (field : Str × Str) : Str := field.1 ++ ':' :: field.2

/-- A name and a value that make a line of a header. -/
structure Field (field : Str × Str) : Prop where
  noSeparator : ':' ∉ field.1
  noCR : '\r' ∉ fieldLine field
  noLF : '\n' ∉ fieldLine field

/-- The fields are put into a map. -/
def Headers.read (headers : Headers) (fields : List (Str × Str)) : Headers :=
  fields.foldl (fun headers field => headers.set (Str.toLower field.1) (Str.trim field.2)) headers

variable {headers : Headers} {fields : List (Str × Str)} {field : Str × Str} {front rest body : Str}
  {bodyStart : Nat}

theorem parseLines_next {data : Str} {onlyNewLineChar : Bool} {headerEnd : Option Nat}
    {lineEnd nextEnd : Nat} (found : data.findFrom (newLine onlyNewLineChar)
      (lineEnd + (newLine onlyNewLineChar).length) = some nextEnd) :
    parseLines data onlyNewLineChar headerEnd lineEnd headers =
      let lineStart := lineEnd + (newLine onlyNewLineChar).length
      let lineSepPos := data.findCharFrom ':' lineStart
      if ¬ Str.before (some nextEnd) headerEnd ∨ nextEnd = lineEnd ∨
          ¬ Str.before lineSepPos headerEnd then headers
      else parseLines data onlyNewLineChar headerEnd nextEnd
        (headers.set (data.slice lineStart lineSepPos).toLower
          (data.slice ((lineSepPos.map (· + 1)).getD 0) (some nextEnd)).trim) := by
  rw [parseLines]
  split
  · rename_i missing
    rw [found] at missing
    cases missing
  · rename_i found'
    rw [found] at found'
    cases found'
    rfl

/-- A line before the body is no reason to stop. -/
theorem field_goesOn (inside : (front ++ newLine false ++ fieldLine field).length < bodyStart) :
    ¬ (¬ Str.before (some (front ++ newLine false ++ fieldLine field).length) (some bodyStart) ∨
      (front ++ newLine false ++ fieldLine field).length = front.length ∨
      ¬ Str.before (some (front ++ newLine false ++ field.1).length) (some bodyStart)) := by
  have further : (front ++ newLine false ++ field.1).length <
      (front ++ newLine false ++ fieldLine field).length := by
    simp [fieldLine]
  have moved : front.length < (front ++ newLine false ++ field.1).length := by
    simp [newLine]
  simp only [Str.before, decide_eq_true_eq]
  omega

/-- The line of a field is read. -/
theorem parseLines_field (valid : Field field)
    (inside : (front ++ newLine false ++ fieldLine field).length < bodyStart) :
    parseLines (front ++ newLine false ++ fieldLine field ++ newLine false ++ rest) false
        (some bodyStart) front.length headers =
      parseLines (front ++ newLine false ++ fieldLine field ++ newLine false ++ rest) false
        (some bodyStart) (front ++ newLine false ++ fieldLine field).length
        (headers.set (Str.toLower field.1) (Str.trim field.2)) := by
  have lineStart : front.length + (newLine false).length = (front ++ newLine false).length :=
    List.length_append.symm
  have ends : Str.findFrom (front ++ newLine false ++ fieldLine field ++ newLine false ++ rest)
      (newLine false) (front ++ newLine false).length =
        some (front ++ newLine false ++ fieldLine field).length :=
    Str.findFrom_word valid.noCR _ ['\n'] rest
  have name : front ++ newLine false ++ fieldLine field ++ newLine false ++ rest =
      front ++ newLine false ++ field.1 ++ ':' :: (field.2 ++ newLine false ++ rest) := by
    simp [fieldLine]
  have separates : Str.findCharFrom
      (front ++ newLine false ++ fieldLine field ++ newLine false ++ rest) ':'
      (front ++ newLine false).length = some (front ++ newLine false ++ field.1).length := by
    rw [name]
    exact Str.findCharFrom_word valid.noSeparator _ _
  have key : Str.slice (front ++ newLine false ++ fieldLine field ++ newLine false ++ rest)
      (front ++ newLine false).length (some (front ++ newLine false ++ field.1).length) =
        field.1 := by
    rw [name]
    exact Str.slice_append _ _ _
  have value : Str.slice (front ++ newLine false ++ fieldLine field ++ newLine false ++ rest)
      ((front ++ newLine false ++ field.1).length + 1)
      (some (front ++ newLine false ++ fieldLine field).length) = field.2 := by
    have start : (front ++ newLine false ++ field.1).length + 1 =
        (front ++ newLine false ++ field.1 ++ [':']).length := by
      rw [@List.length_append _ _ [':'], List.length_singleton]
    have stop : front ++ newLine false ++ fieldLine field =
        front ++ newLine false ++ field.1 ++ [':'] ++ field.2 := by
      simp [fieldLine]
    rw [List.append_assoc _ (newLine false) rest, stop, start]
    exact Str.slice_append _ _ _
  have goesOn := field_goesOn inside
  rw [parseLines_next (lineStart ▸ ends)]
  dsimp only
  rw [lineStart, separates, if_neg goesOn, key]
  exact congrArg _ (congrArg _ (congrArg Str.trim value))

/-- The empty line ends the header. -/
theorem parseLines_empty (front body : Str) (headers : Headers) :
    parseLines (front ++ newLine false ++ newLine false ++ body) false
      (some (front ++ newLine false ++ newLine false).length) front.length headers = headers := by
  have lineStart : front.length + (newLine false).length = (front ++ newLine false).length :=
    List.length_append.symm
  have ends : Str.findFrom (front ++ newLine false ++ newLine false ++ body) (newLine false)
      (front ++ newLine false).length = some (front ++ newLine false).length := by
    have found := Str.findFrom_word (@List.not_mem_nil _ '\r') (front ++ newLine false) ['\n'] body
    rwa [List.append_nil] at found
  have behind : Str.before (Str.findCharFrom (front ++ newLine false ++ newLine false ++ body) ':'
      (front ++ newLine false).length)
      (some (front ++ newLine false ++ newLine false).length) = false := by
    have later : Str.findFirstOf ':' (newLine false ++ body) =
        (Str.findFirstOf ':' body).map (· + 2) := by
      simp [newLine, Str.findFirstOf, List.findIdx?_cons, Option.map_map, Function.comp_def]
    rw [Str.findCharFrom, List.append_assoc, List.drop_left, later]
    cases Str.findFirstOf ':' body with
    | none => rfl
    | some n =>
        simp [Str.before, newLine]
        omega
  rw [parseLines_next (lineStart ▸ ends)]
  dsimp only
  rw [lineStart]
  exact if_pos (Or.inr (Or.inr (ne_true_of_eq_false behind)))

/-- All fields are read. -/
theorem parseLines_fields (valid : ∀ field ∈ fields, Field field) (front body : Str)
    (headers : Headers) :
    parseLines (front ++ newLine false ++ response (fields.map fieldLine) body) false
        (some (front ++ newLine false ++ response (fields.map fieldLine) []).length) front.length
        headers =
      headers.read fields := by
  induction fields generalizing front headers with
  | nil =>
      have split : ∀ body, response [] body = newLine false ++ body := fun _ => rfl
      rw [List.map_nil, split, split, List.append_nil, ← List.append_assoc]
      exact parseLines_empty front body headers
  | cons field fields ih =>
      rw [List.forall_mem_cons] at valid
      have split : ∀ body, front ++ newLine false ++ response ((field :: fields).map fieldLine) body
          = front ++ newLine false ++ fieldLine field ++ newLine false ++
            response (fields.map fieldLine) body := by
        intro body
        simp [response, newLine]
      have inside : (front ++ newLine false ++ fieldLine field).length <
          (front ++ newLine false ++ fieldLine field ++ newLine false ++
            response (fields.map fieldLine) []).length := by
        simp [newLine, response]
      rw [split, split, parseLines_field valid.1 inside, ih valid.2]
      rfl

theorem Field.headerLine (valid : Field field) : HeaderLine (fieldLine field) :=
  ⟨List.append_ne_nil_of_right_ne_nil _ (List.cons_ne_nil _ _), valid.noCR, valid.noLF⟩

def requestLine (method path version : Str) : Str := method ++ ' ' :: (path ++ ' ' :: version)

theorem response_append (lines : List Str) (body : Str) :
    response lines body = response lines [] ++ body := by
  rw [response, response, List.append_nil]

/-- The body starts where the header ends. -/
theorem find_headerEnd {lines : List Str} (some_line : lines ≠ [])
    (header : ∀ line ∈ lines, HeaderLine line) (body : Str) :
    ∃ n, Str.find (response lines body) headerEnd = some n ∧
      n + 4 = (response lines []).length := by
  rcases find_response some_line header body with ⟨n, found, dropped⟩
  have inside : n + 4 ≤ (response lines body).length :=
    Str.find_length_le found (List.cons_ne_nil _ _)
  have lengths := congrArg List.length dropped
  rw [List.length_drop] at lengths
  rw [response_append, List.length_append] at lengths inside
  exact ⟨n, found, by omega⟩

/-- The first two words of a line. -/
theorem words_of_line {method path : Str} (methodWord : ' ' ∉ method) (pathWord : ' ' ∉ path)
    (rest : Str) :
    Str.findFirstOf ' ' (method ++ [' '] ++ path ++ ' ' :: rest) = some method.length ∧
      Str.front (some method.length) (method ++ [' '] ++ path ++ ' ' :: rest) = method ∧
      Str.slice (method ++ [' '] ++ path ++ ' ' :: rest) (method.length + 1)
        (Str.findCharFrom (method ++ [' '] ++ path ++ ' ' :: rest) ' ' (method.length + 1)) =
          path := by
  have split : method ++ [' '] ++ path ++ ' ' :: rest = method ++ ' ' :: (path ++ ' ' :: rest) := by
    simp
  have wordStart : method.length + 1 = (method ++ [' ']).length := by
    rw [@List.length_append _ _ [' '], List.length_singleton]
  refine ⟨?_, ?_, ?_⟩
  · rw [split]
    exact Str.findFirstOf_append methodWord
  · rw [split]
    exact List.take_left
  · rw [wordStart, Str.findCharFrom_word pathWord]
    exact Str.slice_append _ _ _

/-- The first line, then its fields, then the body. -/
theorem parseRequest_response {method path version : Str} (methodWord : ' ' ∉ method)
    (pathWord : ' ' ∉ path) (line : HeaderLine (requestLine method path version))
    (valid : ∀ field ∈ fields, Field field) (body : Str) (headers : Headers) :
    parseRequest (response (requestLine method path version :: fields.map fieldLine) body)
        headers =
      (body, ((headers.set "method".toList method).set "path".toList path).read fields) := by
  have lines : ∀ line' ∈ requestLine method path version :: fields.map fieldLine,
      HeaderLine line' := by
    rw [List.forall_mem_cons, List.forall_mem_map]
    exact ⟨line, fun field member => (valid field member).headerLine⟩
  rcases find_headerEnd (List.cons_ne_nil _ _) lines body with ⟨n, found, bodyStart⟩
  have dropped : (response (requestLine method path version :: fields.map fieldLine) body).drop
      (n + 4) = body := by
    rw [bodyStart, response_append _ body, List.drop_left]
  have split : ∀ body, response (requestLine method path version :: fields.map fieldLine) body =
      requestLine method path version ++ newLine false ++ response (fields.map fieldLine) body := by
    intro body
    simp [response, newLine]
  have firstEnd : Str.find (response (requestLine method path version :: fields.map fieldLine) body)
      (newLine false) = some (requestLine method path version).length := by
    rw [split, List.append_assoc]
    exact Str.find_append_cons line.noCR ['\n'] _
  have read := parseLines_fields valid (requestLine method path version) body
    ((headers.set "method".toList method).set "path".toList path)
  rw [← split, ← split, ← bodyStart] at read
  have words : method ++ [' '] ++ path ++ ' ' :: (version ++ newLine false ++
      response (fields.map fieldLine) body) =
        response (requestLine method path version :: fields.map fieldLine) body := by
    rw [split, requestLine]
    simp
  obtain ⟨methodEnd, method_eq, path_eq⟩ := words_of_line methodWord pathWord
    (version ++ newLine false ++ response (fields.map fieldLine) body)
  rw [words] at methodEnd method_eq path_eq
  rcases Nat.exists_eq_add_one.mpr (List.length_pos_of_ne_nil line.nonempty) with ⟨k, nonempty⟩
  unfold parseRequest parseHttpHeaders
  simp only [found, reduceCtorEq, false_and, decide_false, firstEnd, methodEnd, Option.map_some,
    Option.getD_some, method_eq, path_eq, if_true, Option.elim_some, dropped]
  rw [nonempty] at read ⊢
  exact congrArg (Prod.mk body) read

end HttpParser

end GpsInformer
