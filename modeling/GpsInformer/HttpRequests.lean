import GpsInformer.Lib.FormCoding
import GpsInformer.TelegramBot
import GpsInformer.Url

/-!
# Requests (HttpParser.cpp)

`generateRequest` writes a request, with its arguments as a form or, where one of them is
a file, in several parts between boundaries.  `urlEncode` writes into a stream whose
settings stay from one byte to the next (`OStream`); each byte is written alike
nevertheless (`urlEncode_eq`).  Reading a request gives back what it is made of
(`parseRequest_generateRequest`).
-/

namespace GpsInformer

open Lib

/-- A `std::stringstream`: what is in it, and the settings of its output. -/
structure OStream where
  str : Str := []
  fill : Char := ' '
  width : Nat := 0
  hex : Bool := false
  uppercase : Bool := false

namespace OStream

/-- Formatted output is filled up to the width, which it resets. -/
def write (ss : OStream) (text : Str) : OStream :=
  { ss with str := ss.str ++ (List.replicate (ss.width - text.length) ss.fill ++ text), width := 0 }

/-- `ss << c` -/
def writeChar (ss : OStream) (c : Char) : OStream := ss.write [c]

/-- `ss << n` -/
def writeUnsigned (ss : OStream) (n : Nat) : OStream :=
  let digits := Nat.toDigits (if ss.hex then 16 else 10) n
  ss.write (if ss.uppercase then digits.map Char.toUpper else digits)

end OStream

namespace HttpParser

def legitPunctuation : Str :=
  "ABCDEFGHIJKLMNOPQRSTUVWXYZabcdefghijklmnopqrstuvwxyz0123456789_.-~:".toList

/-- The body of the loop of `urlEncode` -/
def encodeChar (additionalLegitChars : Str) (ss : OStream) (c : Char) : OStream :=
  if Str.findFirstOf c legitPunctuation = none ∧ Str.findFirstOf c additionalLegitChars = none then
    let ss := ss.writeChar '%'
    { ss with uppercase := true, fill := '0', width := 2, hex := true }.writeUnsigned
      (c.toNat % 256)
  else ss.writeChar c

def urlEncode (value additionalLegitChars : Str) : Str :=
  (value.foldl (encodeChar additionalLegitChars) {}).str

/-- The body of the loop of `generateWwwFormUrlencoded`, over `result` and `firstRun` -/
def writeItem (written : Str × Bool) (item : HttpReqArg) : Str × Bool :=
  let result := if written.2 then written.1 else written.1 ++ ['&']
  (result ++ urlEncode item.name [] ++ ['='] ++ urlEncode item.value [], false)

def generateWwwFormUrlencoded (args : List HttpReqArg) : Str :=
  (args.foldl writeItem ([], true)).1

/-! ## Several parts -/

def randomChars : Str :=
  ("qwertyuiopasdfghjklzxcvbnmQWERTYUIOPASDFGHJKLZXCVBNM1234567890-=[]\\;',./!@#$%^&*()_+" ++
    "\x7b\x7d|:\"<>?`~").toList

/-- `rand n` is what the `n`-th call of `rand()` after `srand` returns; `called` of them
have been made. -/
def generateRandomString (rand : Nat → Nat) (called length : Nat) : Str :=
  (List.range length).map fun i =>
    randomChars.getD (rand (called + i) % randomChars.length) ' '

/-- The boundary is extended until the value does not have it; every character of it has
taken one call of `rand()`. -/
def extendBoundary (rand : Nat → Nat) (value boundary : Str) : Str :=
  if boundary = [] ∨ value.find boundary ≠ none then
    extendBoundary rand value (boundary ++ generateRandomString rand boundary.length 4)
  else boundary
termination_by value.length + 1 - boundary.length
decreasing_by
  rename_i goesOn
  have longer : (generateRandomString rand boundary.length 4).length = 4 := by
    rw [generateRandomString, List.length_map, List.length_range]
  have inside : boundary.length ≤ value.length := by
    rcases goesOn with rfl | found
    · exact Nat.zero_le _
    · by_cases empty : boundary = []
      · simp [empty]
      · rcases Option.ne_none_iff_exists'.mp found with ⟨n, found⟩
        have := Str.find_length_le found empty
        omega
  rw [List.length_append, longer]
  omega

def generateMultipartBoundary (rand : Nat → Nat) (args : List HttpReqArg) : Str :=
  args.foldl (fun result item => if item.isFile then extendBoundary rand item.value result
    else result) []

def multipartItem (boundary : Str) (item : HttpReqArg) : Str :=
  "--".toList ++ boundary ++ "\r\nContent-Disposition: form-data; name=\"".toList ++ item.name ++
    (if item.isFile then "\"; filename=\"".toList ++ item.fileName else []) ++ "\"\r\n".toList ++
    (if item.isFile then "Content-Type: ".toList ++ item.mimeType ++ "\r\n".toList else []) ++
    "\r\n".toList ++ item.value ++ "\r\n".toList

def generateMultipartFormData (args : List HttpReqArg) (boundary : Str) : Str :=
  args.flatMap (multipartItem boundary) ++ "--".toList ++ boundary ++ "--\r\n".toList

def generateRequest (rand : Nat → Nat) (url : Url) (args : List HttpReqArg) (isKeepAlive : Bool) :
    Str :=
  (if args.isEmpty then "GET ".toList else "POST ".toList) ++ url.path ++
    (if url.query.isEmpty then [] else '?' :: url.query) ++ " HTTP/1.1\r\n".toList ++
    "Host: ".toList ++ url.host ++ "\r\nConnection: ".toList ++
    (if isKeepAlive then "keep-alive".toList else "close".toList) ++ "\r\n".toList ++
    if args.isEmpty then "\r\n".toList
    else
      let boundary := generateMultipartBoundary rand args
      let contentType :=
        if boundary.isEmpty then "Content-Type: application/x-www-form-urlencoded\r\n".toList
        else "Content-Type: multipart/form-data; boundary=".toList ++ boundary ++ "\r\n".toList
      let requestData :=
        if boundary.isEmpty then generateWwwFormUrlencoded args
        else generateMultipartFormData args boundary
      contentType ++ "Content-Length: ".toList ++ lexicalCast requestData.length ++
        "\r\n\r\n".toList ++ requestData

/-! ## The encoding -/

def legit (c : Char) : Bool := c ∈ legitPunctuation

/-- A byte has two digits, the first one filled in where it is 0. -/
theorem hexPair {n : Nat} (byte : n < 256) :
    List.replicate (2 - ((Nat.toDigits 16 n).map Char.toUpper).length) '0' ++
      (Nat.toDigits 16 n).map Char.toUpper = [hexDigit (n / 16), hexDigit (n % 16)] := by
  rcases Nat.lt_or_ge n 16 with one | two
  · have high : n / 16 = 0 := by omega
    have low : n % 16 = n := by omega
    rw [Nat.toDigits_of_lt_base one, high, low]
    rfl
  · have high : n / 16 < 16 := by omega
    rw [Nat.toDigits_of_base_le (by omega) two, Nat.toDigits_of_lt_base high]
    rfl

/-- A byte is written in the same way whatever the settings are, and leaves no width. -/
theorem encodeChar_eq (ss : OStream) (noWidth : ss.width = 0) (c : Char) :
    (encodeChar [] ss c).str = ss.str ++ percentEncode legit [c] ∧
      (encodeChar [] ss c).width = 0 := by
  have alone : List.replicate (0 - [c].length) ss.fill ++ [c] = [c] := rfl
  have other : Str.findFirstOf c legitPunctuation = none ↔ c ∉ legitPunctuation :=
    Str.findFirstOf_eq_none_iff
  unfold encodeChar percentEncode
  rw [List.flatMap_cons, List.flatMap_nil, List.append_nil]
  by_cases passes : c ∈ legitPunctuation
  · have legit_c : legit c = true := decide_eq_true passes
    rw [if_neg fun both => other.mp both.1 passes, if_pos legit_c]
    refine ⟨?_, rfl⟩
    rw [OStream.writeChar, OStream.write, noWidth]
    exact congrArg (ss.str ++ ·) alone
  · have stopped : legit c ≠ true := fun legit => passes (of_decide_eq_true legit)
    rw [if_pos ⟨other.mpr passes, rfl⟩, if_neg stopped]
    refine ⟨?_, rfl⟩
    have pair := hexPair (Nat.mod_lt c.toNat (by omega : 0 < 256))
    simp only [OStream.writeChar, OStream.write, OStream.writeUnsigned, noWidth, if_true]
    rw [pair]
    simp [percentByte]

theorem urlEncode_eq (value : Str) : urlEncode value [] = percentEncode legit value := by
  suffices ∀ ss : OStream, ss.width = 0 →
      (value.foldl (encodeChar []) ss).str = ss.str ++ percentEncode legit value from
    this {} rfl
  intro ss noWidth
  induction value generalizing ss with
  | nil => exact (List.append_nil _).symm
  | cons c value ih =>
      rcases encodeChar_eq ss noWidth c with ⟨written, noWidth⟩
      rw [List.foldl_cons, ih _ noWidth, written, List.append_assoc, ← percentEncode_append,
        List.singleton_append]

theorem generateWwwFormUrlencoded_eq (args : List HttpReqArg) :
    generateWwwFormUrlencoded args =
      formEncode legit (args.map fun item => (item.name, item.value)) := by
  cases args with
  | nil => rfl
  | cons item items =>
      suffices ∀ result, ((item :: items).foldl writeItem (result, true)).1 =
          result ++ formEncode legit ((item :: items).map fun item => (item.name, item.value)) from
        this []
      have first : ∀ result item, writeItem (result, true) item =
          (result ++ encodePair legit (item.name, item.value), false) := by
        intro result item
        simp [writeItem, encodePair, urlEncode_eq]
      induction items generalizing item with
      | nil =>
          intro result
          rw [List.foldl_cons, first, List.foldl_nil, List.map_singleton, formEncode,
            List.map_singleton, List.intercalate_singleton]
      | cons next items ih =>
          intro result
          have joined : ∀ result, writeItem (result, false) next =
              writeItem (result ++ ['&'], true) next := fun _ => rfl
          have rest := ih next (result ++ encodePair legit (item.name, item.value) ++ ['&'])
          rw [List.foldl_cons] at rest
          rw [List.foldl_cons, first, List.foldl_cons, joined, rest]
          simp only [formEncode, List.map_cons, List.intercalate_cons_cons, List.append_assoc]

/-! ## Reading a request -/

theorem generateMultipartBoundary_eq (rand : Nat → Nat) {args : List HttpReqArg}
    (noFile : ∀ item ∈ args, item.isFile = false) : generateMultipartBoundary rand args = [] := by
  rw [generateMultipartBoundary]
  induction args with
  | nil => rfl
  | cons item args ih =>
      rw [List.forall_mem_cons] at noFile
      rw [List.foldl_cons, noFile.1]
      exact ih noFile.2

def contentType : Str := " application/x-www-form-urlencoded".toList

def fieldNames : List Str :=
  ["Host".toList, "Connection".toList, "Content-Type".toList, "Content-Length".toList]

/-- The fields of a request with a form. -/
def requestFields (isKeepAlive : Bool) (host body : Str) : List (Str × Str) :=
  [("Host".toList, ' ' :: host),
    ("Connection".toList, ' ' :: if isKeepAlive then "keep-alive".toList else "close".toList),
    ("Content-Type".toList, contentType),
    ("Content-Length".toList, ' ' :: lexicalCast body.length)]

/-- What follows `POST `: the path and, unless it is empty, the query. -/
def target (url : Url) : Str := url.path ++ if url.query.isEmpty then [] else '?' :: url.query

/-- A request with a form is a message. -/
theorem generateRequest_eq (rand : Nat → Nat) (url : Url) {args : List HttpReqArg}
    (nonempty : args ≠ []) (noFile : ∀ item ∈ args, item.isFile = false) (isKeepAlive : Bool) :
    generateRequest rand url args isKeepAlive =
      response (requestLine "POST".toList (target url) "HTTP/1.1".toList ::
          (requestFields isKeepAlive url.host (generateWwwFormUrlencoded args)).map fieldLine)
        (generateWwwFormUrlencoded args) := by
  have some_arg : args.isEmpty = false := List.isEmpty_eq_false_iff.mpr nonempty
  have noBoundary : (generateMultipartBoundary rand args).isEmpty = true := by
    rw [generateMultipartBoundary_eq rand noFile, List.isEmpty_nil]
  have post : "POST ".toList = "POST".toList ++ [' '] := rfl
  have version : " HTTP/1.1\r\n".toList = ' ' :: "HTTP/1.1".toList ++ ['\r', '\n'] := rfl
  have host : "Host: ".toList = "Host".toList ++ [':', ' '] := rfl
  have connection : "\r\nConnection: ".toList =
      ['\r', '\n'] ++ "Connection".toList ++ [':', ' '] := rfl
  have form : "Content-Type: application/x-www-form-urlencoded\r\n".toList =
      "Content-Type".toList ++ ':' :: contentType ++ ['\r', '\n'] := rfl
  have length : "Content-Length: ".toList = "Content-Length".toList ++ [':', ' '] := rfl
  have newLine : "\r\n".toList = ['\r', '\n'] := rfl
  have emptyLine : "\r\n\r\n".toList = ['\r', '\n', '\r', '\n'] := rfl
  unfold generateRequest
  dsimp only
  rw [some_arg, noBoundary]
  simp only [Bool.false_eq_true, if_false, if_true, post, version, host, connection, form, length,
    newLine, emptyLine, response, requestLine, requestFields, fieldLine, target, List.map_cons,
    List.map_nil, List.flatMap_cons, List.flatMap_nil, List.append_assoc, List.cons_append,
    List.nil_append, List.append_nil]

/-! ## Lines of visible characters -/

theorem not_isSpace {c : Char} (visible : IsVisible c) : Str.isSpace c = false := by
  have above : 32 < c.toNat := visible.1
  have notTab : ¬ (c = ' ' ∨ '\t' ≤ c ∧ c ≤ '\r') := by
    rintro (rfl | ⟨_, below⟩)
    · exact Nat.lt_irrefl 32 above
    · have small : c.toNat ≤ 13 := below
      omega
  exact decide_eq_false notTab

theorem not_mem_of_visible {s : Str} {c : Char} (visible : ∀ d ∈ s, IsVisible d)
    (hidden : ¬ IsVisible c) : c ∉ s := fun member => hidden (visible c member)

/-- A name, and after a space a value. -/
theorem field_visible {name value : Str} (noSeparator : ':' ∉ name)
    (nameVisible : ∀ c ∈ name, IsVisible c) (visible : ∀ c ∈ value, IsVisible c) :
    Field (name, ' ' :: value) := by
  have absent : ∀ c, ¬ IsVisible c → c ≠ ':' → c ≠ ' ' → c ∉ fieldLine (name, ' ' :: value) := by
    intro c hidden notColon notSpace member
    rcases List.mem_append.mp member with member | member
    · exact hidden (nameVisible c member)
    · rcases List.mem_cons.mp member with same | member
      · exact notColon same
      · rcases List.mem_cons.mp member with same | member
        · exact notSpace same
        · exact hidden (visible c member)
  exact ⟨noSeparator, absent _ (by decide) (by decide) (by decide),
    absent _ (by decide) (by decide) (by decide)⟩

theorem headerLine_of_visible {method path version : Str}
    (methodVisible : ∀ c ∈ method, IsVisible c) (pathVisible : ∀ c ∈ path, IsVisible c)
    (versionVisible : ∀ c ∈ version, IsVisible c) :
    HeaderLine (requestLine method path version) := by
  have absent : ∀ c, ¬ IsVisible c → c ≠ ' ' → c ∉ requestLine method path version := by
    intro c hidden notSpace member
    rcases List.mem_append.mp member with member | member
    · exact hidden (methodVisible c member)
    · rcases List.mem_cons.mp member with same | member
      · exact notSpace same
      · rcases List.mem_append.mp member with member | member
        · exact hidden (pathVisible c member)
        · rcases List.mem_cons.mp member with same | member
          · exact notSpace same
          · exact hidden (versionVisible c member)
  exact ⟨List.append_ne_nil_of_right_ne_nil _ (List.cons_ne_nil _ _),
    absent _ (by decide) (by decide), absent _ (by decide) (by decide)⟩

theorem visible_lexicalCast (n : Nat) : ∀ c ∈ lexicalCast n, IsVisible c := by
  intro c member
  rw [lexicalCast, if_neg (by omega), Int.toNat_natCast] at member
  have digit : c.isDigit = true := Nat.isDigit_of_mem_toDigits (by omega) (by omega) member
  rcases Char.isDigit_iff_toNat.mp digit with ⟨low, high⟩
  have low : 48 ≤ c.toNat := low
  have high : c.toNat ≤ 57 := high
  exact ⟨by omega, by omega⟩

/-! ## Headers -/

@[simp] theorem Headers.set_self (headers : Headers) (key value : Str) :
    headers.set key value key = some value := Function.update_self ..

theorem Headers.set_of_ne (headers : Headers) {key key' : Str} (value : Str) (other : key' ≠ key) :
    headers.set key value key' = headers key' := Function.update_of_ne other ..

theorem Headers.read_of_ne (headers : Headers) {fields : List (Str × Str)} {key : Str}
    (other : ∀ field ∈ fields, key ≠ Str.toLower field.1) :
    headers.read fields key = headers key := by
  induction fields generalizing headers with
  | nil => rfl
  | cons field fields ih =>
      rw [List.forall_mem_cons] at other
      exact (ih _ other.2).trans (headers.set_of_ne _ other.1)

variable {isKeepAlive : Bool} {host body : Str}

theorem requestFields_valid (visible : ∀ c ∈ host, IsVisible c) :
    ∀ field ∈ requestFields isKeepAlive host body, Field field := by
  simp only [requestFields, List.forall_mem_cons]
  refine ⟨field_visible (by decide) (Str.forall_of_all rfl) visible,
    field_visible (by decide) (Str.forall_of_all rfl) ?_,
    field_visible (by decide) (Str.forall_of_all rfl) (Str.forall_of_all rfl),
    field_visible (by decide) (Str.forall_of_all rfl) (visible_lexicalCast _),
    List.forall_mem_nil _⟩
  cases isKeepAlive <;> exact Str.forall_of_all rfl

theorem read_requestFields_of_ne (headers : Headers) {key : Str}
    (other : ∀ name ∈ fieldNames, key ≠ Str.toLower name) :
    headers.read (requestFields isKeepAlive host body) key = headers key := by
  refine headers.read_of_ne fun field member => other field.1 ?_
  have names : (requestFields isKeepAlive host body).map Prod.fst = fieldNames := rfl
  rw [← names]
  exact List.mem_map_of_mem member

/-- What the fields of a request put into the headers. -/
theorem read_requestFields (visible : ∀ c ∈ host, IsVisible c) (headers : Headers) :
    headers.read (requestFields isKeepAlive host body) "host".toList = some host ∧
      headers.read (requestFields isKeepAlive host body) "content-length".toList =
        some (lexicalCast body.length) := by
  have hostKey : Str.toLower "Host".toList = "host".toList := by decide
  have connectionKey : Str.toLower "Connection".toList = "connection".toList := by decide
  have typeKey : Str.toLower "Content-Type".toList = "content-type".toList := by decide
  have lengthKey : Str.toLower "Content-Length".toList = "content-length".toList := by decide
  have trimmed : Str.trim (' ' :: host) = host :=
    Str.trim_space_cons fun c member => not_isSpace (visible c member)
  have trimmedLength : Str.trim (' ' :: lexicalCast body.length) = lexicalCast body.length :=
    Str.trim_space_cons fun c member => not_isSpace (visible_lexicalCast _ c member)
  simp only [requestFields, Headers.read, List.foldl_cons, List.foldl_nil, hostKey, connectionKey,
    typeKey, lengthKey, trimmed, trimmedLength]
  refine ⟨?_, Headers.set_self ..⟩
  rw [Headers.set_of_ne _ _ (by decide), Headers.set_of_ne _ _ (by decide),
    Headers.set_of_ne _ _ (by decide), Headers.set_self]

/-! ## Requests -/

theorem target_parse (s : UrlString) : target (Url.parse s.text) = s.target := by
  rw [Url.parse_text, target, UrlString.target]
  simp only [List.isEmpty_iff]

/-- Reading a request with a form gives back what it is made of. -/
theorem parseRequest_generateRequest (rand : Nat → Nat) (s : UrlString) {args : List HttpReqArg}
    (nonempty : args ≠ []) (noFile : ∀ item ∈ args, item.isFile = false)
    (bytes : ∀ item ∈ args, (∀ c ∈ item.name, c.toNat < 256) ∧ ∀ c ∈ item.value, c.toNat < 256)
    (isKeepAlive : Bool) (headers : Headers) :
    ∃ body parsed,
      parseRequest (generateRequest rand (Url.parse s.text) args isKeepAlive) headers =
        (body, parsed) ∧
      parsed "method".toList = some "POST".toList ∧
      parsed "path".toList = some s.target ∧
      parsed "host".toList = some s.host ∧
      parsed "content-length".toList = some (lexicalCast body.length) ∧
      formDecode body = args.map fun item => (item.name, item.value) := by
  have hostVisible : ∀ c ∈ s.host, IsVisible c := s.visible s.host (by simp)
  have postVisible : ∀ c ∈ "POST".toList, IsVisible c := Str.forall_of_all rfl
  have line : HeaderLine (requestLine "POST".toList s.target "HTTP/1.1".toList) :=
    headerLine_of_visible postVisible s.visible_target (Str.forall_of_all rfl)
  have host : (Url.parse s.text).host = s.host := by rw [Url.parse_text]
  obtain ⟨readHost, readLength⟩ := @read_requestFields isKeepAlive s.host
    (generateWwwFormUrlencoded args) hostVisible
    ((headers.set "method".toList "POST".toList).set "path".toList s.target)
  refine ⟨generateWwwFormUrlencoded args, _, ?_, ?_, ?_, readHost, readLength, ?_⟩
  · rw [generateRequest_eq rand _ nonempty noFile, target_parse, host]
    exact parseRequest_response (not_mem_of_visible postVisible (by decide))
      (not_mem_of_visible s.visible_target (by decide)) line (requestFields_valid hostVisible) _ _
  · rw [read_requestFields_of_ne _ (by decide), Headers.set_of_ne _ _ (by decide),
      Headers.set_self]
  · rw [read_requestFields_of_ne _ (by decide), Headers.set_self]
  · have someArgs : (args.map fun item => (item.name, item.value)) ≠ [] :=
      mt List.map_eq_nil_iff.mp nonempty
    rw [generateWwwFormUrlencoded_eq]
    refine formDecode_formEncode ⟨by decide, by decide, by decide⟩ someArgs ?_
    rw [List.forall_mem_map]
    exact bytes

def sampleUrl : UrlString where
  protocol := "https".toList
  host := "host:443".toList
  path := "bot/sendMessage".toList
  query := some "a=?".toList
  fragment := some "top".toList
  protocol_ends := by decide
  host_ends := Str.forall_of_all rfl
  path_ends := Str.forall_of_all rfl
  query_ends := Str.forall_of_all rfl
  visible := by
    simp only [List.forall_mem_cons]
    exact ⟨Str.forall_of_all rfl, Str.forall_of_all rfl, Str.forall_of_all rfl,
      Str.forall_of_all rfl, Str.forall_of_all rfl, List.forall_mem_nil _⟩

/-- A text with separators, bytes that are no text, and an argument without a name. -/
def sampleArguments : List HttpReqArg :=
  [{ name := "text".toList, value := ['a', '&', '=', '%', Char.ofNat 0, Char.ofNat 255] },
    { name := [], value := [] }]

theorem parseRequest_sampleRequest :
    ∃ body parsed,
      parseRequest (generateRequest id (Url.parse sampleUrl.text) sampleArguments false)
        (fun _ => none) = (body, parsed) ∧
      parsed "method".toList = some "POST".toList ∧
      parsed "path".toList = some sampleUrl.target ∧
      parsed "host".toList = some sampleUrl.host ∧
      parsed "content-length".toList = some (lexicalCast body.length) ∧
      formDecode body = sampleArguments.map fun item => (item.name, item.value) :=
  parseRequest_generateRequest id sampleUrl (List.cons_ne_nil _ _) (by decide)
    (List.forall_mem_cons.mpr ⟨⟨Str.forall_of_all rfl, Str.forall_of_all rfl⟩,
      List.forall_mem_singleton.mpr ⟨List.forall_mem_nil _, List.forall_mem_nil _⟩⟩) false _

end HttpParser

end GpsInformer
