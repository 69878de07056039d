import GpsInformer.HttpRequests
import GpsInformer.Lib.Delimited

/-!
# Requests with files (HttpParser.cpp)

A request one of whose arguments is a file is written in parts between boundaries.  The
boundary is chosen so that no file contains it (`generateMultipartBoundary_chosen`), but the other
arguments are not looked at: the request is read back iff none of them contains it where it
counts (`readMultipart_generateRequest_iff`).
-/

namespace GpsInformer

open Lib Lib.Delimited

namespace Str

variable {s pattern : Str}

theorem find_eq_none_iff : find s pattern = none ↔ ¬ pattern <:+: s := by
  induction s with
  | nil =>
      rw [find, List.infix_nil]
      split
      · rename_i empty
        exact iff_of_false (Option.some_ne_none 0) (not_not.mpr empty)
      · rename_i nonempty
        exact iff_of_true rfl nonempty
  | cons c s ih =>
      rw [find, List.infix_cons_iff, ← List.isPrefixOf_iff_prefix]
      split
      · rename_i begins
        exact iff_of_false (Option.some_ne_none 0) (not_not.mpr (Or.inl begins))
      · rename_i begins
        rw [Option.map_eq_none_iff, ih, not_or, and_iff_right begins]

/-- The space in front is all that is trimmed from a text between visible characters. -/
theorem trim_space_of_ends {front : Char} (starts : isSpace front = false) {s : Str} {last : Char}
    (ends : isSpace last = false) :
    trim (' ' :: front :: (s ++ [last])) = front :: (s ++ [last]) := by
  rw [trim, List.dropWhile_cons_of_pos (by decide),
    List.dropWhile_cons_of_neg (by simp [starts]), ← List.cons_append, List.rdropWhile_concat_neg]
  simp [ends]

end Str

namespace HttpParser

/-! ## The boundary -/

theorem mem_generateRandomString {rand : Nat → Nat} {called length : Nat} {c : Char}
    (member : c ∈ generateRandomString rand called length) : c ∈ randomChars := by
  obtain ⟨i, _, rfl⟩ := List.mem_map.mp member
  have inside : rand (called + i) % randomChars.length < randomChars.length :=
    Nat.mod_lt _ (by decide)
  rw [List.getD_eq_getElem?_getD, List.getElem?_eq_getElem inside]
  exact List.getElem_mem inside

theorem length_generateRandomString (rand : Nat → Nat) (called length : Nat) :
    (generateRandomString rand called length).length = length := by
  rw [generateRandomString, List.length_map, List.length_range]

/-- A boundary made of random characters that begins with another one, and is not longer than
`limit` unless that is. -/
structure Extends (old new : Str) (limit : Nat) : Prop where
  begins : old <+: new
  random : (∀ c ∈ old, c ∈ randomChars) → ∀ c ∈ new, c ∈ randomChars
  length : new.length ≤ max old.length limit

theorem Extends.refl (old : Str) (limit : Nat) : Extends old old limit :=
  ⟨List.prefix_refl old, id, Nat.le_max_left _ _⟩

theorem Extends.trans {a b c : Str} {m n : Nat} (first : Extends a b m) (second : Extends b c n) :
    Extends a c (max m n) where
  begins := first.begins.trans second.begins
  random := second.random ∘ first.random
  length := by
    have one := first.length
    have two := second.length
    omega

/-- The loop for one file. -/
theorem extendBoundary_spec (rand : Nat → Nat) (value boundary : Str) :
    Extends boundary (extendBoundary rand value boundary) (value.length + 4) ∧
      extendBoundary rand value boundary ≠ [] ∧
      ¬ extendBoundary rand value boundary <:+: value := by
  fun_induction extendBoundary rand value boundary with
  | case1 boundary goesOn ih =>
      refine ⟨?_, ih.2⟩
      have inside : boundary.length ≤ value.length := by
        rcases goesOn with rfl | found
        · exact Nat.zero_le _
        · by_contra longer
          apply found
          rw [Str.find_eq_none_iff]
          intro inside
          exact longer inside.length_le
      have step : Extends boundary
          (boundary ++ generateRandomString rand boundary.length 4) (value.length + 4) := by
        refine ⟨List.prefix_append _ _, fun random c member => ?_, ?_⟩
        · rcases List.mem_append.mp member with member | member
          · exact random c member
          · exact mem_generateRandomString member
        · rw [List.length_append, length_generateRandomString]
          omega
      have both := step.trans ih.1
      rwa [Nat.max_self] at both
  | case2 boundary stops =>
      rw [not_or, not_not, Str.find_eq_none_iff] at stops
      exact ⟨Extends.refl _ _, stops⟩

/-- Four more characters than the longest file has. -/
def fileLimit : List HttpReqArg → Nat
  | [] => 0
  | item :: args => max (if item.isFile then item.value.length + 4 else 0) (fileLimit args)

/-- The body of the loop over the arguments. -/
def extendFor (rand : Nat → Nat) (result : Str) (item : HttpReqArg) : Str :=
  if item.isFile then extendBoundary rand item.value result else result

theorem extendFor_spec (rand : Nat → Nat) (result : Str) (item : HttpReqArg) :
    Extends result (extendFor rand result item) (if item.isFile then item.value.length + 4 else 0) ∧
      (item.isFile = true → extendFor rand result item ≠ [] ∧
        ¬ extendFor rand result item <:+: item.value) := by
  unfold extendFor
  split
  · rename_i file
    have spec := extendBoundary_spec rand item.value result
    exact ⟨spec.1, fun _ => spec.2⟩
  · rename_i plain
    exact ⟨Extends.refl _ _, fun file => absurd file plain⟩

theorem foldl_extendFor (rand : Nat → Nat) (args : List HttpReqArg) (result : Str) :
    Extends result (args.foldl (extendFor rand) result) (fileLimit args) ∧
      ∀ item ∈ args, item.isFile = true → args.foldl (extendFor rand) result ≠ [] ∧
        ¬ args.foldl (extendFor rand) result <:+: item.value := by
  induction args generalizing result with
  | nil => exact ⟨Extends.refl _ _, List.forall_mem_nil _⟩
  | cons item args ih =>
      obtain ⟨first, chosen⟩ := extendFor_spec rand result item
      obtain ⟨rest, others⟩ := ih (extendFor rand result item)
      refine ⟨first.trans rest, List.forall_mem_cons.mpr ⟨fun file => ?_, others⟩⟩
      -- what extends a boundary that is not in the file is not in it either
      obtain ⟨nonempty, absent⟩ := chosen file
      constructor
      · rintro empty
        have begins := rest.begins
        rw [List.foldl_cons] at empty
        rw [empty, List.prefix_nil] at begins
        exact nonempty begins
      · intro inside
        exact absent (rest.begins.isInfix.trans inside)

/-- The boundary is made of random characters and is not empty iff there is a file; it is in
no file, and at most four characters longer than the longest one. -/
theorem generateMultipartBoundary_chosen (rand : Nat → Nat) (args : List HttpReqArg) :
    (∀ c ∈ generateMultipartBoundary rand args, c ∈ randomChars) ∧
      (generateMultipartBoundary rand args).length ≤ fileLimit args ∧
      (generateMultipartBoundary rand args = [] ↔ ∀ item ∈ args, item.isFile = false) ∧
      ∀ item ∈ args, item.isFile = true →
        ¬ generateMultipartBoundary rand args <:+: item.value := by
  have fold : generateMultipartBoundary rand args = args.foldl (extendFor rand) [] := rfl
  obtain ⟨extends', chosen⟩ := foldl_extendFor rand args []
  rw [fold]
  refine ⟨extends'.random (List.forall_mem_nil _), ?_, ?_, fun item member file =>
    (chosen item member file).2⟩
  · have length := extends'.length
    rwa [List.length_nil, Nat.zero_max] at length
  · constructor
    · intro empty item member
      by_contra file
      exact (chosen item member (by simpa using file)).1 empty
    · intro noFile
      rw [← fold]
      exact generateMultipartBoundary_eq rand noFile

/-! ## The parts -/

/-- What the server is to read of an argument. -/
structure Part where
  name : Str
  value : Str
  /-- the name and the type of a file -/
  file : Option (Str × Str)
  deriving DecidableEq, Repr

def part (item : HttpReqArg) : Part where
  name := item.name
  value := item.value
  file := if item.isFile then some (item.fileName, item.mimeType) else none

def delimiter (boundary : Str) : Str := '\r' :: '\n' :: '-' :: '-' :: boundary

/-- The lines between the boundary and the value. -/
def partLines (item : HttpReqArg) : List Str :=
  ("Content-Disposition: form-data; name=\"".toList ++ item.name ++
      (if item.isFile then "\"; filename=\"".toList ++ item.fileName else []) ++ ['"']) ::
    (if item.isFile then ["Content-Type: ".toList ++ item.mimeType] else []) ++ [[]]

/-- What stands between two delimiters. -/
def piece (item : HttpReqArg) : Str :=
  (partLines item).flatMap (fun line => '\r' :: '\n' :: line) ++ '\r' :: '\n' :: item.value

/-- What follows the last delimiter. -/
def closing : Str := ['-', '-', '\r', '\n']

def pieces (args : List HttpReqArg) : List Str :=
  [] :: (args.map piece ++ [closing])

theorem multipartItem_eq (boundary : Str) (item : HttpReqArg) :
    multipartItem boundary item = '-' :: '-' :: (boundary ++ (piece item ++ ['\r', '\n'])) := by
  have dashes : "--".toList = ['-', '-'] := rfl
  have disposition : "\r\nContent-Disposition: form-data; name=\"".toList =
      '\r' :: '\n' :: "Content-Disposition: form-data; name=\"".toList := rfl
  have quoteEnd : "\"\r\n".toList = ['"', '\r', '\n'] := rfl
  have lineEnd : "\r\n".toList = ['\r', '\n'] := rfl
  unfold multipartItem piece partLines
  rw [dashes, disposition, quoteEnd, lineEnd]
  cases item.isFile with
  | false =>
      simp only [Bool.false_eq_true, if_false, List.append_assoc, List.cons_append,
        List.nil_append, List.append_nil, List.flatMap_cons, List.flatMap_nil]
  | true =>
      simp only [if_true, List.append_assoc, List.cons_append, List.nil_append, List.append_nil,
        List.flatMap_cons, List.flatMap_nil]

/-- The body, after a line end, is the pieces joined by the delimiter. -/
theorem generateMultipartFormData_eq (args : List HttpReqArg) (boundary : Str) :
    '\r' :: '\n' :: generateMultipartFormData args boundary =
      (delimiter boundary).intercalate (pieces args) := by
  have dashes : "--".toList = ['-', '-'] := rfl
  have last : "--\r\n".toList = closing := rfl
  have joined : '\r' :: '\n' :: (args.flatMap (multipartItem boundary) ++ ['-', '-']) =
      (args.map piece).flatMap (delimiter boundary ++ ·) ++ ['\r', '\n', '-', '-'] := by
    induction args with
    | nil => rfl
    | cons item args ih =>
        rw [List.flatMap_cons, multipartItem_eq, List.map_cons, List.flatMap_cons,
          List.append_assoc, List.append_assoc (delimiter boundary ++ piece item), ← ih, delimiter]
        simp only [List.append_assoc, List.cons_append, List.nil_append]
  rw [pieces, intercalate_cons, List.nil_append, List.flatMap_append, List.flatMap_singleton,
    generateMultipartFormData, dashes, last, ← List.cons_append, ← List.cons_append, delimiter]
  rw [← List.cons_append, ← List.cons_append, joined, delimiter]
  simp only [List.append_assoc, List.cons_append, List.nil_append]

/-! ## Reading the parts -/

/-- What follows a pattern. -/
def strip (pattern s : Str) : Option Str :=
  if pattern <+: s then some (s.drop pattern.length) else none

/-- What is before a character, and the rest. -/
def upTo (c : Char) (s : Str) : Str × Str := (s.takeWhile (· ≠ c), s.dropWhile (· ≠ c))

def readPart (s : Str) : Option Part := do
  let s ← strip "\r\nContent-Disposition: form-data; name=\"".toList s
  let name := (upTo '"' s).1
  let s := (upTo '"' s).2
  if "\"; filename=\"".toList <+: s then
    let s ← strip "\"; filename=\"".toList s
    let fileName := (upTo '"' s).1
    let s ← strip "\"\r\nContent-Type: ".toList (upTo '"' s).2
    let mimeType := (upTo '\r' s).1
    let value ← strip "\r\n\r\n".toList (upTo '\r' s).2
    some { name, value, file := some (fileName, mimeType) }
  else
    let value ← strip "\"\r\n\r\n".toList s
    some { name, value, file := none }

/-- Before the first delimiter there is nothing, and two dashes follow the last one. -/
def readPieces : List Str → Option (List Part)
  | [] :: pieces =>
      if pieces.getLast? = some closing then pieces.dropLast.mapM readPart else none
  | _ => none

/-- The server splits the body, after a line end, at the delimiter. -/
def readMultipart (boundary body : Str) : Option (List Part) :=
  readPieces (split (delimiter boundary) ('\r' :: '\n' :: body))

/-- Names and types that can stand in a header. -/
structure Named (item : HttpReqArg) : Prop where
  name : ∀ c ∈ item.name, c ≠ '"' ∧ c ≠ '\r'
  fileName : ∀ c ∈ item.fileName, c ≠ '"' ∧ c ≠ '\r'
  mimeType : '\r' ∉ item.mimeType

theorem strip_append (pattern s : Str) : strip pattern (pattern ++ s) = some s := by
  rw [strip, if_pos (List.prefix_append _ _), List.drop_left]

theorem upTo_append {c : Char} {s : Str} (absent : ∀ d ∈ s, d ≠ c) (t : Str) :
    upTo c (s ++ c :: t) = (s, c :: t) := by
  rw [upTo, List.takeWhile_append_of_pos (by simpa using absent),
    List.dropWhile_append_of_pos (by simpa using absent), List.takeWhile_cons_of_neg (by simp),
    List.dropWhile_cons_of_neg (by simp), List.append_nil]

theorem readPart_piece {item : HttpReqArg} (named : Named item) :
    readPart (piece item) = some (part item) := by
  have quoted : ∀ c ∈ item.name, c ≠ '"' := fun c member => (named.name c member).1
  obtain ⟨name, value, isFile, mimeType, fileName⟩ := item
  cases isFile with
  | false =>
      have written : piece { name, value, isFile := false, mimeType, fileName } =
          "\r\nContent-Disposition: form-data; name=\"".toList ++
            (name ++ '"' :: ("\r\n\r\n".toList ++ value)) := by
        unfold piece partLines
        simp only [Bool.false_eq_true, if_false, List.append_nil, List.flatMap_cons,
          List.flatMap_nil, List.append_assoc, List.cons_append, List.nil_append]
        rfl
      have value' : '"' :: ("\r\n\r\n".toList ++ value) = "\"\r\n\r\n".toList ++ value := rfl
      have noFile : ¬ "\"; filename=\"".toList <+: '"' :: ("\r\n\r\n".toList ++ value) := by
        rintro ⟨rest, same⟩
        cases (List.cons.inj (List.cons.inj same).2).1
      unfold readPart
      rw [written, strip_append]
      simp only [Option.bind_eq_bind, Option.bind_some]
      rw [upTo_append quoted, if_neg noFile, value', strip_append]
      rfl
  | true =>
      have fileQuoted : ∀ c ∈ fileName, c ≠ '"' := fun c member => (named.fileName c member).1
      have typed : ∀ c ∈ mimeType, c ≠ '\r' := fun c member same => named.mimeType (same ▸ member)
      have written : piece { name, value, isFile := true, mimeType, fileName } =
          "\r\nContent-Disposition: form-data; name=\"".toList ++
            (name ++ '"' :: ("; filename=\"".toList ++ (fileName ++ '"' ::
              ("\r\nContent-Type: ".toList ++ (mimeType ++ '\r' ::
                ("\n\r\n".toList ++ value)))))) := by
        unfold piece partLines
        simp only [if_true, List.flatMap_cons, List.flatMap_nil, List.append_assoc,
          List.cons_append, List.nil_append]
        rfl
      have file : ∀ rest, '"' :: ("; filename=\"".toList ++ rest) =
          "\"; filename=\"".toList ++ rest := fun _ => rfl
      have type : ∀ rest, '"' :: ("\r\nContent-Type: ".toList ++ rest) =
          "\"\r\nContent-Type: ".toList ++ rest := fun _ => rfl
      have value' : '\r' :: ("\n\r\n".toList ++ value) = "\r\n\r\n".toList ++ value := rfl
      unfold readPart
      rw [written, strip_append]
      simp only [Option.bind_eq_bind, Option.bind_some]
      rw [upTo_append quoted, file, if_pos (List.prefix_append _ _), strip_append]
      simp only [Option.bind_some]
      rw [upTo_append fileQuoted, type, strip_append]
      simp only [Option.bind_some]
      rw [upTo_append typed, value', strip_append]
      rfl

/-! ## Where the delimiter can be -/

/-- It begins with a character that is not in the rest. -/
theorem marked_delimiter {boundary : Str} (noCR : '\r' ∉ boundary) :
    Marked (delimiter boundary) := by
  refine ⟨'\r', '\n' :: '-' :: '-' :: boundary, rfl, ?_⟩
  simp only [List.mem_cons, not_or]
  exact ⟨by decide, by decide, by decide, noCR⟩

variable {boundary : Str}

/-- Nothing that begins inside a line is a delimiter. -/
theorem infix_line {line : Str} (noCR : '\r' ∉ line) (rest : Str) :
    delimiter boundary <:+: line ++ '\r' :: rest ↔ delimiter boundary <:+: '\r' :: rest := by
  induction line with
  | nil => rfl
  | cons c line ih =>
      rw [List.mem_cons, not_or] at noCR
      rw [List.cons_append, List.infix_cons_iff, ih noCR.2]
      refine or_iff_right ?_
      rintro ⟨t, same⟩
      exact noCR.1 (List.cons.inj same).1

/-- Nor is a line end before a line that does not begin with a dash. -/
theorem infix_lineEnd {line : Str} (noCR : '\r' ∉ line) (noDash : line.head? ≠ some '-')
    (rest : Str) : delimiter boundary <:+: '\r' :: '\n' :: (line ++ '\r' :: rest) ↔
      delimiter boundary <:+: '\r' :: rest := by
  rw [List.infix_cons_iff, List.infix_cons_iff, infix_line noCR]
  constructor
  · rintro (⟨t, same⟩ | ⟨t, same⟩ | inside)
    · exfalso
      have third := (List.cons.inj (List.cons.inj same).2).2
      cases line with
      | nil => cases (List.cons.inj third).1
      | cons c line => exact noDash (congrArg some (List.cons.inj third).1.symm)
    · cases (List.cons.inj same).1
    · exact inside
  · intro inside
    exact Or.inr (Or.inr inside)

theorem infix_lines {lines : List Str} (legal : ∀ line ∈ lines, '\r' ∉ line ∧ line.head? ≠ some '-')
    (value : Str) :
    delimiter boundary <:+: lines.flatMap (fun line => '\r' :: '\n' :: line) ++
        '\r' :: '\n' :: value ↔
      delimiter boundary <:+: '\r' :: '\n' :: value := by
  induction lines with
  | nil => rfl
  | cons line lines ih =>
      rw [List.forall_mem_cons] at legal
      have begins : ∃ rest, lines.flatMap (fun line => '\r' :: '\n' :: line) ++
          '\r' :: '\n' :: value = '\r' :: rest := by
        cases lines with
        | nil => exact ⟨_, rfl⟩
        | cons next lines => exact ⟨_, rfl⟩
      obtain ⟨rest, begins⟩ := begins
      rw [← ih legal.2, List.flatMap_cons, List.append_assoc, begins]
      exact infix_lineEnd legal.1.1 legal.1.2 rest

theorem partLines_legal {item : HttpReqArg} (named : Named item) :
    ∀ line ∈ partLines item, '\r' ∉ line ∧ line.head? ≠ some '-' := by
  have name : '\r' ∉ item.name := fun member => (named.name _ member).2 rfl
  have fileName : '\r' ∉ item.fileName := fun member => (named.fileName _ member).2 rfl
  have disposition : '\r' ∉ "Content-Disposition: form-data; name=\"".toList := by decide
  have file : '\r' ∉ "\"; filename=\"".toList := by decide
  have type : '\r' ∉ "Content-Type: ".toList := by decide
  have empty : '\r' ∉ ([] : Str) ∧ ([] : Str).head? ≠ some '-' := by decide
  have starts : ∀ s : Str, ('C' :: s).head? ≠ some '-' := fun s same =>
    absurd (Option.some.inj same) (by decide)
  unfold partLines
  cases item.isFile with
  | false =>
      simp only [Bool.false_eq_true, if_false, List.append_nil, List.cons_append, List.nil_append,
        List.forall_mem_cons]
      refine ⟨⟨?_, starts _⟩, empty, List.forall_mem_nil _⟩
      simp only [List.mem_append, not_or, List.mem_singleton]
      exact ⟨⟨disposition, name⟩, by decide⟩
  | true =>
      simp only [if_true, List.cons_append, List.nil_append, List.forall_mem_cons]
      refine ⟨⟨?_, starts _⟩, ⟨?_, starts _⟩, empty, List.forall_mem_nil _⟩
      · simp only [List.mem_append, not_or, List.mem_singleton]
        exact ⟨⟨⟨disposition, name⟩, file, fileName⟩, by decide⟩
      · simp only [List.mem_append, not_or]
        exact ⟨type, named.mimeType⟩

theorem infix_piece {item : HttpReqArg} (named : Named item) :
    delimiter boundary <:+: piece item ↔ delimiter boundary <:+: '\r' :: '\n' :: item.value :=
  infix_lines (partLines_legal named) item.value

/-- What the boundary is not in, the delimiter is not in. -/
theorem not_infix_of_boundary {value : Str} (absent : ¬ boundary <:+: value) :
    ¬ delimiter boundary <:+: '\r' :: '\n' :: value := by
  rintro inside
  rw [List.infix_cons_iff, List.infix_cons_iff] at inside
  rcases inside with ⟨t, same⟩ | ⟨t, same⟩ | inside
  · apply absent
    refine ⟨['-', '-'], t, ?_⟩
    exact (List.cons.inj (List.cons.inj same).2).2
  · cases (List.cons.inj same).1
  · apply absent
    have suffix' : boundary <:+ delimiter boundary := ⟨['\r', '\n', '-', '-'], rfl⟩
    exact suffix'.isInfix.trans inside

theorem length_mapM {α β : Type} {f : α → Option β} {xs : List α} {ys : List β}
    (mapped : xs.mapM f = some ys) : xs.length = ys.length := by
  induction xs generalizing ys with
  | nil =>
      cases mapped
      rfl
  | cons x xs ih =>
      rw [List.mapM_cons] at mapped
      obtain ⟨y, _, mapped⟩ := Option.bind_eq_some_iff.mp mapped
      obtain ⟨ys', rest, mapped⟩ := Option.bind_eq_some_iff.mp mapped
      cases mapped
      rw [List.length_cons, List.length_cons, ih rest]

theorem mapM_part {args : List HttpReqArg} (named : ∀ item ∈ args, Named item) :
    (args.map piece).mapM readPart = some (args.map part) := by
  induction args with
  | nil => rfl
  | cons item args ih =>
      rw [List.forall_mem_cons] at named
      rw [List.map_cons, List.mapM_cons, readPart_piece named.1, ih named.2]
      rfl

/-- There are as many parts as there are pieces between delimiters. -/
theorem length_readPieces {ps : List Str} {parts : List Part} (read : readPieces ps = some parts) :
    ps.length = parts.length + 2 := by
  unfold readPieces at read
  split at read
  · rename_i pieces
    split at read
    · rename_i last
      have dropped := length_mapM read
      have some_piece : pieces ≠ [] := by
        rintro rfl
        cases last
      have pos := List.length_pos_of_ne_nil some_piece
      rw [List.length_dropLast] at dropped
      rw [List.length_cons]
      omega
    · cases read
  · cases read

/-- The parts are read back iff the delimiter is in no value. -/
theorem readMultipart_iff (noCR : '\r' ∉ boundary) {args : List HttpReqArg}
    (named : ∀ item ∈ args, Named item) :
    readMultipart boundary (generateMultipartFormData args boundary) = some (args.map part) ↔
      ∀ item ∈ args, ¬ delimiter boundary <:+: '\r' :: '\n' :: item.value := by
  have marked := marked_delimiter noCR
  have nonempty : pieces args ≠ [] := List.cons_ne_nil _ _
  rw [readMultipart, generateMultipartFormData_eq]
  constructor
  · intro read item member inside
    rw [split_intercalate marked nonempty] at read
    have among : piece item ∈ pieces args := by
      apply List.mem_cons_of_mem
      exact List.mem_append_left _ (List.mem_map_of_mem member)
    have more := length_lt_flatMap marked among ((infix_piece (named item member)).mpr inside)
    rw [length_readPieces read] at more
    simp only [pieces, List.length_cons, List.length_append, List.length_map,
      List.length_nil] at more
    omega
  · intro absent
    have apart : ∀ p ∈ pieces args, ¬ delimiter boundary <:+: p := by
      intro p member
      rcases List.mem_cons.mp member with rfl | member
      · rw [List.infix_nil]
        exact marked.ne_nil
      · rcases List.mem_append.mp member with member | member
        · obtain ⟨item, among, rfl⟩ := List.mem_map.mp member
          rw [infix_piece (named item among)]
          exact absent item among
        · rw [List.mem_singleton] at member
          rintro inside
          rw [member] at inside
          have same : delimiter boundary = closing :=
            inside.sublist.eq_of_length_le (by simp [closing, delimiter])
          cases (List.cons.inj same).1
    have ends : (args.map piece ++ [closing]).getLast? = some closing := List.getLast?_concat
    rw [(split_intercalate_iff marked nonempty).mpr apart, pieces, readPieces, if_pos ends,
      List.dropLast_concat]
    exact mapM_part named

/-! ## The request -/

def multipartType (boundary : Str) : Str := "multipart/form-data; boundary=".toList ++ boundary

theorem append_field {literal name type : Str} (split : literal = name ++ ([':', ' '] ++ type))
    (boundary rest : Str) :
    literal ++ (boundary ++ rest) = name ++ ':' :: ' ' :: (type ++ boundary ++ rest) := by
  rw [split]
  simp only [List.append_assoc, List.cons_append, List.nil_append]

theorem typeField (boundary rest : Str) :
    "Content-Type: multipart/form-data; boundary=".toList ++ (boundary ++ rest) =
      "Content-Type".toList ++ ':' :: ' ' :: (multipartType boundary ++ rest) := by
  have split : "Content-Type: multipart/form-data; boundary=".toList =
      "Content-Type".toList ++ ([':', ' '] ++ "multipart/form-data; boundary=".toList) := rfl
  exact append_field split boundary rest

/-- The fields of a request with files. -/
def multipartFields (isKeepAlive : Bool) (host boundary body : Str) : List (Str × Str) :=
  [("Host".toList, ' ' :: host),
    ("Connection".toList, ' ' :: if isKeepAlive then "keep-alive".toList else "close".toList),
    ("Content-Type".toList, ' ' :: multipartType boundary),
    ("Content-Length".toList, ' ' :: lexicalCast body.length)]

/-- A request with files is a message. -/
theorem generateRequest_multipart (rand : Nat → Nat) (url : Url) {args : List HttpReqArg}
    {boundary : Str} (chosen : generateMultipartBoundary rand args = boundary)
    (nonempty : boundary ≠ []) (isKeepAlive : Bool) :
    generateRequest rand url args isKeepAlive =
      response (requestLine "POST".toList (target url) "HTTP/1.1".toList ::
          (multipartFields isKeepAlive url.host boundary
            (generateMultipartFormData args boundary)).map fieldLine)
        (generateMultipartFormData args boundary) := by
  have some_arg : args.isEmpty = false := by
    apply List.isEmpty_eq_false_iff.mpr
    rintro rfl
    exact nonempty chosen.symm
  have some_char : boundary.isEmpty = false := List.isEmpty_eq_false_iff.mpr nonempty
  have post : "POST ".toList = "POST".toList ++ [' '] := rfl
  have version : " HTTP/1.1\r\n".toList = ' ' :: "HTTP/1.1".toList ++ ['\r', '\n'] := rfl
  have host : "Host: ".toList = "Host".toList ++ [':', ' '] := rfl
  have connection : "\r\nConnection: ".toList =
      ['\r', '\n'] ++ "Connection".toList ++ [':', ' '] := rfl
  have length : "Content-Length: ".toList = "Content-Length".toList ++ [':', ' '] := rfl
  have newLine : "\r\n".toList = ['\r', '\n'] := rfl
  have emptyLine : "\r\n\r\n".toList = ['\r', '\n', '\r', '\n'] := rfl
  unfold generateRequest
  dsimp only
  rw [chosen, some_arg, some_char]
  simp only [Bool.false_eq_true, if_false, post, version, host, connection, typeField, length,
    newLine, emptyLine, response, requestLine, multipartFields, fieldLine, target,
    List.map_cons, List.map_nil, List.flatMap_cons, List.flatMap_nil, List.append_assoc,
    List.cons_append, List.nil_append, List.append_nil]

variable {isKeepAlive : Bool} {host body : Str}

theorem multipartFields_valid (hostVisible : ∀ c ∈ host, IsVisible c)
    (visible : ∀ c ∈ boundary, IsVisible c) :
    ∀ field ∈ multipartFields isKeepAlive host boundary body, Field field := by
  have absent : ∀ c, ¬ IsVisible c →
      c ∉ "Content-Type".toList ++ ':' :: ' ' :: "multipart/form-data; boundary=".toList →
      c ∉ fieldLine ("Content-Type".toList, ' ' :: multipartType boundary) := by
    intro c hidden name member
    have written : fieldLine ("Content-Type".toList, ' ' :: multipartType boundary) =
        ("Content-Type".toList ++ ':' :: ' ' :: "multipart/form-data; boundary=".toList) ++
          boundary := rfl
    rw [written] at member
    rcases List.mem_append.mp member with member | member
    · exact name member
    · exact hidden (visible c member)
  have noColon : ':' ∉ "Content-Type".toList := by decide
  simp only [multipartFields, List.forall_mem_cons]
  refine ⟨field_visible (by decide) (Str.forall_of_all rfl) hostVisible,
    field_visible (by decide) (Str.forall_of_all rfl) ?_,
    ⟨noColon, absent _ (by decide) (by decide), absent _ (by decide) (by decide)⟩,
    field_visible (by decide) (Str.forall_of_all rfl) (visible_lexicalCast _),
    List.forall_mem_nil _⟩
  cases isKeepAlive
  · exact Str.forall_of_all rfl
  · exact Str.forall_of_all rfl

/-- What the fields of a request put into the headers. -/
theorem read_multipartFields (hostVisible : ∀ c ∈ host, IsVisible c) (nonempty : boundary ≠ [])
    (visible : ∀ c ∈ boundary, IsVisible c) (headers : Headers) :
    headers.read (multipartFields isKeepAlive host boundary body) "host".toList = some host ∧
      headers.read (multipartFields isKeepAlive host boundary body) "content-type".toList =
        some (multipartType boundary) ∧
      headers.read (multipartFields isKeepAlive host boundary body) "content-length".toList =
        some (lexicalCast body.length) := by
  have hostKey : Str.toLower "Host".toList = "host".toList := by decide
  have connectionKey : Str.toLower "Connection".toList = "connection".toList := by decide
  have typeKey : Str.toLower "Content-Type".toList = "content-type".toList := by decide
  have lengthKey : Str.toLower "Content-Length".toList = "content-length".toList := by decide
  have trimmed : Str.trim (' ' :: host) = host :=
    Str.trim_space_cons fun c member => not_isSpace (hostVisible c member)
  have trimmedLength : Str.trim (' ' :: lexicalCast body.length) = lexicalCast body.length :=
    Str.trim_space_cons fun c member => not_isSpace (visible_lexicalCast _ c member)
  have trimmedType : Str.trim (' ' :: multipartType boundary) = multipartType boundary := by
    have written : multipartType boundary = 'm' ::
        ("ultipart/form-data; boundary=".toList ++ boundary.dropLast ++
          [boundary.getLast nonempty]) := by
      rw [List.append_assoc, List.dropLast_concat_getLast nonempty]
      rfl
    rw [written]
    exact Str.trim_space_of_ends (by decide)
      (not_isSpace (visible _ (List.getLast_mem nonempty)))
  simp only [multipartFields, Headers.read, List.foldl_cons, List.foldl_nil, hostKey,
    connectionKey, typeKey, lengthKey, trimmed, trimmedLength, trimmedType]
  refine ⟨?_, ?_, Headers.set_self ..⟩
  · rw [Headers.set_of_ne _ _ (by decide), Headers.set_of_ne _ _ (by decide),
      Headers.set_of_ne _ _ (by decide), Headers.set_self]
  · rw [Headers.set_of_ne _ _ (by decide), Headers.set_self]

theorem read_multipartFields_of_ne (headers : Headers) {key : Str}
    (other : ∀ name ∈ fieldNames, key ≠ Str.toLower name) :
    headers.read (multipartFields isKeepAlive host boundary body) key = headers key := by
  apply headers.read_of_ne
  intro field member
  apply other
  have names : (multipartFields isKeepAlive host boundary body).map Prod.fst = fieldNames := rfl
  rw [← names]
  exact List.mem_map_of_mem member

theorem randomChars_visible : ∀ c ∈ randomChars, IsVisible c := Str.forall_of_all rfl

/-- A request with a file carries its boundary and is read back iff no other argument contains
the delimiter. -/
theorem readMultipart_generateRequest_iff (rand : Nat → Nat) (s : UrlString)
    {args : List HttpReqArg} (file : ∃ item ∈ args, item.isFile = true)
    (named : ∀ item ∈ args, Named item) (isKeepAlive : Bool) (headers : Headers) :
    ∃ boundary body parsed,
      boundary = generateMultipartBoundary rand args ∧
      parseRequest (generateRequest rand (Url.parse s.text) args isKeepAlive) headers =
        (body, parsed) ∧
      parsed "method".toList = some "POST".toList ∧
      parsed "path".toList = some s.target ∧
      parsed "host".toList = some s.host ∧
      parsed "content-type".toList = some ("multipart/form-data; boundary=".toList ++ boundary) ∧
      parsed "content-length".toList = some (lexicalCast body.length) ∧
      (readMultipart boundary body = some (args.map part) ↔
        ∀ item ∈ args, item.isFile = false →
          ¬ delimiter boundary <:+: '\r' :: '\n' :: item.value) := by
  obtain ⟨random, _, empty, absent⟩ := generateMultipartBoundary_chosen rand args
  have nonempty : generateMultipartBoundary rand args ≠ [] := by
    intro none'
    obtain ⟨item, member, isFile⟩ := file
    have plain := empty.mp none' item member
    rw [isFile] at plain
    cases plain
  have visible : ∀ c ∈ generateMultipartBoundary rand args, IsVisible c := fun c member =>
    randomChars_visible c (random c member)
  have hostVisible : ∀ c ∈ s.host, IsVisible c := s.visible s.host (by simp)
  have postVisible : ∀ c ∈ "POST".toList, IsVisible c := Str.forall_of_all rfl
  have line : HeaderLine (requestLine "POST".toList s.target "HTTP/1.1".toList) :=
    headerLine_of_visible postVisible s.visible_target (Str.forall_of_all rfl)
  have host : (Url.parse s.text).host = s.host := by rw [Url.parse_text]
  obtain ⟨readHost, readType, readLength⟩ := @read_multipartFields
    (generateMultipartBoundary rand args) isKeepAlive s.host
    (generateMultipartFormData args (generateMultipartBoundary rand args)) hostVisible nonempty
    visible ((headers.set "method".toList "POST".toList).set "path".toList s.target)
  refine ⟨_, generateMultipartFormData args (generateMultipartBoundary rand args), _, rfl, ?_, ?_,
    ?_, readHost, readType, readLength, ?_⟩
  · rw [generateRequest_multipart rand _ rfl nonempty, target_parse, host]
    exact parseRequest_response (not_mem_of_visible postVisible (by decide))
      (not_mem_of_visible s.visible_target (by decide)) line
      (multipartFields_valid hostVisible visible) _ _
  · rw [read_multipartFields_of_ne _ (by decide), Headers.set_of_ne _ _ (by decide),
      Headers.set_self]
  · rw [read_multipartFields_of_ne _ (by decide), Headers.set_self]
  · rw [readMultipart_iff (not_mem_of_visible visible (by decide)) named]
    constructor
    · intro all item member _
      exact all item member
    · intro plain item member
      cases isFile : item.isFile with
      | false => exact plain item member isFile
      | true => exact not_infix_of_boundary (absent item member isFile)

/-- A chat and a small file. -/
def sampleFile : List HttpReqArg :=
  [{ name := "chat_id".toList, value := "7".toList },
    { name := "photo".toList, value := ['\r', '\n', '-', '-', 'q'], isFile := true,
      mimeType := "image/png".toList, fileName := "a.png".toList }]

theorem sampleFile_named : ∀ item ∈ sampleFile, Named item := by
  unfold sampleFile
  simp only [List.forall_mem_cons]
  exact ⟨⟨Str.forall_of_all rfl, List.forall_mem_nil _, by decide⟩,
    ⟨Str.forall_of_all rfl, Str.forall_of_all rfl, by decide⟩, List.forall_mem_nil _⟩

theorem readMultipart_sampleFile :
    ∃ boundary body parsed,
      boundary = generateMultipartBoundary id sampleFile ∧
      parseRequest (generateRequest id (Url.parse sampleUrl.text) sampleFile false)
        (fun _ => none) = (body, parsed) ∧
      parsed "method".toList = some "POST".toList ∧
      parsed "path".toList = some sampleUrl.target ∧
      parsed "host".toList = some sampleUrl.host ∧
      parsed "content-type".toList = some ("multipart/form-data; boundary=".toList ++ boundary) ∧
      parsed "content-length".toList = some (lexicalCast body.length) ∧
      (readMultipart boundary body = some (sampleFile.map part) ↔
        ∀ item ∈ sampleFile, item.isFile = false →
          ¬ delimiter boundary <:+: '\r' :: '\n' :: item.value) :=
  readMultipart_generateRequest_iff id sampleUrl (by decide) sampleFile_named false _

end HttpParser

end GpsInformer
