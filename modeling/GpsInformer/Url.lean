import GpsInformer.StdString

/-!
# `Url` (Url.cpp)

`Url::parse` reads an URL character by character; four flags say how far it is.  For an
URL that is made of its parts (`UrlString`) it finds these parts again.
-/

namespace GpsInformer

structure Url where
  protocol : Str := []
  host : Str := []
  path : Str := []
  query : Str := []
  fragment : Str := []
  deriving DecidableEq, Repr

namespace Url

/-- The loop of `Url::parse`; `skipped` is how many characters `i` is ahead. -/
structure Scan where
  url : Url := {}
  isProtocolParsed : Bool := false
  isHostParsed : Bool := false
  isPathParsed : Bool := false
  isQueryParsed : Bool := false
  skipped : Nat := 0

def Scan.read (scan : Scan) (c : Char) : Scan :=
  let url := scan.url
  if scan.skipped ≠ 0 then { scan with skipped := scan.skipped - 1 }
  else if !scan.isProtocolParsed then
    if c = ':' then { scan with isProtocolParsed := true, skipped := 2 }
    else { scan with url := { url with protocol := url.protocol ++ [c] } }
  else if !scan.isHostParsed then
    if c = '/' then
      { scan with
        isHostParsed := true
        url := { url with path := url.path ++ ['/'] } }
    else if c = '?' then
      { scan with
        isHostParsed := true
        isPathParsed := true
        url := { url with path := url.path ++ ['/'] } }
    else if c = '#' then
      { scan with
        isHostParsed := true
        isPathParsed := true
        isQueryParsed := true
        url := { url with path := url.path ++ ['/'] } }
    else { scan with url := { url with host := url.host ++ [c] } }
  else if !scan.isPathParsed then
    if c = '?' then { scan with isPathParsed := true }
    else if c = '#' then { scan with isPathParsed := true, isQueryParsed := true }
    else { scan with url := { url with path := url.path ++ [c] } }
  else if !scan.isQueryParsed then
    if c = '#' then { scan with isQueryParsed := true }
    else { scan with url := { url with query := url.query ++ [c] } }
  else { scan with url := { url with fragment := url.fragment ++ [c] } }

/-- `Url::parse` -/
def parse (url : Str) : Url := (url.foldl Scan.read {}).url

end Url

/-- Neither of `isspace` and `iscntrl`. -/
def IsVisible (c : Char) : Prop := 32 < c.toNat ∧ c.toNat ≠ 127

instance : DecidablePred IsVisible := fun _ => inferInstanceAs (Decidable (_ ∧ _))

/-- The parts of an URL `protocol://host/path?query#fragment`; the path is what follows the
`/`, and query and fragment need not be there. -/
structure UrlString where
  protocol : Str
  host : Str
  path : Str
  query : Option Str
  fragment : Option Str
  protocol_ends : ':' ∉ protocol
  host_ends : ∀ c ∈ host, c ≠ '/' ∧ c ≠ '?' ∧ c ≠ '#'
  path_ends : ∀ c ∈ path, c ≠ '?' ∧ c ≠ '#'
  query_ends : ∀ c ∈ query.getD [], c ≠ '#'
  visible : ∀ part ∈ [protocol, host, path, query.getD [], fragment.getD []],
    ∀ c ∈ part, IsVisible c

namespace UrlString

def text (s : UrlString) : Str :=
  s.protocol ++ "://".toList ++ s.host ++ '/' :: s.path ++ s.query.elim [] (List.cons '?') ++
    s.fragment.elim [] (List.cons '#')

/-- What a request asks for: the path and, unless it is empty, the query. -/
def target (s : UrlString) : Str :=
  '/' :: s.path ++ if s.query.getD [] = [] then [] else '?' :: s.query.getD []

theorem visible_target (s : UrlString) : ∀ c ∈ s.target, IsVisible c := by
  intro c member
  have part := fun part among => s.visible part among c
  rcases List.mem_append.mp member with member | member
  · rcases List.mem_cons.mp member with rfl | member
    · decide
    · exact part s.path (by simp) member
  · split at member
    · cases member
    · rcases List.mem_cons.mp member with rfl | member
      · decide
      · exact part (s.query.getD []) (by simp) member

end UrlString

namespace Url

/-! ## The parts are read -/

/-- A part is read into one field of the URL. -/
theorem foldl_read {field : Str → Scan} {part : Str}
    (step : ∀ c ∈ part, ∀ read, (field read).read c = field (read ++ [c])) (read : Str) :
    part.foldl Scan.read (field read) = field (read ++ part) := by
  induction part generalizing read with
  | nil => rw [List.append_nil, List.foldl_nil]
  | cons c part ih =>
      rw [List.forall_mem_cons] at step
      rw [List.foldl_cons, step.1, ih step.2, List.append_assoc, List.singleton_append]

def inProtocol (read : Str) : Scan := { url := { protocol := read } }

def inHost (s : UrlString) (read : Str) : Scan where
  url := { protocol := s.protocol, host := read }
  isProtocolParsed := true

def inPath (s : UrlString) (read : Str) : Scan where
  url := { protocol := s.protocol, host := s.host, path := read }
  isProtocolParsed := true
  isHostParsed := true

def inQuery (s : UrlString) (read : Str) : Scan where
  url := { protocol := s.protocol, host := s.host, path := '/' :: s.path, query := read }
  isProtocolParsed := true
  isHostParsed := true
  isPathParsed := true

def inFragment (s : UrlString) (read : Str) : Scan where
  url :=
    { protocol := s.protocol, host := s.host, path := '/' :: s.path, query := s.query.getD []
      fragment := read }
  isProtocolParsed := true
  isHostParsed := true
  isPathParsed := true
  isQueryParsed := true

theorem read_protocol (s : UrlString) : s.protocol.foldl Scan.read {} = inProtocol s.protocol := by
  refine @foldl_read inProtocol _ (fun c member read => ?_) []
  have goesOn : c ≠ ':' := fun ends => s.protocol_ends (ends ▸ member)
  simp [Scan.read, inProtocol, goesOn]

theorem read_host (s : UrlString) : s.host.foldl Scan.read (inHost s []) = inHost s s.host := by
  refine @foldl_read (inHost s) _ (fun c member read => ?_) []
  rcases s.host_ends c member with ⟨noPath, noQuery, noFragment⟩
  simp [Scan.read, inHost, noPath, noQuery, noFragment]

theorem read_path (s : UrlString) :
    s.path.foldl Scan.read (inPath s ['/']) = inPath s ('/' :: s.path) := by
  refine @foldl_read (inPath s) _ (fun c member read => ?_) ['/']
  rcases s.path_ends c member with ⟨noQuery, noFragment⟩
  simp [Scan.read, inPath, noQuery, noFragment]

theorem read_query (s : UrlString) :
    (s.query.getD []).foldl Scan.read (inQuery s []) = inQuery s (s.query.getD []) := by
  refine @foldl_read (inQuery s) _ (fun c member read => ?_) []
  simp [Scan.read, inQuery, s.query_ends c member]

theorem read_fragment (s : UrlString) :
    (s.fragment.getD []).foldl Scan.read (inFragment s []) =
      inFragment s (s.fragment.getD []) :=
  @foldl_read (inFragment s) _ (fun _ _ _ => rfl) []

/-- After the path, with or without a query and a fragment. -/
theorem read_options (s : UrlString) :
    ((s.query.elim [] (List.cons '?') ++ s.fragment.elim [] (List.cons '#')).foldl Scan.read
      (inPath s ('/' :: s.path))).url =
        { protocol := s.protocol, host := s.host, path := '/' :: s.path
          query := s.query.getD [], fragment := s.fragment.getD [] } := by
  have query := read_query s
  have fragment := read_fragment s
  have asks : (inPath s ('/' :: s.path)).read '?' = inQuery s [] := by
    simp [Scan.read, inPath, inQuery]
  have marks : s.query = none → (inPath s ('/' :: s.path)).read '#' = inFragment s [] := by
    intro asked
    simp [Scan.read, inPath, inFragment, asked]
  have asksAndMarks : (inQuery s (s.query.getD [])).read '#' = inFragment s [] := by
    simp [Scan.read, inQuery, inFragment]
  rw [List.foldl_append]
  rcases asked : s.query with _ | part
  · rcases marked : s.fragment with _ | mark
    · rfl
    · rw [marked, Option.getD_some] at fragment
      rw [Option.elim_none, List.foldl_nil, Option.elim_some, List.foldl_cons, marks asked,
        fragment]
      simp [inFragment, asked]
  · rw [asked, Option.getD_some] at query asksAndMarks
    rw [Option.elim_some, List.foldl_cons, asks, query]
    rcases marked : s.fragment with _ | mark
    · rfl
    · rw [marked, Option.getD_some] at fragment
      rw [Option.elim_some, List.foldl_cons, asksAndMarks, fragment]
      simp [inFragment, asked]

/-- `Url::parse` finds the parts. -/
theorem parse_text (s : UrlString) :
    parse s.text = { protocol := s.protocol, host := s.host, path := '/' :: s.path
                     query := s.query.getD [], fragment := s.fragment.getD [] } := by
  have slashes : "://".toList.foldl Scan.read (inProtocol s.protocol) = inHost s [] := by
    simp [Scan.read, inProtocol, inHost]
  have slash : (inHost s s.host).read '/' = inPath s ['/'] := by
    simp [Scan.read, inHost, inPath]
  rw [← read_options, parse, UrlString.text]
  simp only [List.foldl_append, List.foldl_cons, read_protocol, slashes, read_host, slash,
    read_path]

end Url

end GpsInformer
