import Fleet.Url.Percent

/-!
# URLs

A URL has a scheme, an authority or none, a path of segments or one opaque text, and perhaps a query
and a fragment.

A path of segments is a list, and `append?` pushes segments onto it by the rules for segments: what
means a directory is left out, characters that are dropped are dropped first, and the rest is
encoded. Special schemes have a default port, and a backslash is a slash there.
-/

namespace Fleet

/-- What follows the authority. -/
inductive Url.Path where
  | segments (parts : List String)
  /-- A text that takes no segments. -/
  | opaque_ (text : String)
  deriving Repr, DecidableEq

/-- A URL whose parts are written as they stand in its text. -/
structure Url where
  scheme : String
  user : String
  password : String
  /-- None without an authority; empty for an authority without host. -/
  host : Option String
  port : Option Nat
  path : Url.Path
  query : Option String
  fragment : Option String
  deriving Repr, DecidableEq

namespace Url

/-- Schemes whose URLs always have a host and a path. -/
def specialPort? (scheme : String) : Option (Option Nat) :=
  match scheme with
  | "http" => some (some 80)
  | "ws" => some (some 80)
  | "https" => some (some 443)
  | "wss" => some (some 443)
  | "ftp" => some (some 21)
  | "file" => some none
  | _ => none

/-- The scheme is special. -/
def isSpecial (scheme : String) : Bool := (specialPort? scheme).isSome

/-- Text of a path. -/
def Path.text : Path → String
  | .segments parts => String.join (parts.map ("/" ++ ·))
  | .opaque_ s => s

/-- User name and password before the host. -/
def credentials (u : Url) : String :=
  if u.user = "" ∧ u.password = "" then ""
  else u.user ++ (if u.password = "" then "" else ":" ++ u.password) ++ "@"

/-- Authority with the slashes before it. -/
def authority (u : Url) : String :=
  match u.host with
  | none =>
    match u.path with
    | .segments ("" :: _ :: _) => "/."
    | _ => ""
  | some h =>
    "//" ++ u.credentials ++ h ++ match u.port with
      | some p => ":" ++ toString p
      | none => ""

/-- Text of a URL. -/
def text (u : Url) : String :=
  u.scheme ++ ":" ++ u.authority ++ u.path.text ++
    (match u.query with
      | some q => "?" ++ q
      | none => "") ++
    match u.fragment with
      | some f => "#" ++ f
      | none => ""

/-- The URL without user name and password. -/
def anonymous (u : Url) : Url := { u with user := "", password := "" }

/-- Characters that a text given as a part of a URL loses. -/
def isDropped (c : Char) : Bool := c == '\t' || c == '\n' || c == '\r'

/-- A segment as it stands in a path. -/
def segmentText (special : Bool) (s : String) : String :=
  String.ofList (encode (segmentSet special) (s.toList.filter (!isDropped ·)))

/-- A segment that is added to a path; none if it means the same or the upper directory. -/
def segment? (special : Bool) (s : String) : Option String :=
  if s = "." ∨ s = ".." then none else some (segmentText special s)

/-- Segments of a path to which others are added: an empty last one gives its place. -/
def opened (there : List String) : List String :=
  if there ≠ [""] ∧ there.getLast? = some "" then there.dropLast else there

/-- Segments with one more. An only empty one gives its place. What means the same or the upper
directory only now that it has lost characters leads there, and leaves an empty segment behind. -/
def push (there : List String) (s : String) : List String :=
  if s = ".." then there.dropLast ++ [""]
  else (if there = [""] then [] else there) ++ [if s = "." then "" else s]

/-- Segments added after those that are there. None if the path takes no segments. -/
def append? (u : Url) (parts : List String) : Option Url :=
  match u.path with
  | .opaque_ _ => none
  | .segments there =>
    some { u with path := .segments ((parts.filterMap (segment? (isSpecial u.scheme))).foldl push
      (opened there)) }

/-- One more pair of the query. -/
def addQuery (u : Url) (key value : String) : Url :=
  let pair := encodeForm key ++ "=" ++ encodeForm value
  { u with query := some (match u.query with
    | none => pair
    | some q => if q = "" then pair else q ++ "&" ++ pair) }

end Url

end Fleet
