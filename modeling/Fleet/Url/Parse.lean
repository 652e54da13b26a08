import Fleet.Url.Address
import Fleet.Url.Basic
import Fleet.Url.Domain

/-!
# Reading URLs

Controls and spaces around a text do not count, tabs and line ends nowhere. What is read is brought
into its one written form.

The text is read part by part: the scheme, the authority behind two slashes, the path up to a
question mark or hash sign, and the rest. Segments of the path that mean a directory are settled as
they come, and each part is encoded by its own set. An error says which part cannot be read.
-/

namespace Fleet.Url

/-- Why a text is no URL. -/
inductive Error where
  | relative
  | emptyHost
  | port
  | domain
  | character
  | shortAddress
  | longAddress
  deriving Repr, DecidableEq

/-- Wording. -/
def Error.message : Error → String
  | relative => "relative URL without a base"
  | emptyHost => "empty host"
  | port => "invalid port number"
  | domain => "invalid international domain name"
  | character => "invalid domain character"
  | shortAddress => "invalid IPv4 address"
  | longAddress => "invalid IPv6 address"

/-- A URL's text without what does not count. -/
def relevant (cs : List Char) : List Char :=
  let blank (c : Char) : Bool := c.toNat ≤ 0x20
  ((cs.dropWhile blank).reverse.dropWhile blank).reverse.filter (!isDropped ·)

/-- Scheme in lower case, and what follows its colon. -/
def scheme? (cs : List Char) : Option (String × List Char) :=
  let body := cs.takeWhile fun c => c.isAlphanum || c == '+' || c == '-' || c == '.'
  match body.head?, cs.drop body.length with
  | some c, ':' :: r => if c.isAlpha then some (String.ofList (body.map Char.toLower), r) else none
  | _, _ => none

/-- A slash, of either kind where the scheme is special. -/
def isSlash (special : Bool) (c : Char) : Bool := c == '/' || (special && c == '\\')

/-- Ends the authority. -/
def endsAuthority (special : Bool) (c : Char) : Bool := isSlash special c || c == '?' || c == '#'

/-- User name and password in front of the last at-sign of an authority, and what follows it. -/
def splitUser (special : Bool) (cs : List Char) : Except Error (String × String × List Char) :=
  let authority := cs.takeWhile (!endsAuthority special ·)
  let host := (authority.reverse.takeWhile (· ≠ '@')).reverse
  if host.length = authority.length then .ok ("", "", cs)
  else
    let info := authority.take (authority.length - host.length - 1)
    let rest := cs.drop (info.length + 1)
    if info = [] ∧ (rest.head?.any (endsAuthority special)) then .error .emptyHost
    else
      let user := info.takeWhile (· ≠ ':')
      let password := info.drop (user.length + 1)
      .ok (String.ofList (encode userSet user), String.ofList (encode userSet password), rest)

/-- Length of the host at the front of a text. -/
def hostLength (special : Bool) : Bool → List Char → Nat
  | _, [] => 0
  | bracket, c :: r =>
    if (c == ':' && !bracket) || endsAuthority special c then 0
    else hostLength special (if c = '[' then true else if c = ']' then false else bracket) r + 1

/-- An address between brackets. -/
def bracketed (cs : List Char) : Except Error String :=
  if cs.getLast? ≠ some ']' then .error .longAddress
  else match longAddress? (cs.drop 1).dropLast with
    | some gs => .ok (longText gs)
    | none => .error .longAddress

/-- Host of a special scheme. -/
def specialHost (cs : List Char) : Except Error String :=
  if cs.head? = some '[' then bracketed cs
  else match asciiName? (decodeBytes cs) with
    | none => .error .domain
    | some name =>
      if name = [] then .error .emptyHost
      else if endsInNumber name then
        match shortAddress? name with
        | some n => .ok (shortText n)
        | none => .error .shortAddress
      else .ok (String.ofList name)

/-- Characters that no host of another scheme holds. -/
def isForbiddenInHost (c : Char) : Bool :=
  ['\x00', '\t', '\n', '\r', ' ', '#', '/', ':', '<', '>', '?', '@', '[', '\\', ']', '^',
    '|'].contains c

/-- Host of any other scheme. -/
def plainHost (cs : List Char) : Except Error String :=
  if cs.head? = some '[' then bracketed cs
  else if cs.any isForbiddenInHost then .error .character
  else .ok (String.ofList (encode controls cs))

/-- Port after its colon, none when it is the scheme's own, and what follows. -/
def readPort (scheme : String) (cs : List Char) : Except Error (Option Nat × List Char) :=
  let ds := cs.takeWhile Char.isDigit
  let rest := cs.drop ds.length
  let n := ds.foldl (fun n c => min (n * 10 + (c.toNat - 48)) 65536) 0
  if 65535 < n ∨ !(rest.head?.all fun c => endsAuthority true c) then .error .port
  else .ok (if ds = [] ∨ specialPort? scheme = some (some n) then none else some n, rest)

/-- A segment that means the same directory. -/
def isSingleDot (cs : List Char) : Bool :=
  ['.'] == cs || ['%', '2', 'e'] == cs.map Char.toLower

/-- A segment that means the upper directory. -/
def isDoubleDot (cs : List Char) : Bool :=
  [['.', '.'], ['.', '%', '2', 'e'], ['%', '2', 'e', '.'], ['%', '2', 'e', '%', '2', 'e']].contains
    (cs.map Char.toLower)

/-- Pieces of a path between slashes. -/
def pieces (special : Bool) (cs : List Char) : List (List Char) :=
  Text.splitChars '/' (cs.map fun c => if special && c == '\\' then '/' else c)

/-- Segments added one by one; those that mean a directory take effect. -/
def settle : List String → List (List Char) → List String
  | acc, [] => acc
  | acc, p :: r =>
    let last := r = []
    if isDoubleDot p then settle (if last then acc.dropLast ++ [""] else acc.dropLast) r
    else if isSingleDot p then settle (if last then acc ++ [""] else acc) r
    else settle (acc ++ [String.ofList (encode pathSet p)]) r

/-- Path that follows an authority or a slash. -/
def readPath (special : Bool) (cs : List Char) : Path :=
  match cs with
  | [] => .segments (if special then [""] else [])
  | c :: r => .segments (settle [] (pieces special (if isSlash special c then r else c :: r)))

/-- Text before a query or a fragment. -/
def beforeQuery (cs : List Char) : List Char := cs.takeWhile fun c => c ≠ '?' ∧ c ≠ '#'

/-- Query and fragment. -/
def readTail (special : Bool) (cs : List Char) : Option String × Option String :=
  let fragment (r : List Char) : Option String := some (String.ofList (encode fragmentSet r))
  match cs with
  | '?' :: r =>
    let q := r.takeWhile (· ≠ '#')
    let query := String.ofList (encode (if special then specialQuerySet else querySet) q)
    match r.drop q.length with
    | _ :: f => (some query, fragment f)
    | [] => (some query, none)
  | _ :: f => (none, fragment f)
  | [] => (none, none)

/-- URL with an authority, read after its slashes. -/
def readAuthority (scheme : String) (cs : List Char) : Except Error Url := do
  let special := isSpecial scheme
  let (user, password, rest) ← splitUser special cs
  let n := hostLength special false rest
  let name := rest.take n
  let after := rest.drop n
  if special ∧ name = [] then .error .emptyHost
  else
    let host ← if special then specialHost name else plainHost name
    if host = "" ∧ (after.head? = some ':' ∨ rest.length ≠ cs.length) then .error .emptyHost
    else
      let (port, after) ← match after with
        | ':' :: r => readPort scheme r
        | r => pure (none, r)
      let path := beforeQuery after
      let (query, fragment) := readTail special (after.drop path.length)
      return { scheme, user, password, host := some host, port, path := readPath special path,
               query, fragment }

/-- URL of a file. -/
def readFile (cs : List Char) : Except Error Url := do
  let (host, rest) ← match cs with
    | a :: b :: r =>
      if isSlash true a ∧ isSlash true b then do
        let name := r.takeWhile (!endsAuthority true ·)
        let host ← if name = [] then pure "" else specialHost name
        pure (if host = "localhost" then "" else host, r.drop name.length)
      else pure ("", a :: b :: r)
    | r => pure ("", r)
  let path := beforeQuery rest
  let (query, fragment) := readTail true (rest.drop path.length)
  return { scheme := "file", user := "", password := "", host := some host, port := none
           path := readPath true path, query, fragment }

/-- URL without authority: a path that begins with a slash, or one opaque text. -/
def readPlain (scheme : String) (cs : List Char) : Url :=
  let body := beforeQuery cs
  let (query, fragment) := readTail false (cs.drop body.length)
  let path := match body with
    | '/' :: _ => readPath false body
    | _ => .opaque_ (String.ofList (encode controls body))
  { scheme, user := "", password := "", host := none, port := none, path, query, fragment }

/-- URL of a text. -/
def parse (s : String) : Except Error Url :=
  match scheme? (relevant s.toList) with
  | none => .error .relative
  | some (scheme, rest) =>
    if scheme = "file" then readFile rest
    else if isSpecial scheme then readAuthority scheme (rest.dropWhile (isSlash true))
    else match rest with
      | '/' :: '/' :: r => readAuthority scheme r
      | r => .ok (readPlain scheme r)

end Fleet.Url
