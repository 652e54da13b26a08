import Fleet.Cluster.Client
import Fleet.Dispatch.Run
import Fleet.Kubeconfig.Resolve
import Fleet.Json.Parser
import Fleet.Pem
import Fleet.Text.Utf8

/-!
# Requests to a cluster

A call becomes a request whose URL names resource, namespace and object. A transport answers it with
a status and a body, or not at all, and takes its time; a reply that takes longer than a limit is
given up. What comes back becomes the value of the call.

URLs are made by adding segments to that of the server, so what is added is encoded and may be left
out by the rules of URLs. What a reply comes to depends on its status: a success is read as what the
call asks for, a refusal is told in the words of the server where they can be read (`refusalOf`).

`Transport` stands for everything beyond the request: the network, the server, and the key material
of the connection. `awaitReply` gives up a reply that has not arrived in time. Requests that cannot
be written at all, for a URL or a header that is not allowed, fail without being sent.
-/

namespace Fleet.Cluster.Api

/-- Segments that address a resource, one namespace of it, or one object. -/
def segments (r : Resource) (ns name : Option String) : List String :=
  (if r.isCore then ["api", r.version] else ["apis", r.group, r.version]) ++
    (match ns with
      | some n => ["namespaces", n]
      | none => []) ++
    r.name :: name.toList

/-- URL of segments on a server. -/
def endpoint (c : Connection) (parts : List String) : Except Failure Url :=
  match c.server.append? parts with
  | some u => .ok u
  | none =>
    .error (.unconnected c.context ("server URL " ++ c.server.text ++ " cannot carry a path"))

/-- URL of a resource. -/
def resourceUrl (c : Connection) (r : Resource) (ns name : Option String) : Except Failure Url :=
  endpoint c (segments r ns name)

/-- URL of a listing; an empty selector does not select. -/
def listUrl (c : Connection) (r : Resource) (ns selector : Option String) : Except Failure Url := do
  let u ← resourceUrl c r ns none
  return match selector.filter (· ≠ "") with
    | some s => u.addQuery "labelSelector" s
    | none => u

/-- A request, and what it shows. -/
structure Request where
  url : Url
  authorization : Option String
  deriving Repr, DecidableEq

/-- A reply. -/
structure Reply where
  status : Nat
  body : ByteArray

/-- What comes of a request: after how many milliseconds, if ever, and the reply, which arrives as a
whole. There is none when no connection can be made. -/
structure Response where
  delay : Option Nat
  reply : Option Reply

/-- Answers requests. -/
abbrev Transport := Request → Response

/-- No connection can be made, which shows at once. -/
def offline : Transport := fun _ => ⟨some 0, none⟩

/-- A user name and password as they are shown. -/
def basicHeader (user password : String) : String :=
  "Basic " ++ Base64.encode (user ++ ":" ++ password).toUTF8.toList

/-- Character that a header can carry. -/
def isHeaderChar (c : Char) : Bool := c == '\t' || (0x20 ≤ c.toNat && c.toNat != 0x7f)

/-- Text of a part of a URL. -/
def plainText? (s : String) : Option String := String.fromUTF8? ⟨(Url.decodeBytes s.toList).toArray⟩

/-- Credentials that a URL carries. -/
def ofUrl? (u : Url) : Option (String × String) := do
  if u.host.isNone then none
  let user ← plainText? u.user
  if user = "" ∧ u.password = "" then none
  some (user, (plainText? u.password).getD "")

/-- What a request shows; none in the outer place if a header cannot carry it. -/
def authorization? (auth : Auth) (u : Url) : Option (Option String) :=
  match auth with
  | .none => some ((ofUrl? u).map fun (n, p) => basicHeader n p)
  | .bearer token =>
    if token.toList.all isHeaderChar then some (some ("Bearer " ++ token)) else none
  | .basic n p => some (some (basicHeader n p))

/-- Why a request is not sent or not answered. -/
inductive Trouble where
  | unusable (url : Option Url)
  | unreachable (url : Url)
  deriving Repr, DecidableEq

/-- Wording. -/
def Trouble.message : Trouble → String
  | unusable none => "builder error"
  | unusable (some u) => "builder error for url (" ++ u.text ++ ")"
  | unreachable u => "error sending request for url (" ++ u.text ++ ")"

/-- What comes of a request within a time limit, and the milliseconds until that is known. -/
def awaitReply (transport : Transport) (limit : Option Nat) (r : Request) :
    Option Nat × Except Trouble Reply :=
  let response := transport r
  (Dispatch.holdTime limit response.delay,
    if Dispatch.isCutOff limit response.delay then .error (.unreachable r.url)
    else match response.reply with
      | some reply => .ok reply
      | none => .error (.unreachable r.url))

/-- Reply to a request for a URL, and the milliseconds until it is there or given up. -/
def exchange (transport : Transport) (limit : Option Nat) (auth : Auth) (u : Url) :
    Option Nat × Except Trouble Reply :=
  if (u.host.getD "") = "" then (some 0, .error (.unusable (some u)))
  else
    let plain := if (ofUrl? u).isSome then u.anonymous else u
    match authorization? auth u with
    | none => (some 0, .error (.unusable none))
    | some authorization =>
      if u.scheme ≠ "http" ∧ u.scheme ≠ "https" then (some 0, .error (.unusable (some plain)))
      else awaitReply transport limit ⟨plain, authorization⟩

/-- Names of statuses. -/
def reasons : List (Nat × String) := [
  (100, "Continue"), (101, "Switching Protocols"), (102, "Processing"), (300, "Multiple Choices"),
  (301, "Moved Permanently"), (302, "Found"), (303, "See Other"), (304, "Not Modified"),
  (305, "Use Proxy"), (307, "Temporary Redirect"), (308, "Permanent Redirect"),
  (400, "Bad Request"), (401, "Unauthorized"), (402, "Payment Required"), (403, "Forbidden"),
  (404, "Not Found"), (405, "Method Not Allowed"), (406, "Not Acceptable"),
  (407, "Proxy Authentication Required"), (408, "Request Timeout"), (409, "Conflict"),
  (410, "Gone"), (411, "Length Required"),
  (412, "Precondition Failed"), (413, "Payload Too Large"), (414, "URI Too Long"),
  (415, "Unsupported Media Type"), (416, "Range Not Satisfiable"), (417, "Expectation Failed"),
  (418, "I'm a teapot"), (421, "Misdirected Request"), (422, "Unprocessable Entity"),
  (423, "Locked"), (424, "Failed Dependency"), (425, "Too Early"), (426, "Upgrade Required"),
  (428, "Precondition Required"), (429, "Too Many Requests"),
  (431, "Request Header Fields Too Large"), (451, "Unavailable For Legal Reasons"),
  (500, "Internal Server Error"), (501, "Not Implemented"), (502, "Bad Gateway"),
  (503, "Service Unavailable"), (504, "Gateway Timeout"), (505, "HTTP Version Not Supported"),
  (506, "Variant Also Negotiates"), (507, "Insufficient Storage"), (508, "Loop Detected"),
  (510, "Not Extended"), (511, "Network Authentication Required")]

/-- A status with its name. -/
def statusText (n : Nat) : String :=
  toString n ++ " " ++ ((reasons.find? (·.1 = n)).map (·.2)).getD "<unknown status code>"

/-- The only field of a record of one field, which may be written as an object or as an array. The
inner option is none if it is left out. -/
def onlyField? (name : String) : Json → Option (Option Json)
  | .obj fields =>
    match fields.filter (·.1 = name) with
    | [] => some none
    | [(_, v)] => some (some v)
    | _ => none
  | .arr [] => some none
  | .arr [v] => some (some v)
  | _ => none

/-- Value of a body, its fields as written. -/
def written? (body : ByteArray) : Option Json := (String.fromUTF8? body).bind Json.parseWritten?

/-- Objects of a listing. -/
def itemsOf? (body : ByteArray) : Option (List Json) := do
  match ← onlyField? "items" (← written? body) with
  | none => some []
  | some (.arr items) => some (items.map Json.canonical)
  | some _ => none

/-- Version of a server. -/
def versionOf? (body : ByteArray) : Option String := do
  (← onlyField? "gitVersion" (← written? body)).bind Json.str?

/-- Message of a refusal: the one in the body, or else the body. -/
def refusalOf (body : ByteArray) : String :=
  let text := Text.lossy body
  let message := do
    (← onlyField? "message" (← Json.parseWritten? text)).bind Json.str?
  (message.filter (· ≠ "")).getD text

/-- Value of a reply. -/
def valueOf {α : Type} (decode? : ByteArray → Option α) (r : Reply) : Except String α :=
  if 200 ≤ r.status ∧ r.status ≤ 299 then
    match decode? r.body with
    | some a => .ok a
    | none => .error "decode response: error decoding response body"
  else .error (statusText r.status ++ ": " ++ Text.trim (refusalOf r.body))

/-- Value of a URL. -/
def fetch {α : Type} (transport : Transport) (limit : Option Nat) (c : Connection)
    (decode? : ByteArray → Option α) (u : Url) : Call α :=
  let (delay, reply) := exchange transport limit c.auth u
  { delay
    ending := match reply with
      | .error t => .error (.call c.context t.message)
      | .ok r =>
        match valueOf decode? r with
        | .ok a => .ok a
        | .error reason => .error (.call c.context reason) }

end Fleet.Cluster.Api
