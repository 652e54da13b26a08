import Fleet.Base64

/-!
# Sections of key material

A text holds sections between lines that begin and end them; other lines do not count. The lines of
a section are one base64 text.

Lines before a section and between sections are passed over, and a section without an end makes the
whole text malformed. Of the content only the outermost shape is looked at: that it is one sequence
by its length (`isSequence`). A connection asks for a certificate and a private key, in any order
(`isIdentity`), and for certificates of an authority.
-/

namespace Fleet.Pem

/-- What a section holds. -/
inductive Kind where
  | certificate
  | privateKey
  | other
  deriving Repr, DecidableEq

/-- Kind of a section by its label, none for labels that are passed over. -/
def kindOf? (label : String) : Option Kind :=
  match label with
  | "CERTIFICATE" => some .certificate
  | "RSA PRIVATE KEY" => some .privateKey
  | "PRIVATE KEY" => some .privateKey
  | "EC PRIVATE KEY" => some .privateKey
  | "PUBLIC KEY" => some .other
  | "X509 CRL" => some .other
  | "CERTIFICATE REQUEST" => some .other
  | _ => none

/-- A section. -/
structure Item where
  kind : Kind
  content : List UInt8
  deriving Repr, DecidableEq

/-- Bytes of an ASCII text. -/
def ascii (s : String) : List UInt8 := s.toUTF8.toList

/-- Start of the line that begins a section. -/
def opening : List UInt8 := ascii "-----BEGIN "

/-- Five dashes. -/
def dashes : List UInt8 := ascii "-----"

/-- A line without the blanks and returns at its end. -/
def stripEnd (line : List UInt8) : List UInt8 :=
  (line.reverse.dropWhile fun b => b == 13 || b == 32 || b == 10).reverse

/-- Label of a line that begins a section; none if the line does not end in just five dashes. -/
def label? (line : List UInt8) : Option (List UInt8) :=
  let body := stripEnd line
  let marks := (body.reverse.takeWhile (· == 45)).length
  if marks = 5 then some ((body.drop opening.length).take (body.length - 5 - opening.length))
    else none

/-- Lines of bytes, without the line feeds between them. -/
def lines : List UInt8 → List (List UInt8)
  | [] => [[]]
  | b :: r =>
    match lines r with
    | [] => [[b]]
    | l :: ls => if b = 10 then [] :: l :: ls else (b :: l) :: ls

/-- The section that is being read: its label and its lines so far. -/
structure Open where
  label : List UInt8
  body : List UInt8

/-- Sections of lines; none if a section is malformed or has no end. -/
def readLines : Option Open → List (List UInt8) → Option (List Item)
  | none, [] => some []
  | some _, [] => none
  | none, l :: r =>
    if opening.isPrefixOf l then
      match label? l with
      | some label => readLines (some ⟨label, []⟩) r
      | none => none
    else readLines none r
  | some o, l :: r =>
    if opening.isPrefixOf l then
      match label? l with
      | some label => readLines (some ⟨label, o.body⟩) r
      | none => none
    else if (ascii "-----END " ++ o.label ++ dashes).isPrefixOf l then
      match Base64.decode (o.body.map (·.toNat)) with
      | .error _ => none
      | .ok bytes =>
        match (String.fromUTF8? ⟨o.label.toArray⟩).bind kindOf? with
        | some k => (readLines none r).map (⟨k, bytes.map UInt8.ofNat⟩ :: ·)
        | none => readLines none r
    else readLines (some { o with body := o.body ++ stripEnd l }) r

/-- Sections of a text. -/
def read (bytes : List UInt8) : Option (List Item) := readLines none (lines bytes)

/-- Number of bytes that a definite length announces, and the bytes after it. -/
def derLength? : List UInt8 → Option (Nat × List UInt8)
  | [] => none
  | b :: r =>
    if b < 0x80 then some (b.toNat, r)
    else
      let n := b.toNat - 0x80
      if n = 0 ∨ r.length < n then none
      else some ((r.take n).foldl (fun acc x => acc * 256 + x.toNat) 0, r.drop n)

/-- The bytes are one sequence and nothing else. -/
def isSequence : List UInt8 → Bool
  | 0x30 :: r =>
    match derLength? r with
    | some (n, r) => r.length == n
    | none => false
  | _ => false

/-- The text can be trusted: all its certificates are well formed. -/
def isAuthority (bytes : List UInt8) : Bool :=
  match read bytes with
  | none => false
  | some items => items.all fun i => i.kind != .certificate || isSequence i.content

/-- The text shows who one is: certificates and private keys only, at least one of each. -/
def isIdentity (bytes : List UInt8) : Bool :=
  match read bytes with
  | none => false
  | some items =>
    items.all (·.kind != .other) && items.any (·.kind == .certificate) &&
      items.any (·.kind == .privateKey)

/-- The certificates and keys of an identity are well formed. -/
def isSound (bytes : List UInt8) : Bool :=
  match read bytes with
  | none => false
  | some items => items.all fun i => isSequence i.content

end Fleet.Pem
