import RequestRouter.Text.Utf8

/-!
# Request URIs

A URI names its target in origin form (`/path?query`), in absolute form
(`scheme://authority/path?query`), in authority form (`host:port`) or as `*`.
-/

namespace RequestRouter

inductive UriError where
  | empty
  | tooLong
  | schemeTooLong
  | badCharacter
  | badAuthority
  | badFormat
deriving Repr, DecidableEq

def UriError.message : UriError → String
  | .empty => "empty string"
  | .tooLong => "uri too long"
  | .schemeTooLong => "scheme too long"
  | .badCharacter => "invalid uri character"
  | .badAuthority => "invalid authority"
  | .badFormat => "invalid format"

namespace Uri

abbrev Bytes := List UInt8

def byteOf (c : Char) : UInt8 :=
  UInt8.ofNat c.toNat

def isLetter (b : UInt8) : Bool :=
  (0x41 ≤ b && b ≤ 0x5A) || (0x61 ≤ b && b ≤ 0x7A)

def isDigit (b : UInt8) : Bool :=
  0x30 ≤ b && b ≤ 0x39

def isAnyOf (marks : List Char) (b : UInt8) : Bool :=
  marks.any fun c => byteOf c == b

def isSchemeByte (b : UInt8) : Bool :=
  isLetter b || isDigit b || isAnyOf ['+', '-', '.', '~'] b

/-- The bytes that an authority may hold, apart from the percent sign. -/
def isAuthorityByte (b : UInt8) : Bool :=
  isLetter b || isDigit b ||
    isAnyOf ['!', '$', '&', '\'', '(', ')', '*', '+', ',', '-', '.', ':', ';', '=', '@', '[', ']',
      '_', '~'] b

def isPathByte (b : UInt8) : Bool :=
  b == 0x21 || b == 0x22 || (0x24 ≤ b && b ≤ 0x3B) || b == 0x3D || (0x40 ≤ b && b ≤ 0x5F) ||
    (0x61 ≤ b && b ≤ 0x7E) || 0x80 ≤ b

def isQueryByte (b : UInt8) : Bool :=
  b == 0x21 || (0x24 ≤ b && b ≤ 0x3B) || b == 0x3D || (0x3F ≤ b && b ≤ 0x7E) || 0x80 ≤ b

/-- The bytes that end an authority: `/`, `?` and `#`. -/
def endsAuthority (b : UInt8) : Bool :=
  b == 0x2F || b == 0x3F || b == 0x23

structure AuthorityScan where
  /-- Colons since the userinfo or the bracketed address. -/
  colons : Nat := 0
  opened : Bool := false
  closed : Bool := false
  /-- Whether a percent sign stands outside of userinfo and brackets. -/
  percent : Bool := false
  /-- Whether the last byte is `@`. -/
  endsInAt : Bool := false

def AuthorityScan.step (s : AuthorityScan) (b : UInt8) : Except UriError AuthorityScan :=
  let s := { s with endsInAt := false }
  if b == byteOf '%' then .ok { s with percent := true }
  else if !isAuthorityByte b then .error .badCharacter
  else if b == byteOf ':' then
    if 8 ≤ s.colons then .error .badAuthority else .ok { s with colons := s.colons + 1 }
  else if b == byteOf '[' then
    if s.percent || s.opened then .error .badAuthority else .ok { s with opened := true }
  else if b == byteOf ']' then
    if !s.opened || s.closed then .error .badAuthority
    else .ok { s with closed := true, colons := 0, percent := false }
  else if b == byteOf '@' then .ok { s with colons := 0, percent := false, endsInAt := true }
  else .ok s

/-- The authority at the start of the bytes, and what follows it. -/
def authority (bs : Bytes) : Except UriError (Bytes × Bytes) := do
  if bs.isEmpty then throw .empty
  let host := bs.takeWhile fun b => !endsAuthority b
  let s ← host.foldlM AuthorityScan.step {}
  if s.opened != s.closed || 1 < s.colons || s.endsInAt || s.percent then throw .badAuthority
  return (host, bs.drop host.length)

/-- Path and query, without the fragment. -/
def pathAndQuery (bs : Bytes) : Except UriError Bytes :=
  let path := bs.takeWhile fun b => b != 0x3F && b != 0x23
  if !path.all isPathByte then .error .badCharacter
  else match bs.drop path.length with
    | 0x3F :: tail =>
      let query := tail.takeWhile (· != 0x23)
      if query.all isQueryByte then .ok (path ++ 0x3F :: query) else .error .badCharacter
    | _ => .ok path

/-- What follows `scheme://`, if the bytes start with it and go on after it or name a scheme. -/
def afterScheme (bs : Bytes) : Except UriError (Option Bytes) :=
  let scheme := bs.takeWhile isSchemeByte
  match bs.drop scheme.length with
  | 0x3A :: 0x2F :: 0x2F :: rest =>
    if 64 < scheme.length then .error .schemeTooLong
    else if 3 < bs.length then .ok (some rest) else .ok none
  | _ => .ok none

def maxLength : Nat := 65534

/-- The target that a URI names: its path and query, and nothing for the authority form. -/
def target (uri : String) : Except UriError String := do
  let bs := Utf8.encode uri
  let origin (bs : Bytes) : Except UriError String := do
    let text ← pathAndQuery bs
    return if text.isEmpty then "/" else Utf8.decodeLossy text
  if maxLength < bs.length then throw .tooLong
  match bs with
  | [] => throw .empty
  | [0x2A] => return "*"
  | 0x2F :: _ => origin bs
  | [b] =>
    let (host, rest) ← authority [b]
    if rest.isEmpty && !host.isEmpty then return "" else throw .badCharacter
  | _ =>
    match ← afterScheme bs with
    | some rest =>
      let (host, rest) ← authority rest
      if host.isEmpty then throw .badFormat
      origin rest
    | none =>
      let (_, rest) ← authority bs
      if rest.isEmpty then return "" else throw .badFormat

end Uri

end RequestRouter
