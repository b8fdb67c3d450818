import RequestRouter.Toml.Value

/-!
# TOML strings and keys

Basic strings between double quotes have escapes, literal strings between single quotes have
none. With tripled quotes a string can span lines.
-/

namespace RequestRouter.Toml

abbrev Reader (α : Type) := List Char → Option (α × List Char)

/-- Control characters other than the tab are not allowed. -/
def isPlain (c : Char) : Bool :=
  c == '\t' || (0x20 ≤ c.toNat && c.toNat ≠ 0x7F)

/-- What follows a line end, which is a line feed with or without a carriage return before it. -/
def cutNewline : List Char → Option (List Char)
  | '\n' :: rest => some rest
  | '\r' :: '\n' :: rest => some rest
  | _ => none

def atLineEnd (cs : List Char) : Bool :=
  (cutNewline cs).isSome

def hexEscape (width : Nat) : Reader Char := fun cs =>
  let digits := cs.take width
  if digits.length = width then
    match Decimal.natural? 16 digits with
    | some n =>
      if n < 0xD800 ∨ (0xDFFF < n ∧ n < 0x110000) then some (Char.ofNat n, cs.drop width) else none
    | none => none
  else none

def escape : Reader Char
  | '"' :: rest => some ('"', rest)
  | '\\' :: rest => some ('\\', rest)
  | 'b' :: rest => some ('\x08', rest)
  | 't' :: rest => some ('\t', rest)
  | 'n' :: rest => some ('\n', rest)
  | 'f' :: rest => some ('\x0c', rest)
  | 'r' :: rest => some ('\r', rest)
  | 'e' :: rest => some ('\x1b', rest)
  | 'x' :: rest => hexEscape 2 rest
  | 'u' :: rest => hexEscape 4 rest
  | 'U' :: rest => hexEscape 8 rest
  | _ => none

structure Style where
  quote : Char
  escapes : Bool
  multiline : Bool

def skipLines : List Char → List Char
  | [] => []
  | c :: rest =>
    if c == ' ' || c == '\t' || atLineEnd (c :: rest) then skipLines rest else c :: rest

/-- What follows a backslash at the end of a line: blanks and line ends up to the next other
character. -/
def joinLines (cs : List Char) : Option (List Char) :=
  (cutNewline (cs.dropWhile fun c => c == ' ' || c == '\t')).map skipLines

/-- The end of a string that spans lines: three to five quotes, the last three of which close
it. -/
def closeMultiline (quote : Char) (cs : List Char) : Option (List Char × List Char) :=
  let quotes := cs.takeWhile (· == quote)
  if 3 ≤ quotes.length then
    let kept := min (quotes.length - 3) 2
    some (quotes.take kept, cs.drop (kept + 3))
  else none

/-- A string after its opening quotes. `done` holds its text so far, last character first; `fuel`
is greater than the number of characters. Line ends are kept as they are written. -/
def stringBody (style : Style) : (fuel : Nat) → (done : List Char) → Reader String
  | 0, _, _ => none
  | _ + 1, _, [] => none
  | fuel + 1, done, c :: rest =>
    if c == style.quote then
      if style.multiline then
        match closeMultiline style.quote (c :: rest) with
        | some (kept, tail) => some (String.ofList ((kept ++ done).reverse), tail)
        | none => stringBody style fuel (c :: done) rest
      else some (String.ofList done.reverse, rest)
    else if style.escapes && c == '\\' then
      match (if style.multiline then joinLines rest else none) with
      | some tail => stringBody style fuel done tail
      | none =>
        match escape rest with
        | some (d, tail) => stringBody style fuel (d :: done) tail
        | none => none
    else if isPlain c || style.multiline && atLineEnd (c :: rest) then
      stringBody style fuel (c :: done) rest
    else none

/-- A string of one line or of several, from its opening quotes on. -/
def quoted : Reader String
  | '"' :: '"' :: '"' :: rest => multiline ⟨'"', true, true⟩ rest
  | '\'' :: '\'' :: '\'' :: rest => multiline ⟨'\'', false, true⟩ rest
  | '"' :: rest => stringBody ⟨'"', true, false⟩ (rest.length + 1) [] rest
  | '\'' :: rest => stringBody ⟨'\'', false, false⟩ (rest.length + 1) [] rest
  | _ => none
where
  /-- A line end right after the opening quotes does not count. -/
  multiline (style : Style) (cs : List Char) : Option (String × List Char) :=
    let cs := (cutNewline cs).getD cs
    stringBody style (cs.length + 1) [] cs

def skipBlank (cs : List Char) : List Char :=
  cs.dropWhile fun c => c == ' ' || c == '\t'

def isBareKeyChar (c : Char) : Bool :=
  c.isAlphanum || c == '_' || c == '-'

/-- One part of a key: bare, or a string of one line. -/
def keyPart : Reader String
  | '"' :: rest => stringBody ⟨'"', true, false⟩ (rest.length + 1) [] rest
  | '\'' :: rest => stringBody ⟨'\'', false, false⟩ (rest.length + 1) [] rest
  | cs =>
    let bare := cs.takeWhile isBareKeyChar
    if bare.isEmpty then none else some (String.ofList bare, cs.drop bare.length)

def keyParts : (fuel : Nat) → Reader (List String)
  | 0, _ => none
  | fuel + 1, cs =>
    match keyPart (skipBlank cs) with
    | none => none
    | some (part, rest) =>
      match skipBlank rest with
      | '.' :: tail => (keyParts fuel tail).map fun (parts, left) => (part :: parts, left)
      | left => some ([part], left)

def maxParts : Nat := 80

def key : Reader (List String) := fun cs =>
  (keyParts (cs.length + 1) cs).filter fun (parts, _) => parts.length ≤ maxParts

end RequestRouter.Toml
