import RequestRouter.Text.Utf8

/-!
# Pattern tokens

A pattern's source is a run of tokens: literal characters, `:name` for a part of one path
segment, and `*name` at the end for the rest of the path.
-/

namespace RequestRouter

namespace Pattern

inductive Token where
  | literal (c : Char)
  /-- One or more characters other than `/`. -/
  | segment (name : String)
  /-- One or more characters other than a line feed. -/
  | rest (name : String)
deriving Repr, DecidableEq

def Token.param? : Token → Option String
  | .literal _ => none
  | .segment name => some name
  | .rest name => some name

def Token.source : Token → List Char
  | .literal c => [c]
  | .segment name => ':' :: name.toList
  | .rest name => '*' :: name.toList

def isMarker (c : Char) : Bool :=
  c == ':' || c == '*'

/-- ASCII letters, digits and the underscore. -/
def isNameChar (c : Char) : Bool :=
  c.isAlphanum || c == '_'

/-- A name is not empty and does not start with a digit. -/
def isName (cs : List Char) : Bool :=
  match cs with
  | [] => false
  | c :: _ => !c.isDigit

inductive TokenFault where
  /-- The marker at the given byte of the source has no name. -/
  | badName (position : Nat)
  /-- Something follows a `*name`. -/
  | restNotLast
deriving Repr, DecidableEq

/-- The tokens of the source from byte `offset` on, after the next `skip` characters. -/
def tokenize : (skip offset : Nat) → List Char → Except TokenFault (List Token)
  | _, _, [] => .ok []
  | skip + 1, offset, c :: cs => tokenize skip (offset + c.utf8Size) cs
  | 0, offset, c :: cs =>
    if isMarker c then
      let name := cs.takeWhile isNameChar
      if !isName name then .error (.badName offset)
      else if c == '*' then
        if name.length = cs.length then .ok [.rest (String.ofList name)] else .error .restNotLast
      else (tokenize name.length (offset + 1) cs).map (.segment (String.ofList name) :: ·)
    else (tokenize 0 (offset + c.utf8Size) cs).map (.literal c :: ·)

end Pattern

end RequestRouter
