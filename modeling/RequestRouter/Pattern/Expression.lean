import RequestRouter.Pattern.Basic

/-!
# The expression of a pattern

The regular expression with the same matches: anchored at the start, literals escaped one by
one, a named group for each parameter.
-/

namespace RequestRouter.Pattern

/-- The characters that an expression reads as operators. -/
def operators : List Char :=
  ['\\', '.', '+', '*', '?', '(', ')', '|', '[', ']', '\x7b', '\x7d', '^', '$', '#', '&', '-', '~']

def escapeLiteral (c : Char) : List Char :=
  if operators.contains c then ['\\', c] else [c]

/-- A group that captures one or more characters of a class. -/
def group (name : String) (characters : List Char) : List Char :=
  ['(', '?', 'P', '<'] ++ name.toList ++ '>' :: characters ++ [')']

def Token.expression : Token → List Char
  | .literal c => escapeLiteral c
  | .segment name => group name ['[', '^', '/', ']', '+']
  | .rest name => group name ['.', '+']

def expressionChars (tokens : List Token) : List Char :=
  '^' :: tokens.flatMap Token.expression

def expression (p : Pattern) : String :=
  String.ofList (expressionChars p.tokens)

end RequestRouter.Pattern
