import RequestRouter.Pattern.Suffix
import RequestRouter.Record.Basic

/-!
# Path patterns

A pattern such as `/user/:userId` matches a prefix of a path and captures text under its
parameters' names.
-/

namespace RequestRouter

inductive PatternError where
  | invalidName (pattern : String) (position : Nat)
  | duplicateParam (pattern : String) (name : String)
  | restNotLast (pattern : String)
deriving Repr, DecidableEq

def PatternError.message : PatternError → String
  | .invalidName pattern position =>
    s!"invalid parameter name at byte {position} in pattern `{pattern}`"
  | .duplicateParam pattern name =>
    s!"parameter `{name}` appears more than once in pattern `{pattern}`"
  | .restNotLast pattern => s!"catch-all parameter must end pattern `{pattern}`"

structure Pattern where
  source : String
  tokens : List Pattern.Token
  /-- A string field for each parameter. -/
  schema : Schema

/-- What a pattern found at the start of a path. -/
structure PrefixMatch where
  /-- Bytes of the path that the pattern took. -/
  consumed : Nat
  captures : Record

namespace Pattern

def paramsOf (tokens : List Token) : List String :=
  tokens.filterMap Token.param?

def params (p : Pattern) : List String :=
  paramsOf p.tokens

/-- The pattern that `source` denotes. A bad token is reported before a repeated name. A pattern has
any length here: that an engine can refuse an expression as too large for it is left out, and so is
the error that would report it. -/
def compile (source : String) : Except PatternError Pattern :=
  match tokenize 0 0 source.toList with
  | .error (.badName position) => .error (.invalidName source position)
  | .error .restNotLast => .error (.restNotLast source)
  | .ok tokens =>
    match Table.ofDistinct ((paramsOf tokens).map (·, FieldKind.string)) with
    | .error name => .error (.duplicateParam source name)
    | .ok schema => .ok ⟨source, tokens, schema⟩

def matchPrefix (p : Pattern) (path : String) : Option PrefixMatch :=
  (findMatch p.tokens path.toList).map fun (captures, left) =>
    { consumed := Utf8.length path.toList - Utf8.length left
      captures := Table.ofList <| captures.map fun (name, run) =>
        (name, .string (String.ofList run)) }

def prefixLength (p : Pattern) (path : String) : Option Nat :=
  (findMatch p.tokens path.toList).map fun (_, left) =>
    Utf8.length path.toList - Utf8.length left

end Pattern

end RequestRouter
