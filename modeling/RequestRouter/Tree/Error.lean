import RequestRouter.Pattern.Basic
import RequestRouter.Response.Basic

/-!
# Route errors

What can be wrong with a route tree when it is built, and what can go wrong on the way through
it.
-/

namespace RequestRouter

/-- A handler's error: a message, and those of its causes, outermost first. -/
structure HandlerError where
  message : String
  causes : List String := []
deriving Repr, DecidableEq

namespace HandlerError

def context (e : HandlerError) (message : String) : HandlerError :=
  ⟨message, e.message :: e.causes⟩

def text (e : HandlerError) : String :=
  ": ".intercalate (e.message :: e.causes)

def ofChain : List String → HandlerError
  | [] => ⟨"", []⟩
  | message :: causes => ⟨message, causes⟩

end HandlerError

inductive RouteError where
  | unmatched (path : String)
  | handler (cause : HandlerError)
  | crashed (message : String)
  | missingParams (route : String) (missing : List String)
  | missingMixins (route : String) (missing : List String)
  | bodyMismatch (route : String) (detail : String)
  | pattern (cause : PatternError)
  | record (cause : RecordError)
  | response (cause : ResponseError)

namespace RouteError

def message : RouteError → String
  | .unmatched path => s!"route does not match `{path}`"
  | .handler cause => "handler failed: " ++ cause.text
  | .crashed message => "panicked: " ++ message
  | .missingParams route missing =>
    s!"{route} requires params not bound above it: {listNames missing}"
  | .missingMixins route missing =>
    s!"{route} requires mixins not attached above it: {listNames missing}"
  | .bodyMismatch route detail => s!"{route} body mismatch: {detail}"
  | .pattern cause => cause.message
  | .record cause => cause.message
  | .response cause => cause.message

/-- Whether it is found when the tree is built. -/
def isConstruction : RouteError → Bool
  | .missingParams _ _ => true
  | .missingMixins _ _ => true
  | .bodyMismatch _ _ => true
  | .pattern _ => true
  | _ => false

end RouteError

end RequestRouter
