import RequestRouter.Json.Mismatch
import RequestRouter.Record.Kind

/-!
# Record errors
-/

namespace RequestRouter

inductive RecordError where
  | duplicateField (name : String)
  | missingFields (names : List String)
  | mistyped (field : String) (expected : FieldKind)
  | notAnObject (found : String)
  | unreadable (cause : Mismatch)

def listNames (names : List String) : String :=
  ", ".intercalate names

def RecordError.message : RecordError → String
  | .duplicateField name => s!"field `{name}` appears more than once"
  | .missingFields names => "missing fields: " ++ listNames names
  | .mistyped field expected => s!"field `{field}` is not a valid {expected.name}"
  | .notAnObject found => s!"expected a JSON object, found {found}"
  | .unreadable cause => "cannot deserialize record: " ++ cause.message

/-- The error's message, then that of its cause if it has one. -/
def RecordError.chain (e : RecordError) : List String :=
  e.message :: match e with
    | .unreadable cause => [cause.message]
    | _ => []

end RequestRouter
