import RequestRouter.Record.Error
import RequestRouter.Table.Basic

/-!
# Schemas

The shape of a record: names with their kinds.
-/

namespace RequestRouter

abbrev Schema := Table FieldKind

namespace Schema

def ofFields (fields : List (Entry FieldKind)) : Except RecordError Schema :=
  (Table.ofDistinct fields).mapError .duplicateField

def strings (names : List String) : Except RecordError Schema :=
  ofFields (names.map (·, .string))

/-- Whether two kinds of one name disagree; `any` agrees with every kind. -/
def kindsConflict (a b : FieldKind) : Bool :=
  a != b && a != .any && b != .any

def kindConflicts (a b : Schema) : List String :=
  (join a.entries b.entries).filterMap fun
    | .both name x y => if kindsConflict x y then some name else none
    | _ => none

def text (s : Schema) : String :=
  let fields := s.entries.map fun (name, kind) => s!"{name}: {kind.name}"
  "\x7b" ++ ", ".intercalate fields ++ "\x7d"

end Schema

end RequestRouter
