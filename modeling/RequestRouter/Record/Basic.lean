import RequestRouter.Record.Schema

/-!
# Records

Named JSON values in the order of their names: path parameters, queries, cookies, bodies.
-/

namespace RequestRouter

abbrev Record := Table Json

/-- Fields that did not fit a declared shape, kept beside it. -/
abbrev Extensions := Table Json

namespace Record

def ofPairs (pairs : List (Entry Json)) : Except RecordError Record :=
  (Table.ofDistinct pairs).mapError .duplicateField

def ofJson : Json → Except RecordError Record
  | .object members => .ok (Table.ofList members)
  | v => .error (.notAnObject v.typeName)

def toJson (r : Record) : Json :=
  .ofTable r

def text? (r : Record) (name : String) : Option String :=
  (r.get? name).bind Json.string?

/-- The integer under `name`, or that the text under it denotes. -/
def integer? (r : Record) (name : String) : Option Int :=
  (r.get? name).bind fun v =>
    match FieldKind.integer.coerce v with
    | some (.number n) => n.int64?
    | _ => none

def schema (r : Record) : Schema :=
  r.map FieldKind.of

def project (r : Record) (s : Schema) : Record :=
  r.intersection s

/-- The declared fields of `r` as their shapes have them. Fields are read in the order of their
names, absent ones reported in the order of their declaration, others ignored. -/
def readStruct (declared : List (String × Shape)) (r : Record) : Except RecordError Record := do
  let given ← r.entries.filterMapM fun (name, v) =>
    match declared.lookup name with
    | some shape => ((shape.read v).mapError .unreadable).map fun v => some (name, v)
    | none => .ok none
  let absent ← (declared.filter fun d => !r.contains d.1).mapM fun (name, shape) =>
    match shape.absent? with
    | some v => .ok (name, v)
    | none => .error (.unreadable (.missingField name))
  .ok (Table.ofList (given ++ absent))

def readMap (shape : Shape) (r : Record) : Except RecordError Record := do
  let given ← r.entries.mapM fun (name, v) =>
    ((shape.read v).mapError RecordError.unreadable).map (name, ·)
  .ok (Table.ofList given)

end Record

/-- What a handler expects of a record as a whole. -/
inductive RecordShape where
  | struct (fields : List (String × Shape))
  | map (values : Shape)
deriving Repr, DecidableEq

def Record.read (shape : RecordShape) (r : Record) : Except RecordError Record :=
  match shape with
  | .struct fields => r.readStruct fields
  | .map values => r.readMap values

end RequestRouter
