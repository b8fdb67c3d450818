import RequestRouter.Record.Basic

/-!
# Conversion to a schema

A record is reshaped in one joint walk with its target. A field of both is coerced to the
declared kind, a field of the record alone is kept as an extra, a field of the target alone gets
its kind's default. The strict policy rejects defaults.
-/

namespace RequestRouter

/-- What becomes of fields that the source cannot supply. -/
inductive ConversionPolicy where
  /-- They take their kind's default. -/
  | lenient
  /-- The conversion fails. -/
  | strict
deriving Repr, DecidableEq, Inhabited

namespace ConversionPolicy

def name : ConversionPolicy → String
  | .lenient => "lenient"
  | .strict => "strict"

/-- `strict` in any letter case; every other text means lenient. -/
def ofText (s : String) : ConversionPolicy :=
  if s.toList.map Char.toLower = ['s', 't', 'r', 'i', 'c', 't'] then .strict else .lenient

def ofJson (v : Json) : Except Mismatch ConversionPolicy :=
  (readVariant ["lenient", "strict"] v).map fun name =>
    if name = "strict" then .strict else .lenient

end ConversionPolicy

/-- A record in its target's shape, and how it came to it. -/
structure Conversion where
  record : Record
  /-- Fields that the target does not declare, as they were. -/
  extras : Extensions
  /-- Declared fields that the source lacks. -/
  missing : List String
  /-- Shared fields whose value does not coerce. -/
  mistyped : List String

namespace Conversion

def field : Joined FieldKind Json → Option Json
  | .both _ kind v => some ((kind.coerce v).getD kind.defaultValue)
  | .left _ kind => some kind.defaultValue
  | .right _ _ => none

/-- A shared name whose value does not coerce, with the declared kind. -/
def failure : Joined FieldKind Json → Option (Entry FieldKind)
  | .both name kind v => if (kind.coerce v).isNone then some (name, kind) else none
  | _ => none

end Conversion

namespace Record

/-- The shared fields of `r` that do not coerce, in order. -/
def failures (r : Record) (target : Schema) : List (Entry FieldKind) :=
  (join target.entries r.entries).filterMap Conversion.failure

/-- `r` in the shape of `target`, with defaults where `r` supplies nothing. -/
def fit (r : Record) (target : Schema) : Conversion where
  record := Table.combine Conversion.field target r
  extras := r.subtract target
  missing := (target.subtract r).names
  mistyped := (r.failures target).map Prod.fst

/-- `r` in the shape of `target`. The strict policy reports the least name that does not coerce
before the names that are missing. -/
def convert (r : Record) (target : Schema) (policy : ConversionPolicy) :
    Except RecordError Conversion :=
  let conversion := r.fit target
  match policy with
  | .lenient => .ok conversion
  | .strict =>
    match r.failures target with
    | (name, kind) :: _ => .error (.mistyped name kind)
    | [] =>
      if conversion.missing.isEmpty then .ok conversion
      else .error (.missingFields conversion.missing)

end Record

end RequestRouter
