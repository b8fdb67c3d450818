import RequestRouter.Json.Printer
import RequestRouter.Text.Quoted

/-!
# Values of a declared shape

What a reader can expect of a JSON value, the reading itself, and the reasons why a value does
not fit.
-/

namespace RequestRouter

inductive Mismatch where
  | wrongType (found : Json) (expected : String)
  | wrongValue (found : Json) (expected : String)
  | missingField (name : String)
  | unknownVariant (name : String) (expected : List String)
  | invalid (reason : String)

namespace Mismatch

/-- A value as a message names it: scalars with their text, containers by their sort. -/
def describe : Json → String
  | .null => "null"
  | .bool b => s!"boolean `{b}`"
  | .number n =>
    match n with
    | .integer .. => s!"integer `{n.text}`"
    | .double .. => s!"floating point `{n.text}`"
  | .string s => "string " ++ Quoted.quote s
  | .array _ => "sequence"
  | .object _ => "map"

/-- Names between backquotes: ``one``, ``one or two``, ``one of one, two, three``. -/
def choices : List String → String
  | [] => "there are no variants"
  | [a] => s!"expected `{a}`"
  | [a, b] => s!"expected `{a}` or `{b}`"
  | names => "expected one of " ++ ", ".intercalate (names.map fun n => s!"`{n}`")

def message : Mismatch → String
  | .wrongType found expected => s!"invalid type: {describe found}, expected {expected}"
  | .wrongValue found expected => s!"invalid value: {describe found}, expected {expected}"
  | .missingField name => s!"missing field `{name}`"
  | .unknownVariant name expected => s!"unknown variant `{name}`, {choices expected}"
  | .invalid reason => reason

end Mismatch

/-- What a reader expects of a value. -/
inductive Shape where
  | text
  | int64
  | byte
  | double
  | boolean
  /-- The shape, or null, or nothing at all. -/
  | optional (shape : Shape)
  | any
deriving Repr, DecidableEq

namespace Shape

def readInteger (lower upper : Int) (expected : String) (v : Json) : Except Mismatch Json :=
  match v with
  | .number (.integer n _ _) =>
    if lower ≤ n ∧ n ≤ upper then .ok v else .error (.wrongValue v expected)
  | _ => .error (.wrongType v expected)

/-- The value as the shape has it. An integer is also a double. -/
def read : Shape → Json → Except Mismatch Json
  | .text, v =>
    match v with
    | .string _ => .ok v
    | _ => .error (.wrongType v "a string")
  | .int64, v => readInteger (-0x8000000000000000) 0x7FFFFFFFFFFFFFFF "i64" v
  | .byte, v => readInteger 0 255 "u8" v
  | .double, v =>
    match v with
    | .number n => .ok (.ofFloat n.toFloat)
    | _ => .error (.wrongType v "f64")
  | .boolean, v =>
    match v with
    | .bool _ => .ok v
    | _ => .error (.wrongType v "a boolean")
  | .optional shape, v =>
    match v with
    | .null => .ok .null
    | _ => shape.read v
  | .any, v => .ok v

/-- What stands for a field that is absent, if that is allowed. -/
def absent? : Shape → Option Json
  | .optional _ => some .null
  | _ => none

end Shape

/-- One of the names, written as a string or as the only member of an object whose value is
null. -/
def readVariant (names : List String) (v : Json) : Except Mismatch String :=
  let known (name : String) : Except Mismatch String :=
    if names.contains name then .ok name else .error (.unknownVariant name names)
  match v with
  | .string name => known name
  | .object [(name, content)] => do
    let name ← known name
    match content with
    | .null => .ok name
    | _ => .error (.wrongType content "unit")
  | .object _ => .error (.wrongValue v "map with a single key")
  | _ => .error (.wrongType v "string or map")

end RequestRouter
