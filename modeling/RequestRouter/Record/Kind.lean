import RequestRouter.Decimal.Reading
import RequestRouter.Json.Printer
import RequestRouter.Text.Blank

/-!
# Field kinds

The kinds that a schema declares, the kind a value has, the value that stands for an absent
field, and the conversion of a value to a kind where it needs no guessing.
-/

namespace RequestRouter

/-- The kind of a field. `any` admits every value. -/
inductive FieldKind where
  | string
  | integer
  | number
  | boolean
  | any
deriving Repr, DecidableEq, Inhabited

namespace FieldKind

def all : List FieldKind := [.string, .integer, .number, .boolean, .any]

def name : FieldKind → String
  | .string => "string"
  | .integer => "integer"
  | .number => "number"
  | .boolean => "boolean"
  | .any => "any"

def ofName? (s : String) : Option FieldKind :=
  all.find? (·.name = s)

/-- The value of an absent field. -/
def defaultValue : FieldKind → Json
  | .string => .string ""
  | .integer => .number .zero
  | .number => .ofFloat 0.0
  | .boolean => .bool false
  | .any => .null

def of : Json → FieldKind
  | .string _ => .string
  | .bool _ => .boolean
  | .number (.integer _ _ _) => .integer
  | .number (.double _ _) => .number
  | _ => .any

def readBool? (cs : List Char) : Option Bool :=
  if cs = ['t', 'r', 'u', 'e'] then some true
  else if cs = ['f', 'a', 'l', 's', 'e'] then some false
  else none

/-- A signed integer of 64 bits between blanks. -/
def readInteger? (s : String) : Option Int :=
  Decimal.signed? 0x8000000000000000 (trimChars s.toList)

/-- `v` as a value of the kind. Text of a number or of a truth value converts to it, and both
convert to their text; an integer beyond 2^63 - 1 is not an integer field's. -/
def coerce : FieldKind → Json → Option Json
  | .any, v => some v
  | .string, .string s => some (.string s)
  | .string, .number n => some (.string n.text)
  | .string, .bool b => some (.string (if b then "true" else "false"))
  | .integer, .number n => n.int64?.map .ofInt
  | .integer, .string s => (readInteger? s).map .ofInt
  | .number, .number n => some (.ofFloat n.toFloat)
  | .number, .string s => (Decimal.float? (trimChars s.toList)).map .ofFloat
  | .boolean, .bool b => some (.bool b)
  | .boolean, .string s => (readBool? (trimChars s.toList)).map .bool
  | _, _ => none

end FieldKind

end RequestRouter
