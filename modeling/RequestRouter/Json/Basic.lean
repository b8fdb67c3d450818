import RequestRouter.Table.Basic

/-!
# JSON values

Numbers are integers of the range from -2^63 to 2^64 - 1 or finite doubles; the two are different
values even where they denote the same number. The members of an object stand in the order of
their names.
-/

namespace RequestRouter

/-- An integer of 64 bits, signed or not, or a finite double. -/
inductive Number where
  | integer (value : Int) (lower : -0x8000000000000000 ≤ value)
      (upper : value < 0x10000000000000000)
  | double (value : Float) (finite : value.isFinite = true)

namespace Number

def ofInt? (n : Int) : Option Number :=
  if lower : -0x8000000000000000 ≤ n then
    if upper : n < 0x10000000000000000 then some (.integer n lower upper) else none
  else none

def ofFloat? (x : Float) : Option Number :=
  if finite : x.isFinite = true then some (.double x finite) else none

def zero : Number := .integer 0 (by decide) (by decide)

instance : Inhabited Number := ⟨zero⟩

/-- Integers are compared as integers, doubles as doubles; `0.0` equals `-0.0`. -/
def beq : Number → Number → Bool
  | .integer a _ _, .integer b _ _ => a == b
  | .double a _, .double b _ => a == b
  | _, _ => false

instance : BEq Number := ⟨beq⟩

def int64? : Number → Option Int
  | .integer n _ _ => if n < 0x8000000000000000 then some n else none
  | .double _ _ => none

def toFloat : Number → Float
  | .integer n _ _ => Float.ofInt n
  | .double x _ => x

end Number

inductive Json where
  | null
  | bool (value : Bool)
  | number (value : Number)
  | string (value : String)
  | array (items : List Json)
  | object (members : List (String × Json))

namespace Json

instance : Inhabited Json := ⟨.null⟩

mutual

def beq : Json → Json → Bool
  | .null, .null => true
  | .bool a, .bool b => a == b
  | .number a, .number b => a == b
  | .string a, .string b => a == b
  | .array a, .array b => beqItems a b
  | .object a, .object b => beqMembers a b
  | _, _ => false

def beqItems : List Json → List Json → Bool
  | [], [] => true
  | a :: as, b :: bs => beq a b && beqItems as bs
  | _, _ => false

def beqMembers : List (String × Json) → List (String × Json) → Bool
  | [], [] => true
  | (m, a) :: as, (n, b) :: bs => m == n && beq a b && beqMembers as bs
  | _, _ => false

end

instance : BEq Json := ⟨beq⟩

/-- An integer, or null out of the range of integers. -/
def ofInt (n : Int) : Json :=
  match Number.ofInt? n with
  | some m => .number m
  | none => .null

/-- A finite double; a NaN and the infinities, which JSON lacks, become null. -/
def ofFloat (x : Float) : Json :=
  match Number.ofFloat? x with
  | some m => .number m
  | none => .null

def string? : Json → Option String
  | .string s => some s
  | _ => none

def ofTable (t : Table Json) : Json :=
  .object t.entries

def typeName : Json → String
  | .null => "null"
  | .bool _ => "boolean"
  | .number _ => "number"
  | .string _ => "string"
  | .array _ => "array"
  | .object _ => "object"

end Json

end RequestRouter
