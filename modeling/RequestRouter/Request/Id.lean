import RequestRouter.Http.Header
import RequestRouter.Json.Mismatch
import RequestRouter.Text.Blank
import RequestRouter.Text.Utf8

/-!
# Request ids

Ids of 128 bits, written as 26 digits in base 32. The digits leave out the letters I, L, O and U
and are read in either case.
-/

namespace RequestRouter

structure RequestId where
  value : Nat
  bound : value < 0x100000000000000000000000000000000
deriving DecidableEq

inductive RequestIdError where
  | badLength
  | badCharacter
deriving Repr, DecidableEq

def RequestIdError.message : RequestIdError → String
  | .badLength => "invalid length"
  | .badCharacter => "invalid character"

namespace RequestId

instance : Inhabited RequestId := ⟨⟨0, by decide⟩⟩

/-- The 32 digits in the order of their values. -/
def digits : List Char :=
  ['0', '1', '2', '3', '4', '5', '6', '7', '8', '9', 'A', 'B', 'C', 'D', 'E', 'F', 'G', 'H', 'J',
    'K', 'M', 'N', 'P', 'Q', 'R', 'S', 'T', 'V', 'W', 'X', 'Y', 'Z']

def digitChar (d : Nat) : Char :=
  digits.getD (d % 32) '0'

def digitValue? (c : Char) : Option Nat :=
  digits.idxOf? c.toUpper

def width : Nat := 26

def lastDigits : (count : Nat) → Nat → List Char
  | 0, _ => []
  | count + 1, n => lastDigits count (n / 32) ++ [digitChar n]

def text (id : RequestId) : String :=
  String.ofList (lastDigits width id.value)

/-- The id of a number, modulo 2^128. -/
def ofNat (n : Nat) : RequestId :=
  ⟨n % 0x100000000000000000000000000000000, Nat.mod_lt _ (by decide)⟩

/-- The id that 26 digits denote. Two bits more than an id has fit into them; they are
dropped. -/
def parse (s : String) : Except RequestIdError RequestId :=
  if Utf8.length s.toList ≠ width then .error .badLength
  else match s.toList.mapM digitValue? with
    | some ds => .ok (ofNat (ds.foldl (fun n d => n * 32 + d) 0))
    | none => .error .badCharacter

/-- The id in a header value, without the blanks around it; `fresh` if there is none. -/
def ofHeaderOr (fresh : RequestId) (value : Option String) : RequestId :=
  match value.map fun s => parse (trimText s) with
  | some (.ok id) => id
  | _ => fresh

def ofJson (v : Json) : Except Mismatch RequestId :=
  match v with
  | .string s => (parse s).mapError fun _ => .invalid "invalid request id"
  | _ => .error (.wrongType v "a string")

end RequestId

end RequestRouter
