import RequestRouter.Decimal.Reading
import RequestRouter.Record.Basic
import RequestRouter.Text.Split
import RequestRouter.Text.Utf8

/-!
# Query strings

Pairs between `&`, each a name and a value around the first `=`. A plus sign is a space, `%XX`
a byte, and the bytes are read as UTF-8 with replacements.
-/

namespace RequestRouter.Query

def hexByte? (high low : UInt8) : Option UInt8 :=
  let value? (b : UInt8) := Decimal.digitValue? 16 (Char.ofNat b.toNat)
  (value? high).bind fun h => (value? low).map fun l => UInt8.ofNat (h * 16 + l)

/-- The bytes with each `%XX` replaced by the byte it denotes. A percent sign without two
hexadecimal digits stands for itself. -/
def percentDecode : List UInt8 → List UInt8
  | 0x25 :: high :: low :: tail =>
    match hexByte? high low with
    | some b => b :: percentDecode tail
    | none => 0x25 :: percentDecode (high :: low :: tail)
  | b :: rest => b :: percentDecode rest
  | [] => []

def decode (bs : List UInt8) : String :=
  Utf8.decodeLossy (percentDecode (bs.map fun b => if b == 0x2B then 0x20 else b))

def pair (part : List UInt8) : Entry Json :=
  let (name, value) := cutFirst 0x3D part
  (decode name, .string (decode (value.getD [])))

/-- The pairs of a query string, with or without its leading `?`; the last of repeated names
wins. -/
def parse (query : String) : Record :=
  let bs := match Utf8.encode query with
    | 0x3F :: rest => rest
    | bs => bs
  Table.ofList (((splitParts 0x26 bs).filter fun part => !part.isEmpty).map pair)

end RequestRouter.Query
