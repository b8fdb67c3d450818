/-!
# Blank characters

White space as Unicode's `White_Space` property has it, the trimming built on it, and the
five bytes that count as blank in a request body.
-/

namespace RequestRouter

/-- The property `White_Space`: twenty-five code points. -/
def isBlank (c : Char) : Bool :=
  let n := c.toNat
  (9 ≤ n && n ≤ 13) || n == 0x20 || n == 0x85 || n == 0xA0 || n == 0x1680 ||
    (0x2000 ≤ n && n ≤ 0x200A) || n == 0x2028 || n == 0x2029 || n == 0x202F || n == 0x205F ||
    n == 0x3000

/-- Space, tab, line feed, form feed and carriage return. A vertical tab is not among them. -/
def isBlankByte (b : UInt8) : Bool :=
  b == 0x20 || b == 0x09 || b == 0x0A || b == 0x0C || b == 0x0D

/-- Drops the leading and the trailing characters that satisfy `p`. -/
def trimBy (p : Char → Bool) (cs : List Char) : List Char :=
  ((cs.dropWhile p).reverse.dropWhile p).reverse

def trimChars (cs : List Char) : List Char :=
  trimBy isBlank cs

def trimText (s : String) : String :=
  String.ofList (trimChars s.toList)

@[simp] theorem toList_trimText (s : String) : (trimText s).toList = trimChars s.toList := by
  simp [trimText]

end RequestRouter
