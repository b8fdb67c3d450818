/-!
# UTF-8

Byte counts and byte cuts of text, and the reading of bytes as text. A byte sequence falls into
pieces: a well-formed character, or a maximal start of one that breaks off. `decode?` accepts
sequences without broken pieces, `decodeLossy` puts U+FFFD in the place of each.
-/

namespace RequestRouter.Utf8

/-- The number of bytes that the characters take. -/
def length : List Char → Nat
  | [] => 0
  | c :: cs => c.utf8Size + length cs

@[simp] theorem length_nil : length [] = 0 := rfl

@[simp] theorem length_cons (c : Char) (cs : List Char) :
    length (c :: cs) = c.utf8Size + length cs := rfl

@[simp] theorem length_append (a b : List Char) : length (a ++ b) = length a + length b := by
  induction a with
  | nil => simp
  | cons c a ih => simp [ih, Nat.add_assoc]

/-- The leading characters that fit in `n` bytes, and the others. -/
def splitAt : Nat → List Char → List Char × List Char
  | _, [] => ([], [])
  | n, c :: cs =>
    if c.utf8Size ≤ n then
      let (taken, left) := splitAt (n - c.utf8Size) cs
      (c :: taken, left)
    else ([], c :: cs)

@[simp] theorem splitAt_append (n : Nat) (cs : List Char) :
    (splitAt n cs).1 ++ (splitAt n cs).2 = cs := by
  induction cs generalizing n with
  | nil => rfl
  | cons c cs ih =>
    simp only [splitAt]
    split
    · simp [ih]
    · rfl

def encode (s : String) : List UInt8 :=
  s.toByteArray.data.toList

private def between (lo hi b : UInt8) : Bool := lo ≤ b && b ≤ hi

/-- The lowest bits of a byte, as many as keep it below `limit`. -/
private def bits (b : UInt8) (limit : Nat) : Nat := b.toNat % limit

/-- The range of the second byte after the first byte `lead`: narrower after the four bytes that
could begin an overlong form, a surrogate or a value past U+10FFFF. -/
private def secondByte (lead b : UInt8) : Bool :=
  if lead == 0xE0 then between 0xA0 0xBF b
  else if lead == 0xED then between 0x80 0x9F b
  else if lead == 0xF0 then between 0x90 0xBF b
  else if lead == 0xF4 then between 0x80 0x8F b
  else between 0x80 0xBF b

/-- The piece that starts with `lead`: its character, or `none` if it breaks off, and the number
of bytes it takes. -/
def firstPiece (lead : UInt8) (rest : List UInt8) : Option Char × Nat :=
  if lead < 0x80 then (some (Char.ofNat lead.toNat), 1)
  else if between 0xC2 0xDF lead then
    match rest with
    | b :: _ =>
      if secondByte lead b then (some (Char.ofNat (bits lead 32 * 64 + bits b 64)), 2)
      else (none, 1)
    | [] => (none, 1)
  else if between 0xE0 0xEF lead then
    match rest with
    | b :: tail =>
      if secondByte lead b then
        match tail with
        | c :: _ =>
          if between 0x80 0xBF c then
            (some (Char.ofNat ((bits lead 16 * 64 + bits b 64) * 64 + bits c 64)), 3)
          else (none, 2)
        | [] => (none, 2)
      else (none, 1)
    | [] => (none, 1)
  else if between 0xF0 0xF4 lead then
    match rest with
    | b :: tail =>
      if secondByte lead b then
        match tail with
        | c :: tail' =>
          if between 0x80 0xBF c then
            match tail' with
            | d :: _ =>
              if between 0x80 0xBF d then
                (some (Char.ofNat
                  (((bits lead 8 * 64 + bits b 64) * 64 + bits c 64) * 64 + bits d 64)), 4)
              else (none, 3)
            | [] => (none, 3)
          else (none, 2)
        | [] => (none, 2)
      else (none, 1)
    | [] => (none, 1)
  else (none, 1)

/-- The pieces of a byte sequence, after its first `skip` bytes. -/
def pieces : (skip : Nat) → List UInt8 → List (Option Char)
  | _, [] => []
  | skip + 1, _ :: rest => pieces skip rest
  | 0, lead :: rest =>
    let (piece, size) := firstPiece lead rest
    piece :: pieces (size - 1) rest

/-- The bytes from the first broken piece on; `[]` if no piece is broken. -/
def fromFirstBroken : (skip : Nat) → List UInt8 → List UInt8
  | _, [] => []
  | skip + 1, _ :: rest => fromFirstBroken skip rest
  | 0, lead :: rest =>
    match firstPiece lead rest with
    | (some _, size) => fromFirstBroken (size - 1) rest
    | (none, _) => lead :: rest

def decode? (bytes : List UInt8) : Option String :=
  ((pieces 0 bytes).mapM id).map String.ofList

/-- The text of the bytes, with U+FFFD for each broken piece. -/
def decodeLossy (bytes : List UInt8) : String :=
  String.ofList ((pieces 0 bytes).map (·.getD '\uFFFD'))

end RequestRouter.Utf8
