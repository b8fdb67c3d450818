/-!
# Tokens, methods and header values

The characters that HTTP allows in a method or in the name of a header, and in a header's value.
-/

namespace RequestRouter

namespace Http

/-- ASCII letters and digits and fifteen marks. -/
def isTokenChar (c : Char) : Bool :=
  c.isAlphanum ||
    ['!', '#', '$', '%', '&', '\'', '*', '+', '-', '.', '^', '_', '\x60', '|', '~'].contains c

def isToken (s : String) : Bool :=
  !s.isEmpty && s.toList.all isTokenChar

/-- No control character but the tab. -/
def isHeaderValue (s : String) : Bool :=
  s.toList.all fun c => c == '\t' || (0x20 ≤ c.toNat && c.toNat ≠ 0x7F)

/-- Visible ASCII, spaces and tabs: a value with other characters cannot be read as text. -/
def isReadable (s : String) : Bool :=
  s.toList.all fun c => c == '\t' || (0x20 ≤ c.toNat && c.toNat < 0x7F)

/-- `s` with the ASCII letters in lower case. -/
def lowerCase (s : String) : String :=
  String.ofList (s.toList.map Char.toLower)

def upperCase (s : String) : String :=
  String.ofList (s.toList.map Char.toUpper)

end Http

/-- A request method: a token, with the case of its letters significant. -/
structure Method where
  name : String
deriving Repr, DecidableEq

namespace Method

def get : Method := ⟨"GET"⟩

def post : Method := ⟨"POST"⟩

def ofText? (s : String) : Option Method :=
  if Http.isToken s then some ⟨s⟩ else none

end Method

end RequestRouter
