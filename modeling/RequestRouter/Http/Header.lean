import RequestRouter.Http.Token

/-!
# Headers

The headers of a request, in the order in which they came. Names are kept in lower case and
looked up in any case.
-/

namespace RequestRouter

structure HeaderField where
  name : String
  value : String
deriving Repr, DecidableEq

abbrev Headers := List HeaderField

def HeaderField.ofText? (name value : String) : Option HeaderField :=
  if Http.isToken name && Http.isHeaderValue value then some ⟨Http.lowerCase name, value⟩ else none

namespace Headers

/-- The headers of the pairs that are legal; the others are left out. -/
def ofPairs (pairs : List (String × String)) : Headers :=
  pairs.filterMap fun (name, value) => HeaderField.ofText? name value

def values (h : Headers) (name : String) : List String :=
  (h.filter fun f => f.name == Http.lowerCase name).map HeaderField.value

/-- The first value under `name`, if it can be read as text. -/
def text? (h : Headers) (name : String) : Option String :=
  (h.values name).head?.filter Http.isReadable

end Headers

end RequestRouter
