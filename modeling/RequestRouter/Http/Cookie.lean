import RequestRouter.Http.Header
import RequestRouter.Record.Basic
import RequestRouter.Text.Blank
import RequestRouter.Text.Split

/-!
# Cookies
-/

namespace RequestRouter.Cookie

/-- The name and the value of one part of a cookie header, without the blanks around them. A
part without `=` has an empty value, one without a name is no cookie. -/
def pair? (part : List Char) : Option (Entry Json) :=
  let (name, value) := cutFirst '=' (trimChars part)
  let name := trimChars name
  if name.isEmpty then none
  else some (String.ofList name, .string (String.ofList (trimChars (value.getD []))))

def pairs (value : String) : List (Entry Json) :=
  (splitParts ';' value.toList).filterMap pair?

/-- The cookies of all readable `cookie` headers; the last of repeated names wins. -/
def parse (h : Headers) : Record :=
  Table.ofList (((h.values "cookie").filter Http.isReadable).flatMap pairs)

end RequestRouter.Cookie
