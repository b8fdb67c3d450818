import RequestRouter.Http.Cookie
import RequestRouter.Http.Query
import RequestRouter.Http.Uri
import RequestRouter.Record.Conversion
import RequestRouter.Request.Id

/-!
# Requests

A request as it was received, and the state that grows on its way down a route tree: how much of
the path has been consumed, the parameters, the body, the mixins and the extensions.
-/

namespace RequestRouter

structure Request where
  method : Method
  /-- The target as received, with its query. -/
  target : String
  headers : Headers := []
  body : List UInt8 := []

namespace Request

/-- The target up to its first question mark. -/
def path (r : Request) : String :=
  String.ofList (cutFirst '?' r.target.toList).1

/-- The decoded query of the target, which starts at its first question mark. -/
def query (r : Request) : Record :=
  Query.parse (String.ofList (r.target.toList.dropWhile (· ≠ '?')))

/-- The first value of a header, if it can be read as text. -/
def header? (r : Request) (name : String) : Option String :=
  r.headers.text? name

def version : String := "HTTP/1.1"

end Request

/-- A body as received, or the fields that a parser made of it. -/
inductive Body where
  | raw (bytes : List UInt8)
  | structured (fields : Record)

def cookiesMixin : String := "cookies"

/-- A request on its way down a route tree. -/
structure RequestState where
  request : Request
  id : RequestId
  /-- The part of the path that patterns have taken. -/
  consumed : String
  /-- The part of the path that is left. -/
  remaining : String
  params : Record
  body : Body
  mixins : Table Record
  extensions : Extensions
  /-- The policy of parameter conversions that do not set their own. -/
  policy : ConversionPolicy

namespace RequestState

/-- The state before the first node: nothing consumed, bound or attached. -/
def start (request : Request) (id : RequestId) : RequestState where
  request := request
  id := id
  consumed := ""
  remaining := request.path
  params := .empty
  body := .raw request.body
  mixins := .empty
  extensions := .empty
  policy := .lenient

def method (s : RequestState) : Method := s.request.method

def path (s : RequestState) : String := s.request.path

def query (s : RequestState) : Record := s.request.query

def mixin? (s : RequestState) (name : String) : Option Record :=
  s.mixins.get? name

def cookies? (s : RequestState) : Option Record :=
  s.mixin? cookiesMixin

/-- Takes the next `n` bytes of the path, or all that is left. -/
def consume (s : RequestState) (n : Nat) : RequestState :=
  let (taken, left) := Utf8.splitAt n s.remaining.toList
  { s with consumed := s.consumed ++ String.ofList taken, remaining := String.ofList left }

/-- Adds captures; they replace parameters of the same names. -/
def withParams (s : RequestState) (captures : Record) : RequestState :=
  { s with params := s.params.union captures }

def replaceParams (s : RequestState) (params : Record) : RequestState :=
  { s with params := params }

def withBody (s : RequestState) (body : Body) : RequestState :=
  { s with body := body }

/-- Attaches a mixin in the place of one with the same name. -/
def withMixin (s : RequestState) (name : String) (fields : Record) : RequestState :=
  { s with mixins := s.mixins.insert name fields }

/-- Adds extensions; they replace others of the same names. -/
def withExtensions (s : RequestState) (extras : Extensions) : RequestState :=
  { s with extensions := s.extensions.union extras }

def withPolicy (s : RequestState) (policy : ConversionPolicy) : RequestState :=
  { s with policy := policy }

def readParams (s : RequestState) (shape : RecordShape) : Except RecordError Record :=
  s.params.read shape

def readBody (s : RequestState) (shape : RecordShape) : Except RecordError Record :=
  match s.body with
  | .structured fields => fields.read shape
  | .raw _ => .error (.notAnObject "raw bytes")

end RequestState

end RequestRouter
