import RequestRouter.Http.Header
import RequestRouter.Http.Uri
import RequestRouter.Json.Printer

/-!
# Responses

A draft is the response under construction: a status and headers. It is a value, so a change to
one copy is not seen in another. A response is a draft with a body.
-/

namespace RequestRouter

structure Response where
  status : Nat
  /-- Names in lower case, in the order in which they were first set. -/
  headers : List (String × String)
  body : String
deriving Repr, DecidableEq

/-- A response without its body. -/
structure Draft where
  status : Nat
  headers : List (String × String)
deriving Repr, DecidableEq

namespace Draft

def contentType : String := "content-type"

/-- Status 200 and the content type of HTML. -/
def fresh : Draft := ⟨200, [(contentType, "text/html")]⟩

def withStatus (d : Draft) (status : Nat) : Draft :=
  { d with status := status }

/-- The headers with `name` set: its value is replaced in place, or the header is added at the
end. `name` is in lower case. -/
def setHeader (name value : String) : List (String × String) → List (String × String)
  | [] => [(name, value)]
  | (n, v) :: rest => if n = name then (n, value) :: rest else (n, v) :: setHeader name value rest

/-- The draft with a header set, whatever the letter case of its name. -/
def withHeader (d : Draft) (name value : String) : Draft :=
  { d with headers := setHeader (Http.lowerCase name) value d.headers }

def header? (d : Draft) (name : String) : Option String :=
  d.headers.lookup (Http.lowerCase name)

def complete (d : Draft) (body : String) : Response :=
  ⟨d.status, d.headers, body⟩

def completeText (d : Draft) (body : String) : Response :=
  (d.withHeader contentType "text/plain; charset=utf-8").complete body

def completeJson (d : Draft) (body : Json) : Response :=
  (d.withHeader contentType "application/json").complete body.text

end Draft

inductive ResponseError where
  /-- A response to the request has been sent before. -/
  | alreadySent
  /-- The sink refused it. -/
  | notWritten (reason : String)
  /-- The body has no text. -/
  | notSerialized (reason : String)
deriving Repr, DecidableEq

def ResponseError.message : ResponseError → String
  | .alreadySent => "response already sent"
  | .notWritten reason => "failed to write response: " ++ reason
  | .notSerialized reason => "failed to serialize response body: " ++ reason

/-- The error's message, then that of its cause if it has one. -/
def ResponseError.chain (e : ResponseError) : List String :=
  e.message :: match e with
    | .alreadySent => []
    | .notWritten reason => [reason]
    | .notSerialized reason => [reason]

inductive HttpError where
  | badMethod
  | badUri (cause : UriError)
  | badStatus
  | badHeaderName
  | badHeaderValue
deriving Repr, DecidableEq

def HttpError.message : HttpError → String
  | .badMethod => "invalid HTTP method"
  | .badUri cause => cause.message
  | .badStatus => "invalid status code"
  | .badHeaderName => "invalid HTTP header name"
  | .badHeaderValue => "failed to parse header value"

/-- The first illegal part of a list of headers, the name of each before its value. -/
def Http.checkHeaders (headers : List (String × String)) : Except HttpError Unit :=
  headers.forM fun (name, value) =>
    if !isToken name then .error .badHeaderName
    else if !isHeaderValue value then .error .badHeaderValue
    else .ok ()

/-- Whether the response can be sent as HTTP, and the first reason why not. -/
def Response.checkHttp (r : Response) : Except HttpError Unit :=
  if r.status < 100 ∨ 999 < r.status then .error .badStatus else Http.checkHeaders r.headers

end RequestRouter
