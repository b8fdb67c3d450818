import RequestRouter.Exchange.Report
import RequestRouter.Router.Basic

/-!
# The demo application

A small application with every kind of node: greetings, a user's name and age, files, a handler
that always fails, and the counters of its own meter. The standard layers stand around it, the
meter outermost.
-/

namespace RequestRouter.Demo

def meter : String := "requests"

def userSchema : Schema := .single "userId" .string

def ageSchema : Schema := .single "age" .integer

def nameSchema : Schema := .single "name" .string

def greeting (name : String) : String :=
  "Hello from routeloom, " ++ name

/-- Goes on with the fields of a reading, or fails with its error. -/
def withFields (reading : Except RecordError Record)
    (next : Record → Act (Except HandlerError Unit)) : Act (Except HandlerError Unit) :=
  match reading with
  | .ok fields => next fields
  | .error e => .done (.error (.ofChain e.chain))

def hello : Handler := fun _ draft =>
  respond (draft.complete "Hello from routeloom!")

/-- Greets the name in the path. -/
def helloName : Handler := fun s draft =>
  respond (draft.complete (greeting ((s.params.text? "name").getD "")))

/-- Greets the name in the cookies. -/
def greet : Handler := fun s draft =>
  let name := s.cookies?.bind fun cookies => cookies.text? "name"
  respond (draft.complete (greeting (name.getD "")))

def readUser (s : RequestState) : Except RecordError Record :=
  s.readParams (.struct [("userId", .text)])

def userName : Handler := fun s draft =>
  withFields (readUser s) fun user =>
    respond (draft.complete ("hello " ++ (user.text? "userId").getD ""))

def userAge : Handler := fun s draft =>
  withFields (readUser s) fun user =>
    withFields (s.readBody (.struct [("age", .int64)])) fun age =>
      respond (draft.completeJson (.ofTable (user.union age)))

def staticFile : Handler := fun s draft =>
  respond (draft.completeText ((s.params.text? "file").getD ""))

def boom : Handler := fun s _ =>
  .done (.error ⟨s!"demo failure: {s.path} always fails", []⟩)

/-- The average latency as the report states it: no clock is read. -/
def latency : String := "0"

def metrics : Handler := fun _ draft =>
  .readMeter meter fun counts =>
    respond ((draft.withHeader Draft.contentType "text/plain; version=0.0.4").complete
      (counts.report latency))

def getAt (pattern : String) (handler : Handler) : RouteTree :=
  (RouteTree.ofHandler .get handler).behind pattern

def users (settings : Settings) : RouteTree :=
  let name := RouteTree.endpoint ((Endpoint.ofHandler .get userName).requiresParams userSchema)
  let age := RouteTree.endpoint
    (((Endpoint.ofHandler .post userAge).requiresParams userSchema).requiresBody ageSchema)
  let parsed := (age.behind "/age").wrap (.jsonBody ageSchema settings.bodyPolicy)
  (RouteTree.group [name.behind "/name", parsed]).behind "/user/:userId"

def greetings : RouteTree :=
  let e := (Endpoint.ofHandler .get greet).requiresMixin cookiesMixin nameSchema
  ((RouteTree.endpoint e).behind "/greet").wrap (.cookies (some nameSchema))

/-- The routes without the layers around them. -/
def routes (settings : Settings) : RouteTree :=
  .group
    [getAt "/hello" hello, getAt "/hello/:name" helloName, greetings, users settings,
      getAt "/static/*file" staticFile, getAt "/boom" boom, getAt "/metrics" metrics]

def application (settings : Settings) : RouteTree :=
  (((((routes settings).wrap .notFound).wrap .serverFault).wrap .profile).wrap .tracing).wrap
    (.metrics meter)

def router (settings : Settings) : Except RouteError Router :=
  Router.build (application settings) settings

end RequestRouter.Demo
