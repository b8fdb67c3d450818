import RequestRouter.Request.Basic
import RequestRouter.Response.Basic

/-!
# Acts

What handlers and layers do, as a tree of single steps: offer a response, ask whether one was
sent, read a meter, record an event, end with a value or a crash. A course says nothing about
where responses go; `Course.run` (in `Exchange.Basic`) runs it against a sink. The events are a
parameter: a handler has none, so all that it does to the log is by its responses.
-/

namespace RequestRouter

inductive Crash where
  | text (message : String)
  /-- A payload that is not text. -/
  | other
deriving Repr, DecidableEq

def Crash.message : Crash → String
  | .text message => message
  | .other => "non-string panic payload"

inductive CallOutcome where
  | handled
  | unhandled
  | failed
deriving Repr, DecidableEq

structure Counts where
  requests : Nat := 0
  handled : Nat := 0
  unhandled : Nat := 0
  failed : Nat := 0
deriving Repr, DecidableEq

def Counts.add (c : Counts) : CallOutcome → Counts
  | .handled => { c with requests := c.requests + 1, handled := c.handled + 1 }
  | .unhandled => { c with requests := c.requests + 1, unhandled := c.unhandled + 1 }
  | .failed => { c with requests := c.requests + 1, failed := c.failed + 1 }

/-- A computation that handles a request and records events of `ε`. -/
inductive Course (ε α : Type) where
  | done (a : α)
  | crash (c : Crash)
  /-- Offers a response and goes on with the answer. -/
  | send (r : Response) (next : Except ResponseError Unit → Course ε α)
  /-- Asks for the status of the response that claimed the exchange, if one did. -/
  | committed (next : Option Nat → Course ε α)
  | readMeter (meter : String) (next : Counts → Course ε α)
  | note (event : ε) (next : Course ε α)

/-- A course without events: what a handler does. -/
abbrev Act := Course Empty

namespace Course

variable {ε α β : Type}

def bind : Course ε α → (α → Course ε β) → Course ε β
  | .done a, f => f a
  | .crash c, _ => .crash c
  | .send r next, f => .send r fun answer => bind (next answer) f
  | .committed next, f => .committed fun status => bind (next status) f
  | .readMeter meter next, f => .readMeter meter fun counts => bind (next counts) f
  | .note event next, f => .note event (bind next f)

instance : Monad (Course ε) where
  pure := .done
  bind := bind

/-- The course with its crash as a value. -/
def attempt : Course ε α → Course ε (Except Crash α)
  | .done a => .done (.ok a)
  | .crash c => .done (.error c)
  | .send r next => .send r fun answer => attempt (next answer)
  | .committed next => .committed fun status => attempt (next status)
  | .readMeter meter next => .readMeter meter fun counts => attempt (next counts)
  | .note event next => .note event (attempt next)

end Course

namespace Act

variable {ε α : Type}

def lift : Act α → Course ε α
  | .done a => .done a
  | .crash c => .crash c
  | .send r next => .send r fun answer => lift (next answer)
  | .committed next => .committed fun status => lift (next status)
  | .readMeter meter next => .readMeter meter fun counts => lift (next counts)

def offer (r : Response) : Course ε (Except ResponseError Unit) :=
  .send r .done

end Act

end RequestRouter
