import OData.Calendar.Duration
import OData.Http.Headers
import OData.Http.Status

/-!
# Requests and responses

The messages of one round trip and the two collaborators that a caller supplies: the
transport, which answers a request, and the authenticator, which may change it
before it goes out.
-/

namespace OData.Http

structure Request where
  method : String
  /-- Absolute and coded. -/
  uri : String
  headers : Headers
  body : Option String
  timeout : Option Duration
  /-- Whether the body of the answer should be streamed rather than buffered. -/
  wantsStream : Bool
  deriving DecidableEq, Repr

structure Response where
  status : Status
  headers : Headers
  body : String
  deriving DecidableEq, Repr

/-- How a round trip ends. -/
inductive Answer where
  | response (r : Response)
  | failure (reason : String)
  /-- The transport itself breaks down. -/
  | crash
  deriving DecidableEq, Repr

/-- Answers a request, given those before it. -/
abbrev Transport := List Request → Request → Answer

abbrev Authenticator := Request → Request

/-- A transport that gives the listed answers in order, and `beyond` after them. -/
def Transport.scripted (answers : List Answer) (beyond : Answer) : Transport :=
  fun sent _ => answers[sent.length]?.getD beyond

end OData.Http
