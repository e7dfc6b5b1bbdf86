import OData.Event
import OData.Http.Message

/-!
# Exchanges

What all that works through one client shares: the requests that went out, the events
that were reported and the page size that is asked for. An `Action` changes an
exchange and gives a result or an error; what it changed before an error stays.
-/

namespace OData

structure Exchange where
  /-- The requests that the transport was handed, in order. -/
  sent : List Http.Request := []
  log : List Event := []
  /-- The page size that every later request asks for. -/
  pageSize : Option Nat := none
  deriving DecidableEq, Repr

namespace Exchange

def report (x : Exchange) (events : List Event) : Exchange := { x with log := x.log ++ events }

/-- Records a request that goes out. -/
def send (x : Exchange) (r : Http.Request) : Exchange := { x with sent := x.sent ++ [r] }

end Exchange

abbrev Action (α : Type) := ExceptT Error (StateM Exchange) α

end OData
