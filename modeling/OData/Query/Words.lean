import OData.Error
import OData.Query.Basic

/-!
# Words of a query

The words by which a caller names connectors, directions and parts of a query, read with
the error that names a word that is none of them.
-/

namespace OData

def Connector.parse (s : String) : Except Error Connector :=
  match Connector.parse? s with
  | some connector => .ok connector
  | none => .error (.invalidArgument (.unknownConnector s))

/-- An unknown direction is shown without blanks and in small letters. -/
def Direction.parse (s : String) : Except Error Direction :=
  match Direction.parse? s with
  | some direction => .ok direction
  | none => .error (.invalidArgument (.unknownDirection (Direction.normalise s)))

/-- In JSON a direction is its exact word. -/
def Direction.read : Json.Reading Direction :=
  Json.Reading.variant ([Direction.ascending, .descending].map fun d => (d.word, d))

def BindingKind.parse (s : String) : Except Error BindingKind :=
  match BindingKind.parse? s with
  | some kind => .ok kind
  | none => .error (.invalidArgument (.misuse (.unknownBindingKind s)))

end OData
