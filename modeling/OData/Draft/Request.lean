import OData.Draft.Basic
import OData.RequestUri

/-!
# The URIs of a draft

What a draft without misuse asks for: the readable URI of its query, and the URIs that
reading, counting and writing send. Only a query on an entity set can be sent.
-/

namespace OData

/-- What one read may ask for beside the query. -/
structure ReadOptions where
  /-- Taken if the query selects no properties of its own. -/
  properties : Option (List String) := none
  wantsTotal : Bool := false
  deriving DecidableEq, Repr

namespace Query

/-- A query with the options of one read; `take` stands in for its own limit. -/
def withOptions (q : Query) (options : ReadOptions) (take : Option Nat) : Query :=
  { q with
    properties := q.properties.or options.properties
    wantsTotal := q.wantsTotal || options.wantsTotal
    take := take.or q.take }

def counting (q : Query) : Query := { q with isCount := true }

end Query

namespace Draft

/-- The query, unless a call was misused. -/
def build (d : Draft) : Except Error Query :=
  match d.misuse with
  | some m => .error (.invalidArgument (.misuse m))
  | none => .ok d.query

/-- The readable URI; an entity set is not needed. -/
def compile (d : Draft) : Except Error String := d.build.map (·.uri .readable)

/-- The query, if it can be sent. -/
def sendable (d : Draft) : Except Error Query := do
  let q ← d.build
  if q.entitySet.isSome then return q else throw (.invalidArgument .noEntitySet)

def readUri (d : Draft) (options : ReadOptions) (take : Option Nat) : Except Error String :=
  d.sendable.map fun q => (q.withOptions options take).uri .sent

def countUri (d : Draft) : Except Error String := d.sendable.map fun q => q.counting.uri .sent

/-- Writing addresses the entity set or the entity alone. -/
def writeUri (d : Draft) : Except Error String := d.sendable.map fun q => q.path .sent

/-- A draft on the entity with the given key. -/
def onEntity (d : Draft) (key : EntityKey) : Draft :=
  { d with query := { d.query with key := some key, take := none } }

end Draft

end OData
