import OData.Client
import OData.Draft.Request
import OData.Json.Writer

/-!
# Running a draft

The operations that send what a draft asks for. Each checks the draft first and sends
nothing if it cannot be used; what a read overrides holds for that read alone. The
asynchronous variants differ only in that a breakdown of the transport is an error.
-/

namespace OData.Draft

variable (c : Client) (d : Draft)

/-! ## Reading -/

/-- The whole page. -/
def fetch (options : ReadOptions) : Action Payload := do
  c.fetch (← d.readUri options none)

/-- The items of the first page. -/
def getWith (options : ReadOptions) : Action (List Json) := do
  return (← fetch c d options).items

def get : Action (List Json) := getWith c d {}

def getAsync : Action (List Json) := do
  return (← c.fetchAsync (← d.readUri {} none)).items

/-- The items of the first page, each read as a value of one shape. -/
def getAs {α : Type} (read : Json.Reading α) : Action (List α) := do
  (← fetch c d {}).readItems read

/-- The first item that matches, if there is one. -/
def firstWith (options : ReadOptions) : Action (Option Json) := do
  return (← c.fetch (← d.readUri options (some 1))).items.head?

def first : Action (Option Json) := firstWith c d {}

def firstAsync : Action (Option Json) := do
  return (← c.fetchAsync (← d.readUri {} (some 1))).items.head?

/-- The entity with the given key. That there is an entity set is checked before all
else. -/
def findWith (key : EntityKey) (options : ReadOptions) : Action (Option Json) := do
  if d.query.entitySet.isNone then throw (.configuration .noEntitySetToFindIn)
  firstWith c (d.onEntity key) options

def find (key : EntityKey) : Action (Option Json) := findWith c d key {}

/-- The number of entities that match. -/
def count : Action Nat := do
  (← c.fetch (← d.countUri)).count

def countAsync : Action Nat := do
  (← c.fetchAsync (← d.countUri)).count

/-! ## Writing -/

/-- The text of a body, or the reason why it has none. -/
abbrev Body := Except String String

def writtenBody : Option Body → Except Error (Option String)
  | none => .ok none
  | some (.ok text) => .ok (some text)
  | some (.error reason) => .error (.invalidArgument (.unwritableBody reason))

/-- A request on the entity set or the entity; the options of the query are not sent. -/
def submit (method : String) (body : Option Body) : Action Payload := do
  let uri ← d.writeUri
  c.execute method uri (← writtenBody body)

def post (body : Json) : Action (List Json) := do
  return (← submit c d "POST" (some (.ok body.text))).items

def patch (body : Json) : Action (List Json) := do
  return (← submit c d "PATCH" (some (.ok body.text))).items

def delete : Action (List Json) := do
  return (← submit c d "DELETE" none).items

end OData.Draft
