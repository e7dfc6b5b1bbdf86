import OData.Json.Basic
import OData.Number.Shortest
import OData.Number.Word
import OData.Text.Shown

/-!
# Typed reading of JSON values

A reader takes a value of one shape out of a `Json` and says what it found and what
it expected where the shape differs. Members of an object are read in the order of
their keys, so the first fault in that order is the one reported.
-/

namespace OData.Json

/-- What a value is, as messages name it. -/
inductive Found where
  | null
  | bool (b : Bool)
  | int (n : Int)
  | float (x : Binary64)
  | str (s : String)
  | sequence
  | map
  deriving DecidableEq, Repr

def found : Json → Found
  | .null => .null
  | .bool b => .bool b
  | .int n => .int n
  | .float x => .float x
  | .str s => .str s
  | .arr _ => .sequence
  | .obj _ => .map

def Found.text : Found → String
  | .null => "null"
  | .bool b => "boolean `" ++ (if b then "true" else "false") ++ "`"
  | .int n => "integer `" ++ toString n ++ "`"
  | .float x => "floating point `" ++ x.jsonText ++ "`"
  | .str s => "string " ++ Text.shown s
  | .sequence => "sequence"
  | .map => "map"

/-- How a value differs from the shape it should have. -/
inductive ShapeError where
  | invalidType (found : Found) (expected : String)
  | invalidValue (found : Found) (expected : String)
  | invalidLength (length : Nat) (expected : String)
  | missingField (name : String)
  | unknownField (name : String) (known : List String)
  | unknownVariant (name : String) (known : List String)
  /-- The text of a member was refused by its own reader. -/
  | refused (reason : String)
  deriving DecidableEq, Repr

/-- Names that a message offers. -/
def offered (names : List String) : String :=
  let quoted := names.map fun n => "`" ++ n ++ "`"
  match quoted with
  | [a, b] => "expected " ++ a ++ " or " ++ b
  | _ => "expected one of " ++ String.intercalate ", " quoted

def ShapeError.message : ShapeError → String
  | .invalidType found expected => "invalid type: " ++ found.text ++ ", expected " ++ expected
  | .invalidValue found expected => "invalid value: " ++ found.text ++ ", expected " ++ expected
  | .invalidLength length expected =>
    "invalid length " ++ toString length ++ ", expected " ++ expected
  | .missingField name => "missing field `" ++ name ++ "`"
  | .unknownField name known => "unknown field `" ++ name ++ "`, " ++ offered known
  | .unknownVariant name known => "unknown variant `" ++ name ++ "`, " ++ offered known
  | .refused reason => reason

/-- Takes a value of one shape. -/
abbrev Reading (α : Type) := Json → Except ShapeError α

namespace Reading

def any : Reading Json := .ok

/-- A whole number between two bounds. -/
def integer (name : String) (lo hi : Int) : Reading Int
  | .int n => if lo ≤ n ∧ n ≤ hi then .ok n else .error (.invalidValue (.int n) name)
  | v => .error (.invalidType v.found name)

def int64 : Reading Int := integer "i64" (-Number.signedLimit) (Number.signedLimit - 1)

/-- A whole number of 64 bits without a sign, under the name it has in messages. -/
def word (name : String) : Reading Nat := fun v =>
  (integer name 0 (Number.wordLimit - 1) v).map Int.toNat

def byte : Reading Nat := fun v => (integer "u8" 0 255 v).map Int.toNat

def bool : Reading Bool
  | .bool b => .ok b
  | v => .error (.invalidType v.found "a boolean")

def string : Reading String
  | .str s => .ok s
  | v => .error (.invalidType v.found "a string")

/-- A value that may be null. -/
def optional {α : Type} (read : Reading α) : Reading (Option α)
  | .null => .ok none
  | v => (read v).map some

def list {α : Type} (read : Reading α) : Reading (List α)
  | .arr items => items.mapM read
  | v => .error (.invalidType v.found "a sequence")

/-- An object with members of one shape. -/
def map {α : Type} (read : Reading α) : Reading (List (String × α))
  | .obj members => members.mapM fun (k, v) => (read v).map fun a => (k, a)
  | v => .error (.invalidType v.found "a map")

/-- One of a set of names. -/
def variant {α : Type} (names : List (String × α)) : Reading α
  | .str s =>
    match names.lookup s with
    | some a => .ok a
    | none => .error (.unknownVariant s (names.map Prod.fst))
  | v => .error (.invalidType v.found "variant identifier")

end Reading

/-! ## Records -/

/-- One field of a record: how its value changes the record, and what stands in when it
is absent from an object or from the end of an array. -/
structure Field (ρ : Type) where
  name : String
  read : Json → ρ → Except ShapeError ρ
  mayMissInObject : Bool
  mayMissInArray : Bool

/-- A record that is read from an object, or from an array of its fields in order. -/
structure RecordShape (ρ : Type) where
  name : String
  start : ρ
  fields : List (Field ρ)
  /-- Whether members that are no fields are refused. -/
  closed : Bool

namespace RecordShape

variable {ρ : Type}

def expected (shape : RecordShape ρ) : String := "struct " ++ shape.name

/-- The record with the number of its fields, as messages name it. -/
def expectedElements (shape : RecordShape ρ) : String :=
  shape.expected ++ " with " ++ toString shape.fields.length ++
    (if shape.fields.length = 1 then " element" else " elements")

def readMember (shape : RecordShape ρ) (record : ρ) (member : String × Json) :
    Except ShapeError ρ :=
  match shape.fields.find? (·.name == member.1) with
  | some field => field.read member.2 record
  | none =>
    if shape.closed then .error (.unknownField member.1 (shape.fields.map (·.name)))
    else .ok record

def readObject (shape : RecordShape ρ) (members : List (String × Json)) : Except ShapeError ρ := do
  let record ← members.foldlM shape.readMember shape.start
  match shape.fields.find? fun f => !f.mayMissInObject && (members.lookup f.name).isNone with
  | some f => throw (.missingField f.name)
  | none => return record

/-- Reads fields from the items that are there; `i` counts those before. -/
def readItems (shape : RecordShape ρ) :
    Nat → List (Field ρ) → List Json → ρ → Except ShapeError ρ
  | _, [], _, record => .ok record
  | i, f :: fs, v :: vs, record => do
    let record ← f.read v record
    readItems shape (i + 1) fs vs record
  | i, f :: fs, [], record =>
    if f.mayMissInArray then readItems shape (i + 1) fs [] record
    else .error (.invalidLength i shape.expectedElements)

def read (shape : RecordShape ρ) : Reading ρ
  | .obj members => shape.readObject members
  | .arr items => do
    let record ← shape.readItems 0 shape.fields items shape.start
    if items.length ≤ shape.fields.length then return record
    else throw (.invalidLength items.length "fewer elements in array")
  | v => .error (.invalidType v.found shape.expected)

end RecordShape

end OData.Json
