import OData.Number.Binary64

/-!
# JSON values

Whole numbers of 64 bits are kept exact and all other numbers are binary floating
point. The members of an object are sorted by key, each key once.
-/

namespace OData

inductive Json where
  | null
  | bool (b : Bool)
  /-- A signed or unsigned number of 64 bits. -/
  | int (n : Int)
  | float (x : Binary64)
  | str (s : String)
  | arr (items : List Json)
  | obj (members : List (String × Json))
  deriving Repr, Inhabited

namespace Json

/-- Adds an entry at its place in a list sorted by key; a later value of a key replaces
the earlier one. -/
def insertMember {α : Type} (key : String) (v : α) : List (String × α) → List (String × α)
  | [] => [(key, v)]
  | (k, w) :: rest =>
    if key < k then (key, v) :: (k, w) :: rest
    else if key = k then (key, v) :: rest
    else (k, w) :: insertMember key v rest

/-- An object of the given members. -/
def ofMembers (members : List (String × Json)) : Json :=
  .obj (members.foldl (fun acc (k, v) => insertMember k v acc) [])

def empty : Json := .obj []

/-- The member of an object; nothing for any other value. -/
def get? (key : String) : Json → Option Json
  | .obj members => members.lookup key
  | _ => none

def asString? : Json → Option String
  | .str s => some s
  | _ => none

/-- A whole number without a sign. -/
def asNat? : Json → Option Nat
  | .int (.ofNat n) => some n
  | _ => none

end Json

end OData
