import OData.Calendar.Moment
import OData.Number.Decimal
import OData.Number.Word

/-!
# Literal values and entity keys

A `Value` is what a condition compares with; its natural text is unquoted. An
`EntityKey` addresses one entity of a set.
-/

namespace OData

/-- A 128-bit identifier. -/
structure Uuid where
  bits : BitVec 128
  deriving DecidableEq, Repr

/-- Thirty-two hexadecimal digits in groups of 8, 4, 4, 4 and 12. -/
def Uuid.chars (u : Uuid) : List Char :=
  let digits := Nat.toDigits 16 u.bits.toNat
  let all := List.replicate (32 - digits.length) '0' ++ digits
  all.take 8 ++ '-' :: (all.drop 8).take 4 ++ '-' :: (all.drop 12).take 4 ++
    '-' :: (all.drop 16).take 4 ++ '-' :: all.drop 20

def Uuid.text (u : Uuid) : String := String.ofList u.chars

inductive Value where
  | null
  | bool (b : Bool)
  | int (n : Int)
  | float (x : Binary64)
  | decimal (d : Decimal)
  | uuid (u : Uuid)
  | moment (m : Moment)
  | date (d : Date)
  | text (s : String)
  deriving DecidableEq, Repr, Inhabited

namespace Value

def isNull : Value → Bool
  | .null => true
  | _ => false

/-- The natural form, without quotes. -/
def toText : Value → String
  | .null => "null"
  | .bool true => "true"
  | .bool false => "false"
  | .int n => toString n
  | .float x => x.text
  | .decimal d => d.text
  | .uuid u => u.text
  | .moment m => m.text
  | .date d => d.text
  | .text s => s

/-- Equality within one kind; numbers are compared by what they stand for. -/
def same : Value → Value → Bool
  | .float x, .float y => x.sameNumber y
  | .decimal x, .decimal y => x.sameNumber y
  | v, w => v == w && !(v matches .float _) && !(v matches .decimal _)

/-- A whole number without a sign; beyond the signed 64-bit range it is a decimal. -/
def ofNat (n : Nat) : Value := if n < Number.signedLimit then .int n else .decimal ⟨n, 0⟩

end Value

/-- The address of one entity in its set. -/
inductive EntityKey where
  | int (n : Int)
  | uuid (u : Uuid)
  | text (s : String)
  /-- Named parts in the order given. -/
  | parts (ps : List (String × Value))
  deriving DecidableEq, Repr

/-- Whether two lists agree item by item. -/
def sameItems {α : Type} (same : α → α → Bool) : List α → List α → Bool
  | [], [] => true
  | x :: xs, y :: ys => same x y && sameItems same xs ys
  | _, _ => false

def EntityKey.same : EntityKey → EntityKey → Bool
  | .parts ps, .parts qs => sameItems (fun p q => p.1 == q.1 && p.2.same q.2) ps qs
  | .parts _, _ => false
  | k, l => k == l

end OData
