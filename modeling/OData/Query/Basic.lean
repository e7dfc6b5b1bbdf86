import OData.Text.Ascii
import OData.Text.Blank
import OData.Value

/-!
# Queries

A `Query` is one request for entities as plain data: the set, the key, the
conditions and the options. A group of conditions holds the whole query that it was
built on, of which only the conditions count.
-/

namespace OData

/-- How a condition is joined to the one before it. -/
inductive Connector where
  | and
  | or
  deriving DecidableEq, Repr

def Connector.word : Connector → String
  | .and => "and"
  | .or => "or"

def Connector.parse? (s : String) : Option Connector :=
  if Text.sameFolded s "and" then some .and
  else if Text.sameFolded s "or" then some .or
  else none

inductive Direction where
  | ascending
  | descending
  deriving DecidableEq, Repr

def Direction.word : Direction → String
  | .ascending => "asc"
  | .descending => "desc"

def Direction.ofWord? (s : String) : Option Direction :=
  if s = "asc" then some .ascending else if s = "desc" then some .descending else none

/-- A direction as a caller may write it: blanks around it and ASCII case do not count. -/
def Direction.normalise (s : String) : String := Text.lower (Text.trim s)

def Direction.parse? (s : String) : Option Direction := ofWord? (normalise s)

structure OrderKey where
  column : String
  direction : Direction
  deriving DecidableEq, Repr

/-! ## Bindings -/

/-- The part of a query that a literal belongs to. -/
inductive BindingKind where
  | select
  | filter
  | expand
  | order
  deriving DecidableEq, Repr

def BindingKind.word : BindingKind → String
  | .select => "select"
  | .filter => "where"
  | .expand => "expand"
  | .order => "order"

/-- Names are told apart by case. -/
def BindingKind.parse? (s : String) : Option BindingKind :=
  [BindingKind.select, .filter, .expand, .order].find? (·.word == s)

/-- The literals of a query by part. -/
structure Bindings where
  select : List Value := []
  filter : List Value := []
  expand : List Value := []
  order : List Value := []
  deriving DecidableEq, Repr

namespace Bindings

def get (b : Bindings) : BindingKind → List Value
  | .select => b.select
  | .filter => b.filter
  | .expand => b.expand
  | .order => b.order

/-- Adds values at the end of one part. -/
def extend (b : Bindings) (kind : BindingKind) (vs : List Value) : Bindings :=
  match kind with
  | .select => { b with select := b.select ++ vs }
  | .filter => { b with filter := b.filter ++ vs }
  | .expand => { b with expand := b.expand ++ vs }
  | .order => { b with order := b.order ++ vs }

def push (b : Bindings) (kind : BindingKind) (v : Value) : Bindings := b.extend kind [v]

/-- All values, part by part. -/
def flatten (b : Bindings) : List Value := b.select ++ b.filter ++ b.expand ++ b.order

theorem get_extend (b : Bindings) (k l : BindingKind) (vs : List Value) :
    (b.extend k vs).get l = if k = l then b.get l ++ vs else b.get l := by
  cases k <;> cases l <;> rfl

def same (a b : Bindings) : Bool :=
  sameItems Value.same a.select b.select && sameItems Value.same a.filter b.filter &&
    sameItems Value.same a.expand b.expand && sameItems Value.same a.order b.order

end Bindings

/-! ## The query -/

mutual

inductive Condition where
  /-- `column operator value` -/
  | compare (column operator : String) (value : Value)
  /-- `name(column,value)` -/
  | function (name column : String) (value : Value)
  /-- `first operator second`, both sides being properties -/
  | columns (first operator second : String)
  /-- A text used as it is. -/
  | raw (text : String)
  | isNull (column : String) (negated : Bool)
  | isIn (column : String) (values : List Value) (negated : Bool)
  /-- The conditions of the query in parentheses. -/
  | group (query : Query)

structure Clause where
  /-- Not written for the first clause of a sequence. -/
  connector : Connector
  condition : Condition

structure Query where
  entitySet : Option String := none
  key : Option EntityKey := none
  /-- None selects all properties. -/
  properties : Option (List String) := none
  clauses : List Clause := []
  orders : List OrderKey := []
  /-- Takes the place of `orders`. -/
  rawOrder : Option String := none
  expansions : List String := []
  take : Option Nat := none
  skip : Option Nat := none
  skipToken : Option String := none
  /-- Ask for the number of entities in place of the entities. -/
  isCount : Bool := false
  /-- Ask for the total number alongside a page of entities. -/
  wantsTotal : Bool := false
  bindings : Bindings := {}

end

namespace Query

instance : Inhabited Query := ⟨{}⟩

/-- An empty query on the same set. -/
def sibling (q : Query) : Query := { entitySet := q.entitySet }

def hasClauses (q : Query) : Bool := !q.clauses.isEmpty

def hasKey (q : Query) : Bool := q.key.isSome

end Query

/-! ## Equality -/

mutual

/-- Equality of all parts, of values as numbers. -/
def Query.same : Query → Query → Bool
  | ⟨set, key, props, clauses, orders, raw, expansions, take, skip, token, count, total, binds⟩,
    ⟨set', key', props', clauses', orders', raw', expansions', take', skip', token', count',
      total', binds'⟩ =>
    set == set' && sameKey key key' && props == props' && sameClauses clauses clauses' &&
      orders == orders' && raw == raw' && expansions == expansions' && take == take' &&
      skip == skip' && token == token' && count == count' && total == total' &&
      binds.same binds'
where
  sameKey : Option EntityKey → Option EntityKey → Bool
    | none, none => true
    | some k, some l => k.same l
    | _, _ => false

def sameClauses : List Clause → List Clause → Bool
  | [], [] => true
  | ⟨c, p⟩ :: rest, ⟨c', p'⟩ :: rest' => c == c' && p.same p' && sameClauses rest rest'
  | _, _ => false

def Condition.same : Condition → Condition → Bool
  | .compare c o v, .compare c' o' v' => c == c' && o == o' && v.same v'
  | .function n c v, .function n' c' v' => n == n' && c == c' && v.same v'
  | .columns a o b, .columns a' o' b' => a == a' && o == o' && b == b'
  | .raw t, .raw t' => t == t'
  | .isNull c n, .isNull c' n' => c == c' && n == n'
  | .isIn c vs n, .isIn c' vs' n' => c == c' && sameItems Value.same vs vs' && n == n'
  | .group q, .group q' => q.same q'
  | _, _ => false

end

end OData
