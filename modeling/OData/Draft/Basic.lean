import OData.Error
import OData.Grammar
import OData.Query.Basic

/-!
# Drafts

A `Draft` is a query in the making, changed by one `Call` after the other. A call that
makes no sense leaves the query as it is; the first such misuse is kept, and whoever
uses the draft is told of it.
-/

namespace OData

/-- The literals that a condition brings into a query. -/
def Condition.literals : Condition → List Value
  | .compare _ _ value => [value]
  | .function _ _ value => [value]
  | .isIn _ values _ => values
  | .group q => q.bindings.filter
  | .columns _ _ _ | .raw _ | .isNull _ _ => []

/-- Adds a clause at the end and records its literals. -/
def Query.push (q : Query) (connector : Connector) (condition : Condition) : Query :=
  { q with
    clauses := q.clauses ++ [⟨connector, condition⟩]
    bindings := q.bindings.extend .filter condition.literals }

structure Draft where
  query : Query := {}
  /-- The first misuse. -/
  misuse : Option Misuse := none

/-- One change to a draft. -/
inductive Call where
  | entitySet (set : String)
  | select (properties : List String)
  | key (key : EntityKey)
  /-- `column operator value`, or `operator(column,value)` for a function. -/
  | compare (connector : Connector) (column operator : String) (value : Value)
  | columns (connector : Connector) (first operator second : String)
  | isNull (connector : Connector) (column : String) (negated : Bool)
  | isIn (connector : Connector) (column : String) (values : List Value) (negated : Bool)
  | raw (connector : Connector) (text : String)
  /-- A group made by calls on a draft: the one given, or an empty one on the same set. -/
  | group (connector : Connector) (start : Option Draft) (calls : List Call)
  | bind (kind : String) (values : List Value)
  | expand (properties : List String)
  | order (keys : List OrderKey)
  | rawOrder (text : String)
  | skip (n : Nat)
  | skipToken (token : String)
  | take (n : Nat)
  /-- Concerns the client and not the query. -/
  | pageSize (n : Nat)
  /-- Starts over. -/
  | fresh

namespace Call

/-- `column eq value` -/
def equal (connector : Connector) (column : String) (value : Value) : Call :=
  .compare connector column "=" value

/-- `first eq second` -/
def equalColumns (connector : Connector) (first second : String) : Call :=
  .columns connector first "=" second

/-- A group of equations that all have to hold. -/
def equalAll (connector : Connector) (pairs : List (String × Value)) : Call :=
  .group connector none (pairs.map fun (column, value) => .equal .and column value)

def startsOver : Call → Bool
  | .fresh => true
  | _ => false

end Call

/-- The condition that compares a column with a value. A word that is neither an operator
nor a function is itself the value, and the comparison is an equality. Null can only be
equal or unequal. -/
def Grammar.comparison (g : Grammar) (column operator : String) (value : Value) :
    Except Misuse Condition :=
  let isFunction := g.isFunction operator
  let (operator, value) :=
    if isFunction || Operator.isKnown operator then (operator, value)
    else ("=", .text operator)
  if value.isNull then
    match Operator.nullNegation? operator with
    | some negated => .ok (.isNull column negated)
    | none => .error (.illegalNull operator)
  else if isFunction then .ok (.function operator column value)
  else .ok (.compare column operator value)

/-- The condition that compares two columns. A word that is no operator is itself the
second column, and the comparison is an equality. -/
def columnComparison (first operator second : String) : Condition :=
  if Operator.isKnown operator then .columns first operator second
  else .columns first "=" operator

namespace Draft

/-- What becomes of a draft by a change to its query, or by the misuse in its place. -/
def settle (d : Draft) : Except Misuse Query → Draft
  | .ok q => { d with query := q }
  | .error m => { d with misuse := d.misuse.or (some m) }

/-- The draft that a group starts from. -/
def groupStart (q : Query) (start : Option Draft) : Draft := start.getD { query := q.sibling }

/-- A query with the clauses of a finished draft as one group; a draft without clauses
adds nothing. -/
def close (q : Query) (connector : Connector) (child : Draft) : Except Misuse Query :=
  match child.misuse with
  | some m => .error m
  | none => .ok (if child.query.hasClauses then q.push connector (.group child.query) else q)

end Draft

mutual

/-- What a call makes of a query. -/
def Call.change (g : Grammar) : Call → Query → Except Misuse Query
  | .entitySet set, q => .ok { q with entitySet := some set }
  | .select properties, q => .ok { q with properties := some properties }
  | .key key, q => .ok { q with key := some key, take := none }
  | .compare connector column operator value, q =>
    (g.comparison column operator value).map (q.push connector)
  | .columns connector first operator second, q =>
    .ok (q.push connector (columnComparison first operator second))
  | .isNull connector column negated, q => .ok (q.push connector (.isNull column negated))
  | .isIn connector column values negated, q =>
    .ok (q.push connector (.isIn column values negated))
  | .raw connector text, q => .ok (q.push connector (.raw text))
  | .group connector start calls, q =>
    Draft.close q connector (applyAll g calls (Draft.groupStart q start))
  | .bind kind values, q =>
    match BindingKind.parse? kind with
    | some kind => .ok { q with bindings := q.bindings.extend kind values }
    | none => .error (.unknownBindingKind kind)
  | .expand properties, q => .ok { q with expansions := q.expansions ++ properties }
  | .order keys, q => .ok { q with orders := q.orders ++ keys }
  | .rawOrder text, q => .ok { q with rawOrder := some text }
  | .skip n, q => .ok { q with skip := some n }
  | .skipToken token, q => .ok { q with skipToken := some token }
  | .take n, q => .ok { q with take := some n }
  | .pageSize _, q => .ok q
  | .fresh, _ => .ok {}

/-- A draft after a sequence of calls. -/
def applyAll (g : Grammar) : List Call → Draft → Draft
  | [], d => d
  | call :: calls, d =>
    applyAll g calls (if call.startsOver then {} else d.settle (call.change g d.query))

end

/-- A draft after one call. -/
def Draft.apply (g : Grammar) (call : Call) (d : Draft) : Draft := applyAll g [call] d

end OData
