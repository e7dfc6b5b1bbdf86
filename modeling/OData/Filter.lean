import OData.Grammar
import OData.Literal
import OData.Query.Basic

/-!
# Filters

The text of a sequence of conditions. Every clause is written with its connector, a
group that writes nothing is left out, and of the joined text the first connector
word is removed, wherever it stands.
-/

namespace OData.Filter

/-- Whether a text starts with a connector word and a space, in any case; gives the rest. -/
def afterConnector? (cs : List Char) : Option (List Char) :=
  match cs with
  | a :: n :: d :: ' ' :: rest =>
    if a.toLower == 'a' && n.toLower == 'n' && d.toLower == 'd' then some rest
    else afterOr? cs
  | _ => afterOr? cs
where
  afterOr? (cs : List Char) : Option (List Char) :=
    match cs with
    | o :: r :: ' ' :: rest =>
      if o.toLower == 'o' && r.toLower == 'r' then some rest else none
    | _ => none

/-- Removes the first connector word with its space. -/
def dropConnector : List Char → List Char
  | [] => []
  | c :: cs =>
    match afterConnector? (c :: cs) with
    | some rest => rest
    | none => c :: dropConnector cs

/-- Joins written clauses and removes the first connector. -/
def joinClauses (texts : List String) : String :=
  String.ofList (dropConnector (String.intercalate " " texts).toList)

/-- The literals of a list, with commas between. -/
def valueList (vs : List Value) : String := String.intercalate "," (vs.map Literal.ofValue)

mutual

/-- A condition without its connector; none for a group that writes nothing. -/
def conditionText : Condition → Option String
  | .compare column op value =>
    some (column ++ " " ++ Operator.keyword op ++ " " ++ Literal.ofValue value)
  | .function name column value =>
    some (name ++ "(" ++ column ++ "," ++ Literal.ofValue value ++ ")")
  | .columns first op second => some (first ++ " " ++ Operator.keyword op ++ " " ++ second)
  | .raw text => some text
  | .isNull column negated => some (column ++ (if negated then " ne null" else " eq null"))
  | .isIn column values negated =>
    let inner := column ++ " in (" ++ valueList values ++ ")"
    some (if negated then "not(" ++ inner ++ ")" else inner)
  | .group q =>
    let inner := ofQuery q
    if inner = "" then none else some ("(" ++ inner ++ ")")

/-- The clauses that write something, each with its connector. -/
def clauseTexts : List Clause → List String
  | [] => []
  | ⟨connector, condition⟩ :: rest =>
    match conditionText condition with
    | some text => (connector.word ++ " " ++ text) :: clauseTexts rest
    | none => clauseTexts rest

/-- The filter of a query. -/
def ofQuery : Query → String
  | ⟨_, _, _, clauses, _, _, _, _, _, _, _, _, _⟩ => joinClauses (clauseTexts clauses)

end

end OData.Filter
