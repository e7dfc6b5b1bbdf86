import OData.Text.Ascii

/-!
# Operators and functions

The words that may stand between the two sides of a comparison, and the functions
that may take its place. Operators are a fixed table of symbols and keywords; the
functions are a registry that a caller extends.
-/

namespace OData

namespace Operator

/-- Symbols with the keywords they are written as. -/
def symbols : List (String × String) :=
  [("=", "eq"), ("<", "lt"), (">", "gt"), ("<=", "le"), (">=", "ge"), ("!<", "not lt"),
   ("!>", "not gt"), ("<>", "ne"), ("!=", "ne")]

/-- Keywords that stand for themselves. -/
def keywords : List String := ["eq", "ne", "gt", "ge", "lt", "le", "has"]

/-- Symbols are exact, keywords are known in any case. -/
def isKnown (op : String) : Bool :=
  symbols.any (·.1 == op) || keywords.any (Text.sameFolded · op)

/-- The keyword of a symbol; any other text stays. -/
def keyword (op : String) : String := (symbols.lookup op).getD op

/-- For an operator that compares with null: whether it asks for a difference. -/
def nullNegation? (op : String) : Option Bool :=
  let op := Text.lower op
  if op = "=" ∨ op = "eq" then some false
  else if op = "!=" ∨ op = "<>" ∨ op = "ne" then some true
  else none

end Operator

/-- The functions that a filter may use. -/
structure Grammar where
  functions : List String
  deriving DecidableEq, Repr

namespace Grammar

def standard : Grammar := ⟨["contains", "startswith", "endswith"]⟩

/-- Functions are known in any case. -/
def isFunction (g : Grammar) (name : String) : Bool := g.functions.any (Text.sameFolded · name)

/-- Registers a function unless its name is known. -/
def withFunction (g : Grammar) (name : String) : Grammar :=
  if g.isFunction name then g else ⟨g.functions ++ [name]⟩

def withFunctions (g : Grammar) (names : List String) : Grammar := names.foldl withFunction g

end Grammar

end OData
