import OData.Calendar.Timestamp
import OData.Text.Percent
import OData.Text.Quoted
import OData.Value

/-!
# Literals

How a value stands in a filter and in a key. A string is quoted unless it already is
a literal of another kind: a member of an enumeration, a primitive with a type word,
or a timestamp in a filter; a whole number or an identifier in a key.
-/

namespace OData.Literal

open OData.Text

/-- The word before a quoted text that reaches to the end; none if the text has no such
form. The quoted text itself holds no quote. -/
def wordBeforeQuoted? (cs : List Char) : Option (List Char) :=
  match cs.dropWhile (· != '\'') with
  | [] => none
  | _ :: rest =>
    if rest.getLast? == some '\'' && !rest.dropLast.contains '\'' then
      some (cs.takeWhile (· != '\''))
    else none

/-- A letter or underscore, then letters, digits and underscores. -/
def isIdentifier (cs : List Char) : Bool :=
  match cs with
  | [] => false
  | c :: rest => (c.isAlpha || c == '_') && rest.all isWordChar

/-- A member of an enumeration: a dotted name before a quoted text. -/
def isEnumMember (cs : List Char) : Bool :=
  match wordBeforeQuoted? cs with
  | some word =>
    let parts := word.splitOn '.'
    2 ≤ parts.length && parts.all isIdentifier
  | none => false

/-- The case of a letter for type words; the long s is an `s`. -/
def foldLetter (c : Char) : Char := if c = '\u017f' then 's' else c.toLower

def typeWords : List String := ["binary", "datetime", "guid", "time", "datetimeoffset"]

/-- A primitive with a type word before a quoted text. -/
def isTypedPrimitive (cs : List Char) : Bool :=
  match wordBeforeQuoted? cs with
  | some word => typeWords.any (·.toList == word.map foldLetter)
  | none => false

/-- Whether a string stands in a filter as it is. -/
def isBare (cs : List Char) : Bool :=
  isEnumMember cs || isTypedPrimitive cs || Timestamp.recognises cs

/-- A value in a filter. -/
def ofValue : Value → String
  | .text s => if isBare s.toList then s else Quoted.quote s
  | v => v.toText

/-! ## Keys -/

/-- Whether a compiled text is for reading or for sending. -/
inductive Form where
  | readable
  | sent
  deriving DecidableEq, Repr

/-- Digits with or without a minus sign. -/
def isInteger (cs : List Char) : Bool :=
  let digits := match cs with
    | '-' :: rest => rest
    | _ => cs
  !digits.isEmpty && digits.all Char.isDigit

/-- Hexadecimal digits in groups of 8, 4, 4, 4 and 12. -/
def isIdentifierText (cs : List Char) : Bool :=
  let groups := cs.splitOn '-'
  groups.map List.length == [8, 4, 4, 4, 12] && groups.all (·.all isHexDigit)

/-- A string in a key. -/
def ofKeyText (form : Form) (s : String) : String :=
  if isInteger s.toList || isIdentifierText s.toList then s
  else
    match form with
    | .readable => Quoted.quote s
    | .sent => "'" ++ Percent.encode (String.ofList (Quoted.double s.toList)) ++ "'"

def ofKeyValue (form : Form) : Value → String
  | .text s => ofKeyText form s
  | v => v.toText

/-- The parentheses behind the entity set. -/
def ofKey (form : Form) : EntityKey → String
  | .int n => "(" ++ toString n ++ ")"
  | .uuid u => "(" ++ u.text ++ ")"
  | .text s => "(" ++ ofKeyText form s ++ ")"
  | .parts ps =>
    "(" ++ String.intercalate "," (ps.map fun (name, v) => name ++ "=" ++ ofKeyValue form v) ++ ")"

end OData.Literal
