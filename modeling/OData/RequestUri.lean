import OData.Filter

/-!
# Request URIs

A query as a URI relative to the service root: entity set, key, `/$count`, then the
options in a fixed order. The readable form leaves values as they are; in the sent
form the value of every option and every quoted key is percent-coded.
-/

namespace OData

/-- Joins the segments that are not empty; once a `?$` has been written, an `&`
precedes each. -/
def concatenate (segments : List String) : String :=
  (segments.filter (· != "")).foldl
    (fun uri segment =>
      if hasOption uri.toList then uri ++ "&" ++ segment else uri ++ segment) ""
where
  hasOption : List Char → Bool
    | '?' :: '$' :: _ => true
    | _ :: rest => hasOption rest
    | [] => false

namespace Query

open Literal (Form)

def selectOption (q : Query) : String :=
  if q.isCount then ""
  else
    match q.properties with
    | some (p :: ps) => "$select=" ++ String.intercalate "," (p :: ps)
    | _ => ""

def filterOption (q : Query) : String :=
  let body := Filter.ofQuery q
  if body = "" then "" else "$filter=" ++ body

def expandOption (q : Query) : String :=
  if q.expansions.isEmpty then "" else "$expand=" ++ String.intercalate "," q.expansions

def orderOption (q : Query) : String :=
  match q.rawOrder with
  | some raw => "$orderby=" ++ raw
  | none =>
    if q.orders.isEmpty then ""
    else
      "$orderby=" ++
        String.intercalate "," (q.orders.map fun k => k.column ++ " " ++ k.direction.word)

def skipOption (q : Query) : String :=
  match q.skip with
  | some n => "$skip=" ++ toString n
  | none => ""

def skipTokenOption (q : Query) : String :=
  match q.skipToken with
  | some token => "$skiptoken=" ++ token
  | none => ""

/-- A single entity is not limited. -/
def topOption (q : Query) : String :=
  if q.hasKey then ""
  else
    match q.take with
    | some n => "$top=" ++ toString n
    | none => ""

def totalOption (q : Query) : String := if q.wantsTotal && !q.hasKey then "$count=true" else ""

/-- The options in the order in which they are written, absent ones empty. -/
def options (q : Query) : List String :=
  [q.selectOption, q.filterOption, q.expandOption, q.orderOption, q.skipOption,
   q.skipTokenOption, q.topOption, q.totalOption]

/-- Codes what follows the first `=`. -/
def encodeOption (option : String) : String :=
  let value := option.toList.dropWhile (· != '=')
  match value with
  | [] => option
  | _ :: value =>
    String.ofList (option.toList.takeWhile (· != '=')) ++ "=" ++
      Text.Percent.encode (String.ofList value)

def setText (q : Query) : String := q.entitySet.getD ""

def keyText (form : Form) (q : Query) : String :=
  match q.key with
  | some key => Literal.ofKey form key
  | none => ""

/-- Entity set and key. -/
def path (form : Form) (q : Query) : String := concatenate [q.setText, q.keyText form]

/-- The whole relative URI. -/
def uri (form : Form) (q : Query) : String :=
  let options := match form with
    | .readable => q.options
    | .sent => q.options.map encodeOption
  let mark := if options.any (· != "") then "?" else ""
  concatenate ([q.setText, q.keyText form, if q.isCount then "/$count" else "", mark] ++ options)

end Query

end OData
