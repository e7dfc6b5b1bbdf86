import OData.Text.Percent

/-!
# Form-coded pairs

The pairs of a query string: parts between `&`, each a name and a value around its
first `=`, with `+` for a space and percent coding otherwise. Empty parts are no
pairs.
-/

namespace OData.Url.Form

open OData.Text

/-- The text that a name or value stands for. -/
def decode (cs : List Char) : List Char :=
  Utf8.decode (Percent.bytes (cs.map fun c => if c = '+' then ' ' else c))

/-- A part around its first `=`. -/
def pair (part : List Char) : List Char × List Char :=
  (decode (part.takeWhile (· != '=')), decode ((part.dropWhile (· != '=')).drop 1))

def pairs (cs : List Char) : List (List Char × List Char) :=
  ((cs.splitOn '&').filter (!·.isEmpty)).map pair

end OData.Url.Form
