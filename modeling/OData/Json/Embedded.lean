/-!
# The first object inside a text

`firstObject?` cuts the first balanced pair of braces out of a text that may hold
anything around it. Braces inside string literals do not count; a quote opens or
closes a literal, and a backslash in one hides the next character.
-/

namespace OData.Json.Embedded

/-- Where the scanner is: the braces open, and whether it is inside a literal, behind a
backslash. -/
structure Scan where
  depth : Nat
  inLiteral : Bool
  hidden : Bool
  deriving DecidableEq, Repr

def Scan.start : Scan := ⟨0, false, false⟩

def Scan.step (s : Scan) (c : Char) : Scan :=
  if s.inLiteral then
    if s.hidden then { s with hidden := false }
    else if c = '\\' then { s with hidden := true }
    else if c = '"' then { s with inLiteral := false }
    else s
  else if c = '"' then { s with inLiteral := true }
  else if c = '\x7b' then { s with depth := s.depth + 1 }
  else if c = '\x7d' then { s with depth := s.depth - 1 }
  else s

/-- Whether a character closes the last open brace. -/
def Scan.closes (s : Scan) (c : Char) : Bool :=
  !s.inLiteral && c == '\x7d' && s.depth == 1

/-- The shortest leading part that ends where the last open brace closes. -/
def balanced? (s : Scan) : List Char → Option (List Char)
  | [] => none
  | c :: cs => if s.closes c then some [c] else (balanced? (s.step c) cs).map (c :: ·)

/-- The first balanced object of a text. -/
def firstObject? (cs : List Char) : Option (List Char) :=
  balanced? .start (cs.dropWhile (· != '\x7b'))

end OData.Json.Embedded
