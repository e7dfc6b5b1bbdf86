import OData.Unicode.Category

/-!
# Texts shown in messages

A text in double quotes on one line: quotes and backslashes are escaped, and so are
characters that would not show, by their code.
-/

namespace OData.Text

open OData.Unicode

/-- Characters that do not show by themselves: all but the graphic ones and the space, and
those that continue the character before them. -/
def isHiddenInMessage (c : Char) : Bool :=
  c != ' ' && (!(isGraphic c) || isExtender c)

def shownChar (c : Char) : List Char :=
  if c = '"' ∨ c = '\\' then ['\\', c]
  else if c = '\n' then ['\\', 'n']
  else if c = '\r' then ['\\', 'r']
  else if c = '\t' then ['\\', 't']
  else if c.toNat = 0 then ['\\', '0']
  else if isHiddenInMessage c then
    ['\\', 'u', '\x7b'] ++ Nat.toDigits 16 c.toNat ++ ['\x7d']
  else [c]

/-- The text in quotes. -/
def shown (s : String) : String := String.ofList ('"' :: s.toList.flatMap shownChar ++ ['"'])

end OData.Text
