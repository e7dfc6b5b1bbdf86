import OData.Text.Ascii
import OData.Text.Utf8

/-!
# Percent coding

A character outside the kept class is written as its UTF-8 bytes, each as `%`
and two hexadecimal digits. Reading replaces every such triple by its byte and
leaves a `%` that starts none alone.
-/

namespace OData.Text.Percent

/-- The digit of a value below 16, letters large. -/
def hexUpper (n : Nat) : Char := (Nat.digitChar n).toUpper

/-- A byte as `%` and two digits. -/
def escape (b : UInt8) : List Char := ['%', hexUpper (b.toNat / 16), hexUpper (b.toNat % 16)]

def encodeChar (keep : Char → Bool) (c : Char) : List Char :=
  if keep c then [c] else (String.utf8EncodeChar c).flatMap escape

/-- Writes every character outside the class `keep` as its bytes. -/
def encodeWith (keep : Char → Bool) (cs : List Char) : List Char :=
  cs.flatMap (encodeChar keep)

/-- The characters that need no coding anywhere in a URI. -/
def isUnreserved (c : Char) : Bool :=
  c.isAlphanum || c == '-' || c == '_' || c == '.' || c == '~'

/-- The coding of a value: only unreserved characters stay. -/
def encode (s : String) : String := String.ofList (encodeWith isUnreserved s.toList)

/-- The byte that two hexadecimal digits write. -/
def byteOf? (a b : Char) : Option UInt8 := do
  let high ← hexValue? a
  let low ← hexValue? b
  return UInt8.ofNat (16 * high + low)

/-- The bytes of a coded text. -/
def bytes : List Char → List UInt8
  | [] => []
  | '%' :: a :: b :: rest =>
    match byteOf? a b with
    | some byte => byte :: bytes rest
    | none => String.utf8EncodeChar '%' ++ bytes (a :: b :: rest)
  | c :: rest => String.utf8EncodeChar c ++ bytes rest

/-- The text that a coded text stands for. -/
def decode (s : String) : String := String.ofList (Utf8.decode (bytes s.toList))

end OData.Text.Percent
