import OData.Url.Basic
import OData.Url.Label

/-!
# Hosts

The host of a special URL is an IPv6 address in brackets, an IPv4 address in any
of its number forms, or a domain name; each is written in one canonical form. The
host of any other URL is an IPv6 address or opaque text. Domain names are read in
ASCII alone; a label of another script comes as its code.
-/

namespace OData.Url.Host

open OData.Text

/-! ## IPv4 -/

/-- One part of an IPv4 address: decimal, octal after `0`, hexadecimal after `0x`. -/
def ipv4Number? (cs : List Char) : Option Nat :=
  match cs with
  | [] => none
  | '0' :: 'x' :: digits => radix 16 isHexDigit digits
  | '0' :: 'X' :: digits => radix 16 isHexDigit digits
  | '0' :: d :: digits => radix 8 (fun c => '0' ≤ c && c ≤ '7') (d :: digits)
  | digits => radix 10 Char.isDigit digits
where
  radix (base : Nat) (p : Char → Bool) (digits : List Char) : Option Nat :=
    if digits.all p then some (digits.foldl (fun n c => base * n + (hexValue? c).getD 0) 0)
    else none

/-- The parts between the dots, without an empty last one. -/
def dottedParts (cs : List Char) : List (List Char) :=
  let parts := cs.splitOn '.'
  if parts.length > 1 && parts.getLast? == some [] then parts.dropLast else parts

/-- Whether the name has to be read as an IPv4 address. -/
def endsInNumber (cs : List Char) : Bool :=
  match (dottedParts cs).getLast? with
  | some last => (!last.isEmpty && last.all Char.isDigit) || (ipv4Number? last).isSome
  | none => false

/-- The 32-bit address that up to four numbers give: the last one fills the bytes that
the others leave. -/
def ipv4Value? (parts : List Nat) : Option Nat :=
  match parts.reverse with
  | [] => none
  | last :: front =>
    if parts.length ≤ 4 ∧ front.all (· ≤ 255) ∧ last < Nat.pow 256 (5 - parts.length) then
      some (parts.dropLast.foldl (fun n b => 256 * n + b) 0 *
        Nat.pow 256 (5 - parts.length) + last)
    else none

def ipv4Text (n : Nat) : String :=
  toString (n / 0x1000000) ++ "." ++ toString (n / 0x10000 % 256) ++ "." ++
    toString (n / 256 % 256) ++ "." ++ toString (n % 256)

def ipv4? (cs : List Char) : Option String :=
  ((dottedParts cs).mapM ipv4Number?).bind ipv4Value? |>.map ipv4Text

/-! ## IPv6 -/

/-- A piece of at most four hexadecimal digits. -/
def ipv6Piece? (cs : List Char) : Option Nat :=
  if cs.length ≤ 4 ∧ !cs.isEmpty ∧ cs.all isHexDigit then
    some (cs.foldl (fun n c => 16 * n + (hexValue? c).getD 0) 0)
  else none

/-- A byte in decimal, without a leading zero. -/
def ipv6Byte? (cs : List Char) : Option Nat :=
  match natOfDigits? cs with
  | some n => if n ≤ 255 ∧ (cs.length = 1 ∨ cs.head? ≠ some '0') then some n else none
  | none => none

/-- The dotted quad that may stand for the last two pieces. -/
def ipv6Quad? (cs : List Char) : Option (List Nat) :=
  match (cs.splitOn '.').mapM ipv6Byte? with
  | some [a, b, c, d] => some [256 * a + b, 256 * c + d]
  | _ => none

/-- The pieces of a run without `::`; only the last one of the address may be a quad. -/
def ipv6Pieces? (quadAllowed : Bool) (cs : List Char) : Option (List Nat) :=
  if cs.isEmpty then some []
  else go (cs.splitOn ':')
where
  go : List (List Char) → Option (List Nat)
    | [] => some []
    | [last] =>
      if quadAllowed && last.contains '.' then ipv6Quad? last
      else (ipv6Piece? last).map ([·])
    | p :: ps => do
      let n ← ipv6Piece? p
      let rest ← go ps
      return n :: rest

/-- The text before and after the first `::`. -/
def cutDoubleColon : List Char → Option (List Char × List Char)
  | [] => none
  | ':' :: ':' :: rest => some ([], rest)
  | c :: rest => (cutDoubleColon rest).map fun (a, b) => (c :: a, b)

/-- The eight pieces of an address; `::` stands for the zeros that are missing. -/
def ipv6? (cs : List Char) : Option (List Nat) :=
  match cutDoubleColon cs with
  | none => do
    let pieces ← ipv6Pieces? true cs
    if pieces.length = 8 then some pieces else none
  | some (a, b) => do
    let front ← ipv6Pieces? false a
    let back ← ipv6Pieces? true b
    if front.length + back.length ≤ 7 then
      some (front ++ List.replicate (8 - front.length - back.length) 0 ++ back)
    else none

/-- The number of leading zero pieces. -/
def zeroRun (pieces : List Nat) : Nat := (pieces.takeWhile (· == 0)).length

/-- Where the first of the longest runs of zeros starts, and its length. -/
def longestZeros : Nat → List Nat → Nat × Nat
  | _, [] => (0, 0)
  | i, p :: ps =>
    let here := zeroRun (p :: ps)
    let later := longestZeros (i + 1) ps
    if later.2 ≤ here then (i, here) else later

def hexText (n : Nat) : String := String.ofList (Nat.toDigits 16 n)

/-- The address with its first longest run of at least two zeros as `::`. -/
def ipv6Text (pieces : List Nat) : String :=
  let (start, len) := longestZeros 0 pieces
  let join (ps : List Nat) := String.intercalate ":" (ps.map hexText)
  if len < 2 then join pieces
  else join (pieces.take start) ++ "::" ++ join (pieces.drop (start + len))

def bracketed (cs : List Char) : Except ParseError String :=
  match cs.reverse with
  | ']' :: rest =>
    match ipv6? rest.reverse with
    | some pieces => .ok ("[" ++ ipv6Text pieces ++ "]")
    | none => .error .invalidIpv6
  | _ => .error .invalidIpv6

/-! ## Names -/

/-- Characters that no domain name holds. -/
def isForbiddenInDomain (c : Char) : Bool :=
  c.toNat ≤ 0x20 || c.toNat ≥ 0x7F || "%#/:<>?@[\\]^|".toList.contains c

/-- Characters that no opaque host holds. -/
def isForbiddenInOpaque (c : Char) : Bool :=
  c.toNat = 0 || "\t\n\r #/:<>?@[\\]^|".toList.contains c

/-- The host of a special URL. -/
def domain (cs : List Char) : Except ParseError String :=
  match cs with
  | '[' :: rest => bracketed rest
  | _ =>
    let name := (Utf8.decode (Percent.bytes cs)).map Char.toLower
    if name.any isForbiddenInDomain || !(Label.isName name) then .error .invalidDomainName
    else if name.isEmpty then .error .emptyHost
    else if endsInNumber name then
      match ipv4? name with
      | some address => .ok address
      | none => .error .invalidIpv4
    else .ok (String.ofList name)

/-- The host of a URL whose scheme is not special. -/
def opaqueName (cs : List Char) : Except ParseError String :=
  match cs with
  | '[' :: rest => bracketed rest
  | _ =>
    if cs.any isForbiddenInOpaque then .error .invalidDomainCharacter
    else .ok (encodeText keepPrintable cs)

end OData.Url.Host
