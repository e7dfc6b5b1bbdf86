import OData.Json.Basic
import OData.Number.Word
import OData.Text.Ascii

/-!
# JSON numerals

A numeral without fraction and exponent that fits into 64 bits is a whole number.
Any other is read as the digits that fit into 64 bits, rounded, times or divided by
a rounded power of ten; the result may differ from the nearest floating-point
number in its last bit. A numeral beyond the largest finite number is refused.
-/

namespace OData.Json.Numeral

open OData.Text OData.Number

/-- Extends a number by leading digits while it fits into 64 bits. -/
def extend (n : Nat) : List Char → Nat × List Char
  | [] => (n, [])
  | c :: cs =>
    let m := 10 * n + digitValue c
    if m < wordLimit then extend m cs else (n, c :: cs)

def powerOfTen (k : Nat) : Binary64 := Binary64.ofNat (Nat.pow 10 k)

/-- The largest power of ten that is finite. -/
def maxPower : Nat := 308

/-- `x * 10 ^ e`, in steps that stay among finite powers; three steps reach zero from any
64-bit number. -/
def scale : Nat → Binary64 → Int → Option Binary64
  | 0, _, _ => some Binary64.zero
  | fuel + 1, x, e =>
    if e.natAbs ≤ maxPower then
      let y := if 0 ≤ e then x.mul (powerOfTen e.natAbs) else x.div (powerOfTen e.natAbs)
      if y.isInfinite then none else some y
    else if x.isZero then some x
    else if 0 ≤ e then none
    else scale fuel (x.div (powerOfTen maxPower)) (e + maxPower)

/-- Exponents beyond this are not told apart. -/
def exponentLimit : Nat := 0x80000000

/-- A numeral cut into its parts. -/
structure Parts where
  negative : Bool
  whole : List Char
  fraction : Option (List Char)
  /-- Whether the exponent is negative, and its digits. -/
  exponent : Option (Bool × List Char)

/-- The significand with the power of ten that the written digits give it. -/
def Parts.significand (p : Parts) : Nat × Int :=
  let (n, beyond) := extend 0 p.whole
  match p.fraction with
  | none => (n, beyond.length)
  | some fraction =>
    let (m, unread) := extend n fraction
    (m, (beyond.length : Int) - ((fraction.length : Int) - unread.length))

def Parts.float? (p : Parts) : Option Binary64 :=
  let (n, e) := p.significand
  match p.exponent with
  | none => scale 4 (Binary64.ofNat n) e
  | some (below, digits) =>
    let k := readDigits digits
    if exponentLimit ≤ k then
      if n ≠ 0 ∧ !below then none else some Binary64.zero
    else scale 4 (Binary64.ofNat n) (if below then e - k else e + k)

/-- A whole number, or none if it has to be a floating-point one. -/
def Parts.int? (p : Parts) : Option Int :=
  let n := readDigits p.whole
  if p.fraction.isSome || p.exponent.isSome then none
  else if p.negative then if 0 < n ∧ n ≤ signedLimit then some (-(n : Int)) else none
  else if n < wordLimit then some n else none

def Parts.value? (p : Parts) : Option Json :=
  match p.int? with
  | some n => some (.int n)
  | none => p.float?.map fun x => .float (if p.negative then x.neg else x)

/-! ## The parts of a text -/

/-- No digit may follow a leading zero. -/
def isWhole (cs : List Char) : Bool :=
  match cs with
  | [] => false
  | ['0'] => true
  | '0' :: _ => false
  | _ => true

def splitExponent (cs : List Char) : Option (Option (Bool × List Char)) :=
  match cs with
  | [] => some none
  | e :: rest =>
    if e == 'e' || e == 'E' then
      let (below, digits) := match rest with
        | '-' :: ds => (true, ds)
        | '+' :: ds => (false, ds)
        | ds => (false, ds)
      if !digits.isEmpty && digits.all Char.isDigit then some (some (below, digits)) else none
    else none

/-- Cuts a numeral; none if the text is not one. -/
def split? (cs : List Char) : Option Parts := do
  let (negative, cs) := match cs with
    | '-' :: rest => (true, rest)
    | _ => (false, cs)
  let whole := cs.takeWhile Char.isDigit
  let rest := cs.dropWhile Char.isDigit
  guard (isWhole whole)
  match rest with
  | '.' :: rest =>
    let fraction := rest.takeWhile Char.isDigit
    guard !fraction.isEmpty
    let exponent ← splitExponent (rest.dropWhile Char.isDigit)
    return { negative, whole, fraction := some fraction, exponent }
  | _ =>
    let exponent ← splitExponent rest
    return { negative, whole, fraction := none, exponent }

/-- The value of a numeral. -/
def read? (cs : List Char) : Option Json := (split? cs).bind Parts.value?

end OData.Json.Numeral
