/-!
# Binary floating point

A `Binary64` is a 64-bit floating-point number by its bits. A finite one is
`significand * 2 ^ scale` up to its sign. `ofRatio` rounds a positive fraction to
the nearest such number, a tie to the even significand; products and quotients are
the rounded exact ones.
-/

namespace OData

structure Binary64 where
  bits : UInt64
  deriving DecidableEq, Repr

namespace Binary64

/-- The bit of a normal significand that is not stored. -/
def hiddenBit : Nat := 0x10000000000000

def isNegative (x : Binary64) : Bool := 0x8000000000000000 ≤ x.bits.toNat

def exponentField (x : Binary64) : Nat := x.bits.toNat / hiddenBit % 2048

def fraction (x : Binary64) : Nat := x.bits.toNat % hiddenBit

def isNaN (x : Binary64) : Bool := x.exponentField = 2047 && x.fraction ≠ 0

def isInfinite (x : Binary64) : Bool := x.exponentField = 2047 && x.fraction = 0

def isZero (x : Binary64) : Bool := x.exponentField = 0 && x.fraction = 0

def significand (x : Binary64) : Nat :=
  if x.exponentField = 0 then x.fraction else x.fraction + hiddenBit

def scale (x : Binary64) : Int := (max x.exponentField 1 : Nat) - 1075

/-- Equality of numbers: a NaN equals nothing, the two zeros are equal. -/
def sameNumber (x y : Binary64) : Bool :=
  !x.isNaN && !y.isNaN && (x == y || (x.isZero && y.isZero))

/-- The one NaN that is written. -/
def nan : Binary64 := ⟨0x7FF8000000000000⟩

def infinity : Binary64 := ⟨0x7FF0000000000000⟩

def zero : Binary64 := ⟨0⟩

def neg (x : Binary64) : Binary64 := ⟨x.bits ^^^ 0x8000000000000000⟩

/-- The quotient rounded to the nearest whole number, a tie to the even one. -/
def roundHalfEven (num den : Nat) : Nat :=
  let q := num / den
  let r := num % den
  if den < 2 * r ∨ (2 * r = den ∧ q % 2 = 1) then q + 1 else q

/-- The largest `e` with `2 ^ e ≤ num / den`, for positive `num` and `den`. -/
def floorLog2 (num den : Nat) : Int :=
  let e : Int := (num.log2 : Int) - den.log2
  let reached := if 0 ≤ e then den * Nat.pow 2 e.toNat ≤ num else den ≤ num * Nat.pow 2 (-e).toNat
  if reached then e else e - 1

/-- The positive number nearest to `num / den`; infinity beyond the largest. -/
def ofRatio (num den : Nat) : Binary64 :=
  if num = 0 then zero
  else
    let e := max (floorLog2 num den - 52) (-1074)
    let q :=
      if 0 ≤ e then roundHalfEven num (den * Nat.pow 2 e.toNat)
      else roundHalfEven (num * Nat.pow 2 (-e).toNat) den
    let bits := (e + 1074).toNat * hiddenBit + q
    if bits < 2047 * hiddenBit then ⟨UInt64.ofNat bits⟩ else infinity

def ofNat (n : Nat) : Binary64 := ofRatio n 1

/-- The rounded product of two nonnegative finite numbers. -/
def mul (x y : Binary64) : Binary64 :=
  let s := x.scale + y.scale
  let m := x.significand * y.significand
  if 0 ≤ s then ofRatio (m * Nat.pow 2 s.toNat) 1 else ofRatio m (Nat.pow 2 (-s).toNat)

/-- The rounded quotient of two nonnegative finite numbers, the second one not zero. -/
def div (x y : Binary64) : Binary64 :=
  let s := x.scale - y.scale
  if 0 ≤ s then ofRatio (x.significand * Nat.pow 2 s.toNat) y.significand
  else ofRatio x.significand (y.significand * Nat.pow 2 (-s).toNat)

end Binary64

end OData
