import OData.Number.Shortest

/-!
# Decimal numbers

A `Decimal` is `digits * 10 ^ (-scale)`; the scale is kept as given, so `1.50` and
`1.5` are written apart although they are the same number.
-/

namespace OData

structure Decimal where
  digits : Int
  scale : Int
  deriving DecidableEq, Repr

namespace Decimal

/-- Whether `a * 10 ^ n` is `b`. A product that would have more digits than `b` is not
worked out. -/
def isShifted (a : Int) (n : Nat) (b : Int) : Bool :=
  if a = 0 || b = 0 then a == b
  else n < (Nat.toDigits 10 b.natAbs).length && a * Nat.pow 10 n == b

/-- Leaving out a product that is too long changes no answer. -/
theorem isShifted_iff (a : Int) (n : Nat) (b : Int) :
    isShifted a n b ↔ a * Nat.pow 10 n = b := by
  have positive : 0 < Nat.pow 10 n := Nat.pow_pos (by decide)
  unfold isShifted
  split
  · next zero =>
    rcases (by simpa using zero : a = 0 ∨ b = 0) with rfl | rfl
    · simp
    · rw [beq_iff_eq, Int.mul_eq_zero]
      omega
  · next nonzero =>
    have ⟨ha, hb⟩ : a ≠ 0 ∧ b ≠ 0 := by simpa using nonzero
    simp only [Bool.and_eq_true, decide_eq_true_eq, beq_iff_eq, and_iff_right_iff_imp]
    intro product
    apply Nat.lt_of_not_le
    intro short
    have room : 0 < n := Nat.lt_of_lt_of_le (List.length_pos_iff.2 Nat.toDigits_ne_nil) short
    have small : b.natAbs < Nat.pow 10 n :=
      (Nat.length_toDigits_le_iff (by decide) room).1 short
    have size : b.natAbs = a.natAbs * Nat.pow 10 n := by rw [← product, Int.natAbs_mul]; rfl
    have := Nat.mul_le_mul_right (Nat.pow 10 n) (show 1 ≤ a.natAbs by omega)
    omega

/-- Equality of the numbers, whatever their scales. -/
def sameNumber (x y : Decimal) : Bool :=
  if x.scale ≤ y.scale then isShifted x.digits (y.scale - x.scale).toNat y.digits
  else isShifted y.digits (x.scale - y.scale).toNat x.digits

/-- When a decimal is written with an exponent. -/
structure Style where
  /-- Zeros after the point, before the first digit, up to which the form is plain. -/
  leadingZeros : Nat
  /-- Zeros to add behind the digits up to which the form is plain. -/
  trailingZeros : Nat

def style : Style := ⟨5, 15⟩

def signedExponent (e : Int) : List Char :=
  (if 0 ≤ e then '+' else '-') :: Nat.toDigits 10 e.natAbs

/-- The digits of the magnitude with the point at its place. -/
def magnitude (x : Decimal) : List Char :=
  let digits := Nat.toDigits 10 x.digits.natAbs
  if (style.leadingZeros : Int) < x.scale - digits.length then
    let e := (digits.length : Int) - x.scale - 1
    let point := if digits.length = 1 then [] else '.' :: digits.drop 1
    digits.take 1 ++ point ++ if e = 0 then [] else 'E' :: signedExponent e
  else if (style.trailingZeros : Int) < -x.scale then digits ++ 'e' :: signedExponent (-x.scale)
  else (Number.Decimal10.mk x.digits.natAbs (-x.scale)).positional

/-- Zero is `0`, whatever its scale. -/
def text (x : Decimal) : String :=
  if x.digits = 0 then "0"
  else String.ofList (if x.digits < 0 then '-' :: x.magnitude else x.magnitude)

end Decimal

end OData
