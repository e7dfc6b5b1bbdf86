import OData.Number.Binary64

/-!
# Shortest decimal digits

The decimal of fewest digits that reads back as a given binary number, and of those
the nearest to it; which of two equally near ones is for the format to say. The reals
that read back form an interval, closed if the significand is even; on the grid of
decimals with a given last place, some point lies in it only if one of the two
neighbours of the number does.
-/

namespace OData.Number

/-- `digits * 10 ^ exponent`. -/
structure Decimal10 where
  digits : Nat
  exponent : Int
  deriving DecidableEq, Repr

/-- A positive number `m / den` with the bounds `lo / den` and `hi / den` of the reals
that round to it. -/
structure Neighbourhood where
  lo : Nat
  m : Nat
  hi : Nat
  den : Nat
  closed : Bool

/-- The neighbourhood of a finite number other than zero. Below a power of two the
grid of binary numbers is twice as fine. -/
def neighbourhood (x : Binary64) : Neighbourhood :=
  let m := 4 * x.significand
  let lo := if x.fraction = 0 ∧ 1 < x.exponentField then m - 1 else m - 2
  let s := x.scale - 2
  let up := Nat.pow 2 s.toNat
  { lo := lo * up, m := m * up, hi := (m + 2) * up, den := Nat.pow 2 (-s).toNat
    closed := x.significand % 2 = 0 }

/-- Whether `n * 10 ^ g` reads back as the number. -/
def Neighbourhood.holds (v : Neighbourhood) (n : Nat) (g : Int) : Bool :=
  let point := n * Nat.pow 10 g.toNat * v.den
  let unit := Nat.pow 10 (-g).toNat
  if v.closed then v.lo * unit ≤ point && point ≤ v.hi * unit
  else v.lo * unit < point && point < v.hi * unit

/-- Which of two decimals is taken if a number lies half way between them. -/
inductive Tie where
  | up
  | even
  deriving DecidableEq, Repr

/-- Whether a tie goes to the lower decimal, given its digits. -/
def Tie.isDown : Tie → Nat → Bool
  | .up, _ => false
  | .even, n => n % 2 == 0

/-- The nearer of the two neighbours of the number on the grid of `10 ^ g` that read
back as it. -/
def Neighbourhood.onGrid? (v : Neighbourhood) (tie : Tie) (g : Int) : Option Nat :=
  let num := v.m * Nat.pow 10 (-g).toNat
  let den := v.den * Nat.pow 10 g.toNat
  let below := num / den
  let lowHolds := v.holds below g && below != 0
  let highHolds := v.holds (below + 1) g
  let twice := 2 * (num % den)
  let lowIsNearer := twice < den || (twice == den && tie.isDown below)
  if lowHolds && (!highHolds || lowIsNearer) then some below
  else if highHolds then some (below + 1)
  else none

def digitCount (n : Nat) : Nat := (Nat.toDigits 10 n).length

/-- The place of the first digit: the largest `e` with `10 ^ e ≤ num / den`. -/
def floorLog10 (num den : Nat) : Int :=
  if den ≤ num then digitCount (num / den) - 1
  else
    let d := digitCount (den / num)
    if den ≤ num * Nat.pow 10 (d - 1) then -((d : Int) - 1) else -(d : Int)

/-- Tries the grids from the coarsest, `fuel` of them. -/
def searchGrids (v : Neighbourhood) (tie : Tie) : Nat → Int → Option Decimal10
  | 0, _ => none
  | fuel + 1, g =>
    match v.onGrid? tie g with
    | some n => some ⟨n, g⟩
    | none => searchGrids v tie fuel (g - 1)

/-- The shortest decimal of a finite number other than zero. The coarsest grid that can
hold it is one place above its first digit, and seventeen digits always suffice. -/
def shortest (tie : Tie) (x : Binary64) : Decimal10 :=
  let v := neighbourhood x
  (searchGrids v tie 19 (floorLog10 v.m v.den + 1)).getD ⟨0, 0⟩

/-! ## Written forms -/

/-- The place of the first digit. -/
def Decimal10.leadingPlace (d : Decimal10) : Int := d.exponent + digitCount d.digits - 1

/-- The number in full, without an exponent. -/
def Decimal10.positional (d : Decimal10) : List Char :=
  let digits := Nat.toDigits 10 d.digits
  if 0 ≤ d.exponent then digits ++ List.replicate d.exponent.toNat '0'
  else
    let places := (-d.exponent).toNat
    let all := List.replicate (places + 1 - digits.length) '0' ++ digits
    all.take (all.length - places) ++ '.' :: all.drop (all.length - places)

/-- One digit before the point and a signed exponent. -/
def Decimal10.scientific (d : Decimal10) : List Char :=
  let digits := Nat.toDigits 10 d.digits
  let e := d.leadingPlace
  let point := if digits.length = 1 then [] else '.' :: digits.drop 1
  digits.take 1 ++ point ++ 'e' :: (if 0 ≤ e then '+' else '-') :: Nat.toDigits 10 e.natAbs

def signed (x : Binary64) (magnitude : List Char) : String :=
  String.ofList (if x.isNegative then '-' :: magnitude else magnitude)

end OData.Number

namespace OData.Binary64

open Number

/-- The number in full, whatever its size; a tie goes up. -/
def text (x : Binary64) : String :=
  if x.isNaN then "NaN"
  else if x.isInfinite then signed x "inf".toList
  else if x.isZero then signed x ['0']
  else signed x (shortest .up x).positional

/-- The number as JSON writes it: with a point or an exponent always, and in full while
the first digit is at most five places after the point or sixteen before it. A tie goes
to the even digit. -/
def jsonText (x : Binary64) : String :=
  if x.isZero then signed x "0.0".toList
  else
    let d := shortest .even x
    let e := d.leadingPlace
    if -5 ≤ e ∧ e ≤ 15 then
      signed x (d.positional ++ if 0 ≤ d.exponent then ".0".toList else [])
    else signed x d.scientific

end OData.Binary64
