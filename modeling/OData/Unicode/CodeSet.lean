/-!
# Sets of code points

A set of characters is kept as the list of the code points at which membership
changes. The tables of character properties are such lists, as of version 17 of Unicode;
surrogates are no characters, and a range may run over them.
-/

namespace OData.Unicode

/-- A set by its bounds in ascending order: every second one opens a range, and the next
one is the first code point after it. -/
structure CodeSet where
  bounds : List Nat

/-- Whether an odd number of ascending bounds is at most `n`. -/
def inside : List Nat → Nat → Bool
  | [], _ => false
  | b :: bs, n => b ≤ n && !(inside bs n)

def CodeSet.contains (s : CodeSet) (c : Char) : Bool := inside s.bounds c.toNat

/-- A code point below every bound is in no range. -/
theorem inside_of_lt {b : Nat} {bs : List Nat} {n : Nat} (h : n < b) :
    inside (b :: bs) n = false := by
  simp [inside]; omega

end OData.Unicode
