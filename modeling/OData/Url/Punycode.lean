/-!
# Punycode

The code that writes a label of any script with the letters, digits and hyphens of
ASCII. In front of the last hyphen stand the ASCII characters of the label; behind it,
numbers say one by one which character comes next in code point order and where it is
inserted. A number has digits of base 36, the least first; the digit that ends it is
below a threshold that follows the size of the numbers before it.
-/

namespace OData.Url.Punycode

/-- The value of a digit: `a` to `z`, then `0` to `9`. -/
def digit? (c : Char) : Option Nat :=
  if 'a' ≤ c && c ≤ 'z' then some (c.toNat - 'a'.toNat)
  else if c.isDigit then some (c.toNat - '0'.toNat + 26)
  else none

/-- The threshold at the digit whose place is `k / 36`. -/
def threshold (k bias : Nat) : Nat :=
  if k ≤ bias then 1 else if bias + 26 ≤ k then 26 else k - bias

/-- The bias after a number of size `delta` has placed one of `points` characters. -/
def adapt (delta points : Nat) (first : Bool) : Nat :=
  let start := if first then delta / 700 else delta / 2
  settle 0 (start + start / points)
where
  settle (k delta : Nat) : Nat :=
    if 455 < delta then settle (k + 36) (delta / 35) else k + 36 * delta / (delta + 38)
  termination_by delta
  decreasing_by omega

/-- What has been read: the characters placed so far, the last one placed and the place
behind it, and the sum, weight and digit count of the number that is being read. -/
structure State where
  text : List Char
  code : Nat := 0x80
  place : Nat := 0
  bias : Nat := 72
  sum : Nat := 0
  weight : Nat := 1
  k : Nat := 36

/-- Numbers have at most 32 bits. -/
def limit : Nat := 0x100000000

/-- Places the character that a number stands for: every round over the places is one
step to the next code point. -/
def State.insert? (s : State) (sum : Nat) : Option State :=
  let points := s.text.length + 1
  let code := s.code + sum / points
  let place := sum % points
  if code.isValidChar then
    some {
      text := s.text.insertIdx place (Char.ofNat code)
      code
      place := place + 1
      bias := adapt (sum - s.place) points (s.place == 0)
      sum := place + 1 }
  else none

def State.step (s : State) (c : Char) : Option State := do
  let digit ← digit? c
  let sum := s.sum + digit * s.weight
  let t := threshold s.k s.bias
  if limit ≤ sum then none
  else if digit < t then s.insert? sum
  else if limit ≤ s.weight * (36 - t) then none
  else some { s with sum, weight := s.weight * (36 - t), k := s.k + 36 }

/-- The characters that a code stands for. A hyphen with nothing before it separates
nothing. -/
def decode (cs : List Char) : Option (List Char) :=
  let tail := (cs.reverse.takeWhile (· != '-')).reverse
  let plain := cs.take (cs.length - tail.length - 1)
  let numbers := if plain.isEmpty then cs else tail
  match numbers.foldlM State.step { text := plain } with
  | some s => if s.k = 36 then some s.text else none
  | none => none

end OData.Url.Punycode
