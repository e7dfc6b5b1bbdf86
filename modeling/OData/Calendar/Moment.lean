import OData.Calendar.Date

/-!
# Moments

A `Moment` counts seconds and nanoseconds from the start of 1970 in UTC. A fraction
of a second and more marks a leap second: the second 60 after the second counted.
-/

namespace OData

structure Moment where
  seconds : Int
  nanos : Nat
  deriving DecidableEq, Repr

namespace Moment

def nanosPerSecond : Nat := 1000000000

/-- The first day of 1970, counted from year 0. -/
def epochDay : Int := 719528

def date (m : Moment) : Date := Date.ofDay (m.seconds / 86400 + epochDay)

def secondOfDay (m : Moment) : Nat := (m.seconds % 86400).toNat

/-- The fraction of a second with as many digits as it needs: none, 3, 6 or 9. -/
def fraction (nanos : Nat) : List Char :=
  if nanos = 0 then []
  else if nanos % 1000000 = 0 then '.' :: Text.padded 3 (nanos / 1000000)
  else if nanos % 1000 = 0 then '.' :: Text.padded 6 (nanos / 1000)
  else '.' :: Text.padded 9 nanos

def chars (m : Moment) : List Char :=
  let leap := nanosPerSecond ≤ m.nanos
  let s := m.secondOfDay
  m.date.chars ++ 'T' :: Text.padded 2 (s / 3600) ++ ':' :: Text.padded 2 (s / 60 % 60) ++
    ':' :: Text.padded 2 (if leap then s % 60 + 1 else s % 60) ++
    fraction (if leap then m.nanos - nanosPerSecond else m.nanos) ++ ['Z']

/-- Date and time of day in UTC, with the designator `Z`. -/
def text (m : Moment) : String := String.ofList m.chars

end Moment

end OData
