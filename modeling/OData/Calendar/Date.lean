import OData.Text.Ascii

/-!
# Dates

Dates of the proleptic Gregorian calendar with a year zero. `Date.ofDay` counts days
from the first of January of year 0: whole periods of 400 years first, then the year
within the period, then the month.
-/

namespace OData

structure Date where
  year : Int
  month : Nat
  day : Nat
  deriving DecidableEq, Repr

namespace Date

def isLeap (year : Int) : Bool := year % 4 = 0 && (year % 100 != 0 || year % 400 = 0)

/-- The lengths of the months from January on. -/
def monthLengths (leap : Bool) : List Nat :=
  [31, if leap then 29 else 28, 31, 30, 31, 30, 31, 31, 30, 31, 30, 31]

/-- The years that can be represented. -/
def yearInRange (year : Int) : Bool := -262143 ≤ year && year ≤ 262142

/-- Whether the month has that day. -/
def isValid (d : Date) : Bool :=
  1 ≤ d.month && 1 ≤ d.day &&
    match (monthLengths (isLeap d.year))[d.month - 1]? with
    | some length => d.day ≤ length
    | none => false

/-- Days before the year `y` of a 400-year period that starts with a leap year. -/
def daysBeforeYear (y : Nat) : Nat := 365 * y + (y + 3) / 4 - (y + 99) / 100 + (y + 399) / 400

def daysPerPeriod : Nat := 146097

/-- The year of the period that holds its day `n`, both from zero. -/
def yearOfPeriod (n : Nat) : Nat :=
  let guess := n / 366
  if daysBeforeYear (guess + 1) ≤ n then guess + 1 else guess

/-- Month and day of the day `n` of a year, counted from zero. -/
def monthDay (month : Nat) : List Nat → Nat → Nat × Nat
  | [], n => (month, n + 1)
  | length :: rest, n =>
    if n < length then (month, n + 1) else monthDay (month + 1) rest (n - length)

/-- The date of the day `n`, where day 0 is the first of January of year 0. -/
def ofDay (n : Int) : Date :=
  let period := n / daysPerPeriod
  let inPeriod := (n % daysPerPeriod).toNat
  let y := yearOfPeriod inPeriod
  let year := 400 * period + y
  let (month, day) := monthDay 1 (monthLengths (isLeap year)) (inPeriod - daysBeforeYear y)
  { year, month, day }

/-- Years of four digits are written plain; all others carry a sign. -/
def yearText (year : Int) : List Char :=
  if 0 ≤ year ∧ year ≤ 9999 then Text.padded 4 year.toNat
  else (if 0 ≤ year then '+' else '-') :: Text.padded 4 year.natAbs

def chars (d : Date) : List Char :=
  yearText d.year ++ '-' :: Text.padded 2 d.month ++ '-' :: Text.padded 2 d.day

/-- Year, month and day, joined by hyphens. -/
def text (d : Date) : String := String.ofList d.chars

end Date

end OData
