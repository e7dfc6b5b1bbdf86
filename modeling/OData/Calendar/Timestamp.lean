import OData.Calendar.Date
import OData.Text.Blank

/-!
# Texts that read as timestamps

Three forms are recognised: a date and time with an offset in fixed columns, a date
and time without an offset, and a date alone. In the last two, blanks may precede
each number and a number may lack its leading zeros.
-/

namespace OData.Timestamp

open OData.Text

/-- A reader takes a value off the front of a text. -/
abbrev Reader (α : Type) := List Char → Option (α × List Char)

def literal (p : Char → Bool) : Reader Unit
  | c :: cs => if p c then some ((), cs) else none
  | [] => none

/-- Between `least` and `most` digits, as many as there are. -/
def digits (least most : Nat) : Reader Nat := fun cs =>
  let run := (cs.take most).takeWhile Char.isDigit
  if least ≤ run.length then some (readDigits run, cs.drop run.length) else none

/-- A number of one to `most` digits after any blanks. -/
def number (most : Nat) : Reader Nat := fun cs => digits 1 most (trimStart cs)

/-- A year of up to four digits, or of any number of them behind a sign. -/
def year : Reader Int := fun cs =>
  match trimStart cs with
  | '-' :: rest => (digits 1 rest.length rest).map fun (n, rest) => (-(n : Int), rest)
  | '+' :: rest => (digits 1 rest.length rest).map fun (n, rest) => ((n : Int), rest)
  | rest => (digits 1 4 rest).map fun (n, rest) => ((n : Int), rest)

/-- A point and at least one digit, or nothing. -/
def fraction : Reader Unit
  | '.' :: cs =>
    let rest := cs.dropWhile Char.isDigit
    if rest.length < cs.length then some ((), rest) else none
  | cs => some ((), cs)

def isTimeOfDay (hour minute second : Nat) : Bool := hour ≤ 23 && minute ≤ 59 && second ≤ 60

def isDate (d : Date) : Bool := Date.yearInRange d.year && d.isValid

/-- A date alone. -/
def date : Reader Date := fun cs => do
  let (year, cs) ← year cs
  let ((), cs) ← literal (· == '-') cs
  let (month, cs) ← number 2 cs
  let ((), cs) ← literal (· == '-') cs
  let (day, cs) ← number 2 cs
  return ({ year, month, day }, cs)

def readsAsDate (cs : List Char) : Bool :=
  match date cs with
  | some (d, []) => isDate d
  | _ => false

/-- A date and time without an offset. -/
def readsAsLocal (cs : List Char) : Bool :=
  match read cs with
  | some ((d, h, m, s), []) => isDate d && isTimeOfDay h m s
  | _ => false
where
  read : Reader (Date × Nat × Nat × Nat) := fun cs => do
    let (d, cs) ← date cs
    let ((), cs) ← literal (· == 'T') cs
    let (h, cs) ← number 2 cs
    let ((), cs) ← literal (· == ':') cs
    let (m, cs) ← number 2 cs
    let ((), cs) ← literal (· == ':') cs
    let (s, cs) ← number 2 cs
    let ((), cs) ← fraction cs
    return ((d, h, m, s), cs)

/-- `Z`, or a signed number of hours and minutes below a day. -/
def offset : Reader Unit
  | 'Z' :: cs => some ((), cs)
  | 'z' :: cs => some ((), cs)
  | sign :: cs => do
    guard (sign == '+' || sign == '-' || sign == '\u2212')
    let (hours, cs) ← digits 2 2 cs
    let ((), cs) ← literal (· == ':') cs
    let (minutes, cs) ← digits 2 2 cs
    guard (hours ≤ 23 ∧ minutes ≤ 59)
    return ((), cs)
  | [] => none

/-- A date and time with an offset. -/
def readsAsInstant (cs : List Char) : Bool :=
  match read cs with
  | some ((d, h, m, s), []) => isDate d && isTimeOfDay h m s
  | _ => false
where
  read : Reader (Date × Nat × Nat × Nat) := fun cs => do
    let (year, cs) ← digits 4 4 cs
    let ((), cs) ← literal (· == '-') cs
    let (month, cs) ← digits 2 2 cs
    let ((), cs) ← literal (· == '-') cs
    let (day, cs) ← digits 2 2 cs
    let ((), cs) ← literal (fun c => c == 'T' || c == 't' || c == ' ') cs
    let (h, cs) ← digits 2 2 cs
    let ((), cs) ← literal (· == ':') cs
    let (m, cs) ← digits 2 2 cs
    let ((), cs) ← literal (· == ':') cs
    let (s, cs) ← digits 2 2 cs
    let ((), cs) ← fraction cs
    let ((), cs) ← offset cs
    return (({ year, month, day }, h, m, s), cs)

/-- Whether a text has one of the three forms. -/
def recognises (cs : List Char) : Bool :=
  readsAsInstant cs || readsAsLocal cs || readsAsDate cs

end OData.Timestamp
