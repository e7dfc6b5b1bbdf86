import OData.Number.Word
import OData.Text.Ascii
import OData.Text.Blank

/-!
# Durations

A duration is a whole number of nanoseconds whose seconds fit into 64 bits. It is
written as a list of numbers with units, largest unit first, and read from such a
list in any order; a number may have a fraction if the result stays exact.
-/

namespace OData

structure Duration where
  nanoseconds : Nat
  deriving DecidableEq, Repr

namespace Duration

def seconds (d : Duration) : Nat := d.nanoseconds / 1000000000

def subsecondNanos (d : Duration) : Nat := d.nanoseconds % 1000000000

def ofSeconds (s : Nat) : Duration := ⟨s * 1000000000⟩

def ofMilliseconds (ms : Nat) : Duration := ⟨ms * 1000000⟩

inductive Unit where
  | nanosecond
  | microsecond
  | millisecond
  | second
  | minute
  | hour
  | day
  | week
  | month
  | year
  deriving DecidableEq, Repr

/-- The units of up to a second in nanoseconds, the others in seconds. A year is
365.25 days, a month 30.44 days. -/
def Unit.size : Unit → Nat
  | .nanosecond => 1
  | .microsecond => 1000
  | .millisecond => 1000000
  | .second => 1
  | .minute => 60
  | .hour => 3600
  | .day => 86400
  | .week => 604800
  | .month => 2630016
  | .year => 31557600

def Unit.isBelowSecond (u : Unit) : Bool := [.nanosecond, .microsecond, .millisecond].contains u

def Unit.names : List (String × Unit) :=
  [("nanos", .nanosecond), ("nsec", .nanosecond), ("ns", .nanosecond),
   ("usec", .microsecond), ("us", .microsecond), ("µs", .microsecond),
   ("millis", .millisecond), ("msec", .millisecond), ("ms", .millisecond),
   ("seconds", .second), ("second", .second), ("secs", .second), ("sec", .second), ("s", .second),
   ("minutes", .minute), ("minute", .minute), ("min", .minute), ("mins", .minute), ("m", .minute),
   ("hours", .hour), ("hour", .hour), ("hrs", .hour), ("hr", .hour), ("h", .hour),
   ("days", .day), ("day", .day), ("d", .day),
   ("weeks", .week), ("week", .week), ("wks", .week), ("wk", .week), ("w", .week),
   ("months", .month), ("month", .month), ("M", .month),
   ("years", .year), ("year", .year), ("yrs", .year), ("yr", .year), ("y", .year)]

/-! ## Writing -/

/-- The numbers with their units, largest first. -/
def components (d : Duration) : List (Nat × String) :=
  let s := d.seconds
  let n := d.subsecondNanos
  let ofYear := s % 31557600
  let ofMonth := ofYear % 2630016
  let ofDay := ofMonth % 86400
  [plural (s / 31557600) "year", plural (ofYear / 2630016) "month", plural (ofMonth / 86400) "day",
   (ofDay / 3600, "h"), (ofDay % 3600 / 60, "m"), (ofDay % 60, "s"),
   (n / 1000000, "ms"), (n / 1000 % 1000, "us"), (n % 1000, "ns")]
where
  plural (n : Nat) (name : String) : Nat × String := (n, if n > 1 then name ++ "s" else name)

/-- The components that are not zero, or `0s`. -/
def text (d : Duration) : String :=
  if d.nanoseconds = 0 then "0s"
  else
    String.intercalate " "
      ((d.components.filter (·.1 != 0)).map fun (n, unit) => toString n ++ unit)

/-! ## Reading -/

/-- Why a text is no duration. Offsets count bytes. -/
inductive ReadError where
  | empty
  | numberExpected (offset : Nat)
  | invalidCharacter (offset : Nat)
  | unknownUnit (value : Nat) (unit : String)
  | overflow
  deriving DecidableEq, Repr

/-- A character inside quotes as messages show it. -/
def ReadError.message : ReadError → String
  | .empty => "value was empty"
  | .numberExpected offset => "expected number at " ++ toString offset
  | .invalidCharacter offset => "invalid character at " ++ toString offset
  | .unknownUnit value unit =>
    if unit = "" then
      "time unit needed, for example " ++ toString value ++ "sec or " ++ toString value ++ "ms"
    else
      "unknown time unit \"" ++ unit ++ "\", supported units: ns, us/µs, ms, sec, min, hours, " ++
        "days, weeks, months, years (and few variations)"
  | .overflow =>
    "number is too large or cannot be represented without a lack of precision " ++
      "(values below 1ns are not supported)"

/-- The value if it fits into 64 bits. -/
def checked (n : Nat) : Except ReadError Nat :=
  if n < Number.wordLimit then .ok n else .error .overflow

/-- A fraction of a unit, as a quotient. -/
structure Fraction where
  num : Nat
  den : Nat

/-- A text being read, with the offset of its first character. -/
structure Rest where
  offset : Nat
  chars : List Char

def isUnitChar (c : Char) : Bool := c.isAlpha || c == 'µ'

/-- What the number phase of an item finds: the number, its fraction, and the text from
the first letter of the unit on. -/
structure Numeral where
  whole : Nat
  fraction : Option Fraction
  rest : Rest

/-- The digits after a point; blanks between them do not count. `mark` is the offset that
an error here names: of the point at first, then of the next character. -/
def readFraction (whole num den mark : Nat) : Nat → List Char → Except ReadError Numeral
  | off, [] => finish off []
  | off, c :: cs =>
    if c.isDigit then do
      let den ← checked (10 * den)
      let num ← checked (10 * num + Text.digitValue c)
      readFraction whole num den (off + 1) (off + 1) cs
    else if Text.isBlank c then
      readFraction whole num den (off + c.utf8Size) (off + c.utf8Size) cs
    else if isUnitChar c then finish off (c :: cs)
    else .error (.invalidCharacter mark)
where
  finish (off : Nat) (cs : List Char) : Except ReadError Numeral :=
    if den = 1 then .error (.invalidCharacter mark)
    else .ok ⟨whole, some ⟨num, den⟩, ⟨off, cs⟩⟩

/-- The further digits of a number that started with `n`. -/
def readNumeral (n : Nat) : Nat → List Char → Except ReadError Numeral
  | off, [] => .ok ⟨n, none, ⟨off, []⟩⟩
  | off, c :: cs =>
    if c.isDigit then do
      let n ← checked (10 * n + Text.digitValue c)
      readNumeral n (off + 1) cs
    else if Text.isBlank c then readNumeral n (off + c.utf8Size) cs
    else if isUnitChar c then .ok ⟨n, none, ⟨off, c :: cs⟩⟩
    else if c = '.' then readFraction n 0 1 off (off + 1) cs
    else .error (.invalidCharacter off)

/-- Where a unit ends: at the end of the text, at a blank, or at the next number. -/
inductive UnitEnd where
  | done
  | blank
  | digit (value : Nat)

/-- The letters of a unit, how it ends, and what follows. -/
def readUnit : Nat → List Char → Except ReadError (List Char × UnitEnd × Rest)
  | off, [] => .ok ([], .done, ⟨off, []⟩)
  | off, c :: cs =>
    if c.isDigit then .ok ([], .digit (Text.digitValue c), ⟨off + 1, cs⟩)
    else if Text.isBlank c then .ok ([], .blank, ⟨off + c.utf8Size, cs⟩)
    else if isUnitChar c then
      (readUnit (off + c.utf8Size) cs).map fun (unit, stop, rest) => (c :: unit, stop, rest)
    else .error (.invalidCharacter off)

/-- Adds seconds and nanoseconds to a total, each within 64 bits. -/
def add (total : Duration) (secs nanos : Nat) : Except ReadError Duration := do
  let nanos ← checked (nanos + total.subsecondNanos)
  let secs ← checked (total.seconds + secs + nanos / 1000000000)
  return ⟨secs * 1000000000 + nanos % 1000000000⟩

def divExact (num den : Nat) : Except ReadError Nat :=
  if num % den = 0 then .ok (num / den) else .error .overflow

/-- The part that a fraction of a unit adds; of an hour and more it is whole seconds. -/
def fractionParts (f : Fraction) (u : Unit) : Except ReadError (Nat × Nat) := do
  match u with
  | .nanosecond => throw .overflow
  | .microsecond | .millisecond =>
    let n ← checked (f.num * u.size)
    let n ← divExact n f.den
    return (0, n)
  | .second | .minute =>
    let n ← checked (f.num * (u.size * 1000000000))
    let n ← divExact n f.den
    return (0, n)
  | _ =>
    let n ← checked (f.num * u.size)
    let n ← divExact n f.den
    return (n, 0)

/-- Adds one item to a total. -/
def addItem (total : Duration) (item : Numeral) (unitName : String) :
    Except ReadError Duration := do
  match Unit.names.lookup unitName with
  | none => throw (.unknownUnit item.whole unitName)
  | some u =>
    let n ← checked (item.whole * u.size)
    let total ← if u.isBelowSecond then add total 0 n else add total n 0
    match item.fraction with
    | none => return total
    | some f =>
      let (secs, nanos) ← fractionParts f u
      add total secs nanos

/-- The first digit of the next number after any blanks, none at the end. -/
def firstDigit? (rest : Rest) : Except ReadError (Option (Nat × Rest)) :=
  match Text.trimStart rest.chars with
  | [] => .ok none
  | c :: cs =>
    let skipped := rest.chars.take (rest.chars.length - cs.length)
    if c.isDigit then
      .ok (some (Text.digitValue c, ⟨skipped.foldl (fun n c => n + c.utf8Size) rest.offset, cs⟩))
    else .error (.numberExpected rest.offset)

/-- Reads items from a number that started with `n`; each takes at least a character. -/
def readItems : Nat → Duration → Nat → Rest → Except ReadError Duration
  | 0, _, _, _ => .error .empty
  | fuel + 1, total, n, rest => do
    let item ← readNumeral n rest.offset rest.chars
    let (unit, stop, after) ← readUnit item.rest.offset item.rest.chars
    let total ← addItem total item (String.ofList unit)
    match stop with
    | .digit n => readItems fuel total n after
    | _ =>
      match ← firstDigit? after with
      | none => return total
      | some (n, after) => readItems fuel total n after

/-- Reads a duration; `0` needs no unit. -/
def parse (s : String) : Except ReadError Duration := do
  if s = "0" then return ⟨0⟩
  match ← firstDigit? ⟨0, s.toList⟩ with
  | none => throw .empty
  | some (n, rest) => readItems (s.toList.length + 1) ⟨0⟩ n rest

end Duration

end OData
