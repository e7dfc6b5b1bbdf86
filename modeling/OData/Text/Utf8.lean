/-!
# Text as UTF-8 bytes

`Utf8.encode` writes characters as bytes and `Utf8.decode` reads bytes back.
Reading never fails: every longest run of bytes that starts a character but
cannot finish it is read as U+FFFD. A text may be cut at its boundaries, where no
character is under way; `Utf8.boundaryBefore` searches backward for one.
-/

namespace OData.Text.Utf8

/-- The bytes of a text. -/
def encode (cs : List Char) : List UInt8 := cs.flatMap String.utf8EncodeChar

/-- What the reader holds between two bytes: nothing, or the bits of a character
whose next byte has to lie in `lo`–`hi`, with `more` bytes to follow that one. -/
inductive State where
  | ground
  | inside (value more lo hi : Nat)

/-- U+FFFD, read where the bytes are no character. -/
def replacement : Char := '\uFFFD'

/-- The state after the first byte of a character, with what it emits at once. -/
def start (b : UInt8) : State × List Char :=
  let n := b.toNat
  if n < 0x80 then (.ground, [Char.ofNat n])
  else if 0xC2 ≤ n ∧ n ≤ 0xDF then (.inside (n - 0xC0) 0 0x80 0xBF, [])
  else if n = 0xE0 then (.inside 0 1 0xA0 0xBF, [])
  else if n = 0xED then (.inside 0xD 1 0x80 0x9F, [])
  else if 0xE1 ≤ n ∧ n ≤ 0xEF then (.inside (n - 0xE0) 1 0x80 0xBF, [])
  else if n = 0xF0 then (.inside 0 2 0x90 0xBF, [])
  else if n = 0xF4 then (.inside 4 2 0x80 0x8F, [])
  else if 0xF1 ≤ n ∧ n ≤ 0xF3 then (.inside (n - 0xF0) 2 0x80 0xBF, [])
  else (.ground, [replacement])

/-- One byte: it continues the open character, or that one is given up and the byte
starts afresh. -/
def step : State → UInt8 → State × List Char
  | .ground, b => start b
  | .inside value more lo hi, b =>
    if lo ≤ b.toNat ∧ b.toNat ≤ hi then
      let value := 64 * value + (b.toNat - 0x80)
      match more with
      | 0 => (.ground, [Char.ofNat value])
      | k + 1 => (.inside value k 0x80 0xBF, [])
    else
      let (s, out) := start b
      (s, replacement :: out)

/-- The rest of the text from a state. -/
def finish : State → List UInt8 → List Char
  | .ground, [] => []
  | .inside .., [] => [replacement]
  | s, b :: bs =>
    let (s', out) := step s b
    out ++ finish s' bs

/-- The text of a run of bytes. -/
def decode (bs : List UInt8) : List Char := finish .ground bs

/-! ## Boundaries -/

/-- Whether a byte goes on with a character that an earlier byte starts. -/
def isContinuation (b : UInt8) : Bool := 0x80 ≤ b.toNat && b.toNat < 0xC0

/-- Whether an offset lies between two characters, or at an end of the text. -/
def isBoundary (bs : List UInt8) (i : Nat) : Bool :=
  i == 0 ||
    match bs[i]? with
    | some b => !isContinuation b
    | none => i == bs.length

/-- The first boundary on the way back from an offset. -/
def boundaryBefore (bs : List UInt8) : Nat → Nat
  | 0 => 0
  | i + 1 => if isBoundary bs (i + 1) then i + 1 else boundaryBefore bs i

end OData.Text.Utf8
