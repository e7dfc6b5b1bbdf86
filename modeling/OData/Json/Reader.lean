import OData.Json.Numeral

/-!
# Reading JSON

The reader is a machine that takes one character at a time. Its state is a stack of
the arrays and objects that are open and a mode that says what may come next. It
refuses texts that nest deeper than `maxDepth`, and strings with a lone surrogate.
-/

namespace OData.Json.Reader

open OData.Text

/-- An open array or object with what it holds so far; an object also has the key whose
value is being read. The items of an array are kept last first. -/
inductive Frame where
  | arr (items : List Json)
  | obj (members : List (String × Json)) (key : String)

/-- What comes after a backslash in a string. `lead` is the first half of a surrogate
pair, once it has been read. -/
inductive Escape where
  | none
  | letter (lead : Option Nat)
  | hex (lead : Option Nat) (digits value : Nat)
  /-- The second half of a surrogate pair has to follow. -/
  | trail (lead : Nat)

inductive Mode where
  /-- A value; `close` allows the end of the array instead. -/
  | value (close : Bool)
  /-- A key; `close` allows the end of the object instead. -/
  | key (close : Bool)
  | colon
  /-- The text of a string so far, last character first. -/
  | string (isKey : Bool) (text : List Char) (escape : Escape)
  | numeral (text : List Char)
  /-- The letters that must follow to complete a word, and its value. -/
  | word (rest : List Char) (v : Json)
  /-- After a value inside an array or object. -/
  | after
  | done (v : Json)

structure State where
  stack : List Frame
  mode : Mode

def maxDepth : Nat := 127

def start : State := ⟨[], .value false⟩

def isSpace (c : Char) : Bool := c == ' ' || c == '\n' || c == '\t' || c == '\r'

/-- The state after a value is complete. -/
def complete (v : Json) : List Frame → State
  | [] => ⟨[], .done v⟩
  | .arr items :: rest => ⟨.arr (v :: items) :: rest, .after⟩
  | .obj members key :: rest => ⟨.obj (insertMember key v members) key :: rest, .after⟩

def openFrame (stack : List Frame) (frame : Frame) (mode : Mode) : Option State :=
  if stack.length < maxDepth then some ⟨frame :: stack, mode⟩ else none

/-- Closes the innermost array or object. -/
def closeFrame (c : Char) : List Frame → Option State
  | .arr items :: rest => if c = ']' then some (complete (.arr items.reverse) rest) else none
  | .obj members _ :: rest => if c = '\x7d' then some (complete (.obj members) rest) else none
  | [] => none

def isNumeralChar (c : Char) : Bool :=
  c.isDigit || c == '-' || c == '+' || c == '.' || c == 'e' || c == 'E'

/-- The first character of a value. -/
def beginValue (stack : List Frame) (c : Char) : Option State :=
  if c = '"' then some ⟨stack, .string false [] .none⟩
  else if c = '[' then openFrame stack (.arr []) (.value true)
  else if c = '\x7b' then openFrame stack (.obj [] "") (.key true)
  else if c = 't' then some ⟨stack, .word ['r', 'u', 'e'] (.bool true)⟩
  else if c = 'f' then some ⟨stack, .word ['a', 'l', 's', 'e'] (.bool false)⟩
  else if c = 'n' then some ⟨stack, .word ['u', 'l', 'l'] .null⟩
  else if c = '-' ∨ c.isDigit then some ⟨stack, .numeral [c]⟩
  else none

/-- What a letter behind a backslash stands for. -/
def escaped? (c : Char) : Option Char :=
  if c = '"' ∨ c = '\\' ∨ c = '/' then some c
  else if c = 'b' then some '\x08'
  else if c = 'f' then some '\x0c'
  else if c = 'n' then some '\n'
  else if c = 'r' then some '\r'
  else if c = 't' then some '\t'
  else none

/-- The character that four digits name, or the half of a pair that they are. -/
def finishHex (text : List Char) (lead : Option Nat) (n : Nat) : Option (List Char × Escape) :=
  match lead with
  | some high =>
    if 0xDC00 ≤ n ∧ n ≤ 0xDFFF then
      some (Char.ofNat ((high - 0xD800) * 0x400 + (n - 0xDC00) + 0x10000) :: text, .none)
    else none
  | none =>
    if 0xDC00 ≤ n ∧ n ≤ 0xDFFF then none
    else if 0xD800 ≤ n ∧ n ≤ 0xDBFF then some (text, .trail n)
    else some (Char.ofNat n :: text, .none)

/-- One character inside a string, other than the quote that ends it. -/
def stringStep (text : List Char) (escape : Escape) (c : Char) : Option (List Char × Escape) :=
  match escape with
  | .none =>
    if c = '\\' then some (text, .letter none)
    else if c.toNat < 0x20 then none
    else some (c :: text, .none)
  | .letter lead =>
    if c = 'u' then some (text, .hex lead 0 0)
    else if lead.isSome then none
    else (escaped? c).map fun d => (d :: text, .none)
  | .hex lead digits value =>
    match hexValue? c with
    | none => none
    | some d =>
      if digits = 3 then finishHex text lead (16 * value + d)
      else some (text, .hex lead (digits + 1) (16 * value + d))
  | .trail lead => if c = '\\' then some (text, .letter (some lead)) else none

/-- The state after the quote that ends a string. -/
def endString (stack : List Frame) (isKey : Bool) (text : List Char) : Option State :=
  let s := String.ofList text.reverse
  if isKey then
    match stack with
    | .obj members _ :: rest => some ⟨.obj members s :: rest, .colon⟩
    | _ => none
  else some (complete (.str s) stack)

/-- The comma or the end of an array or object. -/
def afterStep (stack : List Frame) (c : Char) : Option State :=
  if c = ',' then
    match stack with
    | .arr _ :: _ => some ⟨stack, .value false⟩
    | .obj .. :: _ => some ⟨stack, .key false⟩
    | [] => none
  else closeFrame c stack

/-- A character where no token is open. -/
def tokenStep (stack : List Frame) (mode : Mode) (c : Char) : Option State :=
  if isSpace c then some ⟨stack, mode⟩
  else
    match mode with
    | .value close =>
      if close && c = ']' then closeFrame c stack else beginValue stack c
    | .key close =>
      if close && c = '\x7d' then closeFrame c stack
      else if c = '"' then some ⟨stack, .string true [] .none⟩
      else none
    | .colon => if c = ':' then some ⟨stack, .value false⟩ else none
    | .after => afterStep stack c
    | _ => none

/-- A character outside a string. A numeral ends at the first character that cannot
belong to one. -/
def plainStep (s : State) (c : Char) : Option State :=
  match s.mode with
  | .numeral text =>
    if isNumeralChar c then some ⟨s.stack, .numeral (c :: text)⟩
    else
      match Numeral.read? text.reverse with
      | none => none
      | some v =>
        let t := complete v s.stack
        tokenStep t.stack t.mode c
  | .word rest v =>
    match rest with
    | [d] => if c = d then some (complete v s.stack) else none
    | d :: rest => if c = d then some ⟨s.stack, .word rest v⟩ else none
    | [] => none
  | mode => tokenStep s.stack mode c

def step (s : State) (c : Char) : Option State :=
  match s.mode with
  | .string isKey text escape =>
    match escape with
    | .none =>
      if c = '"' then endString s.stack isKey text
      else (stringStep text .none c).map fun (t, e) => ⟨s.stack, .string isKey t e⟩
    | escape => (stringStep text escape c).map fun (t, e) => ⟨s.stack, .string isKey t e⟩
  | _ => plainStep s c

/-- The value that is complete at the end of the text. -/
def finish (s : State) : Option Json :=
  match s.mode with
  | .done v => some v
  | .numeral text => if s.stack.isEmpty then Numeral.read? text.reverse else none
  | _ => none

def run (s : State) : List Char → Option State
  | [] => some s
  | c :: cs => (step s c).bind (run · cs)

end OData.Json.Reader

namespace OData.Json

/-- The value that a text writes; none if it is not JSON. -/
def parseChars (cs : List Char) : Option Json :=
  (Reader.run Reader.start cs).bind Reader.finish

def parse (s : String) : Option Json := parseChars s.toList

end OData.Json
