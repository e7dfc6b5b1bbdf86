import OData.Text.Ascii

/-!
# Header fields

Header names are the same in any case and are kept in small letters. A name may have
several values, which keep their order.
-/

namespace OData.Http

/-- Names in small letters with their values. -/
structure Headers where
  entries : List (String × String)
  deriving DecidableEq, Repr

namespace Headers

def empty : Headers := ⟨[]⟩

/-- The values of a name. -/
def values (h : Headers) (name : String) : List String :=
  (h.entries.filter (·.1 == Text.lower name)).map Prod.snd

def get? (h : Headers) (name : String) : Option String := (h.values name).head?

/-- Adds a value behind those the name has. -/
def append (h : Headers) (name value : String) : Headers :=
  ⟨h.entries ++ [(Text.lower name, value)]⟩

/-- Puts a value in place of those the name has. -/
def insert (h : Headers) (name value : String) : Headers :=
  ⟨h.entries.filter (·.1 != Text.lower name) ++ [(Text.lower name, value)]⟩

theorem values_insert_self (h : Headers) (name value : String) :
    (h.insert name value).values name = [value] := by
  simp [insert, values, List.filter_append]

/-- The entries in the order of their names. -/
def sorted (h : Headers) : List (String × String) :=
  h.entries.mergeSort fun a b => a.1 ≤ b.1

/-- The characters of a header name. -/
def isNameChar (c : Char) : Bool := c.isAlphanum || "!#$%&'*+-.^_`|~".toList.contains c

/-- The most characters that a header name has. -/
def nameLimit : Nat := 0xFFFF

def isName (s : String) : Bool := s != "" && s.length ≤ nameLimit && s.toList.all isNameChar

/-- Every character but the controls; a tab is none of these. -/
def isValueChar (c : Char) : Bool := c == '\t' || (0x20 ≤ c.toNat && c.toNat != 0x7F)

def isValue (s : String) : Bool := s.toList.all isValueChar

/-- Whether a value is readable as text: printable ASCII and tabs. -/
def isReadable (s : String) : Bool :=
  s.toList.all fun c => c == '\t' || (0x20 ≤ c.toNat && c.toNat ≤ 0x7E)

end Headers

end OData.Http
