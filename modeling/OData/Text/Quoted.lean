/-!
# Quoted literals

A string literal stands between single quotes, and a quote inside is written
twice.
-/

namespace OData.Text.Quoted

/-- Every quote doubled. -/
def double : List Char → List Char
  | [] => []
  | c :: cs => if c = '\'' then c :: c :: double cs else c :: double cs

/-- The literal of a text. -/
def quote (s : String) : String := String.ofList ('\'' :: double s.toList ++ ['\''])

/-- Reads doubled quotes back; none if a quote stands alone. -/
def undouble : List Char → Option (List Char)
  | [] => some []
  | '\'' :: '\'' :: cs => (undouble cs).map ('\'' :: ·)
  | c :: cs => if c = '\'' then none else (undouble cs).map (c :: ·)

theorem undouble_double (cs : List Char) : undouble (double cs) = some cs := by
  induction cs with
  | nil => rfl
  | cons c cs ih => by_cases h : c = '\'' <;> simp [double, undouble, h, ih]

end OData.Text.Quoted
