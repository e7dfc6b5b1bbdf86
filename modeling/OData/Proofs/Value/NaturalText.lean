import OData.Value

/-!
# The alphabet of natural texts

Apart from strings and six fixed words, every value is written in numerals: digits,
signs, points, colons and the letters `T` and `Z`. The alphabet holds no character that
quotes, groups or separates, in a filter as in a URL.
-/

namespace OData

open Text

/-- The characters of numbers, identifiers, dates and times. -/
def isNumeral (c : Char) : Bool := isHexDigit c || "+-.:TZ".toList.contains c

theorem isNumeral_of_isDigit {c : Char} (h : c.isDigit) : isNumeral c := by
  simp [isNumeral, isHexDigit, hexValue?, h]

/-! ## Digits -/

theorem isHexDigit_digitChar {d : Nat} (h : d < 16) : isHexDigit d.digitChar := by
  have : ∀ d : Fin 16, isHexDigit (Nat.digitChar d) := by decide
  exact this ⟨d, h⟩

theorem isHexDigit_of_mem_toDigits (n : Nat) : ∀ c ∈ Nat.toDigits 16 n, isHexDigit c := by
  induction n using Nat.strongRecOn with
  | ind n ih =>
    rw [Nat.toDigits_eq_if (by decide)]
    split
    · next h => simpa using isHexDigit_digitChar h
    · next h =>
      simp only [List.mem_append, List.mem_singleton]
      rintro c (hc | rfl)
      · exact ih (n / 16) (by omega) c hc
      · exact isHexDigit_digitChar (Nat.mod_lt _ (by decide))

def Numeral (cs : List Char) : Prop := ∀ c ∈ cs, isNumeral c

namespace Numeral

theorem nil : Numeral [] := fun _ h => by cases h

theorem cons {x : Char} {ys : List Char} (hx : isNumeral x) (hy : Numeral ys) :
    Numeral (x :: ys) := List.forall_mem_cons.2 ⟨hx, hy⟩

theorem append {xs ys : List Char} (hx : Numeral xs) (hy : Numeral ys) : Numeral (xs ++ ys) :=
  List.forall_mem_append.2 ⟨hx, hy⟩

theorem take {xs : List Char} (n : Nat) (h : Numeral xs) : Numeral (xs.take n) :=
  fun c hc => h c (List.mem_of_mem_take hc)

theorem drop {xs : List Char} (n : Nat) (h : Numeral xs) : Numeral (xs.drop n) :=
  fun c hc => h c (List.mem_of_mem_drop hc)

theorem zeros (n : Nat) : Numeral (List.replicate n '0') := fun c h => by
  rw [List.eq_of_mem_replicate h]; decide

theorem toDigits (n : Nat) : Numeral (Nat.toDigits 10 n) := fun _ h =>
  isNumeral_of_isDigit (Nat.isDigit_of_mem_toDigits (by decide) (by decide) h)

theorem padded (width n : Nat) : Numeral (Text.padded width n) :=
  (zeros _).append (toDigits n)

/-! ## Numbers -/

theorem natText (n : Nat) : Numeral (toString n).toList := by
  rw [Nat.toString_eq_repr, Nat.toList_repr]
  exact toDigits n

theorem intText (n : Int) : Numeral (toString n).toList := by
  cases n with
  | ofNat n => exact natText n
  | negSucc n =>
    rw [show toString (Int.negSucc n) = "-" ++ toString (n + 1) from rfl, String.toList_append]
    exact cons (by decide) (natText _)

theorem positional (d : Number.Decimal10) : Numeral d.positional := by
  unfold Number.Decimal10.positional
  dsimp only
  split
  · exact (toDigits _).append (zeros _)
  · have all := (zeros ((-d.exponent).toNat + 1 - (Nat.toDigits 10 d.digits).length)).append
      (toDigits d.digits)
    exact (all.take _).append (cons (by decide) (all.drop _))

theorem signed (x : Binary64) {cs : List Char} (h : Numeral cs) :
    Numeral (Number.signed x cs).toList := by
  unfold Number.signed
  rw [String.toList_ofList]
  split
  · exact cons (by decide) h
  · exact h

theorem signedExponent (e : Int) : Numeral (Decimal.signedExponent e) := by
  unfold Decimal.signedExponent
  refine cons ?_ (toDigits _)
  split <;> decide

theorem magnitude (x : Decimal) : Numeral x.magnitude := by
  unfold Decimal.magnitude
  dsimp only
  have digits := toDigits x.digits.natAbs
  split
  · refine ((digits.take 1).append ?_).append ?_
    · split
      · exact nil
      · exact cons (by decide) (digits.drop 1)
    · split
      · exact nil
      · exact cons (by decide) (signedExponent _)
  · split
    · exact digits.append (cons (by decide) (signedExponent _))
    · exact positional _

theorem decimalText (x : Decimal) : Numeral x.text.toList := by
  unfold Decimal.text
  split
  · exact cons (by decide) nil
  · rw [String.toList_ofList]
    split
    · exact cons (by decide) (magnitude x)
    · exact magnitude x

/-! ## Identifiers, dates and times -/

theorem uuidText (u : Uuid) : Numeral u.text.toList := by
  unfold Uuid.text Uuid.chars
  rw [String.toList_ofList]
  have digits : Numeral (Nat.toDigits 16 u.bits.toNat) := fun c h => by
    simp [isNumeral, isHexDigit_of_mem_toDigits _ c h]
  have all := (zeros (32 - (Nat.toDigits 16 u.bits.toNat).length)).append digits
  have hyphen : isNumeral '-' := by decide
  exact ((((all.take 8).append (cons hyphen ((all.drop 8).take 4))).append
    (cons hyphen ((all.drop 12).take 4))).append (cons hyphen ((all.drop 16).take 4))).append
    (cons hyphen (all.drop 20))

theorem dateChars (d : Date) : Numeral d.chars := by
  have hyphen : isNumeral '-' := by decide
  have year : Numeral (Date.yearText d.year) := by
    unfold Date.yearText
    split
    · exact padded _ _
    · refine cons ?_ (padded _ _)
      split <;> decide
  exact (year.append (cons hyphen (padded _ _))).append (cons hyphen (padded _ _))

theorem fraction (nanos : Nat) : Numeral (Moment.fraction nanos) := by
  have point : isNumeral '.' := by decide
  unfold Moment.fraction
  split
  · exact nil
  split
  · exact cons point (padded _ _)
  split
  · exact cons point (padded _ _)
  · exact cons point (padded _ _)

theorem momentChars (m : Moment) : Numeral m.chars := by
  have colon : isNumeral ':' := by decide
  have time : isNumeral 'T' := by decide
  unfold Moment.chars
  exact (((((dateChars _).append (cons time (padded _ _))).append
    (cons colon (padded _ _))).append (cons colon (padded _ _))).append
    (fraction _)).append (cons (by decide) nil)

end Numeral

/-! ## Values -/

/-- The values that are written as words. -/
def namedTexts : List String := ["null", "true", "false", "NaN", "inf", "-inf"]

/-- Not a number and the infinities have names. -/
theorem floatText_form (x : Binary64) : x.text ∈ namedTexts ∨ Numeral x.text.toList := by
  unfold Binary64.text
  split
  · exact .inl (by decide)
  split
  · left
    unfold Number.signed
    split <;> decide
  right
  split
  · exact (Numeral.cons (by decide) Numeral.nil).signed x
  · exact (Numeral.positional _).signed x

theorem toText_form (v : Value) :
    (∃ s, v = .text s) ∨ v.toText ∈ namedTexts ∨ Numeral v.toText.toList := by
  cases v with
  | null => exact .inr (.inl (by decide))
  | bool b => cases b <;> exact .inr (.inl (by decide))
  | int n => exact .inr (.inr (.intText n))
  | float x => exact .inr (floatText_form x)
  | decimal d => exact .inr (.inr (.decimalText d))
  | uuid u => exact .inr (.inr (.uuidText u))
  | moment m =>
    right; right
    rw [show (Value.moment m).toText = String.ofList m.chars from rfl, String.toList_ofList]
    exact .momentChars m
  | date d =>
    right; right
    rw [show (Value.date d).toText = String.ofList d.chars from rfl, String.toList_ofList]
    exact .dateChars d
  | text s => exact .inl ⟨s, rfl⟩

end OData
