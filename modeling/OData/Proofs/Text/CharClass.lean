import OData.Text.Percent

/-!
# Classes of characters

A class is a Boolean function. That one character lies outside it is decided, and so every
character of the class is another one (`ne_of_class`); what holds of a class of ASCII
characters is decided for the first 128 (`of_ascii`).
-/

namespace OData.Text

theorem ne_of_class {p : Char → Bool} {c x : Char} (h : p c) (hx : p x = false) : c ≠ x := by
  rintro rfl
  rw [hx] at h
  cases h

theorem ascii_of_isAlphanum {c : Char} (h : c.isAlphanum) : c.toNat < 128 := by
  have below {b : Char} (hb : b.toNat < 128) (h : c.val ≤ b.val) : c.toNat < 128 :=
    Nat.lt_of_le_of_lt (UInt32.le_iff_toNat_le.1 h) hb
  rcases Bool.or_eq_true_iff.1 h with letter | digit
  · rcases Bool.or_eq_true_iff.1 letter with upper | lower
    · exact below (by decide) (of_decide_eq_true upper).2
    · exact below (by decide) (of_decide_eq_true (Bool.and_eq_true_iff.1 lower).2)
  · exact below (by decide) (of_decide_eq_true (Bool.and_eq_true_iff.1 digit).2)

theorem ascii_of_isHexDigit {c : Char} (h : isHexDigit c) : c.toNat < 128 := by
  unfold isHexDigit hexValue? at h
  split at h
  · next digit => exact ascii_of_isAlphanum (by simp [Char.isAlphanum, digit])
  split at h
  · next small => exact Nat.lt_of_le_of_lt small.2 (by decide)
  split at h
  · next large => exact Nat.lt_of_le_of_lt large.2 (by decide)
  · cases h

theorem ascii_of_isUnreserved {c : Char} (h : Percent.isUnreserved c) : c.toNat < 128 := by
  simp only [Percent.isUnreserved, Bool.or_eq_true, beq_iff_eq] at h
  rcases h with (((h | rfl) | rfl) | rfl) | rfl
  · exact ascii_of_isAlphanum h
  all_goals decide

/-- What holds of the first 128 characters holds of every character among them. -/
theorem of_ascii {P : Char → Prop} (all : ∀ n : Fin 128, P (Char.ofNat n)) {c : Char}
    (h : c.toNat < 128) : P c := by
  have := all ⟨c.toNat, h⟩
  rwa [show Char.ofNat c.toNat = c from Char.ofNat_toNat c] at this

theorem toLower_toLower (c : Char) : c.toLower.toLower = c.toLower := by
  rcases Nat.lt_or_ge c.toNat 128 with ascii | beyond
  · exact of_ascii (P := fun c => c.toLower.toLower = c.toLower) (by decide) ascii
  · have above : 'Z'.toNat < c.toNat := Nat.lt_of_lt_of_le (by decide) beyond
    have same : c.toLower = c := by
      unfold Char.toLower
      rw [dif_neg]
      rintro ⟨-, le⟩
      exact Nat.not_le_of_lt above (UInt32.le_iff_toNat_le.1 le)
    rw [same, same]

end OData.Text
