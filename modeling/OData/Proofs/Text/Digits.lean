import Mathlib.Data.Nat.Digits.Defs
import OData.Number.Word
import OData.Text.Ascii

/-!
# Digits as numbers

A run of decimal digits writes the sum of its digits, each times its power of ten
(`readDigits_eq_ofDigits`), and the decimal form of a number reads back, with any zeros in front.
A word of 64 bits that takes in digit after digit, and gives up where it would overflow, ends as
that number or has given up because the number does not fit (`foldlM_push?`).
-/

namespace OData

namespace Text

theorem readDigits_eq_ofDigits (cs : List Char) :
    readDigits cs = Nat.ofDigits 10 (cs.map digitValue).reverse := by
  rw [Nat.ofDigits_eq_foldr, List.foldr_reverse, List.foldl_map, readDigits]
  congr 1
  funext n c
  exact Nat.add_comm _ _

theorem readDigits_toDigits (n : Nat) : readDigits (Nat.toDigits 10 n) = n :=
  Nat.ofDigitChars_ten_toDigits

theorem readDigits_zeros (k : Nat) (cs : List Char) :
    readDigits (List.replicate k '0' ++ cs) = readDigits cs := by
  have zeros : readDigits (List.replicate k '0') = 0 :=
    Nat.ofDigitChars_replicate_zero.trans (Nat.mul_zero _)
  rw [readDigits, List.foldl_append, ← readDigits, zeros, ← readDigits]

theorem digitValue_lt {c : Char} (h : c.isDigit) : digitValue c < 10 := by
  have high : c.toNat ≤ 57 := of_decide_eq_true (Bool.and_eq_true_iff.1 h).2
  rw [digitValue, show '0'.toNat = 48 from rfl]
  omega

end Text

/-! ## Words -/

namespace Number

open Text

def word? (n : Nat) : Option UInt64 := if n < wordLimit then some (UInt64.ofNat n) else none

def checkedMul (a b : UInt64) : Option UInt64 := word? (a.toNat * b.toNat)

def checkedAdd (a b : UInt64) : Option UInt64 := word? (a.toNat + b.toNat)

/-- A word with one more digit behind it. -/
def push? (w : UInt64) (c : Char) : Option UInt64 := do
  checkedAdd (← checkedMul w 10) (UInt64.ofNat (digitValue c))

theorem word?_toNat (w : UInt64) : word? w.toNat = some w := by
  have fits : w.toNat < wordLimit := w.toNat_lt
  rw [word?, if_pos fits, UInt64.ofNat_toNat]

theorem toNat_ofNat_word {n : Nat} (h : n < wordLimit) : (UInt64.ofNat n).toNat = n :=
  UInt64.toNat_ofNat_of_lt' h

/-- If one of the two steps overflows, the number is too large as a whole. -/
theorem push?_eq (w : UInt64) {c : Char} (h : c.isDigit) :
    push? w c = word? (10 * w.toNat + digitValue c) := by
  have small := digitValue_lt h
  have digit : (UInt64.ofNat (digitValue c)).toNat = digitValue c :=
    toNat_ofNat_word (by unfold wordLimit; omega)
  have ten : (10 : UInt64).toNat = 10 := rfl
  unfold push? checkedMul
  rw [ten, Nat.mul_comm]
  by_cases fits : 10 * w.toNat < wordLimit
  · rw [word?, if_pos fits]
    dsimp only [bind, Option.bind]
    rw [checkedAdd, toNat_ofNat_word fits, digit]
  · rw [word?, if_neg fits, word?, if_neg (by omega)]
    rfl

theorem le_foldl_digits (cs : List Char) (n : Nat) :
    n ≤ cs.foldl (fun n c => 10 * n + digitValue c) n := by
  induction cs generalizing n with
  | nil => exact Nat.le_refl n
  | cons c cs ih =>
    calc n ≤ 10 * n + digitValue c := by omega
      _ ≤ _ := ih _

/-- The number only grows with its digits, so a word that has overflowed would not have come back
within its range. -/
theorem foldlM_push? {cs : List Char} (h : ∀ c ∈ cs, c.isDigit) (w : UInt64) :
    cs.foldlM push? w = word? (cs.foldl (fun n c => 10 * n + digitValue c) w.toNat) := by
  induction cs generalizing w with
  | nil => exact (word?_toNat w).symm
  | cons c cs ih =>
    obtain ⟨digit, digits⟩ := List.forall_mem_cons.1 h
    rw [List.foldlM_cons, push?_eq w digit, List.foldl_cons]
    generalize 10 * w.toNat + digitValue c = n
    by_cases fits : n < wordLimit
    · rw [word?, if_pos fits]
      dsimp only [bind, Option.bind]
      rw [ih digits, toNat_ofNat_word fits]
    · have more := le_foldl_digits cs n
      rw [word?, if_neg fits, word?, if_neg (by omega)]
      rfl

end Number

end OData
