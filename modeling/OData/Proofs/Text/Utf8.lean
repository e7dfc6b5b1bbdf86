import OData.Text.Utf8

/-!
# UTF-8 reads back

The bytes of a character take the reader from its ground state back to it and emit
that character (`finish_char`), so a text is read back from its bytes.
-/

namespace OData.Text.Utf8

theorem finish_step (s : State) (b : UInt8) (bs : List UInt8) :
    finish s (b :: bs) = (step s b).2 ++ finish (step s b).1 bs := by
  cases s <;> rfl

/-! ## Continuation bytes -/

section Bytes

variable {b : UInt8} {n : Nat} (bs : List UInt8)

/-- The last byte of a character. -/
theorem finish_last {value lo hi : Nat} (hb : b.toNat = n + 0x80) (hlo : lo ≤ b.toNat)
    (hhi : b.toNat ≤ hi) :
    finish (.inside value 0 lo hi) (b :: bs) =
      Char.ofNat (64 * value + n) :: finish .ground bs := by
  have state : step (.inside value 0 lo hi) b = (.ground, [Char.ofNat (64 * value + n)]) := by
    rw [step, if_pos ⟨hlo, hhi⟩, hb, Nat.add_sub_cancel]
  rw [finish_step, state]
  rfl

/-- A byte with others to follow. -/
theorem finish_more {value k lo hi : Nat} (hb : b.toNat = n + 0x80) (hlo : lo ≤ b.toNat)
    (hhi : b.toNat ≤ hi) :
    finish (.inside value (k + 1) lo hi) (b :: bs) =
      finish (.inside (64 * value + n) k 0x80 0xBF) bs := by
  have state : step (.inside value (k + 1) lo hi) b =
      (.inside (64 * value + n) k 0x80 0xBF, []) := by
    rw [step, if_pos ⟨hlo, hhi⟩, hb, Nat.add_sub_cancel]
  rw [finish_step, state]
  rfl

/-! ## First bytes -/

theorem finish_one (h : b.toNat ≤ 0x7F) :
    finish .ground (b :: bs) = Char.ofNat b.toNat :: finish .ground bs := by
  have state : start b = (.ground, [Char.ofNat b.toNat]) := by
    simp only [start]
    rw [if_pos (by omega)]
  rw [finish_step, step, state]
  rfl

theorem finish_two (hb : b.toNat = n + 0xC0) (hlo : 2 ≤ n) (hhi : n < 0x20) :
    finish .ground (b :: bs) = finish (.inside n 0 0x80 0xBF) bs := by
  have state : start b = (.inside n 0 0x80 0xBF, []) := by
    simp only [start, hb]
    rw [if_neg (by omega), if_pos (by omega), Nat.add_sub_cancel]
  rw [finish_step, step, state]
  rfl

/-- The first byte of three bounds the second one: no longer spelling, no surrogate. -/
theorem finish_three (hb : b.toNat = n + 0xE0) (hn : n < 0x10) :
    finish .ground (b :: bs) =
      finish (.inside n 1 (if n = 0 then 0xA0 else 0x80) (if n = 0xD then 0x9F else 0xBF)) bs := by
  have state : start b =
      (.inside n 1 (if n = 0 then 0xA0 else 0x80) (if n = 0xD then 0x9F else 0xBF), []) := by
    simp only [start, hb]
    rw [if_neg (by omega), if_neg (by omega)]
    by_cases zero : n = 0
    · subst zero; rfl
    by_cases surrogate : n = 0xD
    · subst surrogate; rfl
    rw [if_neg (by omega), if_neg (by omega), if_pos (by omega), if_neg zero, if_neg surrogate,
      Nat.add_sub_cancel]
  rw [finish_step, step, state]
  rfl

/-- The first byte of four bounds the second one: no longer spelling, nothing past U+10FFFF. -/
theorem finish_four (hb : b.toNat = n + 0xF0) (hn : n ≤ 4) :
    finish .ground (b :: bs) =
      finish (.inside n 2 (if n = 0 then 0x90 else 0x80) (if n = 4 then 0x8F else 0xBF)) bs := by
  have state : start b =
      (.inside n 2 (if n = 0 then 0x90 else 0x80) (if n = 4 then 0x8F else 0xBF), []) := by
    simp only [start, hb]
    rw [if_neg (by omega), if_neg (by omega), if_neg (by omega), if_neg (by omega),
      if_neg (by omega)]
    by_cases zero : n = 0
    · subst zero; rfl
    by_cases last : n = 4
    · subst last; rfl
    rw [if_neg (by omega), if_neg (by omega), if_pos (by omega), if_neg zero, if_neg last,
      Nat.add_sub_cancel]
  rw [finish_step, step, state]
  rfl

end Bytes

/-! ## Characters -/

theorem toNat_ofNat {n : Nat} (h : n < 256) : (UInt8.ofNat n).toNat = n := by
  rw [UInt8.toNat_ofNat']
  omega

theorem toNat_valid (c : Char) : c.toNat < 0xD800 ∨ 0xDFFF < c.toNat ∧ c.toNat < 0x110000 :=
  c.valid

/-- The bytes of a character, one to four as its code needs. -/
theorem utf8EncodeChar_cases (c : Char) :
    c.toNat < 0x80 ∧ String.utf8EncodeChar c = [UInt8.ofNat c.toNat] ∨
    (0x80 ≤ c.toNat ∧ c.toNat < 0x800) ∧ String.utf8EncodeChar c =
      [UInt8.ofNat (c.toNat / 64 % 32 + 0xC0), UInt8.ofNat (c.toNat % 64 + 0x80)] ∨
    (0x800 ≤ c.toNat ∧ c.toNat < 0x10000) ∧ String.utf8EncodeChar c =
      [UInt8.ofNat (c.toNat / 4096 % 16 + 0xE0), UInt8.ofNat (c.toNat / 64 % 64 + 0x80),
        UInt8.ofNat (c.toNat % 64 + 0x80)] ∨
    (0x10000 ≤ c.toNat ∧ c.toNat < 0x110000) ∧ String.utf8EncodeChar c =
      [UInt8.ofNat (c.toNat / 262144 % 8 + 0xF0), UInt8.ofNat (c.toNat / 4096 % 64 + 0x80),
        UInt8.ofNat (c.toNat / 64 % 64 + 0x80), UInt8.ofNat (c.toNat % 64 + 0x80)] := by
  have valid := toNat_valid c
  unfold String.utf8EncodeChar
  simp only [show c.val.toNat = c.toNat from rfl]
  split
  · exact .inl ⟨by omega, rfl⟩
  split
  · exact .inr (.inl ⟨by omega, rfl⟩)
  split
  · exact .inr (.inr (.inl ⟨by omega, rfl⟩))
  · exact .inr (.inr (.inr ⟨by omega, rfl⟩))

theorem finish_char (c : Char) (bs : List UInt8) :
    finish .ground (String.utf8EncodeChar c ++ bs) = c :: finish .ground bs := by
  have valid := toNat_valid c
  have same := Char.ofNat_toNat c
  unfold String.utf8EncodeChar
  simp only [show c.val.toNat = c.toNat from rfl]
  generalize c.toNat = v at valid same
  have lead {n : Nat} (h : n < 256) := toNat_ofNat h
  have tail (n : Nat) : (UInt8.ofNat (n % 64 + 0x80)).toNat = n % 64 + 0x80 :=
    toNat_ofNat (by omega)
  split
  · next h =>
    rw [List.cons_append, List.nil_append, finish_one _ (by rw [lead] <;> omega),
      lead (by omega), same]
  split
  · next h =>
    simp only [List.cons_append, List.nil_append]
    rw [finish_two _ (lead (by omega)) (by omega) (by omega),
      finish_last _ (tail v) (by rw [tail]; omega) (by rw [tail]; omega),
      show 64 * (v / 64 % 32) + v % 64 = v by omega, same]
  split
  · next h =>
    simp only [List.cons_append, List.nil_append]
    rw [finish_three _ (lead (by omega)) (by omega),
      finish_more _ (tail (v / 64)) (by rw [tail]; split <;> omega) (by rw [tail]; split <;> omega),
      finish_last _ (tail v) (by rw [tail]; omega) (by rw [tail]; omega),
      show 64 * (64 * (v / 4096 % 16) + v / 64 % 64) + v % 64 = v by omega, same]
  · next h =>
    simp only [List.cons_append, List.nil_append]
    rw [finish_four _ (lead (by omega)) (by omega),
      finish_more _ (tail (v / 4096)) (by rw [tail]; split <;> omega)
        (by rw [tail]; split <;> omega),
      finish_more _ (tail (v / 64)) (by rw [tail]; omega) (by rw [tail]; omega),
      finish_last _ (tail v) (by rw [tail]; omega) (by rw [tail]; omega),
      show 64 * (64 * (64 * (v / 262144 % 8) + v / 4096 % 64) + v / 64 % 64) + v % 64 = v by omega,
      same]

theorem decode_encode (cs : List Char) : decode (encode cs) = cs := by
  unfold decode encode
  induction cs with
  | nil => rfl
  | cons c cs ih => rw [List.flatMap_cons, finish_char, ih]

end OData.Text.Utf8
