import OData.Proofs.Text.Utf8

/-!
# Texts by their bytes

UTF-8 keeps the order of the characters: the first byte tells how long a character is, and the
longer ones have the larger codes. So texts stand in one and the same order whether they are
compared by their bytes or by their characters (`byteLt_iff`).
-/

namespace OData.Text

def ByteLt (s t : String) : Prop := Utf8.encode s.toList < Utf8.encode t.toList

namespace Utf8

theorem ofNat_cons_lt_iff {m n : Nat} (hm : m < 256) (hn : n < 256) (xs ys : List UInt8) :
    UInt8.ofNat m :: xs < UInt8.ofNat n :: ys ↔ m < n ∨ m = n ∧ xs < ys := by
  rw [List.cons_lt_cons_iff, UInt8.lt_iff_toNat_lt, ← UInt8.toNat_inj, toNat_ofNat hm,
    toNat_ofNat hn]

/-- The bytes of two characters differ at some place, whatever follows them. -/
theorem utf8EncodeChar_lt {c d : Char} (h : c < d) (xs ys : List UInt8) :
    String.utf8EncodeChar c ++ xs < String.utf8EncodeChar d ++ ys := by
  have order : c.toNat < d.toNat := h
  -- Numbers compare as their parts do, and every byte but the first has six bits.
  have parts (v w : Nat) : v < w ↔ v / 64 < w / 64 ∨ v / 64 = w / 64 ∧ v % 64 < w % 64 := by omega
  have sixes (c : Char) : c.toNat / 4096 = c.toNat / 64 / 64 ∧
      c.toNat / 262144 % 8 = c.toNat / 64 / 64 / 64 := by
    have valid := toNat_valid c
    omega
  rw [parts, parts (c.toNat / 64), parts (c.toNat / 64 / 64)] at order
  rcases utf8EncodeChar_cases c with ⟨sc, bc⟩ | ⟨sc, bc⟩ | ⟨sc, bc⟩ | ⟨sc, bc⟩ <;>
    rcases utf8EncodeChar_cases d with ⟨sd, bd⟩ | ⟨sd, bd⟩ | ⟨sd, bd⟩ | ⟨sd, bd⟩ <;>
    rw [bc, bd]
  all_goals
    simp (disch := omega) only [List.cons_append, List.nil_append, ofNat_cons_lt_iff, sixes]
    omega

theorem encode_lt {cs ds : List Char} (h : cs < ds) : encode cs < encode ds := by
  induction ds generalizing cs with
  | nil => exact absurd h (List.not_lt_nil cs)
  | cons d ds ih =>
    cases cs with
    | nil =>
      obtain ⟨b, bs, bytes⟩ := List.exists_cons_of_ne_nil (String.utf8EncodeChar_ne_nil (c := d))
      rw [encode, encode, List.flatMap_cons, bytes]
      exact List.nil_lt_cons _ _
    | cons c cs =>
      rw [encode, encode, List.flatMap_cons, List.flatMap_cons]
      rcases List.cons_lt_cons_iff.1 h with differ | ⟨rfl, later⟩
      · exact utf8EncodeChar_lt differ _ _
      · exact List.append_left_lt (ih later)

end Utf8

theorem byteLt_iff (s t : String) : ByteLt s t ↔ s < t := by
  constructor
  · intro before
    rcases Std.lt_trichotomy s t with order | rfl | order
    · exact order
    · exact absurd before (List.lt_irrefl _)
    · exact absurd before (List.lt_asymm (Utf8.encode_lt (String.lt_iff.1 order)))
  · exact fun order => Utf8.encode_lt (String.lt_iff.1 order)

end OData.Text
