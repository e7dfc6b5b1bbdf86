import OData.Text.Percent
import OData.Proofs.Text.Utf8

/-!
# Percent coding reads back

A coded text has the bytes of the text (`bytes_encodeWith`), whatever class of characters
is kept, if only the percent sign is not. So a coded value is read back (`decode_encode`),
and it is made of unreserved characters and percent signs (`encode_alphabet`). A text of
coded and plain pieces is read back piece by piece (`StandsFor`).
-/

namespace OData.Text.Percent

/-! ## Digits -/

theorem hexValue?_hexUpper {n : Nat} (h : n < 16) : hexValue? (hexUpper n) = some n := by
  have all : ∀ d : Fin 16, hexValue? (hexUpper d) = some d.val := by decide
  exact all ⟨n, h⟩

theorem hexUpper_alphanum {n : Nat} (h : n < 16) : (hexUpper n).isAlphanum := by
  have all : ∀ d : Fin 16, (hexUpper d).isAlphanum := by decide
  exact all ⟨n, h⟩

theorem byteOf?_digits (b : UInt8) :
    byteOf? (hexUpper (b.toNat / 16)) (hexUpper (b.toNat % 16)) = some b := by
  have bound : b.toNat < 256 := b.toNat_lt
  have high := hexValue?_hexUpper (show b.toNat / 16 < 16 by omega)
  have low := hexValue?_hexUpper (show b.toNat % 16 < 16 by omega)
  have whole : UInt8.ofNat (16 * (b.toNat / 16) + b.toNat % 16) = b := by
    rw [Nat.div_add_mod, UInt8.ofNat_toNat]
  rw [byteOf?, high, low]
  exact congrArg some whole

/-! ## Bytes -/

theorem bytes_escape (b : UInt8) (rest : List Char) :
    bytes (escape b ++ rest) = b :: bytes rest := by
  unfold escape
  rw [List.cons_append, List.cons_append, List.cons_append, List.nil_append, bytes,
    byteOf?_digits]

theorem bytes_escapes (bs : List UInt8) (rest : List Char) :
    bytes (bs.flatMap escape ++ rest) = bs ++ bytes rest := by
  induction bs with
  | nil => rfl
  | cons b bs ih => rw [List.flatMap_cons, List.append_assoc, bytes_escape, ih, List.cons_append]

theorem bytes_cons {c : Char} (h : c ≠ '%') (rest : List Char) :
    bytes (c :: rest) = String.utf8EncodeChar c ++ bytes rest := by
  rw [bytes]
  intro a b r e
  exact absurd e h

theorem bytes_encodeChar {keep : Char → Bool} (h : keep '%' = false) (c : Char)
    (rest : List Char) :
    bytes (encodeChar keep c ++ rest) = String.utf8EncodeChar c ++ bytes rest := by
  unfold encodeChar
  split
  · next kept =>
    have ne : c ≠ '%' := by rintro rfl; rw [h] at kept; cases kept
    rw [List.cons_append, List.nil_append, bytes_cons ne]
  · exact bytes_escapes _ rest

theorem bytes_encodeWith {keep : Char → Bool} (h : keep '%' = false)
    (cs rest : List Char) :
    bytes (encodeWith keep cs ++ rest) = Utf8.encode cs ++ bytes rest := by
  unfold encodeWith Utf8.encode
  induction cs with
  | nil => rfl
  | cons c cs ih =>
    rw [List.flatMap_cons, List.append_assoc, bytes_encodeChar h, ih, List.flatMap_cons,
      List.append_assoc]

/-! ## Texts that stand for others -/

/-- A coded text stands for a plain one wherever it is written: what follows it is read as it
would be alone. -/
def StandsFor (coded plain : String) : Prop :=
  ∀ rest : List Char, bytes (coded.toList ++ rest) = Utf8.encode plain.toList ++ bytes rest

theorem standsFor_encode (s : String) : StandsFor (encode s) s := fun rest => by
  rw [encode, String.toList_ofList, bytes_encodeWith (by decide)]

/-- A text without percent signs stands for itself. -/
theorem standsFor_self {s : String} (h : '%' ∉ s.toList) : StandsFor s s := by
  intro rest
  generalize s.toList = cs at h
  induction cs with
  | nil => rfl
  | cons c cs ih =>
    simp only [List.mem_cons, not_or] at h
    rw [List.cons_append, bytes_cons (Ne.symm h.1), ih h.2]
    simp [Utf8.encode, List.append_assoc]

namespace StandsFor

theorem append {a b c d : String} (hab : StandsFor a b) (hcd : StandsFor c d) :
    StandsFor (a ++ c) (b ++ d) := fun rest => by
  rw [String.toList_append, List.append_assoc, hab, hcd, String.toList_append, Utf8.encode,
    Utf8.encode, Utf8.encode, List.flatMap_append, List.append_assoc]

theorem intercalate {α : Type} {sep : String} (hsep : '%' ∉ sep.toList) {f g : α → String}
    {xs : List α} (h : ∀ x ∈ xs, StandsFor (f x) (g x)) :
    StandsFor (String.intercalate sep (xs.map f)) (String.intercalate sep (xs.map g)) := by
  induction xs with
  | nil => exact standsFor_self (by simp)
  | cons x xs ih =>
    obtain ⟨first, later⟩ := List.forall_mem_cons.1 h
    cases xs with
    | nil => simpa using first
    | cons y ys =>
      simp only [List.map_cons, String.intercalate_cons_cons] at ih ⊢
      exact (first.append (standsFor_self hsep)).append (ih later)

theorem decode_eq {coded plain : String} (h : StandsFor coded plain) :
    Percent.decode coded = plain := by
  have alone := h []
  rw [List.append_nil, bytes, List.append_nil] at alone
  rw [Percent.decode, alone, Utf8.decode_encode, String.ofList_toList]

end StandsFor

theorem decode_encode (s : String) : decode (encode s) = s := (standsFor_encode s).decode_eq

/-! ## The alphabet -/

theorem escape_alphabet {b : UInt8} {c : Char} (h : c ∈ escape b) : isUnreserved c ∨ c = '%' := by
  have bound : b.toNat < 256 := b.toNat_lt
  have digit {n : Nat} (hn : n < 16) : isUnreserved (hexUpper n) := by
    rw [isUnreserved, hexUpper_alphanum hn]
    rfl
  simp only [escape, List.mem_cons, List.not_mem_nil, or_false] at h
  rcases h with rfl | rfl | rfl
  · exact .inr rfl
  · exact .inl (digit (by omega))
  · exact .inl (digit (by omega))

theorem encodeWith_alphabet {keep : Char → Bool} {cs : List Char} {c : Char}
    (h : c ∈ encodeWith keep cs) : c ∈ cs ∧ keep c ∨ isUnreserved c ∨ c = '%' := by
  obtain ⟨d, hd, h⟩ := List.mem_flatMap.1 h
  unfold encodeChar at h
  split at h
  · next kept => rw [List.mem_singleton.1 h]; exact .inl ⟨hd, kept⟩
  · obtain ⟨b, -, h⟩ := List.mem_flatMap.1 h
    exact .inr (escape_alphabet h)

theorem encode_alphabet {s : String} {c : Char} (h : c ∈ (encode s).toList) :
    isUnreserved c ∨ c = '%' := by
  rw [encode, String.toList_ofList] at h
  exact (encodeWith_alphabet h).elim (fun kept => .inl kept.2) id

end OData.Text.Percent
