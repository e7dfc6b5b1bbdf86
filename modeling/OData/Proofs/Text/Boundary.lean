import OData.Proofs.Text.Utf8

/-!
# Boundaries between characters

In the bytes of a text a character starts with the only one of its bytes that continues nothing,
so the boundaries are the offsets behind a number of whole characters (`isBoundary_iff`). The
search for a boundary ends at one and has passed none (`boundaryBefore_stops`), so in front of it
stand the most characters that fit (`boundaryBefore_encode`).
-/

namespace OData.Text.Utf8

/-! ## Bytes of characters -/

theorem encode_append (cs ds : List Char) : encode (cs ++ ds) = encode cs ++ encode ds :=
  List.flatMap_append

theorem length_encode_toList (s : String) : (encode s.toList).length = s.utf8ByteSize := by
  rw [String.utf8ByteSize, ← String.utf8Encode_toList, List.utf8Encode, List.size_toByteArray,
    encode]

theorem length_encode_cons (c : Char) (cs : List Char) :
    (encode (c :: cs)).length = c.utf8Size + (encode cs).length := by
  rw [encode, List.flatMap_cons, List.length_append, String.length_utf8EncodeChar, ← encode]

theorem isContinuation_ofNat {n : Nat} (h : n < 256) :
    isContinuation (UInt8.ofNat n) = (decide (0x80 ≤ n) && decide (n < 0xC0)) := by
  rw [isContinuation, toNat_ofNat h]

/-- A byte that starts a character. -/
theorem starts_ofNat {n : Nat} (small : n < 256) (outside : n < 0x80 ∨ 0xC0 ≤ n) :
    isContinuation (UInt8.ofNat n) = false := by
  rw [isContinuation_ofNat small, Bool.and_eq_false_iff, decide_eq_false_iff_not,
    decide_eq_false_iff_not]
  omega

/-- A byte that holds six more bits of a character. -/
theorem continues_ofNat (n : Nat) : isContinuation (UInt8.ofNat (n % 64 + 0x80)) = true := by
  rw [isContinuation_ofNat (by omega), Bool.and_eq_true, decide_eq_true_eq, decide_eq_true_eq]
  omega

/-- The first byte of a character continues nothing, and the others do. -/
theorem exists_bytes (c : Char) : ∃ b bs, String.utf8EncodeChar c = b :: bs ∧
    isContinuation b = false ∧ ∀ b ∈ bs, isContinuation b = true := by
  have none : ∀ b ∈ ([] : List UInt8), isContinuation b = true := nofun
  have more (n : Nat) {bs : List UInt8} (rest : ∀ b ∈ bs, isContinuation b = true) :
      ∀ b ∈ UInt8.ofNat (n % 64 + 0x80) :: bs, isContinuation b = true :=
    List.forall_mem_cons.2 ⟨continues_ofNat n, rest⟩
  rcases utf8EncodeChar_cases c with ⟨small, bytes⟩ | ⟨-, bytes⟩ | ⟨-, bytes⟩ | ⟨-, bytes⟩
  · exact ⟨_, _, bytes, starts_ofNat (by omega) (.inl small), none⟩
  · exact ⟨_, _, bytes, starts_ofNat (by omega) (.inr (by omega)), more _ none⟩
  · exact ⟨_, _, bytes, starts_ofNat (by omega) (.inr (by omega)), more _ (more _ none)⟩
  · exact ⟨_, _, bytes, starts_ofNat (by omega) (.inr (by omega)), more _ (more _ (more _ none))⟩

/-! ## Boundaries -/

/-- Behind a character, the boundaries are those of what follows it. -/
theorem isBoundary_append (c : Char) (cs : List Char) (i : Nat) :
    isBoundary (String.utf8EncodeChar c ++ encode cs) ((String.utf8EncodeChar c).length + i) =
      isBoundary (encode cs) i := by
  have some : 0 < (String.utf8EncodeChar c).length := by
    rw [String.length_utf8EncodeChar]
    exact c.utf8Size_pos
  unfold isBoundary
  rw [List.getElem?_append_right (by omega), Nat.add_sub_cancel_left, List.length_append]
  cases i with
  | succ i =>
    have later : ((String.utf8EncodeChar c).length + (i + 1) == 0) = false := by simp
    rw [later]
    cases (encode cs)[i + 1]? with
    | none => rw [Bool.eq_iff_iff]; simp
    | some b => rfl
  | zero =>
    cases cs with
    | nil => simp [encode]
    | cons d ds =>
      obtain ⟨b, bs, bytes, starts, -⟩ := exists_bytes d
      have head : (encode (d :: ds))[0]? = .some b := by
        rw [encode, List.flatMap_cons, bytes]
        rfl
      rw [head]
      simp [starts]

/-- Within a character there is none. -/
theorem isBoundary_within (c : Char) (cs : List Char) {i : Nat} (start : 0 < i)
    (inside : i < (String.utf8EncodeChar c).length) :
    isBoundary (String.utf8EncodeChar c ++ encode cs) i = false := by
  obtain ⟨b, bs, bytes, -, continued⟩ := exists_bytes c
  rw [bytes] at inside ⊢
  obtain ⟨i, rfl⟩ := Nat.exists_eq_add_of_lt start
  have here : i < bs.length := by simpa using inside
  have byte : (b :: bs ++ encode cs)[0 + i + 1]? = some bs[i] := by
    rw [List.getElem?_append_left inside]
    simp [here]
  unfold isBoundary
  rw [byte]
  simp [continued _ (List.getElem_mem here)]

/-- The boundaries are the offsets behind whole characters. -/
theorem isBoundary_iff (cs : List Char) (i : Nat) :
    isBoundary (encode cs) i ↔ ∃ p, p <+: cs ∧ (encode p).length = i := by
  induction cs generalizing i with
  | nil =>
    have ends : isBoundary (encode []) i = (i == 0) := by cases i <;> rfl
    rw [ends, beq_iff_eq]
    constructor
    · rintro rfl
      exact ⟨[], List.nil_prefix, rfl⟩
    · rintro ⟨p, leads, rfl⟩
      rw [List.prefix_nil.1 leads]
      rfl
  | cons c cs ih =>
    have bytes : encode (c :: cs) = String.utf8EncodeChar c ++ encode cs := List.flatMap_cons
    rw [bytes]
    constructor
    · intro boundary
      rcases Nat.eq_zero_or_pos i with rfl | start
      · exact ⟨[], List.nil_prefix, rfl⟩
      by_cases inside : i < (String.utf8EncodeChar c).length
      · rw [isBoundary_within c cs start inside] at boundary
        cases boundary
      · obtain ⟨j, rfl⟩ := Nat.exists_eq_add_of_le (Nat.le_of_not_lt inside)
        rw [isBoundary_append] at boundary
        obtain ⟨p, leads, rfl⟩ := (ih j).1 boundary
        refine ⟨c :: p, List.cons_prefix_cons.2 ⟨rfl, leads⟩, ?_⟩
        rw [length_encode_cons, String.length_utf8EncodeChar]
    · rintro ⟨p, leads, rfl⟩
      cases p with
      | nil => rfl
      | cons d p =>
        obtain ⟨rfl, later⟩ := List.cons_prefix_cons.1 leads
        rw [length_encode_cons, ← String.length_utf8EncodeChar, isBoundary_append]
        exact (ih _).2 ⟨p, later, rfl⟩

/-! ## The search -/

/-- The search ends at a boundary, the last one up to where it starts. -/
theorem boundaryBefore_stops (bs : List UInt8) (limit : Nat) :
    isBoundary bs (boundaryBefore bs limit) = true ∧ boundaryBefore bs limit ≤ limit ∧
      ∀ i ≤ limit, isBoundary bs i = true → i ≤ boundaryBefore bs limit := by
  induction limit with
  | zero => exact ⟨rfl, Nat.le_refl 0, fun i h _ => h⟩
  | succ n ih =>
    rw [boundaryBefore]
    split
    · next here => exact ⟨here, Nat.le_refl _, fun i h _ => h⟩
    · next passed =>
      obtain ⟨stops, within, last⟩ := ih
      refine ⟨stops, Nat.le_succ_of_le within, fun i h boundary => ?_⟩
      rcases Nat.lt_or_eq_of_le h with lower | rfl
      · exact last i (Nat.le_of_lt_succ lower) boundary
      · exact absurd boundary passed

/-- In front of the boundary stands the longest prefix of whole characters that fits. -/
theorem boundaryBefore_encode (cs : List Char) (limit : Nat) :
    ∃ p, p <+: cs ∧ (encode p).length = boundaryBefore (encode cs) limit ∧
      ∀ q, q <+: cs → (encode q).length ≤ limit → q <+: p := by
  obtain ⟨stops, -, last⟩ := boundaryBefore_stops (encode cs) limit
  obtain ⟨p, leads, length⟩ := (isBoundary_iff cs _).1 stops
  refine ⟨p, leads, length, fun q leads' fits => ?_⟩
  have before : (encode q).length ≤ (encode p).length := by
    rw [length]
    exact last _ fits ((isBoundary_iff cs _).2 ⟨q, leads', rfl⟩)
  rcases List.prefix_or_prefix_of_prefix leads leads' with ⟨more, rfl⟩ | shorter
  · cases more with
    | nil => simp
    | cons c more =>
      have size := c.utf8Size_pos
      rw [encode_append, List.length_append, length_encode_cons] at before
      omega
  · exact shorter

/-- Less room than for a character is left. -/
theorem limit_lt_of_longest {cs p : List Char} {limit : Nat} (leads : p <+: cs)
    (long : limit < (encode cs).length)
    (longest : ∀ q, q <+: cs → (encode q).length ≤ limit → q <+: p) :
    limit < (encode p).length + 4 := by
  obtain ⟨rest, rfl⟩ := leads
  cases rest with
  | nil =>
    rw [List.append_nil] at long
    omega
  | cons c rest =>
    have next : p ++ [c] <+: p ++ c :: rest := ⟨rest, by simp⟩
    have size : (encode (p ++ [c])).length = (encode p).length + c.utf8Size := by
      rw [encode_append, List.length_append, length_encode_cons]
      rfl
    have short : limit < (encode (p ++ [c])).length := by
      refine Nat.lt_of_not_le fun fits => ?_
      have longer := (longest _ next fits).length_le
      rw [List.length_append] at longer
      exact Nat.not_succ_le_self _ longer
    have most := c.utf8Size_le_four
    omega

end OData.Text.Utf8
