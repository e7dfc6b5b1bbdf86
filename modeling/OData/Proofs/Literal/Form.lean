import OData.Literal
import OData.Proofs.Calendar.TimestampText
import OData.Proofs.Value.NaturalText

/-!
# The forms of a literal

A value in a filter is a quoted text, perhaps behind a word, or one of six fixed words,
or a text over an alphabet without quotes, parentheses and commas (`ofValue_form`). The
first form takes in the enumeration members and the primitives with a type word: what
they quote holds no quote, so it is its own doubling.
-/

namespace OData.Literal

open Text

/-- The characters of the word before a quoted text. -/
def isStemChar (c : Char) : Bool := isWordChar c || c == '.' || c == '\u017f'

/-- The characters of a text that stands bare. -/
def isBareChar (c : Char) : Bool := isNumeral c || Timestamp.isStampChar c

theorem double_of_not_mem {cs : List Char} (h : '\'' ∉ cs) : Quoted.double cs = cs := by
  induction cs with
  | nil => rfl
  | cons c cs ih =>
    simp only [List.mem_cons, not_or] at h
    rw [Quoted.double, if_neg (Ne.symm h.1), ih h.2]

theorem wordBeforeQuoted?_form {cs word : List Char} (h : wordBeforeQuoted? cs = some word) :
    ∃ s, cs = word ++ '\'' :: Quoted.double s ++ ['\''] := by
  unfold wordBeforeQuoted? at h
  split at h
  · cases h
  · next x rest hd =>
    simp only [Option.ite_none_right_eq_some, Bool.and_eq_true, beq_iff_eq, Bool.not_eq_true',
      Option.some.injEq] at h
    obtain ⟨⟨hlast, hclean⟩, rfl⟩ := h
    obtain ⟨s, rfl⟩ := List.getLast?_eq_some_iff.1 hlast
    have hx := List.head?_dropWhile_not (fun c : Char => c != '\'') cs
    obtain rfl : x = '\'' := by simpa [hd] using hx
    refine ⟨s, ?_⟩
    rw [double_of_not_mem (by simpa using hclean), List.append_assoc, List.cons_append, ← hd,
      List.takeWhile_append_dropWhile]

/-! ## Words -/

theorem stem_of_isIdentifier {cs : List Char} (h : isIdentifier cs) : ∀ c ∈ cs, isStemChar c := by
  cases cs with
  | nil => simp
  | cons c cs =>
    simp only [isIdentifier, Bool.and_eq_true, Bool.or_eq_true, beq_iff_eq, List.all_eq_true] at h
    refine List.forall_mem_cons.2 ⟨?_, fun d hd => by simp [isStemChar, h.2 d hd]⟩
    rcases h.1 with h | rfl
    · simp [isStemChar, isWordChar, Char.isAlphanum, h]
    · decide

theorem mem_intercalate {c x : Char} {parts : List (List Char)}
    (h : c ∈ [x].intercalate parts) : c = x ∨ ∃ p ∈ parts, c ∈ p := by
  induction parts with
  | nil => simp at h
  | cons p ps ih =>
    cases ps with
    | nil => exact .inr ⟨p, by simp, by simpa using h⟩
    | cons p' ps =>
      rw [List.intercalate_cons_cons, List.mem_append, List.mem_append, List.mem_singleton] at h
      rcases h with (h | h) | h
      · exact .inr ⟨p, by simp, h⟩
      · exact .inl h
      · rcases ih h with h | ⟨p'', hp, h⟩
        · exact .inl h
        · exact .inr ⟨p'', List.mem_cons_of_mem _ hp, h⟩

theorem stem_of_dotted {word : List Char} (h : (word.splitOn '.').all isIdentifier) :
    ∀ c ∈ word, isStemChar c := by
  intro c hc
  have parts : ['.'].intercalate (word.splitOn '.') = word := List.intercalate_splitOn '.'
  rw [← parts] at hc
  rcases mem_intercalate hc with rfl | ⟨p, hp, hc⟩
  · decide
  · exact stem_of_isIdentifier (List.all_eq_true.1 h p hp) c hc

theorem isAlpha_of_isLower_toLower {c : Char} (h : c.toLower.isLower) : c.isAlpha := by
  unfold Char.toLower at h
  split at h
  · next upper => exact Bool.or_eq_true_iff.2 (.inl (decide_eq_true upper))
  · exact Bool.or_eq_true_iff.2 (.inr h)

theorem stem_of_foldLetter {c : Char} (h : (foldLetter c).isLower) : isStemChar c := by
  unfold foldLetter at h
  split at h
  · next e => rw [e]; decide
  · simp [isStemChar, isWordChar, Char.isAlphanum, isAlpha_of_isLower_toLower h]

theorem stem_of_typeWord {word : List Char}
    (h : typeWords.any (·.toList == word.map foldLetter)) : ∀ c ∈ word, isStemChar c := by
  obtain ⟨t, ht, e⟩ := List.any_eq_true.1 h
  have lower : ∀ t ∈ typeWords, t.toList.all Char.isLower := by decide
  intro c hc
  refine stem_of_foldLetter (List.all_eq_true.1 (lower t ht) _ ?_)
  rw [eq_of_beq e]
  exact List.mem_map_of_mem hc

/-! ## Values -/

/-- An enumeration member and a primitive with a type word quote a text behind a word. -/
theorem worded_form {cs : List Char} (h : isEnumMember cs || isTypedPrimitive cs) :
    ∃ w s, cs = w ++ '\'' :: Quoted.double s ++ ['\''] ∧ ∀ c ∈ w, isStemChar c := by
  rcases Bool.or_eq_true_iff.1 h with h | h
  · unfold isEnumMember at h
    split at h
    · next word e =>
      obtain ⟨s, hs⟩ := wordBeforeQuoted?_form e
      exact ⟨word, s, hs, stem_of_dotted (Bool.and_eq_true_iff.1 h).2⟩
    · cases h
  · unfold isTypedPrimitive at h
    split at h
    · next word e =>
      obtain ⟨s, hs⟩ := wordBeforeQuoted?_form e
      exact ⟨word, s, hs, stem_of_typeWord h⟩
    · cases h

theorem bare_or_quoted {cs : List Char} (h : isBare cs) :
    (∃ w s, cs = w ++ '\'' :: Quoted.double s ++ ['\''] ∧ ∀ c ∈ w, isStemChar c) ∨
      ∀ c ∈ cs, isBareChar c := by
  rcases Bool.or_eq_true_iff.1 h with h | h
  · exact .inl (worded_form h)
  · exact .inr fun c hc => by simp [isBareChar, Timestamp.stamp_of_recognises h c hc]

theorem ofValue_text (s : String) :
    ofValue (.text s) = if isBare s.toList then s else Quoted.quote s := rfl

theorem ofValue_eq_toText {v : Value} (h : ∀ s, v ≠ .text s) : ofValue v = v.toText := by
  cases v with
  | text s => exact absurd rfl (h s)
  | _ => rfl

theorem ofValue_form (v : Value) :
    (∃ w s, (ofValue v).toList = w ++ '\'' :: Quoted.double s ++ ['\''] ∧ ∀ c ∈ w, isStemChar c) ∨
      ofValue v ∈ namedTexts ∨ ∀ c ∈ (ofValue v).toList, isBareChar c := by
  by_cases text : ∃ s, v = .text s
  · obtain ⟨s, rfl⟩ := text
    rw [ofValue_text]
    split
    · next bare => exact (bare_or_quoted bare).imp_right .inr
    · exact .inl ⟨[], s.toList, by simp [Quoted.quote], by simp⟩
  · rw [ofValue_eq_toText fun s e => text ⟨s, e⟩]
    exact .inr (((toText_form v).resolve_left text).imp_right fun h c hc => by
      simp [isBareChar, h c hc])

end OData.Literal
