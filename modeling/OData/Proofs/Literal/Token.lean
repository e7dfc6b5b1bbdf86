import OData.Proofs.Filter.Tokens

/-!
# Strings as single tokens

A reader that enters and leaves a literal at every quote finds no comma and no parenthesis
of a value outside the literals (`Operand.outside`). Blanks it finds in one kind of string
alone: a string that reads as a timestamp stands as it is, and the readers of timestamps let
blanks precede a number, or a date and a time stand apart (`isToken_text_iff`).
-/

namespace OData.Filter

open Text

/-- The characters outside the stretches between quotes. -/
def outside : Bool → List Char → List Char
  | _, [] => []
  | inLiteral, c :: cs =>
    if c = '\'' then outside (!inLiteral) cs
    else if inLiteral then outside true cs
    else c :: outside false cs

/-- Quotes pair up, and nothing outside of them separates or groups. -/
structure IsToken (cs : List Char) : Prop where
  quotes : cs.count '\'' % 2 = 0
  whole : ∀ c ∈ outside false cs, isBlank c = false
  ungrouped : ∀ c ∈ outside false cs, c ≠ ',' ∧ c ≠ '(' ∧ c ≠ ')'

/-! ## Quotes -/

theorem outside_plain {w : List Char} (hw : '\'' ∉ w) (t : List Char) :
    outside false (w ++ t) = w ++ outside false t := by
  induction w with
  | nil => rfl
  | cons c w ih =>
    simp only [List.mem_cons, not_or] at hw
    rw [List.cons_append, outside, if_neg (Ne.symm hw.1), ih hw.2]
    rfl

/-- A doubled quote leaves the literal and enters it again at once. -/
theorem outside_literal (s t : List Char) :
    outside false ('\'' :: (Quoted.double s ++ '\'' :: t)) = outside false t := by
  have inside : ∀ s : List Char, outside true (Quoted.double s ++ '\'' :: t) = outside false t := by
    intro s
    induction s with
    | nil => rfl
    | cons c s ih =>
      rw [Quoted.double]
      split
      · next quote => subst quote; exact ih
      · next other =>
        rw [List.cons_append, outside, if_neg other]
        exact ih
  exact inside s

theorem count_double (s : List Char) : (Quoted.double s).count '\'' = 2 * s.count '\'' := by
  induction s with
  | nil => rfl
  | cons c s ih =>
    rw [Quoted.double]
    split
    · next quote => subst quote; simp only [List.count_cons_self, ih]; omega
    · next other => simp only [List.count_cons_of_ne other, ih]

theorem Operand.quotes {t : List Char} (h : Operand t) : t.count '\'' % 2 = 0 := by
  induction h with
  | nil => rfl
  | plain hc _ _ ih =>
    simp only [isPlain, Bool.and_eq_true, bne_iff_ne] at hc
    rwa [List.count_cons_of_ne hc.1.1]
  | literal s _ ih =>
    rw [List.count_cons_self, List.count_append, List.count_cons_self, count_double]
    omega

theorem Operand.outside {t : List Char} (h : Operand t) :
    ∀ c ∈ outside false t, c ≠ ',' ∧ c ≠ '(' ∧ c ≠ ')' := by
  induction h with
  | nil => simp [Filter.outside]
  | @plain c t hc comma _ ih =>
    simp only [isPlain, Bool.and_eq_true, bne_iff_ne] at hc
    have shape : Filter.outside false (c :: t) = c :: Filter.outside false t :=
      outside_plain (w := [c]) (by simpa using Ne.symm hc.1.1) t
    rw [shape]
    exact List.forall_mem_cons.2 ⟨⟨comma, hc.1.2, hc.2⟩, ih⟩
  | literal s _ ih => rwa [outside_literal]

/-! ## Blanks -/

theorem stem_visible {c : Char} (h : Literal.isStemChar c) : isBlank c = false := by
  have ascii : ∀ n : Fin 128,
      Literal.isStemChar (Char.ofNat n) → isBlank (Char.ofNat n) = false := by
    decide
  by_cases long : c = '\u017f'
  · subst long; decide
  · refine of_ascii (P := fun c => Literal.isStemChar c → isBlank c = false) ascii ?_ h
    simp only [Literal.isStemChar, isWordChar, Bool.or_eq_true, beq_iff_eq] at h
    rcases h with ((alphanum | rfl) | rfl) | rfl
    · exact ascii_of_isAlphanum alphanum
    · decide
    · decide
    · exact absurd rfl long

/-- A quoted text behind a word has nothing but the word outside. -/
theorem outside_worded {w : List Char} (hw : ∀ c ∈ w, Literal.isStemChar c) (s : List Char) :
    outside false (w ++ '\'' :: Quoted.double s ++ ['\'']) = w := by
  have quoteless : '\'' ∉ w := fun h => ne_of_class (hw _ h) (by decide) rfl
  rw [List.append_assoc, List.cons_append, outside_plain quoteless, outside_literal]
  exact List.append_nil w

theorem outside_stamp {cs : List Char} (h : Timestamp.recognises cs) : outside false cs = cs := by
  have quoteless : '\'' ∉ cs := fun hc =>
    ne_of_class (Timestamp.stamp_of_recognises h _ hc) (by decide) rfl
  have whole := outside_plain quoteless []
  rwa [List.append_nil, outside, List.append_nil] at whole

theorem ofValue_stamp {s : String} (h : Timestamp.recognises s.toList) :
    Literal.ofValue (.text s) = s := by
  rw [Literal.ofValue_text, if_pos]
  rw [Literal.isBare, h, Bool.or_true]

/-- Any other string is a quoted text, perhaps behind a word. -/
theorem outside_visible {s : String} (h : Timestamp.recognises s.toList = false) :
    ∀ c ∈ outside false (Literal.ofValue (.text s)).toList, isBlank c = false := by
  rw [Literal.ofValue_text, Literal.isBare, h, Bool.or_false]
  split
  · next worded =>
    obtain ⟨w, t, e, hw⟩ := Literal.worded_form worded
    rw [e, outside_worded hw]
    exact fun c hc => stem_visible (hw c hc)
  · rw [Quoted.quote, String.toList_ofList, List.cons_append, outside_literal]
    simp [outside]

/-- A string is one token wherever it stands in a filter, unless it is a timestamp with a blank
in it. Its quotes pair up and no comma or parenthesis is outside of them in any case. -/
theorem isToken_text_iff (s : String) :
    (IsToken (Literal.ofValue (.text s)).toList ↔
      ¬ (Timestamp.recognises s.toList ∧ ∃ c ∈ s.toList, isBlank c)) ∧
    (Literal.ofValue (.text s)).toList.count '\'' % 2 = 0 ∧
    ∀ c ∈ outside false (Literal.ofValue (.text s)).toList, c ≠ ',' ∧ c ≠ '(' ∧ c ≠ ')' := by
  have operand := operand_literal (.text s)
  refine ⟨⟨?_, ?_⟩, operand.quotes, operand.outside⟩
  · rintro token ⟨stamp, c, hc, blank⟩
    have visible := token.whole c (by rwa [ofValue_stamp stamp, outside_stamp stamp])
    rw [visible] at blank
    cases blank
  · intro unbroken
    refine ⟨operand.quotes, ?_, operand.outside⟩
    cases stamp : Timestamp.recognises s.toList with
    | false => exact outside_visible stamp
    | true =>
      rw [ofValue_stamp stamp, outside_stamp stamp]
      intro c hc
      exact Bool.eq_false_iff.2 fun blank => unbroken ⟨stamp, c, hc, blank⟩

/-- A blank in front of the day is enough. -/
theorem spaced_date_not_isToken :
    Literal.ofValue (.text "2024-01- 02") = "2024-01- 02" ∧
      ¬ IsToken (Literal.ofValue (.text "2024-01- 02")).toList := by
  have bare : Literal.ofValue (.text "2024-01- 02") = "2024-01- 02" := by decide +kernel
  refine ⟨bare, fun token => ?_⟩
  rw [bare] at token
  exact absurd (token.whole ' ' (by decide)) (by decide)

end OData.Filter
