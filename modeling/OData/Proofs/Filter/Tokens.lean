import OData.Grammar
import OData.Proofs.Filter.Scan
import OData.Proofs.Literal.Form

/-!
# The tokens of a condition

Names, operators and literals are what conditions are made of. Behind a space each of
them is solid: no word of an operator is a connector, and a literal has either no word
of its own or none with the letters of one (`solid_operator`, `solid_literal`). No
literal has a comma outside its quotes (`operand_literal`).
-/

namespace OData.Filter

open Text

/-! ## Words -/

/-- A word that may stand between spaces. -/
def Word (w : List Char) : Prop :=
  (∀ c ∈ w, isPlain c ∧ c ≠ ' ') ∧ ∀ k : Connector, w ≠ k.word.toList

theorem solid_append {w t : List Char} (hw : ∀ c ∈ w, isPlain c ∧ c ≠ ' ') (ht : Solid t) :
    Solid (w ++ t) := by
  induction w with
  | nil => exact ht
  | cons c w ih =>
    obtain ⟨hc, hw⟩ := List.forall_mem_cons.1 hw
    exact .plain hc.1 hc.2 (ih hw)

theorem firstWord_word {w : List Char} (hw : ∀ c ∈ w, isPlain c ∧ c ≠ ' ') (t : List Char) :
    firstWord (w ++ t) = w ++ firstWord t :=
  List.takeWhile_append_of_pos fun c hc => by simpa using (hw c hc).2

theorem solid_word {w : List Char} (hw : Word w) {t : List Char} (ht : Solid (' ' :: t)) :
    Solid (' ' :: (w ++ ' ' :: t)) := by
  refine .space ?_ (solid_append hw.1 ht)
  intro k
  rw [firstWord_word hw.1, firstWord, List.takeWhile_cons_of_neg (by simp), List.append_nil]
  exact hw.2 k

theorem solid_lastWord {w : List Char} (hw : Word w) : Solid (' ' :: w) := by
  have solid := solid_append hw.1 .nil
  rw [List.append_nil] at solid
  refine .space ?_ solid
  intro k
  rw [← List.append_nil w, firstWord_word hw.1, firstWord, List.takeWhile_nil, List.append_nil]
  exact hw.2 k

theorem balanced_plain {w : List Char} (hw : ∀ c ∈ w, isPlain c) : Balanced w := by
  induction w with
  | nil => exact .nil
  | cons c w ih =>
    obtain ⟨hc, hw⟩ := List.forall_mem_cons.1 hw
    exact .plain hc (ih hw)

/-! ## Operators -/

theorem letter_plain {c : Char} (h : c.isAlpha) : isPlain c ∧ c ≠ ' ' := by
  exact ⟨isPlain_of_class h (by decide), ne_of_class h (by decide)⟩

/-- Of the keywords that symbols stand for, two have two words. -/
theorem solid_symbolKeyword {op keyword : String} (h : (op, keyword) ∈ Operator.symbols)
    {t : List Char} (ht : Solid (' ' :: t)) : Solid (' ' :: (keyword.toList ++ ' ' :: t)) := by
  have one (w : String) (hw : w ∈ ["eq", "lt", "gt", "le", "ge", "ne", "not"]) :
      Word w.toList := by
    have letters : ∀ w ∈ ["eq", "lt", "gt", "le", "ge", "ne", "not"],
        w.toList.all Char.isAlpha := by decide
    refine ⟨fun c hc => letter_plain (List.all_eq_true.1 (letters w hw) c hc), fun k => ?_⟩
    cases k <;> revert w <;> decide
  have cases : keyword ∈ ["eq", "lt", "gt", "le", "ge", "ne", "not"] ∨ keyword = "not lt" ∨
      keyword = "not gt" := by
    revert h
    simp only [Operator.symbols, List.mem_cons, Prod.mk.injEq, List.not_mem_nil, or_false]
    rintro (⟨-, rfl⟩ | ⟨-, rfl⟩ | ⟨-, rfl⟩ | ⟨-, rfl⟩ | ⟨-, rfl⟩ | ⟨-, rfl⟩ | ⟨-, rfl⟩ | ⟨-, rfl⟩ |
      ⟨-, rfl⟩) <;> simp
  rcases cases with hw | rfl | rfl
  · exact solid_word (one _ hw) ht
  · exact solid_word (one "not" (by simp)) (solid_word (one "lt" (by simp)) ht)
  · exact solid_word (one "not" (by simp)) (solid_word (one "gt" (by simp)) ht)

theorem word_of_keyword {op : String} (h : Operator.keywords.any (sameFolded · op)) :
    Word op.toList := by
  obtain ⟨k, hk, e⟩ := List.any_eq_true.1 h
  rw [sameFolded, beq_iff_eq] at e
  have lower : ∀ k ∈ Operator.keywords, (k.toList.map Char.toLower).all Char.isLower := by
    decide
  have other : ∀ k ∈ Operator.keywords, ∀ c : Connector,
      k.toList.map Char.toLower ≠ c.word.toList.map Char.toLower := by
    intro k hk c
    cases c <;> revert k <;> decide
  constructor
  · intro c hc
    refine letter_plain (Literal.isAlpha_of_isLower_toLower
      (List.all_eq_true.1 (lower k hk) _ ?_))
    rw [e]
    exact List.mem_map_of_mem hc
  · intro c same
    exact other k hk c (by rw [e, same])

theorem solid_operator {op : String} (h : Operator.isKnown op) {t : List Char}
    (ht : Solid (' ' :: t)) : Solid (' ' :: ((Operator.keyword op).toList ++ ' ' :: t)) := by
  unfold Operator.keyword
  cases found : Operator.symbols.lookup op with
  | some keyword =>
    obtain ⟨l, r, e, -⟩ := List.lookup_eq_some_iff.1 found
    have listed : (op, keyword) ∈ Operator.symbols := by rw [e]; simp
    exact solid_symbolKeyword listed ht
  | none =>
    have notSymbol : Operator.symbols.any (·.1 == op) = false := by
      rw [List.any_eq_false]
      intro p hp e
      have := List.lookup_eq_none_iff.1 found p hp
      simp [eq_of_beq e] at this
    rw [Operator.isKnown, notSymbol, Bool.false_or] at h
    exact solid_word (word_of_keyword h) ht

/-! ## Literals -/

theorem stem_plain {c : Char} (h : Literal.isStemChar c) : isPlain c ∧ c ≠ ' ' ∧ c ≠ ',' := by
  exact ⟨isPlain_of_class h (by decide), ne_of_class h (by decide), ne_of_class h (by decide)⟩

/-- The letters of the connectors that no number and no timestamp has. -/
theorem bare_plain {c : Char} (h : Literal.isBareChar c) :
    isPlain c ∧ c ≠ ',' ∧ c ≠ 'n' ∧ c ≠ 'o' := by
  exact ⟨isPlain_of_class h (by decide), ne_of_class h (by decide), ne_of_class h (by decide),
    ne_of_class h (by decide)⟩

theorem named_word {s : String} (h : s ∈ namedTexts) :
    Word s.toList ∧ ∀ c ∈ s.toList, c ≠ ',' := by
  have all : ∀ s ∈ namedTexts, s.toList.all fun c => isPlain c && c != ' ' && c != ',' := by
    decide
  have chars : ∀ c ∈ s.toList, (isPlain c ∧ c ≠ ' ') ∧ c ≠ ',' := fun c hc => by
    simpa using List.all_eq_true.1 (all s h) c hc
  have other : ∀ k : Connector, ∀ s ∈ namedTexts, s.toList ≠ k.word.toList := by
    intro k
    cases k <;> decide
  exact ⟨⟨fun c hc => (chars c hc).1, fun k => other k s h⟩, fun c hc => (chars c hc).2⟩

theorem operand_append {w t : List Char} (hw : ∀ c ∈ w, isPlain c ∧ c ≠ ',') (ht : Operand t) :
    Operand (w ++ t) := by
  induction w with
  | nil => exact ht
  | cons c w ih =>
    obtain ⟨hc, hw⟩ := List.forall_mem_cons.1 hw
    exact .plain hc.1 hc.2 (ih hw)

theorem operand_plain {w : List Char} (hw : ∀ c ∈ w, isPlain c ∧ c ≠ ',') : Operand w := by
  simpa using operand_append hw .nil

theorem operand_literal (v : Value) : Operand (Literal.ofValue v).toList := by
  rcases Literal.ofValue_form v with ⟨w, s, e, hw⟩ | h | h
  · rw [e, List.append_assoc, List.cons_append]
    exact operand_append (fun c hc => ⟨(stem_plain (hw c hc)).1, (stem_plain (hw c hc)).2.2⟩)
      (.literal s .nil)
  · obtain ⟨word, commas⟩ := named_word h
    exact operand_plain fun c hc => ⟨(word.1 c hc).1, commas c hc⟩
  · exact operand_plain fun c hc => ⟨(bare_plain (h c hc)).1, (bare_plain (h c hc)).2.1⟩

theorem firstWord_bare {t : List Char} (h : ∀ c ∈ t, Literal.isBareChar c) (k : Connector) :
    firstWord t ≠ k.word.toList := by
  intro e
  have letters : ∀ c ∈ k.word.toList, c ≠ 'n' ∧ c ≠ 'o' := by
    rw [← e]
    exact fun c hc => (bare_plain (h c ((List.takeWhile_sublist _).subset hc))).2.2
  cases k with
  | and => exact (letters 'n' (by decide)).1 rfl
  | or => exact (letters 'o' (by decide)).2 rfl

theorem solid_bare {t : List Char} (h : ∀ c ∈ t, Literal.isBareChar c) : Solid t := by
  induction t with
  | nil => exact .nil
  | cons c t ih =>
    obtain ⟨hc, ht⟩ := List.forall_mem_cons.1 h
    by_cases space : c = ' '
    · subst space
      exact .space (firstWord_bare ht) (ih ht)
    · exact .plain (bare_plain hc).1 space (ih ht)

theorem solid_literal (v : Value) : Solid (' ' :: (Literal.ofValue v).toList) := by
  rcases Literal.ofValue_form v with ⟨w, s, e, hw⟩ | h | h
  · have stem : ∀ c ∈ w, isPlain c ∧ c ≠ ' ' := fun c hc =>
      ⟨(stem_plain (hw c hc)).1, (stem_plain (hw c hc)).2.1⟩
    rw [e, List.append_assoc, List.cons_append]
    refine .space ?_ (solid_append stem (.literal s .nil))
    intro k same
    have quote : '\'' ∈ k.word.toList := by
      rw [← same, firstWord_word stem]
      simp [firstWord]
    cases k <;> revert quote <;> decide
  · exact solid_lastWord (named_word h).1
  · exact .space (firstWord_bare h) (solid_bare h)

end OData.Filter
