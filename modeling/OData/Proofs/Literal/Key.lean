import OData.RequestUri
import OData.Proofs.Literal.Form
import OData.Proofs.Text.Percent

/-!
# The alphabet of a key

In the form that is sent a key is parentheses, quotes, commas and equals signs around
numerals, fixed words and coded text. Only the names of its parts are written as they
are (`ofKey_alphabet`).
-/

namespace OData.Literal

open Text

/-- The characters of a sent key but for the names of its parts. -/
def isKeyChar (c : Char) : Bool :=
  Percent.isUnreserved c || isNumeral c || "%'(),=".toList.contains c

theorem keyChar_of_isNumeral {c : Char} (h : isNumeral c) : isKeyChar c := by
  simp [isKeyChar, h]

theorem keyChar_of_numeral {cs : List Char} (h : Numeral cs) : ∀ c ∈ cs, isKeyChar c :=
  fun c hc => keyChar_of_isNumeral (h c hc)

theorem keyChar_of_natural {v : Value} (h : ∀ s, v ≠ .text s) :
    ∀ c ∈ v.toText.toList, isKeyChar c := by
  have named : ∀ s ∈ namedTexts, s.toList.all isKeyChar := by decide
  rcases toText_form v with ⟨s, rfl⟩ | hv | hv
  · exact absurd rfl (h s)
  · exact List.all_eq_true.1 (named _ hv)
  · exact keyChar_of_numeral hv

/-! ## Strings in a key -/

theorem numeral_of_isInteger {cs : List Char} (h : isInteger cs) : Numeral cs := by
  unfold isInteger at h
  split at h
  · rw [Bool.and_eq_true, List.all_eq_true] at h
    exact .cons (by decide) fun c hc => isNumeral_of_isDigit (h.2 c hc)
  · rw [Bool.and_eq_true, List.all_eq_true] at h
    exact fun c hc => isNumeral_of_isDigit (h.2 c hc)

theorem numeral_of_isIdentifierText {cs : List Char} (h : isIdentifierText cs) : Numeral cs := by
  rw [isIdentifierText, Bool.and_eq_true, List.all_eq_true] at h
  intro c hc
  have groups : ['-'].intercalate (cs.splitOn '-') = cs := List.intercalate_splitOn '-'
  rw [← groups] at hc
  rcases mem_intercalate hc with rfl | ⟨g, hg, hc⟩
  · decide
  · have digit : isHexDigit c := List.all_eq_true.1 (h.2 g hg) c hc
    simp [isNumeral, digit]

def isKeyTextChar (c : Char) : Bool :=
  Percent.isUnreserved c || isNumeral c || "%'".toList.contains c

theorem keyChar_of_isKeyTextChar {c : Char} (h : isKeyTextChar c) : isKeyChar c := by
  simp only [isKeyTextChar, isKeyChar, Bool.or_eq_true] at h ⊢
  refine h.imp_right fun mark => ?_
  have marks : ∀ x ∈ "%'".toList, "%'(),=".toList.contains x := List.all_eq_true.1 (by decide)
  exact marks c (List.contains_iff_mem.1 mark)

theorem keyTextChar_of_keyText (s : String) :
    ∀ c ∈ (ofKeyText .sent s).toList, isKeyTextChar c := by
  have numeral {cs : List Char} (h : Numeral cs) : ∀ c ∈ cs, isKeyTextChar c := fun c hc => by
    simp [isKeyTextChar, h c hc]
  unfold ofKeyText
  split
  · next bare =>
    rw [Bool.or_eq_true] at bare
    exact numeral (bare.elim numeral_of_isInteger numeral_of_isIdentifierText)
  · have quote : ∀ c ∈ "'".toList, isKeyTextChar c := List.all_eq_true.1 (by decide)
    intro c hc
    simp only [String.toList_append, List.mem_append] at hc
    rcases hc with (hc | hc) | hc
    · exact quote c hc
    · rcases Percent.encode_alphabet hc with h | rfl
      · simp [isKeyTextChar, h]
      · decide
    · exact quote c hc

theorem keyChar_of_keyText (s : String) : ∀ c ∈ (ofKeyText .sent s).toList, isKeyChar c :=
  fun c hc => keyChar_of_isKeyTextChar (keyTextChar_of_keyText s c hc)

theorem ofKeyValue_eq_toText {v : Value} (h : ∀ s, v ≠ .text s) (form : Form) :
    ofKeyValue form v = v.toText := by
  rw [ofKeyValue]
  exact h

theorem keyChar_of_keyValue (v : Value) : ∀ c ∈ (ofKeyValue .sent v).toList, isKeyChar c := by
  by_cases text : ∃ s, v = .text s
  · obtain ⟨s, rfl⟩ := text
    exact keyChar_of_keyText s
  · have natural : ∀ s, v ≠ .text s := fun s e => text ⟨s, e⟩
    rw [ofKeyValue_eq_toText natural]
    exact keyChar_of_natural natural

/-! ## Keys -/

def partNames : EntityKey → List String
  | .parts ps => ps.map Prod.fst
  | _ => []

theorem parenthesised_alphabet {P : Char → Prop} {cs : List Char} (ho : P '(') (hc : P ')')
    (h : ∀ c ∈ cs, P c) : ∀ c ∈ '(' :: (cs ++ [')']), P c := by
  simp only [List.forall_mem_cons, List.forall_mem_append]
  exact ⟨ho, h, hc, by simp⟩

theorem ofKey_alphabet (key : EntityKey) :
    ∀ c ∈ (ofKey .sent key).toList, isKeyChar c ∨ ∃ name ∈ partNames key, c ∈ name.toList := by
  have wrap {t : String} (h : ∀ c ∈ t.toList, isKeyChar c ∨ ∃ n ∈ partNames key, c ∈ n.toList) :
      ∀ c ∈ ("(" ++ t ++ ")").toList, isKeyChar c ∨ ∃ n ∈ partNames key, c ∈ n.toList := by
    have inner := parenthesised_alphabet (.inl (by decide)) (.inl (by decide)) h
    simpa using inner
  cases key with
  | int n =>
    rw [ofKey]
    exact wrap fun c hc => .inl (keyChar_of_numeral (.intText n) c hc)
  | uuid u =>
    rw [ofKey]
    exact wrap fun c hc => .inl (keyChar_of_numeral (.uuidText u) c hc)
  | text s =>
    rw [ofKey]
    exact wrap fun c hc => .inl (keyChar_of_keyText s c hc)
  | parts ps =>
    have equals : ∀ c ∈ "=".toList, isKeyChar c := List.all_eq_true.1 (by decide)
    rw [ofKey]
    refine wrap fun c hc => ?_
    rw [String.toList_intercalate, List.map_map] at hc
    rcases mem_intercalate hc with rfl | ⟨part, hp, hc⟩
    · exact .inl (by decide)
    · obtain ⟨⟨name, v⟩, hm, rfl⟩ := List.mem_map.1 hp
      simp only [Function.comp_apply, String.toList_append, List.mem_append] at hc
      rcases hc with (hc | hc) | hc
      · exact .inr ⟨name, List.mem_map_of_mem hm, hc⟩
      · exact .inl (equals c hc)
      · exact .inl (keyChar_of_keyValue v c hc)

end OData.Literal
