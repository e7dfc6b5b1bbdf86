import OData.Proofs.RequestUri.Decoding
import OData.Proofs.Text.CharClass
import OData.Proofs.Url.Resolution

/-!
# Sent URIs as references

If the entity set and the names in the key are identifiers, a sent URI is a reference of
which resolving changes nothing (`plain_uri`): all that a key or an option holds is either
coded or one of the characters that stay where they are in a path or a query.
-/

namespace OData

open Text Url

/-! ## Characters that stay -/

theorem ascii_of_isKeyChar {c : Char} (h : Literal.isKeyChar c) : c.toNat < 128 := by
  have all : ("+-.:TZ".toList ++ "%'(),=".toList).all (·.toNat < 128) := by decide
  have signs : ∀ c ∈ "+-.:TZ".toList ++ "%'(),=".toList, c.toNat < 128 := fun c hc => by
    simpa using List.all_eq_true.1 all c hc
  simp only [Literal.isKeyChar, isNumeral, Bool.or_eq_true, List.contains_iff_mem] at h
  rcases h with (h | h | h) | h
  · exact ascii_of_isUnreserved h
  · exact ascii_of_isHexDigit h
  · exact signs c (List.mem_append_left _ h)
  · exact signs c (List.mem_append_right _ h)

theorem kept_of_isKeyChar {c : Char} (h : Literal.isKeyChar c) :
    keepInPath c ∧ c ≠ '\\' ∧ c ≠ '/' := by
  have all : ∀ n : Fin 128, Literal.isKeyChar (Char.ofNat n) →
      keepInPath (Char.ofNat n) ∧ Char.ofNat n ≠ '\\' ∧ Char.ofNat n ≠ '/' := by decide +kernel
  exact of_ascii (P := fun c => Literal.isKeyChar c → keepInPath c ∧ c ≠ '\\' ∧ c ≠ '/') all
    (ascii_of_isKeyChar h) h

theorem keyChar_of_isWordChar {c : Char} (h : isWordChar c) : Literal.isKeyChar c := by
  simp only [isWordChar, Bool.or_eq_true, beq_iff_eq] at h
  rcases h with h | rfl
  · simp [Literal.isKeyChar, Percent.isUnreserved, h]
  · decide

theorem kept_of_isQueryChar {c : Char} (h : Query.isQueryChar c) : keepInQuery true c := by
  have all : ∀ n : Fin 128, Query.isQueryChar (Char.ofNat n) → keepInQuery true (Char.ofNat n) := by
    decide +kernel
  have ascii : c.toNat < 128 := by
    have all : "%$=&".toList.all (·.toNat < 128) := by decide
    have signs : ∀ c ∈ "%$=&".toList, c.toNat < 128 := fun c hc => by
      simpa using List.all_eq_true.1 all c hc
    simp only [Query.isQueryChar, Bool.or_eq_true, List.contains_iff_mem] at h
    rcases h with h | h
    · exact ascii_of_isUnreserved h
    · exact signs c h
  exact of_ascii (P := fun c => Query.isQueryChar c → keepInQuery true c) all ascii h

namespace Query

/-! ## Queries whose names are identifiers -/

/-- The entity set and the names of the parts of the key are identifiers. -/
structure Addressed (q : Query) : Prop where
  set : ∃ s, q.entitySet = some s ∧ Literal.isIdentifier s.toList
  parts : ∀ key, q.key = some key →
    ∀ name ∈ Literal.partNames key, Literal.isIdentifier name.toList

theorem Addressed.setText {q : Query} (h : q.Addressed) :
    Literal.isIdentifier q.setText.toList := by
  obtain ⟨s, some, identifier⟩ := h.set
  rwa [Query.setText, some]

theorem Addressed.keyChar {q : Query} (h : q.Addressed) :
    ∀ c ∈ (q.keyText .sent).toList, Literal.isKeyChar c := by
  unfold Query.keyText
  split
  · next key hk =>
    intro c hc
    rcases Literal.ofKey_alphabet key c hc with hc | ⟨name, hn, hc⟩
    · exact hc
    · exact keyChar_of_isWordChar (isWordChar_of_isIdentifier (h.parts key hk name hn) c hc)
  · simp

theorem Addressed.setChar {q : Query} (h : q.Addressed) :
    ∀ c ∈ q.setText.toList, Literal.isKeyChar c := fun c hc =>
  keyChar_of_isWordChar (isWordChar_of_isIdentifier h.setText c hc)

theorem Addressed.unmarked {q : Query} (h : q.Addressed) : q.Unmarked := by
  constructor
  · intro hm
    exact ne_of_class (h.setChar _ hm) (by decide) rfl
  · intro key hk name hn hm
    exact ne_of_class (isWordChar_of_isIdentifier (h.parts key hk name hn) _ hm) (by decide) rfl

/-- Entity set and key, and `/$count` or nothing. -/
def address (q : Query) (counted : Bool) : List Char :=
  q.setText.toList ++ ((q.keyText .sent).toList ++ if counted then "/$count".toList else [])

theorem splitOn_address {q : Query} (h : q.Addressed) (counted : Bool) :
    (q.address counted).splitOn '/' =
      (q.setText.toList ++ (q.keyText .sent).toList) ::
        if counted then ["$count".toList] else [] := by
  have slashless : '/' ∉ q.setText.toList ++ (q.keyText .sent).toList := by
    rw [List.mem_append, not_or]
    exact ⟨fun hm => (kept_of_isKeyChar (h.setChar _ hm)).2.2 rfl,
      fun hm => (kept_of_isKeyChar (h.keyChar _ hm)).2.2 rfl⟩
  unfold address
  rw [← List.append_assoc]
  cases counted with
  | false => simpa using List.splitOn_eq_singleton slashless
  | true => exact List.splitOn_append_cons_self_of_not_mem slashless _

theorem named_address {q : Query} (h : q.Addressed) (counted : Bool) :
    Named (q.address counted) q.setText.toList
      ((q.keyText .sent).toList ++ if counted then "/$count".toList else []) := by
  refine ⟨rfl, h.setText, fun c hc => ?_⟩
  have head := keyText_head q .sent
  cases key : (q.keyText .sent).toList with
  | nil =>
    rw [key] at hc
    cases counted with
    | false => cases hc
    | true => cases hc; exact .inr rfl
  | cons x xs =>
    rw [key] at hc head
    obtain rfl : x = c := Option.some.inj hc
    exact .inl (head x rfl)

theorem plain_address {q : Query} (h : q.Addressed) (counted : Bool) {query : Option (List Char)}
    (hq : ∀ text ∈ query, ∀ c ∈ text, isQueryChar c) : Plain (q.address counted) query := by
  have named := named_address h counted
  refine ⟨⟨_, _, named⟩, ?_, ?_, fun text ht c hc => kept_of_isQueryChar (hq text ht c hc)⟩
  · have all : "/$count".toList.all fun c => keepInPath c && c != '\\' := by decide
    have count : ∀ c ∈ "/$count".toList, keepInPath c ∧ c ≠ '\\' := fun c hc => by
      simpa using List.all_eq_true.1 all c hc
    intro c hc
    simp only [address, List.mem_append] at hc
    rcases hc with hc | hc | hc
    · exact ⟨(kept_of_isKeyChar (h.setChar c hc)).1, (kept_of_isKeyChar (h.setChar c hc)).2.1⟩
    · exact ⟨(kept_of_isKeyChar (h.keyChar c hc)).1, (kept_of_isKeyChar (h.keyChar c hc)).2.1⟩
    · split at hc
      · exact count c hc
      · cases hc
  · have set : Undotted (q.setText.toList ++ (q.keyText .sent).toList) := by
      obtain ⟨c, rest, shape, wordChar⟩ := (named_address h false).head
      refine ⟨c, rest, ?_, ?_, ?_⟩
      · rw [← shape, address]
        simp
      · exact ne_of_class wordChar (by decide)
      · exact ne_of_class wordChar (by decide)
    have count : Undotted "$count".toList := ⟨'$', "count".toList, rfl, by decide, by decide⟩
    rw [splitOn_address h]
    cases counted with
    | false => simpa using set
    | true => simpa using ⟨set, count⟩

/-! ## Resolving -/

def optionText (q : Query) : Option (List Char) :=
  if q.present = [] then none else some (String.intercalate "&" (q.present.map coded)).toList

theorem uri_reference {q : Query} (h : q.Addressed) :
    q.uri .sent = String.ofList (reference (q.address q.isCount) q.optionText) := by
  rw [uri_sent h.unmarked, target, path_sent h.unmarked, queryText, optionText, address]
  refine String.toList_injective ?_
  cases q.isCount <;> by_cases none : q.present = [] <;> simp [Url.reference, none]

theorem path_reference {q : Query} (h : q.Addressed) :
    q.path .sent = String.ofList (reference (q.address false) none) := by
  rw [path_sent h.unmarked, address]
  exact String.toList_injective (by simp [Url.reference])

theorem plain_uri {q : Query} (h : q.Addressed) : Plain (q.address q.isCount) q.optionText := by
  refine plain_address h q.isCount fun text ht => ?_
  refine behindMark_alphabet h.unmarked ?_
  rw [(marks_uri h.unmarked).2]
  exact ht

theorem plain_path {q : Query} (h : q.Addressed) : Plain (q.address false) none :=
  plain_address h false (by simp)

end Query

end OData
