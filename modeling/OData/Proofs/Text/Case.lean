import OData.Proofs.Text.CharClass

/-!
# Letters of either case

Two texts are the same up to the case of their letters if they are the same in small letters
(`sameFolded_iff`). A text without letters is then the same as no other (`eq_of_sameFolded`).
-/

namespace OData.Text

theorem lower_lower (s : String) : lower (lower s) = lower s := by
  rw [lower, lower, String.toList_ofList, List.map_map]
  congr 1
  exact List.map_congr_left fun c _ => toLower_toLower c

theorem lower_append (s t : String) : lower (s ++ t) = lower s ++ lower t := by
  simp [lower, String.ofList_append]

theorem sameFolded_iff {s t : String} : sameFolded s t ↔ lower s = lower t := by
  rw [sameFolded, beq_iff_eq, lower, lower, String.ofList_inj]

theorem sameFolded_self (s : String) : sameFolded s s := beq_self_eq_true _

theorem sameFolded_symm {s t : String} (same : sameFolded s t) : sameFolded t s :=
  sameFolded_iff.2 (sameFolded_iff.1 same).symm

theorem sameFolded_lower (s : String) : sameFolded s (lower s) :=
  sameFolded_iff.2 (lower_lower s).symm

theorem sameFolded_congr {s t : String} (same : sameFolded s t) (u : String) :
    sameFolded u s = sameFolded u t := by
  rw [sameFolded, sameFolded, eq_of_beq same]

/-! ## Texts without letters -/

theorem toLower_of_not_isAlpha {c : Char} (h : c.isAlpha = false) : c.toLower = c := by
  unfold Char.toLower
  split
  · next upper =>
    have letter : c.isAlpha = true := Bool.or_eq_true_iff.2 (.inl (decide_eq_true upper))
    rw [letter] at h
    cases h
  · rfl

theorem isAlpha_toLower {c : Char} (h : c.isAlpha) : c.toLower.isAlpha :=
  of_ascii (P := fun c => c.isAlpha → c.toLower.isAlpha) (by decide)
    (ascii_of_isAlphanum (by simp [Char.isAlphanum, h])) h

/-- A text without letters is no other text in another case. -/
theorem eq_of_sameFolded {s t : String} (plain : ∀ c ∈ s.toList, c.isAlpha = false)
    (same : sameFolded s t) : s = t := by
  have chars : s.toList.map Char.toLower = t.toList.map Char.toLower := eq_of_beq same
  have still : s.toList.map Char.toLower = s.toList := by
    refine (List.map_congr_left fun c member => ?_).trans (List.map_id _)
    exact toLower_of_not_isAlpha (plain c member)
  have still' : t.toList.map Char.toLower = t.toList := by
    refine (List.map_congr_left fun c member => ?_).trans (List.map_id _)
    have folded : c.toLower ∈ s.toList := by
      rw [← still, chars]
      exact List.mem_map_of_mem member
    refine toLower_of_not_isAlpha (Bool.eq_false_iff.2 fun letter => ?_)
    exact absurd (isAlpha_toLower letter) (by rw [plain _ folded]; decide)
  exact String.toList_injective (by rw [← still, chars, still'])

end OData.Text
