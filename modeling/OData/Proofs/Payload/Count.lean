import OData.Payload
import OData.Proofs.Text.Digits

/-!
# Counts

The count of a body is the number that its ASCII digits write, and an error if that number has
more than 64 bits: nothing wraps and nothing is cut off (`count_exact`). What stands between the
digits makes no difference, and neither do zeros in front.
-/

namespace OData.Payload

open Text Number

def digits (p : Payload) : List Char := p.rawBody.toList.filter Char.isDigit

def tooLarge (p : Payload) : Error := .payload (.countTooLarge (String.ofList p.digits))

theorem count_eq_readDigits (p : Payload) :
    p.count = if readDigits p.digits < wordLimit then .ok (readDigits p.digits)
      else .error p.tooLarge := rfl

/-- The same digit by digit, in a word that is checked for overflow at every step. -/
theorem count_eq_foldlM (p : Payload) :
    p.count = (p.digits.foldlM push? 0).elim (.error p.tooLarge) fun w => .ok w.toNat := by
  have decimal : ∀ c ∈ p.digits, c.isDigit := fun c h => (List.mem_filter.1 h).2
  have whole : p.digits.foldl (fun n c => 10 * n + digitValue c) (0 : UInt64).toNat =
      readDigits p.digits := rfl
  rw [foldlM_push? decimal, whole, count_eq_readDigits, word?]
  by_cases fits : readDigits p.digits < wordLimit
  · rw [if_pos fits, if_pos fits, Option.elim_some, toNat_ofNat_word fits]
  · rw [if_neg fits, if_neg fits, Option.elim_none]

theorem count_exact (p : Payload) :
    let value := Nat.ofDigits 10 (p.digits.map digitValue).reverse
    (p.count = if value ≤ 2 ^ 64 - 1 then .ok value else .error p.tooLarge) ∧
      (p.digits = [] → p.count = .ok 0) ∧
      (p.count = (p.digits.foldlM push? 0).elim (.error p.tooLarge) fun w => .ok w.toNat) ∧
      ∀ n zeros, n ≤ 2 ^ 64 - 1 → p.digits = List.replicate zeros '0' ++ Nat.toDigits 10 n →
        p.count = .ok n := by
  intro value
  have limit : wordLimit = 2 ^ 64 - 1 + 1 := rfl
  have counted : p.count = if value ≤ 2 ^ 64 - 1 then .ok value else .error p.tooLarge := by
    rw [count_eq_readDigits, readDigits_eq_ofDigits, limit]
    simp only [Nat.lt_succ_iff, value]
  refine ⟨counted, fun none => ?_, p.count_eq_foldlM, fun n zeros fits written => ?_⟩
  · rw [count_eq_readDigits, none]
    rfl
  · have same : value = n := by
      rw [← readDigits_toDigits n, ← readDigits_zeros zeros, ← written, readDigits_eq_ofDigits]
    rw [counted, same, if_pos fits]

/-- The largest word behind a byte-order mark, in groups and with a digit of another script, and
the number after it. -/
theorem count_exact_grouped :
    let largest := (decode "\uFEFF018,446,744,073,709,551,615\u0663\r\n" .ok .empty).1
    let beyond := (decode "018 446 744 073 709 551 616" .ok .empty).1
    largest.count = .ok 18446744073709551615 ∧
      beyond.count = .error (.payload (.countTooLarge "018446744073709551616")) := by
  intro largest beyond
  refine ⟨(count_exact largest).2.2.2 18446744073709551615 1 (by decide) (by decide +kernel), ?_⟩
  rw [(count_exact beyond).1]
  decide +kernel

end OData.Payload
