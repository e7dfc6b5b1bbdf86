import OData.Client
import OData.Proofs.Text.Boundary

/-!
# Previews of refused answers

A body within the limit is kept as it is. Of any other body the longest prefix of whole characters
within the limit is kept, which leaves room for at most three more bytes (`preview_longest`). The
search for its end stops at a boundary, at the start of the body if there is no other, so that no
character is cut.
-/

namespace OData.Client

open Text.Utf8

/-- What the search cuts off is read as whole characters. -/
theorem preview_of_long {limit : Nat} {body : String} (long : ¬body.utf8ByteSize ≤ limit)
    {p : List Char} (leads : p <+: body.toList)
    (length : (encode p).length = boundaryBefore (encode body.toList) limit) :
    (encode body.toList).take (boundaryBefore (encode body.toList) limit) = encode p ∧
      preview limit body = String.ofList p ++ "..." := by
  obtain ⟨rest, whole⟩ := leads
  have cut : (encode body.toList).take (boundaryBefore (encode body.toList) limit) = encode p := by
    rw [← length, ← whole, encode_append, List.take_left]
  refine ⟨cut, ?_⟩
  rw [preview, if_neg long]
  dsimp only
  rw [cut, decode_encode]

theorem preview_longest (limit : Nat) (body : String) :
    if body.utf8ByteSize ≤ limit then preview limit body = body
    else
      let bytes := encode body.toList
      let stop := boundaryBefore bytes limit
      (isBoundary bytes stop = true ∧ ∀ i, stop < i → i ≤ limit → isBoundary bytes i = false) ∧
        ∃ p : String, preview limit body = p ++ "..." ∧ encode p.toList = bytes.take stop ∧
          p.toList <+: body.toList ∧ p.utf8ByteSize = stop ∧ stop ≤ limit ∧ limit ≤ stop + 3 ∧
          ∀ q : String, q.toList <+: body.toList → q.utf8ByteSize ≤ limit →
            q.toList <+: p.toList := by
  split
  · next short => rw [preview, if_pos short]
  · next long =>
    obtain ⟨stops, within, last⟩ := boundaryBefore_stops (encode body.toList) limit
    obtain ⟨p, leads, length, longest⟩ := boundaryBefore_encode body.toList limit
    obtain ⟨cut, kept⟩ := preview_of_long long leads length
    have beyond : limit < (encode body.toList).length := by
      rw [length_encode_toList]
      exact Nat.lt_of_not_le long
    have room := limit_lt_of_longest leads beyond longest
    have size : (String.ofList p).utf8ByteSize = boundaryBefore (encode body.toList) limit := by
      rw [← length_encode_toList, String.toList_ofList, length]
    refine ⟨⟨stops, fun i passed below => ?_⟩, String.ofList p, kept, ?_⟩
    · rw [← Bool.not_eq_true]
      exact fun boundary => Nat.not_le_of_lt passed (last i below boundary)
    · rw [String.toList_ofList]
      refine ⟨cut.symm, leads, size, within, by omega, fun q leads' fits => ?_⟩
      rw [← length_encode_toList] at fits
      exact longest _ leads' fits

/-- A limit within the second character. -/
example : preview 2 "h\u00E9llo" = "h..." := by decide +kernel

end OData.Client
