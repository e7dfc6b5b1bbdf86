import OData.Proofs.RequestUri.Wire
import OData.Proofs.Text.CharClass

/-!
# Options read from a URI

`readWire` cuts a URI at its first `?`, what follows at every `&` and each piece at its
first `=`, and decodes the values. Of a sent URI it gives the target and the options
of the query (`readWire_uri`): no value adds an option, hides one or changes another.
-/

namespace OData.Query

open Text

/-! ## The reader -/

/-- The name before the first `=`, and the text that the rest stands for. -/
def readOption (piece : List Char) : String × String :=
  (String.ofList (piece.takeWhile (· != '=')),
    Percent.decode (String.ofList ((piece.dropWhile (· != '=')).drop 1)))

def beforeMark (uri : String) : String := String.ofList (uri.toList.takeWhile (· != '?'))

def behindMark? (uri : String) : Option (List Char) :=
  match uri.toList.dropWhile (· != '?') with
  | [] => none
  | _ :: rest => some rest

/-- The part before the options, and the options by name with their decoded values. -/
def readWire (uri : String) : String × List (String × String) :=
  (beforeMark uri, match behindMark? uri with
    | none => []
    | some rest => (rest.splitOn '&').map readOption)

/-! ## Marks -/

def isQueryChar (c : Char) : Bool := Percent.isUnreserved c || "%$=&".toList.contains c

theorem coded_toList (option : String × String) :
    (coded option).toList = option.1.toList ++ '=' :: (Percent.encode option.2).toList := by
  simp [coded]

theorem coded_alphabet {option : String × String} (h : option.1 ∈ optionNames) :
    ∀ c ∈ (coded option).toList, isQueryChar c ∧ c ≠ '&' := by
  have unreserved {c : Char} (hc : Percent.isUnreserved c) : isQueryChar c ∧ c ≠ '&' :=
    ⟨by simp [isQueryChar, hc], ne_of_class hc (by decide)⟩
  intro c hc
  rw [coded_toList, List.mem_append, List.mem_cons] at hc
  rcases hc with hc | rfl | hc
  · rcases (chars_of_name h c hc).2 with hc | rfl
    · exact unreserved hc
    · decide
  · decide
  · rcases Percent.encode_alphabet hc with hc | rfl
    · exact unreserved hc
    · decide

theorem readOption_coded {option : String × String} (h : option.1 ∈ optionNames) :
    readOption (coded option).toList = option := by
  obtain ⟨before, behind⟩ := cut_at (equals_not_mem_name h) (Percent.encode option.2).toList
  rw [readOption, coded_toList, before, behind, List.drop_one, List.tail_cons,
    String.ofList_toList, String.ofList_toList, Percent.decode_encode]

theorem splitOn_options {options : List (String × String)} (hne : options ≠ [])
    (h : ∀ option ∈ options, option.1 ∈ optionNames) :
    ((String.intercalate "&" (options.map coded)).toList.splitOn '&').map readOption = options := by
  have pieces : ∀ piece ∈ (options.map coded).map String.toList, '&' ∉ piece := by
    intro piece hp
    rw [List.map_map] at hp
    obtain ⟨option, ho, rfl⟩ := List.mem_map.1 hp
    exact fun hm => (coded_alphabet (h option ho) _ hm).2 rfl
  rw [String.toList_intercalate, show "&".toList = ['&'] from rfl,
    List.splitOn_intercalate _ pieces (by simpa using hne), List.map_map, List.map_map]
  calc options.map (readOption ∘ String.toList ∘ coded)
      = options.map id := List.map_congr_left fun option ho => readOption_coded (h option ho)
    _ = options := List.map_id _

theorem marks_target {q : Query} (h : q.Unmarked) (rest : List Char) :
    beforeMark (String.ofList (q.target.toList ++ '?' :: rest)) = q.target ∧
      behindMark? (String.ofList (q.target.toList ++ '?' :: rest)) = some rest := by
  obtain ⟨before, behind⟩ := cut_at (target_unmarked h) rest
  constructor
  · rw [beforeMark, String.toList_ofList, before, String.ofList_toList]
  · rw [behindMark?, String.toList_ofList, behind]

theorem marks_nothing {q : Query} (h : q.Unmarked) :
    beforeMark q.target = q.target ∧ behindMark? q.target = none := by
  have keeps : ∀ c ∈ q.target.toList, (c != '?') = true := fun c hc => by
    rw [bne_iff_ne]
    rintro rfl
    exact target_unmarked h hc
  constructor
  · rw [beforeMark, List.takeWhile_eq_self_iff.2 keeps, String.ofList_toList]
  · rw [behindMark?, List.dropWhile_eq_nil_iff.2 keeps]

/-- A query with options, cut at the mark. -/
theorem marks_uri {q : Query} (h : q.Unmarked) :
    beforeMark (q.uri .sent) = q.target ∧
      behindMark? (q.uri .sent) =
        if q.present = [] then none
        else some (String.intercalate "&" (q.present.map coded)).toList := by
  rw [uri_sent h, queryText]
  split
  · rw [String.append_empty]
    exact marks_nothing h
  · have shape : q.target ++ ("?" ++ String.intercalate "&" (q.present.map coded)) =
        String.ofList (q.target.toList ++
          '?' :: (String.intercalate "&" (q.present.map coded)).toList) :=
      String.toList_injective (by simp)
    rw [shape]
    exact marks_target h _

theorem readWire_sent {q : Query} (h : q.Unmarked) :
    readWire (q.uri .sent) = (q.target, q.present) := by
  obtain ⟨before, behind⟩ := marks_uri h
  rw [readWire, before, behind]
  split
  · next none =>
    have : q.present = [] := by
      by_contra some
      rw [if_neg some] at none
      cases none
    rw [this]
  · next rest found =>
    split at found
    · cases found
    · next some =>
      cases found
      rw [splitOn_options some fun _ => name_of_present]

theorem behindMark_alphabet {q : Query} (h : q.Unmarked) {rest : List Char}
    (hr : behindMark? (q.uri .sent) = some rest) : ∀ c ∈ rest, isQueryChar c := by
  rw [(marks_uri h).2] at hr
  split at hr
  · cases hr
  · cases hr
    intro c hc
    rw [String.toList_intercalate] at hc
    rcases Literal.mem_intercalate hc with rfl | ⟨piece, hp, hc⟩
    · decide
    · rw [List.map_map] at hp
      obtain ⟨option, ho, rfl⟩ := List.mem_map.1 hp
      exact (coded_alphabet (name_of_present ho) c hc).1

/-- The sent URI is the path, `/$count` for a count, and the coded options; it is read back as
the options of the query, and nothing behind its mark needs coding. -/
theorem uri_readWire (q : Query) (h : q.Unmarked) :
    (q.uri .sent = q.path .sent ++ (if q.isCount then "/$count" else "") ++
        if q.present = [] then "" else "?" ++ String.intercalate "&" (q.present.map coded)) ∧
      readWire (q.uri .sent) =
        (q.path .sent ++ (if q.isCount then "/$count" else ""), q.present) ∧
      ∀ rest, behindMark? (q.uri .sent) = some rest → ∀ c ∈ rest, isQueryChar c :=
  ⟨uri_sent h, readWire_sent h, fun _ => behindMark_alphabet h⟩

def marked : Query :=
  { entitySet := some "Orders"
    key := some (.parts [("Id", .text "a?b&c"), ("Line", .int 2)])
    properties := some ["A&B=", "é"]
    clauses := [⟨.and, .compare "Note" "=" (.text "?$top=1&x=%41")⟩]
    rawOrder := some ""
    skipToken := some "a=b&$skip=9"
    take := some 3
    wantsTotal := true }

theorem readWire_marked :
    marked.Unmarked ∧
      readWire (marked.uri .sent) = ("Orders(Id='a%3Fb%26c',Line=2)",
        [("$select", "A&B=,é"), ("$filter", "Note eq '?$top=1&x=%41'"), ("$orderby", ""),
          ("$skiptoken", "a=b&$skip=9")]) := by
  have unmarked : marked.Unmarked := by
    refine ⟨by decide, fun key hk name hn => ?_⟩
    cases hk
    revert name
    decide
  have whole := (uri_readWire marked unmarked).2.1
  refine ⟨unmarked, whole.trans ?_⟩
  decide +kernel

end OData.Query
