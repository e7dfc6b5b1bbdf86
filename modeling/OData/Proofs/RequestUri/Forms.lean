import OData.Proofs.RequestUri.Wire
import OData.Proofs.Text.CharClass

/-!
# The readable and the sent form

The pieces of the two forms correspond: a sent piece stands for the readable one
(`standsFor_key`, `standsFor_rear`), so the sent path is the readable path in code. The whole
URIs correspond as well unless joining takes a key for an opened option: a readable key keeps
its `?$`, and an `&` then precedes what follows it, whereas a sent key has none
(`hasOption_sentKey`). The forms agree but for that case (`decode_sent_iff`).
-/

namespace OData

open Text

/-! ## Keys -/

namespace Literal

theorem percent_not_mem_of_numeral {cs : List Char} (h : Numeral cs) : '%' ∉ cs :=
  fun hm => ne_of_class (h _ hm) (by decide) rfl

theorem percent_not_mem_natural {v : Value} (h : ∀ s, v ≠ .text s) : '%' ∉ v.toText.toList := by
  have named : ∀ s ∈ namedTexts, '%' ∉ s.toList := by decide
  rcases toText_form v with ⟨s, rfl⟩ | hv | hv
  · exact absurd rfl (h s)
  · exact named _ hv
  · exact percent_not_mem_of_numeral hv

theorem standsFor_keyText (s : String) :
    Percent.StandsFor (ofKeyText .sent s) (ofKeyText .readable s) := by
  unfold ofKeyText
  split
  · next bare =>
    rw [Bool.or_eq_true] at bare
    refine Percent.standsFor_self (percent_not_mem_of_numeral ?_)
    exact bare.elim numeral_of_isInteger numeral_of_isIdentifierText
  · have quote : Percent.StandsFor "'" "'" := Percent.standsFor_self (by decide)
    have quoted : Quoted.quote s = "'" ++ String.ofList (Quoted.double s.toList) ++ "'" :=
      String.toList_injective (by simp [Quoted.quote])
    rw [quoted]
    exact (quote.append (Percent.standsFor_encode _)).append quote

theorem standsFor_keyValue (v : Value) :
    Percent.StandsFor (ofKeyValue .sent v) (ofKeyValue .readable v) := by
  by_cases text : ∃ s, v = .text s
  · obtain ⟨s, rfl⟩ := text
    exact standsFor_keyText s
  · have natural : ∀ s, v ≠ .text s := fun s e => text ⟨s, e⟩
    rw [ofKeyValue_eq_toText natural, ofKeyValue_eq_toText natural]
    exact Percent.standsFor_self (percent_not_mem_natural natural)

theorem standsFor_key {key : EntityKey} (h : ∀ name ∈ partNames key, '%' ∉ name.toList) :
    Percent.StandsFor (ofKey .sent key) (ofKey .readable key) := by
  have wrap {s t : String} (inner : Percent.StandsFor s t) :
      Percent.StandsFor ("(" ++ s ++ ")") ("(" ++ t ++ ")") :=
    ((Percent.standsFor_self (by decide)).append inner).append (Percent.standsFor_self (by decide))
  cases key with
  | int n =>
    rw [ofKey, ofKey]
    exact wrap (Percent.standsFor_self (percent_not_mem_of_numeral (.intText n)))
  | uuid u =>
    rw [ofKey, ofKey]
    exact wrap (Percent.standsFor_self (percent_not_mem_of_numeral (.uuidText u)))
  | text s =>
    rw [ofKey, ofKey]
    exact wrap (standsFor_keyText s)
  | parts ps =>
    rw [ofKey, ofKey]
    refine wrap (Percent.StandsFor.intercalate (by decide) fun part hp => ?_)
    have name := Percent.standsFor_self (h part.1 (List.mem_map_of_mem hp))
    exact (name.append (Percent.standsFor_self (by decide))).append (standsFor_keyValue part.2)

/-! ### No option in a sent key -/

theorem hasOption_commas {pieces : List (List Char)}
    (h : ∀ p ∈ pieces, concatenate.hasOption p = false) :
    concatenate.hasOption ([','].intercalate pieces) = false := by
  induction pieces with
  | nil => rfl
  | cons p ps ih =>
    obtain ⟨first, later⟩ := List.forall_mem_cons.1 h
    cases ps with
    | nil => simpa using first
    | cons p' ps =>
      rw [List.intercalate_cons_cons, List.append_assoc, List.singleton_append,
        concatenate.hasOption_append p (by simp), first, concatenate.hasOption_cons, ih later]
      rfl

theorem hasOption_sentKey {key : EntityKey}
    (h : ∀ name ∈ partNames key, concatenate.hasOption name.toList = false) :
    concatenate.hasOption (ofKey .sent key).toList = false := by
  have unnamed (none : partNames key = []) :
      concatenate.hasOption (ofKey .sent key).toList = false := by
    refine concatenate.hasOption_plain fun hm => ?_
    rcases ofKey_alphabet key _ hm with mark | ⟨name, hn, -⟩
    · exact ne_of_class mark (by decide) rfl
    · rw [none] at hn
      cases hn
  cases key with
  | int n => exact unnamed rfl
  | uuid u => exact unnamed rfl
  | text s => exact unnamed rfl
  | parts ps =>
    have written : ofKey .sent (.parts ps) = "(" ++ String.intercalate ","
        (ps.map fun part => part.1 ++ "=" ++ ofKeyValue .sent part.2) ++ ")" := rfl
    have pieces : ∀ piece ∈ (ps.map fun part => part.1 ++ "=" ++ ofKeyValue .sent part.2).map
        String.toList, concatenate.hasOption piece = false := by
      intro piece hp
      rw [List.map_map] at hp
      obtain ⟨⟨name, v⟩, hm, rfl⟩ := List.mem_map.1 hp
      have value : concatenate.hasOption (ofKeyValue .sent v).toList = false :=
        concatenate.hasOption_plain fun mark =>
          ne_of_class (keyChar_of_keyValue v _ mark) (by decide) rfl
      have named := h name (List.mem_map_of_mem hm)
      rw [Function.comp_apply, String.toList_append, String.toList_append, List.append_assoc,
        concatenate.hasOption_append _ (by simp), named]
      exact value
    rw [written, String.toList_append, String.toList_append, String.toList_intercalate,
      concatenate.hasOption_append _ (by decide), show "(".toList = ['('] from rfl,
      List.singleton_append, concatenate.hasOption_cons, show ",".toList = [','] from rfl,
      hasOption_commas pieces]
    rfl

end Literal

/-! ## Queries -/

/-- A name that stands for itself and opens no option. -/
structure IsBareName (name : String) : Prop where
  percent : '%' ∉ name.toList
  option : ¬ "?$".toList <:+: name.toList

theorem isBareName_iff {name : String} :
    (!name.toList.contains '%' && !concatenate.hasOption name.toList) = true ↔ IsBareName name := by
  simp only [Bool.and_eq_true, Bool.not_eq_true', ← Bool.not_eq_true, List.contains_iff_mem,
    concatenate.hasOption_iff]
  exact ⟨fun h => ⟨h.1, h.2⟩, fun h => ⟨h.percent, h.option⟩⟩

instance (name : String) : Decidable (IsBareName name) := decidable_of_iff _ isBareName_iff

theorem IsBareName.closed {name : String} (h : IsBareName name) :
    concatenate.hasOption name.toList = false := by
  rw [Bool.eq_false_iff]
  exact fun found => h.option (concatenate.hasOption_iff.1 found)

namespace Query

open Literal (Form)

structure Bare (q : Query) : Prop where
  set : IsBareName q.setText
  parts : ∀ key, q.key = some key → ∀ name ∈ Literal.partNames key, IsBareName name

theorem Bare.standsFor_keyText {q : Query} (h : q.Bare) :
    Percent.StandsFor (q.keyText .sent) (q.keyText .readable) := by
  unfold keyText
  split
  · next key hk => exact Literal.standsFor_key fun name hn => (h.parts key hk name hn).percent
  · exact Percent.standsFor_self (by simp)

theorem Bare.sentKey_closed {q : Query} (h : q.Bare) :
    concatenate.hasOption (q.keyText .sent).toList = false := by
  unfold keyText
  split
  · next key hk => exact Literal.hasOption_sentKey fun name hn => (h.parts key hk name hn).closed
  · rfl

/-- The set opens no option, so a path opens one if its key does. -/
theorem Bare.hasOption_path {q : Query} (h : q.Bare) (form : Form) :
    concatenate.hasOption (q.path form).toList = concatenate.hasOption (q.keyText form).toList := by
  have head : (q.keyText form).toList.head? ≠ some '$' := fun dollar => by
    cases q.keyText_head form '$' dollar
  rw [path_eq_append h.set.closed, String.toList_append, concatenate.hasOption_append _ head,
    h.set.closed, Bool.false_or]

theorem foldl_open {uri : String} (found : concatenate.hasOption uri.toList = true)
    (pieces : List String) :
    pieces.foldl concatenate.add uri = uri ++ String.join (pieces.map ("&" ++ ·)) := by
  obtain ⟨first, rest, e⟩ := concatenate.hasOption_iff.1 found
  have split : uri.toList = first ++ '?' :: '$' :: rest := by rw [← e]; simp
  simpa using concatenate.foldl_options pieces split

/-! ### The two forms -/

theorem standsFor_writtenIn {option : String × String} (h : option.1 ∈ optionNames) :
    Percent.StandsFor (writtenIn .sent option) (writtenIn .readable option) := by
  have name : '%' ∉ option.1.toList := not_mem_name h (by decide) (by decide)
  exact ((Percent.standsFor_self name).append (Percent.standsFor_self (by decide))).append
    (Percent.standsFor_encode option.2)

theorem standsFor_rear (q : Query) : Percent.StandsFor (q.rear .sent) (q.rear .readable) := by
  unfold rear
  refine .append (Percent.standsFor_self (by split <;> decide)) ?_
  split
  · exact Percent.standsFor_self (by simp)
  · exact .append (Percent.standsFor_self (by decide))
      (.intercalate (by decide) fun option ho => standsFor_writtenIn (name_of_present ho))

theorem Bare.standsFor_path {q : Query} (h : q.Bare) :
    Percent.StandsFor (q.path .sent) (q.path .readable) := by
  rw [path_eq_append h.set.closed, path_eq_append h.set.closed]
  exact (Percent.standsFor_self h.set.percent).append h.standsFor_keyText

/-- The sent URI in plain text. -/
theorem Bare.decode_sent {q : Query} (h : q.Bare) :
    Percent.decode (q.uri .sent) = q.path .readable ++ q.rear .readable := by
  have closed : concatenate.hasOption (q.path .sent).toList = false := by
    rw [h.hasOption_path, h.sentKey_closed]
  rw [uri_eq_foldl, foldl_closed closed]
  exact (h.standsFor_path.append q.standsFor_rear).decode_eq

/-- The readable URI, by whether its key is taken for an opened option. -/
theorem Bare.uri_readable {q : Query} (h : q.Bare) :
    q.uri .readable = q.path .readable ++
      if concatenate.hasOption (q.keyText .readable).toList then
        String.join ((q.behind .readable).map ("&" ++ ·))
      else q.rear .readable := by
  rw [uri_eq_foldl]
  split
  · next found => exact foldl_open (by rw [h.hasOption_path, found]) _
  · next closed =>
    rw [Bool.not_eq_true] at closed
    exact foldl_closed (by rw [h.hasOption_path, closed]) q .readable

/-- Behind an opened option each piece follows an `&`, and the rear starts with none. -/
theorem rear_eq_join_iff (q : Query) :
    q.rear .readable = String.join ((q.behind .readable).map ("&" ++ ·)) ↔
      q.isCount = false ∧ q.present = [] := by
  constructor
  · intro same
    have heads := congrArg (·.toList.head?) same
    unfold rear behind at heads
    by_cases count : q.isCount <;> by_cases options : q.present = [] <;>
      simp [count, options] at heads ⊢
  · rintro ⟨count, options⟩
    simp [rear, behind, count, options]

/-- A sent path is its readable form in code; a sent URI is, unless joining takes the readable
key for an opened option and something follows it. -/
theorem decode_sent_iff {q : Query} (h : q.Bare) :
    Percent.decode (q.path .sent) = q.path .readable ∧
      (Percent.decode (q.uri .sent) = q.uri .readable ↔
        ("?$".toList <:+: (q.keyText .readable).toList → q.isCount = false ∧ q.present = [])) := by
  refine ⟨h.standsFor_path.decode_eq, ?_⟩
  rw [h.decode_sent, h.uri_readable, ← concatenate.hasOption_iff]
  split
  · next found =>
    rw [← rear_eq_join_iff]
    simp [found, String.ext_iff]
  · next closed => simp [closed]

def spelled : Query :=
  { entitySet := some "People?"
    key := some (.parts [("a?b", .text "é'%41 $&"), ("Line", .int 2)])
    properties := some ["A&B=", "%"]
    clauses := [⟨.and, .compare "Note" "=" (.text "?$top=1&x=%41")⟩]
    expansions := ["Trips?$count"]
    skipToken := some "a+b=?$"
    isCount := true }

theorem decode_sent_spelled :
    spelled.Bare ∧
      Percent.decode (spelled.path .sent) = "People?(a?b='é''%41 $&',Line=2)" ∧
      Percent.decode (spelled.uri .sent) = spelled.uri .readable ∧
      spelled.uri .readable = "People?(a?b='é''%41 $&',Line=2)/$count" ++
        "?$filter=Note eq '?$top=1&x=%41'&$expand=Trips?$count&$skiptoken=a+b=?$" := by
  have bare : spelled.Bare := by
    refine ⟨by decide +kernel, fun key hk name hn => ?_⟩
    cases hk
    revert name
    decide +kernel
  obtain ⟨path, uri⟩ := decode_sent_iff bare
  refine ⟨bare, path.trans ?_, uri.2 fun found => ?_, ?_⟩
  · decide +kernel
  · revert found; decide +kernel
  · decide +kernel

/-- A key that reads like an opened option. -/
def questioned : Query :=
  { entitySet := some "People", key := some (.text "a?$b"), skip := some 1 }

theorem questioned_forms_differ :
    questioned.Bare ∧ Percent.decode (questioned.uri .sent) = "People('a?$b')?$skip=1" ∧
      questioned.uri .readable = "People('a?$b')&?&$skip=1" := by
  refine ⟨⟨by decide +kernel, fun key hk name hn => ?_⟩, by decide +kernel, by decide +kernel⟩
  cases hk
  cases hn

end Query

end OData
