import OData.Json.Writer
import OData.Payload
import OData.Proofs.Config.ServiceRoot
import OData.Proofs.RequestUri.Decoding

/-!
# The skip token of a link

A link that was compiled from a query, alone or behind a service root, gives back the token of
the query (`skipToken_sent`). Coded values hold no `&`, `=` or `+`, so the pairs of the link
are the options of the query (`pairs_options`), and of their names one alone counts as that
of a skip token.
-/

namespace OData

open Text

/-! ## The pairs of a link -/

/-- Without a plus sign form coding is percent coding. -/
theorem Url.Form.decode_of_standsFor {coded plain : String} (h : Percent.StandsFor coded plain)
    (plus : '+' ∉ coded.toList) : Url.Form.decode coded.toList = plain.toList := by
  have same : coded.toList.map (fun c => if c = '+' then ' ' else c) = coded.toList := by
    refine List.map_congr_left (g := id) (fun c hc => if_neg ?_) |>.trans (List.map_id _)
    rintro rfl
    exact plus hc
  have read := h.decode_eq
  rw [Percent.decode] at read
  rw [Url.Form.decode, same, ← read, String.toList_ofList]

namespace Query

theorem plus_not_mem_encode (s : String) : '+' ∉ (Percent.encode s).toList := by
  intro hm
  rcases Percent.encode_alphabet hm with plain | e
  · exact ne_of_class plain (by decide) rfl
  · revert e; decide

theorem pair_coded {option : String × String} (h : option.1 ∈ optionNames) :
    Url.Form.pair (coded option).toList = (option.1.toList, option.2.toList) := by
  obtain ⟨before, behind⟩ := cut_at (equals_not_mem_name h) (Percent.encode option.2).toList
  have name := Percent.standsFor_self (not_mem_name h (x := '%') (by decide) (by decide))
  rw [Url.Form.pair, coded_toList, before, behind, List.drop_one, List.tail_cons,
    Url.Form.decode_of_standsFor name (not_mem_name h (by decide) (by decide)),
    Url.Form.decode_of_standsFor (Percent.standsFor_encode _) (plus_not_mem_encode _)]

/-- Form coding reads the options of a query back, none of them empty. -/
theorem pairs_options {options : List (String × String)} (hne : options ≠ [])
    (h : ∀ option ∈ options, option.1 ∈ optionNames) :
    Url.Form.pairs (String.intercalate "&" (options.map coded)).toList =
      options.map fun option => (option.1.toList, option.2.toList) := by
  have parts : ∀ part ∈ (options.map coded).map String.toList, '&' ∉ part ∧ !part.isEmpty := by
    intro part hp
    rw [List.map_map] at hp
    obtain ⟨option, ho, rfl⟩ := List.mem_map.1 hp
    obtain ⟨rest, dollar⟩ := coded_chars (h option ho)
    exact ⟨fun hm => (coded_alphabet (h option ho) _ hm).2 rfl, by simp [dollar]⟩
  rw [Url.Form.pairs, String.toList_intercalate, show "&".toList = ['&'] from rfl,
    List.splitOn_intercalate _ (fun part hp => (parts part hp).1) (by simpa using hne),
    List.filter_eq_self.2 fun part hp => (parts part hp).2, List.map_map, List.map_map]
  exact List.map_congr_left fun option ho => pair_coded (h option ho)

/-! ## The token -/

theorem isSkipTokenName_iff {name : String} (h : name ∈ optionNames) :
    Payload.isSkipTokenName name.toList ↔ name = "$skiptoken" := by
  have all : ∀ name ∈ optionNames,
      Payload.isSkipTokenName name.toList ↔ name = "$skiptoken" := by decide
  exact all name h

theorem token_mem_present {q : Query} {token : String} :
    ("$skiptoken", token) ∈ q.present ↔ q.skipToken = some token := by
  rw [present, List.mem_filterMap]
  constructor
  · rintro ⟨slot, hs, e⟩
    obtain rfl : slot = some ("$skiptoken", token) := e
    simp only [slots, List.mem_cons, List.not_mem_nil, or_false] at hs
    rcases hs with h | h | h | h | h | h | h | h
    · split at h
      · cases h
      · split at h <;> simp at h
    · split at h <;> simp at h
    · split at h <;> simp at h
    · split at h
      · simp at h
      · split at h <;> simp at h
    · simp at h
    · obtain ⟨_, found, same⟩ := Option.map_eq_some_iff.1 h.symm
      cases same
      exact found
    · split at h
      · cases h
      · simp at h
    · split at h <;> simp at h
  · intro h
    exact ⟨some ("$skiptoken", token), by simp [slots, h], rfl⟩

end Query

namespace Payload

theorem skipTokenOf_append {base : String} (h : '?' ∉ base.toList) (link : String) :
    skipTokenOf (base ++ link) = skipTokenOf link := by
  have front : ∀ c ∈ base.toList, (c != '?') = true := fun c hc => by
    rw [bne_iff_ne]
    rintro rfl
    exact h hc
  rw [skipTokenOf, String.toList_append, List.dropWhile_append_of_pos front]
  rfl

theorem skipTokenOf_eq (link : String) :
    skipTokenOf link = (Query.behindMark? link).bind fun rest =>
      ((Url.Form.pairs rest).find? (isSkipTokenName ·.1)).map fun p => String.ofList p.2 := by
  unfold skipTokenOf Query.behindMark?
  cases link.toList.dropWhile (· != '?') <;> rfl

/-- The one option of a query that counts as a skip token is its own. -/
theorem find_token (q : Query) :
    q.present.find? (isSkipTokenName ·.1.toList) = q.skipToken.map ("$skiptoken", ·) := by
  cases found : q.present.find? (isSkipTokenName ·.1.toList) with
  | none =>
    cases token : q.skipToken with
    | none => rfl
    | some t =>
      have named : isSkipTokenName "$skiptoken".toList := by decide
      exact absurd named (List.find?_eq_none.1 found _ (Query.token_mem_present.2 token))
  | some option =>
    have listed := List.mem_of_find?_eq_some found
    have named := List.find?_some found
    obtain ⟨name, value⟩ := option
    obtain rfl := (Query.isSkipTokenName_iff (Query.name_of_present listed)).1 named
    rw [Query.token_mem_present.1 listed, Option.map_some]

theorem skipTokenOf_sent {q : Query} (h : q.Unmarked) :
    skipTokenOf (q.uri .sent) = q.skipToken := by
  have own := find_token q
  rw [skipTokenOf_eq, (Query.marks_uri h).2]
  split
  · next none =>
    rw [none, List.find?_nil] at own
    exact (Option.map_eq_none_iff.1 own.symm).symm
  · next some =>
    rw [Option.bind_some, Query.pairs_options some fun _ => Query.name_of_present, List.find?_map,
      Option.map_map]
    calc (q.present.find? (isSkipTokenName ·.1.toList)).map (fun o => String.ofList o.2.toList)
        = (q.skipToken.map ("$skiptoken", ·)).map fun o => String.ofList o.2.toList := by rw [own]
      _ = q.skipToken := by cases q.skipToken <;> simp

/-- A link that is a compiled query, alone or behind a text that has no mark of its own, as no
service root has one, carries the token of the query. -/
theorem skipToken_sent {q : Query} (h : q.Unmarked) {p : Payload} :
    (∀ base, '?' ∉ base.toList → p.nextLink = some (base ++ q.uri .sent) →
        p.skipToken = q.skipToken) ∧
      (∀ (config : Config) root, config.serviceRoot = .ok root →
        p.nextLink = some (root.text ++ q.uri .sent) → p.skipToken = q.skipToken) := by
  have carried (base : String) (plain : '?' ∉ base.toList)
      (link : p.nextLink = some (base ++ q.uri .sent)) : p.skipToken = q.skipToken := by
    rw [skipToken, link, Option.bind_some, skipTokenOf_append plain, skipTokenOf_sent h]
  exact ⟨carried, fun config root found =>
    carried root.text fun mark => (serviceRoot_markless found _ mark).1 rfl⟩

/-- A token and other options that all read like a skip token. -/
def tokened : Query :=
  { entitySet := some "Orders"
    key := some (.text "?$skiptoken=1")
    clauses := [⟨.and, .compare "Note" "=" (.text "&$skiptoken=2")⟩]
    rawOrder := some "skipToken=3"
    skipToken := some "a+b&$skiptoken=%41# é" }

def linkPage (link : String) : Payload :=
  let body : Json := .obj [("@odata.nextLink", .str link)]
  { items := itemsOf body, nextLink := nextLinkOf body, body, rawBody := body.text, status := .ok,
    headers := .empty }

theorem skipToken_sent_tokened :
    tokened.Unmarked ∧
      ∃ root, ({ baseUrl := "https://svc/odata?a=b" } : Config).serviceRoot = .ok root ∧
        root.text = "https://svc/odata/" ∧
        (linkPage (root.text ++ tokened.uri .sent)).nextLink =
          some (root.text ++ tokened.uri .sent) ∧
        (linkPage (root.text ++ tokened.uri .sent)).skipToken =
          some "a+b&$skiptoken=%41# é" := by
  have unmarked : tokened.Unmarked := by
    refine ⟨by decide, fun key hk name hn => ?_⟩
    cases hk
    cases hn
  have text : ({ baseUrl := "https://svc/odata?a=b" } : Config).serviceRoot.toOption.map Url.text =
      some "https://svc/odata/" := by decide +kernel
  cases found : ({ baseUrl := "https://svc/odata?a=b" } : Config).serviceRoot with
  | error e => rw [found] at text; cases text
  | ok root =>
    rw [found] at text
    exact ⟨unmarked, root, rfl, Option.some.inj text, rfl,
      (skipToken_sent unmarked).2 _ root found rfl⟩

end Payload

end OData
