import OData.Proofs.Literal.Key

/-!
# The wire form decodes to the options

In either form a URI is its path with the pieces behind it added one by one (`uri_eq_foldl`).
A sent URI is the path, `/$count` for a count, and behind a `?` the options with their
values coded, joined by `&`. A reader that cuts at these marks and decodes the values gets
the options that the query has (`present`), whatever their values hold.
-/

namespace OData

open Text

/-! ## Joining segments -/

def concatenate.add (uri segment : String) : String :=
  if hasOption uri.toList then uri ++ "&" ++ segment else uri ++ segment

theorem concatenate_eq_foldl (segments : List String) :
    concatenate segments = (segments.filter (· != "")).foldl concatenate.add "" := rfl

namespace concatenate

theorem hasOption_cons (c : Char) (cs : List Char) :
    hasOption (c :: cs) = (c == '?' && cs.head? == some '$' || hasOption cs) := by
  rw [hasOption.eq_def (c :: cs)]
  split
  · next e => cases e; rfl
  · next first e =>
    cases e
    have other : (c == '?' && cs.head? == some '$') = false := by
      rw [Bool.eq_false_iff, ne_eq, Bool.and_eq_true, beq_iff_eq, beq_iff_eq]
      rintro ⟨rfl, dollar⟩
      obtain ⟨rest, rfl⟩ := List.head?_eq_some_iff.1 dollar
      exact first rest rfl rfl
    rw [other, Bool.false_or]
  · next e => cases e

theorem hasOption_plain {cs : List Char} (h : '?' ∉ cs) : hasOption cs = false := by
  induction cs with
  | nil => rfl
  | cons c cs ih =>
    simp only [List.mem_cons, not_or] at h
    rw [hasOption_cons, ih h.2, beq_eq_false_iff_ne.2 (Ne.symm h.1)]
    rfl

/-- A text that does not start with a dollar opens no option at the joint. -/
theorem hasOption_append (as : List Char) {bs : List Char} (h : bs.head? ≠ some '$') :
    hasOption (as ++ bs) = (hasOption as || hasOption bs) := by
  induction as with
  | nil => rfl
  | cons a as ih =>
    have joint : ((as ++ bs).head? == some '$') = (as.head? == some '$') := by
      cases as with
      | nil => exact beq_eq_false_iff_ne.2 h
      | cons a' as => rfl
    rw [List.cons_append, hasOption_cons, joint, ih, hasOption_cons, Bool.or_assoc]

theorem hasOption_mark {cs : List Char} (h : hasOption cs = false) :
    hasOption (cs ++ ['?']) = false := by
  rw [hasOption_append cs (by decide), h]
  rfl

theorem hasOption_option (cs rest : List Char) : hasOption (cs ++ '?' :: '$' :: rest) = true := by
  induction cs with
  | nil => rfl
  | cons c cs ih => rw [List.cons_append, hasOption_cons, ih, Bool.or_true]

theorem hasOption_iff {cs : List Char} : hasOption cs = true ↔ "?$".toList <:+: cs := by
  rw [show "?$".toList = ['?', '$'] from rfl]
  induction cs with
  | nil => simp [hasOption]
  | cons c cs ih =>
    rw [hasOption_cons, Bool.or_eq_true, ih, List.infix_cons_iff, List.cons_prefix_cons,
      Bool.and_eq_true, beq_iff_eq, beq_iff_eq, eq_comm]
    refine or_congr_left (and_congr_right fun _ => ?_)
    cases cs <;> simp [eq_comm]

theorem add_of_hasOption {uri : String} (h : hasOption uri.toList = true) (s : String) :
    add uri s = uri ++ "&" ++ s := by
  rw [add, if_pos h]

theorem add_of_not_hasOption {uri : String} (h : hasOption uri.toList = false) (s : String) :
    add uri s = uri ++ s := by
  rw [add, if_neg (by simp [h])]

/-- Once there is an option, each segment follows an `&`. -/
theorem foldl_options {first : List Char} (segments : List String) :
    ∀ {uri rest : List Char}, uri = first ++ '?' :: '$' :: rest →
      segments.foldl add (String.ofList uri) =
        String.ofList uri ++ String.join (segments.map ("&" ++ ·)) := by
  induction segments with
  | nil => intro uri rest _; simp
  | cons s segments ih =>
    intro uri rest hu
    have option : hasOption (String.ofList uri).toList = true := by
      rw [String.toList_ofList, hu, hasOption_option]
    have next : String.ofList uri ++ "&" ++ s = String.ofList (uri ++ '&' :: s.toList) :=
      String.toList_injective (by simp)
    have longer : uri ++ '&' :: s.toList = first ++ '?' :: '$' :: (rest ++ '&' :: s.toList) := by
      rw [hu, List.append_assoc, List.cons_append, List.cons_append]
    rw [List.foldl_cons, add_of_hasOption option, next, ih longer, ← next]
    simp [String.append_assoc]

theorem intercalate_amp (piece : String) (more : List String) :
    String.intercalate "&" (piece :: more) = piece ++ String.join (more.map ("&" ++ ·)) := by
  induction more generalizing piece with
  | nil => simp
  | cons next more ih =>
    rw [String.intercalate_cons_cons, ih]
    simp [String.append_assoc]

/-- The mark and the first option behind a text in which none has been opened. -/
theorem foldl_opening {uri piece : String} {rest : List Char}
    (closed : hasOption uri.toList = false) (dollar : piece.toList = '$' :: rest)
    (more : List String) :
    ("?" :: piece :: more).foldl add uri =
      uri ++ ("?" ++ String.intercalate "&" (piece :: more)) := by
  have marked : hasOption (uri ++ "?").toList = false := by
    rw [String.toList_append]
    exact hasOption_mark closed
  have opened : uri ++ "?" ++ piece = String.ofList (uri.toList ++ '?' :: '$' :: rest) := by
    refine String.toList_injective ?_
    rw [String.toList_append, String.toList_append, String.toList_ofList, dollar]
    simp
  rw [List.foldl_cons, List.foldl_cons, add_of_not_hasOption closed,
    add_of_not_hasOption marked, opened, foldl_options _ rfl, ← opened, intercalate_amp]
  simp [String.append_assoc]

end concatenate

namespace Query

/-! ## The options of a query -/

/-- One place for each option, in the order in which they are sent. -/
def slots (q : Query) : List (Option (String × String)) :=
  [if q.isCount then none else
      match q.properties with
      | some (p :: ps) => some ("$select", String.intercalate "," (p :: ps))
      | _ => none,
    if Filter.ofQuery q = "" then none else some ("$filter", Filter.ofQuery q),
    if q.expansions = [] then none else some ("$expand", String.intercalate "," q.expansions),
    match q.rawOrder with
    | some raw => some ("$orderby", raw)
    | none =>
      if q.orders = [] then none
      else some ("$orderby",
        String.intercalate "," (q.orders.map fun k => k.column ++ " " ++ k.direction.word)),
    q.skip.map fun n => ("$skip", toString n),
    q.skipToken.map fun token => ("$skiptoken", token),
    if q.hasKey then none else q.take.map fun n => ("$top", toString n),
    if q.wantsTotal && !q.hasKey then some ("$count", "true") else none]

/-- The options that a query has, with the values they stand for. -/
def present (q : Query) : List (String × String) := q.slots.filterMap id

def optionNames : List String :=
  ["$select", "$filter", "$expand", "$orderby", "$skip", "$skiptoken", "$top", "$count"]

/-- An option as it is written before coding; nothing for an absent one. -/
def written : Option (String × String) → String
  | some (name, value) => name ++ "=" ++ value
  | none => ""

def coded (option : String × String) : String := option.1 ++ "=" ++ Percent.encode option.2

theorem options_eq_slots (q : Query) : q.options = q.slots.map written := by
  simp only [options, slots, List.map_cons, List.map_nil, List.cons.injEq, and_true]
  refine ⟨?_, ?_, ?_, ?_, ?_, ?_, ?_, ?_⟩
  · unfold selectOption
    split
    · rfl
    · rcases q.properties with _ | _ | ⟨p, ps⟩ <;> rfl
  · unfold filterOption
    dsimp only
    split <;> rfl
  · unfold expandOption
    simp only [List.isEmpty_iff]
    split <;> rfl
  · unfold orderOption
    simp only [List.isEmpty_iff]
    rcases q.rawOrder with _ | raw
    · dsimp only
      split <;> rfl
    · rfl
  · unfold skipOption
    cases q.skip <;> rfl
  · unfold skipTokenOption
    cases q.skipToken <;> rfl
  · unfold topOption
    split
    · rfl
    · cases q.take <;> rfl
  · unfold totalOption
    split <;> rfl

theorem name_of_slots {q : Query} {option : String × String} (h : some option ∈ q.slots) :
    option.1 ∈ optionNames := by
  obtain ⟨name, value⟩ := option
  simp only [slots, List.mem_cons, List.not_mem_nil, or_false] at h
  rcases h with h | h | h | h | h | h | h | h
  · split at h
    · cases h
    · split at h <;> cases h; simp [optionNames]
  · split at h <;> cases h; simp [optionNames]
  · split at h <;> cases h; simp [optionNames]
  · split at h
    · cases h; simp [optionNames]
    · split at h <;> cases h; simp [optionNames]
  · obtain ⟨_, -, e⟩ := Option.map_eq_some_iff.1 h.symm
    cases e; simp [optionNames]
  · obtain ⟨_, -, e⟩ := Option.map_eq_some_iff.1 h.symm
    cases e; simp [optionNames]
  · split at h
    · cases h
    · obtain ⟨_, -, e⟩ := Option.map_eq_some_iff.1 h.symm
      cases e; simp [optionNames]
  · split at h <;> cases h; simp [optionNames]

theorem name_of_present {q : Query} {option : String × String} (h : option ∈ q.present) :
    option.1 ∈ optionNames := by
  obtain ⟨slot, hs, e⟩ := List.mem_filterMap.1 h
  obtain rfl : slot = some option := e
  exact name_of_slots hs

/-! ## Coded options -/

theorem chars_of_name {name : String} (h : name ∈ optionNames) :
    ∀ c ∈ name.toList, c ≠ '=' ∧ (Percent.isUnreserved c ∨ c = '$') := by
  have all : ∀ name ∈ optionNames,
      name.toList.all fun c => c != '=' && (Percent.isUnreserved c || c == '$') := by
    decide
  intro c hc
  simpa using List.all_eq_true.1 (all name h) c hc

/-- A text cut at the first of its marks. -/
theorem cut_at {x : Char} {cs : List Char} (h : x ∉ cs) (rest : List Char) :
    (cs ++ x :: rest).takeWhile (· != x) = cs ∧
      (cs ++ x :: rest).dropWhile (· != x) = x :: rest := by
  have keeps : ∀ c ∈ cs, (c != x) = true := fun c hc => by
    rw [bne_iff_ne]
    rintro rfl
    exact h hc
  constructor
  · rw [List.takeWhile_append_of_pos keeps, List.takeWhile_cons_of_neg (by simp),
      List.append_nil]
  · rw [List.dropWhile_append_of_pos keeps, List.dropWhile_cons_of_neg (by simp)]

theorem equals_not_mem_name {name : String} (h : name ∈ optionNames) : '=' ∉ name.toList :=
  fun hm => (chars_of_name h _ hm).1 rfl

/-- A reserved character other than the dollar is in no name. -/
theorem not_mem_name {name : String} (h : name ∈ optionNames) {x : Char}
    (reserved : Percent.isUnreserved x = false) (other : x ≠ '$') : x ∉ name.toList := by
  intro hm
  rcases (chars_of_name h x hm).2 with plain | dollar
  · rw [reserved] at plain
    cases plain
  · exact other dollar

theorem encodeOption_written {name : String} (h : name ∈ optionNames) (value : String) :
    encodeOption (written (some (name, value))) = coded (name, value) := by
  have chars : (written (some (name, value))).toList = name.toList ++ '=' :: value.toList := by
    simp [written]
  obtain ⟨before, behind⟩ := cut_at (equals_not_mem_name h) value.toList
  unfold encodeOption
  simp only [chars, before, behind, String.ofList_toList]
  rfl

theorem coded_ne_empty (option : String × String) : coded option ≠ "" := by
  intro e
  have chars := congrArg String.toList e
  simp [coded] at chars

/-- What is written of a list of slots, if an absent option and no other is written as nothing. -/
theorem filter_slots {text : Option (String × String) → String}
    {present : String × String → String}
    (absent : text none = "") (nonempty : ∀ option, present option ≠ "")
    {slots : List (Option (String × String))}
    (h : ∀ option, some option ∈ slots → text (some option) = present option) :
    (slots.map text).filter (· != "") = (slots.filterMap id).map present := by
  induction slots with
  | nil => rfl
  | cons slot slots ih =>
    have later := ih fun option ho => h option (List.mem_cons_of_mem _ ho)
    cases slot with
    | none =>
      rw [List.map_cons, List.filter_cons_of_neg (by simp [absent]), later]
      rfl
    | some option =>
      rw [List.map_cons, h option List.mem_cons_self,
        List.filter_cons_of_pos (by simpa using nonempty option), later]
      rfl

theorem filter_options (q : Query) :
    q.options.filter (· != "") = q.present.map fun option => written (some option) := by
  rw [options_eq_slots]
  refine filter_slots rfl (fun option e => ?_) fun _ _ => rfl
  simpa [written] using congrArg String.toList e

theorem filter_sentOptions (q : Query) :
    (q.options.map encodeOption).filter (· != "") = q.present.map coded := by
  rw [options_eq_slots, List.map_map]
  exact filter_slots (by decide) coded_ne_empty fun option ho =>
    encodeOption_written (name_of_slots ho) option.2

/-! ## Either form -/

/-- A key is written in parentheses. -/
theorem keyText_head (q : Query) (form : Literal.Form) :
    ∀ c ∈ (q.keyText form).toList.head?, c = '(' := by
  unfold Query.keyText
  cases q.key with
  | none => simp
  | some key => cases key <;> simp [Literal.ofKey]

theorem path_eq_append {q : Query} (closed : concatenate.hasOption q.setText.toList = false)
    (form : Literal.Form) : q.path form = q.setText ++ q.keyText form := by
  rw [path, concatenate_eq_foldl]
  by_cases set : q.setText = "" <;> by_cases key : q.keyText form = "" <;>
    simp [set, key, concatenate.add, concatenate.hasOption, closed]

theorem dollar_of_name {name : String} (h : name ∈ optionNames) :
    ∃ rest, name.toList = '$' :: rest := by
  have dollar : ∀ name ∈ optionNames, name.toList.head? = some '$' := by decide
  exact List.head?_eq_some_iff.1 (dollar name h)

theorem coded_chars {option : String × String} (h : option.1 ∈ optionNames) :
    ∃ rest, (coded option).toList = '$' :: rest := by
  obtain ⟨rest, e⟩ := dollar_of_name h
  exact ⟨rest ++ '=' :: (Percent.encode option.2).toList, by simp [coded, e]⟩

theorem any_nonempty (texts : List String) :
    texts.any (· != "") = !(texts.filter (· != "")).isEmpty := by
  rw [Bool.eq_iff_iff]
  simp

def writtenIn : Literal.Form → String × String → String
  | .readable, option => written (some option)
  | .sent, option => coded option

def behind (form : Literal.Form) (q : Query) : List String :=
  (if q.isCount then ["/$count"] else []) ++
    if q.present = [] then [] else "?" :: q.present.map (writtenIn form)

/-- What follows a path in which no option is opened. -/
def rear (form : Literal.Form) (q : Query) : String :=
  (if q.isCount then "/$count" else "") ++
    if q.present = [] then "" else "?" ++ String.intercalate "&" (q.present.map (writtenIn form))

/-- Segments of a path, then the pieces that are not absent. -/
theorem concatenate_pieces {options texts : List String} (h : options.filter (· != "") = texts)
    (set key : String) (count : Bool) :
    concatenate ([set, key, if count then "/$count" else "",
        if options.any (· != "") then "?" else ""] ++ options) =
      ((if count then ["/$count"] else []) ++ if texts = [] then [] else "?" :: texts).foldl
        concatenate.add (concatenate [set, key]) := by
  have count_pieces : (if count then ["/$count"] else []) =
      [if count then "/$count" else ""].filter (· != "") := by cases count <;> decide
  have marked : (if texts = [] then [] else "?" :: texts) =
      [if options.any (· != "") then "?" else ""].filter (· != "") ++ texts := by
    rw [any_nonempty, h]
    cases texts <;> rfl
  rw [count_pieces, marked, ← h, ← List.append_assoc, ← List.filter_append, ← List.filter_append,
    concatenate_eq_foldl, concatenate_eq_foldl, ← List.foldl_append, ← List.filter_append]
  rfl

theorem uri_eq_foldl (q : Query) (form : Literal.Form) :
    q.uri form = (q.behind form).foldl concatenate.add (q.path form) := by
  have pieces (texts : List String) (h : q.present.map (writtenIn form) = texts) :
      q.behind form = (if q.isCount then ["/$count"] else []) ++
        if texts = [] then [] else "?" :: texts := by
    simp [behind, ← h]
  rw [pieces _ rfl]
  cases form with
  | readable => exact concatenate_pieces q.filter_options _ _ _
  | sent => exact concatenate_pieces q.filter_sentOptions _ _ _

theorem dollar_of_writtenIn (form : Literal.Form) {option : String × String}
    (h : option.1 ∈ optionNames) : ∃ rest, (writtenIn form option).toList = '$' :: rest := by
  cases form with
  | readable =>
    obtain ⟨rest, e⟩ := dollar_of_name h
    exact ⟨rest ++ '=' :: option.2.toList, by simp [writtenIn, written, e]⟩
  | sent => exact coded_chars h

theorem foldl_closed {uri : String} (closed : concatenate.hasOption uri.toList = false)
    (q : Query) (form : Literal.Form) :
    (q.behind form).foldl concatenate.add uri = uri ++ q.rear form := by
  have counted : (if q.isCount then ["/$count"] else []).foldl concatenate.add uri =
        uri ++ (if q.isCount then "/$count" else "") ∧
      concatenate.hasOption (uri ++ if q.isCount then "/$count" else "").toList = false := by
    split
    · rw [List.foldl_cons, List.foldl_nil, concatenate.add_of_not_hasOption closed,
        String.toList_append, concatenate.hasOption_append _ (by decide), closed]
      exact ⟨rfl, by decide⟩
    · simpa using closed
  rw [behind, rear, List.foldl_append, counted.1, ← String.append_assoc]
  cases options : q.present with
  | nil => simp
  | cons option more =>
    have name := name_of_present (q := q) (by rw [options]; exact List.mem_cons_self)
    obtain ⟨rest, dollar⟩ := dollar_of_writtenIn form name
    rw [if_neg (List.cons_ne_nil _ _), if_neg (List.cons_ne_nil _ _), List.map_cons,
      concatenate.foldl_opening counted.2 dollar]

/-! ## The sent URI -/

/-- Neither the set nor a name in the key has a question mark. -/
structure Unmarked (q : Query) : Prop where
  set : '?' ∉ q.setText.toList
  parts : ∀ key, q.key = some key → ∀ name ∈ Literal.partNames key, '?' ∉ name.toList

theorem Unmarked.keyText {q : Query} (h : q.Unmarked) : '?' ∉ (q.keyText .sent).toList := by
  unfold Query.keyText
  split
  · next key hk =>
    intro hm
    rcases Literal.ofKey_alphabet key _ hm with mark | ⟨name, hn, mark⟩
    · revert mark; decide
    · exact h.parts key hk name hn mark
  · simp

def target (q : Query) : String := q.path .sent ++ if q.isCount then "/$count" else ""

theorem path_sent {q : Query} (h : q.Unmarked) : q.path .sent = q.setText ++ q.keyText .sent :=
  path_eq_append (concatenate.hasOption_plain h.set) .sent

theorem target_unmarked {q : Query} (h : q.Unmarked) : '?' ∉ q.target.toList := by
  rw [target, path_sent h, String.toList_append, String.toList_append]
  simp only [List.mem_append, not_or]
  refine ⟨⟨h.set, h.keyText⟩, ?_⟩
  split <;> decide

def queryText (q : Query) : String :=
  if q.present = [] then "" else "?" ++ String.intercalate "&" (q.present.map coded)

theorem uri_sent {q : Query} (h : q.Unmarked) : q.uri .sent = q.target ++ q.queryText := by
  have plain : '?' ∉ (q.path .sent).toList := by
    rw [path_sent h, String.toList_append, List.mem_append]
    exact not_or.2 ⟨h.set, h.keyText⟩
  rw [uri_eq_foldl, foldl_closed (concatenate.hasOption_plain plain), rear, target, queryText,
    String.append_assoc]
  rfl

end Query

end OData
