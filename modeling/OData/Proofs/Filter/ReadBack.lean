import OData.Proofs.Filter.Rendering
import OData.Proofs.Filter.Tokens

/-!
# Filters read back

Whatever the values are, the punctuation of a filter says what it was made of. Cut at
the connectors outside literals and parentheses it falls into its conditions; a group
holds the filter of its child; the list of a membership test holds its literals
(`Query.ReadsBack`). Asked of the query is only that names are words and operators are
known ones (`Query.isReadable`); raw texts are excluded, as they may hold anything.
-/

namespace OData

open Text

/-! ## Readable queries -/

/-- A name of letters, digits, underscores and slashes that is no connector. -/
def isName (s : String) : Bool :=
  s != "" && s.toList.all (fun c => isWordChar c || c == '/') && s != "and" && s != "or"

mutual

def Condition.isReadable : Condition → Bool
  | .compare column op _ => isName column && Operator.isKnown op
  | .function name column _ => isName name && isName column
  | .columns first op second => isName first && Operator.isKnown op && isName second
  | .raw _ => false
  | .isNull column _ => isName column
  | .isIn column _ _ => isName column
  | .group q => q.isReadable

def clausesReadable : List Clause → Bool
  | [] => true
  | ⟨_, c⟩ :: rest => c.isReadable && clausesReadable rest

/-- No raw text, names that are words and operators that are known, at every depth. -/
def Query.isReadable : Query → Bool
  | ⟨_, _, _, clauses, _, _, _, _, _, _, _, _, _⟩ => clausesReadable clauses

end

/-- The query itself, or the query of a group within it. -/
inductive Query.Within (d : Query) : Query → Prop
  | self : Within d d
  | group {q child : Query} {k : Connector} : ⟨k, .group child⟩ ∈ q.clauses → Within d child →
      Within d q

theorem readable_of_mem {k : Connector} {c : Condition} :
    ∀ {clauses : List Clause}, clausesReadable clauses → ⟨k, c⟩ ∈ clauses → c.isReadable
  | ⟨_, _⟩ :: _, h, hm => by
    rw [clausesReadable, Bool.and_eq_true] at h
    rcases List.mem_cons.1 hm with e | hm
    · cases e; exact h.1
    · exact readable_of_mem h.2 hm

theorem Query.isReadable_eq (q : Query) : q.isReadable = clausesReadable q.clauses := by
  cases q; rfl

theorem Query.Within.isReadable {d q : Query} (h : d.Within q) (hq : q.isReadable) :
    d.isReadable := by
  induction h with
  | self => exact hq
  | group hm _ ih =>
    rw [Query.isReadable_eq] at hq
    have := readable_of_mem hq hm
    rw [Condition.isReadable] at this
    exact ih this

namespace Filter

theorem word_of_isName {s : String} (h : isName s) : Word s.toList := by
  simp only [isName, Bool.and_eq_true, bne_iff_ne, List.all_eq_true] at h
  obtain ⟨⟨⟨-, chars⟩, hand⟩, hor⟩ := h
  constructor
  · intro c hc
    have word := chars c hc
    have named : (isWordChar c || c == '/') = true := by simpa using word
    exact ⟨isPlain_of_class (p := fun c => isWordChar c || c == '/') named (by decide),
      ne_of_class (p := fun c => isWordChar c || c == '/') named (by decide)⟩
  · intro k
    cases k with
    | and => exact fun e => hand (String.toList_injective e)
    | or => exact fun e => hor (String.toList_injective e)

theorem isName_plain {s : String} (h : isName s) : ∀ c ∈ s.toList, isPlain c := fun c hc =>
  ((word_of_isName h).1 c hc).1

/-! ## Conditions are solid -/

theorem toList_valueList (vs : List Value) :
    (valueList vs).toList = [','].intercalate (vs.map fun v => (Literal.ofValue v).toList) := by
  rw [valueList, String.toList_intercalate, List.map_map]
  rfl

theorem balanced_commas {ts : List (List Char)} (h : ∀ t ∈ ts, Balanced t) :
    Balanced ([','].intercalate ts) := by
  induction ts with
  | nil => exact .nil
  | cons t ts ih =>
    obtain ⟨ht, hts⟩ := List.forall_mem_cons.1 h
    cases ts with
    | nil => rwa [List.intercalate_singleton]
    | cons t' ts =>
      rw [List.intercalate_cons_cons, List.append_assoc]
      exact ht.append (.plain (by decide) (ih hts))

theorem balanced_valueList (vs : List Value) : Balanced (valueList vs).toList := by
  rw [toList_valueList]
  refine balanced_commas fun t ht => ?_
  obtain ⟨v, -, rfl⟩ := List.mem_map.1 ht
  exact (operand_literal v).balanced

theorem solid_compare {column op : String} {operand : List Char} (hc : isName column)
    (ho : Operator.isKnown op) (h : Solid (' ' :: operand)) :
    Solid (column.toList ++ ' ' :: ((Operator.keyword op).toList ++ ' ' :: operand)) :=
  solid_append (word_of_isName hc).1 (solid_operator ho h)

theorem solid_call {name column : String} (hn : isName name) (hc : isName column) (v : Value) :
    Solid (name ++ "(" ++ column ++ "," ++ Literal.ofValue v ++ ")").toList := by
  have arguments : Balanced (column.toList ++ ',' :: (Literal.ofValue v).toList) :=
    (balanced_plain (isName_plain hc)).append (.plain (by decide) (operand_literal v).balanced)
  have solid := solid_append (word_of_isName hn).1 (.group arguments .nil)
  simpa using solid

theorem solid_null {column : String} (hc : isName column) (negated : Bool) :
    Solid (column ++ (if negated then " ne null" else " eq null")).toList := by
  have null : Solid (' ' :: "null".toList) := solid_lastWord (word_of_isName (by decide))
  cases negated with
  | false =>
    have solid := solid_append (word_of_isName hc).1
      (solid_word (word_of_isName (s := "eq") (by decide)) null)
    simpa using solid
  | true =>
    have solid := solid_append (word_of_isName hc).1
      (solid_word (word_of_isName (s := "ne") (by decide)) null)
    simpa using solid

theorem solid_membership {column : String} (hc : isName column) (vs : List Value) :
    Solid (column ++ " in (" ++ valueList vs ++ ")").toList := by
  have list : Solid (' ' :: '(' :: ((valueList vs).toList ++ [')'])) := by
    refine .space ?_ (.group (balanced_valueList vs) .nil)
    intro k same
    have opening : '(' ∈ k.word.toList := by rw [← same]; simp [firstWord]
    cases k <;> revert opening <;> decide
  have solid := solid_append (word_of_isName hc).1
    (solid_word (word_of_isName (s := "in") (by decide)) list)
  simpa using solid

theorem balanced_assemble {ps : List Piece} (h : ∀ p ∈ ps, Solid p.text.toList) :
    Balanced (assemble ps).toList := by
  have later : ∀ ps : List Piece, (∀ p ∈ ps, Solid p.text.toList) →
      Balanced (String.join (ps.map fun p => " " ++ p.joined)).toList := by
    intro ps h
    induction ps with
    | nil => exact .nil
    | cons p ps ih =>
      obtain ⟨hp, hps⟩ := List.forall_mem_cons.1 h
      have connector : Balanced (" " ++ p.connector.word ++ " ").toList := by
        refine balanced_plain ?_
        cases p.connector <;> exact List.all_eq_true.1 (by decide)
      simpa [Piece.joined] using (connector.append hp.balanced).append (ih hps)
  cases ps with
  | nil => exact .nil
  | cons p ps =>
    obtain ⟨hp, hps⟩ := List.forall_mem_cons.1 h
    rw [assemble, String.toList_append]
    exact hp.balanced.append (later ps hps)

mutual

theorem solid_conditionText :
    ∀ c : Condition, c.isReadable → ∀ t, conditionText c = some t → Solid t.toList
  | .compare column op v, h, t, ht => by
    rw [Condition.isReadable, Bool.and_eq_true] at h
    cases ht
    simpa using solid_compare h.1 h.2 (solid_literal v)
  | .function name column v, h, t, ht => by
    rw [Condition.isReadable, Bool.and_eq_true] at h
    cases ht
    exact solid_call h.1 h.2 v
  | .columns first op second, h, t, ht => by
    rw [Condition.isReadable, Bool.and_eq_true, Bool.and_eq_true] at h
    cases ht
    simpa using solid_compare h.1.1 h.1.2 (solid_lastWord (word_of_isName h.2))
  | .raw _, h, _, _ => absurd h Bool.false_ne_true
  | .isNull column negated, h, t, ht => by
    cases ht
    exact solid_null h negated
  | .isIn column vs negated, h, t, ht => by
    have inner := solid_membership h vs
    cases negated with
    | false => cases ht; exact inner
    | true =>
      cases ht
      have solid := solid_append (word_of_isName (s := "not") (by decide)).1
        (.group inner.balanced .nil)
      simpa using solid
  | .group q, h, t, ht => by
    have child := balanced_ofQuery q h
    by_cases empty : ofQuery q = ""
    · simp [conditionText, empty] at ht
    · obtain rfl : "(" ++ ofQuery q ++ ")" = t := by simpa [conditionText, empty] using ht
      simpa using Solid.group child .nil

theorem solid_pieces :
    ∀ clauses : List Clause, clausesReadable clauses → ∀ p ∈ pieces clauses, Solid p.text.toList
  | [], _, _, hp => by cases hp
  | ⟨k, c⟩ :: rest, h, p, hp => by
    rw [clausesReadable, Bool.and_eq_true] at h
    have later := solid_pieces rest h.2
    rw [pieces_cons] at hp
    cases written : conditionText c with
    | none => rw [written] at hp; exact later p hp
    | some t =>
      rw [written] at hp
      rcases List.mem_cons.1 hp with rfl | hp
      · exact solid_conditionText c h.1 t written
      · exact later p hp

theorem balanced_ofQuery : ∀ q : Query, q.isReadable → Balanced (ofQuery q).toList
  | ⟨_, _, _, clauses, _, _, _, _, _, _, _, _, _⟩, h => by
    rw [ofQuery_eq_assemble]
    exact balanced_assemble (solid_pieces clauses h)

end

/-! ## Cutting a filter -/

/-- The first text, then the later ones with their connectors. -/
def listing : List Piece → List Char × List (Connector × List Char)
  | [] => ([], [])
  | p :: ps => (p.text.toList, ps.map fun p => (p.connector, p.text.toList))

/-- What follows a piece starts with a space. -/
theorem ends_later (ps : List Piece) :
    Ends (String.join (ps.map fun p => " " ++ p.joined)).toList := by
  cases ps <;> simp [Ends, firstWord]

theorem split_later {ps : List Piece} (h : ∀ p ∈ ps, Solid p.text.toList) :
    split 0 .start (String.join (ps.map fun p => " " ++ p.joined)).toList =
      ([], ps.map fun p => (p.connector, p.text.toList)) := by
  induction ps with
  | nil => rfl
  | cons p ps ih =>
    obtain ⟨hp, hps⟩ := List.forall_mem_cons.1 h
    have shape : (String.join ((p :: ps).map fun p => " " ++ p.joined)).toList =
        (" " ++ p.connector.word ++ " ").toList ++
          (p.text.toList ++ (String.join (ps.map fun p => " " ++ p.joined)).toList) := by
      simp [Piece.joined]
    rw [shape, split_connector, split_solid hp (ends_later ps), ih hps]
    simp [attach]

theorem split_assemble {ps : List Piece} (h : ∀ p ∈ ps, Solid p.text.toList) :
    split 0 .start (assemble ps).toList = listing ps := by
  cases ps with
  | nil => rfl
  | cons p ps =>
    obtain ⟨hp, hps⟩ := List.forall_mem_cons.1 h
    rw [assemble, String.toList_append, split_solid hp (ends_later ps), split_later hps]
    simp [attach, listing]

/-! ## Groups and lists -/

theorem mem_pieces {k : Connector} {c : Condition} {clauses : List Clause} {t : String}
    (h : ⟨k, c⟩ ∈ clauses) (ht : conditionText c = some t) : ⟨k, t⟩ ∈ pieces clauses :=
  List.mem_filterMap.2 ⟨_, h, by simp [ht]⟩

theorem enclosed_parenthesised {q : Query} (h : q.isReadable) :
    enclosed ("(" ++ ofQuery q ++ ")").toList = (ofQuery q).toList := by
  have inner := enclosed_group (w := []) (by simp) (balanced_ofQuery q h) []
  simpa using inner

/-- The list of a membership test. A negated test has the positive one in parentheses. -/
def listText (negated : Bool) (t : List Char) : List Char :=
  if negated then enclosed (enclosed t) else enclosed t

theorem enclosed_membership {column : String} (hc : isName column) (vs : List Value) :
    enclosed (column ++ " in (" ++ valueList vs ++ ")").toList = (valueList vs).toList := by
  have word : ∀ c ∈ " in ".toList, isPlain c := List.all_eq_true.1 (by decide)
  have plain : ∀ c ∈ column.toList ++ " in ".toList, isPlain c := by
    intro c h
    rcases List.mem_append.1 h with h | h
    · exact isName_plain hc c h
    · exact word c h
  have inner := enclosed_group plain (balanced_valueList vs) []
  simpa using inner

theorem enclosed_negated {column : String} (hc : isName column) (vs : List Value) :
    enclosed ("not(" ++ (column ++ " in (" ++ valueList vs ++ ")") ++ ")").toList =
      (column ++ " in (" ++ valueList vs ++ ")").toList := by
  have plain : ∀ c ∈ "not".toList, isPlain c := List.all_eq_true.1 (by decide)
  have inner := enclosed_group plain (solid_membership hc vs).balanced []
  simpa using inner

/-- The text of a membership test gives its literals back. -/
theorem splitCommas_membership {column : String} (hc : isName column) {vs : List Value}
    (hne : vs ≠ []) (negated : Bool) :
    ∃ t, conditionText (.isIn column vs negated) = some t ∧
      splitCommas false (listText negated t.toList) =
        vs.map fun v => (Literal.ofValue v).toList := by
  have operands : splitCommas false (valueList vs).toList =
      vs.map fun v => (Literal.ofValue v).toList := by
    rw [toList_valueList]
    refine splitCommas_intercalate (by simpa using hne) fun t ht => ?_
    obtain ⟨v, -, rfl⟩ := List.mem_map.1 ht
    exact operand_literal v
  cases negated with
  | false =>
    refine ⟨_, rfl, ?_⟩
    rw [listText, if_neg (by decide), if_neg (by decide), enclosed_membership hc, operands]
  | true =>
    refine ⟨_, rfl, ?_⟩
    rw [listText, if_pos rfl, if_pos rfl, enclosed_negated hc, enclosed_membership hc, operands]

/-! ## Reading back -/

end Filter

open OData.Filter

/-- The filter of the query, read by its punctuation, gives back what it was made of. -/
structure Query.ReadsBack (d : Query) : Prop where
  /-- Cut at the connectors it falls into the conditions that render, in order. -/
  cut : split 0 .start (ofQuery d).toList = listing (pieces d.clauses)
  /-- A group that renders is a piece, and its parentheses hold the filter of its child. -/
  groups : ∀ (k : Connector) (child : Query), ⟨k, .group child⟩ ∈ d.clauses → ofQuery child ≠ "" →
    ⟨k, "(" ++ ofQuery child ++ ")"⟩ ∈ pieces d.clauses ∧
      enclosed ("(" ++ ofQuery child ++ ")").toList = (ofQuery child).toList
  /-- A membership test is a piece, and its list falls into the literals of its values. -/
  lists : ∀ (k : Connector) (column : String) (vs : List Value) (negated : Bool),
    ⟨k, .isIn column vs negated⟩ ∈ d.clauses → vs ≠ [] →
      ∃ t, conditionText (.isIn column vs negated) = some t ∧ ⟨k, t⟩ ∈ pieces d.clauses ∧
        splitCommas false (listText negated t.toList) = vs.map fun v => (Literal.ofValue v).toList

namespace Filter

/-- The filter of a readable query, and of every group in it, reads back. -/
theorem readsBack_within {d q : Query} (hq : q.isReadable) (hd : d.Within q) : d.ReadsBack := by
  have readable : clausesReadable d.clauses := by
    rw [← Query.isReadable_eq]
    exact hd.isReadable hq
  refine ⟨?_, ?_, ?_⟩
  · rw [ofQuery_eq_assemble]
    exact split_assemble (solid_pieces _ readable)
  · intro k child hm hne
    have childReadable : child.isReadable := readable_of_mem readable hm
    exact ⟨mem_pieces hm (by simp [conditionText, hne]), enclosed_parenthesised childReadable⟩
  · intro k column vs negated hm hne
    have name : isName column := readable_of_mem readable hm
    obtain ⟨t, ht, items⟩ := splitCommas_membership name hne negated
    exact ⟨t, ht, mem_pieces hm ht, items⟩

def hostile : Query :=
  { clauses := [⟨.or, .isIn "Tags/Name" [.text "a,'b') or (", .text "Ns.Color'Red'"] true⟩,
      ⟨.and, .function "contains" "Note" (.text "' and 1 eq 1")⟩] }

theorem readsBack_hostile :
    let q : Query := { clauses := [⟨.and, .compare "Id" "<>" (.int 1)⟩, ⟨.or, .group hostile⟩] }
    q.isReadable ∧ hostile.Within q ∧ hostile.ReadsBack :=
  have readable := by decide +kernel
  have within := .group (List.mem_cons_of_mem _ List.mem_cons_self) .self
  ⟨readable, within, readsBack_within readable within⟩

end Filter

end OData
