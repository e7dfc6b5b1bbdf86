import OData.Proofs.Draft.Soundness
import OData.Proofs.Text.Case

/-!
# The case of operators and functions

Keywords and functions are known in any case, and go into a query as they were given. So calls
that differ in the case of such words alone (`RecasedAll`) do not always lead to the same filter.
They lead to the same draft once every word has its own spelling, that is the one of the protocol
or of the registry (`Draft.respelled`), because it makes no difference whether the words of the
calls are respelled or those of what the calls make (`applyAll_respelled`). The same calls are
misused, and of the filter nothing but the case of letters changes (`recased_calls`). Between two
columns a function is no operator but the second column, and keeps the case in which it was given
in the same way.
-/

namespace OData

open Text (lower sameFolded sameFolded_iff)

variable {g : Grammar}

/-! ## Words -/

namespace Operator

/-- The words of the protocol between the two sides of a comparison. -/
def protocol : List String := ["eq", "ne", "gt", "ge", "lt", "le", "has", "not lt", "not gt"]

/-- An operator with its keyword in small letters; any other text stays. -/
def spelling (op : String) : String := if isKnown op then lower op else op

variable {a b op : String}

theorem isKnown_iff :
    isKnown op ↔ (∃ entry ∈ symbols, entry.1 = op) ∨ ∃ word ∈ keywords, sameFolded word op := by
  simp only [isKnown, Bool.or_eq_true, List.any_eq_true, beq_iff_eq]

/-- Symbols have no letters. -/
theorem eq_of_symbol {entry : String × String} (member : entry ∈ symbols)
    (same : sameFolded entry.1 op) : entry.1 = op := by
  have plain : symbols.all fun entry => entry.1.toList.all fun c => !c.isAlpha := by decide
  refine Text.eq_of_sameFolded (fun c found => ?_) same
  simpa using List.all_eq_true.1 (List.all_eq_true.1 plain entry member) c found

/-- In another case an operator is another text only if it is no symbol. -/
theorem eq_or_no_symbol (same : sameFolded a b) :
    a = b ∨ (∀ entry ∈ symbols, entry.1 ≠ a) ∧ ∀ entry ∈ symbols, entry.1 ≠ b := by
  by_cases e : a = b
  · exact .inl e
  · refine .inr ⟨?_, ?_⟩
    · rintro entry member rfl
      exact e (eq_of_symbol member same)
    · rintro entry member rfl
      exact e (eq_of_symbol member (Text.sameFolded_symm same)).symm

theorem keyword_of_no_symbol (none : ∀ entry ∈ symbols, entry.1 ≠ op) : keyword op = op := by
  rw [keyword, List.lookup_eq_none_iff.2 fun entry member => ?_]
  · rfl
  · simpa using (none entry member).symm

theorem isKnown_congr (same : sameFolded a b) : isKnown a = isKnown b := by
  rcases eq_or_no_symbol same with rfl | ⟨noneA, noneB⟩
  · rfl
  · rw [Bool.eq_iff_iff, isKnown_iff, isKnown_iff]
    simp only [Text.sameFolded_congr same]
    constructor
    · rintro (⟨entry, member, e⟩ | word)
      · exact absurd e (noneA entry member)
      · exact .inr word
    · rintro (⟨entry, member, e⟩ | word)
      · exact absurd e (noneB entry member)
      · exact .inr word

theorem nullNegation?_congr (same : sameFolded a b) : nullNegation? a = nullNegation? b := by
  unfold nullNegation?
  rw [sameFolded_iff.1 same]

theorem lower_keyword_congr (same : sameFolded a b) : lower (keyword a) = lower (keyword b) := by
  rcases eq_or_no_symbol same with rfl | ⟨noneA, noneB⟩
  · rfl
  · rw [keyword_of_no_symbol noneA, keyword_of_no_symbol noneB]
    exact sameFolded_iff.1 same

theorem sameFolded_spelling (op : String) : sameFolded op (spelling op) := by
  unfold spelling
  split
  · exact Text.sameFolded_lower op
  · exact Text.sameFolded_self op

theorem spelling_congr (known : isKnown a) (same : sameFolded a b) : spelling a = spelling b := by
  rw [spelling, spelling, ← isKnown_congr same, if_pos known, if_pos known, sameFolded_iff.1 same]

/-- An operator in its own spelling is written as a word of the protocol. -/
theorem keyword_spelling (known : isKnown op) : keyword (spelling op) ∈ protocol := by
  have ofSymbol : ∀ entry ∈ symbols, keyword (lower entry.1) ∈ protocol := by decide
  have ofWord : ∀ word ∈ keywords, keyword (lower word) ∈ protocol := by decide
  rw [spelling, if_pos known]
  rcases isKnown_iff.1 known with ⟨entry, member, rfl⟩ | ⟨word, member, same⟩
  · exact ofSymbol entry member
  · rw [← sameFolded_iff.1 same]
    exact ofWord word member

end Operator

namespace Grammar

/-- The name by which a function is registered; any other text stays. -/
def registered (g : Grammar) (name : String) : String :=
  (g.functions.find? (sameFolded · name)).getD name

/-- A function as it is registered, an operator with its keyword in small letters; any other text
stays. -/
def spelling (g : Grammar) (word : String) : String :=
  if g.isFunction word then g.registered word else Operator.spelling word

variable {a b : String}

theorem isFunction_congr (same : sameFolded a b) : g.isFunction a = g.isFunction b := by
  unfold isFunction
  simp only [Text.sameFolded_congr same]

theorem sameFolded_registered (g : Grammar) (name : String) :
    sameFolded name (g.registered name) := by
  unfold registered
  cases found : g.functions.find? (sameFolded · name) with
  | none => exact Text.sameFolded_self name
  | some function =>
    exact Text.sameFolded_symm (List.find?_some (p := (sameFolded · name)) found)

theorem exists_found {name : String} (h : g.isFunction name) :
    ∃ function, g.functions.find? (sameFolded · name) = some function :=
  Option.isSome_iff_exists.1 (List.find?_isSome.2 (List.any_eq_true.1 h))

theorem registered_mem {name : String} (h : g.isFunction name) :
    g.registered name ∈ g.functions := by
  obtain ⟨function, found⟩ := exists_found h
  rw [registered, found]
  exact List.mem_of_find?_eq_some found

theorem registered_congr (known : g.isFunction a) (same : sameFolded a b) :
    g.registered a = g.registered b := by
  obtain ⟨function, found⟩ := exists_found known
  have found' : g.functions.find? (sameFolded · b) = some function := by
    simpa only [Text.sameFolded_congr same] using found
  rw [registered, registered, found, found']
  rfl

theorem sameFolded_spelling (g : Grammar) (word : String) :
    sameFolded word (g.spelling word) := by
  unfold spelling
  split
  · exact g.sameFolded_registered word
  · exact Operator.sameFolded_spelling word

theorem spelling_congr (known : g.isFunction a || Operator.isKnown a) (same : sameFolded a b) :
    g.spelling a = g.spelling b := by
  unfold spelling
  rw [← isFunction_congr same]
  cases function : g.isFunction a with
  | true => exact registered_congr function same
  | false =>
    rw [function, Bool.false_or] at known
    exact Operator.spelling_congr known same

theorem columnSpelling_congr (known : g.isFunction a || Operator.isKnown a)
    (same : sameFolded a b) :
    (if Operator.isKnown a then Operator.spelling a else g.registered a) =
      if Operator.isKnown b then Operator.spelling b else g.registered b := by
  rw [← Operator.isKnown_congr same]
  split
  · next operator => exact Operator.spelling_congr operator same
  · next word =>
    rw [Bool.eq_false_iff.2 word, Bool.or_false] at known
    exact registered_congr known same

end Grammar

/-! ## Queries and drafts -/

/-- The second column behind an operator. A word that is no operator becomes the second column of
an equation, so that there a column may have a spelling of its own. -/
def respelledSecond (column : String → String) (op second : String) : String :=
  if op = "=" then column second else second

theorem sameFolded_respelledSecond {column : String → String}
    (folds : ∀ name, sameFolded name (column name)) (op second : String) :
    sameFolded second (respelledSecond column op second) := by
  unfold respelledSecond
  split
  · exact folds second
  · exact Text.sameFolded_self second

theorem respelledSecond_congr {a b : String} (same : sameFolded a b) (column : String → String)
    (second : String) : respelledSecond column a second = respelledSecond column b second := by
  rcases Operator.eq_or_no_symbol same with rfl | ⟨noneA, noneB⟩
  · rfl
  · have listed : ("=", "eq") ∈ Operator.symbols := .head _
    rw [respelledSecond, respelledSecond, if_neg (noneA _ listed).symm,
      if_neg (noneB _ listed).symm]

mutual

def Condition.respelled (g : Grammar) (column : String → String) : Condition → Condition
  | .compare name op value => .compare name (Operator.spelling op) value
  | .function name first value => .function (g.registered name) first value
  | .columns first op second =>
    .columns first (Operator.spelling op) (respelledSecond column op second)
  | .raw text => .raw text
  | .isNull name negated => .isNull name negated
  | .isIn name values negated => .isIn name values negated
  | .group q => .group (q.respelled g column)

def respelledClauses (g : Grammar) (column : String → String) : List Clause → List Clause
  | [] => []
  | ⟨connector, condition⟩ :: rest =>
    ⟨connector, condition.respelled g column⟩ :: respelledClauses g column rest

def Query.respelled (g : Grammar) (column : String → String) : Query → Query
  | ⟨set, key, properties, clauses, orders, rawOrder, expansions, take, skip, token, isCount,
      wantsTotal, bindings⟩ =>
    ⟨set, key, properties, respelledClauses g column clauses, orders, rawOrder, expansions, take,
      skip, token, isCount, wantsTotal, bindings⟩

end

def Misuse.respelled (g : Grammar) : Misuse → Misuse
  | .illegalNull op => .illegalNull (g.spelling op)
  | .unknownBindingKind name => .unknownBindingKind name

def Draft.respelled (g : Grammar) (column : String → String) (d : Draft) : Draft where
  query := d.query.respelled g column
  misuse := d.misuse.map (Misuse.respelled g)

def respelledResult (g : Grammar) (column : String → String) (r : Except Misuse Query) :
    Except Misuse Query :=
  (r.map (Query.respelled g column)).mapError (Misuse.respelled g)

mutual

/-- A call with its operator in its own spelling, if it is one. Between two columns no function is
an operator. -/
def Call.respelled (g : Grammar) (column : String → String) : Call → Call
  | .compare connector name operator value =>
    .compare connector name (g.spelling operator) value
  | .columns connector first operator second =>
    .columns connector first
      (if Operator.isKnown operator then Operator.spelling operator else column operator)
      (respelledSecond column operator second)
  | .group connector start calls =>
    .group connector (start.map (Draft.respelled g column)) (respelledAll g column calls)
  | call => call

def respelledAll (g : Grammar) (column : String → String) : List Call → List Call
  | [] => []
  | call :: calls => call.respelled g column :: respelledAll g column calls

end

variable {column : String → String}

theorem Query.respelled_eq (q : Query) :
    q.respelled g column = { q with clauses := respelledClauses g column q.clauses } := by
  cases q
  rw [Query.respelled]

theorem respelledClauses_eq (clauses : List Clause) : respelledClauses g column clauses =
    clauses.map fun clause => { clause with condition := clause.condition.respelled g column } := by
  induction clauses with
  | nil => rw [respelledClauses, List.map_nil]
  | cons clause rest ih =>
    obtain ⟨connector, condition⟩ := clause
    rw [respelledClauses, List.map_cons, ih]

theorem Query.respelled_clauses (q : Query) : (q.respelled g column).clauses =
    q.clauses.map fun clause =>
      { clause with condition := clause.condition.respelled g column } := by
  rw [respelled_eq, respelledClauses_eq]

theorem Query.respelled_bindings (q : Query) : (q.respelled g column).bindings = q.bindings := by
  rw [respelled_eq]

theorem Condition.literals_respelled (condition : Condition) :
    (condition.respelled g column).literals = condition.literals := by
  cases condition with
  | group q => rw [respelled, literals, literals, Query.respelled_bindings]
  | _ => rw [respelled] <;> rfl

theorem Query.respelled_push (q : Query) (connector : Connector) (condition : Condition) :
    (q.push connector condition).respelled g column =
      (q.respelled g column).push connector (condition.respelled g column) := by
  rw [Query.push, Query.push, Condition.literals_respelled, respelled_eq, respelled_eq]
  simp only [respelledClauses_eq, List.map_append, List.map_cons, List.map_nil]

theorem Query.hasClauses_respelled (q : Query) :
    (q.respelled g column).hasClauses = q.hasClauses := by
  rw [hasClauses, hasClauses, respelled_clauses, List.isEmpty_map]

/-! ## Respelled calls on respelled drafts -/

theorem comparison_respelled (name operator : String) (value : Value) :
    g.comparison name (g.spelling operator) value =
      ((g.comparison name operator value).map (Condition.respelled g column)).mapError
        (Misuse.respelled g) := by
  have same := g.sameFolded_spelling operator
  unfold Grammar.comparison
  rw [← Grammar.isFunction_congr same, ← Operator.isKnown_congr same]
  by_cases known : (g.isFunction operator || Operator.isKnown operator) = true
  · simp only [if_pos known, ← Operator.nullNegation?_congr same]
    by_cases null : value.isNull = true
    · simp only [if_pos null]
      cases Operator.nullNegation? operator <;> rfl
    · simp only [if_neg null]
      cases function : g.isFunction operator with
      | true =>
        simp only [if_true, Grammar.spelling, function]
        rfl
      | false =>
        simp only [Bool.false_eq_true, if_false, Grammar.spelling, function]
        rfl
  · obtain ⟨plain, word⟩ := Bool.or_eq_false_iff.1 (Bool.eq_false_iff.2 known)
    have stays : g.spelling operator = operator := by
      simp [Grammar.spelling, Operator.spelling, plain, word]
    rw [stays, plain, word]
    rfl

theorem columnComparison_respelled (folds : ∀ name, sameFolded name (column name))
    (first operator second : String) :
    columnComparison first
        (if Operator.isKnown operator then Operator.spelling operator else column operator)
        (respelledSecond column operator second) =
      (columnComparison first operator second).respelled g column := by
  unfold columnComparison
  by_cases known : Operator.isKnown operator = true
  · have known' : Operator.isKnown (Operator.spelling operator) = true := by
      rwa [← Operator.isKnown_congr (Operator.sameFolded_spelling operator)]
    rw [if_pos known, if_pos known, if_pos known']
    rfl
  · have unknown : ¬Operator.isKnown (column operator) = true := by
      rwa [← Operator.isKnown_congr (folds operator)]
    rw [if_neg known, if_neg known, if_neg unknown]
    rfl

theorem Draft.settle_respelled (d : Draft) (r : Except Misuse Query) :
    (d.respelled g column).settle (respelledResult g column r) =
      (d.settle r).respelled g column := by
  cases r with
  | ok q => rfl
  | error m =>
    cases d with
    | mk query misuse => cases misuse <;> rfl

theorem Draft.close_respelled (q : Query) (connector : Connector) (child : Draft) :
    Draft.close (q.respelled g column) connector (child.respelled g column) =
      respelledResult g column (Draft.close q connector child) := by
  cases child with
  | mk query misuse =>
    cases misuse with
    | some m => rfl
    | none =>
      simp only [Draft.close, Draft.respelled, Option.map_none, Query.hasClauses_respelled]
      cases query.hasClauses with
      | true => exact congrArg Except.ok (q.respelled_push connector (.group query)).symm
      | false => rfl

theorem Draft.groupStart_respelled (q : Query) (start : Option Draft) :
    Draft.groupStart (q.respelled g column) (start.map (Draft.respelled g column)) =
      (Draft.groupStart q start).respelled g column := by
  cases start with
  | some d => rfl
  | none =>
    rw [Draft.groupStart, Draft.groupStart, Option.map_none, Query.respelled_eq q]
    rfl

theorem Call.startsOver_respelled (call : Call) :
    (call.respelled g column).startsOver = call.startsOver := by
  cases call <;> rfl

mutual

/-- A respelled call is accepted or refused as the call is. -/
theorem change_respelled (folds : ∀ name, sameFolded name (column name)) :
    (call : Call) → (q : Query) →
    (call.respelled g column).change g (q.respelled g column) =
      respelledResult g column (call.change g q)
  | .compare connector name operator value, q => by
    rw [Call.respelled, Call.change, Call.change, comparison_respelled]
    cases g.comparison name operator value with
    | error m => rfl
    | ok condition => exact congrArg Except.ok (q.respelled_push connector condition).symm
  | .columns connector first operator second, q => by
    rw [Call.respelled, Call.change, Call.change, columnComparison_respelled folds]
    exact congrArg Except.ok (q.respelled_push connector _).symm
  | .isNull connector name negated, q =>
    congrArg Except.ok (q.respelled_push connector (.isNull name negated)).symm
  | .isIn connector name values negated, q =>
    congrArg Except.ok (q.respelled_push connector (.isIn name values negated)).symm
  | .raw connector text, q => congrArg Except.ok (q.respelled_push connector (.raw text)).symm
  | .group connector start calls, q => by
    rw [Call.respelled, Call.change, Call.change, Draft.groupStart_respelled,
      applyAll_respelled folds, Draft.close_respelled]
  | .bind kind values, q => by
    cases q
    change (Call.bind kind values).change g (Query.respelled g column _) = _
    rw [Call.change, Call.change]
    cases BindingKind.parse? kind <;> rfl
  | .entitySet _, q | .select _, q | .key _, q | .expand _, q | .order _, q | .rawOrder _, q
  | .skip _, q | .skipToken _, q | .take _, q | .pageSize _, q | .fresh, q => by
    cases q; rfl

/-- Respelled calls make what the calls make, respelled. -/
theorem applyAll_respelled (folds : ∀ name, sameFolded name (column name)) :
    (calls : List Call) → (d : Draft) →
    applyAll g (respelledAll g column calls) (d.respelled g column) =
      (applyAll g calls d).respelled g column
  | [], d => by rw [respelledAll, applyAll, applyAll]
  | call :: calls, d => by
    have first : (if call.startsOver then {} else (d.respelled g column).settle
          ((call.respelled g column).change g (d.query.respelled g column))) =
        (if call.startsOver then {} else d.settle (call.change g d.query)).respelled g column := by
      split
      · rfl
      · rw [change_respelled folds call, Draft.settle_respelled]
    rw [respelledAll, applyAll, applyAll, call.startsOver_respelled,
      ← applyAll_respelled folds calls, ← first]
    rfl

end

/-- A call is misused in one spelling as in another. -/
theorem fault_respelled (folds : ∀ name, sameFolded name (column name)) (call : Call) :
    (call.respelled g column).fault g = (call.fault g).map (Misuse.respelled g) := by
  rw [← refusal_change (call.respelled g column) (({} : Query).respelled g column),
    change_respelled folds, ← refusal_change call {}]
  cases call.change g {} <;> rfl

mutual

theorem parts_respelled : (call : Call) →
    (call.respelled g column).parts = call.parts.map (Call.respelled g column)
  | .group connector start calls => by
    rw [Call.respelled, Call.parts, Call.parts, List.map_cons, Call.respelled,
      partsOf_respelled calls]
  | .entitySet _ | .select _ | .key _ | .compare .. | .columns .. | .isNull .. | .isIn ..
  | .raw .. | .bind .. | .expand _ | .order _ | .rawOrder _ | .skip _ | .skipToken _ | .take _
  | .pageSize _ | .fresh => rfl

theorem partsOf_respelled : (calls : List Call) →
    partsOf (respelledAll g column calls) = (partsOf calls).map (Call.respelled g column)
  | [] => rfl
  | call :: calls => by
    rw [respelledAll, partsOf, partsOf, List.map_append, parts_respelled call,
      partsOf_respelled calls]

end

/-! ## Words of the protocol and of the registry -/

/-- Where there are two sides a word of the protocol is written between them, and functions are
those of the registry. -/
structure Query.Canonical (g : Grammar) (q : Query) : Prop where
  operators : ∀ clause ∈ q.clauses, ∀ left word right,
    clause.condition.sides? = some (left, word, right) → word ∈ Operator.protocol ∧
      Filter.conditionText clause.condition = some (left ++ " " ++ word ++ " " ++ right)
  functions : ∀ clause ∈ q.clauses, ∀ name column value,
    clause.condition = .function name column value → name ∈ g.functions

theorem Query.Sound.canonical {q : Query} (h : q.Sound g) : (q.respelled g column).Canonical g where
  operators clause member left word right sides := by
    refine ⟨?_, conditionText_sides sides⟩
    rw [Query.respelled_clauses] at member
    obtain ⟨clause, found, rfl⟩ := List.mem_map.1 member
    have sound := h.conditions clause found
    dsimp only at sides
    cases condition : clause.condition with
    | compare column op value =>
      rw [condition] at sides sound
      cases sides
      exact Operator.keyword_spelling sound.1
    | columns first op second =>
      rw [condition] at sides sound
      cases sides
      exact Operator.keyword_spelling sound
    | isNull column negated =>
      rw [condition] at sides
      cases sides
      cases negated <;> decide
    | _ => rw [condition] at sides; cases sides
  functions clause member name column value written := by
    rw [Query.respelled_clauses] at member
    obtain ⟨clause, found, rfl⟩ := List.mem_map.1 member
    have sound := h.conditions clause found
    dsimp only at written
    cases condition : clause.condition with
    | function name column value =>
      rw [condition] at written sound
      cases written
      exact Grammar.registered_mem sound.1
    | _ => rw [condition] at written; cases written

/-- The groups of a respelled query are respelled groups. -/
theorem Query.Within.of_respelled {r s : Query} (within : r.Within s) :
    ∀ q : Query, s = q.respelled g column →
      ∃ child : Query, child.Within q ∧ r = child.respelled g column := by
  induction within with
  | self => exact fun q e => ⟨q, .self, e⟩
  | group member within ih =>
    rintro q rfl
    rw [Query.respelled_clauses] at member
    obtain ⟨⟨connector, condition⟩, found, e⟩ := List.mem_map.1 member
    cases condition with
    | group child =>
      cases e
      obtain ⟨inner, inside, same⟩ := ih child rfl
      exact ⟨inner, .group found inside, same⟩
    | _ => cases e

theorem Reached.canonical {d : Draft} (h : Reached g (fun _ => True) d) :
    (d.query.respelled g column).Throughout (Query.Canonical g) := by
  intro r within
  obtain ⟨child, inside, rfl⟩ := within.of_respelled d.query rfl
  exact (kept_sound.throughout h child inside).canonical

/-! ## The filter -/

namespace Filter

def Piece.lower (p : Piece) : Piece := ⟨p.connector, Text.lower p.text⟩

theorem lower_join (texts : List String) :
    lower (String.join texts) = String.join (texts.map lower) := by
  induction texts with
  | nil => rfl
  | cons text texts ih =>
    rw [String.join_cons, Text.lower_append, ih, List.map_cons, String.join_cons]

theorem lower_joined (p : Piece) : lower (" " ++ p.joined) = " " ++ p.lower.joined := by
  have words (k : Connector) : lower k.word = k.word := by cases k <;> rfl
  have blank : lower " " = " " := rfl
  simp only [Piece.joined, Piece.lower, Text.lower_append, words, blank]

theorem lower_assemble (ps : List Piece) : lower (assemble ps) = assemble (ps.map Piece.lower) := by
  cases ps with
  | nil => rfl
  | cons p ps =>
    have later : (ps.map fun p => " " ++ p.joined).map lower =
        (ps.map Piece.lower).map fun p => " " ++ p.joined := by
      rw [List.map_map, List.map_map]
      exact List.map_congr_left fun p _ => lower_joined p
    rw [assemble, List.map_cons, assemble, Text.lower_append, lower_join, later, Piece.lower]

theorem lower_eq_empty {s : String} : lower s = "" ↔ s = "" := by
  simp [Text.lower, String.ofList_eq_empty_iff]

mutual

theorem lower_conditionText (folds : ∀ name, sameFolded name (column name)) :
    (condition : Condition) →
    (conditionText (condition.respelled g column)).map lower = (conditionText condition).map lower
  | .compare name op value => by
    simp only [Condition.respelled, conditionText, Option.map_some, Text.lower_append,
      Operator.lower_keyword_congr (Operator.sameFolded_spelling op)]
  | .columns first op second => by
    simp only [Condition.respelled, conditionText, Option.map_some, Text.lower_append,
      Operator.lower_keyword_congr (Operator.sameFolded_spelling op),
      sameFolded_iff.1 (sameFolded_respelledSecond folds op second)]
  | .function name first value => by
    simp only [Condition.respelled, conditionText, Option.map_some, Text.lower_append,
      sameFolded_iff.1 (g.sameFolded_registered name)]
  | .group q => by
    have inner := lower_ofQuery folds q
    have empty : ofQuery (q.respelled g column) = "" ↔ ofQuery q = "" := by
      rw [← lower_eq_empty, inner, lower_eq_empty]
    rw [Condition.respelled, conditionText, conditionText]
    simp only [empty]
    split
    · rfl
    · simp only [Option.map_some, Text.lower_append, inner]
  | .raw _ | .isNull _ _ | .isIn _ _ _ => rfl

theorem lower_pieces (folds : ∀ name, sameFolded name (column name)) :
    (clauses : List Clause) →
    (pieces (respelledClauses g column clauses)).map Piece.lower = (pieces clauses).map Piece.lower
  | [] => rfl
  | ⟨connector, condition⟩ :: rest => by
    have head := lower_conditionText folds condition
    have rest := lower_pieces folds rest
    rw [respelledClauses, pieces_cons, pieces_cons]
    cases text : conditionText condition with
    | none =>
      rw [text, Option.map_none, Option.map_eq_none_iff] at head
      rw [head]
      exact rest
    | some t =>
      rw [text, Option.map_some, Option.map_eq_some_iff] at head
      obtain ⟨t', text', same⟩ := head
      rw [text', List.map_cons, List.map_cons, rest, Piece.lower, Piece.lower, same]

theorem lower_ofQuery (folds : ∀ name, sameFolded name (column name)) :
    (q : Query) → lower (ofQuery (q.respelled g column)) = lower (ofQuery q)
  | ⟨_, _, _, clauses, _, _, _, _, _, _, _, _, _⟩ => by
    rw [Query.respelled, ofQuery_eq_assemble, ofQuery_eq_assemble, lower_assemble, lower_assemble,
      lower_pieces folds clauses]

end

end Filter

/-! ## Calls in another case -/

mutual

/-- One call is the other but for the case of letters in the place of its operator, where a known
operator or function stands. A group starts from nothing or from a draft that such calls make. -/
inductive Call.Recased (g : Grammar) : Call → Call → Prop where
  | same {call : Call} (single : call.isGroup = false) : Call.Recased g call call
  | compare {connector : Connector} {column operator operator' : String} {value : Value}
      (known : g.isFunction operator || Operator.isKnown operator)
      (folded : sameFolded operator operator') :
      Call.Recased g (.compare connector column operator value)
        (.compare connector column operator' value)
  | columns {connector : Connector} {first operator operator' second : String}
      (known : g.isFunction operator || Operator.isKnown operator)
      (folded : sameFolded operator operator') :
      Call.Recased g (.columns connector first operator second)
        (.columns connector first operator' second)
  | group {connector : Connector} {calls calls' : List Call} (inner : RecasedAll g calls calls') :
      Call.Recased g (.group connector none calls) (.group connector none calls')
  | resumed {connector : Connector} {own own' calls calls' : List Call}
      (start : RecasedAll g own own') (inner : RecasedAll g calls calls') :
      Call.Recased g (.group connector (some (applyAll g own {})) calls)
        (.group connector (some (applyAll g own' {})) calls')

inductive RecasedAll (g : Grammar) : List Call → List Call → Prop where
  | nil : RecasedAll g [] []
  | cons {call call' : Call} {calls calls' : List Call} (head : Call.Recased g call call')
      (tail : RecasedAll g calls calls') : RecasedAll g (call :: calls) (call' :: calls')

end

mutual

theorem Call.Recased.respelled {call call' : Call} :
    call.Recased g call' → call.respelled g g.registered = call'.respelled g g.registered
  | .same _ => rfl
  | .compare known folded => by
    rw [Call.respelled, Call.respelled, Grammar.spelling_congr known folded]
  | .columns known folded => by
    rw [Call.respelled, Call.respelled, Grammar.columnSpelling_congr known folded,
      respelledSecond_congr folded]
  | .group inner => by rw [Call.respelled, Call.respelled, inner.respelled]
  | .resumed start inner => by
    have folds := g.sameFolded_registered
    rw [Call.respelled, Call.respelled, inner.respelled, Option.map_some, Option.map_some,
      ← applyAll_respelled folds, ← applyAll_respelled folds, start.respelled]

theorem RecasedAll.respelled {calls calls' : List Call} :
    RecasedAll g calls calls' →
      respelledAll g g.registered calls = respelledAll g g.registered calls'
  | .nil => rfl
  | .cons head tail => by rw [respelledAll, respelledAll, head.respelled, tail.respelled]

end

theorem parts_of_single {call : Call} (single : call.isGroup = false) : call.parts = [call] := by
  cases call with
  | group => cases single
  | _ => rfl

theorem stored?_of_single {call : Call} (single : call.isGroup = false) : call.stored? = none := by
  cases call with
  | group => cases single
  | _ => rfl

mutual

theorem Call.Recased.stored {call call' : Call} : call.Recased g call' →
    ∀ part ∈ call.parts, ∀ d, part.stored? = some d → Reached g (fun _ => True) d
  | .same single => by
    intro part member d stored
    rw [parts_of_single single, List.mem_singleton] at member
    rw [member, stored?_of_single single] at stored
    cases stored
  | .compare _ _ | .columns _ _ => by
    rintro part (_ | ⟨_, ⟨⟩⟩) d stored
    cases stored
  | .group inner => by
    rintro part (_ | ⟨_, member⟩) d stored
    · cases stored
    · exact inner.stored part member d stored
  | .resumed start inner => by
    rintro part (_ | ⟨_, member⟩) d stored
    · cases stored
      exact .calls _ (fun _ _ => trivial) start.stored
    · exact inner.stored part member d stored

theorem RecasedAll.stored {calls calls' : List Call} : RecasedAll g calls calls' →
    ∀ part ∈ partsOf calls, ∀ d, part.stored? = some d → Reached g (fun _ => True) d
  | .nil => nofun
  | .cons head tail => by
    intro part member d stored
    rw [partsOf] at member
    rcases List.mem_append.1 member with first | later
    · exact head.stored part first d stored
    · exact tail.stored part later d stored

end

theorem RecasedAll.reached {calls calls' : List Call} (h : RecasedAll g calls calls') :
    Reached g (fun _ => True) (applyAll g calls {}) :=
  .calls calls (fun _ _ => trivial) h.stored

theorem RecasedAll.faults {calls calls' : List Call} (h : RecasedAll g calls calls') :
    (partsOf calls).map (fun call => (call.fault g).isSome) =
      (partsOf calls').map (fun call => (call.fault g).isSome) := by
  have told (calls : List Call) :
      (partsOf calls).map (fun call => (call.fault g).isSome) =
        (partsOf (respelledAll g g.registered calls)).map fun call => (call.fault g).isSome := by
    rw [partsOf_respelled, List.map_map]
    refine List.map_congr_left fun call _ => ?_
    rw [Function.comp_apply, fault_respelled g.sameFolded_registered, Option.isSome_map]
  rw [told calls, told calls', h.respelled]

theorem RecasedAll.draft {calls calls' : List Call} (h : RecasedAll g calls calls') :
    (applyAll g calls {}).respelled g g.registered =
      (applyAll g calls' {}).respelled g g.registered := by
  have folds := g.sameFolded_registered
  rw [← applyAll_respelled folds, ← applyAll_respelled folds, h.respelled]

/-- Calls that differ in the case of operators and functions alone are misused or not alike, at
every depth. They make one draft but for the spelling of these words, and one filter but for the
case of letters. In their own spelling operators and functions are those of the protocol and of
the registry, and they are so in the filter itself if that is how they are given. -/
theorem recased_calls {calls calls' : List Call} (h : RecasedAll g calls calls') :
    (partsOf calls).map (fun call => (call.fault g).isSome) =
      (partsOf calls').map (fun call => (call.fault g).isSome) ∧
    (applyAll g calls {}).respelled g g.registered =
      (applyAll g calls' {}).respelled g g.registered ∧
    sameFolded (Filter.ofQuery (applyAll g calls {}).query)
      (Filter.ofQuery (applyAll g calls' {}).query) ∧
    ((applyAll g calls {}).query.respelled g id).Throughout (Query.Canonical g) ∧
    (respelledAll g id calls = calls →
      (applyAll g calls {}).query.Throughout (Query.Canonical g)) := by
  have drafts := h.draft
  have canonical : ((applyAll g calls {}).query.respelled g id).Throughout (Query.Canonical g) :=
    h.reached.canonical
  refine ⟨h.faults, drafts, ?_, canonical, fun given => ?_⟩
  · have queries : (applyAll g calls {}).query.respelled g g.registered =
        (applyAll g calls' {}).query.respelled g g.registered := congrArg Draft.query drafts
    have text := Filter.lower_ofQuery (g := g) g.sameFolded_registered
    rw [sameFolded_iff, ← text (applyAll g calls {}).query, queries, text]
  · have fresh : ({} : Draft).respelled g id = {} := rfl
    have own : applyAll g (respelledAll g id calls) (({} : Draft).respelled g id) =
        (applyAll g calls {}).respelled g id := applyAll_respelled Text.sameFolded_self calls {}
    rw [given, fresh] at own
    rw [own]
    exact canonical

def shoutedCalls : List Call :=
  [.compare .and "Id" "GE" (.int 1), .compare .or "n" "CONTAINS" (.text "x"),
    .group .or none [.columns .and "a" "NE" "b", .columns .or "c" "EndsWith" "",
      .compare .and "d" "Ne" .null],
    .group .and (some (applyAll .standard [.compare .and "e" "Lt" (.int 2)] {})) [.raw .or "f"],
    .compare .and "g" "GT" .null]

def quietCalls : List Call :=
  [.compare .and "Id" "ge" (.int 1), .compare .or "n" "contains" (.text "x"),
    .group .or none [.columns .and "a" "ne" "b", .columns .or "c" "endswith" "",
      .compare .and "d" "ne" .null],
    .group .and (some (applyAll .standard [.compare .and "e" "lt" (.int 2)] {})) [.raw .or "f"],
    .compare .and "g" "gt" .null]

theorem recased_calls_quiet :
    RecasedAll .standard quietCalls shoutedCalls ∧
      respelledAll .standard id quietCalls = quietCalls ∧
      ((partsOf shoutedCalls).map fun call => (call.fault .standard).isSome) =
        [false, false, false, false, false, false, false, false, true] ∧
      (applyAll .standard quietCalls {}).respelled .standard Grammar.standard.registered =
        (applyAll .standard shoutedCalls {}).respelled .standard Grammar.standard.registered ∧
      Filter.ofQuery (applyAll .standard quietCalls {}).query =
        "Id ge 1 or contains(n,'x') or (a ne b or c eq endswith and d ne null) and (e lt 2 or f)" ∧
      sameFolded (Filter.ofQuery (applyAll .standard quietCalls {}).query)
        (Filter.ofQuery (applyAll .standard shoutedCalls {}).query) ∧
      (applyAll .standard quietCalls {}).query.Throughout (Query.Canonical .standard) := by
  have recased : RecasedAll .standard quietCalls shoutedCalls := by
    refine .cons (.compare (by decide) (by decide)) (.cons (.compare (by decide) (by decide))
      (.cons (.group ?_) (.cons (.resumed ?_ ?_) (.cons (.compare (by decide) (by decide)) .nil))))
    · exact .cons (.columns (by decide) (by decide)) (.cons (.columns (by decide) (by decide))
        (.cons (.compare (by decide) (by decide)) .nil))
    · exact .cons (.compare (by decide) (by decide)) .nil
    · exact .cons (.same rfl) .nil
  have given : respelledAll .standard id quietCalls = quietCalls := rfl
  obtain ⟨faults, drafts, filters, -, canonical⟩ := recased_calls recased
  refine ⟨recased, given, ?_, drafts, ?_, filters, canonical given⟩
  · rw [← faults]
    rfl
  · decide +kernel

def Call.filter (call : Call) : String := Filter.ofQuery (Draft.apply .standard call {}).query

/-- Words go into a filter in the case in which they are given, which need not be that of the
protocol or of the registry. -/
theorem filter_in_given_case :
    Call.Recased .standard (.compare .and "Age" "gt" (.int 1)) (.compare .and "Age" "GT" (.int 1)) ∧
      Call.filter (.compare .and "Age" "gt" (.int 1)) = "Age gt 1" ∧
      Call.filter (.compare .and "Age" "GT" (.int 1)) = "Age GT 1" ∧
      "GT" ∉ Operator.protocol ∧
    Call.Recased .standard (.compare .and "Name" "contains" (.text "an"))
        (.compare .and "Name" "CONTAINS" (.text "an")) ∧
      Call.filter (.compare .and "Name" "contains" (.text "an")) = "contains(Name,'an')" ∧
      Call.filter (.compare .and "Name" "CONTAINS" (.text "an")) = "CONTAINS(Name,'an')" ∧
      "CONTAINS" ∉ Grammar.standard.functions ∧
    Call.Recased .standard (.columns .and "a" "contains" "b") (.columns .and "a" "CONTAINS" "b") ∧
      Call.filter (.columns .and "a" "contains" "b") = "a eq contains" ∧
      Call.filter (.columns .and "a" "CONTAINS" "b") = "a eq CONTAINS" := by
  refine ⟨.compare (by decide) (by decide), ?_, ?_, ?_, .compare (by decide) (by decide), ?_, ?_,
    ?_, .columns (by decide) (by decide), ?_, ?_⟩ <;> decide +kernel

end OData
