import OData.Proofs.Draft.Reach

/-!
# Queries that calls can make

Calls take words for operators and functions, and not every word is one. What they make of them
is sound all the same (`Query.Sound`): operators and functions are known, null is compared with
nothing, and no group is empty. So the word between the two sides of a comparison is always an
operator of the protocol (`Query.OperatorsWritten`), and null in the place of a value asks for a
test for null (`change_null`).
-/

namespace OData

variable {g : Grammar}

/-! ## Operators as they are written -/

namespace Operator

/-- A keyword of the protocol in any case, or what a symbol stands for. -/
def isWritten (word : String) : Bool :=
  symbols.any (·.2 == word) || keywords.any (Text.sameFolded · word)

theorem isWritten_keyword {op : String} (known : isKnown op) : isWritten (keyword op) := by
  unfold keyword isWritten
  rw [Bool.or_eq_true]
  cases found : symbols.lookup op with
  | some word =>
    obtain ⟨front, back, table, -⟩ := List.lookup_eq_some_iff.1 found
    refine .inl (List.any_eq_true.2 ⟨(op, word), ?_, beq_self_eq_true word⟩)
    rw [table]
    exact List.mem_append_right _ (.head _)
  | none =>
    rw [isKnown, Bool.or_eq_true] at known
    refine .inr (known.resolve_left fun symbol => ?_)
    obtain ⟨entry, member, same⟩ := List.any_eq_true.1 symbol
    have differs := List.lookup_eq_none_iff.1 found entry member
    rw [eq_of_beq same] at differs
    simp at differs

/-- The test for null asks for what the operator does. -/
theorem keyword_of_nullNegation? {op : String} {negated : Bool}
    (h : nullNegation? op = some negated) :
    keyword (Text.lower op) = if negated then "ne" else "eq" := by
  unfold nullNegation? at h
  dsimp only at h
  split at h
  · next equal =>
    cases h
    rcases equal with e | e <;> rw [e] <;> decide
  · split at h
    · next different =>
      cases h
      rcases different with e | e | e <;> rw [e] <;> decide
    · cases h

end Operator

/-! ## Sound queries -/

/-- A condition in which names are known and null is compared with nothing, or a group that has
conditions. -/
def Condition.Sound (g : Grammar) : Condition → Prop
  | .group child => child.hasClauses
  | condition => condition.Elementary g

theorem Condition.Elementary.sound {condition : Condition} (h : condition.Elementary g) :
    condition.Sound g := by
  cases condition with
  | group => exact h.elim
  | _ => exact h

structure Query.Sound (g : Grammar) (q : Query) : Prop where
  conditions : ∀ clause ∈ q.clauses, clause.condition.Sound g
  isCount : q.isCount = false
  wantsTotal : q.wantsTotal = false

theorem Query.Sound.push {q : Query} (h : q.Sound g) (connector : Connector)
    {condition : Condition} (sound : condition.Sound g) : (q.push connector condition).Sound g where
  conditions := List.forall_mem_append.2 ⟨h.conditions, by simpa using sound⟩
  isCount := h.isCount
  wantsTotal := h.wantsTotal

theorem kept_sound : Kept g (fun _ => True) (Query.Sound g) where
  start set := ⟨nofun, rfl, rfl⟩
  apart _ apart proper h changed := by
    obtain ⟨isCount, wantsTotal⟩ := modes_change proper changed
    refine ⟨?_, isCount.trans h.isCount, wantsTotal.trans h.wantsTotal⟩
    rw [(change_apart apart proper changed).1]
    exact h.conditions
  condition connector elementary h := h.push connector elementary.sound
  group connector some' h _ := h.push connector some'

/-! ## Comparisons as they are written -/

/-- The two sides of a condition that has an operator between them. -/
def Condition.sides? : Condition → Option (String × String × String)
  | .compare column op value => some (column, Operator.keyword op, Literal.ofValue value)
  | .columns first op second => some (first, Operator.keyword op, second)
  | .isNull column negated => some (column, if negated then "ne" else "eq", "null")
  | .function .. | .raw _ | .isIn .. | .group _ => none

theorem conditionText_sides {condition : Condition} {left word right : String}
    (h : condition.sides? = some (left, word, right)) :
    Filter.conditionText condition = some (left ++ " " ++ word ++ " " ++ right) := by
  cases condition with
  | compare | columns => cases h; rfl
  | isNull column negated =>
    cases h
    cases negated <;> simp [Filter.conditionText, String.append_assoc]
  | _ => cases h

/-- Wherever there are two sides, an operator of the protocol is written between them. -/
def Query.OperatorsWritten (q : Query) : Prop :=
  ∀ clause ∈ q.clauses, ∀ left word right, clause.condition.sides? = some (left, word, right) →
    Operator.isWritten word ∧
      Filter.conditionText clause.condition = some (left ++ " " ++ word ++ " " ++ right)

theorem Query.Sound.operatorsWritten {q : Query} (h : q.Sound g) : q.OperatorsWritten := by
  intro clause member left word right sides
  refine ⟨?_, conditionText_sides sides⟩
  have sound := h.conditions clause member
  cases condition : clause.condition with
  | compare column op value =>
    rw [condition] at sides sound
    cases sides
    exact Operator.isWritten_keyword sound.1
  | columns first op second =>
    rw [condition] at sides sound
    cases sides
    exact Operator.isWritten_keyword sound
  | isNull column negated =>
    rw [condition] at sides
    cases sides
    cases negated <;> decide
  | _ => rw [condition] at sides; cases sides

/-! ## Null in the place of a value -/

/-- What a comparison with null makes of a query: a test for null that asks for what the operator
does, or, as a word that is no operator is the value, an equality with that word. -/
theorem change_null {connector : Connector} {column operator : String} {q q' : Query}
    (changed : (Call.compare connector column operator .null).change g q = .ok q') :
    (∃ negated, q' = q.push connector (.isNull column negated) ∧
      Operator.keyword (Text.lower operator) = if negated then "ne" else "eq") ∨
    g.isFunction operator = false ∧ Operator.isKnown operator = false ∧
      q' = q.push connector (.compare column "=" (.text operator)) := by
  rw [Call.change, Grammar.comparison] at changed
  dsimp only at changed
  by_cases known : (g.isFunction operator || Operator.isKnown operator) = true
  · rw [if_pos known] at changed
    simp only [Value.isNull, if_true] at changed
    cases asks : Operator.nullNegation? operator with
    | none => rw [asks] at changed; cases changed
    | some negated =>
      rw [asks] at changed
      cases changed
      exact .inl ⟨negated, rfl, Operator.keyword_of_nullNegation? asks⟩
  · have unknown := Bool.or_eq_false_iff.1 (Bool.eq_false_iff.2 known)
    rw [if_neg known] at changed
    simp only [Value.isNull, unknown.1, Bool.false_eq_true, if_false] at changed
    cases changed
    exact .inr ⟨unknown.1, unknown.2, rfl⟩

/-- Whatever calls are made, the query and every group in it are sound, operators are written where
operators belong, and one more comparison with null is a test for null. -/
theorem sound_of_reached {d : Draft} (h : Reached g (fun _ => True) d) :
    (∀ r : Query, r.Within d.query → r.Sound g ∧ r.OperatorsWritten) ∧
    ∀ connector column operator q',
      (Call.compare connector column operator .null).change g d.query = .ok q' →
      (∃ negated, q' = d.query.push connector (.isNull column negated) ∧
        Operator.keyword (Text.lower operator) = if negated then "ne" else "eq") ∨
      g.isFunction operator = false ∧ Operator.isKnown operator = false ∧
        q' = d.query.push connector (.compare column "=" (.text operator)) := by
  constructor
  · intro r within
    have sound := kept_sound.throughout h r within
    exact ⟨sound, sound.operatorsWritten⟩
  · exact fun connector column operator q' changed => change_null changed

/-- Operators and a function in capital letters, a value in the place of an operator, and null
behind an inequality in a group. -/
def mixedCalls : List Call :=
  [.compare .and "Id" "GE" (.int 1), .compare .or "Note" "CONTAINS" (.text "x"),
    .compare .and "Name" "Ann" .null,
    .group .or none [.columns .and "a" "!<" "b", .compare .and "c" "<>" .null]]

def mixedGroup : Query :=
  { clauses := [⟨.and, .columns "a" "!<" "b"⟩, ⟨.and, .isNull "c" true⟩] }

theorem sound_of_reached_mixed :
    Reached .standard (fun _ => True) (applyAll .standard mixedCalls {}) ∧
      mixedGroup.Within (applyAll .standard mixedCalls {}).query ∧
      mixedGroup.Sound .standard ∧
      Filter.conditionText (.columns "a" "!<" "b") = some "a not lt b" ∧
      ∃ negated, (Call.compare .and "d" "NE" .null).change .standard
          (applyAll .standard mixedCalls {}).query =
            .ok ((applyAll .standard mixedCalls {}).query.push .and (.isNull "d" negated)) ∧
        Operator.keyword (Text.lower "NE") = if negated then "ne" else "eq" := by
  have reached : Reached .standard (fun _ => True) (applyAll .standard mixedCalls {}) :=
    (Admitted.of_unstored (fun _ _ => trivial) (by decide)).reached
  have clauses : (applyAll .standard mixedCalls {}).query.clauses =
      [⟨.and, .compare "Id" "GE" (.int 1)⟩, ⟨.or, .function "CONTAINS" "Note" (.text "x")⟩,
        ⟨.and, .compare "Name" "=" (.text "Ann")⟩, ⟨.or, .group mixedGroup⟩] := rfl
  have within : mixedGroup.Within (applyAll .standard mixedCalls {}).query := by
    refine .group (k := .or) ?_ .self
    rw [clauses]
    simp
  obtain ⟨everywhere, nulls⟩ := sound_of_reached reached
  obtain ⟨sound, written⟩ := everywhere mixedGroup within
  refine ⟨reached, within, sound, ?_, ?_⟩
  · exact (written _ (.head _) "a" "not lt" "b" rfl).2
  · have changed : (Call.compare .and "d" "NE" .null).change .standard
        (applyAll .standard mixedCalls {}).query =
        .ok ((applyAll .standard mixedCalls {}).query.push .and (.isNull "d" true)) := rfl
    rcases nulls .and "d" "NE" _ changed with ⟨negated, same, word⟩ | ⟨-, unknown, -⟩
    · exact ⟨negated, by rw [changed, same], word⟩
    · exact absurd unknown (by decide)

end OData
