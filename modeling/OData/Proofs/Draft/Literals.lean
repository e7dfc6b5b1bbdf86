import OData.Proofs.Draft.Reach

/-!
# Recorded literals

A query records the literals that its conditions bring in, in a list of its own beside the
conditions. As long as no call binds literals to the filter by itself, that list is what a walk
over the conditions finds, from left to right and through all groups (`Query.values`). The lists
of the other kinds hold what the draft was told to bind, and nothing that was bound in a group.
-/

namespace OData

variable {g : Grammar}

/-! ## A walk over the conditions -/

mutual

/-- The values that stand in a condition, from left to right. -/
def Condition.values : Condition → List Value
  | .compare _ _ value => [value]
  | .function _ _ value => [value]
  | .isIn _ values _ => values
  | .group q => q.values
  | .columns _ _ _ | .raw _ | .isNull _ _ => []

def clauseValues : List Clause → List Value
  | [] => []
  | ⟨_, condition⟩ :: rest => condition.values ++ clauseValues rest

def Query.values : Query → List Value
  | ⟨_, _, _, clauses, _, _, _, _, _, _, _, _, _⟩ => clauseValues clauses

end

theorem Query.values_eq (q : Query) : q.values = clauseValues q.clauses := by
  cases q
  rw [Query.values]

theorem clauseValues_append (front back : List Clause) :
    clauseValues (front ++ back) = clauseValues front ++ clauseValues back := by
  induction front with
  | nil => rw [clauseValues]; rfl
  | cons clause front ih =>
    obtain ⟨connector, condition⟩ := clause
    rw [List.cons_append, clauseValues, clauseValues, ih, List.append_assoc]

theorem Query.values_push (q : Query) (connector : Connector) (condition : Condition) :
    (q.push connector condition).values = q.values ++ condition.values := by
  rw [values_eq, values_eq]
  refine (clauseValues_append q.clauses [⟨connector, condition⟩]).trans ?_
  rw [clauseValues, clauseValues, List.append_nil]

/-- A condition that is no group brings in the values that stand in it. -/
theorem Condition.Elementary.literals {condition : Condition} (h : condition.Elementary g) :
    condition.literals = condition.values := by
  cases condition with
  | group q => exact h.elim
  | _ => rw [Condition.literals, Condition.values]

/-! ## Literals of the filter -/

def Query.RecordsValues (q : Query) : Prop := q.bindings.filter = q.values

def Call.LeavesFilter (call : Call) : Prop := call.bound .filter = []

instance (call : Call) : Decidable call.LeavesFilter :=
  inferInstanceAs (Decidable (call.bound .filter = []))

theorem kept_recordsValues : Kept g Call.LeavesFilter Query.RecordsValues where
  start set := by
    unfold Query.RecordsValues
    rw [Query.values_eq, clauseValues]
  apart {call q q'} own apart proper h changed := by
    obtain ⟨clauses, bindings⟩ := change_apart apart proper changed
    have unbound : q'.bindings.filter = q.bindings.filter ++ call.bound .filter := bindings .filter
    rw [Query.RecordsValues, unbound, own, List.append_nil, h, Query.values_eq, Query.values_eq,
      clauses]
  condition {q condition} connector elementary h := by
    rw [Query.RecordsValues, Query.values_push, ← h, ← elementary.literals]
    rfl
  group {q child} connector _ h inner := by
    rw [Query.RecordsValues, Query.values_push, ← h, Condition.values, ← inner]
    rfl

/-! ## Literals of the other kinds -/

/-- A condition records literals for the filter alone. -/
theorem get_push (q : Query) (connector : Connector) (condition : Condition) {kind : BindingKind}
    (other : kind ≠ .filter) :
    (q.push connector condition).bindings.get kind = q.bindings.get kind := by
  refine (Bindings.get_extend q.bindings .filter kind condition.literals).trans ?_
  rw [if_neg other.symm]

/-- Whatever a call is told, it records what it binds and nothing else. -/
theorem get_apply {call : Call} (proper : call.startsOver = false) {kind : BindingKind}
    (other : kind ≠ .filter) (d : Draft) :
    (d.apply g call).query.bindings.get kind = d.query.bindings.get kind ++ call.bound kind := by
  rw [apply_eq, proper, if_neg Bool.false_ne_true]
  cases changed : call.change g d.query with
  | error m =>
    have nothing : call.bound kind = [] := by
      cases call with
      | bind word values =>
        rw [Call.change] at changed
        split at changed
        · cases changed
        · next unknown => rw [Call.bound, unknown, if_neg (Option.some_ne_none _).symm]
      | _ => rfl
    rw [nothing, List.append_nil]
    rfl
  | ok q =>
    by_cases filter : call.component? = some .filter
    · have nothing : call.bound kind = [] := by
        cases call with
        | bind => cases filter
        | _ => rfl
      rw [nothing, List.append_nil]
      cases group : call.isGroup with
      | false =>
        obtain ⟨connector, condition, -, rfl⟩ := change_elementary group filter changed
        exact get_push d.query connector condition other
      | true =>
        cases call with
        | group connector start calls =>
          rcases change_group changed with ⟨-, rfl⟩ | rfl
          · exact get_push d.query connector _ other
          · rfl
        | _ => cases group
    · exact (change_apart filter proper changed).2 kind

theorem get_applyAll {calls : List Call} (chain : IsChain calls) {kind : BindingKind}
    (other : kind ≠ .filter) (d : Draft) :
    (applyAll g calls d).query.bindings.get kind =
      d.query.bindings.get kind ++ calls.flatMap (Call.bound kind) := by
  induction calls generalizing d with
  | nil => rw [applyAll, List.flatMap_nil, List.append_nil]
  | cons call calls ih =>
    rw [applyAll_cons, ih chain.tail, get_apply (chain call (.head calls)) other,
      List.flatMap_cons, List.append_assoc]

/-- A draft records for its filter, and for that of every group, the values of the conditions;
for the other kinds it records what its own calls bind. -/
theorem bindings_applyAll (calls : List Call) :
    (Admitted g Call.LeavesFilter calls → ∀ r : Query, r.Within (applyAll g calls {}).query →
      r.bindings.filter = r.values) ∧
    (IsChain calls → ∀ kind, kind ≠ .filter →
      (applyAll g calls {}).query.bindings.get kind = calls.flatMap (Call.bound kind)) := by
  constructor
  · exact fun admitted r within => kept_recordsValues.throughout admitted.reached r within
  · intro chain kind other
    have whole := get_applyAll (g := g) chain other {}
    rwa [show ({} : Draft).query.bindings.get kind = [] by cases kind <;> rfl] at whole

def tagCalls : List Call :=
  [.isIn .and "Tag" [.null, .text "a", .text "a"] false, .bind "order" [.int 9]]

/-- A group that starts from a draft kept before, an empty one, and one that is misused. -/
def groupedCalls : List Call :=
  [.entitySet "Orders", .compare .and "Id" "gt" (.int 1), .bind "select" [.int 7],
    .group .or (some (applyAll .standard tagCalls {})) [.compare .or "Note" "contains" (.text "b"),
      .group .and none [.columns .and "x" "lt" "y"], .isNull .and "z" true, .raw .or "w eq 5"],
    .group .and none [], .group .and none [.compare .and "c" "=" (.int 4), .bind "having" [.int 3]],
    .compare .or "Name" "Ann" .null, .bind "order" [.bool true]]

theorem bindings_applyAll_grouped :
    Admitted .standard Call.LeavesFilter groupedCalls ∧ IsChain groupedCalls ∧
      (applyAll .standard groupedCalls {}).query.bindings.filter =
        [.int 1, .null, .text "a", .text "a", .text "b", .text "Ann"] ∧
      (applyAll .standard groupedCalls {}).query.bindings.order = [.bool true] := by
  have tags : Admitted .standard Call.LeavesFilter tagCalls := .of_unstored (by decide) (by decide)
  have admitted : Admitted .standard Call.LeavesFilter groupedCalls := by
    refine ⟨by decide, fun call member d stored => ?_⟩
    have one : ∀ call ∈ partsOf groupedCalls, call.stored? = none ∨
        call.stored? = some (applyAll .standard tagCalls {}) := by
      simp [groupedCalls, partsOf, Call.parts, Call.stored?]
    rcases one call member with none | some'
    · rw [none] at stored; cases stored
    · rw [some'] at stored
      cases stored
      exact tags.reached
  have chain : IsChain groupedCalls := by decide
  obtain ⟨filter, others⟩ := bindings_applyAll (g := .standard) groupedCalls
  refine ⟨admitted, chain, ?_, ?_⟩
  · rw [filter admitted _ .self]
    decide +kernel
  · exact (others chain .order (by decide)).trans (by decide +kernel)

end OData
