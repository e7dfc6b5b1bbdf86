import OData.Proofs.Draft.Components

/-!
# Groups apart from their parents

A group brings its conditions and their literals into the query it is added to, and nothing
else, whatever draft it is made of (`query_apply_group`). Of the query that it holds only the
conditions are written, at every depth (`Regrouped.pieces_eq`), so nothing of a group but its
conditions shows in the URIs of its parent (`group_isolated`).
-/

namespace OData

/-! ## Around a group -/

/-- The draft that a group on a draft is made of. -/
def Draft.child (g : Grammar) (d : Draft) (start : Option Draft) (calls : List Call) : Draft :=
  applyAll g calls (groupStart d.query start)

theorem query_settle_close (d : Draft) (connector : Connector) (child : Draft) :
    (d.settle (Draft.close d.query connector child)).query =
      if child.misuse = none ∧ child.query.clauses ≠ [] then
        d.query.push connector (.group child.query)
      else d.query := by
  unfold Draft.close
  cases misuse : child.misuse with
  | some m => simp [Draft.settle]
  | none =>
    by_cases empty : child.query.clauses = []
    · simp [Draft.settle, Query.hasClauses, empty]
    · simp [Draft.settle, Query.hasClauses, empty]

/-- The query with a group, if the draft that the group is made of can be used and has
conditions. -/
theorem query_apply_group (g : Grammar) (d : Draft) (connector : Connector) (start : Option Draft)
    (calls : List Call) :
    (d.apply g (.group connector start calls)).query =
      if (d.child g start calls).misuse = none ∧ (d.child g start calls).query.clauses ≠ [] then
        d.query.push connector (.group (d.child g start calls).query)
      else d.query := by
  rw [apply_eq, if_neg (by simp [Call.startsOver]), Call.change, query_settle_close, Draft.child]

/-! ## Within a group -/

/-- The same clauses but for the queries of groups: of these only the clauses are the same, again
but for groups, and a group that writes nothing may be left out. -/
inductive Regrouped : List Clause → List Clause → Prop
  | nil : Regrouped [] []
  | cons (clause : Clause) {rest rest' : List Clause} : Regrouped rest rest' →
      Regrouped (clause :: rest) (clause :: rest')
  | group (connector : Connector) {q q' : Query} {rest rest' : List Clause} :
      Regrouped q.clauses q'.clauses → Regrouped rest rest' →
      Regrouped (⟨connector, .group q⟩ :: rest) (⟨connector, .group q'⟩ :: rest')
  | blank (connector : Connector) {q : Query} {rest rest' : List Clause} :
      Filter.ofQuery q = "" → Regrouped rest rest' →
      Regrouped (⟨connector, .group q⟩ :: rest) rest'

namespace Regrouped

variable {clauses clauses' : List Clause}

theorem pieces_eq (h : Regrouped clauses clauses') :
    Filter.pieces clauses = Filter.pieces clauses' := by
  induction h with
  | nil => rfl
  | cons clause _ ih =>
    obtain ⟨connector, condition⟩ := clause
    rw [Filter.pieces_cons, Filter.pieces_cons, ih]
  | @group connector q q' rest rest' _ _ inner ih =>
    have same : Filter.conditionText (.group q) = Filter.conditionText (.group q') := by
      rw [Filter.conditionText, Filter.conditionText, Filter.ofQuery_eq_assemble,
        Filter.ofQuery_eq_assemble, inner]
    rw [Filter.pieces_cons, Filter.pieces_cons, same, ih]
  | blank connector blank _ ih =>
    rw [Filter.pieces_cons, Filter.conditionText, if_pos blank]
    exact ih

theorem alike {q : Query} (h : Regrouped q.clauses clauses') :
    Query.Alike { q with clauses := clauses' } q where
  isCount := rfl
  wantsTotal := rfl
  content k _ := by
    cases k with
    | filter => exact h.pieces_eq.symm
    | _ => rfl

end Regrouped

/-! ## Isolation -/

/-- A call that adds a group changes the query by one clause and its literals at most, from
whichever draft the group is made; and in a query, whatever its groups hold beside their
conditions, and whether those that write nothing are there at all, shows neither in the filter
nor in a path or URI. -/
theorem group_isolated (g : Grammar) (d : Draft) (connector : Connector) (start : Option Draft)
    (calls : List Call) :
    ((d.apply g (.group connector start calls)).query =
      if (d.child g start calls).misuse = none ∧ (d.child g start calls).query.clauses ≠ [] then
        { d.query with
          clauses := d.query.clauses ++ [⟨connector, .group (d.child g start calls).query⟩]
          bindings :=
            { d.query.bindings with
              filter := d.query.bindings.filter ++
                (d.child g start calls).query.bindings.filter } }
      else d.query) ∧
    ∀ (q : Query) (clauses : List Clause), Regrouped q.clauses clauses →
      Filter.ofQuery { q with clauses } = Filter.ofQuery q ∧
      ∀ form, Query.path form { q with clauses } = q.path form ∧
        Query.uri form { q with clauses } = q.uri form := by
  refine ⟨query_apply_group g d connector start calls, fun q clauses h => ⟨?_, fun form => ?_⟩⟩
  · rw [Filter.ofQuery_eq_assemble, Filter.ofQuery_eq_assemble, h.pieces_eq]
  · exact ⟨h.alike.path form, h.alike.uri form⟩

/-- A draft with something in every part of its query, which has a group without conditions. -/
def stocked : Draft :=
  { query :=
      { entitySet := some "Orders"
        key := some (.text "a")
        properties := some ["Id"]
        clauses := [⟨.and, .compare "Total" "gt" (.int 5)⟩, ⟨.or, .group { take := some 2 }⟩]
        orders := [⟨"Id", .descending⟩]
        expansions := ["Lines"]
        take := some 3
        skip := some 1
        skipToken := some "t"
        isCount := true
        wantsTotal := true
        bindings := { select := [.text "s"], filter := [.int 5] } } }

/-- Of the draft the group has the condition and the literal. -/
theorem group_isolated_stocked :
    let parent : Draft := { query := { entitySet := some "People", skip := some 4 } }
    let q := (parent.apply .standard (.group .and (some stocked) [.pageSize 7])).query
    q.bindings = { filter := [.int 5] } ∧ q.key = none ∧ q.take = none ∧ q.skip = some 4 ∧
      q.uri .sent = "People?$filter=%28Total%20gt%205%29&$skip=4" ∧
      (Query.uri .sent { q with
        clauses := [⟨.and, .group { clauses := [⟨.and, .compare "Total" "gt" (.int 5)⟩] }⟩] }) =
        q.uri .sent := by
  intro parent q
  obtain ⟨changed, written⟩ := group_isolated .standard parent .and (some stocked) [.pageSize 7]
  have clauses : q.clauses = [⟨.and, .group stocked.query⟩] := rfl
  have regrouped : Regrouped q.clauses
      [⟨.and, .group { clauses := [⟨.and, .compare "Total" "gt" (.int 5)⟩] }⟩] := by
    rw [clauses]
    refine .group .and (.cons _ (.blank .or ?_ .nil)) .nil
    decide +kernel
  refine ⟨?_, ?_, ?_, ?_, ?_, ((written q _ regrouped).2 .sent).2⟩
  · exact congrArg Query.bindings changed
  · exact congrArg Query.key changed
  · exact congrArg Query.take changed
  · exact congrArg Query.skip changed
  · decide +kernel

end OData
