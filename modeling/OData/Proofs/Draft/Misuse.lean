import OData.Draft.Basic

/-!
# Misused calls

Whether a call is misused can be told from the call alone (`Call.fault`): what it is made
on makes no difference (`refusal_change`). A misused call leaves the query as it is and is
kept if it is the first, so a chain of calls leads to the same query without its misused calls
(`query_of_proper`), and its draft keeps the first of them (`misuse_of_chain`).
-/

namespace OData

/-- What is wrong with a comparison: null and an operator that is no equality. A word that is
neither an operator nor a function is a value, and no value written that way is null. -/
def Grammar.comparisonFault (g : Grammar) (operator : String) (value : Value) : Option Misuse :=
  if (g.isFunction operator || Operator.isKnown operator) && value.isNull &&
      (Operator.nullNegation? operator).isNone
  then some (.illegalNull operator)
  else none

mutual

/-- What is wrong with a call, if anything is. A group is misused if the draft is that comes out
of it. -/
def Call.fault (g : Grammar) : Call → Option Misuse
  | .compare _ _ operator value => g.comparisonFault operator value
  | .bind kind _ =>
    if (BindingKind.parse? kind).isNone then some (.unknownBindingKind kind) else none
  | .group _ start calls => faultAfter g calls (start.bind Draft.misuse)
  | _ => none

/-- The misuse that a draft keeps after a sequence of calls, given the one it keeps before. -/
def faultAfter (g : Grammar) : List Call → Option Misuse → Option Misuse
  | [], m => m
  | call :: calls, m => faultAfter g calls (if call.startsOver then none else m.or (call.fault g))

end

def refusal {α : Type} : Except Misuse α → Option Misuse
  | .ok _ => none
  | .error m => some m

variable {g : Grammar}

theorem refusal_map {α β : Type} (f : α → β) (r : Except Misuse α) :
    refusal (r.map f) = refusal r := by
  cases r <;> rfl

theorem refusal_comparison (column operator : String) (value : Value) :
    refusal (g.comparison column operator value) = g.comparisonFault operator value := by
  unfold Grammar.comparison Grammar.comparisonFault
  by_cases known : (g.isFunction operator || Operator.isKnown operator) = true
  · by_cases null : value.isNull = true
    · simp only [known, null, if_true, Bool.true_and]
      cases Operator.nullNegation? operator <;> rfl
    · have some' : value.isNull = false := Bool.eq_false_iff.2 null
      simp only [known, some', if_true, Bool.true_and, Bool.false_and, Bool.false_eq_true, if_false]
      split <;> rfl
  · obtain ⟨plain, word⟩ := Bool.or_eq_false_iff.1 (Bool.eq_false_iff.2 known)
    simp [plain, word, Value.isNull, refusal]

theorem Draft.misuse_settle (d : Draft) (r : Except Misuse Query) :
    (d.settle r).misuse = d.misuse.or (refusal r) := by
  cases r with
  | ok q => exact (Option.or_none).symm
  | error m => rfl

/-- What becomes of some part of the query is told by the part and what the change makes of it. -/
theorem Draft.settle_congr {β : Type} (view : Query → β) {r s : Except Misuse Query}
    (changed : r.map view = s.map view) {d e : Draft} (same : view d.query = view e.query) :
    view (d.settle r).query = view (e.settle s).query := by
  cases r with
  | ok q =>
    cases s with
    | ok q' => exact Except.ok.inj changed
    | error m => cases changed
  | error m =>
    cases s with
    | ok q' => cases changed
    | error m' => exact same

mutual

/-- A call is refused for what is wrong with it, on every query. -/
theorem refusal_change : (call : Call) → (q : Query) → refusal (call.change g q) = call.fault g
  | .compare connector column operator value, q => by
    rw [Call.change, refusal_map, refusal_comparison, Call.fault]
  | .bind kind values, q => by
    rw [Call.change, Call.fault]
    cases BindingKind.parse? kind <;> rfl
  | .group connector start calls, q => by
    rw [Call.change, Call.fault, Draft.close]
    have started : (Draft.groupStart q start).misuse = start.bind Draft.misuse := by
      cases start <;> rfl
    rw [← started, ← misuse_applyAll calls]
    cases (applyAll g calls (Draft.groupStart q start)).misuse <;> rfl
  | .entitySet _, _ | .select _, _ | .key _, _ | .columns .., _ | .isNull .., _ | .isIn .., _
  | .raw .., _ | .expand _, _ | .order _, _ | .rawOrder _, _ | .skip _, _ | .skipToken _, _
  | .take _, _ | .pageSize _, _ | .fresh, _ => by
    simp only [Call.change, Call.fault, refusal]

theorem misuse_applyAll : (calls : List Call) → (d : Draft) →
    (applyAll g calls d).misuse = faultAfter g calls d.misuse
  | [], d => by rw [applyAll, faultAfter]
  | call :: calls, d => by
    rw [applyAll, faultAfter, misuse_applyAll calls]
    congr 1
    split
    · rfl
    · rw [Draft.misuse_settle, refusal_change call]

end

/-! ## Chains -/

def IsChain (calls : List Call) : Prop := ∀ call ∈ calls, call.startsOver = false

instance (calls : List Call) : Decidable (IsChain calls) :=
  inferInstanceAs (Decidable (∀ call ∈ calls, call.startsOver = false))

def firstFault (g : Grammar) (calls : List Call) : Option Misuse := calls.findSome? (Call.fault g)

theorem IsChain.tail {call : Call} {calls : List Call} (chain : IsChain (call :: calls)) :
    IsChain calls := fun c hc => chain c (.tail call hc)

/-- A group is misused as the draft is that comes out of it. -/
theorem fault_group (connector : Connector) (start : Option Draft) (calls : List Call) (q : Query) :
    (Call.group connector start calls).fault g =
      (applyAll g calls (Draft.groupStart q start)).misuse := by
  rw [Call.fault, misuse_applyAll]
  cases start <;> rfl

theorem apply_eq (call : Call) (d : Draft) :
    d.apply g call = if call.startsOver then {} else d.settle (call.change g d.query) := by
  rw [Draft.apply, applyAll, applyAll]

theorem applyAll_cons (call : Call) (calls : List Call) (d : Draft) :
    applyAll g (call :: calls) d = applyAll g calls (d.apply g call) := by
  rw [Draft.apply, applyAll, applyAll, applyAll]

theorem faultAfter_chain {calls : List Call} (chain : IsChain calls) (m : Option Misuse) :
    faultAfter g calls m = m.or (firstFault g calls) := by
  induction calls generalizing m with
  | nil => exact Option.or_none.symm
  | cons call calls ih =>
    rw [faultAfter, chain call (.head calls), if_neg Bool.false_ne_true, ih chain.tail,
      Option.or_assoc]
    rw [firstFault, firstFault, List.findSome?_cons]
    cases call.fault g <;> rfl

/-- A draft keeps the first misuse of its chain of calls. -/
theorem misuse_of_chain {calls : List Call} (chain : IsChain calls) (d : Draft) :
    (applyAll g calls d).misuse = d.misuse.or (firstFault g calls) := by
  rw [misuse_applyAll, faultAfter_chain chain]

/-- A misused call changes nothing but the misuse that is kept. -/
theorem apply_of_fault {call : Call} {m : Misuse} (fault : call.fault g = some m) (d : Draft) :
    d.apply g call = { d with misuse := d.misuse.or (some m) } := by
  have proper : call.startsOver = false := by
    cases call with
    | fresh => cases fault
    | _ => rfl
  have refused : call.change g d.query = .error m := by
    have e := refusal_change (g := g) call d.query
    rw [fault] at e
    cases r : call.change g d.query with
    | ok q => rw [r] at e; cases e
    | error m' => rw [r] at e; cases e; rfl
  rw [apply_eq, proper, refused]
  rfl

/-- The misuse that is kept has no part in what becomes of the query. -/
theorem query_apply_congr (call : Call) {d e : Draft} (same : d.query = e.query) :
    (d.apply g call).query = (e.apply g call).query := by
  rw [apply_eq, apply_eq, same]
  split
  · rfl
  · exact Draft.settle_congr id rfl same

theorem query_applyAll_congr (calls : List Call) {d e : Draft} (same : d.query = e.query) :
    (applyAll g calls d).query = (applyAll g calls e).query := by
  induction calls generalizing d e with
  | nil => rwa [applyAll, applyAll]
  | cons call calls ih =>
    rw [applyAll_cons, applyAll_cons]
    exact ih (query_apply_congr call same)

def properCalls (g : Grammar) (calls : List Call) : List Call :=
  calls.filter fun call => (call.fault g).isNone

theorem query_properCalls (calls : List Call) (d : Draft) :
    (applyAll g (properCalls g calls) d).query = (applyAll g calls d).query := by
  induction calls generalizing d with
  | nil => rfl
  | cons call calls ih =>
    rw [properCalls, List.filter_cons, applyAll_cons]
    cases fault : call.fault g with
    | none =>
      rw [if_pos (Option.isNone_none), applyAll_cons]
      exact ih _
    | some m =>
      rw [if_neg (by simp), apply_of_fault fault, ← ih]
      exact query_applyAll_congr _ rfl

/-- A group is misused if the draft is that it starts from or a call on the way. -/
theorem isSome_fault_group {calls : List Call} (chain : IsChain calls) (connector : Connector)
    (start : Option Draft) :
    ((Call.group connector start calls).fault g).isSome =
      ((start.bind Draft.misuse).isSome || calls.any fun call => (call.fault g).isSome) := by
  rw [Call.fault, faultAfter_chain chain, Option.isSome_or, firstFault, List.isSome_findSome?]

theorem misuse_apply {call : Call} (proper : call.startsOver = false) (d : Draft) :
    (d.apply g call).misuse = d.misuse.or (call.fault g) := by
  rw [apply_eq, proper, if_neg Bool.false_ne_true, Draft.misuse_settle, refusal_change]

/-- Misused calls have no part in the query. They are those that a draft is told of, they change
nothing else of it, and a group is one of them if anything in it is. -/
theorem misused_leave_query (calls : List Call) (d : Draft) :
    (applyAll g calls d).query = (applyAll g (properCalls g calls) d).query ∧
    (∀ call : Call, call.startsOver = false → ∀ d : Draft,
      (d.apply g call).misuse = d.misuse.or (call.fault g)) ∧
    (∀ (call : Call) (m : Misuse), call.fault g = some m → ∀ d : Draft,
      d.apply g call = { d with misuse := d.misuse.or (some m) }) ∧
    ∀ (connector : Connector) (start : Option Draft) (inner : List Call), IsChain inner →
      ((Call.group connector start inner).fault g).isSome =
        ((start.bind Draft.misuse).isSome || inner.any fun call => (call.fault g).isSome) := by
  refine ⟨(query_properCalls calls d).symm, ?_, ?_, ?_⟩
  · exact fun call proper d => misuse_apply proper d
  · exact fun call m fault d => apply_of_fault fault d
  · exact fun connector start inner chain => isSome_fault_group chain connector start

def strayGroup : List Call :=
  [.compare .and "b" "=" (.int 2), .group .or none [.raw .and "c", .bind "having" [.int 3]]]

theorem misused_leave_query_stray :
    (applyAll .standard [.entitySet "Orders", .compare .or "a" ">" .null, .raw .and "kept",
        .bind "having" [.int 1], .group .or none strayGroup, .take 3] {}).query =
      (applyAll .standard [.entitySet "Orders", .raw .and "kept", .take 3] {}).query ∧
    (Draft.apply .standard (.group .or none strayGroup) {}).misuse =
      some (.unknownBindingKind "having") ∧
    Draft.apply .standard (.bind "having" [.int 1]) {} =
      { query := {}, misuse := some (.unknownBindingKind "having") } ∧
    ((Call.group .or none strayGroup).fault .standard).isSome = true := by
  obtain ⟨query, told, unchanged, group⟩ := misused_leave_query (g := .standard)
    [.entitySet "Orders", .compare .or "a" ">" .null, .raw .and "kept", .bind "having" [.int 1],
      .group .or none strayGroup, .take 3] {}
  have faulty : (Call.group .or none strayGroup).fault .standard =
      some (.unknownBindingKind "having") := by
    decide +kernel
  refine ⟨query.trans rfl, ?_, ?_, ?_⟩
  · exact (told (.group .or none strayGroup) rfl {}).trans faulty
  · exact unchanged (.bind "having" [.int 1]) _ (by decide +kernel) {}
  · rw [group .or none strayGroup (by decide)]
    decide +kernel

end OData
