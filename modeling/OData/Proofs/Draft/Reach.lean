import OData.Proofs.Draft.Components
import OData.Proofs.Filter.ReadBack

/-!
# What calls keep

A draft is made by calls, starting from nothing, and a group may start from a draft that was
made in the same way (`Reached`). What is asked of a query alone, and is kept by every call that
is accepted (`Kept`), holds therefore of the query of such a draft and of every group in it, at
every depth (`Kept.throughout`).
-/

namespace OData

/-! ## Calls and the drafts that they make -/

mutual

/-- A call and the calls of its groups, at every depth. -/
def Call.parts : Call → List Call
  | .group connector start calls => .group connector start calls :: partsOf calls
  | call => [call]

def partsOf : List Call → List Call
  | [] => []
  | call :: calls => call.parts ++ partsOf calls

end

def Call.isGroup : Call → Bool
  | .group .. => true
  | _ => false

theorem mem_parts {call : Call} (single : call.isGroup = false) : call ∈ call.parts := by
  cases call with
  | group => cases single
  | _ =>
    rw [Call.parts]
    · exact .head _
    · nofun

/-- The draft that a group starts from in place of an empty one. -/
def Call.stored? : Call → Option Draft
  | .group _ start _ => start
  | _ => none

/-- The drafts made by allowed calls alone, in the groups as well, and in the drafts that groups
start from. -/
inductive Reached (g : Grammar) (allowed : Call → Prop) : Draft → Prop where
  | calls (calls : List Call) (own : ∀ call ∈ partsOf calls, allowed call)
      (stored : ∀ call ∈ partsOf calls, ∀ d, call.stored? = some d → Reached g allowed d) :
      Reached g allowed (applyAll g calls {})

/-- Allowed calls, whose groups start from drafts made by allowed calls. -/
structure Admitted (g : Grammar) (allowed : Call → Prop) (calls : List Call) : Prop where
  own : ∀ call ∈ partsOf calls, allowed call
  stored : ∀ call ∈ partsOf calls, ∀ d, call.stored? = some d → Reached g allowed d

variable {g : Grammar} {allowed : Call → Prop}

theorem Admitted.reached {calls : List Call} (h : Admitted g allowed calls) :
    Reached g allowed (applyAll g calls {}) :=
  .calls calls h.own h.stored

/-- No group starts from a draft that was kept. -/
theorem Admitted.of_unstored {calls : List Call} (own : ∀ call ∈ partsOf calls, allowed call)
    (empty : ∀ call ∈ partsOf calls, call.stored?.isNone) : Admitted g allowed calls := by
  refine ⟨own, fun call member d stored => ?_⟩
  have none := empty call member
  rw [stored] at none
  cases none

/-! ## Queries and their groups -/

def Query.Throughout (P : Query → Prop) (q : Query) : Prop := ∀ r : Query, r.Within q → P r

variable {P : Query → Prop} {q q' : Query}

theorem Query.throughout_iff :
    q.Throughout P ↔ P q ∧ ∀ k child, ⟨k, .group child⟩ ∈ q.clauses → child.Throughout P := by
  constructor
  · intro h
    exact ⟨h q .self, fun k child member r within => h r (.group member within)⟩
  · rintro ⟨own, groups⟩ r within
    cases within with
    | self => exact own
    | group member within => exact groups _ _ member r within

theorem Query.Throughout.of_clauses (h : q.Throughout P) (same : q'.clauses = q.clauses)
    (own : P q') : q'.Throughout P := by
  rw [throughout_iff, same]
  exact ⟨own, (throughout_iff.1 h).2⟩

theorem Query.Throughout.push {connector : Connector} {condition : Condition}
    (h : q.Throughout P) (own : P (q.push connector condition))
    (group : ∀ child, condition = .group child → child.Throughout P) :
    (q.push connector condition).Throughout P := by
  refine throughout_iff.2 ⟨own, fun k child member => ?_⟩
  rcases List.mem_append.1 member with old | new
  · exact (throughout_iff.1 h).2 k child old
  · cases List.mem_singleton.1 new
    exact group child rfl

/-! ## What an accepted call does -/

/-- A condition as a single call writes it: names of operators and functions are known, and null
is compared with nothing. -/
def Condition.Elementary (g : Grammar) : Condition → Prop
  | .compare _ op value => Operator.isKnown op ∧ value ≠ .null
  | .function name _ value => g.isFunction name ∧ value ≠ .null
  | .columns _ op _ => Operator.isKnown op
  | .raw _ | .isNull _ _ | .isIn _ _ _ => True
  | .group _ => False

theorem Value.isNull_iff {v : Value} : v.isNull = true ↔ v = .null := by
  cases v <;> simp [Value.isNull]

theorem comparison_elementary {column operator : String} {value : Value} {condition : Condition}
    (h : g.comparison column operator value = .ok condition) : condition.Elementary g := by
  unfold Grammar.comparison at h
  dsimp only at h
  by_cases known : (g.isFunction operator || Operator.isKnown operator) = true
  · rw [if_pos known] at h
    dsimp only at h
    by_cases null : value.isNull = true
    · rw [if_pos null] at h
      split at h
      · cases h; trivial
      · cases h
    · have some' : value ≠ .null := fun e => null (Value.isNull_iff.2 e)
      rw [if_neg null] at h
      split at h
      · next isFunction => cases h; exact ⟨isFunction, some'⟩
      · next plain => cases h; exact ⟨by simpa [plain] using known, some'⟩
  · have plain : g.isFunction operator = false := by
      rw [Bool.or_eq_true, not_or] at known
      exact Bool.eq_false_iff.2 known.1
    rw [if_neg known] at h
    simp only [Value.isNull, plain, Bool.false_eq_true, if_false] at h
    cases h
    exact ⟨by decide, Value.noConfusion⟩

theorem columnComparison_elementary (first operator second : String) :
    (columnComparison first operator second).Elementary g := by
  unfold columnComparison
  split
  · next known => exact known
  · exact show Operator.isKnown "=" = true by decide

/-- The literals that a call records under a kind. -/
def Call.bound (kind : BindingKind) : Call → List Value
  | .bind word values => if BindingKind.parse? word = some kind then values else []
  | _ => []

/-- A call on the conditions that makes no group adds one condition at the end. -/
theorem change_elementary {call : Call} (single : call.isGroup = false)
    (filter : call.component? = some .filter) (changed : call.change g q = .ok q') :
    ∃ connector condition, condition.Elementary g ∧ q' = q.push connector condition := by
  cases call with
  | compare connector column operator value =>
    rw [Call.change] at changed
    cases r : g.comparison column operator value with
    | error m => rw [r] at changed; cases changed
    | ok condition =>
      rw [r] at changed
      cases changed
      exact ⟨connector, condition, comparison_elementary r, rfl⟩
  | columns connector first operator second =>
    rw [Call.change] at changed
    cases changed
    exact ⟨connector, _, columnComparison_elementary first operator second, rfl⟩
  | isNull connector column negated =>
    rw [Call.change] at changed
    cases changed
    exact ⟨connector, .isNull column negated, trivial, rfl⟩
  | isIn connector column values negated =>
    rw [Call.change] at changed
    cases changed
    exact ⟨connector, .isIn column values negated, trivial, rfl⟩
  | raw connector text =>
    rw [Call.change] at changed
    cases changed
    exact ⟨connector, .raw text, trivial, rfl⟩
  | group => cases single
  | _ => cases filter

/-- Any other call leaves the conditions as they are, and records what it binds. -/
theorem change_apart {call : Call} (apart : call.component? ≠ some .filter)
    (proper : call.startsOver = false) (changed : call.change g q = .ok q') :
    q'.clauses = q.clauses ∧
      ∀ kind, q'.bindings.get kind = q.bindings.get kind ++ call.bound kind := by
  cases call with
  | compare | columns | isNull | isIn | raw | group => exact absurd rfl apart
  | bind word values =>
    rw [Call.change] at changed
    split at changed
    · next kind parsed =>
      cases changed
      refine ⟨rfl, fun kind' => ?_⟩
      rw [Bindings.get_extend, Call.bound, parsed]
      by_cases same : kind = kind'
      · rw [if_pos same, if_pos (congrArg some same)]
      · rw [if_neg same, if_neg (fun e => same (Option.some.inj e)), List.append_nil]
    · cases changed
  | fresh => cases proper
  | _ =>
    rw [Call.change] at changed
    cases changed
    exact ⟨rfl, fun kind => (List.append_nil _).symm⟩

/-- A group is added if it has conditions, and none of its calls was misused. -/
theorem change_group {connector : Connector} {start : Option Draft} {calls : List Call}
    (changed : (Call.group connector start calls).change g q = .ok q') :
    let child := (applyAll g calls (Draft.groupStart q start)).query
    child.hasClauses ∧ q' = q.push connector (.group child) ∨ q' = q := by
  rw [Call.change, Draft.close] at changed
  split at changed
  · cases changed
  · split at changed
    · next some' => cases changed; exact .inl ⟨some', rfl⟩
    · cases changed; exact .inr rfl

/-! ## What every call keeps -/

/-- A property of queries that holds at the start of a draft and of a group, and that is kept by
every call that is accepted. -/
structure Kept (g : Grammar) (allowed : Call → Prop) (P : Query → Prop) : Prop where
  start (set : Option String) : P { entitySet := set }
  /-- By calls that do not concern the conditions. -/
  apart {call : Call} {q q' : Query} : allowed call → call.component? ≠ some .filter →
    call.startsOver = false → P q → call.change g q = .ok q' → P q'
  condition {q : Query} {condition : Condition} (connector : Connector) :
    condition.Elementary g → P q → P (q.push connector condition)
  group {q child : Query} (connector : Connector) : child.hasClauses → P q → P child →
    P (q.push connector (.group child))

namespace Kept

variable (kept : Kept g allowed P)

include kept

theorem throughout_start (set : Option String) : Query.Throughout P { entitySet := set } :=
  Query.throughout_iff.2 ⟨kept.start set, nofun⟩

theorem single {call : Call} (single : call.isGroup = false)
    (own : ∀ part ∈ call.parts, allowed part) (h : q.Throughout P)
    (changed : call.change g q = .ok q') : q'.Throughout P := by
  by_cases filter : call.component? = some .filter
  · obtain ⟨connector, condition, elementary, rfl⟩ := change_elementary single filter changed
    refine h.push (kept.condition connector elementary (h q .self)) ?_
    rintro child rfl
    exact elementary.elim
  · cases fresh : call.startsOver with
    | true =>
      cases call with
      | fresh => rw [Call.change] at changed; cases changed; exact kept.throughout_start none
      | _ => cases fresh
    | false =>
      have mine := own call (mem_parts single)
      have same := (change_apart filter fresh changed).1
      exact h.of_clauses same (kept.apart mine filter fresh (h q .self) changed)

mutual

theorem change : (call : Call) → (∀ part ∈ call.parts, allowed part) →
    (∀ part ∈ call.parts, ∀ d, part.stored? = some d → d.query.Throughout P) →
    {q q' : Query} → q.Throughout P → call.change g q = .ok q' → q'.Throughout P
  | .group connector start calls, own, stored, q, q', h, changed => by
    rw [Call.parts] at own stored
    have started : (Draft.groupStart q start).query.Throughout P := by
      cases start with
      | none => exact kept.throughout_start q.entitySet
      | some d => exact stored _ (.head _) d rfl
    have inner := applyAll calls (fun part member => own part (.tail _ member))
      (fun part member => stored part (.tail _ member)) started
    rcases change_group changed with ⟨some', rfl⟩ | rfl
    · refine h.push (kept.group connector some' (h q .self) (inner _ .self)) ?_
      rintro child ⟨⟩
      exact inner
    · exact h
  | .entitySet _, own, _, _, _, h, changed | .select _, own, _, _, _, h, changed
  | .key _, own, _, _, _, h, changed | .compare .., own, _, _, _, h, changed
  | .columns .., own, _, _, _, h, changed | .isNull .., own, _, _, _, h, changed
  | .isIn .., own, _, _, _, h, changed | .raw .., own, _, _, _, h, changed
  | .bind .., own, _, _, _, h, changed | .expand _, own, _, _, _, h, changed
  | .order _, own, _, _, _, h, changed | .rawOrder _, own, _, _, _, h, changed
  | .skip _, own, _, _, _, h, changed | .skipToken _, own, _, _, _, h, changed
  | .take _, own, _, _, _, h, changed | .pageSize _, own, _, _, _, h, changed
  | .fresh, own, _, _, _, h, changed =>
    kept.single rfl own h changed

theorem applyAll : (calls : List Call) → (∀ part ∈ partsOf calls, allowed part) →
    (∀ part ∈ partsOf calls, ∀ d, part.stored? = some d → d.query.Throughout P) →
    {d : Draft} → d.query.Throughout P → (applyAll g calls d).query.Throughout P
  | [], _, _, d, h => by rwa [OData.applyAll]
  | call :: calls, own, stored, d, h => by
    rw [partsOf] at own stored
    have first : (d.apply g call).query.Throughout P := by
      rw [apply_eq]
      split
      · exact kept.throughout_start none
      · cases changed : call.change g d.query with
        | error m => exact h
        | ok q =>
          exact change call (fun part member => own part (List.mem_append_left _ member))
            (fun part member => stored part (List.mem_append_left _ member)) h changed
    rw [applyAll_cons]
    exact applyAll calls (fun part member => own part (List.mem_append_right _ member))
      (fun part member => stored part (List.mem_append_right _ member)) first

end

/-- What calls keep holds of the query of every draft that they make, and of every group in it. -/
theorem throughout {d : Draft} (h : Reached g allowed d) : d.query.Throughout P := by
  induction h with
  | calls calls own stored ih => exact kept.applyAll calls own ih (kept.throughout_start none)

end Kept

end OData
