import OData.Proofs.Draft.Refusal
import OData.Proofs.Filter.Rendering

/-!
# Components of a query

Every call concerns one component of a query, or none. What a component has of a query is told by
the calls on that component, in their order (`content_applyAll`), whatever other calls stand
between them. Two things have to be left out of account for this, and neither shows in a URI
(`Query.Alike`): a key takes away the limit, which an entity addressed by its key does not have,
and a group holds the set it was built on, of which only the conditions are written.
-/

namespace OData

variable {g : Grammar}

/-! ## What conditions write -/

namespace Filter

/-- A group writes its conditions in parentheses, or nothing if they write nothing. -/
def groupPieces (connector : Connector) (inner : List Piece) : List Piece :=
  if assemble inner = "" then [] else [⟨connector, "(" ++ assemble inner ++ ")"⟩]

theorem pieces_group (connector : Connector) (q : Query) :
    pieces [⟨connector, .group q⟩] = groupPieces connector (pieces q.clauses) := by
  rw [pieces_cons, conditionText, ofQuery_eq_assemble, groupPieces]
  by_cases blank : assemble (pieces q.clauses) = ""
  · rw [if_pos blank, if_pos blank]
    rfl
  · rw [if_neg blank, if_neg blank]
    rfl

end Filter

def Query.pieces (q : Query) : List Filter.Piece := Filter.pieces q.clauses

theorem Query.pieces_push (q : Query) (connector : Connector) (condition : Condition) :
    (q.push connector condition).pieces = q.pieces ++ Filter.pieces [⟨connector, condition⟩] :=
  List.filterMap_append

/-- Whether a draft without conditions is left out or written as a group makes no difference. -/
theorem pieces_close (q : Query) (connector : Connector) (child : Draft) :
    (Draft.close q connector child).map Query.pieces =
      match child.misuse with
      | some m => .error m
      | none => .ok (q.pieces ++ Filter.groupPieces connector child.query.pieces) := by
  unfold Draft.close
  cases child.misuse with
  | some m => rfl
  | none =>
    apply congrArg Except.ok
    by_cases some' : child.query.hasClauses = true
    · rw [if_pos some', Query.pieces_push, Filter.pieces_group]
      rfl
    · have none' : child.query.clauses = [] := by simpa [Query.hasClauses] using some'
      have blank : child.query.pieces = [] := congrArg Filter.pieces none'
      rw [if_neg some', blank]
      exact (List.append_nil _).symm

mutual

/-- What a call adds to the conditions depends on nothing but the conditions. -/
theorem pieces_change : (call : Call) → {q r : Query} → q.pieces = r.pieces →
    (call.change g q).map Query.pieces = (call.change g r).map Query.pieces
  | .compare connector column operator value, q, r, same => by
    rw [Call.change, Call.change]
    cases g.comparison column operator value with
    | error m => rfl
    | ok condition =>
      apply congrArg Except.ok
      rw [Query.pieces_push, Query.pieces_push, same]
  | .columns .., q, r, same | .isNull .., q, r, same | .isIn .., q, r, same
  | .raw .., q, r, same => by
    rw [Call.change, Call.change]
    apply congrArg Except.ok
    rw [Query.pieces_push, Query.pieces_push, same]
  | .group connector start calls, q, r, same => by
    rw [Call.change, Call.change, pieces_close, pieces_close, same]
    have inner : (Draft.groupStart q start).query.pieces =
        (Draft.groupStart r start).query.pieces := by
      cases start <;> rfl
    have misuse : (Draft.groupStart q start).misuse = (Draft.groupStart r start).misuse := by
      cases start <;> rfl
    rw [misuse_applyAll, misuse_applyAll, misuse, pieces_applyAll calls inner]
  | .bind kind _, q, r, same => by
    rw [Call.change, Call.change]
    cases BindingKind.parse? kind with
    | none => rfl
    | some kind => exact congrArg Except.ok same
  | .entitySet _, q, r, same | .select _, q, r, same | .key _, q, r, same | .expand _, q, r, same
  | .order _, q, r, same | .rawOrder _, q, r, same | .skip _, q, r, same
  | .skipToken _, q, r, same | .take _, q, r, same | .pageSize _, q, r, same => by
    rw [Call.change, Call.change]
    exact congrArg Except.ok same
  | .fresh, q, r, same => by
    rw [Call.change, Call.change]

theorem pieces_applyAll : (calls : List Call) → {d e : Draft} →
    d.query.pieces = e.query.pieces →
    (applyAll g calls d).query.pieces = (applyAll g calls e).query.pieces
  | [], d, e, same => by rwa [applyAll, applyAll]
  | call :: calls, d, e, same => by
    rw [applyAll, applyAll]
    apply pieces_applyAll calls
    have changed : (call.change g d.query).map Query.pieces =
        (call.change g e.query).map Query.pieces := pieces_change call same
    split
    · rfl
    · exact Draft.settle_congr Query.pieces changed same

end

/-! ## Components -/

inductive Component where
  | entitySet
  | key
  | select
  | filter
  | expand
  | order
  | skip
  | skipToken
  | take
  | bindings
  deriving DecidableEq, Repr

def Call.component? : Call → Option Component
  | .entitySet _ => some .entitySet
  | .key _ => some .key
  | .select _ => some .select
  | .compare .. | .columns .. | .isNull .. | .isIn .. | .raw .. | .group .. => some .filter
  | .expand _ => some .expand
  | .order _ | .rawOrder _ => some .order
  | .skip _ => some .skip
  | .skipToken _ => some .skipToken
  | .take _ => some .take
  | .bind .. => some .bindings
  | .pageSize _ | .fresh => none

def callsOn (k : Component) (calls : List Call) : List Call :=
  calls.filter fun call => call.component? = some k

/-- What a component has written in a URI: of bindings nothing. -/
def Component.Content : Component → Type
  | .entitySet => Option String
  | .key => Option EntityKey
  | .select => Option (List String)
  | .filter => List Filter.Piece
  | .expand => List String
  | .order => List OrderKey × Option String
  | .skip => Option Nat
  | .skipToken => Option String
  | .take => Option Nat
  | .bindings => Unit

def Query.content (q : Query) : (k : Component) → k.Content
  | .entitySet => q.entitySet
  | .key => q.key
  | .select => q.properties
  | .filter => q.pieces
  | .expand => q.expansions
  | .order => (q.orders, q.rawOrder)
  | .skip => q.skip
  | .skipToken => q.skipToken
  | .take => q.take
  | .bindings => ()

variable {k : Component} {call : Call}

/-- A call on a component takes nothing else into account. -/
theorem content_change_congr (own : call.component? = some k) {q r : Query}
    (same : q.content k = r.content k) :
    (call.change g q).map (·.content k) = (call.change g r).map (·.content k) := by
  cases call with
  | compare | columns | isNull | isIn | raw | group =>
    cases own
    exact pieces_change _ same
  | entitySet | key | select | skip | skipToken | take =>
    cases own
    rw [Call.change, Call.change]
    rfl
  | expand properties =>
    cases own
    rw [Call.change, Call.change]
    exact congrArg (fun expansions => Except.ok (expansions ++ properties)) same
  | order keys =>
    cases own
    rw [Call.change, Call.change]
    exact congrArg (fun content => Except.ok (content.1 ++ keys, content.2)) same
  | rawOrder text =>
    cases own
    rw [Call.change, Call.change]
    exact congrArg (fun content => Except.ok (content.1, some text)) same
  | bind kind values =>
    cases own
    rw [Call.change, Call.change]
    cases BindingKind.parse? kind <;> rfl
  | pageSize | fresh => cases own

/-- A condition is added to the conditions and their literals alone. -/
theorem change_condition {q q' : Query} (condition : call.component? = some .filter)
    (changed : call.change g q = .ok q') :
    ∃ clauses bindings, q' = { q with clauses := clauses, bindings := bindings } := by
  cases call with
  | compare connector column operator value =>
    rw [Call.change] at changed
    cases r : g.comparison column operator value with
    | error m => rw [r] at changed; cases changed
    | ok condition => rw [r] at changed; cases changed; exact ⟨_, _, rfl⟩
  | columns | isNull | isIn | raw =>
    rw [Call.change] at changed
    cases changed
    exact ⟨_, _, rfl⟩
  | group connector start calls =>
    rw [Call.change, Draft.close] at changed
    split at changed
    · cases changed
    · split at changed
      · cases changed; exact ⟨_, _, rfl⟩
      · cases changed; cases q; exact ⟨_, _, rfl⟩
  | _ => cases condition

/-- A call on another component leaves a component as it is, but for a key, which takes away the
limit. -/
theorem content_change_other {q q' : Query} (proper : call.startsOver = false)
    (other : call.component? ≠ some k) (unkeyed : k = .take → call.component? ≠ some .key)
    (changed : call.change g q = .ok q') : q'.content k = q.content k := by
  cases call with
  | compare | columns | isNull | isIn | raw | group =>
    obtain ⟨clauses, bindings, rfl⟩ := change_condition rfl changed
    cases k with
    | filter => exact absurd rfl other
    | _ => rfl
  | bind kind values =>
    rw [Call.change] at changed
    split at changed
    · cases changed; cases k <;> rfl
    · cases changed
  | key key =>
    rw [Call.change] at changed
    cases changed
    cases k with
    | key => exact absurd rfl other
    | take => exact absurd rfl (unkeyed rfl)
    | _ => rfl
  | fresh => cases proper
  | _ =>
    rw [Call.change] at changed
    cases changed
    cases k <;> first | rfl | exact absurd rfl other

/-! ## Chains of calls -/

theorem content_apply_congr (own : call.component? = some k) {d e : Draft}
    (same : d.query.content k = e.query.content k) :
    (d.apply g call).query.content k = (e.apply g call).query.content k := by
  rw [apply_eq, apply_eq]
  split
  · rfl
  · exact Draft.settle_congr (·.content k) (content_change_congr own same) same

theorem content_apply_other (proper : call.startsOver = false) (other : call.component? ≠ some k)
    (unkeyed : k = .take → call.component? ≠ some .key) (d : Draft) :
    (d.apply g call).query.content k = d.query.content k := by
  rw [apply_eq, proper, if_neg Bool.false_ne_true]
  cases changed : call.change g d.query with
  | ok q => exact content_change_other proper other unkeyed changed
  | error m => rfl

/-- After a chain of calls a component is as after those on the component alone. -/
theorem content_applyAll {calls : List Call} (chain : IsChain calls)
    (unkeyed : k = .take → callsOn .key calls = []) {d e : Draft}
    (same : d.query.content k = e.query.content k) :
    (applyAll g calls d).query.content k = (applyAll g (callsOn k calls) e).query.content k := by
  induction calls generalizing d e with
  | nil => simpa only [callsOn, List.filter_nil, applyAll] using same
  | cons call calls ih =>
    have unkeyed' (limit : k = .take) :
        call.component? ≠ some .key ∧ callsOn .key calls = [] := by
      have keyless := unkeyed limit
      rw [callsOn, List.filter_cons] at keyless
      split at keyless
      · cases keyless
      · next other => exact ⟨by simpa using other, keyless⟩
    rw [applyAll_cons, callsOn, List.filter_cons]
    by_cases own : call.component? = some k
    · rw [if_pos (decide_eq_true own), applyAll_cons]
      exact ih chain.tail (fun limit => (unkeyed' limit).2) (content_apply_congr own same)
    · rw [if_neg (by simpa using own)]
      apply ih chain.tail fun limit => (unkeyed' limit).2
      rw [← same]
      exact content_apply_other (chain call (.head calls)) own (fun limit => (unkeyed' limit).1) d

/-- Calls on the key leave a key, if there is one or they are any. -/
theorem keyed_applyAll {calls : List Call} (keys : ∀ call ∈ calls, call.component? = some .key)
    (d : Draft) (some' : d.query.key.isSome ∨ calls ≠ []) :
    (applyAll g calls d).query.key.isSome := by
  induction calls generalizing d with
  | nil => simpa [applyAll] using some'
  | cons call calls ih =>
    rw [applyAll_cons]
    apply ih fun call' member => keys call' (.tail call member)
    left
    have key := keys call (.head calls)
    cases call with
    | key key =>
      rw [apply_eq, Call.change]
      rfl
    | _ => cases key

/-- Without a key in the end none was set on the way. -/
theorem callsOn_key_of_unkeyed {calls : List Call} (chain : IsChain calls) {d : Draft}
    (unkeyed : (applyAll g calls d).query.key = none) : callsOn .key calls = [] := by
  have told : (applyAll g calls d).query.key = (applyAll g (callsOn .key calls) d).query.key :=
    content_applyAll (k := .key) chain nofun rfl
  have keys (call : Call) (member : call ∈ callsOn .key calls) : call.component? = some .key := by
    simpa using (List.mem_filter.1 member).2
  by_contra any
  have some' := keyed_applyAll (g := g) keys d (.inr any)
  rw [← told, unkeyed] at some'
  cases some'

/-- No call asks for a number of entities. -/
theorem modes_change {q q' : Query} (proper : call.startsOver = false)
    (changed : call.change g q = .ok q') :
    q'.isCount = q.isCount ∧ q'.wantsTotal = q.wantsTotal := by
  cases call with
  | compare | columns | isNull | isIn | raw | group =>
    obtain ⟨clauses, bindings, rfl⟩ := change_condition rfl changed
    exact ⟨rfl, rfl⟩
  | bind kind values =>
    rw [Call.change] at changed
    split at changed <;> cases changed
    exact ⟨rfl, rfl⟩
  | fresh => cases proper
  | _ =>
    rw [Call.change] at changed
    cases changed
    exact ⟨rfl, rfl⟩

theorem modes_applyAll {calls : List Call} (chain : IsChain calls) (d : Draft) :
    (applyAll g calls d).query.isCount = d.query.isCount ∧
      (applyAll g calls d).query.wantsTotal = d.query.wantsTotal := by
  induction calls generalizing d with
  | nil => rw [applyAll]; exact ⟨rfl, rfl⟩
  | cons call calls ih =>
    obtain ⟨count, total⟩ := ih chain.tail (d.apply g call)
    rw [applyAll_cons, count, total, apply_eq, chain call (.head calls), if_neg Bool.false_ne_true]
    cases changed : call.change g d.query with
    | ok q => exact modes_change (chain call (.head calls)) changed
    | error m => exact ⟨rfl, rfl⟩

/-! ## Queries with the same URIs -/

/-- All that a query has written in a URI is the same; the limit of an entity is not written. -/
structure Query.Alike (q r : Query) : Prop where
  isCount : q.isCount = r.isCount
  wantsTotal : q.wantsTotal = r.wantsTotal
  content (k : Component) : (k = .take → q.key = none) → q.content k = r.content k

namespace Query.Alike

variable {q r : Query} (h : q.Alike r)

include h

theorem entitySet : q.entitySet = r.entitySet := h.content .entitySet nofun

theorem key : q.key = r.key := h.content .key nofun

theorem path (form : Literal.Form) : q.path form = r.path form := by
  unfold Query.path Query.setText Query.keyText
  rw [h.entitySet, h.key]

theorem filterOption : q.filterOption = r.filterOption := by
  have pieces : Filter.pieces q.clauses = Filter.pieces r.clauses := h.content .filter nofun
  unfold Query.filterOption
  rw [Filter.ofQuery_eq_assemble, Filter.ofQuery_eq_assemble, pieces]

theorem orderOption : q.orderOption = r.orderOption := by
  obtain ⟨orders, raw⟩ := Prod.mk.inj (h.content .order nofun)
  unfold Query.orderOption
  rw [orders, raw]

theorem topOption : q.topOption = r.topOption := by
  unfold Query.topOption Query.hasKey
  rw [← h.key]
  cases key : q.key with
  | some key => rfl
  | none =>
    have take : q.take = r.take := h.content .take fun _ => key
    rw [take]

theorem options : q.options = r.options := by
  have properties : q.properties = r.properties := h.content .select nofun
  have expansions : q.expansions = r.expansions := h.content .expand nofun
  have skip : q.skip = r.skip := h.content .skip nofun
  have token : q.skipToken = r.skipToken := h.content .skipToken nofun
  unfold Query.options
  rw [h.filterOption, h.orderOption, h.topOption]
  unfold Query.selectOption Query.expandOption Query.skipOption Query.skipTokenOption
    Query.totalOption Query.hasKey
  rw [properties, expansions, skip, token, h.isCount, h.wantsTotal, h.key]

theorem uri (form : Literal.Form) : q.uri form = r.uri form := by
  unfold Query.uri Query.setText Query.keyText
  rw [h.options, h.entitySet, h.key, h.isCount]

theorem withOptions (options : ReadOptions) (take : Option Nat) :
    (q.withOptions options take).Alike (r.withOptions options take) where
  isCount := h.isCount
  wantsTotal := congrArg (· || options.wantsTotal) h.wantsTotal
  content k unkeyed := by
    have same : q.content k = r.content k := h.content k unkeyed
    cases k with
    | select => exact congrArg (·.or options.properties) same
    | take => exact congrArg take.or same
    | _ => exact same

theorem counting : q.counting.Alike r.counting where
  isCount := rfl
  wantsTotal := h.wantsTotal
  content := h.content

/-- A draft on an entity is the same for queries on the same set. -/
theorem keyed (key : EntityKey) :
    Query.Alike { q with key := some key, take := none }
      { r with key := some key, take := none } where
  isCount := h.isCount
  wantsTotal := h.wantsTotal
  content k _ := by
    by_cases limit : k = .take
    · rw [limit]
      rfl
    · have same : q.content k = r.content k := h.content k (absurd · limit)
      cases k with
      | key => rfl
      | take => exact absurd rfl limit
      | _ => exact same

theorem query (t : Terminal) : (t.query q).Alike (t.query r) := by
  cases t with
  | fetch options | getWith options => exact h.withOptions options none
  | get | getAsync | getAs | pages | cursor | pageStream | itemStream =>
    exact h.withOptions {} none
  | firstWith options => exact h.withOptions options (some 1)
  | first | firstAsync => exact h.withOptions {} (some 1)
  | findWith key options => exact (h.keyed key).withOptions options (some 1)
  | find key => exact (h.keyed key).withOptions {} (some 1)
  | count | countAsync => exact h.counting
  | submit | post | patch | delete => exact h

theorem terminal_uri (t : Terminal) : t.uri q = t.uri r := by
  unfold Terminal.uri
  rw [(h.query t).path, (h.query t).uri]

end Query.Alike

/-! ## Interleavings -/

/-- Chains with the same calls on every component lead to queries that write the same. -/
theorem alike_of_callsOn {calls calls' : List Call} (chain : IsChain calls)
    (chain' : IsChain calls') (same : ∀ k, callsOn k calls = callsOn k calls') (d : Draft) :
    (applyAll g calls d).query.Alike (applyAll g calls' d).query where
  isCount := (modes_applyAll chain d).1.trans (modes_applyAll chain' d).1.symm
  wantsTotal := (modes_applyAll chain d).2.trans (modes_applyAll chain' d).2.symm
  content k unkeyed := by
    have keyless (limit : k = .take) : callsOn .key calls = [] :=
      callsOn_key_of_unkeyed chain (unkeyed limit)
    have keyless' (limit : k = .take) : callsOn .key calls' = [] :=
      (same .key).symm.trans (keyless limit)
    calc (applyAll g calls d).query.content k
      _ = (applyAll g (callsOn k calls) d).query.content k := content_applyAll chain keyless rfl
      _ = (applyAll g (callsOn k calls') d).query.content k := by rw [same]
      _ = (applyAll g calls' d).query.content k := (content_applyAll chain' keyless' rfl).symm

/-- Two drafts that compile to one URI and ask for the same with every operation. -/
structure Draft.SameRequests (d e : Draft) : Prop where
  compile : ∃ uri, d.compile = .ok uri ∧ e.compile = .ok uri
  readUri (options : ReadOptions) (take : Option Nat) :
    d.readUri options take = e.readUri options take
  countUri : d.countUri = e.countUri
  writeUri : d.writeUri = e.writeUri
  /-- The URI of an operation, or the error in its place. -/
  gate (t : Terminal) : t.gate d = t.gate e
  perform (c : Client) (t : Terminal) : t.perform c d = t.perform c e

theorem Draft.sameRequests_of_alike {d e : Draft} (clean : d.misuse = none)
    (clean' : e.misuse = none) (alike : d.query.Alike e.query) : d.SameRequests e := by
  have sent {f : Query → String} (same : f d.query = f e.query) :
      d.sendable.map f = e.sendable.map f := by
    cases set : d.query.entitySet with
    | none =>
      rw [Draft.sendable_of_unset clean set,
        Draft.sendable_of_unset clean' (alike.entitySet.symm.trans set)]
    | some set' =>
      have ready : d.Ready := ⟨clean, by rw [set]; rfl⟩
      have ready' : e.Ready := ⟨clean', by rw [← alike.entitySet, set]; rfl⟩
      rw [ready.sendable, ready'.sendable]
      exact congrArg Except.ok same
  have gates (t : Terminal) : t.gate d = t.gate e := by
    rw [Terminal.gate, Terminal.gate, alike.entitySet, sent (alike.terminal_uri t)]
  refine ⟨⟨_, Draft.compile_of_clean clean, ?_⟩, ?_, ?_, ?_, gates, ?_⟩
  · rw [alike.uri]
    exact Draft.compile_of_clean clean'
  · exact fun options take => sent ((alike.withOptions options take).uri .sent)
  · exact sent (alike.counting.uri .sent)
  · exact sent (alike.path .sent)
  · intro c t
    rw [t.perform_eq, t.perform_eq, gates]

/-- Only the order of the calls on one component counts. -/
theorem interleaving_irrelevant {calls calls' : List Call} (chain : IsChain calls)
    (chain' : IsChain calls') (clean : firstFault g calls = none)
    (clean' : firstFault g calls' = none) (same : ∀ k, callsOn k calls = callsOn k calls') :
    (applyAll g calls {}).SameRequests (applyAll g calls' {}) := by
  apply Draft.sameRequests_of_alike
  · exact (misuse_of_chain chain {}).trans clean
  · exact (misuse_of_chain chain' {}).trans clean'
  · exact alike_of_callsOn chain chain' same {}

/-- The conditions are grouped before there is a set, and the limit comes after the key. -/
def limitedKey : List Call :=
  [.group .and none [.compare .or "Total" "gt" (.int 5)], .entitySet "Orders",
    .key (.parts [("Id", .int 7)]), .take 3, .order [⟨"Id", .ascending⟩]]

def keyedLimit : List Call :=
  [.take 3, .order [⟨"Id", .ascending⟩], .entitySet "Orders", .pageSize 20,
    .group .and none [.compare .or "Total" "gt" (.int 5)], .key (.parts [("Id", .int 7)])]

theorem interleaving_irrelevant_limit :
    IsChain limitedKey ∧ IsChain keyedLimit ∧ firstFault .standard limitedKey = none ∧
      firstFault .standard keyedLimit = none ∧
      (∀ k, callsOn k limitedKey = callsOn k keyedLimit) ∧
      (applyAll .standard limitedKey {}).query.take = some 3 ∧
      (applyAll .standard keyedLimit {}).query.take = none ∧
      (applyAll .standard limitedKey {}).SameRequests (applyAll .standard keyedLimit {}) := by
  have chain : IsChain limitedKey := by decide
  have chain' : IsChain keyedLimit := by decide
  have same (k : Component) : callsOn k limitedKey = callsOn k keyedLimit := by cases k <;> rfl
  exact ⟨chain, chain', rfl, rfl, same, rfl, rfl,
    interleaving_irrelevant chain chain' rfl rfl same⟩

end OData
