import OData.Proofs.Draft.Misuse
import OData.Proofs.Draft.Operations

/-!
# Checks before a request

Every operation first checks the draft (`Terminal.gate`) and makes its round trip after that
(`Terminal.perform_eq`). A draft that keeps a misuse answers with it whatever is asked of it, and
sends nothing (`Draft.Refused`). Of any other draft is said what stops an operation before its
request, and that nothing else does (`Draft.Served`).
-/

namespace OData

namespace Action

variable {α β : Type}

theorem bind_error {a : Action α} {e : Error} {x y : Exchange} (h : a x = (.error e, y))
    (f : α → Action β) : (a >>= f) x = (.error e, y) := by
  have unfolded : (a >>= f) x = ExceptT.bindCont f (a x).1 (a x).2 := rfl
  rw [unfolded, h]
  rfl

theorem erased_error {a : Action α} {e : Error} {x y : Exchange} (h : a x = (.error e, y)) :
    a.erased x = (.error e, y) := by
  rw [erased, h]
  rfl

end Action

/-- A round trip whose URI cannot be resolved sends nothing. -/
theorem Terminal.trip_unresolved {c : Client} {t : Terminal} {uri : String}
    (trips : t.isWalk = false) {e : Error} (h : c.resolve uri = .error e) (x : Exchange) :
    t.trip c uri x = (.error e, x) := by
  have trip (method : String) (body : Option String) :
      c.execute method uri body x = (.error e, x) := by
    rw [Client.execute, h]
    rfl
  have async : c.fetchAsync uri x = (.error e, x) := by
    have cause : e ≠ .crash := by
      rintro rfl
      unfold Client.resolve at h
      cases r : c.baseUrl.join uri <;> rw [r] at h <;> cases h
    rw [Client.fetchAsync, Client.detached, Client.fetch, trip]
    cases e <;> first | rfl | exact absurd rfl cause
  cases t with
  | fetch | getWith | get | firstWith | first | findWith | find =>
    exact Action.erased_error (trip "GET" none)
  | getAsync | firstAsync => exact Action.erased_error async
  | getAs read => exact Action.erased_error (Action.bind_error (trip "GET" none) _)
  | count => exact Action.erased_error (Action.bind_error (trip "GET" none) _)
  | countAsync => exact Action.erased_error (Action.bind_error async _)
  | submit method body => exact Action.erased_error (trip method body)
  | post body => exact Action.erased_error (trip "POST" _)
  | patch body => exact Action.erased_error (trip "PATCH" _)
  | delete => exact Action.erased_error (trip "DELETE" none)
  | pages | cursor | pageStream | itemStream => cases trips

/-! ## Drafts with and without misuse -/

namespace Draft

/-- All that a draft with a misuse answers: the misuse, and without a request. Only to look for an
entity in no set is an error of its own. -/
structure Refused (c : Client) (d : Draft) (m : Misuse) : Prop where
  build : d.build = .error (.invalidArgument (.misuse m))
  compile : d.compile = .error (.invalidArgument (.misuse m))
  perform (t : Terminal) (x : Exchange) : t.perform c d x =
    (.error (if t.finds && d.query.entitySet.isNone then .configuration .noEntitySetToFindIn
      else .invalidArgument (.misuse m)), x)
  submit (method : String) (body : Option Body) (x : Exchange) :
    Draft.submit c d method body x = (.error (.invalidArgument (.misuse m)), x)

theorem refused_of_misuse (c : Client) {d : Draft} {m : Misuse} (h : d.misuse = some m) :
    d.Refused c m := by
  have built : d.build = .error (.invalidArgument (.misuse m)) := by
    rw [Draft.build, h]
  have stopped : d.sendable = .error (.invalidArgument (.misuse m)) := by
    rw [Draft.sendable, built]
    rfl
  refine ⟨built, ?_, fun t x => ?_, fun method body x => ?_⟩
  · rw [Draft.compile, built]
    rfl
  · rw [t.perform_eq, Terminal.gate, stopped]
    split <;> rfl
  · rw [Draft.submit, Draft.writeUri, stopped]
    rfl

/-- What a draft without misuse answers. -/
structure Served (c : Client) (d : Draft) : Prop where
  build : d.build = .ok d.query
  compile : d.compile = .ok (d.query.uri .readable)
  /-- A walk is made without a request. -/
  walk (t : Terminal) (x : Exchange) : t.isWalk → d.query.entitySet.isSome →
    t.perform c d x = (.ok (), x)
  unset (t : Terminal) (x : Exchange) : d.query.entitySet = none → t.perform c d x =
    (.error (if t.finds then .configuration .noEntitySetToFindIn
      else .invalidArgument .noEntitySet), x)
  unresolved (t : Terminal) (x : Exchange) (e : Error) : t.isWalk = false →
    d.query.entitySet.isSome → c.resolve (t.uri d.query) = .error e →
    t.perform c d x = (.error e, x)
  sent (t : Terminal) (x : Exchange) (url : Url) : t.isWalk = false →
    d.query.entitySet.isSome → c.resolve (t.uri d.query) = .ok url →
    (t.perform c d x).2.sent =
      x.sent ++ [c.authenticate (c.request x.pageSize t.method url t.body)]
  unwritable (method reason : String) (x : Exchange) : d.query.entitySet.isSome →
    Draft.submit c d method (some (.error reason)) x =
      (.error (.invalidArgument (.unwritableBody reason)), x)

theorem build_of_clean {d : Draft} (h : d.misuse = none) : d.build = .ok d.query := by
  rw [Draft.build, h]

theorem compile_of_clean {d : Draft} (h : d.misuse = none) :
    d.compile = .ok (d.query.uri .readable) := by
  rw [Draft.compile, build_of_clean h]
  rfl

theorem sendable_of_unset {d : Draft} (h : d.misuse = none) (unset : d.query.entitySet = none) :
    d.sendable = .error (.invalidArgument .noEntitySet) := by
  rw [Draft.sendable, build_of_clean h]
  exact if_neg (by rw [unset]; exact Bool.false_ne_true)

theorem served_of_clean (c : Client) {d : Draft} (h : d.misuse = none) : d.Served c := by
  have passed (t : Terminal) (set : d.query.entitySet.isSome) :
      t.perform c d = t.trip c (t.uri d.query) := t.perform_ready ⟨h, set⟩
  refine ⟨build_of_clean h, compile_of_clean h, ?_, ?_, ?_, ?_, ?_⟩
  · intro t x walk set
    rw [passed t set]
    cases t with
    | pages | cursor | pageStream | itemStream => rfl
    | _ => cases walk
  · intro t x unset
    rw [t.perform_eq, Terminal.gate, sendable_of_unset h unset, unset]
    cases t.finds <;> rfl
  · intro t x e trips set unresolved
    rw [passed t set]
    exact Terminal.trip_unresolved trips unresolved x
  · intro t x url trips set resolved
    rw [passed t set]
    refine (congrArg Exchange.sent (Terminal.trip_after trips x)).trans ?_
    exact c.execute_sent x resolved t.body
  · intro method reason x set
    have ready : d.Ready := ⟨h, set⟩
    rw [Draft.submit, ready.writeUri, Action.lift_bind]
    rfl

end Draft

/-- What can be done with a draft after a chain of calls: nothing but to be told of the first
misuse, or all that its query allows. A group is misused as the draft is that comes out of it. -/
theorem chain_refused_or_served (c : Client) (d : Draft) {calls : List Call}
    (chain : IsChain calls) :
    (∀ m, d.misuse.or (firstFault c.grammar calls) = some m →
      (applyAll c.grammar calls d).Refused c m) ∧
    (d.misuse.or (firstFault c.grammar calls) = none → (applyAll c.grammar calls d).Served c) ∧
    ∀ connector start group q, (Call.group connector start group).fault c.grammar =
      (applyAll c.grammar group (Draft.groupStart q start)).misuse := by
  have kept := misuse_of_chain (g := c.grammar) chain d
  refine ⟨fun m first => ?_, fun clean => ?_, fault_group⟩
  · exact Draft.refused_of_misuse c (kept.trans first)
  · exact Draft.served_of_clean c (kept.trans clean)

def unanswered : Client where
  baseUrl :=
    { scheme := "https", authority := some ⟨"", "svc", none⟩, path := .segments ["odata", ""]
      query := none, fragment := none }
  config := {}
  grammar := .standard
  headers := .empty
  authenticator := none
  transport := fun _ _ => .failure "no answer"

/-- Null is compared inside a group inside a group, and a part that no query has is named after
that. -/
def strayCalls : List Call :=
  [.entitySet "Orders", .compare .and "a" "gt" (.int 1),
   .group .or none [.raw .and "b", .group .and none [.compare .and "c" ">" .null]],
   .bind "having" [.int 1], .take 3]

theorem chain_refused_stray :
    IsChain strayCalls ∧
      firstFault unanswered.grammar strayCalls = some (.illegalNull ">") ∧
      (applyAll unanswered.grammar strayCalls {}).Refused unanswered (.illegalNull ">") ∧
      IsChain [.select ["Id"]] ∧ firstFault unanswered.grammar [.select ["Id"]] = none ∧
      (applyAll unanswered.grammar [.select ["Id"]]
        { query := { entitySet := some "Orders" } }).Served unanswered := by
  have stray : IsChain strayCalls := by decide
  have plain : IsChain [Call.select ["Id"]] := by decide
  have first : firstFault unanswered.grammar strayCalls = some (.illegalNull ">") := by
    decide +kernel
  have clean : firstFault unanswered.grammar [.select ["Id"]] = none := rfl
  exact ⟨stray, first, (chain_refused_or_served unanswered {} stray).1 _ first, plain, clean,
    (chain_refused_or_served unanswered _ plain).2.1 clean⟩

end OData
