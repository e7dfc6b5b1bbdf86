import OData.Proofs.Client.Requests

/-!
# Operations

The operations that send what a draft asks for. Each of them first checks the draft
(`Terminal.gate`) and makes its round trip after that (`Terminal.perform_eq`); a walk is only made.
-/

namespace OData

/-- The operations that send what a draft asks for. A walk counts up to the first time that it
is asked for something, with room for any number of pages behind the first. -/
inductive Terminal : Type 1 where
  | fetch (options : ReadOptions)
  | getWith (options : ReadOptions)
  | get
  | getAsync
  | getAs {α : Type} (read : Json.Reading α)
  | firstWith (options : ReadOptions)
  | first
  | firstAsync
  | findWith (key : EntityKey) (options : ReadOptions)
  | find (key : EntityKey)
  | count
  | countAsync
  | submit (method : String) (body : Option String)
  | post (body : Json)
  | patch (body : Json)
  | delete
  | pages
  | cursor (room : Nat)
  | pageStream
  | itemStream (room : Nat)

/-! ## Actions without their values -/

namespace Action

variable {α β : Type}

def erased (a : Action α) : Action Unit := fun x => ((a x).1.map fun _ => (), (a x).2)

theorem after_erased (a : Action α) (x : Exchange) : a.erased.after x = a.after x := rfl

theorem erased_bind_pure (a : Action α) (f : α → β) :
    (a >>= fun v => (pure (f v) : Action β)).erased = a.erased := by
  funext x
  have unfolded : (a >>= fun v => (pure (f v) : Action β)) x =
    ExceptT.bindCont (fun v => (pure (f v) : Action β)) (a x).1 (a x).2 := rfl
  rw [erased, erased, unfolded]
  obtain ⟨r, y⟩ := a x
  cases r <;> rfl

theorem erased_checked (check : Except Error α) (f : α → Action β) :
    ((liftM check : Action α) >>= f).erased =
      (liftM check : Action α) >>= fun v => (f v).erased := by
  funext x
  cases check <;> rfl

theorem erased_lift (check : Except Error α) :
    (liftM check : Action α).erased = (liftM check : Action α) >>= fun _ => pure () := by
  funext x
  cases check <;> rfl

theorem erased_lift_map (check : Except Error α) (f : α → β) :
    (liftM (check.map f) : Action β).erased = (liftM check : Action α).erased := by
  funext x
  cases check <;> rfl

end Action

namespace Terminal

/-! ## What is sent -/

/-- The query that an operation sends: the one of the draft with what the operation overrides. -/
def query (q : Query) : Terminal → Query
  | .fetch options | .getWith options => q.withOptions options none
  | .get | .getAsync | .getAs _ | .pages | .cursor _ | .pageStream | .itemStream _ =>
    q.withOptions {} none
  | .firstWith options => q.withOptions options (some 1)
  | .first | .firstAsync => q.withOptions {} (some 1)
  | .findWith key options => { q with key := some key, take := none }.withOptions options (some 1)
  | .find key => { q with key := some key, take := none }.withOptions {} (some 1)
  | .count | .countAsync => q.counting
  | .submit .. | .post _ | .patch _ | .delete => q

def method : Terminal → String
  | .submit method _ => method
  | .post _ => "POST"
  | .patch _ => "PATCH"
  | .delete => "DELETE"
  | _ => "GET"

def body : Terminal → Option String
  | .submit _ body => body
  | .post body | .patch body => some body.text
  | _ => none

def writes : Terminal → Bool
  | .submit .. | .post _ | .patch _ | .delete => true
  | _ => false

/-- The compiled URI: writing addresses the set or the entity alone. -/
def uri (q : Query) (t : Terminal) : String :=
  if t.writes then (t.query q).path .sent else (t.query q).uri .sent

theorem query_entitySet (q : Query) (t : Terminal) : (t.query q).entitySet = q.entitySet := by
  cases t <;> rfl

/-! ## Checks and round trips -/

variable (c : Client) (d : Draft)

/-- An operation without its value; a walk is made and not yet asked for anything. -/
def perform : Terminal → Action Unit
  | .fetch options => (Draft.fetch c d options).erased
  | .getWith options => (Draft.getWith c d options).erased
  | .get => (Draft.get c d).erased
  | .getAsync => (Draft.getAsync c d).erased
  | .getAs read => (Draft.getAs c d read).erased
  | .firstWith options => (Draft.firstWith c d options).erased
  | .first => (Draft.first c d).erased
  | .firstAsync => (Draft.firstAsync c d).erased
  | .findWith key options => (Draft.findWith c d key options).erased
  | .find key => (Draft.find c d key).erased
  | .count => (Draft.count c d).erased
  | .countAsync => (Draft.countAsync c d).erased
  | .submit method body => (Draft.submit c d method (body.map .ok)).erased
  | .post body => (Draft.post c d body).erased
  | .patch body => (Draft.patch c d body).erased
  | .delete => (Draft.delete c d).erased
  | .pages => Action.erased (liftM d.pages)
  | .cursor _ => Action.erased (liftM d.cursor)
  | .pageStream => Action.erased (liftM d.pageStream)
  | .itemStream _ => Action.erased (liftM d.itemStream)

def isWalk : Terminal → Bool
  | .pages | .cursor _ | .pageStream | .itemStream _ => true
  | _ => false

/-- Whether an operation looks for one entity by its key. -/
def finds : Terminal → Bool
  | .findWith .. | .find _ => true
  | _ => false

/-- The URI of an operation, if the draft passes its checks. -/
def gate (d : Draft) (t : Terminal) : Except Error String :=
  if t.finds && d.query.entitySet.isNone then .error (.configuration .noEntitySetToFindIn)
  else d.sendable.map t.uri

def trip (uri : String) : Terminal → Action Unit
  | .fetch _ | .getWith _ | .get | .firstWith _ | .first | .findWith .. | .find _ =>
    (c.fetch uri).erased
  | .getAsync | .firstAsync => (c.fetchAsync uri).erased
  | .getAs read => Action.erased do (← c.fetch uri).readItems read
  | .count => Action.erased do (← c.fetch uri).count
  | .countAsync => Action.erased do (← c.fetchAsync uri).count
  | .submit method body => (c.execute method uri body).erased
  | .post body => (c.execute "POST" uri (some body.text)).erased
  | .patch body => (c.execute "PATCH" uri (some body.text)).erased
  | .delete => (c.execute "DELETE" uri none).erased
  | .pages | .cursor _ | .pageStream | .itemStream _ => pure ()

theorem sendable_onEntity (key : EntityKey) :
    (d.onEntity key).sendable =
      d.sendable.map fun q => { q with key := some key, take := none } := by
  rcases d with ⟨⟨_ | set, _⟩, _ | m⟩ <;> rfl

theorem readUri_onEntity (key : EntityKey) (options : ReadOptions) :
    (d.onEntity key).readUri options (some 1) = d.sendable.map (uri · (findWith key options)) := by
  rw [Draft.readUri, sendable_onEntity]
  cases d.sendable <;> rfl

theorem findWith_checked (key : EntityKey) (options : ReadOptions) :
    (Draft.findWith c d key options).erased =
      (liftM ((findWith key options).gate d) : Action String) >>=
        fun uri => (c.fetch uri).erased := by
  unfold Draft.findWith gate
  cases set : d.query.entitySet with
  | none => rfl
  | some set =>
    refine Eq.trans (b := (Draft.firstWith c (d.onEntity key) options).erased) rfl ?_
    refine (Action.erased_checked ((d.onEntity key).readUri options (some 1)) _).trans ?_
    simp only [Action.erased_bind_pure]
    rw [readUri_onEntity]
    rfl

theorem submit_checked (method : String) (body : Option String) :
    (Draft.submit c d method (body.map .ok)).erased =
      (liftM d.writeUri : Action String) >>= fun uri => (c.execute method uri body).erased := by
  have text : Draft.writtenBody (body.map .ok) = .ok body := by cases body <;> rfl
  refine (Action.erased_checked d.writeUri _).trans ?_
  simp only [text, Action.lift_bind]

/-- Every operation checks the draft and then makes its round trip. -/
theorem perform_eq (t : Terminal) :
    t.perform c d = (liftM (t.gate d) : Action String) >>= fun uri => t.trip c uri := by
  cases t with
  | fetch options => exact Action.erased_checked (d.readUri options none) c.fetch
  | getWith options =>
    refine (Action.erased_bind_pure _ _).trans ?_
    exact Action.erased_checked (d.readUri options none) c.fetch
  | get =>
    refine (Action.erased_bind_pure _ _).trans ?_
    exact Action.erased_checked (d.readUri {} none) c.fetch
  | getAsync =>
    refine (Action.erased_checked (d.readUri {} none) _).trans ?_
    simp only [Action.erased_bind_pure]
    rfl
  | getAs read =>
    refine Eq.trans ?_ (Action.erased_checked (d.readUri {} none) _)
    rw [perform, Draft.getAs, Draft.fetch, bind_assoc]
  | firstWith options =>
    refine (Action.erased_checked (d.readUri options (some 1)) _).trans ?_
    simp only [Action.erased_bind_pure]
    rfl
  | first =>
    refine (Action.erased_checked (d.readUri {} (some 1)) _).trans ?_
    simp only [Action.erased_bind_pure]
    rfl
  | firstAsync =>
    refine (Action.erased_checked (d.readUri {} (some 1)) _).trans ?_
    simp only [Action.erased_bind_pure]
    rfl
  | findWith key options => exact findWith_checked c d key options
  | find key => exact findWith_checked c d key {}
  | count => exact Action.erased_checked d.countUri _
  | countAsync => exact Action.erased_checked d.countUri _
  | submit method body => exact submit_checked c d method body
  | post body =>
    refine (Action.erased_bind_pure _ _).trans ?_
    exact submit_checked c d "POST" (some body.text)
  | patch body =>
    refine (Action.erased_bind_pure _ _).trans ?_
    exact submit_checked c d "PATCH" (some body.text)
  | delete =>
    refine (Action.erased_bind_pure _ _).trans ?_
    exact submit_checked c d "DELETE" none
  | pages =>
    refine (Action.erased_lift_map (d.readUri {} none) _).trans ?_
    exact Action.erased_lift _
  | cursor room =>
    refine (Action.erased_lift_map d.pages _).trans ?_
    refine (Action.erased_lift_map (d.readUri {} none) _).trans ?_
    exact Action.erased_lift _
  | pageStream =>
    refine (Action.erased_lift_map (d.readUri {} none) _).trans ?_
    exact Action.erased_lift _
  | itemStream room =>
    refine (Action.erased_lift_map d.pageStream _).trans ?_
    refine (Action.erased_lift_map (d.readUri {} none) _).trans ?_
    exact Action.erased_lift _

variable {c : Client} {t : Terminal} {uri : String}

/-- A round trip leaves the exchange as the request of the operation does. -/
theorem trip_after (trips : t.isWalk = false) (x : Exchange) :
    (t.trip c uri).after x = (c.execute t.method uri t.body).after x := by
  cases t with
  | fetch | getWith | get | firstWith | first | findWith | find =>
    rw [trip, Action.after_erased]
    rfl
  | getAsync | firstAsync =>
    rw [trip, Action.after_erased]
    exact c.fetchAsync_after x uri
  | getAs read =>
    rw [trip, Action.after_erased, Action.after_bind _ fun _ _ => rfl]
    rfl
  | count =>
    rw [trip, Action.after_erased, Action.after_bind _ fun _ _ => rfl]
    rfl
  | countAsync =>
    rw [trip, Action.after_erased, Action.after_bind _ fun _ _ => rfl]
    exact c.fetchAsync_after x uri
  | submit | post | patch | delete =>
    rw [trip, Action.after_erased]
    rfl
  | pages | cursor | pageStream | itemStream => cases trips

end Terminal

/-! ## Drafts that can be sent -/

structure Draft.Ready (d : Draft) : Prop where
  misuse : d.misuse = none
  set : d.query.entitySet.isSome

namespace Draft

variable {d : Draft}

theorem Ready.sendable (h : d.Ready) : d.sendable = .ok d.query := by
  unfold Draft.sendable Draft.build
  rw [h.misuse]
  exact if_pos h.set

theorem Ready.readUri (h : d.Ready) (options : ReadOptions) (take : Option Nat) :
    d.readUri options take = .ok ((d.query.withOptions options take).uri .sent) := by
  rw [Draft.readUri, h.sendable]
  rfl

theorem Ready.writeUri (h : d.Ready) : d.writeUri = .ok (d.query.path .sent) := by
  rw [Draft.writeUri, h.sendable]
  rfl

end Draft

/-- A draft that can be sent passes the checks. -/
theorem Terminal.perform_ready {c : Client} {d : Draft} (ready : d.Ready) (t : Terminal) :
    t.perform c d = t.trip c (t.uri d.query) := by
  have found : d.query.entitySet.isNone = false := by simpa using ready.set
  rw [t.perform_eq, gate, found, Bool.and_false, if_neg Bool.false_ne_true, ready.sendable]
  exact Action.lift_bind _ _

end OData
