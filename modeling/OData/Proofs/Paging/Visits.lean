import OData.Proofs.Client.Requests
import OData.Proofs.Paging.Runs

/-!
# The visits of a blocking walk

A blocking walk visits one URI after the other, each the link of the page before it without
the service root, up to the first page without a link or the first failure (`Visits`). The
walk over pages gives what the visits bring and then nothing; a cursor gives the items of
the pages in order. A visit is made when its first item is asked for, that is, when the
pages before it hold fewer items than have been asked for (`Draft.walks_deliver`).
-/

namespace OData

/-- From the request after the `n`-th on there is no response. -/
def Http.Transport.EndsBy (n : Nat) (t : Http.Transport) : Prop :=
  ∀ sent r, n ≤ sent.length → ∀ response, t sent r ≠ .response response

theorem Http.Transport.endsBy_scripted (answers : List Http.Answer) (reason : String) :
    (Http.Transport.scripted answers (.failure reason)).EndsBy answers.length := by
  intro sent r h response
  rw [scripted, List.getElem?_eq_none h]
  simp

/-! ## Visits -/

structure Visit where
  uri : String
  /-- What the transport is handed; nothing if the URI cannot be resolved. -/
  request : Option Http.Request
  /-- The page, or why there is none. -/
  result : Except Error Payload

namespace Visit

def next (c : Client) (v : Visit) : Option String :=
  match v.result with
  | .ok page => page.nextLink.map c.relativeLink
  | .error _ => none

def given (v : Visit) : List (Except Error Json) := Cursor.unpack v.result

end Visit

namespace Client

variable (c : Client) (pageSize : Option Nat)

def visit (sent : List Http.Request) (uri : String) : Visit :=
  match c.resolve uri with
  | .ok url =>
    let r := c.authenticate (c.request pageSize "GET" url none)
    { uri, request := some r, result := (c.receive (c.transport sent r)).1 }
  | .error e => { uri, request := none, result := .error e }

/-- The visits from a URI on, up to the first page without a link or the first failure. -/
inductive Visits : List Http.Request → String → List Visit → Prop
  | last {sent : List Http.Request} {uri : String} :
    (c.visit pageSize sent uri).next c = none → Visits sent uri [c.visit pageSize sent uri]
  | more {sent : List Http.Request} {uri uri' : String} {vs : List Visit} :
    (c.visit pageSize sent uri).next c = some uri' →
    Visits (sent ++ (c.visit pageSize sent uri).request.toList) uri' vs →
    Visits sent uri (c.visit pageSize sent uri :: vs)

variable {c pageSize}

/-- The first visit is that of the URI; the others start from where it leads. -/
theorem Visits.cons {sent : List Http.Request} {uri : String} {v : Visit} {vs : List Visit}
    (h : c.Visits pageSize sent uri (v :: vs)) :
    v = c.visit pageSize sent uri ∧
      ((v.next c = none ∧ vs = []) ∨
        ∃ uri', v.next c = some uri' ∧
          c.Visits pageSize (sent ++ v.request.toList) uri' vs) := by
  cases h with
  | last leads => exact ⟨rfl, .inl ⟨leads, rfl⟩⟩
  | more leads visits => exact ⟨rfl, .inr ⟨_, leads, visits⟩⟩

/-- A visit that leads on was answered. -/
theorem request_of_next {n : Nat} (finite : c.transport.EndsBy n) {sent : List Http.Request}
    {uri uri' : String} (h : (c.visit pageSize sent uri).next c = some uri') :
    sent.length < n ∧ ∃ r, (c.visit pageSize sent uri).request = some r := by
  unfold visit at h ⊢
  split at h
  · next url resolved =>
    refine ⟨?_, _, rfl⟩
    by_contra late
    have refused := finite sent (c.authenticate (c.request pageSize "GET" url none)) (by omega)
    unfold Visit.next receive at h
    dsimp only at h
    generalize c.transport sent (c.authenticate (c.request pageSize "GET" url none)) = answer
      at refused h
    cases answer with
    | response response => exact refused response rfl
    | failure reason => cases h
    | crash => cases h
  · cases h

/-- As a finite transport runs out of responses, there is a last visit. -/
theorem exists_visits {n : Nat} (finite : c.transport.EndsBy n) (sent : List Http.Request)
    (uri : String) : ∃ vs, c.Visits pageSize sent uri vs ∧ vs.length ≤ n - sent.length + 1 := by
  induction gap : n - sent.length generalizing sent uri with
  | zero =>
    cases leads : (c.visit pageSize sent uri).next c with
    | none => exact ⟨_, .last leads, by simp⟩
    | some uri' =>
      have early := (request_of_next finite leads).1
      omega
  | succ gap ih =>
    cases leads : (c.visit pageSize sent uri).next c with
    | none => exact ⟨_, .last leads, by simp⟩
    | some uri' =>
      obtain ⟨-, r, requested⟩ := request_of_next finite leads
      obtain ⟨vs, visits, short⟩ :=
        ih (sent ++ (c.visit pageSize sent uri).request.toList) uri' (by simp [requested]; omega)
      exact ⟨_, .more leads visits, by rw [List.length_cons]; omega⟩

/-- A read does what its visit says. -/
theorem fetch_visit (c : Client) (uri : String) (x : Exchange) :
    (c.fetch uri x).1 = (c.visit x.pageSize x.sent uri).result ∧
      (c.fetch uri x).2.sent = x.sent ++ (c.visit x.pageSize x.sent uri).request.toList ∧
      (c.fetch uri x).2.pageSize = x.pageSize := by
  unfold fetch visit
  cases resolved : c.resolve uri with
  | ok url =>
    rw [execute_eq c x resolved]
    exact ⟨rfl, rfl, rfl⟩
  | error e =>
    unfold execute
    rw [resolved]
    exact ⟨rfl, (List.append_nil _).symm, rfl⟩

end Client

/-! ## Walks over pages -/

namespace Pages

def Ahead (c : Client) : Pages → Exchange → List Visit → Prop
  | ⟨none⟩, _, vs => vs = []
  | ⟨some uri⟩, x, vs => c.Visits x.pageSize x.sent uri vs

variable {c : Client} {p : Pages} {x : Exchange}

theorem advance_done (h : Ahead c p x []) : advance c p x = (.finished, p, x) := by
  obtain ⟨_ | uri⟩ := p
  · rfl
  · cases h

/-- One step makes the first visit that is ahead. -/
theorem advance_visit {v : Visit} {vs : List Visit} (h : Ahead c p x (v :: vs)) :
    ∃ p' x', advance c p x = (.result v.result, p', x') ∧
      x'.sent = x.sent ++ v.request.toList ∧ Ahead c p' x' vs := by
  obtain ⟨_ | uri⟩ := p
  · cases h
  obtain ⟨first, leads⟩ := h.cons
  have read := c.fetch_visit uri x
  rw [← first] at read
  rw [advance]
  generalize c.fetch uri x = answer at read ⊢
  obtain ⟨r, x'⟩ := answer
  obtain ⟨rfl, sent, pageSize⟩ := read
  dsimp only at sent pageSize
  cases result : v.result with
  | error e =>
    refine ⟨_, _, rfl, sent, ?_⟩
    rcases leads with ⟨-, none⟩ | ⟨uri', some, -⟩
    · exact none
    · rw [Visit.next, result] at some
      cases some
  | ok page =>
    refine ⟨_, _, rfl, sent, ?_⟩
    have next : after c page = ⟨v.next c⟩ := by rw [Visit.next, result]; rfl
    rw [next]
    rcases leads with ⟨none, rfl⟩ | ⟨uri', some, visits⟩
    · rw [none]
      rfl
    · rw [some]
      show c.Visits x'.pageSize x'.sent uri' vs
      rwa [pageSize, sent]

def Results (c : Client) (p : Pages) (x : Exchange) (rs : List (Except Error Payload)) : Prop :=
  ∃ vs, Ahead c p x vs ∧ rs = vs.map (·.result)

theorem foretells (c : Client) : (advance c).Foretells (Results c) := by
  rintro p x rs ⟨vs, ahead, rfl⟩
  cases vs with
  | nil =>
    rw [advance_done ahead]
    exact ⟨[], ⟨[], ahead, rfl⟩, rfl, rfl⟩
  | cons v vs =>
    obtain ⟨p', x', step, -, later⟩ := advance_visit ahead
    rw [step]
    exact ⟨_, ⟨vs, later, rfl⟩, rfl⟩

theorem never_pending (c : Client) : (advance c).Prompt fun _ _ => True where
  answers {p x} _ := by
    obtain ⟨_ | uri⟩ := p
    · simp [advance]
    · rw [advance]
      split <;> simp
  keeps _ _ _ := trivial

/-- The first `m` steps hand over the requests of the first `m` visits. -/
theorem run_sent_visits (m : Nat) {vs : List Visit} (h : Ahead c p x vs) :
    ((advance c).run m p x).2.2.sent = x.sent ++ (vs.take m).filterMap (·.request) := by
  induction m generalizing p x vs with
  | zero => rw [List.take_zero]; exact (List.append_nil _).symm
  | succ m ih =>
    cases vs with
    | nil =>
      have rest := ih h
      rw [List.take_nil] at rest ⊢
      rw [Advance.run_succ (advance_done h)]
      exact rest
    | cons v vs =>
      obtain ⟨p', x', step, sent, later⟩ := advance_visit h
      rw [Advance.run_succ step, List.take_succ_cons, List.filterMap_cons]
      dsimp only
      rw [ih later, sent]
      cases v.request <;> simp

end Pages

/-! ## Walks over items -/

/-- How many visits the first `n` items take. -/
def Visit.due : Nat → List Visit → Nat
  | 0, _ => 0
  | _ + 1, [] => 0
  | n + 1, v :: vs => 1 + due (n + 1 - v.given.length) vs

namespace Visit

@[simp] theorem due_zero (vs : List Visit) : due 0 vs = 0 := by cases vs <;> rfl

@[simp] theorem due_nil (n : Nat) : due n [] = 0 := by cases n <;> rfl

theorem due_empty {v : Visit} (h : v.given = []) (n : Nat) (vs : List Visit) :
    due (n + 1) (v :: vs) = due (n + 1) vs + 1 := by
  rw [due, h, List.length_nil, Nat.sub_zero, Nat.add_comm]

theorem due_full {v : Visit} {r : Except Error Json} {rs : List (Except Error Json)}
    (h : v.given = r :: rs) (n : Nat) (vs : List Visit) :
    due (n + 1) (v :: vs) = due (n - rs.length) vs + 1 := by
  rw [due, h, List.length_cons, Nat.add_sub_add_right, Nat.add_comm]

theorem requests_cons (v : Visit) (vs : List Visit) :
    (v :: vs).filterMap (·.request) = v.request.toList ++ vs.filterMap (·.request) := by
  cases requested : v.request <;> simp [requested]

theorem due_le (n : Nat) (vs : List Visit) : due n vs ≤ vs.length := by
  induction vs generalizing n with
  | nil => cases n <;> simp [due]
  | cons v vs ih =>
    cases n with
    | zero => simp
    | succ n =>
      have rest := ih (n + 1 - v.given.length)
      rw [due, List.length_cons]
      omega

/-- A visit is due when the visits before it give fewer than the items asked for. -/
theorem lt_due_iff {j : Nat} {vs : List Visit} (h : j < vs.length) (n : Nat) :
    j < due n vs ↔ ((vs.take j).flatMap given).length < n := by
  induction vs generalizing n j with
  | nil => cases h
  | cons v vs ih =>
    cases n with
    | zero => simp
    | succ n =>
      cases j with
      | zero =>
        rw [due]
        simp only [List.take_zero, List.flatMap_nil, List.length_nil]
        omega
      | succ j =>
        have rest := ih (Nat.lt_of_succ_lt_succ h) (n + 1 - v.given.length)
        rw [due, List.take_succ_cons, List.flatMap_cons, List.length_append]
        omega

end Visit

namespace Cursor

variable {c : Client} {x : Exchange} {vs : List Visit}

/-- A cursor with nothing left of its page makes the visits for one item. -/
theorem advance_due {room : Nat} {p : Pages} (h : Pages.Ahead c p x vs) (fits : vs.length < room) :
    ∃ a cursor x', advance (Pages.advance c) room ⟨[], p⟩ x = (a, cursor, x') ∧
      Pages.Ahead c cursor.pages x' (vs.drop (Visit.due 1 vs)) ∧
      x'.sent = x.sent ++ (vs.take (Visit.due 1 vs)).filterMap (·.request) ∧
      ∀ m, Visit.due (m + 1) vs =
        Visit.due 1 vs + Visit.due (m - cursor.buffer.length) (vs.drop (Visit.due 1 vs)) := by
  induction room generalizing p x vs with
  | zero => exact absurd fits (Nat.not_lt_zero _)
  | succ room ih =>
    rw [advance]
    cases vs with
    | nil =>
      rw [Pages.advance_done h]
      exact ⟨_, _, _, rfl, h, by simp, by simp⟩
    | cons v vs =>
      obtain ⟨p', x', step, sent, later⟩ := Pages.advance_visit h
      rw [step]
      cases result : v.result with
      | error e =>
        have given : v.given = [.error e] := by rw [Visit.given, result]; rfl
        have one : Visit.due 1 (v :: vs) = 1 := by simp [Visit.due_full given]
        rw [one]
        refine ⟨_, _, _, rfl, later, ?_, fun m => ?_⟩
        · rw [sent, List.take_succ_cons, Visit.requests_cons]
          simp
        · rw [Visit.due_full given, Nat.add_comm]
          rfl
      | ok page =>
        have given : v.given = page.items.map .ok := by rw [Visit.given, result]; rfl
        dsimp only
        cases items : page.items with
        | nil =>
          rw [items, List.map_nil] at given
          obtain ⟨a, cursor, x'', answer, ahead, handed, due⟩ :=
            ih later (Nat.lt_of_succ_lt_succ fits)
          have one : Visit.due 1 (v :: vs) = Visit.due 1 vs + 1 := Visit.due_empty given 0 vs
          rw [one]
          refine ⟨a, cursor, x'', answer, ahead, ?_, fun m => ?_⟩
          · rw [handed, sent, List.take_succ_cons, Visit.requests_cons, List.append_assoc]
          · rw [Visit.due_empty given, due, List.drop_succ_cons]
            omega
        | cons item rest =>
          rw [items, List.map_cons] at given
          have one : Visit.due 1 (v :: vs) = 1 := by simp [Visit.due_full given]
          rw [advance_item, one]
          refine ⟨_, _, _, rfl, later, ?_, fun m => ?_⟩
          · rw [sent, List.take_succ_cons, Visit.requests_cons]
            simp
          · rw [Visit.due_full given, List.length_map, Nat.add_comm]
            rfl

/-- After `m` steps the requests of the visits that `m` items take have been handed over. -/
theorem run_sent_due {room : Nat} (m : Nat) (cursor : Cursor Pages)
    (h : Pages.Ahead c cursor.pages x vs) (fits : vs.length < room) :
    ((advance (Pages.advance c) room).run m cursor x).2.2.sent =
      x.sent ++ (vs.take (Visit.due (m - cursor.buffer.length) vs)).filterMap (·.request) := by
  induction m generalizing cursor x vs with
  | zero => rw [Nat.zero_sub, Visit.due_zero, List.take_zero]; exact (List.append_nil _).symm
  | succ m ih =>
    obtain ⟨_ | ⟨item, rest⟩, p⟩ := cursor
    · obtain ⟨a, cursor, x', step, ahead, sent, due⟩ := advance_due h fits
      have rest := ih cursor ahead (by rw [List.length_drop]; omega)
      rw [Advance.run_succ step, List.length_nil, Nat.sub_zero, due, List.take_add,
        List.filterMap_append, ← List.append_assoc, ← sent]
      exact rest
    · rw [Advance.run_succ (advance_item _ room item rest p x), List.length_cons,
        Nat.add_sub_add_right]
      exact ih ⟨rest, p⟩ h fits

end Cursor

/-! ## Walks of a draft -/

/-- What the walks of a draft do that have the visits `vs` to make. -/
structure Delivers (c : Client) (x : Exchange) (vs : List Visit) (pages : Pages)
    (cursor : Cursor Pages) : Prop where
  /-- A walk over pages gives what the visits bring, and then it is finished. -/
  pages_answers (m : Nat) :
    ((Pages.advance c).run m pages x).1 = Progress.prompt m (vs.map (·.result))
  /-- Each step makes one visit, none if there is none left. -/
  pages_sent (m : Nat) :
    ((Pages.advance c).run m pages x).2.2.sent = x.sent ++ (vs.take m).filterMap (·.request)
  /-- A cursor gives the items of the pages one by one, a failure in place of the last page,
  and then it is finished. -/
  cursor_answers (room m : Nat) (fits : vs.length < room) :
    ((Cursor.advance (Pages.advance c) room).run m cursor x).1 =
      Progress.prompt m (vs.flatMap Visit.given)
  /-- It makes a visit when it is asked for more than the visits before have given. -/
  cursor_sent (room m : Nat) (fits : vs.length < room) :
    ∃ k ≤ vs.length,
      ((Cursor.advance (Pages.advance c) room).run m cursor x).2.2.sent =
        x.sent ++ (vs.take k).filterMap (·.request) ∧
      ∀ j < vs.length, j < k ↔ ((vs.take j).flatMap Visit.given).length < m

/-- The walks of a draft make the visits from the compiled URI on, up to the last one that a
finite transport allows, and deliver what they bring. -/
theorem Draft.walks_deliver {c : Client} {d : Draft} {pages : Pages} {cursor : Cursor Pages}
    {n : Nat} (paged : d.pages = .ok pages) (itemised : d.cursor = .ok cursor)
    (finite : c.transport.EndsBy n) (x : Exchange) :
    ∃ uri vs, d.readUri {} none = .ok uri ∧ c.Visits x.pageSize x.sent uri vs ∧
      vs.length ≤ n - x.sent.length + 1 ∧ Delivers c x vs pages cursor := by
  unfold Draft.cursor at itemised
  rw [paged] at itemised
  unfold Draft.pages at paged
  cases read : d.readUri {} none with
  | error e => rw [read] at paged; cases paged
  | ok uri =>
    rw [read] at paged
    cases paged
    cases itemised
    obtain ⟨vs, visits, short⟩ : ∃ vs, c.Visits x.pageSize x.sent uri vs ∧
        vs.length ≤ n - x.sent.length + 1 := Client.exists_visits finite x.sent uri
    have ahead : Pages.Ahead c ⟨some uri⟩ x vs := visits
    have results : Pages.Results c ⟨some uri⟩ x (vs.map (·.result)) := ⟨vs, ahead, rfl⟩
    have items : Cursor.Ahead (Pages.Results c) (.ofPages ⟨some uri⟩) x
        (vs.flatMap Visit.given) := ⟨_, results, by rw [List.flatMap_map]; rfl⟩
    refine ⟨uri, vs, rfl, visits, short, ?_, fun m => Pages.run_sent_visits m ahead, ?_, ?_⟩
    · exact fun m =>
        Advance.run_prompt (Pages.foretells c) (Pages.never_pending c) m results trivial
    · intro room m fits
      have roomy : Advance.Within (Pages.Results c) room ⟨some uri⟩ x :=
        ⟨_, results, by rwa [List.length_map]⟩
      exact Advance.run_prompt (Cursor.foretells (Pages.foretells c) room)
        (Cursor.prompt (Pages.foretells c) (Pages.never_pending c) room) m items ⟨trivial, roomy⟩
    · exact fun room m fits => ⟨_, Visit.due_le m vs, Cursor.run_sent_due m _ ahead fits,
        fun j hj => Visit.lt_due_iff hj m⟩

/-- A client whose transport gives a page of two items, a page without items and then fails. -/
def listing : Client where
  baseUrl :=
    { scheme := "https", authority := some ⟨"", "svc", none⟩, path := .segments ["odata", ""]
      query := none, fragment := none }
  config := {}
  grammar := .standard
  headers := .empty
  authenticator := none
  transport := .scripted
    [page ("\x7b\"value\":[1,2],\"@odata.nextLink\":" ++
        "\"https://svc/odata/Orders?$skip=2\"\x7d"),
     page "\x7b\"value\":[],\"@odata.nextLink\":\"Orders?$skip=3\"\x7d"]
    (.failure "reset")
where
  page (body : String) : Http.Answer := .response ⟨.ok, .empty, body⟩

def orders : Draft := { query := { entitySet := some "Orders" } }

theorem readUri_orders : orders.readUri {} none = .ok "Orders" := by decide +kernel

theorem walks_deliver_listing :
    let first : Pages := ⟨some "Orders"⟩
    orders.pages = .ok first ∧ orders.cursor = .ok (.ofPages first) ∧
      listing.transport.EndsBy 2 ∧
      (((Cursor.advance (Pages.advance listing) 4).run 3 (.ofPages first) {}).2.2.sent.map
        (·.uri)) = ["https://svc/odata/Orders", "https://svc/odata/Orders?$skip=2",
          "https://svc/odata/Orders?$skip=3"] ∧
      ∃ uri vs, orders.readUri {} none = .ok uri ∧ listing.Visits none [] uri vs ∧
        vs.length ≤ 3 ∧ Delivers listing {} vs first (.ofPages first) := by
  have paged : orders.pages = .ok ⟨some "Orders"⟩ := by rw [Draft.pages, readUri_orders]; rfl
  have itemised : orders.cursor = .ok (.ofPages ⟨some "Orders"⟩) := by
    rw [Draft.cursor, paged]; rfl
  have finite : listing.transport.EndsBy 2 := Http.Transport.endsBy_scripted [_, _] _
  exact ⟨paged, itemised, finite, by decide +kernel, Draft.walks_deliver paged itemised finite {}⟩

end OData
