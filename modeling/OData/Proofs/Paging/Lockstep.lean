import OData.Proofs.Paging.Requests
import OData.Proofs.Paging.Scripts
import OData.Proofs.Paging.Visits

/-!
# Blocking and asynchronous reads

A stream keeps the links of the pages as they are and strips the service root when it
fetches; a blocking walk strips it when it reads a link. With a transport that does not
break down both give the same answers and send the same requests, step by step
(`Draft.reads_agree`).
-/

namespace OData

def Http.Transport.Steady (t : Http.Transport) : Prop := ∀ sent r, t sent r ≠ .crash

namespace Client

variable {c : Client}

theorem receive_ne_crash {answer : Http.Answer} (h : answer ≠ .crash) :
    (c.receive answer).1 ≠ .error .crash := by
  cases answer with
  | crash => exact absurd rfl h
  | failure reason => simp [receive]
  | response r =>
    rw [receive]
    split <;> simp

theorem fetch_ne_crash (steady : c.transport.Steady) (uri : String) (x : Exchange) :
    (c.fetch uri x).1 ≠ .error .crash := by
  rw [(c.fetch_visit uri x).1, visit]
  cases resolved : c.resolve uri with
  | ok url => exact receive_ne_crash (steady _ _)
  | error e =>
    unfold resolve at resolved
    cases joined : c.baseUrl.join uri with
    | ok url => rw [joined] at resolved; cases resolved
    | error cause => rw [joined] at resolved; cases resolved; simp

/-- Only a breakdown tells a background task from a call. -/
theorem fetchAsync_eq (steady : c.transport.Steady) (uri : String) :
    c.fetchAsync uri = c.fetch uri := by
  funext x
  have whole := fetch_ne_crash steady uri x
  unfold fetchAsync detached
  split
  · next e => rw [e] at whole; exact absurd rfl whole
  · rfl

end Client

theorem Client.fetcher_poll (c : Client) (link : String) (x : Exchange) :
    c.fetcher.poll link x = (.done (c.fetchAsync (c.relativeLink link) x).1,
      (c.fetchAsync (c.relativeLink link) x).2) := by
  dsimp only [fetcher]
  generalize c.fetchAsync (c.relativeLink link) x = answer
  rfl

/-- Exchanges that tell the same to those who answer: what was reported may differ. -/
structure Exchange.Alike (x y : Exchange) : Prop where
  sent : x.sent = y.sent
  pageSize : x.pageSize = y.pageSize

theorem Client.fetch_alike (c : Client) (uri : String) {x y : Exchange} (h : x.Alike y) :
    (c.fetch uri x).1 = (c.fetch uri y).1 ∧ (c.fetch uri x).2.Alike (c.fetch uri y).2 := by
  obtain ⟨result, sent, pageSize⟩ := c.fetch_visit uri x
  obtain ⟨result', sent', pageSize'⟩ := c.fetch_visit uri y
  rw [← h.sent, ← h.pageSize] at result' sent'
  exact ⟨result.trans result'.symm, sent.trans sent'.symm,
    pageSize.trans (h.pageSize.trans pageSize'.symm)⟩

/-! ## Walks in step -/

def PageStream.target : PageStream String → Option String
  | .waiting link => some link
  | .fetching link => some link
  | .ended => none

/-- A blocking walk and a stream that are about to read the same page. -/
def InStep (c : Client) (p : Pages) (x : Exchange) (s : PageStream String) (y : Exchange) : Prop :=
  p.next = s.target.map c.relativeLink ∧ x.Alike y

theorem PageStream.target_behind (r : Except Error Payload) :
    (behind r).target = linkBehind r := by
  unfold behind
  cases linkBehind r <;> rfl

/-- A stream with a target reads it, whether it has started to or not. -/
theorem PageStream.poll_target {c : Client} (steady : c.transport.Steady) {s : PageStream String}
    {link : String} (h : s.target = some link) (y : Exchange) :
    poll c.fetcher s y = (.result (c.fetch (c.relativeLink link) y).1,
      .behind (c.fetch (c.relativeLink link) y).1, (c.fetch (c.relativeLink link) y).2) := by
  have read : c.fetcher.poll link y = (.done (c.fetch (c.relativeLink link) y).1,
      (c.fetch (c.relativeLink link) y).2) := by
    rw [Client.fetcher_poll, Client.fetchAsync_eq steady]
  cases s with
  | ended => cases h
  | waiting link' => cases h; rw [poll_waiting, pollFetch_done read]
  | fetching link' => cases h; rw [poll, pollFetch_done read]

/-- A walk reports where it goes on, and does nothing else that a stream does not. -/
theorem Pages.advance_some (c : Client) (uri : String) (x : Exchange) :
    ∃ x', advance c ⟨some uri⟩ x =
      (.result (c.fetch uri x).1, ⟨(linkBehind (c.fetch uri x).1).map c.relativeLink⟩, x') ∧
      x'.Alike (c.fetch uri x).2 := by
  rw [advance]
  generalize c.fetch uri x = answer
  obtain ⟨_ | page, x'⟩ := answer
  · exact ⟨x', rfl, rfl, rfl⟩
  · exact ⟨x'.report (after c page).events, rfl, rfl, rfl⟩

theorem Exchange.Alike.trans {x y z : Exchange} (h : x.Alike y) (h' : y.Alike z) : x.Alike z :=
  ⟨h.sent.trans h'.sent, h.pageSize.trans h'.pageSize⟩

/-- Walk and stream stay in step. -/
theorem Pages.mirrors_stream {c : Client} (steady : c.transport.Steady) :
    (advance c).Mirrors (InStep c) (PageStream.poll c.fetcher) := by
  rintro ⟨next⟩ x s y ⟨same, alike⟩
  dsimp only at same
  cases target : s.target with
  | none =>
    obtain rfl : next = none := by rw [same, target]; rfl
    cases s with
    | ended => exact ⟨rfl, rfl, alike⟩
    | waiting link => cases target
    | fetching link => cases target
  | some link =>
    obtain rfl : next = some (c.relativeLink link) := by rw [same, target]; rfl
    obtain ⟨x', step, logged⟩ := advance_some c (c.relativeLink link) x
    obtain ⟨result, later⟩ := c.fetch_alike (c.relativeLink link) alike
    rw [step, PageStream.poll_target steady target]
    generalize c.fetch (c.relativeLink link) x = answer at result later logged ⊢
    generalize c.fetch (c.relativeLink link) y = answer' at result later ⊢
    refine ⟨congrArg Progress.result result, ?_, logged.trans later⟩
    rw [PageStream.target_behind, result]

/-! ## Reads of a draft -/

def SameRun {π π' α : Type} (a : List (Progress α) × π × Exchange)
    (b : List (Progress α) × π' × Exchange) : Prop :=
  a.1 = b.1 ∧ a.2.2.sent = b.2.2.sent

structure Agree (c : Client) (pages : Pages) (stream : PageStream String) : Prop where
  /-- Each step of a walk over pages has a page, a failure or the end to show. -/
  prompt (x : Exchange) (n : Nat) :
    ∀ a ∈ ((Pages.advance c).run n pages x).1, a ≠ .pending
  page_runs (x : Exchange) (n : Nat) :
    SameRun ((Pages.advance c).run n pages x) ((PageStream.poll c.fetcher).run n stream x)
  item_runs (x : Exchange) (room n : Nat) :
    SameRun ((Cursor.advance (Pages.advance c) room).run n (.ofPages pages) x)
      ((Cursor.advance (PageStream.poll c.fetcher) room).run n (.ofPages stream) x)

theorem agree_of_inStep {c : Client} (steady : c.transport.Steady) {pages : Pages}
    {stream : PageStream String} (next : pages.next = stream.target.map c.relativeLink) :
    Agree c pages stream where
  prompt x n := Advance.run_ne_pending (Pages.never_pending c) n trivial
  page_runs x n := by
    have start : InStep c pages x stream x := ⟨next, rfl, rfl⟩
    obtain ⟨answers, -, alike⟩ := Advance.run_mirrors (Pages.mirrors_stream steady) n start
    exact ⟨answers, alike.sent⟩
  item_runs x room n := by
    have start : Cursor.Beside (InStep c) (.ofPages pages) x (.ofPages stream) x :=
      ⟨rfl, next, rfl, rfl⟩
    obtain ⟨answers, -, -, alike⟩ :=
      Advance.run_mirrors (Cursor.mirrors (Pages.mirrors_stream steady) room) n start
    exact ⟨answers, alike.sent⟩

/-- With a transport that does not break down, the asynchronous reads of a draft do what the
blocking ones do, if its URI does not look like a link below the service root. -/
theorem Draft.reads_agree {c : Client} {d : Draft} (steady : c.transport.Steady)
    (apart : ∀ uri, d.readUri {} none = .ok uri → ¬ c.baseUrl.text.toList <+: uri.toList) :
    d.getAsync c = d.get c ∧ d.countAsync c = d.count c ∧ d.firstAsync c = d.first c ∧
      ((∃ e, d.pages = .error e ∧ d.pageStream = .error e ∧
          d.cursor = .error e ∧ d.itemStream = .error e) ∨
        ∃ pages stream, d.pages = .ok pages ∧ d.pageStream = .ok stream ∧
          d.cursor = .ok (.ofPages pages) ∧ d.itemStream = .ok (.ofPages stream) ∧
          Agree c pages stream) := by
  refine ⟨?_, ?_, ?_, ?_⟩
  · simp [getAsync, get, getWith, fetch, Client.fetchAsync_eq steady]
  · simp [countAsync, count, Client.fetchAsync_eq steady]
  · simp [firstAsync, first, firstWith, Client.fetchAsync_eq steady]
  · unfold cursor itemStream Draft.pages pageStream
    cases read : d.readUri {} none with
    | error e => exact .inl ⟨e, rfl, rfl, rfl, rfl⟩
    | ok uri =>
      have whole : c.relativeLink uri = uri := by
        unfold Client.relativeLink
        dsimp only
        rw [if_neg]
        rw [List.isPrefixOf_iff_prefix]
        exact apart uri read
      exact .inr ⟨⟨some uri⟩, .waiting uri, rfl, rfl, rfl, rfl,
        agree_of_inStep steady (by rw [PageStream.target, Option.map_some, whole])⟩

theorem reads_agree_listing :
    listing.transport.Steady ∧
      (∀ uri, orders.readUri {} none = .ok uri →
        ¬ listing.baseUrl.text.toList <+: uri.toList) ∧
      orders.getAsync listing = orders.get listing ∧
      orders.countAsync listing = orders.count listing ∧
      orders.firstAsync listing = orders.first listing ∧
      orders.cursor = .ok (.ofPages ⟨some "Orders"⟩) ∧
      orders.itemStream = .ok (.ofPages (.waiting "Orders")) ∧
      Agree listing ⟨some "Orders"⟩ (.waiting "Orders") := by
  have steady : listing.transport.Steady := by
    intro sent r
    unfold listing Http.Transport.scripted
    dsimp only
    rcases sent with _ | ⟨_, _ | ⟨_, sent⟩⟩ <;> simp [listing.page]
  have apart (uri : String) (h : orders.readUri {} none = .ok uri) :
      ¬ listing.baseUrl.text.toList <+: uri.toList := by
    rw [readUri_orders] at h
    cases h
    decide +kernel
  obtain ⟨get, count, first, ⟨e, failed, -⟩ | ⟨pages, stream, paged, streamed, items, itemised,
    agree⟩⟩ := Draft.reads_agree steady apart
  · rw [Draft.pages, readUri_orders] at failed
    cases failed
  · rw [Draft.pages, readUri_orders] at paged
    rw [Draft.pageStream, readUri_orders] at streamed
    cases paged
    cases streamed
    exact ⟨steady, apart, get, count, first, items, itemised, agree⟩

end OData
