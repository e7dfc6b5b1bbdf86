import OData.Draft.Effect
import OData.Proofs.Client.Headers
import OData.Proofs.Draft.Reach
import OData.Proofs.Draft.Refusal
import OData.Proofs.Paging.Requests

/-!
# The page size of a client

All that works through a client shares one page size, which calls on drafts set at once, those
in a group as well, whatever becomes of the group (`sizes_effects`). Every operation leaves it as
it is, and asks with each request for the page size that the exchange has when the request is
made (`Client.Grows`). So in a session each request asks for the page size that was set last, be
it for a page of a walk that was made before that (`step_prefer`).
-/

namespace OData

/-! ## Page sizes that are set -/

def Call.size? : Call → Option Nat
  | .pageSize n => some n
  | _ => none

/-- The page sizes that a call sets, in its groups as well. -/
def Call.sizes (call : Call) : List Nat := call.parts.filterMap size?

def Effect.size? : Effect → Option Nat
  | .pageSize n => some n
  | .report _ => none

theorem sizes_reports (d : Draft) (r : Except Misuse Query) :
    (d.reports r).filterMap Effect.size? = [] := by
  cases r with
  | ok q => rfl
  | error m => rw [Draft.reports]; split <;> rfl

mutual

/-- What becomes of a call makes no difference to the page sizes that it sets. -/
theorem sizes_effects (g : Grammar) : (call : Call) → (d : Draft) →
    (call.effects g d).filterMap Effect.size? = call.sizes
  | .pageSize n, d => by rw [Call.effects]; rfl
  | .group connector start calls, d => by
    rw [Call.effects, List.filterMap_append, sizes_effectsOfAll g calls, sizes_reports,
      List.append_nil, Call.sizes, Call.parts]
    rfl
  | .entitySet _, d | .select _, d | .key _, d | .compare .., d | .columns .., d | .isNull .., d
  | .isIn .., d | .raw .., d | .bind .., d | .expand _, d | .order _, d | .rawOrder _, d
  | .skip _, d | .skipToken _, d | .take _, d | .fresh, d => by
    rw [Call.effects, sizes_reports]
    · rfl
    · nofun
    · nofun

theorem sizes_effectsOfAll (g : Grammar) : (calls : List Call) → (d : Draft) →
    (effectsOfAll g calls d).filterMap Effect.size? = (partsOf calls).filterMap Call.size?
  | [], d => by rw [effectsOfAll, partsOf]; rfl
  | call :: calls, d => by
    rw [effectsOfAll, List.filterMap_append, sizes_effects g call, sizes_effectsOfAll g calls,
      partsOf, List.filterMap_append, Call.sizes]

end

theorem foldl_absorb (effects : List Effect) (x : Exchange) :
    (effects.foldl Exchange.absorb x).sent = x.sent ∧
      (effects.foldl Exchange.absorb x).pageSize =
        (effects.filterMap Effect.size?).getLast?.or x.pageSize := by
  induction effects generalizing x with
  | nil => exact ⟨rfl, rfl⟩
  | cons effect effects ih =>
    obtain ⟨sent, pageSize⟩ := ih (x.absorb effect)
    rw [List.foldl_cons, sent, pageSize]
    cases effect with
    | report event => exact ⟨rfl, rfl⟩
    | pageSize n =>
      have size : (Effect.pageSize n).size? = some n := rfl
      rw [List.filterMap_cons_some size, getLast?_cons_or]
      exact ⟨rfl, rfl⟩

/-! ## Operations -/

namespace Client.Grows

theorem perform (c : Client) (d : Draft) (t : Terminal) (x : Exchange) :
    c.Grows x ((t.perform c d).after x) := by
  rw [t.perform_eq]
  refine checked _ fun uri => ?_
  by_cases walk : t.isWalk = true
  · cases t with
    | pages | cursor | pageStream | itemStream => exact .refl c x
    | _ => cases walk
  · rw [Terminal.trip_after (by simpa using walk)]
    exact .execute c t.method uri t.body x

theorem submit (c : Client) (d : Draft) (method : String) (body : Option Draft.Body)
    (x : Exchange) : c.Grows x ((Draft.submit c d method body).after x) := by
  unfold Draft.submit
  refine checked _ fun uri => ?_
  refine checked _ fun text => ?_
  exact .execute c method uri text x

end Client.Grows

/-! ## Sessions -/

inductive Walk where
  | pages (p : Pages)
  | cursor (items : Cursor Pages)
  | pageStream (s : PageStream String)
  | itemStream (items : Cursor (PageStream String))

namespace Walk

/-- A walk after it was asked for its next result, with room for so many pages without items. -/
def advance (c : Client) (room : Nat) : Walk → Exchange → Walk × Exchange
  | .pages p, x => let (_, p, x) := p.advance c x; (.pages p, x)
  | .cursor items, x =>
    let (_, items, x) := items.advance (Pages.advance c) room x
    (.cursor items, x)
  | .pageStream s, x => let (_, s, x) := s.poll c.fetcher x; (.pageStream s, x)
  | .itemStream items, x =>
    let (_, items, x) := items.advance (PageStream.poll c.fetcher) room x
    (.itemStream items, x)

theorem advance_grows (c : Client) (room : Nat) (w : Walk) (x : Exchange) :
    c.Grows x (w.advance c room x).2 := by
  cases w with
  | pages p => exact .pages c p x
  | cursor items => exact .cursor (.pages c) room items x
  | pageStream s => exact .pageStream c s x
  | itemStream items => exact .cursor (.pageStream c) room items x

end Walk

def Terminal.walk? (d : Draft) : Terminal → Option Walk
  | .pages => d.pages.toOption.map .pages
  | .cursor _ => d.cursor.toOption.map .cursor
  | .pageStream => d.pageStream.toOption.map .pageStream
  | .itemStream _ => d.itemStream.toOption.map .itemStream
  | _ => none

/-- What works through a client and its copies: the exchange that all of it shares, the drafts that
calls have led to and the walks as they stand. A draft can be used again at any time. -/
structure Session where
  exchange : Exchange
  drafts : List Draft := []
  walks : List Walk := []

/-- One use of a client, of a draft or of a walk, which are told by their numbers. What is done
while a group is in the making are steps of their own, and the group then starts from the draft
that they lead to. -/
inductive Step : Type 1 where
  | setPageSize (n : Nat)
  | execute (background : Bool) (method uri : String) (body : Option String)
  | call (draft : Nat) (call : Call)
  | perform (draft : Nat) (t : Terminal)
  /-- Writing with a body that may have no text. -/
  | submit (draft : Nat) (method : String) (body : Option Draft.Body)
  | advance (walk room : Nat)

def Step.sizes : Step → List Nat
  | .setPageSize n => [n]
  | .call _ called => called.sizes
  | _ => []

namespace Session

def draft (s : Session) (i : Nat) : Draft := s.drafts[i]?.getD {}

def step (c : Client) (s : Session) : Step → Session
  | .setPageSize n => { s with exchange := s.exchange.absorb (.pageSize n) }
  | .execute background method uri body =>
    let action := c.execute method uri body
    { s with
      exchange := (if background then Client.detached action else action).after s.exchange }
  | .call i call =>
    let (d, exchange) := (s.draft i).call c.grammar call s.exchange
    { s with exchange, drafts := s.drafts ++ [d] }
  | .perform i t =>
    { s with
      exchange := (t.perform c (s.draft i)).after s.exchange
      walks := s.walks ++ (t.walk? (s.draft i)).toList }
  | .submit i method body =>
    { s with exchange := (Draft.submit c (s.draft i) method body).after s.exchange }
  | .advance j room =>
    match s.walks[j]? with
    | none => s
    | some w =>
      let (w, exchange) := w.advance c room s.exchange
      { s with exchange, walks := s.walks.set j w }

def run (c : Client) (steps : List Step) (s : Session) : Session := steps.foldl (step c) s

def start (c : Client) : Session := { exchange := c.start }

variable {c : Client}

/-- A step that sets page sizes sends nothing, and any other leaves the page size as it is. -/
theorem step_exchange (c : Client) (s : Session) (step : Step) :
    c.Sends s.exchange (s.step c step).exchange ∧
      (s.step c step).exchange.pageSize = step.sizes.getLast?.or s.exchange.pageSize := by
  have grown {x : Exchange} (h : c.Grows s.exchange x) :
      c.Sends s.exchange x ∧ x.pageSize = s.exchange.pageSize := ⟨h.sends, h.pageSize⟩
  cases step with
  | setPageSize n => exact ⟨⟨[], (List.append_nil _).symm, nofun⟩, rfl⟩
  | call i call =>
    obtain ⟨sent, pageSize⟩ := foldl_absorb (call.effects c.grammar (s.draft i)) s.exchange
    rw [sizes_effects] at pageSize
    exact ⟨⟨[], sent.trans (List.append_nil _).symm, nofun⟩, pageSize⟩
  | execute background method uri body =>
    apply grown
    dsimp only [Session.step]
    split
    · rw [Action.after_detached]
      exact .execute c method uri body s.exchange
    · exact .execute c method uri body s.exchange
  | perform i t => exact grown (.perform c (s.draft i) t s.exchange)
  | submit i method body => exact grown (.submit c (s.draft i) method body s.exchange)
  | advance j room =>
    apply grown
    rw [Session.step]
    split
    · exact .refl c s.exchange
    · next w _ => exact w.advance_grows c room s.exchange

theorem run_pageSize (c : Client) (steps : List Step) (s : Session) :
    (run c steps s).exchange.pageSize =
      (steps.flatMap Step.sizes).getLast?.or s.exchange.pageSize := by
  induction steps generalizing s with
  | nil => rfl
  | cons step steps ih =>
    rw [run, List.foldl_cons, ← run, ih, (step_exchange c s step).2, List.flatMap_cons,
      List.getLast?_append, Option.or_assoc]

end Session

/-! ## The preference -/

/-- What requests have for `Prefer`: the page size that is asked for, or else the default. -/
def Config.preference (config : Config) : Option Nat → List String
  | some n => ["odata.maxpagesize=" ++ toString n]
  | none => (Http.Headers.last? "prefer" config.defaultHeaders).toList

section

variable {config : Config} {grammar : Grammar} {authenticator : Option Http.Authenticator}
  {transport : Http.Transport} {c : Client}
  (built : Client.build config grammar authenticator transport = .ok c)

include built

theorem prefer_of_made {pageSize : Option Nat} {r : Http.Request} (made : c.Made pageSize r) :
    r.headers.values "prefer" = config.preference pageSize := by
  obtain ⟨method, url, body, rfl⟩ := made
  unfold Client.request Client.requestHeaders
  cases pageSize with
  | some n => exact Http.Headers.values_insert_self _ _ _
  | none =>
    have plain : c.headers.values "prefer" = config.preference none := by
      rw [Client.values_of_build built, config.last?_headerFields (by decide), Config.preference]
    dsimp only
    split
    · rw [Http.Headers.values_insert, if_neg (by decide), plain]
    · exact plain

/-- In a session the requests of a step are made for the page size that was set last before it, or
for the configured one. -/
theorem Session.step_made (earlier : List Step) (step : Step) :
    let s := Session.run c earlier (.start c)
    let pageSize := (earlier.flatMap Step.sizes).getLast?.or config.pageSize
    ∃ handed : List Http.Request,
      (s.step c step).exchange.sent = s.exchange.sent ++ handed.map c.authenticate ∧
      ∀ r ∈ handed, c.Made pageSize r := by
  intro s pageSize
  obtain ⟨handed, sent, made⟩ := (Session.step_exchange c s step).1
  have configured : c.start.pageSize = config.pageSize := by
    obtain ⟨_, _, -, -, rfl⟩ := Client.build_ok built
    rfl
  have size : s.exchange.pageSize = pageSize := by
    rw [Session.run_pageSize, Session.start, configured]
  rw [size] at made
  exact ⟨handed, sent, made⟩

/-- In a session each request that is handed to the authenticator asks for the page size that was
set last before it, by whatever step, or for the configured one. With neither it has for `Prefer`
what the default headers give. -/
theorem step_prefer (earlier : List Step) (step : Step) :
    let s := Session.run c earlier (.start c)
    let pageSize := (earlier.flatMap Step.sizes).getLast?.or config.pageSize
    ∃ handed : List Http.Request,
      (s.step c step).exchange.sent = s.exchange.sent ++ handed.map c.authenticate ∧
      ∀ r ∈ handed, c.Made pageSize r ∧ r.headers.values "prefer" = config.preference pageSize := by
  intro s pageSize
  obtain ⟨handed, sent, made⟩ := Session.step_made built earlier step
  exact ⟨handed, sent, fun r member => ⟨made r member, prefer_of_made built (made r member)⟩⟩

end

def sized : Except Error Client :=
  Client.build
    { baseUrl := "https://svc/odata", pageSize := some 5
      defaultHeaders := [("PREFER", "odata.track-changes")] }
    .standard none
    (.scripted
      [page "\x7b\"value\":[1],\"@odata.nextLink\":\"Orders?$skip=1\"\x7d", page "[]"]
      (.failure "reset"))
where
  page (body : String) : Http.Answer := .response ⟨.ok, .empty, body⟩

/-- A walk over pages is made and asked for its first page, and then a page size is set in a group
that is misused. -/
def resizedWalk : List Step :=
  [.call 0 (.entitySet "Orders"), .perform 0 .pages, .advance 0 0,
   .call 0 (.group .or none [.group .and none [.pageSize 7], .compare .and "a" ">" .null])]

theorem step_prefer_resizedWalk :
    ∃ c, sized = .ok c ∧ resizedWalk.flatMap Step.sizes = [7] ∧
      (((Session.run c resizedWalk (.start c)).step c (.advance 0 0)).exchange.sent.map fun r =>
        (r.uri, r.headers.values "prefer")) =
          [("https://svc/odata/Orders", ["odata.maxpagesize=5"]),
           ("https://svc/odata/Orders?$skip=1", ["odata.maxpagesize=7"])] ∧
      ∃ handed : List Http.Request,
        ((Session.run c resizedWalk (.start c)).step c (.advance 0 0)).exchange.sent =
          (Session.run c resizedWalk (.start c)).exchange.sent ++ handed.map c.authenticate ∧
        ∀ r ∈ handed, c.Made (some 7) r ∧
          r.headers.values "prefer" = ["odata.maxpagesize=" ++ toString 7] := by
  have sent : sized.toOption.map (fun c =>
      ((Session.run c resizedWalk (.start c)).step c (.advance 0 0)).exchange.sent.map fun r =>
        (r.uri, r.headers.values "prefer")) =
      some [("https://svc/odata/Orders", ["odata.maxpagesize=5"]),
        ("https://svc/odata/Orders?$skip=1", ["odata.maxpagesize=7"])] := by
    decide +kernel
  cases built : sized with
  | error e => rw [built] at sent; cases sent
  | ok c =>
    rw [built] at sent
    exact ⟨c, rfl, rfl, Option.some.inj sent, step_prefer built resizedWalk (.advance 0 0)⟩

end OData
