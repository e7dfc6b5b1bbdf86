import OData.Proofs.Draft.Operations
import OData.Proofs.Paging.Requests

/-!
# The first request of an operation

Every operation that sends what a draft asks for starts with one request, for the service
root with the compiled URI behind it (`run_sent`). Only the entity set and the names in a
key have to be identifiers; keys, literals and the raw texts of a query may hold anything.
-/

namespace OData

open Url

/-- The surroundings after the first step of a walk, if there is one. -/
def Exchange.afterStep {π α : Type} (advance : Advance π Exchange α) (walk : Except Error π)
    (x : Exchange) : Exchange :=
  match walk with
  | .ok p => (advance p x).2.2
  | .error _ => x

namespace Draft

variable {d : Draft}

theorem Ready.pages (h : d.Ready) :
    d.pages = .ok ⟨some ((d.query.withOptions {} none).uri .sent)⟩ := by
  rw [Draft.pages, h.readUri]
  rfl

theorem Ready.cursor (h : d.Ready) :
    d.cursor = .ok (.ofPages ⟨some ((d.query.withOptions {} none).uri .sent)⟩) := by
  rw [Draft.cursor, h.pages]
  rfl

theorem Ready.pageStream (h : d.Ready) :
    d.pageStream = .ok (.waiting ((d.query.withOptions {} none).uri .sent)) := by
  rw [Draft.pageStream, h.readUri]
  rfl

theorem Ready.itemStream (h : d.Ready) :
    d.itemStream = .ok (.ofPages (.waiting ((d.query.withOptions {} none).uri .sent))) := by
  rw [Draft.itemStream, h.pageStream]
  rfl

end Draft

namespace Terminal

variable {c : Client} {d : Draft}

/-- The exchange after an operation; a walk is asked for something once. -/
def run (c : Client) (d : Draft) (x : Exchange) : Terminal → Exchange
  | .pages => x.afterStep (Pages.advance c) d.pages
  | .cursor room => x.afterStep (Cursor.advance (Pages.advance c) (room + 1)) d.cursor
  | .pageStream => x.afterStep (PageStream.poll c.fetcher) d.pageStream
  | .itemStream room =>
    x.afterStep (Cursor.advance (PageStream.poll c.fetcher) (room + 1)) d.itemStream
  | t => (t.perform c d).after x

theorem run_trip (ready : d.Ready) {t : Terminal} (trips : t.isWalk = false) (x : Exchange) :
    t.run c d x = (c.execute t.method (t.uri d.query) t.body).after x := by
  rw [← trip_after trips, ← t.perform_ready ready]
  cases t with
  | pages | cursor | pageStream | itemStream => cases trips
  | _ => rfl

/-- An operation starts with the round trip for its URI. -/
theorem run_extends (t : Terminal) (ready : d.Ready)
    (links : t.writes = false → c.relativeLink (t.uri d.query) = t.uri d.query) (x : Exchange) :
    ((c.execute t.method (t.uri d.query) t.body).after x).sent <+: (t.run c d x).sent := by
  cases t with
  | pages =>
    rw [run, ready.pages, Exchange.afterStep, Pages.advance_sent]
    exact List.prefix_rfl
  | cursor room =>
    have more := Cursor.first_extends (Client.Grows.pages c) room
      ⟨some ((d.query.withOptions {} none).uri .sent)⟩ x
    rw [Pages.advance_sent] at more
    rw [run, ready.cursor, Exchange.afterStep]
    exact more
  | pageStream =>
    have link : c.relativeLink ((d.query.withOptions {} none).uri .sent) = _ := links rfl
    rw [run, ready.pageStream, Exchange.afterStep, PageStream.poll_waiting,
      PageStream.pollFetch_sent, link]
    exact List.prefix_rfl
  | itemStream room =>
    have link : c.relativeLink ((d.query.withOptions {} none).uri .sent) = _ := links rfl
    have more := Cursor.first_extends (Client.Grows.pageStream c) room
      (.waiting ((d.query.withOptions {} none).uri .sent)) x
    rw [PageStream.poll_waiting, PageStream.pollFetch_sent, link] at more
    rw [run, ready.itemStream, Exchange.afterStep]
    exact more
  | _ => exact ⟨[], by rw [List.append_nil, run_trip ready rfl]⟩

theorem appended (t : Terminal) {front : List String} (root : c.baseUrl.Root front)
    {q : Query} (h : (t.query q).Addressed) : ∃ url, c.Appended (t.uri q) url := by
  unfold uri
  split
  · exact c.appended_path root h
  · exact c.appended_uri root h

/-- The request that an operation hands to the authenticator first is for the service root with
the compiled URI behind it, whatever the values and raw texts of the query are. -/
theorem run_sent {config : Config} {grammar : Grammar}
    {authenticator : Option Http.Authenticator} {transport : Http.Transport}
    (built : Client.build config grammar authenticator transport = .ok c)
    (service : IsService c.baseUrl.scheme) (t : Terminal) (clean : d.misuse = none)
    (addressed : (t.query d.query).Addressed) (x : Exchange) :
    ∃ url more, c.Appended (t.uri d.query) url ∧
      (t.run c d x).sent =
        x.sent ++ c.authenticate (c.request x.pageSize t.method url t.body) :: more := by
  obtain ⟨front, root⟩ := Client.root_of_build built service
  obtain ⟨url, whole⟩ := t.appended root addressed
  have ready : d.Ready := by
    obtain ⟨set, some, -⟩ := addressed.set
    rw [query_entitySet] at some
    exact ⟨clean, by rw [some]; rfl⟩
  have links (reads : t.writes = false) : c.relativeLink (t.uri d.query) = t.uri d.query := by
    rw [uri, if_neg (by simp [reads])]
    exact c.relativeLink_uri root addressed
  obtain ⟨more, sent⟩ := t.run_extends ready links x
  refine ⟨url, more, whole, ?_⟩
  rw [← sent, c.execute_sent x whole.resolved, List.append_assoc, List.singleton_append]

/-- A filter and an order that would break out of a query, to be asked for by a key that would
break out of a path. -/
def hostile : Draft :=
  { query :=
      { entitySet := some "Orders"
        clauses := [⟨.and, .raw "x'#/../?&$top=1"⟩]
        rawOrder := some "\\\\evil.example/" } }

def hostileKey : EntityKey := .parts [("Id", .text "../?a#'b"), ("_n", .int (-2))]

theorem run_sent_hostile :
    ∃ c, Client.build { baseUrl := "https://h.example/api" } .standard none
        (.scripted [] .crash) = .ok c ∧
      IsService c.baseUrl.scheme ∧ hostile.misuse = none ∧
      (query hostile.query (.find hostileKey)).Addressed ∧
      ∃ url more, c.Appended (uri hostile.query (.find hostileKey)) url ∧
        url.text = "https://h.example/api/Orders(Id='..%2F%3Fa%23%27%27b',_n=-2)" ++
          "?$filter=x%27%23%2F..%2F%3F%26%24top%3D1&$orderby=%5C%5Cevil.example%2F" ∧
        (run c hostile {} (.find hostileKey)).sent =
          c.authenticate (c.request none "GET" url none) :: more := by
  have root : (Client.build { baseUrl := "https://h.example/api" } .standard none
      (.scripted [] .crash)).toOption.map (fun c => (c.baseUrl.scheme, c.baseUrl.text)) =
        some ("https", "https://h.example/api/") := by
    decide +kernel
  have compiled : uri hostile.query (.find hostileKey) =
      "Orders(Id='..%2F%3Fa%23%27%27b',_n=-2)" ++
        "?$filter=x%27%23%2F..%2F%3F%26%24top%3D1&$orderby=%5C%5Cevil.example%2F" := by
    decide +kernel
  have addressed : (query hostile.query (.find hostileKey)).Addressed := by
    refine ⟨⟨"Orders", rfl, by decide⟩, fun key hk name hn => ?_⟩
    cases hk
    revert name
    decide
  cases built : Client.build { baseUrl := "https://h.example/api" } .standard none
      (.scripted [] .crash) with
  | error e => rw [built] at root; cases root
  | ok c =>
    rw [built] at root
    obtain ⟨scheme, text⟩ : c.baseUrl.scheme = "https" ∧
        c.baseUrl.text = "https://h.example/api/" :=
      Prod.mk.inj (Option.some.inj root)
    have service : IsService c.baseUrl.scheme := .inr scheme
    obtain ⟨url, more, whole, sent⟩ := run_sent built service (.find hostileKey) rfl addressed {}
    refine ⟨c, rfl, service, rfl, addressed, url, more, whole, ?_, sent⟩
    rw [whole.text, text, compiled, ← String.append_assoc]
    decide +kernel

end Terminal

end OData
