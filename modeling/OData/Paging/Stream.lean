import OData.Draft.Terminal
import OData.Paging.Basic

/-!
# Streams

A walk over pages that never waits: it starts to fetch a page, and each poll tells
whether the page is there. At most one fetch is under way. How pages are fetched is
left to a `Fetcher`, which gets the links as they are in the pages.
-/

namespace OData

/-- Where a fetch stands. -/
inductive FetchState (φ : Type) where
  | pending (fetch : φ)
  | done (r : Except Error Payload)

/-- A way to fetch pages: a fetch under way is a `φ`, the surroundings are `σ`. -/
structure Fetcher (φ σ : Type) where
  /-- Starts to fetch the page behind a link. -/
  start : String → σ → φ × σ
  poll : φ → σ → FetchState φ × σ

inductive PageStream (φ : Type) where
  /-- The page behind the link has not been asked for. -/
  | waiting (link : String)
  | fetching (fetch : φ)
  | ended
  deriving DecidableEq, Repr

namespace PageStream

variable {φ σ : Type}

/-- The stream after a page. -/
def after (page : Payload) : PageStream φ :=
  match page.nextLink with
  | some link => .waiting link
  | none => .ended

/-- Asks for the fetch under way. -/
def pollFetch (f : Fetcher φ σ) (fetch : φ) (s : σ) : Progress Payload × PageStream φ × σ :=
  match f.poll fetch s with
  | (.pending fetch, s) => (.pending, .fetching fetch, s)
  | (.done (.ok page), s) => (.result (.ok page), after page, s)
  | (.done (.error e), s) => (.result (.error e), .ended, s)

/-- Asks for the page to come, and starts to fetch it if need be. -/
def poll (f : Fetcher φ σ) : Advance (PageStream φ) σ Payload
  | .ended, s => (.finished, .ended, s)
  | .fetching fetch, s => pollFetch f fetch s
  | .waiting link, s =>
    let (fetch, s) := f.start link s
    pollFetch f fetch s

end PageStream

/-! ## Streams of a client -/

/-- Each fetch is one round trip, made when it is first polled; the link is stripped of
the service root at that point. -/
def Client.fetcher (c : Client) : Fetcher String Exchange where
  start link x := (link, x)
  poll link x :=
    let (result, x) := c.fetchAsync (c.relativeLink link) x
    (.done result, x)

/-- A stream of the pages of a read; nothing is requested yet. -/
def Draft.pageStream (d : Draft) : Except Error (PageStream String) :=
  (d.readUri {} none).map .waiting

/-- A stream of the items of a read. -/
def Draft.itemStream (d : Draft) : Except Error (Cursor (PageStream String)) :=
  d.pageStream.map .ofPages

end OData
