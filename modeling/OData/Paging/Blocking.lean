import OData.Draft.Terminal
import OData.Paging.Basic

/-!
# Blocking pagers

A walk that requests each page when it is asked for it. The link to the next page is
stripped of the service root as soon as the page is there; a failed request is given
once and ends the walk.
-/

namespace OData

structure Pages where
  /-- The URI of the page to come; none once the walk is over. -/
  next : Option String
  deriving DecidableEq, Repr

namespace Pages

/-- The walk after a page. -/
def after (c : Client) (page : Payload) : Pages := ⟨page.nextLink.map c.relativeLink⟩

/-- What there is to report when the walk goes on. -/
def events (p : Pages) : List Event := p.next.toList.map .following

/-- Requests the page to come. -/
def advance (c : Client) : Advance Pages Exchange Payload
  | ⟨none⟩, x => (.finished, ⟨none⟩, x)
  | ⟨some uri⟩, x =>
    match c.fetch uri x with
    | (.error e, x) => (.result (.error e), ⟨none⟩, x)
    | (.ok page, x) => (.result (.ok page), after c page, x.report (after c page).events)

end Pages

/-- A walk over the pages of a read; nothing is requested yet. -/
def Draft.pages (d : Draft) : Except Error Pages := (d.readUri {} none).map fun uri => ⟨some uri⟩

/-- A walk over the items of a read. -/
def Draft.cursor (d : Draft) : Except Error (Cursor Pages) := d.pages.map .ofPages

end OData
