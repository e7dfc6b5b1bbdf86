import OData.Payload

/-!
# Walks over pages and items

A walk over pages gives one page after the other, each found by the link of the page
before it. A `Cursor` turns any such walk into one over the items of its pages: it
gives what is left of the last page and asks for another only when nothing is.
-/

namespace OData

/-- What a walk answers when it is asked for its next result. -/
inductive Progress (α : Type) where
  /-- Nothing yet; asking again goes on from here. -/
  | pending
  | result (r : Except Error α)
  | finished

/-- How a walk over pages in the state `π` moves on in the surroundings `σ`. -/
abbrev Advance (π σ α : Type) := π → σ → Progress α × π × σ

/-- A walk over items. -/
structure Cursor (π : Type) where
  /-- The items of the last page that have not been given yet. -/
  buffer : List Json
  pages : π

namespace Cursor

variable {π σ : Type}

/-- A cursor that has not asked for a page. -/
def ofPages (pages : π) : Cursor π := ⟨[], pages⟩

/-- The next item. Pages without items are passed over; after `fuel` pages the answer is
that there is nothing yet. -/
def advance (more : Advance π σ Payload) : Nat → Advance (Cursor π) σ Json
  | _, ⟨item :: rest, pages⟩, s => (.result (.ok item), ⟨rest, pages⟩, s)
  | 0, cursor, s => (.pending, cursor, s)
  | fuel + 1, ⟨[], pages⟩, s =>
    match more pages s with
    | (.result (.ok page), pages, s) => advance more fuel ⟨page.items, pages⟩ s
    | (.result (.error e), pages, s) => (.result (.error e), ⟨[], pages⟩, s)
    | (.pending, pages, s) => (.pending, ⟨[], pages⟩, s)
    | (.finished, pages, s) => (.finished, ⟨[], pages⟩, s)

end Cursor

end OData
