import OData.Paging.Stream

/-!
# The loop of a stream of items

A stream of items that fetches its own pages. One poll is a loop: it gives what is buffered,
asks the fetch under way for its page or starts the next fetch, and goes round again until
there is an answer.
-/

namespace OData

structure ItemStream (φ : Type) where
  /-- The link to fetch next. -/
  next : Option String
  buffer : List Json := []
  /-- Nothing is fetched any more. -/
  done : Bool := false
  fetch : Option φ := none

namespace ItemStream

variable {φ σ : Type}

def ofLink (link : String) : ItemStream φ := { next := some link }

/-- One turn of the loop, with an answer if it is the last one. -/
def turn (f : Fetcher φ σ) (p : ItemStream φ) (s : σ) :
    Option (Progress Json) × ItemStream φ × σ :=
  match p.buffer with
  | item :: rest => (some (.result (.ok item)), { p with buffer := rest }, s)
  | [] =>
    if p.done then (some .finished, p, s)
    else
      match p.fetch with
      | some fetch =>
        match f.poll fetch s with
        | (.pending fetch, s) => (some .pending, { p with fetch := some fetch }, s)
        | (.done (.ok page), s) =>
          let next := page.nextLink
          (none, ⟨next, page.items, next.isNone, none⟩, s)
        | (.done (.error e), s) =>
          (some (.result (.error e)), { p with done := true, fetch := none }, s)
      | none =>
        match p.next with
        | none => (none, { p with done := true }, s)
        | some link =>
          let (fetch, s) := f.start link s
          (none, { p with next := none, fetch := some fetch }, s)

/-- One poll, cut off without an answer after `n` turns. -/
def poll (f : Fetcher φ σ) : Nat → ItemStream φ → σ → Option (Progress Json) × ItemStream φ × σ
  | 0, p, s => (none, p, s)
  | n + 1, p, s =>
    match turn f p s with
    | (some a, p, s) => (some a, p, s)
    | (none, p, s) => poll f n p s

end ItemStream

end OData
