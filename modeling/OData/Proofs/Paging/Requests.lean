import OData.Proofs.Client.Requests
import OData.Proofs.Paging.Runs

/-!
# Requests of a walk

Whatever a walk is asked for, it adds requests and takes none back (`Client.Grows`), and the first
page of a walk over pages is one read. A cursor sends at least what its walk sends.
-/

namespace OData

/-! ## Pages -/

theorem Pages.advance_sent (c : Client) (uri : String) (x : Exchange) :
    (Pages.advance c ⟨some uri⟩ x).2.2.sent = ((c.fetch uri).after x).sent := by
  unfold Pages.advance Action.after
  split
  · next h => cases h
  · next h =>
    cases h
    split
    · next e => rw [e]
    · next e => rw [e]; rfl

theorem PageStream.pollFetch_sent (c : Client) (link : String) (x : Exchange) :
    (PageStream.pollFetch c.fetcher link x).2.2.sent =
      ((c.fetch (c.relativeLink link)).after x).sent := by
  rw [← c.fetchAsync_after]
  unfold PageStream.pollFetch Client.fetcher Action.after
  dsimp only
  generalize c.fetchAsync (c.relativeLink link) x = r
  obtain ⟨_ | page, x'⟩ := r <;> rfl

theorem PageStream.poll_waiting (c : Client) (link : String) (x : Exchange) :
    PageStream.poll c.fetcher (.waiting link) x = PageStream.pollFetch c.fetcher link x := by
  rw [PageStream.poll]
  rfl

/-! ## Growing exchanges -/

namespace Client.Grows

variable {c : Client}

theorem pages (c : Client) (p : Pages) (x : Exchange) :
    c.Grows x (Pages.advance c p x).2.2 := by
  obtain ⟨_ | uri⟩ := p
  · exact .refl c x
  · have grown : c.Grows x ((c.fetch uri).after x) := .execute c "GET" uri none x
    unfold Action.after at grown
    rw [Pages.advance]
    generalize c.fetch uri x = r at grown
    obtain ⟨_ | page, x'⟩ := r
    · exact grown
    · exact grown.report _

theorem pageStream (c : Client) (s : PageStream String) (x : Exchange) :
    c.Grows x (PageStream.poll c.fetcher s x).2.2 := by
  have fetched (link : String) : c.Grows x (PageStream.pollFetch c.fetcher link x).2.2 := by
    have grown : c.Grows x ((c.fetchAsync (c.relativeLink link)).after x) := .fetchAsync c _ x
    unfold Action.after at grown
    unfold PageStream.pollFetch Client.fetcher
    dsimp only
    generalize c.fetchAsync (c.relativeLink link) x = r at grown
    obtain ⟨_ | page, x'⟩ := r <;> exact grown
  cases s with
  | ended => exact .refl c x
  | waiting link => rw [PageStream.poll_waiting]; exact fetched link
  | fetching link => rw [PageStream.poll]; exact fetched link

/-- A cursor asks its walk for one page after the other, so it adds what each of them adds. -/
theorem cursor {π : Type} {more : Advance π Exchange Payload}
    (h : ∀ p x, c.Grows x (more p x).2.2) (room : Nat) (items : Cursor π) (x : Exchange) :
    c.Grows x (Cursor.advance more room items x).2.2 := by
  have keep (p : π) (s : Exchange) (grown : c.Grows x s) : c.Grows x (more p s).2.2 :=
    grown.trans (h p s)
  exact Cursor.advance_keeps (I := fun _ s => c.Grows x s) keep room items x (.refl c x)

end Client.Grows

/-- The first step of a cursor sends what the first step of its walk sends, and perhaps more. -/
theorem Cursor.first_extends {π : Type} {c : Client} {more : Advance π Exchange Payload}
    (h : ∀ p x, c.Grows x (more p x).2.2) (room : Nat) (p : π) (x : Exchange) :
    (more p x).2.2.sent <+: (Cursor.advance more (room + 1) (.ofPages p) x).2.2.sent := by
  rw [Cursor.ofPages, Cursor.advance]
  split
  · next page p' x' e =>
    rw [e]
    exact (Client.Grows.cursor h room ⟨page.items, p'⟩ x').sent_leads
  · next e => exact ⟨[], by rw [e, List.append_nil]⟩
  · next e => exact ⟨[], by rw [e, List.append_nil]⟩
  · next e => exact ⟨[], by rw [e, List.append_nil]⟩

end OData
