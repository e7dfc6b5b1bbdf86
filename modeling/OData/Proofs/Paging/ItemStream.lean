import OData.Paging.ItemStream
import OData.Proofs.Paging.Scripts

/-!
# Streams of items are cursors

A stream of items stands where a cursor over a stream of pages does (`ItemStream.cursor`), and
each turn of its loop is the answer of the cursor, a page that the cursor passes over or the start
of a fetch (`Turned`). So the polls that answer are a run of the cursor (`Polls.run_eq`). With two
turns for each page ahead every poll answers (`exists_polls`).
-/

namespace OData

namespace ItemStream

variable {φ σ : Type} {f : Fetcher φ σ} {p p' q : ItemStream φ} {s s' t : σ}

def pages (p : ItemStream φ) : PageStream φ :=
  if p.done then .ended
  else
    match p.fetch, p.next with
    | some fetch, _ => .fetching fetch
    | none, some link => .waiting link
    | none, none => .ended

/-- Where the stream stands, as a cursor. -/
def cursor (p : ItemStream φ) : Cursor (PageStream φ) := ⟨p.buffer, p.pages⟩

theorem cursor_ofLink (link : String) :
    (ofLink link : ItemStream φ).cursor = .ofPages (.waiting link) := rfl

/-! ## One turn -/

/-- Neither over nor fetching. -/
def idle (p : ItemStream φ) : Bool := !p.done && p.fetch.isNone

/-- What the next turn of the loop is for the cursor. -/
inductive Turned (f : Fetcher φ σ) (p : ItemStream φ) (s : σ) : Prop where
  | answer {a : Progress Json} {p' : ItemStream φ} {s' : σ}
      (turned : turn f p s = (some a, p', s'))
      (same : ∀ room, Cursor.advance (PageStream.poll f) (room + 1) p.cursor s =
        (a, p'.cursor, s'))
  | page {page : Payload} {p' : ItemStream φ} {s' : σ} (turned : turn f p s = (none, p', s'))
      (empty : p.buffer = [])
      (polled : PageStream.poll f p.pages s = (.result (.ok page), p'.pages, s'))
      (items : p'.buffer = page.items)
  | start {p' : ItemStream φ} {s' : σ} (turned : turn f p s = (none, p', s'))
      (idle : p.idle) (busy : ¬p'.idle) (empty : p.buffer = []) (empty' : p'.buffer = [])
      (polled : PageStream.poll f p.pages s = PageStream.poll f p'.pages s')

theorem pages_behind (page : Payload) :
    (⟨page.nextLink, page.items, page.nextLink.isNone, none⟩ : ItemStream φ).pages =
      .behind (.ok page) := by
  cases leads : page.nextLink <;> simp [pages, PageStream.behind, linkBehind, leads]

theorem turned_fetching (next : Option String) (fetch : φ) (s : σ) :
    Turned f ⟨next, [], false, some fetch⟩ s := by
  rcases polled : f.poll fetch s with ⟨fetch' | (e | page), s'⟩
  · have turned : turn f ⟨next, [], false, some fetch⟩ s =
        (some .pending, ⟨next, [], false, some fetch'⟩, s') := by simp [turn, polled]
    refine .answer turned fun room => ?_
    change Cursor.advance (PageStream.poll f) (room + 1) ⟨[], .fetching fetch⟩ s = _
    rw [Cursor.advance, PageStream.poll, PageStream.pollFetch_pending polled]
    rfl
  · have turned : turn f ⟨next, [], false, some fetch⟩ s =
        (some (.result (.error e)), ⟨next, [], true, none⟩, s') := by simp [turn, polled]
    refine .answer turned fun room => ?_
    change Cursor.advance (PageStream.poll f) (room + 1) ⟨[], .fetching fetch⟩ s = _
    rw [Cursor.advance, PageStream.poll, PageStream.pollFetch_done polled]
    rfl
  · have turned : turn f ⟨next, [], false, some fetch⟩ s =
        (none, ⟨page.nextLink, page.items, page.nextLink.isNone, none⟩, s') := by
      simp [turn, polled]
    refine .page turned rfl ?_ rfl
    rw [pages_behind]
    exact PageStream.pollFetch_done polled

theorem turned (f : Fetcher φ σ) (p : ItemStream φ) (s : σ) : Turned f p s := by
  obtain ⟨next, _ | ⟨item, rest⟩, _ | _, fetch⟩ := p
  · cases fetch with
    | some fetch => exact turned_fetching next fetch s
    | none =>
      cases next with
      | none => exact .start rfl rfl (by simp [idle]) rfl rfl rfl
      | some link => exact .start rfl rfl (by simp [idle]) rfl rfl rfl
  · exact .answer rfl fun room => rfl
  · exact .answer rfl fun room => rfl
  · exact .answer rfl fun room => rfl

theorem advance_page {page : Payload} (empty : p.buffer = [])
    (polled : PageStream.poll f p.pages s = (.result (.ok page), p'.pages, s'))
    (items : p'.buffer = page.items) (room : Nat) :
    Cursor.advance (PageStream.poll f) (room + 1) p.cursor s =
      Cursor.advance (PageStream.poll f) room p'.cursor s' := by
  rw [cursor, cursor, empty, items, Cursor.advance, polled]

theorem advance_start (empty : p.buffer = []) (empty' : p'.buffer = [])
    (polled : PageStream.poll f p.pages s = PageStream.poll f p'.pages s') (room : Nat) :
    Cursor.advance (PageStream.poll f) (room + 1) p.cursor s =
      Cursor.advance (PageStream.poll f) (room + 1) p'.cursor s' := by
  rw [cursor, cursor, empty, empty', Cursor.advance, Cursor.advance, polled]

/-! ## One poll -/

variable {a : Progress Json} {n room : Nat}

/-- An answer within `n` turns is that of a cursor with room for as many pages. -/
theorem poll_advance (fits : n ≤ room) (h : poll f n p s = (some a, p', s')) :
    Cursor.advance (PageStream.poll f) room p.cursor s = (a, p'.cursor, s') := by
  induction n generalizing p s room with
  | zero => cases h
  | succ n ih =>
    obtain ⟨room, rfl⟩ : ∃ k, room = k + 1 := ⟨room - 1, by omega⟩
    have fewer : n ≤ room := Nat.le_of_succ_le_succ fits
    rw [poll] at h
    cases turned f p s with
    | answer turned same =>
      rw [turned] at h
      cases h
      exact same room
    | page turned empty polled items =>
      rw [turned] at h
      rw [advance_page empty polled items]
      exact ih fewer h
    | start turned _ _ empty empty' polled =>
      rw [turned] at h
      rw [advance_start empty empty' polled]
      exact ih (Nat.le_succ_of_le fewer) h

variable {Ahead : PageStream φ → σ → List (Except Error Payload) → Prop}

/-- Two turns for each result that is ahead are enough for an answer. -/
theorem exists_poll (known : (PageStream.poll f).Foretells Ahead) {rs : List (Except Error Payload)}
    (h : ∃ rs', Ahead (PageStream.poll f p.pages s).2.1 (PageStream.poll f p.pages s).2.2 rs' ∧
      (PageStream.poll f p.pages s).1.Takes rs rs') (fits : 2 * rs.length + p.idle.toNat < n) :
    ∃ a p' s', poll f n p s = (some a, p', s') := by
  induction n generalizing p s rs with
  | zero => exact absurd fits (Nat.not_lt_zero _)
  | succ n ih =>
    rw [poll]
    cases turned f p s with
    | answer turned same =>
      rw [turned]
      exact ⟨_, _, _, rfl⟩
    | @page _ p' _ turned empty polled items =>
      rw [turned]
      rw [polled] at h
      obtain ⟨rs', later, takes⟩ := h
      obtain rfl : rs = _ :: rs' := takes
      have one := p'.idle.toNat_le
      rw [List.length_cons] at fits
      exact ih (known later) (by omega)
    | start turned idle busy empty empty' polled =>
      rw [turned]
      rw [polled] at h
      rw [Bool.not_eq_true] at busy
      rw [idle, Bool.toNat_true] at fits
      exact ih h (by rw [busy, Bool.toNat_false]; omega)

/-! ## Runs -/

/-- Polls that answer within `n` turns each. -/
inductive Polls (f : Fetcher φ σ) (n : Nat) :
    ItemStream φ → σ → List (Progress Json) → ItemStream φ → σ → Prop where
  | nil (p : ItemStream φ) (s : σ) : Polls f n p s [] p s
  | cons {p p' q : ItemStream φ} {s s' t : σ} {a : Progress Json} {as : List (Progress Json)} :
      poll f n p s = (some a, p', s') → Polls f n p' s' as q t → Polls f n p s (a :: as) q t

variable {as : List (Progress Json)} {k : Nat}

theorem Polls.run_eq (h : Polls f n p s as q t) (fits : n ≤ room) :
    (Cursor.advance (PageStream.poll f) room).run as.length p.cursor s = (as, q.cursor, t) := by
  induction h with
  | nil => rfl
  | cons step _ ih => rw [List.length_cons, Advance.run_succ (poll_advance fits step), ih]

theorem exists_polls (known : (PageStream.poll f).Foretells Ahead)
    (h : Advance.Within Ahead k p.pages s) (m : Nat) :
    ∃ as q t, Polls f (2 * k) p s as q t ∧ as.length = m := by
  induction m generalizing p s with
  | zero => exact ⟨_, _, _, .nil p s, rfl⟩
  | succ m ih =>
    have later := Cursor.advance_keeps (Advance.keeps_within known) (2 * k) p.cursor s h
    obtain ⟨rs, ahead, few⟩ := h
    have fits : 2 * rs.length + p.idle.toNat < 2 * k := by
      have := p.idle.toNat_le
      omega
    obtain ⟨a, p', s', step⟩ := exists_poll known (known ahead) fits
    rw [poll_advance (Nat.le_refl _) step] at later
    obtain ⟨as, q, t, polls, rfl⟩ := ih later
    exact ⟨a :: as, q, t, .cons step polls, rfl⟩

/-- The run of a cursor is made of polls that answer. -/
theorem polls_of_run (known : (PageStream.poll f).Foretells Ahead)
    (h : Advance.Within Ahead k p.pages s) (fits : 2 * k ≤ room) (m : Nat) :
    ∃ q t, Polls f (2 * k) p s
        ((Cursor.advance (PageStream.poll f) room).run m p.cursor s).1 q t ∧
      ((Cursor.advance (PageStream.poll f) room).run m p.cursor s).2 = (q.cursor, t) := by
  obtain ⟨as, q, t, polls, rfl⟩ := exists_polls known h m
  rw [polls.run_eq fits]
  exact ⟨q, t, polls, rfl⟩

/-- A stream of items over a script gives what a cursor gives. -/
theorem polls_script (uri : String) (script : Script) (fits : 2 * script.pagesLeft ≤ room)
    (m : Nat) :
    let walk := Cursor.advance (PageStream.poll Script.fetcher) room
    ∃ q t, Polls Script.fetcher (2 * script.pagesLeft) (ofLink uri) script
        (walk.run m (.ofPages (.waiting uri)) script).1 q t ∧
      (walk.run m (.ofPages (.waiting uri)) script).2 = (q.cursor, t) := by
  intro walk
  have few : Advance.Within (fun p s rs => rs = Script.ahead p s) script.pagesLeft
      (ofLink uri).pages script :=
    ⟨_, rfl, Nat.lt_succ_of_le (Script.length_results_le script.rest)⟩
  rw [← cursor_ofLink]
  exact polls_of_run Script.foretells few fits m

end ItemStream

end OData
