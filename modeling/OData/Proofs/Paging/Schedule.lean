import OData.Proofs.Paging.Journal

/-!
# Streams and the delays of their fetches

A stream over a script is watched while it runs: a journal is kept of its calls, polls and
answers. Whatever the delays of the fetches, the results are those of the script in order,
as if no fetch were ever delayed, and the journal is orderly at every point
(`streams_scheduled`). Once all is given, the stream answers that it is finished and
touches the fetcher no more.
-/

namespace OData

variable {φ σ π α : Type}

/-! ## Walks that keep to their journal -/

namespace Journal

structure Sequential (uri : String) (unpack : Except Error Payload → List (Except Error α))
    (j : Journal α) : Prop where
  orderly : j.Orderly uri unpack
  given : j.given <+: j.settled.flatMap unpack
  route : j.calls <+: uri :: j.settled.filterMap linkBehind
  one_under_way : j.settled.length ≤ j.calls.length ∧ j.calls.length ≤ j.settled.length + 1
  settles_once {before after : Journal α} {k : Nat} {r : Except Error Payload}
    {outcome : Option (Except Error Payload)} (h : j = before ++ .polled k (some r) :: after) :
    .polled k outcome ∉ after

end Journal

variable {uri : String} {unpack : Except Error Payload → List (Except Error α)}
  {rest : List (Except Error α)} {p : PageStream (Nat × φ)} {j : Journal α}

theorem Stage.sequential (h : Stage uri unpack rest p j) : j.Sequential uri unpack where
  orderly := h.orderly
  given := ⟨rest, h.balance⟩
  route := ⟨p.link?.toList, h.route⟩
  one_under_way := h.orderly.one_under_way
  settles_once := by
    rintro before after k r outcome rfl
    exact h.orderly.not_polled_again

/-- When all is given and no page is left, so is the stream. -/
theorem Stage.ended_of_caughtUp (h : Stage uri unpack rest p j) (caught : j.CaughtUp unpack)
    (last : j.expected uri = none) : p = .ended ∧ rest = [] := by
  constructor
  · have place := h.place
    cases p with
    | waiting link => cases last.symm.trans place.2
    | fetching fetch => exact absurd last place.2.2
    | ended => rfl
  · have balance := h.balance
    rw [← caught.all] at balance
    exact List.append_right_eq_self.1 balance

/-- In the states `I` a walk over a script is where its journal says, and it stays so. -/
structure Keeping (uri : String) (unpack : Except Error Payload → List (Except Error α))
    (I : π → Observed Script α → Prop) (more : Advance π (Observed Script α) α) : Prop where
  keeps (p s) : I p s → I (more.observed p s).2.1 (more.observed p s).2.2
  sequential {p s} : I p s → s.journal.Sequential uri unpack
  asked {p s} : I p s → s.inner.asked = s.journal.calls
  silent {p s} : I p s → s.journal.CaughtUp unpack → s.journal.expected uri = none →
    more p s = (.finished, p, s)

theorem Keeping.run_over {I : π → Observed Script α → Prop}
    {more : Advance π (Observed Script α) α} (keeping : Keeping uri unpack I more) (n : Nat) {p : π}
    {s : Observed Script α} (h : I p s) (caught : s.journal.CaughtUp unpack)
    (last : s.journal.expected uri = none) :
    more.observed.run n p s = (List.replicate n .finished, p,
      ⟨s.inner, s.journal ++ List.replicate n (.answered .finished)⟩) := by
  induction n generalizing s with
  | zero => simp [Advance.run]
  | succ n ih =>
    have step : more.observed p s = (.finished, p, s.note s.inner (.answered .finished)) := by
      rw [Advance.observed, keeping.silent h caught last]
    have kept := keeping.keeps p s h
    rw [step] at kept
    have still : (s.note s.inner (.answered .finished)).journal.CaughtUp unpack :=
      ⟨by simpa using caught.ended, by simpa using caught.all⟩
    rw [Advance.run_succ step, ih kept still (by simpa using last)]
    simp [Observed.note, List.replicate_succ]

/-! ## Scheduled streams -/

/-- What a stream does over a script that holds these results, and what is seen of it when it
is watched. -/
structure Scheduled {π' : Type} (uri : String)
    (unpack : Except Error Payload → List (Except Error α)) (script : Script)
    (results : List (Except Error α)) (stream : Advance π Script α) (p : π)
    (watched : Advance π' (Observed Script α) α) (p' : π') : Prop where
  /-- Without delays the results come one by one. -/
  undelayed (n : Nat) : (stream.run n p script.undelayed).1 = Progress.prompt n results
  /-- With delays they are the same as far as they come. -/
  ready (n : Nat) :
    Progress.ready (stream.run n p script).1 <+: (stream.run n p script.undelayed).1
  /-- To watch the stream changes nothing. -/
  shown (n : Nat) : (watched.run n p' ⟨script, []⟩).1 = (stream.run n p script).1 ∧
    (watched.run n p' ⟨script, []⟩).2.2.inner = (stream.run n p script).2.2
  asked (n : Nat) :
    (stream.run n p script).2.2.asked = (watched.run n p' ⟨script, []⟩).2.2.journal.calls
  /-- Nothing is asked for before the first poll, and something at it. -/
  lazy (n : Nat) : (stream.run n p script).2.2.asked = [] ↔ n = 0
  sequential (n : Nat) : (watched.run n p' ⟨script, []⟩).2.2.journal.Sequential uri unpack
  /-- Behind the last page or a failure every poll answers at once that nothing is left. -/
  silent (n : Nat) {q : π'} {s : Observed Script α}
    (reached : (watched.run n p' ⟨script, []⟩).2 = (q, s)) (caught : s.journal.CaughtUp unpack)
    (last : s.journal.expected uri = none) (m : Nat) :
    watched.run m q s = (List.replicate m .finished, q,
      ⟨s.inner, s.journal ++ List.replicate m (.answered .finished)⟩)

theorem Advance.journal_ne_nil (more : Advance π (Observed σ α) α) (n : Nat) (p : π)
    (s : Observed σ α) : (more.observed.run (n + 1) p s).2.2.journal ≠ [] := by
  have last := more.observed.run_add n 1 p s
  rw [last]
  simp [run, observed]

/-- A walk that keeps to its journal is scheduled if it gives the results of the script, waits
only for delays, and is left as it is by those who watch it. -/
theorem Keeping.scheduled {π' : Type} {stream : Advance π Script α}
    {more : Advance π' (Observed Script α) α} {I : π' → Observed Script α → Prop}
    {Ahead : π → Script → List (Except Error α) → Prop} {Fast : π → Script → Prop}
    {R : π → Script → π' → Script → Prop} {script : Script} {results : List (Except Error α)}
    {p : π} {p' : π'} (keeping : Keeping uri unpack I more) (known : stream.Foretells Ahead)
    (prompt : stream.Prompt Fast) (alike : stream.Mirrors (fun p s p' s' => R p s p' s'.inner) more)
    (same : ∀ {p s p' s'}, R p s p' s' → s' = s) (ahead : Ahead p script results)
    (unhindered : Ahead p script.undelayed results) (fast : Fast p script.undelayed)
    (start : I p' ⟨script, []⟩) (shown : R p script p' script) :
    Scheduled uri unpack script results stream p more.observed p' := by
  have undelayed (n : Nat) : (stream.run n p script.undelayed).1 = Progress.prompt n results :=
    Advance.run_prompt known prompt n unhindered fast
  have watching (n : Nat) : (stream.run n p script).1 = (more.observed.run n p' ⟨script, []⟩).1 ∧
      R (stream.run n p script).2.1 (stream.run n p script).2.2
        (more.observed.run n p' ⟨script, []⟩).2.1
        (more.observed.run n p' ⟨script, []⟩).2.2.inner :=
    Advance.run_mirrors (Advance.mirrors_observed alike) n shown
  have kept (n : Nat) : I (more.observed.run n p' ⟨script, []⟩).2.1
      (more.observed.run n p' ⟨script, []⟩).2.2 := Advance.run_keeps keeping.keeps n start
  have asked (n : Nat) : (stream.run n p script).2.2.asked =
      (more.observed.run n p' ⟨script, []⟩).2.2.journal.calls := by
    rw [← keeping.asked (kept n), same (watching n).2]
  refine ⟨undelayed, fun n => ?_, fun n => ⟨(watching n).1.symm, same (watching n).2⟩, asked,
    fun n => ?_, fun n => keeping.sequential (kept n), ?_⟩
  · obtain ⟨k, hk, ready⟩ := Advance.ready_run known n ahead
    rw [ready, undelayed]
    exact Progress.prompt_prefix hk results
  · cases n with
    | zero => exact ⟨fun _ => rfl, fun _ => keeping.asked start⟩
    | succ n =>
      have called := (keeping.sequential (kept (n + 1))).orderly.calls_ne_nil
        (more.journal_ne_nil n p' ⟨script, []⟩)
      rw [asked]
      exact ⟨fun none => absurd none called, fun h => by cases h⟩
  · intro n q s reached caught last m
    have held := kept n
    rw [reached] at held
    exact keeping.run_over m held caught last

/-! ## Streams over a script -/

namespace Script

def AheadShown (p : PageStream (Nat × ScriptedFetch)) (s : Observed Script α)
    (rs : List (Except Error Payload)) : Prop :=
  rs = ahead p.forget s.inner

theorem foretells_shown :
    (PageStream.poll fetcher.observed).Foretells (AheadShown (α := α)) := by
  rintro p s rs rfl
  obtain ⟨same, stream, inner⟩ := PageStream.poll_shown fetcher (α := α) ⟨rfl, rfl⟩
  obtain ⟨rs', later, takes⟩ := foretells (p := p.forget) (s := s.inner) rfl
  rw [stream, inner] at later
  exact ⟨rs', later, same ▸ takes⟩

theorem asked_pollFetch (fetch : Nat × ScriptedFetch) {s : Observed Script α}
    (h : s.inner.asked = s.journal.calls) :
    (PageStream.pollFetch fetcher.observed fetch s).2.2.inner.asked =
      (PageStream.pollFetch fetcher.observed fetch s).2.2.journal.calls := by
  obtain ⟨k, _ | delay, r⟩ := fetch
  · rw [PageStream.pollFetch_done (Fetcher.observed_done (f := fetcher) rfl)]
    simpa using h
  · rw [PageStream.pollFetch_pending (Fetcher.observed_pending (f := fetcher) rfl)]
    simpa using h

/-- The script knows the calls that the journal tells of. -/
theorem asked_poll (p : PageStream (Nat × ScriptedFetch)) (s : Observed Script α)
    (h : s.inner.asked = s.journal.calls) :
    (PageStream.poll fetcher.observed p s).2.2.inner.asked =
      (PageStream.poll fetcher.observed p s).2.2.journal.calls := by
  cases p with
  | waiting link =>
    refine asked_pollFetch (s.journal.calls.length, s.inner.head)
      (s := s.note ⟨s.inner.rest.tail, s.inner.asked ++ [link]⟩ (.called link)) ?_
    simpa using h
  | fetching fetch => exact asked_pollFetch fetch h
  | ended => exact h

end Script

/-- A watched stream of pages keeps to its journal. -/
theorem PageStream.keeping (uri : String) :
    Keeping uri (fun r => [r])
      (fun p s => Stage uri (fun r => [r]) [] p s.journal ∧ s.inner.asked = s.journal.calls)
      (PageStream.poll Script.fetcher.observed) where
  keeps p s h := by
    obtain ⟨stage, asked⟩ := h
    have polled := stage.poll Script.fetcher
    have asked := Script.asked_poll p s asked
    dsimp only [Advance.observed]
    generalize PageStream.poll Script.fetcher.observed p s = step at polled asked ⊢
    obtain ⟨a, p', s'⟩ := step
    refine ⟨Stage.Answering.note ?_, by simpa using asked⟩
    cases a with
    | pending => exact polled
    | result r => exact polled
    | finished => exact ⟨polled.1, polled.2, rfl⟩
  sequential h := h.1.sequential
  asked h := h.2
  silent h caught last := by
    obtain ⟨rfl, -⟩ := h.1.ended_of_caughtUp caught last
    rfl

namespace Cursor

/-- With room for the pages ahead, a cursor over a watched stream is about to answer what has
come in and was not given. -/
theorem advance_answering {f : Fetcher φ σ}
    {Pages : PageStream (Nat × φ) → Observed σ Json → List (Except Error Payload) → Prop}
    (known : (PageStream.poll f.observed).Foretells Pages) {room : Nat}
    (cursor : Cursor (PageStream (Nat × φ))) (s : Observed σ Json)
    (h : Stage uri Cursor.unpack (cursor.buffer.map .ok) cursor.pages s.journal)
    (fits : Advance.Within Pages room cursor.pages s) :
    let step := advance (PageStream.poll f.observed) room cursor s
    Stage.Answering uri Cursor.unpack (step.2.1.buffer.map .ok) step.2.1.pages step.2.2.journal
      step.1 := by
  induction room generalizing cursor s with
  | zero =>
    obtain ⟨rs, -, fits⟩ := fits
    exact absurd fits (Nat.not_lt_zero _)
  | succ room ih =>
    obtain ⟨_ | ⟨item, rest⟩, p⟩ := cursor
    · obtain ⟨rs, ahead, fits⟩ := fits
      obtain ⟨rs', ahead', takes⟩ := known ahead
      have polled := Stage.poll f h
      rw [advance]
      generalize PageStream.poll f.observed p s = step at ahead' takes polled ⊢
      obtain ⟨a, p', s'⟩ := step
      cases a with
      | pending => exact polled
      | result r =>
        obtain rfl : rs = r :: rs' := takes
        cases r with
        | ok page =>
          exact ih ⟨page.items, p'⟩ s' polled ⟨rs', ahead', Nat.lt_of_succ_lt_succ fits⟩
        | error e => exact polled
      | finished => exact ⟨polled.1, polled.2, rfl⟩
    · rw [advance_item]
      exact h

/-- A watched stream of items keeps to its journal. -/
theorem keeping (uri : String) (room : Nat) :
    Keeping uri Cursor.unpack
      (fun cursor s => Stage uri Cursor.unpack (cursor.buffer.map .ok) cursor.pages s.journal ∧
        s.inner.asked = s.journal.calls ∧
        Advance.Within Script.AheadShown room cursor.pages s)
      (advance (PageStream.poll Script.fetcher.observed) room) where
  keeps cursor s h := by
    obtain ⟨stage, asked, fits⟩ := h
    have answering := advance_answering Script.foretells_shown cursor s stage fits
    have asked := advance_keeps Script.asked_poll room cursor s asked
    have fits := advance_keeps (Advance.keeps_within Script.foretells_shown) room cursor s fits
    exact ⟨answering.note, by simpa [Advance.observed] using asked, fits⟩
  sequential h := h.1.sequential
  asked h := h.2.1
  silent {cursor s} h caught last := by
    obtain ⟨stage, -, rs, -, fits⟩ := h
    obtain ⟨_ | ⟨item, rest⟩, p⟩ := cursor
    · obtain ⟨rfl, -⟩ := stage.ended_of_caughtUp caught last
      obtain ⟨room, rfl⟩ := Nat.exists_eq_add_of_lt fits
      rw [Nat.add_right_comm, Nat.add_comm]
      rfl
    · cases (stage.ended_of_caughtUp caught last).2

end Cursor

/-- The streams of pages and of items over a script do not depend on its delays, and touch its
fetches in order. The items are those of the pages; only the last page can be a failure. -/
theorem streams_scheduled (uri : String) (fetches : List ScriptedFetch) (spare : Nat) :
    let script : Script := { rest := fetches }
    let pages := Script.results fetches
    let room := script.pagesLeft + spare
    (∀ r ∈ pages.dropLast, (linkBehind r).isSome) ∧
      Scheduled uri (fun r => [r]) script pages
        (PageStream.poll Script.fetcher) (.waiting uri)
        (PageStream.poll Script.fetcher.observed).observed (.waiting uri) ∧
      Scheduled uri Cursor.unpack script (pages.flatMap Cursor.unpack)
        (Cursor.advance (PageStream.poll Script.fetcher) room) (.ofPages (.waiting uri))
        (Cursor.advance (PageStream.poll Script.fetcher.observed) room).observed
        (.ofPages (.waiting uri)) := by
  intro script pages room
  have unhindered : pages = Script.ahead (.waiting uri) script.undelayed :=
    (Script.results_undelayed script).symm
  have fast : Script.Undelayed (.waiting uri) script.undelayed :=
    Script.undelayed_undelayed script uri
  have roomy : pages.length < room := by
    have short := Script.length_results_le fetches
    simp only [room, Script.pagesLeft, pages, script]
    omega
  refine ⟨Script.results_lead fetches, ?_, ?_⟩
  · exact (PageStream.keeping uri).scheduled (R := fun p s p' s' => p = p'.forget ∧ s = s')
      Script.foretells Script.prompt_undelayed (PageStream.poll_shown Script.fetcher)
      (fun h => h.2.symm) rfl unhindered fast
      ⟨Stage.start, rfl⟩ ⟨rfl, rfl⟩
  · exact (Cursor.keeping uri room).scheduled
      (R := Cursor.Beside fun p s p' s' => p = p'.forget ∧ s = s')
      (Cursor.foretells Script.foretells room)
      (Cursor.prompt Script.foretells Script.prompt_undelayed room)
      (Cursor.mirrors (PageStream.poll_shown Script.fetcher) room) (fun h => h.2.2.symm)
      ⟨pages, rfl, rfl⟩ ⟨pages, unhindered, rfl⟩ ⟨fast, pages, unhindered, roomy⟩
      ⟨Stage.start, rfl, pages, rfl, roomy⟩ ⟨rfl, rfl, rfl⟩

/-- The first page takes two polls; its link leads beyond the script. -/
example (page : Payload) :
    let first : Payload := { page with nextLink := some "Orders?$skip=1" }
    ((PageStream.poll Script.fetcher.observed).observed.run 4 (.waiting "Orders")
      ⟨{ rest := [⟨1, .ok first⟩] }, []⟩).2.2.journal =
      [.called "Orders", .polled 0 none, .answered .pending,
        .polled 0 (some (.ok first)), .answered (.result (.ok first)),
        .called "Orders?$skip=1", .polled 1 (some (.error (.payload .noMorePages))),
        .answered (.result (.error (.payload .noMorePages))), .answered .finished] := rfl

end OData
