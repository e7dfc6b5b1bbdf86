import OData.Paging.Script
import OData.Proofs.Paging.Runs

/-!
# Streams over a script

The results of a scripted stream are those of its fetches, up to the first page without a
link or the first failure (`Script.results`). How often a fetch is polled before it ends
plays no part in them (`results_undelayed`), and without delays a stream never waits
(`prompt_undelayed`).
-/

namespace OData

def linkBehind : Except Error Payload → Option String
  | .ok page => page.nextLink
  | .error _ => none

namespace PageStream

variable {φ σ : Type} {f : Fetcher φ σ}

def behind (r : Except Error Payload) : PageStream φ :=
  match linkBehind r with
  | some link => .waiting link
  | none => .ended

theorem pollFetch_pending {fetch fetch' : φ} {s s' : σ}
    (h : f.poll fetch s = (.pending fetch', s')) :
    pollFetch f fetch s = (.pending, .fetching fetch', s') := by
  rw [pollFetch, h]

theorem pollFetch_done {fetch : φ} {s s' : σ} {r : Except Error Payload}
    (h : f.poll fetch s = (.done r, s')) : pollFetch f fetch s = (.result r, behind r, s') := by
  rw [pollFetch, h]
  cases r with
  | ok page => rfl
  | error e => rfl

end PageStream

/-! ## Results of a script -/

namespace Script

/-- The results of a stream with these fetches to come. -/
def results : List ScriptedFetch → List (Except Error Payload)
  | [] => [.error (.payload .noMorePages)]
  | fetch :: rest =>
    fetch.result :: if (linkBehind fetch.result).isSome then results rest else []

def resultsBehind (r : Except Error Payload) (rest : List ScriptedFetch) :
    List (Except Error Payload) :=
  if (linkBehind r).isSome then results rest else []

theorem results_head (s : Script) :
    results s.rest = s.head.result :: resultsBehind s.head.result s.rest.tail := by
  obtain ⟨_ | ⟨fetch, rest⟩, asked⟩ := s <;> rfl

/-- Only the last result can lead nowhere. -/
theorem results_lead (fetches : List ScriptedFetch) :
    ∀ r ∈ (results fetches).dropLast, (linkBehind r).isSome := by
  induction fetches with
  | nil => simp [results]
  | cons fetch rest ih =>
    rw [results]
    split
    · next leads =>
      cases more : results rest with
      | nil => simp
      | cons r rs =>
        rw [more] at ih
        rw [List.dropLast_cons_cons]
        exact List.forall_mem_cons.2 ⟨leads, ih⟩
    · simp

theorem length_results_le (fetches : List ScriptedFetch) :
    (results fetches).length ≤ fetches.length + 1 := by
  induction fetches with
  | nil => exact Nat.le_refl 1
  | cons fetch rest ih =>
    rw [results, List.length_cons, List.length_cons]
    split
    · omega
    · simp

/-- The same script with fetches that end when they are first polled. -/
def undelayed (s : Script) : Script :=
  { s with rest := s.rest.map fun fetch => { fetch with delay := 0 } }

theorem results_undelayed (s : Script) : results s.undelayed.rest = results s.rest := by
  obtain ⟨fetches, asked⟩ := s
  dsimp only [undelayed]
  induction fetches with
  | nil => rfl
  | cons fetch rest ih => rw [List.map_cons, results, results, ih]

def ahead : PageStream ScriptedFetch → Script → List (Except Error Payload)
  | .waiting _, s => results s.rest
  | .fetching fetch, s => fetch.result :: resultsBehind fetch.result s.rest
  | .ended, _ => []

theorem ahead_behind (r : Except Error Payload) (s : Script) :
    ahead (.behind r) s = resultsBehind r s.rest := by
  unfold PageStream.behind resultsBehind
  cases linkBehind r with
  | none => rfl
  | some link => rfl

/-- A poll of a fetch gives its result and leaves those behind it, or leaves all of them. -/
theorem pollFetch_foretold (fetch : ScriptedFetch) (s : Script) :
    (PageStream.pollFetch fetcher fetch s).1.Takes (ahead (.fetching fetch) s)
      (ahead (PageStream.pollFetch fetcher fetch s).2.1
        (PageStream.pollFetch fetcher fetch s).2.2) := by
  obtain ⟨_ | delay, r⟩ := fetch
  · rw [PageStream.pollFetch_done (show fetcher.poll ⟨0, r⟩ s = (.done r, s) from rfl)]
    exact congrArg (r :: ·) (ahead_behind r s).symm
  · have polled : fetcher.poll ⟨delay + 1, r⟩ s = (.pending ⟨delay, r⟩, s) := rfl
    rw [PageStream.pollFetch_pending polled]
    rfl

theorem poll_waiting_script (link : String) (s : Script) :
    PageStream.poll fetcher (.waiting link) s =
      PageStream.pollFetch fetcher s.head ⟨s.rest.tail, s.asked ++ [link]⟩ := rfl

theorem foretells : (PageStream.poll fetcher).Foretells fun p s rs => rs = ahead p s := by
  rintro p s rs rfl
  refine ⟨_, rfl, ?_⟩
  cases p with
  | ended => exact ⟨rfl, rfl⟩
  | fetching fetch => exact pollFetch_foretold fetch s
  | waiting link =>
    rw [ahead, results_head]
    exact pollFetch_foretold s.head ⟨s.rest.tail, s.asked ++ [link]⟩

/-! ## Without delays -/

def Undelayed (p : PageStream ScriptedFetch) (s : Script) : Prop :=
  (∀ fetch ∈ s.rest, fetch.delay = 0) ∧ ∀ fetch, p = .fetching fetch → fetch.delay = 0

theorem undelayed_undelayed (s : Script) (link : String) :
    Undelayed (.waiting link) s.undelayed := by
  constructor
  · intro fetch h
    obtain ⟨fetch, -, rfl⟩ := List.mem_map.1 h
    rfl
  · rintro fetch ⟨⟩

theorem pollFetch_undelayed {fetch : ScriptedFetch} {s : Script} (now : fetch.delay = 0)
    (later : ∀ fetch ∈ s.rest, fetch.delay = 0) :
    (PageStream.pollFetch fetcher fetch s).1 ≠ .pending ∧
      Undelayed (PageStream.pollFetch fetcher fetch s).2.1
        (PageStream.pollFetch fetcher fetch s).2.2 := by
  obtain ⟨delay, r⟩ := fetch
  obtain rfl : delay = 0 := now
  rw [PageStream.pollFetch_done (show fetcher.poll ⟨0, r⟩ s = (.done r, s) from rfl)]
  refine ⟨by simp, later, fun fetch h => ?_⟩
  unfold PageStream.behind at h
  split at h <;> cases h

theorem poll_undelayed {p : PageStream ScriptedFetch} {s : Script} (h : Undelayed p s) :
    (PageStream.poll fetcher p s).1 ≠ .pending ∧
      Undelayed (PageStream.poll fetcher p s).2.1 (PageStream.poll fetcher p s).2.2 := by
  obtain ⟨later, now⟩ := h
  cases p with
  | ended => exact ⟨by simp [PageStream.poll], later, by rintro fetch ⟨⟩⟩
  | fetching fetch => exact pollFetch_undelayed (now fetch rfl) later
  | waiting link =>
    rw [poll_waiting_script]
    obtain ⟨_ | ⟨fetch, rest⟩, asked⟩ := s
    · exact pollFetch_undelayed rfl later
    · obtain ⟨first, rest⟩ := List.forall_mem_cons.1 later
      exact pollFetch_undelayed first rest

theorem prompt_undelayed : (PageStream.poll fetcher).Prompt Undelayed where
  answers h := (poll_undelayed h).1
  keeps _ _ h := (poll_undelayed h).2

end Script

end OData
