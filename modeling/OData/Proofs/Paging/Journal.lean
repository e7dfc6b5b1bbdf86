import Mathlib.Data.List.Induction
import OData.Proofs.Paging.Scripts

/-!
# The journal of a stream

A journal records what a stream does in the eyes of those around it: the links that it
asks for, the fetches that it polls and the answers that it gives. `Journal.Allows` says
what may come next. To watch a stream changes nothing of what it does
(`PageStream.poll_shown`), and a stream that is watched does only what is allowed, for any
fetcher: each poll leads from one `Stage` to the next (`Stage.poll`), and so does each
answer (`Stage.Answering.note`).
-/

namespace OData

/-- What a stream does in the eyes of those around it. -/
inductive StreamEvent (α : Type) where
  /-- It asks for the page behind a link. -/
  | called (link : String)
  /-- It polls a fetch, which has a result or is still under way. Fetches are numbered in
  the order in which they were asked for. -/
  | polled (fetch : Nat) (outcome : Option (Except Error Payload))
  | answered (a : Progress α)

abbrev Journal (α : Type) := List (StreamEvent α)

namespace Journal

variable {α : Type}

def calls (j : Journal α) : List String :=
  j.filterMap fun
    | .called link => some link
    | _ => none

/-- The results of the fetches that have ended. -/
def settled (j : Journal α) : List (Except Error Payload) :=
  j.filterMap fun
    | .polled _ outcome => outcome
    | _ => none

def given (j : Journal α) : List (Except Error α) :=
  j.filterMap fun
    | .answered (.result r) => some r
    | _ => none

/-- The link to ask for when all is given: at first `uri`, then the link of the last page. -/
def expected (uri : String) (j : Journal α) : Option String :=
  match (settled j).getLast? with
  | none => some uri
  | some r => linkBehind r

/-! ### Reading on -/

section

variable {uri : String} {j : Journal α} {e : StreamEvent α}

@[simp] theorem calls_append (j k : Journal α) : calls (j ++ k) = calls j ++ calls k :=
  List.filterMap_append ..

@[simp] theorem settled_append (j k : Journal α) : settled (j ++ k) = settled j ++ settled k :=
  List.filterMap_append ..

@[simp] theorem given_append (j k : Journal α) : given (j ++ k) = given j ++ given k :=
  List.filterMap_append ..

@[simp] theorem calls_singleton (e : StreamEvent α) :
    calls [e] = match e with | .called link => [link] | _ => [] := by
  cases e <;> rfl

@[simp] theorem settled_singleton (e : StreamEvent α) :
    settled [e] = match e with | .polled _ outcome => outcome.toList | _ => [] := by
  rcases e with _ | ⟨_, _ | _⟩ | _ <;> rfl

@[simp] theorem given_singleton (e : StreamEvent α) :
    given [e] = match e with | .answered (.result r) => [r] | _ => [] := by
  rcases e with _ | _ | (_ | _ | _) <;> rfl

@[simp] theorem expected_unsettled (h : settled [e] = []) :
    expected uri (j ++ [e]) = expected uri j := by
  rw [expected, settled_append, h, List.append_nil]
  rfl

@[simp] theorem expected_settled (k : Nat) (r : Except Error Payload) :
    expected uri (j ++ [.polled k (some r)]) = linkBehind r := by
  simp [expected]

end

/-! ### Order -/

/-- All fetches have ended, and all that they brought has been given. -/
structure CaughtUp (unpack : Except Error Payload → List (Except Error α)) (j : Journal α) :
    Prop where
  ended : (settled j).length = (calls j).length
  all : given j = (settled j).flatMap unpack

/-- What may come after a journal of a stream that starts at `uri` and gives `unpack r` for
the result `r` of a fetch. -/
def Allows (uri : String) (unpack : Except Error Payload → List (Except Error α))
    (j : Journal α) : StreamEvent α → Prop
  -- A link is asked for when nothing else is left to do, and it is the expected one.
  | .called link => CaughtUp unpack j ∧ expected uri j = some link
  -- A fetch is polled that was asked for last, when all before it have ended and it has not.
  | .polled k _ => (calls j).length = k + 1 ∧ (settled j).length = k
  | .answered .pending => ∃ k, j.getLast? = some (.polled k none)
  | .answered (.result r) => given j ++ [r] <+: (settled j).flatMap unpack
  | .answered .finished => CaughtUp unpack j ∧ expected uri j = none

variable {uri : String} {unpack : Except Error Payload → List (Except Error α)}

/-- Every event was allowed when it came. -/
def Orderly (uri : String) (unpack : Except Error Payload → List (Except Error α))
    (j : Journal α) : Prop :=
  ∀ (before : Journal α) e, before ++ [e] <+: j → Allows uri unpack before e

variable {j before : Journal α} {e : StreamEvent α}

theorem orderly_nil : Orderly uri unpack ([] : Journal α) := by
  intro before e h
  simp at h

theorem Orderly.snoc (h : Orderly uri unpack j) (allowed : Allows uri unpack j e) :
    Orderly uri unpack (j ++ [e]) := by
  intro before e' front
  rcases List.prefix_concat_iff.1 front with same | earlier
  · obtain ⟨rfl, last⟩ := List.append_inj' same rfl
    obtain rfl : e' = e := List.head_eq_of_cons_eq last
    exact allowed
  · exact h before e' earlier

theorem Orderly.earlier (h : Orderly uri unpack j) (front : before <+: j) :
    Orderly uri unpack before := fun _ _ earlier => h _ _ (earlier.trans front)

theorem Orderly.last (h : Orderly uri unpack (j ++ [e])) : Allows uri unpack j e :=
  h j e List.prefix_rfl

/-- The first event is a call. -/
theorem Orderly.calls_ne_nil (h : Orderly uri unpack j) (begun : j ≠ []) : calls j ≠ [] := by
  obtain ⟨e, rest, rfl⟩ := List.exists_cons_of_ne_nil begun
  have first : Allows uri unpack [] e := h [] e ⟨rest, rfl⟩
  rcases e with link | ⟨k, outcome⟩ | (_ | r | _)
  · simp [calls]
  · cases first.1
  · obtain ⟨k, last⟩ := first
    cases last
  · have room := first.length_le
    simp [given, settled] at room
  · cases first.2

/-- Fetches that have ended were asked for, and at most one is under way. -/
theorem Orderly.one_under_way (h : Orderly uri unpack j) :
    (settled j).length ≤ (calls j).length ∧ (calls j).length ≤ (settled j).length + 1 := by
  induction j using List.reverseRecOn with
  | nil => exact ⟨Nat.le_refl 0, Nat.zero_le 1⟩
  | append_singleton j e ih =>
    have bounds := ih (h.earlier (List.prefix_append _ _))
    have allowed := h.last
    cases e with
    | called link =>
      have caught : (settled j).length = (calls j).length := allowed.1.ended
      simp [caught]
    | polled k outcome =>
      obtain ⟨called, ended⟩ := allowed
      cases outcome <;> simp [called, ended]
    | answered a => simpa using bounds

/-- A fetch that has ended is not polled again. -/
theorem Orderly.not_polled_again {k : Nat} {r : Except Error Payload} {after : Journal α}
    {outcome : Option (Except Error Payload)}
    (h : Orderly uri unpack (before ++ .polled k (some r) :: after)) :
    .polled k outcome ∉ after := by
  intro again
  obtain ⟨between, later, rfl⟩ := List.append_of_mem again
  have first : Allows uri unpack before (.polled k (some r)) :=
    h before _ ⟨between ++ .polled k outcome :: later, by simp⟩
  have second : Allows uri unpack (before ++ .polled k (some r) :: between) (.polled k outcome) :=
    h _ _ ⟨later, by simp⟩
  have ended : (settled before).length = k := first.2
  have still : (settled (before ++ .polled k (some r) :: between)).length = k := second.2
  have one : 0 < (settled (.polled k (some r) :: between)).length := by simp [settled]
  rw [settled_append, List.length_append] at still
  omega

end Journal

/-! ## Observed streams -/

variable {φ σ π α : Type}

structure Observed (σ α : Type) where
  inner : σ
  journal : Journal α

def Observed.note (s : Observed σ α) (inner : σ) (e : StreamEvent α) : Observed σ α :=
  ⟨inner, s.journal ++ [e]⟩

@[simp] theorem Observed.note_inner (s : Observed σ α) (inner : σ) (e : StreamEvent α) :
    (s.note inner e).inner = inner := rfl

@[simp] theorem Observed.note_journal (s : Observed σ α) (inner : σ) (e : StreamEvent α) :
    (s.note inner e).journal = s.journal ++ [e] := rfl

def Fetcher.observed (f : Fetcher φ σ) : Fetcher (Nat × φ) (Observed σ α) where
  start link s :=
    let (fetch, inner) := f.start link s.inner
    ((s.journal.calls.length, fetch), s.note inner (.called link))
  poll fetch s :=
    match f.poll fetch.2 s.inner with
    | (.pending rest, inner) => (.pending (fetch.1, rest), s.note inner (.polled fetch.1 none))
    | (.done r, inner) => (.done r, s.note inner (.polled fetch.1 (some r)))

namespace Fetcher

variable {f : Fetcher φ σ} {fetch : Nat × φ} {s : Observed σ α} {inner : σ}

theorem observed_pending {fetch' : φ} (h : f.poll fetch.2 s.inner = (.pending fetch', inner)) :
    f.observed.poll fetch s =
      (.pending (fetch.1, fetch'), s.note inner (.polled fetch.1 none)) := by
  dsimp only [observed]
  rw [h]

theorem observed_done {r : Except Error Payload} (h : f.poll fetch.2 s.inner = (.done r, inner)) :
    f.observed.poll fetch s = (.done r, s.note inner (.polled fetch.1 (some r))) := by
  dsimp only [observed]
  rw [h]

end Fetcher

def Advance.observed (more : Advance π (Observed σ α) α) : Advance π (Observed σ α) α :=
  fun p s =>
    let (a, p, s) := more p s
    (a, p, s.note s.inner (.answered a))

/-! ## Observing changes nothing -/

def PageStream.forget : PageStream (Nat × φ) → PageStream φ
  | .waiting link => .waiting link
  | .fetching fetch => .fetching fetch.2
  | .ended => .ended

def PageStream.Shown (p : PageStream φ) (s : σ) (p' : PageStream (Nat × φ)) (s' : Observed σ α) :
    Prop :=
  p = p'.forget ∧ s = s'.inner

namespace PageStream

theorem forget_behind (r : Except Error Payload) :
    (behind r : PageStream (Nat × φ)).forget = behind r := by
  unfold behind
  cases linkBehind r <;> rfl

theorem pollFetch_shown (f : Fetcher φ σ) (fetch : Nat × φ) (s : Observed σ α) :
    (pollFetch f fetch.2 s.inner).1 = (pollFetch f.observed fetch s).1 ∧
      Shown (pollFetch f fetch.2 s.inner).2.1 (pollFetch f fetch.2 s.inner).2.2
        (pollFetch f.observed fetch s).2.1 (pollFetch f.observed fetch s).2.2 := by
  cases polled : f.poll fetch.2 s.inner with
  | mk state inner =>
    cases state with
    | pending rest =>
      rw [pollFetch_pending polled, pollFetch_pending (Fetcher.observed_pending polled)]
      exact ⟨rfl, rfl, rfl⟩
    | done r =>
      rw [pollFetch_done polled, pollFetch_done (Fetcher.observed_done polled)]
      exact ⟨rfl, (forget_behind r).symm, rfl⟩

theorem poll_shown (f : Fetcher φ σ) : (poll f).Mirrors (Shown (α := α)) (poll f.observed) := by
  rintro p s p' s' ⟨rfl, rfl⟩
  cases p' with
  | ended => exact ⟨rfl, rfl, rfl⟩
  | fetching fetch => exact pollFetch_shown f fetch s'
  | waiting link =>
    exact pollFetch_shown f (s'.journal.calls.length, (f.start link s'.inner).1)
      (s'.note (f.start link s'.inner).2 (.called link))

end PageStream

/-- Writing the answers down changes none of them. -/
theorem Advance.mirrors_observed {π' σ' : Type} {more : Advance π σ α}
    {more' : Advance π' (Observed σ' α) α} {R : π → σ → π' → σ' → Prop}
    (alike : more.Mirrors (fun p s p' s' => R p s p' s'.inner) more') :
    more.Mirrors (fun p s p' s' => R p s p' s'.inner) more'.observed :=
  fun _ _ _ _ related => alike related

/-! ## Stages of a stream -/

def PageStream.link? : PageStream φ → Option String
  | .waiting link => some link
  | _ => none

/-- A stream stands where the journal says. -/
def PageStream.Fits (uri : String) (j : Journal α) : PageStream (Nat × φ) → Prop
  | .waiting link => j.settled.length = j.calls.length ∧ j.expected uri = some link
  | .fetching fetch =>
    j.calls.length = fetch.1 + 1 ∧ j.settled.length = fetch.1 ∧ j.expected uri ≠ none
  | .ended => j.settled.length = j.calls.length ∧ j.expected uri = none

/-- A stream where its journal has led it, `rest` being what has come in and was not given. -/
structure Stage (uri : String) (unpack : Except Error Payload → List (Except Error α))
    (rest : List (Except Error α)) (p : PageStream (Nat × φ)) (j : Journal α) : Prop where
  orderly : j.Orderly uri unpack
  balance : j.given ++ rest = j.settled.flatMap unpack
  /-- The calls follow the links of the pages. -/
  route : j.calls ++ p.link?.toList = uri :: j.settled.filterMap linkBehind
  place : p.Fits uri j

namespace Stage

variable {uri link : String} {unpack : Except Error Payload → List (Except Error α)}
  {rest : List (Except Error α)} {p : PageStream (Nat × φ)} {j : Journal α} {k : Nat}

theorem start : Stage uri unpack [] (.waiting uri : PageStream (Nat × φ)) [] where
  orderly := Journal.orderly_nil
  balance := rfl
  route := rfl
  place := ⟨rfl, rfl⟩

theorem called (h : Stage uri unpack [] (.waiting link : PageStream (Nat × φ)) j) (fetch : φ) :
    Stage uri unpack [] (.fetching (j.calls.length, fetch)) (j ++ [.called link]) := by
  obtain ⟨orderly, balance, route, ended, expected⟩ := h
  rw [List.append_nil] at balance
  refine ⟨orderly.snoc ⟨⟨ended, balance⟩, expected⟩, ?_, ?_, ?_⟩
  · simpa using balance
  · simpa [PageStream.link?] using route
  · simp [PageStream.Fits, ended, expected]

theorem polled_pending {fetch : φ} (h : Stage uri unpack rest (.fetching (k, fetch)) j)
    (fetch' : φ) :
    Stage uri unpack rest (.fetching (k, fetch')) (j ++ [.polled k none]) := by
  obtain ⟨orderly, balance, route, called, settled, expected⟩ := h
  refine ⟨orderly.snoc ⟨called, settled⟩, ?_, ?_, ?_⟩
  · simpa using balance
  · simpa [PageStream.link?] using route
  · simp [PageStream.Fits, called, settled, expected]

theorem polled_done {fetch : φ} (h : Stage uri unpack [] (.fetching (k, fetch)) j)
    (r : Except Error Payload) :
    Stage uri unpack (unpack r) (.behind r : PageStream (Nat × φ)) (j ++ [.polled k (some r)]) := by
  obtain ⟨orderly, balance, route, called, settled, expected⟩ := h
  have calls : j.calls = uri :: j.settled.filterMap linkBehind := by
    simpa [PageStream.link?] using route
  refine ⟨orderly.snoc ⟨called, settled⟩, ?_, ?_, ?_⟩
  · simp [← balance]
  · unfold PageStream.behind
    cases leads : linkBehind r <;> simp [PageStream.link?, calls, leads]
  · unfold PageStream.behind
    cases leads : linkBehind r <;> simp [PageStream.Fits, called, settled, leads]

/-- An answer changes what was given and nothing else. -/
theorem answered {given : List (Except Error α)} {a : Progress α} (h : Stage uri unpack given p j)
    (allowed : j.Allows uri unpack (.answered a))
    (balance : Journal.given [.answered a] ++ rest = given) :
    Stage uri unpack rest p (j ++ [.answered a]) := by
  refine ⟨h.orderly.snoc allowed, ?_, by simpa using h.route, ?_⟩
  · simp [← balance, ← h.balance]
  · have place := h.place
    cases p <;> simpa [PageStream.Fits] using place

/-- Where a walk stands when it is about to answer, its journal not yet telling so. -/
def Answering (uri : String) (unpack : Except Error Payload → List (Except Error α))
    (rest : List (Except Error α)) (p : PageStream (Nat × φ)) (j : Journal α) :
    Progress α → Prop
  | .pending => Stage uri unpack rest p j ∧ ∃ k, j.getLast? = some (.polled k none)
  | .result r => Stage uri unpack (r :: rest) p j
  | .finished => Stage uri unpack rest p j ∧ p = .ended ∧ rest = []

theorem Answering.note {a : Progress α} (h : Answering uri unpack rest p j a) :
    Stage uri unpack rest p (j ++ [.answered a]) := by
  cases a with
  | pending => exact h.1.answered h.2 rfl
  | result r =>
    exact answered h ⟨rest, by rw [List.append_assoc]; exact h.balance⟩ rfl
  | finished =>
    obtain ⟨h, rfl, rfl⟩ := h
    obtain ⟨ended, expected⟩ := h.place
    exact h.answered ⟨⟨ended, by rw [← h.balance, List.append_nil]⟩, expected⟩ rfl

def Polled (uri : String) (unpack : Except Error Payload → List (Except Error α)) :
    Progress Payload × PageStream (Nat × φ) × Observed σ α → Prop
  | (.pending, p, s) =>
    Stage uri unpack [] p s.journal ∧ ∃ k, s.journal.getLast? = some (.polled k none)
  | (.result r, p, s) => Stage uri unpack (unpack r) p s.journal
  | (.finished, p, s) => Stage uri unpack [] p s.journal ∧ p = .ended

theorem pollFetch (f : Fetcher φ σ) {fetch : φ} {s : Observed σ α}
    (h : Stage uri unpack [] (.fetching (k, fetch)) s.journal) :
    Polled uri unpack (PageStream.pollFetch f.observed (k, fetch) s) := by
  cases polled : f.poll fetch s.inner with
  | mk state inner =>
    cases state with
    | pending fetch' =>
      rw [PageStream.pollFetch_pending (Fetcher.observed_pending polled)]
      exact ⟨h.polled_pending fetch', k, by simp⟩
    | done r =>
      rw [PageStream.pollFetch_done (Fetcher.observed_done polled)]
      exact h.polled_done r

theorem poll (f : Fetcher φ σ) {s : Observed σ α} (h : Stage uri unpack [] p s.journal) :
    Polled uri unpack (PageStream.poll f.observed p s) := by
  cases p with
  | waiting link => exact pollFetch f (h.called _)
  | fetching fetch => exact pollFetch f h
  | ended => exact ⟨h, rfl⟩

end Stage

end OData
