import OData.Paging.Basic

/-!
# Runs of walks

A run asks a walk for its next result several times. What a walk will give is described by
the results that are still ahead of it (`Foretells`): an answer takes its own from the
front, and waiting loses none. So the answers that are no waiting are the results in order
(`ready_run`), and a walk that never waits gives them one by one (`run_prompt`). A cursor
has ahead of it what is left of its page, then the items of the pages to come
(`Cursor.foretells`). `Mirrors` relates two walks that answer alike.
-/

namespace OData

variable {π σ α : Type}

/-! ## Answers -/

namespace Progress

def isPending : Progress α → Bool
  | .pending => true
  | _ => false

def ready (answers : List (Progress α)) : List (Progress α) := answers.filter (!·.isPending)

/-- The first `n` answers of a walk that never waits and has these results to give. -/
def prompt : Nat → List (Except Error α) → List (Progress α)
  | 0, _ => []
  | n + 1, [] => .finished :: prompt n []
  | n + 1, r :: rs => .result r :: prompt n rs

@[simp] theorem prompt_zero (rs : List (Except Error α)) : prompt 0 rs = [] := by
  cases rs <;> rfl

theorem length_prompt (n : Nat) (rs : List (Except Error α)) : (prompt n rs).length = n := by
  induction n generalizing rs with
  | zero => rw [prompt_zero]; rfl
  | succ n ih => cases rs <;> simp [prompt, ih]

theorem prompt_prefix {k n : Nat} (h : k ≤ n) (rs : List (Except Error α)) :
    prompt k rs <+: prompt n rs := by
  induction k generalizing n rs with
  | zero => rw [prompt_zero]; exact List.nil_prefix
  | succ k ih =>
    obtain ⟨n, rfl⟩ : ∃ m, n = m + 1 := ⟨n - 1, by omega⟩
    cases rs with
    | nil => exact (List.prefix_cons_inj _).2 (ih (by omega) [])
    | cons r rs => exact (List.prefix_cons_inj _).2 (ih (by omega) rs)

/-- What an answer does to the results that are ahead. -/
def Takes (before after : List (Except Error α)) : Progress α → Prop
  | .pending => after = before
  | .result r => before = r :: after
  | .finished => before = [] ∧ after = []

end Progress

/-! ## Runs -/

namespace Advance

/-- What a walk answers when it is asked `n` times, and where that leaves it and its
surroundings. -/
def run (more : Advance π σ α) : Nat → π → σ → List (Progress α) × π × σ
  | 0, p, s => ([], p, s)
  | n + 1, p, s =>
    let (a, p, s) := more p s
    let (as, p, s) := run more n p s
    (a :: as, p, s)

variable {more : Advance π σ α}

theorem run_succ {p p' : π} {s s' : σ} {a : Progress α} (h : more p s = (a, p', s')) (n : Nat) :
    more.run (n + 1) p s =
      (a :: (more.run n p' s').1, (more.run n p' s').2.1, (more.run n p' s').2.2) := by
  rw [run, h]

/-- What one step keeps, a run keeps. -/
theorem run_keeps {I : π → σ → Prop} (keep : ∀ p s, I p s → I (more p s).2.1 (more p s).2.2)
    (n : Nat) : ∀ {p s}, I p s → I (more.run n p s).2.1 (more.run n p s).2.2 := by
  induction n with
  | zero => exact fun h => h
  | succ n ih =>
    intro p s h
    rw [run_succ rfl]
    exact ih (keep p s h)

theorem run_add (m n : Nat) (p : π) (s : σ) :
    (more.run (m + n) p s).2 = (more.run n (more.run m p s).2.1 (more.run m p s).2.2).2 := by
  induction m generalizing p s with
  | zero => rw [Nat.zero_add]; rfl
  | succ m ih =>
    rw [Nat.add_right_comm, run_succ rfl, run_succ rfl]
    exact ih _ _

/-! ## Results that are ahead -/

/-- `Ahead` knows, for some states of a walk, the results that it has yet to give. -/
def Foretells (Ahead : π → σ → List (Except Error α) → Prop) (more : Advance π σ α) : Prop :=
  ∀ ⦃p s rs⦄, Ahead p s rs →
    ∃ rs', Ahead (more p s).2.1 (more p s).2.2 rs' ∧ (more p s).1.Takes rs rs'

variable {Ahead : π → σ → List (Except Error α) → Prop}

/-- The answers of a run that are no waiting are the results in order, and then the end. -/
theorem ready_run (known : Foretells Ahead more) (n : Nat) {p : π} {s : σ}
    {rs : List (Except Error α)} (h : Ahead p s rs) :
    ∃ k ≤ n, Progress.ready (more.run n p s).1 = Progress.prompt k rs := by
  induction n generalizing p s rs with
  | zero => exact ⟨0, Nat.le_refl 0, by rw [Progress.prompt_zero]; rfl⟩
  | succ n ih =>
    obtain ⟨rs', h', takes⟩ := known h
    obtain ⟨k, hk, later⟩ := ih h'
    rw [run_succ rfl]
    generalize more p s = step at later takes ⊢
    obtain ⟨a, p', s'⟩ := step
    cases a with
    | pending =>
      obtain rfl : rs' = rs := takes
      exact ⟨k, by omega, later⟩
    | result r =>
      obtain rfl : rs = r :: rs' := takes
      exact ⟨k + 1, by omega, congrArg (Progress.result r :: ·) later⟩
    | finished =>
      obtain ⟨rfl, rfl⟩ := takes
      exact ⟨k + 1, by omega, congrArg (Progress.finished :: ·) later⟩

def Within (Ahead : π → σ → List (Except Error α) → Prop) (n : Nat) (p : π) (s : σ) : Prop :=
  ∃ rs, Ahead p s rs ∧ rs.length < n

theorem keeps_within (known : Foretells Ahead more) {n : Nat} (p : π) (s : σ)
    (h : Within Ahead n p s) : Within Ahead n (more p s).2.1 (more p s).2.2 := by
  obtain ⟨rs, h, fits⟩ := h
  obtain ⟨rs', h', takes⟩ := known h
  refine ⟨rs', h', ?_⟩
  generalize (more p s).1 = a at takes
  cases a with
  | pending =>
    obtain rfl : rs' = rs := takes
    exact fits
  | result r =>
    obtain rfl : rs = r :: rs' := takes
    rw [List.length_cons] at fits
    omega
  | finished =>
    obtain ⟨rfl, rfl⟩ := takes
    exact fits

/-- While `I` holds the walk does not wait, and `I` goes on to hold. -/
structure Prompt (I : π → σ → Prop) (more : Advance π σ α) : Prop where
  answers : ∀ {p s}, I p s → (more p s).1 ≠ .pending
  keeps : ∀ p s, I p s → I (more p s).2.1 (more p s).2.2

variable {I : π → σ → Prop}

theorem run_ne_pending (never : Prompt I more) (n : Nat) {p : π} {s : σ} (h : I p s) :
    ∀ a ∈ (more.run n p s).1, a ≠ .pending := by
  induction n generalizing p s with
  | zero => simp [run]
  | succ n ih =>
    rw [run_succ rfl]
    exact List.forall_mem_cons.2 ⟨never.answers h, ih (never.keeps p s h)⟩

theorem length_run (n : Nat) (p : π) (s : σ) : (more.run n p s).1.length = n := by
  induction n generalizing p s with
  | zero => rfl
  | succ n ih => rw [run_succ rfl]; exact congrArg (· + 1) (ih _ _)

/-- A walk that does not wait gives the results one by one. -/
theorem run_prompt (known : Foretells Ahead more) (never : Prompt I more) (n : Nat) {p : π} {s : σ}
    {rs : List (Except Error α)} (h : Ahead p s rs) (hI : I p s) :
    (more.run n p s).1 = Progress.prompt n rs := by
  have all : Progress.ready (more.run n p s).1 = (more.run n p s).1 := by
    refine List.filter_eq_self.2 fun a ha => ?_
    have answered := run_ne_pending never n hI a ha
    cases a with
    | pending => exact absurd rfl answered
    | result r => rfl
    | finished => rfl
  obtain ⟨k, -, ready⟩ := ready_run known n h
  rw [all] at ready
  have length := congrArg List.length ready
  rw [length_run, Progress.length_prompt] at length
  rw [ready, length]

/-! ## Walks that answer alike -/

def Mirrors {π' σ' : Type} (R : π → σ → π' → σ' → Prop) (more : Advance π σ α)
    (more' : Advance π' σ' α) : Prop :=
  ∀ ⦃p s p' s'⦄, R p s p' s' → (more p s).1 = (more' p' s').1 ∧
    R (more p s).2.1 (more p s).2.2 (more' p' s').2.1 (more' p' s').2.2

variable {π' σ' : Type} {R : π → σ → π' → σ' → Prop} {more' : Advance π' σ' α}

theorem run_mirrors (alike : Mirrors R more more') (n : Nat) {p : π} {s : σ} {p' : π'} {s' : σ'}
    (h : R p s p' s') :
    (more.run n p s).1 = (more'.run n p' s').1 ∧
      R (more.run n p s).2.1 (more.run n p s).2.2 (more'.run n p' s').2.1
        (more'.run n p' s').2.2 := by
  induction n generalizing p s p' s' with
  | zero => exact ⟨rfl, h⟩
  | succ n ih =>
    obtain ⟨same, related⟩ := alike h
    obtain ⟨rest, last⟩ := ih related
    rw [run_succ rfl, run_succ rfl]
    exact ⟨by rw [same, rest], last⟩

end Advance

/-! ## Cursors -/

namespace Cursor

/-- What a page, or the failure in its place, adds to the results of a cursor. -/
def unpack : Except Error Payload → List (Except Error Json)
  | .ok page => page.items.map .ok
  | .error e => [.error e]

/-- What is left of the page, then what the pages to come add. -/
def Ahead (Pages : π → σ → List (Except Error Payload) → Prop) (cursor : Cursor π) (s : σ)
    (results : List (Except Error Json)) : Prop :=
  ∃ rs, Pages cursor.pages s rs ∧ results = cursor.buffer.map .ok ++ rs.flatMap unpack

variable {more : Advance π σ Payload} {Pages : π → σ → List (Except Error Payload) → Prop}

theorem advance_item (more : Advance π σ Payload) (room : Nat) (item : Json) (rest : List Json)
    (p : π) (s : σ) :
    advance more room ⟨item :: rest, p⟩ s = (.result (.ok item), ⟨rest, p⟩, s) := by
  cases room <;> rfl

theorem foretells (known : more.Foretells Pages) (room : Nat) :
    (advance more room).Foretells (Ahead Pages) := by
  induction room with
  | zero =>
    rintro ⟨_ | ⟨item, rest⟩, p⟩ s results ⟨rs, h, rfl⟩
    · exact ⟨_, ⟨rs, h, rfl⟩, rfl⟩
    · exact ⟨_, ⟨rs, h, rfl⟩, rfl⟩
  | succ room ih =>
    rintro ⟨_ | ⟨item, rest⟩, p⟩ s results ⟨rs, h, rfl⟩
    · obtain ⟨rs', h', takes⟩ := known h
      rw [advance]
      generalize more p s = step at h' takes ⊢
      obtain ⟨a, p', s'⟩ := step
      cases a with
      | pending =>
        obtain rfl : rs' = rs := takes
        exact ⟨_, ⟨rs', h', rfl⟩, rfl⟩
      | result r =>
        obtain rfl : rs = r :: rs' := takes
        cases r with
        | ok page => exact ih (p := ⟨page.items, p'⟩) ⟨rs', h', rfl⟩
        | error e => exact ⟨_, ⟨rs', h', rfl⟩, rfl⟩
      | finished =>
        obtain ⟨rfl, rfl⟩ := takes
        exact ⟨[], ⟨[], h', rfl⟩, rfl, rfl⟩
    · exact ⟨_, ⟨rs, h, rfl⟩, rfl⟩

/-- What a page of the walk keeps, a cursor keeps. -/
theorem advance_keeps {I : π → σ → Prop}
    (keep : ∀ p s, I p s → I (more p s).2.1 (more p s).2.2) (room : Nat) (cursor : Cursor π)
    (s : σ) (h : I cursor.pages s) :
    I (advance more room cursor s).2.1.pages (advance more room cursor s).2.2 := by
  induction room generalizing cursor s with
  | zero =>
    obtain ⟨_ | ⟨item, rest⟩, p⟩ := cursor <;> exact h
  | succ room ih =>
    obtain ⟨_ | ⟨item, rest⟩, p⟩ := cursor
    · have kept := keep p s h
      rw [advance]
      generalize more p s = step at kept ⊢
      obtain ⟨_ | ⟨_ | page⟩ | _, p', s'⟩ := step
      · exact kept
      · exact kept
      · exact ih ⟨page.items, p'⟩ s' kept
      · exact kept
    · exact h

/-- With room for more pages than are ahead, a cursor waits only if its walk does. -/
theorem advance_ne_pending {I : π → σ → Prop} (known : more.Foretells Pages)
    (never : more.Prompt I) {room : Nat} (cursor : Cursor π) (s : σ) (hI : I cursor.pages s)
    (fits : Advance.Within Pages room cursor.pages s) :
    (advance more room cursor s).1 ≠ .pending := by
  induction room generalizing cursor s with
  | zero =>
    obtain ⟨rs, -, fits⟩ := fits
    exact absurd fits (Nat.not_lt_zero _)
  | succ room ih =>
    obtain ⟨_ | ⟨item, rest⟩, p⟩ := cursor
    · obtain ⟨rs, h, fits⟩ := fits
      obtain ⟨rs', h', takes⟩ := known h
      have answered := never.answers hI
      have kept := never.keeps p s hI
      rw [advance]
      generalize more p s = step at h' takes answered kept ⊢
      obtain ⟨a, p', s'⟩ := step
      cases a with
      | pending => exact absurd rfl answered
      | result r =>
        obtain rfl : rs = r :: rs' := takes
        cases r with
        | ok page =>
          exact ih ⟨page.items, p'⟩ s' kept ⟨rs', h', Nat.lt_of_succ_lt_succ fits⟩
        | error e => simp
      | finished => simp
    · rw [advance_item]
      simp

theorem prompt {I : π → σ → Prop} (known : more.Foretells Pages) (never : more.Prompt I)
    (room : Nat) :
    (advance more room).Prompt fun cursor s =>
      I cursor.pages s ∧ Advance.Within Pages room cursor.pages s where
  answers {cursor s} h := advance_ne_pending known never cursor s h.1 h.2
  keeps cursor s h :=
    ⟨advance_keeps never.keeps room cursor s h.1,
      advance_keeps (Advance.keeps_within known) room cursor s h.2⟩

def Beside {π' σ' : Type} (R : π → σ → π' → σ' → Prop) (cursor : Cursor π) (s : σ)
    (cursor' : Cursor π') (s' : σ') : Prop :=
  cursor.buffer = cursor'.buffer ∧ R cursor.pages s cursor'.pages s'

/-- Cursors over walks that answer alike answer alike. -/
theorem mirrors {π' σ' : Type} {R : π → σ → π' → σ' → Prop} {more' : Advance π' σ' Payload}
    (alike : more.Mirrors R more') (room : Nat) :
    (advance more room).Mirrors (Beside R) (advance more' room) := by
  induction room with
  | zero =>
    rintro ⟨_ | ⟨item, rest⟩, p⟩ s ⟨buffer, p'⟩ s' ⟨rfl, h⟩ <;> exact ⟨rfl, rfl, h⟩
  | succ room ih =>
    rintro ⟨_ | ⟨item, rest⟩, p⟩ s ⟨buffer, p'⟩ s' ⟨rfl, h⟩
    · obtain ⟨same, related⟩ := alike h
      rw [advance, advance]
      generalize more p s = step at same related ⊢
      generalize more' p' s' = step' at same related ⊢
      obtain ⟨a, p, s⟩ := step
      obtain ⟨a', p', s'⟩ := step'
      obtain rfl : a = a' := same
      cases a with
      | pending => exact ⟨rfl, rfl, related⟩
      | result r =>
        cases r with
        | ok page => exact @ih ⟨page.items, p⟩ s ⟨page.items, p'⟩ s' ⟨rfl, related⟩
        | error e => exact ⟨rfl, rfl, related⟩
      | finished => exact ⟨rfl, rfl, related⟩
    · exact ⟨rfl, rfl, h⟩

end Cursor

end OData
