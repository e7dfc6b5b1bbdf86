import Mathlib.Data.List.TakeWhile
import Mathlib.Data.Option.Basic
import OData.Calendar.Timestamp

/-!
# The alphabet of timestamps

What a timestamp reader takes off the front of a text are digits, signs, points,
colons, the letters of the formats and blanks (`Stamp`). A recognised text therefore
consists of such characters alone; blanks are the only ones that could separate.
-/

namespace OData.Timestamp

open Text

/-- The characters of timestamps; blanks may precede a number. -/
def isStampChar (c : Char) : Bool := c.isDigit || "+-.:TtZz\u2212".toList.contains c || isBlank c

def Stamp (cs : List Char) : Prop := ∀ c ∈ cs, isStampChar c

def Keeps {α : Type} (r : Reader α) : Prop :=
  ∀ {cs a rest}, r cs = some (a, rest) → Stamp rest → Stamp cs

theorem isStampChar_of_isDigit {c : Char} (h : c.isDigit) : isStampChar c := by
  simp [isStampChar, h]

theorem isStampChar_of_isBlank {c : Char} (h : isBlank c) : isStampChar c := by
  simp [isStampChar, h]

theorem Stamp.cons {c : Char} {cs : List Char} (h : isStampChar c) (hs : Stamp cs) :
    Stamp (c :: cs) := List.forall_mem_cons.2 ⟨h, hs⟩

/-- Characters that are skipped are no obstacle if all of them are of the alphabet. -/
theorem Stamp.of_dropWhile {p : Char → Bool} (hp : ∀ c, p c → isStampChar c) {cs : List Char}
    (h : Stamp (cs.dropWhile p)) : Stamp cs := by
  rw [← List.takeWhile_append_dropWhile (p := p) (l := cs)]
  exact List.forall_mem_append.2 ⟨fun c hc => hp c (List.mem_takeWhile_imp hc), h⟩

/-! ## Parts -/

theorem keeps_literal {p : Char → Bool} (hp : ∀ c, p c → isStampChar c) : Keeps (literal p) := by
  intro cs a rest h hs
  cases cs with
  | nil => simp [literal] at h
  | cons c cs =>
    simp only [literal, Option.ite_none_right_eq_some, Option.some.injEq, Prod.mk.injEq] at h
    obtain ⟨hc, -, rfl⟩ := h
    exact .cons (hp c hc) hs

theorem keeps_char {x : Char} (hx : isStampChar x) : Keeps (literal (· == x)) :=
  keeps_literal fun c hc => by rw [eq_of_beq hc]; exact hx

theorem keeps_digits (least most : Nat) : Keeps (digits least most) := by
  intro cs a rest h hs
  simp only [digits, Option.ite_none_right_eq_some, Option.some.injEq, Prod.mk.injEq] at h
  obtain ⟨-, -, rfl⟩ := h
  have run : (cs.take most).takeWhile Char.isDigit <+: cs :=
    (List.takeWhile_prefix _).trans (List.take_prefix most cs)
  rw [← List.take_append_drop ((cs.take most).takeWhile Char.isDigit).length cs,
    ← List.prefix_iff_eq_take.1 run]
  exact List.forall_mem_append.2
    ⟨fun c hc => isStampChar_of_isDigit (List.mem_takeWhile_imp hc), hs⟩

theorem Stamp.of_trimStart {cs : List Char} (h : Stamp (trimStart cs)) : Stamp cs :=
  .of_dropWhile (fun _ => isStampChar_of_isBlank) h

theorem keeps_number (most : Nat) : Keeps (number most) := fun h hs =>
  .of_trimStart (keeps_digits 1 most h hs)

theorem keeps_year : Keeps year := by
  intro cs a rest h hs
  apply Stamp.of_trimStart
  unfold year at h
  split at h <;> simp only [Option.map_eq_some_iff, Prod.exists, Prod.mk.injEq] at h <;>
    obtain ⟨n, rest', hd, -, rfl⟩ := h
  · next cs' e => rw [e]; exact .cons (by decide) (keeps_digits _ _ hd hs)
  · next cs' e => rw [e]; exact .cons (by decide) (keeps_digits _ _ hd hs)
  · exact keeps_digits _ _ hd hs

theorem keeps_fraction : Keeps fraction := by
  intro cs a rest h hs
  unfold fraction at h
  split at h
  · simp only [Option.ite_none_right_eq_some, Option.some.injEq, Prod.mk.injEq] at h
    obtain ⟨-, -, rfl⟩ := h
    exact .cons (by decide) (.of_dropWhile (fun _ => isStampChar_of_isDigit) hs)
  · obtain ⟨-, rfl⟩ := by simpa using h
    exact hs

theorem keeps_offset : Keeps offset := by
  intro cs a rest h hs
  unfold offset at h
  split at h
  · obtain ⟨-, rfl⟩ := by simpa using h
    exact .cons (by decide) hs
  · obtain ⟨-, rfl⟩ := by simpa using h
    exact .cons (by decide) hs
  · next sign cs' _ _ =>
    simp only [bind, Option.bind_eq_some_iff, Prod.exists, Option.guard_eq_some'] at h
    obtain ⟨_, hsign, _, r₁, h₁, _, r₂, h₂, _, r₃, h₃, _, -, h₄⟩ := h
    obtain ⟨-, rfl⟩ := by simpa [pure] using h₄
    refine .cons ?_ (keeps_digits _ _ h₁ (keeps_char (by decide) h₂ (keeps_digits _ _ h₃ hs)))
    rcases (by simpa using hsign : (sign = '+' ∨ sign = '-') ∨ sign = '\u2212') with
      (rfl | rfl) | rfl <;> decide
  · cases h

/-! ## The three forms -/

theorem keeps_date : Keeps date := by
  intro cs a rest h hs
  simp only [date, bind, Option.bind_eq_some_iff, Prod.exists] at h
  obtain ⟨_, r₁, h₁, _, r₂, h₂, _, r₃, h₃, _, r₄, h₄, _, r₅, h₅, h₆⟩ := h
  obtain ⟨-, rfl⟩ := by simpa [pure] using h₆
  exact keeps_year h₁ (keeps_char (by decide) h₂ (keeps_number 2 h₃
    (keeps_char (by decide) h₄ (keeps_number 2 h₅ hs))))

theorem keeps_local : Keeps readsAsLocal.read := by
  intro cs a rest h hs
  simp only [readsAsLocal.read, bind, Option.bind_eq_some_iff, Prod.exists] at h
  obtain ⟨_, r₁, h₁, _, r₂, h₂, _, r₃, h₃, _, r₄, h₄, _, r₅, h₅, _, r₆, h₆, _, r₇, h₇, _, r₈, h₈,
    h₉⟩ := h
  obtain ⟨-, rfl⟩ := by simpa [pure] using h₉
  exact keeps_date h₁ (keeps_char (by decide) h₂ (keeps_number 2 h₃ (keeps_char (by decide) h₄
    (keeps_number 2 h₅ (keeps_char (by decide) h₆ (keeps_number 2 h₇ (keeps_fraction h₈ hs)))))))

theorem keeps_instant : Keeps readsAsInstant.read := by
  intro cs a rest h hs
  simp only [readsAsInstant.read, bind, Option.bind_eq_some_iff, Prod.exists] at h
  obtain ⟨_, r₁, h₁, _, r₂, h₂, _, r₃, h₃, _, r₄, h₄, _, r₅, h₅, _, r₆, h₆, _, r₇, h₇, _, r₈, h₈,
    _, r₉, h₉, _, r₁₀, h₁₀, _, r₁₁, h₁₁, _, r₁₂, h₁₂, _, r₁₃, h₁₃, h₁₄⟩ := h
  obtain ⟨-, rfl⟩ := by simpa [pure] using h₁₄
  have separator : Keeps (literal fun c => c == 'T' || c == 't' || c == ' ') :=
    keeps_literal fun c hc => by
      rcases (by simpa using hc : (c = 'T' ∨ c = 't') ∨ c = ' ') with (rfl | rfl) | rfl <;> decide
  exact keeps_digits _ _ h₁ (keeps_char (by decide) h₂ (keeps_digits _ _ h₃
    (keeps_char (by decide) h₄ (keeps_digits _ _ h₅ (separator h₆ (keeps_digits _ _ h₇
    (keeps_char (by decide) h₈ (keeps_digits _ _ h₉ (keeps_char (by decide) h₁₀
    (keeps_digits _ _ h₁₁ (keeps_fraction h₁₂ (keeps_offset h₁₃ hs))))))))))))

/-- A text that a reader takes to its end consists of what the reader takes. -/
theorem Keeps.all {α : Type} {r : Reader α} (hr : Keeps r) {cs : List Char} {a : α}
    (h : r cs = some (a, [])) : Stamp cs := hr h fun _ h => by cases h

theorem stamp_of_recognises {cs : List Char} (h : recognises cs) : Stamp cs := by
  simp only [recognises, Bool.or_eq_true] at h
  rcases h with (h | h) | h
  · unfold readsAsInstant at h
    split at h
    · next e => exact keeps_instant.all e
    · cases h
  · unfold readsAsLocal at h
    split at h
    · next e => exact keeps_local.all e
    · cases h
  · unfold readsAsDate at h
    split at h
    · next e => exact keeps_date.all e
    · cases h

end OData.Timestamp
