import Mathlib.Data.List.TakeWhile
import OData.Calendar.Moment
import OData.Calendar.Timestamp
import OData.Proofs.Calendar.Days
import OData.Proofs.Text.Digits

/-!
# Timestamps that are written read back

Each part of a written date or moment is read back by the reader of that part, whatever follows
it: a padded number by the readers of digits, a year of any number of digits with its sign, a
fraction of any number of digits. So the text of every date of the calendar, and of every moment in
the years 0 to 9999, is recognised as a timestamp (`recognises_date`, `recognises_moment`).
-/

namespace OData

open Text

/-! ## Padded numbers -/

namespace Text

theorem isDigit_padded (width n : Nat) : ∀ c ∈ padded width n, c.isDigit := by
  intro c member
  rcases List.mem_append.1 member with zero | digit
  · rw [List.eq_of_mem_replicate zero]
    rfl
  · exact Nat.isDigit_of_mem_toDigits (by decide) (by decide) digit

theorem length_padded {width n : Nat} (some' : 0 < width) (fits : n < 10 ^ width) :
    (padded width n).length = width := by
  have short := (Nat.length_toDigits_le_iff (by decide) some').2 fits
  rw [padded, List.length_append, List.length_replicate, Nat.sub_add_cancel short]

theorem readDigits_padded (width n : Nat) : readDigits (padded width n) = n := by
  rw [padded, readDigits_zeros, readDigits_toDigits]

theorem exists_padded (width n : Nat) :
    ∃ c cs, padded width n = c :: cs ∧ c.isDigit := by
  have some' : padded width n ≠ [] := List.append_ne_nil_of_right_ne_nil _ Nat.toDigits_ne_nil
  obtain ⟨c, cs, split⟩ := List.exists_cons_of_ne_nil some'
  exact ⟨c, cs, split, isDigit_padded width n c (by rw [split]; exact .head cs)⟩

/-- A digit is not skipped as a blank. -/
theorem trimStart_of_isDigit {c : Char} (digit : c.isDigit) (cs : List Char) :
    trimStart (c :: cs) = c :: cs := by
  have low : 48 ≤ c.toNat := of_decide_eq_true (Bool.and_eq_true_iff.1 digit).1
  have high : c.toNat ≤ 57 := of_decide_eq_true (Bool.and_eq_true_iff.1 digit).2
  refine List.dropWhile_cons_of_neg ?_
  simp only [isBlank, Bool.or_eq_true, Bool.and_eq_true, decide_eq_true_eq, beq_iff_eq]
  omega

end Text

namespace Timestamp

/-! ## Parts -/

theorem takeWhile_digits {run rest : List Char} (all : ∀ c ∈ run, c.isDigit)
    (stop : ∀ c ∈ rest.head?, c.isDigit = false) :
    (run ++ rest).takeWhile Char.isDigit = run := by
  rw [List.takeWhile_append_of_pos all]
  cases rest with
  | nil => exact List.append_nil run
  | cons c cs => rw [List.takeWhile_cons_of_neg (by simp [stop c rfl]), List.append_nil]

/-- A run of digits is read as far as digits may go, or up to the first other character. -/
theorem digits_run {run rest : List Char} {least most : Nat} (all : ∀ c ∈ run, c.isDigit)
    (enough : least ≤ run.length) (within : run.length ≤ most)
    (stop : run.length = most ∨ ∀ c ∈ rest.head?, c.isDigit = false) :
    digits least most (run ++ rest) = some (readDigits run, rest) := by
  have taken : ((run ++ rest).take most).takeWhile Char.isDigit = run := by
    rw [List.take_append, List.take_of_length_le within]
    apply takeWhile_digits all
    rcases stop with full | stop
    · rw [full, Nat.sub_self]
      nofun
    · intro c head
      cases rest with
      | nil => rw [List.take_nil] at head; cases head
      | cons d ds =>
        cases rest' : most - run.length with
        | zero => rw [rest'] at head; cases head
        | succ k => rw [rest'] at head; exact stop c head
  simp only [digits, taken, enough, if_true, List.drop_left]

variable {width n : Nat} (rest : List Char)

theorem digits_padded (some' : 0 < width) (fits : n < 10 ^ width) :
    digits width width (padded width n ++ rest) = some (n, rest) := by
  have length := length_padded some' fits
  rw [digits_run (isDigit_padded width n) length.ge length.le (.inl length), readDigits_padded]

theorem number_padded (some' : 0 < width) (fits : n < 10 ^ width) :
    number width (padded width n ++ rest) = some (n, rest) := by
  have length := length_padded some' fits
  obtain ⟨c, cs, split, digit⟩ := exists_padded width n
  have plain : trimStart (padded width n ++ rest) = padded width n ++ rest := by
    rw [split]
    exact trimStart_of_isDigit digit _
  rw [number, plain, digits_run (isDigit_padded width n) (by omega) length.le (.inl length),
    readDigits_padded]

theorem literal_self (c : Char) (cs : List Char) : literal (· == c) (c :: cs) = some ((), cs) :=
  if_pos (beq_self_eq_true c)

/-- The digits of a year may be any number, up to the hyphen behind them. -/
theorem digits_year (n : Nat) (rest : List Char) (most : Nat)
    (within : (padded 4 n).length ≤ most) :
    digits 1 most (padded 4 n ++ '-' :: rest) = some (n, '-' :: rest) := by
  obtain ⟨c, cs, split, -⟩ := exists_padded 4 n
  have stop : ∀ c ∈ ('-' :: rest).head?, c.isDigit = false := by
    rintro c ⟨⟩
    rfl
  rw [digits_run (isDigit_padded 4 n) (by simp [split]) within (.inr stop), readDigits_padded]

/-- A year of four digits, and any other behind its sign. -/
theorem year_yearText (y : Int) (rest : List Char) :
    year (Date.yearText y ++ '-' :: rest) = some (y, '-' :: rest) := by
  unfold Date.yearText
  split
  · next plain =>
    have four : (padded 4 y.toNat).length = 4 := length_padded (by decide) (by omega)
    have read := digits_year y.toNat rest 4 four.le
    have value : (y.toNat : Int) = y := by omega
    obtain ⟨c, cs, split, digit⟩ := exists_padded 4 y.toNat
    rw [split, List.cons_append] at read
    rw [split, List.cons_append, year, trimStart_of_isDigit digit]
    split
    · next minus => cases minus; cases digit
    · next plus => cases plus; cases digit
    · rw [read]
      exact congrArg (fun y => some (y, '-' :: rest)) value
  · next signed =>
    have read := digits_year y.natAbs rest (padded 4 y.natAbs ++ '-' :: rest).length (by simp)
    by_cases positive : 0 ≤ y
    · have plus : year ('+' :: (padded 4 y.natAbs ++ '-' :: rest)) =
          (digits 1 (padded 4 y.natAbs ++ '-' :: rest).length
            (padded 4 y.natAbs ++ '-' :: rest)).map fun read => ((read.1 : Int), read.2) := rfl
      have value : (y.natAbs : Int) = y := by omega
      rw [if_pos positive, List.cons_append, plus, read]
      exact congrArg (fun y => some (y, '-' :: rest)) value
    · have minus : year ('-' :: (padded 4 y.natAbs ++ '-' :: rest)) =
          (digits 1 (padded 4 y.natAbs ++ '-' :: rest).length
            (padded 4 y.natAbs ++ '-' :: rest)).map fun read => (-(read.1 : Int), read.2) := rfl
      have value : -(y.natAbs : Int) = y := by omega
      rw [if_neg positive, List.cons_append, minus, read]
      exact congrArg (fun y => some (y, '-' :: rest)) value

/-! ## Dates -/

/-- A written date is read back, whatever follows. -/
theorem date_chars {d : Date} (valid : d.isValid) (rest : List Char) :
    date (d.chars ++ rest) = some (d, rest) := by
  obtain ⟨month, day⟩ := Date.bounds_of_isValid valid
  simp only [Date.chars, List.append_assoc, List.cons_append, date, year_yearText, literal_self,
    number_padded _ (show 0 < 2 by decide) (show d.month < 10 ^ 2 by omega),
    number_padded _ (show 0 < 2 by decide) (show d.day < 10 ^ 2 by omega), bind, Option.bind, pure]

theorem recognises_date {d : Date} (h : isDate d) : recognises d.chars := by
  have valid := (Bool.and_eq_true_iff.1 h).2
  have read := date_chars valid []
  rw [List.append_nil] at read
  simp [recognises, readsAsDate, read, h]

/-! ## Moments -/

/-- A fraction has as many digits as it needs, and all of them are taken. -/
theorem fraction_zone (nanos : Nat) (rest : List Char) :
    fraction (Moment.fraction nanos ++ 'Z' :: rest) = some ((), 'Z' :: rest) := by
  have point (width n : Nat) :
      fraction ('.' :: padded width n ++ 'Z' :: rest) = some ((), 'Z' :: rest) := by
    obtain ⟨c, cs, split, -⟩ := exists_padded width n
    have left : (padded width n ++ 'Z' :: rest).dropWhile Char.isDigit = 'Z' :: rest :=
      List.dropWhile_append_of_pos (isDigit_padded width n)
    have shorter : ('Z' :: rest).length < (padded width n ++ 'Z' :: rest).length := by
      simp only [split, List.cons_append, List.length_cons, List.length_append]
      omega
    simp only [List.cons_append, fraction, left]
    rw [if_pos shorter]
  unfold Moment.fraction
  split
  · rfl
  split
  · exact point _ _
  split
  · exact point _ _
  · exact point _ _

/-- A written date and time is read back, with its fraction and zone. -/
theorem instant_chars {d : Date} (valid : d.isValid) (low : 0 ≤ d.year) (high : d.year ≤ 9999)
    {hour minute second : Nat} (hours : hour < 24) (minutes : minute < 60) (seconds : second ≤ 60)
    (nanos : Nat) :
    readsAsInstant.read (d.chars ++ 'T' :: padded 2 hour ++ ':' :: padded 2 minute ++
      ':' :: padded 2 second ++ Moment.fraction nanos ++ ['Z']) =
        some ((d, hour, minute, second), []) := by
  obtain ⟨month, day⟩ := Date.bounds_of_isValid valid
  have two {n : Nat} (fits : n < 100) (rest : List Char) :
      digits 2 2 (padded 2 n ++ rest) = some (n, rest) := digits_padded rest (by decide) fits
  have four (rest : List Char) :
      digits 4 4 (padded 4 d.year.toNat ++ rest) = some (d.year.toNat, rest) :=
    digits_padded rest (by decide) (by omega)
  have year : (d.year.toNat : Int) = d.year := by omega
  have separator (cs : List Char) :
      literal (fun c => c == 'T' || c == 't' || c == ' ') ('T' :: cs) = some ((), cs) := rfl
  simp only [Date.chars, Date.yearText, low, high, and_self, if_true, List.append_assoc,
    List.cons_append, readsAsInstant.read, bind, Option.bind, four, literal_self,
    two (show d.month < 100 by omega), two (show d.day < 100 by omega), separator,
    two (show hour < 100 by omega), two (show minute < 100 by omega),
    two (show second < 100 by omega), fraction_zone, offset, pure, year]

theorem isTimeOfDay_of_lt {hour minute second : Nat} (hours : hour < 24) (minutes : minute < 60)
    (seconds : second ≤ 60) : isTimeOfDay hour minute second := by
  simp only [isTimeOfDay, Bool.and_eq_true, decide_eq_true_eq]
  omega

/-- A moment of the years 0 to 9999 is read with its offset. -/
theorem recognises_moment {m : Moment} (low : 0 ≤ m.date.year) (high : m.date.year ≤ 9999) :
    recognises m.chars := by
  have valid : m.date.isValid := Date.isValid_ofDay _
  have inRange : Date.yearInRange m.date.year := by
    simp only [Date.yearInRange, Bool.and_eq_true, decide_eq_true_eq]
    omega
  have ofDay : m.secondOfDay < 86400 := by unfold Moment.secondOfDay; omega
  have hours : m.secondOfDay / 3600 < 24 := by omega
  have minutes : m.secondOfDay / 60 % 60 < 60 := by omega
  have seconds : (if Moment.nanosPerSecond ≤ m.nanos then m.secondOfDay % 60 + 1
      else m.secondOfDay % 60) ≤ 60 := by
    split <;> omega
  have read := instant_chars valid low high hours minutes seconds
    (if Moment.nanosPerSecond ≤ m.nanos then m.nanos - Moment.nanosPerSecond else m.nanos)
  have instant : readsAsInstant m.chars := by
    rw [Moment.chars, readsAsInstant, read]
    exact Bool.and_eq_true_iff.2 ⟨Bool.and_eq_true_iff.2 ⟨inRange, valid⟩,
      isTimeOfDay_of_lt hours minutes seconds⟩
  simp [recognises, instant]

end Timestamp
end OData
