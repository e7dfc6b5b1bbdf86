import Mathlib.Data.List.TakeWhile
import OData.Proofs.Json.Embedded
import OData.Proofs.Text.Boundary

/-!
# Balanced braces in any text

Whatever a text holds, the scanner of braces finds the shortest part from the first opening brace
on that has as many closing as opening braces outside literals, and nothing if there is no such
part (`firstObject_exact`). Which braces are outside literals is said without the scanner
(`unquoted`). The same scan over the bytes of the text, with a check in front of everything that
can fail (`Checked.firstObject?`), never fails: a closing brace that counts always meets an open
one, and no character is cut.
-/

namespace OData.Json.Embedded

open Text.Utf8

/-! ## Braces that count -/

mutual

/-- A text without its literals; a quote opens one. -/
def unquoted : List Char → List Char
  | [] => []
  | c :: cs => if c = '"' then behindQuote cs else c :: unquoted cs

def behindQuote : List Char → List Char
  | [] => []
  | c :: cs =>
    if c = '\\' then behindBackslash cs else if c = '"' then unquoted cs else behindQuote cs

def behindBackslash : List Char → List Char
  | [] => []
  | _ :: cs => behindQuote cs

end

def IsEven (p : List Char) : Prop := (unquoted p).count '\x7b' = (unquoted p).count '\x7d'

/-- A leading part, not empty and even, of what starts at the first opening brace of a text. -/
def IsCandidate (raw p : List Char) : Prop :=
  ∃ before rest, raw = before ++ '\x7b' :: rest ∧ '\x7b' ∉ before ∧
    p ≠ [] ∧ p <+: '\x7b' :: rest ∧ IsEven p

/-! ## What the scanner counts -/

namespace Scan

variable {s : Scan} {c : Char} {cs p : List Char}

def Proper (s : Scan) : Prop := s.hidden = true → s.inLiteral = true

/-- A text without its literals, when the scanner is at its start. -/
def outside (s : Scan) (cs : List Char) : List Char :=
  if s.inLiteral then if s.hidden then behindBackslash cs else behindQuote cs else unquoted cs

def ClosedBy (s : Scan) (p : List Char) : Prop :=
  s.depth + (s.outside p).count '\x7b' = (s.outside p).count '\x7d'

theorem proper_step (proper : s.Proper) (c : Char) : (s.step c).Proper := by
  unfold Proper step at *
  grind

theorem step_depth_pos (opened : 0 < s.depth) (on : ¬s.closes c = true) :
    0 < (s.step c).depth :=
  Nat.pos_of_ne_zero fun none => on ((closes_iff opened).2 none)

theorem outside_nil (s : Scan) : s.outside [] = [] := by
  unfold outside
  split
  · split <;> rfl
  · rfl

theorem not_closedBy_nil (opened : 0 < s.depth) : ¬s.ClosedBy [] := by
  rw [ClosedBy, outside_nil, List.count_nil, List.count_nil]
  omega

theorem closes_eq_true (h : s.closes c = true) :
    s.inLiteral = false ∧ c = '\x7d' ∧ s.depth = 1 := by
  simpa [closes, and_assoc] using h

theorem closedBy_singleton (h : s.closes c = true) : s.ClosedBy [c] := by
  obtain ⟨plain, rfl, one⟩ := closes_eq_true h
  simp [ClosedBy, outside, plain, one, unquoted]

/-- A character that does not close the last open brace is counted by the step that it makes. -/
theorem closedBy_cons (opened : 0 < s.depth) (proper : s.Proper) (p : List Char) :
    s.ClosedBy (c :: p) ↔ (s.step c).ClosedBy p := by
  obtain ⟨depth, inLiteral, hidden⟩ := s
  cases inLiteral with
  | true =>
    cases hidden with
    | true => simp [ClosedBy, outside, step, behindBackslash]
    | false =>
      by_cases backslash : c = '\\'
      · simp [ClosedBy, outside, step, behindQuote, backslash]
      by_cases quote : c = '"'
      · simp [ClosedBy, outside, step, behindQuote, quote]
      · simp [ClosedBy, outside, step, behindQuote, backslash, quote]
  | false =>
    obtain rfl : hidden = false := by simpa [Proper] using proper
    by_cases quote : c = '"'
    · simp [ClosedBy, outside, step, unquoted, quote]
    by_cases opens : c = '\x7b'
    · simp only [ClosedBy, outside, step, unquoted, opens]
      grind
    by_cases closes : c = '\x7d'
    · simp only [ClosedBy, outside, step, unquoted, closes]
      grind
    · simp [ClosedBy, outside, step, unquoted, quote, opens, closes]

end Scan

/-! ## What the scanner finds -/

variable {s : Scan} {c : Char} {cs p raw : List Char}

theorem exists_cons_of_closedBy (opened : 0 < s.depth) (leads : p <+: c :: cs)
    (closed : s.ClosedBy p) : ∃ p', p = c :: p' ∧ p' <+: cs := by
  rcases List.prefix_cons_iff.1 leads with rfl | h
  · exact absurd closed (Scan.not_closedBy_nil opened)
  · exact h

/-- From within an object the scanner stops as soon as no brace is open, and only there. -/
theorem balanced?_eq_some_iff (opened : 0 < s.depth) (proper : s.Proper) :
    balanced? s cs = some p ↔
      p <+: cs ∧ s.ClosedBy p ∧ ∀ q, q <+: cs → s.ClosedBy q → p <+: q := by
  induction cs generalizing s p with
  | nil =>
    constructor
    · intro h; cases h
    · rintro ⟨leads, closed, -⟩
      rw [List.prefix_nil.1 leads] at closed
      exact absurd closed (Scan.not_closedBy_nil opened)
  | cons c cs ih =>
    rw [balanced?]
    split
    · next closes =>
      have closed := Scan.closedBy_singleton closes
      rw [Option.some.injEq]
      constructor
      · rintro rfl
        refine ⟨by simp, closed, fun q leads closed' => ?_⟩
        obtain ⟨q', rfl, -⟩ := exists_cons_of_closedBy opened leads closed'
        simp
      · rintro ⟨leads, closed', least⟩
        obtain ⟨p', rfl, -⟩ := exists_cons_of_closedBy opened leads closed'
        simpa using least [c] (by simp) closed
    · next on =>
      have opened' := Scan.step_depth_pos opened on
      have step (q : List Char) := Scan.closedBy_cons (c := c) opened proper q
      have found {p' : List Char} := ih (p := p') opened' (Scan.proper_step proper c)
      rw [Option.map_eq_some_iff]
      constructor
      · rintro ⟨p', inner, rfl⟩
        obtain ⟨leads, closed, least⟩ := found.1 inner
        refine ⟨by simpa using leads, (step p').2 closed, fun q leads' closed' => ?_⟩
        obtain ⟨q', rfl, inner⟩ := exists_cons_of_closedBy opened leads' closed'
        simpa using least q' inner ((step q').1 closed')
      · rintro ⟨leads, closed, least⟩
        obtain ⟨p', rfl, inner⟩ := exists_cons_of_closedBy opened leads closed
        refine ⟨p', found.2 ⟨inner, (step p').1 closed, fun q leads' closed' => ?_⟩, rfl⟩
        simpa using least (c :: q) (by simpa using leads') ((step q).2 closed')

theorem isSome_balanced? (opened : 0 < s.depth) (proper : s.Proper) (leads : p <+: cs)
    (closed : s.ClosedBy p) : (balanced? s cs).isSome := by
  induction cs generalizing s p with
  | nil =>
    rw [List.prefix_nil.1 leads] at closed
    exact absurd closed (Scan.not_closedBy_nil opened)
  | cons c cs ih =>
    rw [balanced?]
    split
    · rfl
    · next on =>
      obtain ⟨p', rfl, inner⟩ := exists_cons_of_closedBy opened leads closed
      rw [Option.isSome_map]
      exact ih (Scan.step_depth_pos opened on) (Scan.proper_step proper c)
        inner ((Scan.closedBy_cons opened proper p').1 closed)

/-! ## From the first opening brace on -/

def Scan.within : Scan := ⟨1, false, false⟩

theorem Scan.proper_within : Scan.within.Proper := fun h => by cases h

theorem balanced?_within_iff :
    balanced? .within cs = some p ↔ p <+: cs ∧ Scan.within.ClosedBy p ∧
      ∀ q, q <+: cs → Scan.within.ClosedBy q → p <+: q :=
  balanced?_eq_some_iff Nat.one_pos Scan.proper_within

theorem isEven_cons_iff : IsEven ('\x7b' :: p) ↔ Scan.within.ClosedBy p := by
  simp [IsEven, Scan.ClosedBy, Scan.outside, Scan.within, unquoted, Nat.add_comm]

theorem skipped_of_no_brace (h : '\x7b' ∉ cs) : ∀ c ∈ cs, (c != '\x7b') = true :=
  fun _ member => bne_iff_ne.2 fun brace => h (brace ▸ member)

section Split

variable {before rest : List Char}

theorem dropWhile_front (front : '\x7b' ∉ before) :
    (before ++ '\x7b' :: rest).dropWhile (· != '\x7b') = '\x7b' :: rest := by
  rw [List.dropWhile_append_of_pos (skipped_of_no_brace front)]
  rfl

theorem takeWhile_front (front : '\x7b' ∉ before) :
    (before ++ '\x7b' :: rest).takeWhile (· != '\x7b') = before := by
  rw [List.takeWhile_append_of_pos (skipped_of_no_brace front)]
  exact List.append_nil before

theorem firstObject?_front (front : '\x7b' ∉ before) :
    firstObject? (before ++ '\x7b' :: rest) = (balanced? .within rest).map ('\x7b' :: ·) := by
  rw [firstObject?, dropWhile_front front]
  rfl

theorem isCandidate_front (front : '\x7b' ∉ before) :
    IsCandidate (before ++ '\x7b' :: rest) p ↔
      ∃ p', p = '\x7b' :: p' ∧ p' <+: rest ∧ Scan.within.ClosedBy p' := by
  constructor
  · rintro ⟨before', rest', split, front', some', leads, even⟩
    have same := congrArg (List.dropWhile (· != '\x7b')) split
    rw [dropWhile_front front, dropWhile_front front'] at same
    rw [← same] at leads
    obtain rfl | ⟨p', rfl, inner⟩ := List.prefix_cons_iff.1 leads
    · exact absurd rfl some'
    · exact ⟨p', rfl, inner, isEven_cons_iff.1 even⟩
  · rintro ⟨p', rfl, inner, closed⟩
    exact ⟨before, rest, rfl, front, by simp, by simpa using inner, isEven_cons_iff.2 closed⟩

end Split

theorem firstObject?_of_no_brace (h : '\x7b' ∉ raw) : firstObject? raw = none := by
  have nothing : raw.dropWhile (· != '\x7b') = [] :=
    List.dropWhile_eq_nil_iff.2 (skipped_of_no_brace h)
  rw [firstObject?, nothing]
  rfl

theorem not_isCandidate_of_no_brace (h : '\x7b' ∉ raw) : ¬IsCandidate raw p := by
  rintro ⟨before, rest, rfl, -⟩
  simp at h

/-- The object found is the candidate that leads all others. -/
theorem firstObject?_eq_some_iff :
    firstObject? raw = some p ↔ IsCandidate raw p ∧ ∀ q, IsCandidate raw q → p <+: q := by
  by_cases brace : '\x7b' ∈ raw
  · obtain ⟨before, rest, rfl, front⟩ := List.eq_append_cons_of_mem brace
    simp only [isCandidate_front front, firstObject?_front front, Option.map_eq_some_iff]
    constructor
    · rintro ⟨p', found, rfl⟩
      obtain ⟨leads, closed, least⟩ := balanced?_within_iff.1 found
      refine ⟨⟨p', rfl, leads, closed⟩, ?_⟩
      rintro q ⟨q', rfl, leads', closed'⟩
      simpa using least q' leads' closed'
    · rintro ⟨⟨p', rfl, leads, closed⟩, least⟩
      refine ⟨p', balanced?_within_iff.2 ⟨leads, closed, ?_⟩, rfl⟩
      intro q leads' closed'
      simpa using least ('\x7b' :: q) ⟨q, rfl, leads', closed'⟩
  · rw [firstObject?_of_no_brace brace]
    constructor
    · intro h; cases h
    · rintro ⟨candidate, -⟩
      exact absurd candidate (not_isCandidate_of_no_brace brace)

theorem isSome_firstObject?_iff : (firstObject? raw).isSome ↔ ∃ p, IsCandidate raw p := by
  constructor
  · intro found
    obtain ⟨p, found⟩ := Option.isSome_iff_exists.1 found
    exact ⟨p, (firstObject?_eq_some_iff.1 found).1⟩
  · rintro ⟨p, candidate⟩
    obtain ⟨before, rest, rfl, front, -⟩ := id candidate
    obtain ⟨p', -, leads, closed⟩ := (isCandidate_front front).1 candidate
    rw [firstObject?_front front, Option.isSome_map]
    exact isSome_balanced? Nat.one_pos Scan.proper_within leads closed

/-! ## The scan of bytes -/

namespace Checked

inductive Fault where
  /-- A closing brace is met while none is open. -/
  | depthBelowZero
  /-- A text is cut within a character or past its end. -/
  | cutCharacter
  deriving DecidableEq, Repr

/-- A step of the scanner that counts down only from above zero. -/
def step (s : Scan) (c : Char) : Except Fault Scan :=
  if s.inLiteral = false ∧ c = '\x7d' ∧ s.depth = 0 then .error .depthBelowZero
  else .ok (s.step c)

def closingOffset (s : Scan) (offset : Nat) : List Char → Except Fault (Option Nat)
  | [] => .ok none
  | c :: cs => do
    let t ← step s c
    if s.inLiteral = false ∧ c = '\x7d' ∧ t.depth = 0 then return some offset
    closingOffset t (offset + c.utf8Size) cs

def slice (bs : List UInt8) (start stop : Nat) : Except Fault (List UInt8) :=
  if start ≤ stop ∧ isBoundary bs start ∧ isBoundary bs stop then
    .ok ((bs.take stop).drop start)
  else .error .cutCharacter

/-- The first object of a text as bytes. -/
def firstObject? (raw : List Char) : Except Fault (Option (List UInt8)) :=
  if '\x7b' ∈ raw then do
    let bytes := encode raw
    let start := (encode (raw.takeWhile (· != '\x7b'))).length
    let rest ← slice bytes start bytes.length
    match ← closingOffset .start 0 (decode rest) with
    | none => return none
    | some offset => some <$> slice bytes start (start + offset + 1)
  else return none

theorem step_eq (opened : 0 < s.depth) (c : Char) : step s c = .ok (s.step c) :=
  if_neg fun h => Nat.ne_of_gt opened h.2.2

theorem closingOffset_eq (opened : 0 < s.depth) (offset : Nat) (cs : List Char) :
    closingOffset s offset cs =
      .ok ((balanced? s cs).map fun p => offset + (encode p).length - 1) := by
  induction cs generalizing s offset with
  | nil => rfl
  | cons c cs ih =>
    rw [closingOffset, step_eq opened, balanced?]
    dsimp only [bind, Except.bind]
    by_cases closes : s.closes c = true
    · obtain ⟨plain, rfl, -⟩ := Scan.closes_eq_true closes
      rw [if_pos ⟨plain, rfl, (Scan.closes_iff opened).1 closes⟩, if_pos closes]
      rfl
    · have opened' := Scan.step_depth_pos opened closes
      rw [if_neg fun h => Nat.ne_of_gt opened' h.2.2, if_neg closes, ih opened', Option.map_map]
      congr 2
      funext p
      rw [Function.comp_apply, length_encode_cons, Nat.add_assoc]

/-- A part of a text in front of the rest is cut out between boundaries. -/
theorem slice_middle (front middle back : List Char) :
    slice (encode (front ++ middle ++ back)) (encode front).length
      ((encode front).length + (encode middle).length) = .ok (encode middle) := by
  have stop : (encode (front ++ middle)).length =
      (encode front).length + (encode middle).length := by
    rw [encode_append, List.length_append]
  rw [slice, if_pos]
  · rw [← stop, encode_append (front ++ middle), List.take_left, encode_append, List.drop_left]
  · refine ⟨Nat.le_add_right _ _, (isBoundary_iff _ _).2 ⟨front, ?_, rfl⟩,
      (isBoundary_iff _ _).2 ⟨front ++ middle, List.prefix_append _ _, stop⟩⟩
    rw [List.append_assoc]
    exact List.prefix_append _ _

theorem closingOffset_start (rest : List Char) :
    closingOffset .start 0 ('\x7b' :: rest) = closingOffset .within 1 rest := rfl

/-- Nothing goes wrong, and the bytes are those of the first object. -/
theorem firstObject?_eq (raw : List Char) :
    firstObject? raw = .ok ((Embedded.firstObject? raw).map encode) := by
  unfold firstObject?
  split
  · next brace =>
    obtain ⟨before, rest, rfl, front⟩ := List.eq_append_cons_of_mem brace
    have tail : slice (encode (before ++ '\x7b' :: rest)) (encode before).length
        (encode (before ++ '\x7b' :: rest)).length = .ok (encode ('\x7b' :: rest)) := by
      have whole := slice_middle before ('\x7b' :: rest) []
      rwa [List.append_nil, ← List.length_append, ← encode_append] at whole
    dsimp only
    rw [takeWhile_front front, tail, firstObject?_front front]
    dsimp only [bind, Except.bind]
    rw [decode_encode, closingOffset_start, closingOffset_eq Nat.one_pos]
    cases found : balanced? .within rest with
    | none => rfl
    | some p =>
      obtain ⟨⟨back, rfl⟩, -⟩ := balanced?_within_iff.1 found
      have object := slice_middle before ('\x7b' :: p) back
      have size : (encode before).length + (1 + (encode p).length - 1) + 1 =
          (encode before).length + (encode ('\x7b' :: p)).length := by
        rw [length_encode_cons, show Char.utf8Size '\x7b' = 1 from rfl]
        omega
      rw [List.append_assoc, List.cons_append, ← size] at object
      dsimp only [Option.map]
      rw [object]
      rfl
  · next none => rw [firstObject?_of_no_brace none]; rfl

end Checked

/-! ## Exactness -/

/-- The first object of a text is its shortest candidate, and there is one if there is any
candidate. Going over the bytes, the count of open braces never falls below zero and no character
is cut. -/
theorem firstObject_exact (raw : List Char) :
    (∀ object, firstObject? raw = some object ↔
      IsCandidate raw object ∧ ∀ p, IsCandidate raw p → object.length ≤ p.length) ∧
    ((firstObject? raw).isSome ↔ ∃ p, IsCandidate raw p) ∧
    Checked.firstObject? raw = .ok ((firstObject? raw).map encode) := by
  refine ⟨fun object => ?_, isSome_firstObject?_iff, Checked.firstObject?_eq raw⟩
  constructor
  · intro found
    obtain ⟨candidate, least⟩ := firstObject?_eq_some_iff.1 found
    exact ⟨candidate, fun p candidate' => (least p candidate').length_le⟩
  · rintro ⟨candidate, shortest⟩
    obtain ⟨first, found⟩ := Option.isSome_iff_exists.1
      (isSome_firstObject?_iff.2 ⟨object, candidate⟩)
    obtain ⟨candidate', least⟩ := firstObject?_eq_some_iff.1 found
    rw [found, (least object candidate).eq_of_length_le (shortest first candidate')]

/-- Behind a character of two bytes; the brace in the key and the hidden quote do not count. -/
example : firstObject? "\u00e9\x7b\"\x7d\\\"\": 1\x7d \x7d".toList =
    some "\x7b\"\x7d\\\"\": 1\x7d".toList := by
  decide

end OData.Json.Embedded
