import OData.Json.Embedded
import OData.Json.Reader

/-!
# Objects inside other text

The reader of JSON and the scanner of braces go over the same characters. What the scanner
holds can be told from the state of the reader (`State.scan`), and as long as the reader
goes on, each of its steps is one of the scanner (`step_leads`). So the scanner stops where
the reader has an object complete, whatever the strings of the object hold and however deep it
nests (`run_balanced`), and an object is found again in any text that has no brace in front
of it (`firstObject?_of_parseChars`).
-/

namespace OData.Json

def isObject : Json → Bool
  | .obj _ => true
  | _ => false

theorem Numeral.isObject_of_read? {cs : List Char} {v : Json} (h : Numeral.read? cs = some v) :
    v.isObject = false := by
  obtain ⟨p, -, value⟩ := Option.bind_eq_some_iff.1 h
  unfold Parts.value? at value
  split at value
  · cases value
    rfl
  · obtain ⟨x, -, rfl⟩ := Option.map_eq_some_iff.1 value
    rfl

namespace Embedded.Scan

variable {s : Scan} {c : Char}

def isNeutral (c : Char) : Bool := c != '"' && c != '\x7b' && c != '\x7d'

theorem step_neutral (outside : s.inLiteral = false) (h : isNeutral c) : s.step c = s := by
  simp only [isNeutral, Bool.and_eq_true, bne_iff_ne] at h
  simp [step, outside, h]

theorem step_inside {depth : Nat} (quote : c ≠ '"') (backslash : c ≠ '\\') :
    (⟨depth, true, false⟩ : Scan).step c = ⟨depth, true, false⟩ := by
  simp [step, quote, backslash]

/-- From inside an object, the number of open braces falls to zero only by the brace that closes
the last one. -/
theorem closes_iff (opened : 0 < s.depth) : s.closes c = true ↔ (s.step c).depth = 0 := by
  unfold closes step
  grind

end Embedded.Scan

namespace Reader

open Text
open Embedded (Scan)
open Embedded.Scan (isNeutral)

theorem neutral_of_isSpace {c : Char} (h : isSpace c) : isNeutral c := by
  simp only [isSpace, Bool.or_eq_true, beq_iff_eq] at h
  rcases h with ((rfl | rfl) | rfl) | rfl <;> decide

theorem neutral_of_isNumeralChar {c : Char} (h : isNumeralChar c) : isNeutral c := by
  simp only [isNeutral, Bool.and_eq_true, bne_iff_ne]
  refine ⟨⟨?_, ?_⟩, ?_⟩ <;> (rintro rfl; revert h; decide)

theorem neutral_of_isLower {c : Char} (h : c.isLower) : isNeutral c := by
  simp only [isNeutral, Bool.and_eq_true, bne_iff_ne]
  refine ⟨⟨?_, ?_⟩, ?_⟩ <;> (rintro rfl; revert h; decide)

def Frame.isObject : Frame → Bool
  | .obj .. => true
  | .arr _ => false

/-- What is open, the innermost first: an object or, if not, an array. -/
def opened (stack : List Frame) : List Bool := stack.map Frame.isObject

/-- Whether the next character means nothing to the scanner. -/
def Escape.hides : Escape → Bool
  | .letter _ => true
  | _ => false

def outside (stack : List Frame) : Scan := ⟨(opened stack).count true, false, false⟩

namespace State

/-- What the scanner of braces holds where the reader is in a state. -/
def scan (s : State) : Scan :=
  match s.mode with
  | .string _ _ escape => ⟨(opened s.stack).count true, true, escape.hides⟩
  | _ => outside s.stack

/-- Whether the outermost value is an object, once it has begun. -/
def outermost (s : State) : Option Bool :=
  match s.mode with
  | .value _ | .key _ | .colon | .after => (opened s.stack).getLast?
  | .string .. | .numeral _ | .word .. => some ((opened s.stack).getLast?.getD false)
  | .done v => if s.stack.isEmpty then some v.isObject else none

/-- The letters that a word still needs are small ones, and it stands for no object. -/
def Worded (s : State) : Prop :=
  match s.mode with
  | .word rest v => rest.all Char.isLower ∧ v.isObject = false
  | _ => True

structure Begun (isObject : Bool) (s : State) : Prop where
  outermost : s.outermost = some isObject
  worded : s.Worded

end State

open State

variable {b : Bool} {c : Char} {stack : List Frame} {s t : State}

theorem scan_complete (v : Json) (stack : List Frame) :
    (complete v stack).scan = outside stack := by
  rcases stack with _ | ⟨_ | _, rest⟩ <;> rfl

@[simp] theorem opened_cons (frame : Frame) (stack : List Frame) :
    opened (frame :: stack) = frame.isObject :: opened stack := rfl

theorem begun_complete {v : Json} (h : (opened stack).getLast?.getD v.isObject = b) :
    (complete v stack).Begun b := by
  subst h
  refine ⟨?_, by rcases stack with _ | ⟨_ | _, rest⟩ <;> trivial⟩
  rcases stack with _ | ⟨_ | _, rest⟩
  · rfl
  · simp [complete, State.outermost, List.getLast?_cons, Frame.isObject]
  · simp [complete, State.outermost, List.getLast?_cons, Frame.isObject]

theorem closeFrame_leads (h : closeFrame c stack = some t)
    (last : (opened stack).getLast? = some b) :
    t.Begun b ∧ t.scan = (outside stack).step c := by
  rcases stack with _ | ⟨items | ⟨members, key⟩, rest⟩
  · cases h
  · obtain ⟨rfl, rfl⟩ : c = ']' ∧ complete (.arr items.reverse) rest = t := by
      simpa [closeFrame] using h
    rw [opened_cons, List.getLast?_cons, Option.some.injEq] at last
    exact ⟨begun_complete last, scan_complete _ _⟩
  · obtain ⟨rfl, rfl⟩ : c = '\x7d' ∧ complete (.obj members) rest = t := by
      simpa [closeFrame] using h
    rw [opened_cons, List.getLast?_cons, Option.some.injEq] at last
    refine ⟨begun_complete last, ?_⟩
    rw [scan_complete]
    simp [outside, Scan.step, Frame.isObject]

theorem openFrame_eq {frame : Frame} {mode : Mode} (h : openFrame stack frame mode = some t) :
    t = ⟨frame :: stack, mode⟩ := by
  unfold openFrame at h
  split at h
  · exact (Option.some.inj h).symm
  · cases h

/-- A value that begins is the outermost one if nothing is open. -/
theorem beginValue_leads (h : beginValue stack c = some t) :
    t.Begun ((opened stack).getLast?.getD (c == '\x7b')) ∧ t.scan = (outside stack).step c := by
  unfold beginValue at h
  split at h
  · next quote =>
    cases h
    subst quote
    exact ⟨⟨rfl, trivial⟩, rfl⟩
  split at h
  · next bracket =>
    subst bracket
    rw [openFrame_eq h]
    exact ⟨⟨List.getLast?_cons, trivial⟩, rfl⟩
  split at h
  · next brace =>
    subst brace
    rw [openFrame_eq h]
    exact ⟨⟨List.getLast?_cons, trivial⟩, by simp [State.scan, outside, Scan.step, Frame.isObject]⟩
  have plain {mode : Mode} (e : some ⟨stack, mode⟩ = some t) (neutral : isNeutral c)
      (begun : (⟨stack, mode⟩ : State).Begun ((opened stack).getLast?.getD false))
      (scan : (⟨stack, mode⟩ : State).scan = outside stack) :
      t.Begun ((opened stack).getLast?.getD (c == '\x7b')) ∧
        t.scan = (outside stack).step c := by
    cases e
    rw [Scan.step_neutral rfl neutral]
    rw [isNeutral, Bool.and_eq_true, Bool.and_eq_true, bne_iff_ne, bne_iff_ne] at neutral
    rw [beq_eq_false_iff_ne.2 neutral.1.2]
    exact ⟨begun, scan⟩
  split at h
  · next letter => exact plain h (by rw [letter]; rfl) ⟨rfl, rfl, rfl⟩ rfl
  split at h
  · next letter => exact plain h (by rw [letter]; rfl) ⟨rfl, rfl, rfl⟩ rfl
  split at h
  · next letter => exact plain h (by rw [letter]; rfl) ⟨rfl, rfl, rfl⟩ rfl
  split at h
  · next start =>
    refine plain h (neutral_of_isNumeralChar ?_) ⟨rfl, trivial⟩ rfl
    rcases start with rfl | digit
    · rfl
    · simp [isNumeralChar, digit]
  · cases h

/-- Whether no string, numeral or word is being read. -/
def Mode.isBetween : Mode → Bool
  | .string .. | .numeral _ | .word .. => false
  | _ => true

theorem tokenStep_leads {mode : Mode} (h : tokenStep stack mode c = some t)
    (between : mode.isBetween) (begun : (⟨stack, mode⟩ : State).Begun b) :
    t.Begun b ∧ t.scan = (outside stack).step c := by
  unfold tokenStep at h
  split at h
  · next blank =>
    cases h
    rw [Scan.step_neutral rfl (neutral_of_isSpace blank)]
    refine ⟨begun, ?_⟩
    cases mode <;> first | rfl | cases between
  have last := begun.outermost
  cases mode with
  | value close =>
    replace last : (opened stack).getLast? = some b := last
    dsimp only at h
    split at h
    · exact closeFrame_leads h last
    · have next := beginValue_leads h
      rwa [last] at next
  | key close =>
    replace last : (opened stack).getLast? = some b := last
    dsimp only at h
    split at h
    · exact closeFrame_leads h last
    split at h
    · next quote =>
      cases h
      subst quote
      exact ⟨⟨by simp [State.outermost, last], trivial⟩, rfl⟩
    · cases h
  | colon =>
    obtain ⟨rfl, rfl⟩ : c = ':' ∧ ⟨stack, .value false⟩ = t := by simpa using h
    exact ⟨⟨last, trivial⟩, rfl⟩
  | after =>
    replace last : (opened stack).getLast? = some b := last
    replace h : afterStep stack c = some t := h
    unfold afterStep at h
    split at h
    · next comma =>
      subst comma
      rcases stack with _ | ⟨_ | _, rest⟩
      · cases h
      · cases h
        exact ⟨⟨last, trivial⟩, rfl⟩
      · cases h
        exact ⟨⟨last, trivial⟩, rfl⟩
    · exact closeFrame_leads h last
  | _ => cases h

theorem isBetween_complete (v : Json) (stack : List Frame) :
    (complete v stack).mode.isBetween := by
  rcases stack with _ | ⟨_ | _, rest⟩ <;> rfl

theorem stack_complete (v : Json) (stack : List Frame) :
    opened (complete v stack).stack = opened stack := by
  rcases stack with _ | ⟨_ | _, rest⟩ <;> rfl

theorem plainStep_leads (h : plainStep s c = some t) (outer : s.Begun b)
    (unquoted : ∀ isKey text escape, s.mode ≠ .string isKey text escape) :
    t.Begun b ∧ t.scan = (outside s.stack).step c := by
  obtain ⟨stack, mode⟩ := s
  cases mode with
  | string isKey text escape => exact absurd rfl (unquoted isKey text escape)
  | numeral text =>
    unfold plainStep at h
    dsimp only at h
    split at h
    · next more =>
      cases h
      rw [Scan.step_neutral rfl (neutral_of_isNumeralChar more)]
      exact ⟨⟨outer.outermost, trivial⟩, rfl⟩
    split at h
    · cases h
    next v value =>
    have read : (complete v stack).Begun b := by
      apply begun_complete
      rw [Numeral.isObject_of_read? value]
      exact Option.some.inj outer.outermost
    have next := tokenStep_leads h (isBetween_complete v stack) read
    rwa [outside, stack_complete] at next
  | word rest v =>
    obtain ⟨lower, plain⟩ : rest.all Char.isLower ∧ v.isObject = false := outer.worded
    rcases rest with _ | ⟨d, _ | ⟨d', rest⟩⟩
    · cases h
    · obtain ⟨rfl, rfl⟩ : c = d ∧ complete v stack = t := by simpa [plainStep] using h
      have small : c.isLower := List.all_eq_true.1 lower c (.head [])
      rw [Scan.step_neutral rfl (neutral_of_isLower small)]
      refine ⟨begun_complete ?_, scan_complete v stack⟩
      rw [plain]
      exact Option.some.inj outer.outermost
    · obtain ⟨rfl, rfl⟩ : c = d ∧ (⟨stack, .word (d' :: rest) v⟩ : State) = t := by
        simpa [plainStep] using h
      obtain ⟨small, more⟩ : c.isLower ∧ (d' :: rest).all Char.isLower := by
        simpa only [List.all_cons, Bool.and_eq_true] using lower
      rw [Scan.step_neutral rfl (neutral_of_isLower small)]
      exact ⟨⟨outer.outermost, more, plain⟩, rfl⟩
  | value _ => exact tokenStep_leads h rfl outer
  | key _ => exact tokenStep_leads h rfl outer
  | colon => exact tokenStep_leads h rfl outer
  | after => exact tokenStep_leads h rfl outer
  | done _ => exact tokenStep_leads h rfl outer

theorem endString_leads {isKey : Bool} {text : List Char}
    (h : endString stack isKey text = some t) (last : (opened stack).getLast?.getD false = b) :
    t.Begun b ∧ t.scan = outside stack := by
  unfold endString at h
  cases isKey with
  | false =>
    cases h
    exact ⟨begun_complete last, scan_complete _ _⟩
  | true =>
    rcases stack with _ | ⟨_ | _, rest⟩
    · cases h
    · cases h
    · cases h
      rw [opened_cons, List.getLast?_cons] at last
      refine ⟨⟨?_, trivial⟩, rfl⟩
      exact List.getLast?_cons.trans (congrArg some last)

theorem hides_of_finishHex {text text' : List Char} {lead : Option Nat} {n : Nat}
    {escape : Escape} (h : finishHex text lead n = some (text', escape)) :
    escape.hides = false := by
  unfold finishHex at h
  split at h <;> split at h <;> try (split at h)
  all_goals first | (cases h; rfl) | cases h

theorem stringStep_leads {text text' : List Char} {escape escape' : Escape} {depth : Nat}
    (h : stringStep text escape c = some (text', escape'))
    (goesOn : escape = .none → c ≠ '"') :
    (⟨depth, true, escape'.hides⟩ : Scan) = (⟨depth, true, escape.hides⟩ : Scan).step c := by
  cases escape with
  | none =>
    unfold stringStep at h
    dsimp only at h
    split at h
    · next backslash =>
      cases h
      subst backslash
      rfl
    · next backslash =>
      split at h
      · cases h
      · cases h
        exact (Scan.step_inside (goesOn rfl) backslash).symm
  | letter lead =>
    have after : escape'.hides = false := by
      unfold stringStep at h
      dsimp only at h
      split at h
      · cases h
        rfl
      split at h
      · cases h
      · obtain ⟨d, -, e⟩ := Option.map_eq_some_iff.1 h
        cases e
        rfl
    rw [after]
    rfl
  | hex lead digits value =>
    unfold stringStep at h
    dsimp only at h
    split at h
    · cases h
    next d digit =>
    have after : escape'.hides = false := by
      split at h
      · exact hides_of_finishHex h
      · cases h
        rfl
    rw [after]
    refine (Scan.step_inside ?_ ?_).symm
    · rintro rfl
      cases digit
    · rintro rfl
      cases digit
  | trail lead =>
    unfold stringStep at h
    dsimp only at h
    split at h
    · next backslash =>
      cases h
      subst backslash
      rfl
    · cases h

/-- Every step of the reader is one of the scanner, and does not change whether the outermost
value is an object. -/
theorem step_leads (h : step s c = some t) (outer : s.Begun b) :
    t.Begun b ∧ t.scan = s.scan.step c := by
  obtain ⟨stack, mode⟩ := s
  cases mode with
  | string isKey text escape =>
    have last : (opened stack).getLast?.getD false = b := Option.some.inj outer.outermost
    have inside (goesOn : escape = .none → c ≠ '"')
        (e : (stringStep text escape c).map (fun p => (⟨stack, .string isKey p.1 p.2⟩ : State)) =
          some t) :
        t.Begun b ∧ t.scan = (⟨stack, .string isKey text escape⟩ : State).scan.step c := by
      obtain ⟨⟨text', escape'⟩, moved, rfl⟩ := Option.map_eq_some_iff.1 e
      exact ⟨⟨outer.outermost, trivial⟩, stringStep_leads moved goesOn⟩
    cases escape with
    | none =>
      by_cases quote : c = '"'
      · subst quote
        have ended : endString stack isKey text = some t := h
        exact endString_leads ended last
      · refine inside (fun _ => quote) ?_
        simpa [step, quote] using h
    | letter lead => exact inside (fun e => nomatch e) h
    | hex lead digits value => exact inside (fun e => nomatch e) h
    | trail lead => exact inside (fun e => nomatch e) h
  | _ => exact plainStep_leads h outer (fun _ _ _ e => nomatch e)

/-! ## Whole texts -/

theorem run_append (s : State) (cs ds : List Char) :
    run s (cs ++ ds) = (run s cs).bind (run · ds) := by
  induction cs generalizing s with
  | nil => rfl
  | cons c cs ih =>
    rw [List.cons_append, run, run, Option.bind_assoc]
    exact congrArg _ (funext ih)

theorem run_begun {cs : List Char} (h : run s cs = some t) (outer : s.Begun b) : t.Begun b := by
  induction cs generalizing s with
  | nil =>
    cases h
    exact outer
  | cons c cs ih =>
    obtain ⟨s', first, rest⟩ := Option.bind_eq_some_iff.1 h
    exact ih rest (step_leads first outer).1

/-- Blanks go by where no string, numeral or word is being read. -/
theorem run_blanks {cs : List Char} (between : s.mode.isBetween) (blank : ∀ c ∈ cs, isSpace c) :
    run s cs = some s := by
  induction cs with
  | nil => rfl
  | cons c cs ih =>
    have stays : step s c = some s := by
      obtain ⟨stack, mode⟩ := s
      have space : isSpace c := blank c (.head cs)
      cases mode with
      | string | numeral | word => cases between
      | _ => exact if_pos space
    rw [run, stays]
    exact ih fun d hd => blank d (.tail c hd)

/-- A value that is complete is an object if and only if the outermost value is one. -/
theorem State.Begun.isObject {v : Json} (outer : s.Begun b) (h : finish s = some v) :
    v.isObject = b := by
  have settled := outer.outermost
  obtain ⟨stack, mode⟩ := s
  cases mode with
  | done w =>
    cases h
    replace settled : (if stack.isEmpty then some v.isObject else none) = some b := settled
    split at settled
    · exact Option.some.inj settled
    · cases settled
  | numeral text =>
    replace h : (if stack.isEmpty then Numeral.read? text.reverse else none) = some v := h
    split at h
    · next bottom =>
      rw [List.isEmpty_iff.1 bottom] at settled
      rw [Numeral.isObject_of_read? h]
      exact Option.some.inj settled
    · cases h
  | _ => cases h

theorem run_done {v : Json} {cs : List Char} (h : run ⟨stack, .done v⟩ cs = some t) :
    t = ⟨stack, .done v⟩ ∧ ∀ c ∈ cs, isSpace c := by
  induction cs with
  | nil =>
    cases h
    exact ⟨rfl, fun _ hc => nomatch hc⟩
  | cons c cs ih =>
    obtain ⟨s, first, rest⟩ := Option.bind_eq_some_iff.1 h
    replace first : (if isSpace c then some ⟨stack, .done v⟩ else none) = some s := first
    split at first
    · next space =>
      cases first
      obtain ⟨same, blank⟩ := ih rest
      exact ⟨same, List.forall_mem_cons.2 ⟨space, blank⟩⟩
    · cases first

/-- An outermost object is complete, or a brace is open and the text cannot end. -/
theorem State.Begun.complete_or_inside (outer : s.Begun true) :
    (∃ v, s = ⟨[], .done v⟩) ∨ 0 < s.scan.depth ∧ finish s = none := by
  have settled := outer.outermost
  obtain ⟨stack, mode⟩ := s
  have depth (last : (opened stack).getLast?.getD false = true) :
      0 < (opened stack).count true := by
    cases e : (opened stack).getLast? with
    | none =>
      rw [e] at last
      cases last
    | some b =>
      rw [e] at last
      exact List.count_pos_iff.2 (List.mem_of_getLast? (e.trans (congrArg some last)))
  cases mode with
  | done v =>
    cases stack with
    | nil => exact .inl ⟨v, rfl⟩
    | cons => cases settled
  | value | key | colon | after =>
    replace settled : (opened stack).getLast? = some true := settled
    exact .inr ⟨depth (by rw [settled]; rfl), rfl⟩
  | string | word => exact .inr ⟨depth (Option.some.inj settled), rfl⟩
  | numeral text =>
    cases stack with
    | nil => cases settled
    | cons => exact .inr ⟨depth (Option.some.inj settled), rfl⟩

/-- From inside an object the scanner stops where the reader has the object complete, whatever
follows. -/
theorem run_balanced {v : Json} {cs : List Char} (outer : s.Begun true) (inside : 0 < s.scan.depth)
    (h : run s cs = some t) (value : finish t = some v) :
    ∃ inner, run s inner = some ⟨[], .done v⟩ ∧
      ∀ rest, Embedded.balanced? s.scan (cs ++ rest) = some inner := by
  induction cs generalizing s with
  | nil =>
    obtain rfl : s = t := Option.some.inj h
    rcases outer.complete_or_inside with ⟨w, rfl⟩ | ⟨-, nothing⟩
    · cases inside
    · rw [nothing] at value
      cases value
  | cons c cs ih =>
    obtain ⟨s', first, rest⟩ := Option.bind_eq_some_iff.1 h
    obtain ⟨outer', scan'⟩ := step_leads first outer
    have closing : s.scan.closes c = true ↔ s'.scan.depth = 0 := by
      rw [scan']
      exact Scan.closes_iff inside
    rcases outer'.complete_or_inside with ⟨w, rfl⟩ | ⟨inside', -⟩
    · obtain ⟨rfl, -⟩ := run_done rest
      cases value
      refine ⟨[c], by rw [run, first]; rfl, fun more => ?_⟩
      rw [List.cons_append, Embedded.balanced?, if_pos (closing.2 rfl)]
    · obtain ⟨inner, run', found⟩ := ih outer' inside' rest
      have opened : ¬ s.scan.closes c = true := fun e => Nat.ne_of_gt inside' (closing.1 e)
      refine ⟨c :: inner, by rw [run, first]; exact run', fun more => ?_⟩
      rw [List.cons_append, Embedded.balanced?, if_neg opened, ← scan', found]
      rfl

def inObject : State := ⟨[.obj [] ""], .key true⟩

theorem begun_inObject : inObject.Begun true := ⟨rfl, trivial⟩

end Reader

open Reader
open Embedded.Scan (isNeutral)

theorem run_start_blanks {front : List Char} (blank : ∀ c ∈ front, isSpace c) (cs : List Char) :
    run start (front ++ cs) = run start cs := by
  rw [run_append, run_blanks rfl blank]
  rfl

/-- A text that writes an object has blanks in front of a brace. -/
theorem opening_of_parseChars {cs : List Char} {members : List (String × Json)}
    (h : parseChars cs = some (.obj members)) :
    ∃ front body t, cs = front ++ '\x7b' :: body ∧ (∀ c ∈ front, isSpace c) ∧
      run inObject body = some t ∧ finish t = some (.obj members) := by
  induction cs with
  | nil => cases h
  | cons c cs ih =>
    obtain ⟨t, whole, value⟩ := Option.bind_eq_some_iff.1 h
    obtain ⟨s, first, rest⟩ := Option.bind_eq_some_iff.1 whole
    by_cases space : isSpace c
    · have stays : step start c = some start := if_pos space
      rw [stays] at first
      cases first
      obtain ⟨front, body, t', split, blank, run', value'⟩ := ih (by
        rw [parseChars, rest]
        exact value)
      refine ⟨c :: front, body, t', by rw [split]; rfl, List.forall_mem_cons.2 ⟨space, blank⟩,
        run', value'⟩
    · have begins : beginValue [] c = some s := by
        have plain : step start c = beginValue [] c := if_neg space
        rwa [plain] at first
      have brace : c = '\x7b' := by
        have outer := run_begun rest (beginValue_leads begins).1
        exact beq_iff_eq.1 (outer.isObject value).symm
      subst brace
      cases begins
      exact ⟨[], cs, t, rfl, by simp, rest, value⟩

/-- Behind a text without an opening brace and in front of any text, an object is found again. -/
theorem firstObject?_of_parseChars {cs : List Char} {members : List (String × Json)}
    (h : parseChars cs = some (.obj members)) {before : List Char} (front : '\x7b' ∉ before)
    (after : List Char) :
    ∃ object, Embedded.firstObject? (before ++ cs ++ after) = some object ∧
      parseChars object = some (.obj members) := by
  obtain ⟨blanks, body, t, rfl, blank, run', value⟩ := opening_of_parseChars h
  obtain ⟨inner, whole, found⟩ := run_balanced begun_inObject Nat.one_pos run' value
  refine ⟨'\x7b' :: inner, ?_, ?_⟩
  · have passed : ∀ c ∈ before ++ blanks, (c != '\x7b') = true := by
      intro c hc
      rcases List.mem_append.1 hc with hc | hc
      · exact bne_iff_ne.2 fun brace => front (brace ▸ hc)
      · have neutral := neutral_of_isSpace (blank c hc)
        rw [isNeutral, Bool.and_eq_true, Bool.and_eq_true] at neutral
        exact neutral.1.2
    have skipped : (before ++ (blanks ++ '\x7b' :: body) ++ after).dropWhile (· != '\x7b') =
        '\x7b' :: (body ++ after) := by
      rw [← List.append_assoc before, List.append_assoc (before ++ blanks),
        List.dropWhile_append_of_pos passed]
      rfl
    rw [Embedded.firstObject?, skipped]
    have opens : Embedded.balanced? .start ('\x7b' :: (body ++ after)) =
        (Embedded.balanced? inObject.scan (body ++ after)).map ('\x7b' :: ·) := rfl
    rw [opens, found]
    rfl
  · have opens : run start ('\x7b' :: inner) = run inObject inner := rfl
    rw [parseChars, opens, whole]
    rfl

/-- Blanks around a text that writes an object do not count. -/
theorem parseChars_blanks {cs : List Char} {members : List (String × Json)}
    (h : parseChars cs = some (.obj members)) {before after : List Char}
    (front : ∀ c ∈ before, isSpace c) (back : ∀ c ∈ after, isSpace c) :
    parseChars (before ++ cs ++ after) = some (.obj members) := by
  obtain ⟨blanks, body, t, rfl, blank, run', value⟩ := opening_of_parseChars h
  have whole : run start (before ++ (blanks ++ '\x7b' :: body)) = some t := by
    rw [run_start_blanks front, run_start_blanks blank]
    exact run'
  rcases (run_begun run' begun_inObject).complete_or_inside with ⟨v, rfl⟩ | ⟨-, nothing⟩
  · rw [parseChars, run_append, whole, Option.bind_some, run_blanks rfl back]
    exact value
  · rw [nothing] at value
    cases value

end OData.Json
