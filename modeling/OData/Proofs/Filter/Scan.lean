import OData.Query.Basic
import OData.Text.Quoted
import OData.Proofs.Text.CharClass

/-!
# Reading a filter by its punctuation

A reader that knows nothing of values can take a filter apart: every quote enters or
leaves a literal, and outside literals parentheses are counted. `split` cuts at the
connectors outside literals and parentheses, `enclosed` gives what stands in the first
parentheses, `splitCommas` the items of a list.

Three inductive classes say which texts these readers pass over whole: `Balanced` ones
inside parentheses, `Solid` ones between connectors, `Operand`s between commas.
-/

namespace OData.Filter

open Text

structure Place where
  inLiteral : Bool
  depth : Int
  deriving DecidableEq, Repr

namespace Place

def start : Place := ⟨false, 0⟩

def isTop (p : Place) : Bool := !p.inLiteral && p.depth == 0

def after (p : Place) (c : Char) : Place :=
  if c = '\'' then { p with inLiteral := !p.inLiteral }
  else if p.inLiteral then p
  else if c = '(' then { p with depth := p.depth + 1 }
  else if c = ')' then { p with depth := p.depth - 1 }
  else p

end Place

/-! ## The readers -/

/-- The connector that stands at the front with a space on either side. -/
def connectorAt? (cs : List Char) : Option Connector :=
  [Connector.and, .or].find? fun k => (" " ++ k.word ++ " ").toList.isPrefixOf cs

/-- The texts between the connectors outside literals and parentheses: the first one, and the
later ones with the connectors before them. The number is that of the characters still to skip. -/
def split : Nat → Place → List Char → List Char × List (Connector × List Char)
  | _, _, [] => ([], [])
  | skip + 1, p, _ :: cs => split skip p cs
  | 0, p, c :: cs =>
    match if p.isTop then connectorAt? (c :: cs) else none with
    | some k =>
      let (text, more) := split (k.word.length + 1) p cs
      ([], (k, text) :: more)
    | none =>
      let (text, more) := split 0 (p.after c) cs
      (c :: text, more)

/-- What follows the first opening parenthesis outside literals. -/
def afterOpening : Bool → List Char → List Char
  | _, [] => []
  | inLiteral, c :: cs =>
    if c = '(' && !inLiteral then cs
    else afterOpening (if c = '\'' then !inLiteral else inLiteral) cs

/-- What precedes the parenthesis that closes the one before the text. -/
def upToClosing : Place → List Char → List Char
  | _, [] => []
  | p, c :: cs => if c = ')' && p.isTop then [] else c :: upToClosing (p.after c) cs

def enclosed (cs : List Char) : List Char := upToClosing .start (afterOpening false cs)

/-- The texts between the commas outside literals. -/
def splitCommas : Bool → List Char → List (List Char)
  | _, [] => [[]]
  | inLiteral, c :: cs =>
    if c = ',' && !inLiteral then [] :: splitCommas inLiteral cs
    else (splitCommas (if c = '\'' then !inLiteral else inLiteral) cs).modifyHead (c :: ·)

/-! ## Texts that are passed over -/

def isPlain (c : Char) : Bool := c != '\'' && c != '(' && c != ')'

theorem isPlain_of_class {p : Char → Bool} {c : Char} (h : p c)
    (hp : "'()".toList.all (!p ·)) : isPlain c := by
  have outside {x : Char} (hx : x ∈ "'()".toList) : p x = false := by
    simpa using List.all_eq_true.1 hp x hx
  simp only [isPlain, Bool.and_eq_true, bne_iff_ne]
  exact ⟨⟨ne_of_class h (outside (by decide)), ne_of_class h (outside (by decide))⟩,
    ne_of_class h (outside (by decide))⟩

/-- Quotes pair up, and outside literals parentheses match. -/
inductive Balanced : List Char → Prop
  | nil : Balanced []
  | plain {c : Char} {t : List Char} : isPlain c → Balanced t → Balanced (c :: t)
  | literal (s : List Char) {t : List Char} : Balanced t →
      Balanced ('\'' :: (Quoted.double s ++ '\'' :: t))
  | group {t u : List Char} : Balanced t → Balanced u → Balanced ('(' :: (t ++ ')' :: u))

/-- Neither parentheses nor commas outside literals. -/
inductive Operand : List Char → Prop
  | nil : Operand []
  | plain {c : Char} {t : List Char} : isPlain c → c ≠ ',' → Operand t → Operand (c :: t)
  | literal (s : List Char) {t : List Char} : Operand t →
      Operand ('\'' :: (Quoted.double s ++ '\'' :: t))

def firstWord (t : List Char) : List Char := t.takeWhile (· != ' ')

/-- Balanced, and no word behind a space outside literals and parentheses is a connector. -/
inductive Solid : List Char → Prop
  | nil : Solid []
  | plain {c : Char} {t : List Char} : isPlain c → c ≠ ' ' → Solid t → Solid (c :: t)
  | space {t : List Char} : (∀ k : Connector, firstWord t ≠ k.word.toList) → Solid t →
      Solid (' ' :: t)
  | literal (s : List Char) {t : List Char} : Solid t →
      Solid ('\'' :: (Quoted.double s ++ '\'' :: t))
  | group {t u : List Char} : Balanced t → Solid u → Solid ('(' :: (t ++ ')' :: u))

theorem Balanced.append {t u : List Char} (ht : Balanced t) (hu : Balanced u) :
    Balanced (t ++ u) := by
  induction ht with
  | nil => exact hu
  | plain hc _ ih => exact .plain hc ih
  | literal s _ ih => simpa using Balanced.literal s ih
  | group ht _ _ ih => simpa using Balanced.group ht ih

theorem Operand.balanced {t : List Char} (h : Operand t) : Balanced t := by
  induction h with
  | nil => exact .nil
  | plain hc _ _ ih => exact .plain hc ih
  | literal s _ ih => exact .literal s ih

theorem Solid.balanced {t : List Char} (h : Solid t) : Balanced t := by
  induction h with
  | nil => exact .nil
  | plain hc _ _ ih => exact .plain hc ih
  | space _ _ ih => exact .plain (by decide) ih
  | literal s _ ih => exact .literal s ih
  | group ht _ ih => exact .group ht ih

/-! ## Places -/

theorem Place.after_plain {c : Char} (h : isPlain c) (p : Place) : p.after c = p := by
  simp only [isPlain, Bool.and_eq_true, bne_iff_ne] at h
  simp [Place.after, h.1.1, h.1.2, h.2]

@[simp] theorem Place.after_quote (q : Bool) (d : Int) : Place.after ⟨q, d⟩ '\'' = ⟨!q, d⟩ := rfl

@[simp] theorem Place.after_open (d : Int) : Place.after ⟨false, d⟩ '(' = ⟨false, d + 1⟩ := rfl

@[simp] theorem Place.after_close (d : Int) : Place.after ⟨false, d⟩ ')' = ⟨false, d - 1⟩ := rfl

theorem Place.after_inside {c : Char} (h : c ≠ '\'') (d : Int) :
    Place.after ⟨true, d⟩ c = ⟨true, d⟩ := by simp [Place.after, h]

@[simp] theorem Place.isTop_inside (d : Int) : Place.isTop ⟨true, d⟩ = false := rfl

theorem Place.isTop_deep {d : Int} (h : 0 < d) : Place.isTop ⟨false, d⟩ = false := by
  simp [Place.isTop]; omega

/-! ## Cutting at connectors -/

def attach (t : List Char) (r : List Char × List (Connector × List Char)) :
    List Char × List (Connector × List Char) := (t ++ r.1, r.2)

@[simp] theorem attach_attach (t u : List Char) (r : List Char × List (Connector × List Char)) :
    attach t (attach u r) = attach (t ++ u) r := by simp [attach]

@[simp] theorem attach_nil (r : List Char × List (Connector × List Char)) : attach [] r = r := rfl

theorem split_step {p : Place} {c : Char} {cs : List Char}
    (h : p.isTop → connectorAt? (c :: cs) = none) :
    split 0 p (c :: cs) = attach [c] (split 0 (p.after c) cs) := by
  have none : (if p.isTop then connectorAt? (c :: cs) else none) = none := by
    split
    · next top => exact h top
    · rfl
  simp only [split, none]
  rfl

theorem connectorAt?_eq_none_of_ne {c : Char} (h : c ≠ ' ') (cs : List Char) :
    connectorAt? (c :: cs) = none := by
  simp [connectorAt?, Connector.word, Ne.symm h]

theorem split_literal (s rest : List Char) (d : Int) :
    split 0 ⟨false, d⟩ ('\'' :: (Quoted.double s ++ '\'' :: rest)) =
      attach ('\'' :: (Quoted.double s ++ ['\''])) (split 0 ⟨false, d⟩ rest) := by
  have inside : ∀ s : List Char, split 0 ⟨true, d⟩ (Quoted.double s ++ '\'' :: rest) =
      attach (Quoted.double s ++ ['\'']) (split 0 ⟨false, d⟩ rest) := by
    intro s
    induction s with
    | nil => rw [Quoted.double, List.nil_append, split_step (by simp)]; rfl
    | cons c s ih =>
      rw [Quoted.double]
      split
      -- A doubled quote leaves the literal and enters it again; in between no character is read.
      · next h =>
        subst h
        rw [List.cons_append, List.cons_append, split_step (by simp), Place.after_quote,
          split_step fun _ => connectorAt?_eq_none_of_ne (by decide) _]
        simp [ih]
      · next h =>
        rw [List.cons_append, split_step (by simp), Place.after_inside h, ih]
        simp
  rw [split_step fun _ => connectorAt?_eq_none_of_ne (by decide) _, Place.after_quote,
    Bool.not_false, inside s]
  simp

theorem split_balanced {t : List Char} (h : Balanced t) (rest : List Char) {d : Int}
    (hd : 0 < d) :
    split 0 ⟨false, d⟩ (t ++ rest) = attach t (split 0 ⟨false, d⟩ rest) := by
  induction h generalizing rest d with
  | nil => rfl
  | plain hc _ ih =>
    rw [List.cons_append, split_step (by simp [Place.isTop_deep hd]), Place.after_plain hc,
      ih rest hd]
    simp
  | literal s _ ih =>
    rw [List.cons_append, List.append_assoc, List.cons_append, split_literal, ih rest hd]
    simp
  | group _ _ iht ihu =>
    rw [List.cons_append, List.append_assoc, List.cons_append,
      split_step (by simp [Place.isTop_deep hd]), Place.after_open, iht _ (by omega),
      split_step (by simp [Place.isTop_deep (show 0 < d + 1 by omega)]), Place.after_close,
      Int.add_sub_cancel, ihu rest hd]
    simp

def Ends (rest : List Char) : Prop := firstWord rest = []

theorem firstWord_append {t rest : List Char} (h : Ends rest) :
    firstWord (t ++ rest) = firstWord t := by
  induction t with
  | nil => exact h
  | cons c t ih =>
    by_cases hc : c = ' '
    · simp [firstWord, hc]
    · simpa [firstWord, hc] using ih

theorem firstWord_eq_of_connectorAt? {cs : List Char} {k : Connector}
    (h : connectorAt? (' ' :: cs) = some k) : firstWord cs = k.word.toList := by
  have found := List.find?_some
    (p := fun k : Connector => (" " ++ k.word ++ " ").toList.isPrefixOf (' ' :: cs)) h
  obtain ⟨rest, hrest⟩ := List.isPrefixOf_iff_prefix.1 found
  obtain rfl : k.word.toList ++ ' ' :: rest = cs := by simpa using hrest
  cases k <;> rfl

theorem split_solid {t : List Char} (h : Solid t) {rest : List Char} (hr : Ends rest) :
    split 0 .start (t ++ rest) = attach t (split 0 .start rest) := by
  induction h with
  | nil => rfl
  | plain hc hs _ ih =>
    rw [List.cons_append, split_step fun _ => connectorAt?_eq_none_of_ne hs _,
      Place.after_plain hc, ih]
    simp
  | @space t hk _ ih =>
    have none : connectorAt? (' ' :: (t ++ rest)) = none := by
      rw [Option.eq_none_iff_forall_not_mem]
      intro k hmem
      exact hk k (by rw [← firstWord_append hr, firstWord_eq_of_connectorAt? hmem])
    rw [List.cons_append, split_step fun _ => none, Place.after_plain (by decide), ih]
    simp
  | literal s _ ih =>
    rw [List.cons_append, List.append_assoc, List.cons_append, Place.start, split_literal]
    rw [Place.start] at ih
    rw [ih]
    simp
  | group ht _ ih =>
    rw [List.cons_append, List.append_assoc, List.cons_append, Place.start,
      split_step fun _ => connectorAt?_eq_none_of_ne (by decide) _, Place.after_open,
      split_balanced ht _ (by decide), split_step (by simp [Place.isTop]), Place.after_close]
    rw [Place.start] at ih
    simp [ih]

theorem split_skip (t rest : List Char) (p : Place) :
    split t.length p (t ++ rest) = split 0 p rest := by
  induction t with
  | nil => rfl
  | cons c t ih => exact ih

theorem split_connector (k : Connector) (rest : List Char) :
    split 0 .start ((" " ++ k.word ++ " ").toList ++ rest) =
      ([], (k, (split 0 .start rest).1) :: (split 0 .start rest).2) := by
  have shape : (" " ++ k.word ++ " ").toList ++ rest =
      ' ' :: ((k.word ++ " ").toList ++ rest) := by simp
  have here : connectorAt? (' ' :: ((k.word ++ " ").toList ++ rest)) = some k := by
    cases k <;> simp [connectorAt?, Connector.word]
  have skip := split_skip (k.word ++ " ").toList rest .start
  rw [show (k.word ++ " ").toList.length = k.word.length + 1 by simp [String.length_toList]] at skip
  rw [shape, split, show (if Place.start.isTop then connectorAt? _ else none) = some k from here]
  simp only [skip]

/-! ## Parentheses -/

theorem upToClosing_step {p : Place} {c : Char} (h : c = ')' → p.isTop = false)
    (cs : List Char) : upToClosing p (c :: cs) = c :: upToClosing (p.after c) cs := by
  have : ¬(c = ')' && p.isTop) = true := by
    simp only [Bool.and_eq_true, decide_eq_true_eq, not_and, Bool.not_eq_true]
    exact h
  rw [upToClosing, if_neg this]

theorem upToClosing_literal (s rest : List Char) (d : Int) :
    upToClosing ⟨false, d⟩ ('\'' :: (Quoted.double s ++ '\'' :: rest)) =
      '\'' :: (Quoted.double s ++ '\'' :: upToClosing ⟨false, d⟩ rest) := by
  have inside : ∀ s : List Char, upToClosing ⟨true, d⟩ (Quoted.double s ++ '\'' :: rest) =
      Quoted.double s ++ '\'' :: upToClosing ⟨false, d⟩ rest := by
    intro s
    induction s with
    | nil =>
      rw [Quoted.double, List.nil_append, List.nil_append, upToClosing_step (by simp)]
      rfl
    | cons c s ih =>
      rw [Quoted.double]
      split
      · next h =>
        subst h
        rw [List.cons_append, List.cons_append, upToClosing_step (by simp), Place.after_quote,
          upToClosing_step (by simp), Bool.not_true, Place.after_quote, Bool.not_false, ih]
        rfl
      · next h =>
        rw [List.cons_append, upToClosing_step (by simp), Place.after_inside h, ih]
        rfl
  rw [upToClosing_step (by simp), Place.after_quote, Bool.not_false, inside s]

theorem upToClosing_balanced {t : List Char} (h : Balanced t) (rest : List Char) {d : Int}
    (hd : 0 ≤ d) : upToClosing ⟨false, d⟩ (t ++ rest) = t ++ upToClosing ⟨false, d⟩ rest := by
  induction h generalizing rest d with
  | nil => rfl
  | plain hc _ ih =>
    have ne : _ ≠ ')' := (by simpa [isPlain] using hc : (_ ∧ _) ∧ _).2
    rw [List.cons_append, upToClosing_step (absurd · ne), Place.after_plain hc, ih rest hd]
    rfl
  | literal s _ ih =>
    rw [List.cons_append, List.append_assoc, List.cons_append, upToClosing_literal, ih rest hd]
    simp
  | group _ _ iht ihu =>
    rw [List.cons_append, List.append_assoc, List.cons_append, upToClosing_step (by simp),
      Place.after_open, iht _ (by omega),
      upToClosing_step fun _ => Place.isTop_deep (show 0 < d + 1 by omega), Place.after_close,
      Int.add_sub_cancel, ihu rest hd]
    simp

theorem afterOpening_plain {w : List Char} (h : ∀ c ∈ w, isPlain c) (rest : List Char) :
    afterOpening false (w ++ '(' :: rest) = rest := by
  induction w with
  | nil => rfl
  | cons c w ih =>
    have hc := h c List.mem_cons_self
    simp only [isPlain, Bool.and_eq_true, bne_iff_ne] at hc
    rw [List.cons_append, afterOpening]
    simp [hc.1.1, hc.1.2, ih fun d hd => h d (List.mem_cons_of_mem _ hd)]

/-- Parentheses behind a plain text are found, and so is the one that closes them. -/
theorem enclosed_group {w t : List Char} (hw : ∀ c ∈ w, isPlain c) (ht : Balanced t)
    (rest : List Char) : enclosed (w ++ '(' :: (t ++ ')' :: rest)) = t := by
  rw [enclosed, afterOpening_plain hw, Place.start, upToClosing_balanced ht _ (by decide)]
  simp [upToClosing, Place.isTop]

/-! ## Lists -/

theorem splitCommas_plain {c : Char} (hc : isPlain c) (hcomma : c ≠ ',') (cs : List Char) :
    splitCommas false (c :: cs) = (splitCommas false cs).modifyHead (c :: ·) := by
  simp only [isPlain, Bool.and_eq_true, bne_iff_ne] at hc
  simp [splitCommas, hcomma, hc.1.1]

theorem splitCommas_literal (s rest : List Char) :
    splitCommas false ('\'' :: (Quoted.double s ++ '\'' :: rest)) =
      (splitCommas false rest).modifyHead (('\'' :: (Quoted.double s ++ ['\''])) ++ ·) := by
  have inside : ∀ s : List Char, splitCommas true (Quoted.double s ++ '\'' :: rest) =
      (splitCommas false rest).modifyHead ((Quoted.double s ++ ['\'']) ++ ·) := by
    intro s
    induction s with
    | nil => simp [Quoted.double, splitCommas]
    | cons c s ih =>
      rw [Quoted.double]
      split
      · next h =>
        subst h
        simp [splitCommas, ih, List.modifyHead_modifyHead, Function.comp_def]
      · next h => simp [splitCommas, h, ih, List.modifyHead_modifyHead, Function.comp_def]
  rw [splitCommas]
  simp [inside s, List.modifyHead_modifyHead, Function.comp_def]

theorem splitCommas_operand {t : List Char} (h : Operand t) (rest : List Char) :
    splitCommas false (t ++ rest) = (splitCommas false rest).modifyHead (t ++ ·) := by
  induction h with
  | nil => cases h : splitCommas false rest <;> simp [h]
  | plain hc hcomma _ ih =>
    rw [List.cons_append, splitCommas_plain hc hcomma, ih]
    simp [List.modifyHead_modifyHead, Function.comp_def]
  | literal s _ ih =>
    rw [List.cons_append, List.append_assoc, List.cons_append, splitCommas_literal, ih]
    simp [List.modifyHead_modifyHead, Function.comp_def]

theorem splitCommas_intercalate {ts : List (List Char)} (hne : ts ≠ [])
    (h : ∀ t ∈ ts, Operand t) : splitCommas false ([','].intercalate ts) = ts := by
  induction ts with
  | nil => exact absurd rfl hne
  | cons t ts ih =>
    have ht := h t List.mem_cons_self
    cases ts with
    | nil =>
      rw [List.intercalate_singleton, ← List.append_nil t, splitCommas_operand ht]
      simp [splitCommas]
    | cons t' ts =>
      rw [List.intercalate_cons_cons, List.append_assoc, splitCommas_operand ht]
      simp only [List.cons_append, List.nil_append, splitCommas]
      simp [ih (by simp) fun u hu => h u (List.mem_cons_of_mem _ hu)]

end OData.Filter
