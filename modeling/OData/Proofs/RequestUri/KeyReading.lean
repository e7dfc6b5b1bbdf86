import OData.Proofs.RequestUri.Decoding
import OData.Proofs.RequestUri.Forms

/-!
# Keys read from a path

A string is read back from a sent key by decoding and by taking away its quotes, if it has
them (`readKeyText_sent`), and the strings of a composite key part by part
(`readKeyParts_sent`). No parenthesis is opened within a key, so a path tells the set and
the key apart, and different keys made of strings have different paths (`path_tells_key`).
-/

namespace OData

open Text

/-! ## Keys made of strings -/

def EntityKey.ofTexts (ps : List (String × String)) : EntityKey :=
  .parts (ps.map fun p => (p.1, .text p.2))

/-- A name without the marks of a key, as every identifier is. -/
def isPartName (name : String) : Bool := name.toList.all fun c => !",=(".toList.contains c

theorem isPartName_of_isIdentifier {name : String} (h : Literal.isIdentifier name.toList) :
    isPartName name := by
  refine List.all_eq_true.2 fun c hc => ?_
  have stem := Literal.stem_of_isIdentifier h c hc
  have marks : ∀ x ∈ ",=(".toList, !Literal.isStemChar x := List.all_eq_true.1 (by decide)
  rw [Bool.not_eq_true', Bool.eq_false_iff]
  intro mark
  have outside := marks c (List.contains_iff_mem.1 mark)
  rw [stem] at outside
  cases outside

theorem not_mem_partName {name : String} (h : isPartName name) {x : Char}
    (mark : x ∈ ",=(".toList) : x ∉ name.toList := by
  intro hx
  have outside := List.all_eq_true.1 h x hx
  rw [List.contains_iff_mem.2 mark] at outside
  cases outside

/-- A string alone, or at least one string under a name. -/
inductive EntityKey.Textual : EntityKey → Prop where
  | text (s : String) : Textual (.text s)
  | parts {ps : List (String × String)} : ps ≠ [] → (∀ p ∈ ps, isPartName p.1) →
      Textual (.ofTexts ps)

/-! ## The readers -/

namespace Literal

/-- A literal that starts with a quote without its outer quotes, the doubled ones undoubled; any
other text as it is. -/
def unquote? (s : String) : Option String :=
  match s.toList with
  | '\'' :: rest =>
    if rest.getLast? = some '\'' then (Quoted.undouble rest.dropLast).map String.ofList else none
  | _ => some s

def readKeyText (inner : String) : Option String := unquote? (Percent.decode inner)

/-- The parts between the commas, each a name before the first `=` and the string behind it. -/
def readKeyParts (inner : String) : List (String × Option String) :=
  (inner.toList.splitOn ',').map fun piece =>
    (String.ofList (piece.takeWhile (· != '=')),
      readKeyText (String.ofList ((piece.dropWhile (· != '=')).drop 1)))

/-! ## Strings -/

theorem unquote?_quote (s : String) : unquote? (Quoted.quote s) = some s := by
  unfold unquote? Quoted.quote
  rw [String.toList_ofList]
  simp [Quoted.undouble_double]

theorem unquote?_bare {s : String} (h : Numeral s.toList) : unquote? s = some s := by
  unfold unquote?
  split
  · next rest e =>
    have quote : isNumeral '\'' := h '\'' (by rw [e]; exact .head rest)
    exact absurd quote (by decide)
  · rfl

theorem readKeyText_sent (s : String) : readKeyText (ofKeyText .sent s) = some s := by
  rw [readKeyText, (standsFor_keyText s).decode_eq, ofKeyText]
  split
  · next bare =>
    rw [Bool.or_eq_true] at bare
    exact unquote?_bare (bare.elim numeral_of_isInteger numeral_of_isIdentifierText)
  · exact unquote?_quote s

/-! ## Parts -/

def sentPart (p : String × String) : String := p.1 ++ "=" ++ ofKeyText .sent p.2

def sentParts (ps : List (String × String)) : String := String.intercalate "," (ps.map sentPart)

theorem ofKey_ofTexts (ps : List (String × String)) :
    ofKey .sent (.ofTexts ps) = "(" ++ sentParts ps ++ ")" := by
  rw [EntityKey.ofTexts, ofKey, List.map_map]
  rfl

theorem toList_sentPart (p : String × String) :
    (sentPart p).toList = p.1.toList ++ '=' :: (ofKeyText .sent p.2).toList := by
  simp [sentPart]

theorem not_mem_keyText {x : Char} (mark : isKeyTextChar x = false) (s : String) :
    x ∉ (ofKeyText .sent s).toList :=
  fun hx => ne_of_class (keyTextChar_of_keyText s x hx) mark rfl

theorem not_mem_sentPart {p : String × String} (name : isPartName p.1) {x : Char}
    (inName : x ∈ ",=(".toList) (other : x ≠ '=') (inText : isKeyTextChar x = false) :
    x ∉ (sentPart p).toList := by
  rw [toList_sentPart, List.mem_append, List.mem_cons, not_or, not_or]
  exact ⟨not_mem_partName name inName, other, not_mem_keyText inText p.2⟩

theorem readKeyParts_sent {ps : List (String × String)} (hne : ps ≠ [])
    (names : ∀ p ∈ ps, isPartName p.1) :
    readKeyParts (sentParts ps) = ps.map fun p => (p.1, some p.2) := by
  have pieces : ∀ piece ∈ (ps.map sentPart).map String.toList, ',' ∉ piece := by
    intro piece among
    rw [List.map_map] at among
    obtain ⟨p, hp, rfl⟩ := List.mem_map.1 among
    exact not_mem_sentPart (names p hp) (by decide) (by decide) (by decide)
  rw [readKeyParts, sentParts, String.toList_intercalate, show ",".toList = [','] from rfl,
    List.splitOn_intercalate _ pieces (by simpa using hne), List.map_map, List.map_map]
  refine List.map_congr_left fun p hp => ?_
  have unmarked : '=' ∉ p.1.toList := not_mem_partName (names p hp) (by decide)
  obtain ⟨before, behind⟩ := Query.cut_at unmarked (ofKeyText .sent p.2).toList
  rw [Function.comp_apply, Function.comp_apply, toList_sentPart, before, behind, List.drop_one,
    List.tail_cons, String.ofList_toList, String.ofList_toList, readKeyText_sent]

/-! ## What stands in the parentheses -/

/-- What stands in the parentheses of a key made of strings. -/
inductive Inner : EntityKey → String → Prop where
  | text (s : String) : Inner (.text s) (ofKeyText .sent s)
  | parts {ps : List (String × String)} : ps ≠ [] → (∀ p ∈ ps, isPartName p.1) →
      Inner (.ofTexts ps) (sentParts ps)

theorem exists_inner {key : EntityKey} (h : key.Textual) : ∃ inner, Inner key inner := by
  cases h with
  | text s => exact ⟨_, .text s⟩
  | parts hne names => exact ⟨_, .parts hne names⟩

namespace Inner

variable {key key' : EntityKey} {inner : String} {ps : List (String × String)}

theorem ofKey_eq (h : Inner key inner) : ofKey .sent key = "(" ++ inner ++ ")" := by
  cases h with
  | text s => rfl
  | parts => exact ofKey_ofTexts _

theorem not_opened (h : Inner key inner) : '(' ∉ inner.toList := by
  cases h with
  | text s => exact not_mem_keyText (by decide) s
  | parts hne names =>
    rw [sentParts, String.toList_intercalate]
    intro opened
    rcases mem_intercalate opened with comma | ⟨piece, among, inside⟩
    · revert comma; decide
    · rw [List.map_map] at among
      obtain ⟨p, hp, rfl⟩ := List.mem_map.1 among
      exact not_mem_sentPart (names p hp) (by decide) (by decide) (by decide) inside

/-- A key with names has an `=`, a string alone has none. -/
theorem equals_mem (hne : ps ≠ []) : '=' ∈ (sentParts ps).toList := by
  cases ps with
  | nil => exact absurd rfl hne
  | cons p rest => cases rest <;> simp [sentParts, toList_sentPart]

/-- The two kinds of keys differ in the `=`, which a string alone does not have. -/
theorem eq (h : Inner key inner) (h' : Inner key' inner) : key = key' := by
  have apart {s : String} {ps : List (String × String)} (hne : ps ≠ [])
      (same : ofKeyText .sent s = sentParts ps) : False :=
    not_mem_keyText (by decide) s (same ▸ equals_mem hne)
  generalize same : inner = other at h'
  cases h with
  | text s =>
    cases h' with
    | text s' =>
      have read := congrArg readKeyText same
      rw [readKeyText_sent, readKeyText_sent, Option.some.injEq] at read
      rw [read]
    | parts hne names => exact (apart hne same).elim
  | @parts ps hne names =>
    cases h' with
    | text s' => exact (apart hne same.symm).elim
    | @parts ps' hne' names' =>
      have read := congrArg readKeyParts same
      rw [readKeyParts_sent hne names, readKeyParts_sent hne' names'] at read
      have keys : ps = ps' :=
        (List.map_inj_right fun p p' e => by simpa [Prod.ext_iff] using e).1 read
      rw [keys]

end Inner

end Literal

/-! ## Paths -/

theorem behind_last {x : Char} {as bs cs ds : List Char} (hc : x ∉ cs) (hd : x ∉ ds)
    (same : as ++ x :: cs = bs ++ x :: ds) : as = bs ∧ cs = ds := by
  rcases List.append_eq_append_iff.1 same with ⟨mid, rfl, e⟩ | ⟨mid, rfl, e⟩
  · cases mid with
    | nil => simpa using e
    | cons m mid => simp_all
  · cases mid with
    | nil => simpa using e.symm
    | cons m mid => simp_all

namespace Query

open Literal (Inner readKeyText readKeyParts)

theorem path_of_inner {q : Query} {key : EntityKey} {inner : String}
    (closed : ¬ "?$".toList <:+: q.setText.toList) (hk : q.key = some key) (h : Inner key inner) :
    q.path .sent = q.setText ++ "(" ++ inner ++ ")" := by
  rw [← concatenate.hasOption_iff, Bool.not_eq_true] at closed
  rw [path_eq_append closed, keyText, hk]
  simp only [h.ofKey_eq, String.append_assoc]

/-- The last parenthesis that is opened is the one of the key. -/
theorem inner_unique {s s' inner inner' : String} (h : '(' ∉ inner.toList)
    (h' : '(' ∉ inner'.toList) (same : s ++ "(" ++ inner ++ ")" = s' ++ "(" ++ inner' ++ ")") :
    s = s' ∧ inner = inner' := by
  have chars : s.toList ++ '(' :: (inner.toList ++ [')']) =
      s'.toList ++ '(' :: (inner'.toList ++ [')']) := by
    simpa using congrArg String.toList same
  obtain ⟨sets, inners⟩ := behind_last (by simp [h]) (by simp [h']) chars
  exact ⟨String.toList_injective sets,
    String.toList_injective (List.append_cancel_right inners)⟩

/-- A string is read back from the path of a query that has it for a key, and the names and
strings of a composite key in their order, so that a path belongs to one set and one key. The
names may be any without a comma, an equals sign or an opening parenthesis. -/
theorem path_tells_key {q : Query} (closed : ¬ "?$".toList <:+: q.setText.toList) :
    (∀ s, q.key = some (.text s) →
      ∃ inner, q.path .sent = q.setText ++ "(" ++ inner ++ ")" ∧ readKeyText inner = some s) ∧
    (∀ ps, ps ≠ [] → (∀ p ∈ ps, isPartName p.1) → q.key = some (.ofTexts ps) →
      ∃ inner, q.path .sent = q.setText ++ "(" ++ inner ++ ")" ∧
        readKeyParts inner = ps.map fun p => (p.1, some p.2)) ∧
    (∀ (q' : Query) (key key' : EntityKey), ¬ "?$".toList <:+: q'.setText.toList →
      key.Textual → key'.Textual → q.key = some key → q'.key = some key' →
      q.path .sent = q'.path .sent → q.setText = q'.setText ∧ key = key') := by
  refine ⟨fun s hk => ?_, fun ps hne names hk => ?_, ?_⟩
  · exact ⟨_, path_of_inner closed hk (.text s), Literal.readKeyText_sent s⟩
  · exact ⟨_, path_of_inner closed hk (.parts hne names), Literal.readKeyParts_sent hne names⟩
  · intro q' key key' closed' textual textual' hk hk' same
    obtain ⟨inner, h⟩ := Literal.exists_inner textual
    obtain ⟨inner', h'⟩ := Literal.exists_inner textual'
    rw [path_of_inner closed hk h, path_of_inner closed' hk' h'] at same
    obtain ⟨sets, rfl⟩ := inner_unique h.not_opened h'.not_opened same
    exact ⟨sets, h.eq h'⟩

def separated : Query :=
  { entitySet := some "People"
    key := some (.ofTexts [("Name", "O'Neil,Line='(é)%41"), ("Line", "7")]) }

theorem separated_tells_key :
    separated.path .sent =
        "People(Name='O%27%27Neil%2CLine%3D%27%27%28%C3%A9%29%2541',Line=7)" ∧
      (∃ inner, separated.path .sent = "People(" ++ inner ++ ")" ∧
        readKeyParts inner = [("Name", some "O'Neil,Line='(é)%41"), ("Line", some "7")]) ∧
      ∀ s, separated.path .sent ≠ { separated with key := some (.text s) }.path .sent := by
  have closed : ¬ "?$".toList <:+: separated.setText.toList := by decide +kernel
  have identifiers : ∀ p ∈ [("Name", "O'Neil,Line='(é)%41"), ("Line", "7")],
      Literal.isIdentifier p.1.toList := by
    decide +kernel
  have names := fun p hp => isPartName_of_isIdentifier (identifiers p hp)
  obtain ⟨-, parts, alone⟩ := path_tells_key closed
  refine ⟨by decide +kernel, parts _ (by simp) names rfl, fun s same => ?_⟩
  have keys := alone { separated with key := some (.text s) } _ _ closed (.parts (by simp) names)
    (.text s) rfl rfl same
  cases keys.2

end Query

end OData
