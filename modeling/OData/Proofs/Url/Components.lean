import OData.Proofs.Text.Percent
import OData.Proofs.Url.Resolution
import OData.Proofs.Value.NaturalText

/-!
# The components of a URL

What is read into scheme, credentials, host and path holds neither `?` nor `#`: the text is
cut at its first marks, a host that decodes to one is refused, and elsewhere they are coded
(`clean_of_parse`). So a URL without query and fragment is written without marks
(`Clean.text`). Of the segments of a path more can be said in the same way: what holds of
every coded piece holds of every segment (`OfPieces`).
-/

namespace OData.Url

open Text

/-! ## Segments -/

/-- What a path text is cut into has no slash, and under a special scheme no backslash. -/
structure IsPiece (cls : SchemeClass) (p : List Char) : Prop where
  slash : '/' ∉ p
  backslash : cls.isSpecial → '\\' ∉ p

/-- Holds of the pieces of a path text that become segments, and so of all segments. -/
structure OfPieces (cls : SchemeClass) (P : String → Prop) : Prop where
  empty : P ""
  piece : ∀ p, IsPiece cls p → isDot (encodeText keepInPath p) = false →
    isDoubleDot (encodeText keepInPath p) = false → P (encodeText keepInPath p)
  first : ∀ p, IsPiece cls p → isDot (encodeText keepInPath p) = false →
    isDoubleDot (encodeText keepInPath p) = false → P (firstSegment cls (encodeText keepInPath p))

theorem not_mem_of_mem_splitOn {x : Char} {cs : List Char} :
    ∀ p ∈ cs.splitOn x, x ∉ p := by
  induction cs with
  | nil => simp
  | cons c cs ih =>
    rw [List.splitOn_cons_eq_if_modifyHead]
    split
    · exact List.forall_mem_cons.2 ⟨by simp, ih⟩
    · next ne =>
      cases parts : cs.splitOn x with
      | nil => simp
      | cons p ps =>
        rw [parts] at ih
        obtain ⟨hp, hps⟩ := List.forall_mem_cons.1 ih
        refine List.forall_mem_cons.2 ⟨?_, hps⟩
        rw [List.mem_cons, not_or]
        exact ⟨fun e => ne (by simp [e]), hp⟩

theorem isPiece_of_mem_pathPieces {cls : SchemeClass} {cs : List Char} :
    ∀ p ∈ pathPieces cls.isSpecial cs, IsPiece cls p := by
  intro p hp
  refine ⟨not_mem_of_mem_splitOn p hp, fun special hm => ?_⟩
  obtain ⟨c, -, e⟩ := List.mem_map.1 (mem_of_mem_splitOn hp hm)
  rw [special, Bool.true_and] at e
  split at e
  · cases e
  · next other => exact other (by rw [e]; rfl)

namespace OfPieces

variable {cls : SchemeClass} {P : String → Prop} {segs : List String}

theorem parent (h : ∀ s ∈ segs, P s) : ∀ s ∈ Url.parent segs, P s := by
  unfold Url.parent
  split
  · exact h
  · exact fun s hs => h s (List.dropLast_subset _ hs)

theorem addSegment (of : OfPieces cls P) (h : ∀ s ∈ segs, P s) {p : List Char}
    (hp : IsPiece cls p)
    (last : Bool) : ∀ s ∈ Url.addSegment cls segs (encodeText keepInPath p) last, P s := by
  have behind {front : List String} (h : ∀ s ∈ front, P s) {s : String} (hs : P s) :
      ∀ t ∈ front ++ [s], P t := List.forall_mem_append.2 ⟨h, by simpa using hs⟩
  unfold Url.addSegment
  split
  · split
    · exact behind (OfPieces.parent h) of.empty
    · exact OfPieces.parent h
  next doubleDot =>
  split
  · split
    · exact behind h of.empty
    · exact h
  next dot =>
  rw [Bool.not_eq_true] at dot doubleDot
  split
  · simpa using of.first p hp dot doubleDot
  · exact behind h (of.piece p hp dot doubleDot)

theorem addSegments (of : OfPieces cls P) {pieces : List (List Char)}
    (hp : ∀ p ∈ pieces, IsPiece cls p) :
    ∀ {segs : List String}, (∀ s ∈ segs, P s) → ∀ s ∈ Url.addSegments cls segs pieces, P s := by
  induction pieces with
  | nil => exact fun h => h
  | cons p pieces ih =>
    intro segs h
    obtain ⟨first, later⟩ := List.forall_mem_cons.1 hp
    cases pieces with
    | nil => exact of.addSegment h first true
    | cons p' pieces => exact ih later (of.addSegment h first false)

theorem walk (of : OfPieces cls P) (h : ∀ s ∈ segs, P s) (cs : List Char) :
    ∀ s ∈ Url.walk cls segs cs, P s :=
  of.addSegments isPiece_of_mem_pathPieces h

theorem absolutePath (of : OfPieces cls P) (cs : List Char) :
    ∀ s ∈ Url.absolutePath cls cs, P s := by
  have start : ∀ s ∈ ([] : List String), P s := by simp
  unfold Url.absolutePath
  split
  · split
    · simpa using of.empty
    · exact start
  · split <;> exact of.walk start _

theorem trimFilePath (of : OfPieces cls P) (h : ∀ s ∈ segs, P s) :
    ∀ s ∈ Url.trimFilePath segs, P s := by
  unfold Url.trimFilePath
  split
  · simpa using of.empty
  · exact fun s hs => h s ((List.dropWhile_sublist _).subset hs)

theorem walkFile (of : OfPieces .file P) (cs : List Char) : ∀ s ∈ Url.walkFile [] cs, P s :=
  of.trimFilePath (of.walk (by simp) cs)

end OfPieces

/-! ## Texts without marks -/

def Markless (s : String) : Prop := ∀ c ∈ s.toList, c ≠ '?' ∧ c ≠ '#'

instance (s : String) : Decidable (Markless s) :=
  decidable_of_iff (s.toList.all fun c => c != '?' && c != '#') (by simp [Markless])

theorem markless_of_class {p : Char → Bool} (mark : p '?' = false) (hash : p '#' = false)
    {s : String} (h : ∀ c ∈ s.toList, p c) : Markless s :=
  fun c hc => ⟨ne_of_class (h c hc) mark, ne_of_class (h c hc) hash⟩

theorem markless_of_numeral {s : String} (h : Numeral s.toList) : Markless s :=
  markless_of_class (by decide) (by decide) h

theorem Markless.append {s t : String} (hs : Markless s) (ht : Markless t) : Markless (s ++ t) := by
  unfold Markless
  rw [String.toList_append]
  exact List.forall_mem_append.2 ⟨hs, ht⟩

theorem markless_encodeText {keep : Char → Bool} {cs : List Char}
    (h : ∀ c ∈ cs, keep c → c ≠ '?' ∧ c ≠ '#') : Markless (encodeText keep cs) := by
  intro c hc
  rw [encodeText, String.toList_ofList] at hc
  rcases Percent.encodeWith_alphabet hc with ⟨hm, kept⟩ | plain | rfl
  · exact h c hm kept
  · exact ⟨ne_of_class plain (by decide), ne_of_class plain (by decide)⟩
  · decide

theorem markless_firstSegment {cls : SchemeClass} {seg : String} (h : Markless seg) :
    Markless (firstSegment cls seg) := by
  unfold firstSegment
  split
  · refine .append (fun c hc => ?_) (by decide)
    rw [String.toList_ofList] at hc
    exact h c (List.mem_of_mem_take hc)
  · exact h

theorem markless_piece (cs : List Char) : Markless (encodeText keepInPath cs) :=
  markless_encodeText fun _ _ kept => ⟨ne_of_class kept (by decide), ne_of_class kept (by decide)⟩

theorem ofPieces_markless (cls : SchemeClass) : OfPieces cls Markless where
  empty := by decide
  piece _ _ _ _ := markless_piece _
  first _ _ _ _ := markless_firstSegment (markless_piece _)

/-! ## Hosts -/

theorem numeral_ipv6Text (pieces : List Nat) : Numeral (Host.ipv6Text pieces).toList := by
  have hex (n : Nat) : Numeral (Host.hexText n).toList := fun c hc => by
    rw [Host.hexText, String.toList_ofList] at hc
    simp [isNumeral, isHexDigit_of_mem_toDigits n c hc]
  have joined (ps : List Nat) : Numeral (String.intercalate ":" (ps.map Host.hexText)).toList := by
    induction ps with
    | nil => exact .nil
    | cons p ps ih =>
      cases ps with
      | nil => simpa using hex p
      | cons p' ps =>
        rw [List.map_cons, List.map_cons, String.intercalate_cons_cons, ← List.map_cons,
          String.toList_append, String.toList_append]
        exact ((hex p).append (.cons (by decide) .nil)).append ih
  unfold Host.ipv6Text
  dsimp only
  split
  · exact joined _
  · rw [String.toList_append, String.toList_append]
    exact ((joined _).append (.cons (by decide) (.cons (by decide) .nil))).append (joined _)

theorem numeral_ipv4Text (n : Nat) : Numeral (Host.ipv4Text n).toList := by
  have point : Numeral ".".toList := .cons (by decide) .nil
  simp only [Host.ipv4Text, String.toList_append]
  exact (((((Numeral.natText _).append point).append (.natText _)).append point).append
    (.natText _)).append point |>.append (.natText _)

theorem markless_bracketed {cs : List Char} {t : String} (h : Host.bracketed cs = .ok t) :
    Markless t := by
  unfold Host.bracketed at h
  split at h
  · split at h
    · next pieces _ =>
      cases h
      exact .append (.append (by decide) (markless_of_numeral (numeral_ipv6Text _))) (by decide)
    · cases h
  · cases h

theorem markless_domain {cs : List Char} {t : String} (h : Host.domain cs = .ok t) :
    Markless t := by
  unfold Host.domain at h
  split at h
  · exact markless_bracketed h
  · dsimp only at h
    split at h
    · cases h
    next allowed =>
    split at h
    · cases h
    split at h
    · split at h
      · next address found =>
        cases h
        obtain ⟨n, -, rfl⟩ := Option.map_eq_some_iff.1 found
        exact markless_of_numeral (numeral_ipv4Text n)
      · cases h
    · cases h
      rw [Bool.or_eq_true, not_or, Bool.not_eq_true, List.any_eq_false] at allowed
      intro c hc
      rw [String.toList_ofList] at hc
      have plain := allowed.1 c hc
      constructor <;> rintro rfl <;> exact plain (by decide)

theorem markless_opaqueName {cs : List Char} {t : String} (h : Host.opaqueName cs = .ok t) :
    Markless t := by
  unfold Host.opaqueName at h
  split at h
  · exact markless_bracketed h
  split at h
  · cases h
  · next allowed =>
    cases h
    rw [Bool.not_eq_true, List.any_eq_false] at allowed
    refine markless_encodeText fun c hc _ => ?_
    have plain := allowed c hc
    constructor <;> rintro rfl <;> exact plain (by decide)

/-! ## Authorities -/

theorem markless_credentialsText (cs : List Char) : Markless (credentialsText cs) := by
  have coded (cs : List Char) : Markless (encodeText keepInCredentials cs) :=
    markless_encodeText fun _ _ kept => ⟨ne_of_class kept (by decide), ne_of_class kept (by decide)⟩
  unfold credentialsText
  split
  · split
    · exact coded _
    · exact .append (.append (coded _) (by decide)) (coded _)
  · exact coded _

theorem ok_of_bind {α β : Type} {x : Except ParseError α} {f : α → Except ParseError β} {r : β}
    (h : (x >>= f) = .ok r) : ∃ a, x = .ok a ∧ f a = .ok r := by
  cases x with
  | error e => cases h
  | ok a => exact ⟨a, rfl, h⟩

theorem markless_readAuthority {scheme : String} {cs path rest : List Char} {atEnd : Bool}
    {a : Authority} (h : readAuthority scheme cs path atEnd = .ok (a, rest)) :
    Markless a.credentials ∧ Markless a.host := by
  unfold readAuthority at h
  dsimp only at h
  split at h
  · cases h
  split at h
  · cases h
  split at h
  all_goals
    obtain ⟨host, read, h⟩ := ok_of_bind h
    split at h
    · cases h
    obtain ⟨port, -, h⟩ := ok_of_bind h
    split at h
    · cases h
    cases h
    refine ⟨markless_credentialsText _, ?_⟩
  · exact markless_domain read
  · exact markless_opaqueName read

/-! ## URLs -/

/-- A URL without marks but for those in front of query and fragment. -/
structure Clean (u : Url) : Prop where
  scheme : Markless u.scheme
  authority : ∀ a, u.authority = some a → Markless a.credentials ∧ Markless a.host
  path : ∀ s ∈ u.path.parts, Markless s

theorem markless_toLower {c : Char} (h : c.isAlphanum || c == '+' || c == '-' || c == '.') :
    c.toLower ≠ '?' ∧ c.toLower ≠ '#' := by
  have ascii : c.toNat < 128 := by
    simp only [Bool.or_eq_true, beq_iff_eq] at h
    rcases h with ((h | rfl) | rfl) | rfl
    · exact ascii_of_isAlphanum h
    all_goals decide
  exact of_ascii (P := fun c => c.isAlphanum || c == '+' || c == '-' || c == '.' →
    c.toLower ≠ '?' ∧ c.toLower ≠ '#') (by decide) ascii h

theorem markless_scheme {cs rest : List Char} {scheme : String}
    (h : splitScheme? cs = some (scheme, rest)) : Markless scheme := by
  unfold splitScheme? at h
  split at h
  · cases h
  split at h
  · cases h
  split at h
  · split at h
    · next allowed =>
      cases h
      intro c hc
      rw [String.toList_ofList] at hc
      obtain ⟨d, hd, rfl⟩ := List.mem_map.1 hc
      exact markless_toLower (List.all_eq_true.1 allowed d hd)
    · cases h
  · cases h

theorem clean_of_afterSlashes {scheme : String} {cs : List Char} {cut : Cut} {u : Url}
    (h : afterSlashes scheme cs cut = .ok u) (plain : Markless scheme) : u.Clean := by
  unfold afterSlashes at h
  obtain ⟨⟨a, rest⟩, read, h⟩ := ok_of_bind h
  cases h
  obtain ⟨credentials, host⟩ := markless_readAuthority read
  exact ⟨plain, by simpa using ⟨credentials, host⟩, (ofPieces_markless _).absolutePath _⟩

theorem markless_readFileHost {cs : List Char} {host : String} {segs : List String}
    (h : readFileHost cs = .ok (host, segs)) : Markless host ∧ ∀ s ∈ segs, Markless s := by
  have of := ofPieces_markless .file
  have none : Markless "" := by decide
  unfold readFileHost at h
  dsimp only at h
  split at h
  · cases h; exact ⟨none, of.walkFile _⟩
  split at h
  all_goals
    obtain ⟨found, read, h⟩ := ok_of_bind h
    split at h
    · cases h; exact ⟨none, of.walkFile _⟩
    cases h
    refine ⟨?_, of.trimFilePath (of.absolutePath _)⟩
    split
    · exact none
  · cases read; exact none
  · exact markless_domain read

theorem markless_readFilePath {cs : List Char} {host : String} {segs : List String}
    (h : readFilePath "" [] cs = .ok (host, segs)) : Markless host ∧ ∀ s ∈ segs, Markless s := by
  have of := ofPieces_markless .file
  have none : Markless "" := by decide
  unfold readFilePath at h
  split at h
  · cases h; exact ⟨none, by simp [none]⟩
  split at h
  · split at h
    · exact markless_readFileHost h
    · simp only [readFileRoot] at h
      split at h <;> cases h <;> exact ⟨none, of.walkFile _⟩
  split at h <;> cases h <;> exact ⟨none, of.walkFile _⟩

theorem clean_of_readFile {cut : Cut} {cs : List Char} {u : Url}
    (h : readFile cut cs none = .ok u) : u.Clean := by
  unfold readFile at h
  obtain ⟨⟨host, segs⟩, read, h⟩ := ok_of_bind h
  cases h
  obtain ⟨plain, path⟩ := markless_readFilePath read
  refine ⟨(by decide : Markless "file"), fun a ha => ?_, path⟩
  cases ha
  exact ⟨(by decide : Markless ""), plain⟩

theorem clean_of_parse {s : String} {u : Url} (h : parse s = .ok u) : u.Clean := by
  unfold parse parseWith at h
  dsimp only at h
  split at h
  · next scheme cs found =>
    have plain := markless_scheme found
    unfold readWithScheme at h
    split at h
    · exact clean_of_readFile h
    · exact clean_of_afterSlashes h plain
    · split at h
      · exact clean_of_afterSlashes h plain
      · cases h
        exact ⟨plain, by simp, (ofPieces_markless _).walk (by simp) _⟩
      · cases h
        exact ⟨plain, by simp, by simp [Path.parts]⟩
  · cases h

theorem markless_authority {a : Authority} (credentials : Markless a.credentials)
    (host : Markless a.host) : Markless a.text := by
  unfold Authority.text
  refine .append (.append ?_ host) ?_
  · split
    · decide
    · exact credentials.append (by decide)
  · split
    · exact .append (by decide) (markless_of_numeral (.natText _))
    · decide

/-- Without query and fragment no mark is written. -/
theorem Clean.text {u : Url} (h : u.Clean) (hierarchical : u.path.isHierarchical)
    (query : u.query = none) (fragment : u.fragment = none) : Markless u.text := by
  have path : Markless u.path.text := by
    have parts := h.path
    cases segments : u.path with
    | opaqueText t => rw [segments] at hierarchical; cases hierarchical
    | segments ps =>
      rw [segments, Path.parts] at parts
      intro c hc
      rw [Path.text, String.toList_join] at hc
      obtain ⟨_, hs, hc⟩ := List.mem_flatMap.1 hc
      obtain ⟨part, hp, rfl⟩ := List.mem_map.1 hs
      exact Markless.append (by decide) (parts part hp) c hc
  have authority : Markless u.authorityText := by
    unfold authorityText
    split
    · next a found =>
      obtain ⟨credentials, host⟩ := h.authority a found
      exact .append (by decide) (markless_authority credentials host)
    · split <;> decide
  rw [Url.text, query, fragment]
  exact ((((h.scheme.append (by decide)).append authority).append path).append (by decide)).append
    (by decide)

end OData.Url
