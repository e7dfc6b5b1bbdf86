import OData.Literal
import OData.Url.Parser
import OData.Proofs.Text.CharClass
import OData.Proofs.Text.Percent

/-!
# References that are appended

Resolving a reference against a root cuts it, decides whether it starts with a scheme,
removes dot segments and codes what may not stay. `Plain` says when none of this changes
anything: then the URL is the root with the reference behind it (`join_plain`,
`text_beneath`).
-/

namespace OData.Url

open Text

/-! ## Cutting -/

theorem splitAtFirst_none {p : Char → Bool} {cs : List Char} (h : ∀ c ∈ cs, p c = false) :
    splitAtFirst p cs = (cs, none) := by
  induction cs with
  | nil => rfl
  | cons c cs ih =>
    obtain ⟨hc, hcs⟩ := List.forall_mem_cons.1 h
    rw [splitAtFirst, if_neg (by simp [hc]), ih hcs]

theorem splitAtFirst_some {p : Char → Bool} {cs : List Char} {x : Char}
    (h : ∀ c ∈ cs, p c = false) (hx : p x) (rest : List Char) :
    splitAtFirst p (cs ++ x :: rest) = (cs, some rest) := by
  induction cs with
  | nil => rw [List.nil_append, splitAtFirst, if_pos hx]
  | cons c cs ih =>
    obtain ⟨hc, hcs⟩ := List.forall_mem_cons.1 h
    rw [List.cons_append, splitAtFirst, if_neg (by simp [hc]), ih hcs]

/-- What precedes the first character of a class starts as the text does, as long as the text
has no character of the class. -/
theorem splitAtFirst_append {p : Char → Bool} {w : List Char} (h : ∀ c ∈ w, p c = false)
    (t : List Char) :
    splitAtFirst p (w ++ t) = (w ++ (splitAtFirst p t).1, (splitAtFirst p t).2) := by
  induction w with
  | nil => rfl
  | cons c w ih =>
    obtain ⟨hc, hw⟩ := List.forall_mem_cons.1 h
    rw [List.cons_append, splitAtFirst, if_neg (by simp [hc]), ih hw]
    rfl

/-- Without marks there is neither query nor fragment. -/
theorem Cut.of_plain {cs : List Char} (h : ∀ c ∈ cs, c ≠ '#' ∧ c ≠ '?') :
    Cut.of cs = ⟨cs, none, none⟩ := by
  have noHash : ∀ c ∈ cs, (c == '#') = false := fun c hc => beq_eq_false_iff_ne.2 (h c hc).1
  have noMark : ∀ c ∈ cs, (c == '?') = false := fun c hc => beq_eq_false_iff_ne.2 (h c hc).2
  unfold Cut.of
  rw [splitAtFirst_none noHash]
  dsimp only
  rw [splitAtFirst_none noMark]

theorem dropWhile_blank {cs : List Char} (h : ∀ c ∈ cs, 0x20 < c.toNat) :
    cs.dropWhile (fun c => decide (c.toNat ≤ 0x20)) = cs := by
  cases cs with
  | nil => rfl
  | cons c cs =>
    have hc := h c List.mem_cons_self
    exact List.dropWhile_cons_of_neg (by simpa using hc)

theorem clean_visible {cs : List Char} (h : ∀ c ∈ cs, 0x20 < c.toNat) :
    clean (String.ofList cs) = cs := by
  have ends : clean.stripEnds cs = cs := by
    have back : ∀ c ∈ cs.reverse, 0x20 < c.toNat := fun c hc => h c (List.mem_reverse.1 hc)
    unfold clean.stripEnds
    dsimp only
    rw [dropWhile_blank h, dropWhile_blank back, List.reverse_reverse]
  rw [clean, String.toList_ofList, ends]
  refine List.filter_eq_self.2 fun c hc => ?_
  have visible := h c hc
  simp only [Bool.not_eq_true', Bool.or_eq_false_iff, beq_eq_false_iff_ne]
  refine ⟨⟨?_, ?_⟩, ?_⟩ <;> rintro rfl <;> revert visible <;> decide

/-! ## Coding -/

theorem encodeText_kept {keep : Char → Bool} {cs : List Char} (h : ∀ c ∈ cs, keep c) :
    encodeText keep cs = String.ofList cs := by
  unfold encodeText Percent.encodeWith
  congr 1
  induction cs with
  | nil => rfl
  | cons c cs ih =>
    obtain ⟨hc, hcs⟩ := List.forall_mem_cons.1 h
    rw [List.flatMap_cons, ih hcs, Percent.encodeChar, if_pos hc]
    rfl

/-- If what coding writes may stay, all that it leaves may stay. -/
theorem kept_encodeText {keep : Char → Bool} (unreserved : ∀ c, Percent.isUnreserved c → keep c)
    (percent : keep '%') (cs : List Char) : ∀ c ∈ (encodeText keep cs).toList, keep c := by
  intro c hc
  rw [encodeText, String.toList_ofList] at hc
  rcases Percent.encodeWith_alphabet hc with ⟨-, kept⟩ | plain | rfl
  · exact kept
  · exact unreserved c plain
  · exact percent

/-- Coding brings in no reserved character but the percent sign. -/
theorem not_mem_encodeText {keep : Char → Bool} {x : Char} {cs : List Char} (h : x ∉ cs)
    (reserved : Percent.isUnreserved x = false) (sign : x ≠ '%') :
    x ∉ (encodeText keep cs).toList := by
  rw [encodeText, String.toList_ofList]
  intro hm
  rcases Percent.encodeWith_alphabet hm with ⟨source, -⟩ | plain | e
  · exact h source
  · rw [reserved] at plain
    cases plain
  · exact sign e

/-- A printable character other than the space is no blank. -/
theorem visible_of_keepPrintable {c : Char} (h : keepPrintable c) (hs : c ≠ ' ') :
    0x20 < c.toNat := by
  simp only [keepPrintable, Bool.and_eq_true, decide_eq_true_eq] at h
  have space : c.toNat ≠ 0x20 := fun e => hs (by rw [← Char.ofNat_toNat c, e])
  omega

theorem visible_of_keepInPath {c : Char} (h : keepInPath c) :
    0x20 < c.toNat ∧ c ≠ '#' ∧ c ≠ '?' := by
  have printable : keepPrintable c := by
    simp only [keepInPath, keepInFragment, Bool.and_eq_true] at h
    exact h.1.1
  exact ⟨visible_of_keepPrintable printable (ne_of_class h (by decide)),
    ne_of_class h (by decide), ne_of_class h (by decide)⟩

theorem visible_of_keepInQuery {c : Char} (h : keepInQuery true c) :
    0x20 < c.toNat ∧ c ≠ '#' := by
  have printable : keepPrintable c := by
    simp only [keepInQuery, Bool.and_eq_true] at h
    exact h.1.1
  exact ⟨visible_of_keepPrintable printable (ne_of_class h (by decide)),
    ne_of_class h (by decide)⟩

/-! ## References without a scheme -/

theorem splitScheme?_of_noColon {cs : List Char} (h : ∀ c ∈ cs, c ≠ ':') :
    splitScheme? cs = none := by
  have noColon : ∀ c ∈ cs, (c == ':') = false := fun c hc => beq_eq_false_iff_ne.2 (h c hc)
  unfold splitScheme?
  split
  · rfl
  · split
    · rfl
    · rw [splitAtFirst_none noColon]

/-- A reference that starts with an identifier and then, if it goes on, with a parenthesis or a
slash: no colon can end a scheme before it. -/
structure Named (body : List Char) (w t : List Char) : Prop where
  split : body = w ++ t
  word : Literal.isIdentifier w
  next : ∀ c ∈ t.head?, c = '(' ∨ c = '/'

theorem isWordChar_of_isIdentifier {w : List Char} (h : Literal.isIdentifier w) :
    ∀ c ∈ w, isWordChar c := by
  cases w with
  | nil => simp
  | cons c w =>
    simp only [Literal.isIdentifier, Bool.and_eq_true, Bool.or_eq_true, List.all_eq_true] at h
    refine List.forall_mem_cons.2 ⟨?_, h.2⟩
    rcases h.1 with h | h <;> simp [isWordChar, Char.isAlphanum, h]

theorem Named.head {body w t : List Char} (h : Named body w t) :
    ∃ c rest, body = c :: rest ∧ isWordChar c := by
  obtain ⟨rfl, word, -⟩ := h
  cases w with
  | nil => cases word
  | cons c w =>
    exact ⟨c, w ++ t, rfl, isWordChar_of_isIdentifier word c List.mem_cons_self⟩

theorem Named.splitScheme? {body w t : List Char} (h : Named body w t) :
    splitScheme? body = none := by
  obtain ⟨c, rest, hb, -⟩ := h.head
  obtain ⟨hs, word, next⟩ := h
  have plain : ∀ c ∈ w, (c == ':') = false := fun c hc =>
    beq_eq_false_iff_ne.2 (ne_of_class (isWordChar_of_isIdentifier word c hc) (by decide))
  have cut := splitAtFirst_append plain t
  rw [← hs] at cut
  unfold Url.splitScheme?
  rw [hb]
  dsimp only
  rw [← hb, cut]
  split
  · rfl
  cases t with
  | nil => rfl
  | cons x t =>
    have mark : x = '(' ∨ x = '/' := next x rfl
    have noColon : (x == ':') = false := by rcases mark with rfl | rfl <;> decide
    have stop : (x.isAlphanum || x == '+' || x == '-' || x == '.') = false := by
      rcases mark with rfl | rfl <;> decide
    rw [splitAtFirst, if_neg (by simp [noColon])]
    cases (splitAtFirst (· == ':') t).2 with
    | none => rfl
    | some rest =>
      dsimp only
      rw [if_neg]
      simp [stop]

/-! ## Segments -/

/-- A segment that is not read as a dot. -/
def Undotted (seg : List Char) : Prop := ∃ c rest, seg = c :: rest ∧ c ≠ '.' ∧ c ≠ '%'

def Proper (seg : List Char) : Prop :=
  isDot (String.ofList seg) = false ∧ isDoubleDot (String.ofList seg) = false

theorem Undotted.proper {seg : List Char} (h : Undotted seg) : Proper seg := by
  obtain ⟨c, rest, rfl, dot, percent⟩ := h
  constructor
  · simp [Url.isDot, ← String.toList_inj, dot, percent]
  · simp [Url.isDoubleDot, ← String.toList_inj, dot, percent]

theorem addSegment_proper {seg : List Char} (h : Proper seg) (segs : List String)
    (last : Bool) :
    addSegment .web segs (String.ofList seg) last = segs ++ [String.ofList seg] := by
  rw [addSegment, h.2, h.1, if_neg (by decide), if_neg (by decide)]
  cases segs with
  | nil => rfl
  | cons s segs => rfl

theorem addSegments_plain {pieces : List (List Char)} (kept : ∀ p ∈ pieces, ∀ c ∈ p, keepInPath c)
    (proper : ∀ p ∈ pieces, Proper p) :
    ∀ segs, addSegments .web segs pieces = segs ++ pieces.map String.ofList := by
  induction pieces with
  | nil => intro segs; simp [addSegments]
  | cons p pieces ih =>
    intro segs
    obtain ⟨hk, hks⟩ := List.forall_mem_cons.1 kept
    obtain ⟨hp, hps⟩ := List.forall_mem_cons.1 proper
    cases pieces with
    | nil => rw [addSegments, encodeText_kept hk, addSegment_proper hp]; rfl
    | cons p' pieces =>
      rw [addSegments, encodeText_kept hk, addSegment_proper hp, ih hks hps]
      · simp
      · simp

theorem mem_intercalate_of_mem {sep p : List Char} {ps : List (List Char)} {c : Char} (hp : p ∈ ps)
    (hc : c ∈ p) : c ∈ sep.intercalate ps := by
  induction ps with
  | nil => cases hp
  | cons p' ps ih =>
    cases ps with
    | nil =>
      rw [List.mem_singleton.1 hp] at hc
      rwa [List.intercalate_singleton]
    | cons p'' ps =>
      rw [List.intercalate_cons_cons, List.mem_append, List.mem_append]
      rcases List.mem_cons.1 hp with rfl | hp
      · exact .inl (.inl hc)
      · exact .inr (ih hp)

theorem mem_of_mem_splitOn {x c : Char} {cs p : List Char} (hp : p ∈ cs.splitOn x) (hc : c ∈ p) :
    c ∈ cs := by
  have pieces : [x].intercalate (cs.splitOn x) = cs := List.intercalate_splitOn x
  rw [← pieces]
  exact mem_intercalate_of_mem hp hc

theorem pathPieces_plain {body : List Char} (h : '\\' ∉ body) :
    pathPieces true body = body.splitOn '/' := by
  have same : ∀ c ∈ body, (if true && c == '\\' then '/' else c) = id c := by
    intro c hc
    rw [if_neg]
    · rfl
    · rintro e
      obtain rfl : c = '\\' := by simpa using e
      exact h hc
  rw [pathPieces, List.map_congr_left same, List.map_id]

theorem walk_plain {body : List Char} (kept : ∀ c ∈ body, keepInPath c ∧ c ≠ '\\')
    (proper : ∀ p ∈ body.splitOn '/', Proper p) (segs : List String) :
    walk .web segs body = segs ++ (body.splitOn '/').map String.ofList := by
  have keptPieces : ∀ p ∈ body.splitOn '/', ∀ c ∈ p, keepInPath c := fun p hp c hc =>
    (kept c (mem_of_mem_splitOn hp hc)).1
  rw [walk, SchemeClass.isSpecial, pathPieces_plain fun hm => (kept _ hm).2 rfl]
  · exact addSegments_plain keptPieces proper segs
  · simp

/-! ## Joining -/

def IsService (scheme : String) : Prop := scheme = "http" ∨ scheme = "https"

theorem IsService.web {scheme : String} (h : IsService scheme) : SchemeClass.of scheme = .web := by
  rcases h with rfl | rfl <;> decide

theorem IsService.ne_file {scheme : String} (h : IsService scheme) :
    (scheme == "file") = false := by
  rcases h with rfl | rfl <;> decide

/-- A URL of a service whose path ends in `/`, below which references are resolved. -/
structure Root (u : Url) (front : List String) : Prop where
  scheme : IsService u.scheme
  authority : u.authority.isSome
  path : u.path = .segments (front ++ [""])
  query : u.query = none
  fragment : u.fragment = none

theorem Root.hierarchical {u : Url} {front : List String} (h : u.Root front) :
    u.path.isHierarchical = true := by
  rw [h.path]
  rfl

/-- There is nothing to be left out of a root. -/
theorem Root.bare {u : Url} {front : List String} (h : u.Root front) :
    { u with query := none, fragment := none } = u := by
  have query := h.query
  have fragment := h.fragment
  cases u
  dsimp only at query fragment
  rw [query, fragment]

/-- A reference of which resolving changes nothing. -/
structure Plain (body : List Char) (query : Option (List Char)) : Prop where
  named : ∃ w t, Named body w t
  kept : ∀ c ∈ body, keepInPath c ∧ c ≠ '\\'
  undotted : ∀ p ∈ body.splitOn '/', Undotted p
  query : ∀ q ∈ query, ∀ c ∈ q, keepInQuery true c

def reference (body : List Char) (query : Option (List Char)) : List Char :=
  body ++ query.elim [] ('?' :: ·)

def beneath (root : Url) (front : List String) (body : List Char) (query : Option (List Char)) :
    Url :=
  { root with
    path := .segments (front ++ (body.splitOn '/').map String.ofList)
    query := query.map String.ofList }

theorem Plain.cut {body : List Char} {query : Option (List Char)} (h : Plain body query) :
    Cut.of (reference body query) = ⟨body, query, none⟩ := by
  have path : ∀ c ∈ body, (c == '?') = false := fun c hc => by
    simpa using (visible_of_keepInPath (h.kept c hc).1).2.2
  have noHash : ∀ c ∈ reference body query, (c == '#') = false := by
    intro c hc
    rcases List.mem_append.1 hc with hc | hc
    · simpa using (visible_of_keepInPath (h.kept c hc).1).2.1
    · cases query with
      | none => cases hc
      | some q =>
        rcases List.mem_cons.1 hc with rfl | hc
        · rfl
        · simpa using (visible_of_keepInQuery (h.query q rfl c hc)).2
  unfold Cut.of
  rw [splitAtFirst_none noHash]
  cases query with
  | none =>
    rw [reference, Option.elim_none, List.append_nil]
    dsimp only
    rw [splitAtFirst_none path]
  | some q =>
    rw [reference, Option.elim_some]
    dsimp only
    rw [splitAtFirst_some path rfl]

theorem Plain.clean {body : List Char} {query : Option (List Char)} (h : Plain body query) :
    clean (String.ofList (reference body query)) = reference body query := by
  refine clean_visible fun c hc => ?_
  rcases List.mem_append.1 hc with hc | hc
  · exact (visible_of_keepInPath (h.kept c hc).1).1
  · cases query with
    | none => cases hc
    | some q =>
      rcases List.mem_cons.1 hc with rfl | hc
      · decide
      · exact (visible_of_keepInQuery (h.query q rfl c hc)).1

theorem readRelative_plain {root : Url} {front : List String} (hr : root.Root front)
    {body : List Char} {query : Option (List Char)} (h : Plain body query) :
    readRelative ⟨body, query, none⟩ body root = .ok (beneath root front body query) := by
  obtain ⟨w, t, named⟩ := h.named
  obtain ⟨c, rest, hb, wordChar⟩ := named.head
  have slash : c ≠ '/' ∧ c ≠ '\\' :=
    ⟨ne_of_class wordChar (by decide), ne_of_class wordChar (by decide)⟩
  have walked := walk_plain h.kept (fun p hp => (h.undotted p hp).proper) front
  have coded : query.map (encodeText (keepInQuery true)) = query.map String.ofList :=
    Option.map_congr fun q hq => encodeText_kept (h.query q hq)
  subst hb
  unfold readRelative
  dsimp only
  rw [hr.scheme.web, SchemeClass.isSpecial, coded]
  · split
    · next e => cases e
    · next e => exact absurd (List.cons.inj e).1 slash.1
    · next e =>
      cases e
      rw [if_neg, hr.path, Path.parts, List.dropLast_concat, walked]
      · rw [beneath, hr.fragment]
        rfl
      · simp [slash]
  · simp

theorem join_plain {root : Url} {front : List String} (hr : root.Root front)
    {body : List Char} {query : Option (List Char)} (h : Plain body query) :
    root.join (String.ofList (reference body query)) = .ok (beneath root front body query) := by
  obtain ⟨w, t, named⟩ := h.named
  unfold join parseWith
  dsimp only
  rw [h.clean, h.cut]
  dsimp only
  rw [named.splitScheme?]
  dsimp only
  rw [hr.hierarchical, hr.scheme.ne_file, readRelative_plain hr h]
  simp

/-! ## Reading URLs of the web -/

theorem parts_of_afterSlashes {scheme : String} {cs : List Char} {cut : Cut} {u : Url}
    (h : afterSlashes scheme cs cut = .ok u) :
    u.scheme = scheme ∧
      u.query = cut.query.map (encodeText (keepInQuery (SchemeClass.of scheme).isSpecial)) ∧
      u.fragment = cut.fragment.map (encodeText keepInFragment) := by
  unfold afterSlashes at h
  dsimp only at h
  cases read : readAuthority scheme (cs.takeWhile fun c => !isSlash (.of scheme) c)
      (cs.dropWhile fun c => !isSlash (.of scheme) c) (cut.query.isNone && cut.fragment.isNone) with
  | error e => rw [read] at h; cases h
  | ok found => rw [read] at h; cases h; exact ⟨rfl, rfl, rfl⟩

theorem drop_length_takeWhile (p : Char → Bool) (cs : List Char) :
    cs.drop (cs.takeWhile p).length = cs.dropWhile p := by
  conv => lhs; arg 2; rw [← List.takeWhile_append_dropWhile (p := p) (l := cs)]
  exact List.drop_left

/-- What is read as a URL of a service has its scheme, slashes and an authority. -/
theorem afterSlashes_of_readWithScheme {scheme : String} {cs : List Char} {cut : Cut} {u : Url}
    (h : readWithScheme scheme cs cut none = .ok u) (service : IsService u.scheme) :
    scheme = u.scheme ∧
      afterSlashes u.scheme (cs.dropWhile fun c => c == '/' || c == '\\') cut = .ok u := by
  unfold readWithScheme at h
  split at h
  · unfold readFile at h
    dsimp only [Option.filter_none] at h
    cases read : readFilePath "" [] cs with
    | error e => simp [read, bind, Except.bind] at h
    | ok found =>
      simp only [Option.bind_none, Option.elim_none, read, bind, Except.bind, pure,
        Except.pure, Except.ok.injEq] at h
      rw [← h] at service
      rcases service with e | e <;> simp at e
  · dsimp only at h
    rw [drop_length_takeWhile] at h
    obtain ⟨rfl, -⟩ := parts_of_afterSlashes h
    exact ⟨rfl, h⟩
  · next other =>
    have scheme_of (e : u.scheme = scheme) : False := by
      rw [← e, service.web] at other
      cases other
    split at h
    · exact absurd (parts_of_afterSlashes h).1 scheme_of
    · cases h; exact absurd rfl scheme_of
    · cases h; exact absurd rfl scheme_of

theorem afterSlashes_of_parse {s : String} {u : Url} (h : parse s = .ok u)
    (service : IsService u.scheme) :
    ∃ cs, splitScheme? (Cut.of (clean s)).body = some (u.scheme, cs) ∧
      afterSlashes u.scheme (cs.dropWhile fun c => c == '/' || c == '\\') (Cut.of (clean s)) =
        .ok u := by
  unfold parse parseWith at h
  dsimp only at h
  split at h
  · next scheme cs found =>
    obtain ⟨rfl, read⟩ := afterSlashes_of_readWithScheme h service
    exact ⟨cs, found, read⟩
  · cases h

/-! ## The text of the URL -/

theorem join_segments (p : List Char) (ps : List (List Char)) :
    String.join (((p :: ps).map String.ofList).map ("/" ++ ·)) =
      "/" ++ String.ofList (['/'].intercalate (p :: ps)) := by
  induction ps generalizing p with
  | nil => simp
  | cons p' ps ih =>
    rw [List.map_cons, List.map_cons, String.join_cons, ih p', List.intercalate_cons_cons]
    exact String.toList_injective (by simp)

theorem text_segments (front : List String) (body : List Char) :
    Path.text (.segments (front ++ (body.splitOn '/').map String.ofList)) =
      Path.text (.segments (front ++ [""])) ++ String.ofList body := by
  have pieces : ['/'].intercalate (body.splitOn '/') = body := List.intercalate_splitOn '/'
  cases split : body.splitOn '/' with
  | nil => exact absurd split (List.splitOn_ne_nil '/' body)
  | cons p ps =>
    rw [split] at pieces
    rw [Path.text, Path.text, List.map_append, List.map_append, String.join_append,
      String.join_append, join_segments, pieces]
    simp [String.append_assoc]

theorem text_beneath {root : Url} {front : List String} (hr : root.Root front)
    (body : List Char) (query : Option (List Char)) :
    (beneath root front body query).text = root.text ++ String.ofList (reference body query) := by
  obtain ⟨a, ha⟩ := Option.isSome_iff_exists.1 hr.authority
  have authority (u : Url) (h : u.authority = some a) : u.authorityText = "//" ++ a.text := by
    rw [authorityText, h]
  rw [text, text, authority _ ha, authority (beneath root front body query) ha, hr.query,
    hr.fragment, hr.path]
  simp only [beneath, hr.fragment, text_segments]
  cases query <;> exact String.toList_injective (by simp [reference])

/-- No such reference starts like the root: the word at its front would have to end in a
colon. -/
theorem text_not_prefix {root : Url} {front : List String} (hr : root.Root front)
    {body : List Char} {query : Option (List Char)} (h : Plain body query) :
    ¬root.text.toList <+: reference body query := by
  rintro ⟨more, e⟩
  obtain ⟨w, t, named⟩ := h.named
  have schemeWord : ∀ c ∈ root.scheme.toList, isWordChar c := by
    rcases hr.scheme with e | e <;> rw [e] <;> exact List.all_eq_true.1 (by decide)
  obtain ⟨rest, chars⟩ : ∃ rest, root.text.toList = root.scheme.toList ++ ':' :: rest := by
    rw [text]
    exact ⟨_, by simp only [String.toList_append, List.append_assoc]; rfl⟩
  have colon : (reference body query).dropWhile isWordChar = ':' :: (rest ++ more) := by
    rw [← e, chars, List.append_assoc, List.cons_append, List.dropWhile_append_of_pos schemeWord,
      List.dropWhile_cons_of_neg (by decide)]
  have next : (reference body query).dropWhile isWordChar =
      (t ++ query.elim [] ('?' :: ·)).dropWhile isWordChar := by
    rw [reference, named.split, List.append_assoc,
      List.dropWhile_append_of_pos (isWordChar_of_isIdentifier named.word)]
  rw [next] at colon
  cases t with
  | nil =>
    cases query with
    | none => cases colon
    | some q =>
      rw [List.nil_append, Option.elim_some, List.dropWhile_cons_of_neg (by decide)] at colon
      cases colon
  | cons x t =>
    rcases named.next x rfl with rfl | rfl <;>
      rw [List.cons_append, List.dropWhile_cons_of_neg (by decide)] at colon <;> cases colon

end OData.Url
