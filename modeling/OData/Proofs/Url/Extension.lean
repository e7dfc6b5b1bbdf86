import OData.Proofs.Url.Resolution

/-!
# URLs below a root

A link that starts with the text of a root leads below the root (`join_below`). Its rest,
resolved against the root by itself, leads to the same URL if it reads as a path, a query
or a fragment when it stands alone (`Continues`, `join_continues`). It does not if it
starts with a slash, which then leads out of the root, or with what looks like a scheme.
-/

namespace OData.Url

open Text

/-! ## Cutting -/

theorem splitAtFirst_of_none {p : Char → Bool} {cs : List Char}
    (h : (splitAtFirst p cs).2 = none) : ∀ c ∈ cs, p c = false := by
  induction cs with
  | nil => simp
  | cons c cs ih =>
    rw [splitAtFirst] at h
    split at h
    · cases h
    · next hc => exact List.forall_mem_cons.2 ⟨by simpa using hc, ih h⟩

/-- A text without query and fragment is all body, and what follows it is cut by itself. -/
theorem Cut.of_append {cs : List Char} (query : (Cut.of cs).query = none)
    (fragment : (Cut.of cs).fragment = none) (t : List Char) :
    Cut.of (cs ++ t) = ⟨cs ++ (Cut.of t).body, (Cut.of t).query, (Cut.of t).fragment⟩ := by
  have noHash : ∀ c ∈ cs, (c == '#') = false := splitAtFirst_of_none fragment
  have noMark : ∀ c ∈ cs, (c == '?') = false := by
    unfold Cut.of at query
    rw [splitAtFirst_none noHash] at query
    exact splitAtFirst_of_none query
  unfold Cut.of
  rw [splitAtFirst_append noHash]
  dsimp only
  rw [splitAtFirst_append noMark]

structure Visible (t : List Char) : Prop where
  first : ∃ c t', t = c :: t' ∧ 0x20 < c.toNat
  last : ∃ t' c, t = t' ++ [c] ∧ 0x20 < c.toNat

theorem Visible.stripEnds_append {t : List Char} (h : Visible t) (rest : List Char) :
    clean.stripEnds (t ++ rest) =
      t ++ (rest.reverse.dropWhile (fun c => decide (c.toNat ≤ 0x20))).reverse := by
  obtain ⟨⟨c, t', start, visible⟩, ⟨t'', c', stop, visible'⟩⟩ := h
  have front : ((t ++ rest).dropWhile fun c => decide (c.toNat ≤ 0x20)) = t ++ rest := by
    rw [start, List.cons_append]
    exact List.dropWhile_cons_of_neg (by simpa using visible)
  have back : (t.reverse.dropWhile fun c => decide (c.toNat ≤ 0x20)) = t.reverse := by
    rw [stop, List.reverse_append, List.reverse_singleton, List.singleton_append]
    exact List.dropWhile_cons_of_neg (by simpa using visible')
  unfold clean.stripEnds
  dsimp only
  rw [front, List.reverse_append, List.dropWhile_append, back]
  split
  · next none => rw [List.isEmpty_iff.1 none]; simp
  · simp

/-- Such a text is cleaned apart from what follows it. -/
theorem Visible.clean_append {t rest : List Char} (h : Visible t)
    (next : ∀ c ∈ rest.head?, 0x20 < c.toNat) :
    clean (String.ofList (t ++ rest)) = clean (String.ofList t) ++ clean (String.ofList rest) := by
  have alone := h.stripEnds_append []
  rw [List.append_nil] at alone
  have rest_eq : clean.stripEnds rest =
      (rest.reverse.dropWhile (fun c => decide (c.toNat ≤ 0x20))).reverse := by
    unfold clean.stripEnds
    dsimp only
    cases rest with
    | nil => rfl
    | cons d rest =>
      rw [List.dropWhile_cons_of_neg]
      simpa using next d rfl
  simp only [clean, String.toList_ofList]
  rw [h.stripEnds_append, alone, rest_eq, List.filter_append]
  simp

/-! ## Paths -/

theorem pathPieces_append (w t : List Char) :
    pathPieces true (w ++ '/' :: t) = pathPieces true w ++ pathPieces true t := by
  unfold pathPieces
  rw [List.map_append, List.map_cons]
  exact List.splitOn_append_cons_self _ _

theorem pathPieces_ne_nil (t : List Char) : pathPieces true t ≠ [] := List.splitOn_ne_nil _ _

theorem addSegments_append (segs : List String) (ps qs : List (List Char)) (some : qs ≠ []) :
    addSegments .web segs (ps ++ qs) = addSegments .web
      (ps.foldl (fun segs p => addSegment .web segs (encodeText keepInPath p) false) segs) qs := by
  induction ps generalizing segs with
  | nil => rfl
  | cons p ps ih =>
    rw [List.cons_append, List.foldl_cons, ← ih]
    obtain ⟨q, rest, e⟩ := List.exists_cons_of_ne_nil (List.append_ne_nil_of_right_ne_nil ps some)
    rw [e, addSegments]
    simp

/-- An empty last segment closes a path. -/
theorem walk_nil (segs : List String) : walk .web segs [] = segs ++ [""] := by
  cases segs <;> rfl

/-- What follows a path that ends in a slash is resolved below it. -/
theorem walk_extended {front : List String} {w : List Char}
    (h : walk .web [] (w ++ ['/']) = front ++ [""]) (t : List Char) :
    walk .web [] (w ++ '/' :: t) = walk .web front t := by
  have walked (t : List Char) : walk .web [] (w ++ '/' :: t) = walk .web
      ((pathPieces true w).foldl
        (fun segs p => addSegment .web segs (encodeText keepInPath p) false) []) t := by
    unfold walk
    rw [show SchemeClass.web.isSpecial = true from rfl, pathPieces_append]
    exact addSegments_append [] _ _ (pathPieces_ne_nil t)
  rw [walked, walk_nil] at h
  rw [walked, List.append_cancel_right h]

theorem absolutePath_extended {front : List String} {cs : List Char}
    (h : absolutePath .web (cs ++ ['/']) = front ++ [""]) (t : List Char) :
    absolutePath .web (cs ++ '/' :: t) = walk .web front t := by
  cases cs with
  | nil =>
    have closed : front ++ [""] = [] ++ [""] := h.symm
    rw [List.append_cancel_right closed]
    rfl
  | cons c cs =>
    rw [List.cons_append, absolutePath] at h ⊢
    split at h
    · next slash =>
      rw [if_pos slash]
      exact walk_extended h t
    · next slash =>
      rw [if_neg slash]
      exact walk_extended (w := c :: cs) h t

/-! ## Authority -/

/-- The authority is read without regard to the path, as long as there is one. -/
theorem readAuthority_path (scheme : String) (cs : List Char) {path path' : List Char}
    (h : path ≠ []) (h' : path' ≠ []) (atEnd atEnd' : Bool) :
    readAuthority scheme cs path atEnd = readAuthority scheme cs path' atEnd' := by
  unfold readAuthority
  simp [h, h']

theorem takeWhile_stopped {p : Char → Bool} {x : Char} (hx : p x = false) (cs t : List Char) :
    (cs ++ x :: t).takeWhile p = cs.takeWhile p ∧
      (cs ++ x :: t).dropWhile p = cs.dropWhile p ++ x :: t := by
  induction cs with
  | nil => simp [hx]
  | cons c cs ih => cases hc : p c <;> simp [hc, ih]

/-- A URL of which query and fragment are taken from a cut text and the path goes on. -/
def extended (root : Url) (front : List String) (cut : Cut) : Url :=
  { root with
    path := .segments (walk .web front cut.body)
    query := cut.query.map (encodeText (keepInQuery true))
    fragment := cut.fragment.map (encodeText keepInFragment) }

theorem afterSlashes_extended {root : Url} {front : List String} (hr : root.Root front)
    {cs whole whole' : List Char}
    (h : afterSlashes root.scheme (cs ++ ['/']) ⟨whole, none, none⟩ = .ok root) (cut : Cut) :
    afterSlashes root.scheme (cs ++ '/' :: cut.body) ⟨whole', cut.query, cut.fragment⟩ =
      .ok (extended root front cut) := by
  have stop : (!isSlash .web '/') = false := by decide
  unfold afterSlashes at h ⊢
  dsimp only at h ⊢
  rw [hr.scheme.web, (takeWhile_stopped stop cs _).1, (takeWhile_stopped stop cs _).2] at h ⊢
  generalize cs.takeWhile (fun c => !isSlash .web c) = authority at h ⊢
  generalize cs.dropWhile (fun c => !isSlash .web c) = path at h ⊢
  cases read : readAuthority root.scheme authority (path ++ ['/']) true with
  | error e => rw [Option.isNone_none, Bool.and_true, read] at h; cases h
  | ok found =>
    rw [Option.isNone_none, Bool.and_true, read] at h
    rw [readAuthority_path root.scheme authority (by simp)
      (List.append_ne_nil_of_right_ne_nil path (List.cons_ne_nil '/' [])) _ true, read]
    obtain ⟨a, left⟩ := found
    have parts : Path.segments (absolutePath .web (left ++ (path ++ ['/']))) =
        .segments (front ++ [""]) := by rw [← hr.path, ← Except.ok.inj h]
    rw [Path.segments.injEq, ← List.append_assoc] at parts
    have owner : some a = root.authority := by rw [← Except.ok.inj h]
    rw [extended, ← absolutePath_extended parts, List.append_assoc, ← owner]
    rfl

/-! ## Roots that read back -/

/-- The text of a root down to the slash at its end. -/
theorem Root.text_toList {root : Url} {front : List String} (hr : root.Root front) :
    ∃ mid, root.text.toList = root.scheme.toList ++ ':' :: '/' :: '/' :: (mid ++ ['/']) := by
  obtain ⟨a, ha⟩ := Option.isSome_iff_exists.1 hr.authority
  refine ⟨a.text.toList ++ (Path.text (.segments front)).toList, ?_⟩
  rw [text, authorityText, ha, hr.query, hr.fragment, hr.path]
  simp [Path.text]

theorem Root.visible {root : Url} {front : List String} (hr : root.Root front) :
    Visible root.text.toList := by
  obtain ⟨mid, chars⟩ := hr.text_toList
  rw [chars]
  refine ⟨?_, root.scheme.toList ++ ':' :: '/' :: '/' :: mid, '/', by simp, by decide⟩
  rcases hr.scheme with e | e <;> rw [e] <;> exact ⟨'h', _, rfl, by decide⟩

/-- Cleaning leaves the frame of the text. -/
theorem Root.clean_text {root : Url} {front : List String} (hr : root.Root front) :
    ∃ mid, clean root.text = root.scheme.toList ++ ':' :: '/' :: '/' :: (mid ++ ['/']) := by
  obtain ⟨mid, chars⟩ := hr.text_toList
  have stripped := hr.visible.stripEnds_append []
  rw [List.append_nil] at stripped
  refine ⟨mid.filter fun c => !(c == '\t' || c == '\n' || c == '\r'), ?_⟩
  rw [clean, stripped, chars]
  rcases hr.scheme with e | e <;> rw [e] <;> simp

theorem splitScheme?_service {scheme : String} (h : IsService scheme) (cs : List Char) :
    splitScheme? (scheme.toList ++ ':' :: cs) = some (scheme, cs) := by
  rcases h with rfl | rfl <;> rfl

/-- Without an authority there is no host. -/
theorem afterSlashes_nil {scheme : String} (h : IsService scheme) (cut : Cut) :
    afterSlashes scheme [] cut = .error .emptyHost := by
  rcases h with rfl | rfl <;> rfl

/-- How a root that reads back is read: no query, no fragment, and behind the slashes an
authority and a path that ends in a slash. -/
structure Root.Read (root : Url) (mid : List Char) : Prop where
  chars : clean root.text = root.scheme.toList ++ ':' :: '/' :: '/' :: (mid ++ ['/'])
  query : (Cut.of (clean root.text)).query = none
  fragment : (Cut.of (clean root.text)).fragment = none
  some : mid.dropWhile (fun c => c == '/' || c == '\\') ≠ []
  parts : afterSlashes root.scheme (mid.dropWhile (fun c => c == '/' || c == '\\') ++ ['/'])
    ⟨clean root.text, none, none⟩ = .ok root

theorem Root.read {root : Url} {front : List String} (hr : root.Root front)
    (back : Url.parse root.text = .ok root) : ∃ mid, Root.Read root mid := by
  obtain ⟨mid, chars⟩ := hr.clean_text
  obtain ⟨cs, split, read⟩ := afterSlashes_of_parse back hr.scheme
  obtain ⟨-, query, fragment⟩ := parts_of_afterSlashes read
  rw [hr.query, eq_comm, Option.map_eq_none_iff] at query
  rw [hr.fragment, eq_comm, Option.map_eq_none_iff] at fragment
  have whole : Cut.of (clean root.text) = ⟨clean root.text, none, none⟩ := by
    have cut := Cut.of_append query fragment []
    rwa [List.append_nil, show (Cut.of []).body = [] from rfl, List.append_nil] at cut
  rw [whole] at read
  rw [whole, chars, splitScheme?_service hr.scheme] at split
  cases split
  rw [List.dropWhile_cons_of_pos (by decide), List.dropWhile_cons_of_pos (by decide),
    List.dropWhile_append] at read
  by_cases none : mid.dropWhile (fun c => c == '/' || c == '\\') = []
  · rw [none] at read
    cases (afterSlashes_nil hr.scheme _).symm.trans read
  · refine ⟨mid, chars, query, fragment, none, ?_⟩
    rwa [if_neg (by simpa using none)] at read

/-- A link that starts with the text of a root leads below it. -/
theorem join_below {root : Url} {front : List String} (hr : root.Root front)
    (back : Url.parse root.text = .ok root) {rest : List Char}
    (next : ∀ c ∈ rest.head?, 0x20 < c.toNat) :
    root.join (String.ofList (root.text.toList ++ rest)) =
      .ok (extended root front (Cut.of (clean (String.ofList rest)))) := by
  obtain ⟨mid, chars, query, fragment, some, parts⟩ := hr.read back
  have cleaned := hr.visible.clean_append next
  rw [String.ofList_toList] at cleaned
  have split (t : List Char) : splitScheme? (clean root.text ++ t) =
      .some (root.scheme, '/' :: '/' :: (mid ++ '/' :: t)) := by
    rw [chars, List.append_assoc]
    simpa using splitScheme?_service hr.scheme ('/' :: '/' :: (mid ++ '/' :: t))
  unfold join parseWith
  dsimp only
  rw [cleaned, Cut.of_append query fragment]
  generalize Cut.of (clean (String.ofList rest)) = cut
  dsimp only
  rw [split]
  dsimp only
  unfold readWithScheme
  rw [hr.scheme.web]
  dsimp only
  rw [if_neg (by simp), drop_length_takeWhile, List.dropWhile_cons_of_pos (by decide),
    List.dropWhile_cons_of_pos (by decide), List.dropWhile_append, if_neg (by simpa using some)]
  exact afterSlashes_extended hr parts cut

/-- What reads as a path, a query or a fragment when it stands alone, and has no blank in
front. -/
structure Continues (rest : List Char) : Prop where
  next : ∀ c ∈ rest.head?, 0x20 < c.toNat
  relative : splitScheme? (Cut.of (clean (String.ofList rest))).body = none
  inside : ∀ c ∈ (Cut.of (clean (String.ofList rest))).body.head?, c ≠ '/' ∧ c ≠ '\\'

theorem readRelative_inside {root : Url} {front : List String} (hr : root.Root front) {cut : Cut}
    (inside : ∀ c ∈ cut.body.head?, c ≠ '/' ∧ c ≠ '\\') :
    readRelative cut cut.body root = .ok (extended root front cut) := by
  obtain ⟨body, query, fragment⟩ := cut
  unfold readRelative extended
  dsimp only
  rw [hr.scheme.web, show SchemeClass.web.isSpecial = true from rfl]
  cases body with
  | nil =>
    rw [walk_nil front, ← hr.path]
    cases query with
    | none => dsimp only; rw [hr.query]; rfl
    | some q => rfl
  | cons c body =>
    obtain ⟨slash, backslash⟩ := inside c rfl
    split
    · next e => cases e
    · next e => exact absurd (List.cons.inj e).1 slash
    · next e =>
      cases e
      rw [if_neg (by simp [slash, backslash]), hr.path, Path.parts, List.dropLast_concat]

/-- So does a text that continues the root when it is resolved by itself. -/
theorem join_continues {root : Url} {front : List String} (hr : root.Root front)
    {rest : List Char} (h : Continues rest) :
    root.join (String.ofList rest) =
      .ok (extended root front (Cut.of (clean (String.ofList rest)))) := by
  obtain ⟨-, relative, inside⟩ := h
  unfold join parseWith
  dsimp only
  generalize Cut.of (clean (String.ofList rest)) = cut at relative inside ⊢
  rw [relative]
  dsimp only
  rw [hr.hierarchical, hr.scheme.ne_file]
  have read : readRelative cut cut.body root = .ok (extended root front cut) :=
    readRelative_inside hr inside
  split
  · next bare =>
    simp only [Bool.and_eq_true, List.isEmpty_iff, Option.isNone_iff_eq_none] at bare
    rw [extended, bare.1.1, bare.1.2, walk_nil, ← hr.path, Option.map_none, ← hr.query]
  · rw [if_neg (by decide), if_neg (by decide), read]

end OData.Url
