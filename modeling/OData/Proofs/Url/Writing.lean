import OData.Proofs.Url.Authority
import OData.Proofs.Url.Extension

/-!
# URLs of services read back

Reading a URL of a service leaves an authority and segments in the form in which they are written
(`written_of_parse`): a segment is coded, has no slash of either kind and is no dot segment. So
the text of a root is read as that root (`Written.parse_text`).
-/

namespace OData.Url

open Text

/-! ## Segments -/

structure WrittenSegment (s : String) : Prop where
  kept : ∀ c ∈ s.toList, keepInPath c ∧ c ≠ '\\'
  slash : '/' ∉ s.toList
  proper : Proper s.toList

theorem keepInPath_of_isUnreserved (c : Char) (h : Percent.isUnreserved c) : keepInPath c :=
  (Bool.and_eq_true_iff.1 (keepInCredentials_of_isUnreserved c h)).1

theorem ofPieces_written : OfPieces .web WrittenSegment := by
  have piece (p : List Char) (hp : IsPiece .web p) (dot : isDot (encodeText keepInPath p) = false)
      (doubleDot : isDoubleDot (encodeText keepInPath p) = false) :
      WrittenSegment (encodeText keepInPath p) := by
    refine ⟨fun c hc => ⟨kept_encodeText keepInPath_of_isUnreserved (by decide) p c hc, ?_⟩,
      not_mem_encodeText hp.slash (by decide) (by decide), ?_⟩
    · rintro rfl
      exact not_mem_encodeText (hp.backslash rfl) (by decide) (by decide) hc
    · rw [Proper, String.ofList_toList]
      exact ⟨dot, doubleDot⟩
  exact ⟨⟨by simp, by simp, by unfold Proper; decide⟩, piece, piece⟩

theorem path_toList {segs : List String} (some : segs ≠ []) :
    (Path.text (.segments segs)).toList = '/' :: ['/'].intercalate (segs.map String.toList) := by
  obtain ⟨seg, segs, rfl⟩ := List.exists_cons_of_ne_nil some
  have same : ((seg :: segs).map String.toList).map String.ofList = seg :: segs := by simp
  have joined := join_segments seg.toList (segs.map String.toList)
  rw [← List.map_cons (f := String.toList), same] at joined
  rw [Path.text, joined]
  simp

/-- A path of written segments is read as these segments. -/
theorem absolutePath_text {segs : List String} (some : segs ≠ [])
    (written : ∀ s ∈ segs, WrittenSegment s) :
    absolutePath .web (Path.text (.segments segs)).toList = segs := by
  have pieces : (['/'].intercalate (segs.map String.toList)).splitOn '/' =
      segs.map String.toList := by
    refine List.splitOn_intercalate '/' (fun p hp => ?_) (by simpa using some)
    obtain ⟨s, hs, rfl⟩ := List.mem_map.1 hp
    exact (written s hs).slash
  have kept : ∀ c ∈ ['/'].intercalate (segs.map String.toList), keepInPath c ∧ c ≠ '\\' := by
    intro c hc
    rcases Literal.mem_intercalate hc with rfl | ⟨p, hp, hc⟩
    · decide
    · obtain ⟨s, hs, rfl⟩ := List.mem_map.1 hp
      exact (written s hs).kept c hc
  have walked := walk_plain kept (fun p hp => by
    rw [pieces] at hp
    obtain ⟨s, hs, rfl⟩ := List.mem_map.1 hp
    exact (written s hs).proper) []
  rw [pieces, List.map_map, show String.ofList ∘ String.toList = id from
    funext fun s => String.ofList_toList, List.map_id, List.nil_append] at walked
  rw [path_toList some, absolutePath, if_pos (by decide), walked]

/-! ## URLs -/

/-- A URL of a service with its authority and its segments in the form in which they are
written. -/
structure Written (u : Url) : Prop where
  authority : ∃ a, u.authority = some a ∧ a.Written u.scheme
  path : ∃ segs, u.path = .segments segs ∧ ∀ s ∈ segs, WrittenSegment s

theorem written_of_parse {s : String} {u : Url} (h : parse s = .ok u)
    (service : IsService u.scheme) : Written u := by
  obtain ⟨cs, -, read⟩ := afterSlashes_of_parse h service
  unfold afterSlashes at read
  obtain ⟨⟨a, rest⟩, readAuthority, same⟩ := ok_of_bind read
  have web := service.web
  generalize u.scheme = scheme at *
  cases same
  refine ⟨⟨a, rfl, written_of_readAuthority web readAuthority⟩, _, rfl, ?_⟩
  rw [web]
  exact ofPieces_written.absolutePath _

namespace Written

variable {u : Url} {front : List String}

theorem text_toList {a : Authority} (hr : u.Root front) (ha : u.authority = some a) :
    u.text.toList = u.scheme.toList ++
      ':' :: '/' :: '/' :: (a.text.toList ++ (Path.text (.segments (front ++ [""]))).toList) := by
  rw [text, authorityText, ha, hr.query, hr.fragment, hr.path]
  simp

theorem segments (hr : u.Root front) (h : u.Written) : ∀ s ∈ front ++ [""], WrittenSegment s := by
  obtain ⟨segs, path, written⟩ := h.path
  rw [hr.path] at path
  rwa [Path.segments.inj path]

/-- The text has neither blanks nor marks. -/
theorem visible (hr : u.Root front) (h : u.Written) :
    ∀ c ∈ u.text.toList, 0x20 < c.toNat ∧ c ≠ '#' ∧ c ≠ '?' := by
  obtain ⟨a, ha, written⟩ := h.authority
  have kept {c : Char} (h : keepInPath c) := visible_of_keepInPath h
  have slash := kept (c := '/') (by decide)
  have letters : ∀ c ∈ u.scheme.toList, keepInPath c := by
    rcases hr.scheme with e | e <;> rw [e] <;> exact List.all_eq_true.1 (by decide)
  rw [text_toList hr ha, path_toList (by simp)]
  refine List.forall_mem_append.2 ⟨fun c hc => ?_, List.forall_mem_cons.2 ⟨kept (by decide),
    List.forall_mem_cons.2 ⟨slash, List.forall_mem_cons.2 ⟨slash, List.forall_mem_append.2
      ⟨fun c hc => ?_, List.forall_mem_cons.2 ⟨slash, fun c hc => ?_⟩⟩⟩⟩⟩⟩
  · exact kept (letters c hc)
  · exact (Host.marks_of_isAuthorityChar (written.chars c hc)).1
  · rcases Literal.mem_intercalate hc with rfl | ⟨p, hp, hc⟩
    · exact slash
    · obtain ⟨s, hs, rfl⟩ := List.mem_map.1 hp
      exact kept ((h.segments hr s hs).kept c hc).1

/-- The authority ends at the slash of the path. -/
theorem afterSlashes_text {a : Authority} (hr : u.Root front) (h : u.Written)
    (ha : u.authority = some a) (written : a.Written u.scheme) (whole : List Char) :
    afterSlashes u.scheme
      (a.text.toList ++ (Path.text (.segments (front ++ [""]))).toList) ⟨whole, none, none⟩ =
        .ok u := by
  have inside : ∀ c ∈ a.text.toList, (!isSlash .web c) = true := fun c hc => by
    simpa [isSlash, SchemeClass.isSpecial] using
      (Host.marks_of_isAuthorityChar (written.chars c hc)).2
  have path := absolutePath_text (by simp) (h.segments hr)
  obtain ⟨rest, slash⟩ : ∃ rest, (Path.text (.segments (front ++ [""]))).toList = '/' :: rest :=
    ⟨_, path_toList (by simp)⟩
  rw [slash] at path ⊢
  unfold afterSlashes
  dsimp only
  rw [hr.scheme.web, List.takeWhile_append_of_pos inside, List.dropWhile_append_of_pos inside,
    List.takeWhile_cons_of_neg (by decide), List.dropWhile_cons_of_neg (by decide),
    List.append_nil, written.read hr.scheme.web]
  dsimp only [bind, Except.bind, pure, Except.pure, Option.map_none]
  rw [List.nil_append, path, ← ha, ← hr.path]
  exact congrArg Except.ok hr.bare

/-- The text of a root is read as that root. -/
theorem parse_text (hr : u.Root front) (h : u.Written) : Url.parse u.text = .ok u := by
  obtain ⟨a, ha, written⟩ := h.authority
  have visible := h.visible hr
  have cleaned : clean u.text = u.text.toList := by
    have plain := clean_visible fun c hc => (visible c hc).1
    rwa [String.ofList_toList] at plain
  obtain ⟨first, more, start⟩ := List.exists_cons_of_ne_nil written.nonempty
  have noSlash : (first == '/' || first == '\\') = false := by
    have marks := Host.marks_of_isAuthorityChar (written.chars first (by rw [start]; simp))
    simp [marks.2]
  have read := afterSlashes_text hr h ha written u.text.toList
  unfold parse parseWith
  dsimp only
  rw [cleaned, Cut.of_plain fun c hc => (visible c hc).2]
  dsimp only
  rw [text_toList hr ha] at read ⊢
  rw [splitScheme?_service hr.scheme]
  dsimp only
  unfold readWithScheme
  rw [hr.scheme.web]
  dsimp only
  rw [drop_length_takeWhile, List.dropWhile_cons_of_pos (by decide),
    List.dropWhile_cons_of_pos (by decide), start, List.cons_append,
    List.dropWhile_cons_of_neg (by simp [noSlash]), ← List.cons_append, ← start, read]

end Written

end OData.Url
