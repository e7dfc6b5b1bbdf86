import OData.Config
import OData.Proofs.Url.Components
import OData.Proofs.Url.Resolution

/-!
# The service root is a root

Reading a URL leaves no slash within a segment, so a path that ends in `/` ends in an
empty segment, and every other path is given one. The service root of a configuration
is thus a URL below which references are appended (`root_of_serviceRoot`). Its text has no
mark, so the first mark of a URL below it is that of the reference (`serviceRoot_markless`).
-/

namespace OData

open Text Url

/-! ## Segments without slashes -/

def Unslashed (segs : List String) : Prop := ∀ s ∈ segs, '/' ∉ s.toList

theorem ofPieces_unslashed : OfPieces .web fun s => '/' ∉ s.toList := by
  have coded (p : List Char) (hp : IsPiece .web p) : '/' ∉ (encodeText keepInPath p).toList :=
    not_mem_encodeText hp.slash (by decide) (by decide)
  exact ⟨by decide, fun p hp _ _ => coded p hp, fun p hp _ _ => coded p hp⟩

/-! ## URLs of the web -/

structure WebForm (u : Url) : Prop where
  authority : u.authority.isSome
  path : ∃ segs, u.path = .segments segs ∧ Unslashed segs

theorem web_of_afterSlashes {scheme : String} {cs : List Char} {cut : Cut} {u : Url}
    (h : afterSlashes scheme cs cut = .ok u) (service : IsService scheme) : WebForm u := by
  unfold afterSlashes at h
  obtain ⟨_, -, h⟩ := ok_of_bind h
  cases h
  refine ⟨rfl, _, rfl, ?_⟩
  rw [service.web]
  exact ofPieces_unslashed.absolutePath _

theorem web_of_parse {s : String} {u : Url} (h : Url.parse s = .ok u)
    (service : IsService u.scheme) : WebForm u := by
  obtain ⟨cs, -, read⟩ := afterSlashes_of_parse h service
  exact web_of_afterSlashes read service

/-! ## Closing the path -/

/-- A slash at the end behind a text without slashes: the text is empty. -/
theorem eq_nil_of_closed {cs last : List Char} (plain : '/' ∉ last)
    (closed : (cs ++ '/' :: last).getLast? = some '/') : last = [] := by
  cases last with
  | nil => rfl
  | cons c rest =>
    rw [List.getLast?_append, List.getLast?_cons_cons] at closed
    have slash : '/' ∈ c :: rest := by
      refine List.mem_of_getLast? ?_
      cases found : (c :: rest).getLast? with
      | none => simp at found
      | some x => rw [found] at closed; exact closed
    exact absurd slash plain

/-- A path of the web is closed by an empty segment, and nothing else of it changes. -/
theorem closePath_segments (segs : List String) :
    Config.closePath .web (.segments segs) = .segments
      (if (Path.text (.segments segs)).toList.getLast? = some '/' then segs else segs ++ [""]) := by
  have same : firstSegment .web = id := rfl
  unfold Config.closePath
  split
  · rfl
  · rw [same, List.map_id, Path.parts, List.take_append_drop]

theorem closePath_web {segs : List String} (h : Unslashed segs) :
    ∃ front, Config.closePath .web (.segments segs) = .segments (front ++ [""]) := by
  rw [closePath_segments]
  split
  · next closed =>
    rcases List.eq_nil_or_concat segs with rfl | ⟨front, last, rfl⟩
    · simp [Path.text] at closed
    · refine ⟨front, ?_⟩
      have text : (Path.text (.segments (front ++ [last]))).toList =
          (Path.text (.segments front)).toList ++ '/' :: last.toList := by
        simp [Path.text]
      rw [List.concat_eq_append, text] at closed
      have empty := eq_nil_of_closed (h last (by simp)) closed
      obtain rfl : last = "" := String.toList_injective empty
      rw [List.concat_eq_append]
  · exact ⟨segs, rfl⟩

/-! ## The text of the root -/

theorem closePath_markless {cls : SchemeClass} {path : Path} (h : ∀ s ∈ path.parts, Markless s) :
    ∀ s ∈ (Config.closePath cls path).parts, Markless s := by
  unfold Config.closePath
  split
  · exact h
  · simp only [Path.parts, List.forall_mem_append]
    refine ⟨⟨fun s hs => ?_, fun s hs => h s (List.mem_of_mem_drop hs)⟩, by simp; decide⟩
    obtain ⟨seg, hm, rfl⟩ := List.mem_map.1 hs
    exact markless_firstSegment (h seg (List.mem_of_mem_take hm))

/-- A service root comes from the base URL, read and closed. -/
theorem parsed_of_serviceRoot {config : Config} {root : Url} (h : config.serviceRoot = .ok root) :
    ∃ u, Url.parse (Text.trim config.baseUrl) = .ok u ∧ u.path.isHierarchical ∧
      root = { u with
        path := Config.closePath (.of u.scheme) u.path, query := none, fragment := none } := by
  unfold Config.serviceRoot at h
  dsimp only at h
  split at h
  · cases h
  split at h
  · cases h
  · next u parsed =>
    split at h
    · next hierarchical => cases h; exact ⟨u, parsed, hierarchical, rfl⟩
    · cases h

/-- The service root has no query and no fragment, and nothing in its text starts one. -/
theorem serviceRoot_markless {config : Config} {root : Url} (h : config.serviceRoot = .ok root) :
    Markless root.text := by
  obtain ⟨u, parsed, hierarchical, rfl⟩ := parsed_of_serviceRoot h
  obtain ⟨scheme, authority, path⟩ := clean_of_parse parsed
  have closed : (Config.closePath (.of u.scheme) u.path).isHierarchical := by
    unfold Config.closePath
    split
    · exact hierarchical
    · rfl
  exact Clean.text ⟨scheme, authority, closePath_markless path⟩ closed rfl rfl

/-- References are appended to the service root of a web client. -/
theorem root_of_serviceRoot {config : Config} {root : Url} (h : config.serviceRoot = .ok root)
    (service : IsService root.scheme) : ∃ front, root.Root front := by
  obtain ⟨u, parsed, -, rfl⟩ := parsed_of_serviceRoot h
  obtain ⟨authority, segs, path, unslashed⟩ := web_of_parse parsed service
  obtain ⟨front, closed⟩ := closePath_web unslashed
  refine ⟨front, service, authority, ?_, rfl, rfl⟩
  dsimp only
  rw [path, service.web, closed]

end OData
