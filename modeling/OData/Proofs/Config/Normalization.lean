import OData.Proofs.Config.ServiceRoot
import OData.Proofs.Url.Writing

/-!
# The service root is stable

A service root is written as it was read, so its text configures the same root again
(`serviceRoot_of_text`). A word of letters, digits and underscores is neither a scheme nor a dot
segment: joined to a root it becomes the segment behind those that are configured, and the text
of the URL is that of the root with the word behind it (`join_word`).
-/

namespace OData

open Text Url

variable {root : Url} {front : List String}

/-! ## Closing a path -/

theorem path_closed (front : List String) :
    (Path.text (.segments (front ++ [""]))).toList =
      (Path.text (.segments front)).toList ++ ['/'] := by
  simp [Path.text]

theorem closePath_closed (front : List String) :
    Config.closePath .web (.segments (front ++ [""])) = .segments (front ++ [""]) := by
  rw [closePath_segments, path_closed, if_pos List.getLast?_concat]

/-- Nothing but an empty segment is added to a path. -/
theorem front_of_closePath {segs : List String}
    (h : Config.closePath .web (.segments segs) = .segments (front ++ [""])) :
    segs = front ∨ segs = front ++ [""] := by
  rw [closePath_segments, Path.segments.injEq] at h
  split at h
  · exact .inr h
  · exact .inl (List.append_cancel_right h)

theorem written_concat {segs : List String} (h : ∀ s ∈ segs, WrittenSegment s) :
    ∀ s ∈ segs ++ [""], WrittenSegment s :=
  List.forall_mem_append.2 ⟨h, List.forall_mem_singleton.2 ofPieces_written.empty⟩

theorem closePath_written {segs : List String} (h : ∀ s ∈ segs, WrittenSegment s) :
    ∃ closed, Config.closePath .web (.segments segs) = .segments closed ∧
      ∀ s ∈ closed, WrittenSegment s := by
  refine ⟨_, closePath_segments segs, ?_⟩
  split
  · exact h
  · exact written_concat h

/-- A path is closed as if its text were read again with a slash behind it. -/
theorem closePath_reads {segs : List String} (h : ∀ s ∈ segs, WrittenSegment s)
    (unclosed : (Path.text (.segments segs)).toList.getLast? ≠ some '/') :
    Config.closePath .web (.segments segs) =
      .segments (absolutePath .web ((Path.text (.segments segs)).toList ++ ['/'])) := by
  rw [← path_closed, absolutePath_text (by simp) (written_concat h), closePath_segments,
    if_neg unclosed]

/-! ## The root in written form -/

theorem written_of_serviceRoot {config : Config} (h : config.serviceRoot = .ok root)
    (service : IsService root.scheme) : root.Written := by
  obtain ⟨u, parsed, -, rfl⟩ := parsed_of_serviceRoot h
  obtain ⟨authority, segs, path, written⟩ := written_of_parse parsed service
  obtain ⟨closed, e, written⟩ := closePath_written written
  refine ⟨authority, closed, ?_, written⟩
  dsimp only
  rw [path, service.web, e]

theorem stripWhile_framed {p : Char → Bool} {c d : Char} (first : p c = false) (last : p d = false)
    (mid : List Char) : stripWhile p (c :: (mid ++ [d])) = c :: (mid ++ [d]) := by
  rw [stripWhile, List.dropWhile_cons_of_neg (by simp [first]), ← List.cons_append,
    List.reverse_append, List.reverse_singleton, List.singleton_append,
    List.dropWhile_cons_of_neg (by simp [last]), List.reverse_cons, List.reverse_reverse]

theorem trim_text (hr : root.Root front) : Text.trim root.text = root.text := by
  obtain ⟨mid, chars⟩ := hr.text_toList
  have framed : stripWhile isBlank root.text.toList = root.text.toList := by
    rw [chars]
    have framed := stripWhile_framed (p := isBlank) (c := 'h') (d := '/') (by decide) (by decide)
    rcases hr.scheme with e | e <;> rw [e]
    · exact framed ("ttp://".toList ++ mid)
    · exact framed ("ttps://".toList ++ mid)
  rw [Text.trim, framed, String.ofList_toList]

/-- The text of a root configures that root. -/
theorem serviceRoot_of_text (hr : root.Root front) (written : root.Written) {config : Config}
    (text : config.baseUrl = root.text) : config.serviceRoot = .ok root := by
  obtain ⟨mid, chars⟩ := hr.text_toList
  have nonempty : root.text ≠ "" := fun e => by rw [e] at chars; simp at chars
  unfold Config.serviceRoot
  dsimp only
  rw [text, trim_text hr, if_neg nonempty, written.parse_text hr]
  dsimp only
  rw [hr.hierarchical, if_pos rfl, hr.scheme.web, hr.path, closePath_closed, ← hr.path]
  exact congrArg Except.ok hr.bare

/-! ## Words below a root -/

theorem keepInPath_of_isWordChar {c : Char} (h : isWordChar c) : keepInPath c := by
  refine keepInPath_of_isUnreserved c ?_
  simp only [isWordChar, Bool.or_eq_true, beq_iff_eq] at h
  rcases h with h | rfl
  · simp [Percent.isUnreserved, h]
  · decide

section Words

variable {w : List Char}

theorem splitOn_word (h : ∀ c ∈ w, isWordChar c) : w.splitOn '/' = [w] := by
  have alone : ∀ p ∈ [w], '/' ∉ p := by
    rintro p hp hm
    rw [List.mem_singleton.1 hp] at hm
    exact ne_of_class (h _ hm) (by decide) rfl
  have split := List.splitOn_intercalate '/' alone (by simp)
  rwa [List.intercalate_singleton] at split

theorem proper_word (h : ∀ c ∈ w, isWordChar c) : Proper w := by
  cases w with
  | nil => unfold Proper; decide
  | cons c w =>
    have word := h c List.mem_cons_self
    exact Undotted.proper
      ⟨c, w, rfl, ne_of_class word (by decide), ne_of_class word (by decide)⟩

theorem cut_word (h : ∀ c ∈ w, isWordChar c) :
    Cut.of (clean (String.ofList w)) = ⟨w, none, none⟩ := by
  have marks : ∀ c ∈ w, 0x20 < c.toNat ∧ c ≠ '#' ∧ c ≠ '?' := fun c hc =>
    visible_of_keepInPath (keepInPath_of_isWordChar (h c hc))
  rw [clean_visible fun c hc => (marks c hc).1]
  exact Cut.of_plain fun c hc => (marks c hc).2

theorem continues_word (h : ∀ c ∈ w, isWordChar c) : Continues w := by
  refine ⟨fun c first => ?_, ?_, fun c first => ?_⟩
  · exact (visible_of_keepInPath (keepInPath_of_isWordChar (h c (List.mem_of_mem_head? first)))).1
  · rw [cut_word h]
    exact splitScheme?_of_noColon fun c hc => ne_of_class (h c hc) (by decide)
  · rw [cut_word h] at first
    have word := h c (List.mem_of_mem_head? first)
    exact ⟨ne_of_class word (by decide), ne_of_class word (by decide)⟩

/-- A word that is joined to a root is the last segment. -/
theorem join_word (hr : root.Root front) (h : ∀ c ∈ w, isWordChar c) :
    root.join (String.ofList w) = .ok (beneath root front w none) := by
  have walked := walk_plain (fun c hc => ⟨keepInPath_of_isWordChar (h c hc),
    ne_of_class (h c hc) (by decide)⟩) (by simpa [splitOn_word h] using proper_word h) front
  rw [join_continues hr (continues_word h), cut_word h, extended, beneath, walked, hr.fragment]
  rfl

end Words

/-! ## Stability -/

/-- The segments that a base URL configures, without an empty one at their end. -/
def Config.Segments (config : Config) (front : List String) : Prop :=
  ∃ u, Url.parse (Text.trim config.baseUrl) = .ok u ∧
    (u.path = .segments front ∨ u.path = .segments (front ++ [""]))

theorem segments_of_serviceRoot {config : Config} (h : config.serviceRoot = .ok root)
    (hr : root.Root front) : config.Segments front := by
  obtain ⟨u, parsed, -, rfl⟩ := parsed_of_serviceRoot h
  have service : IsService u.scheme := hr.scheme
  obtain ⟨-, segs, path, -⟩ := written_of_parse parsed service
  have closed := hr.path
  dsimp only at closed
  rw [path, service.web] at closed
  refine ⟨u, parsed, (front_of_closePath closed).imp ?_ ?_⟩ <;> rintro rfl <;> exact path

/-- The service root of a web client ends in a slash, has no mark and configures itself again. A
word below it stands behind the segments that are configured, replaces none of them, and is told
from every other word by the text of its URL. This is about hosts in ASCII: `Host.domain` refuses
any other, percent-encoded or not, where the URL standard maps it to one in ASCII. -/
theorem serviceRoot_stable {config : Config} (h : config.serviceRoot = .ok root)
    (service : IsService root.scheme) :
    root.path.text.toList.getLast? = some '/' ∧ Markless root.text ∧
      (∀ config' : Config, config'.baseUrl = root.text → config'.serviceRoot = .ok root) ∧
      ∃ front, config.Segments front ∧ root.path = .segments (front ++ [""]) ∧
        (∀ w : String, (∀ c ∈ w.toList, isWordChar c) →
          ∃ url, root.join w = .ok url ∧ url.path = .segments (front ++ [w]) ∧
            url.text = root.text ++ w) ∧
        ∀ w w' : String, (∀ c ∈ w.toList, isWordChar c) → (∀ c ∈ w'.toList, isWordChar c) →
          ∀ url url', root.join w = .ok url → root.join w' = .ok url' → url.text = url'.text →
            w = w' := by
  obtain ⟨front, hr⟩ := root_of_serviceRoot h service
  have joined (w : String) (word : ∀ c ∈ w.toList, isWordChar c) :
      ∃ url, root.join w = .ok url ∧ url.path = .segments (front ++ [w]) ∧
        url.text = root.text ++ w := by
    have below := join_word hr word
    rw [String.ofList_toList] at below
    refine ⟨_, below, ?_, ?_⟩
    · rw [beneath, splitOn_word word, List.map_singleton, String.ofList_toList]
    · rw [text_beneath hr, reference, Option.elim_none, List.append_nil, String.ofList_toList]
  refine ⟨by rw [hr.path, path_closed, List.getLast?_concat], serviceRoot_markless h,
    fun config' text => serviceRoot_of_text hr (written_of_serviceRoot h service) text, front,
    segments_of_serviceRoot h hr, hr.path, joined, ?_⟩
  intro w w' word word' url url' one other same
  obtain ⟨_, found, -, text⟩ := joined w word
  obtain ⟨_, found', -, text'⟩ := joined w' word'
  obtain rfl := Except.ok.inj (found.symm.trans one)
  obtain rfl := Except.ok.inj (found'.symm.trans other)
  rw [text, text'] at same
  exact String.append_right_inj root.text |>.1 same

/-- Letters are made small, dots are followed, a backslash separates, the address is shortened,
and query and fragment are left out, once and for all. -/
theorem serviceRoot_stable_rewritten :
    ∃ root, ({ baseUrl :=
        " HTTPS://Us%65r:p:w@[2001:DB8::192.0.2.1]:443/a/%2E%2e/b\\c;d/./e?x=1#f " } :
          Config).serviceRoot = .ok root ∧
      IsService root.scheme ∧
      root.text = "https://Us%65r:p%3Aw@[2001:db8::c000:201]/b/c;d/e/" ∧
      ({ baseUrl := "https://Us%65r:p%3Aw@[2001:db8::c000:201]/b/c;d/e/" } :
        Config).serviceRoot = .ok root ∧
      ∃ url, root.join "2nd_set" = .ok url ∧
        url.text = "https://Us%65r:p%3Aw@[2001:db8::c000:201]/b/c;d/e/2nd_set" := by
  have found : ({ baseUrl :=
      " HTTPS://Us%65r:p:w@[2001:DB8::192.0.2.1]:443/a/%2E%2e/b\\c;d/./e?x=1#f " } :
        Config).serviceRoot = .ok ⟨"https", some ⟨"Us%65r:p%3Aw", "[2001:db8::c000:201]", none⟩,
          .segments ["b", "c;d", "e", ""], none, none⟩ := by
    decide +kernel
  have service : IsService "https" := .inr rfl
  obtain ⟨-, -, again, front, -, -, joined, -⟩ := serviceRoot_stable found service
  obtain ⟨url, join, -, text⟩ := joined "2nd_set" (List.all_eq_true.1 (by decide))
  refine ⟨_, found, service, rfl, again _ rfl, url, join, text⟩

end OData
