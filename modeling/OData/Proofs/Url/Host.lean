import OData.Proofs.Literal.Form
import OData.Proofs.Url.Address
import OData.Proofs.Url.Resolution

/-!
# Hosts read back

What `Host.domain` gives is a host in its final form: reading it again gives it again, and it can
be told from what stands around it in an authority (`Written`, `written_of_domain`). A name is in
small letters without escapes and keeps its labels, an address is written in the one form that is
read as the same number.
-/

namespace OData.Url.Host

open Text

/-- A visible character at which neither an authority nor a URL is cut. -/
def isAuthorityChar (c : Char) : Bool := 0x20 < c.toNat && !"/\\?#".toList.contains c

theorem marks_of_isAuthorityChar {c : Char} (h : isAuthorityChar c) :
    (0x20 < c.toNat ∧ c ≠ '#' ∧ c ≠ '?') ∧ c ≠ '/' ∧ c ≠ '\\' := by
  have visible : 0x20 < c.toNat := of_decide_eq_true (Bool.and_eq_true_iff.1 h).1
  exact ⟨⟨visible, ne_of_class h (by decide), ne_of_class h (by decide)⟩,
    ne_of_class h (by decide), ne_of_class h (by decide)⟩

structure Written (host : List Char) : Prop where
  chars : ∀ c ∈ host, isAuthorityChar c ∧ c ≠ '@'
  nonempty : host ≠ []
  alone : ∀ port, (∀ c ∈ port.head?, c = ':') → splitHost false (host ++ port) = (host, port)
  reads : domain host = .ok (String.ofList host)

theorem authorityChar_of_isNumeral {c : Char} (h : isNumeral c) : isAuthorityChar c ∧ c ≠ '@' := by
  have ascii : c.toNat < 128 := by
    rcases Bool.or_eq_true_iff.1 h with hex | sign
    · exact ascii_of_isHexDigit hex
    · have all : "+-.:TZ".toList.all (·.toNat < 128) := by decide
      simpa using List.all_eq_true.1 all c (List.contains_iff_mem.1 sign)
  exact of_ascii (P := fun c => isNumeral c → isAuthorityChar c ∧ c ≠ '@') (by decide) ascii h

theorem authorityChar_of_keepInCredentials {c : Char} (h : keepInCredentials c) :
    isAuthorityChar c := by
  have path : keepInPath c := (Bool.and_eq_true_iff.1 h).1
  obtain ⟨visible, hash, mark⟩ := visible_of_keepInPath path
  have slash : c ≠ '/' := ne_of_class h (by decide)
  have backslash : c ≠ '\\' := ne_of_class h (by decide)
  simp [isAuthorityChar, visible, hash, mark, slash, backslash]

/-! ## Brackets -/

/-- Between brackets the colons belong to the host. -/
theorem splitHost_inside {inner : List Char} (h : ∀ c ∈ inner, c ≠ ']') (rest : List Char) :
    splitHost true (inner ++ ']' :: rest) =
      (inner ++ ']' :: (splitHost false rest).1, (splitHost false rest).2) := by
  induction inner with
  | nil => rfl
  | cons c inner ih =>
    obtain ⟨hc, later⟩ := List.forall_mem_cons.1 h
    have still : (c == '[' || (true && c != ']')) = true := by simp [hc]
    rw [List.cons_append, splitHost, if_neg (by simp), still, ih later]
    rfl

theorem splitHost_port {port : List Char} (h : ∀ c ∈ port.head?, c = ':') :
    splitHost false port = ([], port) := by
  cases port with
  | nil => rfl
  | cons c port => rw [h c rfl]; rfl

theorem written_bracketed {cs : List Char} {t : String} (h : bracketed cs = .ok t) :
    Written t.toList := by
  unfold bracketed at h
  split at h
  · split at h
    · next pieces read =>
      cases h
      have address := address_of_ipv6? read
      have chars : ∀ c ∈ (ipv6Text pieces).toList, isNumeral c := numeral_ipv6Text pieces
      have form : ("[" ++ ipv6Text pieces ++ "]").toList =
          '[' :: ((ipv6Text pieces).toList ++ [']']) := by simp
      rw [form]
      refine ⟨?_, List.cons_ne_nil _ _, fun port hp => ?_, ?_⟩
      · refine List.forall_mem_cons.2 ⟨by decide, List.forall_mem_append.2 ⟨fun c hc => ?_, ?_⟩⟩
        · exact authorityChar_of_isNumeral (chars c hc)
        · exact List.forall_mem_singleton.2 (by decide)
      · have outside := splitHost_inside (fun c hc => ne_of_class (chars c hc) (by decide)) port
        rw [splitHost_port hp] at outside
        rw [List.cons_append, List.append_assoc, splitHost, if_neg (by decide)]
        exact congrArg (fun p => ('[' :: p.1, p.2)) outside
      · rw [domain, bracketed, List.reverse_append]
        simp only [List.reverse_cons, List.reverse_nil, List.nil_append, List.cons_append,
          List.reverse_reverse, ipv6?_ipv6Text address]
        exact congrArg Except.ok (String.toList_injective (by simp))
    · cases h
  · cases h

/-! ## Names -/

structure Settled (name : List Char) : Prop where
  allowed : ∀ c ∈ name, isForbiddenInDomain c = false
  small : ∀ c ∈ name, c.toLower = c
  labels : Label.isName name
  nonempty : name ≠ []

theorem splitHost_name {name : List Char} (h : ∀ c ∈ name, c ≠ ':' ∧ c ≠ '[') (rest : List Char) :
    splitHost false (name ++ rest) =
      (name ++ (splitHost false rest).1, (splitHost false rest).2) := by
  induction name with
  | nil => rfl
  | cons c name ih =>
    obtain ⟨⟨colon, bracket⟩, later⟩ := List.forall_mem_cons.1 h
    have still : (c == '[' || (false && c != ']')) = false := by simp [bracket]
    rw [List.cons_append, splitHost, if_neg (by simp [colon]), still, ih later]
    rfl

theorem Settled.ne {name : List Char} (h : Settled name) {c x : Char} (hc : c ∈ name)
    (hx : isForbiddenInDomain x) : c ≠ x := by
  rintro rfl
  rw [h.allowed c hc] at hx
  cases hx

theorem Settled.domain {name : List Char} (h : Settled name) :
    Host.domain name = if endsInNumber name then
      match ipv4? name with
      | some address => .ok address
      | none => .error .invalidIpv4
      else .ok (String.ofList name) := by
  have decoded : Utf8.decode (Percent.bytes name) = name := by
    have plain : '%' ∉ name := fun hm => h.ne hm (by decide) rfl
    have self := Percent.standsFor_self (s := String.ofList name) (by rwa [String.toList_ofList]) []
    rw [String.toList_ofList, List.append_nil, Percent.bytes, List.append_nil] at self
    rw [self, Utf8.decode_encode]
  have small : name.map Char.toLower = name := (List.map_congr_left h.small).trans (List.map_id _)
  have allowed : name.any isForbiddenInDomain = false := List.any_eq_false.2 fun c hc => by
    simp [h.allowed c hc]
  have some : name.isEmpty = false := by simpa using h.nonempty
  unfold Host.domain
  split
  · exact absurd rfl (h.ne List.mem_cons_self (by decide))
  · dsimp only
    rw [decoded, small, allowed, h.labels, some]
    rfl

theorem Settled.written {name : List Char} (h : Settled name)
    (reads : Host.domain name = .ok (String.ofList name)) : Written name := by
  refine ⟨fun c hc => ⟨?_, h.ne hc (by decide)⟩, h.nonempty, fun port hp => ?_, reads⟩
  · have allowed := h.allowed c hc
    simp only [isForbiddenInDomain, Bool.or_eq_false_iff, decide_eq_false_iff_not] at allowed
    rw [isAuthorityChar, Bool.and_eq_true, decide_eq_true_eq]
    refine ⟨by omega, ?_⟩
    simp [h.ne hc (x := '/') (by decide), h.ne hc (x := '\\') (by decide),
      h.ne hc (x := '?') (by decide), h.ne hc (x := '#') (by decide)]
  · rw [splitHost_name (fun c hc => ⟨h.ne hc (by decide), h.ne hc (by decide)⟩), splitHost_port hp,
      List.append_nil]

/-! ## Labels in ASCII -/

theorem mapM_same {α : Type} {f : α → Option α} {xs : List α} (h : ∀ x ∈ xs, f x = some x) :
    xs.mapM f = some xs := by
  induction xs with
  | nil => rfl
  | cons x xs ih =>
    obtain ⟨first, later⟩ := List.forall_mem_cons.1 h
    rw [List.mapM_cons, first, ih later]
    rfl

/-- No direction is at stake among the characters of ASCII. -/
theorem turns_ascii {label : List Char} (h : ∀ c ∈ label, c.toNat < 128) :
    Label.turns label = false := by
  refine List.any_eq_false.2 fun c hc => ?_
  have ascii := h c hc
  have left : Unicode.rightToLeft.contains c = false :=
    Unicode.inside_of_lt (Nat.lt_of_lt_of_le ascii (by decide))
  have notArabic : Unicode.arabicNumbers.contains c = false :=
    Unicode.inside_of_lt (Nat.lt_of_lt_of_le ascii (by decide))
  rw [Unicode.direction, left, notArabic, if_neg (by decide), if_neg (by decide)]
  split
  · decide
  split
  · decide
  split <;> decide

/-- Labels that hold only digits stand for themselves. -/
theorem isName_of_digits {name : List Char}
    (h : ∀ label ∈ name.splitOn '.', ∀ c ∈ label, c.isDigit) : Label.isName name := by
  have read : (name.splitOn '.').mapM Label.read? = some (name.splitOn '.') := by
    refine mapM_same fun label hl => ?_
    have noCode : "xn--".toList.isPrefixOf label = false := by
      cases label with
      | nil => rfl
      | cons c label =>
        have letter : c ≠ 'x' := ne_of_class (h _ hl c List.mem_cons_self) (by decide)
        simp [List.isPrefixOf, letter.symm]
    rw [Label.read?, noCode, if_neg (by decide)]
  have steady : (name.splitOn '.').any Label.turns = false :=
    List.any_eq_false.2 fun label hl => by
      rw [turns_ascii fun c hc => ascii_of_isAlphanum (by simp [Char.isAlphanum, h label hl c hc])]
      decide
  rw [Label.isName, read]
  dsimp only
  rw [steady]
  rfl

theorem settled_ipv4Text (n : Nat) : Settled (ipv4Text n).toList := by
  have chars : ∀ c ∈ (ipv4Text n).toList, c.isDigit ∨ c = '.' := by
    intro c hc
    rw [ipv4Text_toList] at hc
    rcases Literal.mem_intercalate hc with point | ⟨part, hp, hc⟩
    · exact .inr point
    · exact .inl (digits_quad hp c hc)
  have plain : ∀ c ∈ (ipv4Text n).toList, isForbiddenInDomain c = false ∧ c.toLower = c := by
    intro c hc
    rcases chars c hc with digit | rfl
    · exact of_ascii (P := fun c => c.isDigit → isForbiddenInDomain c = false ∧ c.toLower = c)
        (by decide) (ascii_of_isAlphanum (by simp [Char.isAlphanum, digit])) digit
    · decide
  refine ⟨fun c hc => (plain c hc).1, fun c hc => (plain c hc).2, isName_of_digits ?_, ?_⟩
  · rw [splitOn_ipv4Text]
    exact fun part => digits_quad
  · rw [ipv4Text_toList]
    simp [quad]

/-! ## Every host -/

theorem written_of_domain {cs : List Char} {t : String} (h : domain cs = .ok t) :
    Written t.toList := by
  unfold domain at h
  split at h
  · exact written_bracketed h
  · dsimp only at h
    split at h
    · cases h
    next allowed =>
    split at h
    · cases h
    next nonempty =>
    rw [Bool.or_eq_true, not_or, Bool.not_eq_true, Bool.not_eq_true, List.any_eq_false] at allowed
    generalize Utf8.decode (Percent.bytes cs) = decoded at h allowed nonempty
    split at h
    · next number =>
      split at h
      · next address found =>
        cases h
        obtain ⟨n, value, rfl⟩ := Option.map_eq_some_iff.1 found
        obtain ⟨parts, -, value⟩ := Option.bind_eq_some_iff.1 value
        have settled := settled_ipv4Text n
        refine settled.written ?_
        rw [settled.domain, endsInNumber_ipv4Text, if_pos rfl, ipv4?_ipv4Text (ipv4Value?_lt value),
          String.ofList_toList]
      · cases h
    · next name =>
      cases h
      have settled : Settled (decoded.map Char.toLower) := by
        refine ⟨fun c hc => by simpa using allowed.1 c hc, fun c hc => ?_, by simpa using allowed.2,
          by simpa using nonempty⟩
        obtain ⟨d, -, rfl⟩ := List.mem_map.1 hc
        exact toLower_toLower d
      rw [String.toList_ofList]
      refine settled.written ?_
      rw [settled.domain, if_neg name]

end OData.Url.Host
