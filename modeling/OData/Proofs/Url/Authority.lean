import OData.Proofs.Text.Digits
import OData.Proofs.Url.Host

/-!
# Authorities read back

An authority in its final form (`Authority.Written`) is read back from its text
(`Authority.Written.read`): the credentials are coded and so end at the only `@`, the host ends
at the colon of the port, and the port is neither too large nor the default. Every authority
that is read is in this form (`written_of_readAuthority`).
-/

namespace OData.Url

open Text

/-! ## Credentials -/

theorem keepInCredentials_of_isUnreserved (c : Char) (h : Percent.isUnreserved c) :
    keepInCredentials c :=
  of_ascii (P := fun c => Percent.isUnreserved c → keepInCredentials c) (by decide +kernel)
    (ascii_of_isUnreserved h) h

/-- Coded text of the credentials. -/
theorem keepInCredentials_encodeText (cs : List Char) :
    ∀ c ∈ (encodeText keepInCredentials cs).toList, keepInCredentials c :=
  kept_encodeText keepInCredentials_of_isUnreserved (by decide) cs

theorem encodeText_again (cs : List Char) :
    encodeText keepInCredentials (encodeText keepInCredentials cs).toList =
      encodeText keepInCredentials cs := by
  rw [encodeText_kept (keepInCredentials_encodeText cs), String.ofList_toList]

theorem encodeText_ne_nil {keep : Char → Bool} {cs : List Char} (h : cs ≠ []) :
    (encodeText keep cs).toList ≠ [] := by
  obtain ⟨c, cs, rfl⟩ := List.exists_cons_of_ne_nil h
  rw [encodeText, String.toList_ofList, Percent.encodeWith, List.flatMap_cons]
  refine List.append_ne_nil_of_left_ne_nil ?_ _
  unfold Percent.encodeChar
  split
  · simp
  · obtain ⟨b, bs, bytes⟩ := List.exists_cons_of_ne_nil (String.utf8EncodeChar_ne_nil (c := c))
    simp [bytes, Percent.escape]

/-- The characters of written credentials: those that stay, and the colon before a password. -/
theorem credentialsText_alphabet (cs : List Char) :
    ∀ c ∈ (credentialsText cs).toList, keepInCredentials c ∨ c = ':' := by
  have coded (cs : List Char) : ∀ c ∈ (encodeText keepInCredentials cs).toList,
      keepInCredentials c ∨ c = ':' := fun c hc => .inl (keepInCredentials_encodeText cs c hc)
  unfold credentialsText
  split
  · split
    · exact coded _
    · rw [String.toList_append, String.toList_append]
      exact List.forall_mem_append.2
        ⟨List.forall_mem_append.2 ⟨coded _, by simp⟩, coded _⟩
  · exact coded _

theorem credentialsText_plain {cs : List Char} (h : ∀ c ∈ cs, keepInCredentials c) :
    credentialsText cs = String.ofList cs := by
  have noColon : ∀ c ∈ cs, (c == ':') = false := fun c hc =>
    beq_eq_false_iff_ne.2 (ne_of_class (h c hc) (by decide))
  rw [credentialsText, splitAtFirst_none noColon]
  exact encodeText_kept h

/-- Credentials that are written are written again as they are. -/
theorem credentialsText_again (cs : List Char) :
    credentialsText (credentialsText cs).toList = credentialsText cs := by
  have alone (cs : List Char) : credentialsText (encodeText keepInCredentials cs).toList =
      encodeText keepInCredentials cs := by
    rw [credentialsText_plain (keepInCredentials_encodeText cs), String.ofList_toList]
  conv => lhs; arg 1; rw [credentialsText]
  conv => rhs; rw [credentialsText]
  split
  · next user password _ =>
    split
    · exact alone user
    · next some =>
      have noColon : ∀ c ∈ (encodeText keepInCredentials user).toList, (c == ':') = false :=
        fun c hc => beq_eq_false_iff_ne.2
          (ne_of_class (keepInCredentials_encodeText user c hc) (by decide))
      have stays : (encodeText keepInCredentials password).toList.isEmpty = false := by
        rw [List.isEmpty_eq_false_iff]
        exact encodeText_ne_nil (by simpa using some)
      have cut := splitAtFirst_some noColon (x := ':') rfl
        (encodeText keepInCredentials password).toList
      rw [String.toList_append, String.toList_append, List.append_assoc]
      dsimp only [credentialsText]
      rw [show ":".toList = [':'] from rfl, List.singleton_append, cut]
      dsimp only
      rw [stays, if_neg (by decide), encodeText_again, encodeText_again]
  · next user _ => exact alone user

theorem splitCredentials_at {host : List Char} (h : '@' ∉ host) (user : List Char) :
    splitCredentials (user ++ '@' :: host) = (some user, host) := by
  have noAt : ∀ c ∈ host.reverse, (c == '@') = false := fun c hc =>
    beq_eq_false_iff_ne.2 fun e => h (e ▸ List.mem_reverse.1 hc)
  have cut := splitAtFirst_some noAt (x := '@') rfl user.reverse
  rw [splitCredentials, List.reverse_append, List.reverse_cons, List.append_assoc,
    List.singleton_append, cut]
  simp

theorem splitCredentials_none {cs : List Char} (h : '@' ∉ cs) :
    splitCredentials cs = (none, cs) := by
  have noAt : ∀ c ∈ cs.reverse, (c == '@') = false := fun c hc =>
    beq_eq_false_iff_ne.2 fun e => h (e ▸ List.mem_reverse.1 hc)
  rw [splitCredentials, splitAtFirst_none noAt]

/-! ## Ports -/

/-- A port that is written: neither too large nor the one that is left out. -/
def PortWritten (scheme : String) (port : Option Nat) : Prop :=
  ∀ p ∈ port, p ≤ 65535 ∧ defaultPort? scheme ≠ some p

def portText (port : Option Nat) : List Char := port.elim [] fun p => ':' :: Nat.toDigits 10 p

theorem numeral_portText (port : Option Nat) : Numeral (portText port) := by
  cases port with
  | none => exact .nil
  | some p => exact .cons (by decide) (.toDigits p)

theorem written_of_readPort {scheme : String} {cs rest : List Char} {port : Option Nat}
    (h : readPort (defaultPort? scheme) cs = .ok (port, rest)) : PortWritten scheme port := by
  unfold readPort at h
  dsimp only at h
  split at h
  · cases h
  next small =>
  split at h
  · cases h
  split at h
  · cases h
    simp [PortWritten]
  · next other =>
    cases h
    rw [Bool.or_eq_true, not_or] at other
    rintro p ⟨⟩
    exact ⟨Nat.le_of_not_lt small, fun e => other.2 (by simp [e])⟩

theorem readPort_portText {scheme : String} {port : Option Nat} (h : PortWritten scheme port) :
    readPort (defaultPort? scheme) ((portText port).drop 1) = .ok (port, []) := by
  cases port with
  | none => rfl
  | some p =>
    obtain ⟨small, other⟩ := h p rfl
    have digits : ∀ c ∈ Nat.toDigits 10 p, c.isDigit := fun c hc =>
      Nat.isDigit_of_mem_toDigits (by decide) (by decide) hc
    have taken : (Nat.toDigits 10 p).takeWhile Char.isDigit = Nat.toDigits 10 p :=
      List.takeWhile_eq_self_iff.2 digits
    have dropped : (Nat.toDigits 10 p).dropWhile Char.isDigit = [] :=
      List.dropWhile_eq_nil_iff.2 digits
    unfold readPort portText
    simp only [Option.elim_some, List.drop_succ_cons, List.drop_zero]
    rw [taken, dropped, readDigits_toDigits, if_neg (by omega), if_neg (by simp), if_neg]
    simp [other]

/-! ## Authorities -/

structure Authority.Written (scheme : String) (a : Authority) : Prop where
  alphabet : ∀ c ∈ a.credentials.toList, keepInCredentials c ∨ c = ':'
  coded : credentialsText a.credentials.toList = a.credentials
  host : Host.Written a.host.toList
  port : PortWritten scheme a.port

theorem written_of_readAuthority {scheme : String} {cs path rest : List Char} {atEnd : Bool}
    {a : Authority} (web : SchemeClass.of scheme = .web)
    (h : readAuthority scheme cs path atEnd = .ok (a, rest)) : a.Written scheme := by
  unfold readAuthority at h
  dsimp only at h
  rw [web, show SchemeClass.web.isSpecial = true from rfl] at h
  split at h
  · cases h
  split at h
  · cases h
  rw [if_pos rfl] at h
  obtain ⟨host, readHost, h⟩ := ok_of_bind h
  split at h
  · cases h
  obtain ⟨⟨port, left⟩, readPort, h⟩ := ok_of_bind h
  split at h
  · cases h
  cases h
  exact ⟨credentialsText_alphabet _, credentialsText_again _, Host.written_of_domain readHost,
    written_of_readPort readPort⟩

namespace Authority.Written

variable {scheme : String} {a : Authority}

theorem text_toList (a : Authority) :
    a.text.toList = (if a.credentials = "" then [] else a.credentials.toList ++ ['@']) ++
      (a.host.toList ++ portText a.port) := by
  rw [text, String.toList_append, String.toList_append, List.append_assoc]
  congr 1
  · split <;> simp
  · cases a.port <;> simp [portText]

theorem chars (h : a.Written scheme) : ∀ c ∈ a.text.toList, Host.isAuthorityChar c := by
  rw [text_toList]
  refine List.forall_mem_append.2 ⟨?_, List.forall_mem_append.2 ⟨?_, ?_⟩⟩
  · split
    · simp
    · refine List.forall_mem_append.2 ⟨fun c hc => ?_, List.forall_mem_singleton.2 (by decide)⟩
      rcases h.alphabet c hc with kept | rfl
      · exact Host.authorityChar_of_keepInCredentials kept
      · decide
  · exact fun c hc => (h.host.chars c hc).1
  · exact fun c hc => (Host.authorityChar_of_isNumeral (numeral_portText a.port c hc)).1

theorem nonempty (h : a.Written scheme) : a.text.toList ≠ [] := by
  rw [text_toList]
  exact List.append_ne_nil_of_right_ne_nil _
    (List.append_ne_nil_of_left_ne_nil h.host.nonempty _)

theorem hostPort_noAt (h : a.Written scheme) : '@' ∉ a.host.toList ++ portText a.port := by
  rw [List.mem_append, not_or]
  exact ⟨fun hm => (h.host.chars _ hm).2 rfl, fun hm =>
    (Host.authorityChar_of_isNumeral (numeral_portText a.port _ hm)).2 rfl⟩

theorem split (h : a.Written scheme) :
    ∃ user, splitCredentials a.text.toList = (user, a.host.toList ++ portText a.port) ∧
      credentialsText (user.getD []) = a.credentials := by
  rw [text_toList]
  split
  · next empty =>
    refine ⟨none, splitCredentials_none h.hostPort_noAt, ?_⟩
    rw [empty]
    rfl
  · refine ⟨some a.credentials.toList, ?_, h.coded⟩
    rw [List.append_assoc, List.singleton_append]
    exact splitCredentials_at h.hostPort_noAt _

/-- The text of an authority is read as that authority, whatever path follows it. -/
theorem read (h : a.Written scheme) (web : SchemeClass.of scheme = .web) (path : List Char)
    (atEnd : Bool) : readAuthority scheme a.text.toList path atEnd = .ok (a, []) := by
  obtain ⟨user, split, credentials⟩ := h.split
  have port : ∀ c ∈ (portText a.port).head?, c = ':' := by
    cases a.port <;> simp [portText]
  have host : a.host.toList.isEmpty = false := by simpa using h.host.nonempty
  have named : a.host ≠ "" := fun e => h.host.nonempty (by simp [e])
  have reads := h.host.reads
  rw [String.ofList_toList] at reads
  unfold readAuthority
  rw [split]
  dsimp only
  rw [web, show SchemeClass.web.isSpecial = true from rfl, h.host.alone _ port, credentials,
    if_neg (by simp [h.host.nonempty])]
  dsimp only
  rw [host, if_neg (by decide), if_pos rfl, reads, readPort_portText h.port]
  dsimp only [bind, Except.bind, pure, Except.pure]
  simp only [named, decide_false, Bool.false_and, Bool.false_eq_true, if_false]

end Authority.Written

end OData.Url
