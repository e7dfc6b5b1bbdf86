import Mathlib.Algebra.Group.Nat.Defs
import OData.Proofs.Url.Components

/-!
# Addresses read back

An IPv6 address is written as its eight pieces in hexadecimal, with `::` for the first of the
longest runs of zeros, and the reader finds the same pieces in it (`ipv6?_ipv6Text`): no other
two colons meet, and the zeros that are left out are those that are missing. An IPv4 address is
written as four bytes in decimal without leading zeros, so no byte is read as octal
(`ipv4?_ipv4Text`).
-/

namespace OData.Url.Host

open Text

/-! ## Numbers in digits -/

/-- The number that the digits of a base up to 16 write. -/
def positional (base : Nat) (cs : List Char) : Nat :=
  cs.foldl (fun n c => base * n + (hexValue? c).getD 0) 0

theorem hexValue?_digitChar {d : Nat} (h : d < 16) : hexValue? d.digitChar = some d := by
  have all : ∀ d : Fin 16, hexValue? (Nat.digitChar d) = some d.val := by decide
  exact all ⟨d, h⟩

theorem positional_concat (base : Nat) (cs : List Char) (c : Char) :
    positional base (cs ++ [c]) = base * positional base cs + (hexValue? c).getD 0 := by
  rw [positional, List.foldl_append]
  rfl

theorem positional_toDigits {base : Nat} (low : 1 < base) (high : base ≤ 16) (n : Nat) :
    positional base (Nat.toDigits base n) = n := by
  induction n using Nat.strongRecOn with
  | ind n ih =>
    rw [Nat.toDigits_eq_if low]
    split
    · next small =>
      rw [positional, List.foldl_cons, List.foldl_nil, hexValue?_digitChar (by omega)]
      simp
    · next large =>
      have digit : n % base < base := Nat.mod_lt n (by omega)
      rw [positional_concat, ih (n / base) (Nat.div_lt_self (by omega) low),
        hexValue?_digitChar (by omega), Option.getD_some, Nat.div_add_mod]

theorem hexValue?_lt (c : Char) : (hexValue? c).getD 0 < 16 := by
  have code {a b : Char} (h : a ≤ b) : a.toNat ≤ b.toNat := UInt32.le_iff_toNat_le.1 h
  unfold hexValue?
  split
  · next digit =>
    have below : c.toNat ≤ '9'.toNat := code (of_decide_eq_true (Bool.and_eq_true_iff.1 digit).2)
    simp only [Option.getD_some, Char.reduceToNat] at below ⊢
    omega
  split
  · next small =>
    have below := code small.2
    simp only [Option.getD_some, Char.reduceToNat] at below ⊢
    omega
  split
  · next large =>
    have below := code large.2
    simp only [Option.getD_some, Char.reduceToNat] at below ⊢
    omega
  · decide

/-- A number grows with each digit by less than one more place. -/
theorem foldl_places_lt {α : Type} {base : Nat} {digit : α → Nat} {xs : List α}
    (h : ∀ x ∈ xs, digit x < base) (n : Nat) :
    xs.foldl (fun n x => base * n + digit x) n < (n + 1) * base ^ xs.length := by
  induction xs generalizing n with
  | nil => simp
  | cons x xs ih =>
    obtain ⟨first, later⟩ := List.forall_mem_cons.1 h
    have place : base * n + digit x + 1 ≤ (n + 1) * base := by
      rw [Nat.add_mul, Nat.one_mul, Nat.mul_comm]
      omega
    calc xs.foldl (fun n x => base * n + digit x) (base * n + digit x)
      _ < (base * n + digit x + 1) * base ^ xs.length := ih later _
      _ ≤ (n + 1) * base * base ^ xs.length := Nat.mul_le_mul_right _ place
      _ = (n + 1) * base ^ (x :: xs).length := by
        rw [List.length_cons, Nat.pow_succ, Nat.mul_comm (base ^ _), Nat.mul_assoc]

theorem positional_lt (cs : List Char) : positional 16 cs < 16 ^ cs.length := by
  have digits : ∀ c ∈ cs, (hexValue? c).getD 0 < 16 := fun c _ => hexValue?_lt c
  have bound := foldl_places_lt digits 0
  rwa [Nat.zero_add, Nat.one_mul] at bound

/-! ## Pieces -/

theorem noColon_of_isHexDigit {c : Char} (h : isHexDigit c) : c ≠ ':' := ne_of_class h (by decide)

theorem hexText_toList (n : Nat) : (hexText n).toList = Nat.toDigits 16 n := by
  rw [hexText, String.toList_ofList]

theorem ipv6Piece?_toDigits {n : Nat} (h : n < 65536) :
    ipv6Piece? (Nat.toDigits 16 n) = some n := by
  have short : (Nat.toDigits 16 n).length ≤ 4 :=
    (Nat.length_toDigits_le_iff (by decide) (by decide)).2 h
  have some : !(Nat.toDigits 16 n).isEmpty := by simp
  rw [ipv6Piece?, if_pos ⟨short, some, List.all_eq_true.2 (isHexDigit_of_mem_toDigits n)⟩]
  exact congrArg Option.some (positional_toDigits (by decide) (by decide) n)

def row (ps : List Nat) : List Char := [':'].intercalate (ps.map (Nat.toDigits 16))

theorem intercalate_hexText (ps : List Nat) :
    (String.intercalate ":" (ps.map hexText)).toList = row ps := by
  rw [row, String.toList_intercalate, List.map_map]
  congr 1
  exact List.map_congr_left fun n _ => hexText_toList n

theorem row_cons_cons (p q : Nat) (ps : List Nat) :
    row (p :: q :: ps) = Nat.toDigits 16 p ++ ':' :: row (q :: ps) := by
  simp [row]

theorem row_singleton (p : Nat) : row [p] = Nat.toDigits 16 p := by
  simp [row]

/-- A row of pieces starts with a digit, so no colon in front of it is doubled. -/
theorem head_row (p : Nat) (ps : List Nat) (rest : List Char) :
    (row (p :: ps) ++ rest).head? ≠ some ':' := by
  obtain ⟨c, cs, digits⟩ := List.exists_cons_of_ne_nil (Nat.toDigits_ne_nil (n := p) (b := 16))
  have hex : isHexDigit c := isHexDigit_of_mem_toDigits p c (by rw [digits]; simp)
  have start : ∃ more, row (p :: ps) ++ rest = c :: more := by
    cases ps with
    | nil => exact ⟨_, by rw [row_singleton, digits]; rfl⟩
    | cons q ps => exact ⟨_, by rw [row_cons_cons, digits]; rfl⟩
  obtain ⟨more, e⟩ := start
  rw [e]
  simpa using noColon_of_isHexDigit hex

theorem ipv6Piece?_lt {cs : List Char} {n : Nat} (h : ipv6Piece? cs = some n) : n < 65536 := by
  unfold ipv6Piece? at h
  split at h
  · next form =>
    cases h
    calc positional 16 cs
      _ < 16 ^ cs.length := positional_lt cs
      _ ≤ 16 ^ 4 := Nat.pow_le_pow_right (by decide) form.1
  · cases h

/-! ## Runs of pieces -/

/-- No quad is looked for where there is no point. -/
theorem go_toDigits {ps : List Nat} (h : ∀ p ∈ ps, p < 65536) (quadAllowed : Bool) :
    ipv6Pieces?.go quadAllowed (ps.map (Nat.toDigits 16)) = some ps := by
  induction ps with
  | nil => rfl
  | cons p ps ih =>
    obtain ⟨first, later⟩ := List.forall_mem_cons.1 h
    cases ps with
    | nil =>
      have noPoint : (Nat.toDigits 16 p).contains '.' = false := by
        rw [← Bool.not_eq_true, List.contains_iff_mem]
        intro hm
        have hex := isHexDigit_of_mem_toDigits p _ hm
        revert hex
        decide
      rw [List.map_singleton, ipv6Pieces?.go, noPoint, Bool.and_false, if_neg (by decide),
        ipv6Piece?_toDigits first]
      rfl
    | cons q ps =>
      rw [List.map_cons, List.map_cons, ipv6Pieces?.go, ← List.map_cons,
        ipv6Piece?_toDigits first, ih later]
      · rfl
      · simp

theorem ipv6Pieces?_row {ps : List Nat} (h : ∀ p ∈ ps, p < 65536) (quadAllowed : Bool) :
    ipv6Pieces? quadAllowed (row ps) = some ps := by
  cases ps with
  | nil => rfl
  | cons p ps =>
    have some : (row (p :: ps)).isEmpty = false := by
      cases ps <;> simp [row_singleton, row_cons_cons]
    have noColon : ∀ d ∈ (p :: ps).map (Nat.toDigits 16), ':' ∉ d := by
      intro d hd hm
      obtain ⟨n, -, rfl⟩ := List.mem_map.1 hd
      exact noColon_of_isHexDigit (isHexDigit_of_mem_toDigits n _ hm) rfl
    rw [ipv6Pieces?, some, if_neg (by decide), row, List.splitOn_intercalate ':' noColon (by simp)]
    exact go_toDigits h quadAllowed

/-- What holds of every part that is read holds of all of them. -/
theorem forall_of_mapM {α β : Type} {f : α → Option β} {P : β → Prop}
    (one : ∀ x y, f x = some y → P y) {xs : List α} {ys : List β} (h : xs.mapM f = some ys) :
    ∀ y ∈ ys, P y := by
  induction xs generalizing ys with
  | nil => cases h; simp
  | cons x xs ih =>
    rw [List.mapM_cons] at h
    obtain ⟨y, first, h⟩ := Option.bind_eq_some_iff.1 h
    obtain ⟨rest, later, h⟩ := Option.bind_eq_some_iff.1 h
    cases h
    exact List.forall_mem_cons.2 ⟨one x y first, ih later⟩

theorem ipv6Byte?_lt {cs : List Char} {n : Nat} (h : ipv6Byte? cs = some n) : n < 256 := by
  unfold ipv6Byte? at h
  split at h
  · split at h
    · next form => cases h; omega
    · cases h
  · cases h

theorem ipv6Quad?_lt {cs : List Char} {ps : List Nat} (h : ipv6Quad? cs = some ps) :
    ∀ p ∈ ps, p < 65536 := by
  unfold ipv6Quad? at h
  split at h
  · next a b c d bytes =>
    cases h
    have byte : ∀ n ∈ [a, b, c, d], n < 256 := forall_of_mapM (fun _ _ => ipv6Byte?_lt) bytes
    simp only [List.forall_mem_cons, List.not_mem_nil, false_imp_iff, implies_true,
      and_true] at byte ⊢
    omega
  · cases h

theorem go_lt {quadAllowed : Bool} {parts : List (List Char)} {ps : List Nat}
    (h : ipv6Pieces?.go quadAllowed parts = some ps) : ∀ p ∈ ps, p < 65536 := by
  induction parts generalizing ps with
  | nil => cases h; simp
  | cons part parts ih =>
    cases parts with
    | nil =>
      rw [ipv6Pieces?.go] at h
      split at h
      · exact ipv6Quad?_lt h
      · obtain ⟨n, read, rfl⟩ := Option.map_eq_some_iff.1 h
        simpa using ipv6Piece?_lt read
    | cons next parts =>
      rw [ipv6Pieces?.go] at h
      · obtain ⟨n, read, h⟩ := Option.bind_eq_some_iff.1 h
        obtain ⟨rest, later, h⟩ := Option.bind_eq_some_iff.1 h
        cases h
        exact List.forall_mem_cons.2 ⟨ipv6Piece?_lt read, ih later⟩
      · simp

theorem ipv6Pieces?_lt {quadAllowed : Bool} {cs : List Char} {ps : List Nat}
    (h : ipv6Pieces? quadAllowed cs = some ps) : ∀ p ∈ ps, p < 65536 := by
  unfold ipv6Pieces? at h
  split at h
  · cases h; simp
  · exact go_lt h

/-- What is read as an address: eight pieces of sixteen bits. -/
structure Address (pieces : List Nat) : Prop where
  eight : pieces.length = 8
  word : ∀ p ∈ pieces, p < 65536

theorem address_of_ipv6? {cs : List Char} {pieces : List Nat} (h : ipv6? cs = some pieces) :
    Address pieces := by
  unfold ipv6? at h
  split at h
  · obtain ⟨ps, read, h⟩ := Option.bind_eq_some_iff.1 h
    split at h
    · next eight => cases h; exact ⟨eight, ipv6Pieces?_lt read⟩
    · cases h
  · obtain ⟨front, first, h⟩ := Option.bind_eq_some_iff.1 h
    obtain ⟨back, second, h⟩ := Option.bind_eq_some_iff.1 h
    split at h
    · next room =>
      cases h
      refine ⟨by simp only [List.length_append, List.length_replicate]; omega, ?_⟩
      have zeros : ∀ p ∈ List.replicate (8 - front.length - back.length) 0, p < 65536 :=
        fun p hp => by rw [List.eq_of_mem_replicate hp]; decide
      exact List.forall_mem_append.2
        ⟨List.forall_mem_append.2 ⟨ipv6Pieces?_lt first, zeros⟩, ipv6Pieces?_lt second⟩
    · cases h

/-! ## The two colons -/

theorem cutDoubleColon_cons {c : Char} {cs : List Char} (h : c ≠ ':' ∨ cs.head? ≠ some ':') :
    cutDoubleColon (c :: cs) = (cutDoubleColon cs).map fun (a, b) => (c :: a, b) := by
  rw [cutDoubleColon]
  rintro rest rfl rfl
  simp at h

/-- Other characters in front only lengthen the text before the two colons. -/
theorem cutDoubleColon_append {w : List Char} (h : ∀ c ∈ w, c ≠ ':') (cs : List Char) :
    cutDoubleColon (w ++ cs) = (cutDoubleColon cs).map fun (a, b) => (w ++ a, b) := by
  induction w with
  | nil => simp
  | cons c w ih =>
    obtain ⟨hc, hw⟩ := List.forall_mem_cons.1 h
    rw [List.cons_append, cutDoubleColon_cons (.inl hc), ih hw, Option.map_map]
    rfl

theorem cutDoubleColon_row (ps : List Nat) (cs : List Char) :
    cutDoubleColon (row ps ++ cs) = (cutDoubleColon cs).map fun (a, b) => (row ps ++ a, b) := by
  have digits (p : Nat) : ∀ c ∈ Nat.toDigits 16 p, c ≠ ':' := fun c hc =>
    noColon_of_isHexDigit (isHexDigit_of_mem_toDigits p c hc)
  induction ps with
  | nil => simp [row]
  | cons p ps ih =>
    cases ps with
    | nil => rw [row_singleton]; exact cutDoubleColon_append (digits p) cs
    | cons q ps =>
      rw [row_cons_cons, List.append_assoc, cutDoubleColon_append (digits p), List.cons_append,
        cutDoubleColon_cons (.inr (head_row q ps cs)), ih, Option.map_map, Option.map_map]
      simp [Function.comp_def]

/-! ## The zeros that are left out -/

theorem zeroRun_split (ps : List Nat) :
    ps = List.replicate (zeroRun ps) 0 ++ ps.drop (zeroRun ps) := by
  induction ps with
  | nil => rfl
  | cons p ps ih =>
    cases p with
    | zero =>
      have more : zeroRun (0 :: ps) = zeroRun ps + 1 := by simp [zeroRun]
      rw [more, List.replicate_succ, List.cons_append, List.drop_succ_cons, ← ih]
    | succ p =>
      have none : zeroRun ((p + 1) :: ps) = 0 := by simp [zeroRun]
      rw [none]
      rfl

/-- A longest run that is not empty is the run of zeros at its start. -/
theorem longestZeros_run (i : Nat) (ps : List Nat) (some : (longestZeros i ps).2 ≠ 0) :
    i ≤ (longestZeros i ps).1 ∧
      (longestZeros i ps).2 = zeroRun (ps.drop ((longestZeros i ps).1 - i)) := by
  induction ps generalizing i with
  | nil => exact absurd rfl some
  | cons p ps ih =>
    rw [longestZeros] at some ⊢
    split
    · next here => exact ⟨Nat.le_refl i, by rw [Nat.sub_self]; rfl⟩
    · next here =>
      obtain ⟨start, run⟩ := ih (i + 1) (by omega)
      refine ⟨by omega, ?_⟩
      rw [show (longestZeros (i + 1) ps).1 - i = (longestZeros (i + 1) ps).1 - (i + 1) + 1 by omega,
        List.drop_succ_cons]
      exact run

/-- The address around the zeros that its text leaves out. -/
theorem split_at_zeros {ps : List Nat} {start len : Nat} (h : longestZeros 0 ps = (start, len))
    (some : len ≠ 0) :
    ps = ps.take start ++ List.replicate len 0 ++ ps.drop (start + len) := by
  have run : len = zeroRun (ps.drop start) := by
    have longest := (longestZeros_run 0 ps (by rwa [h])).2
    rwa [h] at longest
  have zeros := zeroRun_split (ps.drop start)
  rw [← run, List.drop_drop] at zeros
  conv => lhs; rw [← List.take_append_drop start ps, zeros]
  rw [List.append_assoc]

theorem ipv6?_ipv6Text {pieces : List Nat} (h : Address pieces) :
    ipv6? (ipv6Text pieces).toList = some pieces := by
  unfold ipv6Text
  cases found : longestZeros 0 pieces with
  | mk start len =>
    dsimp only
    split
    · have whole : cutDoubleColon (row pieces) = none := by
        have alone := cutDoubleColon_row pieces []
        rwa [List.append_nil] at alone
      rw [intercalate_hexText, ipv6?, whole]
      dsimp only
      rw [ipv6Pieces?_row h.word]
      exact if_pos h.eight
    · next gap =>
      have split := split_at_zeros found (by omega)
      have word := h.word
      have eight := h.eight
      rw [String.toList_append, String.toList_append, intercalate_hexText, intercalate_hexText]
      generalize pieces.take start = front at split
      generalize pieces.drop (start + len) = back at split
      subst split
      simp only [List.forall_mem_append] at word
      simp only [List.length_append, List.length_replicate] at eight
      have cut : cutDoubleColon (row front ++ "::".toList ++ row back) =
          some (row front, row back) := by
        rw [List.append_assoc, cutDoubleColon_row]
        simp [cutDoubleColon]
      rw [ipv6?, cut]
      dsimp only
      rw [ipv6Pieces?_row word.1.1, ipv6Pieces?_row word.2]
      dsimp only [bind, Option.bind]
      rw [if_pos (by omega), show 8 - front.length - back.length = len by omega]

/-! ## Four bytes -/

def quad (n : Nat) : List Nat := [n / 0x1000000, n / 0x10000 % 256, n / 256 % 256, n % 256]

theorem ipv4Text_toList (n : Nat) :
    (ipv4Text n).toList = ['.'].intercalate ((quad n).map (Nat.toDigits 10)) := by
  simp [ipv4Text, quad]

theorem head_toDigits {n : Nat} (h : 0 < n) : (Nat.toDigits 10 n).head? ≠ some '0' := by
  induction n using Nat.strongRecOn with
  | ind n ih =>
    rw [Nat.toDigits_eq_if (by decide)]
    split
    · next small =>
      have all : ∀ d : Fin 10, 0 < d.val → [Nat.digitChar d].head? ≠ some '0' := by decide
      exact all ⟨n, small⟩ h
    · next large =>
      obtain ⟨c, cs, digits⟩ :=
        List.exists_cons_of_ne_nil (Nat.toDigits_ne_nil (n := n / 10) (b := 10))
      have front := ih (n / 10) (by omega) (by omega)
      rw [digits] at front ⊢
      exact front

/-- A number without leading zeros is read in decimal. -/
theorem ipv4Number?_toDigits (n : Nat) : ipv4Number? (Nat.toDigits 10 n) = some n := by
  rcases Nat.eq_zero_or_pos n with rfl | pos
  · decide
  have lead := head_toDigits pos
  have decimal : (Nat.toDigits 10 n).all Char.isDigit := List.all_eq_true.2 fun c hc =>
    Nat.isDigit_of_mem_toDigits (by decide) (by decide) hc
  unfold ipv4Number?
  split
  · next e => exact absurd e Nat.toDigits_ne_nil
  · next e => rw [e] at lead; exact absurd rfl lead
  · next e => rw [e] at lead; exact absurd rfl lead
  · next e => rw [e] at lead; exact absurd rfl lead
  · rw [ipv4Number?.radix, if_pos decimal]
    exact congrArg some (positional_toDigits (by decide) (by decide) n)

theorem digits_quad {n : Nat} {part : List Char} (h : part ∈ (quad n).map (Nat.toDigits 10)) :
    ∀ c ∈ part, c.isDigit := by
  obtain ⟨m, -, rfl⟩ := List.mem_map.1 h
  exact fun c hc => Nat.isDigit_of_mem_toDigits (by decide) (by decide) hc

theorem splitOn_ipv4Text (n : Nat) :
    (ipv4Text n).toList.splitOn '.' = (quad n).map (Nat.toDigits 10) := by
  have noPoint : ∀ d ∈ (quad n).map (Nat.toDigits 10), '.' ∉ d := fun d hd hm =>
    absurd (digits_quad hd _ hm) (by decide)
  rw [ipv4Text_toList, List.splitOn_intercalate '.' noPoint (by simp [quad])]

theorem dottedParts_ipv4Text (n : Nat) :
    dottedParts (ipv4Text n).toList = (quad n).map (Nat.toDigits 10) := by
  rw [dottedParts, splitOn_ipv4Text]
  simp [quad]

theorem ipv4Value?_quad {n : Nat} (h : n < 2 ^ 32) : ipv4Value? (quad n) = some n := by
  have order : (quad n).reverse =
      n % 256 :: [n / 256 % 256, n / 0x10000 % 256, n / 0x1000000] := rfl
  have front : [n / 256 % 256, n / 0x10000 % 256, n / 0x1000000].all (· ≤ 255) := by
    simp only [List.all_cons, List.all_nil, Bool.and_true, Bool.and_eq_true, decide_eq_true_eq]
    omega
  have last : n % 256 < Nat.pow 256 (5 - (quad n).length) := Nat.mod_lt n (by decide)
  have value : (quad n).dropLast.foldl (fun n b => 256 * n + b) 0 = n / 256 := by
    simp only [quad, List.dropLast_cons_cons, List.dropLast_singleton, List.foldl_cons,
      List.foldl_nil]
    omega
  have place : Nat.pow 256 (5 - (quad n).length) = 256 := rfl
  unfold ipv4Value?
  rw [order]
  dsimp only
  rw [if_pos ⟨by simp [quad], front, last⟩, value, place, Nat.div_add_mod']

theorem ipv4?_ipv4Text {n : Nat} (h : n < 2 ^ 32) :
    ipv4? (ipv4Text n).toList = some (ipv4Text n) := by
  have numbers : ((quad n).map (Nat.toDigits 10)).mapM ipv4Number? = some (quad n) := by
    simp [quad, ipv4Number?_toDigits]
  rw [ipv4?, dottedParts_ipv4Text, numbers, Option.bind_some, ipv4Value?_quad h]
  rfl

theorem endsInNumber_ipv4Text (n : Nat) : endsInNumber (ipv4Text n).toList := by
  have last : ((quad n).map (Nat.toDigits 10)).getLast? = some (Nat.toDigits 10 (n % 256)) := rfl
  rw [endsInNumber, dottedParts_ipv4Text, last]
  dsimp only
  rw [ipv4Number?_toDigits]
  simp

/-- The last number fills what the others leave of 32 bits. -/
theorem ipv4Value?_lt {parts : List Nat} {n : Nat} (h : ipv4Value? parts = some n) :
    n < 2 ^ 32 := by
  unfold ipv4Value? at h
  split at h
  · cases h
  · next last front order =>
    obtain rfl : parts = front.reverse ++ [last] := by
      rw [← List.reverse_reverse parts, order, List.reverse_cons]
    split at h
    · next form =>
      cases h
      obtain ⟨short, bytes, fits⟩ := form
      rw [List.length_append, List.length_reverse, List.length_singleton] at short fits ⊢
      have small : ∀ b ∈ front.reverse, b < 256 := by
        intro b hb
        have byte := List.all_eq_true.1 bytes b (List.mem_reverse.1 hb)
        have le : b ≤ 255 := of_decide_eq_true byte
        omega
      have bound := foldl_places_lt small 0
      rw [Nat.zero_add, Nat.one_mul, List.length_reverse] at bound
      rw [List.dropLast_concat]
      generalize front.reverse.foldl (fun n b => 256 * n + b) 0 = high at bound ⊢
      have room : 256 ^ front.length * 256 ^ (5 - (front.length + 1)) = 256 ^ 4 := by
        rw [← Nat.pow_add, show front.length + (5 - (front.length + 1)) = 4 by omega]
      calc high * 256 ^ (5 - (front.length + 1)) + last
        _ < high * 256 ^ (5 - (front.length + 1)) + 256 ^ (5 - (front.length + 1)) :=
          Nat.add_lt_add_left fits _
        _ = (high + 1) * 256 ^ (5 - (front.length + 1)) := (Nat.succ_mul _ _).symm
        _ ≤ 256 ^ front.length * 256 ^ (5 - (front.length + 1)) := Nat.mul_le_mul_right _ bound
        _ = 256 ^ 4 := room
        _ = 2 ^ 32 := by decide
    · cases h

end OData.Url.Host
