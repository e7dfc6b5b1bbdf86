import OData.Json.Reader
import OData.Proofs.Text.ByteOrder

/-!
# Sorted objects

The reader puts every member at its place among those that it has read. So the objects of a value
that it reads are sorted by the bytes of their keys at every depth, each key once
(`sorted_of_parse`).
-/

namespace OData.Json

inductive Sorted : Json → Prop where
  | null : Sorted .null
  | bool (b : Bool) : Sorted (.bool b)
  | int (n : Int) : Sorted (.int n)
  | float (x : Binary64) : Sorted (.float x)
  | str (s : String) : Sorted (.str s)
  | arr {items : List Json} (all : ∀ v ∈ items, Sorted v) : Sorted (.arr items)
  | obj {members : List (String × Json)}
      (keys : members.Pairwise fun a b => Text.ByteLt a.1 b.1)
      (all : ∀ member ∈ members, Sorted member.2) : Sorted (.obj members)

/-! ## Members at their place -/

section Members

variable {α : Type} {key : String} {v : α} {entries : List (String × α)}

theorem mem_insertMember {entry : String × α} (member : entry ∈ insertMember key v entries) :
    entry = (key, v) ∨ entry ∈ entries := by
  induction entries with
  | nil => exact .inl (List.mem_singleton.1 member)
  | cons head rest ih =>
    rw [insertMember] at member
    split at member
    · exact List.mem_cons.1 member
    split at member
    · exact (List.mem_cons.1 member).imp_right (.tail _)
    · rcases List.mem_cons.1 member with rfl | later
      · exact .inr (.head _)
      · exact (ih later).imp_right (.tail _)

theorem pairwise_insertMember (key : String) (v : α)
    (ordered : entries.Pairwise fun a b => Text.ByteLt a.1 b.1) :
    (insertMember key v entries).Pairwise fun a b => Text.ByteLt a.1 b.1 := by
  induction entries with
  | nil => exact List.pairwise_singleton _ _
  | cons head rest ih =>
    obtain ⟨before, later⟩ := List.pairwise_cons.1 ordered
    rw [insertMember]
    split
    · next less =>
      have first : Text.ByteLt key head.1 := (Text.byteLt_iff _ _).2 less
      refine List.pairwise_cons.2 ⟨List.forall_mem_cons.2 ⟨first, fun entry member => ?_⟩, ordered⟩
      exact List.lt_trans first (before entry member)
    · next notLess =>
      split
      · next same => exact List.pairwise_cons.2 ⟨same ▸ before, later⟩
      · next differ =>
        refine List.pairwise_cons.2 ⟨fun entry member => ?_, ih later⟩
        rcases mem_insertMember member with rfl | old
        · rw [Text.byteLt_iff]
          exact ((Std.lt_trichotomy head.1 key).resolve_right
            fun h => h.elim (fun e => differ e.symm) notLess)
        · exact before entry old

end Members

theorem sorted_of_numeral {cs : List Char} {v : Json} (h : Numeral.read? cs = some v) :
    v.Sorted := by
  obtain ⟨parts, -, value⟩ := Option.bind_eq_some_iff.1 h
  unfold Numeral.Parts.value? at value
  split at value
  · cases value
    exact .int _
  · obtain ⟨x, -, rfl⟩ := Option.map_eq_some_iff.1 value
    exact .float _

/-! ## The reader -/

namespace Reader

def Frame.Sorted : Frame → Prop
  | .arr items => ∀ v ∈ items, v.Sorted
  | .obj members _ =>
    members.Pairwise (fun a b => Text.ByteLt a.1 b.1) ∧ ∀ member ∈ members, member.2.Sorted

def Mode.Sorted : Mode → Prop
  | .word _ v | .done v => v.Sorted
  | _ => True

structure State.Sorted (s : State) : Prop where
  stack : ∀ frame ∈ s.stack, frame.Sorted
  mode : s.mode.Sorted

variable {s t : State} {stack : List Frame} {mode : Mode} {v : Json} {c : Char}

theorem sorted_complete (value : v.Sorted) (open' : ∀ frame ∈ stack, frame.Sorted) :
    (complete v stack).Sorted := by
  cases stack with
  | nil => exact ⟨open', value⟩
  | cons frame rest =>
    obtain ⟨inner, outer⟩ := List.forall_mem_cons.1 open'
    cases frame with
    | arr items =>
      have items : Frame.Sorted (.arr (v :: items)) := List.forall_mem_cons.2 ⟨value, inner⟩
      exact ⟨List.forall_mem_cons.2 ⟨items, outer⟩, trivial⟩
    | obj members key =>
      have members : Frame.Sorted (.obj (insertMember key v members) key) := by
        refine ⟨pairwise_insertMember key v inner.1, fun member h => ?_⟩
        rcases mem_insertMember h with rfl | old
        · exact value
        · exact inner.2 member old
      exact ⟨List.forall_mem_cons.2 ⟨members, outer⟩, trivial⟩

theorem sorted_closeFrame (open' : ∀ frame ∈ stack, frame.Sorted)
    (h : closeFrame c stack = some t) : t.Sorted := by
  cases stack with
  | nil => cases h
  | cons frame rest =>
    obtain ⟨inner, outer⟩ := List.forall_mem_cons.1 open'
    cases frame with
    | arr items =>
      obtain ⟨-, closed⟩ := Option.ite_none_right_eq_some.1 h
      cases closed
      exact sorted_complete (.arr fun v hv => inner v (List.mem_reverse.1 hv)) outer
    | obj members key =>
      obtain ⟨-, closed⟩ := Option.ite_none_right_eq_some.1 h
      cases closed
      exact sorted_complete (.obj inner.1 inner.2) outer

theorem sorted_openFrame {frame : Frame} (open' : ∀ frame ∈ stack, frame.Sorted)
    (h : openFrame stack frame mode = some t) (inner : frame.Sorted) (plain : mode.Sorted) :
    t.Sorted := by
  obtain ⟨-, opened⟩ := Option.ite_none_right_eq_some.1 h
  cases opened
  exact ⟨List.forall_mem_cons.2 ⟨inner, open'⟩, plain⟩

theorem sorted_beginValue (open' : ∀ frame ∈ stack, frame.Sorted)
    (h : beginValue stack c = some t) : t.Sorted := by
  unfold beginValue at h
  split at h
  · cases h
    exact ⟨open', trivial⟩
  split at h
  · exact sorted_openFrame open' h (by simp [Frame.Sorted]) trivial
  split at h
  · exact sorted_openFrame open' h (by simp [Frame.Sorted]) trivial
  split at h
  · cases h
    exact ⟨open', .bool true⟩
  split at h
  · cases h
    exact ⟨open', .bool false⟩
  split at h
  · cases h
    exact ⟨open', .null⟩
  · obtain ⟨-, numeral⟩ := Option.ite_none_right_eq_some.1 h
    cases numeral
    exact ⟨open', trivial⟩

theorem sorted_endString {isKey : Bool} {text : List Char} (open' : ∀ frame ∈ stack, frame.Sorted)
    (h : endString stack isKey text = some t) : t.Sorted := by
  unfold endString at h
  dsimp only at h
  split at h
  · split at h
    · cases h
      obtain ⟨inner, outer⟩ := List.forall_mem_cons.1 open'
      exact ⟨List.forall_mem_cons.2 ⟨inner, outer⟩, trivial⟩
    · cases h
  · cases h
    exact sorted_complete (.str _) open'

theorem sorted_afterStep (open' : ∀ frame ∈ stack, frame.Sorted)
    (h : afterStep stack c = some t) : t.Sorted := by
  unfold afterStep at h
  split at h
  · split at h
    · cases h
      exact ⟨open', trivial⟩
    · cases h
      exact ⟨open', trivial⟩
    · cases h
  · exact sorted_closeFrame open' h

theorem sorted_tokenStep (sorted : State.Sorted ⟨stack, mode⟩)
    (h : tokenStep stack mode c = some t) : t.Sorted := by
  have open' := sorted.stack
  unfold tokenStep at h
  split at h
  · cases h
    exact sorted
  split at h
  · split at h
    · exact sorted_closeFrame open' h
    · exact sorted_beginValue open' h
  · split at h
    · exact sorted_closeFrame open' h
    · obtain ⟨-, key⟩ := Option.ite_none_right_eq_some.1 h
      cases key
      exact ⟨open', trivial⟩
  · obtain ⟨-, value⟩ := Option.ite_none_right_eq_some.1 h
    cases value
    exact ⟨open', trivial⟩
  · exact sorted_afterStep open' h
  · cases h

theorem sorted_plainStep (sorted : s.Sorted) (h : plainStep s c = some t) : t.Sorted := by
  have open' := sorted.stack
  have plain := sorted.mode
  unfold plainStep at h
  split at h
  · split at h
    · cases h
      exact ⟨open', trivial⟩
    · split at h
      · cases h
      · next numeral => exact sorted_tokenStep (sorted_complete (sorted_of_numeral numeral) open') h
  · next rest v word =>
    rw [word] at plain
    split at h
    · obtain ⟨-, whole⟩ := Option.ite_none_right_eq_some.1 h
      cases whole
      exact sorted_complete plain open'
    · obtain ⟨-, letter⟩ := Option.ite_none_right_eq_some.1 h
      cases letter
      exact ⟨open', plain⟩
    · cases h
  · exact sorted_tokenStep sorted h

theorem sorted_step (sorted : s.Sorted) (h : step s c = some t) : t.Sorted := by
  have open' := sorted.stack
  unfold step at h
  split at h
  · split at h
    · split at h
      · exact sorted_endString open' h
      · obtain ⟨_, -, rfl⟩ := Option.map_eq_some_iff.1 h
        exact ⟨open', trivial⟩
    · obtain ⟨_, -, rfl⟩ := Option.map_eq_some_iff.1 h
      exact ⟨open', trivial⟩
  · exact sorted_plainStep sorted h

theorem sorted_run {cs : List Char} (sorted : s.Sorted) (h : run s cs = some t) : t.Sorted := by
  induction cs generalizing s with
  | nil =>
    cases h
    exact sorted
  | cons c cs ih =>
    obtain ⟨next, stepped, rest⟩ := Option.bind_eq_some_iff.1 h
    exact ih (sorted_step sorted stepped) rest

theorem sorted_finish (sorted : s.Sorted) (h : finish s = some v) : v.Sorted := by
  have plain := sorted.mode
  unfold finish at h
  split at h
  · next done =>
    cases h
    rwa [done] at plain
  · exact sorted_of_numeral (Option.ite_none_right_eq_some.1 h).2
  · cases h

end Reader

theorem sorted_of_parse {text : String} {v : Json} (h : parse text = some v) : v.Sorted := by
  obtain ⟨last, read, finished⟩ := Option.bind_eq_some_iff.1 h
  have first : Reader.start.Sorted := ⟨by simp [Reader.start], trivial⟩
  exact Reader.sorted_finish (Reader.sorted_run first read) finished

end OData.Json
