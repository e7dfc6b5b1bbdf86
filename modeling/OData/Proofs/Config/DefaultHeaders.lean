import OData.Config
import OData.Proofs.Json.Sorted

/-!
# The order of the default headers

The default headers of a configuration stand in the order of the bytes of their names, each name
once (`Config.Ordered`): none does, a header that is added takes its place (`Ordered.withHeader`),
and those of a text have theirs from the reader (`ordered_of_parse`).
-/

namespace OData

/-! ## Records -/

namespace Json

theorem map_cons {α : Type} (read : Reading α) (member : String × Json)
    (rest : List (String × Json)) :
    Reading.map read (.obj (member :: rest)) =
      (read member.2).bind fun a =>
        (Reading.map read (.obj rest)).map fun entries => (member.1, a) :: entries := by
  unfold Reading.map
  dsimp only
  rw [List.mapM_cons]
  generalize (List.mapM _ rest : Except ShapeError (List (String × α))) = later
  cases read member.2 with
  | error e => rfl
  | ok a => cases later <;> rfl

theorem keys_of_map {α : Type} {read : Reading α} {members : List (String × Json)}
    {entries : List (String × α)} (h : Reading.map read (.obj members) = .ok entries) :
    entries.map Prod.fst = members.map Prod.fst := by
  induction members generalizing entries with
  | nil => cases h; rfl
  | cons member rest ih =>
    rw [map_cons] at h
    cases first : read member.2 with
    | error e => rw [first] at h; cases h
    | ok a =>
      cases later : Reading.map read (.obj rest) with
      | error e => rw [first, later] at h; cases h
      | ok entries' =>
        rw [first, later] at h
        cases h
        rw [List.map_cons, List.map_cons, ih later]

namespace RecordShape

variable {ρ : Type} {shape : RecordShape ρ} {I : ρ → Prop} {r r' : ρ}

/-- A field keeps `I` when it is read from a value whose objects are sorted. -/
def Keeps (I : ρ → Prop) (field : Field ρ) : Prop :=
  ∀ ⦃v r r'⦄, v.Sorted → I r → field.read v r = .ok r' → I r'

theorem readMember_keeps (keep : ∀ field ∈ shape.fields, Keeps I field) {member : String × Json}
    (sorted : member.2.Sorted) (start : I r) (h : shape.readMember r member = .ok r') : I r' := by
  unfold readMember at h
  split at h
  · next field found => exact keep field (List.mem_of_find?_eq_some found) sorted start h
  · split at h
    · cases h
    · cases h
      exact start

theorem readMembers_keeps (keep : ∀ field ∈ shape.fields, Keeps I field)
    {members : List (String × Json)} (sorted : ∀ member ∈ members, member.2.Sorted) (start : I r)
    (h : members.foldlM shape.readMember r = .ok r') : I r' := by
  induction members generalizing r with
  | nil => cases h; exact start
  | cons member rest ih =>
    obtain ⟨first, later⟩ := List.forall_mem_cons.1 sorted
    rw [List.foldlM_cons] at h
    cases read : shape.readMember r member with
    | error e => rw [read] at h; cases h
    | ok next =>
      rw [read] at h
      exact ih later (readMember_keeps keep first start read) h

theorem readItems_keeps {fields : List (Field ρ)} (keep : ∀ field ∈ fields, Keeps I field)
    {items : List Json} (sorted : ∀ v ∈ items, v.Sorted) (start : I r) {i : Nat}
    (h : shape.readItems i fields items r = .ok r') : I r' := by
  induction fields generalizing i items r with
  | nil => cases items <;> cases h <;> exact start
  | cons field fields ih =>
    obtain ⟨now, others⟩ := List.forall_mem_cons.1 keep
    cases items with
    | nil =>
      rw [readItems] at h
      split at h
      · exact ih others sorted start h
      · cases h
    | cons v items =>
      obtain ⟨first, later⟩ := List.forall_mem_cons.1 sorted
      rw [readItems] at h
      cases read : field.read v r with
      | error e => rw [read] at h; cases h
      | ok next =>
        rw [read] at h
        exact ih others later (now first start read) h

/-- What every field keeps, a record has that is read. -/
theorem read_keeps (keep : ∀ field ∈ shape.fields, Keeps I field) (start : I shape.start)
    {v : Json} (sorted : v.Sorted) (h : shape.read v = .ok r) : I r := by
  unfold read at h
  cases sorted with
  | null | bool | int | float | str => cases h
  | @obj members _ all =>
    dsimp only [readObject] at h
    cases read : members.foldlM shape.readMember shape.start with
    | error e => rw [read] at h; cases h
    | ok record =>
      have kept := readMembers_keeps keep all start read
      rw [read] at h
      dsimp only [bind, Except.bind] at h
      split at h
      · cases h
      · cases h
        exact kept
  | @arr items all =>
    dsimp only at h
    cases read : shape.readItems 0 shape.fields items shape.start with
    | error e => rw [read] at h; cases h
    | ok record =>
      have kept := readItems_keeps keep all start read
      rw [read] at h
      dsimp only [bind, Except.bind] at h
      split at h
      · cases h
        exact kept
      · cases h

end RecordShape

end Json

/-! ## Configurations -/

namespace Config

/-- The default headers stand in the order of the bytes of their names, each name once. -/
def Ordered (config : Config) : Prop :=
  config.defaultHeaders.Pairwise fun a b => Text.ByteLt a.1 b.1

variable {config : Config}

theorem ordered_of_none (none : config.defaultHeaders = []) : config.Ordered := by
  rw [Ordered, none]
  exact .nil

theorem Ordered.withHeader (ordered : config.Ordered) (name value : String) :
    (config.withHeader name value).Ordered :=
  Json.pairwise_insertMember name value ordered

theorem keeps_field {α : Type} {name : String} {read : Json.Reading α} {set : Config → α → Config}
    (same : ∀ config a, (set config a).defaultHeaders = config.defaultHeaders) :
    Json.RecordShape.Keeps Ordered (field name read set) := by
  intro v config config' _ ordered h
  dsimp only [field] at h
  cases found : read v with
  | error e => rw [found] at h; cases h
  | ok a =>
    rw [found] at h
    cases h
    rwa [Ordered, same]

theorem keeps_defaultHeaders {name : String} :
    Json.RecordShape.Keeps Ordered (field name (Json.Reading.map Json.Reading.string)
      fun config headers => { config with defaultHeaders := headers }) := by
  intro v config config' sorted _ h
  dsimp only [field] at h
  cases found : Json.Reading.map Json.Reading.string v with
  | error e => rw [found] at h; cases h
  | ok headers =>
    rw [found] at h
    cases h
    cases sorted with
    | null | bool | int | float | str | arr => cases found
    | obj keys _ =>
      have names := Json.keys_of_map found
      rw [← List.pairwise_map, ← names, List.pairwise_map] at keys
      exact keys

/-- A configuration that is read from sorted objects has its default headers in order. -/
theorem ordered_of_read {v : Json} (sorted : v.Sorted) (h : read v = .ok config) :
    config.Ordered := by
  have keep : ∀ field ∈ shape.fields, Json.RecordShape.Keeps Ordered field := by
    simp only [shape, List.forall_mem_cons]
    exact ⟨keeps_field fun _ _ => rfl, keeps_field fun _ _ => rfl, keeps_field fun _ _ => rfl,
      keeps_field fun _ _ => rfl, keeps_field fun _ _ => rfl, keeps_defaultHeaders,
      keeps_field fun _ _ => rfl, by simp⟩
  exact Json.RecordShape.read_keeps keep (ordered_of_none rfl) sorted h

theorem ordered_of_parse {text : String} {v : Json} (parsed : Json.parse text = some v)
    (h : read v = .ok config) : config.Ordered :=
  ordered_of_read (Json.sorted_of_parse parsed) h

end Config

end OData
