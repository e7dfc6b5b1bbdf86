import OData.Proofs.Calendar.WrittenTimestamps
import OData.Proofs.Draft.Components

/-!
# Dates and moments in comparisons

A date or a moment and its natural text are one literal, because the text is recognised as a
timestamp and not quoted (`Value.IsTimestamp.ofValue_text`). Two values that are one literal make
comparisons that write the same (`alike_of_literal`), so it makes no difference to a filter, or to
a URI, whether a comparison is given the value or its text (`timestamp_as_text`).
-/

namespace OData

variable {g : Grammar} {v w : Value}

/-! ## One literal -/

/-- The dates of the calendar, and the moments of the years with four digits. -/
def Value.IsTimestamp : Value → Prop
  | .date d => Timestamp.isDate d
  | .moment m => 0 ≤ m.date.year ∧ m.date.year ≤ 9999
  | _ => False

theorem Literal.ofValue_recognised {s : String} (h : Timestamp.recognises s.toList) :
    Literal.ofValue (.text s) = s := by
  rw [Literal.ofValue, Literal.isBare, h, Bool.or_true, if_pos rfl]

/-- The text of a date or moment stands as it is, as the value does. -/
theorem Value.IsTimestamp.ofValue_text (h : v.IsTimestamp) :
    Literal.ofValue (.text v.toText) = Literal.ofValue v := by
  cases v with
  | date d =>
    apply Literal.ofValue_recognised
    rw [show (Value.date d).toText = String.ofList d.chars from rfl, String.toList_ofList]
    exact Timestamp.recognises_date h
  | moment m =>
    apply Literal.ofValue_recognised
    rw [show (Value.moment m).toText = String.ofList m.chars from rfl, String.toList_ofList]
    exact Timestamp.recognises_moment h.1 h.2
  | _ => cases h

theorem Value.IsTimestamp.isNull (h : v.IsTimestamp) : v.isNull = false := by
  cases v with
  | null => cases h
  | _ => rfl

/-! ## Comparisons with one literal -/

theorem comparison_of_literal (some' : v.isNull = false) (some'' : w.isNull = false)
    (same : Literal.ofValue v = Literal.ofValue w) (column operator : String) :
    ∃ condition condition', g.comparison column operator v = .ok condition ∧
      g.comparison column operator w = .ok condition' ∧
      Filter.conditionText condition = Filter.conditionText condition' := by
  unfold Grammar.comparison
  dsimp only
  by_cases known : (g.isFunction operator || Operator.isKnown operator) = true
  · rw [if_pos known, if_pos known]
    simp only [some', some'', Bool.false_eq_true, if_false]
    split
    · exact ⟨_, _, rfl, rfl, by rw [Filter.conditionText, Filter.conditionText, same]⟩
    · exact ⟨_, _, rfl, rfl, by rw [Filter.conditionText, Filter.conditionText, same]⟩
  · rw [if_neg known, if_neg known]
    cases g.isFunction operator <;> exact ⟨_, _, rfl, rfl, rfl⟩

theorem alike_push (q : Query) (connector : Connector) {condition condition' : Condition}
    (same : Filter.conditionText condition = Filter.conditionText condition') :
    (q.push connector condition).Alike (q.push connector condition') where
  isCount := rfl
  wantsTotal := rfl
  content k _ := by
    cases k with
    | filter =>
      have pieces := Filter.pieces_cons connector condition []
      rw [same, ← Filter.pieces_cons] at pieces
      exact (q.pieces_push connector condition).trans
        ((congrArg (q.pieces ++ ·) pieces).trans (q.pieces_push connector condition').symm)
    | _ => rfl

/-- Values that are one literal make comparisons that write the same. -/
theorem alike_of_literal (some' : v.isNull = false) (some'' : w.isNull = false)
    (same : Literal.ofValue v = Literal.ofValue w) (d : Draft) (connector : Connector)
    (column operator : String) :
    (d.apply g (.compare connector column operator v)).query.Alike
      (d.apply g (.compare connector column operator w)).query := by
  obtain ⟨condition, condition', read, read', text⟩ :=
    comparison_of_literal (g := g) some' some'' same column operator
  rw [apply_eq, apply_eq, Call.change, Call.change, read, read']
  exact alike_push d.query connector text

/-- A date or moment and its natural text are one literal. In a comparison they lead to the same
filter and to the same URIs, in every place and whatever the operator. -/
theorem timestamp_as_text (h : v.IsTimestamp) :
    Literal.ofValue v = Literal.ofValue (.text v.toText) ∧
    ∀ (g : Grammar) (d : Draft) (connector : Connector) (column operator : String),
      let q := (d.apply g (.compare connector column operator v)).query
      let q' := (d.apply g (.compare connector column operator (.text v.toText))).query
      Filter.ofQuery q = Filter.ofQuery q' ∧ ∀ form, q.uri form = q'.uri form := by
  refine ⟨h.ofValue_text.symm, fun g d connector column operator => ?_⟩
  have alike := alike_of_literal (g := g) h.isNull rfl h.ofValue_text.symm d connector column
    operator
  have pieces := alike.content .filter nofun
  refine ⟨?_, alike.uri⟩
  rw [Filter.ofQuery_eq_assemble, Filter.ofQuery_eq_assemble]
  exact congrArg Filter.assemble pieces

/-- A leap second with a fraction, and a day of a leap year before year 0. -/
theorem timestamp_as_text_leap :
    let second : Value := .moment ⟨1483228799, 1500000000⟩
    let day : Value := .date ⟨-44, 2, 29⟩
    second.IsTimestamp ∧ day.IsTimestamp ∧
      Literal.ofValue second = "2016-12-31T23:59:60.500Z" ∧
      Literal.ofValue (.text "2016-12-31T23:59:60.500Z") = Literal.ofValue second ∧
      Filter.ofQuery (Draft.apply .standard (.compare .and "Born" "le" (.text "-0044-02-29"))
        {}).query = "Born le -0044-02-29" := by
  intro second day
  have isSecond : second.IsTimestamp := ⟨by decide +kernel, by decide +kernel⟩
  have isDay : day.IsTimestamp := show Timestamp.isDate ⟨-44, 2, 29⟩ = true by decide +kernel
  refine ⟨isSecond, isDay, by decide +kernel, ?_, ?_⟩
  · have text : second.toText = "2016-12-31T23:59:60.500Z" := by decide +kernel
    rw [← text]
    exact (timestamp_as_text isSecond).1.symm
  · have text : day.toText = "-0044-02-29" := by decide +kernel
    rw [← text]
    exact ((timestamp_as_text isDay).2 .standard {} .and "Born" "le").1.symm.trans
      (by decide +kernel)

end OData
