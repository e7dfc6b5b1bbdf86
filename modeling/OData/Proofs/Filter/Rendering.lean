import OData.Filter

/-!
# What a filter says

A filter is its rendered conditions in order: the first one alone, each later one
behind its connector (`assemble`). `Filter.ofQuery` gets there by another way: it
writes every connector and removes the first connector word of the joined text,
wherever that stands. `reference` states the rendering without that removal, and the
two agree on every query, because the joined text always starts with a connector.
-/

namespace OData.Filter

structure Piece where
  connector : Connector
  text : String
  deriving DecidableEq, Repr

def Piece.joined (p : Piece) : String := p.connector.word ++ " " ++ p.text

/-- The first text, then each later one behind a space and its connector. -/
def assemble : List Piece → String
  | [] => ""
  | p :: ps => p.text ++ String.join (ps.map fun p => " " ++ p.joined)

def pieces (clauses : List Clause) : List Piece :=
  clauses.filterMap fun c => (conditionText c.condition).map (Piece.mk c.connector)

theorem pieces_cons (k : Connector) (c : Condition) (rest : List Clause) :
    pieces (⟨k, c⟩ :: rest) =
      match conditionText c with
      | some text => ⟨k, text⟩ :: pieces rest
      | none => pieces rest := by
  unfold pieces
  cases h : conditionText c <;> simp [h]

/-! ## The first connector -/

theorem intercalate_joined (p : Piece) (ps : List Piece) :
    String.intercalate " " ((p :: ps).map Piece.joined) =
      p.connector.word ++ " " ++ assemble (p :: ps) := by
  induction ps generalizing p with
  | nil => simp [assemble, Piece.joined, String.append_assoc]
  | cons p' ps ih =>
    rw [List.map_cons, List.map_cons, String.intercalate_cons_cons, ← List.map_cons, ih p']
    simp [assemble, Piece.joined, String.append_assoc]

theorem afterConnector?_connector (k : Connector) (rest : List Char) :
    afterConnector? ((k.word ++ " ").toList ++ rest) = some rest := by
  cases k with
  | and => simp [Connector.word, afterConnector?]
  | or =>
    simp only [Connector.word, afterConnector?]
    split
    · next h => cases h; rfl
    · rfl

/-- A text that starts with a connector loses that connector and nothing else. -/
theorem dropConnector_connector (k : Connector) (rest : List Char) :
    dropConnector ((k.word ++ " ").toList ++ rest) = rest := by
  have h := afterConnector?_connector k rest
  cases k <;> simp_all [Connector.word, dropConnector]

theorem joinClauses_joined (ps : List Piece) :
    joinClauses (ps.map Piece.joined) = assemble ps := by
  cases ps with
  | nil => rfl
  | cons p ps =>
    unfold joinClauses
    rw [intercalate_joined, String.toList_append, dropConnector_connector, String.ofList_toList]

theorem clauseTexts_eq_map (clauses : List Clause) :
    clauseTexts clauses = (pieces clauses).map Piece.joined := by
  induction clauses with
  | nil => rfl
  | cons clause rest ih =>
    obtain ⟨k, c⟩ := clause
    rw [pieces_cons, clauseTexts]
    cases conditionText c with
    | none => exact ih
    | some text => simp [ih, Piece.joined]

theorem ofQuery_eq_joinClauses (q : Query) : ofQuery q = joinClauses (clauseTexts q.clauses) := by
  cases q; rfl

theorem ofQuery_eq_assemble (q : Query) : ofQuery q = assemble (pieces q.clauses) := by
  rw [ofQuery_eq_joinClauses, clauseTexts_eq_map, joinClauses_joined]

/-! ## The reference rendering -/

/-- What the joined text of the clauses has in front of the filter. -/
def leadingConnector : List Piece → String
  | [] => ""
  | p :: _ => p.connector.word ++ " "

def spaced (words : List String) : String := String.intercalate " " words

mutual

/-- A condition by the rules of the protocol. -/
def referenceText : Condition → String
  | .compare column op value => spaced [column, Operator.keyword op, Literal.ofValue value]
  | .function name column value =>
    name ++ "(" ++ String.intercalate "," [column, Literal.ofValue value] ++ ")"
  | .columns first op second => spaced [first, Operator.keyword op, second]
  | .raw text => text
  | .isNull column false => spaced [column, "eq", "null"]
  | .isNull column true => spaced [column, "ne", "null"]
  | .isIn column values false => spaced [column, "in", "(" ++ valueList values ++ ")"]
  | .isIn column values true =>
    "not(" ++ spaced [column, "in", "(" ++ valueList values ++ ")"] ++ ")"
  | .group q => "(" ++ reference q ++ ")"

/-- All conditions render but the groups whose own filter is empty. -/
def renders : Condition → Bool
  | .group q => reference q != ""
  | _ => true

def referencePieces : List Clause → List Piece
  | [] => []
  | ⟨k, c⟩ :: rest =>
    if renders c then ⟨k, referenceText c⟩ :: referencePieces rest else referencePieces rest

/-- The filter of a query by the rules of the protocol: nothing is ever removed. -/
def reference : Query → String
  | ⟨_, _, _, clauses, _, _, _, _, _, _, _, _, _⟩ => assemble (referencePieces clauses)

end

mutual

theorem conditionText_ref :
    ∀ c : Condition, conditionText c = if renders c then some (referenceText c) else none
  | .compare .. | .function .. | .columns .. => by
    simp [conditionText, renders, referenceText, spaced, String.intercalate_cons_cons,
      String.append_assoc]
  | .raw _ => rfl
  | .isNull _ negated => by
    cases negated <;> simp [conditionText, renders, referenceText, spaced,
      String.intercalate_cons_cons, String.append_assoc]
  | .isIn _ _ negated => by
    cases negated <;> simp only [conditionText, renders, referenceText, ↓reduceIte] <;>
      exact congrArg some (String.toList_injective (by simp [spaced]))
  | .group q => by
    have ih := ofQuery_ref q
    by_cases h : reference q = "" <;> simp [conditionText, renders, referenceText, ih, h]

theorem pieces_ref : ∀ clauses : List Clause, pieces clauses = referencePieces clauses
  | [] => rfl
  | ⟨k, c⟩ :: rest => by
    rw [pieces_cons, conditionText_ref c, referencePieces, pieces_ref rest]
    cases renders c <;> rfl

theorem ofQuery_ref : ∀ q : Query, ofQuery q = reference q
  | ⟨_, _, _, clauses, _, _, _, _, _, _, _, _, _⟩ => by
    rw [ofQuery_eq_assemble, reference, pieces_ref clauses]

end

/-- The filter of a query is its reference rendering, and what was removed from the joined
clauses is the connector of the first clause that renders. Groups hold queries, so this is so
at every depth. -/
theorem ofQuery_eq_reference (q : Query) :
    ofQuery q = reference q ∧
      String.intercalate " " (clauseTexts q.clauses) =
        leadingConnector (referencePieces q.clauses) ++ ofQuery q := by
  refine ⟨ofQuery_ref q, ?_⟩
  rw [clauseTexts_eq_map, ofQuery_eq_assemble, ← pieces_ref]
  cases pieces q.clauses with
  | nil => rfl
  | cons p ps => exact intercalate_joined p ps

/-- Connector words inside a raw text and a literal stay; the group without text is left out. -/
example :
    ofQuery { clauses := [⟨.or, .group { clauses := [⟨.and, .raw ""⟩] }⟩, ⟨.or, .raw "or x eq 1"⟩,
      ⟨.and, .compare "Name" "=" (.text "rock and roll")⟩] } =
        "or x eq 1 and Name eq 'rock and roll'" := by
  decide +kernel

end OData.Filter
