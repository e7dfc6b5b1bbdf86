import OData.Payload
import OData.Proofs.Json.Embedded

/-!
# Payloads in other text

What a server writes around an object changes nothing of what is decoded
(`decode_surrounded`): blanks go by, and a text that is no JSON is searched for its
first object, which is the one that was written.
-/

namespace OData.Payload

open Json.Reader (isSpace)

/-- Two payloads with the same content; raw body, status and headers do not count. -/
structure SameContent (p q : Payload) : Prop where
  body : p.body = q.body
  items : p.items = q.items
  nextLink : p.nextLink = q.nextLink
  skipToken : p.skipToken = q.skipToken
  totalCount : p.totalCount = q.totalCount

theorem sameContent_of_decodeBody {raw raw' : String}
    (h : (decodeBody raw).1 = (decodeBody raw').1) (status : Http.Status)
    (headers : Http.Headers) :
    SameContent (decode raw status headers).1 (decode raw' status headers).1 where
  body := h
  items := congrArg itemsOf h
  nextLink := congrArg nextLinkOf h
  skipToken := congrArg (fun body => (nextLinkOf body).bind skipTokenOf) h
  totalCount := by
    unfold totalCount
    rw [show (decode raw status headers).1.body = (decode raw' status headers).1.body from h]

/-- A text with a brace is no blank one. -/
theorem decodeBody_of_brace {raw : String} (brace : '\x7b' ∈ raw.toList) :
    (decodeBody raw).1 =
      ((Json.parse raw).or ((Json.Embedded.firstObject? raw.toList).bind Json.parseChars)).getD
        Json.empty := by
  have visible : ¬ raw.toList.all Text.isBlank = true := fun blank => by
    cases List.all_eq_true.1 blank _ brace
  unfold decodeBody
  rw [if_neg visible]
  cases Json.parse raw with
  | some v => rfl
  | none => cases (Json.Embedded.firstObject? raw.toList).bind Json.parseChars <;> rfl

variable {object before after : String} {members : List (String × Json)}

theorem decodeBody_object (isObject : Json.parse object = some (.obj members)) :
    (decodeBody object).1 = .obj members := by
  have brace : '\x7b' ∈ object.toList := by
    obtain ⟨front, body, -, split, -⟩ := Json.opening_of_parseChars isObject
    simp [split]
  rw [decodeBody_of_brace brace, isObject]
  rfl

theorem decodeBody_surrounded (isObject : Json.parse object = some (.obj members))
    (front : '\x7b' ∉ before.toList)
    (noise : Json.parse (before ++ object ++ after) = none ∨
      before.toList.all isSpace ∧ after.toList.all isSpace) :
    (decodeBody (before ++ object ++ after)).1 = .obj members := by
  have text : (before ++ object ++ after).toList =
      before.toList ++ object.toList ++ after.toList := by
    rw [String.toList_append, String.toList_append]
  have brace : '\x7b' ∈ (before ++ object ++ after).toList := by
    obtain ⟨blanks, body, -, split, -⟩ := Json.opening_of_parseChars isObject
    simp [text, split]
  rw [decodeBody_of_brace brace]
  rcases noise with invalid | ⟨blank, blank'⟩
  · obtain ⟨found, first, read⟩ := Json.firstObject?_of_parseChars isObject front after.toList
    rw [invalid, text, first, Option.bind_some, read]
    rfl
  · have whole : Json.parse (before ++ object ++ after) = some (.obj members) := by
      unfold Json.parse
      rw [text]
      exact Json.parseChars_blanks isObject (List.all_eq_true.1 blank) (List.all_eq_true.1 blank')
    rw [whole]
    rfl

/-- An object is decoded alike alone and in any text that is no JSON or adds only blanks, if no
brace opens in front of the object. -/
theorem decode_surrounded (isObject : Json.parse object = some (.obj members))
    (front : '\x7b' ∉ before.toList)
    (noise : Json.parse (before ++ object ++ after) = none ∨
      before.toList.all isSpace ∧ after.toList.all isSpace)
    (status : Http.Status) (headers : Http.Headers) :
    (decode object status headers).1.body = .obj members ∧
      SameContent (decode (before ++ object ++ after) status headers).1
        (decode object status headers).1 := by
  have alone : (decodeBody object).1 = .obj members := decodeBody_object isObject
  have inside := decodeBody_surrounded isObject front noise
  exact ⟨alone, sameContent_of_decodeBody (inside.trans alone.symm) status headers⟩

/-- A page whose strings hold braces, quotes and backslashes, written directly and escaped. -/
def guardedPage : String :=
  "\x7b\"value\":[\x7b\"a\":\"\x7d\\\"\x7b\\u007b\\\\\"\x7d,[\x7b\x7d]]," ++
    "\"@odata.nextLink\":\"People?$skiptoken=\x7d\",\"@odata.count\":\"12\"\x7d"

theorem decode_surrounded_guarded :
    ∃ members, Json.parse guardedPage = some (.obj members) ∧
      '\x7b' ∉ ")]\x7d'\"\\ ".toList ∧
      Json.parse (")]\x7d'\"\\ " ++ guardedPage ++ "\x7d </pre> \x7b") = none ∧
      (decode guardedPage .ok .empty).1.body = .obj members ∧
      SameContent
        (decode (")]\x7d'\"\\ " ++ guardedPage ++ "\x7d </pre> \x7b") .ok .empty).1
        (decode guardedPage .ok .empty).1 := by
  have parsed : (Json.parse guardedPage).any Json.isObject = true := by decide +kernel
  have invalid :
      (Json.parse (")]\x7d'\"\\ " ++ guardedPage ++ "\x7d </pre> \x7b")).isNone = true := by
    decide +kernel
  have front : '\x7b' ∉ ")]\x7d'\"\\ ".toList := by decide
  obtain ⟨v, page, object⟩ := Option.any_eq_true _ _ |>.1 parsed
  cases v with
  | obj members =>
    obtain ⟨body, same⟩ :=
      decode_surrounded page front (.inl (Option.isNone_iff_eq_none.1 invalid)) .ok .empty
    exact ⟨members, page, front, Option.isNone_iff_eq_none.1 invalid, body, same⟩
  | _ => cases object

end OData.Payload
