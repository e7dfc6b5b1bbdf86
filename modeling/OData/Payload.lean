import OData.Event
import OData.Http.Headers
import OData.Json.Embedded
import OData.Json.Reader
import OData.Number.Word
import OData.Text.Blank
import OData.Url.Form

/-!
# Payloads

The decoded view of one response. Decoding always gives one: a body that is not JSON
is searched for its first balanced object, and failing that it counts as an empty
object.
-/

namespace OData

structure Payload where
  items : List Json
  nextLink : Option String
  body : Json
  rawBody : String
  status : Http.Status
  headers : Http.Headers

namespace Payload

/-- The value of a body, and what there is to report about it. -/
def decodeBody (raw : String) : Json × List Event :=
  if raw.toList.all Text.isBlank then (Json.empty, [])
  else
    match Json.parse raw with
    | some v => (v, [])
    | none =>
      match (Json.Embedded.firstObject? raw.toList).bind Json.parseChars with
      | some v => (v, [.embeddedObject])
      | none => (Json.empty, [.notJson raw.utf8ByteSize])

/-- The items of a body: those of its `value` list if it has one, or else the body
itself unless it is null or empty. -/
def itemsOf (body : Json) : List Json :=
  match body with
  | .null => []
  | .obj members =>
    match members.lookup "value" with
    | some (.arr items) => items
    | _ => if members.isEmpty then [] else [body]
  | _ => [body]

def nextLinkOf (body : Json) : Option String := (body.get? "@odata.nextLink").bind Json.asString?

/-- Decodes a response, with what there is to report about its body. -/
def decode (rawBody : String) (status : Http.Status) (headers : Http.Headers) :
    Payload × List Event :=
  let (body, events) := decodeBody rawBody
  ({ items := itemsOf body, nextLink := nextLinkOf body, body, rawBody, status, headers }, events)

/-- Whether the name of an option is that of the skip token, with or without its `$`. -/
def isSkipTokenName (name : List Char) : Bool :=
  (name.dropWhile (· == '$')).map Char.toLower == "skiptoken".toList

/-- The skip token that a link carries in its query. -/
def skipTokenOf (link : String) : Option String :=
  match link.toList.dropWhile (· != '?') with
  | [] => none
  | _ :: query =>
    ((Url.Form.pairs query).find? (isSkipTokenName ·.1)).map fun p => String.ofList p.2

def skipToken (p : Payload) : Option String := p.nextLink.bind skipTokenOf

/-- The id of a created entity: from its header if that is readable, or else from the
body. -/
def id (p : Payload) : Option String :=
  ((p.headers.get? "odata-entityid").filter Http.Headers.isReadable).or
    ((p.body.get? "@odata.id").bind Json.asString?)

/-- A number of 64 bits in decimal, with or without a plus sign. -/
def readWord? (cs : List Char) : Option Nat :=
  let digits := match cs with
    | '+' :: rest => rest
    | _ => cs
  (Text.natOfDigits? digits).filter (· < Number.wordLimit)

/-- The inline total count, as a number or as text. -/
def totalCount (p : Payload) : Option Nat :=
  match p.body.get? "@odata.count" with
  | some (.str s) => readWord? s.toList
  | some v => v.asNat?
  | none => none

/-- The digits of the raw body as a number; a body without digits counts as zero. -/
def count (p : Payload) : Except Error Nat :=
  let digits := p.rawBody.toList.filter Char.isDigit
  let n := Text.readDigits digits
  if n < Number.wordLimit then .ok n
  else .error (.payload (.countTooLarge (String.ofList digits)))

/-- Every item read as a value of one shape. -/
def readItems {α : Type} (p : Payload) (read : Json.Reading α) : Except Error (List α) :=
  (p.items.mapM read).mapError fun e => .payload (.shape e)

end Payload

end OData
