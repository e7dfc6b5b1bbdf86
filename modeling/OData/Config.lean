import OData.Calendar.Duration
import OData.Error
import OData.Url.Parser

/-!
# Configuration

The settings of a client. They are read from JSON with a default for every field that
is missing and no field beyond these, and written back with every field.
`Config.serviceRoot` is the base that every request is resolved against: its path
ends in `/`, so that relative references join beneath it.
-/

namespace OData

structure Config where
  baseUrl : String := ""
  /-- How long the transport may take for a request. -/
  timeout : Duration := .ofSeconds 30
  /-- The page size that a client starts with. -/
  pageSize : Option Nat := none
  odataVersion : String := "4.0"
  userAgent : String := "odata-client/0.2.8"
  /-- Sent with every request; sorted by name, each name once. -/
  defaultHeaders : List (String × String) := []
  /-- The bytes of a refused answer that are kept. -/
  bodyPreviewLimit : Nat := 256
  deriving DecidableEq, Repr

namespace Config

/-! ## Reading and writing -/

/-- A duration as the list of its components. -/
def readTimeout : Json.Reading Duration := fun v => do
  let s ← Json.Reading.string v
  (Duration.parse s).mapError fun e => .refused e.message

/-- A field that may always be missing. -/
def field {α : Type} (name : String) (read : Json.Reading α) (set : Config → α → Config) :
    Json.Field Config :=
  { name, read := fun v config => (read v).map (set config), mayMissInObject := true,
    mayMissInArray := true }

open Json.Reading in
def shape : Json.RecordShape Config where
  name := "ODataClientConfig"
  start := {}
  fields :=
    [field "base_url" string fun c s => { c with baseUrl := s },
     field "timeout" readTimeout fun c d => { c with timeout := d },
     field "page_size" (optional (word "u64")) fun c n => { c with pageSize := n },
     field "odata_version" string fun c s => { c with odataVersion := s },
     field "user_agent" string fun c s => { c with userAgent := s },
     field "default_headers" (map string) fun c hs => { c with defaultHeaders := hs },
     field "body_preview_limit" (word "usize") fun c n => { c with bodyPreviewLimit := n }]
  closed := true

/-- Reads a configuration from an object, or from an array of its fields in order. -/
def read : Json.Reading Config := shape.read

def toJson (c : Config) : Json :=
  Json.ofMembers
    [("base_url", .str c.baseUrl), ("timeout", .str c.timeout.text),
     ("page_size", match c.pageSize with
       | some n => .int n
       | none => .null),
     ("odata_version", .str c.odataVersion), ("user_agent", .str c.userAgent),
     ("default_headers", Json.ofMembers (c.defaultHeaders.map fun (k, v) => (k, .str v))),
     ("body_preview_limit", .int c.bodyPreviewLimit)]

/-- Adds a default header; a later value of a name replaces the earlier one. -/
def withHeader (c : Config) (name value : String) : Config :=
  { c with defaultHeaders := Json.insertMember name value c.defaultHeaders }

/-! ## The service root -/

/-- A path that ends in `/`; one that does not gets an empty last segment, and a drive
at its start the form that it has in a file path. -/
def closePath (cls : Url.SchemeClass) (path : Url.Path) : Url.Path :=
  if path.text.toList.getLast? = some '/' then path
  else .segments ((path.parts.take 1).map (Url.firstSegment cls) ++ path.parts.drop 1 ++ [""])

/-- The base URL with a closed path, and without query and fragment. -/
def serviceRoot (c : Config) : Except Error Url :=
  let raw := Text.trim c.baseUrl
  if raw = "" then .error (.configuration .emptyBaseUrl)
  else
    match Url.parse raw with
    | .error cause => .error (.configuration (.invalidBaseUrl raw cause))
    | .ok url =>
      if url.path.isHierarchical then
        .ok { url with
          path := closePath (.of url.scheme) url.path, query := none, fragment := none }
      else .error (.configuration (.opaqueBaseUrl raw))

end Config

end OData
