import OData.Text.Percent

/-!
# URLs as records

A `Url` is a parsed URL: scheme, authority, path, query and fragment, each part
already in the form in which it is written. `Url.text` writes it. The special
schemes are those of the web and of files; they always have an authority and a
path, and read `\` as `/`.
-/

namespace OData

namespace Url

/-- What stands between `//` and the path. -/
structure Authority where
  /-- User name and password as written before the `@`; empty if there are none. -/
  credentials : String
  host : String
  /-- Absent if it is the default of the scheme. -/
  port : Option Nat
  deriving DecidableEq, Repr

inductive Path where
  /-- Text without structure, as in `mailto:x`. -/
  | opaqueText (text : String)
  /-- Each segment is written behind a `/`. -/
  | segments (parts : List String)
  deriving DecidableEq, Repr

def Path.text : Path → String
  | .opaqueText t => t
  | .segments parts => String.join (parts.map ("/" ++ ·))

/-- Why a text is no URL. -/
inductive ParseError where
  | emptyHost
  | invalidDomainName
  | invalidPort
  | invalidIpv4
  | invalidIpv6
  | invalidDomainCharacter
  | relativeWithoutBase
  | relativeWithOpaqueBase
  deriving DecidableEq, Repr

def ParseError.message : ParseError → String
  | .emptyHost => "empty host"
  | .invalidDomainName => "invalid international domain name"
  | .invalidPort => "invalid port number"
  | .invalidIpv4 => "invalid IPv4 address"
  | .invalidIpv6 => "invalid IPv6 address"
  | .invalidDomainCharacter => "invalid domain character"
  | .relativeWithoutBase => "relative URL without a base"
  | .relativeWithOpaqueBase => "relative URL with a cannot-be-a-base base"

/-- How the parts of a URL are read depends on the scheme only through its class. -/
inductive SchemeClass where
  | web
  | file
  | other
  deriving DecidableEq, Repr

def SchemeClass.of (scheme : String) : SchemeClass :=
  if scheme = "file" then .file
  else if ["http", "https", "ws", "wss", "ftp"].contains scheme then .web
  else .other

def SchemeClass.isSpecial : SchemeClass → Bool
  | .other => false
  | _ => true

def defaultPort? (scheme : String) : Option Nat :=
  if scheme = "http" ∨ scheme = "ws" then some 80
  else if scheme = "https" ∨ scheme = "wss" then some 443
  else if scheme = "ftp" then some 21
  else none

end Url

/-- A parsed URL. -/
structure Url where
  scheme : String
  authority : Option Url.Authority
  path : Url.Path
  query : Option String
  fragment : Option String
  deriving DecidableEq, Repr

namespace Url

def Authority.text (a : Authority) : String :=
  (if a.credentials = "" then "" else a.credentials ++ "@") ++ a.host ++
    (match a.port with
     | some p => ":" ++ toString p
     | none => "")

/-- Whether the path is a list of segments. -/
def Path.isHierarchical : Path → Bool
  | .opaqueText _ => false
  | .segments _ => true

def Path.parts : Path → List String
  | .opaqueText _ => []
  | .segments parts => parts

/-- A path that starts with `//` would read as an authority, so `/.` precedes it when
there is none. -/
def authorityText (u : Url) : String :=
  match u.authority with
  | some a => "//" ++ a.text
  | none =>
    if u.path.isHierarchical && "//".toList.isPrefixOf u.path.text.toList then "/." else ""

/-- The URL as written. -/
def text (u : Url) : String :=
  u.scheme ++ ":" ++ u.authorityText ++ u.path.text ++
    (match u.query with
     | some q => "?" ++ q
     | none => "") ++
    (match u.fragment with
     | some f => "#" ++ f
     | none => "")

/-! ## Characters that stay as they are -/

/-- Neither a control character nor outside ASCII. -/
def keepPrintable (c : Char) : Bool := 0x20 ≤ c.toNat && c.toNat ≤ 0x7E

def keepInFragment (c : Char) : Bool := keepPrintable c && !" \"<>`".toList.contains c

def keepInPath (c : Char) : Bool := keepInFragment c && !"#?\x7b\x7d".toList.contains c

def keepInCredentials (c : Char) : Bool := keepInPath c && !"/:;=@[\\]^|".toList.contains c

def keepInQuery (special : Bool) (c : Char) : Bool :=
  keepPrintable c && !" \"#<>".toList.contains c && !(special && c == '\'')

def encodeText (keep : Char → Bool) (cs : List Char) : String :=
  String.ofList (Text.Percent.encodeWith keep cs)

end Url

end OData
