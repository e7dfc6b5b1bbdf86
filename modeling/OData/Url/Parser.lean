import OData.Url.Host

/-!
# Reading and resolving URLs

`Url.parse` reads an absolute URL, `Url.join` resolves a reference against a base.
A text is first cut at its first `#` and `?`; what precedes them is a scheme, an
authority and a path, or a reference that inherits the parts it leaves out. Dot
segments are removed while the path is read, and no `..` leads out of a drive such as
`C:`, whatever the scheme.
-/

namespace OData.Url

open OData.Text

/-- A text cut at its query and fragment marks. -/
structure Cut where
  body : List Char
  query : Option (List Char)
  fragment : Option (List Char)

/-- What precedes the first character of a class, and what follows that character. -/
def splitAtFirst (p : Char → Bool) : List Char → List Char × Option (List Char)
  | [] => ([], none)
  | c :: cs =>
    if p c then ([], some cs)
    else
      let (a, b) := splitAtFirst p cs
      (c :: a, b)

/-- Control characters and spaces at the ends, and tabs and line ends everywhere, are
no part of a URL. -/
def clean (s : String) : List Char :=
  (stripEnds s.toList).filter fun c => !(c == '\t' || c == '\n' || c == '\r')
where
  stripEnds (cs : List Char) : List Char :=
    let blank (c : Char) : Bool := c.toNat ≤ 0x20
    ((cs.dropWhile blank).reverse.dropWhile blank).reverse

def Cut.of (cs : List Char) : Cut :=
  let (rest, fragment) := splitAtFirst (· == '#') cs
  let (body, query) := splitAtFirst (· == '?') rest
  { body, query, fragment }

/-- The scheme in small letters and what follows its colon. -/
def splitScheme? (cs : List Char) : Option (String × List Char) :=
  match cs with
  | [] => none
  | c :: _ =>
    if !c.isAlpha then none
    else
      match splitAtFirst (· == ':') cs with
      | (name, some rest) =>
        if name.all fun c => c.isAlphanum || c == '+' || c == '-' || c == '.' then
          some (String.ofList (name.map Char.toLower), rest)
        else none
      | (_, none) => none

/-! ## Paths -/

def isDot (seg : String) : Bool := [".", "%2e", "%2E"].contains seg

def isDoubleDot (seg : String) : Bool :=
  ["..", ".%2e", ".%2E", "%2e.", "%2E.", "%2e%2e", "%2e%2E", "%2E%2e", "%2E%2E"].contains seg

/-- A letter and a colon or a bar. -/
def isDriveLetter (cs : List Char) : Bool :=
  match cs with
  | [a, b] => a.isAlpha && (b == ':' || b == '|')
  | _ => false

/-- Whether a written segment is a drive: a drive letter that ends it, or that a
backslash follows, which only a path that is not special keeps. -/
def isDrive (seg : String) : Bool :=
  isDriveLetter (seg.toList.take 2) && seg.toList[2]?.all (· == '\\')

/-- Whether a segment is a drive in the form in which the path of a file starts. -/
def isFileDrive (seg : String) : Bool :=
  isDriveLetter seg.toList && seg.toList.getLast? == some ':'

/-- Where `..` leads: the last segment is dropped, unless it is a drive. -/
def parent (segs : List String) : List String :=
  if segs.getLast?.any isDrive then segs else segs.dropLast

/-- The first segment of a path, a drive of a file with its colon. -/
def firstSegment (cls : SchemeClass) (seg : String) : String :=
  if cls == .file && isDriveLetter seg.toList then String.ofList (seg.toList.take 1) ++ ":"
  else seg

/-- Adds one written segment; `last` says that no slash follows it. -/
def addSegment (cls : SchemeClass) (segs : List String) (seg : String) (last : Bool) :
    List String :=
  if isDoubleDot seg then
    if last then parent segs ++ [""] else parent segs
  else if isDot seg then
    if last then segs ++ [""] else segs
  else if segs.isEmpty then [firstSegment cls seg]
  else segs ++ [seg]

/-- Adds the segments of a path text in order. -/
def addSegments (cls : SchemeClass) : List String → List (List Char) → List String
  | segs, [] => segs
  | segs, [p] => addSegment cls segs (encodeText keepInPath p) true
  | segs, p :: ps => addSegments cls (addSegment cls segs (encodeText keepInPath p) false) ps

/-- The texts between the slashes. -/
def pathPieces (special : Bool) (cs : List Char) : List (List Char) :=
  (cs.map fun c => if special && c == '\\' then '/' else c).splitOn '/'

/-- Resolves a path text, its leading slash removed, below `segs`. -/
def walk (cls : SchemeClass) (segs : List String) (cs : List Char) : List String :=
  addSegments cls segs (pathPieces cls.isSpecial cs)

/-- A file path has no empty segments at its start. -/
def trimFilePath (segs : List String) : List String :=
  match segs.dropWhile (· == "") with
  | [] => [""]
  | rest => rest

/-- Resolves the path text of a file below `segs`. -/
def walkFile (segs : List String) (cs : List Char) : List String :=
  trimFilePath (walk .file segs cs)

def isSlash (cls : SchemeClass) (c : Char) : Bool := c == '/' || (cls.isSpecial && c == '\\')

/-- The path after an authority. -/
def absolutePath (cls : SchemeClass) (cs : List Char) : List String :=
  match cs with
  | [] => if cls.isSpecial then [""] else []
  | c :: rest => if isSlash cls c then walk cls [] rest else walk cls [] cs

/-! ## Authority -/

/-- The text before and after the last `@`. -/
def splitCredentials (cs : List Char) : Option (List Char) × List Char :=
  match splitAtFirst (· == '@') cs.reverse with
  | (host, some user) => (some user.reverse, host.reverse)
  | (_, none) => (none, cs)

/-- User name and password, coded, with a colon only before a password. -/
def credentialsText (cs : List Char) : String :=
  match splitAtFirst (· == ':') cs with
  | (user, some password) =>
    if password.isEmpty then encodeText keepInCredentials user
    else encodeText keepInCredentials user ++ ":" ++ encodeText keepInCredentials password
  | (user, none) => encodeText keepInCredentials user

/-- The host and what follows it; a colon between brackets belongs to the host. -/
def splitHost : Bool → List Char → List Char × List Char
  | _, [] => ([], [])
  | inside, c :: cs =>
    if c == ':' && !inside then ([], c :: cs)
    else
      let (a, b) := splitHost (c == '[' || (inside && c != ']')) cs
      (c :: a, b)

/-- A port number, none if it is absent or the default, and what follows it. -/
def readPort (default : Option Nat) (cs : List Char) :
    Except ParseError (Option Nat × List Char) :=
  let digits := cs.takeWhile Char.isDigit
  let rest := cs.dropWhile Char.isDigit
  if readDigits digits > 65535 then .error .invalidPort
  else if !rest.isEmpty && rest.head? != some '\\' then .error .invalidPort
  else if digits.isEmpty || default == some (readDigits digits) then .ok (none, rest)
  else .ok (some (readDigits digits), rest)

/-- Reads the authority `cs` of a URL whose path text starts as `path` does; characters
after the port are left over for the path. -/
def readAuthority (scheme : String) (cs path : List Char) (atEnd : Bool) :
    Except ParseError (Authority × List Char) := do
  let cls := SchemeClass.of scheme
  let (user, hostPort) := splitCredentials cs
  if user == some [] && hostPort.isEmpty && !(path.isEmpty && atEnd) then throw .emptyHost
  let credentials := credentialsText (user.getD [])
  let (hostText, portText) := splitHost false hostPort
  if cls.isSpecial && hostText.isEmpty then throw .emptyHost
  let host ← if cls.isSpecial then Host.domain hostText else Host.opaqueName hostText
  if host = "" && !portText.isEmpty then throw .emptyHost
  let (port, rest) ← readPort (defaultPort? scheme) (portText.drop 1)
  if host = "" && credentials != "" then throw .emptyHost
  return ({ credentials, host, port }, rest)

/-- The URL whose text after `//` is `cs`. -/
def afterSlashes (scheme : String) (cs : List Char) (cut : Cut) : Except ParseError Url := do
  let cls := SchemeClass.of scheme
  let authorityChars := cs.takeWhile fun c => !isSlash cls c
  let pathChars := cs.dropWhile fun c => !isSlash cls c
  let atEnd := cut.query.isNone && cut.fragment.isNone
  let (authority, rest) ← readAuthority scheme authorityChars pathChars atEnd
  return {
    scheme, authority := some authority
    path := .segments (absolutePath cls (rest ++ pathChars))
    query := cut.query.map (encodeText (keepInQuery cls.isSpecial))
    fragment := cut.fragment.map (encodeText keepInFragment) }

/-! ## Files -/

/-- Whether a path text starts with a drive letter that is a whole segment. -/
def startsWithDrive (cs : List Char) : Bool :=
  isDriveLetter (cs.take 2) && (cs.length == 2 || cs[2]?.any (isSlash .file))

/-- Host and path of a file from the text after `//`. A drive letter is no host, and
`localhost` is the same as none. Without a host the path is read from its slash on, which
leaves an empty segment before a drive; a host gives way to a drive at the start of its
path. -/
def readFileHost (cs : List Char) : Except ParseError (String × List String) := do
  let hostText := cs.takeWhile fun c => !isSlash .file c
  if isDriveLetter hostText then return ("", walkFile [] cs)
  let host ← if hostText.isEmpty then pure "" else Host.domain hostText
  let pathText := cs.dropWhile fun c => !isSlash .file c
  if host = "" || host = "localhost" then return ("", walkFile [] pathText)
  let segs := absolutePath .file pathText
  return (if segs.head?.any isFileDrive then "" else host, trimFilePath segs)

/-- Host and path of a file from the text after a single slash: the drive of the base
stays, or else its host. -/
def readFileRoot (baseHost : String) (baseSegs : List String) (cs : List Char) :
    String × List String :=
  let drive := (baseSegs.take 1).filter isFileDrive
  if startsWithDrive cs then ("", walkFile [] cs)
  else (if drive.isEmpty then baseHost else "", walkFile drive cs)

/-- Host and path of a file from the text after its scheme. -/
def readFilePath (baseHost : String) (baseSegs : List String) (cs : List Char) :
    Except ParseError (String × List String) :=
  match cs with
  | [] => .ok (baseHost, if baseSegs.isEmpty then [""] else baseSegs)
  | c :: rest =>
    if isSlash .file c then
      if rest.head?.any (isSlash .file) then readFileHost (rest.drop 1)
      else .ok (readFileRoot baseHost baseSegs rest)
    else if startsWithDrive cs then .ok ("", walkFile [] cs)
    else
      let folder := if baseSegs.getLast?.any isFileDrive then baseSegs else baseSegs.dropLast
      .ok (baseHost, walkFile folder cs)

/-- The URL of a file, from the text after its scheme and the base it is relative to. -/
def readFile (cut : Cut) (cs : List Char) (base : Option Url) : Except ParseError Url := do
  let baseHost := (base.bind Url.authority).elim "" Authority.host
  let baseSegs := base.elim [] (Path.parts ·.path)
  let (host, segs) ← readFilePath baseHost baseSegs cs
  let inherited := if cs.isEmpty && cut.query.isNone then base.bind Url.query else none
  return {
    scheme := "file", authority := some { credentials := "", host, port := none }
    path := .segments segs
    query := (cut.query.map (encodeText (keepInQuery true))).or inherited
    fragment := cut.fragment.map (encodeText keepInFragment) }

/-! ## References -/

/-- Resolves a reference without a scheme of its own. -/
def readRelative (cut : Cut) (cs : List Char) (base : Url) : Except ParseError Url :=
  let cls := SchemeClass.of base.scheme
  let query := cut.query.map (encodeText (keepInQuery cls.isSpecial))
  let fragment := cut.fragment.map (encodeText keepInFragment)
  match cs with
  | [] =>
    .ok { base with query := if cut.query.isSome then query else base.query, fragment }
  | '/' :: '/' :: rest => afterSlashes base.scheme rest cut
  | c :: rest =>
    let slash (c : Char) : Bool := c == '/' || c == '\\'
    if slash c then
      if rest.head?.any slash then afterSlashes base.scheme (rest.dropWhile slash) cut
      else .ok { base with path := .segments (walk cls [] rest), query, fragment }
    else
      let path := .segments (walk cls base.path.parts.dropLast cs)
      .ok { base with path, query, fragment }

/-- Reads what follows a scheme. -/
def readWithScheme (scheme : String) (cs : List Char) (cut : Cut) (base : Option Url) :
    Except ParseError Url :=
  match SchemeClass.of scheme with
  | .file => readFile cut cs (base.filter (·.scheme == "file"))
  | .web =>
    let slashes := cs.takeWhile fun c => c == '/' || c == '\\'
    match base with
    | some b =>
      if slashes.length < 2 && b.scheme == scheme then readRelative cut cs b
      else afterSlashes scheme (cs.drop slashes.length) cut
    | none => afterSlashes scheme (cs.drop slashes.length) cut
  | .other =>
    let query := cut.query.map (encodeText (keepInQuery false))
    let fragment := cut.fragment.map (encodeText keepInFragment)
    match cs with
    | '/' :: '/' :: rest => afterSlashes scheme rest cut
    | '/' :: rest =>
      .ok { scheme, authority := none, path := .segments (walk .other [] rest), query, fragment }
    | _ =>
      .ok { scheme, authority := none, path := .opaqueText (encodeText keepPrintable cs), query,
            fragment }

/-- Reads a URL, or a reference if there is a base to resolve it against. -/
def parseWith (base : Option Url) (s : String) : Except ParseError Url :=
  let cs := clean s
  let cut := Cut.of cs
  match splitScheme? cut.body with
  | some (scheme, rest) => readWithScheme scheme rest cut base
  | none =>
    match base with
    | none => .error .relativeWithoutBase
    | some b =>
      if cut.body.isEmpty && cut.query.isNone && cut.fragment.isSome then
        .ok { b with fragment := cut.fragment.map (encodeText keepInFragment) }
      else if !b.path.isHierarchical then .error .relativeWithOpaqueBase
      else if b.scheme == "file" then readFile cut cut.body (some b)
      else readRelative cut cut.body b

/-- Reads an absolute URL. -/
def parse (s : String) : Except ParseError Url := parseWith none s

/-- Resolves a reference against a base. -/
def join (base : Url) (s : String) : Except ParseError Url := parseWith (some base) s

end OData.Url
