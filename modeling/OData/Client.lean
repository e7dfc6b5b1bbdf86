import OData.Config
import OData.Exchange
import OData.Grammar
import OData.Payload

/-!
# Clients

A `Client` holds what every request to one service has in common: the service root,
the headers and the collaborators. `Client.execute` is one round trip: it resolves a
relative URI, lets the authenticator change the request, hands it to the transport
and decodes the answer.
-/

namespace OData

structure Client where
  /-- The service root. -/
  baseUrl : Url
  config : Config
  grammar : Grammar
  /-- The headers that do not depend on the request. -/
  headers : Http.Headers
  authenticator : Option Http.Authenticator
  transport : Http.Transport

namespace Client

/-! ## Building -/

def mediaType : String := "application/json"

/-- A header value under the name that a refusal shows. -/
def checkedValue (name value : String) : Except Error String :=
  if Http.Headers.isValue value then .ok value
  else .error (.configuration (.invalidHeaderValue name))

def addDefaultHeader (headers : Http.Headers) (name value : String) :
    Except Error Http.Headers := do
  if Http.Headers.isName name then
    return headers.insert name (← checkedValue name value)
  else throw (.configuration (.invalidHeaderName name))

/-- The headers of the protocol, then the default headers in order; a later header takes
the place of an earlier one of the same name. -/
def baseHeaders (config : Config) : Except Error Http.Headers := do
  let version ← checkedValue "OData-Version" config.odataVersion
  let maxVersion ← checkedValue "OData-MaxVersion" config.odataVersion
  let agent ← checkedValue "User-Agent" config.userAgent
  let headers := Http.Headers.empty.insert "accept" mediaType
    |>.insert "odata-version" version
    |>.insert "odata-maxversion" maxVersion
    |>.insert "user-agent" agent
  config.defaultHeaders.foldlM (fun hs (name, value) => addDefaultHeader hs name value) headers

/-- The base URL is checked before the headers. -/
def build (config : Config) (grammar : Grammar) (authenticator : Option Http.Authenticator)
    (transport : Http.Transport) : Except Error Client := do
  let baseUrl ← config.serviceRoot
  let headers ← baseHeaders config
  return { baseUrl, config, grammar, headers, authenticator, transport }

/-- The exchange of a client that has done nothing yet. -/
def start (c : Client) : Exchange := { pageSize := c.config.pageSize }

/-! ## Requests -/

/-- A link without the service root; a link that does not start with it stays. -/
def relativeLink (c : Client) (link : String) : String :=
  let root := c.baseUrl.text.toList
  if root.isPrefixOf link.toList then String.ofList (link.toList.drop root.length) else link

def resolve (c : Client) (uri : String) : Except Error Url :=
  (c.baseUrl.join uri).mapError fun cause => .invalidArgument (.unresolvableUri uri cause)

/-- The headers of one request. -/
def requestHeaders (c : Client) (pageSize : Option Nat) (hasBody : Bool) : Http.Headers :=
  let headers := if hasBody then c.headers.insert "content-type" mediaType else c.headers
  match pageSize with
  | some n => headers.insert "prefer" ("odata.maxpagesize=" ++ toString n)
  | none => headers

/-- A request as the authenticator gets it. -/
def request (c : Client) (pageSize : Option Nat) (method : String) (url : Url)
    (body : Option String) : Http.Request where
  method
  uri := url.text
  headers := c.requestHeaders pageSize body.isSome
  body
  timeout := some c.config.timeout
  wantsStream := false

def authenticate (c : Client) (r : Http.Request) : Http.Request :=
  match c.authenticator with
  | some change => change r
  | none => r

/-- The start of a refused answer: all of it if it has at most `limit` bytes, or else
what precedes the last boundary within the limit, and three dots. -/
def preview (limit : Nat) (body : String) : String :=
  if body.utf8ByteSize ≤ limit then body
  else
    let bytes := Text.Utf8.encode body.toList
    String.ofList (Text.Utf8.decode (bytes.take (Text.Utf8.boundaryBefore bytes limit))) ++ "..."

/-- What an answer means, with what there is to report about it. -/
def receive (c : Client) : Http.Answer → Except Error Payload × List Event
  | .failure reason => (.error (.transport reason), [])
  | .crash => (.error .crash, [])
  | .response r =>
    if r.status.isSuccess then
      let (page, events) := Payload.decode r.body r.status r.headers
      (.ok page, .received r.status :: events)
    else (.error (.httpStatus r.status (preview c.config.bodyPreviewLimit r.body)),
      [.received r.status])

/-- Hands a request to the transport. -/
def exchange (c : Client) (r : Http.Request) : Action Payload := fun x =>
  let (result, events) := c.receive (c.transport x.sent r)
  (result, ((x.report [.sending r.uri]).send r).report events)

/-- One round trip for a URI relative to the service root. -/
def execute (c : Client) (method uri : String) (body : Option String) : Action Payload := do
  let url ← c.resolve uri
  c.exchange (c.authenticate (c.request (← get).pageSize method url body))

/-- An action as a background task: a breakdown ends the task and not the caller. -/
def detached {α : Type} (action : Action α) : Action α := fun x =>
  match action x with
  | (.error .crash, x) => (.error .task, x)
  | result => result

/-- Reads from a URI relative to the service root. -/
def fetch (c : Client) (uri : String) : Action Payload := c.execute "GET" uri none

/-- The same as a background task. -/
def fetchAsync (c : Client) (uri : String) : Action Payload := detached (c.fetch uri)

/-- Shows root, page size and whether there is an authenticator. -/
def summary (c : Client) (pageSize : Option Nat) : String :=
  let size := match pageSize with
    | some n => "Some(" ++ toString n ++ ")"
    | none => "None"
  "ODataClient \x7b base_url: " ++ Text.shown c.baseUrl.text ++ ", page_size: " ++ size ++
    ", authenticated: " ++ (if c.authenticator.isSome then "true" else "false") ++ ", .. \x7d"

end Client

end OData
