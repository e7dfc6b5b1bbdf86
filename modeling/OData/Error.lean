import OData.Http.Status
import OData.Json.Shape
import OData.Url.Basic

/-!
# Errors

An error says which stage of a request failed and why. `Error.message` is its text;
a cause of the kind `other` is worded by the caller.
-/

namespace OData

/-- A chaining call that a query cannot take. -/
inductive Misuse where
  /-- Null with an operator that is no equality. -/
  | illegalNull (operator : String)
  | unknownBindingKind (name : String)
  deriving DecidableEq, Repr

def Misuse.message : Misuse → String
  | .illegalNull op => "illegal operator and value combination: " ++ op ++ " null"
  | .unknownBindingKind name => "invalid binding type: " ++ name

inductive ConfigurationFault where
  | emptyBaseUrl
  | invalidBaseUrl (text : String) (cause : Url.ParseError)
  | opaqueBaseUrl (text : String)
  | invalidHeaderName (name : String)
  | invalidHeaderValue (name : String)
  | noEntitySetToFindIn
  | other (reason : String)
  deriving DecidableEq, Repr

def ConfigurationFault.message : ConfigurationFault → String
  | .emptyBaseUrl => "base URL must not be empty"
  | .invalidBaseUrl text cause => "invalid base URL '" ++ text ++ "': " ++ cause.message
  | .opaqueBaseUrl text => "base URL '" ++ text ++ "' cannot be used as a base"
  | .invalidHeaderName name => "invalid header name " ++ name ++ ": invalid HTTP header name"
  | .invalidHeaderValue name =>
    "invalid value for header " ++ name ++ ": failed to parse header value"
  | .noEntitySetToFindIn => "entity set must be set before find"
  | .other reason => reason

inductive ArgumentFault where
  | misuse (m : Misuse)
  | noEntitySet
  | unresolvableUri (uri : String) (cause : Url.ParseError)
  | unwritableBody (reason : String)
  | unknownConnector (name : String)
  | unknownDirection (name : String)
  | other (reason : String)
  deriving DecidableEq, Repr

def ArgumentFault.message : ArgumentFault → String
  | .misuse m => m.message
  | .noEntitySet => "entity set must be set before executing a query"
  | .unresolvableUri uri cause => "invalid request URI '" ++ uri ++ "': " ++ cause.message
  | .unwritableBody reason => "request body is not serializable: " ++ reason
  | .unknownConnector name => "unknown connector: " ++ name
  | .unknownDirection name => "invalid order direction: " ++ name
  | .other reason => reason

inductive PayloadFault where
  /-- The digits of a count beyond 64 bits. -/
  | countTooLarge (digits : String)
  | shape (cause : Json.ShapeError)
  /-- More pages were asked for than there are. -/
  | noMorePages
  | other (reason : String)
  deriving DecidableEq, Repr

def PayloadFault.message : PayloadFault → String
  | .countTooLarge digits => "count " ++ digits ++ ": number too large to fit in target type"
  | .shape cause => cause.message
  | .noMorePages => "no more pages"
  | .other reason => reason

inductive Error where
  | configuration (fault : ConfigurationFault)
  | invalidArgument (fault : ArgumentFault)
  /-- The transport failed for a reason of its own. -/
  | transport (reason : String)
  | httpStatus (status : Http.Status) (preview : String)
  | payload (fault : PayloadFault)
  /-- The background task that carried the request broke down. -/
  | task
  /-- The transport broke down under the caller. -/
  | crash
  deriving DecidableEq, Repr

def Error.message : Error → String
  | .configuration fault => "configuration error: " ++ fault.message
  | .invalidArgument fault => "invalid argument: " ++ fault.message
  | .transport reason => "transport error: " ++ reason
  | .httpStatus status preview => "HTTP " ++ status.text ++ ": " ++ preview
  | .payload fault => "unable to parse response: " ++ fault.message
  | .task => "request task failed"
  | .crash => "transport broke down"

end OData
