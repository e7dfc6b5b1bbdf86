import OData.Error

/-!
# Log events

What a client reports while it works.
-/

namespace OData

inductive Event where
  | embeddedObject
  /-- The length of the body in bytes. -/
  | notJson (bytes : Nat)
  | sending (url : String)
  | received (status : Http.Status)
  | following (link : String)
  | misuse (m : Misuse)
  deriving DecidableEq, Repr

/-- One line: the level, the message and its field. -/
def Event.line : Event → String
  | .embeddedObject => "WARN response body is not plain JSON, decoded embedded object"
  | .notJson bytes =>
    "WARN response body is not JSON, treating it as empty body_len=" ++ toString bytes
  | .sending url => "DEBUG sending request url=" ++ url
  | .received status => "DEBUG received response status=" ++ status.text
  | .following link => "DEBUG following next link next=" ++ link
  | .misuse m => "DEBUG query builder misuse recorded error=" ++ m.message

end OData
