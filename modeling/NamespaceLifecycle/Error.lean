import NamespaceLifecycle.Duration
import NamespaceLifecycle.Http.Message
import NamespaceLifecycle.State

/-!
# Errors

What can go wrong with one request, and what can go wrong with an operation on a namespace. Every
error of an operation carries what its message shows: the project, the name, and the cause.
-/

namespace NamespaceLifecycle

inductive Operation where
  | creating
  | reading
  | updating
  | deleting
  | importing
  deriving DecidableEq, Repr, Inhabited

def Operation.text : Operation → String
  | creating => "creating"
  | reading => "reading"
  | updating => "updating"
  | deleting => "deleting"
  | importing => "importing"

/-- Why a request has no response that could be judged. -/
inductive SendFailure where
  /-- No response arrived; the causes from the outermost to the innermost. -/
  | noResponse (causes : List String)
  /-- The body ended before its announced length. -/
  | cutShort
  /-- The token holds a character that a header cannot. -/
  | invalidToken
  /-- The scheme of the address is not one of the web. -/
  | unsupportedScheme
  deriving DecidableEq, Repr

def SendFailure.message (url : Url) : SendFailure → String
  | noResponse _ => "error sending request for url (" ++ url.withoutCredentials.text ++ ")"
  | cutShort => "error decoding response body"
  | invalidToken => "builder error"
  | unsupportedScheme => "builder error for url (" ++ url.withoutCredentials.text ++ ")"

def SendFailure.causes : SendFailure → List String
  | noResponse causes => causes
  | cutShort =>
    ["error reading a body from connection", "end of file before message length reached"]
  | invalidToken => ["failed to parse header value"]
  | unsupportedScheme => ["URL scheme is not allowed"]

inductive TransportError where
  /-- The addressed object does not exist. -/
  | notFound (method : Method) (url : String)
  /-- Any other status that does not grant the request. -/
  | status (method : Method) (url : String) (code : StatusCode)
  /-- There is no whole response. -/
  | request (method : Method) (url : Url) (failure : SendFailure)
  /-- The body is not the document it should be. -/
  | decode (cause : Json.DecodeError)
  deriving DecidableEq, Repr

namespace TransportError

def isNotFound : TransportError → Bool
  | notFound _ _ => true
  | _ => false

def message : TransportError → String
  | notFound method url => method.text ++ " " ++ url ++ ": not found"
  | status method url code =>
    method.text ++ " " ++ url ++ ": API request failed: " ++ code.text
  | request method url failure =>
    method.text ++ " " ++ url.text ++ ": failed to send request: " ++ failure.message url
  | decode cause => "failed to parse response JSON: " ++ cause.message

def causes : TransportError → List String
  | request _ url failure => failure.message url :: failure.causes
  | decode cause => [cause.message]
  | _ => []

end TransportError

inductive Error where
  /-- A declared input is missing or wrong. -/
  | validation (field reason : String)
  /-- A request failed for another reason than that the object does not exist. -/
  | transport (operation : Operation) (project name : String) (source : TransportError)
  /-- The service says that the object does not exist. -/
  | notFound (operation : Operation) (project name : String)
  /-- An identity or an import key that names nothing. -/
  | malformedIdentifier (id reason : String)
  /-- There is no address for the object. -/
  | urlConstruction (url reason : String)
  /-- The service granted a request with a response that is of no use. -/
  | incompleteResponse (operation : Operation) (project reason : String)
  /-- The service could not complete the object. -/
  | backendErrorState (project name : String)
  /-- The time for waiting is over and the object still pending. -/
  | waitTimeout (project name target : String) (timeout : Duration) (polls : UInt32)
  /-- The operation was called off. -/
  | cancelled (project name target : String)
  /-- The object was made and then could not be read; the state holds its identity. -/
  | createdUnread (state : State) (source : Error)
  /-- There is no way to change an object. -/
  | unsupportedOperation (fields : List String)
  deriving DecidableEq, Repr

namespace Error

def label : String := "Supervisor Namespace"

def place (project name : String) : String := name ++ " in Project " ++ project

def message : Error → String
  | validation field reason => "invalid " ++ label ++ " configuration: " ++ field ++ ": " ++ reason
  | transport operation project name _ =>
    "error " ++ operation.text ++ " " ++ label ++ " " ++ place project name
  | notFound operation project name =>
    "error " ++ operation.text ++ " " ++ label ++ " " ++ place project name ++ ": not found"
  | malformedIdentifier id reason =>
    "malformed " ++ label ++ " identifier " ++ Text.quoted id ++ ": " ++ reason
  | urlConstruction url reason =>
    "error building " ++ label ++ " URL " ++ Text.quoted url ++ ": " ++ reason
  | incompleteResponse operation project reason =>
    "error " ++ operation.text ++ " " ++ label ++ " in Project " ++ project ++ ": " ++ reason
  | backendErrorState project name =>
    label ++ " " ++ place project name ++ " is in an ERROR state"
  | waitTimeout project name target timeout polls =>
    "timeout while waiting for " ++ label ++ " " ++ place project name ++ " to be " ++ target ++
      " (waited " ++ timeout.text ++ ", " ++ toString polls ++ " polls)"
  | cancelled project name target =>
    "cancelled while waiting for " ++ label ++ " " ++ place project name ++ " to be " ++ target
  | createdUnread state _ =>
    label ++ " " ++ state.name ++ " was created in Project " ++ state.projectName ++
      " but could not be read back"
  | unsupportedOperation fields =>
    label ++ " updates are not supported (changed: " ++ String.intercalate ", " fields ++ ")"

def causes : Error → List String
  | transport _ _ _ source => source.message :: source.causes
  | createdUnread _ source => source.message :: source.causes
  | _ => []

def isNotFound : Error → Bool
  | notFound _ _ _ => true
  | _ => false

/-- The state of an object that exists although the operation failed. -/
def createdState? : Error → Option State
  | createdUnread state _ => some state
  | _ => none

def ofTransport (operation : Operation) (project name : String) (source : TransportError) : Error :=
  if source.isNotFound then notFound operation project name
  else transport operation project name source

end Error

end NamespaceLifecycle
