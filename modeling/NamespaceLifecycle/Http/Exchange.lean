import NamespaceLifecycle.Run
import NamespaceLifecycle.Text.Character

/-!
# Exchanges over the web

A request goes out with a few headers, the token of the user among them. A response is judged once
its whole body is there: by its status first, and by its body only when the status grants the
request. An empty body stands for no document.

Of a body that is not granted the log gets the first two hundred bytes at most, and nothing but the
printable characters of ASCII. Where the two hundred bytes end within a character, the cut is sought
backwards from there.
-/

namespace NamespaceLifecycle.Http

/-- The number of bytes of a body that may go into the log. -/
def logLimit : Nat := 200

def isLoggable (c : Char) : Bool := decide (0x20 ≤ c.toNat ∧ c.toNat < 0x7f)

/-- A body as far as it is shown. A long one is cut, and nothing is shown if it cannot be. -/
def shown? (body : String) : Option String :=
  if logLimit < body.utf8ByteSize then do
    let place ← Text.Utf8.boundaryFrom? (Text.Utf8.bytes body) logLimit
    let front ← Text.Utf8.before? body place
    return front ++ ("... [truncated, " ++ toString body.utf8ByteSize ++ " bytes total]")
  else some body

def logText? (body : String) : Option String :=
  (shown? body).map fun shown => String.ofList (shown.toList.filter isLoggable)

/-- What of a body goes into the log. -/
def logText (body : String) : String := (logText? body).getD ""

/-- What a server sends back. The body may end before its announced length. -/
structure Response where
  status : StatusCode
  body : List UInt8
  isWhole : Bool
  deriving Repr

inductive Delivery where
  | response (response : Response)
  /-- Nothing came back; the causes from the outermost to the innermost. -/
  | lost (causes : List String)
  deriving Repr

/-- A network, which delivers requests by the number of requests before. -/
abbrev Network := Nat → Request → Delivery

def userAgent : String := "vcfa-ns/0.1.0"

def headers (token : Option String) (request : Request) : List (String × String) :=
  [("user-agent", userAgent), ("accept", "application/json")] ++
    ((token.map fun secret => [("authorization", "Bearer " ++ secret)]).getD []) ++
    if request.body.isSome then [("content-type", "application/json")] else []

def isHeaderChar (c : Char) : Bool := c == '\t' || decide (0x20 ≤ c.toNat ∧ c.toNat ≠ 0x7f)

def areSendable (headers : List (String × String)) : Bool :=
  headers.all fun header => header.2.toList.all isHeaderChar

/-- The document that the body of a granted request is. -/
def document (body : String) : Answer :=
  if Text.isBlankText body then .ok .null
  else
    match Json.ofText body with
    | .ok value => .ok value
    | .error fault => .error (.decode (.fault fault))

/-- What a response with a whole body means, and what the log says of it. -/
def judge (request : Request) (status : StatusCode) (body : String) : Answer × List LogLine :=
  if status = .notFound then
    (.error (.notFound request.method request.url.text),
      [⟨.debug, request.method.text ++ " " ++ request.url.text ++ " returned 404"⟩])
  else if status.isSuccess then (document body, [])
  else
    (.error (.status request.method request.url.text status),
      [⟨.error, "API error: " ++ status.text ++ " - " ++ logText body⟩])

def Delivery.answer (request : Request) : Delivery → Answer × List LogLine
  | lost causes => (.error (.request request.method request.url (.noResponse causes)), [])
  | response r =>
    if r.isWhole then judge request r.status (Text.Utf8.lenient r.body)
    else (.error (.request request.method request.url .cutShort), [])

def isSchemeSupported (scheme : String) : Bool := scheme = "http" || scheme = "https"

/-- What a network makes of a request with a token. -/
def exchange (network : Network) (token : Option String) (index : Nat) (request : Request) :
    Answer × List LogLine :=
  let (answer, log) : Answer × List LogLine :=
    if !areSendable (headers token request) then
      (.error (.request request.method request.url .invalidToken), [])
    else if !isSchemeSupported request.url.scheme then
      (.error (.request request.method request.url .unsupportedScheme), [])
    else (network index request).answer request
  (answer, ⟨.debug, request.method.text ++ " " ++ request.url.text⟩ :: log)

/-- A network as a transport that takes no time and calls nothing off. -/
def transport (network : Network) (token : Option String) : Nat → Request → Reply Answer :=
  fun index request =>
    match exchange network token index request with
    | (answer, log) => .answered .zero false log answer

end NamespaceLifecycle.Http
