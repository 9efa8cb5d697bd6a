import NamespaceLifecycle.Identity
import NamespaceLifecycle.Text.Character
import NamespaceLifecycle.Url.Reader

/-!
# Addresses of the service

The service stands at an endpoint, of which only scheme, host and port matter. Below them lies the
collection of the namespaces of a project, and below the collection each namespace. Project and
name are checked before they become segments of an address.
-/

namespace NamespaceLifecycle

/-- Where the service is, as the user gave it but without slashes at the end, and how domains are
known in ASCII. -/
structure Endpoint where
  text : String
  domains : Url.Domains

def apiGroup : String := "infrastructure.cci.vmware.com"

def collectionVersion : String := "v1alpha1"

def collectionName : String := "supervisornamespaces"

/-- Characters that would not stay inside one segment of an address. -/
def isRefusedInSegment (c : Char) : Bool :=
  c == '/' || c == '?' || c == '#' || c == '%' || c == '\\' || Text.isBlank c || Text.isControl c

def segmentFault? (what segment : String) : Option String :=
  if segment = "" then some ("empty " ++ what)
  else
    (segment.toList.find? isRefusedInSegment).map fun c =>
      "invalid character " ++ Text.quotedChar c ++ " in " ++ what

/-- The text of an address below a server: the collection of a project or one of its namespaces. -/
def resourceText (server project : String) (name : Option String) : String :=
  Text.withoutTrailing '/' server ++ "/apis/" ++ apiGroup ++ "/" ++ collectionVersion ++
    "/namespaces/" ++ project ++ "/" ++ collectionName ++ ((name.map ("/" ++ ·)).getD "")

def resourceUrl (domains : Url.Domains) (server project : String) (name : Option String) :
    Except Error Url :=
  let text := resourceText server project name
  let fault : Option String :=
    if Text.withoutTrailing '/' server = "" then some "empty server"
    else segmentFault? "project" project <|> name.bind (segmentFault? "name")
  match fault with
  | some reason => .error (.urlConstruction text reason)
  | none =>
    match Url.ofText domains text with
    | .error fault => .error (.urlConstruction text fault.message)
    | .ok url =>
      if url.isRootless ∨ url.host?.isNone then
        .error (.urlConstruction text "not an absolute URL")
      else .ok url

namespace Endpoint

def of (domains : Url.Domains) (text : String) : Endpoint :=
  ⟨Text.withoutTrailing '/' text, domains⟩

/-- The server at an endpoint: scheme, host, port and the path that all its interfaces share. None
when the endpoint has no host. -/
def server? (e : Endpoint) : Option String :=
  match Url.ofText e.domains e.text with
  | .error _ => none
  | .ok url =>
    url.host?.map fun host =>
      url.scheme ++ "://" ++ host.text ++ Url.portText url.port? ++ "/cci/kubernetes"

/-- How a client of the endpoint is shown in logs. -/
def inspect (e : Endpoint) : String :=
  "VcfaClient \x7b endpoint: " ++ Text.quoted e.text ++ ", .. \x7d"

def url (e : Endpoint) (project : String) (name : Option String) : Except Error Url :=
  match e.server? with
  | none => .error (.urlConstruction e.text "endpoint is not an absolute URL")
  | some server => resourceUrl e.domains server project name

end Endpoint

end NamespaceLifecycle
