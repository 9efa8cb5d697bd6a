import NamespaceLifecycle.Url.Host
import NamespaceLifecycle.Url.Path

/-!
# Addresses

An address names a scheme, mostly an authority with a host, a path, and possibly a query and a
fragment. Its text is canonical: what the reader accepts in several spellings is written in one.
-/

namespace NamespaceLifecycle

/-- Who answers: a host with a port of its own when it is not the usual one of the scheme, and the
credentials that the address carries. -/
structure Url.Authority where
  user : String
  password : Option String
  host : Option Url.Host
  port : Option Nat
  deriving DecidableEq, Repr

structure Url where
  scheme : String
  authority : Option Url.Authority
  path : Url.Path
  query : Option String
  fragment : Option String
  deriving DecidableEq, Repr

namespace Url

/-- The kinds of schemes: those of the web with their usual port, files, and all others. -/
inductive Kind where
  | web (port : Nat)
  | file
  | other
  deriving DecidableEq, Repr

def kind (scheme : String) : Kind :=
  if scheme = "http" ∨ scheme = "ws" then .web 80
  else if scheme = "https" ∨ scheme = "wss" then .web 443
  else if scheme = "ftp" then .web 21
  else if scheme = "file" then .file
  else .other

/-- Schemes of the web and files take a backslash for a slash and have a path that is not empty. -/
def Kind.isSpecial : Kind → Bool
  | other => false
  | _ => true

def Kind.port? : Kind → Option Nat
  | web port => some port
  | _ => none

def host? (url : Url) : Option Host := url.authority.bind (·.host)

/-- The port of an address when it is not the usual one. -/
def port? (url : Url) : Option Nat := url.authority.bind (·.port)

def effectivePort? (url : Url) : Option Nat := url.port? <|> (kind url.scheme).port?

/-- Whether the path stands right after the scheme, so that nothing can be relative to it. -/
def isRootless (url : Url) : Bool :=
  match url.path with
  | .rootless _ => true
  | .rooted _ => false

def withoutCredentials (url : Url) : Url :=
  { url with authority := url.authority.map fun a => { a with user := "", password := none } }

def portText (port : Option Nat) : String :=
  match port with
  | some n => ":" ++ toString n
  | none => ""

/-- Credentials with the sign after them. -/
def credentialsText (user : String) (password : Option String) : String :=
  match password with
  | some secret => user ++ ":" ++ secret ++ "@"
  | none => if user = "" then "" else user ++ "@"

def Authority.text (a : Authority) : String :=
  credentialsText a.user a.password ++ ((a.host.map Host.text).getD "") ++ portText a.port

/-- Without an authority, a path that begins with an empty segment is kept apart from the scheme
by a point. -/
def pathText (url : Url) : String :=
  match url.authority, url.path with
  | none, .rooted ("" :: next :: rest) => "/." ++ (Path.rooted ("" :: next :: rest)).text
  | _, path => path.text

def text (url : Url) : String :=
  url.scheme ++ ":" ++ ((url.authority.map fun a => "//" ++ a.text).getD "") ++ url.pathText ++
    ((url.query.map ("?" ++ ·)).getD "") ++ ((url.fragment.map ("#" ++ ·)).getD "")

end Url

end NamespaceLifecycle
