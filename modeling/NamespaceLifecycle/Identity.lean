import NamespaceLifecycle.Error
import NamespaceLifecycle.Text.Basic
import NamespaceLifecycle.Text.Percent

/-!
# Identities and views

A namespace is addressed by its project and its name. As one text, the identity is both with a
colon between them, each escaped so that it holds no colon of its own. Names made of unreserved
characters stand as they are. A key for importing is written with a point and without escapes.

The local view of an object that the service returned is made for an identity. Collections keep the
order of the service, and the beginning of the name is the one the object tells, possibly none.
-/

namespace NamespaceLifecycle

structure Identity where
  project : String
  name : String
  deriving DecidableEq, Repr, Inhabited

namespace Identity

open Text

def escape (part : String) : String := Percent.encode Percent.isUnreserved part

/-- The identity as one text; neither side may be empty. -/
def encode (i : Identity) : Except Error String :=
  if i.project = "" then .error (.validation "project_name" "must not be empty")
  else if i.name = "" then .error (.validation "name" "must not be empty")
  else .ok (escape i.project ++ ":" ++ escape i.name)

/-- One side of an identity read back; its bytes must be a text. -/
def unescape (id part : String) : Except Error String :=
  let bytes := Percent.decode part
  match Utf8.text? bytes with
  | some text => .ok text
  | none =>
    .error (.malformedIdentifier id
      ("invalid escape: " ++ ((Utf8.fault? bytes).map Utf8.Fault.message).getD ""))

def decode (id : String) : Except Error Identity :=
  match splitAt ':' id.toList with
  | [project, name] => do
    let project ← unescape id (String.ofList project)
    let name ← unescape id (String.ofList name)
    if project = "" ∨ name = "" then
      .error (.malformedIdentifier id "empty project or name")
    else return ⟨project, name⟩
  | _ => .error (.malformedIdentifier id "expected exactly one ':' separator")

/-- The identity that a key for importing denotes. -/
def ofImportKey (key : String) : Except Error Identity :=
  match splitAt '.' key.toList with
  | [project, name] =>
    if project.isEmpty ∨ name.isEmpty then malformed
    else .ok ⟨String.ofList project, String.ofList name⟩
  | _ => malformed
where
  malformed : Except Error Identity :=
    .error (.malformedIdentifier key
      "expected import ID to be <project_name>.<supervisor_namespace_name>")

end Identity

/-! ## Views -/

/-- Whether a condition says that the object is ready, in any case of letters. -/
def Condition.saysReady (c : Condition) : Bool :=
  c.type.toLower = "ready" && c.status.toLower = "true"

def isReady (conditions : List Condition) : Bool := conditions.any Condition.saysReady

/-- The local view of an object under a given identity text. -/
def State.ofObject (id : String) (identity : Identity) (o : RemoteObject) : State where
  id := some id
  namePrefix := o.metadata.generateName
  projectName := identity.project
  className := o.specification.className
  description := o.specification.description
  regionName := o.specification.regionName
  vpcName := o.specification.vpcName
  storageClassOverrides := o.specification.overrides.storageClasses
  zoneOverrides := o.specification.overrides.zones
  name := identity.name
  phase := o.status.phase
  ready := isReady o.status.conditions
  endpointUrl := o.status.endpointUrl
  storageClasses := o.status.storageClasses
  vmClasses := o.status.vmClasses
  zones := o.status.zones

def Identity.view (identity : Identity) (o : RemoteObject) : Except Error State := do
  let id ← identity.encode
  return .ofObject id identity o

end NamespaceLifecycle
