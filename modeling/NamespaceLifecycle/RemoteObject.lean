import NamespaceLifecycle.Capacity

/-!
# Objects of the service

A namespace as the service holds it: metadata, the specification that was asked for, and the
status that the service observes. On the wire nearly every part may be missing, and then is empty;
parts that are empty are left out again when an object is written. Only the entries of the
overrides in a specification must be complete.
-/

namespace NamespaceLifecycle

open Json (Decoder Record)

/-- Names of an object: its own, the beginning from which the service made it up, and that of its
project. -/
structure Metadata where
  name : String
  generateName : String
  namespaceName : String
  deriving DecidableEq, Repr, Inhabited

structure Overrides where
  storageClasses : List StorageClass
  zones : List Zone
  deriving DecidableEq, Repr, Inhabited

/-- What is asked for. It is given once, and the service offers no way to change it. -/
structure Specification where
  className : String
  description : String
  overrides : Overrides
  regionName : String
  vpcName : String
  deriving DecidableEq, Repr, Inhabited

structure Condition where
  type : String
  status : String
  reason : String
  message : String
  severity : String
  deriving DecidableEq, Repr, Inhabited

structure Status where
  conditions : List Condition
  endpointUrl : String
  phase : String
  storageClasses : List StorageClass
  vmClasses : List VmClass
  zones : List Zone
  deriving DecidableEq, Repr, Inhabited

/-- An object of the service. -/
structure RemoteObject where
  apiVersion : String
  kind : String
  metadata : Metadata
  specification : Specification
  status : Status
  deriving DecidableEq, Repr, Inhabited

def Metadata.empty : Metadata := ⟨"", "", ""⟩

def Overrides.empty : Overrides := ⟨[], []⟩

def Specification.empty : Specification := ⟨"", "", .empty, "", ""⟩

/-- The status of an object of which nothing is observed. -/
def Status.empty : Status := ⟨[], "", "", [], [], []⟩

/-- A text member, left out when the text is empty. -/
def Json.textUnlessEmpty (key text : String) : List (String × Json) :=
  if text = "" then [] else [(key, .text text)]

def Json.listUnlessEmpty {α : Type} (key : String) (toJson : α → Json) (items : List α) :
    List (String × Json) :=
  if items.isEmpty then [] else [(key, .array (items.map toJson))]

namespace Metadata

def toJson (m : Metadata) : Json :=
  .object <| Json.textUnlessEmpty "name" m.name ++
    Json.textUnlessEmpty "generateName" m.generateName ++
    Json.textUnlessEmpty "namespace" m.namespaceName

def decoder : Decoder Metadata :=
  Record.decoder "ObjectMeta" <|
    Metadata.mk <$> Record.optional "name" Decoder.text ""
      <*> Record.optional "generateName" Decoder.text ""
      <*> Record.optional "namespace" Decoder.text ""

end Metadata

namespace Overrides

def toJson (o : Overrides) : Json :=
  .object <| Json.listUnlessEmpty "storageClasses" StorageClass.toWire o.storageClasses ++
    Json.listUnlessEmpty "zones" Zone.toWire o.zones

def decoder : Decoder Overrides :=
  Record.decoder "InitialClassConfigOverrides" <|
    Overrides.mk <$> Record.optional "storageClasses" (Decoder.list StorageClass.requested) []
      <*> Record.optional "zones" (Decoder.list Zone.requested) []

end Overrides

namespace Specification

def toJson (s : Specification) : Json :=
  .object <| Json.textUnlessEmpty "className" s.className ++
    Json.textUnlessEmpty "description" s.description ++
    [("initialClassConfigOverrides", s.overrides.toJson)] ++
    Json.textUnlessEmpty "regionName" s.regionName ++
    Json.textUnlessEmpty "vpcName" s.vpcName

def decoder : Decoder Specification :=
  Record.decoder "SupervisorNamespaceSpec" <|
    Specification.mk <$> Record.optional "className" Decoder.text ""
      <*> Record.optional "description" Decoder.text ""
      <*> Record.optional "initialClassConfigOverrides" Overrides.decoder .empty
      <*> Record.optional "regionName" Decoder.text ""
      <*> Record.optional "vpcName" Decoder.text ""

end Specification

namespace Condition

def toJson (c : Condition) : Json :=
  .object [("type", .text c.type), ("status", .text c.status), ("reason", .text c.reason),
    ("message", .text c.message), ("severity", .text c.severity)]

def decoder : Decoder Condition :=
  Record.decoder "Condition" <|
    Condition.mk <$> Record.optional "type" Decoder.text ""
      <*> Record.optional "status" Decoder.text ""
      <*> Record.optional "reason" Decoder.text ""
      <*> Record.optional "message" Decoder.text ""
      <*> Record.optional "severity" Decoder.text ""

end Condition

namespace Status

def toJson (s : Status) : Json :=
  .object <| Json.listUnlessEmpty "conditions" Condition.toJson s.conditions ++
    Json.textUnlessEmpty "namespaceEndpointURL" s.endpointUrl ++
    Json.textUnlessEmpty "phase" s.phase ++
    Json.listUnlessEmpty "storageClasses" StorageClass.toWire s.storageClasses ++
    Json.listUnlessEmpty "vmClasses" VmClass.toJson s.vmClasses ++
    Json.listUnlessEmpty "zones" Zone.toWire s.zones

def decoder : Decoder Status :=
  Record.decoder "SupervisorNamespaceStatus" <|
    Status.mk <$> Record.optional "conditions" (Decoder.list Condition.decoder) []
      <*> Record.optional "namespaceEndpointURL" Decoder.text ""
      <*> Record.optional "phase" Decoder.text ""
      <*> Record.optional "storageClasses" (Decoder.list StorageClass.observed) []
      <*> Record.optional "vmClasses" (Decoder.list VmClass.observed) []
      <*> Record.optional "zones" (Decoder.list Zone.observed) []

end Status

namespace RemoteObject

def currentApiVersion : String := "infrastructure.cci.vmware.com/v1alpha"

def kindName : String := "SupervisorNamespace"

/-- An object to be made in a project. The service completes its name. -/
def new (project generateName : String) (specification : Specification) : RemoteObject :=
  ⟨currentApiVersion, kindName, ⟨"", generateName, project⟩, specification, .empty⟩

def name (o : RemoteObject) : String := o.metadata.name

def phase (o : RemoteObject) : String := o.status.phase

def toJson (o : RemoteObject) : Json :=
  .object <| [("apiVersion", .text o.apiVersion), ("kind", .text o.kind),
    ("metadata", o.metadata.toJson), ("spec", o.specification.toJson)] ++
    if o.status = .empty then [] else [("status", o.status.toJson)]

def decoder : Decoder RemoteObject :=
  Record.decoder "SupervisorNamespace" <|
    RemoteObject.mk <$> Record.optional "apiVersion" Decoder.text ""
      <*> Record.optional "kind" Decoder.text ""
      <*> Record.optional "metadata" Metadata.decoder .empty
      <*> Record.optional "spec" Specification.decoder .empty
      <*> Record.optional "status" Status.decoder .empty

def ofJson (value : Json) : Except Json.DecodeError RemoteObject := Json.decode decoder value

end RemoteObject

end NamespaceLifecycle
