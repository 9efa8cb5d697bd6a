import NamespaceLifecycle.Json.Printer
import NamespaceLifecycle.RemoteObject

/-!
# Local states

What is known locally about one namespace: the inputs declared for it, everything observed of it,
and its identity once it exists. A state is kept in a file, all fields in one fixed order and the
identity only when there is one.
-/

namespace NamespaceLifecycle

open Json (Decoder Record)

structure State where
  /-- The identity, none before the namespace is made or imported. -/
  id : Option String
  namePrefix : String
  projectName : String
  className : String
  description : String
  regionName : String
  vpcName : String
  storageClassOverrides : List StorageClass
  zoneOverrides : List Zone
  name : String
  phase : String
  ready : Bool
  endpointUrl : String
  storageClasses : List StorageClass
  vmClasses : List VmClass
  zones : List Zone
  deriving DecidableEq, Repr, Inhabited

namespace State

def empty : State :=
  ⟨none, "", "", "", "", "", "", [], [], "", "", false, "", [], [], []⟩

def specification (s : State) : Specification :=
  ⟨s.className, s.description, ⟨s.storageClassOverrides, s.zoneOverrides⟩, s.regionName, s.vpcName⟩

/-- The object that is sent to make the namespace. -/
def toObject (s : State) : RemoteObject :=
  .new s.projectName s.namePrefix s.specification

def toJson (s : State) : Json :=
  .object <| ((s.id.map fun id => [("id", Json.text id)]).getD []) ++
    [("name_prefix", .text s.namePrefix),
      ("project_name", .text s.projectName),
      ("class_name", .text s.className),
      ("description", .text s.description),
      ("region_name", .text s.regionName),
      ("vpc_name", .text s.vpcName),
      ("storage_classes_initial_class_config_overrides",
        .array (s.storageClassOverrides.map StorageClass.toStored)),
      ("zones_initial_class_config_overrides", .array (s.zoneOverrides.map Zone.toStored)),
      ("name", .text s.name),
      ("phase", .text s.phase),
      ("ready", .bool s.ready),
      ("namespace_endpoint_url", .text s.endpointUrl),
      ("storage_classes", .array (s.storageClasses.map StorageClass.toStored)),
      ("vm_classes", .array (s.vmClasses.map VmClass.toJson)),
      ("zones", .array (s.zones.map Zone.toStored))]

/-- A state in a file. Every field may be missing. -/
def decoder : Decoder State :=
  Record.decoder "SupervisorNamespaceState" <|
    State.mk <$> Record.optional "id" (Decoder.optional Decoder.text) none
      <*> Record.optional "name_prefix" Decoder.text ""
      <*> Record.optional "project_name" Decoder.text ""
      <*> Record.optional "class_name" Decoder.text ""
      <*> Record.optional "description" Decoder.text ""
      <*> Record.optional "region_name" Decoder.text ""
      <*> Record.optional "vpc_name" Decoder.text ""
      <*> Record.optional "storage_classes_initial_class_config_overrides"
        (Decoder.list StorageClass.stored) []
      <*> Record.optional "zones_initial_class_config_overrides" (Decoder.list Zone.stored) []
      <*> Record.optional "name" Decoder.text ""
      <*> Record.optional "phase" Decoder.text ""
      <*> Record.optional "ready" Decoder.bool false
      <*> Record.optional "namespace_endpoint_url" Decoder.text ""
      <*> Record.optional "storage_classes" (Decoder.list StorageClass.stored) []
      <*> Record.optional "vm_classes" (Decoder.list VmClass.stored) []
      <*> Record.optional "zones" (Decoder.list Zone.stored) []

def fileText (s : State) : String := s.toJson.spread

def ofFileText (text : String) : Except Json.DecodeError State := Json.decodeText decoder text

end State

end NamespaceLifecycle
