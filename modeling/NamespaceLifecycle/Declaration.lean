import NamespaceLifecycle.Field
import NamespaceLifecycle.Yaml.Decode

/-!
# Declared configurations

A user declares a namespace in a document of the kind that people write by hand. It has the fields
of a state file, all of which may be missing.
-/

namespace NamespaceLifecycle

open Yaml (Decoder)

def StorageClass.declared : Decoder StorageClass := fun node => do
  let fields ← Decoder.fields ["name", "limit_mib"] node
  let name ← Decoder.required fields "name" Decoder.text
  let limit ← Decoder.optional fields "limit_mib" 0 Decoder.int64
  return ⟨name, limit⟩

def VmClass.declared : Decoder VmClass := fun node => do
  let fields ← Decoder.fields ["name"] node
  let name ← Decoder.required fields "name" Decoder.text
  return ⟨name⟩

def Zone.declared : Decoder Zone := fun node => do
  let fields ← Decoder.fields ["name", "cpu_limit_mhz", "cpu_reservation_mhz", "memory_limit_mib",
    "memory_reservation_mib"] node
  let name ← Decoder.required fields "name" Decoder.text
  let number (key : String) := Decoder.optional fields key 0 Decoder.int64
  let cpuLimit ← number "cpu_limit_mhz"
  let cpuReservation ← number "cpu_reservation_mhz"
  let memoryLimit ← number "memory_limit_mib"
  let memoryReservation ← number "memory_reservation_mib"
  return ⟨name, cpuLimit, cpuReservation, memoryLimit, memoryReservation⟩

namespace State

def keys : List String := "id" :: Field.all.map Field.key

def declared : Decoder State := fun node => do
  let fields ← Decoder.fields keys node
  let id ← Decoder.optional fields "id" none Decoder.optionalText
  let text (field : Field) := Decoder.optional fields field.key "" Decoder.text
  let namePrefix ← text .namePrefix
  let projectName ← text .projectName
  let className ← text .className
  let description ← text .description
  let regionName ← text .regionName
  let vpcName ← text .vpcName
  let storageClasses (field : Field) :=
    Decoder.optional fields field.key [] (Decoder.list StorageClass.declared)
  let zones (field : Field) := Decoder.optional fields field.key [] (Decoder.list Zone.declared)
  let storageClassOverrides ← storageClasses .storageClassOverrides
  let zoneOverrides ← zones .zoneOverrides
  let name ← text .name
  let phase ← text .phase
  let ready ← Decoder.optional fields Field.ready.key false Decoder.bool
  let endpointUrl ← text .endpointUrl
  let observedStorageClasses ← storageClasses .storageClasses
  let vmClasses ← Decoder.optional fields Field.vmClasses.key [] (Decoder.list VmClass.declared)
  let observedZones ← zones .zones
  return ⟨id, namePrefix, projectName, className, description, regionName, vpcName,
    storageClassOverrides, zoneOverrides, name, phase, ready, endpointUrl, observedStorageClasses,
    vmClasses, observedZones⟩

/-- The state that the text of a declaration declares. -/
def ofDeclaration? (text : String) : Option State := Yaml.decodeText declared text

end State

end NamespaceLifecycle
