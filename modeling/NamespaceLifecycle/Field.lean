import NamespaceLifecycle.Error
import NamespaceLifecycle.Text.Pattern

/-!
# Fields of a state

The fields other than the identity, in the order in which they are documented. A field is required
from the user, may be given by the user, or is computed by the service. Checking a state before it
is sent and finding what has changed between two states both go through this table.
-/

namespace NamespaceLifecycle

inductive Presence where
  | required
  | optional
  | computed
  deriving DecidableEq, Repr

def Presence.text : Presence → String
  | required => "required"
  | optional => "optional"
  | computed => "computed"

inductive Field where
  | namePrefix
  | name
  | projectName
  | className
  | description
  | phase
  | ready
  | regionName
  | vpcName
  | endpointUrl
  | storageClasses
  | storageClassOverrides
  | vmClasses
  | zones
  | zoneOverrides
  deriving DecidableEq, Repr

namespace Field

/-- All fields in the order in which they are documented. -/
def all : List Field :=
  [namePrefix, name, projectName, className, description, phase, ready, regionName, vpcName,
    endpointUrl, storageClasses, storageClassOverrides, vmClasses, zones, zoneOverrides]

def key : Field → String
  | namePrefix => "name_prefix"
  | name => "name"
  | projectName => "project_name"
  | className => "class_name"
  | description => "description"
  | phase => "phase"
  | ready => "ready"
  | regionName => "region_name"
  | vpcName => "vpc_name"
  | endpointUrl => "namespace_endpoint_url"
  | storageClasses => "storage_classes"
  | storageClassOverrides => "storage_classes_initial_class_config_overrides"
  | vmClasses => "vm_classes"
  | zones => "zones"
  | zoneOverrides => "zones_initial_class_config_overrides"

def ofKey? (key : String) : Option Field := all.find? (·.key = key)

def presence : Field → Presence
  | namePrefix | projectName | className | regionName | vpcName | storageClassOverrides
  | zoneOverrides => .required
  | description => .optional
  | name | phase | ready | endpointUrl | storageClasses | vmClasses | zones => .computed

/-- Whether the table says that another value needs another object. -/
def forcesNew : Field → Bool
  | namePrefix => true
  | _ => false

def minItems : Field → Nat
  | storageClassOverrides | zoneOverrides => 1
  | _ => 0

def documentation : Field → String
  | namePrefix => "Prefix for the Supervisor Namespace name"
  | name => "Name of the Supervisor Namespace"
  | projectName => "The name of the Project the Supervisor Namespace belongs to"
  | className => "The name of the Supervisor Namespace Class"
  | description => "Description"
  | phase => "Phase of the Supervisor Namespace"
  | ready => "Whether the Supervisor Namespace is in a ready status or not"
  | regionName => "Name of the Region"
  | vpcName => "Name of the VPC"
  | endpointUrl => "Endpoint URL of the Supervisor Namespace"
  | storageClasses => "Supervisor Namespace Storage Classes"
  | storageClassOverrides => "Initial Class Config Overrides for Storage Classes"
  | vmClasses => "Supervisor Namespace VM Classes"
  | zones => "Supervisor Namespace Zones"
  | zoneOverrides => "Initial Class Config Overrides for Zones"

theorem mem_all (f : Field) : f ∈ all := by cases f <;> decide

end Field

inductive FieldValue where
  | text (value : String)
  | bool (value : Bool)
  | storageClasses (entries : List StorageClass)
  | vmClasses (entries : List VmClass)
  | zones (entries : List Zone)
  deriving DecidableEq, Repr

namespace FieldValue

/-- Whether the user has given no value. A truth value is always given. -/
def isUnset : FieldValue → Bool
  | text value => value = ""
  | bool _ => false
  | storageClasses entries => entries.isEmpty
  | vmClasses entries => entries.isEmpty
  | zones entries => entries.isEmpty

def items? : FieldValue → Option Nat
  | storageClasses entries => some entries.length
  | vmClasses entries => some entries.length
  | zones entries => some entries.length
  | text _ | bool _ => none

end FieldValue

namespace State

def get (s : State) : Field → FieldValue
  | .namePrefix => .text s.namePrefix
  | .name => .text s.name
  | .projectName => .text s.projectName
  | .className => .text s.className
  | .description => .text s.description
  | .phase => .text s.phase
  | .ready => .bool s.ready
  | .regionName => .text s.regionName
  | .vpcName => .text s.vpcName
  | .endpointUrl => .text s.endpointUrl
  | .storageClasses => .storageClasses s.storageClasses
  | .storageClassOverrides => .storageClasses s.storageClassOverrides
  | .vmClasses => .vmClasses s.vmClasses
  | .zones => .zones s.zones
  | .zoneOverrides => .zones s.zoneOverrides

def get? (s : State) (key : String) : Option FieldValue := (Field.ofKey? key).map s.get

def isLabelChar (c : Char) : Bool := decide ('a' ≤ c ∧ c ≤ 'z') || decide ('0' ≤ c ∧ c ≤ '9')

/-- The pattern of a label: a letter or digit, and optionally any number of letters, digits and
hyphens with a letter or digit behind them. -/
def labelPattern : Text.Pattern :=
  .andThen (.one isLabelChar)
    (.optional (.andThen (.many (.one fun c => c == '-' || isLabelChar c)) (.one isLabelChar)))

/-- The number of bytes that a label may have. -/
def labelLimit : Nat := 63

/-- A label keeps to the limit and fits the pattern from its beginning to its end. -/
def isLabel (text : String) : Bool :=
  decide (text.utf8ByteSize ≤ labelLimit) && labelPattern.fits text.toList

/-- What is wrong with a required field on its own. -/
def fieldFault? (s : State) (field : Field) : Option Error :=
  let value := s.get field
  if value.isUnset then some (.validation field.key "not specified")
  else
    match value.items? with
    | some items =>
      if items < field.minItems then
        some (.validation field.key
          ("at least " ++ toString field.minItems ++ " entries required"))
      else none
    | none => none

def requiredFields : List Field := Field.all.filter (·.presence = .required)

def validate (s : State) : Except Error Unit :=
  match requiredFields.findSome? s.fieldFault? with
  | some fault => .error fault
  | none =>
    if isLabel s.namePrefix = false then
      .error (.validation Field.namePrefix.key
        "Name must match RFC 1123 Label name (lower case alphabet, 0-9 and hyphen -)")
    else if s.storageClassOverrides.any (·.name = "") then
      .error (.validation Field.storageClassOverrides.key "every entry needs a name")
    else if s.zoneOverrides.any (·.name = "") then
      .error (.validation Field.zoneOverrides.key "every entry needs a name")
    else .ok ()

/-- The declared fields, those that the service does not compute. -/
def declaredFields : List Field := Field.all.filter (·.presence ≠ .computed)

/-- The declared fields whose values differ between two states. -/
def changedFields (prior planned : State) : List Field :=
  declaredFields.filter fun field => prior.get field ≠ planned.get field

end State

end NamespaceLifecycle
