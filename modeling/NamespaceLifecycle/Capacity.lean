import NamespaceLifecycle.Json.Decode

/-!
# Storage classes, machine classes and zones

What a namespace is given, by name: a limit of storage for each storage class, the classes of
machines, and limits and reservations of processors and memory for each zone. The same values go
over the wire and into state files, under different keys. What is asked for on the wire must be
complete, what is observed there may leave out anything, and a state file must give the name.
-/

namespace NamespaceLifecycle

open Json (Decoder Record)

/-- A storage class with its limit in mebibytes. -/
structure StorageClass where
  name : String
  limit : Int64
  deriving DecidableEq, Repr, Inhabited

structure VmClass where
  name : String
  deriving DecidableEq, Repr, Inhabited

/-- A zone with processors in megahertz and memory in mebibytes. -/
structure Zone where
  name : String
  cpuLimit : Int64
  cpuReservation : Int64
  memoryLimit : Int64
  memoryReservation : Int64
  deriving DecidableEq, Repr, Inhabited

def Json.int64 (n : Int64) : Json := .int n.toInt

namespace StorageClass

/-- The form on the wire. -/
def toWire (c : StorageClass) : Json :=
  .object [("name", .text c.name), ("limitMiB", .int64 c.limit)]

/-- The form in a state file. -/
def toStored (c : StorageClass) : Json :=
  .object [("name", .text c.name), ("limit_mib", .int64 c.limit)]

def requested : Decoder StorageClass :=
  Record.decoder "StorageClassOverride" <|
    StorageClass.mk <$> Record.required "name" Decoder.text
      <*> Record.required "limitMiB" Decoder.int64

def observed : Decoder StorageClass :=
  Record.decoder "StorageClassStatus" <|
    StorageClass.mk <$> Record.optional "name" Decoder.text ""
      <*> Record.optional "limitMiB" Decoder.int64 0

def stored : Decoder StorageClass :=
  Record.decoder "StorageClass" <|
    StorageClass.mk <$> Record.required "name" Decoder.text
      <*> Record.optional "limit_mib" Decoder.int64 0

end StorageClass

namespace VmClass

def toJson (c : VmClass) : Json := .object [("name", .text c.name)]

def observed : Decoder VmClass :=
  Record.decoder "VmClassStatus" (VmClass.mk <$> Record.optional "name" Decoder.text "")

def stored : Decoder VmClass :=
  Record.decoder "VmClass" (VmClass.mk <$> Record.required "name" Decoder.text)

end VmClass

namespace Zone

def toWire (z : Zone) : Json :=
  .object [("name", .text z.name), ("cpuLimitMHz", .int64 z.cpuLimit),
    ("cpuReservationMHz", .int64 z.cpuReservation), ("memoryLimitMiB", .int64 z.memoryLimit),
    ("memoryReservationMiB", .int64 z.memoryReservation)]

def toStored (z : Zone) : Json :=
  .object [("name", .text z.name), ("cpu_limit_mhz", .int64 z.cpuLimit),
    ("cpu_reservation_mhz", .int64 z.cpuReservation), ("memory_limit_mib", .int64 z.memoryLimit),
    ("memory_reservation_mib", .int64 z.memoryReservation)]

def requested : Decoder Zone :=
  Record.decoder "ZoneOverride" <|
    Zone.mk <$> Record.required "name" Decoder.text
      <*> Record.required "cpuLimitMHz" Decoder.int64
      <*> Record.required "cpuReservationMHz" Decoder.int64
      <*> Record.required "memoryLimitMiB" Decoder.int64
      <*> Record.required "memoryReservationMiB" Decoder.int64

/-- A zone that is observed. -/
def observed : Decoder Zone :=
  Record.decoder "ZoneStatus" <|
    Zone.mk <$> Record.optional "name" Decoder.text ""
      <*> Record.optional "cpuLimitMHz" Decoder.int64 0
      <*> Record.optional "cpuReservationMHz" Decoder.int64 0
      <*> Record.optional "memoryLimitMiB" Decoder.int64 0
      <*> Record.optional "memoryReservationMiB" Decoder.int64 0

/-- A zone in a state file. -/
def stored : Decoder Zone :=
  Record.decoder "Zone" <|
    Zone.mk <$> Record.required "name" Decoder.text
      <*> Record.optional "cpu_limit_mhz" Decoder.int64 0
      <*> Record.optional "cpu_reservation_mhz" Decoder.int64 0
      <*> Record.optional "memory_limit_mib" Decoder.int64 0
      <*> Record.optional "memory_reservation_mib" Decoder.int64 0

end Zone

end NamespaceLifecycle
