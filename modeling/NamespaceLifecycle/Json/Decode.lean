import NamespaceLifecycle.Json.Draft
import NamespaceLifecycle.Text.Character

/-!
# Decoding

A decoder takes a value of some type from a draft. A record is read from an object, by the keys of
its fields, or from an array, by their order. Unknown members are passed over, a repeated field is
refused, and a field that may be missing falls back on a value of its own. Everything that is wrong
with the members is reported in the order in which they stand, before any field is found missing.
-/

namespace NamespaceLifecycle.Json

/-- What a draft turned out to be where something else was wanted. -/
inductive Found where
  | null
  | bool (value : Bool)
  | number (value : Number)
  | text (value : String)
  | sequence
  | map
  deriving DecidableEq, Repr

inductive Wanted where
  | text
  | bool
  | signed
  | unsigned
  | sequence
  | record (name : String)
  deriving DecidableEq, Repr

inductive DecodeError where
  /-- The text is no document there. -/
  | fault (fault : Fault)
  | wrongType (found : Found) (wanted : Wanted)
  /-- A whole number that the wanted type does not hold. -/
  | outOfRange (value : Number) (wanted : Wanted)
  | missingField (key : String)
  | duplicateField (key : String)
  /-- An array with too few items for a record. -/
  | tooShort (length : Nat) (record : String) (fields : Nat)
  /-- An array of known length with more items than the record has fields. -/
  | tooLong (length : Nat)
  deriving DecidableEq, Repr

def Found.message : Found → String
  | null => "null"
  | bool value => "boolean `" ++ toString value ++ "`"
  | number (.fraction bits) => "floating point `" ++ (Number.fraction bits).toText ++ "`"
  | number value => "integer `" ++ value.toText ++ "`"
  | text value => "string " ++ Text.quoted value
  | sequence => "sequence"
  | map => "map"

def Wanted.message : Wanted → String
  | text => "a string"
  | bool => "a boolean"
  | signed => "i64"
  | unsigned => "u64"
  | sequence => "a sequence"
  | record name => "struct " ++ name

/-- The words for a decoding error; a fault of the text has none of its own. -/
def DecodeError.message? : DecodeError → Option String
  | fault _ => none
  | wrongType found wanted =>
    some ("invalid type: " ++ found.message ++ ", expected " ++ wanted.message)
  | outOfRange value wanted =>
    some ("invalid value: " ++ (Found.number value).message ++ ", expected " ++ wanted.message)
  | missingField key => some ("missing field `" ++ key ++ "`")
  | duplicateField key => some ("duplicate field `" ++ key ++ "`")
  | tooShort length record fields =>
    some ("invalid length " ++ toString length ++ ", expected struct " ++ record ++ " with " ++
      toString fields ++ if fields = 1 then " element" else " elements")
  | tooLong length =>
    some ("invalid length " ++ toString length ++ ", expected fewer elements in array")

def DecodeError.message (e : DecodeError) : String :=
  match e with
  | fault .unfinished => "unexpected end of text"
  | fault .malformed => "malformed text"
  | _ => e.message?.getD ""

/-- Takes a value of a type from a draft. -/
abbrev Decoder (α : Type) := Draft → Except DecodeError α

def ofFault {α : Type} : Except Fault α → Except DecodeError α
  | .ok a => .ok a
  | .error fault => .error (.fault fault)

/-- Refuses a draft for what it is; a fault inside a scalar comes first. -/
def refuse {α : Type} (wanted : Wanted) : Draft → Except DecodeError α
  | .null => .error (.wrongType .null wanted)
  | .bool value => .error (.wrongType (.bool value) wanted)
  | .number (some value) => .error (.wrongType (.number value) wanted)
  | .number none => .error (.fault .malformed)
  | .text (some value) => .error (.wrongType (.text value) wanted)
  | .text none => .error (.fault .malformed)
  | .array _ _ => .error (.wrongType .sequence wanted)
  | .object _ _ => .error (.wrongType .map wanted)
  | .flawed flaw => .error (.fault flaw.reading)

namespace Decoder

def text : Decoder String
  | .text (some value) => .ok value
  | draft => refuse .text draft

def bool : Decoder Bool
  | .bool value => .ok value
  | draft => refuse .bool draft

def int64 : Decoder Int64
  | .number (some (.whole n)) =>
    if n < UInt64.size / 2 then .ok (Int64.ofNat n) else .error (.outOfRange (.whole n) .signed)
  | .number (some (.negative n)) => .ok (Int64.ofInt n)
  | draft => refuse .signed draft

def uint64 : Decoder UInt64
  | .number (some (.whole n)) => .ok (UInt64.ofNat n)
  | .number (some (.negative n)) => .error (.outOfRange (.negative n) .unsigned)
  | draft => refuse .unsigned draft

def optional {α : Type} (decoder : Decoder α) : Decoder (Option α)
  | .null => .ok none
  | draft => (decoder draft).map some

def items {α : Type} (decoder : Decoder α) : List Draft → Except DecodeError (List α)
  | [] => .ok []
  | item :: rest => do
    let value ← decoder item
    let values ← items decoder rest
    return value :: values

def list {α : Type} (decoder : Decoder α) : Decoder (List α)
  | .array drafts ending => do
    let values ← items decoder drafts
    ofFault ending.read
    return values
  | draft => refuse .sequence draft

end Decoder

/-- A field of a record: its key, whether it must be there, and the check on its draft. -/
structure Field where
  key : String
  required : Bool
  check : Draft → Except DecodeError Unit

/-- The drafts of the fields that are there. -/
abbrev Slots := List (String × Draft)

def Slots.find? (slots : Slots) (key : String) : Option Draft :=
  (List.find? (fun slot => slot.1 = key) slots).map Prod.snd

/-- The first required field without a draft, with its place among the fields. -/
def missing? (slots : Slots) (fields : List Field) : Option (Nat × Field) :=
  (List.zip (List.range fields.length) fields).find? fun (_, field) =>
    field.required && (slots.find? field.key).isNone

/-- Members in order: the drafts of fields are checked and kept, those of others passed over. -/
def gatherMembers (fields : List Field) (slots : Slots) :
    List (Option String × Draft) → Except DecodeError Slots
  | [] => .ok slots
  | (none, _) :: _ => .error (.fault .malformed)
  | (some key, draft) :: rest =>
    match fields.find? fun field => field.key = key with
    | none => do
      ofFault draft.pass
      gatherMembers fields slots rest
    | some field =>
      if (slots.find? key).isSome then .error (.duplicateField key)
      else do
        field.check draft
        gatherMembers fields (slots ++ [(key, draft)]) rest

/-- Items in order, each for the next field; what is left of either is returned with the slots. -/
def gatherItems : List Field → List Draft → Except DecodeError (Slots × List Draft)
  | field :: fields, item :: items => do
    field.check item
    let (slots, left) ← gatherItems fields items
    return ((field.key, item) :: slots, left)
  | _, items => .ok ([], items)

/-- The slots of a record from an object or an array. -/
def gather (name : String) (fields : List Field) : Draft → Except DecodeError Slots
  | .object members ending => do
    let slots ← gatherMembers fields [] members
    ofFault ending.read
    match missing? slots fields with
    | some (_, field) => .error (.missingField field.key)
    | none => return slots
  | .array items ending => do
    let (slots, left) ← gatherItems fields items
    if left.isEmpty then
      ofFault ending.read
      match missing? slots fields with
      | some (index, _) => .error (.tooShort index name fields.length)
      | none => return slots
    else
      match ending with
      | .counted => .error (.tooLong items.length)
      | _ => .error (.fault .malformed)
  | draft => refuse (.record name) draft

/-- A record: its fields, and its value when the fields that are there are right. -/
structure Record (α : Type) where
  fields : List Field
  build : Slots → Except DecodeError α

namespace Record

def pure {α : Type} (a : α) : Record α := ⟨[], fun _ => .ok a⟩

/-- A record that takes one more field, after those before. -/
def seq {α β : Type} (f : Record (α → β)) (a : Unit → Record α) : Record β :=
  ⟨f.fields ++ (a ()).fields, fun slots => do
    let g ← f.build slots
    let value ← (a ()).build slots
    return g value⟩

instance : Pure Record := ⟨pure⟩
instance : Seq Record := ⟨seq⟩
instance : Functor Record := ⟨fun f r => ⟨r.fields, fun slots => (r.build slots).map f⟩,
  fun a r => ⟨r.fields, fun slots => (r.build slots).map fun _ => a⟩⟩

def required {α : Type} (key : String) (decoder : Decoder α) : Record α :=
  ⟨[⟨key, true, fun draft => (decoder draft).map fun _ => ()⟩], fun slots =>
    match slots.find? key with
    | some draft => decoder draft
    | none => .error (.missingField key)⟩

def optional {α : Type} (key : String) (decoder : Decoder α) (fallback : α) : Record α :=
  ⟨[⟨key, false, fun draft => (decoder draft).map fun _ => ()⟩], fun slots =>
    match slots.find? key with
    | some draft => decoder draft
    | none => .ok fallback⟩

/-- The decoder of a record that goes by a name in messages. -/
def decoder {α : Type} (name : String) (record : Record α) : Decoder α := fun draft => do
  let slots ← gather name record.fields draft
  record.build slots

end Record

/-- Decodes a document held in memory. -/
def decode {α : Type} (decoder : Decoder α) (value : Json) : Except DecodeError α :=
  decoder (value.toDraft .counted)

def decodeText {α : Type} (decoder : Decoder α) (text : String) : Except DecodeError α := do
  let sheet := Sheet.ofText text
  let value ← decoder sheet.draft
  if sheet.hasMore then .error (.fault .malformed) else return value

end NamespaceLifecycle.Json
