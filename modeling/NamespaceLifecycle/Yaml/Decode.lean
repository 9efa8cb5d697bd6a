import NamespaceLifecycle.Yaml.Node

/-!
# Decoding

A decoder takes a value of some type from a node. What a scalar means depends on what is wanted: a
text takes every scalar as it stands, a number or a truth value only a plain one of its form, or a
literal block that is tagged so. Fields that are not known are passed over, and a known one must
not be repeated. Names are followed where a value is taken, and no further, so that the parts that
are passed over may name themselves. How often names are followed is bounded by the size of the
document.
-/

namespace NamespaceLifecycle.Yaml

/-- What the numbers of names stand for, the latest first. -/
abbrev Targets := List (Nat × Node)

namespace Node

mutual

/-- The number of events of a node: one for a scalar or a name in its place, two for the ends of
anything else. -/
def events : Node → Nat
  | scalar _ _ _ => 1
  | reference _ => 1
  | named _ node => node.events
  | sequence items => itemEvents items + 2
  | mapping pairs => pairEvents pairs + 2

def itemEvents : List Node → Nat
  | [] => 0
  | item :: rest => item.events + itemEvents rest

def pairEvents : List (Node × Node) → Nat
  | [] => 0
  | (key, value) :: rest => key.events + value.events + pairEvents rest

end

mutual

/-- The targets after those of a node, in the order in which their nodes begin. -/
def targets (before : Targets) : Node → Targets
  | scalar _ _ _ => before
  | reference _ => before
  | named number node => targets ((number, node) :: before) node
  | sequence items => itemTargets before items
  | mapping pairs => pairTargets before pairs

def itemTargets (before : Targets) : List Node → Targets
  | [] => before
  | item :: rest => itemTargets (targets before item) rest

def pairTargets (before : Targets) : List (Node × Node) → Targets
  | [] => before
  | (key, value) :: rest => pairTargets (targets (targets before key) value) rest

end

/-- The text of a scalar that may be read as another type: a plain one, or a literal block that is
tagged so. -/
def typedText? (type : String) : Node → Option String
  | scalar .plain _ value => some value
  | scalar .literal tag value => if tag = some (Tag.typeTag type) then some value else none
  | _ => none

def text? : Node → Option String
  | scalar _ _ value => some value
  | _ => none

def bool? (node : Node) : Option Bool := do
  let value ← node.typedText? "bool"
  if ["true", "True", "TRUE"].contains value then some true
  else if ["false", "False", "FALSE"].contains value then some false
  else none

/-- A numeral in a base, after its mark; no sign may stand there. -/
def numeral? (base : Nat) (digits : List Char) : Option Nat :=
  if digits.isEmpty then none
  else (digits.mapM fun c => (Text.hexDigit? c).filter (· < base)).map (Text.ofDigits base)

/-- A numeral without sign: base sixteen, eight or two after a mark, else base ten without needless
zeros. -/
def magnitude? (chars : List Char) : Option Nat :=
  match chars with
  | '0' :: 'x' :: digits => numeral? 16 digits
  | '0' :: 'o' :: digits => numeral? 8 digits
  | '0' :: 'b' :: digits => numeral? 2 digits
  | '0' :: _ :: _ => none
  | digits => numeral? 10 digits

def int64? (node : Node) : Option Int64 := do
  let value ← node.typedText? "int"
  let (negative, chars) :=
    match value.toList with
    | '-' :: rest => (true, rest)
    | '+' :: rest => (false, rest)
    | chars => (false, chars)
  let n ← magnitude? chars
  if negative then if n ≤ UInt64.size / 2 then some (Int64.ofInt (-(Int.ofNat n))) else none
  else if n < UInt64.size / 2 then some (Int64.ofNat n)
  else none

/-- Whether a node was left out: an empty plain scalar. -/
def isLeftOut : Node → Bool
  | scalar .plain _ "" => true
  | _ => false

def isNull (value : String) : Bool := ["null", "Null", "NULL", "~"].contains value

def optionalText? : Node → Option (Option String)
  | scalar .plain none value => some (if value = "" || isNull value then none else some value)
  | scalar .plain (some tag) value =>
    if tag = Tag.typeTag "null" then if isNull value then some none else none
    else some (some value)
  | node => node.text?.map some

end Node

/-- Takes a value of a type from a node. It knows what names stand for, and the number that it
counts down is how often a name may still be followed. -/
abbrev Decoder (α : Type) := Node → ReaderT Targets (StateT Nat Option) α

namespace Decoder

/-- The node itself: its name is dropped, and a name in place of it is followed. -/
def node : Decoder Node
  | .named _ node => pure node
  | .reference number => fun targets left =>
    match left with
    | 0 => none
    | left + 1 => (targets.find? fun t => t.1 = number).map fun t => (t.2, left)
  | node => pure node

def leaf {α : Type} (value? : Node → Option α) : Decoder α := fun place => do
  let node ← node place
  value? node

def text : Decoder String := leaf Node.text?

def optionalText : Decoder (Option String) := leaf Node.optionalText?

def bool : Decoder Bool := leaf Node.bool?

def int64 : Decoder Int64 := leaf Node.int64?

def list {α : Type} (decoder : Decoder α) : Decoder (List α) := fun place => do
  match ← node place with
  | .sequence items => items.mapM decoder
  | node => if node.isLeftOut then return [] else failure

abbrev Fields := List (String × Node)

def Fields.find? (fields : Fields) (key : String) : Option Node :=
  (List.find? (fun field => field.1 = key) fields).map Prod.snd

/-- The known fields of pairs; every key is a text, and no known one is repeated. -/
def knownFields (known : List String) :
    List (Node × Node) → ReaderT Targets (StateT Nat Option) Fields
  | [] => return []
  | (key, value) :: rest => do
    let key ← text key
    let fields ← knownFields known rest
    if !known.contains key then return fields
    else if (fields.find? key).isSome then failure
    else return (key, value) :: fields

/-- The known fields of a mapping. -/
def fields (known : List String) : Decoder Fields := fun place => do
  match ← node place with
  | .mapping pairs => knownFields known pairs
  | node => if node.isLeftOut then return [] else failure

def required {α : Type} (fields : Fields) (key : String) (decoder : Decoder α) :
    ReaderT Targets (StateT Nat Option) α := do
  let node ← fields.find? key
  decoder node

/-- The value of a field, or another one when it is missing. -/
def optional {α : Type} (fields : Fields) (key : String) (fallback : α) (decoder : Decoder α) :
    ReaderT Targets (StateT Nat Option) α :=
  match fields.find? key with
  | some node => decoder node
  | none => return fallback

end Decoder

/-- Decodes a document. Names may be followed a hundred times for each event. -/
def decode {α : Type} (decoder : Decoder α) (root : Node) : Option α :=
  ((decoder root).run (root.targets [])).run' (100 * root.events)

def decodeText {α : Type} (decoder : Decoder α) (text : String) : Option α :=
  (Node.ofText? text).bind (decode decoder)

end NamespaceLifecycle.Yaml
