import NamespaceLifecycle.Decimal.Shortest

/-!
# Documents

The values that bodies, state files and settings are made of. Numbers keep the kind in which they
were written: whole numbers from zero up to 64 bits, negative whole numbers of 64 bits, and binary
fractions for all the rest, given by their bits so that equality is decidable. The members of an
object keep their order; the canonical order, in which a document held in memory is walked, is
that of the keys.
-/

namespace NamespaceLifecycle

inductive Number where
  | whole (n : Nat)
  | negative (n : Int)
  | fraction (bits : UInt64)
  deriving DecidableEq, Repr, Inhabited

inductive Json where
  | null
  | bool (value : Bool)
  | number (value : Number)
  | text (value : String)
  | array (items : List Json)
  | object (members : List (String × Json))
  deriving Repr, Inhabited

/-- Fractions are written in full from five places after the point to sixteen before it. -/
def Number.format : Decimal.Format := ⟨-5, 15⟩

/-- The text of a number. What is not finite has none and is written as null. -/
def Number.toText : Number → String
  | whole n => toString n
  | negative n => toString n
  | fraction bits =>
    match Decimal.Binary.ofBits? bits with
    | some parts => Decimal.render format parts
    | none => "null"

def Number.ofInt (n : Int) : Number :=
  if 0 ≤ n then .whole n.toNat else .negative n

namespace Json

def int (n : Int) : Json := .number (.ofInt n)

def nat (n : Nat) : Json := .number (.whole n)

/-- Puts a member at its place among members in the order of their keys; a member of the same key
gives way. -/
def insertMember (key : String) (value : Json) : List (String × Json) → List (String × Json)
  | [] => [(key, value)]
  | (otherKey, other) :: rest =>
    if key < otherKey then (key, value) :: (otherKey, other) :: rest
    else if key = otherKey then (key, value) :: rest
    else (otherKey, other) :: insertMember key value rest

/-- Members in the order of their keys; of members with one key the last stays. -/
def sortMembers (members : List (String × Json)) : List (String × Json) :=
  members.foldl (fun sorted member => insertMember member.1 member.2 sorted) []

/-- The first member of a key in an object. -/
def member? (key : String) : Json → Option Json
  | object members => (members.find? fun member => member.1 = key).map Prod.snd
  | _ => none

end Json

end NamespaceLifecycle
