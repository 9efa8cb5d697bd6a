import NamespaceLifecycle.Text.Basic

/-!
# Numeric host addresses

Addresses of four bytes and of eight groups of two bytes. An address of four bytes may be written
with fewer parts than four, the last part filling the rest, and each part in base ten, eight or
sixteen. An address of eight groups may leave out one run of zero groups, written as two colons,
and may end with an address of four bytes. The text of either is canonical: decimal bytes with
points, and lower-case groups with the first of the longest runs of zeros left out.
-/

namespace NamespaceLifecycle.Url

open Text

def numberIn? (base : Nat) (chars : List Char) : Option Nat :=
  (chars.mapM fun c => (hexDigit? c).filter (· < base)).map (ofDigits base)

/-- A part of an address of four bytes: base sixteen after `0x`, base eight after another zero. -/
def ipv4Part? (part : List Char) : Option Nat :=
  match part with
  | [] => none
  | '0' :: 'x' :: digits => numberIn? 16 digits
  | '0' :: 'X' :: digits => numberIn? 16 digits
  | '0' :: digit :: digits => numberIn? 8 (digit :: digits)
  | digits => numberIn? 10 digits

/-- The parts of a text between its points, without an empty one at the end. -/
def dottedParts (chars : List Char) : List (List Char) :=
  let parts := splitAt '.' chars
  if parts.getLast? = some [] ∧ 1 < parts.length then parts.dropLast else parts

/-- A host whose last part is a number is meant as an address. -/
def endsInNumber (chars : List Char) : Bool :=
  match (dottedParts chars).getLast? with
  | none => false
  | some last =>
    (!last.isEmpty && last.all fun c => (decimalDigit? c).isSome) || (ipv4Part? last).isSome

/-- Parts put together: each but the last is a byte, the last fills the bytes that remain. -/
def ipv4OfParts? : Nat → List Nat → Option Nat
  | _, [] => none
  | remaining, [last] => if last < Nat.pow 256 remaining then some last else none
  | remaining, part :: parts =>
    if part < 256 ∧ 1 < remaining then
      (ipv4OfParts? (remaining - 1) parts).map (part * Nat.pow 256 (remaining - 1) + ·)
    else none

def ipv4? (chars : List Char) : Option UInt32 := do
  let parts ← (dottedParts chars).mapM ipv4Part?
  let n ← ipv4OfParts? 4 parts
  return UInt32.ofNat n

def ipv4Text (address : UInt32) : String :=
  let n := address.toNat
  toString (n / 16777216) ++ "." ++ toString (n / 65536 % 256) ++ "." ++
    toString (n / 256 % 256) ++ "." ++ toString (n % 256)

structure Ipv6 where
  groups : List UInt16
  length_eq : groups.length = 8
  deriving DecidableEq, Repr

def group? (chars : List Char) : Option UInt16 :=
  if chars.isEmpty ∨ 4 < chars.length then none else (numberIn? 16 chars).map UInt16.ofNat

def strictByte? (chars : List Char) : Option Nat :=
  if chars.isEmpty ∨ (chars.head? = some '0' ∧ 1 < chars.length) then none
  else (numberIn? 10 chars).filter (· < 256)

/-- The two groups of four bytes with points. -/
def ipv4Groups? (chars : List Char) : Option (List UInt16) :=
  match (splitAt '.' chars).mapM strictByte? with
  | some [a, b, c, d] => some [UInt16.ofNat (a * 256 + b), UInt16.ofNat (c * 256 + d)]
  | _ => none

/-- Groups between colons; the last may be an address of four bytes when `dotted` allows it. -/
def groups? (dotted : Bool) : List (List Char) → Option (List UInt16)
  | [] => some []
  | [last] => if dotted && last.contains '.' then ipv4Groups? last else (group? last).map ([·])
  | part :: parts => do
    let group ← group? part
    let rest ← groups? dotted parts
    return group :: rest

/-- The groups of one side of the two colons, none when that side is empty. -/
def side? (dotted : Bool) (chars : List Char) : Option (List UInt16) :=
  if chars.isEmpty then some [] else groups? dotted (splitAt ':' chars)

/-- What stands before and after the first two colons in a row. -/
def splitAtColons : List Char → Option (List Char × List Char)
  | ':' :: ':' :: rest => some ([], rest)
  | c :: rest => (splitAtColons rest).map fun (before, after) => (c :: before, after)
  | [] => none

def ipv6? (chars : List Char) : Option Ipv6 :=
  match splitAtColons chars with
  | none => do
    let groups ← groups? true (splitAt ':' chars)
    if h : groups.length = 8 then some ⟨groups, h⟩ else none
  | some (before, after) => do
    let left ← side? false before
    let right ← side? true after
    if h : left.length + right.length < 8 then
      some ⟨left ++ List.replicate (8 - (left.length + right.length)) 0 ++ right, by
        simp only [List.length_append, List.length_replicate]; omega⟩
    else none

/-- How many zero groups stand in a row at the start. -/
def zeroRun (groups : List UInt16) : Nat := (groups.takeWhile (· == 0)).length

/-- The place and length of the longest run of zeros, the first of several, starting at `index`. -/
def longestZeroRun (index : Nat) : List UInt16 → Nat × Nat
  | [] => (index, 0)
  | group :: rest =>
    let here := zeroRun (group :: rest)
    let later := longestZeroRun (index + 1) rest
    if later.2 ≤ here then (index, here) else later

def groupsText (groups : List UInt16) : String :=
  String.intercalate ":" (groups.map fun group => lowerHex group.toNat)

/-- The groups in lower case; a run of two or more zeros gives way to two colons. -/
def Ipv6.text (address : Ipv6) : String :=
  match longestZeroRun 0 address.groups with
  | (start, length) =>
    if length < 2 then groupsText address.groups
    else
      groupsText (address.groups.take start) ++ "::" ++
        groupsText (address.groups.drop (start + length))

end NamespaceLifecycle.Url
