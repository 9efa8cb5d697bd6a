import NamespaceLifecycle.Text.Basic
import NamespaceLifecycle.Text.Utf8
import NamespaceLifecycle.Yaml.Cursor

/-!
# Tags

A tag names the type of a node. It is written whole between angle brackets, or as a handle, which
stands for the beginning of the name, and the rest of it. Names are bytes: an escape gives the
octets of a character, which need not be one of the character standard, and a byte of zero ends the
part of a name in which it stands.
-/

namespace NamespaceLifecycle.Yaml

abbrev Tag := List UInt8

namespace Tag

def ofText (text : String) : Tag := Text.Utf8.bytes text

def nonSpecific : Tag := ofText "!"

def typeTag (name : String) : Tag := ofText ("tag:yaml.org,2002:" ++ name)

abbrev Handles := List (String × Tag)

def usualHandles : Handles := [("!", nonSpecific), ("!!", typeTag "")]

/-- A tag as it is written: the handle for its beginning, none when it is whole, and the rest. -/
structure Written where
  handle : Option String
  rest : Tag
  deriving DecidableEq, Repr

/-- The tag that is meant, none when its handle is not known. -/
def Written.resolve (handles : Handles) (written : Written) : Option Tag :=
  match written.handle with
  | none => some written.rest
  | some handle =>
    (handles.find? fun h => h.1 = handle).map fun h => h.2 ++ written.rest

/-- Characters of a tag; three more may stand where it cannot be confused with brackets. -/
def isTagChar (whole : Bool) (c : Char) : Bool :=
  isNameChar c || ";/?:@&=+$.%!~*'()".toList.contains c || (whole && ",[]".toList.contains c)

/-- How many octets follow the first one of a character. -/
def furtherOctets? (octet : UInt8) : Option Nat :=
  let n := octet.toNat
  if n < 0x80 then some 0
  else if 0xc0 ≤ n ∧ n < 0xe0 then some 1
  else if 0xe0 ≤ n ∧ n < 0xf0 then some 2
  else if 0xf0 ≤ n ∧ n < 0xf8 then some 3
  else none

/-- How many octets still follow one of which `further` were expected with it. -/
def octetsAfter? (further : Nat) (octet : UInt8) : Option Nat :=
  match further with
  | 0 => furtherOctets? octet
  | further + 1 => if Text.Utf8.isContinuation octet then some further else none

/-- The bytes that characters of a tag stand for. `further` octets of a character that was begun
by an escape are still to come. -/
def bytes? (further : Nat) : List Char → Option (List UInt8)
  | [] => if further = 0 then some [] else none
  | '%' :: high :: low :: rest => do
    let octet := UInt8.ofNat (Text.ofDigits 16 [← Text.hexDigit? high, ← Text.hexDigit? low])
    let further ← octetsAfter? further octet
    let bytes ← bytes? further rest
    return octet :: bytes
  | c :: rest => do
    if further ≠ 0 ∨ c = '%' then none
    let bytes ← bytes? 0 rest
    return String.utf8EncodeChar c ++ bytes

def part? (chars : List Char) : Option Tag :=
  (bytes? 0 chars).map fun bytes => bytes.takeWhile (· ≠ 0)

/-- A part of a name that has at least one character, and the place after it. -/
def scanPart (whole : Bool) (c : Cursor) : Option (Tag × Cursor) := do
  let chars := c.rest.takeWhile (isTagChar whole)
  if chars.isEmpty then none
  let part ← part? chars
  return (part, c.skip chars.length)

def scanHandle (c : Cursor) : Option (String × Cursor) :=
  let name := c.next.rest.takeWhile isNameChar
  let after := c.skip (name.length + 1)
  if c.head? == some '!' && after.head? == some '!' then
    some (String.ofList ('!' :: name ++ ['!']), after.next)
  else none

/-- A tag at its first sign, and the place after it. With no handle between two signs the first
sign is one, and alone it is the tag without a name. -/
def scan (c : Cursor) : Option (Written × Cursor) :=
  if c.hasAt 1 '<' then do
    let (tag, after) ← scanPart true (c.skip 2)
    if after.head? != some '>' then none
    return (⟨none, tag⟩, after.next)
  else
    match scanHandle c with
    | some (handle, after) => do
      let (rest, after) ← scanPart false after
      return (⟨some handle, rest⟩, after)
    | none => do
      let chars := c.next.rest.takeWhile (isTagChar false)
      let rest ← part? chars
      let written := if rest.isEmpty then ⟨none, nonSpecific⟩ else ⟨some "!", rest⟩
      return (written, c.skip (chars.length + 1))

end Tag

end NamespaceLifecycle.Yaml
