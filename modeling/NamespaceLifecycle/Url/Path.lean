import NamespaceLifecycle.Text.Basic
import NamespaceLifecycle.Text.Percent

/-!
# Paths of addresses

A path is a list of segments, each written with a slash before it. While a path is read, a segment
that is one point goes away, one that is two points takes the segment before it along, and every
other one is escaped. A point may be written by its own escape. A letter with a colon or a bar is a
drive, and two points never take a drive along.
-/

namespace NamespaceLifecycle.Url

open Text

/-- The path of an address: segments after the authority, or a text without a slash at its start
that stands right after the scheme. -/
inductive Path where
  | rooted (segments : List String)
  | rootless (text : String)
  deriving DecidableEq, Repr

def Path.text : Path → String
  | rooted segments => String.join (segments.map ("/" ++ ·))
  | rootless text => text

def isPathChar (c : Char) : Bool :=
  decide (0x20 < c.toNat ∧ c.toNat < 0x7f) && !"\"#<>?`\x7b\x7d".toList.contains c

/-- Characters that may stand in the query, for a scheme of the web or another one. -/
def isQueryChar (web : Bool) (c : Char) : Bool :=
  decide (0x20 < c.toNat ∧ c.toNat < 0x7f) && !"\"#<>".toList.contains c && !(web && c == '\'')

def isFragmentChar (c : Char) : Bool :=
  decide (0x20 < c.toNat ∧ c.toNat < 0x7f) && !"\"<>`".toList.contains c

/-- The points that a segment is made of, an escape of the point counting as one; none when it
holds anything else. -/
def points? : List Char → Option Nat
  | [] => some 0
  | '.' :: rest => (points? rest).map (· + 1)
  | '%' :: '2' :: 'e' :: rest => (points? rest).map (· + 1)
  | '%' :: '2' :: 'E' :: rest => (points? rest).map (· + 1)
  | _ => none

def isSingleDot (segment : List Char) : Bool := points? segment == some 1

def isDoubleDot (segment : List Char) : Bool := points? segment == some 2

def isDrive (segment : List Char) : Bool :=
  match segment with
  | [letter, mark] => letter.isAlpha && (mark == ':' || mark == '|')
  | _ => false

/-- The segments without the last one, which stays when it is a drive. -/
def above (segments : List String) : List String :=
  match segments.getLast? with
  | some last => if isDrive last.toList then segments else segments.dropLast
  | none => []

def escapeSegment (segment : List Char) : String :=
  String.ofList (Percent.encodeChars isPathChar segment)

/-- The segments after one more that others follow. -/
def enter (segments : List String) (segment : List Char) : List String :=
  if isDoubleDot segment then above segments
  else if isSingleDot segment then segments
  else segments ++ [escapeSegment segment]

def finish (segments : List String) (segment : List Char) : List String :=
  if isDoubleDot segment then above segments ++ [""]
  else if isSingleDot segment then segments ++ [""]
  else segments ++ [escapeSegment segment]

def walk (segments : List String) : List (List Char) → List String
  | [] => segments
  | [last] => finish segments last
  | segment :: next :: rest => walk (enter segments segment) (next :: rest)

/-- Whether a drive comes first at some moment, and the raw segments with that drive's mark a
colon. Files alone have drives there. -/
def findDrive (segments : List String) : List (List Char) → Bool × List (List Char)
  | [] => (false, [])
  | segment :: rest =>
    if segments.isEmpty && isDrive segment then (true, (segment.take 1 ++ [':']) :: rest)
    else
      let (found, others) := findDrive (enter segments segment) rest
      (found, segment :: others)

/-- Segments without the empty ones at the start, the last segment apart. -/
def withoutLeadingEmpty : List String → List String
  | "" :: next :: rest => withoutLeadingEmpty (next :: rest)
  | segments => segments

end NamespaceLifecycle.Url
