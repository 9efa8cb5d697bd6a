import NamespaceLifecycle.Yaml.Tag

/-!
# Directives

A line before a document that begins with a percent sign and tells how the document is to be read:
in which version of the format it is written, or for which beginning of tags a handle stands. There
are no others. A version is known when its first number is one and its second one or two.
-/

namespace NamespaceLifecycle.Yaml

inductive Directive where
  | version (major minor : Nat)
  | meaning (handle : String) (beginning : Tag)
  deriving DecidableEq, Repr

namespace Directive

def scanNumber (c : Cursor) : Option (Nat × Cursor) := do
  let chars := c.rest.takeWhile Char.isDigit
  if chars.isEmpty ∨ 9 < chars.length then none
  let digits ← chars.mapM Text.decimalDigit?
  return (Text.ofDigits 10 digits, c.skip chars.length)

def scanVersion (c : Cursor) : Option (Directive × Cursor) := do
  let (major, c) ← scanNumber c
  if c.head? != some '.' then none
  let (minor, c) ← scanNumber c.next
  return (.version major minor, c)

/-- A handle, here also the lone sign, and after blanks the beginning that it stands for. -/
def scanMeaning (c : Cursor) : Option (Directive × Cursor) := do
  let (handle, c) ←
    match Tag.scanHandle c with
    | some scanned => some scanned
    | none => if c.head? == some '!' then some ("!", c.next) else none
  if !c.head?.any isBlankChar then none
  let (beginning, c) ← Tag.scanPart true (c.skipWhile isBlankChar)
  if c.gapAt 0 then return (.meaning handle beginning, c) else none

/-- The start of the next line, when nothing but a comment is left of this one. -/
def lineEnd (c : Cursor) : Option Cursor :=
  let c := c.skipWhile isBlankChar
  let c := if c.head? == some '#' then c.skipWhile fun d => !isBreak d else c
  if c.head?.all isBreak then some c.next else none

/-- The directive of a line at its percent sign, and the start of the next line. -/
def scan (c : Cursor) : Option (Directive × Cursor) := do
  let name := c.next.rest.takeWhile isNameChar
  let c := c.skip (name.length + 1)
  if !c.gapAt 0 then none
  let c := c.skipWhile isBlankChar
  let (directive, c) ←
    if name = "YAML".toList then scanVersion c
    else if name = "TAG".toList then scanMeaning c
    else none
  let next ← lineEnd c
  return (directive, next)

end Directive

structure Directives where
  hasVersion : Bool
  handles : Tag.Handles

namespace Directives

def empty : Directives := ⟨false, []⟩

def isEmpty (d : Directives) : Bool := !d.hasVersion && d.handles.isEmpty

/-- One more directive. The version is told at most once and must be known; every handle is told
at most once. -/
def add (d : Directives) : Directive → Option Directives
  | .version major minor =>
    if !d.hasVersion ∧ major = 1 ∧ (minor = 1 ∨ minor = 2) then some { d with hasVersion := true }
    else none
  | .meaning handle beginning =>
    if d.handles.any fun h => h.1 = handle then none
    else some { d with handles := (handle, beginning) :: d.handles }

/-- The handles of the document; those that were told come before the usual ones. -/
def allHandles (d : Directives) : Tag.Handles := d.handles ++ Tag.usualHandles

end Directives

end NamespaceLifecycle.Yaml
