import NamespaceLifecycle.Yaml.Directive
import NamespaceLifecycle.Yaml.Scalar

/-!
# Tokens

A text as a row of marks and scalars. How far in a line stands is turned into marks that open and
close blocks. That something was a key shows only at the colon after it, so a place where a key may
start is kept in mind, and the mark for the key is put there later. A key of this kind stands on
one line and takes at most 1024 bytes.
-/

namespace NamespaceLifecycle.Yaml

inductive Token where
  | directive (directive : Directive)
  | documentStart
  | documentEnd
  | blockSequenceStart
  | blockMappingStart
  | blockEnd
  | flowSequenceStart
  | flowSequenceEnd
  | flowMappingStart
  | flowMappingEnd
  | entry
  | flowEntry
  | key
  | value
  | alias (name : String)
  | anchor (name : String)
  | tag (tag : Tag.Written)
  | scalar (style : ScalarStyle) (value : String)
  deriving DecidableEq, Repr

/-- A place where a key may start. -/
structure PossibleKey where
  /-- Whether nothing but a key can start there. -/
  isRequired : Bool
  /-- The number of tokens before. -/
  tokens : Nat
  line : Nat
  column : Nat
  index : Nat
  deriving Repr

/-- How far a reader has come. -/
structure Scan where
  cursor : Cursor
  tokens : Array Token
  /-- The column of the innermost block, none at the top. -/
  indent : Option Nat
  /-- The columns of the blocks around it. -/
  indents : List (Option Nat)
  /-- Whether a key may start here. -/
  keyAllowed : Bool
  /-- The place of a possible key outside all brackets. -/
  possible : Option PossibleKey
  /-- The same for the brackets around here, the innermost first. -/
  flows : List (Option PossibleKey)

namespace Scan

def start (chars : List Char) : Scan := ⟨.start chars, #[], none, [], true, none, []⟩

def inFlow (s : Scan) : Bool := !s.flows.isEmpty

def current (s : Scan) : Option PossibleKey :=
  match s.flows with
  | [] => s.possible
  | innermost :: _ => innermost

def setCurrent (s : Scan) (key : Option PossibleKey) : Scan :=
  match s.flows with
  | [] => { s with possible := key }
  | _ :: rest => { s with flows := key :: rest }

def emit (s : Scan) (token : Token) : Scan := { s with tokens := s.tokens.push token }

/-- One more token before those after the first `place`. -/
def emitAt (s : Scan) (place : Nat) (token : Token) : Scan :=
  { s with tokens := s.tokens.extract 0 place ++ #[token] ++ s.tokens.extract place s.tokens.size }

def moveTo (s : Scan) (cursor : Cursor) : Scan := { s with cursor := cursor }

/-- Gives up the possible key; a required one cannot be given up. -/
def dropKey (s : Scan) : Option Scan :=
  match s.current with
  | some key => if key.isRequired then none else some (s.setCurrent none)
  | none => some s

/-- Keeps in mind that a key may start here. -/
def saveKey (s : Scan) : Option Scan :=
  if s.keyAllowed then do
    let t ← s.dropKey
    return t.setCurrent (some
      ⟨!s.inFlow && s.indent == some s.cursor.column, s.tokens.size, s.cursor.line,
        s.cursor.column, s.cursor.index⟩)
  else some s

/-- A key that has become too long or has left its line. -/
def isStale (cursor : Cursor) (key : PossibleKey) : Bool :=
  decide (key.line < cursor.line) || decide (key.index + 1024 < cursor.index)

/-- Gives up a key that has become stale; a required one cannot be given up. -/
def fresh (cursor : Cursor) (key : Option PossibleKey) : Option (Option PossibleKey) :=
  match key with
  | some key =>
    if isStale cursor key then if key.isRequired then none else some none else some (some key)
  | none => some none

def dropStale (s : Scan) : Option Scan := do
  let possible ← fresh s.cursor s.possible
  let flows ← s.flows.mapM (fresh s.cursor)
  return { s with possible := possible, flows := flows }

def isInside (s : Scan) (column : Nat) : Bool :=
  match s.indent with
  | none => true
  | some indent => decide (indent < column)

/-- Opens a block at a column that lies further in; the mark goes before the tokens after the
first `place`. -/
def openBlock (s : Scan) (column place : Nat) (token : Token) : Scan :=
  if !s.inFlow && s.isInside column then
    { s.emitAt place token with indent := some column, indents := s.indent :: s.indents }
  else s

/-- Closes the blocks that lie further in than a column, all of them when there is none. -/
def closeBlocks (column : Option Nat) (s : Scan) (fuel : Nat) : Scan :=
  match fuel, s.indent, s.indents with
  | fuel + 1, some indent, outer :: rest =>
    if column.all fun column => decide (column < indent) then
      closeBlocks column { s.emit .blockEnd with indent := outer, indents := rest } fuel
    else s
  | _, _, _ => s

/-- Closes the blocks that lie further in than a column. Brackets keep every block open. -/
def close (s : Scan) (column : Option Nat) : Scan :=
  if s.inFlow then s else closeBlocks column s (s.indents.length + 1)

def skipGap (fuel : Nat) (s : Scan) : Scan :=
  match fuel with
  | 0 => s
  | fuel + 1 =>
    let isSpace (c : Char) := c == ' ' || ((s.inFlow || !s.keyAllowed) && c == '\t')
    let c := if s.cursor.column == 0 && s.cursor.head? == some '\ufeff' then s.cursor.next
      else s.cursor
    let c := c.skipWhile isSpace
    let c := if c.head? == some '#' then c.skipWhile fun d => !isBreak d else c
    if c.head?.any isBreak then
      skipGap fuel { s.moveTo c.next with keyAllowed := s.keyAllowed || !s.inFlow }
    else s.moveTo c

/-- A line before a document. No key may start on the line after it. -/
def directive (s : Scan) : Option Scan := do
  let t ← (s.close none).dropKey
  let (directive, next) ← Directive.scan s.cursor
  return { (t.emit (.directive directive)).moveTo next with keyAllowed := false }

def documentMark (s : Scan) (token : Token) : Option Scan := do
  let t ← (s.close none).dropKey
  return { (t.emit token).moveTo (s.cursor.skip 3) with keyAllowed := false }

def flowStart (s : Scan) (token : Token) : Option Scan := do
  let t ← s.saveKey
  return { (t.emit token).moveTo s.cursor.next with flows := none :: t.flows, keyAllowed := true }

def flowEnd (s : Scan) (token : Token) : Option Scan := do
  let t ← s.dropKey
  return { (t.emit token).moveTo s.cursor.next with
    flows := t.flows.drop 1, keyAllowed := false }

def flowEntry (s : Scan) : Option Scan := do
  let t ← s.dropKey
  return { (t.emit .flowEntry).moveTo s.cursor.next with keyAllowed := true }

/-- A mark that may open a block: an entry of a sequence, or a key that is marked as one. -/
def blockMark (s : Scan) (opening token : Token) (keyAllowed : Bool) : Option Scan :=
  if !s.inFlow && !s.keyAllowed then none
  else do
    let t ← (s.openBlock s.cursor.column s.tokens.size opening).dropKey
    return { (t.emit token).moveTo s.cursor.next with keyAllowed := keyAllowed }

/-- The mark of a value. What stood at the place of the possible key was the key. -/
def valueMark (s : Scan) : Option Scan :=
  match s.current with
  | some key =>
    let t := (s.emitAt key.tokens .key).openBlock key.column key.tokens .blockMappingStart
    some { ((t.setCurrent none).emit .value).moveTo s.cursor.next with keyAllowed := false }
  | none =>
    if !s.inFlow && !s.keyAllowed then none
    else
      let t := s.openBlock s.cursor.column s.tokens.size .blockMappingStart
      some { (t.emit .value).moveTo s.cursor.next with keyAllowed := !s.inFlow }

def nodeName (s : Scan) (token : String → Token) : Option Scan := do
  let t ← s.saveKey
  let name := s.cursor.next.rest.takeWhile isNameChar
  let after := s.cursor.next.skip name.length
  if name.isEmpty || !(after.gapAt 0 || after.head?.any ("?:,]\x7d%@`".toList.contains ·)) then none
  else
    return { (t.emit (token (String.ofList name))).moveTo after with keyAllowed := false }

/-- A tag. Between brackets a comma may stand right after it. -/
def tagMark (s : Scan) : Option Scan := do
  let t ← s.saveKey
  let (tag, after) ← Tag.scan s.cursor
  if after.gapAt 0 || (s.inFlow && after.head? == some ',') then
    return { (t.emit (.tag tag)).moveTo after with keyAllowed := false }
  else none

def blockScalar (s : Scan) (style : ScalarStyle) : Option Scan := do
  let t ← s.dropKey
  let scanned ← scanBlock (style == .folded) s.indent s.cursor.next
  return { (t.emit (.scalar style scanned.value)).moveTo scanned.next with keyAllowed := true }

def quotedScalar (s : Scan) (style : ScalarStyle) : Option Scan := do
  let t ← s.saveKey
  let scanned ← scanQuoted (style == .singleQuoted) (s.cursor.rest.length + 1) [] s.cursor.next
  return { (t.emit (.scalar style scanned.value)).moveTo scanned.next with keyAllowed := false }

/-- A plain scalar. A line break after it lets a key start. -/
def plainScalar (s : Scan) : Option Scan := do
  let t ← s.saveKey
  let indent := (s.indent.map (· + 1)).getD 0
  let scanned ← scanPlain indent s.inFlow false .none s.cursor
  return { (t.emit (.scalar .plain scanned.value)).moveTo scanned.next with
    keyAllowed := scanned.brokeLine }

def isIndicator (c : Char) : Bool := "-?:,[]\x7b\x7d#&*!|>'\"%@`".toList.contains c

def startsPlain (s : Scan) (c : Char) : Bool :=
  !(isIndicator c || isGap c) || (c == '-' && !s.cursor.rest[1]?.any isBlankChar) ||
    (!s.inFlow && (c == '?' || c == ':') && !s.cursor.gapAt 1)

def token (s : Scan) (c : Char) : Option Scan :=
  let gapNext := s.cursor.gapAt 1
  if s.cursor.column == 0 && c == '%' then s.directive
  else if s.cursor.atMark '-' then s.documentMark .documentStart
  else if s.cursor.atMark '.' then s.documentMark .documentEnd
  else if c == '[' then s.flowStart .flowSequenceStart
  else if c == '\x7b' then s.flowStart .flowMappingStart
  else if c == ']' then s.flowEnd .flowSequenceEnd
  else if c == '\x7d' then s.flowEnd .flowMappingEnd
  else if c == ',' then s.flowEntry
  else if c == '-' && gapNext then s.blockMark .blockSequenceStart .entry true
  else if c == '?' && (s.inFlow || gapNext) then s.blockMark .blockMappingStart .key !s.inFlow
  else if c == ':' && (s.inFlow || gapNext) then s.valueMark
  else if c == '*' then s.nodeName .alias
  else if c == '&' then s.nodeName .anchor
  else if c == '!' then s.tagMark
  else if c == '|' && !s.inFlow then s.blockScalar .literal
  else if c == '>' && !s.inFlow then s.blockScalar .folded
  else if c == '\'' then s.quotedScalar .singleQuoted
  else if c == '"' then s.quotedScalar .doubleQuoted
  else if s.startsPlain c then s.plainScalar
  else none

/-- All tokens. A required key without its colon is the last fault to be found. -/
def all (fuel : Nat) (s : Scan) : Option (List Token) :=
  match fuel with
  | 0 => none
  | fuel + 1 => do
    let s ← (s.skipGap (s.cursor.rest.length + 1)).dropStale
    match s.cursor.head? with
    | some c =>
      let s ← (s.close (some s.cursor.column)).token c
      all fuel s
    | none =>
      let s ← (s.close none).dropKey
      return s.tokens.toList

end Scan

/-- The tokens of a text. Every token takes at least one character. -/
def tokens? (text : String) : Option (List Token) :=
  let chars := text.toList
  if chars.all isAllowed then
    let chars := unifyBreaks chars
    Scan.all (chars.length + 1) (.start chars)
  else none

end NamespaceLifecycle.Yaml
