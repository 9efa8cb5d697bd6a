import NamespaceLifecycle.Text.Basic
import NamespaceLifecycle.Yaml.Cursor

/-!
# Scalars

The three ways to write a text. A plain one ends where the surrounding structure goes on. A quoted
one ends at its quote. A block is made of lines that are further in than what surrounds it. In
the first two, a single line break counts as a space and more of them as one break less; blocks
keep their breaks or fold them alike.
-/

namespace NamespaceLifecycle.Yaml

inductive ScalarStyle where
  | plain
  | singleQuoted
  | doubleQuoted
  | literal
  | folded
  deriving DecidableEq, Repr

/-- A scalar that was read, whether a line break stands after it, and the place where it ends. -/
structure ScannedScalar where
  value : String
  brokeLine : Bool
  next : Cursor

/-- Line breaks as they count inside a text: one is a space, several are one less. -/
def foldBreaks : List Char → List Char
  | '\n' :: [] => [' ']
  | '\n' :: rest => rest
  | breaks => breaks

/-- A text that is put together, last character first, with the blanks and the line breaks since
its last character, which count only when another character follows. -/
structure Gathered where
  text : List Char
  blanks : List Char
  breaks : List Char

namespace Gathered

def none : Gathered := ⟨[], [], []⟩

def push (g : Gathered) (c : Char) : Gathered :=
  let between := if g.breaks.isEmpty then g.blanks else (foldBreaks g.breaks.reverse).reverse
  ⟨c :: (between ++ g.text), [], []⟩

/-- The text after one more blank; at the start of a line it is indentation. -/
def pushBlank (g : Gathered) (c : Char) : Gathered :=
  if g.breaks.isEmpty then { g with blanks := c :: g.blanks } else g

def pushBreak (g : Gathered) (c : Char) : Gathered := ⟨g.text, [], c :: g.breaks⟩

def value (g : Gathered) : String := String.ofList g.text.reverse

end Gathered

def endsInFlow (c : Char) : Bool := ",[]\x7b\x7d".toList.contains c

/-- A plain scalar. `indent` is the least column of its further lines, `flow` tells whether it
stands inside brackets, and `inWord` whether the character before belongs to it. -/
def scanPlain (indent : Nat) (flow inWord : Bool) (g : Gathered) (c : Cursor) :
    Option ScannedScalar :=
  match h : c.rest with
  | [] => some ⟨g.value, !g.breaks.isEmpty, c⟩
  | head :: _ =>
    have : c.next.rest.length < c.rest.length := Cursor.length_next_lt (by simp [h])
    if isBreak head then scanPlain indent flow false (g.pushBreak head) c.next
    else if isBlankChar head then
      if !g.breaks.isEmpty && c.column < indent && head == '\t' then none
      else scanPlain indent flow false (g.pushBlank head) c.next
    else if !inWord && ((!g.breaks.isEmpty && !flow && c.column < indent) || c.atDocumentMark ||
        head == '#') then
      some ⟨g.value, !g.breaks.isEmpty, c⟩
    else if flow && head == ':' && c.rest[1]?.any fun d => endsInFlow d || d == '?' then none
    else if (head == ':' && c.gapAt 1) || (flow && endsInFlow head) then
      some ⟨g.value, !g.breaks.isEmpty, c⟩
    else scanPlain indent flow true (g.push head) c.next
termination_by c.rest.length
decreasing_by all_goals simp_all

def escaped? : Char → Option Char
  | '0' => some '\x00'
  | 'a' => some '\x07'
  | 'b' => some '\x08'
  | 't' => some '\t'
  | '\t' => some '\t'
  | 'n' => some '\n'
  | 'v' => some '\x0b'
  | 'f' => some '\x0c'
  | 'r' => some '\r'
  | 'e' => some '\x1b'
  | ' ' => some ' '
  | '"' => some '"'
  | '/' => some '/'
  | '\\' => some '\\'
  | 'N' => some '\u0085'
  | '_' => some '\u00a0'
  | 'L' => some '\u2028'
  | 'P' => some '\u2029'
  | _ => none

def escapeLength? : Char → Option Nat
  | 'x' => some 2
  | 'u' => some 4
  | 'U' => some 8
  | _ => none

def charOf? (n : Nat) : Option Char := if n.isValidChar then some (Char.ofNat n) else none

/-- The character that an escape stands for, and the number of characters after the backslash. -/
def escape? (rest : List Char) : Option (Char × Nat) :=
  match rest with
  | [] => none
  | letter :: digits =>
    match escaped? letter, escapeLength? letter with
    | some c, _ => some (c, 1)
    | none, some length => do
      let values ← (digits.take length).mapM Text.hexDigit?
      if values.length = length then do
        let c ← charOf? (Text.ofDigits 16 values)
        return (c, length + 1)
      else none
    | none, none => none

/-- The blanks and line breaks after a place inside quotes, as they count there. After a break that
was escaped, breaks count as they are. -/
def quotedGap (escapedBreak : Bool) (c : Cursor) : List Char × Cursor :=
  let gap := c.rest.takeWhile isGap
  let breaks := gap.filter isBreak
  let text :=
    if escapedBreak then breaks
    else if breaks.isEmpty then gap
    else foldBreaks breaks
  (text, c.skip gap.length)

/-- A quoted scalar after its first quote; the text so far has its last character first. -/
def scanQuoted (single : Bool) (fuel : Nat) (text : List Char) (c : Cursor) :
    Option ScannedScalar :=
  match fuel, c.rest with
  | 0, _ => none
  | _, [] => none
  | fuel + 1, head :: rest =>
    if c.atDocumentMark then none
    else if single && head == '\'' then
      if rest.head? == some '\'' then scanQuoted single fuel ('\'' :: text) (c.skip 2)
      else some ⟨String.ofList text.reverse, false, c.next⟩
    else if !single && head == '"' then some ⟨String.ofList text.reverse, false, c.next⟩
    else if !single && head == '\\' then
      if rest.head?.any isBreak then
        let (gap, next) := quotedGap true (c.skip 2)
        scanQuoted single fuel (gap.reverse ++ text) next
      else
        match escape? rest with
        | none => none
        | some (char, length) => scanQuoted single fuel (char :: text) (c.skip (length + 1))
    else if isGap head then
      let (gap, next) := quotedGap false c
      scanQuoted single fuel (gap.reverse ++ text) next
    else scanQuoted single fuel (head :: text) c.next

inductive Chomping where
  | strip
  | clip
  | keep
  deriving DecidableEq, Repr

/-- The empty lines before a line of a block: their breaks, the greatest column that was reached,
and the place of the first character that is no indentation. No indentation is told at first. -/
def blockBreaks (indent : Option Nat) (fuel : Nat) (breaks : List Char) (greatest : Nat)
    (c : Cursor) : Option (List Char × Nat × Cursor) :=
  match fuel with
  | 0 => none
  | fuel + 1 =>
    let room :=
      match indent with
      | some indent => indent - c.column
      | none => c.rest.length
    let c := c.skip ((c.rest.take room).takeWhile (· == ' ')).length
    let greatest := max greatest c.column
    let short := indent.all fun indent => decide (c.column < indent)
    match c.rest with
    | [] => some (breaks, greatest, c)
    | head :: _ =>
      if short && head == '\t' then none
      else if isBreak head then blockBreaks indent fuel (breaks ++ [head]) greatest c.next
      else some (breaks, greatest, c)

/-- The lines of a block. `text` is what stands before, last character first, `lineBreak` the
break of the line before, and `breaks` those of the empty lines since. -/
def scanBlockLines (folds : Bool) (chomping : Chomping) (indent : Nat) (fuel : Nat)
    (text lineBreak breaks : List Char) (blankBefore : Bool) (c : Cursor) :
    Option ScannedScalar :=
  match fuel with
  | 0 => none
  | fuel + 1 =>
    if c.column == indent && !c.atEnd then
      let startsBlank := c.head?.any isBlankChar
      let joint :=
        if folds && lineBreak == ['\n'] && !blankBefore && !startsBlank then
          if breaks.isEmpty then [' '] else breaks
        else lineBreak ++ breaks
      let line := c.rest.takeWhile fun d => !isBreak d
      let text := line.reverse ++ (joint.reverse ++ text)
      let c := c.skip line.length
      let lineBreak := c.rest.take 1
      match blockBreaks (some indent) (c.rest.length + 1) [] 0 c.next with
      | none => none
      | some (breaks, _, next) =>
        scanBlockLines folds chomping indent fuel text lineBreak breaks startsBlank next
    else
      let tail :=
        match chomping with
        | .strip => []
        | .clip => lineBreak
        | .keep => lineBreak ++ breaks
      some ⟨String.ofList (text.reverse ++ tail), true, c⟩

def chomping? (c : Char) : Option Chomping :=
  if c == '+' then some .keep else if c == '-' then some .strip else none

/-- A digit that tells how far in a block is; zero is refused. -/
def blockDigit? (c : Char) : Option (Option Nat) :=
  (Text.decimalDigit? c).map fun n => if n = 0 then none else some n

/-- What stands right after the sign of a block: how it ends and how far in it is, in either
order, and the place after both. -/
def blockHeader (c : Cursor) : Option (Chomping × Option Nat × Cursor) :=
  match c.head?.bind chomping?, c.head?.bind blockDigit? with
  | some chomping, _ =>
    match c.next.head?.bind blockDigit? with
    | some none => none
    | some (some n) => some (chomping, some n, c.skip 2)
    | none => some (chomping, none, c.next)
  | none, some none => none
  | none, some (some n) =>
    match c.next.head?.bind chomping? with
    | some chomping => some (chomping, some n, c.skip 2)
    | none => some (.clip, some n, c.next)
  | none, none => some (.clip, none, c)

/-- A block after its sign, which stands inside the column `outer`; there is none at the top. -/
def scanBlock (folds : Bool) (outer : Option Nat) (c : Cursor) : Option ScannedScalar := do
  let (chomping, digit, c) ← blockHeader c
  let c := c.skipWhile isBlankChar
  let c := if c.head? == some '#' then c.skipWhile fun d => !isBreak d else c
  if c.head?.any fun d => !isBreak d then none
  else do
    let c := c.next
    let least := (outer.map (· + 1)).getD 0
    let told := digit.map fun n => (outer.getD 0) + n
    let (breaks, greatest, c) ← blockBreaks told (c.rest.length + 1) [] 0 c
    let indent := told.getD (max 1 (max greatest least))
    scanBlockLines folds chomping indent (c.rest.length + 1) [] [] breaks false c

end NamespaceLifecycle.Yaml
