/-!
# Places in a text of lines

A cursor holds what is left of a text, and the line and column where that starts. Line breaks are
all of one kind except for the two separators of the character standard, and only characters that
a document may hold are let in.
-/

namespace NamespaceLifecycle.Yaml

def isBreak (c : Char) : Bool := c == '\n' || c == '\u2028' || c == '\u2029'

def isBlankChar (c : Char) : Bool := c == ' ' || c == '\t'

def isGap (c : Char) : Bool := isBlankChar c || isBreak c

/-- Characters of the names of nodes, directives and handles. -/
def isNameChar (c : Char) : Bool := c.isAlphanum || c == '_' || c == '-'

def isAllowed (c : Char) : Bool :=
  let n := c.toNat
  n == 0x09 || n == 0x0a || n == 0x0d || decide (0x20 ≤ n ∧ n ≤ 0x7e) || n == 0x85 ||
    decide (0xa0 ≤ n ∧ n ≤ 0xd7ff) || decide (0xe000 ≤ n ∧ n ≤ 0xfffd) || decide (0x10000 ≤ n)

/-- Makes all line breaks but the two separators one character of one kind. -/
def unifyBreaks : List Char → List Char
  | '\r' :: '\n' :: rest => '\n' :: unifyBreaks rest
  | c :: rest => (if c = '\r' ∨ c = '\u0085' then '\n' else c) :: unifyBreaks rest
  | [] => []

structure Cursor where
  rest : List Char
  line : Nat
  column : Nat
  /-- The number of bytes before. Only places on one line are compared by it. -/
  index : Nat
  deriving Repr

namespace Cursor

def start (chars : List Char) : Cursor := ⟨chars, 0, 0, 0⟩

def next (c : Cursor) : Cursor :=
  match c.rest with
  | [] => c
  | head :: rest =>
    if isBreak head then ⟨rest, c.line + 1, 0, c.index + head.utf8Size⟩
    else ⟨rest, c.line, c.column + 1, c.index + head.utf8Size⟩

def skip (c : Cursor) : Nat → Cursor
  | 0 => c
  | n + 1 => c.next.skip n

def head? (c : Cursor) : Option Char := c.rest.head?

def atEnd (c : Cursor) : Bool := c.rest.isEmpty

/-- Whether a gap or the end comes `n` characters further on. -/
def gapAt (c : Cursor) (n : Nat) : Bool :=
  match c.rest[n]? with
  | some next => isGap next
  | none => true

def hasAt (c : Cursor) (n : Nat) (wanted : Char) : Bool := c.rest[n]? == some wanted

/-- Whether three of the given character stand alone at the start of a line. -/
def atMark (c : Cursor) (mark : Char) : Bool :=
  c.column == 0 && c.hasAt 0 mark && c.hasAt 1 mark && c.hasAt 2 mark && c.gapAt 3

/-- Whether a mark between documents comes. -/
def atDocumentMark (c : Cursor) : Bool := c.atMark '-' || c.atMark '.'

def skipWhile (drops : Char → Bool) (c : Cursor) : Cursor :=
  c.skip (c.rest.takeWhile drops).length

theorem length_next_lt {c : Cursor} (h : c.rest ≠ []) :
    c.next.rest.length < c.rest.length := by
  unfold next
  split
  · contradiction
  · split <;> simp_all

end Cursor

end NamespaceLifecycle.Yaml
