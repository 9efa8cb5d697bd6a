/-!
# Patterns

A pattern says which texts fit it as a whole: a single character of a class, one pattern behind
another, either of two, or one pattern any number of times. A text is taken character by character.
Each character leaves the pattern that the rest of the text has to fit, and the text fits when the
pattern that is left at its end lets the empty text pass.
-/

namespace NamespaceLifecycle.Text

inductive Pattern where
  /-- Nothing fits. -/
  | never
  /-- The empty text. -/
  | empty
  /-- One character of a class. -/
  | one (accepts : Char → Bool)
  /-- One pattern behind another. -/
  | andThen (first second : Pattern)
  /-- Either of two patterns. -/
  | either (left right : Pattern)
  /-- A pattern any number of times. -/
  | many (part : Pattern)

namespace Pattern

def optional (part : Pattern) : Pattern := either part empty

def fitsEmpty : Pattern → Bool
  | never => false
  | empty => true
  | one _ => false
  | andThen first second => first.fitsEmpty && second.fitsEmpty
  | either left right => left.fitsEmpty || right.fitsEmpty
  | many _ => true

/-- What the rest of a text has to fit after its first character. -/
def after (c : Char) : Pattern → Pattern
  | never => never
  | empty => never
  | one accepts => if accepts c then empty else never
  | andThen first second =>
    if first.fitsEmpty then either (andThen (first.after c) second) (second.after c)
    else andThen (first.after c) second
  | either left right => either (left.after c) (right.after c)
  | many part => andThen (part.after c) (many part)

def fits (pattern : Pattern) : List Char → Bool
  | [] => pattern.fitsEmpty
  | c :: rest => (pattern.after c).fits rest

end Pattern

end NamespaceLifecycle.Text
