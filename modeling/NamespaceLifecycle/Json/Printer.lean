import NamespaceLifecycle.Json.Value
import NamespaceLifecycle.Text.Basic

/-!
# Printing documents

Two layouts. The tight one has no space at all and is the form in which bodies are sent. The spread
one, in which files are kept, puts every item and member on a line of its own, two spaces further in
than the bracket that holds it; an array or object without elements stays on one line in both.
-/

namespace NamespaceLifecycle.Json

def escapeChar (c : Char) : List Char :=
  if c = '"' then ['\\', '"']
  else if c = '\\' then ['\\', '\\']
  else if c = '\x08' then ['\\', 'b']
  else if c = '\x0c' then ['\\', 'f']
  else if c = '\n' then ['\\', 'n']
  else if c = '\r' then ['\\', 'r']
  else if c = '\t' then ['\\', 't']
  else if c.toNat < 0x20 then
    ['\\', 'u', '0', '0', Nat.digitChar (c.toNat / 16), Nat.digitChar (c.toNat % 16)]
  else [c]

def quoteChars (text : String) : List Char :=
  '"' :: (text.toList.flatMap escapeChar ++ ['"'])

/-- A new line with two spaces for each level. -/
def newLine (level : Nat) : List Char :=
  '\n' :: List.replicate (2 * level) ' '

mutual

/-- The spread layout of a document that stands `level` levels deep. -/
def spreadChars (level : Nat) : Json → List Char
  | .null => "null".toList
  | .bool true => "true".toList
  | .bool false => "false".toList
  | .number value => value.toText.toList
  | .text value => quoteChars value
  | .array [] => ['[', ']']
  | .array (item :: rest) =>
    '[' :: newLine (level + 1) ++ spreadChars (level + 1) item ++
      spreadItems (level + 1) rest ++ newLine level ++ [']']
  | .object [] => ['\x7b', '\x7d']
  | .object ((key, value) :: rest) =>
    '\x7b' :: newLine (level + 1) ++ quoteChars key ++ [':', ' '] ++
      spreadChars (level + 1) value ++ spreadMembers (level + 1) rest ++ newLine level ++ ['\x7d']

def spreadItems (level : Nat) : List Json → List Char
  | [] => []
  | item :: rest => ',' :: newLine level ++ spreadChars level item ++ spreadItems level rest

def spreadMembers (level : Nat) : List (String × Json) → List Char
  | [] => []
  | (key, value) :: rest =>
    ',' :: newLine level ++ quoteChars key ++ [':', ' '] ++ spreadChars level value ++
      spreadMembers level rest

end

mutual

def tightChars : Json → List Char
  | .null => "null".toList
  | .bool true => "true".toList
  | .bool false => "false".toList
  | .number value => value.toText.toList
  | .text value => quoteChars value
  | .array [] => ['[', ']']
  | .array (item :: rest) => '[' :: tightChars item ++ tightItems rest ++ [']']
  | .object [] => ['\x7b', '\x7d']
  | .object ((key, value) :: rest) =>
    '\x7b' :: quoteChars key ++ [':'] ++ tightChars value ++ tightMembers rest ++ ['\x7d']

def tightItems : List Json → List Char
  | [] => []
  | item :: rest => ',' :: tightChars item ++ tightItems rest

def tightMembers : List (String × Json) → List Char
  | [] => []
  | (key, value) :: rest =>
    ',' :: quoteChars key ++ [':'] ++ tightChars value ++ tightMembers rest

end

/-- A document over several lines. -/
def spread (value : Json) : String := String.ofList (spreadChars 0 value)

def tight (value : Json) : String := String.ofList (tightChars value)

end NamespaceLifecycle.Json
