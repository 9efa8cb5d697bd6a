import NamespaceLifecycle.State
import NamespaceLifecycle.Yaml.Cursor

/-!
# Printing states for people

A state as a mapping in blocks, one field on a line, with lists no further in than their key. A text
stands plain when it reads back as that text and nothing else, between single quotes when only its
look would mislead, as a block of lines when it has several, and between double quotes with escapes
when it holds what cannot be shown.
-/

namespace NamespaceLifecycle.Yaml.Printer

open NamespaceLifecycle.Text

/-- Characters that are shown as they are. Those beyond the basic plane are not. -/
def isShown (c : Char) : Bool :=
  let n := c.toNat
  n == 0x0a || decide (0x20 ≤ n ∧ n ≤ 0x7e) || decide (0xa0 ≤ n ∧ n ≤ 0xd7ff) ||
    (decide (0xe000 ≤ n ∧ n ≤ 0xfffd) && n != 0xfeff)

def truthWords : List String :=
  ["y", "Y", "yes", "Yes", "YES", "n", "N", "no", "No", "NO", "true", "True", "TRUE", "false",
    "False", "FALSE", "on", "On", "ON", "off", "Off", "OFF"]

def nullWords : List String := ["", "null", "Null", "NULL", "~"]

def specialNumbers : List String :=
  [".inf", ".Inf", ".INF", "+.inf", "+.Inf", "+.INF", "-.inf", "-.Inf", "-.INF", ".nan", ".NaN",
    ".NAN"]

def areDigits (base : Nat) (chars : List Char) : Bool :=
  !chars.isEmpty && chars.all fun c => (hexDigit? c).any (· < base)

def isPower (chars : List Char) : Bool :=
  match chars with
  | [] => true
  | letter :: rest =>
    (letter == 'e' || letter == 'E') &&
      areDigits 10 (if rest.head?.any (fun c => c == '+' || c == '-') then rest.drop 1 else rest)

def isDecimal (chars : List Char) : Bool :=
  let whole := chars.takeWhile Char.isDigit
  let rest := chars.dropWhile Char.isDigit
  match rest with
  | '.' :: rest =>
    !(whole.isEmpty && (rest.takeWhile Char.isDigit).isEmpty) &&
      isPower (rest.dropWhile Char.isDigit)
  | rest => !whole.isEmpty && isPower rest

def looksLikeNumber (chars : List Char) : Bool :=
  let unsigned := if chars.head?.any (fun c => c == '+' || c == '-') then chars.drop 1 else chars
  isDecimal unsigned ||
    match unsigned with
    | '0' :: 'x' :: digits => areDigits 16 digits
    | '0' :: 'o' :: digits => areDigits 8 digits
    | '0' :: 'b' :: digits => areDigits 2 digits
    | _ => false

/-- Whether a plain text would be read as something else. -/
def misleads (text : String) : Bool :=
  truthWords.contains text || nullWords.contains text || specialNumbers.contains text ||
    looksLikeNumber text.toList

/-- Characters that a plain text cannot begin with. -/
def isFirstIndicator (c : Char) : Bool := "#,[]\x7b\x7d&*!|>'\"%@`".toList.contains c

/-- Whether the marks inside a text part it: a colon before a gap, or a number sign after one. -/
def hasMarks (before : Option Char) : List Char → Bool
  | [] => false
  | c :: rest =>
    let gapAfter := rest.head?.all isGap
    (c == ':' && gapAfter) || (c == '#' && before.any isGap) || hasMarks (some c) rest

/-- Whether a text of one line can stand plain. -/
def canBePlain (chars : List Char) : Bool :=
  match chars with
  | [] => false
  | first :: rest =>
    !(first == ' ' || chars.getLast? == some ' ') && !isFirstIndicator first &&
      !((first == '-' || first == '?') && rest.head?.all isGap) &&
      !(["---".toList, "...".toList].contains (chars.take 3)) && !hasMarks none chars &&
      !chars.any isBreak

def hexCode (width n : Nat) : List Char :=
  (List.range width).reverse.map fun i => upperHexDigit (n / Nat.pow 16 i % 16)

def escapeDouble (c : Char) : List Char :=
  if isShown c && !isBreak c && c != '"' && c != '\\' then [c]
  else
    match c with
    | '\x00' => ['\\', '0']
    | '\x07' => ['\\', 'a']
    | '\x08' => ['\\', 'b']
    | '\t' => ['\\', 't']
    | '\n' => ['\\', 'n']
    | '\x0b' => ['\\', 'v']
    | '\x0c' => ['\\', 'f']
    | '\r' => ['\\', 'r']
    | '\x1b' => ['\\', 'e']
    | '"' => ['\\', '"']
    | '\\' => ['\\', '\\']
    | '\u0085' => ['\\', 'N']
    | '\u2028' => ['\\', 'L']
    | '\u2029' => ['\\', 'P']
    | c =>
      let n := c.toNat
      if n ≤ 0xff then '\\' :: 'x' :: hexCode 2 n
      else if n ≤ 0xffff then '\\' :: 'u' :: hexCode 4 n
      else '\\' :: 'U' :: hexCode 8 n

def hasSpaceBeforeBreak : List Char → Bool
  | ' ' :: next :: rest => isBreak next || hasSpaceBeforeBreak (next :: rest)
  | _ :: rest => hasSpaceBeforeBreak rest
  | [] => false

/-- The sign of a block, with how far in it is when its first line does not show it, and what
becomes of the line breaks at its end. -/
def blockHeader (chars : List Char) : String :=
  let digit := if chars.head?.any fun c => c == ' ' || isBreak c then "2" else ""
  let final :=
    match chars.reverse with
    | '\n' :: '\n' :: _ => "+"
    | ['\n'] => "+"
    | '\n' :: _ => ""
    | _ => "-"
  "|" ++ digit ++ final

/-- A text of several lines as a block that stands `indent` columns in. Empty lines stay empty. -/
def blockText (indent : Nat) (text : String) : String :=
  let lines := text.splitOn "\n"
  let lines := if text.endsWith "\n" then lines.dropLast else lines
  blockHeader text.toList ++ String.join (lines.map fun line =>
    "\n" ++ if line = "" then "" else String.ofList (List.replicate indent ' ') ++ line)

/-- A text as a value whose further lines stand `indent` columns in. -/
def scalar (indent : Nat) (text : String) : String :=
  let chars := text.toList
  let hidden := chars.any (fun c => !isShown c) || hasSpaceBeforeBreak chars
  if hidden || (text.contains '\n' && chars.getLast? == some ' ') then
    "\"" ++ String.ofList (chars.flatMap escapeDouble) ++ "\""
  else if text.contains '\n' then blockText indent text
  else if !misleads text && canBePlain chars then text
  else "'" ++ String.ofList (chars.flatMap fun c => if c = '\'' then ['\'', '\''] else [c]) ++ "'"

def field (key value : String) : String := key ++ ": " ++ value ++ "\n"

/-- An entry of a list: a mapping whose first field stands after the mark. -/
def entry (fields : List (String × String)) : String :=
  match fields with
  | [] => "- \x7b\x7d\n"
  | (key, value) :: rest =>
    "- " ++ field key value ++ String.join (rest.map fun f => "  " ++ field f.1 f.2)

def list {α : Type} (key : String) (items : List α) (fields : α → List (String × String)) :
    String :=
  if items.isEmpty then field key "[]"
  else key ++ ":\n" ++ String.join (items.map fun item => entry (fields item))

def storageClassFields (c : StorageClass) : List (String × String) :=
  [("name", scalar 4 c.name), ("limit_mib", toString c.limit.toInt)]

def vmClassFields (c : VmClass) : List (String × String) := [("name", scalar 4 c.name)]

def zoneFields (z : Zone) : List (String × String) :=
  [("name", scalar 4 z.name), ("cpu_limit_mhz", toString z.cpuLimit.toInt),
    ("cpu_reservation_mhz", toString z.cpuReservation.toInt),
    ("memory_limit_mib", toString z.memoryLimit.toInt),
    ("memory_reservation_mib", toString z.memoryReservation.toInt)]

def textField (key text : String) : String := field key (scalar 2 text)

def stateText (s : State) : String :=
  ((s.id.map (textField "id")).getD "") ++
    textField "name_prefix" s.namePrefix ++
    textField "project_name" s.projectName ++
    textField "class_name" s.className ++
    textField "description" s.description ++
    textField "region_name" s.regionName ++
    textField "vpc_name" s.vpcName ++
    list "storage_classes_initial_class_config_overrides" s.storageClassOverrides
      storageClassFields ++
    list "zones_initial_class_config_overrides" s.zoneOverrides zoneFields ++
    textField "name" s.name ++
    textField "phase" s.phase ++
    field "ready" (toString s.ready) ++
    textField "namespace_endpoint_url" s.endpointUrl ++
    list "storage_classes" s.storageClasses storageClassFields ++
    list "vm_classes" s.vmClasses vmClassFields ++
    list "zones" s.zones zoneFields

end NamespaceLifecycle.Yaml.Printer
