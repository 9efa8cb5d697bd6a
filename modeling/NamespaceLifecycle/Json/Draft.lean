import NamespaceLifecycle.Json.Numeral
import NamespaceLifecycle.Text.Basic

/-!
# Drafts

A draft is what a text turns out to hold when it is read as a document, up to the first place
where it stops being one. A fault is part of the draft and harms nobody who does not come to it,
so one draft serves a reader that wants the whole document and one that takes some members and
passes over the rest. The two differ in little: who passes over a text does not care whether its
escapes make characters, and who passes over a numeral does not care whether it has a value.
-/

namespace NamespaceLifecycle.Json

/-- Why a text is no document: it ends too early, or something stands where it must not. -/
inductive Fault where
  | unfinished
  | malformed
  deriving DecidableEq, Repr, Inhabited

/-- A fault as it shows to a reader that wants the value and to one that passes over it. -/
structure Flaw where
  reading : Fault
  passing : Fault
  deriving DecidableEq, Repr, Inhabited

def Flaw.same (fault : Fault) : Flaw := ⟨fault, fault⟩

/-- How a row of items or members ends. In a document held in memory the number of items is known
beforehand; in a text the row is closed by its bracket, or a flaw stands in its place. -/
inductive Ending where
  | counted
  | closed
  | broken (flaw : Flaw)
  deriving DecidableEq, Repr, Inhabited

/-- A document with its faults. A numeral may lack a value, and a text or a key its characters. -/
inductive Draft where
  | null
  | bool (value : Bool)
  | number (value : Option Number)
  | text (value : Option String)
  | array (items : List Draft) (ending : Ending)
  | object (members : List (Option String × Draft)) (ending : Ending)
  | flawed (flaw : Flaw)
  deriving Repr, Inhabited

/-- A piece of a quoted text: a character, or a code unit given by an escape. -/
inductive Piece where
  | char (c : Char)
  | unit (n : Nat)
  deriving DecidableEq, Repr

def isHighUnit (n : Nat) : Bool := decide (0xd800 ≤ n ∧ n ≤ 0xdbff)

def isLowUnit (n : Nat) : Bool := decide (0xdc00 ≤ n ∧ n ≤ 0xdfff)

/-- The characters of pieces, none when a unit of a pair stands without the other. -/
def assemble? : List Piece → Option (List Char)
  | [] => some []
  | .char c :: rest => (assemble? rest).map (c :: ·)
  | .unit n :: .unit m :: rest =>
    if isHighUnit n then
      if isLowUnit m then
        (assemble? rest).map (Char.ofNat (0x10000 + (n - 0xd800) * 0x400 + (m - 0xdc00)) :: ·)
      else none
    else if isLowUnit n then none
    else (assemble? (.unit m :: rest)).map (Char.ofNat n :: ·)
  | .unit n :: rest =>
    if isHighUnit n || isLowUnit n then none else (assemble? rest).map (Char.ofNat n :: ·)

/-- Whether the last piece begins a pair, so that what follows would decide about it. -/
def awaitsLow (pieces : List Piece) : Bool :=
  match pieces.getLast? with
  | some (.unit n) => isHighUnit n
  | _ => false

def shortEscape? (c : Char) : Option Char :=
  match c with
  | '"' => some '"'
  | '\\' => some '\\'
  | '/' => some '/'
  | 'b' => some '\x08'
  | 'f' => some '\x0c'
  | 'n' => some '\n'
  | 'r' => some '\r'
  | 't' => some '\t'
  | _ => none

def unitOf? (a b c d : Char) : Option Nat := do
  return (((← Text.hexDigit? a) * 16 + (← Text.hexDigit? b)) * 16 + (← Text.hexDigit? c)) * 16 +
    (← Text.hexDigit? d)

/-- A text of fewer than four bytes cannot hold the digits of an escape. -/
def shortFault (chars : List Char) : Fault :=
  if (String.ofList chars).utf8ByteSize < 4 then .unfinished else .malformed

/-- The pieces of a quoted text after its opening quote, with what follows the closing one. -/
def readPieces : List Char → List Piece × Except Fault (List Char)
  | [] => ([], .error .unfinished)
  | '"' :: rest => ([], .ok rest)
  | ['\\'] => ([], .error .unfinished)
  | '\\' :: 'u' :: a :: b :: c :: d :: rest =>
    match unitOf? a b c d with
    | some n =>
      let (pieces, outcome) := readPieces rest
      (.unit n :: pieces, outcome)
    | none => ([], .error .malformed)
  | '\\' :: 'u' :: rest => ([], .error (shortFault rest))
  | '\\' :: c :: rest =>
    match shortEscape? c with
    | some shown =>
      let (pieces, outcome) := readPieces rest
      (.char shown :: pieces, outcome)
    | none => ([], .error .malformed)
  | c :: rest =>
    if c.toNat < 0x20 then ([], .error .malformed)
    else
      let (pieces, outcome) := readPieces rest
      (.char c :: pieces, outcome)

def readQuoted (chars : List Char) : Except Flaw (Option String × List Char) :=
  match readPieces chars with
  | (pieces, .ok rest) => .ok ((assemble? pieces).map String.ofList, rest)
  | (pieces, .error fault) =>
    let settled := if awaitsLow pieces then pieces.dropLast else pieces
    .error ⟨if (assemble? settled).isNone then .malformed else fault, fault⟩

def readDigits : List Char → List Nat × List Char
  | [] => ([], [])
  | c :: rest =>
    match Text.decimalDigit? c with
    | some digit =>
      let (digits, rest) := readDigits rest
      (digit :: digits, rest)
    | none => ([], c :: rest)

/-- A missing digit: the end of the text is told apart only by who wants the value. -/
def missingDigit (rest : List Char) : Flaw :=
  ⟨if rest.isEmpty then .unfinished else .malformed, .malformed⟩

def readPower (chars : List Char) : Except Flaw (Option (Bool × List Nat) × List Char) :=
  match chars with
  | c :: rest =>
    if c = 'e' ∨ c = 'E' then
      let (down, rest) :=
        match rest with
        | '+' :: rest => (false, rest)
        | '-' :: rest => (true, rest)
        | _ => (false, rest)
      match readDigits rest with
      | ([], rest) => .error (missingDigit rest)
      | (digits, rest) => .ok (some (down, digits), rest)
    else .ok (none, chars)
  | [] => .ok (none, [])

def readFraction (chars : List Char) : Except Flaw (Option (List Nat) × List Char) :=
  match chars with
  | '.' :: rest =>
    match readDigits rest with
    | ([], rest) => .error (missingDigit rest)
    | (digits, rest) => .ok (some digits, rest)
  | _ => .ok (none, chars)

/-- A numeral after its sign. Only the numeral zero begins with the digit zero. -/
def readNumeral (negative : Bool) (chars : List Char) : Except Flaw (Numeral × List Char) :=
  match readDigits chars with
  | ([], rest) => .error (missingDigit rest)
  | (0 :: _ :: _, _) => .error (.same .malformed)
  | (whole, rest) =>
    match readFraction rest with
    | .error flaw => .error flaw
    | .ok (fraction, rest) =>
      match readPower rest with
      | .error flaw => .error flaw
      | .ok (power, rest) =>
        .ok (⟨negative, whole, fraction.getD [], power, fraction.isSome || power.isSome⟩, rest)

def readWord : List Char → List Char → Except Fault (List Char)
  | [], rest => .ok rest
  | _ :: _, [] => .error .unfinished
  | letter :: letters, c :: rest =>
    if c = letter then readWord letters rest else .error .malformed

def isSpace (c : Char) : Bool :=
  c == ' ' || c == '\n' || c == '\t' || c == '\r'

def skipSpace (chars : List Char) : List Char := chars.dropWhile isSpace

/-- A draft, and what follows it unless reading stops inside. -/
abbrev Reading := Draft × Option (List Char)

def stopped (flaw : Flaw) : Reading := (.flawed flaw, none)

def readConstant (value : Draft) (letters rest : List Char) : Reading :=
  match readWord letters rest with
  | .ok rest => (value, some rest)
  | .error fault => stopped (.same fault)

def readNumber (negative : Bool) (chars : List Char) : Reading :=
  match readNumeral negative chars with
  | .ok (numeral, rest) => (.number numeral.value?, some rest)
  | .error flaw => stopped flaw

abbrev Row (α : Type) := List α × Ending × Option (List Char)

def Row.broken {α : Type} (fault : Fault) : Row α := ([], .broken (.same fault), none)

def Row.cons {α : Type} (element : α) (row : Row α) : Row α := (element :: row.1, row.2)

mutual

/-- The draft at the start of a text. Every call leads to fewer than `fuel` further ones. -/
def readValue : Nat → List Char → Reading
  | 0, _ => stopped (.same .malformed)
  | fuel + 1, chars =>
    match skipSpace chars with
    | [] => stopped (.same .unfinished)
    | '"' :: rest =>
      match readQuoted rest with
      | .ok (value, rest) => (.text value, some rest)
      | .error flaw => stopped flaw
    | '[' :: rest =>
      let (items, ending, rest) := readItems fuel rest
      (.array items ending, rest)
    | '\x7b' :: rest =>
      let (members, ending, rest) := readMembers fuel rest
      (.object members ending, rest)
    | 'n' :: rest => readConstant .null "ull".toList rest
    | 't' :: rest => readConstant (.bool true) "rue".toList rest
    | 'f' :: rest => readConstant (.bool false) "alse".toList rest
    | '-' :: rest => readNumber true rest
    | c :: rest =>
      if c.isDigit then readNumber false (c :: rest) else stopped (.same .malformed)

def readItems : Nat → List Char → Row Draft
  | 0, _ => .broken .malformed
  | fuel + 1, chars =>
    match skipSpace chars with
    | [] => .broken .unfinished
    | ']' :: rest => ([], .closed, some rest)
    | chars => readItem fuel chars

def readItem : Nat → List Char → Row Draft
  | 0, _ => .broken .malformed
  | fuel + 1, chars =>
    match readValue fuel chars with
    | (item, none) => ([item], .closed, none)
    | (item, some rest) => .cons item (readMoreItems fuel rest)

def readMoreItems : Nat → List Char → Row Draft
  | 0, _ => .broken .malformed
  | fuel + 1, chars =>
    match skipSpace chars with
    | [] => .broken .unfinished
    | ']' :: rest => ([], .closed, some rest)
    | ',' :: rest =>
      match skipSpace rest with
      | [] => .broken .unfinished
      | ']' :: _ => .broken .malformed
      | rest => readItem fuel rest
    | _ => .broken .malformed

def readMembers : Nat → List Char → Row (Option String × Draft)
  | 0, _ => .broken .malformed
  | fuel + 1, chars =>
    match skipSpace chars with
    | [] => .broken .unfinished
    | '\x7d' :: rest => ([], .closed, some rest)
    | '"' :: rest => readMember fuel rest
    | _ => .broken .malformed

def readMember : Nat → List Char → Row (Option String × Draft)
  | 0, _ => .broken .malformed
  | fuel + 1, chars =>
    match readQuoted chars with
    | .error flaw => ([], .broken flaw, none)
    | .ok (key, rest) =>
      match skipSpace rest with
      | [] => ([(key, .flawed (.same .unfinished))], .closed, none)
      | ':' :: rest =>
        match readValue fuel rest with
        | (value, none) => ([(key, value)], .closed, none)
        | (value, some rest) => .cons (key, value) (readMoreMembers fuel rest)
      | _ => ([(key, .flawed (.same .malformed))], .closed, none)

def readMoreMembers : Nat → List Char → Row (Option String × Draft)
  | 0, _ => .broken .malformed
  | fuel + 1, chars =>
    match skipSpace chars with
    | [] => .broken .unfinished
    | '\x7d' :: rest => ([], .closed, some rest)
    | ',' :: rest =>
      match skipSpace rest with
      | [] => .broken .unfinished
      | '"' :: rest => readMember fuel rest
      | _ => .broken .malformed
    | _ => .broken .malformed

end

/-- The draft of a whole text, and whether anything but space follows it. -/
structure Sheet where
  draft : Draft
  hasMore : Bool

/-- Reads a text. Fewer than four calls are made for each character, so the calls suffice. -/
def Sheet.ofText (text : String) : Sheet :=
  let chars := text.toList
  match readValue (4 * chars.length + 4) chars with
  | (draft, none) => ⟨draft, false⟩
  | (draft, some rest) => ⟨draft, !(skipSpace rest).isEmpty⟩

/-- The fault that the end of a row shows to a reader. -/
def Ending.read : Ending → Except Fault Unit
  | .broken flaw => .error flaw.reading
  | _ => .ok ()

/-- The fault that the end of a row shows to one who passes over it. -/
def Ending.pass : Ending → Except Fault Unit
  | .broken flaw => .error flaw.passing
  | _ => .ok ()

mutual

/-- Passes over a draft: only what breaks its outline is a fault. -/
def Draft.pass : Draft → Except Fault Unit
  | .null | .bool _ | .number _ | .text _ => .ok ()
  | .array items ending =>
    match Draft.passItems items with
    | .ok () => ending.pass
    | .error fault => .error fault
  | .object members ending =>
    match Draft.passMembers members with
    | .ok () => ending.pass
    | .error fault => .error fault
  | .flawed flaw => .error flaw.passing

def Draft.passItems : List Draft → Except Fault Unit
  | [] => .ok ()
  | item :: rest =>
    match Draft.pass item with
    | .ok () => Draft.passItems rest
    | .error fault => .error fault

/-- Passes over the members of an object, whose keys need not be texts. -/
def Draft.passMembers : List (Option String × Draft) → Except Fault Unit
  | [] => .ok ()
  | (_, value) :: rest =>
    match Draft.pass value with
    | .ok () => Draft.passMembers rest
    | .error fault => .error fault

end

mutual

/-- The document of a draft, with at most `depth` arrays and objects inside each other. The first
fault in the order of the text is reported, and depth is exceeded at an opening bracket. -/
def Draft.toJson (depth : Nat) : Draft → Except Fault Json
  | .null => .ok .null
  | .bool value => .ok (.bool value)
  | .number (some value) => .ok (.number value)
  | .number none => .error .malformed
  | .text (some value) => .ok (.text value)
  | .text none => .error .malformed
  | .array items ending =>
    match depth with
    | 0 => .error .malformed
    | depth + 1 => do
      let items ← Draft.toItems depth items
      ending.read
      return .array items
  | .object members ending =>
    match depth with
    | 0 => .error .malformed
    | depth + 1 => do
      let members ← Draft.toMembers depth members
      ending.read
      return .object (sortMembers members)
  | .flawed flaw => .error flaw.reading

def Draft.toItems (depth : Nat) : List Draft → Except Fault (List Json)
  | [] => .ok []
  | item :: rest => do
    let item ← Draft.toJson depth item
    let rest ← Draft.toItems depth rest
    return item :: rest

def Draft.toMembers (depth : Nat) :
    List (Option String × Draft) → Except Fault (List (String × Json))
  | [] => .ok []
  | (none, _) :: _ => .error .malformed
  | (some key, value) :: rest => do
    let value ← Draft.toJson depth value
    let rest ← Draft.toMembers depth rest
    return (key, value) :: rest

end

mutual

/-- A document as a draft without faults. Its rows end as told: they are counted when the document
is held in memory and closed when it is the draft of a text. -/
def toDraft (ending : Ending) : Json → Draft
  | .null => .null
  | .bool value => .bool value
  | .number value => .number (some value)
  | .text value => .text (some value)
  | .array items => .array (toDrafts ending items) ending
  | .object members => .object (toDraftMembers ending members) ending

def toDrafts (ending : Ending) : List Json → List Draft
  | [] => []
  | item :: rest => toDraft ending item :: toDrafts ending rest

def toDraftMembers (ending : Ending) : List (String × Json) → List (Option String × Draft)
  | [] => []
  | (key, value) :: rest => (some key, toDraft ending value) :: toDraftMembers ending rest

end

def greatestDepth : Nat := 127

def ofText (text : String) : Except Fault Json := do
  let sheet := Sheet.ofText text
  let value ← sheet.draft.toJson greatestDepth
  if sheet.hasMore then .error .malformed else return value

end NamespaceLifecycle.Json
