import NamespaceLifecycle.Url.Basic

/-!
# Reading addresses

Blanks and controls around an address and all tabs and line breaks in it are dropped. The scheme
decides on the rest: on the web any number of slashes leads to the authority, files may have one,
and for other schemes exactly two slashes do. The first fault from the left is reported.
-/

namespace NamespaceLifecycle.Url

open Text

def isLow (c : Char) : Bool := decide (c.toNat ≤ 0x20)

def isBreak (c : Char) : Bool := c == '\t' || c == '\n' || c == '\r'

/-- The characters of an address that count. -/
def significant (chars : List Char) : List Char :=
  (dropWhileEnd isLow (chars.dropWhile isLow)).filter fun c => !isBreak c

def isSchemeChar (c : Char) : Bool := c.isAlphanum || c == '+' || c == '-' || c == '.'

/-- The scheme in lower case and what follows its colon. -/
def splitScheme? (chars : List Char) : Option (String × List Char) :=
  match chars.head?, chars.dropWhile isSchemeChar with
  | some first, ':' :: rest =>
    if first.isAlpha then
      some (String.ofList ((chars.takeWhile isSchemeChar).map Char.toLower), rest)
    else none
  | _, _ => none

def isSlash (special : Bool) (c : Char) : Bool := c == '/' || (special && c == '\\')

def endsAuthority (special : Bool) (c : Char) : Bool :=
  isSlash special c || c == '?' || c == '#'

def endsPath (c : Char) : Bool := c == '?' || c == '#'

def splitLast? (sign : Char) : List Char → Option (List Char × List Char)
  | [] => none
  | c :: rest =>
    match splitLast? sign rest with
    | some (before, after) => some (c :: before, after)
    | none => if c = sign then some ([], rest) else none

def isCredentialChar (c : Char) : Bool :=
  isPathChar c && !"/:;=@[\\]^|".toList.contains c

def credentials (chars : List Char) : String × Option String :=
  let user := chars.takeWhile (· != ':')
  let password := (chars.dropWhile (· != ':')).drop 1
  let escape chars := String.ofList (Percent.encodeChars isCredentialChar chars)
  (escape user, if password.isEmpty then none else some (escape password))

/-- The credentials of an address and what follows them. The sign alone before the end of the
authority leaves no host. -/
def splitCredentials (special : Bool) (chars : List Char) :
    Except Fault ((String × Option String) × List Char) :=
  let authority := chars.takeWhile fun c => !endsAuthority special c
  let rest := chars.dropWhile fun c => !endsAuthority special c
  match splitLast? '@' authority with
  | none => .ok (("", none), chars)
  | some ([], after) =>
    if after.isEmpty && !rest.isEmpty then .error .emptyHost
    else .ok (("", none), after ++ rest)
  | some (before, after) => .ok (credentials before, after ++ rest)

/-- The text of the host and what follows it; a colon between brackets belongs to the host. -/
def splitHost (special : Bool) (bracketed : Bool) : List Char → List Char × List Char
  | [] => ([], [])
  | c :: rest =>
    if endsAuthority special c || (c == ':' && !bracketed) then ([], c :: rest)
    else
      let inside := if c == '[' then true else if c == ']' then false else bracketed
      let (host, after) := splitHost special inside rest
      (c :: host, after)

/-- The port after its colon, none when it is the usual one or left out. -/
def readPort (usual : Option Nat) (chars : List Char) : Except Fault (Option Nat × List Char) :=
  let digits := chars.takeWhile Char.isDigit
  let rest := chars.dropWhile Char.isDigit
  let n := ofDigits 10 (digits.filterMap decimalDigit?)
  if 65535 < n then .error .invalidPort
  else if rest.head?.any fun c => !endsAuthority true c then .error .invalidPort
  else .ok (if digits.isEmpty || usual == some n then none else some n, rest)

def readPort? (usual : Option Nat) (chars : List Char) : Except Fault (Option Nat × List Char) :=
  match chars with
  | ':' :: rest => readPort usual rest
  | _ => .ok (none, chars)

def readHost (domains : Domains) (kind : Kind) (chars rest : List Char) :
    Except Fault (Option Host) :=
  match kind with
  | .web _ => if chars.isEmpty then .error .emptyHost else (Host.ofWeb domains chars).map some
  | _ => do
    let host ← Host.ofOther chars
    if host.isNone && rest.head? == some ':' then .error .emptyHost else return host

def readAuthority (domains : Domains) (kind : Kind) (chars : List Char) :
    Except Fault (Authority × List Char) := do
  let ((user, password), chars) ← splitCredentials kind.isSpecial chars
  let (hostChars, rest) := splitHost kind.isSpecial false chars
  let host ← readHost domains kind hostChars rest
  let (port, rest) ← readPort? kind.port? rest
  if host.isNone && (user != "" || password.isSome) then .error .emptyHost
  else return (⟨user, password, host, port⟩, rest)

def rawSegments (kind : Kind) (chars : List Char) : List (List Char) :=
  splitWhere (isSlash kind.isSpecial) <|
    match chars with
    | c :: rest => if isSlash kind.isSpecial c then rest else chars
    | [] => []

/-- The segments of a path after an authority. Only a special scheme makes the empty path a
slash. -/
def readSegments (kind : Kind) (chars : List Char) : List String :=
  if chars.isEmpty && !kind.isSpecial then [] else walk [] (rawSegments kind chars)

def readTail (kind : Kind) (chars : List Char) : Option String × Option String :=
  let fragmentOf (chars : List Char) : Option String :=
    match chars with
    | '#' :: rest => some (String.ofList (Percent.encodeChars isFragmentChar rest))
    | _ => none
  match chars with
  | '?' :: rest =>
    (some (String.ofList
        (Percent.encodeChars (isQueryChar kind.isSpecial) (rest.takeWhile (· != '#')))),
      fragmentOf (rest.dropWhile (· != '#')))
  | _ => (none, fragmentOf chars)

/-- The address with a given authority; the rest of the text is path, query and fragment. -/
def withAuthority (scheme : String) (authority : Authority) (chars : List Char) : Url :=
  let kind := kind scheme
  let (query, fragment) := readTail kind (chars.dropWhile fun c => !endsPath c)
  ⟨scheme, some authority, .rooted (readSegments kind (chars.takeWhile fun c => !endsPath c)),
    query, fragment⟩

def readWeb (domains : Domains) (scheme : String) (port : Nat) (chars : List Char) :
    Except Fault Url := do
  let (authority, rest) ← readAuthority domains (.web port) (chars.dropWhile (isSlash true))
  return withAuthority scheme authority rest

def noHost : Authority := ⟨"", none, none, none⟩

/-- The address of a file. The local host is no host, and a path that begins with a drive takes
the host away. -/
def filePath (host : Option Host) (chars : List Char) : Url :=
  let (drive, raw) :=
    findDrive [] (rawSegments .file (chars.takeWhile fun c => !endsPath c))
  let (query, fragment) := readTail .file (chars.dropWhile fun c => !endsPath c)
  let host := if drive || host == some (.name "localhost") then none else host
  ⟨"file", some { noHost with host := host }, .rooted (withoutLeadingEmpty (walk [] raw)), query,
    fragment⟩

def readFile (domains : Domains) (chars : List Char) : Except Fault Url :=
  match chars with
  | first :: second :: rest =>
    if isSlash true first && isSlash true second then do
      let hostChars := rest.takeWhile fun c => !endsAuthority true c
      if hostChars.isEmpty || isDrive hostChars then return filePath none rest
      let host ← Host.ofWeb domains hostChars
      return filePath (some host) (rest.dropWhile fun c => !endsAuthority true c)
    else return filePath none chars
  | _ => return filePath none chars

/-- An address of any other scheme: two slashes lead to an authority, one begins a path, and
without any the path stands right after the scheme. -/
def readOther (domains : Domains) (scheme : String) (chars : List Char) : Except Fault Url :=
  match chars with
  | '/' :: '/' :: rest => do
    let (authority, rest) ← readAuthority domains .other rest
    return withAuthority scheme authority rest
  | _ =>
    let path := chars.takeWhile fun c => !endsPath c
    let (query, fragment) := readTail .other (chars.dropWhile fun c => !endsPath c)
    match path with
    | '/' :: rest =>
      return ⟨scheme, none, .rooted (walk [] (splitAt '/' rest)), query, fragment⟩
    | _ =>
      return ⟨scheme, none,
        .rootless (String.ofList (Percent.encodeChars isPrintableAscii path)), query, fragment⟩

def ofText (domains : Domains) (text : String) : Except Fault Url :=
  match splitScheme? (significant text.toList) with
  | none => .error .relative
  | some (scheme, rest) =>
    match kind scheme with
    | .web port => readWeb domains scheme port rest
    | .file => readFile domains rest
    | .other => readOther domains scheme rest

end NamespaceLifecycle.Url
