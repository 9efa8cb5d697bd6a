import NamespaceLifecycle.Run

/-!
# Arguments of the command line

A command is named by one word. Options for the connection, the output and the log may stand before
or after it, and the later place wins; those of the command stand after it. An option takes the
next argument as its value, unless that looks like an option, or what is attached to it. No option
may be repeated at one place.
-/

namespace NamespaceLifecycle.Command

inductive OutputFormat where
  | json
  | yaml
  deriving DecidableEq, Repr

inductive OptionKey where
  | endpoint
  | token
  | timeout
  | output
  | logLevel
  | config
  | state
  | project
  | pollInterval
  deriving DecidableEq, Repr

inductive Word where
  | create
  | read
  | update
  | delete
  | configure
  | adopt
  deriving DecidableEq, Repr

inductive Action where
  | create (config state : String)
  | read (state : String)
  | update (config state : String)
  | delete (state : String)
  | configure (project : Option String) (pollInterval : Option UInt64)
  | adopt (key state : String)
  deriving DecidableEq, Repr

/-- A command with the options for all commands. -/
structure Invocation where
  endpoint : Option String
  token : Option String
  timeout : Option UInt64
  output : OutputFormat
  /-- The least weight of lines that go into the log, none without a log. -/
  logLevel : Option Level
  action : Action
  deriving DecidableEq, Repr

/-- Why the arguments are not a command. -/
inductive Halt where
  | usage
  | version
  | help
  deriving DecidableEq, Repr

/-- The name of an option after two hyphens. -/
def OptionKey.name : OptionKey → String
  | endpoint => "endpoint"
  | token => "token"
  | timeout => "timeout"
  | output => "output"
  | logLevel => "log-level"
  | config => "config"
  | state => "state"
  | project => "project"
  | pollInterval => "poll-interval"

/-- The letter of an option after one hyphen. -/
def OptionKey.letter? : OptionKey → Option Char
  | config => some 'c'
  | state => some 's'
  | _ => none

def Word.text : Word → String
  | create => "create"
  | read => "read"
  | update => "update"
  | delete => "delete"
  | configure => "configure"
  | adopt => "import"

def Word.all : List Word := [.create, .read, .update, .delete, .configure, .adopt]

def Word.ofText? (text : String) : Option Word := Word.all.find? (·.text = text)

def commonOptions : List OptionKey := [.endpoint, .token, .timeout, .output, .logLevel]

def Word.options : Word → List OptionKey
  | create | update => [.config, .state]
  | read | delete | adopt => [.state]
  | configure => [.project, .pollInterval]

/-- How many arguments that are no options a command takes. -/
def Word.arguments : Word → Nat
  | adopt => 1
  | _ => 0

/-- A whole number of 64 bits without sign; a plus may stand before it. -/
def number? (text : String) : Option UInt64 :=
  let chars := text.toList
  let digits := if chars.head? == some '+' then chars.drop 1 else chars
  if digits.isEmpty then none
  else do
    let values ← digits.mapM Text.decimalDigit?
    let n := Text.ofDigits 10 values
    if n < UInt64.size then some (UInt64.ofNat n) else none

def format? (text : String) : Option OutputFormat :=
  if text = "json" then some .json else if text = "yaml" then some .yaml else none

def levels : List (String × Option Level) :=
  [("off", none), ("error", some .error), ("warn", some .warn), ("info", some .info),
    ("debug", some .debug), ("trace", some .trace)]

def level? (text : String) : Option (Option Level) :=
  (levels.find? fun level => level.1 = text).map Prod.snd

def OptionKey.accepts (key : OptionKey) (value : String) : Bool :=
  match key with
  | endpoint | token | project => true
  | timeout => (number? value).isSome
  | pollInterval => (number? value).any fun n => n ≠ 0
  | output => (format? value).isSome
  | logLevel => (level? value).isSome
  | config | state => value ≠ ""

abbrev Values := List (OptionKey × String)

def Values.get? (values : Values) (key : OptionKey) : Option String :=
  (values.find? fun value => value.1 = key).map Prod.snd

/-- What stands at one place: values of options and other arguments; and, before the word for the
command, that word and what follows it. -/
structure Place where
  values : Values
  arguments : List String
  command : Option (Word × List String)
  deriving Repr

/-- An argument that cannot be the value of an option. -/
def looksLikeOption (argument : String) : Bool :=
  argument.startsWith "-" && argument ≠ "-"

def addValue (values : Values) (key : OptionKey) (value : String) : Except Halt Values :=
  if !key.accepts value || (values.get? key).isSome then .error .usage
  else .ok (values ++ [(key, value)])

/-- The name and the attached value of an option after its hyphens. -/
def splitAttached (chars : List Char) : String × Option String :=
  let name := chars.takeWhile (· != '=')
  let rest := chars.dropWhile (· != '=')
  (String.ofList name, if rest.isEmpty then none else some (String.ofList (rest.drop 1)))

/-- The value after the letter of an option, which an equals sign may part from it. -/
def attachedToLetter (chars : List Char) : Option String :=
  match chars with
  | [] => none
  | '=' :: rest => some (String.ofList rest)
  | _ => some (String.ofList chars)

inductive Mention where
  | option (key : OptionKey) (attached : Option String)
  | halt (reason : Halt)

/-- The option that an argument mentions. Asking for the version has a place only before the
command. -/
def mention (options : List OptionKey) (isFirst : Bool) (argument : String) : Mention :=
  match argument.toList with
  | '-' :: '-' :: rest =>
    let (name, attached) := splitAttached rest
    if name = "help" then .halt (if attached.isNone then .help else .usage)
    else if name = "version" && isFirst then .halt (if attached.isNone then .version else .usage)
    else
      match options.find? fun key => key.name = name with
      | some key => .option key attached
      | none => .halt .usage
  | '-' :: letter :: rest =>
    if letter = 'h' then .halt .help
    else if letter = 'V' && isFirst then .halt .version
    else
      match options.find? fun key => key.letter? = some letter with
      | some key => .option key (attachedToLetter rest)
      | none => .halt .usage
  | _ => .halt .usage

/-- Reads the arguments before the word for the command, or, when the command is known, those after
it. -/
def readPlace (command : Option Word) (place : Place) : List String → Except Halt Place
  | [] => .ok place
  | "--" :: rest =>
    match command with
    | none => if rest.isEmpty then .ok place else .error .usage
    | some word =>
      if place.arguments.length + rest.length ≤ word.arguments then
        .ok { place with arguments := place.arguments ++ rest }
      else .error .usage
  | argument :: rest =>
    if looksLikeOption argument then
      let options := commonOptions ++ ((command.map Word.options).getD [])
      match mention options command.isNone argument with
      | .halt reason => .error reason
      | .option key (some value) =>
        match addValue place.values key value with
        | .ok values => readPlace command { place with values := values } rest
        | .error reason => .error reason
      | .option key none =>
        match rest with
        | [] => .error .usage
        | value :: rest =>
          if looksLikeOption value then .error .usage
          else
            match addValue place.values key value with
            | .ok values => readPlace command { place with values := values } rest
            | .error reason => .error reason
    else
      match command with
      | none =>
        match Word.ofText? argument with
        | some word => .ok { place with command := some (word, rest) }
        | none => .error (if argument = "help" then .help else .usage)
      | some word =>
        if place.arguments.length < word.arguments then
          readPlace command { place with arguments := place.arguments ++ [argument] } rest
        else .error .usage

def Place.empty : Place := ⟨[], [], none⟩

/-- The file of a state when no other is named. -/
def usualStateFile : String := "supervisor-namespace.state.json"

def Word.action? (word : Word) (values : Values) (arguments : List String) : Option Action :=
  let state := (values.get? .state).getD usualStateFile
  match word with
  | create => (values.get? .config).map fun config => .create config state
  | read => some (.read state)
  | update => (values.get? .config).map fun config => .update config state
  | delete => some (.delete state)
  | configure => some (.configure (values.get? .project) ((values.get? .pollInterval).bind number?))
  | adopt => arguments.head?.map fun key => .adopt key state

def Invocation.ofArguments (arguments : List String) : Except Halt Invocation := do
  let before ← readPlace none .empty arguments
  match before.command with
  | none => .error .usage
  | some (word, rest) => do
    let after ← readPlace (some word) .empty rest
    let values := after.values ++ before.values
    match word.action? after.values after.arguments with
    | none => .error .usage
    | some action =>
      return {
        endpoint := values.get? .endpoint
        token := values.get? .token
        timeout := (values.get? .timeout).bind number?
        output := ((values.get? .output).bind format?).getD .yaml
        logLevel := ((values.get? .logLevel).bind level?).getD none
        action := action }

end NamespaceLifecycle.Command
