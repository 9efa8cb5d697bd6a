import NamespaceLifecycle.Command.Arguments
import NamespaceLifecycle.Declaration
import NamespaceLifecycle.Http.Exchange
import NamespaceLifecycle.Settings
import NamespaceLifecycle.Yaml.Printer

/-!
# Carrying out commands

A command works on a workspace and leaves a workspace behind. What happens while its operation runs
is given in advance: the answers and the time they take, and whether the operation is called off.
The file of the state is written last, when the operation has succeeded, or when a namespace was
made that could not be read back; every failure before leaves it as it was. The log gets a line for
whatever the operation reports at a weight that is asked for. What is printed is told at the end as
one text, so that printing cannot fail here. A command that fails tells the user one line for the
failure and below it the causes from the outermost to the innermost, numbered when there is more
than one.
-/

namespace NamespaceLifecycle.Command

/-! ## Failures -/

structure Failure where
  message : String
  causes : List String
  deriving DecidableEq, Repr

def Failure.ofError (e : Error) : Failure := ⟨e.message, e.causes⟩

def Failure.ofFile (attempt : String) (cause : FileError) : Failure := ⟨attempt, [cause.message]⟩

/-- The lines of a cause, the later ones as far in as the first. -/
def causeText (first later : String) (cause : String) : String :=
  first ++ String.intercalate ("\n" ++ later) (cause.splitOn "\n")

/-- The number of a cause, five columns wide. -/
def numberText (n : Nat) : String :=
  let digits := toString n
  String.ofList (List.replicate (5 - digits.length) ' ') ++ digits ++ ": "

def numbered (n : Nat) : List String → List String
  | [] => []
  | cause :: rest => causeText (numberText n) "       " cause :: numbered (n + 1) rest

def causesText : List String → String
  | [] => ""
  | [cause] => "\n\nCaused by:\n" ++ causeText "    " "    " cause
  | causes => "\n\nCaused by:\n" ++ String.intercalate "\n" (numbered 0 causes)

def Failure.text (f : Failure) : String := "Error: " ++ f.message ++ causesText f.causes ++ "\n"

/-! ## The world and the session -/

/-- What happens during an operation that sends a token. -/
abbrev Course := Option String → Surroundings

/-- The course of a network that answers at once, with nothing that calls an operation off. -/
def Course.ofNetwork (network : Http.Network) : Course := fun token =>
  ⟨Http.transport network token, fun _ => false⟩

instance : Coe Http.Network Course := ⟨Course.ofNetwork⟩

structure World where
  /-- The directory that the system keeps for settings, if any. -/
  settingsRoot : Option String
  /-- The directory of the user, if it is known. -/
  home : Option String
  environment : Environment
  /-- How domains are known in ASCII. -/
  domains : Url.Domains
  course : Course

/-- What a command leaves behind: its exit code, what it prints, and the files. -/
structure Outcome where
  exit : Nat
  output : String
  errors : String
  workspace : Workspace

structure Report where
  result : Except Stop State
  lines : List LogLine

/-- A command where it is carried out: the world, the settings, and what is asked for. -/
structure Session where
  world : World
  settings : Settings
  invocation : Invocation

namespace Session

def manager (s : Session) : Except Failure Manager :=
  match s.settings.effectiveEndpoint s.world.environment s.invocation.endpoint with
  | none => .error ⟨"No VCFA endpoint configured. Set VCFA_URL or use --endpoint", []⟩
  | some endpoint =>
    .ok ⟨.of s.world.domains endpoint, s.settings.policy,
      s.settings.waitTimeouts (s.invocation.timeout.map fun secs => .ofSeconds secs.toNat)⟩

def surroundings (s : Session) : Surroundings :=
  s.world.course (s.settings.effectiveToken s.world.environment s.invocation.token)

def run (s : Session) (operation : Run State) : Report :=
  match operation s.surroundings .start with
  | (result, events) =>
    ⟨result, events.filterMap fun
      | .logged line => some line
      | _ => none⟩

def render (s : Session) (state : State) : String :=
  let text :=
    match s.invocation.output with
    | .json => state.fileText
    | .yaml => Yaml.Printer.stateText state
  String.ofList (Text.dropWhileEnd Text.isBlank text.toList) ++ "\n"

end Session

def loadState (w : Workspace) (path : String) : Except Failure State :=
  match w.read path with
  | .error cause => .error (.ofFile ("Failed to read state " ++ path) cause)
  | .ok text =>
    match State.ofFileText text with
    | .ok state => .ok state
    | .error cause => .error ⟨"Failed to parse state " ++ path, [cause.message]⟩

/-- The state that a file declares; the usual project fills in a missing one. -/
def loadDeclared (w : Workspace) (project : Option String) (path : String) :
    Except Failure State :=
  match w.read path with
  | .error cause => .error (.ofFile ("Failed to read " ++ path) cause)
  | .ok text =>
    match State.ofDeclaration? text with
    | none => .error ⟨"Failed to parse " ++ path, ["not a declaration of a namespace"]⟩
    | some state =>
      if state.projectName = "" then
        .ok { state with projectName := project.getD state.projectName }
      else .ok state

def saveState (w : Workspace) (path : String) (state : State) : Except Failure Workspace :=
  match w.write path state.fileText with
  | .ok saved => .ok saved
  | .error cause => .error (.ofFile ("Failed to write state " ++ path) cause)

/-- What an action came to: what is printed or why it failed, the files, and the lines for the
log. -/
structure Effect where
  result : Except Failure String
  workspace : Workspace
  lines : List LogLine

def Effect.failed (w : Workspace) (failure : Failure) : Effect := ⟨.error failure, w, []⟩

/-- The failure of an operation. A clock that has run over leaves nothing to tell. -/
def failureOf : Stop → Failure
  | .failed error => .ofError error
  | .abandoned => ⟨"the operation was given up", []⟩
  | .clockOverrun => ⟨"the clock has run over", []⟩

/-- The state that must be kept although the operation failed. -/
def keptState? : Stop → Option State
  | .failed error => error.createdState?
  | _ => none

/-- Ends an operation: a state that it made is written and printed. -/
def settle (s : Session) (w : Workspace) (path : String) (report : Report) : Effect :=
  match report.result with
  | .ok state =>
    match saveState w path state with
    | .ok saved => ⟨.ok (s.render state), saved, report.lines⟩
    | .error failure => ⟨.error failure, w, report.lines⟩
  | .error stop =>
    match keptState? stop with
    | none => ⟨.error (failureOf stop), w, report.lines⟩
    | some state =>
      match saveState w path state with
      | .ok saved => ⟨.error (failureOf stop), saved, report.lines⟩
      | .error failure => ⟨.error failure, w, report.lines⟩

def operate (s : Session) (w : Workspace) (path : String) (input : Except Failure State)
    (operation : Manager → State → Run State) : Effect :=
  match s.manager with
  | .error failure => .failed w failure
  | .ok manager =>
    match input with
    | .error failure => .failed w failure
    | .ok state => settle s w path (s.run (operation manager state))

/-- Tells where settings were saved, when they were. -/
def savedText : Option String → String
  | some root => "Saved " ++ Settings.path root ++ "\n"
  | none => ""

def configure (s : Session) (w : Workspace) (project : Option String)
    (pollInterval : Option UInt64) : Effect :=
  let i := s.invocation
  let settings := s.settings.apply ⟨i.endpoint, i.token, project, pollInterval, i.timeout⟩
  match settings.save w s.world.settingsRoot with
  | .ok saved => ⟨.ok (savedText s.world.settingsRoot), saved, []⟩
  | .error failure => .failed w (.ofFile failure.attempt failure.cause)

/-- Compares a declaration with the state of a file. That something should change is always
refused. -/
def update (s : Session) (w : Workspace) (config path : String) : Effect :=
  match s.manager with
  | .error failure => .failed w failure
  | .ok manager =>
    match loadState w path,
        loadDeclared w (s.settings.effectiveProject s.world.environment) config with
    | .error failure, _ => .failed w failure
    | .ok _, .error failure => .failed w failure
    | .ok prior, .ok planned =>
      let report := s.run (manager.update prior planned)
      match report.result with
      | .ok _ => ⟨.ok "", w, report.lines⟩
      | .error stop => ⟨.error (failureOf stop), w, report.lines⟩

def act (s : Session) (w : Workspace) : Effect :=
  match s.invocation.action with
  | .configure project pollInterval => configure s w project pollInterval
  | .create config path =>
    operate s w path (loadDeclared w (s.settings.effectiveProject s.world.environment) config)
      Manager.create
  | .read path => operate s w path (loadState w path) Manager.read
  | .update config path => update s w config path
  | .delete path => operate s w path (loadState w path) Manager.delete
  | .adopt key path =>
    if w.exists? path then .failed w ⟨"State file " ++ path ++ " already exists", []⟩
    else operate s w path (.ok .empty) fun manager _ => manager.importKey key

/-- The directory of the log: that of the settings, or else one of the user. -/
def World.logDirectory? (world : World) : Option String :=
  world.settingsRoot.map Settings.directory <|> world.home.map (Workspace.below · ".vcfa-ns")

/-- The file of the log; it stands in the current directory when there is no other. -/
def World.logPath (world : World) : String :=
  match world.logDirectory? with
  | some directory => directory ++ "/vcfa-ns.log"
  | none => "vcfa-ns.log"

def rank : Level → Nat
  | .error => 0
  | .warn => 1
  | .info => 2
  | .debug => 3
  | .trace => 4

def logLines (least : Level) (lines : List LogLine) : String :=
  String.join ((lines.filter fun line => rank line.level ≤ rank least).map fun line =>
    line.level.text ++ " " ++ line.message ++ "\n")

/-- The workspace with the file of the log opened. A directory that cannot be made shows when the
file is opened. -/
def openLog (w : Workspace) (world : World) : Except Failure Workspace :=
  let made :=
    match world.logDirectory?.map w.makeDirectory with
    | some (.ok made) => made
    | _ => w
  match made.append world.logPath "" with
  | .ok opened => .ok opened
  | .error cause => .error (.ofFile ("Failed to open log file " ++ world.logPath) cause)

def addToLog (w : Workspace) (world : World) (text : String) : Workspace :=
  match w.append world.logPath text with
  | .ok added => added
  | .error _ => w

def failedOutcome (w : Workspace) (failure : Failure) : Outcome := ⟨1, "", failure.text, w⟩

def execute (world : World) (w : Workspace) (invocation : Invocation) : Outcome :=
  let opened : Except Failure Workspace :=
    match invocation.logLevel with
    | none => .ok w
    | some _ => openLog w world
  match opened with
  | .error failure => failedOutcome w failure
  | .ok w =>
    let effect := act ⟨world, Settings.load w world.settingsRoot, invocation⟩ w
    let left :=
      match invocation.logLevel with
      | none => effect.workspace
      | some least => addToLog effect.workspace world (logLines least effect.lines)
    match effect.result with
    | .ok output => ⟨0, output, "", left⟩
    | .error failure => failedOutcome left failure

def versionText : String := "vcfa-ns 0.1.0\n"

def usageText : String :=
  "Usage: vcfa-ns [OPTIONS] <COMMAND>\n\n" ++
    "Commands: create, read, update, delete, configure, import\n"

/-- What the arguments of a command line lead to. -/
def fromArguments (world : World) (w : Workspace) (arguments : List String) : Outcome :=
  match Invocation.ofArguments arguments with
  | .ok invocation => execute world w invocation
  | .error .version => ⟨0, versionText, "", w⟩
  | .error .help => ⟨0, usageText, "", w⟩
  | .error .usage => ⟨2, "", usageText, w⟩

end NamespaceLifecycle.Command
