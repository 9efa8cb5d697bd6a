import NamespaceLifecycle.Json.Decode
import NamespaceLifecycle.Json.Printer
import NamespaceLifecycle.Lifecycle
import NamespaceLifecycle.Workspace

/-!
# Settings

What a user sets once for all: where the service is, the token, the project, and the times of the
waits. What is given on the command line goes before the environment, and the environment before the
settings.

Settings live in a file of their own below the directory that the system keeps for settings, and
every part of it may be missing. A file that is missing, cannot be read or holds no settings counts
as the usual settings. Saving makes the directories that are missing. A system that keeps no
directory for settings has the usual ones, and nothing is saved there.
-/

namespace NamespaceLifecycle

open Json (Decoder Record)

/-- The times for the waits in seconds. -/
structure TimeoutSettings where
  create : Option UInt64
  delete : UInt64
  deriving DecidableEq, Repr, Inhabited

structure Settings where
  endpoint : Option String
  token : Option String
  project : Option String
  /-- The seconds between polls. -/
  pollInterval : UInt64
  timeouts : TimeoutSettings
  deriving DecidableEq, Repr, Inhabited

/-- The part of the environment that matters. -/
structure Environment where
  endpoint : Option String
  token : Option String
  project : Option String
  deriving DecidableEq, Repr, Inhabited

/-- A value of the environment; an empty one is none. -/
def Environment.given (value : Option String) : Option String := value.filter (· ≠ "")

def Json.orNull {α : Type} (toJson : α → Json) : Option α → Json
  | some a => toJson a
  | none => .null

def Json.uint64 (n : UInt64) : Json := .nat n.toNat

namespace TimeoutSettings

def usual : TimeoutSettings := ⟨none, 1200⟩

def toJson (t : TimeoutSettings) : Json :=
  .object [("create_secs", Json.orNull .uint64 t.create), ("delete_secs", .uint64 t.delete)]

def decoder : Decoder TimeoutSettings :=
  Record.decoder "TimeoutSettings" <|
    TimeoutSettings.mk <$> Record.optional "create_secs" (Decoder.optional Decoder.uint64) none
      <*> Record.optional "delete_secs" Decoder.uint64 1200

end TimeoutSettings

namespace Settings

def usual : Settings := ⟨none, none, none, 5, .usual⟩

def toJson (s : Settings) : Json :=
  .object [("endpoint", Json.orNull .text s.endpoint), ("token", Json.orNull .text s.token),
    ("project_name", Json.orNull .text s.project), ("poll_interval_secs", .uint64 s.pollInterval),
    ("timeouts", s.timeouts.toJson)]

def decoder : Decoder Settings :=
  Record.decoder "Settings" <|
    Settings.mk <$> Record.optional "endpoint" (Decoder.optional Decoder.text) none
      <*> Record.optional "token" (Decoder.optional Decoder.text) none
      <*> Record.optional "project_name" (Decoder.optional Decoder.text) none
      <*> Record.optional "poll_interval_secs" Decoder.uint64 5
      <*> Record.optional "timeouts" TimeoutSettings.decoder .usual

def fileText (s : Settings) : String := s.toJson.spread

/-- The settings in the text of a file, the usual ones when it holds none. -/
def ofFileText (text : String) : Settings :=
  match Json.decodeText decoder text with
  | .ok settings => settings
  | .error _ => usual

def effectiveEndpoint (s : Settings) (env : Environment) (given : Option String) :
    Option String :=
  given <|> Environment.given env.endpoint <|> s.endpoint

def effectiveToken (s : Settings) (env : Environment) (given : Option String) : Option String :=
  given <|> Environment.given env.token <|> s.token

def effectiveProject (s : Settings) (env : Environment) : Option String :=
  Environment.given env.project <|> s.project

def policy (s : Settings) : WaitPolicy :=
  ⟨.ofSeconds s.pollInterval.toNat, .ofSeconds s.pollInterval.toNat, WaitPolicy.usualTimeout⟩

/-- The times for the waits; one that is given goes for both. -/
def waitTimeouts (s : Settings) : Option Duration → Timeouts
  | some timeout => ⟨some timeout, timeout⟩
  | none =>
    ⟨s.timeouts.create.map fun secs => .ofSeconds secs.toNat, .ofSeconds s.timeouts.delete.toNat⟩

/-- What a user sets anew; what is not given stays as it is. -/
structure Change where
  endpoint : Option String
  token : Option String
  project : Option String
  pollInterval : Option UInt64
  /-- The time for both waits. -/
  timeout : Option UInt64
  deriving DecidableEq, Repr

def apply (s : Settings) (change : Change) : Settings where
  endpoint := change.endpoint <|> s.endpoint
  token := change.token <|> s.token
  project := change.project <|> s.project
  pollInterval := change.pollInterval.getD s.pollInterval
  timeouts :=
    match change.timeout with
    | some secs => ⟨some secs, secs⟩
    | none => s.timeouts

end Settings

/-! ## Files -/

/-- What could not be done with files: the thing that was tried and why it failed. -/
structure FileFailure where
  attempt : String
  cause : FileError
  deriving DecidableEq, Repr

namespace Settings

def directory (root : String) : String := Workspace.below root "vcfa-ns"

def path (root : String) : String := directory root ++ "/config.json"

/-- The settings of a workspace. Where the system keeps no settings they are the usual ones. -/
def load (w : Workspace) : Option String → Settings
  | none => usual
  | some root =>
    match w.read (path root) with
    | .ok text => ofFileText text
    | .error _ => usual

/-- The workspace after the settings were saved; nothing is where the system keeps no settings. -/
def save (s : Settings) (w : Workspace) : Option String → Except FileFailure Workspace
  | none => .ok w
  | some root =>
    match w.makeDirectory (directory root) with
    | .error cause => .error ⟨"Failed to create " ++ directory root, cause⟩
    | .ok made =>
      match made.write (path root) s.fileText with
      | .error cause => .error ⟨"Failed to write " ++ path root, cause⟩
      | .ok saved => .ok saved

end Settings

end NamespaceLifecycle
