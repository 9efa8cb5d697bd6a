import NamespaceLifecycle.Command.Execution

/-!
# The command line

The files that a command can touch are taken from the disk into a workspace, the command is carried
out there, and what has changed is put back. The program brings no network and no tables of Unicode:
requests fail as they do where no network is reached, and domains are taken in plain ASCII.
-/

namespace NamespaceLifecycle.Command

/-- The place that a path names from the current directory, and the places on the way to it. -/
def places (current : Location) (path : String) : List Location :=
  let (fromTop, names) := Workspace.parts path
  let step (way : Location × List Location) (name : String) : Location × List Location :=
    let next :=
      if name = "" ∨ name = "." then way.1
      else if name = ".." then way.1.dropLast
      else way.1 ++ [name]
    (next, way.2 ++ [next])
  (names.foldl step (if fromTop then [] else current, [])).2

def Action.files : Action → List String
  | .create config state => [config, state]
  | .read state => [state]
  | .update config state => [config, state]
  | .delete state => [state]
  | .configure _ _ => []
  | .adopt _ state => [state]

def filesOf (world : World) (arguments : List String) : List String :=
  match Invocation.ofArguments arguments with
  | .ok invocation =>
    (world.settingsRoot.map Settings.path).toList ++ world.logPath :: invocation.action.files
  | .error _ => []

def pathOf (place : Location) : String := "/" ++ String.intercalate "/" place

def entryOnDisk (place : Location) : IO (Option Entry) := do
  try
    let found ← IO.FS.realPath (pathOf place)
    if ← found.isDir then
      return some .directory
    return some (.file (← IO.FS.readBinFile found).toList)
  catch _ => return none

/-- The part of the disk that a command can touch. -/
def workspaceOnDisk (world : World) (arguments : List String) : IO Workspace := do
  let here ← IO.currentDir
  let current := (Workspace.parts here.toString).2.filter (· ≠ "")
  let mut workspace : Workspace := ⟨current, []⟩
  for path in filesOf world arguments do
    for place in places current path do
      match ← entryOnDisk place with
      | some entry => workspace := workspace.put place entry
      | none => pure ()
  return workspace

/-- Puts on the disk what a command has changed. -/
def putOnDisk (before after : Workspace) : IO Unit := do
  for (place, entry) in after.entries do
    if before.entries.all (· ≠ (place, entry)) then
      match entry with
      | .directory => IO.FS.createDirAll (pathOf place)
      | .file content => IO.FS.writeBinFile (pathOf place) content.toByteArray

/-- A network without a way to anywhere. Numeric hosts and the own one are not reached, and other
names are not even known. -/
def unreachable : Http.Network := fun _ request =>
  match request.url.host? with
  | some (.name name) =>
    if name = "localhost" then noRoute
    else
      .lost ["client error (Connect)", "dns error",
        "failed to lookup address information: Temporary failure in name resolution"]
  | _ => noRoute
where
  noRoute : Http.Delivery :=
    .lost ["client error (Connect)", "tcp connect error", "Network is unreachable (os error 101)"]

/-- What the environment tells of the user and of the service. Only an absolute path counts as the
directory for settings; else it is one of the user, who is not looked up anywhere else. -/
def worldOfUser : IO World := do
  let home := (← IO.getEnv "HOME").filter (· ≠ "")
  let root := (← IO.getEnv "XDG_CONFIG_HOME").filter (·.startsWith "/")
  let environment : Environment :=
    ⟨← IO.getEnv "VCFA_URL", ← IO.getEnv "VCFA_TOKEN", ← IO.getEnv "VCFA_PROJECT"⟩
  return ⟨root <|> home.map (Workspace.below · ".config"), home, environment, .ascii, unreachable⟩

def runOnDisk (arguments : List String) : IO UInt32 := do
  let world ← worldOfUser
  let workspace ← workspaceOnDisk world arguments
  let outcome := fromArguments world workspace arguments
  putOnDisk workspace outcome.workspace
  IO.print outcome.output
  IO.eprint outcome.errors
  return outcome.exit.toUInt32

end NamespaceLifecycle.Command

/-- Carries out the command that the arguments give. -/
def main (arguments : List String) : IO UInt32 :=
  NamespaceLifecycle.Command.runOnDisk arguments
