import NamespaceLifecycle.Proofs.Arguments
import NamespaceLifecycle.Proofs.Command
import NamespaceLifecycle.Proofs.SettingsFile

/-!
# Setting anew

The command that sets anew loads the settings, replaces what its options give and saves the rest as
it was; values of the environment go before the settings elsewhere, but they are never written.
Since settings are read again from their file whatever they are, nothing is lost on the way. A log
that the command keeps stands in a file of its own beside that of the settings, and changes nothing
in it. All this needs a directory for settings: where the system keeps none, the command succeeds
and stores nothing.
-/

namespace NamespaceLifecycle

open Workspace

namespace Settings

variable {w : Workspace} {root : String}

theorem isName_config : IsName "config.json" := by decide

theorem isName_log : IsName "vcfa-ns.log" := by decide

theorem directory_ne_empty (root : String) : directory root ≠ "" := by
  intro h
  unfold directory below at h
  split at h
  · exact absurd (String.append_eq_empty_iff.1 h).2 (by decide)
  · exact absurd (String.append_eq_empty_iff.1 h).2 (by decide)

/-- The settings stand in a file of the directory of the program. -/
theorem path_eq (root : String) : path root = directory root ++ ("/" ++ "config.json") := by
  have hname : "/config.json" = "/" ++ "config.json" := by decide +kernel
  rw [path, hname]

/-- Settings are loaded alike where the same text can be read. -/
theorem load_congr {other : Workspace}
    (h : ∀ text, other.read (path root) = .ok text ↔ w.read (path root) = .ok text) :
    load other (some root) = load w (some root) := by
  rw [load, load]
  cases hread : w.read (path root) with
  | ok text => rw [(h text).2 hread]
  | error cause =>
    cases hother : other.read (path root) with
    | ok text => cases hread.symm.trans ((h text).1 hother)
    | error _ => rfl

end Settings

namespace Command

variable {w opened : Workspace} {world : World} {root : String}

/-- The log stands beside the settings. -/
theorem World.logPath_eq (hroot : world.settingsRoot = some root) :
    world.logPath = Settings.directory root ++ ("/" ++ "vcfa-ns.log") := by
  have hname : "/vcfa-ns.log" = "/" ++ "vcfa-ns.log" := by decide +kernel
  have hdirectory : world.logDirectory? = some (Settings.directory root) := by
    rw [logDirectory?, hroot]
    rfl
  simp only [logPath, hdirectory, hname]

theorem load_of_append {text : String} (h : w.append world.logPath text = .ok opened) :
    Settings.load opened world.settingsRoot = Settings.load w world.settingsRoot := by
  cases hroot : world.settingsRoot with
  | none => rfl
  | some root =>
    rw [World.logPath_eq hroot] at h
    apply Settings.load_congr
    intro content
    rw [Settings.path_eq, read_of_writeWith (Settings.directory_ne_empty root)
      Settings.isName_config Settings.isName_log (by decide) h]

/-- No name on the way to the settings leads back. -/
def World.LeadsForward (world : World) : Prop :=
  ∀ root, world.settingsRoot = some root → ".." ∉ (parts (Settings.directory root)).2

/-- Making the directory of the log leaves the settings, where no name on the way to them leads
back. -/
theorem load_of_makeDirectory {directory : String}
    (hdirectory : world.logDirectory? = some directory) (hforward : world.LeadsForward)
    (h : w.makeDirectory directory = .ok opened) :
    Settings.load opened world.settingsRoot = Settings.load w world.settingsRoot := by
  cases hroot : world.settingsRoot with
  | none => rfl
  | some root =>
    rw [World.logDirectory?, hroot] at hdirectory
    cases hdirectory
    apply Settings.load_congr
    intro text
    rw [Settings.path_eq]
    exact read_of_makeDirectory (Settings.directory_ne_empty root) (hforward root hroot)
      Settings.isName_config h

/-- So does opening it. -/
theorem load_of_openLog (hforward : world.LeadsForward) (h : openLog w world = .ok opened) :
    Settings.load opened world.settingsRoot = Settings.load w world.settingsRoot := by
  have hlast {made : Workspace}
      (hmade : Settings.load made world.settingsRoot = Settings.load w world.settingsRoot)
      (happend : made.append world.logPath "" = .ok opened) :
      Settings.load opened world.settingsRoot = Settings.load w world.settingsRoot :=
    (load_of_append happend).trans hmade
  simp only [openLog] at h
  split at h
  · rename_i happend
    cases h
    split at happend
    · rename_i made hmade
      obtain ⟨directory, hdirectory, hmade⟩ := Option.map_eq_some_iff.1 hmade
      exact hlast (load_of_makeDirectory hdirectory hforward hmade) happend
    · exact hlast rfl happend
  · cases h

theorem load_addToLog (w : Workspace) (world : World) (text : String) :
    Settings.load (addToLog w world text) world.settingsRoot =
      Settings.load w world.settingsRoot := by
  unfold addToLog
  split
  · rename_i added hadded
    exact load_of_append hadded
  · rfl

/-! ## The command -/

theorem Effect.exists_of_exit {effect : Effect} (h : effect.outcome.exit = 0) :
    ∃ output, effect.result = .ok output := by
  cases hresult : effect.result with
  | ok output => exact ⟨output, rfl⟩
  | error failure =>
    rw [outcome, hresult] at h
    exact absurd h Nat.one_ne_zero

@[simp] theorem Effect.workspace_outcome (effect : Effect) :
    effect.outcome.workspace = effect.workspace := by
  unfold outcome
  split <;> rfl

def Effect.logged (effect : Effect) (world : World) (least : Level) : Effect :=
  { effect with workspace := addToLog effect.workspace world (logLines least effect.lines) }

@[simp] theorem Effect.result_logged (effect : Effect) (world : World) (least : Level) :
    (effect.logged world least).result = effect.result := rfl

theorem load_logged (effect : Effect) (world : World) (least : Level) :
    Settings.load (effect.logged world least).workspace world.settingsRoot =
      Settings.load effect.workspace world.settingsRoot := by
  rw [Effect.logged, load_addToLog]

theorem execute_of_log {invocation : Invocation} {least : Level}
    (hlevel : invocation.logLevel = some least) (hopened : openLog w world = .ok opened) :
    execute world w invocation =
      ((act (sessionOf world opened invocation) opened).logged world least).outcome := by
  simp only [execute, hlevel, hopened, sessionOf]
  generalize act _ opened = effect
  cases hresult : effect.result with
  | ok output => simp only [Effect.outcome, Effect.logged, hresult]
  | error failure => simp only [Effect.outcome, Effect.logged, hresult]

def Invocation.change (i : Invocation) (project : Option String) (interval : Option UInt64) :
    Settings.Change := ⟨i.endpoint, i.token, project, interval, i.timeout⟩

/-- Setting anew succeeds by saving the settings of the session with what is given. -/
theorem exists_of_act {s : Session} {project : Option String} {interval : Option UInt64}
    {output : String} (haction : s.invocation.action = .configure project interval)
    (h : (act s w).result = .ok output) :
    (s.settings.apply (s.invocation.change project interval)).save w s.world.settingsRoot =
      .ok (act s w).workspace := by
  rw [act, haction] at h ⊢
  simp only [configure] at h ⊢
  split at h
  · rename_i saved hsave
    rw [Invocation.change, hsave]
  · cases h

/-- A command that succeeds has carried out its action where the settings are as they were, and what
it adds to the log afterwards does not change them. -/
theorem exists_of_execute {invocation : Invocation}
    (hplain : invocation.logLevel = none ∨ world.LeadsForward)
    (hexit : (execute world w invocation).exit = 0) :
    ∃ opened output,
      Settings.load opened world.settingsRoot = Settings.load w world.settingsRoot ∧
      (act (sessionOf world opened invocation) opened).result = .ok output ∧
      Settings.load (execute world w invocation).workspace world.settingsRoot =
        Settings.load (act (sessionOf world opened invocation) opened).workspace
          world.settingsRoot := by
  cases hlevel : invocation.logLevel with
  | none =>
    rw [execute_of_quiet hlevel] at hexit ⊢
    obtain ⟨output, hresult⟩ := Effect.exists_of_exit hexit
    exact ⟨w, output, rfl, hresult, by rw [Effect.workspace_outcome]⟩
  | some least =>
    cases hopened : openLog w world with
    | error failure =>
      rw [execute, hlevel, hopened] at hexit
      exact absurd hexit Nat.one_ne_zero
    | ok opened =>
      rw [execute_of_log hlevel hopened] at hexit ⊢
      obtain ⟨output, hresult⟩ := Effect.exists_of_exit hexit
      rw [Effect.result_logged] at hresult
      rw [Effect.workspace_outcome, load_logged]
      have hforward := hplain.resolve_left (by simp [hlevel])
      exact ⟨opened, output, load_of_openLog hforward hopened, hresult, rfl⟩

/-- New settings hold what is given, and what is not given as it was. The time for the waits goes
for both. -/
structure IsChanged (old new : Settings) (change : Settings.Change) : Prop where
  endpoint : new.endpoint = change.endpoint.or old.endpoint
  token : new.token = change.token.or old.token
  project : new.project = change.project.or old.project
  pollInterval : new.pollInterval = change.pollInterval.getD old.pollInterval
  create : new.timeouts.create = change.timeout.or old.timeouts.create
  delete : new.timeouts.delete = change.timeout.getD old.timeouts.delete

/-- The new settings are determined by the old ones and what is given. -/
theorem IsChanged.unique {old new other : Settings} {change : Settings.Change}
    (h : IsChanged old new change) (hother : IsChanged old other change) : new = other := by
  obtain ⟨endpoint, token, project, pollInterval, create, delete⟩ := new
  obtain ⟨rfl, rfl, rfl, rfl, rfl, rfl⟩ := h
  obtain ⟨_, _, _, _, _, _⟩ := other
  obtain ⟨rfl, rfl, rfl, rfl, rfl, rfl⟩ := hother
  rfl

theorem isChanged_apply (s : Settings) (change : Settings.Change) :
    IsChanged s (s.apply change) change := by
  refine ⟨Option.orElse_eq_or, Option.orElse_eq_or, Option.orElse_eq_or, rfl, ?_, ?_⟩
  · unfold Settings.apply
    cases change.timeout <;> rfl
  · unfold Settings.apply
    cases change.timeout <;> rfl

theorem isChanged_of_execute {invocation : Invocation} {project : Option String}
    {interval : Option UInt64} (haction : invocation.action = .configure project interval)
    (hplain : invocation.logLevel = none ∨ world.LeadsForward)
    (hexit : (execute world w invocation).exit = 0) (hroot : world.settingsRoot = some root) :
    IsChanged (Settings.load w (some root))
      (Settings.load (execute world w invocation).workspace (some root))
      (invocation.change project interval) := by
  obtain ⟨opened, output, hopened, hresult, hleft⟩ := exists_of_execute hplain hexit
  have hsaved := exists_of_act haction hresult
  simp only [sessionOf, hroot] at hsaved hopened hleft
  have hloaded : Settings.load (execute world w invocation).workspace (some root) =
      (Settings.load w (some root)).apply (invocation.change project interval) := calc
    Settings.load (execute world w invocation).workspace (some root) =
        Settings.load _ (some root) := hleft
    _ = (Settings.load opened (some root)).apply (invocation.change project interval) :=
        Settings.load_of_save hsaved
    _ = (Settings.load w (some root)).apply (invocation.change project interval) := by
        rw [hopened]
  rw [hloaded]
  exact isChanged_apply _ _

/-- Where the system keeps no settings, setting anew does nothing, and that is no failure. -/
theorem act_of_no_root {s : Session} {project : Option String} {interval : Option UInt64}
    (haction : s.invocation.action = .configure project interval)
    (hroot : s.world.settingsRoot = none) : act s w = ⟨.ok "", w, []⟩ := by
  rw [act, haction]
  simp only [configure, hroot, Settings.save]
  rfl

theorem execute_of_no_root {invocation : Invocation} {project : Option String}
    {interval : Option UInt64} (haction : invocation.action = .configure project interval)
    (hroot : world.settingsRoot = none) (hexit : (execute world w invocation).exit = 0) :
    (execute world w invocation).output = "" ∧
      (invocation.logLevel = none → (execute world w invocation).workspace = w) := by
  cases hlevel : invocation.logLevel with
  | none =>
    rw [execute_of_quiet hlevel, act_of_no_root haction hroot]
    exact ⟨rfl, fun _ ↦ rfl⟩
  | some least =>
    refine ⟨?_, nofun⟩
    cases hopened : openLog w world with
    | error failure =>
      rw [execute, hlevel, hopened] at hexit
      exact absurd hexit Nat.one_ne_zero
    | ok opened =>
      rw [execute_of_log hlevel hopened, act_of_no_root haction hroot]
      rfl

theorem fromArguments_of_ok {arguments : List String} {invocation : Invocation}
    (hparse : Invocation.ofArguments arguments = .ok invocation) :
    fromArguments world w arguments = execute world w invocation := by
  simp only [fromArguments, hparse]

/-- Every change that options can ask for is made, and no other. -/
theorem isChanged_of_optionsOf {change : Settings.Change} (hinterval : change.pollInterval ≠ some 0)
    (hexit : (fromArguments world w
      ("configure" :: (optionsOf change).map optionArgument)).exit = 0)
    (hroot : world.settingsRoot = some root) :
    IsChanged (Settings.load w (some root))
      (Settings.load (fromArguments world w
        ("configure" :: (optionsOf change).map optionArgument)).workspace (some root)) change := by
  rw [fromArguments_of_ok (ofArguments_optionsOf hinterval)] at hexit ⊢
  exact isChanged_of_execute rfl (.inl rfl) hexit hroot

/-- What a success of setting anew means. -/
structure IsConfigured (world : World) (w : Workspace) (invocation : Invocation)
    (change : Settings.Change) (outcome : Outcome) : Prop where
  changed : ∀ root, world.settingsRoot = some root →
    IsChanged (Settings.load w (some root)) (Settings.load outcome.workspace (some root)) change
  /-- Settings that are saved are loaded again, whatever they are. -/
  loaded : ∀ (s : Settings) (w saved : Workspace) (root : String),
    s.save w (some root) = .ok saved → Settings.load saved (some root) = s
  /-- Where the system keeps no settings nothing is stored and nothing is said of it, and the usual
  settings stay. -/
  kept : world.settingsRoot = none → outcome.output = "" ∧
    (invocation.logLevel = none → outcome.workspace = w) ∧
      Settings.load outcome.workspace world.settingsRoot = .usual

/-- Where the system keeps settings, setting anew changes what is given and nothing else, whatever
stands in the file of the settings and in the environment. With a log no name on the way to the
settings may lead back, since making a directory on such a way can bring settings to light that
could not be reached before. -/
theorem fromArguments_isChanged {arguments : List String} {invocation : Invocation}
    {project : Option String} {interval : Option UInt64}
    (hparse : Invocation.ofArguments arguments = .ok invocation)
    (haction : invocation.action = .configure project interval)
    (hplain : invocation.logLevel = none ∨ world.LeadsForward)
    (hexit : (fromArguments world w arguments).exit = 0) :
    IsConfigured world w invocation (invocation.change project interval)
      (fromArguments world w arguments) := by
  rw [fromArguments_of_ok hparse] at hexit ⊢
  refine ⟨fun root hroot ↦ ?_, fun s w saved root h ↦ Settings.load_of_save h, fun hroot ↦ ?_⟩
  · exact isChanged_of_execute haction hplain hexit hroot
  · obtain ⟨houtput, hkept⟩ := execute_of_no_root haction hroot hexit
    refine ⟨houtput, hkept, ?_⟩
    rw [hroot]
    rfl

/-- A new token and a new time for the waits leave the rest, and the environment is not asked. -/
theorem fromArguments_isChanged_token :
    let world : World :=
      ⟨some "/cfg", none, ⟨some "https://other.example.com", some "spare", some "q"⟩, .ascii,
        fun _ ↦ .always (.ok .null)⟩
    let old : Settings := ⟨some "https://vcfa.example.com", some "first", none, 7, ⟨none, 90⟩⟩
    let w : Workspace := ⟨["home"], [(["cfg"], .directory), (["cfg", "vcfa-ns"], .directory),
      (["cfg", "vcfa-ns", "config.json"], .file (Text.Utf8.bytes old.fileText))]⟩
    let outcome := fromArguments world w ["configure", "--token=second", "--timeout=60"]
    outcome.exit = 0 ∧ Settings.load outcome.workspace (some "/cfg") =
      ⟨some "https://vcfa.example.com", some "second", none, 7, ⟨some 60, 60⟩⟩ := by
  intro world old w outcome
  have hexit : outcome.exit = 0 := by decide +kernel
  have hsaved : old.save ⟨["home"], []⟩ (some "/cfg") = .ok w := rfl
  have hold : Settings.load w (some "/cfg") = old := Settings.load_of_save hsaved
  have hparse : Invocation.ofArguments ["configure", "--token=second", "--timeout=60"] =
      .ok ⟨none, some "second", some 60, .yaml, none, .configure none none⟩ := by decide +kernel
  have hchanged : IsChanged (Settings.load w (some "/cfg"))
      (Settings.load outcome.workspace (some "/cfg")) ⟨none, some "second", none, none, some 60⟩ :=
    (fromArguments_isChanged hparse rfl (.inl rfl) hexit).changed "/cfg" rfl
  clear_value outcome w
  rw [hold] at hchanged
  exact ⟨hexit, hchanged.unique ⟨rfl, rfl, rfl, rfl, rfl, rfl⟩⟩

/-- Where the system keeps no settings, a token that is set without an error is not there
afterwards. -/
theorem fromArguments_not_isChanged_of_no_root :
    let world : World :=
      ⟨none, none, ⟨none, none, none⟩, .ascii, fun _ ↦ .always (.ok .null)⟩
    let w : Workspace := ⟨["home"], []⟩
    let outcome := fromArguments world w ["configure", "--token=second"]
    outcome.exit = 0 ∧ ¬IsChanged (Settings.load w world.settingsRoot)
      (Settings.load outcome.workspace world.settingsRoot)
      ⟨none, some "second", none, none, none⟩ := by
  intro world w outcome
  have hexit : outcome.exit = 0 := by decide +kernel
  refine ⟨hexit, fun hchanged ↦ ?_⟩
  exact absurd hchanged.token (by decide)

end Command

end NamespaceLifecycle
