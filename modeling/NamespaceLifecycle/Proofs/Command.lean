import NamespaceLifecycle.Proofs.Refusal
import NamespaceLifecycle.Proofs.StateFile

/-!
# What commands do to files

A command on a namespace writes one file at most, that of its state, and writes it last. It does so
when its operation has returned a state, which is then what the file holds, and when a namespace was
made that could not be read back. In every other case all files are as they were, whatever stands in
them, whatever the server answers and however long it takes.
-/

namespace NamespaceLifecycle

/-- No request ends in an error that holds a state. -/
theorem Error.isRequestKind_createdState? :
    Error.IsRequestKind (fun error ↦ error.createdState? = none) := by
  constructor <;> intros <;> rfl

theorem Error.IsRefusal.createdState?_eq {error : Error} (h : error.IsRefusal) :
    error.createdState? = none := by
  rcases h with ⟨_, _, rfl⟩ | ⟨_, _, rfl⟩ <;> rfl

/-- Only the making of a namespace can fail with the state of one. -/
theorem Manager.createdState?_of_perform {m : Manager} {call : Call} {s : Surroundings}
    {p : Progress} {error : Error} {events : List Event}
    (h : m.perform call s p = (.error (.failed error), events))
    (hcall : ∀ config, call ≠ .create config) : error.createdState? = none := by
  cases perform_failsBy Error.isRequestKind_createdState? h with
  | request hkind => exact hkind
  | refused hrefused _ => exact hrefused.createdState?_eq
  | expired htimeout _ =>
    obtain ⟨_, _, _, _, _, rfl⟩ := htimeout
    rfl
  | unread hcreate _ _ => exact absurd hcreate (hcall _)

namespace Command

def sessionOf (world : World) (w : Workspace) (invocation : Invocation) : Session :=
  ⟨world, Settings.load w world.settingsRoot, invocation⟩

variable {s : Session} {w saved : Workspace}

namespace Session

/-- The call that a command makes, when all that it needs is there. -/
def call? (s : Session) (w : Workspace) : Option Call :=
  match s.invocation.action with
  | .create config _ =>
    (loadDeclared w (s.settings.effectiveProject s.world.environment) config).toOption.map .create
  | .read path => (loadState w path).toOption.map .read
  | .delete path => (loadState w path).toOption.map .delete
  | .adopt key path => if w.exists? path then none else some (.importKey key)
  | .update _ _ => none
  | .configure _ _ => none

/-- What the call of a command comes to, when there is one. -/
def result? (s : Session) (w : Workspace) : Option (Except Stop State) := do
  let manager ← s.manager.toOption
  let call ← s.call? w
  return (manager.perform call s.surroundings .start).1

end Session

/-- The file for the state that a command on a namespace keeps. -/
def Action.keeps? : Action → Option String
  | .create _ path => some path
  | .read path => some path
  | .delete path => some path
  | .adopt _ path => some path
  | .update _ _ => none
  | .configure _ _ => none

/-- What a command on a namespace does: it stops and leaves the files alone, it finds nothing to
change, it saves the state that its call returned, or it saves the state of a namespace that was
made and could not be read back. -/
inductive ActionRun (s : Session) (w : Workspace) : Action → Effect → Prop
  | stopped {action : Action} {failure : Failure} {lines : List LogLine} :
      ActionRun s w action ⟨.error failure, w, lines⟩
  | unchanged {config path text : String} {lines : List LogLine} :
      ActionRun s w (.update config path) ⟨.ok text, w, lines⟩
  | returned {action : Action} {path text : String} {state : State} {saved : Workspace}
      {lines : List LogLine} (hpath : action.keeps? = some path)
      (hresult : s.result? w = some (.ok state)) (hsave : saveState w path state = .ok saved) :
      ActionRun s w action ⟨.ok text, saved, lines⟩
  | unread {config path : String} {failure : Failure} {state : State} {source : Error}
      {saved : Workspace} {lines : List LogLine}
      (hresult : s.result? w = some (.error (.failed (.createdUnread state source))))
      (hsave : saveState w path state = .ok saved) :
      ActionRun s w (.create config path) ⟨.error failure, saved, lines⟩

theorem exists_of_keptState? {stop : Stop} {state : State} (h : keptState? stop = some state) :
    ∃ source, stop = .failed (.createdUnread state source) := by
  unfold keptState? at h
  split at h
  · rename_i error
    cases error with
    | createdUnread kept source =>
      cases h
      exact ⟨source, rfl⟩
    | _ => cases h
  · cases h

theorem settle_run {action : Action} {path : String} {report : Report}
    (hpath : action.keeps? = some path) (hresult : s.result? w = some report.result)
    (hunread : ∀ state source, report.result = .error (.failed (.createdUnread state source)) →
      ∃ config, action = .create config path) :
    ActionRun s w action (settle s w path report) := by
  unfold settle
  split
  · rename_i state hreport
    rw [hreport] at hresult
    split
    · exact .returned hpath hresult ‹_›
    · exact .stopped
  · rename_i stop hreport
    split
    · exact .stopped
    · rename_i state hkept
      obtain ⟨source, rfl⟩ := exists_of_keptState? hkept
      obtain ⟨config, rfl⟩ := hunread state source hreport
      rw [hreport] at hresult
      split
      · exact .unread hresult ‹_›
      · exact .stopped

/-- The report of a run is what the call of the command comes to. -/
theorem run_result {manager : Manager} {call : Call} (hmanager : s.manager = .ok manager)
    (hcall : s.call? w = some call) :
    s.result? w = some (s.run (manager.perform call)).result := by
  simp only [Session.result?, hmanager, hcall, Session.run]
  rfl

/-- A command whose action is a call on the state of a file. -/
theorem operate_run {action : Action} {path : String} {input : Except Failure State}
    {operation : Manager → State → Run State} (call : State → Call)
    (hpath : action.keeps? = some path)
    (hoperation : ∀ manager state, operation manager state = manager.perform (call state))
    (hcall : ∀ state, input = .ok state → s.call? w = some (call state))
    (hcreate : ∀ state, (∃ config, action = .create config path) ∨
      ∀ config, call state ≠ .create config) :
    ActionRun s w action (operate s w path input operation) := by
  unfold operate
  split
  · exact .stopped
  · rename_i manager hmanager
    split
    · exact .stopped
    · rename_i state
      rw [hoperation]
      apply settle_run hpath (run_result hmanager (hcall state rfl))
      intro kept source hresult
      refine (hcreate state).resolve_right fun hother ↦ ?_
      have hkept := Manager.createdState?_of_perform (Prod.ext hresult rfl) hother
      cases hkept

theorem update_run (config path : String) :
    ActionRun s w (.update config path) (update s w config path) := by
  unfold update
  split
  · exact .stopped
  · split
    · exact .stopped
    · exact .stopped
    · simp only
      split
      · exact .unchanged
      · exact .stopped

theorem act_run (haction : ∀ project interval, s.invocation.action ≠ .configure project interval) :
    ActionRun s w s.invocation.action (act s w) := by
  unfold act
  split
  · rename_i hact
    exact absurd hact (haction _ _)
  · rename_i config path hact
    rw [hact]
    refine operate_run .create rfl (fun _ _ ↦ rfl) (fun state hinput ↦ ?_)
      fun _ ↦ .inl ⟨config, rfl⟩
    simp only [Session.call?, hact, hinput]
    rfl
  · rename_i path hact
    rw [hact]
    refine operate_run .read rfl (fun _ _ ↦ rfl) (fun state hinput ↦ ?_) fun _ ↦ .inr nofun
    simp only [Session.call?, hact, hinput]
    rfl
  · rename_i config path hact
    rw [hact]
    exact update_run config path
  · rename_i path hact
    rw [hact]
    refine operate_run .delete rfl (fun _ _ ↦ rfl) (fun state hinput ↦ ?_) fun _ ↦ .inr nofun
    simp only [Session.call?, hact, hinput]
    rfl
  · rename_i key path hact
    rw [hact]
    split
    · exact .stopped
    · rename_i hnew
      refine operate_run (fun _ ↦ .importKey key) rfl (fun _ _ ↦ rfl) (fun _ _ ↦ ?_)
        fun _ ↦ .inr nofun
      simp only [Session.call?, hact, if_neg hnew]

/-! ## Outcomes -/

/-- What an effect leaves behind when no log is kept. -/
def Effect.outcome (effect : Effect) : Outcome :=
  match effect.result with
  | .ok output => ⟨0, output, "", effect.workspace⟩
  | .error failure => failedOutcome effect.workspace failure

theorem execute_of_quiet {world : World} {invocation : Invocation}
    (hquiet : invocation.logLevel = none) :
    execute world w invocation = (act (sessionOf world w invocation) w).outcome := by
  simp only [execute, hquiet]
  rfl

def Action.statePath? : Action → Option String
  | .update _ path => some path
  | action => action.keeps?

/-- What a command does to the files that it finds. -/
structure RespectsFiles (s : Session) (w : Workspace) (outcome : Outcome) : Prop where
  /-- A command on a namespace that fails leaves every file as it was. -/
  failed_kept : ∀ path, s.invocation.action.statePath? = some path →
    (∀ config, s.invocation.action ≠ .create config path) → outcome.exit ≠ 0 →
      outcome.workspace = w
  /-- So does the making of a namespace, unless one was made and could not be read back. -/
  failed_create_kept : ∀ config path, s.invocation.action = .create config path →
    (∀ state source, s.result? w ≠ some (.error (.failed (.createdUnread state source)))) →
      outcome.exit ≠ 0 → outcome.workspace = w
  /-- Comparing a declaration with a state changes nothing, however it ends. -/
  update_kept : ∀ config path, s.invocation.action = .update config path → outcome.workspace = w
  /-- Taking up a namespace changes no file that is there, however it ends. -/
  adopt_kept : ∀ key path, s.invocation.action = .adopt key path → ∀ place content,
    w.find? place = some (.file content) → outcome.workspace.find? place = some (.file content)
  /-- After a success the file of the state is loaded as the state that the call returned. -/
  loaded : ∀ path, s.invocation.action.keeps? = some path → outcome.exit = 0 →
    ∃ state, s.result? w = some (.ok state) ∧ loadState outcome.workspace path = .ok state

/-- An import saves its state where nothing stands. -/
theorem exists?_of_adopt {key path : String} {result : Except Stop State}
    (haction : s.invocation.action = .adopt key path) (hresult : s.result? w = some result) :
    w.exists? path = false := by
  simp only [Session.result?, Session.call?, haction] at hresult
  cases hthere : w.exists? path with
  | false => rfl
  | true =>
    rw [hthere] at hresult
    cases hmanager : s.manager.toOption with
    | none =>
      rw [hmanager] at hresult
      cases hresult
    | some manager =>
      rw [hmanager] at hresult
      cases hresult

theorem find?_of_saveState {path : String} {state : State} {place : Location} {found : Entry}
    (hsave : saveState w path state = .ok saved) (hnew : w.exists? path = false)
    (hfound : w.find? place = some found) : saved.find? place = some found :=
  Workspace.find?_of_write (saveState_eq_ok_iff.1 hsave) hnew hfound

theorem respectsFiles_of_stopped (failure : Failure) (lines : List LogLine) :
    RespectsFiles s w (Effect.outcome ⟨.error failure, w, lines⟩) where
  failed_kept _ _ _ _ := rfl
  failed_create_kept _ _ _ _ _ := rfl
  update_kept _ _ _ := rfl
  adopt_kept _ _ _ _ _ h := h
  loaded _ _ hexit := absurd hexit Nat.one_ne_zero

theorem respectsFiles_of_unchanged {config path : String} (text : String) (lines : List LogLine)
    (haction : s.invocation.action = .update config path) :
    RespectsFiles s w (Effect.outcome ⟨.ok text, w, lines⟩) where
  failed_kept _ _ _ _ := rfl
  failed_create_kept _ _ _ _ _ := rfl
  update_kept _ _ _ := rfl
  adopt_kept _ _ _ _ _ h := h
  loaded _ hpath _ := by
    rw [haction] at hpath
    cases hpath

theorem respectsFiles_of_returned {path : String} {state : State} (text : String)
    (lines : List LogLine) (hpath : s.invocation.action.keeps? = some path)
    (hresult : s.result? w = some (.ok state)) (hsave : saveState w path state = .ok saved) :
    RespectsFiles s w (Effect.outcome ⟨.ok text, saved, lines⟩) where
  failed_kept _ _ _ hexit := absurd rfl hexit
  failed_create_kept _ _ _ _ hexit := absurd rfl hexit
  update_kept _ _ haction := by
    rw [haction] at hpath
    cases hpath
  adopt_kept key other haction _ _ hfound := by
    have hnew : w.exists? other = false := exists?_of_adopt haction hresult
    rw [haction] at hpath
    cases hpath
    exact find?_of_saveState hsave hnew hfound
  loaded other hother _ := by
    cases hpath.symm.trans hother
    exact ⟨state, hresult, loadState_of_saveState hsave⟩

theorem respectsFiles_of_unread {config path : String} {state : State} {source : Error}
    (failure : Failure) (lines : List LogLine)
    (haction : s.invocation.action = .create config path)
    (hresult : s.result? w = some (.error (.failed (.createdUnread state source)))) :
    RespectsFiles s w (Effect.outcome ⟨.error failure, saved, lines⟩) where
  failed_kept other hother hcreate _ := by
    rw [haction] at hother
    cases hother
    exact absurd haction (hcreate config)
  failed_create_kept _ _ _ hunread _ := absurd hresult (hunread state source)
  update_kept _ _ hupdate := by cases haction.symm.trans hupdate
  adopt_kept _ _ hadopt := by cases haction.symm.trans hadopt
  loaded _ _ hexit := absurd hexit Nat.one_ne_zero

theorem ActionRun.respectsFiles {action : Action} {effect : Effect}
    (h : ActionRun s w action effect) (haction : s.invocation.action = action) :
    RespectsFiles s w effect.outcome := by
  cases h with
  | stopped => exact respectsFiles_of_stopped _ _
  | unchanged => exact respectsFiles_of_unchanged _ _ haction
  | returned hpath hresult hsave =>
    exact respectsFiles_of_returned _ _ (haction ▸ hpath) hresult hsave
  | unread hresult _ => exact respectsFiles_of_unread _ _ haction hresult

/-- Whatever stands in the files, the environment and the arguments, and whatever happens while the
operation runs, a command on a namespace without a log damages no file: what fails leaves all files
as they were, what changes nothing leaves them too, and what succeeds leaves the state that its call
returned in the file that it names. Printing is taken to succeed. It comes after the file is
written, so a screen that takes nothing could change the exit code but none of the files. -/
theorem fromArguments_respectsFiles {world : World} {arguments : List String}
    {invocation : Invocation} (hparse : Invocation.ofArguments arguments = .ok invocation)
    (haction : ∀ project interval, invocation.action ≠ .configure project interval)
    (hquiet : invocation.logLevel = none) :
    RespectsFiles (sessionOf world w invocation) w (fromArguments world w arguments) := by
  rw [fromArguments, hparse]
  simp only [execute_of_quiet hquiet]
  exact (act_run haction).respectsFiles rfl

/-- A namespace that tells nothing of itself is taken up into a new file, which is then loaded. -/
theorem fromArguments_respectsFiles_of_import :
    let world : World :=
      ⟨some "/cfg", none, ⟨none, none, none⟩, .ascii, fun _ ↦ .always (.ok (.object []))⟩
    let w : Workspace := ⟨["home"], []⟩
    let invocation : Invocation :=
      ⟨some "https://vcfa.example.com", none, none, .yaml, none, .adopt "p.n" "n.json"⟩
    let outcome := fromArguments world w
      ["import", "--endpoint", "https://vcfa.example.com", "--state", "n.json", "p.n"]
    outcome.exit = 0 ∧ ∃ state, (sessionOf world w invocation).result? w = some (.ok state) ∧
      loadState outcome.workspace "n.json" = .ok state := by
  intro world w invocation outcome
  have hexit : outcome.exit = 0 := by decide +kernel
  have hparse : Invocation.ofArguments
      ["import", "--endpoint", "https://vcfa.example.com", "--state", "n.json", "p.n"] =
        .ok invocation := by decide +kernel
  exact ⟨hexit, (fromArguments_respectsFiles hparse nofun rfl).loaded "n.json" rfl hexit⟩

end Command

end NamespaceLifecycle
