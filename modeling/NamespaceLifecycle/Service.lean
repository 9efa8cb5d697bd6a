import NamespaceLifecycle.Endpoint
import NamespaceLifecycle.Field
import NamespaceLifecycle.Wait

/-!
# Requests to the service

Each operation here sends one request: submit an object to the collection of its project, read a
namespace, or ask for its removal. The service completes and removes objects on its own, so there
are two waits, each of which reads the namespace again and again until its phase settles the matter.
The service names a phase in letters of any case: the phase of an error ends the waiting, the target
fulfils it, and every other phase means that more is to come.
-/

namespace NamespaceLifecycle

/-- Where a phase stands on the way to a target. -/
inductive PhaseClass where
  | pending
  | succeeded
  | failed
  deriving DecidableEq, Repr

def PhaseClass.text : PhaseClass → String
  | pending => "pending"
  | succeeded => "succeeded"
  | failed => "failed"

namespace Phase

def created : String := "CREATED"

def deleted : String := "DELETED"

def error : String := "ERROR"

/-- A phase without regard to the case of its letters. -/
def normalize (phase : String) : String := phase.toUpper

def classify (phase target : String) : PhaseClass :=
  if normalize phase = error then .failed
  else if normalize phase = normalize target then .succeeded
  else .pending

end Phase

namespace Endpoint

def objectOf : Answer → Except TransportError RemoteObject
  | .ok value =>
    match RemoteObject.ofJson value with
    | .ok object => .ok object
    | .error cause => .error (.decode cause)
  | .error error => .error error

/-- The name of an object as messages of the log give it. -/
def named (name project : String) : String :=
  Error.label ++ " " ++ name ++ " in Project " ++ project

def submit (e : Endpoint) (project : String) (object : RemoteObject) : Run RemoteObject := do
  let url ← Run.ofExcept (e.url project none)
  let answer ← Run.send ⟨.post, url, some object.toJson⟩
  match objectOf answer with
  | .error error =>
    Run.fail (.ofTransport .creating project object.metadata.generateName error)
  | .ok created =>
    if created.name = "" then
      Run.fail (.incompleteResponse .creating project
        ("the created " ++ Error.label ++ " has no name"))
    else do
      Run.log .debug (Error.label ++ " " ++ created.name ++ " submitted in Project " ++ project ++
        " (phase " ++ Text.quoted created.phase ++ ")")
      return created

def fetch (e : Endpoint) (identity : Identity) : Run RemoteObject := do
  let url ← Run.ofExcept (e.url identity.project (some identity.name))
  let answer ← Run.send ⟨.get, url, none⟩
  match objectOf answer with
  | .error error => Run.fail (.ofTransport .reading identity.project identity.name error)
  | .ok object => return object

/-- Asks for the removal of a namespace. What the service answers does not matter. -/
def remove (e : Endpoint) (identity : Identity) : Run Unit := do
  let url ← Run.ofExcept (e.url identity.project (some identity.name))
  let answer ← Run.send ⟨.delete, url, none⟩
  match answer with
  | .error error => Run.fail (.ofTransport .deleting identity.project identity.name error)
  | .ok _ => return ()

def logPhase (identity : Identity) (phase : String) : Run Unit :=
  Run.log .debug (Error.label ++ " " ++ identity.name ++ " current phase is " ++ phase)

def backendError {α : Type} (identity : Identity) : Run (PollOutcome α) := do
  Run.log .warn (named identity.name identity.project ++ " is in an ERROR state")
  return .failed (.backendErrorState identity.project identity.name)

/-- What the phase of an object means to one who waits for a target; a target that is reached
yields the given value. -/
def judge {α : Type} (identity : Identity) (target : String) (object : RemoteObject) (value : α) :
    Run (PollOutcome α) := do
  logPhase identity object.phase
  match Phase.classify object.phase target with
  | .succeeded => return .done value
  | .pending => return .pending
  | .failed => backendError identity

def pollCreated (e : Endpoint) (identity : Identity) : Run (PollOutcome RemoteObject) := do
  match ← Run.attempt (e.fetch identity) with
  | .error error => return .failed error
  | .ok object => judge identity Phase.created object object

/-- One look at a namespace that is being removed. One that does not exist is gone. -/
def pollDeleted (e : Endpoint) (identity : Identity) : Run (PollOutcome Unit) := do
  match ← Run.attempt (e.fetch identity) with
  | .error error =>
    if error.isNotFound then do
      logPhase identity Phase.deleted
      return .done ()
    else return .failed error
  | .ok object => judge identity Phase.deleted object ()

def awaitCreated (e : Endpoint) (policy : WaitPolicy) (identity : Identity) : Run RemoteObject :=
  Run.waitUntil policy ⟨identity, "created"⟩ fun _ => e.pollCreated identity

/-- Waits until a namespace is gone. -/
def awaitDeleted (e : Endpoint) (policy : WaitPolicy) (identity : Identity) : Run Unit :=
  Run.waitUntil policy ⟨identity, "deleted"⟩ fun _ => e.pollDeleted identity

end Endpoint

/-- A namespace cannot be changed: the error names the declared fields that differ. -/
def State.updateError (prior planned : State) : Error :=
  .unsupportedOperation ((prior.changedFields planned).map Field.key)

end NamespaceLifecycle
