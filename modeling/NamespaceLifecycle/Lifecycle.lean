import NamespaceLifecycle.Identity
import NamespaceLifecycle.Service

/-!
# The life of a namespace

Making a namespace submits its declared inputs, waits until the service has completed it, and reads
it once more. When only that last reading fails, the error holds the state with its identity, so
that nothing is lost. Removing one waits until it is gone and clears the identity. Reading and
importing send one request each, and changing a namespace is always refused.

All that can be checked without the service is checked before the first request.
-/

namespace NamespaceLifecycle

/-- The times for the waits; making a namespace takes that for removing when it has none. -/
structure Timeouts where
  create : Option Duration
  delete : Duration
  deriving DecidableEq, Repr, Inhabited

namespace Timeouts

def usual : Timeouts := ⟨none, WaitPolicy.usualTimeout⟩

def effectiveCreate (t : Timeouts) : Duration := t.create.getD t.delete

end Timeouts

/-- Who keeps namespaces at an endpoint, with the manner and the times of the waits. -/
structure Manager where
  endpoint : Endpoint
  policy : WaitPolicy
  timeouts : Timeouts

namespace Manager

def cancellable {α : Type} (identity : Identity) (target : String) (request : Run α) : Run α :=
  Run.unlessCalledOff (.cancelled identity.project identity.name target) request

/-- Checks that a wait under the policy could start now. -/
def checkDeadline (policy : WaitPolicy) : Run Unit := do
  let moment ← Run.now
  let _ ← Run.ofExcept (policy.deadline moment)
  return ()

def identityOf (state : State) : Except Error Identity :=
  match state.id with
  | some id => Identity.decode id
  | none => .error (.validation "id" "resource has no identity")

def refresh (m : Manager) (identity : Identity) : Run State := do
  let object ← m.endpoint.fetch identity
  Run.ofExcept (identity.view object)

/-- The last step of making a namespace: reads it, and keeps its identity when that fails. -/
def readBack (m : Manager) (config : State) (identity : Identity) (created : State) :
    Run State := do
  match ← Run.attempt (cancellable identity "read" (m.refresh identity)) with
  | .ok refreshed => return { refreshed with namePrefix := config.namePrefix }
  | .error source => do
    Run.log .warn (Error.label ++ " " ++ identity.name ++
      " created but reading it back failed: " ++ source.message)
    Run.fail (.createdUnread created source)

def create (m : Manager) (config : State) : Run State := do
  Run.ofExcept config.validate
  let policy := m.policy.withTimeout m.timeouts.effectiveCreate
  checkDeadline policy
  let submitted ← cancellable ⟨config.projectName, config.namePrefix⟩ "created"
    (m.endpoint.submit config.projectName config.toObject)
  let identity : Identity := ⟨config.projectName, submitted.name⟩
  Run.log .info (Error.label ++ " " ++ identity.name ++ " submitted in Project " ++
    identity.project)
  let object ← m.endpoint.awaitCreated policy identity
  Run.log .info (Error.label ++ " " ++ identity.name ++ " created in Project " ++ identity.project)
  let created ← Run.ofExcept (identity.view object)
  m.readBack config identity { created with namePrefix := config.namePrefix }

/-- Reads a namespace. When the object does not tell the beginning of its name, the declared one
stays. -/
def read (m : Manager) (state : State) : Run State := do
  let identity ← Run.ofExcept (identityOf state)
  let refreshed ← cancellable identity "read" (m.refresh identity)
  if refreshed.namePrefix = "" then return { refreshed with namePrefix := state.namePrefix }
  else return refreshed

def update (_m : Manager) (prior planned : State) : Run State :=
  Run.fail (prior.updateError planned)

def delete (m : Manager) (state : State) : Run State := do
  let identity ← Run.ofExcept (identityOf state)
  let policy := m.policy.withTimeout m.timeouts.delete
  checkDeadline policy
  cancellable identity "deleted" (m.endpoint.remove identity)
  Run.log .info (Error.label ++ " " ++ identity.name ++ " deletion requested in Project " ++
    identity.project)
  m.endpoint.awaitDeleted policy identity
  Run.log .info (Error.label ++ " " ++ identity.name ++ " deleted from Project " ++
    identity.project)
  return { state with id := none }

/-- An object that does not exist, said of an import. -/
def importError : Error → Error
  | .notFound _ project name => .notFound .importing project name
  | other => other

def importKey (m : Manager) (key : String) : Run State := do
  let identity ← Run.ofExcept (Identity.ofImportKey key)
  match ← Run.attempt (cancellable identity "imported" (m.endpoint.fetch identity)) with
  | .error error => Run.fail (importError error)
  | .ok object => do
    let state ← Run.ofExcept (identity.view object)
    Run.log .info (Error.label ++ " " ++ identity.name ++ " imported from Project " ++
      identity.project)
    return state

end Manager

end NamespaceLifecycle
