import NamespaceLifecycle.Main
import NamespaceLifecycle.Proofs.Creation
import NamespaceLifecycle.Proofs.Drift
import NamespaceLifecycle.Proofs.Endpoint
import NamespaceLifecycle.Proofs.Refusal
import NamespaceLifecycle.Proofs.Request
import NamespaceLifecycle.Proofs.Timing
import NamespaceLifecycle.Proofs.Naming
import NamespaceLifecycle.Proofs.Protocol
import NamespaceLifecycle.Proofs.CallingOff
import NamespaceLifecycle.Proofs.Interruption
import NamespaceLifecycle.Proofs.History
import NamespaceLifecycle.Proofs.Command
import NamespaceLifecycle.Proofs.Removal
import NamespaceLifecycle.Proofs.Spelling
import NamespaceLifecycle.Proofs.Making
import NamespaceLifecycle.Proofs.Agreement
import NamespaceLifecycle.Proofs.Change
import NamespaceLifecycle.Proofs.ImportKey
import NamespaceLifecycle.Proofs.Validation
import NamespaceLifecycle.Proofs.Response
import NamespaceLifecycle.Proofs.Server
import NamespaceLifecycle.Proofs.LogText
import NamespaceLifecycle.Proofs.PollCount
import NamespaceLifecycle.Proofs.Configure
import NamespaceLifecycle.Proofs.Leniency
