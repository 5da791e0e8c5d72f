import PullSecrets.Main
import PullSecrets.Cli.Inspect
import PullSecrets.Cli.Start
import PullSecrets.Definition
import PullSecrets.Json.Yaml
import PullSecrets.Live.Answer
import PullSecrets.Watch.Trigger
import PullSecrets.Watch.Failure
import PullSecrets.Probe
import PullSecrets.Reconcile.Controller
import PullSecrets.Config
import PullSecrets.Selection
import PullSecrets.Reconcile.Target
import PullSecrets.Reconcile.Binding
import PullSecrets.Reconcile.PullSecret
import PullSecrets.Cluster.Answer
import PullSecrets.Cluster.Change
import PullSecrets.Backoff
import PullSecrets.Retry
import PullSecrets.Program.Run
import PullSecrets.Selector.Term
import PullSecrets.Puller.Basic
import PullSecrets.Object.Secret
import PullSecrets.Object.ServiceAccount
import PullSecrets.Object.Namespace
import PullSecrets.Json.Node
import PullSecrets.Timestamp
import PullSecrets.Json.Writer
import PullSecrets.Json.Tree
import PullSecrets.Binary64.Shortest
import PullSecrets.Json.Basic
import PullSecrets.Dict
import PullSecrets.Address.Basic
import PullSecrets.Address.Query
import PullSecrets.Text.Hex
import PullSecrets.Text.Utf8
import PullSecrets.Text.Blank
import PullSecrets.Text.Quoted
import PullSecrets.Text.Decimal
import PullSecrets.Proofs.Quiescence
import PullSecrets.Proofs.Restoring
import PullSecrets.Proofs.Sharing
import PullSecrets.Proofs.Malformed
import PullSecrets.Proofs.Queries
import PullSecrets.Proofs.Bystanders
import PullSecrets.Proofs.Conflicts
import PullSecrets.Proofs.Watching
import PullSecrets.Proofs.Waiting
import PullSecrets.Proofs.Statuses
import PullSecrets.Proofs.Commuting
import PullSecrets.Proofs.Identities
import PullSecrets.Proofs.Documents
import PullSecrets.Proofs.Counting
import PullSecrets.Proofs.Rereading
import PullSecrets.Proofs.Serialization
import PullSecrets.Proofs.Renaming
import PullSecrets.Proofs.Departing
import PullSecrets.Proofs.Scope
import PullSecrets.Proofs.Mirror
import PullSecrets.Proofs.Reporting
import PullSecrets.Proofs.Atomicity
import PullSecrets.Proofs.Rotation
import PullSecrets.Proofs.Owners
import PullSecrets.Proofs.Sameness
import PullSecrets.Proofs.Grammar
import PullSecrets.Proofs.Acceptance
import PullSecrets.Proofs.Presentation
import PullSecrets.Proofs.Choosing
import PullSecrets.Proofs.Expiry
import PullSecrets.Proofs.Requests
import PullSecrets.Proofs.Answers
import PullSecrets.Proofs.Attempts
import PullSecrets.Proofs.Merging
import PullSecrets.Proofs.Precedence
