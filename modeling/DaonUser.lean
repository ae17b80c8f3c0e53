import DaonUser.Lib.Machine
import DaonUser.Lib.Dict
import DaonUser.Lib.Call
import DaonUser.Base
import DaonUser.Retention.Model
import DaonUser.Retention.Service
import DaonUser.Retention.Spec
import DaonUser.Retention.Invariant
import DaonUser.Retention.Hold
import DaonUser.Retention.Terminal
import DaonUser.ObjectQueue.Model
import DaonUser.ObjectQueue.Status
import DaonUser.Sync.Hydration
import DaonUser.Sync.Conflict
import DaonUser.Sync.Reindex
import DaonUser.Audit.Pages
import DaonUser.Audit.Head
import DaonUser.Audit.Durable
import DaonUser.Identity.Protection
import DaonUser.Identity.Browser
import DaonUser.Identity.Grants
import DaonUser.Lib.ReadCommitted
import DaonUser.Authorization.Spec
import DaonUser.Authorization.Rerun
import DaonUser.Authorization.Suspension
import DaonUser.Authorization.Escalation
import DaonUser.DocumentQueue.Attempts
import DaonUser.ObjectQueue.Replay
import DaonUser.LocalStorage.Resumable
import DaonUser.Notebook.Exact
import DaonUser.Notifications.Pages
import DaonUser.Readiness.Dispatch
import DaonUser.QuestionAnswering.Grounded
import DaonUser.Canon.Ledger
import DaonUser.Studio.Progress
import DaonUser.Studio.Fenced
import DaonUser.Recovery.Destinations
import DaonUser.Recovery.Reserved
import DaonUser.Studio.Supported
import DaonUser.Egress.Lawful
import DaonUser.Egress.Effective
import DaonUser.Studio.Export
import DaonUser.RecoveryCapture.Captures
import DaonUser.WebsiteImport.Fenced
import DaonUser.RunCost.Ledger
import DaonUser.Restore.Executions
import DaonUser.Sync.Atomic
import DaonUser.Sync.TransportKey
import DaonUser.Sync.Manifest
import DaonUser.OfflineBridge.Paths
import DaonUser.Retention.Atomic
import DaonUser.LocalStorage.Vectors
import DaonUser.LocalStorage.Bundles
import DaonUser.Identity.Deletion
import DaonUser.Identity.Refresh
import DaonUser.Lib.Rounds
import DaonUser.OfflineBridge.Batches
import DaonUser.Snapshot.Labels
import DaonUser.Snapshot.ImageArchive
import DaonUser.Snapshot.Streams
import DaonUser.License.Creation
import DaonUser.WebsiteFetch.Body
import DaonUser.RecoveryCapture.Manifests
import DaonUser.Sources.Workbook
import DaonUser.Sources.Scan
import DaonUser.Sources.Wav
