import DaonUser.Lib.ReadCommitted
import DaonUser.Recovery.Destinations

/-!
# Reservations of restore destinations

`reserve_destination` with the table `registered_restore_target_reservations`: its keys, its policies and
the trigger `guard_registered_restore_insert`. The other transactions change any of the rows that the checks
read, but no reservation. A setting of the session that is not set is the empty text here; the policy
refuses the row then.
-/

namespace DaonUser.Recovery

open Lib

/-! ## Rows -/

/-- `registered_restore_target_reservations`, without the moment of the reservation. -/
structure Reservation where
  registryGenerationId : String
  destinationId : String
  tenantId : String
  workspaceId : String
  requestId : String
  actorId : String
  destinationVersion : Int
  backupId : String
  manifestVersion : Int
  sourceManifestDigest : String
  physicalReceiptDigest : String
  targetDatabaseFingerprint : String
  targetBucketFingerprint : String
  ownerOperationId : String
  deriving DecidableEq

inductive ReservationLock where
  | restoreRequest (tenantId workspaceId requestId : String)
  | destination (registryGenerationId destinationId : String)
  | targetDatabase (fingerprint : String)
  | targetBucket (fingerprint : String)
  | request (tenantId workspaceId requestId : String)
  deriving DecidableEq

/-- The `PRIMARY KEY` and the `UNIQUE` keys. The last `UNIQUE` has the columns of another one. -/
def Reservation.keys (r : Reservation) : List ReservationLock :=
  [.destination r.registryGenerationId r.destinationId,
    .targetDatabase r.targetDatabaseFingerprint,
    .targetBucket r.targetBucketFingerprint,
    .request r.tenantId r.workspaceId r.requestId]

/-- The `CHECK`s. -/
def Reservation.Checks (r : Reservation) : Prop :=
  isSafeId r.registryGenerationId ∧ isSafeId r.destinationId ∧ 0 < r.destinationVersion ∧
    r.manifestVersion = 3 ∧ isDigest r.sourceManifestDigest ∧ isDigest r.physicalReceiptDigest ∧
    isDigest r.targetDatabaseFingerprint ∧ isDigest r.targetBucketFingerprint ∧
    isSafeId r.ownerOperationId

instance (r : Reservation) : Decidable r.Checks :=
  inferInstanceAs (Decidable (_ ∧ _))

inductive RestoreState where
  | requested
  | previewReady
  | authorized
  | restoring
  | verifying
  | completed
  | cancelled
  | failed
  | blocked
  deriving DecidableEq

/-- `restore_requests`. -/
structure RestoreRequest where
  tenantId : String
  workspaceId : String
  requestId : String
  backupId : String
  actorId : String
  state : RestoreState
  deriving DecidableEq

/-- `restore_previews`. -/
structure RestorePreview where
  tenantId : String
  workspaceId : String
  requestId : String
  deriving DecidableEq

inductive BackupState where
  | queued
  | capturing
  | verifying
  | ready
  | failed
  | expired
  deriving DecidableEq

/-- `backup_records`. -/
structure BackupRecord where
  tenantId : String
  workspaceId : String
  backupId : String
  state : BackupState
  deriving DecidableEq

/-- `backup_manifests`. -/
structure BackupManifest where
  tenantId : String
  workspaceId : String
  backupId : String
  manifestVersion : Int
  manifestDigest : String
  encryptedInventory : List UInt8
  deriving DecidableEq

/-- `identity_users`. -/
structure UserRow where
  userId : String
  state : String
  deriving DecidableEq

/-- `identity_auth_workspaces`. -/
structure WorkspaceRow where
  tenantId : String
  workspaceId : String
  workspaceKind : String
  deriving DecidableEq

/-- `identity_auth_tenant_roles` and `identity_org_tenant_memberships`. -/
structure TenantRoleRow where
  tenantId : String
  userId : String
  role : String
  state : String
  deriving DecidableEq

/-- `identity_auth_memberships`. -/
structure MembershipRow where
  tenantId : String
  workspaceId : String
  userId : String
  role : String
  state : String
  deriving DecidableEq

structure RestoreRecords where
  requests : List RestoreRequest
  previews : List RestorePreview
  backups : List BackupRecord
  manifests : List BackupManifest
  users : List UserRow
  workspaces : List WorkspaceRow
  tenantRoles : List TenantRoleRow
  memberships : List MembershipRow
  tenantMemberships : List TenantRoleRow
  deriving DecidableEq

@[ext] structure ReservationRows where
  reservations : List Reservation
  records : RestoreRecords
  deriving DecidableEq

/-- `app.tenant_id`, `app.workspace_id` and `app.actor_id`. -/
structure Settings where
  tenantId : String
  workspaceId : String
  actorId : String
  deriving DecidableEq

def isSetting (setting value : String) : Bool := setting ≠ "" && value = setting

/-- `registered_restore_actor_allowed`: a role in the tenant, where there is one, goes before one in
the workspace. -/
def registeredRestoreActorAllowed (settings : Settings) (records : RestoreRecords) (t w a : String) :
    Bool :=
  isSetting settings.tenantId t && isSetting settings.workspaceId w && isSetting settings.actorId a &&
    records.users.any (fun u => u.userId = a && u.state = "active") &&
    records.workspaces.any fun x => x.tenantId = t && x.workspaceId = w &&
      (let roles := records.tenantRoles.filter fun r =>
          r.tenantId = x.tenantId && r.userId = a && r.state = "active"
        let members := records.memberships.filter fun m => m.tenantId = x.tenantId &&
          m.workspaceId = x.workspaceId && m.userId = a && m.state = "active"
        if roles.isEmpty then members.any fun m => m.role = "workspace_admin"
        else roles.any fun r => (r.role = "personal_owner" && x.workspaceKind = "personal") ||
          (r.role = "organization_admin" && x.workspaceKind = "organization")) &&
      !records.tenantMemberships.any fun o => o.tenantId = t && o.userId = a &&
        x.workspaceKind = "organization" && o.state ≠ "active"

/-- `registered_restore_reservations_scope`, for reads and for new rows. -/
def inReservationScope (settings : Settings) (records : RestoreRecords) (r : Reservation) : Bool :=
  registeredRestoreActorAllowed settings records r.tenantId r.workspaceId r.actorId &&
    records.requests.any fun q => q.tenantId = r.tenantId && q.workspaceId = r.workspaceId &&
      q.requestId = r.requestId && q.actorId = r.actorId

/-! ## The trigger -/

inductive ReservationError where
  /-- `_reject()`. -/
  | rejected
  | scopeInvalid
  | modeConflict
  | parentConflict
  | backupConflict
  | manifestConflict
  | checkViolation
  | policyViolation
  /-- The database gives the transaction up. -/
  | aborted
  deriving DecidableEq

abbrev Statements := Program ReservationRows ReservationLock ReservationError

def reservableStates : List RestoreState := [.requested, .previewReady, .authorized]

/-- `decode('44524d33','hex')`. -/
def manifestMagic : List UInt8 := [0x44, 0x52, 0x4d, 0x33]

def RestoreRequest.isParent (settings : Settings) (new : Reservation) (q : RestoreRequest) : Bool :=
  q.tenantId = new.tenantId && q.workspaceId = new.workspaceId && q.requestId = new.requestId &&
    isSetting settings.tenantId q.tenantId && isSetting settings.workspaceId q.workspaceId

/-- `SELECT … FROM restore_requests … FOR UPDATE`. -/
def lockParent (settings : Settings) (new : Reservation) : Statements (Option RestoreRequest) :=
  Program.readLocked
    (fun rows => (rows.records.requests.filter (·.isParent settings new)).map fun q =>
      .restoreRequest q.tenantId q.workspaceId q.requestId)
    fun rows => rows.records.requests.find? (·.isParent settings new)

def hasPreview (records : RestoreRecords) (new : Reservation) : Bool :=
  records.previews.any fun p => p.tenantId = new.tenantId && p.workspaceId = new.workspaceId &&
    p.requestId = new.requestId

def findBackup (records : RestoreRecords) (new : Reservation) : Option BackupRecord :=
  records.backups.find? fun b => b.tenantId = new.tenantId && b.workspaceId = new.workspaceId &&
    b.backupId = new.backupId

def findManifest (records : RestoreRecords) (new : Reservation) : Option BackupManifest :=
  records.manifests.find? fun m => m.tenantId = new.tenantId && m.workspaceId = new.workspaceId &&
    m.backupId = new.backupId && m.manifestVersion = 3

def guardRegisteredRestoreInsert (settings : Settings) (new : Reservation) : Statements Unit := do
  let parent ← lockParent settings new
  let parent ← Program.require parent .scopeInvalid
  let conflict ← Program.read fun rows => new.actorId ≠ parent.actorId ||
    !registeredRestoreActorAllowed settings rows.records new.tenantId new.workspaceId new.actorId ||
    hasPreview rows.records new
  Program.ensure (conflict = false) .modeConflict
  Program.ensure (parent.backupId = new.backupId ∧ parent.state ∈ reservableStates) .parentConflict
  let backup ← Program.read fun rows => findBackup rows.records new
  Program.ensure (∃ b ∈ backup, b.state = .ready) .backupConflict
  let manifest ← Program.read fun rows => findManifest rows.records new
  Program.ensure (∃ m ∈ manifest, m.manifestDigest = new.sourceManifestDigest ∧
    m.encryptedInventory.take 4 = manifestMagic) .manifestConflict

/-! ## Calls -/

/-- No reservation has a key of the new one. -/
def Admits (rows : ReservationRows) (new : Reservation) : Prop :=
  ∀ r ∈ rows.reservations, ¬∃ key ∈ r.keys, key ∈ new.keys

instance (rows : ReservationRows) (new : Reservation) : Decidable (Admits rows new) :=
  inferInstanceAs (Decidable (∀ r ∈ rows.reservations, ¬∃ key ∈ r.keys, key ∈ new.keys))

/-- `INSERT … ON CONFLICT DO NOTHING`: the new row takes its keys, so it waits for the transactions that
have them. -/
def insertReservation (settings : Settings) (new : Reservation) : Statements Unit := do
  guardRegisteredRestoreInsert settings new
  let allowed ← Program.read fun rows => inReservationScope settings rows.records new
  Program.ensure (allowed = true) .policyViolation
  Program.ensure new.Checks .checkViolation
  Program.statement (fun rows => if Admits rows new then new.keys else [])
    (fun rows s => if Admits rows new then { s with reservations := s.reservations ++ [new] } else s)
    fun _ => Program.finish (.ok ())

structure RegisteredDestination where
  registryGenerationId : String
  destinationId : String
  version : Int
  expiresAt : String
  tenantId : String
  workspaceId : String
  actorId : String
  physicalReceiptDigest : String
  targetDatabaseFingerprint : String
  targetBucketFingerprint : String
  ownerOperationId : String
  observedAt : Int
  deriving DecidableEq

/-- The scope of a `RecoveryContext`. -/
structure ReservationContext where
  tenantId : String
  workspaceId : String
  actorId : String
  deriving DecidableEq

/-- A call of `reserve_destination`, with the settings of its session and what the clock says. -/
structure ReserveDestination where
  settings : Settings
  context : ReservationContext
  destination : RegisteredDestination
  requestId : String
  backupId : String
  manifestDigest : String
  now : Int
  deriving DecidableEq

def ReserveDestination.values (c : ReserveDestination) : Reservation where
  registryGenerationId := c.destination.registryGenerationId
  destinationId := c.destination.destinationId
  tenantId := c.context.tenantId
  workspaceId := c.context.workspaceId
  requestId := c.requestId
  actorId := c.context.actorId
  destinationVersion := c.destination.version
  backupId := c.backupId
  manifestVersion := 3
  sourceManifestDigest := c.manifestDigest
  physicalReceiptDigest := c.destination.physicalReceiptDigest
  targetDatabaseFingerprint := c.destination.targetDatabaseFingerprint
  targetBucketFingerprint := c.destination.targetBucketFingerprint
  ownerOperationId := c.destination.ownerOperationId

section Calls

variable {ν : Type} (p : Primitives ν)

/-- The checks before the first statement. -/
def ReserveDestination.Accepted (c : ReserveDestination) : Prop :=
  (c.destination.tenantId = c.context.tenantId ∧ c.destination.workspaceId = c.context.workspaceId ∧
    c.destination.actorId = c.context.actorId) ∧
  (∃ expires ∈ (time_ p (some (.str c.destination.expiresAt))).toOption, c.now < expires) ∧
  (0 ≤ c.now - c.destination.observedAt ∧ c.now - c.destination.observedAt ≤ 30000000) ∧
  isSafeId c.requestId ∧ isSafeId c.backupId ∧ isDigest c.manifestDigest ∧
  isDigest c.destination.physicalReceiptDigest ∧ isDigest c.destination.targetDatabaseFingerprint ∧
  isDigest c.destination.targetBucketFingerprint ∧ isSafeId c.destination.ownerOperationId

instance (c : ReserveDestination) : Decidable (c.Accepted p) :=
  inferInstanceAs (Decidable (_ ∧ _))

def findReservation (c : ReserveDestination) (rows : ReservationRows) : Option Reservation :=
  rows.reservations.find? fun r => r.registryGenerationId = c.values.registryGenerationId &&
    r.destinationId = c.values.destinationId && inReservationScope c.settings rows.records r

def reserveDestination (c : ReserveDestination) : Statements Unit := do
  Program.ensure (c.Accepted p) .rejected
  insertReservation c.settings c.values
  let row ← Program.read (findReservation c)
  Program.ensure (row = some c.values) .rejected

/-- A transaction on the database: a reservation, or one that changes what the checks read. -/
inductive RestoreCall where
  | reserve (c : ReserveDestination)
  | change (locks : RestoreRecords → List ReservationLock)
      (write : RestoreRecords → RestoreRecords → RestoreRecords)

def RestoreCall.program : RestoreCall → Statements Unit
  | reserve c => reserveDestination p c
  | change locks write => Program.statement (fun rows => locks rows.records)
      (fun v rows => { rows with records := write v.records rows.records })
      fun _ => Program.finish (.ok ())

def restoreDatabase {P : Type} [DecidableEq P] (records : RestoreRecords) :
    Machine (Cluster P RestoreCall ReservationRows ReservationLock ReservationError Unit)
      (Move P RestoreCall ReservationError) (Option (Ended RestoreCall ReservationError Unit)) :=
  readCommitted (RestoreCall.program p) ⟨[], records⟩

end Calls

end DaonUser.Recovery
