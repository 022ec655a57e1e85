import VideoProcess.ChannelOps.Payload

namespace VideoProcess.ChannelOps

open Data GoText

/-! The channel operations queue. -/

/-- Microseconds. -/
abbrev Time := Int

def minute : Time := 60 * 1000000

inductive QueueKind where
  | agentTick
  | planTask
  | executeTask
  | observeJob
  | publishTask
  | promotePublication
  | reconcilePublication
  | collectMetrics
  | accountHealth
  | sendAlert
  | cleanupExpired
  | learningRecompute
  | ingestDiscovery
deriving DecidableEq, Repr

inductive QueueStatus where
  | queued
  | running
  | succeeded
  | failed
  | deadLettered
deriving DecidableEq, Repr

structure QueueItemRow where
  id : Uuid
  kind : QueueKind
  idempotencyKey : String
  payloadJSON : Payload
  status : QueueStatus
  (priority attemptCount maxAttempts : Int)
  (runAfter createdAt : Time)
  lockedAt : Option Time
  (lockedBy lastError : Option String)
  deadLetterAt : Option Time
  (channelProfileID parentQueueItemID : Option Uuid)

structure ChannelProfileRow where
  id : Uuid
  enabled : Bool
  (haltedAt intakePausedAt : Option Time)

structure ProductionTaskRow where
  (id channelProfileID : Uuid)

structure PublicationRow where
  (id productionTaskID : Uuid)

structure PublishingAccountRow where
  (id channelProfileID : Uuid)

structure Directory where
  channels : Table ChannelProfileRow.id
  tasks : Table ProductionTaskRow.id
  publications : Table PublicationRow.id
  accounts : Table PublishingAccountRow.id

namespace Directory

variable (directory : Directory) (id : Uuid)

def taskChannel : Option Uuid :=
  (directory.tasks.find? id).map ProductionTaskRow.channelProfileID

def publicationChannel : Option Uuid :=
  (directory.publications.find? id).bind fun publication =>
    directory.taskChannel publication.productionTaskID

def accountChannel : Option Uuid :=
  (directory.accounts.find? id).map PublishingAccountRow.channelProfileID

def channel : Option Uuid := (directory.channels.find? id).map ChannelProfileRow.id

end Directory

structure QueueAuthority where
  channel : Option Uuid
  isGlobal : Bool
deriving DecidableEq

section

variable (directory : Directory)

def queueAuthority (item : QueueItemRow) : QueueAuthority :=
  let reference (key : String) : Option Uuid := (fieldText item.payloadJSON key).bind castUUID
  let payloadChannel := (reference "channel_id").bind directory.channel
  let payloadChannelValue := ((fieldText item.payloadJSON "channel_id").map btrim).filter (· ≠ [])
  match item.kind with
  | .planTask | .executeTask | .observeJob | .publishTask =>
    ⟨(reference "production_task_id").bind directory.taskChannel, false⟩
  | .promotePublication | .reconcilePublication | .collectMetrics =>
    ⟨(reference "publication_id").bind directory.publicationChannel, false⟩
  | .accountHealth => ⟨(reference "account_id").bind directory.accountChannel, false⟩
  | .agentTick | .learningRecompute | .ingestDiscovery => ⟨payloadChannel, false⟩
  | .sendAlert =>
    if payloadChannelValue = none then
      ⟨item.channelProfileID.bind directory.channel, item.channelProfileID.isNone⟩
    else ⟨payloadChannel, false⟩
  | .cleanupExpired => ⟨none, true⟩

def QueueKind.isIntake : QueueKind → Bool
  | .agentTick | .ingestDiscovery => true
  | _ => false

def Directory.executable (kind : QueueKind) (channel : Uuid) : Bool :=
  match directory.channels.find? channel with
  | none => false
  | some row => row.enabled && row.haltedAt.isNone &&
    (row.intakePausedAt.isNone || !kind.isIntake)

def claimPredicate (item : QueueItemRow) : Bool :=
  let authority := queueAuthority directory item
  authority.isGlobal || (match authority.channel with
    | none => false
    | some channel => item.channelProfileID = some channel &&
      directory.executable item.kind channel) ||
    (!authority.isGlobal && !item.kind.isIntake && (authority.channel = none ||
      item.channelProfileID ≠ authority.channel))

end

structure EnqueueOptions where
  kind : QueueKind
  idempotencyKey : String
  payload : Payload
  priority : Int
  runAfter : Option Time
  (channelProfileID parentQueueItemID : Option Uuid)
  maxAttempts : Int

abbrev QueueItems := Table QueueItemRow.id

def defaultMaxAttempts (configured : Int) : Int :=
  if 0 < configured then configured else 3

def EnqueueOptions.row (options : EnqueueOptions) (configured : Int)
  (now : Time) (fresh : Uuid) : QueueItemRow where
  id := fresh
  kind := options.kind
  idempotencyKey := options.idempotencyKey
  payloadJSON := options.payload
  status := .queued
  priority := options.priority
  attemptCount := 0
  maxAttempts :=
    if options.maxAttempts ≤ 0 then defaultMaxAttempts configured
    else options.maxAttempts
  runAfter := options.runAfter.getD now
  createdAt := now
  lockedAt := none
  lockedBy := none
  lastError := none
  deadLetterAt := none
  channelProfileID := options.channelProfileID
  parentQueueItemID := options.parentQueueItemID

/-- The item's id and the queue after the insertion; a duplicate key leaves
the row it names as it is. -/
def enqueue (configured : Int) (now : Time) (fresh : Uuid)
  (options : EnqueueOptions) (items : QueueItems) :
  Option (Uuid × QueueItems) :=
  match items.rows.find? fun row =>
    row.idempotencyKey = options.idempotencyKey with
  | some row => some (row.id, items)
  | none => (items.insert (options.row configured now fresh)).map (fresh, ·)

/-- `ORDER BY priority ASC, created_at ASC`. -/
def QueueItemRow.before (left right : QueueItemRow) : Bool :=
  left.priority < right.priority ||
    (left.priority = right.priority && left.createdAt ≤ right.createdAt)

def pickFirst : List QueueItemRow → Option QueueItemRow
  | [] => none
  | row :: rows =>
    match pickFirst rows with
    | none => some row
    | some other => some (if row.before other then row else other)

/-- What a claim runs against: the clock, the other tables, and the rows some
other transaction holds, which it skips. -/
structure ClaimScene where
  now : Time
  directory : Directory
  skipped : Uuid → Bool

def QueueItemRow.claimed (worker : String) (now : Time) (row : QueueItemRow) : QueueItemRow :=
  { row with
    status := .running
    lockedBy := some worker
    lockedAt := some now
    attemptCount := row.attemptCount + 1 }

def claimable (scene : ClaimScene) (wanted : QueueItemRow → Bool) (row : QueueItemRow) : Bool :=
  row.status = .queued && row.deadLetterAt.isNone && row.runAfter ≤ scene.now && wanted row &&
    claimPredicate scene.directory row && !scene.skipped row.id

def claimWhere (wanted : QueueItemRow → Bool) (scene : ClaimScene)
  (worker : String) (items : QueueItems) :
  Option QueueItemRow × QueueItems :=
  match pickFirst (items.rows.filter (claimable scene wanted)) with
  | none => (none, items)
  | some picked =>
    (some (picked.claimed worker scene.now), items.update (fun row => row.id = picked.id)
      (QueueItemRow.claimed worker scene.now) fun _ => rfl)

def claimNext (scene : ClaimScene) (worker : String) := claimWhere (fun _ => true) scene worker

def claimNextForKinds (kinds : List QueueKind) (scene : ClaimScene)
  (worker : String) (items : QueueItems) :
  Option QueueItemRow × QueueItems :=
  if kinds = [] then (none, items)
  else claimWhere (fun row => row.kind ∈ kinds) scene worker items

def claimNextForChannelAndKinds (channel : List Char) (kinds : List QueueKind)
  (scene : ClaimScene) (worker : String) (items : QueueItems) :
  Except UUIDError (Option QueueItemRow × QueueItems) :=
  if kinds = [] then .ok (none, items)
  else do
    requireUUID "channel_profile_id" channel
    return claimWhere (fun row => row.kind ∈ kinds && (row.channelProfileID.or
      (queueAuthority scene.directory row).channel) = castUUID channel)
      scene worker items

inductive QueueError where
  | noRunningLease (id : Uuid)
  | leaseLost
  | discoveryRunLost (id : Uuid)
deriving DecidableEq, Repr

variable (item : QueueItemRow)

def runningLease : Except QueueError (String × Time) :=
  match item.status, item.lockedBy, item.lockedAt with
  | .running, some worker, some since =>
    if trimSpace worker.toList = [] then .error (.noRunningLease item.id)
    else .ok (worker, since)
  | _, _, _ => .error (.noRunningLease item.id)

def QueueItemRow.leasedTo (row : QueueItemRow) (id : Uuid) (lease : String × Time) : Bool :=
  row.id = id && row.status = .running && row.lockedBy = some lease.1 && row.lockedAt = some lease.2

def endLease (change : QueueItemRow → QueueItemRow)
  (keeps : ∀ row, (change row).id = row.id) (items : QueueItems) :
  Except QueueError Unit × QueueItems :=
  match runningLease item with
  | .error lost => (.error lost, items)
  | .ok lease =>
    if items.rows.any fun row => row.leasedTo item.id lease then
      (.ok (), items.update (fun row => row.leasedTo item.id lease) change keeps)
    else (.error .leaseLost, items)

def QueueItemRow.unlocked (row : QueueItemRow) : QueueItemRow :=
  { row with lockedBy := none, lockedAt := none }

def QueueItemRow.done (row : QueueItemRow) : QueueItemRow :=
  { row.unlocked with status := .succeeded, lastError := none }

variable (message : String)

def QueueItemRow.deadLettered (now : Time) (row : QueueItemRow) : QueueItemRow :=
  { row.unlocked with
    status := .deadLettered
    lastError := some message
    deadLetterAt := some now }

def QueueItemRow.retried (runAfter : Time) (row : QueueItemRow) : QueueItemRow :=
  { row.unlocked with
    status := .queued
    lastError := some message
    runAfter := runAfter }

def QueueItemRow.released (row : QueueItemRow) : QueueItemRow :=
  { row.unlocked with
    status := .queued
    attemptCount := max (row.attemptCount - 1) 0 }

def doubled : Nat → Time → Time
  | 0, delay => delay
  | rounds + 1, delay =>
    if 30 * minute ≤ delay * 2 then 30 * minute
    else doubled rounds (delay * 2)

def retryDelay (attempt : Int) : Time := doubled ((max attempt 1) - 1).toNat (5 * minute)

def shouldDeadLetter (attemptCount maxAttempts : Int) : Bool :=
  (if maxAttempts ≤ 0 then 3 else maxAttempts) ≤ attemptCount

def markQueueDone := endLease item QueueItemRow.done fun _ => rfl

def markQueueFailedOrRetry
  (now : Time) (items : QueueItems) : Except QueueError Unit × QueueItems :=
  if shouldDeadLetter item.attemptCount item.maxAttempts then
    endLease item (QueueItemRow.deadLettered message now) (fun _ => rfl) items
  else
    endLease item (QueueItemRow.retried message (now + retryDelay item.attemptCount))
      (fun _ => rfl) items

def releaseQueueClaim := endLease item QueueItemRow.released fun _ => rfl

def markQueueRejected (now : Time) :=
  endLease item (QueueItemRow.deadLettered message now) fun _ => rfl

inductive DiscoveryRunStatus where
  | running
  | succeeded
  | failed
deriving DecidableEq, Repr

structure DiscoveryRunRow where
  queueItemID : Uuid
  status : DiscoveryRunStatus
  finishedAt : Option Time
  lastErrorCode : Option String

abbrev DiscoveryRuns := Table DiscoveryRunRow.queueItemID

def discoveryLeaseStaleAfter : Time := 15 * minute

def discoveryLeaseRecoveryCode : String := "discovery_lease_recovered"

section

variable (now : Time)

section

variable (row : QueueItemRow)

def staleDiscoveryLease : Bool :=
  row.kind = .ingestDiscovery && row.status = .running &&
    (row.lockedBy.all (fun worker => btrim worker.toList = []) ||
      row.lockedAt.all (· ≤ now - discoveryLeaseStaleAfter))

def QueueItemRow.recovered : QueueItemRow :=
  { row.done with deadLetterAt := none }

def QueueItemRow.requeued : QueueItemRow :=
  { row.retried discoveryLeaseRecoveryCode now with deadLetterAt := none }

end

def updateRunning (id : Uuid) (change : QueueItemRow → QueueItemRow)
  (keeps : ∀ row, (change row).id = row.id) (items : QueueItems) :
  Except QueueError QueueItems :=
  if items.rows.any fun row => row.id = id && row.status = .running then
    .ok (items.update (fun row => row.id = id && row.status = .running) change keeps)
  else .error .leaseLost

def failDiscoveryRun (id : Uuid) (runs : DiscoveryRuns) : Except QueueError DiscoveryRuns :=
  if runs.rows.any fun row => row.queueItemID = id && row.status = .running then
    .ok (runs.update (fun row => row.queueItemID = id && row.status = .running)
      (fun row => { row with
        status := .failed
        finishedAt := some now
        lastErrorCode := some discoveryLeaseRecoveryCode })
      fun _ => rfl)
  else .error (.discoveryRunLost id)

variable (status : Option DiscoveryRunStatus)

def closeDiscoveryRun (id : Uuid) (runs : DiscoveryRuns) : Except QueueError DiscoveryRuns :=
  if status = some .running then failDiscoveryRun now id runs else .ok runs

def returnLease (lease : QueueItemRow) (items : QueueItems) : Except QueueError QueueItems :=
  if lease.attemptCount < lease.maxAttempts then
    updateRunning lease.id (QueueItemRow.requeued now) (fun _ => rfl) items
  else
    updateRunning lease.id (QueueItemRow.deadLettered discoveryLeaseRecoveryCode now)
      (fun _ => rfl) items

def recoverLease (lease : QueueItemRow) (items : QueueItems) (runs : DiscoveryRuns) :
  Except QueueError (QueueItems × DiscoveryRuns) :=
  if status = some .succeeded then do
    let items ← updateRunning lease.id QueueItemRow.recovered (fun _ => rfl)
      items
    return (items, runs)
  else do
    let runs ← closeDiscoveryRun now status lease.id runs
    let items ← returnLease now lease items
    return (items, runs)

end

def recoverLeases (now : Time) (status : Uuid → Option DiscoveryRunStatus) :
  List QueueItemRow → QueueItems → DiscoveryRuns → Except QueueError (QueueItems × DiscoveryRuns)
  | [], items, runs => .ok (items, runs)
  | lease :: leases, items, runs => do
    let (items, runs) ← recoverLease now (status lease.id) lease items runs
    recoverLeases now status leases items runs

/-- The number of leases recovered and what the transaction commits; a
failure in the middle commits nothing. -/
def recoverStaleDiscoveryLeases (now : Time) (skipped : Uuid → Bool)
  (items : QueueItems) (runs : DiscoveryRuns) :
  Except QueueError (Nat × QueueItems × DiscoveryRuns) := do
  let leases := items.rows.filter fun row =>
    staleDiscoveryLease now row && !skipped row.id
  let status (id : Uuid) := (runs.find? id).map DiscoveryRunRow.status
  let after ← recoverLeases now status leases items runs
  return (leases.length, after)

end VideoProcess.ChannelOps
