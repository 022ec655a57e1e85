import VideoProcess.ChannelOps.QueueAuthority
import VideoProcess.Program.Basic

namespace VideoProcess.ChannelOps.Tick

open Data GoText Program

/-! The agent tick: a transaction that prepares candidates, the policy service,
and a last transaction that prepares them again and writes. -/

inductive TickError where
  | queueLeaseLost
  | queueAuthorityInvalid
  | channelExecutionBlocked
  | handlerSnapshotStale
  | failed (message : String)
deriving DecidableEq, Repr

def ensure (condition : Bool) (error : TickError) : Except TickError Unit :=
  if condition then .ok () else .error error

structure TickCandidate where
  candidateID : String
  (account discoverySignal : Option Uuid)
  rejected : Bool
  /-- The fields that only the policy and the hashes read. -/
  details : Json

structure TickResult where
  dryRun : Bool
  (accepted rejected : List TickCandidate)

namespace TickResult

def tasksToCreate (result : TickResult) : Nat :=
  if result.dryRun then 0 else result.accepted.length

def candidates (result : TickResult) : List TickCandidate := result.accepted ++ result.rejected

end TickResult

def acceptedOf (candidates : List TickCandidate) : List TickCandidate :=
  candidates.filter fun candidate => !candidate.rejected

def rejectedOf (candidates : List TickCandidate) : List TickCandidate :=
  candidates.filter fun candidate => candidate.rejected

structure AgentTickOptions where
  planDelay : Time
  pauseIntakeAfterSelection : Bool
  canaryRunID : String

structure PolicyVersion where
  (policyKey version content : String)
deriving DecidableEq

inductive Decision where
  | accepted
  | rejected
deriving DecidableEq, Repr

structure CandidateFeatureFacts where
  (candidateID featureSchemaVersion : String)
  details : Json

structure CandidateDecisionFacts where
  decision : Decision
  details : Json

structure CandidateSnapshot where
  features : CandidateFeatureFacts
  decided : CandidateDecisionFacts
  policyVersion : String
  featureAsOf : Time
  (candidateSetHash featureHash decisionHash : String)

structure SnapshotSet where
  policyVersion : String
  featureAsOf : Time
  candidateSetHash : String
  candidates : List CandidateSnapshot

structure ChannelProfileRow extends ChannelOps.ChannelProfileRow where
  dryRun : Bool
  configVersion : Int
  ownedSeedInventoryID : Option Uuid
  intakePauseReason : Option String

inductive ReplayStatus where
  | legacyUnreplayable
  | snapshotPending
  | snapshotComplete
deriving DecidableEq, Repr

structure AgentTickAuditRow where
  (id channelProfileID : Uuid)
  tickID : List Char
  dryRun : Bool
  (candidatesScored tasksSelected tasksRejected : Nat)
  (guardsTriggeredJSON decisionSummaryJSON : String)
  policyVersionID : Option Uuid
  candidateSetHash : Option String
  featureAsOf : Option Time
  replayStatus : ReplayStatus

structure PolicyVersionRow where
  id : Uuid
  policy : PolicyVersion

structure CandidateFeatureSnapshotRow where
  (id tickAuditID policyVersionID : Uuid)
  candidateID : String
  featureAsOf : Time
  (candidateSetHash featureHash : String)

structure DecisionAuditEntryRow where
  (id tickAuditID channelProfileID : Uuid)
  candidateID : String
  selected : Bool
  (createdTaskID featureSnapshotID policyVersionID : Option Uuid)
  (candidateSetHash decisionHash : Option String)
  decision : Option Decision

structure ProductionTaskRow extends ChannelOps.ProductionTaskRow where
  targetAccountID : Uuid
  discoverySignalID : Option Uuid
  /-- `rationale_json ->> 'candidate_id'`. -/
  candidateID : String
  stateUpdatedAt : Time

structure DiscoverySignalRow where
  id : Uuid
  converted : Bool
  convertedTaskID : Option Uuid

structure Tables where
  channels : Table fun row : ChannelProfileRow => row.id
  audits : Table AgentTickAuditRow.id
  policies : Table PolicyVersionRow.id
  snapshots : Table CandidateFeatureSnapshotRow.id
  entries : Table DecisionAuditEntryRow.id
  tasks : Table fun row : ProductionTaskRow => row.id
  signals : Table DiscoverySignalRow.id
  items : QueueItems

/-! A transaction: the tables as it sees them, and the identifiers that
`gen_random_uuid()` returns in it, in order. -/

structure Session where
  tables : Tables
  uuids : List Uuid

abbrev Tx := StateT Session (Except TickError)

namespace Tx

variable {α β : Type}

def attempt (result : Except TickError α) : Tx α := fun session =>
  match result with
  | .error error => .error error
  | .ok value => .ok (value, session)

def genRandomUUID : Tx Uuid := fun session =>
  match session.uuids with
  | [] => .error (.failed "gen_random_uuid")
  | id :: rest => .ok (id, { session with uuids := rest })

def read : Tx Tables := fun session => .ok (session.tables, session)

def write (change : Tables → Option Tables) : Tx Unit := fun session =>
  match change session.tables with
  | none => .error (.failed "duplicate key value violates unique constraint")
  | some tables => .ok ((), { session with tables := tables })

end Tx

/-- `$1::uuid`. -/
def castParameter (text : List Char) : Except TickError Uuid :=
  match castUUID text with
  | none => .error (.failed "invalid input syntax for type uuid")
  | some id => .ok id

structure TickPreparation where
  channel : ChannelProfileRow
  candidates : List TickCandidate
  taskCount : Nat
  inputDigest : String
  (channelID bucket : List Char)
  options : AgentTickOptions
  now : Time
  owned : Bool
  policy : PolicyVersion
  features : SnapshotSet

structure AlertPayload where
  (kind severity : String)
  (channelID resourceID : List Char)
  message : String
  details : Json
  createdAt : Option Time
  dedupeKey : List Char

/-- What the tick calls and this development does not look into. -/
structure Services where
  round : Rounding
  configuredMaxAttempts : Int
  /-- `SchedulerBucket(now, 60)`. -/
  (schedulerBucket utcBucket : Time → List Char)
  rfc3339 : Time → String
  agentTickOptionsFromPayload : Payload → Except TickError AgentTickOptions
  /-- The lanes, accounts, seeds, signals and formats of a channel. -/
  tickInputs : Tables → Uuid → Time → Except TickError Json
  buildTickCandidates : ChannelProfileRow → Json → List Char → List TickCandidate
  handlerSnapshotDigest : ChannelProfileRow → Json → List TickCandidate →
    Nat → Except TickError String
  prepareOwnedTick : Tables → ChannelProfileRow → List Char → AgentTickOptions → Time →
    Except TickError (List TickCandidate × Nat × String)
  finalizeOwnedTick : TickPreparation → TickPreparation → List TickCandidate → Tx Unit
  buildBaselinePolicy : ChannelProfileRow → Except TickError PolicyVersion
  buildCandidateSnapshots : PolicyVersion → List TickCandidate → Time → Except TickError SnapshotSet
  /-- The commit and hash checks of `ResolvePolicyVersion`. -/
  validatePolicy : PolicyVersion → Except TickError Unit
  featureSchemaVersion : String
  featureFactsHash : CandidateFeatureFacts → Except TickError String
  snapshotDecisionHash : CandidateSnapshot → Except TickError String
  /-- The hash of the identities in the order of their candidates. -/
  candidateSetHash : List CandidateSnapshot → Except TickError String
  decisionSummary : TickPreparation → TickResult → SnapshotSet → Except TickError String
  candidateGuardSummaries : List TickCandidate → Except TickError String

variable (services : Services)

section

variable (tables : Tables)

def assertQueueLease (item : QueueItemRow) : Except TickError Unit :=
  match item.status, item.lockedBy, item.lockedAt with
  | .running, some lockedBy, some lockedAt =>
    ensure (trimSpace lockedBy.toList ≠ [] && (tables.items.find? item.id).any fun row =>
      row.status = .running && row.lockedBy = some lockedBy &&
        row.lockedAt = some lockedAt) .queueLeaseLost
  | _, _, _ => .error .queueLeaseLost

def Tables.channel (id : Uuid) : Option Uuid :=
  (tables.channels.find? id).map fun row => row.id

def lockExecutableChannel (id : Uuid) : Except TickError Unit :=
  ensure ((tables.channels.find? id).any fun row =>
    row.enabled && row.haltedAt.isNone && row.intakePausedAt.isNone)
    .channelExecutionBlocked

def queueExecutionFence (item : QueueItemRow) : Except TickError Unit := do
  assertQueueLease tables item
  match resolveReference item "channel_id" tables.channel
    (firstString services.round item.payloadJSON ["channel_id"]) with
  | .ok (some channel) => do
    ensure (item.channelProfileID = some channel) .queueAuthorityInvalid
    lockExecutableChannel tables channel
  | _ => .error .queueAuthorityInvalid

def captureTickFacts (preparation : TickPreparation) : Except TickError TickPreparation := do
  let policy ← services.buildBaselinePolicy preparation.channel
  let features ← services.buildCandidateSnapshots policy
    preparation.candidates preparation.now
  return { preparation with policy := policy, features := features }

def uncaptured (channel : ChannelProfileRow) (candidates : List TickCandidate)
  (taskCount : Nat) (inputDigest : String) (channelID bucket : List Char)
  (options : AgentTickOptions) (now : Time) (owned : Bool) :
  TickPreparation where
  channel := channel
  candidates := candidates
  taskCount := taskCount
  inputDigest := inputDigest
  channelID := channelID
  bucket := bucket
  options := options
  now := now
  owned := owned
  policy := ⟨"", "", ""⟩
  features := ⟨"", 0, "", []⟩

def getChannelProfile (id : Uuid) : Except TickError ChannelProfileRow :=
  match tables.channels.find? id with
  | none => .error (.failed "no rows in result set")
  | some row => .ok row

def prepareTick (channelID bucket : List Char) (options : AgentTickOptions) (now : Time) :
  Except TickError TickPreparation := do
  let id ← castParameter channelID
  let channel ← getChannelProfile tables id
  ensure channel.intakePausedAt.isNone .channelExecutionBlocked
  if channel.ownedSeedInventoryID.isSome then
    let owned ← services.prepareOwnedTick tables channel bucket options now
    captureTickFacts services (uncaptured channel owned.1 owned.2.1 owned.2.2
      channelID bucket options now true)
  else
    let inputs ← services.tickInputs tables id now
    let candidates := services.buildTickCandidates channel inputs bucket
    let taskCount := (tables.tasks.rows.filter fun task =>
      task.channelProfileID = id).length
    let digest ← services.handlerSnapshotDigest channel inputs candidates
      taskCount
    captureTickFacts services (uncaptured channel candidates taskCount digest
      channelID bucket options now false)

end

def TickPreparation.validate (preparation current : TickPreparation) : Except TickError Unit :=
  ensure (preparation.channelID = current.channelID && preparation.bucket = current.bucket &&
    preparation.inputDigest = current.inputDigest) .handlerSnapshotStale

def zeroTime : Time := -62135596800000000

def validateSnapshot (set : SnapshotSet) (seen : List String)
  (snapshot : CandidateSnapshot) : Except TickError Unit := do
  ensure (trimSpace snapshot.features.candidateID.toList ≠ [] &&
    !seen.contains snapshot.features.candidateID)
    (.failed "duplicate or missing candidate identity")
  ensure (snapshot.policyVersion = set.policyVersion && snapshot.featureAsOf = set.featureAsOf &&
    snapshot.candidateSetHash = set.candidateSetHash &&
    snapshot.features.featureSchemaVersion = services.featureSchemaVersion)
    (.failed "snapshot set identity mismatch")
  let featureHash ← services.featureFactsHash snapshot.features
  ensure (featureHash = snapshot.featureHash) (.failed "snapshot feature hash mismatch")
  let decisionHash ← services.snapshotDecisionHash snapshot
  ensure (decisionHash = snapshot.decisionHash) (.failed "snapshot decision hash mismatch")

def validateSnapshots (set : SnapshotSet) :
  List String → List CandidateSnapshot → Except TickError Unit
  | _, [] => .ok ()
  | seen, snapshot :: rest => do
    validateSnapshot services set seen snapshot
    validateSnapshots set (snapshot.features.candidateID :: seen) rest

def validateSnapshotSet (set : SnapshotSet) : Except TickError Unit := do
  ensure (set.featureAsOf ≠ zeroTime && set.policyVersion ≠ "")
    (.failed "missing snapshot identity")
  validateSnapshots services set [] set.candidates
  let hash ← services.candidateSetHash set.candidates
  ensure (hash = set.candidateSetHash) (.failed "candidate set hash mismatch")

def rebase (features : SnapshotSet) (snapshot : CandidateSnapshot) :
  Except TickError CandidateSnapshot := do
  match features.candidates.reverse.find? fun source =>
    source.features.candidateID = snapshot.features.candidateID with
  | none => .error (.failed "decision candidate missing preparation facts")
  | some source => do
    let rebased : CandidateSnapshot :=
      { snapshot with
        features := source.features
        featureHash := source.featureHash
        candidateSetHash := features.candidateSetHash }
    let hash ← services.snapshotDecisionHash rebased
    return { rebased with decisionHash := hash }

def decisionSnapshots (preparation : TickPreparation) (result : TickResult) :
  Except TickError SnapshotSet := do
  ensure (preparation.features.policyVersion = preparation.policy.version &&
    preparation.features.featureAsOf = preparation.now)
    (.failed "snapshot preparation policy or asOf mismatch")
  let final ← services.buildCandidateSnapshots preparation.policy
    result.candidates preparation.features.featureAsOf
  validateSnapshotSet services preparation.features
  ensure (final.candidates.length = preparation.features.candidates.length)
    (.failed "decision candidate cardinality mismatch")
  let candidates ← final.candidates.mapM
    (rebase services preparation.features)
  return { final with
    candidateSetHash := preparation.features.candidateSetHash
    candidates := candidates }

structure SnapshotAuditWrite where
  (tickID policyID : Uuid)
  snapshots : SnapshotSet
  (snapshotIDs decisionIDs : Dict String Uuid)
  expectedTasks : Nat
  replay : Bool

/-- `ON CONFLICT (policy_key, version) DO NOTHING`. -/
def insertPolicyVersion (policy : PolicyVersion) : Tx Unit := do
  let id ← Tx.genRandomUUID
  Tx.write fun tables =>
    if tables.policies.rows.any fun row =>
      row.policy.policyKey = policy.policyKey &&
        row.policy.version = policy.version then some tables
    else (tables.policies.insert ⟨id, policy⟩).map fun policies =>
      { tables with policies := policies }

def storedPolicyVersion (tables : Tables) (policy : PolicyVersion) : Except TickError Uuid :=
  match tables.policies.rows.find? fun row =>
    row.policy.policyKey = policy.policyKey && row.policy.version = policy.version with
  | none => .error (.failed "no rows in result set")
  | some row =>
    if row.policy = policy then .ok row.id
    else .error (.failed "immutable policy version content conflict")

def resolvePolicyVersion (policy : PolicyVersion) : Tx Uuid := do
  Tx.attempt (services.validatePolicy policy)
  insertPolicyVersion policy
  let tables ← Tx.read
  Tx.attempt (storedPolicyVersion tables policy)

def tickIDOf (channelID bucket : List Char) : List Char :=
  "tick:".toList ++ (channelID ++ ':' :: bucket)

section

variable (excluded row : AgentTickAuditRow)

/-- `ON CONFLICT (channel_profile_id, tick_id) DO UPDATE`. -/
def AgentTickAuditRow.merge : AgentTickAuditRow :=
  { row with
    dryRun := excluded.dryRun
    candidatesScored := excluded.candidatesScored
    tasksSelected := excluded.tasksSelected
    tasksRejected := excluded.tasksRejected
    guardsTriggeredJSON := excluded.guardsTriggeredJSON
    decisionSummaryJSON := excluded.decisionSummaryJSON }

theorem AgentTickAuditRow.id_merge : (excluded.merge row).id = row.id := rfl

def AgentTickAuditRow.conflicts : Bool :=
  row.channelProfileID = excluded.channelProfileID && row.tickID = excluded.tickID

end

/-- The tables after the statement; no row is returned, and none written,
where the conflicting row or the new one carries snapshots. -/
def upsertAudit (excluded : AgentTickAuditRow) (tables : Tables) : Option (Option Uuid × Tables) :=
  match tables.audits.rows.find? excluded.conflicts with
  | none => (tables.audits.insert excluded).map fun audits =>
    (some excluded.id, { tables with audits := audits })
  | some row =>
    if row.replayStatus = .legacyUnreplayable ∧ excluded.replayStatus = .legacyUnreplayable then
      some (some row.id, { tables with
        audits := tables.audits.update excluded.conflicts excluded.merge excluded.id_merge })
    else some (none, tables)

def pendingAudit (id channel policyID : Uuid) (preparation : TickPreparation)
  (result : TickResult) (set : SnapshotSet) (summary guards : String) :
  AgentTickAuditRow where
  id := id
  channelProfileID := channel
  tickID := tickIDOf preparation.channelID preparation.bucket
  dryRun := result.dryRun
  candidatesScored := result.candidates.length
  tasksSelected := result.tasksToCreate
  tasksRejected := result.rejected.length
  guardsTriggeredJSON := guards
  decisionSummaryJSON := summary
  policyVersionID := some policyID
  candidateSetHash := some set.candidateSetHash
  featureAsOf := some set.featureAsOf
  replayStatus := .snapshotPending

def upsert (row : AgentTickAuditRow) : Tx (Option Uuid) := fun session =>
  match upsertAudit row session.tables with
  | none => .error (.failed "duplicate key value violates unique constraint")
  | some (id, tables) => .ok (id, { session with tables := tables })

section

variable (tables : Tables)

def linked (audit : AgentTickAuditRow) (policyID : Uuid)
  (setHash : String) (asOf : Time) (entry : DecisionAuditEntryRow)
  (snapshot : CandidateFeatureSnapshotRow) : Bool :=
  entry.tickAuditID = audit.id && snapshot.tickAuditID = audit.id &&
    entry.featureSnapshotID = some snapshot.id &&
    snapshot.candidateID = entry.candidateID &&
    entry.policyVersionID = some policyID &&
    snapshot.policyVersionID = policyID &&
    snapshot.candidateSetHash = setHash && snapshot.featureAsOf = asOf &&
    entry.createdTaskID.isSome = (entry.selected && !audit.dryRun) &&
    (entry.createdTaskID.all fun taskID =>
      (tables.tasks.find? taskID).any fun task =>
        task.channelProfileID = audit.channelProfileID && task.candidateID = entry.candidateID)

def countSnapshots (audit : Uuid) : Nat :=
  (tables.snapshots.rows.filter fun row => row.tickAuditID = audit).length

def countEntries (audit : Uuid) : Nat :=
  (tables.entries.rows.filter fun row => row.tickAuditID = audit).length

def countTasks (audit : Uuid) : Nat :=
  (tables.entries.rows.filter fun row =>
    row.tickAuditID = audit && row.createdTaskID.isSome).length

def exactReplay (excluded audit : AgentTickAuditRow) (policyID : Uuid) (set : SnapshotSet) : Bool :=
  audit.replayStatus = .snapshotComplete && audit.policyVersionID = excluded.policyVersionID &&
    audit.candidateSetHash = excluded.candidateSetHash &&
    audit.featureAsOf = excluded.featureAsOf &&
    audit.dryRun = excluded.dryRun &&
    audit.tasksSelected = excluded.tasksSelected &&
    audit.tasksRejected = excluded.tasksRejected &&
    audit.candidatesScored = set.candidates.length &&
    audit.decisionSummaryJSON = excluded.decisionSummaryJSON &&
    audit.guardsTriggeredJSON = excluded.guardsTriggeredJSON &&
    countSnapshots tables audit.id = set.candidates.length &&
    countEntries tables audit.id = set.candidates.length &&
    countTasks tables audit.id = excluded.tasksSelected &&
    (set.candidates.flatMap fun expected =>
      (tables.snapshots.rows.filter fun snapshot =>
        snapshot.candidateID = expected.features.candidateID &&
          snapshot.featureHash = expected.featureHash).flatMap fun snapshot =>
        tables.entries.rows.filter fun entry =>
          entry.candidateID = expected.features.candidateID &&
            entry.decisionHash = some expected.decisionHash &&
            linked tables audit policyID set.candidateSetHash set.featureAsOf
              entry snapshot).length = set.candidates.length

def replayed (excluded : AgentTickAuditRow)
  (policyID : Uuid) (set : SnapshotSet) : Except TickError Uuid :=
  match tables.audits.rows.find? excluded.conflicts with
  | none => .error (.failed "no rows in result set")
  | some audit =>
    if exactReplay tables excluded audit policyID set then .ok audit.id
    else .error (.failed "immutable tick snapshot conflict")

end

def insertCandidateSnapshot (tickID policyID : Uuid)
  (snapshot : CandidateSnapshot) (ids : Dict String Uuid) :
  Tx (Dict String Uuid) := do
  let id ← Tx.genRandomUUID
  Tx.write fun tables => (tables.snapshots.insert
    { id := id
      tickAuditID := tickID
      policyVersionID := policyID
      candidateID := snapshot.features.candidateID
      featureAsOf := snapshot.featureAsOf
      candidateSetHash := snapshot.candidateSetHash
      featureHash := snapshot.featureHash }).map fun snapshots =>
        { tables with snapshots := snapshots }
  Tx.attempt (ensure (!(ids.entries.any fun entry => entry.2 = id))
    (.failed "duplicate snapshot ID"))
  return ids.set snapshot.features.candidateID id

def insertSnapshotRows (tickID policyID : Uuid) :
  List CandidateSnapshot → Dict String Uuid → Tx (Dict String Uuid)
  | [], ids => return ids
  | snapshot :: rest, ids => do
    let ids ← insertCandidateSnapshot tickID policyID snapshot ids
    insertSnapshotRows tickID policyID rest ids

def insertCandidateSnapshots (tickID policyID : Uuid) (set : SnapshotSet) :
  Tx (Dict String Uuid) := do
  Tx.attempt (validateSnapshotSet services set)
  insertSnapshotRows tickID policyID set.candidates .empty

def decisionEntry (id tickID channel : Uuid) (candidate : TickCandidate) :
  DecisionAuditEntryRow where
  id := id
  tickAuditID := tickID
  channelProfileID := channel
  candidateID := candidate.candidateID
  selected := !candidate.rejected
  createdTaskID := none
  featureSnapshotID := none
  policyVersionID := none
  candidateSetHash := none
  decisionHash := none
  decision := none

def insertDecisionAuditEntry (tickID channel : Uuid)
  (candidate : TickCandidate) (ids : Dict String Uuid) :
  Tx (Dict String Uuid) := do
  Tx.attempt (ensure (trimSpace candidate.candidateID.toList ≠ [] &&
    (ids.get? candidate.candidateID).isNone)
    (.failed "duplicate or missing decision candidate identity"))
  let id ← Tx.genRandomUUID
  Tx.write fun tables =>
    (tables.entries.insert (decisionEntry id tickID channel candidate)).map
      fun entries => { tables with entries := entries }
  return ids.set candidate.candidateID id

def insertDecisionAuditEntries (tickID channel : Uuid) :
  List TickCandidate → Dict String Uuid → Tx (Dict String Uuid)
  | [], ids => return ids
  | candidate :: rest, ids => do
    let ids ← insertDecisionAuditEntry tickID channel candidate ids
    insertDecisionAuditEntries tickID channel rest ids

def writeSnapshotAudit (tickID policyID channel : Uuid) (set : SnapshotSet)
  (result : TickResult) : Tx SnapshotAuditWrite := do
  let snapshotIDs ← insertCandidateSnapshots services tickID policyID set
  let decisionIDs ← insertDecisionAuditEntries tickID channel
    result.candidates .empty
  return {
    tickID := tickID
    policyID := policyID
    snapshots := set
    snapshotIDs := snapshotIDs
    decisionIDs := decisionIDs
    expectedTasks := result.tasksToCreate
    replay := false }

/-- What it does where the statement returned no row: an exact retry is a
no-op, and any other one a conflict. -/
def replaySnapshotAudit (excluded : AgentTickAuditRow) (policyID : Uuid)
  (set : SnapshotSet) : Tx SnapshotAuditWrite := do
  let tables ← Tx.read
  let tickID ← Tx.attempt (replayed tables excluded policyID set)
  return {
    tickID := tickID
    policyID := policyID
    snapshots := set
    snapshotIDs := .empty
    decisionIDs := .empty
    expectedTasks := excluded.tasksSelected
    replay := true }

def beginSnapshotAudit (preparation : TickPreparation) (result : TickResult) :
  Tx SnapshotAuditWrite := do
  let set ← Tx.attempt (decisionSnapshots services preparation result)
  let policyID ← resolvePolicyVersion services preparation.policy
  let summary ← Tx.attempt (services.decisionSummary preparation result set)
  let guards ← Tx.attempt (services.candidateGuardSummaries result.rejected)
  let channel ← Tx.attempt (castParameter preparation.channelID)
  let id ← Tx.genRandomUUID
  let excluded := pendingAudit id channel policyID preparation result set
    summary guards
  match ← upsert excluded with
  | none => replaySnapshotAudit excluded policyID set
  | some tickID => writeSnapshotAudit services tickID policyID channel set result

section

variable (write : SnapshotAuditWrite)

def DecisionAuditEntryRow.seal (snapshotID : Uuid) (snapshot : CandidateSnapshot)
  (entry : DecisionAuditEntryRow) : DecisionAuditEntryRow :=
  { entry with
    featureSnapshotID := some snapshotID
    policyVersionID := some write.policyID
    candidateSetHash := some write.snapshots.candidateSetHash
    decisionHash := some snapshot.decisionHash
    decision := some snapshot.decided.decision }

theorem DecisionAuditEntryRow.id_seal (snapshotID : Uuid) (snapshot : CandidateSnapshot)
  (entry : DecisionAuditEntryRow) :
  (entry.seal write snapshotID snapshot).id = entry.id := rfl

def unsealed (decisionID : Uuid)
  (snapshot : CandidateSnapshot) (entry : DecisionAuditEntryRow) : Bool :=
  entry.id = decisionID && entry.tickAuditID = write.tickID &&
    entry.candidateID = snapshot.features.candidateID &&
    entry.featureSnapshotID.isNone

def sealEntry (snapshot : CandidateSnapshot) (tables : Tables) : Except TickError Tables :=
  match write.snapshotIDs.get? snapshot.features.candidateID,
    write.decisionIDs.get? snapshot.features.candidateID with
  | some snapshotID, some decisionID =>
    if tables.entries.rows.countP (unsealed write decisionID snapshot) = 1
    then .ok { tables with
      entries := tables.entries.update (unsealed write decisionID snapshot)
        (DecisionAuditEntryRow.seal write snapshotID snapshot)
        (DecisionAuditEntryRow.id_seal write snapshotID snapshot) }
    else .error (.failed "decision snapshot link not sealed")
  | _, _ => .error (.failed "missing candidate snapshot or decision link")

variable (row : AgentTickAuditRow)

def AgentTickAuditRow.finish : AgentTickAuditRow :=
  { row with replayStatus := .snapshotComplete }

theorem AgentTickAuditRow.id_finish : row.finish.id = row.id := rfl

def completable (tables : Tables) (audit : AgentTickAuditRow) : Bool :=
  let scored := write.snapshots.candidates.length
  audit.id = write.tickID && audit.replayStatus = .snapshotPending &&
    audit.policyVersionID = some write.policyID &&
    audit.candidateSetHash = some write.snapshots.candidateSetHash &&
    audit.featureAsOf = some write.snapshots.featureAsOf &&
    audit.candidatesScored = scored &&
    countSnapshots tables audit.id = scored &&
    countEntries tables audit.id = scored &&
    (((tables.entries.rows.filter fun entry =>
      entry.candidateSetHash = some write.snapshots.candidateSetHash && entry.decisionHash.isSome &&
        (entry.decision.any fun decision =>
          entry.selected = decide (decision = .accepted)) &&
        tables.snapshots.rows.any (linked tables audit write.policyID
          write.snapshots.candidateSetHash write.snapshots.featureAsOf
          entry)).filterMap fun entry =>
            entry.featureSnapshotID).dedup.length = scored) &&
    countTasks tables audit.id = write.expectedTasks

def completeAudit (tables : Tables) : Except TickError Tables :=
  if tables.audits.rows.countP (completable write tables) = 1 then
    .ok { tables with
      audits := tables.audits.update (completable write tables)
        AgentTickAuditRow.finish AgentTickAuditRow.id_finish }
  else .error (.failed "snapshot completion cardinality mismatch")

end

def Tx.change (change : Tables → Except TickError Tables) : Tx Unit :=
  fun session =>
    match change session.tables with
    | .error error => .error error
    | .ok tables => .ok ((), { session with tables := tables })

def sealEntries (write : SnapshotAuditWrite) : List CandidateSnapshot → Tx Unit
  | [] => return ()
  | snapshot :: rest => do
    Tx.change (sealEntry write snapshot)
    sealEntries write rest

def complete (write : SnapshotAuditWrite) : Tx Unit := do
  Tx.attempt (validateSnapshotSet services write.snapshots)
  Tx.attempt (ensure (write.snapshotIDs.entries.length = write.snapshots.candidates.length &&
    write.decisionIDs.entries.length = write.snapshots.candidates.length)
    (.failed "snapshot link cardinality mismatch"))
  sealEntries write write.snapshots.candidates
  Tx.change (completeAudit write)

def materialLowSupplyAlert (channelID bucket : List Char)
  (accepted rejected : Nat) : AlertPayload where
  kind := "material_low_supply"
  severity := "warning"
  channelID := channelID
  resourceID := []
  message := "ChannelOps tick produced no accepted candidates"
  details := .object [("bucket", .string (String.ofList bucket)),
    ("accepted", .number ⟨false, accepted, [], none⟩),
    ("rejected", .number ⟨false, rejected, [], none⟩)]
  createdAt := none
  dedupeKey := []

def orElse (text fallback : List Char) : List Char :=
  if text = [] then fallback else text

section

variable (alert : AlertPayload) (now : Time)

def alertDedupeKey : List Char :=
  "send_alert:".toList ++ alert.kind.toList ++ ':' :: orElse alert.channelID "global".toList ++
    ':' :: orElse (orElse alert.resourceID alert.channelID) "global".toList ++
    ':' :: services.utcBucket now

def AlertPayload.queuePayload : Payload :=
  [("kind", Json.string alert.kind), ("type", .string alert.kind), ("severity", .string
    (if alert.severity = "" then "warning" else alert.severity)),
    ("channel_id", .string (String.ofList alert.channelID)),
    ("resource_id", .string (String.ofList alert.resourceID)),
    ("message", .string (if alert.message = "" then alert.kind else alert.message)),
    ("details", alert.details),
    ("created_at", .string (services.rfc3339 (alert.createdAt.getD now))),
    ("dedupe_key", .string (String.ofList
      (orElse alert.dedupeKey (alertDedupeKey services alert now))))].foldl
    (fun payload field => payload.set field.1 field.2) Dict.empty

def alertKey : String :=
  String.ofList (orElse (firstString services.round
    (AlertPayload.queuePayload services alert now) ["dedupe_key"])
    (alertDedupeKey services alert now))

def alertChannel : Except TickError (Option Uuid) :=
  if trimSpace alert.channelID = [] then .ok none
  else (castParameter alert.channelID).map some

end

def enqueueRow (now : Time) (options : EnqueueOptions) : Tx Unit := do
  let fresh ← Tx.genRandomUUID
  Tx.write fun tables =>
    (enqueue services.configuredMaxAttempts now fresh options
      tables.items).map fun enqueued => { tables with items := enqueued.2 }

def enqueueAlert (now : Time) (alert : AlertPayload) : Tx Unit := do
  let channel ← Tx.attempt (alertChannel alert)
  enqueueRow services now
    { kind := .sendAlert
      idempotencyKey := alertKey services alert now
      payload := AlertPayload.queuePayload services alert now
      priority := 5
      runAfter := none
      channelProfileID := channel
      parentQueueItemID := none
      maxAttempts := 0 }

def enqueueAlerts (now : Time) : List AlertPayload → Tx Unit
  | [] => return ()
  | alert :: rest => do
    enqueueAlert services now alert
    enqueueAlerts now rest

def insertProductionTask (channel : ChannelProfileRow)
  (candidate : TickCandidate) (now : Time) : Tx Uuid := do
  let account ← Tx.attempt (candidate.account.elim
    (.error (.failed "production task candidate has no target account")) .ok)
  let id ← Tx.genRandomUUID
  Tx.write fun tables => (tables.tasks.insert
    { id := id
      channelProfileID := channel.id
      targetAccountID := account
      discoverySignalID := candidate.discoverySignal
      candidateID := candidate.candidateID
      stateUpdatedAt := now }).map fun tasks => { tables with tasks := tasks }
  return id

section

variable (taskID : Uuid)

def DiscoverySignalRow.convert (row : DiscoverySignalRow) : DiscoverySignalRow :=
  { row with converted := true, convertedTaskID := some taskID }

theorem DiscoverySignalRow.id_convert
  (row : DiscoverySignalRow) : (row.convert taskID).id = row.id := rfl

def markDiscoverySignalConverted (signal : Option Uuid)
  (tables : Tables) : Except TickError Tables :=
  match signal with
  | none => .ok tables
  | some id =>
    if (tables.signals.find? id).isSome then
      .ok { tables with
        signals := tables.signals.update (fun row => row.id = id)
          (DiscoverySignalRow.convert taskID)
          (DiscoverySignalRow.id_convert taskID) }
    else .error (.failed "discovery signal not found")

variable (entry : DecisionAuditEntryRow)

def DecisionAuditEntryRow.attach : DecisionAuditEntryRow :=
  { entry with createdTaskID := some taskID }

theorem DecisionAuditEntryRow.id_attach : (entry.attach taskID).id = entry.id := rfl

end

def attachDecisionAuditTask (auditID : Option Uuid) (taskID : Uuid)
  (tables : Tables) : Except TickError Tables :=
  match auditID with
  | none => .error (.failed "missing candidate decision audit")
  | some id =>
    if (tables.entries.find? id).isSome then
      .ok { tables with
        entries := tables.entries.update (fun row => row.id = id)
          (DecisionAuditEntryRow.attach taskID)
          (DecisionAuditEntryRow.id_attach taskID) }
    else .error (.failed "decision audit entry not found")

def planTaskKey (taskID : Uuid) : String := String.ofList ("plan_task:".toList ++ uuidText taskID)

def planTaskOptions (channel : ChannelProfileRow) (taskID : Uuid)
  (runAfter : Time) : EnqueueOptions where
  kind := .planTask
  idempotencyKey := planTaskKey taskID
  payload := (Dict.empty.set "production_task_id"
    (Json.string (String.ofList (uuidText taskID)))).set "channel_id"
      (.string (String.ofList (uuidText channel.id)))
  priority := 100
  runAfter := some runAfter
  channelProfileID := some channel.id
  parentQueueItemID := none
  maxAttempts := 0

def createTask (preparation : TickPreparation) (write : SnapshotAuditWrite)
  (now : Time) (candidate : TickCandidate) : Tx Unit := do
  let taskID ← insertProductionTask preparation.channel candidate
    preparation.now
  Tx.change (markDiscoverySignalConverted taskID candidate.discoverySignal)
  Tx.change (attachDecisionAuditTask (write.decisionIDs.get? candidate.candidateID) taskID)
  enqueueRow services now (planTaskOptions preparation.channel taskID
    (preparation.now + preparation.options.planDelay))

def createTasks (preparation : TickPreparation) (write : SnapshotAuditWrite)
  (now : Time) : List TickCandidate → Tx Unit
  | [] => return ()
  | candidate :: rest => do
    createTask services preparation write now candidate
    createTasks preparation write now rest

def canaryIntakePauseReason : String := "operator_preapproved_live_unlisted_canary"

def ChannelProfileRow.pauseIntake (now : Time) (row : ChannelProfileRow) : ChannelProfileRow :=
  { row with
    intakePausedAt := some now
    intakePauseReason := some canaryIntakePauseReason }

theorem ChannelProfileRow.id_pauseIntake (now : Time)
  (row : ChannelProfileRow) : (row.pauseIntake now).id = row.id := rfl

def pausable (id : Uuid) (row : ChannelProfileRow) : Bool :=
  row.id = id && row.enabled && row.haltedAt.isNone && row.intakePausedAt.isNone

def pauseChannelIntake (options : AgentTickOptions) (id : Uuid) (now : Time)
  (tables : Tables) : Except TickError Tables :=
  if !options.pauseIntakeAfterSelection then .ok tables
  else if tables.channels.rows.countP (pausable id) = 1 then
    .ok { tables with
      channels := tables.channels.update (pausable id) (ChannelProfileRow.pauseIntake now)
        (ChannelProfileRow.id_pauseIntake now) }
  else .error .channelExecutionBlocked

variable (preparation : TickPreparation) (candidates : List TickCandidate)

def tickResult : TickResult where
  dryRun := preparation.channel.dryRun
  accepted := acceptedOf candidates
  rejected := rejectedOf candidates

variable (alerts : List AlertPayload)

def tickAlerts : List AlertPayload :=
  if acceptedOf candidates = [] then
    alerts ++ [materialLowSupplyAlert preparation.channelID preparation.bucket
      0 (rejectedOf candidates).length]
  else alerts

def commitTick (write : SnapshotAuditWrite)
  (result : TickResult) (alerts : List AlertPayload) (now : Time) :
  Tx Unit := do
  enqueueAlerts services now alerts
  if result.dryRun then complete services write
  else do
    createTasks services preparation write now result.accepted
    Tx.change (pauseChannelIntake preparation.options preparation.channel.id preparation.now)
    complete services write

def finalizeTick (now : Time) : Tx Unit := do
  let tables ← Tx.read
  let current ← Tx.attempt (prepareTick services tables preparation.channelID
    preparation.bucket preparation.options now)
  if preparation.owned || current.owned then
    services.finalizeOwnedTick preparation current candidates
  else do
    Tx.attempt (preparation.validate current)
    let result := tickResult preparation candidates
    Tx.attempt (ensure (!preparation.options.pauseIntakeAfterSelection || result.tasksToCreate = 1)
      (.failed "guarded agent_tick must select exactly one task"))
    let write ← beginSnapshotAudit services preparation result
    if write.replay then return ()
    else
      commitTick services preparation write result (tickAlerts preparation candidates alerts) now

end VideoProcess.ChannelOps.Tick
