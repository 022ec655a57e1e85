import VideoProcess.ChannelOps.Queue
import VideoProcess.Program.Pool

namespace VideoProcess.Promotion

open Data Utf8 GoText Program Fallible ChannelOps

/-! Promotion of an uploaded publication (`store_promotion_operations.go`). -/

inductive PromotionStatus where
  | reserved
  | submitting
  | uncertain
  | confirmed
  | finalized
deriving DecidableEq, Repr

def PromotionStatus.text : PromotionStatus → String
  | .reserved => "reserved"
  | .submitting => "submitting"
  | .uncertain => "uncertain"
  | .confirmed => "confirmed"
  | .finalized => "finalized"

structure PDSDecision where
  (decisionID verdict : String)
  /-- `Metadata["warning"]`. -/
  warning : String
  /-- `Metadata["fail_policy"]`. -/
  failPolicy : String
deriving DecidableEq

structure PublicationRow extends ChannelOps.PublicationRow where
  platform : String
  accountID : Uuid
  (platformContentID title description desiredPrivacy publishStatus : String)

inductive TaskState where
  | selected
  | planning
  | producing
  | scheduled
  | uploadedPrivate
  | measured
  | held
  | failed
  | rejected
deriving DecidableEq, Repr

structure ProductionTaskRow extends ChannelOps.ProductionTaskRow where
  targetAccountID : Uuid
  usesExternalAssets : Bool
  autoFlowPlanID : Option String
  state : TaskState
  blockedByGuard : Option String
  /-- `AgentApprovalEvidenceJSON["owned_inventory"]`, if it is not empty. -/
  ownedInventory : Option Json

structure YouTubePublicationStatus where
  (videoID publishStatus privacy : String)

structure PromotionOperationRow where
  (id publicationID productionTaskID queueItemID : Uuid)
  (platformVideoID targetPrivacy : String)
  scheduledAt : Time
  attemptKey : String
  status : PromotionStatus
  decision : PDSDecision
  observedPrivacy : Option String
  requestAttemptedAt : Option Time

inductive Change where
  | decided (decision : PDSDecision)
  | submitting (now : Time)
  | uncertain (privacy : Option String)
  | confirmed (privacy : String)
  | finalized

namespace PromotionOperationRow

variable (row : PromotionOperationRow)

def apply : Change → PromotionOperationRow
  | .decided decision =>
    { row with
      decision := if row.status = .finalized then row.decision else decision }
  | .submitting now =>
    { row with
      status := .submitting
      requestAttemptedAt := some (row.requestAttemptedAt.getD now) }
  | .uncertain privacy => { row with status := .uncertain, observedPrivacy := privacy }
  | .confirmed privacy => { row with status := .confirmed, observedPrivacy := some privacy }
  | .finalized => { row with status := .finalized }

/-- The columns that no assignment touches. -/
structure Same (left right : PromotionOperationRow) : Prop where
  id : left.id = right.id
  publicationID : left.publicationID = right.publicationID
  queueItemID : left.queueItemID = right.queueItemID
  platformVideoID : left.platformVideoID = right.platformVideoID
  targetPrivacy : left.targetPrivacy = right.targetPrivacy
  attemptKey : left.attemptKey = right.attemptKey

theorem Same.refl : Same row row := ⟨rfl, rfl, rfl, rfl, rfl, rfl⟩

theorem same_apply (change : Change) : Same (row.apply change) row := by
  cases change <;> exact ⟨rfl, rfl, rfl, rfl, rfl, rfl⟩

end PromotionOperationRow

/-- The constraints of the table besides its primary key. -/
structure Constraints (rows : List PromotionOperationRow) : Prop where
  publication : (rows.map PromotionOperationRow.publicationID).Nodup
  queueItem : (rows.map PromotionOperationRow.queueItemID).Nodup
  attemptKey : (rows.map PromotionOperationRow.attemptKey).Nodup
  targetPrivacy : ∀ row ∈ rows, row.targetPrivacy ∈ ["private", "unlisted"]

instance (rows : List PromotionOperationRow) : Decidable (Constraints rows) :=
  decidable_of_iff ((rows.map PromotionOperationRow.publicationID).Nodup ∧
    (rows.map PromotionOperationRow.queueItemID).Nodup ∧
    (rows.map PromotionOperationRow.attemptKey).Nodup ∧
    ∀ row ∈ rows, row.targetPrivacy ∈ ["private", "unlisted"])
    ⟨fun held => ⟨held.1, held.2.1, held.2.2.1, held.2.2.2⟩,
      fun held => ⟨held.publication, held.queueItem, held.attemptKey, held.targetPrivacy⟩⟩

structure Operations where
  table : Table PromotionOperationRow.id
  constraints : Constraints table.rows

namespace Operations

def empty : Operations :=
  ⟨Table.empty, ⟨List.nodup_nil, List.nodup_nil, List.nodup_nil, by
    simp [Table.empty]⟩⟩

variable (operations : Operations) (id : Uuid)

def find? : Option PromotionOperationRow :=
  operations.table.find? id

def forPublication (publicationID : Uuid) : Option PromotionOperationRow :=
  operations.table.rows.find? fun row => row.publicationID = publicationID

variable (change : Change)

def written (row : PromotionOperationRow) : PromotionOperationRow :=
  if row.id = id then row.apply change else row

theorem same_written (row : PromotionOperationRow) : (written id change row).Same row := by
  unfold written
  split
  · exact row.same_apply change
  · exact .refl row

theorem column_written (same : ∀ {left right : PromotionOperationRow}, left.Same right →
  column left = column right) (id : Uuid) (change : Change)
  (rows : List PromotionOperationRow) :
  (rows.map (written id change)).map column = rows.map column := by
  rw [List.map_map]
  exact List.map_congr_left fun row _ => same (same_written id change row)

def write : Operations where
  table := operations.table.update (fun _ => true) (written id change)
    fun row => (same_written id change row).id
  constraints := by
    obtain ⟨publication, queueItem, attemptKey, targetPrivacy⟩ := operations.constraints
    simp only [Table.rows_update, if_true]
    constructor
    · rwa [column_written fun same => same.publicationID]
    · rwa [column_written fun same => same.queueItemID]
    · rwa [column_written fun same => same.attemptKey]
    · intro row member
      obtain ⟨earlier, present, rfl⟩ := List.mem_map.1 member
      rw [(same_written id change earlier).targetPrivacy]
      exact targetPrivacy earlier present

/-- `UPDATE ... WHERE id = $1 AND wanted RETURNING ...`. -/
def update (wanted : PromotionOperationRow → Bool) (change : Change) :
  Option (PromotionOperationRow × Operations) :=
  match operations.find? id with
  | none => none
  | some row =>
    if wanted row then some (row.apply change, operations.write id change)
    else none

def insert (row : PromotionOperationRow) : Option Operations :=
  match operations.table.insert row with
  | none => none
  | some table =>
    if constraints : Constraints table.rows then some ⟨table, constraints⟩
    else none

end Operations

structure OwnedHistoryObservationRequest where
  (sourcesJSON digest : String)
  observedAt : Time

structure OwnedHistoryRedisEvidence where
  requestDigest : String
  observedAt : Time
  (json failure : String)

/-- An error of a phase. One of them asks for an observation of Redis. -/
inductive Failure where
  | observation (request : OwnedHistoryObservationRequest)
  | other (message : String)

def Failure.message : Failure → String
  | .observation _ => "owned_history_fresh_redis_required"
  | .other message => message

structure OwnedProducerAuthority where
  (taskID platformChannelID inventoryID itemID sourceSHA256 digest : String)
deriving DecidableEq

def OwnedProducerAuthority.owned (producer : Option OwnedProducerAuthority) : Bool :=
  producer.any fun authority => authority.inventoryID ≠ ""

/-- Of the language and its library. -/
structure Runtime where
  round : Rounding
  /-- `unicode.ToLower`. -/
  toLower : Char → Char
  /-- `time.Parse(time.RFC3339, ...)`. -/
  parseTime : String → Except String Time
  digest : PublicationRow → ProductionTaskRow → String

structure PDSDecisionRequest where
  actorID : Uuid
  (actionType platform title description : String)
  (publicationID productionTaskID : Uuid)
  targetVisibility : String
  ownedInventory : Option Json

inductive Statement where
  | getForPublication
  | get
  | insert
  | update
deriving DecidableEq, Repr

/-- What a request depends on besides the operations: the clock, the rows of
other tables as they stand when the phase has locked them, the checks of leader,
lease and channel at its start, the answers of other services, and failures of
statements and of the commit. A commit may fail after it has taken effect. -/
structure Env where
  ctxErr : Option String
  now : Time
  operationID : Uuid
  fence : Except Failure Unit
  lockPromotionOperatorScope : String → Except Failure (PublicationRow × ProductionTaskRow)
  /-- By the number of its call in the phase. -/
  lockOwnedProducer : Nat → ProductionTaskRow → Option OwnedHistoryRedisEvidence →
    Except Failure (Option OwnedProducerAuthority)
  ownedPendingPlan : ProductionTaskRow → Except Failure Bool
  requireOwnedPromotionPolicy : PublicationRow → ProductionTaskRow → String →
    PDSDecision → Except Failure Unit
  requireOwnedRealPDS : PDSDecision → Except Failure Unit
  ownedPolicyEvidence : PDSDecisionRequest → PDSDecision → Except Failure String
  getProductionTask : Uuid → Except Failure ProductionTaskRow
  (validPromotionPlanAuthority validPreUploadHumanReview : Except Failure Bool)
  validPromotionHumanReview : Except Failure Bool
  /-- A statement on another table. -/
  elsewhere : Except Failure Unit
  statement : Statement → Option String
  commit : Option Fault
  observed : Except (Option String) OwnedHistoryRedisEvidence
  decision : Except String PDSDecision
  scheduled : Except String Unit
  published : Except String YouTubePublicationStatus

def fails {α : Type} (message : String) : Except Failure α := .error (.other message)

def conflict {α : Type} (message : String) : Except Failure α :=
  fails ("promotion operation conflict: " ++ message)

def stale {α : Type} : Except Failure α := fails "handler preparation snapshot stale"

def Env.query (env : Env) (statement : Statement) : Except Failure Unit :=
  match env.statement statement with
  | none => .ok ()
  | some message => fails message

namespace Runtime

variable (go : Runtime) (value : String)

/-- `strings.ToLower(strings.TrimSpace(value))`. -/
def normalized : String := String.ofList ((trimSpace value.toList).map go.toLower)

def safePromotionVisibility : String :=
  let visibility := go.normalized value
  if visibility ∈ ["private", "unlisted"] then visibility else ""

def observedPrivacy : String :=
  let privacy := go.normalized value
  if privacy ∈ ["private", "unlisted", "public"] then privacy else ""

def normalizedStatus : String :=
  let status := go.normalized value
  if status = "processed" then "uploaded" else status

def isSeverePublicationStatus (status : String) : Bool :=
  go.normalizedStatus status ∈ ["rejected", "removed", "failed", "claim",
    "claimed", "blocked", "takedown"]

/-- `firstString(item.PayloadJSON, key)`. -/
def field (item : QueueItemRow) (key : String) : String :=
  String.ofList (firstString go.round item.payloadJSON [key])

end Runtime

/-- `item.PayloadJSON[key].(string)`. -/
def stringField (item : QueueItemRow) (key : String) : String :=
  match item.payloadJSON.getD key .null with
  | .string text => text
  | _ => ""

/-- `boolValue(item.PayloadJSON[key])`. -/
def boolField (item : QueueItemRow) (key : String) : Bool :=
  match item.payloadJSON.getD key .null with
  | .bool value => value
  | .string text => text ∈ ["true", "1", "yes"]
  | _ => false

def zeroTime : Time := -62135596800 * 1000000

structure PreparedPublicationSnapshot where
  publication : PublicationRow
  task : ProductionTaskRow
  digest : String
  producer : Option OwnedProducerAuthority

/-- The zero value of a field that is a structure is `none`. -/
structure PromotionPreparation where
  operation : Option PromotionOperationRow
  scope : Option PreparedPublicationSnapshot
  decisionRequest : Option PDSDecisionRequest
  targetVisibility : String
  scheduledAt : Time
  (needsDecision skip : Bool)

def PromotionPreparation.zero : PromotionPreparation :=
  ⟨none, none, none, "", zeroTime, false, false⟩

/-- `(value, error)` where an error in between returns the zero value. -/
def orZero (outcome : Except Failure (PromotionPreparation × Option Failure)) :
  PromotionPreparation × Option Failure :=
  match outcome with
  | .error failure => (.zero, some failure)
  | .ok returned => returned

def ownedPromotionPolicyRequest (publication : PublicationRow)
  (task : ProductionTaskRow) (target : String) : PDSDecisionRequest where
  actorID := publication.accountID
  actionType := "publish"
  platform := publication.platform
  title := publication.title
  description := publication.description
  publicationID := publication.id
  productionTaskID := publication.productionTaskID
  targetVisibility := target
  ownedInventory := task.ownedInventory

def taskHeldForPromotionUncertainty (task : ProductionTaskRow)
  (operation : Option PromotionOperationRow) : Bool :=
  operation.isSome && task.state = .held && task.blockedByGuard = some "promotion_outcome_uncertain"

namespace Store

variable (go : Runtime) (env : Env) (operations : Operations)

def getPromotionOperationForPublication (publicationID : Uuid) :
  Except Failure (Option PromotionOperationRow) := do
  env.query .getForPublication
  pure (operations.forPublication publicationID)

def getPromotionOperation (id : Uuid) : Except Failure PromotionOperationRow := do
  env.query .get
  match operations.find? id with
  | none => fails "no rows in result set"
  | some operation => pure operation

def reserved (publication : PublicationRow) (queueItemID : Uuid)
  (privacy : String) (scheduledAt : Time) (decision : PDSDecision) :
  PromotionOperationRow where
  id := env.operationID
  publicationID := publication.id
  productionTaskID := publication.productionTaskID
  queueItemID := queueItemID
  platformVideoID := publication.platformContentID
  targetPrivacy := privacy
  scheduledAt := if scheduledAt = zeroTime then env.now else scheduledAt
  attemptKey := "channelops-promotion:" ++ uuidString env.operationID
  status := .reserved
  decision := decision
  observedPrivacy := none
  requestAttemptedAt := none

/-- `INSERT ... ON CONFLICT (publication_id) DO UPDATE`. -/
def upsert (row : PromotionOperationRow) : Except Failure (PromotionOperationRow × Operations) := do
  env.query .insert
  match operations.forPublication row.publicationID with
  | some existing =>
    pure (existing.apply (.decided row.decision),
      operations.write existing.id (.decided row.decision))
  | none =>
    match operations.insert row with
    | none => fails "constraint violation"
    | some extended => pure (row, extended)

variable (evidence : Option OwnedHistoryRedisEvidence)

def reservable (publication : PublicationRow) (targetPrivacy : String)
  (decision : PDSDecision) : Except Failure String := do
  let privacy := go.safePromotionVisibility targetPrivacy
  if privacy = "" then
    conflict "target privacy must be private or unlisted"
  else if trimSpace publication.platformContentID.toList = [] then
    conflict "platform video id is required"
  else do
    let (current, task) ←
      env.lockPromotionOperatorScope (uuidString publication.id)
    let producer ← env.lockOwnedProducer 1 task evidence
    if OwnedProducerAuthority.owned producer then
      if go.digest publication task ≠ go.digest current task then stale
      else do
        env.requireOwnedPromotionPolicy current task privacy decision
        pure privacy
    else pure privacy

def reservePromotionOperation (publication : PublicationRow) (queueItemID : Uuid)
  (targetPrivacy : String) (scheduledAt : Time) (decision : PDSDecision) :
  Except Failure (PromotionOperationRow × Operations) := do
  let privacy ← reservable go env evidence publication targetPrivacy decision
  let (operation, after) ← upsert env operations
    (reserved env publication queueItemID privacy scheduledAt decision)
  if operation.productionTaskID ≠ publication.productionTaskID ∨
    operation.queueItemID ≠ queueItemID ∨
    operation.platformVideoID ≠ publication.platformContentID ∨
    operation.targetPrivacy ≠ privacy then
    conflict "existing operation does not match publication/video/target"
  else pure (operation, after)

def submittable (id : Uuid) : Except Failure PromotionOperationRow := do
  let found ← getPromotionOperation env operations id
  let (publication, task) ←
    env.lockPromotionOperatorScope (uuidString found.publicationID)
  let existing ← getPromotionOperation env operations id
  if existing.status ≠ .reserved then pure existing
  else do
    let producer ← env.lockOwnedProducer 1 task evidence
    if OwnedProducerAuthority.owned producer then do
      env.requireOwnedPromotionPolicy publication task existing.targetPrivacy existing.decision
      pure existing
    else pure existing

def beginPromotionSubmission (id : Uuid) :
  Except Failure ((PromotionOperationRow × Bool) × Operations) := do
  let existing ← submittable env operations evidence id
  if existing.status ≠ .reserved then pure ((existing, false), operations)
  else do
    env.query .update
    match operations.update id (fun row => row.status = .reserved)
      (.submitting env.now) with
    | some (operation, after) => pure ((operation, true), after)
    | none => do
      let operation ← getPromotionOperation env operations id
      pure ((operation, false), operations)

def confirmable (privacy videoID : String) (row : PromotionOperationRow) : Bool :=
  row.targetPrivacy = privacy && (videoID = "" || row.platformVideoID = videoID) &&
    row.status ∈ [PromotionStatus.submitting, .uncertain, .confirmed]

variable (id : Uuid)

def updateOrGet (wanted : PromotionOperationRow → Bool)
  (change : Change) : Except Failure (PromotionOperationRow × Operations) := do
  env.query .update
  match operations.update id wanted change with
  | some updated => pure updated
  | none => do
    let operation ← getPromotionOperation env operations id
    pure (operation, operations)

def confirmPromotionOperation (status : YouTubePublicationStatus) :
  Except Failure (PromotionOperationRow × Operations) :=
  let privacy := go.observedPrivacy status.privacy
  let videoID := String.ofList (trimSpace status.videoID.toList)
  if privacy = "" then fails "promotion confirmation requires observed privacy"
  else do
    let (operation, after) ← updateOrGet env operations id
      (confirmable privacy videoID) (.confirmed privacy)
    if operation.status = .finalized then pure (operation, after)
    else if operation.status ≠ .confirmed ∨ operation.targetPrivacy ≠ privacy ∨
      (videoID ≠ "" ∧ operation.platformVideoID ≠ videoID) then
      conflict ("observed privacy " ++ privacy ++
        " does not confirm target " ++ operation.targetPrivacy)
    else pure (operation, after)

/-- The database takes a reason only if it is UTF-8. -/
def markPromotionOperationUncertain (status : Option YouTubePublicationStatus) (reason : Bytes) :
  Except Failure (PromotionOperationRow × Operations) :=
  let privacy := (status.map fun status =>
    go.observedPrivacy status.privacy).filter (· ≠ "")
  match decode? reason with
  | none => fails "invalid byte sequence for encoding"
  | some _ =>
    updateOrGet env operations id (fun row => row.status ∈ [PromotionStatus.submitting, .uncertain])
      (.uncertain privacy)

def finalizePromotionOperation : Except Failure (Unit × Operations) := do
  let operation ← getPromotionOperation env operations id
  if operation.status = .finalized then pure ((), operations)
  else if operation.status ≠ .confirmed then
    conflict ("cannot finalize operation in " ++ operation.status.text ++ " state")
  else if operation.observedPrivacy.map go.observedPrivacy ≠ some operation.targetPrivacy then
    conflict "confirmed operation does not match observed target privacy"
  else do
    -- `PromotePublication` writes to the publication, its task and the queue.
    env.elsewhere
    env.query .update
    match operations.update id (fun row => row.status = .confirmed)
      .finalized with
    | some (_, after) => pure ((), after)
    | none => conflict "promotion operation finalization lost authority"

end Store

end VideoProcess.Promotion
