import VideoProcess.Affinity
import VideoProcess.Python.Authority
import VideoProcess.Python.Dag
import VideoProcess.Python.Value

namespace VideoProcess.Python

open Data

/-! `backend/app/orchestrator/engine.py`, one call at a time. -/

/-- What a call reads besides the tables. Each of the node executions is staged
at most once in a call, so the task queue answers by node execution. -/
structure Services where
  utcnow : Nat
  unicode : Unicode
  uuid4 : List WorkerTaskDispatch → Uuid
  /-- `uuid.UUID(value)`. -/
  parseUUID : ConfigValue → Except String Uuid
  /-- The artifact made for an asset, where the asset exists. -/
  assetArtifact : (asset nodeExecution : Uuid) → Option Uuid
  /-- The job and the node execution of an artifact. -/
  artifactOwner : Uuid → Option (Uuid × Uuid)
  workerType : String → Option String
  /-- The cache by what its key hashes: the artifact a hit is materialised
  as. -/
  cache : Uuid → String → Dict String ConfigValue → Dict String Uuid → Except String (Option Uuid)
  (storeCache releaseRetryClaim : Except String Unit)
  delivery : Uuid → WorkerTaskDispatch → DeliveryState × Option String
  redisError : Uuid → Option String

/-- How a call ends: it returns, it returns because an authority lock was
refused, or it raises. -/
inductive Outcome where
  | finished (tables : Tables)
  | blocked (tables : Tables)
  | raised (message : String) (tables : Tables)

namespace Outcome

def tables : Outcome → Tables
  | finished tables | blocked tables | raised _ tables => tables

def isFinished : Outcome → Bool
  | finished _ => true
  | _ => false

def isBlocked : Outcome → Bool
  | blocked _ => true
  | _ => false

def andThen (outcome : Outcome) (next : Tables → Outcome) : Outcome :=
  match outcome with
  | finished tables => next tables
  | blocked tables => blocked tables
  | raised message tables => raised message tables

variable {outcome : Outcome}

theorem eq_finished (finished : outcome.isFinished = true) :
  outcome = .finished outcome.tables := by
  cases outcome with
  | finished => rfl
  | blocked | raised => cases finished

theorem andThen_eq_finished (finished : outcome.andThen next = .finished after) :
  ∃ middle, outcome = .finished middle ∧ next middle = .finished after := by
  cases outcome with
  | finished middle => exact ⟨middle, rfl, finished⟩
  | blocked | raised => cases finished

end Outcome

variable (definition : PipelineDefinition)

def isFailedLeaf (entry : String × NodeExecution) : Bool :=
  entry.1 ∈ leafNodeIDs definition ∧ entry.2.status.isFailed

def isSuccessfulLeaf (entry : String × NodeExecution) : Bool :=
  entry.1 ∈ leafNodeIDs definition ∧ entry.2.status = .succeeded

def failedStatus (job : Job) : JobStatus :=
  let entries := job.nodes.entries
  if entries.any (isFailedLeaf job.pipelineSnapshot) ∨
    ¬ entries.any (isSuccessfulLeaf job.pipelineSnapshot) then .failed
  else .partiallyFailed

def failedMessage (job : Job) : Option String :=
  if job.errorMessage.getD "" ≠ "" then job.errorMessage
  else some ("Failed nodes: " ++ ", ".intercalate
    ((job.nodes.entries.filter fun entry => entry.2.status.isFailed).map fun entry =>
      if entry.2.nodeLabel = "" then entry.1 else entry.2.nodeLabel))

/-- `none` where the job is not finalized. -/
def applyJobFinalization (job : Job) : Option Job :=
  let entries := job.nodes.entries
  if entries.any fun entry => entry.2.status.isActive then none
  else if entries.all fun entry => entry.2.status = .succeeded then
    some { job with status := .succeeded }
  else if entries.any fun entry => entry.2.status.isFailed then
    some { job with
      status := failedStatus job
      errorMessage := failedMessage job }
  else none

section

variable (tables : Tables)

def maybeFinalizeJob : Tables :=
  match applyJobFinalization tables.job with
  | some job => tables.setJob job
  | none => tables

variable (job : Job)

def isJobFreshSubmission : Bool :=
  job.startedAt.isNone ∧ job.executions.all fun node => node.status = .pending

def shouldDeferJobStart (schedule : RuntimeSchedule) : Bool :=
  match schedule.state with
  | .opened => schedule.guardedJobID.any fun guarded => job.id ≠ guarded
  | .closed => true
  | .draining => job.status = .waitingWindow ∨ isJobFreshSubmission job

variable (node : NodeExecution)

def deferNode : NodeExecution :=
  if node.status.isActive then
    { node with
      status := .pending
      workerID := none
      startedAt := none
      errorMessage := none }
  else node

theorem id_deferNode : (deferNode node).id = node.id := by
  unfold deferNode
  split <;> rfl

def deferJob : Job :=
  { job.mapNodes (fun _ => deferNode) (fun _ => id_deferNode) with
    status := .waitingWindow
    errorMessage := none }

/-- `_lock_initial_launch_authority`: go on, or return with what the refusal
has committed. -/
def lockInitialLaunchAuthority (launch : Tables → Outcome) : Outcome :=
  let rows := tables.authority
  if rows.channel.any fun channel =>
    !channel.enabled || channel.haltedAt.isSome then .blocked tables
  else if rows.task.any fun task => !task.producing then .blocked tables
  else if tables.job.status.isTerminal then .blocked tables
  else if shouldDeferJobStart tables.job rows.schedule then
    .blocked (tables.setJob (deferJob tables.job))
  else launch tables

def locked (node : Option NodeExecution) : LockedJobExecutionAuthority where
  rows := tables.authority
  jobID := tables.job.id
  jobStatus := tables.job.status
  node := node

def lockDispatchAuthority : Except String Unit :=
  requireActiveExecutionAuthority (locked tables (some node)) [.running] (some [.pending])

end

inductive Resolution where
  | unchanged
  | failed (message : String)
  | succeeded (artifact : Uuid)

section

variable (services : Services)

section

variable (node : NodeExecution)

def resolveSourceNode : Except String Resolution :=
  if node.nodeType ≠ "source" then .ok .unchanged
  else if node.status = .succeeded ∧ node.outputArtifactID.isSome then
    .ok .unchanged
  else if node.status.isFailed then .ok .unchanged
  else
    let assetID := (node.nodeConfig.get? "asset_id").getD .null
    if !truthy assetID then .ok (.failed "No asset_id configured")
    else do
      let asset ← services.parseUUID assetID
      match services.assetArtifact asset node.id with
      | none => .ok (.failed s!"Asset {str assetID} not found")
      | some artifact => .ok (.succeeded artifact)

def Resolution.apply : Resolution → NodeExecution
  | .unchanged => node
  | .failed message => { node with status := .failed, errorMessage := some message }
  | .succeeded artifact =>
    { node with
      status := .succeeded
      outputArtifactID := some artifact
      startedAt := some services.utcnow }

def resolved : NodeExecution :=
  match resolveSourceNode services node with
  | .ok resolution => resolution.apply services node
  | .error _ => node

theorem id_resolved : (resolved services node).id = node.id := by
  unfold resolved
  split
  next resolution _ =>
    cases resolution <;> rfl
  · rfl

end

variable (job : Job)

/-- Every execution is resolved by its own columns; the first that raises ends
the loop, and nothing of it is committed. -/
def resolveSourceNodes : Except String Job := do
  job.executions.forM fun node => discard (resolveSourceNode services node)
  return job.mapNodes (fun _ => resolved services) fun _ => id_resolved services

def dependenciesSucceeded (dependencies : List String) : Bool :=
  dependencies.all fun dependency =>
    (job.node? dependency).any fun upstream => upstream.status = .succeeded

def inputArtifacts (definition : PipelineDefinition)
  (output : String → Option Uuid) (nodeID : String) : Dict String Uuid :=
  definition.edges.foldl (fun inputs edge =>
    if edge.target = nodeID then
      match output edge.source with
      | some artifact => inputs.set edge.targetHandle artifact
      | none => inputs
    else inputs) .empty

def outputArtifact (nodeID : String) : Option Uuid :=
  (job.node? nodeID).bind NodeExecution.outputArtifactID

/-- `_input_artifacts_by_handle`: the inputs that still exist. -/
def inputArtifactsByHandle (inputs : Dict String Uuid) : Dict String Uuid :=
  inputs.entries.foldl (fun found entry =>
    if (services.artifactOwner entry.2).isSome then found.set entry.1 entry.2
    else found) .empty

def preferredHostsForNode (dependencies : List String) : List String :=
  mostFrequent ((dependencies.filterMap fun dependency =>
    (job.node? dependency).map fun upstream =>
      extractWorkerHost (upstream.workerID.getD "")).filter (· ≠ ""))

def plannedDependencies : Dict String (List String) :=
  match job.executionPlan with
  | some plan => plan.dependencies
  | none => .empty

def taskFor (nodeID : String) (node : NodeExecution) (inputs : Dict String Uuid)
  (dependencies : List String) : Task where
  jobID := job.id
  nodeExecutionID := node.id
  nodeID := nodeID
  nodeType := node.nodeType
  config := node.nodeConfig
  inputArtifacts := inputs
  preferredHosts := preferredHostsForNode job dependencies
  affinityEnqueuedAt := services.utcnow
  affinityBounces := 0

variable (nodeExecution : Uuid)

def isOpenInitial (dispatch : WorkerTaskDispatch) : Bool :=
  dispatch.nodeExecutionID = nodeExecution ∧
    dispatch.originReceiptID = none ∧ dispatch.resolutionState.isOpen

section

variable (tables : Tables)

def stageWorkerTaskDispatch (origin : Option Uuid) (task : Task) : Except String Tables :=
  let workerType := (services.workerType task.nodeType).getD "ffmpeg"
  let staged := { tables with
    dispatches := tables.dispatches ++ [{
      originReceiptID := origin
      dispatchKey := services.uuid4 tables.dispatches
      jobID := task.jobID
      nodeExecutionID := task.nodeExecutionID
      redisStream := s!"vp:tasks:{workerType}"
      consumerGroup := s!"{workerType}-workers"
      payload := task
      deliveryState := .pending
      redisMessageID := none
      resolutionState := .unresolved }] }
  if origin.isSome then .ok staged
  else
    match tables.dispatches.filter (isOpenInitial task.nodeExecutionID) with
    | [] => .ok staged
    | [_] => .error "node already has an unresolved initial dispatch"
    | _ => .error "Multiple rows were found when one or none was required"

def reconciled : Tables :=
  { tables with
    dispatches := tables.dispatches.map fun dispatch =>
      let delivery := services.delivery nodeExecution dispatch
      { dispatch with
        deliveryState := delivery.1
        redisMessageID := delivery.2 } }

/-- `reconcile_pending_dispatches` after a node execution has been staged. -/
def reconcilePendingDispatches : Outcome :=
  match services.redisError nodeExecution with
  | none => .finished (reconciled services nodeExecution tables)
  | some message => .raised message (reconciled services nodeExecution tables)

def deterministicNodeTypes : List String :=
  ["trim", "transcode", "vertical_crop", "concat_many", "montage_assembler",
    "subtitle", "title_overlay", "bgm", "watermark", "concat_timeline",
    "concat_vertical_timeline", "url_download"]

/-- `_truthy`: a text counts by what it says. -/
def cacheTruthy : ConfigValue → Bool
  | .str text => services.unicode.lower (services.unicode.strip text) ∈ ["1", "true", "yes", "on"]
  | value => truthy value

def isCacheEligible (nodeType : String)
  (config : Dict String ConfigValue) (inputs : Dict String Uuid) : Bool :=
  if nodeType ∉ deterministicNodeTypes then false
  else if cacheTruthy services ((config.get? "disable_cache").getD .null) then
    false
  else if nodeType = "url_download" then
    match config.get? "url" with
    | some (.str url) => services.unicode.strip url ≠ "" ∧ inputs.keys = []
    | _ => false
  else inputs.keys ≠ []

def lookup (nodeType : String) (config : Dict String ConfigValue) (inputs : Dict String Uuid) :
  Except String (Option Uuid) :=
  if isCacheEligible services nodeType config inputs then
    services.cache nodeExecution nodeType config inputs
  else .ok none

/-- A lookup that raises is a miss, but for a registered event. -/
def cachedArtifact (node : NodeExecution) (inputs : Dict String Uuid) (registered : Bool) :
  Except String (Option Uuid) :=
  match lookup services node.id node.nodeType node.nodeConfig inputs with
  | .ok hit => .ok hit
  | .error message => if registered then .error message else .ok none

def reuseArtifact (artifact : Uuid)
  (inputs : Dict String Uuid) (registered : Bool) (node : NodeExecution) :
  NodeExecution :=
  { node with
    status := .succeeded
    startedAt :=
      if registered then node.startedAt
      else some (node.startedAt.getD services.utcnow)
    outputArtifactID := some artifact
    inputArtifactIDs := inputs.entries.map Prod.snd }

variable (nodeID : String) (node : NodeExecution)

section

variable (inputs : Dict String Uuid)

/-- `_apply_cached_artifact_uncommitted`; `none` is a miss. -/
def applyCachedArtifact (registered : Bool) : Except String (Option Tables) :=
  if registered ∧ (node.status ≠ .pending ∨ node.workerID.isSome ∨
    node.workerRegistrationID.isSome ∨ node.workerLeaseEpoch.isSome ∨
    node.startedAt.isSome) then
    .error "registered cache node authority changed"
  else do
    match ← cachedArtifact services node inputs registered with
    | none => return none
    | some artifact =>
      return some (tables.modifyNode nodeID
        (reuseArtifact services artifact inputs registered) fun _ => rfl)

def queueNode (node : NodeExecution) : NodeExecution :=
  { node with
    status := .queued
    inputArtifactIDs := inputs.entries.map Prod.snd }

/-- Queue a node execution and hand its task to Redis. The tables are committed
between the two. -/
def launchNode : Outcome :=
  let dependencies := (plannedDependencies tables.job).getD nodeID []
  let task := taskFor services tables.job nodeID node inputs dependencies
  let queued := tables.modifyNode nodeID (queueNode inputs) fun _ => rfl
  match stageWorkerTaskDispatch services queued none task with
  | .error message => .raised message tables
  | .ok staged => reconcilePendingDispatches services node.id staged

end

/-- The body of the loop of `_dispatch_ready_nodes` from its second look at the
dependencies on. -/
def dispatchNode : Outcome :=
  match lockDispatchAuthority tables node with
  | .error _ => .blocked tables
  | .ok _ =>
    let dependencies := (plannedDependencies tables.job).getD nodeID []
    if !dependenciesSucceeded tables.job dependencies then .finished tables
    else
      let inputs := inputArtifacts tables.job.pipelineSnapshot
        (outputArtifact tables.job) nodeID
      match applyCachedArtifact services tables nodeID node
        (inputArtifactsByHandle services inputs) false with
      | .error message => .raised message tables
      | .ok (some cached) => .finished cached
      | .ok none => launchNode services tables nodeID node inputs

end

def isReady (dependencies : List String) (nodeID : String) : Bool :=
  (job.node? nodeID).any (fun node => node.status = .pending) &&
    dependenciesSucceeded job dependencies

def dispatchIfReady (dependencies : Dict String (List String)) (tables : Tables)
  (nodeID : String) : Outcome :=
  match dependencies.get? nodeID, tables.job.node? nodeID with
  | some upstream, some node =>
    if isReady tables.job upstream nodeID then
      dispatchNode services tables nodeID node
    else .finished tables
  | _, _ => .finished tables

/-- One round of the loop. An initial launch looks first, and takes its locks
and a fresh dependency map only for a node that seems ready. -/
def visitNode (guardInitialLaunch : Bool)
  (dependencies : Dict String (List String)) (tables : Tables)
  (nodeID : String) : Outcome :=
  if guardInitialLaunch then
    if isReady tables.job (dependencies.getD nodeID []) nodeID then
      lockInitialLaunchAuthority tables fun tables =>
        dispatchIfReady services (buildDependencyMap tables.job.pipelineSnapshot) tables nodeID
    else .finished tables
  else dispatchIfReady services dependencies tables nodeID

end

def visitNodes (services : Services) (guardInitialLaunch : Bool)
  (dependencies : Dict String (List String)) :
  List String → Tables → Outcome
  | [], tables => .finished tables
  | nodeID :: rest, tables =>
    (visitNode services guardInitialLaunch dependencies tables nodeID).andThen
      (visitNodes services guardInitialLaunch dependencies rest)

section

variable (services : Services)

def dispatchReadyNodes (guardInitialLaunch : Bool)
  (dependencies : Dict String (List String)) (tables : Tables) : Outcome :=
  if tables.job.status = .cancelled then .finished tables
  else
    (visitNodes services guardInitialLaunch dependencies dependencies.keys
      tables).andThen fun tables => .finished (maybeFinalizeJob tables)

def resetUnclaimed (node : NodeExecution) : NodeExecution :=
  if node.status = .queued ∧ node.workerID = none ∧ node.startedAt = none then
    { node with status := .pending }
  else node

theorem id_resetUnclaimed (node : NodeExecution) : (resetUnclaimed node).id = node.id := by
  unfold resetUnclaimed
  split <;> rfl

def planJob (job : Job) : Job :=
  { job.mapNodes (fun _ => resetUnclaimed) (fun _ => id_resetUnclaimed) with
    status := .running
    startedAt := some services.utcnow
    executionPlan := some {
      topoOrder := topologicalSort job.pipelineSnapshot
      dependencies := buildDependencyMap job.pipelineSnapshot } }

section

variable (tables : Tables)

def launchJob : Outcome :=
  lockInitialLaunchAuthority (tables.setJob (planJob services tables.job)) fun planned =>
    match resolveSourceNodes services planned.job with
    | .error message => .raised message planned
    | .ok job =>
      lockInitialLaunchAuthority (planned.setJob job) fun prepared =>
        dispatchReadyNodes services true (buildDependencyMap tables.job.pipelineSnapshot) prepared

/-- An exception fails the job, on top of what was committed before it. -/
def startJob : Outcome :=
  lockInitialLaunchAuthority tables fun tables =>
    match launchJob services tables with
    | .raised message committed =>
      lockInitialLaunchAuthority committed fun fresh =>
        .finished (fresh.setJob { fresh.job with
          status := .failed
          errorMessage := some message })
    | outcome => outcome

def findNode? (job : Job) (nodeExecution : Uuid) : Option (String × NodeExecution) :=
  job.nodes.entries.find? fun entry => entry.2.id = nodeExecution

def lockClaimedNode (claim : NodeExecutionClaim)
  (status : NodeStatus) : Except String (String × NodeExecution) :=
  match findNode? tables.job claim.nodeExecutionID with
  | none => .error "node execution authority changed while locking"
  | some entry => do
    let authority := locked tables (some entry.2)
    requireActiveExecutionAuthority authority [.running] (some [status])
    requireMatchingNodeExecutionClaim authority claim
    return entry

def completeNode (artifact : Uuid) (node : NodeExecution) : NodeExecution :=
  { node with status := .succeeded, outputArtifactID := some artifact }

def onNodeCompleted (artifact : Uuid) (claim : NodeExecutionClaim) (tables : Tables) : Outcome :=
  if claim.workerRegistrationID.isSome then
    .raised "registered worker events require a durable receipt" tables
  else
    match lockClaimedNode tables claim .running with
    | .error _ => .blocked tables
    | .ok entry =>
      let completed := tables.modifyNode entry.1 (completeNode artifact) fun _ => rfl
      match lockClaimedNode completed claim .succeeded with
      | .error _ => .blocked completed
      | .ok _ =>
        match applyJobFinalization completed.job with
        | some job => .finished (completed.setJob job)
        | none => dispatchReadyNodes services false (plannedDependencies completed.job) completed

def skipNode (node : NodeExecution) : NodeExecution :=
  if node.status = .pending then { node with status := .skipped } else node

theorem id_skipNode (node : NodeExecution) : (skipNode node).id = node.id := by
  unfold skipNode
  split <;> rfl

def skipDownstream (job : Job) (failed : String) : Job :=
  let skipped := downstreamNodeIDs failed (plannedDependencies job)
  job.mapNodes (fun nodeID node => if nodeID ∈ skipped then skipNode node else node)
    fun nodeID node => by
      split
      · exact id_skipNode node
      · rfl

def retryNode (node : NodeExecution) : NodeExecution :=
  { node with
    status := .queued
    retryCount := node.retryCount + 1
    errorMessage := none }

def failNode (error : String) (node : NodeExecution) : NodeExecution :=
  { node with status := .failed, errorMessage := some error }

def failJobNode (nodeID : String) (node : NodeExecution) (error : String) : Tables :=
  let failed := tables.modifyNode nodeID (failNode error) fun _ => rfl
  maybeFinalizeJob (tables.setJob { skipDownstream failed.job nodeID with
    errorMessage := some s!"Node '{node.nodeLabel}' failed: {error}" })

end

def onNodeFailed (error : String) (claim : NodeExecutionClaim) (tables : Tables) : Outcome :=
  if claim.workerRegistrationID.isSome then
    .raised "registered worker events require a durable receipt" tables
  else
    match lockClaimedNode tables claim .running with
    | .error _ => .blocked tables
    | .ok entry =>
      if entry.2.retryCount < 1 then
        let retried := tables.modifyNode entry.1 retryNode fun _ => rfl
        match lockClaimedNode retried claim .queued with
        | .error _ => .blocked retried
        | .ok _ =>
          match services.redisError claim.nodeExecutionID with
          | some message => .raised message retried
          | none => .finished retried
      else .finished (failJobNode tables entry.1 entry.2 error)

inductive Report where
  | completed (outputArtifactID : Option ConfigValue)
  | failed (error : Option String)

structure RegisteredWorkerEvent where
  claim : NodeExecutionClaim
  report : Report

/-- One visit of `_stage_ready_receipt_dispatches_once`, with whether any so far
made progress. -/
def stageReceiptNode (receipt : Uuid) (pass : Bool × Tables) (entry : String × List String) :
  Except String (Bool × Tables) :=
  let tables := pass.2
  let nodeID := entry.1
  match tables.job.node? nodeID with
  | none => .ok pass
  | some node =>
    if !isReady tables.job entry.2 nodeID then .ok pass
    else do
      let inputs := inputArtifacts tables.job.pipelineSnapshot
        (outputArtifact tables.job) nodeID
      match ← applyCachedArtifact services tables nodeID node
        (inputArtifactsByHandle services inputs) true with
      | some cached => return (true, cached)
      | none =>
        let queued := tables.modifyNode nodeID (queueNode inputs) fun _ => rfl
        let task := taskFor services queued.job nodeID node inputs entry.2
        let staged ←
          stageWorkerTaskDispatch services queued (some receipt) task
        return (true, staged)

def stageReadyReceiptDispatchesOnce (receipt : Uuid)
  (dependencies : Dict String (List String)) (tables : Tables) :
  Except String (Bool × Tables) :=
  dependencies.entries.foldlM (stageReceiptNode services receipt) (false, tables)

end

def stageRounds (services : Services) (receipt : Uuid) (dependencies : Dict String (List String)) :
  Nat → Tables → Except String Tables
  | 0, tables => .ok tables
  | rounds + 1, tables => do
    let pass ← stageReadyReceiptDispatchesOnce services receipt
      dependencies tables
    if pass.1 then stageRounds services receipt dependencies rounds pass.2
    else return pass.2

variable (services : Services) (receipt : Uuid)

/-- A round that makes progress takes up a pending node. -/
def stageReceiptDispatches (dependencies : Dict String (List String)) (tables : Tables) :
  Except String Tables :=
  stageRounds services receipt dependencies (tables.job.pipelineSnapshot.nodes.length + 1) tables

def completionArtifact (tables : Tables)
  (node : NodeExecution) (outputArtifactID : Option ConfigValue) :
  Except String Uuid :=
  match outputArtifactID.map services.parseUUID with
  | some (.ok artifact) =>
    if services.artifactOwner artifact = some (tables.job.id, node.id) then
      .ok artifact
    else .error "registered completion artifact authority mismatch"
  | _ => .error "registered completion artifact is invalid"

def applyRegisteredCompletion (outputArtifactID : Option ConfigValue) (tables : Tables)
  (nodeID : String) (node : NodeExecution) : Except String Tables := do
  let artifact ← completionArtifact services tables node outputArtifactID
  let completed := tables.modifyNode nodeID (completeNode artifact) fun _ => rfl
  services.storeCache
  match applyJobFinalization completed.job with
  | some job => return completed.setJob job
  | none =>
    let staged ← stageReceiptDispatches services receipt
      (plannedDependencies completed.job) completed
    return maybeFinalizeJob staged

def releaseClaim (node : NodeExecution) : NodeExecution :=
  { node with
    workerID := none
    workerRegistrationID := none
    workerLeaseEpoch := none
    startedAt := none }

def applyRegisteredFailure (error : Option String) (tables : Tables) (nodeID : String)
  (node : NodeExecution) : Except String Tables :=
  let error := String.ofList ((error.getD "Unknown error").toList.take 2000)
  if node.retryCount < 1 then do
    let retried := tables.modifyNode nodeID retryNode fun _ => rfl
    let inputs := inputArtifacts tables.job.pipelineSnapshot
      (outputArtifact tables.job) nodeID
    let task := taskFor services retried.job nodeID node inputs
      ((plannedDependencies tables.job).getD nodeID [])
    let staged ← stageWorkerTaskDispatch services retried (some receipt) task
    services.releaseRetryClaim
    return staged.modifyNode nodeID releaseClaim fun _ => rfl
  else .ok (failJobNode tables nodeID node error)

/-- `apply_registered_worker_event`; an exception rolls the receipt's
transaction back. -/
def applyRegisteredWorkerEvent (event : RegisteredWorkerEvent) (tables : Tables) :
  Except String Tables :=
  match findNode? tables.job event.claim.nodeExecutionID with
  | none => .error "registered event node authority changed"
  | some entry =>
    let node := entry.2
    if tables.job.status ≠ .running ∨ node.status ≠ .running ∨
      node.workerID ≠ some event.claim.workerID ∨
      node.workerRegistrationID ≠ event.claim.workerRegistrationID ∨
      node.workerLeaseEpoch ≠ event.claim.workerLeaseEpoch ∨
      node.startedAt ≠ some event.claim.startedAt then
      .error "registered event node authority changed"
    else
      match event.report with
      | .completed artifact =>
        applyRegisteredCompletion services receipt artifact tables entry.1 node
      | .failed error => applyRegisteredFailure services receipt error tables entry.1 node

end VideoProcess.Python
