import VideoProcess.Schema
import VideoProcess.Program.Pool
import Mathlib.Data.List.Sort

namespace VideoProcess.Go

open Data Program

/-! `internal/store`: the methods the Go orchestrator calls, each one atomic
step on the shared world. -/

structure NodeExecutionView where
  id : Uuid
  (nodeID nodeType nodeLabel : String)
  status : NodeStatus
  retryCount : Nat
  nodeConfig : Dict String ConfigValue
  outputArtifactID : Option Uuid
  workerID : Option String
deriving DecidableEq

structure JobView where
  id : Uuid
  status : JobStatus
  orchestratorOwner : Owner
  pipelineSnapshot : PipelineDefinition
  executionPlan : Option ExecutionPlan
  nodes : List NodeExecutionView
deriving DecidableEq

structure TaskPayload where
  (jobID nodeExecutionID : Uuid)
  (nodeID nodeType : String)
  config : Dict String ConfigValue
  inputArtifacts : Dict String Uuid
  preferredHosts : List String
  (affinityEnqueuedAt affinityBounces : Nat)
  eventStream : String
  orchestratorOwner : Owner
deriving DecidableEq

structure World where
  database : Database
  tasks : List TaskPayload

/-- What the environment decides about one request: whether it fails, the
clock, and the identifiers the database generates. -/
structure Env where
  fail : Option String
  now : Nat
  id : Uuid
  nodeIDs : List Uuid

inductive Call where
  | createGoJob (snapshot : PipelineDefinition)
  | getJobDetail (jobID : Uuid)
  | createSourceArtifact (jobID nodeExecutionID : Uuid) (assetID : String)
  | getVideoScheduleAuthority
  | claimGoJobPlanning (jobID : Uuid) (executionPlan : ExecutionPlan)
  | markGoJobRunning (jobID : Uuid)
  | markGoJobWaitingWindow (jobID : Uuid)
  | markGoNodeQueued (nodeExecutionID : Uuid) (inputArtifactIDs : List Uuid)
  | releaseGoNodeQueueClaim (nodeExecutionID : Uuid)
  | markGoNodeSucceeded (jobID nodeExecutionID outputArtifactID : Uuid)
  | markGoNodeFailed (jobID nodeExecutionID : Uuid) (errorMessage : String)
  | incrementGoNodeRetry (jobID nodeExecutionID : Uuid)
  | skipGoDownstreamNodes (jobID : Uuid) (nodeIDs : List String)
  | finalizeGoJob (jobID : Uuid) (status : JobStatus)
    (errorMessage : Option String) (finalArtifactNodeIDs : List String)
  | listRecoverableGoJobs
  | resetStaleGoNodes (jobID : Uuid) (staleBefore : Nat)
  | cancelJob (jobID : Uuid)
  | setVideoScheduleState (state : ScheduleState)
  | openVideoScheduleForJob (expectedJobID : Uuid)
  | markNodeRunning (nodeExecutionID : Uuid) (workerID : String)
  | dispatch (payload : TaskPayload)
deriving DecidableEq

@[reducible] def Call.Result : Call → Type
  | .createGoJob _ => Uuid
  | .getJobDetail _ => JobView
  | .createSourceArtifact _ _ _ => Uuid
  | .getVideoScheduleAuthority => RuntimeSchedule
  | .claimGoJobPlanning _ _ => Bool
  | .markGoNodeQueued _ _ => Bool
  | .listRecoverableGoJobs => List JobView
  | _ => Unit

abbrev storeInterface : Interface where
  Call := Call
  Reply call := Except String call.Result

def errNoRows : String := "no rows in result set"

/-- The texts that wrap `store.ErrConflict`. -/
def errConflict (detail : String) : String := "store conflict: " ++ detail

def nodeView (row : NodeExecutionRow) : NodeExecutionView :=
  { id := row.id
    nodeID := row.nodeID
    nodeType := row.nodeType
    nodeLabel := row.nodeLabel
    status := row.status
    retryCount := row.retryCount
    nodeConfig := row.nodeConfig
    outputArtifactID := row.outputArtifactID
    workerID := row.workerID }

def jobView (row : JobRow) (nodes : List NodeExecutionRow) : JobView :=
  { id := row.id
    status := row.status
    orchestratorOwner := row.orchestratorOwner
    pipelineSnapshot := row.pipelineSnapshot
    executionPlan := row.executionPlan
    nodes := nodes.map nodeView }

/-- `GetJobDetail`: the job and its node executions in the order of their
ids. -/
def jobDetail (database : Database) (jobID : Uuid) : Option JobView :=
  (database.jobs.find? jobID).map fun row =>
    jobView row (database.nodesOf jobID)

/-- `EXISTS (SELECT 1 FROM jobs WHERE id = $1 AND orchestrator_owner = 'go')`. -/
def goOwned (database : Database) (jobID : Uuid) : Bool :=
  (database.jobs.find? jobID).any fun row => row.orchestratorOwner = .go

def guardedNodes (world : World) (selected : NodeExecutionRow → Bool)
  (change : NodeExecutionRow → NodeExecutionRow)
  (keeps : ∀ row, (change row).id = row.id) : Except String Unit × World :=
  if world.database.nodeExecutions.rows.any selected then
    (.ok (), { world with
      database := world.database.updateNodes selected change keeps })
  else (.error errNoRows, world)

def guardedJobs (world : World) (selected : JobRow → Bool)
  (change : JobRow → JobRow) (keeps : ∀ row, (change row).id = row.id) :
  Except String Unit × World :=
  if world.database.jobs.rows.any selected then
    (.ok (), { world with
      database := world.database.updateJobs selected change keeps })
  else (.error errNoRows, world)

def goNodeLabel (node : PipelineNode) : String :=
  if node.data.label = "" then node.type else node.data.label

def goNodeConfig (node : PipelineNode) : Dict String ConfigValue :=
  match node.data.assetID with
  | some assetID =>
    if node.type = "source" ∧ (node.data.config.get? "asset_id").isNone then
      node.data.config.set "asset_id" (.str assetID)
    else node.data.config
  | none => node.data.config

def freshNode (jobID : Uuid) (node : PipelineNode) (id : Uuid) : NodeExecutionRow :=
  { id := id
    jobID := jobID
    nodeID := node.id
    nodeType := node.type
    nodeLabel := goNodeLabel node
    nodeConfig := goNodeConfig node
    status := .pending
    retryCount := 0
    workerID := none
    queuedAt := none
    startedAt := none
    inputArtifactIDs := []
    outputArtifactID := none
    errorMessage := none }

variable (env : Env)

section

variable (snapshot : PipelineDefinition)

def freshJob : JobRow :=
  { id := env.id
    status := .pending
    orchestratorOwner := .go
    pipelineSnapshot := snapshot
    executionPlan := none
    submittedAt := env.now
    errorMessage := none }

def freshRows : List NodeExecutionRow :=
  (snapshot.nodes.zip env.nodeIDs).map fun pair =>
    freshNode env.id pair.1 pair.2

/-- `createGoJobInTx`: a pending job owned by the Go orchestrator, and its
node executions. -/
def insertGoJob (database : Database) : Option Database :=
  if snapshot.nodes.length ≤ env.nodeIDs.length then
    (database.jobs.insert (freshJob env snapshot)).bind fun jobs =>
      ((freshRows env snapshot).foldlM Table.insert database.nodeExecutions).map fun nodes =>
        { database with jobs := jobs, nodeExecutions := nodes }
  else none

def createGoJob (world : World) : Except String Uuid × World :=
  match insertGoJob env snapshot world.database with
  | some database => (.ok env.id, { world with database := database })
  | none => (.error "duplicate key value violates unique constraint", world)

end

inductive GoJobPlanningAction where
  | claim
  | park
  | skip
deriving DecidableEq

def goJobPlanningActionFor (schedule : RuntimeSchedule) (jobID : Uuid)
  (jobStatus : JobStatus) : GoJobPlanningAction :=
  if jobStatus.isTerminal then .skip
  else if schedule.state = .closed then .park
  else if schedule.state = .draining ∧
    (jobStatus = .pending ∨ jobStatus = .waitingWindow) then .park
  else if schedule.state = .opened ∧ schedule.guardedJobID.isSome ∧
    schedule.guardedJobID ≠ some jobID then .park
  else .claim

def goJobRow? (database : Database) (jobID : Uuid) : Option JobRow :=
  (database.jobs.find? jobID).filter fun row => row.orchestratorOwner = .go

section

variable (jobID : Uuid)

def claimGoJobPlanning (executionPlan : ExecutionPlan)
  (world : World) : Except String Bool × World :=
  let open? (row : JobRow) : Bool := row.id = jobID ∧
    row.orchestratorOwner = .go ∧ ¬ row.status.isTerminal
  match goJobRow? world.database jobID with
  | none => (.error errNoRows, world)
  | some row =>
    match goJobPlanningActionFor world.database.schedule jobID row.status with
    | .skip => (.ok false, world)
    | .park =>
      let parked := guardedJobs world open? (fun row =>
        { row with status := .waitingWindow, errorMessage := none })
        fun _ => rfl
      (parked.1.map fun _ => false, parked.2)
    | .claim =>
      let claimed := guardedJobs world open? (fun row =>
        { row with status := .planning, executionPlan := some executionPlan })
        fun _ => rfl
      (claimed.1.map fun _ => true, claimed.2)

variable (world : World)

def markGoJobRunning : Except String Unit × World :=
  guardedJobs world (fun row => row.id = jobID ∧ row.orchestratorOwner = .go ∧
    row.status = .planning)
    (fun row => { row with status := .running }) fun _ => rfl

def markGoJobWaitingWindow : Except String Unit × World :=
  guardedJobs world (fun row => row.id = jobID ∧ row.orchestratorOwner = .go ∧
    ¬ row.status.isTerminal)
    (fun row => { row with status := .waitingWindow, errorMessage := none })
    fun _ => rfl

/-- `CancelJob`, without the read that builds its response. -/
def cancelJob : Except String Unit × World :=
  match world.database.jobs.find? jobID with
  | none => (.error errNoRows, world)
  | some row =>
    if row.status.isTerminal then (.ok (), world)
    else
      (.ok (), { world with
        database := (world.database.updateJobs (fun row => row.id = jobID)
          (fun row => { row with status := .cancelled }) fun _ => rfl)
          |>.updateNodes (fun row => row.jobID = jobID ∧ row.status.isActive)
            (fun row => { row with status := .cancelled }) fun _ => rfl })

end

def ensureGoNodeExists (database : Database) (nodeExecutionID : Uuid) : Bool :=
  database.nodeExecutions.rows.any fun row =>
    row.id = nodeExecutionID ∧ goOwned database row.jobID

def markGoNodeQueued (nodeExecutionID : Uuid) (inputArtifactIDs : List Uuid) (world : World) :
  Except String Bool × World :=
  let selected (row : NodeExecutionRow) : Bool := row.id = nodeExecutionID ∧
    row.status = .pending ∧ goOwned world.database row.jobID
  if world.database.nodeExecutions.rows.any selected then
    (.ok true, { world with
      database := world.database.updateNodes selected (fun row =>
        { row with
          status := .queued
          queuedAt := row.queuedAt.or (some env.now)
          inputArtifactIDs := inputArtifactIDs
          errorMessage := none }) fun _ => rfl })
  else if ensureGoNodeExists world.database nodeExecutionID then
    (.ok false, world)
  else (.error errNoRows, world)

def releaseGoNodeQueueClaim (nodeExecutionID : Uuid) (world : World) : Except String Unit × World :=
  let selected (row : NodeExecutionRow) : Bool := row.id = nodeExecutionID ∧
    row.status = .queued ∧ goOwned world.database row.jobID
  if world.database.nodeExecutions.rows.any selected then
    (.ok (), { world with
      database := world.database.updateNodes selected (fun row =>
        { row with
          status := .pending
          queuedAt := none
          inputArtifactIDs := [] }) fun _ => rfl })
  else if ensureGoNodeExists world.database nodeExecutionID then
    (.ok (), world)
  else (.error errNoRows, world)

/-- `WHERE id = $2 AND job_id = $1 AND EXISTS (... orchestrator_owner = 'go')`:
the condition of the updates that do not look at the node's status. -/
def ownedNode (database : Database) (jobID nodeExecutionID : Uuid)
  (row : NodeExecutionRow) : Bool :=
  row.id = nodeExecutionID ∧ row.jobID = jobID ∧ goOwned database row.jobID

def markGoNodeSucceeded (jobID nodeExecutionID outputArtifactID : Uuid)
  (world : World) : Except String Unit × World :=
  guardedNodes world (ownedNode world.database jobID nodeExecutionID) (fun row =>
    { row with
      status := .succeeded
      errorMessage := none
      outputArtifactID := some outputArtifactID }) fun _ => rfl

section

variable (jobID nodeExecutionID : Uuid)

def markGoNodeFailed (errorMessage : String) (world : World) : Except String Unit × World :=
  guardedNodes world (ownedNode world.database jobID nodeExecutionID) (fun row =>
    { row with status := .failed, errorMessage := some errorMessage })
    fun _ => rfl

def incrementGoNodeRetry (world : World) : Except String Unit × World :=
  guardedNodes world (ownedNode world.database jobID nodeExecutionID) (fun row =>
    { row with
      retryCount := row.retryCount + 1
      status := .pending
      queuedAt := none
      startedAt := none
      workerID := none
      errorMessage := none }) fun _ => rfl

def skipGoDownstreamNodes (jobID : Uuid) (nodeIDs : List String)
  (world : World) : Except String Unit × World :=
  if goOwned world.database jobID then
    (.ok (), { world with
      database := world.database.updateNodes (fun row => row.jobID = jobID ∧ row.nodeID ∈ nodeIDs ∧
        (row.status = .pending ∨ row.status = .queued) ∧
        goOwned world.database row.jobID)
        (fun row => { row with status := .skipped }) fun _ => rfl })
  else (.error errNoRows, world)

def resetStaleGoNodes (jobID : Uuid) (staleBefore : Nat) (world : World) :
  Except String Unit × World :=
  let stale (time : Option Nat) : Bool := time.all fun time => time < staleBefore
  if goOwned world.database jobID then
    (.ok (), { world with
      database := world.database.updateNodes (fun row => row.jobID = jobID ∧
        (row.status = .running ∧ stale row.startedAt ∨
          row.status = .queued ∧ stale row.queuedAt) ∧
        goOwned world.database row.jobID)
        (fun row =>
          { row with
            status := .pending
            queuedAt := none
            startedAt := none
            workerID := none
            inputArtifactIDs := []
            errorMessage := none }) fun _ => rfl })
  else (.error errNoRows, world)

def markNodeRunning (nodeExecutionID : Uuid) (workerID : String)
  (world : World) : Except String Unit × World :=
  (.ok (), { world with
    database := world.database.updateNodes (fun row => row.id = nodeExecutionID) (fun row =>
      { row with
        status := .running
        startedAt := some env.now
        workerID := some workerID }) fun _ => rfl })

/-- `CreateSourceArtifact`: copy the asset as an intermediate artifact of the
node and mark the node succeeded, in one transaction. -/
def createSourceArtifact (assetID : String) (world : World) : Except String Uuid × World :=
  match parseUUID? assetID with
  | none => (.error ("cannot parse UUID " ++ assetID), world)
  | some asset =>
    if (world.database.assets.find? asset).isNone then
      (.error errNoRows, world)
    else if world.database.nodeExecutions.rows.any
      (ownedNode world.database jobID nodeExecutionID) then
      match world.database.artifacts.insert
        ⟨env.id, jobID, nodeExecutionID, .intermediate⟩ with
      | none => (.error "duplicate key value violates unique constraint", world)
      | some artifacts =>
        (.ok env.id, { world with
          database := (world.database.updateNodes
            (ownedNode world.database jobID nodeExecutionID) (fun row =>
              { row with
                status := .succeeded
                errorMessage := none
                outputArtifactID := some env.id }) fun _ => rfl)
            |>.setArtifacts artifacts })
    else (.error errNoRows, world)

end

/-- `finalArtifactNodeList`: the distinct non-empty ids, in order. -/
def finalArtifactNodeList (nodeIDs : List String) : List String :=
  nodeIDs.foldl (fun kept nodeID =>
    if nodeID = "" ∨ nodeID ∈ kept then kept else kept ++ [nodeID]) []

def finalNode (jobID : Uuid) (finalNodeIDs : List String) (row : NodeExecutionRow) : Bool :=
  row.jobID = jobID ∧ row.nodeID ∈ finalNodeIDs ∧ row.status = .succeeded

def validFinalNodes (database : Database) (jobID : Uuid)
  (finalNodeIDs : List String) : List String :=
  finalNodeIDs.filter fun nodeID =>
    database.nodeExecutions.rows.any fun row =>
      finalNode jobID [nodeID] row ∧ database.artifacts.rows.any fun artifact =>
        row.outputArtifactID = some artifact.id ∧
          artifact.jobID = row.jobID ∧ artifact.nodeExecutionID = row.id

def promotedArtifact (database : Database) (jobID : Uuid)
  (finalNodeIDs : List String) (artifact : ArtifactRow) : Bool :=
  artifact.jobID = jobID ∧ database.nodeExecutions.rows.any fun row =>
    finalNode jobID finalNodeIDs row ∧ artifact.nodeExecutionID = row.id ∧
      row.outputArtifactID = some artifact.id

def finalizeGoJob (jobID : Uuid) (status : JobStatus)
  (errorMessage : Option String) (finalArtifactNodeIDs : List String)
  (world : World) : Except String Unit × World :=
  match goJobRow? world.database jobID with
  | none => (.error errNoRows, world)
  | some row =>
    if row.status.isTerminal then (.ok (), world)
    else
      let finalNodeIDs := finalArtifactNodeList finalArtifactNodeIDs
      let promoted := promotedArtifact world.database jobID finalNodeIDs
      if (validFinalNodes world.database jobID finalNodeIDs).length ≠ finalNodeIDs.length then
        (.error (errConflict "final artifact nodes must have successful output artifacts"), world)
      else if finalNodeIDs ≠ [] ∧ world.database.artifacts.rows.countP promoted ≠
        finalNodeIDs.length then
        (.error (errConflict "final artifact promotion count mismatch"), world)
      else
        (.ok (), { world with
          database := (world.database.updateJobs
            (fun row => row.id = jobID ∧ row.orchestratorOwner = .go)
            (fun row =>
              { row with status := status, errorMessage := errorMessage })
            fun _ => rfl)
            |>.setArtifacts (world.database.artifacts.update promoted
              (fun artifact => { artifact with kind := .final })
              fun _ => rfl) })

def recoverable (row : JobRow) : Bool :=
  row.orchestratorOwner = .go ∧ (row.status = .pending ∨ row.status = .waitingWindow ∨
    row.status = .planning ∨ row.status = .running)

def listRecoverableGoJobs (database : Database) : List JobView :=
  ((database.jobs.rows.filter recoverable).insertionSort
    fun left right => left.submittedAt ≤ right.submittedAt).filterMap
    fun row => jobDetail database row.id

def releaseWaiting (database : Database) (selected : JobRow → Bool) : Database :=
  database.updateJobs (fun row => selected row ∧
    row.status = .waitingWindow ∧ row.orchestratorOwner = .go)
    (fun row => { row with status := .pending, errorMessage := none })
    fun _ => rfl

def setVideoScheduleState (state : ScheduleState) (world : World) : World :=
  let database := world.database.setSchedule ⟨state, none⟩
  { world with
    database := if state = .opened then releaseWaiting database fun _ => true
      else database }

/-- Open the window for one parked job, when it is the only job that is not at
rest and no node of any job is with a worker. -/
def openVideoScheduleForJob (expectedJobID : Uuid) (world : World) : Except String Unit × World :=
  let unfinished := world.database.jobs.rows.filter fun row =>
    ¬ row.status.isTerminal
  let idle := world.database.nodeExecutions.rows.all fun row =>
    ¬ row.status.isInFlight
  if world.database.schedule.state = .closed ∧ idle ∧ unfinished.map JobRow.id = [expectedJobID] ∧
    (unfinished.all fun row => row.status = .waitingWindow ∧ row.orchestratorOwner = .go) then
    (.ok (), { world with
      database := releaseWaiting (world.database.setSchedule ⟨.opened, some expectedJobID⟩)
        fun row => row.id = expectedJobID })
  else (.error "video schedule guarded open mismatch", world)

def answer : (call : Call) → World → Except String call.Result × World
  | .createGoJob snapshot, world => createGoJob env snapshot world
  | .getJobDetail jobID, world =>
    match jobDetail world.database jobID with
    | some job => (.ok job, world)
    | none => (.error errNoRows, world)
  | .createSourceArtifact jobID nodeExecutionID assetID, world =>
    createSourceArtifact env jobID nodeExecutionID assetID world
  | .getVideoScheduleAuthority, world => (.ok world.database.schedule, world)
  | .claimGoJobPlanning jobID executionPlan, world => claimGoJobPlanning jobID executionPlan world
  | .markGoJobRunning jobID, world => markGoJobRunning jobID world
  | .markGoJobWaitingWindow jobID, world => markGoJobWaitingWindow jobID world
  | .markGoNodeQueued nodeExecutionID inputArtifactIDs, world =>
    markGoNodeQueued env nodeExecutionID inputArtifactIDs world
  | .releaseGoNodeQueueClaim nodeExecutionID, world => releaseGoNodeQueueClaim nodeExecutionID world
  | .markGoNodeSucceeded jobID nodeExecutionID outputArtifactID, world =>
    markGoNodeSucceeded jobID nodeExecutionID outputArtifactID world
  | .markGoNodeFailed jobID nodeExecutionID errorMessage, world =>
    markGoNodeFailed jobID nodeExecutionID errorMessage world
  | .incrementGoNodeRetry jobID nodeExecutionID, world =>
    incrementGoNodeRetry jobID nodeExecutionID world
  | .skipGoDownstreamNodes jobID nodeIDs, world => skipGoDownstreamNodes jobID nodeIDs world
  | .finalizeGoJob jobID status errorMessage finalArtifactNodeIDs, world =>
    finalizeGoJob jobID status errorMessage finalArtifactNodeIDs world
  | .listRecoverableGoJobs, world => (.ok (listRecoverableGoJobs world.database), world)
  | .resetStaleGoNodes jobID staleBefore, world => resetStaleGoNodes jobID staleBefore world
  | .cancelJob jobID, world => cancelJob jobID world
  | .setVideoScheduleState state, world => (.ok (), setVideoScheduleState state world)
  | .openVideoScheduleForJob expectedJobID, world => openVideoScheduleForJob expectedJobID world
  | .markNodeRunning nodeExecutionID workerID, world =>
    markNodeRunning env nodeExecutionID workerID world
  | .dispatch payload, world =>
    (.ok (), { world with
      tasks := world.tasks ++ [{ payload with affinityEnqueuedAt := env.now }] })

def exec (call : Call) (world : World) : Except String call.Result × World :=
  match env.fail with
  | some message => (.error message, world)
  | none => answer env call world

def machine : Machine storeInterface World Env where
  exec := exec

end VideoProcess.Go
