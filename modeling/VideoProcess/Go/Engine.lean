import VideoProcess.Affinity
import VideoProcess.Go.Dag
import VideoProcess.Go.Store

namespace VideoProcess.Go

open Data Program

/-! `internal/orchestrator`, as programs over the store. A pointer into
`job.Nodes` is the node's execution id. -/

abbrev Op (α : Type) := Fallible storeInterface α

namespace EngineStore

def request (call : Call) : Op call.Result := ExceptT.mk (.call call .done)

def getJobDetail (jobID : Uuid) : Op JobView := request (.getJobDetail jobID)

section

variable (jobID nodeExecutionID : Uuid)

def createSourceArtifact (assetID : String) : Op Uuid :=
  request (.createSourceArtifact jobID nodeExecutionID assetID)

def getVideoScheduleAuthority : Op RuntimeSchedule := request .getVideoScheduleAuthority

def claimGoJobPlanning (jobID : Uuid) (executionPlan : ExecutionPlan) : Op Bool :=
  request (.claimGoJobPlanning jobID executionPlan)

def markGoJobRunning (jobID : Uuid) : Op Unit := request (.markGoJobRunning jobID)

def markGoJobWaitingWindow (jobID : Uuid) : Op Unit := request (.markGoJobWaitingWindow jobID)

def markGoNodeQueued (nodeExecutionID : Uuid) (inputArtifactIDs : List Uuid) : Op Bool :=
  request (.markGoNodeQueued nodeExecutionID inputArtifactIDs)

def releaseGoNodeQueueClaim (nodeExecutionID : Uuid) : Op Unit :=
  request (.releaseGoNodeQueueClaim nodeExecutionID)

def markGoNodeSucceeded (jobID nodeExecutionID outputArtifactID : Uuid) : Op Unit :=
  request (.markGoNodeSucceeded jobID nodeExecutionID outputArtifactID)

def markGoNodeFailed (errorMessage : String) : Op Unit :=
  request (.markGoNodeFailed jobID nodeExecutionID errorMessage)

def incrementGoNodeRetry : Op Unit :=
  request (.incrementGoNodeRetry jobID nodeExecutionID)

end

variable (jobID : Uuid)

def skipGoDownstreamNodes (nodeIDs : List String) : Op Unit :=
  request (.skipGoDownstreamNodes jobID nodeIDs)

def finalizeGoJob (status : JobStatus)
  (errorMessage : Option String) (finalArtifactNodeIDs : List String) :
  Op Unit := request (.finalizeGoJob jobID status errorMessage finalArtifactNodeIDs)

def listRecoverableGoJobs : Op (List JobView) := request .listRecoverableGoJobs

def resetStaleGoNodes (staleBefore : Nat) : Op Unit :=
  request (.resetStaleGoNodes jobID staleBefore)

def dispatch (payload : TaskPayload) : Op Unit := request (.dispatch payload)

end EngineStore

namespace JobView

variable (job : JobView)

def mapNodes (change : NodeExecutionView → NodeExecutionView) : JobView :=
  { job with nodes := job.nodes.map change }

def changeNodes (selected : NodeExecutionView → Bool)
  (change : NodeExecutionView → NodeExecutionView) : JobView :=
  job.mapNodes fun node => if selected node then change node else node

def setNode (id : Uuid) (change : NodeExecutionView → NodeExecutionView) : JobView :=
  job.changeNodes (fun node => node.id = id) change

end JobView

section

variable (job : JobView)

def shouldProcessGoJob : Bool := job.orchestratorOwner = .go

def dependenciesForJob : Dict String (List String) :=
  match job.executionPlan with
  | some plan => plan.dependencies
  | none => dependencyMap job.pipelineSnapshot

section

variable (nodes : List NodeExecutionView)

/-- `nodesByNodeID(nodes)[nodeID]`: the last node with the id. -/
def nodeByNodeID (nodeID : String) : Option NodeExecutionView :=
  nodes.reverse.find? fun node => node.nodeID = nodeID

def findNodeByExecutionID (id : Uuid) : Option NodeExecutionView :=
  nodes.find? fun node => node.id = id

def dependenciesSucceeded (dependencies : List String) : Bool :=
  dependencies.all fun dependency =>
    (nodeByNodeID nodes dependency).any fun upstream =>
      upstream.status = .succeeded

end

def inputArtifactsForNode (definition : PipelineDefinition)
  (nodes : List NodeExecutionView) (nodeID : String) :
  Dict String Uuid × List Uuid :=
  definition.edges.foldl (fun inputs edge =>
    if edge.target ≠ nodeID then inputs
    else
      match (nodeByNodeID nodes edge.source).bind
        NodeExecutionView.outputArtifactID with
      | none => inputs
      | some artifact => (inputs.1.set edge.targetHandle artifact, inputs.2 ++ [artifact]))
    (.empty, [])

variable (nodes : List NodeExecutionView)

def preferredHostsForNode (dependencies : List String) : List String :=
  mostFrequent ((dependencies.filterMap fun dependency =>
    (nodeByNodeID nodes dependency).map fun upstream =>
      extractWorkerHost (upstream.workerID.getD "")).filter (· ≠ ""))

def hasActiveNode : Bool :=
  nodes.any fun node => node.status.isActive

def allNodesSucceeded : Bool :=
  nodes ≠ [] ∧ nodes.all fun node => node.status = .succeeded

def successfulLeafNodeIDs : List String :=
  job.pipelineSnapshot.nodeIDs.filter fun nodeID =>
    nodeID ∈ leafNodeIDs job.pipelineSnapshot ∧ job.nodes.any fun node => node.nodeID = nodeID ∧
      node.status = .succeeded ∧ node.outputArtifactID.isSome

def hasFailedLeaf : Bool :=
  job.nodes.any fun node =>
    node.nodeID ∈ leafNodeIDs job.pipelineSnapshot ∧ node.status.isFailed

def finalizationErrorMessage : String :=
  let names := (nodes.filter fun node => node.status.isFailed).map fun node =>
    if node.nodeLabel = "" then node.nodeID else node.nodeLabel
  if names = [] then ""
  else "Failed nodes: " ++ ", ".intercalate (names.insertionSort (· ≤ ·))

/-- The status `maybeFinalizeJob` gives a job none of whose nodes is active. -/
def finalStatus : JobStatus :=
  if allNodesSucceeded job.nodes then .succeeded
  else if hasFailedLeaf job ∨ successfulLeafNodeIDs job = [] then .failed
  else .partiallyFailed

def finalErrorMessage : Option String :=
  if allNodesSucceeded job.nodes then none
  else
    let message := finalizationErrorMessage job.nodes
    if message = "" then none else some message

def maybeFinalizeJob : Op Bool :=
  if job.status.isTerminal then pure true
  else if hasActiveNode job.nodes then pure false
  else do
    EngineStore.finalizeGoJob job.id (finalStatus job) (finalErrorMessage job)
      (successfulLeafNodeIDs job)
    pure true

variable (node : NodeExecutionView) (dependencies : Dict String (List String))

def taskPayload : TaskPayload :=
  { jobID := job.id
    nodeExecutionID := node.id
    nodeID := node.nodeID
    nodeType := node.nodeType
    config := node.nodeConfig
    inputArtifacts :=
      (inputArtifactsForNode job.pipelineSnapshot job.nodes node.nodeID).1
    preferredHosts :=
      preferredHostsForNode job.nodes (dependencies.getD node.nodeID [])
    affinityEnqueuedAt := 0
    affinityBounces := 0
    eventStream := "vp:events:go"
    orchestratorOwner := .go }

/-- `dispatchNode`. The claim of a node whose task could not be enqueued is
released again; the returned job carries the in-memory status change. -/
def dispatchNode : Op JobView :=
  if dependenciesSucceeded job.nodes (dependencies.getD node.nodeID []) then do
    let claimed ← EngineStore.markGoNodeQueued node.id
      (inputArtifactsForNode job.pipelineSnapshot job.nodes node.nodeID).2
    if claimed then
      match ← (EngineStore.dispatch (taskPayload job node dependencies)).result
        with
      | .ok () => pure (job.setNode node.id fun node => { node with status := .queued })
      | .error dispatchError =>
        match ← (EngineStore.releaseGoNodeQueueClaim node.id).result with
        | .ok () => throw dispatchError
        | .error releaseError =>
          throw (dispatchError ++ "\nrelease queue claim for node execution " ++
            toString node.id ++ ": " ++ releaseError)
    else pure job
  else pure job

end

def dispatchEach (dependencies : Dict String (List String)) : List String → JobView → Op JobView
  | [], job => pure job
  | nodeID :: rest, job =>
    match nodeByNodeID job.nodes nodeID with
    | none => dispatchEach dependencies rest job
    | some node =>
      if node.status ≠ .pending ∨ node.nodeType = "source" then
        dispatchEach dependencies rest job
      else if dependenciesSucceeded job.nodes (dependencies.getD nodeID []) then do
        let job ← dispatchNode job node dependencies
        dispatchEach dependencies rest job
      else dispatchEach dependencies rest job

def dispatchReadyNodes (job : JobView) (dependencies : Dict String (List String)) : Op JobView :=
  if job.status.isTerminal then pure job
  else dispatchEach dependencies (topologicalOrder job.pipelineSnapshot) job

def failSourceNode (job : JobView) (node : NodeExecutionView)
  (errorMessage : String) : Op JobView := do
  EngineStore.markGoNodeFailed job.id node.id errorMessage
  EngineStore.skipGoDownstreamNodes job.id (downstreamNodeIDs node.nodeID (dependenciesForJob job))
  let reloaded ← EngineStore.getJobDetail job.id
  let finalized ← maybeFinalizeJob reloaded
  if finalized then EngineStore.getJobDetail reloaded.id else pure reloaded

def resolveSourceNode (job : JobView) (index : Nat) : Op JobView :=
  match job.nodes[index]? with
  | none => throw "index out of range"
  | some node =>
    if node.nodeType ≠ "source" then pure job
    else if node.status = .succeeded ∧ node.outputArtifactID.isSome then
      pure job
    else if node.status ≠ .pending then pure job
    else
      match node.nodeConfig.get? "asset_id" with
      | some (.str assetID) =>
        if assetID = "" then
          failSourceNode job node "source node missing asset_id"
        else do
          match ← (EngineStore.createSourceArtifact job.id node.id
            assetID).result with
          | .ok artifactID =>
            pure (job.setNode node.id fun node =>
              { node with
                status := .succeeded
                outputArtifactID := some artifactID })
          | .error message => failSourceNode job node message
      | _ => failSourceNode job node "source node missing asset_id"

def resolveEach : List Nat → JobView → Op JobView
  | [], job => pure job
  | index :: rest, job => do
    let job ← resolveSourceNode job index
    resolveEach rest job

/-- The number of rounds is fixed by the job the loop starts with, while every
round looks at the job as it was last reloaded. -/
def resolveSourceNodes (job : JobView) : Op JobView := resolveEach (List.range job.nodes.length) job

def park (job : JobView) : Op Bool := do
  if job.status ≠ .waitingWindow then EngineStore.markGoJobWaitingWindow job.id
  pure true

def shouldWaitForSchedule (job : JobView) : Op Bool := do
  let authority ← EngineStore.getVideoScheduleAuthority
  if authority.state = .opened ∧ authority.guardedJobID.isSome ∧
    authority.guardedJobID ≠ some job.id then park job
  else if authority.state ≠ .closed ∧ authority.state ≠ .draining then
    pure false
  else if authority.state = .draining ∧ job.status ≠ .waitingWindow ∧
    job.status ≠ .pending then pure false
  else park job

def planFor (definition : PipelineDefinition) : ExecutionPlan :=
  { topoOrder := topologicalOrder definition
    dependencies := dependencyMap definition }

def launch (claimed : JobView) : Op Unit := do
  EngineStore.markGoJobRunning claimed.id
  let job ← resolveSourceNodes
    { claimed with
      executionPlan := some (planFor claimed.pipelineSnapshot)
      status := .running }
  if job.status.isTerminal then pure ()
  else do
    let job ← dispatchReadyNodes job (dependencyMap claimed.pipelineSnapshot)
    discard (maybeFinalizeJob job)

def startJob (jobID : Uuid) : Op Unit := do
  let job ← EngineStore.getJobDetail jobID
  if ¬ shouldProcessGoJob job ∨ job.status.isTerminal then pure ()
  else do
    let waiting ← shouldWaitForSchedule job
    if waiting then pure ()
    else do
      let claimed ← EngineStore.claimGoJobPlanning jobID
        (planFor job.pipelineSnapshot)
      if claimed then launch job else pure ()

def ignoresEvents (job : JobView) : Bool :=
  ¬ shouldProcessGoJob job ∨ job.status = .cancelled ∨ job.status.isTerminal

def onNodeCompleted (jobID nodeExecutionID outputArtifactID : Uuid) : Op Unit := do
  let job ← EngineStore.getJobDetail jobID
  if ignoresEvents job then pure ()
  else
    match findNodeByExecutionID job.nodes nodeExecutionID with
    | none => pure ()
    | some node =>
      if node.status = .succeeded ∧ node.outputArtifactID = some outputArtifactID then pure ()
      else if node.status.isTerminal then pure ()
      else do
        EngineStore.markGoNodeSucceeded jobID nodeExecutionID outputArtifactID
        let job ← EngineStore.getJobDetail jobID
        if ignoresEvents job then pure ()
        else do
          let job ← dispatchReadyNodes job (dependenciesForJob job)
          discard (maybeFinalizeJob job)

def retryNode (jobID nodeExecutionID : Uuid) : Op Unit := do
  EngineStore.incrementGoNodeRetry jobID nodeExecutionID
  let job ← EngineStore.getJobDetail jobID
  match findNodeByExecutionID job.nodes nodeExecutionID with
  | none => pure ()
  | some node => discard (dispatchNode job node (dependenciesForJob job))

def failNode (job : JobView) (node : NodeExecutionView)
  (jobID nodeExecutionID : Uuid) (errorMessage : String) : Op Unit := do
  EngineStore.markGoNodeFailed jobID nodeExecutionID errorMessage
  EngineStore.skipGoDownstreamNodes jobID (downstreamNodeIDs node.nodeID (dependenciesForJob job))
  let job ← EngineStore.getJobDetail jobID
  discard (maybeFinalizeJob job)

def onNodeFailed (jobID nodeExecutionID : Uuid) (errorMessage : String) : Op Unit := do
  let job ← EngineStore.getJobDetail jobID
  if ignoresEvents job then pure ()
  else
    match findNodeByExecutionID job.nodes nodeExecutionID with
    | none => pure ()
    | some node =>
      if node.status.isTerminal then pure ()
      else if node.retryCount < 1 then retryNode jobID nodeExecutionID
      else failNode job node jobID nodeExecutionID errorMessage

inductive Event where
  | nodeCompleted (jobID nodeExecutionID outputArtifactID : Uuid)
  | nodeFailed (jobID nodeExecutionID : Uuid) (error : String)
deriving DecidableEq

def Event.jobID : Event → Uuid
  | .nodeCompleted jobID _ _ => jobID
  | .nodeFailed jobID _ _ => jobID

def Event.nodeExecutionID : Event → Uuid
  | .nodeCompleted _ nodeExecutionID _ => nodeExecutionID
  | .nodeFailed _ nodeExecutionID _ => nodeExecutionID

/-- `EventListener.handle`; the message is acknowledged when it returns no
error. -/
def handle : Event → Op Unit
  | .nodeCompleted jobID nodeExecutionID outputArtifactID =>
    onNodeCompleted jobID nodeExecutionID outputArtifactID
  | .nodeFailed jobID nodeExecutionID error =>
    onNodeFailed jobID nodeExecutionID
      (if GoText.trimSpace error.toList = [] then "Unknown error" else error)

def recoverEach (staleBefore : Nat) : List JobView → Op Unit
  | [] => pure ()
  | job :: rest =>
    if job.orchestratorOwner ≠ .go then recoverEach staleBefore rest
    else do
      (EngineStore.resetStaleGoNodes job.id staleBefore).withContext
        ("reset stale Go nodes for job " ++ toString job.id ++ ": ")
      (startJob job.id).withContext ("start recovered Go job " ++ toString job.id ++ ": ")
      recoverEach staleBefore rest

def runOnce (now staleNodeAge : Nat) : Op Unit := do
  let jobs ← EngineStore.listRecoverableGoJobs
  recoverEach (now - staleNodeAge) jobs

end VideoProcess.Go
